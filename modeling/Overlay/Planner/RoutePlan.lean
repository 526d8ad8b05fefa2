import Overlay.Planner.Refresh

namespace Overlay.Planner

open Controller Fabric Json Routing

structure RouteRequest where
  dpidIn : Dpid
  portIn : UInt16
  dpidOut : Dpid
  portOut : UInt16
  deriving DecidableEq, Repr

namespace RouteRequest

def codec : Codec RouteRequest :=
  (RouteRequest.mk <$> .field "dpidIn" dpidIn Dpid.codec <*> .field "portIn" portIn .port
    <*> .field "dpidOut" dpidOut Dpid.codec <*> .field "portOut" portOut .port :
    Layout RouteRequest RouteRequest).codec "GetRouteParams"

def entry (r : RouteRequest) : Endpoint := ⟨r.dpidIn, r.portIn⟩

def exit (r : RouteRequest) : Endpoint := ⟨r.dpidOut, r.portOut⟩

end RouteRequest

structure RoutePlan where
  snapshot : UInt64
  route : Route
  deriving DecidableEq, Repr

def RoutePlan.codec : Codec RoutePlan :=
  (RoutePlan.mk <$> .field "snapshot" snapshot .word
    <*> .field "route" RoutePlan.route Route.codec : Layout RoutePlan RoutePlan).codec
    "GetRouteResponse"

def currentSnapshot (k : Controller σ) : Workflow σ Snapshot := do
  match (← get).store.current? with
  | some snapshot => return snapshot
  | none => refreshTopology k

def planRoute (k : Controller σ) (r : RouteRequest) : Workflow σ RoutePlan := do
  let snapshot ← currentSnapshot k
  let route ← Workflow.route none snapshot r.entry r.exit
  return ⟨snapshot.generation, route⟩

end Overlay.Planner
