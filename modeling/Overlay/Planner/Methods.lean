import Overlay.JsonRpc.Dispatch
import Overlay.Planner.Provision
import Overlay.Planner.RoutePlan

namespace Overlay.Planner

open JsonRpc Tenant

def completion (c : Json.Codec α) : Except ErrorObject α → Completion
  | .ok a => .result (c.encode a)
  | .error e => .failure e

def readParams (c : Json.Codec α) (params : Json) : Except ErrorObject α :=
  (c.decode params).mapError fun e => .invalidParams s!"Invalid params: {e.message}"

/-- The type that a network request names, if it is a text in its place. -/
def typeOf? (params : Json) : Option String :=
  ((params.member? "network").bind (·.member? "type")).bind Json.text?

def orderOf (params : Json) : Except ErrorObject Order := do
  if let some type := typeOf? params then
    discard ((modeOf type).mapError ProvisioningError.toErrorObject)
  readParams Order.codec params

def run (report : ProvisioningError → ErrorObject) (w : Workflow σ α) :
    StateM (Session σ) (Except ErrorObject α) := do
  return (← w.run).mapError report

def createNetworkMethod (k : Controller σ) : Handler (Session σ) := fun _ params =>
  match orderOf params with
  | .error e => return .failure e
  | .ok order => do
    let summary ← run ProvisioningError.toErrorObject (createNetwork k order)
    return completion Summary.codec summary

/-- A route that does not exist is the caller's mistake. -/
def routeReport : ProvisioningError → ErrorObject
  | .route _ (.noRoute src dst cause) =>
    .invalidParams (Routing.RouteError.noRoute src dst cause).message
  | e => e.toErrorObject

def getRouteMethod (k : Controller σ) : Handler (Session σ) := fun _ params =>
  match readParams RouteRequest.codec params with
  | .error e => return .failure e
  | .ok request => do
    return completion RoutePlan.codec (← run routeReport (planRoute k request))

def refreshTopologyMethod (k : Controller σ) : Handler (Session σ) := fun _ _ => do
  let snapshot ← run ProvisioningError.toErrorObject (refreshTopology k)
  return completion SnapshotReport.codec (snapshot.map .ofSnapshot)

def methods (k : Controller σ) : Methods (Session σ) :=
  (({} : Methods (Session σ)).register "createNetwork" (createNetworkMethod k)
    |>.register "getRoute" (getRouteMethod k)
    |>.register "refreshTopology" (refreshTopologyMethod k))

end Overlay.Planner
