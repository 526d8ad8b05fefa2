import Overlay.Routing.SearchTree

namespace Overlay.Routing

open Fabric

structure Hop where
  inPort : UInt16
  dpid : Dpid
  outPort : UInt16
  deriving DecidableEq, Repr

abbrev Route := List Hop

def Hop.codec : Json.Codec Hop :=
  (Hop.mk <$> .field "inPort" Hop.inPort .port <*> .field "dpid" Hop.dpid Dpid.codec
    <*> .field "outPort" Hop.outPort .port : Json.Layout Hop Hop).codec "Hop"

def Route.codec : Json.Codec Route := .list Hop.codec

inductive RouteError
  | noRoute (src dst : Dpid) (cause : TopologyError)
  | noLink (src dst : Dpid)
  deriving DecidableEq, Repr

def RouteError.message : RouteError → String
  | .noRoute src dst cause =>
    s!"no route found from switch {src} to switch {dst}: {cause.message}"
  | .noLink src dst => s!"no link from switch {src} towards switch {dst} in the topology snapshot"

def RouteError.cause? : RouteError → Option TopologyError
  | .noRoute _ _ cause => some cause
  | .noLink .. => none

def Route.along (t : Topology) (inPort : UInt16) (outPort : UInt16) :
    List Dpid → Except RouteError Route
  | [] => .ok []
  | [d] => .ok [⟨inPort, d, outPort⟩]
  | d :: e :: ds =>
    match t.linkTowards? d e with
    | none => .error (.noLink d e)
    | some l => do return ⟨inPort, d, l.src.port⟩ :: (← along t l.dst.port outPort (e :: ds))

end Overlay.Routing

namespace Overlay.Fabric.Topology

open Routing

def route (t : Topology) (entry exit : Endpoint) : Except RouteError Route :=
  if entry.dpid = exit.dpid then .ok [⟨entry.port, entry.dpid, exit.port⟩]
  else
    match t.path entry.dpid exit.dpid with
    | .error cause => .error (.noRoute entry.dpid exit.dpid cause)
    | .ok way => Route.along t entry.port exit.port way

end Overlay.Fabric.Topology
