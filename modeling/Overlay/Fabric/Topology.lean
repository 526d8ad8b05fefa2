import Overlay.Fabric.Order
/-!
# Topologies

A topology is a checked description: its switches in ascending order, and its links in ascending
order of their source ports, at most one from each port and each between declared switches. It is
built link by link, so a description is refused for its first link that does not fit the links
before it.
-/
namespace Overlay.Fabric

inductive Defect
  | undeclared (port : Endpoint)
  | forked (src first second : Endpoint)
  deriving DecidableEq, Repr

def Defect.message : Defect → String
  | .undeclared port => s!"link endpoint {port} references undeclared switch {port.dpid}"
  | .forked src first second =>
    s!"port {src} is the source of two links (to {first} and to {second})"

inductive TopologyError
  | malformed (defect : Defect)
  | unknownSwitch (switch : Dpid)
  | disconnected (src dst : Dpid)
  deriving DecidableEq, Repr

def TopologyError.message : TopologyError → String
  | .malformed defect => s!"malformed topology: {defect.message}"
  | .unknownSwitch switch => s!"switch {switch} is not part of the topology"
  | .disconnected src dst => s!"switch {dst} is not reachable from switch {src}"

structure Topology where
  switches : List Dpid
  links : List Link
  switches_ascending : switches.Pairwise (· < ·)
  links_ascending : links.Pairwise (·.src < ·.src)
  declared : ∀ l ∈ links, l.src.dpid ∈ switches ∧ l.dst.dpid ∈ switches

namespace Topology

def ofSwitches (ds : List Dpid) : Topology where
  switches := ascending id ds
  links := []
  switches_ascending := pairwise_ascending id ds
  links_ascending := .nil
  declared := nofun

/-- Adds a link; a link that is there already changes nothing. -/
def addLink (t : Topology) (l : Link) : Except TopologyError Topology :=
  if hsrc : l.src.dpid ∈ t.switches then
    if hdst : l.dst.dpid ∈ t.switches then
      match t.links.find? (·.src = l.src) with
      | some first =>
        if first.dst = l.dst then .ok t
        else .error (.malformed (.forked l.src first.dst l.dst))
      | none => .ok { t with
          links := insertAscending Link.src l t.links
          links_ascending := pairwise_insertAscending l t.links_ascending
          declared := fun k hk => (mem_insertAscending hk).elim
            (fun h => h ▸ ⟨hsrc, hdst⟩) (t.declared k) }
    else .error (.malformed (.undeclared l.dst))
  else .error (.malformed (.undeclared l.src))

def build (d : Description) : Except TopologyError Topology :=
  d.links.foldlM addLink (ofSwitches d.switches)

def contains (t : Topology) (d : Dpid) : Bool := d ∈ t.switches

def neighbours (t : Topology) (d : Dpid) : List Dpid :=
  ascending id ((t.links.filter (·.src.dpid = d)).map (·.dst.dpid))

def linkFrom? (t : Topology) (port : Endpoint) : Option Link :=
  t.links.find? (·.src = port)

/-- The link from `src` to `dst` with the lowest source port. -/
def linkTowards? (t : Topology) (src dst : Dpid) : Option Link :=
  t.links.find? fun l => l.src.dpid = src ∧ l.dst.dpid = dst

end Topology
end Overlay.Fabric
