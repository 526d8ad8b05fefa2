import Overlay.Fabric.Topology
/-!
# Breadth-first search

`explore` visits switches in the order in which they were found and finds the neighbours of each
in ascending order. The first switch to find another becomes its parent. A switch leaves the list
of unseen switches when it is found, so each step shortens the unseen and the queued switches
together by one.

A tree lists its discoveries in order. A parent is found before its children, so the walk back
from a switch only looks at earlier discoveries.
-/
namespace Overlay.Routing

open Fabric

structure Discovery where
  switch : Dpid
  parent : Dpid
  deriving DecidableEq, Repr

def fresh (near unseen : List Dpid) : List Dpid := unseen.filter (· ∈ near)

def remote (near unseen : List Dpid) : List Dpid := unseen.filter (· ∉ near)

theorem length_fresh_add_length_remote (near unseen : List Dpid) :
    (fresh near unseen).length + (remote near unseen).length = unseen.length := by
  have h := List.length_eq_countP_add_countP (· ∈ near) (l := unseen)
  simpa [fresh, remote, List.countP_eq_length_filter] using h.symm

/-- The discoveries of a search with the given unseen and queued switches. -/
def explore (next : Dpid → List Dpid) (unseen : List Dpid) : List Dpid → List Discovery
  | [] => []
  | current :: queue =>
    let near := next current
    (fresh near unseen).map (⟨·, current⟩) ++
      explore next (remote near unseen) (queue ++ fresh near unseen)
termination_by queue => unseen.length + queue.length
decreasing_by
  have h := length_fresh_add_length_remote (next current) unseen
  simp only [List.length_append, List.length_cons]
  omega

structure SearchTree where
  root : Dpid
  found : List Discovery
  deriving DecidableEq, Repr

namespace SearchTree

def grow (t : Topology) (root : Dpid) : SearchTree :=
  ⟨root, explore t.neighbours (t.switches.filter (· ≠ root)) [root]⟩

def reaches (tree : SearchTree) (d : Dpid) : Bool :=
  d = tree.root || tree.found.any (·.switch = d)

def reachableCount (tree : SearchTree) : Nat := tree.found.length + 1

def trail? (root : Dpid) : List Discovery → Dpid → Option (List Dpid)
  | [], d => if d = root then some [d] else none
  | f :: earlier, d =>
    if f.switch = d then (trail? root earlier f.parent).map (· ++ [d])
    else trail? root earlier d

def pathTo? (tree : SearchTree) (d : Dpid) : Option (List Dpid) :=
  trail? tree.root tree.found.reverse d

end SearchTree

end Overlay.Routing

namespace Overlay.Fabric.Topology

open Routing

def tree (t : Topology) (src : Dpid) : Except TopologyError SearchTree :=
  if t.contains src then .ok (.grow t src) else .error (.unknownSwitch src)

def path (t : Topology) (src dst : Dpid) : Except TopologyError (List Dpid) := do
  unless t.contains dst do throw (.unknownSwitch dst)
  let tree ← t.tree src
  match tree.pathTo? dst with
  | some way => return way
  | none => throw (.disconnected src dst)

end Overlay.Fabric.Topology
