import Overlay.Routing.Route

namespace Overlay.Routing

open Fabric

structure PathCache where
  trees : List SearchTree := []
  searches : Nat := 0
  deriving DecidableEq, Repr

abbrev PathQuery (ε : Type) := ExceptT ε (StateM PathCache)

namespace PathCache

def sources (c : PathCache) : Nat := c.trees.length

def find? (c : PathCache) (src : Dpid) : Option SearchTree := c.trees.find? (·.root = src)

def add (c : PathCache) (tree : SearchTree) : PathCache := ⟨c.trees ++ [tree], c.searches + 1⟩

def tree (t : Topology) (src : Dpid) : PathQuery TopologyError SearchTree := do
  unless t.contains src do throw (.unknownSwitch src)
  match (← get).find? src with
  | some tree => return tree
  | none =>
    let tree := SearchTree.grow t src
    modify (·.add tree)
    return tree

def path (t : Topology) (src dst : Dpid) : PathQuery TopologyError (List Dpid) := do
  unless t.contains dst do throw (.unknownSwitch dst)
  let tree ← tree t src
  match tree.pathTo? dst with
  | some way => return way
  | none => throw (.disconnected src dst)

def route (t : Topology) (entry exit : Endpoint) : PathQuery RouteError Route :=
  if entry.dpid = exit.dpid then return [⟨entry.port, entry.dpid, exit.port⟩]
  else do
    match ← (path t entry.dpid exit.dpid).run with
    | .error cause => throw (.noRoute entry.dpid exit.dpid cause)
    | .ok way => liftExcept (Route.along t entry.port exit.port way)

end PathCache
end Overlay.Routing
