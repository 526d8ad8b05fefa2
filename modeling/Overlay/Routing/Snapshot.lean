import Overlay.Routing.PathCache

namespace Overlay.Routing

open Fabric

structure Snapshot where
  generation : UInt64
  topology : Topology
  /-- Where the store keeps its path cache. Generations come round again, slots do not. -/
  slot : Nat

/-- Whoever holds a snapshot shares its path cache with all other holders, also after a newer one
has been installed. -/
structure SnapshotStore where
  installed : UInt64 := 0
  current? : Option Snapshot := none
  caches : List PathCache := []

namespace SnapshotStore

def install (t : Topology) (s : SnapshotStore) : Snapshot × SnapshotStore :=
  let snapshot := ⟨s.installed + 1, t, s.caches.length⟩
  (snapshot, ⟨s.installed + 1, some snapshot, s.caches ++ [({} : PathCache)]⟩)

@[simp] theorem current?_install (t : Topology) (s : SnapshotStore) :
    (s.install t).2.current? = some (s.install t).1 := rfl

@[simp] theorem slot_install (t : Topology) (s : SnapshotStore) :
    (s.install t).1.slot = s.caches.length := rfl

def cache (s : SnapshotStore) (slot : Nat) : PathCache := s.caches[slot]?.getD {}

def setCache (s : SnapshotStore) (slot : Nat) (c : PathCache) : SnapshotStore :=
  { s with caches := s.caches.set slot c }

def query (snapshot : Snapshot) (q : StateM PathCache α) : StateM SnapshotStore α := fun s =>
  let (a, c) := q.run (s.cache snapshot.slot)
  (a, s.setCache snapshot.slot c)

def route (snapshot : Snapshot) (entry exit : Endpoint) :
    StateM SnapshotStore (Except RouteError Route) :=
  query snapshot (PathCache.route snapshot.topology entry exit).run

end SnapshotStore
end Overlay.Routing
