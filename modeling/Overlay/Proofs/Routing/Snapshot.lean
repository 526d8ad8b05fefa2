import Overlay.Proofs.Routing.Cache
import Overlay.Routing.Snapshot

namespace Overlay.Routing

open Fabric

theorem ofNat_succ (n : Nat) : UInt64.ofNat (n + 1) = UInt64.ofNat n + 1 := UInt64.ofNat_add n 1

namespace SnapshotStore

/-- The stores that come about by use, with the snapshots that they have handed out. -/
inductive HandedOut : List Snapshot → SnapshotStore → Prop
  | start : HandedOut [] {}
  | install (t : Topology) : HandedOut held s → HandedOut ((s.install t).1 :: held) (s.install t).2
  | query (q : Query) : HandedOut held s → snapshot ∈ held →
    HandedOut held (SnapshotStore.query snapshot (q.run snapshot.topology) s).2

section

variable {s : SnapshotStore} {slot slot' : Nat} {c : PathCache}

theorem cache_of_le (h : s.caches.length ≤ slot) : s.cache slot = {} := by
  rw [cache, List.getElem?_eq_none h]
  rfl

theorem cache_setCache (h : slot < s.caches.length) : (s.setCache slot c).cache slot = c := by
  rw [cache, setCache, List.getElem?_set_self h]
  rfl

theorem cache_setCache_of_ne (h : slot' ≠ slot) :
    (s.setCache slot c).cache slot' = s.cache slot' := by
  rw [cache, setCache, List.getElem?_set_ne h.symm]
  rfl

@[simp] theorem length_setCache : (s.setCache slot c).caches.length = s.caches.length :=
  List.length_set

@[simp] theorem length_install (t : Topology) :
    (s.install t).2.caches.length = s.caches.length + 1 :=
  List.length_append

@[simp] theorem cache_install (t : Topology) (s : SnapshotStore) (slot : Nat) :
    (s.install t).2.cache slot = s.cache slot := by
  obtain hlt | hle := Nat.lt_or_ge slot s.caches.length
  · rw [cache, cache, install, List.getElem?_append_left hlt]
  · rw [cache_of_le hle, cache, install, List.getElem?_append_right hle]
    cases slot - s.caches.length <;> rfl

end

/-- What use makes of a store and the snapshots that it has handed out. -/
structure Consistent (held : List Snapshot) (s : SnapshotStore) : Prop where
  slot_lt : ∀ a ∈ held, a.slot < s.caches.length
  distinct : ∀ a ∈ held, ∀ b ∈ held, a.slot = b.slot → a = b
  sound : ∀ a ∈ held, PathCache.Sound a.topology (s.cache a.slot)

namespace Consistent

variable {held : List Snapshot} {s : SnapshotStore}

theorem start : Consistent [] {} where
  slot_lt := nofun
  distinct := nofun
  sound := nofun

theorem install (h : Consistent held s) (t : Topology) :
    Consistent ((s.install t).1 :: held) (s.install t).2 := by
  have hnew : ∀ a ∈ held, a.slot ≠ s.caches.length := fun a ha => Nat.ne_of_lt (h.slot_lt a ha)
  constructor
  case slot_lt =>
    intro a ha
    rw [length_install]
    cases ha with
    | head => exact Nat.lt_succ_self _
    | tail _ ha => exact Nat.lt_succ_of_lt (h.slot_lt a ha)
  case distinct =>
    intro a ha b hb heq
    cases ha with
    | head =>
      cases hb with
      | head => rfl
      | tail _ hb => exact absurd heq.symm (hnew b hb)
    | tail _ ha =>
      cases hb with
      | head => exact absurd heq (hnew a ha)
      | tail _ hb => exact h.distinct a ha b hb heq
  case sound =>
    intro a ha
    rw [cache_install]
    cases ha with
    | head =>
      rw [slot_install, cache_of_le (Nat.le_refl _)]
      exact .empty _
    | tail _ ha => exact h.sound a ha

theorem query (h : Consistent held s) {snapshot : Snapshot} (hmem : snapshot ∈ held) (q : Query) :
    Consistent held (SnapshotStore.query snapshot (q.run snapshot.topology) s).2 := by
  change Consistent held (s.setCache snapshot.slot (q.run snapshot.topology _).2)
  constructor
  case slot_lt =>
    intro a ha
    rw [length_setCache]
    exact h.slot_lt a ha
  case distinct => exact h.distinct
  case sound =>
    intro a ha
    by_cases heq : a.slot = snapshot.slot
    · obtain rfl := h.distinct a ha snapshot hmem heq
      rw [cache_setCache (h.slot_lt a ha)]
      obtain ⟨c, hrun, hc⟩ := (h.sound a ha).run q
      rw [hrun]
      exact hc
    · rw [cache_setCache_of_ne heq]
      exact h.sound a ha

end Consistent

namespace HandedOut

variable {held : List Snapshot} {s : SnapshotStore}

theorem consistent (h : HandedOut held s) : Consistent held s := by
  induction h with
  | start => exact .start
  | install t _ ih => exact ih.install t
  | query q _ hmem ih => exact ih.query hmem q

theorem current_mem (h : HandedOut held s) {snapshot : Snapshot}
    (hcurrent : s.current? = some snapshot) : snapshot ∈ held := by
  induction h with
  | start => cases hcurrent
  | install t _ _ =>
    cases hcurrent
    exact .head _
  | query q _ _ ih => exact ih hcurrent

theorem installs (h : HandedOut held s) (ts : List Topology) :
    ∃ more, HandedOut (more ++ held) (ts.foldl (fun s t => (s.install t).2) s) := by
  induction ts generalizing held s with
  | nil => exact ⟨[], h⟩
  | cons t ts ih =>
    obtain ⟨more, hmore⟩ := ih (h.install t)
    exact ⟨more ++ [(s.install t).1], by simpa using hmore⟩

theorem route_eq (h : HandedOut held s) {snapshot : Snapshot} (hmem : snapshot ∈ held)
    (entry exit : Endpoint) :
    (SnapshotStore.route snapshot entry exit s).1 = snapshot.topology.route entry exit := by
  obtain ⟨c, hrun, -⟩ := (h.consistent.sound snapshot hmem).run (.route entry exit)
  exact congrArg Prod.fst hrun

end HandedOut
end SnapshotStore
end Overlay.Routing
