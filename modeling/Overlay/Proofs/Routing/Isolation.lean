import Overlay.Proofs.Routing.Snapshot
import Overlay.Proofs.Routing.Tally
/-!
# Snapshots apart from each other

Users share a store: they install topologies, take hold of the current snapshot and put queries to
the snapshots that they hold. Whatever they do in whatever order, a snapshot behaves as a path cache
of its own that serves the queries put to this snapshot and no others.
-/
namespace Overlay.Routing

open Fabric

namespace SnapshotStore

inductive Action
  | install (t : Topology)
  | hold
  | ask (holder : Option Nat) (q : Query)

inductive Event
  | installed (snapshot : Snapshot)
  | held (current? : Option Snapshot)
  | asked (snapshot : Snapshot) (q : Query) (reply : q.Reply) (searches sources : Nat)
  | idle

structure Shared where
  store : SnapshotStore := {}
  held : List Snapshot := []

namespace Shared

def holding? (w : Shared) : Option Nat → Option Snapshot
  | none => w.store.current?
  | some holder => w.held[holder]?

def act (w : Shared) : Action → Event × Shared
  | .install t =>
    let (snapshot, store) := w.store.install t
    (.installed snapshot, ⟨store, w.held ++ [snapshot]⟩)
  | .hold => (.held w.store.current?, { w with held := w.held ++ w.store.current?.toList })
  | .ask holder q =>
    match w.holding? holder with
    | none => (.idle, w)
    | some snapshot =>
      let (reply, store) := query snapshot (q.run snapshot.topology) w.store
      let c := store.cache snapshot.slot
      (.asked snapshot q reply c.searches c.sources, { w with store })

def run (w : Shared) : List Action → List Event × Shared
  | [] => ([], w)
  | a :: actions =>
    let (e, w) := w.act a
    let (events, w) := w.run actions
    (e :: events, w)

end Shared

def Event.installed? : Event → Option Snapshot
  | installed snapshot => some snapshot
  | _ => none

def Event.taken : Event → List Snapshot
  | installed snapshot => [snapshot]
  | held current? => current?.toList
  | _ => []

def Event.query? (slot : Nat) : Event → Option Query
  | asked snapshot q .. => if snapshot.slot = slot then some q else none
  | _ => none

def installs (log : List Event) : List Snapshot := log.filterMap Event.installed?

def holders (log : List Event) : List Snapshot := log.flatMap Event.taken

def addressed (slot : Nat) (log : List Event) : List Query :=
  log.filterMap (Event.query? slot)

def alone (snapshot : Snapshot) (log : List Event) : PathCache :=
  .after snapshot.topology (addressed snapshot.slot log)

/-- What should come of an action after some events, if snapshots have nothing to do with each
other. -/
def expected (log : List Event) : Action → Event
  | .install t =>
    let n := (installs log).length
    .installed ⟨.ofNat (n + 1), t, n⟩
  | .hold => .held (installs log).getLast?
  | .ask holder q =>
    let snapshot? := match holder with
      | none => (installs log).getLast?
      | some holder => (holders log)[holder]?
    match snapshot? with
    | none => .idle
    | some snapshot =>
      let (reply, c) := q.run snapshot.topology (alone snapshot log)
      .asked snapshot q reply c.searches c.sources

def history (actions : List Action) : List Event :=
  actions.foldl (fun log a => log ++ [expected log a]) []

section

variable {log : List Event} {e : Event} {snapshot : Snapshot}

@[simp] theorem installs_append (log more : List Event) :
    installs (log ++ more) = installs log ++ installs more := by
  simp [installs]

@[simp] theorem holders_append (log more : List Event) :
    holders (log ++ more) = holders log ++ holders more := by
  simp [holders]

theorem addressed_concat (g : Nat) (log : List Event) (e : Event) :
    addressed g (log ++ [e]) = addressed g log ++ (e.query? g).toList := by
  cases h : e.query? g <;> simp [addressed, h]

theorem alone_of_query?_none (h : e.query? snapshot.slot = none) :
    alone snapshot (log ++ [e]) = alone snapshot log := by
  simp [alone, addressed_concat, h]

theorem alone_of_query?_some {q : Query} (h : e.query? snapshot.slot = some q) :
    alone snapshot (log ++ [e]) = (q.run snapshot.topology (alone snapshot log)).2 := by
  rw [alone, addressed_concat, h]
  exact PathCache.after_concat ..

end

/-- What a log of events says about the store and its holders. -/
structure Explains (log : List Event) (w : Shared) : Prop where
  consistent : Consistent (installs log) w.store
  installed : w.store.installed = .ofNat (installs log).length
  slots : w.store.caches.length = (installs log).length
  numbered : (installs log).map (fun a => (a.generation, a.slot)) =
    (List.range (installs log).length).map fun n => (.ofNat (n + 1), n)
  current : w.store.current? = (installs log).getLast?
  held : w.held = holders log
  taken : ∀ snapshot ∈ w.held, snapshot ∈ installs log
  caches : ∀ snapshot ∈ installs log, w.store.cache snapshot.slot = alone snapshot log
  unasked : ∀ slot, w.store.caches.length ≤ slot → addressed slot log = []

theorem Consistent.mono {held held' : List Snapshot} {s : SnapshotStore} (h : Consistent held s)
    (hsub : ∀ a ∈ held', a ∈ held) : Consistent held' s where
  slot_lt a ha := h.slot_lt a (hsub a ha)
  distinct a ha b hb := h.distinct a (hsub a ha) b (hsub b hb)
  sound a ha := h.sound a (hsub a ha)

namespace Explains

variable {log : List Event} {w : Shared}

theorem start : Explains [] {} where
  consistent := .start
  installed := rfl
  slots := rfl
  numbered := rfl
  current := rfl
  held := rfl
  taken := nofun
  caches := nofun
  unasked _ _ := rfl

theorem install (h : Explains log w) (t : Topology) :
    (w.act (.install t)).1 = expected log (.install t) ∧
      Explains (log ++ [(w.act (.install t)).1]) (w.act (.install t)).2 := by
  have hgeneration : w.store.installed + 1 = .ofNat ((installs log).length + 1) := by
    rw [h.installed, ofNat_succ]
  have hnew : (w.store.install t).1 =
      ⟨.ofNat ((installs log).length + 1), t, (installs log).length⟩ := by
    rw [← hgeneration, ← h.slots]
    rfl
  have hevent : (w.act (.install t)).1 = .installed (w.store.install t).1 := rfl
  have hstate : (w.act (.install t)).2 =
      ⟨(w.store.install t).2, w.held ++ [(w.store.install t).1]⟩ := rfl
  refine ⟨by rw [hevent, hnew]; rfl, ?_⟩
  rw [hevent, hstate]
  have hinstalls : installs (log ++ [.installed (w.store.install t).1]) =
      installs log ++ [(w.store.install t).1] := installs_append ..
  constructor
  case consistent =>
    apply (h.consistent.install t).mono
    simp [hinstalls, or_comm]
  case installed =>
    rw [hinstalls, List.length_append]
    exact hgeneration
  case slots => rw [hinstalls, length_install, List.length_append, h.slots, List.length_singleton]
  case numbered =>
    rw [hinstalls, List.map_append, h.numbered, hnew, List.length_append, List.length_singleton,
      List.range_succ, List.map_append]
    rfl
  case current => simp [hinstalls]
  case held =>
    rw [holders_append, ← h.held]
    rfl
  case taken =>
    intro a ha
    rw [hinstalls]
    cases List.mem_append.mp ha with
    | inl ha => exact List.mem_append_left _ (h.taken a ha)
    | inr ha => exact List.mem_append_right _ ha
  case caches =>
    intro a ha
    rw [hinstalls] at ha
    rw [alone_of_query?_none rfl, cache_install]
    cases List.mem_append.mp ha with
    | inl ha => exact h.caches a ha
    | inr ha =>
      -- nobody can have asked the new snapshot
      rw [List.mem_singleton.mp ha, alone, slot_install, h.unasked _ (Nat.le_refl _)]
      exact cache_of_le (Nat.le_refl _)
  case unasked =>
    intro slot hslot
    rw [length_install] at hslot
    rw [addressed_concat, h.unasked slot (Nat.le_of_succ_le hslot)]
    rfl

theorem quiet (h : Explains log w) {e : Event} (hinstalled : e.installed? = none)
    (hquery : ∀ slot, e.query? slot = none)
    (htaken : ∀ snapshot ∈ e.taken, snapshot ∈ installs log) :
    Explains (log ++ [e]) { w with held := w.held ++ e.taken } := by
  have hinstalls : installs (log ++ [e]) = installs log := by
    simp [installs, hinstalled]
  constructor
  case consistent => rw [hinstalls]; exact h.consistent
  case installed => rw [hinstalls]; exact h.installed
  case slots => rw [hinstalls]; exact h.slots
  case numbered => rw [hinstalls]; exact h.numbered
  case current => rw [hinstalls]; exact h.current
  case held => simp [holders, h.held]
  case taken =>
    intro a ha
    rw [hinstalls]
    cases List.mem_append.mp ha with
    | inl ha => exact h.taken a ha
    | inr ha => exact htaken a ha
  case caches =>
    intro a ha
    rw [alone_of_query?_none (hquery _)]
    rw [hinstalls] at ha
    exact h.caches a ha
  case unasked =>
    intro slot hslot
    rw [addressed_concat, h.unasked slot hslot, hquery]
    rfl

theorem hold (h : Explains log w) : (w.act .hold).1 = expected log .hold ∧
    Explains (log ++ [(w.act .hold).1]) (w.act .hold).2 := by
  refine ⟨congrArg Event.held h.current, h.quiet rfl (fun _ => rfl) ?_⟩
  intro a ha
  change a ∈ w.store.current?.toList at ha
  rw [h.current, Option.mem_toList] at ha
  exact List.mem_of_getLast? ha

theorem holding? (h : Explains log w) (holder : Option Nat) : w.holding? holder =
    match holder with
    | none => (installs log).getLast?
    | some holder => (holders log)[holder]? := by
  cases holder with
  | none => exact h.current
  | some holder => exact congrArg (·[holder]?) h.held

theorem mem_installs (h : Explains log w) {holder : Option Nat} {snapshot : Snapshot}
    (hholding : w.holding? holder = some snapshot) : snapshot ∈ installs log := by
  cases holder with
  | none => exact List.mem_of_getLast? (h.current.symm.trans hholding)
  | some holder => exact h.taken snapshot (List.mem_of_getElem? hholding)

theorem asked (h : Explains log w) {snapshot : Snapshot} (hmem : snapshot ∈ installs log)
    {e : Event} {q : Query} (hinstalled : e.installed? = none) (htaken : e.taken = [])
    (hquery : ∀ slot, e.query? slot = if snapshot.slot = slot then some q else none) :
    Explains (log ++ [e])
      { w with store := (query snapshot (q.run snapshot.topology) w.store).2 } := by
  have hinstalls : installs (log ++ [e]) = installs log := by
    simp [installs, hinstalled]
  have hstore : (query snapshot (q.run snapshot.topology) w.store).2 =
      w.store.setCache snapshot.slot
        (q.run snapshot.topology (w.store.cache snapshot.slot)).2 := rfl
  constructor
  case consistent => rw [hinstalls]; exact h.consistent.query hmem q
  case installed => rw [hinstalls]; exact h.installed
  case slots => rw [hinstalls, hstore, length_setCache, h.slots]
  case numbered => rw [hinstalls]; exact h.numbered
  case current => rw [hinstalls]; exact h.current
  case held => simp [holders, htaken, h.held]
  case taken => rw [hinstalls]; exact h.taken
  case caches =>
    intro a ha
    rw [hinstalls] at ha
    change (query snapshot (q.run snapshot.topology) w.store).2.cache a.slot = _
    rw [hstore]
    by_cases hsame : a.slot = snapshot.slot
    · obtain rfl := h.consistent.distinct a ha snapshot hmem hsame
      have hput : e.query? a.slot = some q := by rw [hquery, if_pos rfl]
      rw [cache_setCache (h.consistent.slot_lt a ha), alone_of_query?_some hput, h.caches a ha]
    · have hother : e.query? a.slot = none := by rw [hquery, if_neg (Ne.symm hsame)]
      rw [cache_setCache_of_ne hsame, alone_of_query?_none hother]
      exact h.caches a ha
  case unasked =>
    intro slot hslot
    rw [hstore, length_setCache] at hslot
    have hlt := h.consistent.slot_lt snapshot hmem
    rw [addressed_concat, h.unasked slot hslot, hquery, if_neg (by omega)]
    rfl

theorem ask (h : Explains log w) (holder : Option Nat) (q : Query) :
    (w.act (.ask holder q)).1 = expected log (.ask holder q) ∧
      Explains (log ++ [(w.act (.ask holder q)).1]) (w.act (.ask holder q)).2 := by
  simp only [Shared.act, expected, ← h.holding?]
  cases hholding : w.holding? holder with
  | none =>
    have hidle := h.quiet (e := .idle) rfl (fun _ => rfl) nofun
    exact ⟨rfl, by simpa [Event.taken] using hidle⟩
  | some snapshot =>
    have hmem := h.mem_installs hholding
    refine ⟨?_, h.asked hmem rfl rfl fun _ => rfl⟩
    change Event.asked snapshot q (q.run _ (w.store.cache _)).1
      ((w.store.setCache _ _).cache _).searches ((w.store.setCache _ _).cache _).sources = _
    rw [cache_setCache (h.consistent.slot_lt snapshot hmem), h.caches snapshot hmem]
    rfl

theorem act (h : Explains log w) (a : Action) :
    (w.act a).1 = expected log a ∧ Explains (log ++ [(w.act a).1]) (w.act a).2 := by
  cases a with
  | install t => exact h.install t
  | hold => exact h.hold
  | ask holder q => exact h.ask holder q

theorem run (h : Explains log w) (actions : List Action) :
    log ++ (w.run actions).1 = actions.foldl (fun log a => log ++ [expected log a]) log ∧
      Explains (log ++ (w.run actions).1) (w.run actions).2 := by
  induction actions generalizing log w with
  | nil => simpa [Shared.run] using h
  | cons a actions ih =>
    obtain ⟨hevent, hnext⟩ := h.act a
    have hsplit : log ++ (w.run (a :: actions)).1 =
        log ++ [(w.act a).1] ++ ((w.act a).2.run actions).1 := by
      rw [List.append_assoc]
      rfl
    rw [hsplit, List.foldl_cons, ← hevent]
    exact ih hnext

theorem slots_eq (h : Explains log w) :
    (installs log).map (·.slot) = List.range (installs log).length := by
  have hnumbered := congrArg (List.map Prod.snd) h.numbered
  simpa [Function.comp_def] using hnumbered

theorem generations_eq (h : Explains log w) (hfew : (installs log).length < UInt64.size) :
    (installs log).map (·.generation.toNat) = List.range' 1 (installs log).length := by
  have hnumbered := congrArg (List.map fun numbers => numbers.1.toNat) h.numbered
  rw [List.map_map, List.map_map] at hnumbered
  rw [List.range'_eq_map_range]
  refine hnumbered.trans (List.map_congr_left fun n hn => ?_)
  have hlt := List.mem_range.mp hn
  exact (UInt64.toNat_ofNat_of_lt' (by omega)).trans (Nat.add_comm n 1)

end Explains

/-- Sharing a store makes no difference: whatever its users do, each reply and each counter is that
of a path cache of its own, which serves the queries put to that snapshot. Snapshots are numbered
from one in the order of their installation, as far as the numbers go, and the last of them is the
current one. -/
theorem shared_as_alone (actions : List Action) :
    let log := (Shared.run {} actions).1
    let shared := (Shared.run {} actions).2
    log = history actions ∧
    ((installs log).length < UInt64.size →
      (installs log).map (·.generation.toNat) = List.range' 1 (installs log).length) ∧
    (installs log).map (·.slot) = List.range (installs log).length ∧
    shared.store.current? = (installs log).getLast? ∧
    ∀ snapshot ∈ shared.held, snapshot ∈ installs log ∧
      shared.store.cache snapshot.slot = alone snapshot log := by
  intro log shared
  obtain ⟨hhistory, hexplains⟩ := Explains.start.run actions
  refine ⟨hhistory, hexplains.generations_eq, hexplains.slots_eq, hexplains.current, ?_⟩
  intro snapshot hheld
  have hmem := hexplains.taken snapshot hheld
  exact ⟨hmem, hexplains.caches snapshot hmem⟩

theorem shared_as_alone_diamond :
    let actions := [.ask none (.tree ⟨1⟩), .install builtDiamond, .hold,
      .ask (some 1) (.path ⟨1⟩ ⟨4⟩), .install (.ofSwitches [⟨1⟩]), .ask (some 0) (.tree ⟨5⟩),
      .ask none (.tree ⟨1⟩)]
    let log := (Shared.run {} actions).1
    let shared := (Shared.run {} actions).2
    (installs log).length < UInt64.size ∧ (installs log).map (·.generation.toNat) = [1, 2] ∧
    (⟨1, builtDiamond, 0⟩ ∈ shared.held ∧
      shared.store.cache 0 = .after builtDiamond [.path ⟨1⟩ ⟨4⟩, .tree ⟨5⟩]) ∧
    ⟨2, .ofSwitches [⟨1⟩], 1⟩ ∈ shared.held ∧
      shared.store.cache 1 = .after (.ofSwitches [⟨1⟩]) [.tree ⟨1⟩] := by
  intro actions log shared
  obtain ⟨-, hgenerations, -, -, halone⟩ := shared_as_alone actions
  have hlength : (installs log).length = 2 := rfl
  have hfew : (installs log).length < UInt64.size := hlength ▸ by decide
  have hfirst : (⟨1, builtDiamond, 0⟩ : Snapshot) ∈ shared.held := .head _
  have hsecond : (⟨2, .ofSwitches [⟨1⟩], 1⟩ : Snapshot) ∈ shared.held := .tail _ (.tail _ (.head _))
  refine ⟨hfew, ?_, ⟨hfirst, (halone _ hfirst).2⟩, hsecond, (halone _ hsecond).2⟩
  have hnumbers := hgenerations hfew
  rwa [hlength] at hnumbers

end SnapshotStore
end Overlay.Routing
