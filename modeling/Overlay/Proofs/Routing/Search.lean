import Overlay.Proofs.Fabric.Build
import Overlay.Proofs.Routing.Walk
import Overlay.Routing.SearchTree
/-!
# What a search finds

A search finds the switches that can be reached, and its way to each is the least walk. What makes
it so is the order of the queue: at every step the trails of the queued switches stand in the order
of walks, and each of them precedes whatever a trail of the queue can still be extended to.
-/
namespace Overlay.Routing

open Fabric SearchTree

theorem mem_fresh {near unseen : List Dpid} {d : Dpid} :
    d ∈ fresh near unseen ↔ d ∈ unseen ∧ d ∈ near := by
  simp [fresh]

theorem mem_remote {near unseen : List Dpid} {d : Dpid} :
    d ∈ remote near unseen ↔ d ∈ unseen ∧ d ∉ near := by
  simp [remote]

theorem SearchTree.trail?_append {root parent d : Dpid} {new : List Dpid} {found : List Discovery}
    (hparent : parent ∉ new) :
    trail? root (new.map (⟨·, parent⟩) ++ found) d =
      if d ∈ new then (trail? root found parent).map (· ++ [d]) else trail? root found d := by
  induction new generalizing d with
  | nil => simp
  | cons c new ih =>
    rw [List.mem_cons, not_or] at hparent
    simp only [List.map_cons, List.cons_append, trail?, ih hparent.2, if_neg hparent.2,
      List.mem_cons]
    by_cases hcd : c = d
    · simp [hcd]
    · simp [hcd, Ne.symm hcd]

abbrev Adjacent (next : Dpid → List Dpid) (a b : Dpid) : Prop := b ∈ next a

def Seen (root : Dpid) (found : List Discovery) (d : Dpid) : Prop :=
  ∃ way, trail? root found d = some way

/-- What holds between two steps of a search, the latest discovery standing first. -/
structure Frontier (next : Dpid → List Dpid) (root : Dpid) (found : List Discovery)
    (unseen queue : List Dpid) : Prop where
  least : ∀ {d way}, trail? root found d = some way → LeastWalk (Adjacent next) root d way
  start : Seen root found root
  queued : ∀ d ∈ queue, Seen root found d
  hidden : ∀ d ∈ unseen, ¬Seen root found d
  closed : ∀ {d e}, Seen root found d → d ∉ queue → e ∈ next d → Seen root found e
  scope : ∀ {d e}, e ∈ next d → e ∈ unseen ∨ Seen root found e
  ascending : unseen.Pairwise (· < ·)
  ordered : queue.Pairwise fun d e => ∀ {v w}, trail? root found d = some v →
    trail? root found e = some w → Precedes v w
  ahead : ∀ {d e v w}, d ∈ queue → e ∈ queue → trail? root found d = some v →
    trail? root found e = some w → ∀ c, Precedes v (w ++ [c])

def visit (next : Dpid → List Dpid) (unseen : List Dpid) (current : Dpid)
    (found : List Discovery) : List Discovery :=
  (fresh (next current) unseen).reverse.map (⟨·, current⟩) ++ found

namespace Frontier

variable {next : Dpid → List Dpid} {root : Dpid} {found : List Discovery} {unseen : List Dpid}

theorem init {root : Dpid} (hascending : unseen.Pairwise (· < ·)) (hroot : root ∉ unseen)
    (hscope : ∀ {d e}, e ∈ next d → e ∈ unseen ∨ e = root) :
    Frontier next root [] unseen [root] := by
  have htrail : ∀ {d way}, trail? root [] d = some way → d = root ∧ way = [root] := by
    intro d way h
    by_cases hd : d = root
    · subst hd
      exact ⟨rfl, by simpa [trail?, eq_comm] using h⟩
    · simp [trail?, hd] at h
  have hstart : Seen root [] root := ⟨[root], by simp [trail?]⟩
  constructor
  case least =>
    intro d way h
    obtain ⟨rfl, rfl⟩ := htrail h
    exact .start
  case start => exact hstart
  case queued =>
    intro d hd
    rw [List.mem_singleton] at hd
    exact hd ▸ hstart
  case hidden =>
    rintro d hd ⟨way, hway⟩
    exact hroot ((htrail hway).1 ▸ hd)
  case closed =>
    rintro d e ⟨way, hway⟩ hqueue _
    exact absurd (List.mem_singleton.mpr (htrail hway).1) hqueue
  case scope =>
    intro d e he
    cases hscope he with
    | inl hunseen => exact .inl hunseen
    | inr heq => exact .inr (heq ▸ hstart)
  case ascending => exact hascending
  case ordered => exact List.pairwise_singleton _ _
  case ahead =>
    intro d e v w _ _ hv hw c
    obtain ⟨-, rfl⟩ := htrail hv
    obtain ⟨-, rfl⟩ := htrail hw
    exact Precedes.concat_self _ c

section

variable {current : Dpid} {queue w : List Dpid}

/-- No walk to a switch that is still to be visited comes before the trail of the next one to
visit. -/
theorem head_precedes (h : Frontier next root found unseen (current :: queue))
    (hw : trail? root found current = some w) {d : Dpid} {v : List Dpid}
    (hv : Walk (Adjacent next) root d v) (hd : Seen root found d → d ∈ current :: queue) :
    v = w ∨ Precedes w v := by
  have hqueued : ∀ {d v}, Walk (Adjacent next) root d v → d ∈ current :: queue →
      v = w ∨ Precedes w v := by
    intro d v hv hd
    obtain ⟨u, hu⟩ := h.queued d hd
    have hleast := (LeastWalk.iff_precedes.mp (h.least hu)).2 v hv
    cases hd with
    | head =>
      obtain rfl : u = w := Option.some.inj (hu.symm.trans hw)
      exact hleast
    | tail _ hd =>
      have hwu : Precedes w u := (List.pairwise_cons.mp h.ordered).1 d hd hw hu
      cases hleast with
      | inl heq => exact .inr (heq ▸ hwu)
      | inr huv => exact .inr (hwu.trans huv)
  induction hv with
  | start => exact hqueued .start (hd h.start)
  | @step a way b hwalk hjoined ih =>
    by_cases hb : Seen root found b
    · exact hqueued (hwalk.step hjoined) (hd hb)
    · -- the switch before an unseen one cannot have been visited
      have ha : Seen root found a → a ∈ current :: queue := by
        intro hseen
        by_contra hqueue
        exact hb (h.closed hseen hqueue hjoined)
      cases ih ha with
      | inl heq => exact .inr (heq ▸ Precedes.concat_self way b)
      | inr hprec => exact .inr (hprec.append_right [b])

theorem not_seen_of_fresh (h : Frontier next root found unseen (current :: queue)) {d : Dpid}
    (hd : d ∈ fresh (next current) unseen) : ¬Seen root found d :=
  h.hidden d (mem_fresh.mp hd).1

/-- A newly found switch is found by its least walk. -/
theorem least_fresh (h : Frontier next root found unseen (current :: queue))
    (hw : trail? root found current = some w) {d : Dpid} (hd : d ∈ fresh (next current) unseen) :
    LeastWalk (Adjacent next) root d (w ++ [d]) := by
  have hnew := h.not_seen_of_fresh hd
  rw [LeastWalk.iff_precedes]
  constructor
  · exact (h.least hw).walk.step (mem_fresh.mp hd).2
  · intro other hother
    cases hother with
    | start => exact absurd h.start hnew
    | @step a way _ hwalk hlast =>
      have ha : Seen root found a → a ∈ current :: queue := by
        intro hseen
        by_contra hqueue
        exact hnew (h.closed hseen hqueue hlast)
      cases h.head_precedes hw hwalk ha with
      | inl heq => exact .inl (by rw [heq])
      | inr hprec => exact .inr (hprec.append rfl)

theorem trail?_visit (h : Frontier next root found unseen (current :: queue))
    (hw : trail? root found current = some w) (d : Dpid) :
    trail? root (visit next unseen current found) d =
      if d ∈ fresh (next current) unseen then some (w ++ [d]) else trail? root found d := by
  have hcurrent : current ∉ fresh (next current) unseen :=
    fun hnew => h.not_seen_of_fresh hnew ⟨w, hw⟩
  rw [visit, trail?_append (by simpa using hcurrent)]
  simp [hw]

theorem trail_eq_of_fresh (h : Frontier next root found unseen (current :: queue))
    (hw : trail? root found current = some w) {d : Dpid} {v : List Dpid}
    (hd : d ∈ fresh (next current) unseen)
    (hv : trail? root (visit next unseen current found) d = some v) : v = w ++ [d] := by
  rw [h.trail?_visit hw, if_pos hd] at hv
  exact (Option.some.inj hv).symm

theorem trail?_visit_of_seen (h : Frontier next root found unseen (current :: queue)) {d : Dpid}
    (hd : Seen root found d) :
    trail? root (visit next unseen current found) d = trail? root found d := by
  obtain ⟨w, hw⟩ := h.queued current (.head _)
  rw [h.trail?_visit hw, if_neg (fun hnew => h.not_seen_of_fresh hnew hd)]

theorem seen_visit_iff (h : Frontier next root found unseen (current :: queue)) {d : Dpid} :
    Seen root (visit next unseen current found) d ↔
      Seen root found d ∨ d ∈ fresh (next current) unseen := by
  obtain ⟨w, hw⟩ := h.queued current (.head _)
  rw [Seen, h.trail?_visit hw]
  by_cases hd : d ∈ fresh (next current) unseen
  · simp [hd]
  · simp [hd, Seen]

theorem visit_closed (h : Frontier next root found unseen (current :: queue)) {d e : Dpid}
    (hd : Seen root (visit next unseen current found) d)
    (hqueue : d ∉ queue ++ fresh (next current) unseen) (he : e ∈ next d) :
    Seen root (visit next unseen current found) e := by
  rw [List.mem_append, not_or] at hqueue
  rw [h.seen_visit_iff] at hd ⊢
  have hold : Seen root found d := hd.resolve_right hqueue.2
  by_cases hcurrent : d = current
  · subst hcurrent
    cases h.scope he with
    | inl hunseen => exact .inr (mem_fresh.mpr ⟨hunseen, he⟩)
    | inr hseen => exact .inl hseen
  · exact .inl (h.closed hold (by simp [hcurrent, hqueue.1]) he)

theorem visit_ordered (h : Frontier next root found unseen (current :: queue)) :
    (queue ++ fresh (next current) unseen).Pairwise fun d e => ∀ {v u},
      trail? root (visit next unseen current found) d = some v →
      trail? root (visit next unseen current found) e = some u → Precedes v u := by
  obtain ⟨w, hw⟩ := h.queued current (.head _)
  have hqueued : ∀ d ∈ queue, Seen root found d := fun d hd => h.queued d (.tail _ hd)
  rw [List.pairwise_append]
  refine ⟨?_, ?_, ?_⟩
  · apply (List.pairwise_cons.mp h.ordered).2.imp_of_mem
    intro d e hd he hde v u hv hu
    rw [h.trail?_visit_of_seen (hqueued d hd)] at hv
    rw [h.trail?_visit_of_seen (hqueued e he)] at hu
    exact hde hv hu
  · have hascending : (fresh (next current) unseen).Pairwise (· < ·) :=
      h.ascending.sublist List.filter_sublist
    apply hascending.imp_of_mem
    intro d e hd he hde v u hv hu
    rw [h.trail_eq_of_fresh hw hd hv, h.trail_eq_of_fresh hw he hu]
    exact Precedes.concat_of_lt hde w
  · intro d hd e he v u hv hu
    rw [h.trail?_visit_of_seen (hqueued d hd)] at hv
    rw [h.trail_eq_of_fresh hw he hu]
    exact h.ahead (.tail _ hd) (.head _) hv hw e

theorem visit_ahead (h : Frontier next root found unseen (current :: queue)) {d e : Dpid}
    {v u : List Dpid} (hd : d ∈ queue ++ fresh (next current) unseen)
    (he : e ∈ queue ++ fresh (next current) unseen)
    (hv : trail? root (visit next unseen current found) d = some v)
    (hu : trail? root (visit next unseen current found) e = some u) (c : Dpid) :
    Precedes v (u ++ [c]) := by
  obtain ⟨w, hw⟩ := h.queued current (.head _)
  have hqueued : ∀ d ∈ queue, Seen root found d := fun d hd => h.queued d (.tail _ hd)
  rw [List.mem_append] at hd he
  cases hd with
  | inl hd =>
    rw [h.trail?_visit_of_seen (hqueued d hd)] at hv
    cases he with
    | inl he =>
      rw [h.trail?_visit_of_seen (hqueued e he)] at hu
      exact h.ahead (.tail _ hd) (.tail _ he) hv hu c
    | inr he =>
      rw [h.trail_eq_of_fresh hw he hu]
      exact (h.ahead (.tail _ hd) (.head _) hv hw e).append_right [c]
  | inr hd =>
    rw [h.trail_eq_of_fresh hw hd hv]
    cases he with
    | inl he =>
      rw [h.trail?_visit_of_seen (hqueued e he)] at hu
      have hwu : Precedes w u := (List.pairwise_cons.mp h.ordered).1 e he hw hu
      exact hwu.append rfl
    | inr he =>
      rw [h.trail_eq_of_fresh hw he hu]
      exact Precedes.of_length_lt (by simp)

/-- One step of the search: the next switch is visited and its unseen neighbours are queued. -/
theorem step (h : Frontier next root found unseen (current :: queue)) :
    Frontier next root (visit next unseen current found) (remote (next current) unseen)
      (queue ++ fresh (next current) unseen) := by
  obtain ⟨w, hw⟩ := h.queued current (.head _)
  constructor
  case least =>
    intro d way hway
    by_cases hd : d ∈ fresh (next current) unseen
    · rw [h.trail_eq_of_fresh hw hd hway]
      exact h.least_fresh hw hd
    · rw [h.trail?_visit hw, if_neg hd] at hway
      exact h.least hway
  case start => exact h.seen_visit_iff.mpr (.inl h.start)
  case queued =>
    intro d hd
    rw [h.seen_visit_iff]
    exact (List.mem_append.mp hd).imp_left fun hd => h.queued d (.tail _ hd)
  case hidden =>
    intro d hd hseen
    obtain ⟨hunseen, hfar⟩ := mem_remote.mp hd
    cases h.seen_visit_iff.mp hseen with
    | inl hold => exact h.hidden d hunseen hold
    | inr hfresh => exact hfar (mem_fresh.mp hfresh).2
  case closed => exact h.visit_closed
  case scope =>
    intro d e he
    rw [h.seen_visit_iff, mem_remote, mem_fresh]
    cases h.scope he with
    | inl hunseen =>
      by_cases hnear : e ∈ next current
      · exact .inr (.inr ⟨hunseen, hnear⟩)
      · exact .inl ⟨hunseen, hnear⟩
    | inr hseen => exact .inr (.inl hseen)
  case ascending => exact h.ascending.sublist List.filter_sublist
  case ordered => exact h.visit_ordered
  case ahead => exact h.visit_ahead

end

theorem run (h : Frontier next root found unseen queue) :
    ∃ rest, Frontier next root ((explore next unseen queue).reverse ++ found) rest [] := by
  fun_induction explore next unseen queue generalizing found
  case case1 unseen => exact ⟨unseen, by simpa using h⟩
  case case2 unseen current queue near ih =>
    obtain ⟨rest, hrest⟩ := ih h.step
    refine ⟨rest, ?_⟩
    rw [List.reverse_append, List.append_assoc, ← List.map_reverse]
    exact hrest

theorem seen_of_walk (h : Frontier next root found unseen []) {d : Dpid} {way : List Dpid}
    (hwalk : Walk (Adjacent next) root d way) : Seen root found d := by
  induction hwalk with
  | start => exact h.start
  | step _ hjoined ih => exact h.closed ih List.not_mem_nil hjoined

end Frontier

namespace SearchTree

variable {t : Topology} {root d : Dpid}

theorem frontier_start (t : Topology) (root : Dpid) :
    Frontier t.neighbours root [] (t.switches.filter (· ≠ root)) [root] := by
  refine .init (t.switches_ascending.sublist List.filter_sublist) (by simp) ?_
  intro a b hb
  by_cases hroot : b = root
  · exact .inr hroot
  · exact .inl (by simpa [hroot] using (Topology.neighbours_declared hb).2)

theorem exists_frontier (t : Topology) (root : Dpid) :
    ∃ rest, Frontier t.neighbours root (grow t root).found.reverse rest [] := by
  simpa [grow] using (frontier_start t root).run

theorem pathTo?_grow_eq_some {way : List Dpid} : (grow t root).pathTo? d = some way ↔
    LeastWalk (Adjacent t.neighbours) root d way := by
  obtain ⟨rest, h⟩ := exists_frontier t root
  constructor
  · exact h.least
  · intro hleast
    obtain ⟨way', hway'⟩ := h.seen_of_walk hleast.walk
    rw [(h.least hway').unique hleast]
    exact hway'

theorem pathTo?_grow_eq_none : (grow t root).pathTo? d = none ↔
    ¬∃ way, Walk (Adjacent t.neighbours) root d way := by
  obtain ⟨rest, h⟩ := exists_frontier t root
  constructor
  · rintro hnone ⟨way, hwalk⟩
    obtain ⟨way', hway'⟩ := h.seen_of_walk hwalk
    exact absurd (hnone.symm.trans hway') (by simp)
  · intro hunreachable
    cases hpath : (grow t root).pathTo? d with
    | none => rfl
    | some way => exact absurd ⟨way, (h.least hpath).walk⟩ hunreachable

end SearchTree
end Overlay.Routing
