import Overlay.Proofs.Fabric.Views
import Overlay.Proofs.Routing.Predecessors
/-!
# A search turn by turn

In each turn of a search the first switch of the queue is visited. Its neighbours are met one after
another, and those that are new get it for their predecessor and are put at the end of the queue. No
switch is put there twice, so there are as many turns as switches that can be reached, and after
them the predecessors are those of the search tree.
-/
namespace Overlay.Routing

open Fabric SearchTree

/-- What is known between two turns: the predecessors entered, the latest first, and the switches
still to be visited. -/
structure Progress where
  found : List Discovery
  queue : List Dpid
  deriving DecidableEq, Repr

namespace Progress

def meet (root current : Dpid) (p : Progress) (near : Dpid) : Progress :=
  if near = root ∨ near ∈ p.found.map (·.switch) then p
  else ⟨⟨near, current⟩ :: p.found, p.queue ++ [near]⟩

def turn (t : Topology) (root : Dpid) (p : Progress) : Progress :=
  match p.queue with
  | [] => p
  | current :: queue => (t.neighbours current).foldl (meet root current) ⟨p.found, queue⟩

def after (t : Topology) (root : Dpid) : Nat → Progress
  | 0 => ⟨[], [root]⟩
  | n + 1 => (after t root n).turn t root

def queued (root : Dpid) (p : Progress) : List Dpid := (spanned root p.found).reverse

def unseen (t : Topology) (root : Dpid) (p : Progress) : List Dpid :=
  t.switches.filter (· ∉ spanned root p.found)

variable {t : Topology} {root current : Dpid} {p : Progress} {near queue : List Dpid} {n : Nat}

theorem foldl_meet (hnear : near.Nodup) : near.foldl (meet root current) p =
    let new := near.filter (· ∉ spanned root p.found)
    ⟨new.reverse.map (⟨·, current⟩) ++ p.found, p.queue ++ new⟩ := by
  induction near generalizing p with
  | nil => simp
  | cons a near ih =>
    obtain ⟨ha, hnear⟩ := List.nodup_cons.mp hnear
    rw [List.foldl_cons, ih hnear]
    by_cases hseen : a ∈ spanned root p.found
    · have hmeet : meet root current p a = p := if_pos (mem_spanned.mp hseen)
      rw [hmeet, List.filter_cons_of_neg (by simpa using hseen)]
    · have hmeet : meet root current p a = ⟨⟨a, current⟩ :: p.found, p.queue ++ [a]⟩ :=
        if_neg (mt mem_spanned.mpr hseen)
      -- no neighbour is met twice
      have hrest : near.filter (· ∉ a :: spanned root p.found) =
          near.filter (· ∉ spanned root p.found) := by
        refine List.filter_congr fun b hb => ?_
        have hne : b ≠ a := fun heq => ha (heq ▸ hb)
        simp [hne]
      rw [hmeet, spanned_cons, hrest, List.filter_cons_of_pos (by simpa using hseen)]
      simp

theorem fresh_unseen : fresh (t.neighbours current) (p.unseen t root) =
    (t.neighbours current).filter (· ∉ spanned root p.found) := by
  refine eq_of_ascending id ((t.switches_ascending.filter _).filter _)
    ((Topology.pairwise_neighbours t current).filter _) ?_
  intro a
  simp only [mem_fresh, unseen, List.mem_filter]
  constructor
  · rintro ⟨⟨-, hnew⟩, hnear⟩
    exact ⟨hnear, hnew⟩
  · rintro ⟨hnear, hnew⟩
    exact ⟨⟨(Topology.neighbours_declared hnear).2, hnew⟩, hnear⟩

theorem turn_cons (hqueue : p.queue = current :: queue) :
    p.turn t root = ⟨visit t.neighbours (p.unseen t root) current p.found,
      queue ++ fresh (t.neighbours current) (p.unseen t root)⟩ := by
  rw [turn, hqueue, visit, fresh_unseen]
  exact foldl_meet (Topology.pairwise_neighbours t current).nodup

theorem spanned_visit {next : Dpid → List Dpid} {unseen : List Dpid} {found : List Discovery} :
    spanned root (visit next unseen current found) =
      (fresh (next current) unseen).reverse ++ spanned root found := by
  simp [spanned, visit, Function.comp_def]

theorem unseen_turn (hqueue : p.queue = current :: queue) :
    (p.turn t root).unseen t root = remote (t.neighbours current) (p.unseen t root) := by
  have hnew {a : Dpid} (ha : a ∈ t.switches) :
      a ∈ spanned root (p.turn t root).found ↔
        a ∈ t.neighbours current ∨ a ∈ spanned root p.found := by
    rw [turn_cons hqueue, spanned_visit, List.mem_append, List.mem_reverse, mem_fresh]
    by_cases hseen : a ∈ spanned root p.found
    · simp [hseen]
    · simp [hseen, unseen, ha]
  rw [unseen, remote, unseen, List.filter_filter]
  refine List.filter_congr fun a ha => ?_
  rw [← Bool.decide_and, decide_eq_decide, hnew ha, not_or]

/-- How far a search is after a number of turns: so many switches have left the queue, and with
what is still found from there the discoveries are complete. -/
structure Underway (t : Topology) (root : Dpid) (n : Nat) (p : Progress) : Prop where
  queue_eq : p.queue = (p.queued root).drop n
  rest : (explore t.neighbours (p.unseen t root) p.queue).reverse ++ p.found =
    (grow t root).found.reverse

namespace Underway

theorem start (t : Topology) (root : Dpid) : Underway t root 0 ⟨[], [root]⟩ where
  queue_eq := rfl
  rest := by simp [unseen, grow]

theorem turn (h : Underway t root n p) : Underway t root (n + 1) (p.turn t root) := by
  cases hqueue : p.queue with
  | nil =>
    have hturn : p.turn t root = p := by rw [Progress.turn, hqueue]
    rw [hturn]
    have hempty := h.queue_eq.symm.trans hqueue
    refine ⟨?_, h.rest⟩
    rw [hqueue, List.drop_eq_nil_of_le (Nat.le_succ_of_le (List.drop_eq_nil_iff.mp hempty))]
  | cons current queue =>
    have hdrop := h.queue_eq.symm.trans hqueue
    constructor
    case queue_eq =>
      have hlength : n + 1 ≤ (p.queued root).length := by
        by_contra hshort
        rw [List.drop_eq_nil_of_le (by omega)] at hdrop
        cases hdrop
      have hqueued : (p.turn t root).queued root =
          p.queued root ++ fresh (t.neighbours current) (p.unseen t root) := by
        rw [queued, turn_cons hqueue, spanned_visit, List.reverse_append, List.reverse_reverse]
        rfl
      rw [hqueued, List.drop_append_of_le_length hlength, ← List.tail_drop, hdrop,
        turn_cons hqueue]
      rfl
    case rest =>
      have hrest := h.rest
      rw [hqueue, explore, List.reverse_append, List.append_assoc, ← List.map_reverse] at hrest
      rw [unseen_turn hqueue, turn_cons hqueue]
      exact hrest

theorem nodup (h : Underway t root n p) : (p.queued root).Nodup := by
  have hspan := (grown_grow t root).nodup
  rw [← h.rest, spanned, List.map_append, List.append_assoc] at hspan
  exact List.nodup_reverse.mpr (List.nodup_append.mp hspan).2.1

theorem found_eq (h : Underway t root n p) (hempty : p.queue = []) :
    p.found = (grow t root).found.reverse := by
  rw [← h.rest, hempty, explore]
  rfl

theorem queue_eq_nil_iff (h : Underway t root n p) :
    p.queue = [] ↔ (grow t root).reachableCount ≤ n := by
  have hlength : (p.queued root).length = p.found.length + 1 := by simp [queued, spanned]
  constructor
  · intro hempty
    have hle := List.drop_eq_nil_iff.mp (h.queue_eq.symm.trans hempty)
    rw [hlength, h.found_eq hempty, List.length_reverse] at hle
    exact hle
  · intro hle
    have hall := congrArg List.length h.rest
    rw [List.length_append, List.length_reverse, List.length_reverse] at hall
    rw [h.queue_eq, List.drop_eq_nil_iff, hlength]
    rw [reachableCount] at hle
    omega

end Underway

theorem underway_after (t : Topology) (root : Dpid) (n : Nat) :
    Underway t root n (after t root n) := by
  induction n with
  | zero => exact .start t root
  | succ n ih => exact ih.turn

end Progress

/-- A search visits each switch that can be reached once. It knows a predecessor for each of them
but its root, one link nearer to the root, and the predecessors lead back there over the path,
without ever missing and in as many turns as the path has links. -/
theorem search_finds {d : Description} {t : Topology} (h : Topology.build d = .ok t) {src : Dpid}
    (hsrc : src ∈ d.switches) :
    let tree := grow t src
    (∀ earlier, ((Query.tree src).run t (PathCache.after t earlier)).1 = .ok tree) ∧
    (∀ n, let p := Progress.after t src n
      (p.queued src).Nodup ∧ p.queue = (p.queued src).drop n ∧
      (p.queue = [] ↔ tree.reachableCount ≤ n) ∧
      (p.queue = [] → p.found = tree.found.reverse)) ∧
    (∀ e, (∃ parent, tree.predecessor? e = some parent) ↔
      e ≠ src ∧ ∃ way, Walk d.Joined src e way) ∧
    (∀ e parent, tree.predecessor? e = some parent → d.Joined parent e ∧
      ∃ k, Distance d.Joined src parent k ∧ Distance d.Joined src e (k + 1)) ∧
    (∀ e, tree.reaches e = true ↔ ∃ way, Walk d.Joined src e way) ∧
    tree.reachableCount = {e | ∃ way, Walk d.Joined src e way}.ncard ∧
    ∀ e, (∃ way, Walk d.Joined src e way) → ∃ k, Distance d.Joined src e k ∧
      tree.pathTo? e = tree.back? k e ∧
      ∀ n ≤ k, ∃ way, tree.back? n e = some way ∧ (way.head? = some src ↔ n = k) := by
  intro tree
  rw [← joined_of_build h]
  refine ⟨?_, ?_, fun e => exists_predecessor?_iff, ?_, fun e => reaches_iff,
    ncard_reachable.symm, ?_⟩
  · intro earlier
    rw [PathCache.run_after]
    exact if_pos (Topology.contains_iff.mpr ((Topology.mem_switches_of_build h).mpr hsrc))
  · intro n p
    have hunderway := Progress.underway_after t src n
    exact ⟨hunderway.nodup, hunderway.queue_eq, hunderway.queue_eq_nil_iff, hunderway.found_eq⟩
  · intro e parent hparent
    exact ⟨joined_of_predecessor? hparent, distance_of_predecessor? hparent⟩
  · intro e hreach
    obtain ⟨k, hk⟩ := exists_distance hreach
    exact ⟨k, hk, back?_of_distance hk⟩

theorem search_finds_diamond : Topology.build diamond = .ok builtDiamond ∧
    ⟨1⟩ ∈ diamond.switches ∧ {e | ∃ way, Walk diamond.Joined ⟨1⟩ e way}.ncard = 4 ∧
    (Progress.after builtDiamond ⟨1⟩ 3).queue ≠ [] ∧
    (Progress.after builtDiamond ⟨1⟩ 4).queue = [] ∧
    (grow builtDiamond ⟨1⟩).predecessor? ⟨4⟩ = some ⟨2⟩ ∧ diamond.Joined ⟨2⟩ ⟨4⟩ ∧
    ∃ k, Distance diamond.Joined ⟨1⟩ ⟨4⟩ k ∧
      (grow builtDiamond ⟨1⟩).pathTo? ⟨4⟩ = (grow builtDiamond ⟨1⟩).back? k ⟨4⟩ := by
  obtain ⟨-, hturns, -, hnearer, -, hcount, hback⟩ := search_finds build_diamond
    (by decide : ⟨1⟩ ∈ diamond.switches)
  have hreachable : (grow builtDiamond ⟨1⟩).reachableCount = 4 := by decide +kernel
  have hparent : (grow builtDiamond ⟨1⟩).predecessor? ⟨4⟩ = some ⟨2⟩ := by decide +kernel
  have hlast := (hturns 3).2.2.1
  have hend := (hturns 4).2.2.1
  rw [hreachable] at hlast hend hcount
  obtain ⟨k, hk, hpath, -⟩ := hback ⟨4⟩ ⟨_, walk_diamond⟩
  exact ⟨build_diamond, by decide, hcount.symm, mt hlast.mp (by decide), hend.mpr (by decide),
    hparent, (hnearer _ _ hparent).1, k, hk, hpath⟩

end Overlay.Routing
