import Mathlib.Data.Set.Card
import Overlay.Proofs.Fabric.Agreement
import Overlay.Proofs.Routing.Route

namespace Overlay.Routing

open Fabric

def spanned (root : Dpid) (found : List Discovery) : List Dpid := found.map (·.switch) ++ [root]

/-- Discoveries, the latest first, of which each is new and was made from the root or from an
earlier one. -/
inductive Grown (root : Dpid) : List Discovery → Prop
  | start : Grown root []
  | discover : Grown root found → d ∉ spanned root found → parent ∈ spanned root found →
      Grown root (⟨d, parent⟩ :: found)

namespace SearchTree

def predecessor? (tree : SearchTree) (d : Dpid) : Option Dpid :=
  (tree.found.find? (·.switch = d)).map (·.parent)

def back? (tree : SearchTree) : Nat → Dpid → Option (List Dpid)
  | 0, d => some [d]
  | n + 1, d => (tree.predecessor? d).bind fun parent => (tree.back? n parent).map (· ++ [d])

end SearchTree

def Distance (joined : Dpid → Dpid → Prop) (src dst : Dpid) (k : Nat) : Prop :=
  ∃ way, ShortestWalk joined src dst way ∧ way.length = k + 1

open SearchTree

namespace Distance

variable {joined : Dpid → Dpid → Prop} {src dst : Dpid} {k k' : Nat}

theorem self : Distance joined src src 0 := ⟨[src], LeastWalk.start.toShortestWalk, rfl⟩

theorem unique (h : Distance joined src dst k) (h' : Distance joined src dst k') : k = k' := by
  obtain ⟨way, hway, hlength⟩ := h
  obtain ⟨way', hway', hlength'⟩ := h'
  have := hway.length_eq hway'
  omega

theorem eq_of_zero (h : Distance joined src dst 0) : dst = src := by
  obtain ⟨way, hshortest, hlength⟩ := h
  cases hshortest.walk with
  | start => rfl
  | step hwalk _ => exact absurd (by simpa using hlength) hwalk.ne_nil

end Distance

section

variable {root d e parent : Dpid} {found new : List Discovery}

@[simp] theorem spanned_nil : spanned root [] = [root] := rfl

@[simp] theorem spanned_cons {f : Discovery} :
    spanned root (f :: found) = f.switch :: spanned root found := rfl

theorem mem_spanned : d ∈ spanned root found ↔ d = root ∨ d ∈ found.map (·.switch) := by
  rw [spanned, List.mem_append, List.mem_singleton, or_comm]

namespace Grown

theorem nodup (h : Grown root found) : (spanned root found).Nodup := by
  induction h with
  | start => exact List.nodup_singleton _
  | discover _ hnew _ ih => exact List.nodup_cons.mpr ⟨hnew, ih⟩

theorem root_not_mem (h : Grown root found) : root ∉ found.map (·.switch) := by
  intro hroot
  exact (List.nodup_append.mp h.nodup).2.2 root hroot root (List.mem_singleton_self root) rfl

theorem parent_mem (h : Grown root found) : ∀ f ∈ found, f.parent ∈ spanned root found := by
  induction h with
  | start => exact List.forall_mem_nil _
  | discover _ _ hparent ih =>
    refine List.forall_mem_cons.mpr ⟨.tail _ hparent, fun f hf => .tail _ (ih f hf)⟩

theorem seen_iff (h : Grown root found) : Seen root found d ↔ d ∈ spanned root found := by
  induction h generalizing d with
  | start => simp [Seen, trail?]
  | @discover found e parent _ _ hparent ih =>
    obtain ⟨way, hway⟩ := ih.mpr hparent
    rw [spanned_cons, List.mem_cons, ← ih]
    by_cases hd : e = d
    · simp [Seen, trail?, hd, hway]
    · simp [Seen, trail?, hd, Ne.symm hd]

theorem trail?_of_mem (h : Grown root found) {f : Discovery} (hf : f ∈ found) :
    trail? root found f.switch = (trail? root found f.parent).map (· ++ [f.switch]) := by
  induction h with
  | start => cases hf
  | @discover found e parent hgrown hnew hparent ih =>
    -- what is found later does not change a trail
    have hold {a : Dpid} (ha : a ∈ spanned root found) :
        trail? root (⟨e, parent⟩ :: found) a = trail? root found a := by
      refine if_neg ?_
      rintro rfl
      exact hnew ha
    cases hf with
    | head => rw [hold hparent, trail?, if_pos rfl]
    | tail _ hf =>
      have hswitch : f.switch ∈ spanned root found :=
        mem_spanned.mpr (.inr (List.mem_map_of_mem hf))
      rw [hold hswitch, hold (hgrown.parent_mem f hf), ih hf]

theorem append (h : Grown root found) (hparent : parent ∈ spanned root found) {ds : List Dpid}
    (hds : ds.Nodup) (hnew : ∀ d ∈ ds, d ∉ spanned root found) :
    Grown root (ds.map (⟨·, parent⟩) ++ found) := by
  induction ds with
  | nil => exact h
  | cons d ds ih =>
    obtain ⟨hd, hds⟩ := List.nodup_cons.mp hds
    obtain ⟨hdnew, hnew⟩ := List.forall_mem_cons.mp hnew
    have hspan : spanned root (ds.map (⟨·, parent⟩) ++ found) = ds ++ spanned root found := by
      simp [spanned, Function.comp_def]
    refine (ih hds hnew).discover ?_ ?_
    · rw [hspan, List.mem_append, not_or]
      exact ⟨hd, hdnew⟩
    · rw [hspan]
      exact List.mem_append_right _ hparent

end Grown

end

namespace SearchTree

variable {t : Topology} {root d p : Dpid}

theorem grown_explore {next : Dpid → List Dpid} {found : List Discovery} {unseen queue : List Dpid}
    (h : Frontier next root found unseen queue) (hgrown : Grown root found) :
    Grown root ((explore next unseen queue).reverse ++ found) := by
  fun_induction explore next unseen queue generalizing found
  case case1 => simpa using hgrown
  case case2 unseen current queue near ih =>
    have hnodup : (fresh near unseen).reverse.Nodup := by
      rw [List.nodup_reverse]
      exact (h.ascending.sublist List.filter_sublist).nodup
    have hvisit := hgrown.append (hgrown.seen_iff.mp (h.queued current (.head _))) hnodup
      fun d hd hspan => h.not_seen_of_fresh (List.mem_reverse.mp hd) (hgrown.seen_iff.mpr hspan)
    have := ih h.step hvisit
    rw [List.reverse_append, List.append_assoc, ← List.map_reverse]
    exact this

theorem grown_grow (t : Topology) (root : Dpid) : Grown root (grow t root).found.reverse := by
  simpa [grow] using grown_explore (frontier_start t root) .start

theorem mem_spanned_grow : d ∈ spanned root (grow t root).found.reverse ↔
    ∃ way, Walk (Adjacent t.neighbours) root d way := by
  rw [← (grown_grow t root).seen_iff]
  change (∃ way, (grow t root).pathTo? d = some way) ↔ _
  rw [← Option.isSome_iff_exists, ← not_iff_not, ← pathTo?_grow_eq_none]
  simp

theorem reaches_iff : (grow t root).reaches d = true ↔
    ∃ way, Walk (Adjacent t.neighbours) root d way := by
  have hroot : (grow t root).root = root := rfl
  rw [← mem_spanned_grow, mem_spanned]
  simp [reaches, hroot]

theorem ncard_reachable :
    {d | ∃ way, Walk (Adjacent t.neighbours) root d way}.ncard = (grow t root).reachableCount := by
  have hspan : {d | ∃ way, Walk (Adjacent t.neighbours) root d way} =
      ((spanned root (grow t root).found.reverse).toFinset : Set Dpid) := by
    ext d
    simp [← mem_spanned_grow]
  rw [hspan, Set.ncard_coe_finset, List.toFinset_card_of_nodup (grown_grow t root).nodup]
  simp [spanned, reachableCount]

theorem predecessor?_eq_some_iff :
    (grow t root).predecessor? d = some p ↔ ⟨d, p⟩ ∈ (grow t root).found := by
  have hnodup : ((grow t root).found.map (·.switch)).Nodup := by
    have hswitches := (List.nodup_append.mp (grown_grow t root).nodup).1
    rwa [List.map_reverse, List.nodup_reverse] at hswitches
  simp only [predecessor?, Option.map_eq_some_iff, find?_eq_some_iff_of_nodup hnodup]
  constructor
  · rintro ⟨f, ⟨hmem, rfl⟩, rfl⟩
    exact hmem
  · intro hmem
    exact ⟨_, ⟨hmem, rfl⟩, rfl⟩

theorem exists_predecessor?_iff : (∃ p, (grow t root).predecessor? d = some p) ↔
    d ≠ root ∧ ∃ way, Walk (Adjacent t.neighbours) root d way := by
  have hroot := (grown_grow t root).root_not_mem
  simp only [predecessor?_eq_some_iff, ← mem_spanned_grow, mem_spanned, List.map_reverse,
    List.mem_reverse, List.mem_map] at hroot ⊢
  constructor
  · rintro ⟨p, hmem⟩
    refine ⟨?_, .inr ⟨_, hmem, rfl⟩⟩
    rintro rfl
    exact hroot ⟨_, hmem, rfl⟩
  · rintro ⟨hne, heq | ⟨f, hmem, rfl⟩⟩
    · exact absurd heq hne
    · exact ⟨f.parent, hmem⟩

theorem pathTo?_of_predecessor? (h : (grow t root).predecessor? d = some p) :
    ∃ way, (grow t root).pathTo? p = some way ∧ (grow t root).pathTo? d = some (way ++ [d]) := by
  have hgrown := grown_grow t root
  have hmem : ⟨d, p⟩ ∈ (grow t root).found.reverse :=
    List.mem_reverse.mpr (predecessor?_eq_some_iff.mp h)
  obtain ⟨way, hway⟩ := hgrown.seen_iff.mpr (hgrown.parent_mem _ hmem)
  have htrail := hgrown.trail?_of_mem hmem
  rw [hway] at htrail
  exact ⟨way, hway, htrail⟩

theorem joined_of_predecessor? (h : (grow t root).predecessor? d = some p) :
    d ∈ t.neighbours p := by
  obtain ⟨way, hp, hd⟩ := pathTo?_of_predecessor? h
  obtain ⟨-, hlast, -⟩ := Walk.iff_isChain.mp (pathTo?_grow_eq_some.mp hp).walk
  obtain ⟨-, -, hchain⟩ := Walk.iff_isChain.mp (pathTo?_grow_eq_some.mp hd).walk
  exact (List.isChain_append.mp hchain).2.2 p hlast d rfl

theorem distance_of_pathTo? {way : List Dpid} (h : (grow t root).pathTo? d = some way) :
    ∃ k, way.length = k + 1 ∧ Distance (Adjacent t.neighbours) root d k := by
  have hleast := pathTo?_grow_eq_some.mp h
  obtain ⟨k, hk⟩ :=
    Nat.exists_eq_add_one_of_ne_zero (List.length_pos_iff.mpr hleast.walk.ne_nil).ne'
  exact ⟨k, hk, way, hleast.toShortestWalk, hk⟩

theorem exists_distance (h : ∃ way, Walk (Adjacent t.neighbours) root d way) :
    ∃ k, Distance (Adjacent t.neighbours) root d k := by
  cases hpath : (grow t root).pathTo? d with
  | none => exact absurd h (pathTo?_grow_eq_none.mp hpath)
  | some way =>
    obtain ⟨k, -, hk⟩ := distance_of_pathTo? hpath
    exact ⟨k, hk⟩

theorem distance_of_predecessor? (h : (grow t root).predecessor? d = some p) :
    ∃ k, Distance (Adjacent t.neighbours) root p k ∧
      Distance (Adjacent t.neighbours) root d (k + 1) := by
  obtain ⟨way, hp, hd⟩ := pathTo?_of_predecessor? h
  obtain ⟨k, hk, hdistance⟩ := distance_of_pathTo? hp
  have hleast := pathTo?_grow_eq_some.mp hd
  exact ⟨k, hdistance, _, hleast.toShortestWalk, by simp [hk]⟩

theorem ne_nil_of_back? {tree : SearchTree} {n : Nat} {way : List Dpid}
    (h : tree.back? n d = some way) : way ≠ [] := by
  cases n with
  | zero =>
    cases h
    exact List.cons_ne_nil _ _
  | succ n =>
    obtain ⟨parent, -, hparent⟩ := Option.bind_eq_some_iff.mp h
    obtain ⟨way, -, rfl⟩ := Option.map_eq_some_iff.mp hparent
    exact List.append_ne_nil_of_right_ne_nil _ (List.cons_ne_nil _ _)

theorem back?_of_distance {k : Nat} (h : Distance (Adjacent t.neighbours) root d k) :
    (grow t root).pathTo? d = (grow t root).back? k d ∧
      ∀ n ≤ k, ∃ way, (grow t root).back? n d = some way ∧ (way.head? = some root ↔ n = k) := by
  induction k generalizing d with
  | zero =>
    obtain rfl : d = root := h.eq_of_zero
    refine ⟨pathTo?_grow_eq_some.mpr .start, ?_⟩
    intro n hn
    obtain rfl := Nat.le_zero.mp hn
    exact ⟨[d], rfl, by simp⟩
  | succ k ih =>
    have hne : d ≠ root := by
      rintro rfl
      exact absurd (h.unique .self) (Nat.succ_ne_zero k)
    have ⟨way, hshortest, _⟩ := h
    obtain ⟨p, hp⟩ := exists_predecessor?_iff.mpr ⟨hne, way, hshortest.walk⟩
    obtain ⟨k', hdistance, hd⟩ := distance_of_predecessor? hp
    obtain rfl : k' = k := Nat.succ.inj (hd.unique h)
    obtain ⟨hpath, hback⟩ := ih hdistance
    obtain ⟨way, hway, hwayd⟩ := pathTo?_of_predecessor? hp
    have hturn (n : Nat) : (grow t root).back? (n + 1) d =
        ((grow t root).back? n p).map (· ++ [d]) := by
      rw [back?, hp]
      rfl
    refine ⟨?_, ?_⟩
    · rw [hturn, ← hpath, hway, hwayd]
      rfl
    · intro n hn
      cases n with
      | zero => exact ⟨[d], rfl, by simpa using hne⟩
      | succ n =>
        obtain ⟨way, hway, hhead⟩ := hback n (Nat.le_of_succ_le_succ hn)
        refine ⟨way ++ [d], by rw [hturn, hway]; rfl, ?_⟩
        rw [List.head?_append_of_ne_nil _ (ne_nil_of_back? hway), hhead, Nat.succ_inj]

end SearchTree
end Overlay.Routing
