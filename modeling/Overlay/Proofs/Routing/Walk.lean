import Mathlib.Data.List.Shortlex
import Mathlib.Data.List.Chain
import Mathlib.Data.List.Nodup
import Overlay.Fabric.Order

namespace Overlay.Routing

open Fabric

instance : Std.Irrefl (α := Dpid) (· < ·) := ⟨StrictTotal.irrefl⟩

instance : Std.Trichotomous (α := Dpid) (· < ·) where
  trichotomous a b hab hba := by
    by_contra hne
    exact hba (StrictTotal.lt_of_not_lt hab hne)

def Precedes (v w : List Dpid) : Prop := List.Shortlex (· < ·) v w

namespace Precedes

variable {v w : List Dpid}

theorem def_iff : Precedes v w ↔ v.length < w.length ∨ v.length = w.length ∧ v < w :=
  List.shortlex_def

theorem of_length_lt (h : v.length < w.length) : Precedes v w := List.Shortlex.of_length_lt h

theorem irrefl (w : List Dpid) : ¬Precedes w w := by
  simp [def_iff, List.lt_irrefl]

theorem trans {u : List Dpid} (huv : Precedes u v) (hvw : Precedes v w) : Precedes u w := by
  rw [def_iff] at huv hvw ⊢
  cases huv with
  | inl hlen =>
    cases hvw with
    | inl hlen' => exact .inl (hlen.trans hlen')
    | inr hvw => exact .inl (hvw.1 ▸ hlen)
  | inr huv =>
    cases hvw with
    | inl hlen' => exact .inl (huv.1 ▸ hlen')
    | inr hvw =>
      refine .inr ⟨huv.1.trans hvw.1, ?_⟩
      exact List.lex_trans StrictTotal.trans huv.2 hvw.2

theorem or_eq_or (v w : List Dpid) : Precedes v w ∨ v = w ∨ Precedes w v :=
  trichotomous_of (List.Shortlex (· < ·)) v w

theorem append (h : Precedes v w) {s t : List Dpid} (hlen : s.length = t.length) :
    Precedes (v ++ s) (w ++ t) := by
  rw [def_iff] at h ⊢
  simp only [List.length_append, hlen]
  cases h with
  | inl h => exact .inl (Nat.add_lt_add_right h _)
  | inr h =>
    obtain ⟨heq, hlt⟩ := h
    refine .inr ⟨by rw [heq], ?_⟩
    clear hlen
    induction hlt with
    | nil => simp at heq
    | rel hab => exact .rel hab
    | cons _ ih => exact .cons (ih (by simpa using heq))

theorem prepend (h : Precedes v w) (s : List Dpid) : Precedes (s ++ v) (s ++ w) :=
  List.Shortlex.append_left h s

theorem append_right (h : Precedes v w) (t : List Dpid) : Precedes v (w ++ t) :=
  List.Shortlex.append_right t h

theorem concat_of_lt {a b : Dpid} (h : a < b) (w : List Dpid) : Precedes (w ++ [a]) (w ++ [b]) :=
  prepend ((List.shortlex_singleton_iff a b).mpr h) w

theorem concat_self (w : List Dpid) (a : Dpid) : Precedes w (w ++ [a]) := of_length_lt (by simp)

end Precedes

inductive Walk (joined : Dpid → Dpid → Prop) (src : Dpid) : Dpid → List Dpid → Prop
  | start : Walk joined src src [src]
  | step : Walk joined src a way → joined a b → Walk joined src b (way ++ [b])

namespace Walk

variable {joined : Dpid → Dpid → Prop} {src dst : Dpid} {way : List Dpid}

theorem iff_isChain : Walk joined src dst way ↔
    way.head? = some src ∧ way.getLast? = some dst ∧ way.IsChain joined := by
  constructor
  · intro h
    induction h with
    | start => simp
    | step _ hjoined ih =>
      obtain ⟨hhead, hlast, hchain⟩ := ih
      refine ⟨by simp [List.head?_append, hhead], by simp, ?_⟩
      exact hchain.append (.singleton _) (by simpa [hlast] using hjoined)
  · rintro ⟨hhead, hlast, hchain⟩
    induction way using List.reverseRecOn generalizing dst with
    | nil => simp at hhead
    | append_singleton way b ih =>
      obtain rfl : b = dst := by simpa using hlast
      rw [List.isChain_append] at hchain
      cases hend : way.getLast? with
      | none =>
        rw [List.getLast?_eq_none_iff] at hend
        subst hend
        obtain rfl : b = src := by simpa using hhead
        exact .start
      | some a =>
        have hne : way ≠ [] := by rintro rfl; simp at hend
        have hhead' : way.head? = some src := by
          rwa [List.head?_append_of_ne_nil _ hne] at hhead
        exact .step (ih hhead' hend hchain.1) (hchain.2.2 a hend b rfl)

theorem ne_nil (h : Walk joined src dst way) : way ≠ [] := by
  cases h <;> simp

theorem replace {a b : Dpid} {before mid after other : List Dpid}
    (h : Walk joined src dst (before ++ mid ++ after)) (hmid : Walk joined a b mid)
    (hother : Walk joined a b other) : Walk joined src dst (before ++ other ++ after) := by
  rw [iff_isChain] at *
  obtain ⟨hhead, hlast, hchain⟩ := h
  obtain ⟨hmidHead, hmidLast, -⟩ := hmid
  obtain ⟨hotherHead, hotherLast, hotherChain⟩ := hother
  simp only [List.head?_append, List.getLast?_append, List.isChain_append, hmidHead, hmidLast,
    hotherHead, hotherLast] at *
  exact ⟨hhead, hlast, ⟨hchain.1.1, hotherChain, hchain.1.2.2⟩, hchain.2⟩

end Walk

structure ShortestWalk (joined : Dpid → Dpid → Prop) (src dst : Dpid) (way : List Dpid) : Prop where
  walk : Walk joined src dst way
  shortest : ∀ other, Walk joined src dst other → way.length ≤ other.length

/-- The shortest walk with the lowest switches, compared one after another from its start. -/
structure LeastWalk (joined : Dpid → Dpid → Prop) (src dst : Dpid) (way : List Dpid) : Prop
    extends ShortestWalk joined src dst way where
  least : ∀ other, ShortestWalk joined src dst other → other = way ∨ way < other

section

variable {joined : Dpid → Dpid → Prop} {src dst : Dpid} {way : List Dpid}

theorem ShortestWalk.length_eq {other : List Dpid} (h : ShortestWalk joined src dst way)
    (hother : ShortestWalk joined src dst other) : way.length = other.length :=
  Nat.le_antisymm (h.shortest other hother.walk) (hother.shortest way h.walk)

theorem LeastWalk.iff_precedes : LeastWalk joined src dst way ↔
    Walk joined src dst way ∧ ∀ other, Walk joined src dst other →
      other = way ∨ Precedes way other := by
  constructor
  · intro h
    refine ⟨h.walk, ?_⟩
    intro other hother
    cases Nat.lt_or_eq_of_le (h.shortest other hother) with
    | inl hlt => exact .inr (Precedes.of_length_lt hlt)
    | inr heq =>
      have hshortest : ShortestWalk joined src dst other :=
        ⟨hother, fun third hthird => heq ▸ h.shortest third hthird⟩
      exact (h.least other hshortest).imp_right fun hlt => Precedes.def_iff.mpr (.inr ⟨heq, hlt⟩)
  · rintro ⟨hwalk, hfirst⟩
    have hshortest : ∀ other, Walk joined src dst other → way.length ≤ other.length := by
      intro other hother
      cases hfirst other hother with
      | inl heq => rw [heq]
      | inr hprec =>
        cases Precedes.def_iff.mp hprec with
        | inl hlt => exact Nat.le_of_lt hlt
        | inr heq => exact Nat.le_of_eq heq.1
    refine ⟨⟨hwalk, hshortest⟩, ?_⟩
    intro other hother
    apply (hfirst other hother.walk).imp_right
    intro hprec
    cases Precedes.def_iff.mp hprec with
    | inl hlt => exact absurd (hother.shortest way hwalk) (Nat.not_le.mpr hlt)
    | inr heq => exact heq.2

theorem LeastWalk.start {a : Dpid} : LeastWalk joined a a [a] := by
  rw [LeastWalk.iff_precedes]
  refine ⟨.start, ?_⟩
  intro other hother
  cases hother with
  | start => exact .inl rfl
  | step hwalk _ =>
    have := List.length_pos_iff.mpr hwalk.ne_nil
    exact .inr (Precedes.of_length_lt (by simpa using this))

theorem LeastWalk.unique {other : List Dpid} (h : LeastWalk joined src dst way)
    (hother : LeastWalk joined src dst other) : other = way := by
  rw [LeastWalk.iff_precedes] at h hother
  cases h.2 other hother.1 with
  | inl heq => exact heq
  | inr hprec =>
    cases hother.2 way h.1 with
    | inl heq => exact heq.symm
    | inr hprec' => exact absurd (hprec.trans hprec') (Precedes.irrefl way)

theorem LeastWalk.stretch {a b : Dpid} {before mid after : List Dpid}
    (h : LeastWalk joined src dst (before ++ mid ++ after)) (hmid : Walk joined a b mid) :
    LeastWalk joined a b mid := by
  rw [LeastWalk.iff_precedes] at h ⊢
  refine ⟨hmid, ?_⟩
  intro other hother
  rcases Precedes.or_eq_or other mid with hprec | heq | hprec
  · -- a better stretch would make a better walk
    have hbetter : Precedes (before ++ other ++ after) (before ++ mid ++ after) :=
      (hprec.prepend before).append rfl
    cases h.2 _ (h.1.replace hmid hother) with
    | inl heq => exact absurd (heq ▸ hbetter) (Precedes.irrefl _)
    | inr hworse => exact absurd (hbetter.trans hworse) (Precedes.irrefl _)
  · exact .inl heq
  · exact .inr hprec

/-- A shortest walk visits no switch twice: the loop between two visits could be left out. -/
theorem ShortestWalk.nodup (h : ShortestWalk joined src dst way) : way.Nodup := by
  rw [List.nodup_iff_sublist]
  intro a hsub
  obtain ⟨first, second, rfl, ha, ha'⟩ := List.cons_sublist_iff.mp hsub
  obtain ⟨before, loop, rfl⟩ := List.append_of_mem ha
  obtain ⟨loop', after, rfl⟩ := List.append_of_mem (List.singleton_sublist.mp ha')
  have hsplit : before ++ a :: loop ++ (loop' ++ a :: after) =
      before ++ (a :: loop ++ loop' ++ [a]) ++ after := by simp
  obtain ⟨hwalk, hshortest⟩ := h
  rw [hsplit] at hwalk hshortest
  have hloop : Walk joined a a (a :: loop ++ loop' ++ [a]) := by
    have hchain := (Walk.iff_isChain.mp hwalk).2.2.left_of_append.right_of_append
    exact Walk.iff_isChain.mpr ⟨by simp, List.getLast?_concat, hchain⟩
  have := hshortest _ (hwalk.replace hloop .start)
  simp at this
  omega

end

end Overlay.Routing
