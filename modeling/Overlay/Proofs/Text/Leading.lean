import Mathlib.Data.Nat.Digits.Lemmas
import Overlay.Proofs.Text.Digits

namespace Overlay.Text

def significant (ds : List Nat) : List Nat := ds.dropWhile (· = 0)

section

variable {base : Nat} {ds ds' : List Nat}

theorem ofDigits_reverse_significant (base : Nat) (ds : List Nat) :
    Nat.ofDigits base (significant ds).reverse = Nat.ofDigits base ds.reverse := by
  induction ds with
  | nil => rfl
  | cons d ds ih =>
    by_cases hd : d = 0
    · subst hd
      rw [Nat.ofDigits_reverse_zero_cons, ← ih]
      rfl
    · rw [significant, List.dropWhile_cons_of_neg (by simpa using hd)]

theorem digits_ofDigits_reverse (hbase : 1 < base) (hds : ∀ d ∈ ds, d < base) :
    Nat.digits base (Nat.ofDigits base ds.reverse) = (significant ds).reverse := by
  rw [← ofDigits_reverse_significant]
  apply Nat.digits_ofDigits base hbase
  · intro d hd
    exact hds d ((List.dropWhile_sublist _).mem (List.mem_reverse.mp hd))
  · intro hne
    rw [List.getLast_reverse]
    have hhead : ds.dropWhile (· = 0) ≠ [] := List.reverse_ne_nil_iff.mp hne
    exact of_decide_eq_false (List.head_dropWhile_not _ hhead)

theorem ofDigits_reverse_eq_iff (hbase : 1 < base) (hds : ∀ d ∈ ds, d < base)
    (hds' : ∀ d ∈ ds', d < base) :
    Nat.ofDigits base ds.reverse = Nat.ofDigits base ds'.reverse ↔
      significant ds = significant ds' := by
  rw [← Nat.digits_inj_iff (b := base), digits_ofDigits_reverse hbase hds,
    digits_ofDigits_reverse hbase hds', List.reverse_inj]

theorem length_significant_le {k : Nat} (hbase : 1 < base) (hds : ∀ d ∈ ds, d < base)
    (h : Nat.ofDigits base ds.reverse < base ^ k) : (significant ds).length ≤ k := by
  rw [← List.length_reverse, ← digits_ofDigits_reverse hbase hds]
  exact (Nat.digits_length_le_iff hbase _).mpr h

end

theorem forall_mem_of_forall₂ {α β : Type} {r : α → β → Prop} {p : β → Prop} {as : List α}
    {bs : List β} (h : List.Forall₂ r as bs) (hr : ∀ {a b}, r a b → p b) : ∀ b ∈ bs, p b := by
  induction h with
  | nil => exact List.forall_mem_nil _
  | cons hab _ ih => exact List.forall_mem_cons.mpr ⟨hr hab, ih⟩

variable {radix m n d : Nat} {c : Char} {cs : List Char}

theorem Spells.lt (hradix : 1 < radix) (h : Spells radix cs n) : n < radix ^ cs.length := by
  obtain ⟨ds, hds, rfl⟩ := h
  rw [hds.length_eq, ← List.length_reverse]
  apply Nat.ofDigits_lt_base_pow_length hradix
  intro d hd
  exact forall_mem_of_forall₂ hds And.left d (List.mem_reverse.mp hd)

theorem isDigitOf_zero (hpos : 0 < radix) : IsDigitOf radix '0' 0 := ⟨hpos, .inl rfl⟩

theorem IsDigitOf.eq_zero_iff (hpos : 0 < radix) (hradix : radix ≤ 16) (h : IsDigitOf radix c d) :
    d = 0 ↔ c = '0' := by
  constructor
  · rintro rfl
    obtain ⟨-, rfl | rfl⟩ := h <;> rfl
  · rintro rfl
    have hd := (digitValue?_eq_some_iff hradix).mpr h
    have hzero := (digitValue?_eq_some_iff hradix).mpr (isDigitOf_zero hpos)
    exact Option.some.inj (hd.symm.trans hzero)

theorem Spells.eq_zero_iff (hpos : 0 < radix) (hradix : radix ≤ 16) (h : Spells radix cs n) :
    n = 0 ↔ ∀ c ∈ cs, c = '0' := by
  obtain ⟨ds, hds, rfl⟩ := h
  induction hds with
  | nil => simp
  | @cons c d cs ds hc _ ih =>
    have hpow : radix ^ ds.length ≠ 0 := (Nat.pow_pos hpos).ne'
    rw [Nat.ofDigits_reverse_cons, Nat.add_eq_zero_iff, Nat.mul_eq_zero, or_iff_right hpow, ih,
      hc.eq_zero_iff hpos hradix, List.forall_mem_cons, and_comm]

theorem IsNumeral.unique (hpos : 0 < radix) (hradix : radix ≤ 16) (hm : IsNumeral radix cs m)
    (hn : IsNumeral radix cs n) : m = n := by
  have hread : numeral radix (m + n + 1) cs = .ok m :=
    (numeral_eq_ok_iff_isNumeral hpos hradix).mpr ⟨hm, by omega⟩
  have hread' : numeral radix (m + n + 1) cs = .ok n :=
    (numeral_eq_ok_iff_isNumeral hpos hradix).mpr ⟨hn, by omega⟩
  exact Except.ok.inj (hread.symm.trans hread')

end Overlay.Text
