import Overlay.Text.Numeral

namespace Overlay.Text

theorem digitValue?_of_isDigit {c : Char} (h : c.isDigit = true) :
    digitValue? 10 c = some (c.toNat - '0'.toNat) := by
  obtain ⟨hlow, hhigh⟩ := Char.isDigit_iff_toNat.mp h
  change 48 ≤ c.toNat at hlow
  change c.toNat ≤ 57 at hhigh
  change digitValue? 10 c = some (c.toNat - 48)
  simp only [digitValue?, hlow, hhigh, and_self, if_true]
  rw [if_pos (by omega)]

theorem isDigit_of_digitValue? {c : Char} {d : Nat} (h : digitValue? 10 c = some d) :
    c.isDigit = true := by
  rw [Char.isDigit_iff_toNat]
  change 48 ≤ c.toNat ∧ c.toNat ≤ 57
  -- Letters stand for ten and more.
  grind [digitValue?]

theorem isDigit_of_appendDigits {limit value n : Nat} {cs : List Char}
    (h : appendDigits 10 limit value cs = .ok n) : ∀ c ∈ cs, c.isDigit = true := by
  induction cs generalizing value with
  | nil => exact List.forall_mem_nil _
  | cons c cs ih =>
    unfold appendDigits at h
    cases hd : digitValue? 10 c with
    | none =>
      rw [hd] at h
      cases h
    | some d =>
      rw [hd] at h
      dsimp only at h
      split at h
      · exact List.forall_mem_cons.mpr ⟨isDigit_of_digitValue? hd, ih h⟩
      · cases h

theorem le_ofDigitChars (cs : List Char) (value : Nat) :
    value ≤ Nat.ofDigitChars 10 cs value := by
  rw [Nat.ofDigitChars_eq_ofDigitChars_zero]
  have hpos : 0 < 10 ^ cs.length := Nat.pow_pos (by decide)
  calc
    value ≤ 10 ^ cs.length * value := Nat.le_mul_of_pos_left value hpos
    _ ≤ _ := Nat.le_add_right _ _

theorem appendDigits_of_isDigit {limit value : Nat} {cs : List Char}
    (hdigits : ∀ c ∈ cs, c.isDigit = true) (hlimit : Nat.ofDigitChars 10 cs value < limit) :
    appendDigits 10 limit value cs = .ok (Nat.ofDigitChars 10 cs value) := by
  induction cs generalizing value with
  | nil => rfl
  | cons c cs ih =>
    obtain ⟨hc, hcs⟩ := List.forall_mem_cons.mp hdigits
    rw [Nat.ofDigitChars_cons, Nat.mul_comm] at hlimit ⊢
    have hvalue := Nat.lt_of_le_of_lt (le_ofDigitChars cs _) hlimit
    simp only [appendDigits, digitValue?_of_isDigit hc]
    rw [if_pos hvalue]
    exact ih hcs hlimit

theorem numeral_of_isDigit {limit : Nat} {cs : List Char} (hne : cs ≠ [])
    (hdigits : ∀ c ∈ cs, c.isDigit = true) (hlimit : Nat.ofDigitChars 10 cs 0 < limit) :
    numeral 10 limit cs = .ok (Nat.ofDigitChars 10 cs 0) := by
  rw [← appendDigits_of_isDigit hdigits hlimit]
  cases cs with
  | nil => exact absurd rfl hne
  | cons c cs =>
    have hplus : c ≠ '+' := by
      rintro rfl
      exact absurd (hdigits '+' (.head _)) (by decide)
    unfold numeral
    split
    · next heq => cases heq
    · next heq => exact absurd (List.head_eq_of_cons_eq heq) hplus
    · next heq => exact absurd (List.head_eq_of_cons_eq heq) hplus
    · rfl

theorem ofDigitChars_of_appendDigits {limit value n : Nat} {cs : List Char}
    (h : appendDigits 10 limit value cs = .ok n) :
    Nat.ofDigitChars 10 cs value = n ∧ (cs ≠ [] → n < limit) := by
  induction cs generalizing value with
  | nil =>
    cases h
    exact ⟨rfl, fun hne => absurd rfl hne⟩
  | cons c cs ih =>
    have hc := isDigit_of_appendDigits h c (.head _)
    simp only [appendDigits, digitValue?_of_isDigit hc] at h
    split at h
    · next hlt =>
      obtain ⟨hvalue, hlimit⟩ := ih h
      rw [Nat.ofDigitChars_cons, Nat.mul_comm]
      refine ⟨hvalue, fun _ => ?_⟩
      cases cs with
      | nil => exact hvalue ▸ hlt
      | cons d cs => exact hlimit (List.cons_ne_nil d cs)
    · cases h

def IsDecimal (limit : Nat) (cs : List Char) (n : Nat) : Prop :=
  ∃ digits, (cs = digits ∨ cs = '+' :: digits) ∧ digits ≠ [] ∧
    (∀ c ∈ digits, c.isDigit = true) ∧ Nat.ofDigitChars 10 digits 0 = n ∧ n < limit

theorem numeral_eq_ok_iff {limit n : Nat} {cs : List Char} :
    numeral 10 limit cs = .ok n ↔ IsDecimal limit cs n := by
  have hread {digits : List Char} (hne : digits ≠ [])
      (h : appendDigits 10 limit 0 digits = .ok n) : (∀ c ∈ digits, c.isDigit = true) ∧
        Nat.ofDigitChars 10 digits 0 = n ∧ n < limit := by
    obtain ⟨hvalue, hlimit⟩ := ofDigitChars_of_appendDigits h
    exact ⟨isDigit_of_appendDigits h, hvalue, hlimit hne⟩
  constructor
  · intro h
    unfold numeral at h
    split at h
    next => cases h
    next => cases h
    next cs hsigned =>
      have hne : cs ≠ [] := by
        rintro rfl
        exact hsigned rfl
      exact ⟨cs, .inr rfl, hne, hread hne h⟩
    next hne _ _ => exact ⟨cs, .inl rfl, hne, hread hne h⟩
  · rintro ⟨digits, rfl | rfl, hne, hdigits, rfl, hlimit⟩
    · exact numeral_of_isDigit hne hdigits hlimit
    · rw [← appendDigits_of_isDigit hdigits hlimit]
      cases digits with
      | nil => exact absurd rfl hne
      | cons c cs => rfl

theorem numeral_toDigits {n limit : Nat} (h : n < limit) :
    numeral 10 limit (Nat.toDigits 10 n) = .ok n := by
  have hvalue : Nat.ofDigitChars 10 (Nat.toDigits 10 n) 0 = n := Nat.ofDigitChars_ten_toDigits
  have hdigits : ∀ c ∈ Nat.toDigits 10 n, c.isDigit = true := by
    intro c hc
    exact Nat.isDigit_of_mem_toDigits (by decide) (by decide) hc
  rw [numeral_of_isDigit Nat.toDigits_ne_nil hdigits (by rwa [hvalue]), hvalue]

end Overlay.Text
