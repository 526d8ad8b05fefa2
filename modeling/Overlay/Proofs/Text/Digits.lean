import Mathlib.Data.List.Forall2
import Mathlib.Data.Nat.Digits.Defs
import Overlay.Text.Numeral

namespace Overlay.Text

def IsDigitOf (radix : Nat) (c : Char) (d : Nat) : Prop :=
  d < radix ∧ (c = d.digitChar ∨ c = d.digitChar.toUpper)

def Spells (radix : Nat) (cs : List Char) (n : Nat) : Prop :=
  ∃ ds, List.Forall₂ (IsDigitOf radix) cs ds ∧ Nat.ofDigits radix ds.reverse = n

/-- A text is a numeral: digits, at least one, with one plus sign allowed in front. -/
def IsNumeral (radix : Nat) (cs : List Char) (n : Nat) : Prop :=
  ∃ digits, (cs = digits ∨ cs = '+' :: digits) ∧ digits ≠ [] ∧ Spells radix digits n

variable {radix limit value n d : Nat} {c : Char} {cs : List Char}

theorem toNat_digitChar : d < 16 → d.digitChar.toNat = (if d < 10 then 48 + d else 87 + d) ∧
    d.digitChar.toUpper.toNat = if d < 10 then 48 + d else 55 + d := by
  revert d
  decide

theorem isDigitOf_iff_toNat (hradix : radix ≤ 16) : IsDigitOf radix c d ↔
    d < radix ∧ (c.toNat = (if d < 10 then 48 + d else 87 + d) ∨
      c.toNat = if d < 10 then 48 + d else 55 + d) := by
  refine and_congr_right fun hd => ?_
  obtain ⟨hlower, hupper⟩ := toNat_digitChar (Nat.lt_of_lt_of_le hd hradix)
  rw [← hlower, ← hupper, Char.toNat_inj, Char.toNat_inj]

theorem digitValue?_eq_some_iff (hradix : radix ≤ 16) :
    digitValue? radix c = some d ↔ IsDigitOf radix c d := by
  rw [isDigitOf_iff_toNat hradix]
  grind [digitValue?]

theorem lt_of_digitValue? (h : digitValue? radix c = some d) : d < radix := by
  grind [digitValue?]

theorem toNat_of_isDigitOf (hradix : radix ≤ 16) (h : IsDigitOf radix c d) :
    48 ≤ c.toNat ∧ c.toNat ≤ 57 ∨ 65 ≤ c.toNat ∧ c.toNat ≤ 70 ∨ 97 ≤ c.toNat ∧ c.toNat ≤ 102 := by
  rw [isDigitOf_iff_toNat hradix] at h
  grind

theorem ofDigits_reverse_cons (ds : List Nat) : value * radix ^ (ds.length + 1) +
    Nat.ofDigits radix (d :: ds).reverse =
      (value * radix + d) * radix ^ ds.length + Nat.ofDigits radix ds.reverse := by
  rw [Nat.ofDigits_reverse_cons]
  ring

theorem le_ofDigits_reverse_cons (hpos : 0 < radix) (ds : List Nat) : value * radix + d ≤
    value * radix ^ (ds.length + 1) + Nat.ofDigits radix (d :: ds).reverse := by
  rw [ofDigits_reverse_cons]
  calc
    value * radix + d ≤ (value * radix + d) * radix ^ ds.length :=
      Nat.le_mul_of_pos_right _ (Nat.pow_pos hpos)
    _ ≤ _ := Nat.le_add_right _ _

theorem appendDigits_eq_ok_iff (hpos : 0 < radix) (hradix : radix ≤ 16) :
    appendDigits radix limit value cs = .ok n ↔
      ∃ ds, List.Forall₂ (IsDigitOf radix) cs ds ∧
        value * radix ^ ds.length + Nat.ofDigits radix ds.reverse = n ∧ (cs ≠ [] → n < limit) := by
  induction cs generalizing value with
  | nil => simp [appendDigits, List.forall₂_nil_left_iff]
  | cons c cs ih =>
    simp only [appendDigits, List.forall₂_cons_left_iff]
    constructor
    · intro h
      cases hd : digitValue? radix c with
      | none => simp [hd] at h
      | some d =>
        simp only [hd] at h
        split at h
        case isFalse => cases h
        case isTrue hlt =>
          obtain ⟨ds, hds, hn, hlimit⟩ := ih.mp h
          have hc := (digitValue?_eq_some_iff hradix).mp hd
          refine ⟨d :: ds, ⟨d, ds, hc, hds, rfl⟩, ?_, fun _ => ?_⟩
          · rw [List.length_cons, ofDigits_reverse_cons, hn]
          · cases cs with
            | nil =>
              obtain rfl := List.forall₂_nil_left_iff.mp hds
              rw [← hn]
              simpa using hlt
            | cons c' cs => exact hlimit (List.cons_ne_nil c' cs)
    · rintro ⟨_, ⟨d, ds, hc, hds, rfl⟩, hn, hlimit⟩
      have hlt : value * radix + d < limit :=
        Nat.lt_of_le_of_lt (hn ▸ le_ofDigits_reverse_cons hpos ds) (hlimit (List.cons_ne_nil c cs))
      rw [(digitValue?_eq_some_iff hradix).mpr hc]
      dsimp only
      rw [if_pos hlt, ih]
      rw [List.length_cons, ofDigits_reverse_cons] at hn
      exact ⟨ds, hds, hn, fun _ => hlimit (List.cons_ne_nil c cs)⟩

theorem not_spells_plus (hradix : radix ≤ 16) : ¬Spells radix ('+' :: cs) n := by
  rintro ⟨_, hds, -⟩
  obtain ⟨d, -, hplus, -⟩ := List.forall₂_cons_left_iff.mp hds
  have := toNat_of_isDigitOf hradix hplus
  revert this
  decide

theorem isNumeral_plus (hradix : radix ≤ 16) :
    IsNumeral radix ('+' :: cs) n ↔ cs ≠ [] ∧ Spells radix cs n := by
  constructor
  · rintro ⟨digits, rfl | heq, hne, hspells⟩
    · exact absurd hspells (not_spells_plus hradix)
    · cases heq
      exact ⟨hne, hspells⟩
  · rintro ⟨hne, hspells⟩
    exact ⟨cs, .inr rfl, hne, hspells⟩

theorem isNumeral_of_ne_plus (h : ∀ digits, cs ≠ '+' :: digits) :
    IsNumeral radix cs n ↔ cs ≠ [] ∧ Spells radix cs n := by
  constructor
  · rintro ⟨digits, rfl | rfl, hne, hspells⟩
    · exact ⟨hne, hspells⟩
    · exact absurd rfl (h digits)
  · rintro ⟨hne, hspells⟩
    exact ⟨cs, .inl rfl, hne, hspells⟩

theorem appendDigits_zero_eq_ok_iff (hpos : 0 < radix) (hradix : radix ≤ 16) (hne : cs ≠ []) :
    appendDigits radix limit 0 cs = .ok n ↔ Spells radix cs n ∧ n < limit := by
  rw [appendDigits_eq_ok_iff hpos hradix]
  constructor
  · rintro ⟨ds, hds, hn, hlimit⟩
    exact ⟨⟨ds, hds, by simpa using hn⟩, hlimit hne⟩
  · rintro ⟨⟨ds, hds, hn⟩, hlimit⟩
    exact ⟨ds, hds, by simpa using hn, fun _ => hlimit⟩

theorem numeral_eq_ok_iff_isNumeral (hpos : 0 < radix) (hradix : radix ≤ 16) :
    numeral radix limit cs = .ok n ↔ IsNumeral radix cs n ∧ n < limit := by
  unfold numeral
  split
  next => simp [isNumeral_of_ne_plus]
  next => simp [isNumeral_plus hradix]
  next cs hne =>
    have hne : cs ≠ [] := by
      rintro rfl
      exact hne rfl
    rw [appendDigits_zero_eq_ok_iff hpos hradix hne, isNumeral_plus hradix, and_iff_right hne]
  next hne _ hplus =>
    rw [appendDigits_zero_eq_ok_iff hpos hradix hne, isNumeral_of_ne_plus hplus, and_iff_right hne]

theorem appendDigits_ne_tooLarge (h : (value + 1) * radix ^ cs.length ≤ limit) :
    appendDigits radix limit value cs ≠ .error .tooLarge := by
  induction cs generalizing value with
  | nil => exact nofun
  | cons c cs ih =>
    unfold appendDigits
    cases hd : digitValue? radix c with
    | none => exact nofun
    | some d =>
      have hlt := lt_of_digitValue? hd
      have hnext : (value * radix + d + 1) * radix ^ cs.length ≤ limit := by
        calc
          _ ≤ ((value + 1) * radix) * radix ^ cs.length := by
            apply Nat.mul_le_mul_right
            rw [Nat.add_mul]
            omega
          _ = (value + 1) * radix ^ (c :: cs).length := by rw [List.length_cons]; ring
          _ ≤ limit := h
      have hvalue : value * radix + d < limit :=
        Nat.lt_of_lt_of_le (Nat.le_mul_of_pos_right _ (Nat.pow_pos (Nat.zero_lt_of_lt hlt))) hnext
      dsimp only
      rw [if_pos hvalue]
      exact ih hnext

theorem numeral_ne_tooLarge (hpos : 0 < radix) (h : radix ^ cs.length ≤ limit) :
    numeral radix limit cs ≠ .error .tooLarge := by
  unfold numeral
  split
  next => exact nofun
  next => exact nofun
  next cs _ =>
    apply appendDigits_ne_tooLarge
    calc
      (0 + 1) * radix ^ cs.length ≤ radix ^ (cs.length + 1) := by
        rw [Nat.zero_add, Nat.one_mul]
        exact Nat.pow_le_pow_right hpos (Nat.le_succ _)
      _ ≤ limit := h
  next =>
    apply appendDigits_ne_tooLarge
    simpa using h

theorem Spells.exists_digit (h : Spells radix cs n) (hc : c ∈ cs) : ∃ d, IsDigitOf radix c d := by
  obtain ⟨ds, hds, -⟩ := h
  induction hds with
  | nil => cases hc
  | cons hd _ ih =>
    cases hc with
    | head => exact ⟨_, hd⟩
    | tail _ hc => exact ih hc

theorem IsNumeral.ne_nil (h : IsNumeral radix cs n) : cs ≠ [] := by
  obtain ⟨digits, rfl | rfl, hne, -⟩ := h
  · exact hne
  · exact List.cons_ne_nil _ _

theorem IsNumeral.eq_plus_or_digit (h : IsNumeral radix cs n) (hc : c ∈ cs) :
    c = '+' ∨ ∃ d, IsDigitOf radix c d := by
  obtain ⟨digits, rfl | rfl, -, hspells⟩ := h
  · exact .inr (hspells.exists_digit hc)
  · exact (List.mem_cons.mp hc).imp_right hspells.exists_digit

theorem Spells.append {cs' : List Char} {n' : Nat} (h : Spells radix cs n)
    (h' : Spells radix cs' n') : Spells radix (cs ++ cs') (n * radix ^ cs'.length + n') := by
  obtain ⟨ds, hds, rfl⟩ := h
  obtain ⟨ds', hds', rfl⟩ := h'
  refine ⟨ds ++ ds', List.rel_append hds hds', ?_⟩
  rw [List.reverse_append, Nat.ofDigits_append, List.length_reverse, hds'.length_eq]
  ring

theorem spells_byte {b : Nat} (h : b < 256) :
    Spells 16 [(b / 16).digitChar, (b % 16).digitChar] b := by
  have hhigh : b / 16 < 16 := by omega
  have hlow : b % 16 < 16 := by omega
  refine ⟨[b / 16, b % 16], .cons ⟨hhigh, .inl rfl⟩ (.cons ⟨hlow, .inl rfl⟩ .nil), ?_⟩
  simp only [List.reverse_cons, List.reverse_nil, List.nil_append, List.cons_append,
    Nat.ofDigits_cons, Nat.ofDigits_nil]
  omega

theorem spells_bytes {bs : List Nat} (h : ∀ b ∈ bs, b < 256) :
    Spells 16 (bs.flatMap fun b => [(b / 16).digitChar, (b % 16).digitChar])
      (Nat.ofDigits 256 bs.reverse) := by
  induction bs with
  | nil => exact ⟨[], .nil, rfl⟩
  | cons b bs ih =>
    obtain ⟨hb, hbs⟩ := List.forall_mem_cons.mp h
    rw [Nat.ofDigits_reverse_cons, List.flatMap_cons]
    have hlength : (bs.flatMap fun b => [(b / 16).digitChar, (b % 16).digitChar]).length =
        2 * bs.length := by simp [Nat.mul_comm]
    have happend := (spells_byte hb).append (ih hbs)
    rw [hlength, Nat.pow_mul] at happend
    rwa [Nat.add_comm, Nat.mul_comm]

end Overlay.Text
