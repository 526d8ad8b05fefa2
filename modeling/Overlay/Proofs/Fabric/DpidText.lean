import Mathlib.Data.String.Basic
import Overlay.Fabric.Dpid
import Overlay.Proofs.Text.Digits
import Overlay.Proofs.Text.Numeral
import Overlay.Proofs.Text.Trim
/-!
# Switch identifiers as texts

Between the blanks around it a text names a switch in one of two notations: by a decimal numeral, or
by a hexadecimal one that has colons among its digits. Every switch has a name in both, and sixteen
digits are never too large a number.
-/
namespace Overlay

namespace Text

theorem length_le_utf8ByteSize (cs : List Char) :
    cs.length ≤ (String.ofList cs).utf8ByteSize := by
  rw [String.utf8ByteSize_ofList]
  induction cs with
  | nil => exact Nat.le_refl _
  | cons c cs ih => exact Nat.add_le_add ih c.utf8Size_pos

theorem Spells.utf8ByteSize_eq {radix n : Nat} {cs : List Char} (hradix : radix ≤ 16)
    (h : Spells radix cs n) : (String.ofList cs).utf8ByteSize = cs.length := by
  obtain ⟨ds, hds, -⟩ := h
  rw [String.utf8ByteSize_ofList]
  induction hds with
  | nil => rfl
  | @cons c d cs ds hc _ ih =>
    have hascii : c.toNat ≤ 0x7F := by
      have := toNat_of_isDigitOf hradix hc
      omega
    have hsize : c.utf8Size = 1 := if_pos hascii
    rw [String.utf8Len_cons, ih, hsize, List.length_cons]

end Text

namespace Fabric.Dpid

open Text

def uncoloned (t : List Char) : List Char := t.filter (· ≠ ':')

inductive Names : List Char → Dpid → Prop
  | decimal : ':' ∉ t → IsNumeral 10 t d.val.toNat → Names t d
  | colons : ':' ∈ t → (String.ofList (uncoloned t)).utf8ByteSize ≤ 16 →
      IsNumeral 16 (uncoloned t) d.val.toNat → Names t d

def InGroups (t : List Char) (d : Dpid) : Prop :=
  ∃ groups : List (List Char), groups.length = 8 ∧ (∀ g ∈ groups, g.length = 2) ∧
    Spells 16 groups.flatten d.val.toNat ∧ t = [':'].intercalate groups

def bytes (d : Dpid) : List Nat := [7, 6, 5, 4, 3, 2, 1, 0].map fun i => d.val.toNat / 256 ^ i % 256

def colonText (d : Dpid) : List Char :=
  [':'].intercalate (d.bytes.map fun b => [(b / 16).digitChar, (b % 16).digitChar])

example : colonText ⟨1⟩ = "00:00:00:00:00:00:00:01".toList := by decide

variable {t : List Char} {d : Dpid}

theorem numeral?_of_mem (h : ':' ∈ t) : numeral? t =
    if uncoloned t = [] ∨ 16 < (String.ofList (uncoloned t)).utf8ByteSize then none
    else some (numeral 16 UInt64.size (uncoloned t)) :=
  if_pos h

theorem numeral?_of_not_mem (h : ':' ∉ t) : numeral? t = some (numeral 10 UInt64.size t) :=
  if_neg h

theorem numeral?_eq_ok_iff {n : Nat} : numeral? t = some (.ok n) ↔ n < UInt64.size ∧
    if ':' ∈ t then
      (String.ofList (uncoloned t)).utf8ByteSize ≤ 16 ∧ IsNumeral 16 (uncoloned t) n
    else IsNumeral 10 t n := by
  by_cases hcolon : ':' ∈ t
  · rw [numeral?_of_mem hcolon, if_pos hcolon]
    split
    case isTrue hbad =>
      refine ⟨nofun, fun ⟨_, hsize, hnumeral⟩ => ?_⟩
      exact (hbad.elim hnumeral.ne_nil (Nat.not_lt.mpr hsize)).elim
    case isFalse hshort =>
      have hsize := Nat.not_lt.mp (not_or.mp hshort).2
      rw [Option.some_inj, numeral_eq_ok_iff_isNumeral (by decide) (by decide), and_comm,
        and_iff_right hsize]
  · rw [numeral?_of_not_mem hcolon, if_neg hcolon, Option.some_inj,
      numeral_eq_ok_iff_isNumeral (by decide) (by decide), and_comm]

theorem names_iff : Names t d ↔ numeral? t = some (.ok d.val.toNat) := by
  rw [numeral?_eq_ok_iff, and_iff_right d.val.toNat_lt_size]
  constructor
  · intro h
    cases h with
    | decimal hcolon hnumeral => rwa [if_neg hcolon]
    | colons hcolon hsize hnumeral => rw [if_pos hcolon]; exact ⟨hsize, hnumeral⟩
  · split
    · next hcolon => exact fun ⟨hsize, hnumeral⟩ => .colons hcolon hsize hnumeral
    · next hcolon => exact .decimal hcolon

theorem parse_eq_ok_iff {s : String} : parse s = .ok d ↔ ∃ t, Trimmed s.toList t ∧ Names t d := by
  simp only [trimmed_iff, names_iff, exists_eq_left']
  unfold parse
  dsimp only
  split
  next h => simp [h]
  next e h => simp [h]
  next n h =>
    rw [h, Except.ok.injEq, Option.some_inj, Except.ok.injEq]
    constructor
    · rintro rfl
      exact (UInt64.toNat_ofNat_of_lt (numeral?_eq_ok_iff.mp h).1).symm
    · rintro rfl
      rw [UInt64.ofNat_toNat]

theorem numeral?_ne_tooLarge (h : ':' ∈ t) : numeral? t ≠ some (.error .tooLarge) := by
  rw [numeral?_of_mem h]
  split
  case isTrue => exact nofun
  case isFalse hshort =>
    have hlength : (uncoloned t).length ≤ 16 :=
      (length_le_utf8ByteSize _).trans (Nat.not_lt.mp (not_or.mp hshort).2)
    have hlimit : 16 ^ (uncoloned t).length ≤ UInt64.size :=
      Nat.pow_le_pow_right (by decide) hlength
    exact fun heq => numeral_ne_tooLarge (by decide) hlimit (Option.some.inj heq)

theorem parse_ne_tooLarge {s : String} (h : ':' ∈ s.toList) (text : String) :
    parse s ≠ .error ⟨text, some .tooLarge⟩ := by
  have hcolon : ':' ∈ trimBlank s.toList := (trimmed_iff.mpr rfl).mem h (by decide)
  unfold parse
  dsimp only
  split
  next => simp
  next e he =>
    rintro ⟨⟩
    exact numeral?_ne_tooLarge hcolon he
  next => simp

theorem isBlank_of_isDigitOf {radix n : Nat} {c : Char} (hradix : radix ≤ 16)
    (h : IsDigitOf radix c n) : isBlank c = false := by
  have := toNat_of_isDigitOf hradix h
  simp [isBlank]
  omega

theorem isBlank_of_isNumeral {radix n : Nat} {cs : List Char} (hradix : radix ≤ 16)
    (h : IsNumeral radix cs n) : ∀ c ∈ cs, isBlank c = false := by
  intro c hc
  rcases h.eq_plus_or_digit hc with rfl | ⟨d, hd⟩
  · decide
  · exact isBlank_of_isDigitOf hradix hd

theorem Names.isBlank (h : Names t d) : ∀ c ∈ t, isBlank c = false := by
  cases h with
  | decimal _ hnumeral => exact isBlank_of_isNumeral (by decide) hnumeral
  | colons _ _ hnumeral =>
    intro c hc
    by_cases hcolon : c = ':'
    · subst hcolon
      decide
    · exact isBlank_of_isNumeral (by decide) hnumeral c
        (List.mem_filter.mpr ⟨hc, decide_eq_true hcolon⟩)

theorem parse_of_names {before after : List Char} (h : Names t d)
    (hbefore : ∀ c ∈ before, isBlank c = true) (hafter : ∀ c ∈ after, isBlank c = true) :
    parse (String.ofList (before ++ t ++ after)) = .ok d := by
  refine parse_eq_ok_iff.mpr
    ⟨t, ⟨⟨before, after, String.toList_ofList, hbefore, hafter⟩, ?_, ?_⟩, h⟩
  · exact fun c hc => h.isBlank c (List.mem_of_mem_head? hc)
  · exact fun c hc => h.isBlank c (List.mem_of_mem_getLast? hc)

theorem decode_eq (v : Json) : codec.decode v =
    match v.word?, v.text? with
    | some n, _ => pure ⟨n⟩
    | none, some s =>
      match parse s with
      | .ok d => pure d
      | .error e => throw (.refused e.message)
    | none, none => throw .noIdentifier :=
  rfl

theorem decode_word (d : Dpid) : codec.decode (Json.ofWord d.val) = .ok d := by
  rw [decode_eq, Json.word?_ofWord]
  rfl

theorem decode_str {s : String} (h : parse s = .ok d) : codec.decode (Json.str s) = .ok d := by
  have hword : (Json.str s).word? = none := rfl
  have htext : (Json.str s).text? = some s := rfl
  rw [decode_eq, hword, htext]
  simp only [h]
  rfl

theorem names_of_isNumeral (h : IsNumeral 10 t d.val.toNat) : Names t d := by
  refine .decimal (fun hcolon => ?_) h
  rcases h.eq_plus_or_digit hcolon with heq | ⟨n, hn⟩
  · exact absurd heq (by decide)
  · have := toNat_of_isDigitOf (by decide) hn
    revert this
    decide

theorem isNumeral_text (d : Dpid) : IsNumeral 10 d.text.toList d.val.toNat := by
  have htext : d.text.toList = Nat.toDigits 10 d.val.toNat := by simp [text]
  have hnumeral := numeral_toDigits d.val.toNat_lt_size
  rw [htext]
  exact ((numeral_eq_ok_iff_isNumeral (by decide) (by decide)).mp hnumeral).1

theorem uncoloned_intercalate {groups : List (List Char)} (h : ∀ g ∈ groups, ':' ∉ g) :
    uncoloned ([':'].intercalate groups) = groups.flatten := by
  have hself {g : List Char} (hg : ':' ∉ g) : g.filter (· ≠ ':') = g := by
    refine List.filter_eq_self.mpr fun c hc => decide_eq_true ?_
    rintro rfl
    exact hg hc
  induction groups with
  | nil => rfl
  | cons g groups ih =>
    obtain ⟨hg, hgroups⟩ := List.forall_mem_cons.mp h
    cases groups with
    | nil => simpa [uncoloned] using hself hg
    | cons g' groups =>
      have hsign : [':'].filter (· ≠ ':') = [] := rfl
      rw [List.intercalate_cons_cons, List.flatten_cons, ← ih hgroups, uncoloned,
        List.filter_append, List.filter_append, hself hg, hsign, List.append_nil]
      rfl

theorem names_of_inGroups (h : InGroups t d) : Names t d := by
  obtain ⟨groups, hcount, htwo, hspells, rfl⟩ := h
  have hcolon : ∀ g ∈ groups, ':' ∉ g := by
    intro g hg hc
    obtain ⟨n, hn⟩ := hspells.exists_digit (List.mem_flatten_of_mem hg hc)
    have := toNat_of_isDigitOf (by decide) hn
    revert this
    decide
  have hlength : groups.flatten.length = 16 := by
    rw [List.length_flatten, List.map_congr_left htwo]
    simp [hcount]
  have hne : groups.flatten ≠ [] := by
    intro h
    simp [h] at hlength
  refine .colons ?_ ?_ ?_
  · match groups with
    | g :: g' :: groups => simp [List.intercalate_cons_cons]
  · rw [uncoloned_intercalate hcolon, hspells.utf8ByteSize_eq (by decide), hlength]
  · rw [uncoloned_intercalate hcolon]
    exact ⟨_, .inl rfl, hne, hspells⟩

theorem inGroups_colonText (d : Dpid) : InGroups d.colonText d := by
  refine ⟨_, rfl, ?_, ?_, rfl⟩
  · intro g hg
    obtain ⟨b, -, rfl⟩ := List.mem_map.mp hg
    rfl
  · have hbytes : ∀ b ∈ d.bytes, b < 256 := by
      intro b hb
      obtain ⟨i, -, rfl⟩ := List.mem_map.mp hb
      exact Nat.mod_lt _ (by decide)
    have hvalue : Nat.ofDigits 256 d.bytes.reverse = d.val.toNat := by
      have := d.val.toNat_lt
      simp only [bytes, List.map_cons, List.map_nil, List.reverse_cons, List.reverse_nil,
        List.nil_append, List.cons_append, Nat.ofDigits_cons, Nat.ofDigits_nil]
      norm_num
      omega
    rw [← List.flatMap_def, ← hvalue]
    exact spells_bytes hbytes

/-- A text is read as the switch that it names between its blanks, and as nothing else; every switch
has its number and its bytes for names. -/
theorem parse_reads_names (s : String) (d : Dpid) :
    (parse s = .ok d ↔ ∃ t, Trimmed s.toList t ∧ Names t d) ∧
    (':' ∈ s.toList → ∀ text, parse s ≠ .error ⟨text, some .tooLarge⟩) ∧
    (InGroups d.colonText d ∧ ∀ t, t = d.text.toList ∨ InGroups t d → ∀ before after,
      (∀ c ∈ before, isBlank c = true) → (∀ c ∈ after, isBlank c = true) →
        let padded := String.ofList (before ++ t ++ after)
        parse padded = .ok d ∧ codec.decode (Json.str padded) = .ok d) ∧
    codec.decode (Json.ofWord d.val) = .ok d := by
  refine ⟨parse_eq_ok_iff, parse_ne_tooLarge, ⟨inGroups_colonText d, ?_⟩, decode_word d⟩
  intro t ht before after hbefore hafter padded
  have hnames : Names t d := by
    rcases ht with rfl | ht
    · exact names_of_isNumeral (isNumeral_text d)
    · exact names_of_inGroups ht
  have hparse := parse_of_names hnames hbefore hafter
  exact ⟨hparse, decode_str hparse⟩

theorem parse_reads_names_padded :
    let s := "\u2003:+1:aB\t"
    (':' ∈ s.toList ∧ ∃ t, Trimmed s.toList t ∧ Names t ⟨427⟩) ∧
    (∀ text, parse s ≠ .error ⟨text, some .tooLarge⟩) ∧
    parse (String.ofList (['\u00a0'] ++ colonText ⟨427⟩ ++ ['\n'])) = .ok ⟨427⟩ := by
  intro s
  have hcolon : ':' ∈ s.toList := by decide
  obtain ⟨hreads, hlimit, ⟨hgroups, hpadded⟩, -⟩ := parse_reads_names s ⟨427⟩
  refine ⟨⟨hcolon, hreads.mp (by decide)⟩, hlimit hcolon, ?_⟩
  exact (hpadded _ (.inr hgroups) ['\u00a0'] ['\n'] (List.forall_mem_singleton.mpr rfl)
    (List.forall_mem_singleton.mpr rfl)).1

end Fabric.Dpid
end Overlay
