import Overlay.Fabric.Order
import Overlay.Proofs.Fabric.DpidText
import Overlay.Proofs.Text.Leading

namespace Overlay.Fabric.Dpid

open Text

structure Grouped (s : String) (groups : List (List Char)) : Prop where
  trimmed : Trimmed s.toList ([':'].intercalate groups)
  ne_nil : groups ≠ []
  apart : ∀ g ∈ groups, ':' ∉ g

/-- A text with colons is read as a switch, and these are its groups. -/
structure ReadInGroups (s : String) (groups : List (List Char)) (d : Dpid) : Prop where
  colon : ':' ∈ s.toList
  read : parse s = .ok d
  grouped : Grouped s groups

def MadeOf (groups : List (List Char)) (ds : List Nat) : Prop :=
  ∃ digits, (groups.flatten = digits ∨ groups.flatten = '+' :: digits) ∧ digits ≠ [] ∧
    List.Forall₂ (IsDigitOf 16) digits ds

def IsByte (g : List Char) (b : Nat) : Prop := (g.length = 1 ∨ g.length = 2) ∧ Spells 16 g b

/-- After a group with another digit than zero all groups have two digits. -/
def Padded (groups : List (List Char)) : Prop :=
  groups.Pairwise fun g g' => (∀ c ∈ g, c = '0') ∨ g'.length = 2

instance (groups : List (List Char)) : Decidable (Padded groups) :=
  decidable_of_iff (groups.Pairwise fun g g' => g.all (· = '0') ∨ g'.length = 2)
    (by simp only [Padded, List.all_eq_true, decide_eq_true_eq])

variable {s : String} {d : Dpid} {g : List Char} {groups : List (List Char)} {b : Nat}
  {bs ds : List Nat}

theorem exists_groups (t : List Char) :
    ∃ groups : List (List Char), groups ≠ [] ∧ (∀ g ∈ groups, ':' ∉ g) ∧
      [':'].intercalate groups = t := by
  induction t with
  | nil => exact ⟨[[]], by simp, by simp, rfl⟩
  | cons c t ih =>
    obtain ⟨groups, hne, hapart, rfl⟩ := ih
    obtain ⟨g, groups, rfl⟩ := List.exists_cons_of_ne_nil hne
    by_cases hc : c = ':'
    · subst hc
      refine ⟨[] :: g :: groups, List.cons_ne_nil _ _, ?_, ?_⟩
      · exact List.forall_mem_cons.mpr ⟨List.not_mem_nil, hapart⟩
      · rw [List.intercalate_cons_cons]
        rfl
    · obtain ⟨hg, hgroups⟩ := List.forall_mem_cons.mp hapart
      refine ⟨(c :: g) :: groups, List.cons_ne_nil _ _, ?_, ?_⟩
      · exact List.forall_mem_cons.mpr ⟨by simp [hg, Ne.symm hc], hgroups⟩
      · cases groups with
        | nil => simp
        | cons g' groups => simp [List.intercalate_cons_cons]

theorem exists_grouped (s : String) : ∃ groups, Grouped s groups := by
  obtain ⟨groups, hne, hapart, hgroups⟩ := exists_groups (trimBlank s.toList)
  exact ⟨groups, hgroups ▸ trimmed_iff.mpr rfl, hne, hapart⟩

theorem Grouped.eq_splitOn (h : Grouped s groups) : groups = (trimBlank s.toList).splitOn ':' := by
  rw [trimmed_iff.mp h.trimmed, List.splitOn_intercalate _ h.apart h.ne_nil]

theorem ReadInGroups.isNumeral (h : ReadInGroups s groups d) :
    IsNumeral 16 groups.flatten d.val.toNat ∧
      (String.ofList groups.flatten).utf8ByteSize ≤ 16 := by
  obtain ⟨hcolon, hread, hgroups⟩ := h
  obtain ⟨t, htrimmed, hnames⟩ := parse_eq_ok_iff.mp hread
  obtain rfl : [':'].intercalate groups = t :=
    (trimmed_iff.mp hgroups.trimmed).symm.trans (trimmed_iff.mp htrimmed)
  cases hnames with
  | decimal hplain _ => exact absurd (htrimmed.mem hcolon (by decide)) hplain
  | colons _ hsize hnumeral =>
    rw [uncoloned_intercalate hgroups.apart] at hsize hnumeral
    exact ⟨hnumeral, hsize⟩

theorem MadeOf.isNumeral (h : MadeOf groups ds) :
    IsNumeral 16 groups.flatten (Nat.ofDigits 16 ds.reverse) := by
  obtain ⟨digits, heq, hne, hds⟩ := h
  exact ⟨digits, heq, hne, ds, hds, rfl⟩

theorem exists_madeOf {n : Nat} (h : IsNumeral 16 groups.flatten n) :
    ∃ ds, MadeOf groups ds ∧ Nat.ofDigits 16 ds.reverse = n := by
  obtain ⟨digits, heq, hne, ds, hds, hn⟩ := h
  exact ⟨ds, ⟨digits, heq, hne, hds⟩, hn⟩

theorem MadeOf.lt (h : MadeOf groups ds) : ∀ d ∈ ds, d < 16 := by
  obtain ⟨_, -, -, hds⟩ := h
  exact forall_mem_of_forall₂ hds And.left

theorem IsByte.lt (h : IsByte g b) : b < 256 := by
  obtain ⟨hlength, hspells⟩ := h
  have hlt := hspells.lt (by decide)
  rcases hlength with hlength | hlength <;> rw [hlength] at hlt <;> omega

theorem isByte_iff :
    IsByte g b ↔ (g.length = 1 ∨ g.length = 2) ∧ appendDigits 16 256 0 g = .ok b := by
  refine and_congr_right fun hlength => ?_
  have hne : g ≠ [] := by
    rintro rfl
    simp at hlength
  rw [appendDigits_zero_eq_ok_iff (by decide) (by decide) hne]
  exact ⟨fun h => ⟨h, IsByte.lt ⟨hlength, h⟩⟩, And.left⟩

instance (g : List Char) (b : Nat) : Decidable (IsByte g b) := decidable_of_iff _ isByte_iff.symm

theorem length_flatten_le (h : List.Forall₂ IsByte groups bs) :
    groups.flatten.length ≤ 2 * bs.length ∧
      (groups.flatten.length = 2 * bs.length ↔ ∀ g ∈ groups, g.length = 2) := by
  induction h with
  | nil => simp
  | @cons g b groups bs hb _ ih =>
    rw [List.flatten_cons, List.length_append, List.length_cons, List.forall_mem_cons, ← ih.2]
    have := hb.1
    omega

theorem spells_flatten (h : List.Forall₂ IsByte groups bs) :
    ∃ n, Spells 16 groups.flatten n ∧ n ≤ Nat.ofDigits 256 bs.reverse ∧
      (n = Nat.ofDigits 256 bs.reverse ↔ Padded groups) := by
  induction h with
  | nil => exact ⟨0, ⟨[], .nil, rfl⟩, by simp [Padded]⟩
  | @cons g b groups bs hb hbs ih =>
    obtain ⟨n, hspells, hle, hpadded⟩ := ih
    obtain ⟨hlength, htwo⟩ := length_flatten_le hbs
    have hpow : 256 ^ bs.length = 16 ^ (2 * bs.length) := by rw [Nat.pow_mul]
    have hshift : b * 16 ^ groups.flatten.length ≤ b * 16 ^ (2 * bs.length) :=
      Nat.mul_le_mul_left b (Nat.pow_le_pow_right (by decide) hlength)
    have hzero : b = 0 ↔ ∀ c ∈ g, c = '0' := hb.2.eq_zero_iff (by decide) (by decide)
    have hexact : b * 16 ^ groups.flatten.length = b * 16 ^ (2 * bs.length) ↔
        ∀ g' ∈ groups, (∀ c ∈ g, c = '0') ∨ g'.length = 2 := by
      rw [mul_eq_mul_left_iff, Nat.pow_right_inj (by decide), htwo, hzero]
      by_cases hzeros : ∀ c ∈ g, c = '0'
      · exact iff_of_true (.inr hzeros) fun _ _ => .inl hzeros
      · simp only [hzeros, or_false, false_or]
    refine ⟨_, hb.2.append hspells, ?_, ?_⟩
    · rw [Nat.ofDigits_reverse_cons, hpow, Nat.mul_comm (16 ^ _) b]
      omega
    · rw [Nat.ofDigits_reverse_cons, hpow, Nat.mul_comm (16 ^ _) b, Padded, List.pairwise_cons,
        ← hexact, ← Padded, ← hpadded]
      omega

theorem toNat_inj {d d' : Dpid} : d.val.toNat = d'.val.toNat ↔ d = d' :=
  ⟨eq_of_toNat, congrArg fun d : Dpid => d.val.toNat⟩

namespace ReadInGroups

theorem ofDigits_eq (h : ReadInGroups s groups d) (hds : MadeOf groups ds) :
    Nat.ofDigits 16 ds.reverse = d.val.toNat :=
  hds.isNumeral.unique (by decide) (by decide) h.isNumeral.1

theorem of_bytes (h : ReadInGroups s groups d) (hbs : List.Forall₂ IsByte groups bs) :
    d.val.toNat ≤ Nat.ofDigits 256 bs.reverse ∧
      (d.val.toNat = Nat.ofDigits 256 bs.reverse ↔ Padded groups) := by
  obtain ⟨n, hspells, hle, hpadded⟩ := spells_flatten hbs
  have hn : IsNumeral 16 groups.flatten n :=
    ⟨_, .inl rfl, h.isNumeral.1.ne_nil, hspells⟩
  obtain rfl := h.isNumeral.1.unique (by decide) (by decide) hn
  exact ⟨hle, hpadded⟩

theorem length_significant_le (h : ReadInGroups s groups d) (hbs : List.Forall₂ IsByte groups bs)
    (hpadded : Padded groups) : (significant bs).length ≤ 8 := by
  apply Text.length_significant_le (by decide) (forall_mem_of_forall₂ hbs IsByte.lt)
  rw [← (h.of_bytes hbs).2.mpr hpadded]
  exact d.val.toNat_lt

variable {s' : String} {d' : Dpid} {groups' : List (List Char)} {bs' ds' : List Nat}

theorem eq_iff (h : ReadInGroups s groups d) (h' : ReadInGroups s' groups' d')
    (hds : MadeOf groups ds) (hds' : MadeOf groups' ds') :
    d = d' ↔ significant ds = significant ds' := by
  rw [← ofDigits_reverse_eq_iff (by decide) hds.lt hds'.lt, h.ofDigits_eq hds,
    h'.ofDigits_eq hds', toNat_inj]

theorem eq_iff_of_bytes (h : ReadInGroups s groups d) (h' : ReadInGroups s' groups' d')
    (hbs : List.Forall₂ IsByte groups bs) (hbs' : List.Forall₂ IsByte groups' bs')
    (hpadded : Padded groups) (hpadded' : Padded groups') :
    d = d' ↔ significant bs = significant bs' := by
  rw [← ofDigits_reverse_eq_iff (by decide) (forall_mem_of_forall₂ hbs IsByte.lt)
    (forall_mem_of_forall₂ hbs' IsByte.lt), ← (h.of_bytes hbs).2.mpr hpadded,
    ← (h'.of_bytes hbs').2.mpr hpadded', toNat_inj]

end ReadInGroups

/-- A text with colons is read as the number that all its digits make up, wherever the colons
stand. That is the number of the bytes between them exactly if none that is written with one digit
stands after another digit than zero. -/
theorem parse_reads_groups (hcolon : ':' ∈ s.toList) (h : parse s = .ok d) :
    ∃ groups ds, Grouped s groups ∧ MadeOf groups ds ∧ groups.flatten.length ≤ 16 ∧
      Nat.ofDigits 16 ds.reverse = d.val.toNat ∧
      (∀ bs, List.Forall₂ IsByte groups bs →
        d.val.toNat ≤ Nat.ofDigits 256 bs.reverse ∧
        (d.val.toNat = Nat.ofDigits 256 bs.reverse ↔ Padded groups) ∧
        (Padded groups → (significant bs).length ≤ 8)) ∧
      ∀ s' groups' d', ReadInGroups s' groups' d' →
        (∀ ds', MadeOf groups' ds' → (d = d' ↔ significant ds = significant ds')) ∧
        ∀ bs bs', List.Forall₂ IsByte groups bs → List.Forall₂ IsByte groups' bs' →
          Padded groups → Padded groups' → (d = d' ↔ significant bs = significant bs') := by
  obtain ⟨groups, hgroups⟩ := exists_grouped s
  have hread : ReadInGroups s groups d := ⟨hcolon, h, hgroups⟩
  obtain ⟨hnumeral, hsize⟩ := hread.isNumeral
  obtain ⟨ds, hds, hvalue⟩ := exists_madeOf hnumeral
  refine ⟨groups, ds, hgroups, hds, (length_le_utf8ByteSize _).trans hsize, hvalue, ?_, ?_⟩
  · intro bs hbs
    obtain ⟨hle, hexact⟩ := hread.of_bytes hbs
    exact ⟨hle, hexact, hread.length_significant_le hbs⟩
  · intro s' groups' d' hread'
    exact ⟨fun ds' => hread.eq_iff hread' hds, fun bs bs' => hread.eq_iff_of_bytes hread'⟩

theorem parse_reads_groups_padded :
    let s := "\t0:1:aB:0c "
    let groups := ["0".toList, "1".toList, "aB".toList, "0c".toList]
    ':' ∈ s.toList ∧ parse s = .ok ⟨109324⟩ ∧ Grouped s groups ∧
      List.Forall₂ IsByte groups [0, 1, 171, 12] ∧ Padded groups ∧
      109324 = Nat.ofDigits 256 [12, 171, 1, 0] := by
  intro s groups
  have hcolon : ':' ∈ s.toList := by decide
  have hparse : parse s = .ok ⟨109324⟩ := by decide
  have hpadded : Padded groups := by decide
  have hbs : List.Forall₂ IsByte groups [0, 1, 171, 12] := by decide
  obtain ⟨groups', ds, hgroups, -, -, -, hbytes, -⟩ := parse_reads_groups hcolon hparse
  obtain rfl : groups' = groups := hgroups.eq_splitOn.trans (by decide)
  exact ⟨hcolon, hparse, hgroups, hbs, hpadded, (hbytes _ hbs).2.1.mpr hpadded⟩

def InBytes (s : String) (d : Dpid) : Prop :=
  ∃ groups bs, Grouped s groups ∧ List.Forall₂ IsByte groups bs ∧ bs.length ≤ 8 ∧
    Nat.ofDigits 256 bs.reverse = d.val.toNat

/-- Groups of one digit are not read as bytes of their own, and others need not be bytes. -/
theorem parse_of_unpadded :
    (':' ∈ "0:0:0:0:0:0:1:0".toList ∧ parse "0:0:0:0:0:0:1:0" = .ok ⟨16⟩ ∧
      ¬InBytes "0:0:0:0:0:0:1:0" ⟨16⟩) ∧
    (':' ∈ "+1::234".toList ∧ parse "+1::234" = .ok ⟨4660⟩ ∧ ¬InBytes "+1::234" ⟨4660⟩) := by
  refine ⟨⟨by decide, by decide, ?_⟩, ⟨by decide, by decide, ?_⟩⟩
  · rintro ⟨groups, bs, hgroups, hbs, -, hvalue⟩
    obtain rfl := hgroups.eq_splitOn
    have hread : ReadInGroups "0:0:0:0:0:0:1:0" _ ⟨16⟩ := ⟨by decide, by decide, hgroups⟩
    exact absurd ((hread.of_bytes hbs).2.mp hvalue.symm) (by decide)
  · rintro ⟨groups, bs, hgroups, hbs, -, -⟩
    obtain rfl := hgroups.eq_splitOn
    have hlengths := forall_mem_of_forall₂ hbs.flip And.left
    exact absurd hlengths (by decide)

end Overlay.Fabric.Dpid
