import Mathlib.Data.List.DropRight
import Overlay.Text.Blank

namespace Overlay.Text

section

variable {α : Type} {p : α → Bool} {l t : List α}

theorem dropWhile_eq_iff : l.dropWhile p = t ↔
    ∃ before, l = before ++ t ∧ (∀ a ∈ before, p a = true) ∧ ∀ a ∈ t.head?, p a = false := by
  constructor
  · rintro rfl
    refine ⟨l.takeWhile p, List.takeWhile_append_dropWhile.symm,
      fun a ha => List.mem_takeWhile_imp ha, ?_⟩
    intro a ha
    have := List.head?_dropWhile_not p l
    rw [Option.mem_def.mp ha] at this
    simpa using this
  · rintro ⟨before, rfl, hbefore, hhead⟩
    rw [List.dropWhile_append_of_pos hbefore]
    cases t with
    | nil => rfl
    | cons a t => exact List.dropWhile_cons_of_neg (by simp [hhead a rfl])

theorem rdropWhile_eq_iff : l.rdropWhile p = t ↔
    ∃ after, l = t ++ after ∧ (∀ a ∈ after, p a = true) ∧ ∀ a ∈ t.getLast?, p a = false := by
  rw [List.rdropWhile, List.reverse_eq_iff, dropWhile_eq_iff, List.head?_reverse]
  constructor
  · rintro ⟨before, hl, hbefore, hlast⟩
    refine ⟨before.reverse, ?_, fun a ha => hbefore a (List.mem_reverse.mp ha), hlast⟩
    simpa using congrArg List.reverse hl
  · rintro ⟨after, rfl, hafter, hlast⟩
    exact ⟨after.reverse, List.reverse_append, fun a ha => hafter a (List.mem_reverse.mp ha), hlast⟩

end

structure Trimmed (cs t : List Char) : Prop where
  within : ∃ before after, cs = before ++ t ++ after ∧ (∀ c ∈ before, isBlank c = true) ∧
    ∀ c ∈ after, isBlank c = true
  first : ∀ c ∈ t.head?, isBlank c = false
  last : ∀ c ∈ t.getLast?, isBlank c = false

variable {cs t : List Char}

theorem trimmed_iff : Trimmed cs t ↔ trimBlank cs = t := by
  change _ ↔ (cs.dropWhile isBlank).rdropWhile isBlank = t
  constructor
  · rintro ⟨⟨before, after, rfl, hbefore, hafter⟩, hfirst, hlast⟩
    rw [List.append_assoc, List.dropWhile_append_of_pos hbefore, rdropWhile_eq_iff]
    cases t with
    | nil =>
      refine ⟨after.dropWhile isBlank, rfl, fun c hc => ?_, hlast⟩
      exact hafter c ((List.dropWhile_sublist _).mem hc)
    | cons c t => exact ⟨after, List.dropWhile_cons_of_neg (by simp [hfirst c rfl]), hafter, hlast⟩
  · intro h
    obtain ⟨after, hdrop, hafter, hlast⟩ := rdropWhile_eq_iff.mp h
    obtain ⟨before, rfl, hbefore, hfirst⟩ := dropWhile_eq_iff.mp hdrop
    refine ⟨⟨before, after, (List.append_assoc ..).symm, hbefore, hafter⟩, fun c hc => ?_, hlast⟩
    exact hfirst c (List.mem_head?_append_of_mem_head? hc)

theorem Trimmed.mem {c : Char} (h : Trimmed cs t) (hc : c ∈ cs) (hblank : isBlank c = false) :
    c ∈ t := by
  obtain ⟨before, after, rfl, hbefore, hafter⟩ := h.within
  rw [List.mem_append, List.mem_append] at hc
  rcases hc with (hc | hc) | hc
  · exact absurd (hbefore c hc) (by simp [hblank])
  · exact hc
  · exact absurd (hafter c hc) (by simp [hblank])

theorem trimBlank_eq_self (h : ∀ c ∈ cs, isBlank c = false) : trimBlank cs = cs :=
  trimmed_iff.mp ⟨⟨[], [], by simp, by simp, by simp⟩,
    fun c hc => h c (List.mem_of_mem_head? hc), fun c hc => h c (List.mem_of_mem_getLast? hc)⟩

end Overlay.Text
