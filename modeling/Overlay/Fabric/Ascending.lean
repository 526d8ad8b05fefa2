namespace Overlay.Fabric

class StrictTotal (κ : Type) [LT κ] : Prop where
  irrefl (a : κ) : ¬a < a
  trans {a b c : κ} : a < b → b < c → a < c
  lt_of_not_lt {a b : κ} : ¬a < b → a ≠ b → b < a

variable [LT κ] [DecidableLT κ] [DecidableEq κ]

def insertAscending (key : α → κ) (a : α) : List α → List α
  | [] => [a]
  | b :: l =>
    if key a < key b then a :: b :: l
    else if key a = key b then b :: l
    else b :: insertAscending key a l

/-- The values in ascending order of `key`, the first of each key. -/
def ascending (key : α → κ) (l : List α) : List α :=
  l.foldl (fun sorted a => insertAscending key a sorted) []

theorem mem_insertAscending {key : α → κ} {a b : α} {l : List α}
    (h : b ∈ insertAscending key a l) : b = a ∨ b ∈ l := by
  induction l with
  | nil => simpa [insertAscending] using h
  | cons c l ih =>
    simp only [insertAscending] at h
    split at h
    · simpa using h
    · split at h
      · exact .inr h
      · rcases List.mem_cons.mp h with rfl | h
        · exact .inr (.head _)
        · exact (ih h).imp id (.tail _)

theorem mem_insertAscending_of_mem {key : α → κ} {a b : α} {l : List α} (h : b ∈ l) :
    b ∈ insertAscending key a l := by
  induction l with
  | nil => cases h
  | cons c l ih =>
    simp only [insertAscending]
    split
    · exact .tail _ h
    · split
      · exact h
      · cases h with
        | head => exact .head _
        | tail _ h => exact .tail _ (ih h)

theorem exists_mem_insertAscending (key : α → κ) (a : α) (l : List α) :
    ∃ b ∈ insertAscending key a l, key b = key a := by
  induction l with
  | nil => exact ⟨a, .head _, rfl⟩
  | cons c l ih =>
    simp only [insertAscending]
    split
    · exact ⟨a, .head _, rfl⟩
    · split
      · next h => exact ⟨c, .head _, h.symm⟩
      · obtain ⟨b, hb, h⟩ := ih
        exact ⟨b, .tail _ hb, h⟩

theorem pairwise_insertAscending [StrictTotal κ] {key : α → κ} {l : List α} (a : α)
    (h : l.Pairwise (key · < key ·)) : (insertAscending key a l).Pairwise (key · < key ·) := by
  induction l with
  | nil => simp [insertAscending]
  | cons c l ih =>
    simp only [insertAscending]
    rw [List.pairwise_cons] at h
    split
    · next hac =>
      refine List.pairwise_cons.mpr ⟨?_, List.pairwise_cons.mpr h⟩
      intro b hb
      rcases List.mem_cons.mp hb with rfl | hb
      · exact hac
      · exact StrictTotal.trans hac (h.1 b hb)
    · split
      · exact List.pairwise_cons.mpr h
      · next hac hne =>
        refine List.pairwise_cons.mpr ⟨?_, ih h.2⟩
        intro b hb
        rcases mem_insertAscending hb with rfl | hb
        · exact StrictTotal.lt_of_not_lt hac hne
        · exact h.1 b hb

theorem pairwise_foldl_insertAscending [StrictTotal κ] {key : α → κ} (l : List α)
    {sorted : List α} (h : sorted.Pairwise (key · < key ·)) :
    (l.foldl (fun sorted a => insertAscending key a sorted) sorted).Pairwise
      (key · < key ·) := by
  induction l generalizing sorted with
  | nil => exact h
  | cons a l ih => exact ih (pairwise_insertAscending a h)

theorem pairwise_ascending [StrictTotal κ] (key : α → κ) (l : List α) :
    (ascending key l).Pairwise (key · < key ·) :=
  pairwise_foldl_insertAscending l .nil

end Overlay.Fabric
