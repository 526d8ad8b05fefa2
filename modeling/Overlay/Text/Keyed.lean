namespace Overlay.Text

def insertKey (k : String) (v : α) : List (String × α) → List (String × α)
  | [] => [(k, v)]
  | (k', v') :: ms =>
    if k < k' then (k, v) :: (k', v') :: ms
    else if k = k' then (k, v) :: ms
    else (k', v') :: insertKey k v ms

/-- Pairs in ascending key order, the last of each key. -/
def sortKeys (ms : List (String × α)) : List (String × α) :=
  ms.foldl (fun sorted m => insertKey m.1 m.2 sorted) []

@[simp] theorem lookup_insertKey_self (k : String) (v : α) (ms : List (String × α)) :
    (insertKey k v ms).lookup k = some v := by
  induction ms with
  | nil => simp [insertKey]
  | cons m ms ih =>
    obtain ⟨k', v'⟩ := m
    simp only [insertKey]
    split
    · simp
    · split
      · simp
      · next h => simp [List.lookup_cons, beq_eq_false_iff_ne.mpr h, ih]

theorem lookup_insertKey_of_ne {k l : String} (h : l ≠ k) (v : α) (ms : List (String × α)) :
    (insertKey k v ms).lookup l = ms.lookup l := by
  induction ms with
  | nil => simp [insertKey, List.lookup_cons, beq_eq_false_iff_ne.mpr h]
  | cons m ms ih =>
    obtain ⟨k', v'⟩ := m
    simp only [insertKey]
    split
    · simp [List.lookup_cons, beq_eq_false_iff_ne.mpr h]
    · split
      · next e => subst e; simp [List.lookup_cons, beq_eq_false_iff_ne.mpr h]
      · simp only [List.lookup_cons, ih]

theorem lookup_foldl_insertKey (k : String) (ms sorted : List (String × α)) :
    (ms.foldl (fun sorted m => insertKey m.1 m.2 sorted) sorted).lookup k =
      (ms.reverse.lookup k).or (sorted.lookup k) := by
  induction ms generalizing sorted with
  | nil => rfl
  | cons m ms ih =>
    obtain ⟨k', v⟩ := m
    rw [List.foldl_cons, ih, List.reverse_cons, List.lookup_append, Option.or_assoc]
    congr 1
    by_cases h : k = k'
    · subst h
      simp
    · rw [lookup_insertKey_of_ne h]
      simp [List.lookup_cons, beq_eq_false_iff_ne.mpr h]

theorem lookup_sortKeys (k : String) (ms : List (String × α)) :
    (sortKeys ms).lookup k = ms.reverse.lookup k := by
  rw [sortKeys, lookup_foldl_insertKey]
  exact Option.or_none

theorem mem_insertKey {k : String} {v : α} {m : String × α} {ms : List (String × α)}
    (h : m ∈ insertKey k v ms) : m = (k, v) ∨ m ∈ ms := by
  induction ms with
  | nil => exact .inl (List.mem_singleton.mp h)
  | cons n ms ih =>
    rw [insertKey] at h
    split at h
    · exact List.mem_cons.mp h
    · split at h
      · exact (List.mem_cons.mp h).imp_right (.tail _)
      · cases h with
        | head => exact .inr (.head _)
        | tail _ h => exact (ih h).imp_right (.tail _)

theorem pairwise_insertKey {k : String} {v : α} {ms : List (String × α)}
    (h : ms.Pairwise fun m n => m.1 < n.1) :
    (insertKey k v ms).Pairwise fun m n => m.1 < n.1 := by
  induction h with
  | nil => exact List.pairwise_singleton ..
  | @cons n ms hfirst hrest ih =>
    rw [insertKey]
    split
    case isTrue hlt =>
      refine .cons (fun m hm => ?_) (.cons hfirst hrest)
      cases hm with
      | head => exact hlt
      | tail _ hm => exact String.lt_trans hlt (hfirst m hm)
    case isFalse hle =>
      split
      case isTrue heq => exact .cons (fun m hm => heq ▸ hfirst m hm) hrest
      case isFalse hne =>
        refine .cons (fun m hm => ?_) ih
        rcases mem_insertKey hm with rfl | hm
        · exact String.not_le.mp fun hge => hne (String.le_antisymm hge (String.not_lt.mp hle))
        · exact hfirst m hm

theorem pairwise_sortKeys (ms : List (String × α)) :
    (sortKeys ms).Pairwise fun m n => m.1 < n.1 := by
  suffices h : ∀ sorted : List (String × α), sorted.Pairwise (fun m n => m.1 < n.1) →
      (ms.foldl (fun sorted m => insertKey m.1 m.2 sorted) sorted).Pairwise
        fun m n => m.1 < n.1 from h [] .nil
  induction ms with
  | nil => exact fun _ h => h
  | cons m ms ih => exact fun _ h => ih _ (pairwise_insertKey h)

end Overlay.Text
