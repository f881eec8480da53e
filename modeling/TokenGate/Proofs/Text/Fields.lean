import TokenGate.Text.Basic

/-! # Fields between separators -/

namespace TokenGate.Text

theorem fields_cons (sep c : Char) (s : List Char) :
    fields sep (c :: s) =
      if c = sep then [] :: fields sep s else (fields sep s).modifyHead (c :: ·) := by
  by_cases h : c = sep <;> simp [fields, cut, h]

theorem fields_eq_splitOn (sep : Char) (s : List Char) : fields sep s = s.splitOn sep := by
  induction s with
  | nil => rw [List.splitOn_nil]; rfl
  | cons c s ih => rw [fields_cons, List.splitOn_cons_eq_if_modifyHead, ih]; simp

theorem not_mem_of_mem_fields {sep : Char} {s p : List Char} (h : p ∈ fields sep s) : sep ∉ p := by
  induction s generalizing p with
  | nil =>
    simp only [fields, cut, List.mem_singleton] at h
    simp [h]
  | cons c s ih =>
    rw [fields_cons] at h
    split at h
    · rcases List.mem_cons.mp h with rfl | h
      · simp
      · exact ih h
    · rename_i hc
      simp only [fields, List.modifyHead_cons, List.mem_cons] at h
      rcases h with rfl | h
      · have := ih (p := (cut sep s).1) (by simp [fields])
        simp [this, Ne.symm hc]
      · exact ih (by simp [fields, h])

theorem fields_eq_iff {sep : Char} {s : List Char} {ps : List (List Char)} :
    fields sep s = ps ↔ ps ≠ [] ∧ s = [sep].intercalate ps ∧ ∀ p ∈ ps, sep ∉ p := by
  constructor
  · rintro rfl
    refine ⟨fields_ne_nil sep s, ?_, fun p hp => not_mem_of_mem_fields hp⟩
    rw [fields_eq_splitOn, List.intercalate_splitOn]
  · rintro ⟨hne, rfl, hp⟩
    rw [fields_eq_splitOn, List.splitOn_intercalate sep hp hne]

theorem length_fields (sep : Char) (s : List Char) : (fields sep s).length = s.count sep + 1 := by
  induction s with
  | nil => rfl
  | cons c s ih =>
    rw [fields_cons]
    by_cases h : c = sep <;> simp [h, ih]

theorem head?_fields (sep : Char) (s : List Char) :
    (fields sep s).head? = some (s.takeWhile (· ≠ sep)) := by
  induction s with
  | nil => rfl
  | cons c s ih =>
    rw [fields_cons]
    by_cases h : c = sep <;> simp [h, ih]

/-! ## The first separator -/

theorem splitOnce_append_sep {sep : Char} {before : List Char} (after : List Char)
    (h : sep ∉ before) :
    splitOnce sep (before ++ sep :: after) = some (before, after) := by
  induction before with
  | nil => simp [splitOnce]
  | cons c rest ih =>
    simp only [List.mem_cons, not_or] at h
    simp [splitOnce, Ne.symm h.1, ih h.2]

theorem splitOnce_eq_some_iff {sep : Char} {s before after : List Char} :
    splitOnce sep s = some (before, after) ↔ s = before ++ sep :: after ∧ sep ∉ before := by
  refine ⟨fun h => ?_, fun ⟨split, apart⟩ => split ▸ splitOnce_append_sep after apart⟩
  induction s generalizing before with
  | nil => cases h
  | cons c s ih =>
    unfold splitOnce at h
    split at h
    · rename_i same
      obtain ⟨rfl, rfl⟩ := Prod.mk.inj (Option.some.inj h)
      simp [same]
    · rename_i other
      obtain ⟨⟨rest, _⟩, cut, same⟩ := Option.map_eq_some_iff.1 h
      obtain ⟨rfl, rfl⟩ := Prod.mk.inj same
      obtain ⟨rfl, apart⟩ := ih cut
      exact ⟨rfl, by simp [Ne.symm other, apart]⟩

end TokenGate.Text
