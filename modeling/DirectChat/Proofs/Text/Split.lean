import DirectChat.Text.Split
/-!
# Pieces between separators

A text that is put together at a separator has the pieces of both parts (`splitOnChar_append_sep`). A piece in which the
separator does not stand is split off whole, in front of others and alone.
-/

namespace DirectChat

variable {sep : Char}

theorem splitOnChar_ne_nil (sep : Char) (cs : List Char) : splitOnChar sep cs ≠ [] := by
  cases cs with
  | nil => simp [splitOnChar]
  | cons c cs =>
    simp only [splitOnChar, List.foldr_cons]
    split
    · simp
    · split <;> simp

theorem splitOnChar_append_sep (front rest : List Char) :
    splitOnChar sep (front ++ sep :: rest) = splitOnChar sep front ++ splitOnChar sep rest := by
  induction front with
  | nil => simp [splitOnChar]
  | cons c front ih =>
    obtain ⟨piece, pieces, hpieces⟩ := List.exists_cons_of_ne_nil (splitOnChar_ne_nil sep front)
    rw [hpieces] at ih
    simp only [splitOnChar] at hpieces ih ⊢
    by_cases hc : c = sep
    · simp [hc, ih, hpieces]
    · simp [hc, ih, hpieces]

theorem splitOnChar_of_not_mem {piece : List Char} (h : sep ∉ piece) : splitOnChar sep piece = [piece] := by
  induction piece with
  | nil => rfl
  | cons c piece ih =>
    simp only [List.mem_cons, not_or] at h
    have hrest : splitOnChar sep piece = [piece] := ih h.2
    simp only [splitOnChar] at hrest
    simp [splitOnChar, hrest, Ne.symm h.1]

theorem splitOnChar_append {piece : List Char} (h : sep ∉ piece) (rest : List Char) :
    splitOnChar sep (piece ++ sep :: rest) = piece :: splitOnChar sep rest := by
  rw [splitOnChar_append_sep, splitOnChar_of_not_mem h, List.singleton_append]

/-- A text is one piece, or is split at its first separator. -/
theorem splitOnChar_cases (sep : Char) (cs : List Char) : (sep ∉ cs ∧ splitOnChar sep cs = [cs]) ∨
    ∃ piece rest, sep ∉ piece ∧ cs = piece ++ sep :: rest ∧ splitOnChar sep cs = piece :: splitOnChar sep rest := by
  by_cases h : sep ∈ cs
  · obtain ⟨piece, rest, rfl, hpiece⟩ := List.eq_append_cons_of_mem h
    exact .inr ⟨piece, rest, hpiece, rfl, splitOnChar_append hpiece rest⟩
  · exact .inl ⟨h, splitOnChar_of_not_mem h⟩

end DirectChat
