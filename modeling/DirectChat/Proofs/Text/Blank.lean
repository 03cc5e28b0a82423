import DirectChat.Text.Blank
import Mathlib
/-!
# Text without its ends

What is stripped off at the end of a text may as well not stand there (`stripEnds_append`), and a text whose first and
last character are not stripped off stays as it is (`stripEnds_eq_self`). Blanks have no small letter of their own.
-/

namespace DirectChat

theorem stripEnds_append {p : Char → Bool} {cs ends : List Char} (h : ∀ c ∈ ends, p c = true) :
    stripEnds p (cs ++ ends) = stripEnds p cs := by
  simp only [stripEnds, List.dropWhile_append]
  by_cases hcs : (cs.dropWhile p).isEmpty
  · have hends : ends.dropWhile p = [] := List.dropWhile_eq_nil_iff.2 h
    rw [if_pos hcs, hends, List.isEmpty_iff.1 hcs]
  · have hback : ∀ c ∈ ends.reverse, p c = true := fun c hc => h c (List.mem_reverse.1 hc)
    rw [if_neg hcs, List.reverse_append, List.dropWhile_append_of_pos hback]

theorem stripEnds_eq_self {p : Char → Bool} {cs : List Char} (hhead : ∀ c ∈ cs.head?, p c = false)
    (hlast : ∀ c ∈ cs.getLast?, p c = false) : stripEnds p cs = cs := by
  have hdrop : ∀ l : List Char, (∀ c ∈ l.head?, p c = false) → l.dropWhile p = l := by
    intro l hl
    cases l with
    | nil => rfl
    | cons c l => simp [hl c rfl]
  rw [stripEnds, hdrop cs hhead, hdrop cs.reverse (by simpa using hlast), List.reverse_reverse]

theorem trimBlanks_eq_self {cs : List Char} (h : ∀ c ∈ cs, isBlank c = false) : trimBlanks cs = cs :=
  stripEnds_eq_self (fun c hc => h c (List.mem_of_head? hc)) fun c hc => h c (List.mem_of_getLast? hc)

/-! ## Small letters -/

theorem isUpper_iff {c : Char} : c.isUpper = true ↔ 65 ≤ c.toNat ∧ c.toNat ≤ 90 := by
  simp [Char.isUpper, UInt32.le_iff_toNat_le]

theorem toLower_of_isBlank {c : Char} (h : isBlank c = true) : c.toLower = c := by
  refine Char.toLower_eq_of_not_isUpper fun hupper => ?_
  rw [isUpper_iff] at hupper
  simp only [isBlank, Bool.or_eq_true, Bool.and_eq_true, decide_eq_true_eq, beq_iff_eq] at h
  omega

end DirectChat
