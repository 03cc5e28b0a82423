import DirectChat.Text.Integer
import Mathlib.Data.List.Basic
import Mathlib.Data.List.TakeDrop
/-!
# The decimal digits of a number

The digits that a number is written with are digits (`isDigit_toDigits`), say the number
(`natOfDigits_toDigits`), and several of them do not begin with a zero (`toDigits_head`). A run of
digits in front of something that is none is found by `span` (`span_append_of_stop`). With a minus
sign where there is one, they are how an integer is written, and read back (`integer?_toString`).
-/

namespace DirectChat

theorem isDigit_toDigits {n : Nat} {c : Char} (h : c ∈ Nat.toDigits 10 n) : c.isDigit = true :=
  Nat.isDigit_of_mem_toDigits (by decide) (by decide) h

theorem natOfDigits_toDigits (n : Nat) : natOfDigits (Nat.toDigits 10 n) = n := by
  have h := @Nat.ofDigitChars_ten_toDigits n
  rw [Nat.ofDigitChars_eq_foldl] at h
  simpa [natOfDigits, Nat.mul_comm] using h

/-- Only zero is written with a zero in front. -/
theorem toDigits_head {n : Nat} (hn : 0 < n) : (Nat.toDigits 10 n).head? ≠ some '0' := by
  induction n using Nat.strongRecOn with
  | ind n ih =>
    by_cases hlt : n < 10
    · rw [Nat.toDigits_of_lt_base hlt, List.head?_cons]
      exact fun h => absurd (Nat.digitChar_eq_zero.1 (Option.some.inj h)) (Nat.ne_of_gt hn)
    · rw [Nat.toDigits_of_base_le (by decide) (by omega), List.head?_append_of_ne_nil _ Nat.toDigits_ne_nil]
      exact ih (n / 10) (by omega) (by omega)

theorem isInt64_iff (i : Int) : isInt64 i = true ↔ -9223372036854775808 ≤ i ∧ i < 9223372036854775808 := by
  simp [isInt64]

theorem span_append_of_stop {α : Type} {p : α → Bool} {l rest : List α} (hl : ∀ a ∈ l, p a = true)
    (hrest : ∀ a ∈ rest.head?, p a = false) : (l ++ rest).span p = (l, rest) := by
  have hstop : rest.takeWhile p = [] ∧ rest.dropWhile p = rest := by
    cases rest with
    | nil => exact ⟨rfl, rfl⟩
    | cons a rest =>
      have ha : p a = false := hrest a rfl
      simp [ha]
  rw [List.span_eq_takeWhile_dropWhile, List.takeWhile_append_of_pos hl, List.dropWhile_append_of_pos hl, hstop.1,
    hstop.2, List.append_nil]

/-! ## Integers -/

theorem toList_toString (i : Int) :
    (toString i).toList = if 0 ≤ i then Nat.toDigits 10 i.toNat else '-' :: Nat.toDigits 10 (-i).toNat := by
  rw [Int.toString_eq_repr, Int.repr_eq_if]
  split <;> simp

theorem digits?_toDigits (n : Nat) : digits? (Nat.toDigits 10 n) = some n := by
  have hall : (Nat.toDigits 10 n).all Char.isDigit = true := List.all_eq_true.2 fun _ => isDigit_toDigits
  rw [digits?, if_pos ⟨Nat.toDigits_ne_nil, hall⟩, natOfDigits_toDigits]

/-- What an integer is written as is read as the integer. -/
theorem integer?_toString (i : Int) : integer? (toString i).toList = some i := by
  rw [toList_toString]
  split
  · rename_i hpos
    obtain ⟨d, ds, hds⟩ := List.exists_cons_of_ne_nil (Nat.toDigits_ne_nil (n := i.toNat) (b := 10))
    have hd : d.isDigit = true := isDigit_toDigits (hds ▸ List.mem_cons_self)
    have hminus : d ≠ '-' := fun h => by simp [h] at hd
    have hplus : d ≠ '+' := fun h => by simp [h] at hd
    have hread := digits?_toDigits i.toNat
    rw [hds] at hread ⊢
    unfold integer?
    split
    · rename_i cs hcs
      exact absurd (List.cons.inj hcs).1 hminus
    · unfold natural?
      split
      · rename_i cs hcs
        exact absurd (List.cons.inj hcs).1 hplus
      · simp only [hread]
        exact congrArg some (Int.toNat_of_nonneg hpos)
  · rename_i hneg
    have hback : -((-i).toNat : Int) = i := by omega
    simp only [integer?, digits?_toDigits]
    exact congrArg some hback

theorem mem_toString {i : Int} {c : Char} (h : c ∈ (toString i).toList) : c.isDigit = true ∨ c = '-' := by
  rw [toList_toString] at h
  split at h
  · exact .inl (isDigit_toDigits h)
  · rcases List.mem_cons.1 h with rfl | h
    · exact .inr rfl
    · exact .inl (isDigit_toDigits h)

end DirectChat
