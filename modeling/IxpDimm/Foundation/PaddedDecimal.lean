import Mathlib.Algebra.Group.Nat.Defs
import Mathlib.Tactic.Common

/-!
# Decimal numbers of a least width

What `printf` makes of `%0wd` and `%0wu`: the decimal digits of a number, with zeros in front up to a
width.  The digits are read back as the number, and a number that has not more digits than the width
takes up exactly the width.
-/

namespace Foundation

/-- The decimal digits of a number, with zeros in front up to a width. -/
def paddedDecimal (width n : ℕ) : List Char :=
  List.replicate (width - (Nat.toDigits 10 n).length) '0' ++ Nat.toDigits 10 n

/-- The characters are digits. -/
theorem isDigit_of_mem_paddedDecimal {width n : ℕ} {c : Char} (h : c ∈ paddedDecimal width n) :
    c.isDigit := by
  rcases List.mem_append.mp h with hmem | hmem
  · rw [List.eq_of_mem_replicate hmem]
    rfl
  · exact Nat.isDigit_of_mem_toDigits (by decide) (by decide) hmem

/-- The number is read back. -/
theorem ofDigitChars_paddedDecimal (width n : ℕ) :
    Nat.ofDigitChars 10 (paddedDecimal width n) 0 = n := by
  rw [paddedDecimal, Nat.ofDigitChars_append, Nat.ofDigitChars_replicate_zero, Nat.mul_zero,
    Nat.ofDigitChars_toDigits (by decide) (by decide)]

/-- A number with not more digits takes up the width. -/
theorem length_paddedDecimal {width n : ℕ} (hwidth : 0 < width) (h : n < 10 ^ width) :
    (paddedDecimal width n).length = width := by
  have hle := (Nat.length_toDigits_le_iff (by decide) hwidth).mpr h
  rw [paddedDecimal, List.length_append, List.length_replicate]
  omega

/-- There is a digit. -/
theorem paddedDecimal_ne_nil (width n : ℕ) : paddedDecimal width n ≠ [] :=
  List.append_ne_nil_of_right_ne_nil _ Nat.toDigits_ne_nil

end Foundation
