import IxpDimm.ConfigFile.Acceptance
import Mathlib.Data.Nat.Find

/-!
# What `s_strtoull` stores

The digits that `s_strtoull` is to consume are the longest part of the digit run, from its start on,
that fits in 64 bits (`fittingDigits`).  Up to there its tests pass, and the number is exact.  At the
next digit the tests compare the wrapped product and the wrapped sum with what they were made from,
and the loop goes on when neither of them is smaller: it then stores a wrapped number and has consumed
too many digits.  `convertsLongest_iff` says for which texts this does not happen.
-/

namespace IxpDimm

/-- `s_strtoull` of a text, with a number behind the result pointer; without characters nothing is
stored. -/
def sStrtoullInto (str : List Char) (strLen : ℕ) (stored : UInt64) : UInt64 × ℕ :=
  if strLen = 0 then (stored, 0) else sStrtoull str strLen

/-- The characters of a text that are looked at. -/
def scannedText (str : List Char) (strLen : ℕ) : List Char := (cString str).take strLen

/-- The characters that are skipped. -/
def skippedChars (str : List Char) (strLen : ℕ) : List Char :=
  (scannedText str strLen).takeWhile fun c => !isDigit c

/-- The digits behind the characters that are skipped. -/
def digitRun (str : List Char) (strLen : ℕ) : List Char :=
  (tokenDigits (scannedText str strLen)).takeWhile isDigit

/-- The largest number of digits, from the first on, that fit in 64 bits. -/
def fittingDigits (digits : List Char) : ℕ :=
  Nat.findGreatest (fun n => numeral (digits.take n) < 2 ^ 64) digits.length

/-- The number of the longest part of the digits that fits is stored, and the characters up to its end
are counted. -/
structure ConvertsLongest (str : List Char) (strLen : ℕ) (stored : UInt64) : Prop where
  /-- The number. -/
  value : (sStrtoullInto str strLen stored).1.toNat =
    numeral ((digitRun str strLen).take (fittingDigits (digitRun str strLen)))
  /-- The characters. -/
  count : (sStrtoullInto str strLen stored).2 =
    (skippedChars str strLen).length + fittingDigits (digitRun str strLen)

/-- At the first digit with which the digits do not fit any more, the product with ten or the sum with
the digit wraps to a smaller number. -/
def OverflowSeen (digits : List Char) : Prop :=
  ∀ c, digits[fittingDigits digits]? = some c →
    let fitting := numeral (digits.take (fittingDigits digits))
    fitting * 10 % 2 ^ 64 < fitting ∨ 2 ^ 64 ≤ fitting * 10 % 2 ^ 64 + (c.toNat - '0'.toNat)

section Fitting

variable {digits : List Char}

/-- Not more digits fit than there are. -/
private theorem fittingDigits_le : fittingDigits digits ≤ digits.length :=
  Nat.findGreatest_le digits.length

/-- The digits that fit. -/
private theorem numeral_fitting_lt : numeral (digits.take (fittingDigits digits)) < 2 ^ 64 := by
  have hzero : numeral (digits.take 0) < 2 ^ 64 := by
    rw [List.take_zero, numeral, Nat.ofDigitChars_nil]
    decide
  exact @Nat.findGreatest_spec 0 (fun n => numeral (digits.take n) < 2 ^ 64) _ digits.length
    (Nat.zero_le _) hzero

/-- A digit behind the digits that fit is one too many. -/
private theorem numeral_next {c : Char} (hc : digits[fittingDigits digits]? = some c) :
    2 ^ 64 ≤ 10 * numeral (digits.take (fittingDigits digits)) + (c.toNat - '0'.toNat) := by
  obtain ⟨hlt, -⟩ := List.getElem?_eq_some_iff.mp hc
  have hover := @Nat.findGreatest_is_greatest (fittingDigits digits + 1)
    (fun n => numeral (digits.take n) < 2 ^ 64) _ digits.length (Nat.lt_succ_self _) hlt
  rw [List.take_add_one, hc, Option.toList_some, numeral, Nat.ofDigitChars_append,
    Nat.ofDigitChars_cons, Nat.ofDigitChars_nil, not_lt] at hover
  exact hover

end Fitting

/-- The digit loop of `s_strtoull` consumes the digits that fit and nothing else exactly when the
overflow at the next digit is seen. -/
private theorem strtoullDigits_fitting_iff (text : List Char) (skipped : ℕ) :
    ((strtoullDigits text 0 skipped).1.toNat =
          numeral ((text.takeWhile isDigit).take (fittingDigits (text.takeWhile isDigit))) ∧
        (strtoullDigits text 0 skipped).2 = skipped + fittingDigits (text.takeWhile isDigit)) ↔
      OverflowSeen (text.takeWhile isDigit) := by
  have hdigits : ∀ c ∈ text.takeWhile isDigit, isDigit c = true := fun _ => List.mem_takeWhile_imp
  have hbehind := List.takeWhile_append_dropWhile (p := isDigit) (l := text)
  have hend : ∀ result consumed, strtoullDigits (text.dropWhile isDigit) result consumed =
      (result, consumed) := by
    intro result consumed
    cases hdrop : text.dropWhile isDigit with
    | nil => rfl
    | cons c rest =>
      have hnot := @List.head_dropWhile_not _ isDigit text (by rw [hdrop]; exact List.cons_ne_nil c rest)
      simp only [hdrop, List.head_cons] at hnot
      rw [strtoullDigits, if_neg (by rw [hnot]; decide)]
  generalize text.takeWhile isDigit = digits at hdigits hbehind
  generalize text.dropWhile isDigit = rest at hbehind hend
  obtain rfl := hbehind
  -- up to the digits that fit the loop is exact
  have hlt := @numeral_fitting_lt digits
  have hle := @fittingDigits_le digits
  have hloop := @strtoullDigits_append_of_lt (digits.take (fittingDigits digits))
    (fun c hc => hdigits c (List.mem_of_mem_take hc)) 0 skipped hlt
    (digits.drop (fittingDigits digits) ++ rest)
  rw [← List.append_assoc, List.take_append_drop, List.length_take_of_le hle] at hloop
  rw [hloop]
  have hvalue : (UInt64.ofNat (numeral (digits.take (fittingDigits digits)))).toNat =
      numeral (digits.take (fittingDigits digits)) := Foundation.toNat_ofNat_of_lt hlt
  have hresult : UInt64.ofNat (Nat.ofDigitChars 10 (digits.take (fittingDigits digits))
      (0 : UInt64).toNat) = UInt64.ofNat (numeral (digits.take (fittingDigits digits))) := rfl
  rw [hresult]
  unfold OverflowSeen
  cases hnext : digits[fittingDigits digits]? with
  | none =>
    rw [List.drop_eq_nil_of_le (List.getElem?_eq_none_iff.mp hnext), List.nil_append, hend]
    exact iff_of_true ⟨hvalue, rfl⟩ fun d hd => by cases hd
  | some c =>
    obtain ⟨hindex, hget⟩ := List.getElem?_eq_some_iff.mp hnext
    have hdigit : isDigit c = true := hdigits c (hget ▸ List.getElem_mem hindex)
    have htests := (@strtoull_tests (UInt64.ofNat (numeral (digits.take (fittingDigits digits))))
      (numeral (digits.take (fittingDigits digits)))
      (by rw [hvalue, Nat.mod_eq_of_lt hlt]) c hdigit).1
    have hover := numeral_next hnext
    rw [TestFails, Nat.mod_eq_of_lt hlt] at htests
    rw [List.drop_eq_getElem_cons hindex, hget, List.cons_append, strtoullDigits, if_pos hdigit]
    generalize numeral (digits.take (fittingDigits digits)) = fitting at *
    generalize fittingDigits digits = n at *
    have hseen : (∀ d, some c = some d → (fitting * 10 % 2 ^ 64 < fitting ∨
        2 ^ 64 ≤ fitting * 10 % 2 ^ 64 + (d.toNat - '0'.toNat))) ↔
        (fitting * 10 % 2 ^ 64 < fitting ∨
          2 ^ 64 ≤ fitting * 10 % 2 ^ 64 + (c.toNat - '0'.toNat)) := by
      constructor
      · exact fun h => h c rfl
      · rintro h d hd
        obtain rfl := Option.some.inj hd
        exact h
    refine Iff.trans ?_ hseen.symm
    by_cases hfirst : UInt64.ofNat fitting * 10 ≥ UInt64.ofNat fitting
    · rw [if_pos hfirst]
      by_cases hsecond : UInt64.ofNat fitting * 10 + toDigit c ≥ UInt64.ofNat fitting * 10
      · -- no overflow is seen, and the digit is consumed
        rw [if_pos hsecond]
        have hmore := (strtoullDigits_snd_bounds (digits.drop (n + 1) ++ rest)
          (UInt64.ofNat fitting * 10 + toDigit c) (skipped + n + 1)).1
        exact iff_of_false (fun h => by omega) (htests.mp ⟨hfirst, hsecond⟩)
      · rw [if_neg hsecond]
        refine iff_of_true ⟨hvalue, rfl⟩ ?_
        by_contra hnot
        exact hsecond (htests.mpr hnot).2
    · rw [if_neg hfirst]
      refine iff_of_true ⟨hvalue, rfl⟩ ?_
      by_contra hnot
      exact hfirst (htests.mpr hnot).1

/-- `s_strtoull` stores the number of the longest part of the digit run that fits in 64 bits and counts
the characters up to its end, exactly when there are characters to look at, or the result is zero
before, and the overflow at the next digit is seen. -/
theorem convertsLongest_iff (str : List Char) (strLen : ℕ) (stored : UInt64) :
    ConvertsLongest str strLen stored ↔
      (strLen ≠ 0 ∨ stored = 0) ∧ OverflowSeen (digitRun str strLen) := by
  by_cases hzero : strLen = 0
  · subst hzero
    have hrun : digitRun str 0 = [] := by
      rw [digitRun, scannedText, List.take_zero]
      rfl
    have hskipped : skippedChars str 0 = [] := by
      rw [skippedChars, scannedText, List.take_zero]
      rfl
    have hseen : OverflowSeen (digitRun str 0) := by
      rw [hrun]
      exact nofun
    have hinto : sStrtoullInto str 0 stored = (stored, 0) := if_pos rfl
    constructor
    · intro h
      have hvalue := h.value
      rw [hinto, hrun, List.take_nil] at hvalue
      exact ⟨Or.inr (UInt64.toNat_inj.mp hvalue), hseen⟩
    · rintro ⟨hor, -⟩
      obtain rfl : stored = 0 := hor.resolve_left (not_not.mpr rfl)
      refine ⟨?_, ?_⟩
      · rw [hinto, hrun, List.take_nil]
        rfl
      · rw [hinto, hrun, hskipped]
        rfl
  · obtain ⟨hdrop, -⟩ := drop_skipped (scannedText str strLen)
    have hinto : sStrtoullInto str strLen stored = strtoullDigits
        (tokenDigits (scannedText str strLen)) 0 (skippedChars str strLen).length := by
      rw [sStrtoullInto, if_neg hzero, sStrtoull, ← hdrop]
      rfl
    have hloop := strtoullDigits_fitting_iff (tokenDigits (scannedText str strLen))
      (skippedChars str strLen).length
    rw [← hinto] at hloop
    constructor
    · exact fun h => ⟨Or.inl hzero, hloop.mp ⟨h.value, h.count⟩⟩
    · rintro ⟨-, hseen⟩
      obtain ⟨hvalue, hcount⟩ := hloop.mpr hseen
      exact ⟨hvalue, hcount⟩

/-- Of the text `3` followed by nineteen zeros the wrapped number is stored. -/
theorem not_convertsLongest_wrapped : ¬ ∀ (str : List Char) (strLen : ℕ) (stored : UInt64),
    ConvertsLongest str strLen stored := by
  intro h
  have hcount := (h "30000000000000000000".toList 20 0).count
  revert hcount
  decide +kernel

end IxpDimm
