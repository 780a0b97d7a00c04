import IxpDimm.ConfigFile.Tokens
import IxpDimm.Device.Uid
import IxpDimm.Foundation.PaddedDecimal
import Mathlib.Data.List.GetD
import Mathlib.Tactic.IntervalCases

/-!
# Intervals as texts

`time_utilities.c`: `convert_seconds_to_datetime_interval` writes a number of seconds as days, hours,
minutes and seconds of fixed widths, and `convert_datetime_string_to_seconds` reads such a text back.
The days are multiplied with the seconds of a day in `int` arithmetic, which wraps from 24856 days on:
an interval makes the round trip exactly when it is shorter (`intervalRoundTrips_iff`).

`mktime`, which reads a text that is not an interval, is an argument.
-/

namespace IxpDimm

open Foundation

/-! ### The conversions -/

/-- `enum datetime_type`. -/
inductive DatetimeType
  | unknown | datetime | interval
  deriving DecidableEq, Repr

/-- `COMMON_DATETIME_LEN`. -/
def commonDatetimeLen : ℕ := 26

/-- `DATETIME_DECIMALPOINT_POSITION`. -/
def datetimeDecimalpointPosition : ℕ := 14

/-- `DATETIME_SIGN_POSITION`. -/
def datetimeSignPosition : ℕ := 21

/-- `DATETIME_NULLTERMINATOR_POSITION`. -/
def datetimeNullterminatorPosition : ℕ := 25

/-- `convert_seconds_to_datetime_interval`. -/
def convertSecondsToDatetimeInterval (secs : UInt64) : List Char :=
  let seconds := (secs % 60).toUInt8
  let quotient := secs / 60
  let minutes := (quotient % 60).toUInt8
  let quotient := quotient / 60
  let hours := (quotient % 24).toUInt8
  let days := (quotient / 24).toUInt32
  (paddedDecimal 8 days.toNat ++ paddedDecimal 2 hours.toNat ++ paddedDecimal 2 minutes.toNat ++
    paddedDecimal 2 seconds.toNat ++ ".000000:000".toList).take (commonDatetimeLen - 1)

/-- `atoi`. -/
def atoi (text : List Char) : ℤ :=
  match text.dropWhile isSpace with
  | '-' :: digits => -(numeral (digits.takeWhile isDigit) : ℤ)
  | '+' :: digits => numeral (digits.takeWhile isDigit)
  | digits => numeral (digits.takeWhile isDigit)

/-- The product of two numbers of the type `int`. -/
def intMul (a b : ℤ) : ℤ := Int.bmod (a * b) (2 ^ 32)

/-- The number in some characters of a text, from a position on. -/
def datetimeField (datetime : List Char) (position length : ℕ) : ℤ :=
  atoi ((datetime.drop position).take length)

/-- `return_datetime_interval_seconds`. -/
def returnDatetimeIntervalSeconds (datetime : List Char) : UInt64 :=
  UInt64.ofInt (intMul (intMul (intMul (datetimeField datetime 0 8) 24) 60) 60) +
    UInt64.ofInt (intMul (intMul (datetimeField datetime 8 2) 60) 60) +
    UInt64.ofInt (intMul (datetimeField datetime 10 2) 60) +
    UInt64.ofInt (datetimeField datetime 12 2)

/-- `struct tm`. -/
structure Tm where
  /-- The year. -/
  tmYear : ℤ
  /-- The month. -/
  tmMon : ℤ
  /-- The day. -/
  tmMday : ℤ
  /-- The hour. -/
  tmHour : ℤ
  /-- The minute. -/
  tmMin : ℤ
  /-- The second. -/
  tmSec : ℤ
  /-- Daylight saving time. -/
  tmIsdst : ℤ

/-- `return_datetime_seconds`. -/
def returnDatetimeSeconds (mktime : Tm → ℤ) (datetime : List Char) : UInt64 :=
  UInt64.ofInt (mktime
    { tmYear := datetimeField datetime 0 4 - 1900
      tmMon := datetimeField datetime 4 2 - 1
      tmMday := datetimeField datetime 6 2
      tmHour := datetimeField datetime 8 2
      tmMin := datetimeField datetime 10 2
      tmSec := datetimeField datetime 12 2
      tmIsdst := -1 })

/-- The checks of `convert_datetime_string_to_seconds`. -/
def isDatetime (datetime : List Char) : Bool :=
  datetime.length == commonDatetimeLen - 1 &&
    ((List.range commonDatetimeLen).all fun i =>
      i == datetimeDecimalpointPosition || i == datetimeSignPosition ||
        i == datetimeNullterminatorPosition || isDigit (datetime.getD i '\x00')) &&
    datetime.getD datetimeDecimalpointPosition '\x00' == '.' &&
    (datetime.getD datetimeSignPosition '\x00' == ':' ||
      datetime.getD datetimeSignPosition '\x00' == '+' ||
      datetime.getD datetimeSignPosition '\x00' == '-') &&
    datetime.getD datetimeNullterminatorPosition '\x00' == '\x00'

/-- `convert_datetime_string_to_seconds`. -/
def convertDatetimeStringToSeconds (mktime : Tm → ℤ) (text : List Char) : DatetimeType × UInt64 :=
  let datetime := cString text
  if isDatetime datetime then
    if datetime.getD datetimeSignPosition '\x00' = ':' then
      (.interval, returnDatetimeIntervalSeconds datetime)
    else (.datetime, returnDatetimeSeconds mktime datetime)
  else (.unknown, 0)

/-! ### Fields read back -/

/-- A digit is neither a blank nor a sign. -/
private theorem isDigit_spec {c : Char} (h : isDigit c = true) :
    isSpace c = false ∧ c ≠ '-' ∧ c ≠ '+' ∧ c ≠ '\x00' := by
  obtain ⟨hzero, hnine⟩ := of_decide_eq_true h
  change 48 ≤ c.toNat at hzero
  have hne : ∀ d : Char, d.toNat < 48 → c ≠ d := by
    rintro d hd rfl
    omega
  refine ⟨?_, hne '-' (by decide), hne '+' (by decide), hne '\x00' (by decide)⟩
  rw [isSpace, decide_eq_false_iff_not, not_or]
  refine ⟨hne ' ' (by decide), fun hblank => ?_⟩
  have hle : c.toNat ≤ 13 := hblank.2
  omega

/-- A number that was written is read back. -/
private theorem atoi_paddedDecimal (width n : ℕ) : atoi (paddedDecimal width n) = n := by
  have hdigit : ∀ c ∈ paddedDecimal width n, isDigit c = true := fun c hc => by
    rw [isDigit_eq]
    exact isDigit_of_mem_paddedDecimal hc
  have hvalue := ofDigitChars_paddedDecimal width n
  have hall : (paddedDecimal width n).takeWhile isDigit = paddedDecimal width n :=
    List.takeWhile_eq_self_iff.mpr hdigit
  obtain ⟨c, digits, hcons⟩ := List.exists_cons_of_ne_nil (paddedDecimal_ne_nil width n)
  rw [hcons] at hdigit hall hvalue ⊢
  obtain ⟨hspace, hminus, hplus, -⟩ := isDigit_spec (hdigit c List.mem_cons_self)
  rw [atoi, List.dropWhile_cons_of_neg (by rw [hspace]; decide)]
  split
  · next heq => exact absurd (List.cons.inj heq).1 hminus
  · next heq => exact absurd (List.cons.inj heq).1 hplus
  · rw [hall, numeral, hvalue]

section RoundTrip

variable {days hours minutes seconds : ℕ}

/-- The text of an interval. -/
private def intervalText (days hours minutes seconds : ℕ) : List Char :=
  paddedDecimal 8 days ++ paddedDecimal 2 hours ++ paddedDecimal 2 minutes ++
    paddedDecimal 2 seconds ++ ".000000:000".toList

variable (hdays : days < 10 ^ 8) (hhours : hours < 10 ^ 2) (hminutes : minutes < 10 ^ 2)
  (hseconds : seconds < 10 ^ 2)

include hdays hhours hminutes hseconds

/-- The digits of the text of an interval, and what is behind them. -/
private theorem intervalText_eq : ∃ digits : List Char, digits.length = 14 ∧
    (∀ c ∈ digits, isDigit c = true) ∧
    intervalText days hours minutes seconds = digits ++ ".000000:000".toList := by
  refine ⟨paddedDecimal 8 days ++ paddedDecimal 2 hours ++ paddedDecimal 2 minutes ++
    paddedDecimal 2 seconds, ?_, ?_, rfl⟩
  · simp only [List.length_append, length_paddedDecimal (by decide) hdays,
      length_paddedDecimal (by decide) hhours, length_paddedDecimal (by decide) hminutes,
      length_paddedDecimal (by decide) hseconds]
  · intro c hc
    simp only [List.mem_append] at hc
    rw [isDigit_eq]
    rcases hc with ((hc | hc) | hc) | hc <;> exact isDigit_of_mem_paddedDecimal hc

/-- The text of an interval is a text of a date and time. -/
private theorem isDatetime_intervalText :
    cString (intervalText days hours minutes seconds) = intervalText days hours minutes seconds ∧
      isDatetime (intervalText days hours minutes seconds) = true ∧
      (intervalText days hours minutes seconds).getD datetimeSignPosition '\x00' = ':' := by
  obtain ⟨digits, hlength, hdigits, heq⟩ := intervalText_eq hdays hhours hminutes hseconds
  rw [heq]
  have hbehind : ∀ i, 14 ≤ i → (digits ++ ".000000:000".toList).getD i '\x00' =
      ".000000:000".toList.getD (i - 14) '\x00' := by
    intro i hi
    rw [List.getD_append_right _ _ _ _ (by omega), hlength]
  have htail : (".000000:000".toList.all fun c => decide (c ≠ '\x00')) = true := by decide
  refine ⟨?_, ?_, hbehind 21 (by decide)⟩
  · refine List.takeWhile_eq_self_iff.mpr fun c hc => ?_
    rcases List.mem_append.mp hc with hmem | hmem
    · exact decide_eq_true (isDigit_spec (hdigits c hmem)).2.2.2
    · exact List.all_eq_true.mp htail c hmem
  · have hall : ((List.range commonDatetimeLen).all fun i =>
        i == datetimeDecimalpointPosition || i == datetimeSignPosition ||
          i == datetimeNullterminatorPosition ||
          isDigit ((digits ++ ".000000:000".toList).getD i '\x00')) = true := by
      refine List.all_eq_true.mpr fun i hi => ?_
      rcases Nat.lt_or_ge i 14 with hlt | hge
      · rw [List.getD_append _ _ _ _ (by omega), List.getD_eq_getElem _ _ (by omega),
          hdigits _ (List.getElem_mem _), Bool.or_true]
      · rw [hbehind i hge]
        have hbound := List.mem_range.mp hi
        rw [commonDatetimeLen] at hbound
        interval_cases i <;> decide
    have hpoint := hbehind datetimeDecimalpointPosition (by decide)
    have hsign := hbehind datetimeSignPosition (by decide)
    have hend := hbehind datetimeNullterminatorPosition (by decide)
    rw [isDatetime, hall, hpoint, hsign, hend, List.length_append, hlength]
    decide

/-- The fields of the text of an interval are read back. -/
private theorem datetimeField_intervalText :
    datetimeField (intervalText days hours minutes seconds) 0 8 = days ∧
      datetimeField (intervalText days hours minutes seconds) 8 2 = hours ∧
      datetimeField (intervalText days hours minutes seconds) 10 2 = minutes ∧
      datetimeField (intervalText days hours minutes seconds) 12 2 = seconds := by
  have hday := length_paddedDecimal (by decide) hdays
  have hhour := length_paddedDecimal (by decide) hhours
  have hminute := length_paddedDecimal (by decide) hminutes
  have hsecond := length_paddedDecimal (by decide) hseconds
  have hfield : ∀ (before : List Char) (width n : ℕ) (behind : List Char),
      (paddedDecimal width n).length = width →
      datetimeField (before ++ (paddedDecimal width n ++ behind)) before.length width = n := by
    intro before width n behind hlength
    rw [datetimeField, List.drop_left]
    nth_rewrite 1 [← hlength]
    rw [List.take_left, atoi_paddedDecimal]
  simp only [intervalText, List.append_assoc]
  refine ⟨hfield [] 8 days _ hday, ?_, ?_, ?_⟩
  · have h := hfield (paddedDecimal 8 days) 2 hours
      (paddedDecimal 2 minutes ++ (paddedDecimal 2 seconds ++ ".000000:000".toList)) hhour
    rwa [hday] at h
  · have h := hfield (paddedDecimal 8 days ++ paddedDecimal 2 hours) 2 minutes
      (paddedDecimal 2 seconds ++ ".000000:000".toList) hminute
    rwa [List.length_append, hday, hhour, List.append_assoc] at h
  · have h := hfield (paddedDecimal 8 days ++ paddedDecimal 2 hours ++ paddedDecimal 2 minutes) 2
      seconds ".000000:000".toList hsecond
    rwa [List.length_append, List.length_append, hday, hhour, hminute, List.append_assoc,
      List.append_assoc] at h

end RoundTrip

/-! ### Intervals that make the round trip -/

/-- The text of a number of seconds, read as an interval, gives the number. -/
def IntervalRoundTrips (mktime : Tm → ℤ) (secs : UInt64) : Prop :=
  convertDatetimeStringToSeconds mktime (convertSecondsToDatetimeInterval secs) = (.interval, secs)

/-- The text of a number of seconds below `10 ^ 8` days. -/
private theorem convertSecondsToDatetimeInterval_eq {secs : UInt64}
    (h : secs.toNat < 10 ^ 8 * 86400) :
    convertSecondsToDatetimeInterval secs = intervalText (secs.toNat / 86400)
      (secs.toNat / 3600 % 24) (secs.toNat / 60 % 60) (secs.toNat % 60) := by
  have hseconds : (secs % 60).toUInt8.toNat = secs.toNat % 60 := by
    rw [UInt64.toNat_toUInt8, UInt64.toNat_mod]
    show secs.toNat % 60 % 256 = _
    omega
  have hminutes : (secs / 60 % 60).toUInt8.toNat = secs.toNat / 60 % 60 := by
    rw [UInt64.toNat_toUInt8, UInt64.toNat_mod, UInt64.toNat_div]
    show secs.toNat / 60 % 60 % 256 = _
    omega
  have hhours : (secs / 60 / 60 % 24).toUInt8.toNat = secs.toNat / 3600 % 24 := by
    rw [UInt64.toNat_toUInt8, UInt64.toNat_mod, UInt64.toNat_div, UInt64.toNat_div]
    show secs.toNat / 60 / 60 % 24 % 256 = _
    omega
  have hdays : (secs / 60 / 60 / 24).toUInt32.toNat = secs.toNat / 86400 := by
    rw [UInt64.toNat_toUInt32, UInt64.toNat_div, UInt64.toNat_div, UInt64.toNat_div]
    show secs.toNat / 60 / 60 / 24 % 2 ^ 32 = _
    omega
  obtain ⟨digits, hdigits, -, htext⟩ := @intervalText_eq (secs.toNat / 86400)
    (secs.toNat / 3600 % 24) (secs.toNat / 60 % 60) (secs.toNat % 60)
    (by omega) (by omega) (by omega) (by omega)
  simp only [convertSecondsToDatetimeInterval]
  rw [hseconds, hminutes, hhours, hdays]
  refine List.take_of_length_le ?_
  change (intervalText _ _ _ _).length ≤ _
  rw [htext, List.length_append, hdigits]
  decide

/-- A number that fits an `int`. -/
private theorem bmod_of_lt {n : ℕ} (h : n < 2 ^ 31) : Int.bmod (n : ℤ) (2 ^ 32) = n :=
  Int.bmod_eq_of_le_mul_two (by omega) (by omega)

/-- The range of an `int`. -/
private theorem bmod_bounds (a : ℤ) :
    -2147483648 ≤ Int.bmod a (2 ^ 32) ∧ Int.bmod a (2 ^ 32) < 2147483648 := by
  have hlower := @Int.le_bmod a (2 ^ 32) (by decide)
  have hupper := @Int.bmod_lt a (2 ^ 32) (by decide)
  omega

/-- A product of `int` numbers that fits. -/
private theorem intMul_of_lt (a b : ℕ) (h : a * b < 2 ^ 31) : intMul a b = (a * b : ℕ) := by
  rw [intMul, ← Nat.cast_mul, bmod_of_lt h]

/-- A product of which one factor is a product. -/
private theorem intMul_intMul (a b c : ℤ) : intMul (intMul a b) c = intMul a (b * c) := by
  simp only [intMul, Int.bmod_mul_bmod, Int.mul_assoc]

/-- The number of seconds that is read of the text of an interval: the part for the days is that of
an `int`. -/
private theorem intervalSeconds_eq {days hours minutes seconds : ℕ}
    (hdays : days < 10 ^ 8) (hhours : hours < 24) (hminutes : minutes < 60)
    (hseconds : seconds < 60) :
    returnDatetimeIntervalSeconds (intervalText days hours minutes seconds) = UInt64.ofInt
      (Int.bmod (days * 86400 : ℕ) (2 ^ 32) + (hours * 3600 + minutes * 60 + seconds : ℕ)) := by
  obtain ⟨hday, hhour, hminute, hsecond⟩ := @datetimeField_intervalText days hours minutes seconds
    hdays (by omega) (by omega) (by omega)
  have hdayPart : intMul (intMul (intMul days 24) 60) 60 =
      Int.bmod (days * 86400 : ℕ) (2 ^ 32) := by
    rw [intMul_intMul, intMul_intMul, intMul, Nat.cast_mul]
    rfl
  have hhourPart : intMul (intMul hours 60) 60 = (hours * 3600 : ℕ) := by
    rw [intMul_intMul]
    exact intMul_of_lt hours 3600 (by omega)
  have hminutePart : intMul minutes 60 = (minutes * 60 : ℕ) := intMul_of_lt minutes 60 (by omega)
  rw [returnDatetimeIntervalSeconds, hday, hhour, hminute, hsecond, hdayPart, hhourPart, hminutePart,
    ← UInt64.ofInt_add, ← UInt64.ofInt_add, ← UInt64.ofInt_add, Int.add_assoc, Int.add_assoc,
    ← Nat.cast_add, ← Nat.cast_add, Nat.add_assoc]

/-- A number converted to `UInt64`, as a residue. -/
private theorem toNat_ofInt (a : ℤ) : ((UInt64.ofInt a).toNat : ℤ) = a % 18446744073709551616 := by
  rw [UInt64.ofInt, UInt64.toNat_ofNat']
  omega

/-- An interval shorter than `10 ^ 8` days makes the round trip exactly when it is shorter than 24856
days. -/
theorem intervalRoundTrips_iff (mktime : Tm → ℤ) {secs : UInt64} (h : secs.toNat < 10 ^ 8 * 86400) :
    IntervalRoundTrips mktime secs ↔ secs.toNat / 86400 ≤ 24855 := by
  obtain ⟨hcString, hdatetime, hsign⟩ := @isDatetime_intervalText (secs.toNat / 86400)
    (secs.toNat / 3600 % 24) (secs.toNat / 60 % 60) (secs.toNat % 60)
    (by omega) (by omega) (by omega) (by omega)
  have hseconds := @intervalSeconds_eq (secs.toNat / 86400)
    (secs.toNat / 3600 % 24) (secs.toNat / 60 % 60) (secs.toNat % 60)
    (by omega) (by omega) (by omega) (by omega)
  have hread : convertDatetimeStringToSeconds mktime (convertSecondsToDatetimeInterval secs) =
      (.interval, UInt64.ofInt (Int.bmod (secs.toNat / 86400 * 86400 : ℕ) (2 ^ 32) +
        (secs.toNat / 3600 % 24 * 3600 + secs.toNat / 60 % 60 * 60 + secs.toNat % 60 : ℕ))) := by
    rw [convertSecondsToDatetimeInterval_eq h, convertDatetimeStringToSeconds, hcString,
      if_pos hdatetime, if_pos hsign, hseconds]
  have hrest : secs.toNat / 3600 % 24 * 3600 + secs.toNat / 60 % 60 * 60 + secs.toNat % 60 =
      secs.toNat % 86400 := by omega
  rw [hrest] at hread
  rw [IntervalRoundTrips, hread, Prod.mk.injEq]
  have hsplit := Nat.div_add_mod' secs.toNat 86400
  constructor
  · rintro ⟨-, heq⟩
    -- the part for the days is in the range of an `int`, and the number itself below `2 ^ 63`
    obtain ⟨hlower, hupper⟩ := bmod_bounds (secs.toNat / 86400 * 86400 : ℕ)
    have hmod := toNat_ofInt
      (Int.bmod (secs.toNat / 86400 * 86400 : ℕ) (2 ^ 32) + (secs.toNat % 86400 : ℕ))
    rw [heq] at hmod
    generalize Int.bmod (secs.toNat / 86400 * 86400 : ℕ) (2 ^ 32) = part at hlower hupper hmod
    rcases lt_or_ge (part + (secs.toNat % 86400 : ℕ)) 0 with hneg | hpos
    · have hquotient : (part + (secs.toNat % 86400 : ℕ)) / 18446744073709551616 = -1 := by omega
      omega
    · rw [Int.emod_eq_of_lt hpos (by omega)] at hmod
      omega
  · intro hshort
    refine ⟨rfl, UInt64.toNat_inj.mp ?_⟩
    have hmod := toNat_ofInt (secs.toNat : ℤ)
    have hbound := secs.toNat_lt
    rw [bmod_of_lt (by omega), ← Nat.cast_add, hsplit]
    omega

/-- The longest interval of a day makes the round trip. -/
theorem intervalRoundTrips_day : (86399 : UInt64).toNat < 10 ^ 8 * 86400 ∧
    (IntervalRoundTrips (fun _ => 0) 86399 ↔ (86399 : UInt64).toNat / 86400 ≤ 24855) :=
  have hlt : (86399 : UInt64).toNat < 10 ^ 8 * 86400 := by decide
  ⟨hlt, intervalRoundTrips_iff _ hlt⟩

/-- An interval of 24856 days does not. -/
theorem not_intervalRoundTrips_long : ¬∀ secs : UInt64, secs.toNat < 10 ^ 8 * 86400 →
    IntervalRoundTrips (fun _ => 0) secs := by
  intro h
  have hlong := h 2147558400 (by decide)
  rw [IntervalRoundTrips] at hlong
  revert hlong
  decide +kernel

end IxpDimm
