import Mathlib.Tactic.Common

/-!
# C strings, unique ids and decimal numerals

A C string is the list of its characters up to the terminating zero byte, a `std::string` the list
of its characters.  Unique ids are compared by `uid_cmp`, which looks at no more than
`COMMON_UID_LEN` characters.
-/

namespace IxpDimm

/-- The unique id of a DIMM, as the text it is passed around as. -/
abbrev Uid := List Char

/-- Texts are compared by equality. -/
instance : LawfulBEq Uid := inferInstanceAs (LawfulBEq (List Char))

/-- `COMMON_UID_LEN`. -/
def commonUidLen : ℕ := 37

/-- `NVM_MAX_UID_LEN`, the size of an `NVM_UID` with its terminator. -/
def nvmMaxUidLen : ℕ := 37

/-- The characters of a text before its first zero byte. -/
def cString (text : List Char) : List Char := text.takeWhile (· ≠ '\x00')

/-- `uid_cmp`: the two texts agree, as C strings, on their first `COMMON_UID_LEN` characters. -/
def uidCmp (guid1 guid2 : Uid) : Bool :=
  (cString guid1).take commonUidLen == (cString guid2).take commonUidLen

/-- A text compares equal to itself. -/
@[simp] theorem uidCmp_self (uid : Uid) : uidCmp uid uid = true := by
  simp [uidCmp]

/-- The comparison of uids is symmetric. -/
theorem uidCmp_comm (uid uid' : Uid) : uidCmp uid uid' = uidCmp uid' uid := BEq.comm

/-! ### Decimal numerals -/

/-- `isdigit`. -/
def isDigit (c : Char) : Bool := '0' ≤ c ∧ c ≤ '9'

/-- `todigit`. -/
def toDigit (c : Char) : UInt64 := UInt64.ofNat (c.toNat - '0'.toNat)

/-- The digit loop of `s_strtoull`: the value built so far and the number of digits consumed.  It
stops at the first character that is not a digit, and where its two tests see an overflow. -/
def strtoullDigits : List Char → UInt64 → ℕ → UInt64 × ℕ
  | [], result, consumed => (result, consumed)
  | c :: text, result, consumed =>
    if isDigit c then
      if result * 10 ≥ result then
        if result * 10 + toDigit c ≥ result * 10 then
          strtoullDigits text (result * 10 + toDigit c) (consumed + 1)
        else
          (result, consumed)
      else
        (result, consumed)
    else
      (result, consumed)

/-- `s_strtoull` on a buffer of `strLen` bytes holding the C string `str`: the number stored
through the result pointer and the returned count of characters consumed. -/
def sStrtoull (str : List Char) (strLen : ℕ) : UInt64 × ℕ :=
  let text := (cString str).take strLen
  let skipped := (text.takeWhile fun c => !isDigit c).length
  strtoullDigits (text.drop skipped) 0 skipped

end IxpDimm
