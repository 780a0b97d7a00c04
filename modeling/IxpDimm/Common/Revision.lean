import IxpDimm.Common.Text
import Mathlib.Algebra.Group.Nat.Defs

/-!
# Revision texts

`revision.c`: the parts of a revision are the digit sequences of its text, whatever stands between
them.  A text is shorter than its buffer, so its end is its terminator.
-/

namespace IxpDimm

/-- The digit loop of `s_strtous`, which stops before the number exceeds 16 bits. -/
def strtousDigits : List Char → ℕ → ℕ × List Char
  | [], result => (result, [])
  | c :: text, result =>
    if isDigit c ∧ result * 10 + (c.toNat - '0'.toNat) ≤ 65535 then
      strtousDigits text (result * 10 + (c.toNat - '0'.toNat))
    else (result, c :: text)

/-- `s_strtous`: the number and the text after it. -/
def sStrtous (text : List Char) : ℕ × List Char :=
  strtousDigits (text.dropWhile fun c => !isDigit c) 0

/-- `parse_revision`: that many parts, those beyond the end of the text being zero. -/
def parseRevision : ℕ → List Char → List ℕ
  | 0, _ => []
  | n + 1, [] => 0 :: parseRevision n []
  | n + 1, c :: text => (sStrtous (c :: text)).1 :: parseRevision n (sStrtous (c :: text)).2

/-- `truncate_us`: the leading digits of a number of at most five digits. -/
def truncateUs (value digits : ℕ) : ℕ :=
  ((List.range 6).map fun k => value / 10 ^ k).find? (· < 10 ^ digits) |>.getD 0

/-- The parts of a firmware revision. -/
structure MainRevision where
  /-- The major version. -/
  major : ℕ
  /-- The minor version. -/
  minor : ℕ
  /-- The hotfix version. -/
  hotfix : ℕ
  /-- The build version. -/
  build : ℕ
  deriving DecidableEq, Repr

/-- `parse_main_revision`. -/
def parseMainRevision (revision : List Char) : MainRevision :=
  let parts := parseRevision 4 (cString revision)
  ⟨truncateUs (parts.getD 0 0) 2, truncateUs (parts.getD 1 0) 2, truncateUs (parts.getD 2 0) 2,
    truncateUs (parts.getD 3 0) 4⟩

/-- `parse_fw_revision`: the major and the minor version. -/
def parseFwRevision (revision : List Char) : ℕ × ℕ :=
  let parts := parseRevision 2 (cString revision)
  (parts.getD 0 0, parts.getD 1 0)

/-- `is_fw_api_version_supported`, from version 1.2 on. -/
def isFwApiVersionSupported (version : ℕ × ℕ) : Bool :=
  1 < version.1 || (version.1 == 1 && 2 ≤ version.2)

example : parseMainRevision "01.02.03.1234".toList = ⟨1, 2, 3, 1234⟩ := by decide

end IxpDimm
