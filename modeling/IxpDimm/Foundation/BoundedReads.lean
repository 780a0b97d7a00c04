import IxpDimm.Foundation.ByteMemory
import Mathlib.Data.List.GetD

/-!
# Reads that stay within a buffer

A buffer is the list of its bytes.  A program that reads it has a value as long as all its reads are
within the buffer; the first read outside of it ends the program (`Access`, whose error is the
address of that read).  Sequences of reads are taken apart with `ok_bind` and `error_bind`, and
`InBounds` says that there was no read outside.
-/

namespace Foundation

variable {ε α β : Type}

/-- A value, or the address of the first read outside of the buffer. -/
abbrev Access (α : Type) := Except ℕ α

/-- All reads were within the buffer. -/
def InBounds (access : Access α) : Prop := ∃ value, access = .ok value

/-- A value needs no reads. -/
@[simp] theorem inBounds_ok (value : α) : InBounds (.ok value : Access α) := ⟨value, rfl⟩

/-- A read outside is not within the buffer. -/
@[simp] theorem not_inBounds_error (address : ℕ) : ¬ InBounds (.error address : Access α) := by
  rintro ⟨value, hvalue⟩
  cases hvalue

/-- A computation goes on with the value. -/
@[simp] theorem ok_bind (value : α) (next : α → Except ε β) :
    ((.ok value : Except ε α) >>= next) = next value := rfl

/-- A computation ends at an error. -/
@[simp] theorem error_bind (error : ε) (next : α → Except ε β) :
    ((.error error : Except ε α) >>= next) = .error error := rfl

@[simp] theorem pure_eq_ok (value : α) : (pure value : Except ε α) = .ok value := rfl

/-- A sequence of reads is within the buffer when its parts are. -/
theorem inBounds_bind {first : Access α} {next : α → Access β} :
    InBounds (first >>= next) ↔ ∃ value, first = .ok value ∧ InBounds (next value) := by
  cases first with
  | ok value => simp
  | error address => simp

/-- A byte of the buffer. -/
def readByte (buffer : List UInt8) (a : ℕ) : Access UInt8 :=
  if h : a < buffer.length then .ok buffer[a] else .error a

/-- A byte within the buffer. -/
theorem readByte_of_lt {buffer : List UInt8} {a : ℕ} (h : a < buffer.length) :
    readByte buffer a = .ok (ofList buffer a) := by
  rw [readByte, dif_pos h, ofList, List.getD_eq_getElem _ _ h]

/-- A byte behind the buffer. -/
theorem readByte_of_le {buffer : List UInt8} {a : ℕ} (h : buffer.length ≤ a) :
    readByte buffer a = .error a := by
  rw [readByte, dif_neg (not_lt.mpr h)]

/-- A byte is read within the buffer when it is there. -/
theorem inBounds_readByte {buffer : List UInt8} {a : ℕ} :
    InBounds (readByte buffer a) ↔ a < buffer.length := by
  rcases lt_or_ge a buffer.length with h | h
  · rw [readByte_of_lt h]
    exact iff_of_true (inBounds_ok _) h
  · rw [readByte_of_le h]
    exact iff_of_false (not_inBounds_error _) (not_lt.mpr h)

/-- The buffer from an address on, as memory. -/
theorem view_ofList (buffer : List UInt8) (a : ℕ) :
    view (ofList buffer) a = ofList (buffer.drop a) := by
  funext i
  rw [view_apply, ofList, ofList, List.getD_eq_getElem?_getD, List.getD_eq_getElem?_getD,
    List.getElem?_drop]

/-- The little-endian number of `n` bytes from an address on. -/
def readNumber (buffer : List UInt8) (a : ℕ) : ℕ → Access ℕ
  | 0 => .ok 0
  | n + 1 => do
    let low ← readByte buffer a
    let high ← readNumber buffer (a + 1) n
    pure (low.toNat + 256 * high)

/-- A number within the buffer. -/
theorem readNumber_of_le {buffer : List UInt8} {a n : ℕ} (h : a + n ≤ buffer.length) :
    readNumber buffer a n = .ok (readLE (ofList buffer) a n) := by
  induction n generalizing a with
  | zero => rfl
  | succ n ih =>
    rw [readNumber, readByte_of_lt (by omega), ok_bind, ih (by omega), ok_bind, pure_eq_ok, readLE]

/-- A number is read within the buffer when all its bytes are there. -/
theorem inBounds_readNumber {buffer : List UInt8} {a n : ℕ} (hn : 0 < n) :
    InBounds (readNumber buffer a n) ↔ a + n ≤ buffer.length := by
  constructor
  · obtain ⟨n, rfl⟩ : ∃ k, n = k + 1 := ⟨n - 1, by omega⟩
    induction n generalizing a with
    | zero =>
      intro h
      obtain ⟨low, hlow, -⟩ := inBounds_bind.mp h
      exact inBounds_readByte.mp ⟨low, hlow⟩
    | succ n ih =>
      intro h
      obtain ⟨low, -, hrest⟩ := inBounds_bind.mp h
      obtain ⟨high, hhigh, -⟩ := inBounds_bind.mp hrest
      have := ih (Nat.succ_pos n) ⟨high, hhigh⟩
      omega
  · intro h
    rw [readNumber_of_le h]
    exact inBounds_ok _

end Foundation
