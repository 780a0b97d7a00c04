import IxpDimm.Foundation.ByteMemory
import Mathlib.Data.List.GetD

/-!
# Packed structures

A packed structure is the list of the bytes of its fields, one field behind the other.  `leList` is
the field of a number, and `Holds m a bytes` says that the bytes of a list are in a block from an
address on; it splits along the fields, and a number is read back from its field.
-/

namespace Foundation

/-- The `n` bytes of a number, least significant first. -/
def leList (n v : ℕ) : List UInt8 := (List.range n).map (leBytes v)

@[simp] theorem length_leList (n v : ℕ) : (leList n v).length = n := by simp [leList]

/-- A block holds the bytes of a list from an address on. -/
def Holds (m : Bytes) (a : ℕ) (bytes : List UInt8) : Prop :=
  SameBytes (view m a) (ofList bytes) 0 bytes.length

/-- The block of a list holds it. -/
theorem holds_ofList (bytes : List UInt8) : Holds (ofList bytes) 0 bytes := by
  intro i _ _
  rw [view_apply, Nat.zero_add]

/-- Bytes before the end of the first of two lists. -/
theorem ofList_append_left {l r : List UInt8} {i : ℕ} (h : i < l.length) :
    ofList (l ++ r) i = ofList l i :=
  List.getD_append l r 0 i h

/-- Bytes behind the end of the first of two lists. -/
theorem ofList_append_right (l r : List UInt8) (i : ℕ) :
    ofList (l ++ r) (l.length + i) = ofList r i := by
  unfold ofList
  rw [List.getD_append_right l r 0 _ (Nat.le_add_right _ _), Nat.add_sub_cancel_left]

/-- Zeros at the end make no difference. -/
theorem ofList_append_replicate (l : List UInt8) (n : ℕ) :
    ofList (l ++ List.replicate n 0) = ofList l := by
  funext i
  unfold ofList
  rcases lt_or_ge i l.length with hlt | hge
  · exact List.getD_append l _ 0 i hlt
  · rw [List.getD_append_right l _ 0 i hge, List.getD_eq_default l 0 hge, List.getD_eq_getElem?_getD,
      List.getElem?_replicate]
    split_ifs <;> rfl

/-- Two lists are held one behind the other. -/
theorem holds_append {m : Bytes} {a : ℕ} {l r : List UInt8} :
    Holds m a (l ++ r) ↔ Holds m a l ∧ Holds m (a + l.length) r := by
  constructor
  · intro h
    constructor
    · intro i hi hlt
      rw [h i hi (by rw [List.length_append]; omega), ofList_append_left (by omega)]
    · intro i hi hlt
      have hbyte := h (l.length + i) (Nat.zero_le _) (by rw [List.length_append]; omega)
      rw [ofList_append_right, view_apply] at hbyte
      rw [view_apply, Nat.add_assoc, hbyte]
  · rintro ⟨hl, hr⟩ i hi hlt
    rw [List.length_append] at hlt
    by_cases hleft : i < l.length
    · rw [hl i hi (by omega), ofList_append_left hleft]
    · obtain ⟨j, rfl⟩ : ∃ j, i = l.length + j := ⟨i - l.length, by omega⟩
      rw [ofList_append_right, ← hr j (Nat.zero_le _) (by omega), view_apply, view_apply,
        Nat.add_assoc]

/-- A number is read back from its field. -/
theorem Holds.readLE {m : Bytes} {a n v : ℕ} (h : Holds m a (leList n v)) :
    readLE m a n = v % 256 ^ n := by
  have hbytes : SameBytes (view m a) (leBytes v) 0 n := by
    intro i hi hlt
    rw [h i hi (by rw [length_leList]; exact hlt)]
    simp [ofList, leList, show i < n by omega]
  have hread := readLE_congr hbytes
  rwa [readLE_view, Nat.add_zero, readLE_leBytes, Nat.pow_zero, Nat.div_one] at hread

/-- A byte of a list that is held. -/
theorem Holds.apply {m : Bytes} {a i : ℕ} {bytes : List UInt8} (h : Holds m a bytes)
    (hi : i < bytes.length) : m (a + i) = ofList bytes i :=
  h i (Nat.zero_le i) (by omega)

/-- The `n` bytes from an address on, as a list. -/
def bytesAt (m : Bytes) (a n : ℕ) : List UInt8 := (List.range n).map fun i => m (a + i)

@[simp] theorem length_bytesAt (m : Bytes) (a n : ℕ) : (bytesAt m a n).length = n := by
  simp [bytesAt]

/-- The bytes of a list that is held are the list. -/
theorem Holds.bytesAt_eq {m : Bytes} {a : ℕ} {bytes : List UInt8} (h : Holds m a bytes) :
    bytesAt m a bytes.length = bytes := by
  apply List.ext_getElem
  · rw [length_bytesAt]
  · intro i _ hi
    have hbyte := h.apply hi
    simp only [bytesAt, List.getElem_map, List.getElem_range, hbyte, ofList]
    rw [List.getD_eq_getElem _ _ hi]

end Foundation
