import IxpDimm.Foundation.FieldWrites

/-!
# Structures laid out in a buffer

A packed structure in a buffer is a `Row`: its size and its fields.  `LaidOut m a rows` says that
rows are one behind the other from an address on; it splits along the rows and depends on their bytes
only.  A buffer into which rows are written at its end `Grows` by them, and stays blank behind them.
-/

namespace Foundation

/-! ### Rows of a buffer -/

/-- A table in a buffer: its size and its fields. -/
structure Row where
  /-- The number of its bytes. -/
  size : ℕ
  /-- The fields. -/
  fields : List FieldValue

/-- The fields of a row are at an address. -/
def Row.Holds (row : Row) (m : Bytes) (a : ℕ) : Prop :=
  ∀ f ∈ row.fields, f.1 + f.2.1 ≤ row.size ∧ readLE m (a + f.1) f.2.1 = f.2.2

/-- Rows are one behind the other, from an address on. -/
def LaidOut (m : Bytes) : ℕ → List Row → Prop
  | _, [] => True
  | a, row :: rows => row.Holds m a ∧ LaidOut m (a + row.size) rows

/-- The number of bytes of rows. -/
def totalSize (rows : List Row) : ℕ := (rows.map Row.size).sum

@[simp] theorem totalSize_nil : totalSize [] = 0 := rfl

@[simp] theorem totalSize_cons (row : Row) (rows : List Row) :
    totalSize (row :: rows) = row.size + totalSize rows := rfl

@[simp] theorem totalSize_append (rows rows' : List Row) :
    totalSize (rows ++ rows') = totalSize rows + totalSize rows' := by
  rw [totalSize, List.map_append, List.sum_append]
  rfl

/-- A row depends on its own bytes only. -/
theorem Row.Holds.congr {row : Row} {m m' : Bytes} {a : ℕ} (h : row.Holds m a)
    (hsame : SameBytes m' m a row.size) : row.Holds m' a := by
  intro f hf
  obtain ⟨hsize, hread⟩ := h f hf
  exact ⟨hsize, by rw [readLE_congr (hsame.mono (by omega) (by omega)), hread]⟩

/-- Rows depend on their own bytes only. -/
theorem LaidOut.congr {m m' : Bytes} {a : ℕ} {rows : List Row} (h : LaidOut m a rows)
    (hsame : SameBytes m' m a (totalSize rows)) : LaidOut m' a rows := by
  induction rows generalizing a with
  | nil => trivial
  | cons row rows ih =>
    rw [totalSize_cons] at hsame
    exact ⟨h.1.congr (hsame.mono le_rfl (by omega)), ih h.2 (hsame.mono (by omega) (by omega))⟩

/-- Rows behind rows. -/
theorem laidOut_append {m : Bytes} {a : ℕ} {rows rows' : List Row} :
    LaidOut m a (rows ++ rows') ↔ LaidOut m a rows ∧ LaidOut m (a + totalSize rows) rows' := by
  induction rows generalizing a with
  | nil => exact ⟨fun h => ⟨trivial, h⟩, fun h => h.2⟩
  | cons row rows ih =>
    rw [List.cons_append, LaidOut, LaidOut, ih, totalSize_cons, Nat.add_assoc, and_assoc]

/-- Rows seen from another base. -/
theorem laidOut_view {m : Bytes} {b a : ℕ} {rows : List Row} :
    LaidOut (view m b) a rows ↔ LaidOut m (b + a) rows := by
  induction rows generalizing a with
  | nil => exact Iff.rfl
  | cons row rows ih =>
    simp only [LaidOut, Row.Holds, readLE_view, Nat.add_assoc, ih]

/-- The fields of a structure do not overlap, and their values fit in their sizes. -/
structure FieldsValid (size : ℕ) (fields : List FieldValue) : Prop where
  /-- No two fields overlap. -/
  disjoint : fields.Pairwise FieldsDisjoint
  /-- The fields are in the structure. -/
  inside : ∀ f ∈ fields, f.1 + f.2.1 ≤ size
  /-- The values fit. -/
  range : ∀ f ∈ fields, f.2.2 < 256 ^ f.2.1

/-- The fields that were written to a structure are there. -/
theorem FieldsValid.holds {size : ℕ} {fields : List FieldValue} (h : FieldsValid size fields)
    (m : Bytes) (a : ℕ) : Row.Holds ⟨size, fields⟩ (writeFields m a fields) a := by
  intro f hf
  refine ⟨h.inside f hf, ?_⟩
  rw [readLE_writeFields (v := f.2.2) h.disjoint hf, Nat.mod_eq_of_lt (h.range f hf)]

/-- Writing to a structure changes nothing before it. -/
theorem sameBytes_writeFields_before (m : Bytes) (a : ℕ) (fields : List FieldValue) :
    SameBytes (writeFields m a fields) m 0 a :=
  sameBytes_writeFields fun _ _ => Or.inl (by omega)

/-- A field of a structure is overwritten. -/
theorem Row.Holds.overwrite {size d n v v' : ℕ} {before behind : List FieldValue} {m : Bytes} {a : ℕ}
    (h : Row.Holds ⟨size, before ++ (d, n, v) :: behind⟩ m a)
    (hdisjoint : ∀ f ∈ before ++ behind, FieldsDisjoint (d, n, v) f) (hrange : v' < 256 ^ n) :
    Row.Holds ⟨size, before ++ (d, n, v') :: behind⟩ (writeLE m (a + d) n v') a := by
  have hother : ∀ f ∈ before ++ behind, f.1 + f.2.1 ≤ size ∧
      readLE (writeLE m (a + d) n v') (a + f.1) f.2.1 = f.2.2 := by
    intro f hf
    obtain ⟨hsize, hread⟩ := h f (by
      rcases List.mem_append.mp hf with hmem | hmem
      · exact List.mem_append_left _ hmem
      · exact List.mem_append_right _ (List.mem_cons_of_mem _ hmem))
    have hapart : d + n ≤ f.1 ∨ f.1 + f.2.1 ≤ d := hdisjoint f hf
    exact ⟨hsize, by rw [readLE_writeLE_of_disjoint (by omega), hread]⟩
  intro f hf
  rcases List.mem_append.mp hf with hmem | hmem
  · exact hother f (List.mem_append_left _ hmem)
  · rcases List.mem_cons.mp hmem with rfl | hmem
    · obtain ⟨hsize, -⟩ := h (d, n, v) (List.mem_append_right _ List.mem_cons_self)
      exact ⟨hsize, by rw [readLE_writeLE_self, Nat.mod_eq_of_lt hrange]⟩
    · exact hother f (List.mem_append_right _ hmem)

/-! ### Growing -/

/-- A buffer is blank from an address on. -/
def Blank (m : Bytes) (a : ℕ) : Prop := ∀ i, a ≤ i → m i = 0

/-- Bytes overwritten before an address. -/
theorem Blank.copy {m src : Bytes} {a b n : ℕ} (h : Blank m a) (hb : b + n ≤ a) :
    Blank (copy m b n src) a := by
  intro i hi
  rw [copy_apply_of_notMem (Or.inr (by omega)), h i hi]

/-- Where a buffer is blank it holds zeros. -/
theorem Blank.readLE {m : Bytes} {a b : ℕ} (h : Blank m a) (hab : a ≤ b) (n : ℕ) :
    readLE m b n = 0 := by
  induction n generalizing b with
  | zero => rfl
  | succ n ih =>
    rw [Foundation.readLE, h b hab, ih (by omega)]
    rfl

/-- Rows are written to a buffer from an address on: the bytes before it stay, and the buffer is
blank behind them. -/
structure Grows (m m' : Bytes) (a : ℕ) (rows : List Row) : Prop where
  /-- The bytes before the rows stay. -/
  before : SameBytes m' m 0 a
  /-- The rows are in the buffer. -/
  laidOut : LaidOut m' a rows
  /-- The buffer is blank behind the rows. -/
  blank : Blank m' (a + totalSize rows)

/-- Nothing is written. -/
theorem Grows.refl {m : Bytes} {a : ℕ} (h : Blank m a) : Grows m m a [] :=
  ⟨fun _ _ _ => rfl, trivial, h⟩

/-- Rows are written twice. -/
theorem Grows.trans {m m₁ m₂ : Bytes} {a : ℕ} {rows rows' : List Row} (h : Grows m m₁ a rows)
    (h' : Grows m₁ m₂ (a + totalSize rows) rows') : Grows m m₂ a (rows ++ rows') := by
  refine ⟨?_, laidOut_append.mpr ⟨?_, h'.laidOut⟩, ?_⟩
  · exact (h'.before.mono le_rfl (by omega)).trans h.before
  · exact h.laidOut.congr (h'.before.mono (by omega) (by omega))
  · rw [totalSize_append, ← Nat.add_assoc]
    exact h'.blank

/-- A structure is written to a blank place; the fields that are left out there are zero. -/
theorem FieldsValid.grows {size : ℕ} {fields blanks : List FieldValue}
    (h : FieldsValid size (fields ++ blanks)) (hblanks : ∀ f ∈ blanks, f.2.2 = 0) {m : Bytes} {a : ℕ}
    (hm : Blank m a) : Grows m (writeFields m a fields) a [⟨size, fields ++ blanks⟩] := by
  obtain ⟨hfields, -, hapart⟩ := List.pairwise_append.mp h.disjoint
  refine ⟨sameBytes_writeFields_before m a fields, ⟨?_, trivial⟩, ?_⟩
  · intro f hf
    refine ⟨h.inside f hf, ?_⟩
    rcases List.mem_append.mp hf with hmem | hmem
    · rw [readLE_writeFields (v := f.2.2) hfields hmem, Nat.mod_eq_of_lt (h.range f hf)]
    · have houtside : FieldsOutside fields a (a + f.1) f.2.1 := by
        intro g hg
        have hdisjoint : g.1 + g.2.1 ≤ f.1 ∨ f.1 + f.2.1 ≤ g.1 := hapart g hg f hmem
        omega
      rw [readLE_congr (sameBytes_writeFields houtside), hm.readLE (Nat.le_add_right a f.1),
        hblanks f hmem]
  · intro i hi
    rw [totalSize_cons, totalSize_nil] at hi
    dsimp only at hi
    have houtside : FieldsOutside fields a i 1 := by
      intro g hg
      have hinside := h.inside g (List.mem_append_left blanks hg)
      omega
    rw [sameBytes_writeFields houtside i le_rfl (by omega), hm i (by omega)]

end Foundation
