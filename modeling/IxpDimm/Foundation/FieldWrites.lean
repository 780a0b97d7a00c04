import IxpDimm.Foundation.ByteMemory

/-!
# Writing the fields of a packed structure

The fields of a packed structure are given by their distances from its start, their sizes and their
values.  They are written one after the other (`writeFields`); what was written is read back when the
fields do not overlap, and bytes outside of the fields stay.
-/

namespace Foundation

/-- A field: its distance from the start of the structure, its size, and its value. -/
abbrev FieldValue := ℕ × ℕ × ℕ

/-- The fields are written to the structure at an address. -/
def writeFields (m : Bytes) (a : ℕ) : List FieldValue → Bytes
  | [] => m
  | (d, n, v) :: fields => writeFields (writeLE m (a + d) n v) a fields

/-- The fields are outside of a range. -/
def FieldsOutside (fields : List FieldValue) (a b k : ℕ) : Prop :=
  ∀ f ∈ fields, b + k ≤ a + f.1 ∨ a + f.1 + f.2.1 ≤ b

/-- Two fields do not overlap. -/
def FieldsDisjoint (f g : FieldValue) : Prop := f.1 + f.2.1 ≤ g.1 ∨ g.1 + g.2.1 ≤ f.1

instance (f g : FieldValue) : Decidable (FieldsDisjoint f g) :=
  inferInstanceAs (Decidable (_ ∨ _))

/-- A range outside of the fields stays. -/
theorem sameBytes_writeFields {fields : List FieldValue} {m : Bytes} {a b k : ℕ}
    (h : FieldsOutside fields a b k) : SameBytes (writeFields m a fields) m b k := by
  induction fields generalizing m with
  | nil => exact fun _ _ _ => rfl
  | cons f fields ih =>
    obtain ⟨d, n, v⟩ := f
    have hfirst := h (d, n, v) List.mem_cons_self
    exact (ih fun g hg => h g (List.mem_cons_of_mem _ hg)).trans (sameBytes_copy hfirst)

/-- A byte outside of the fields stays. -/
theorem writeFields_apply_of_outside {m : Bytes} {a i : ℕ} {fields : List FieldValue}
    (h : ∀ f ∈ fields, i < a + f.1 ∨ a + f.1 + f.2.1 ≤ i) : writeFields m a fields i = m i := by
  have houtside : FieldsOutside fields a i 1 := fun f hf => h f hf
  exact sameBytes_writeFields houtside i le_rfl (Nat.lt_succ_self i)

/-- A byte of the first field. -/
theorem writeFields_cons_apply {m : Bytes} {a d n v j : ℕ} {fields : List FieldValue}
    (hj : j < n) (h : ∀ f ∈ fields, a + d + j < a + f.1 ∨ a + f.1 + f.2.1 ≤ a + d + j) :
    writeFields m a ((d, n, v) :: fields) (a + d + j) = leBytes v j := by
  rw [writeFields, writeFields_apply_of_outside h]
  exact copy_apply_add hj

/-- A field is read back when it does not overlap with the others. -/
theorem readLE_writeFields {fields : List FieldValue} {m : Bytes} {a d n v : ℕ}
    (hdisjoint : fields.Pairwise FieldsDisjoint) (h : (d, n, v) ∈ fields) :
    readLE (writeFields m a fields) (a + d) n = v % 256 ^ n := by
  induction fields generalizing m with
  | nil => cases h
  | cons f fields ih =>
    obtain ⟨hhead, htail⟩ := List.pairwise_cons.mp hdisjoint
    rcases List.mem_cons.mp h with rfl | hmem
    · have houtside : FieldsOutside fields a (a + d) n := by
        intro g hg
        have hg' : d + n ≤ g.1 ∨ g.1 + g.2.1 ≤ d := hhead g hg
        omega
      show readLE (writeFields (writeLE m (a + d) n v) a fields) (a + d) n = v % 256 ^ n
      rw [readLE_congr (sameBytes_writeFields houtside), readLE_writeLE_self]
    · exact ih htail hmem

end Foundation
