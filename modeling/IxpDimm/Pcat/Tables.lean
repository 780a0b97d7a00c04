import IxpDimm.Common.ReturnCode
import IxpDimm.Foundation.BoundedReads
import IxpDimm.Foundation.WhileLoop
import IxpDimm.PlatformConfig.Layout

/-!
# The extension tables of the PCAT

The platform capabilities table (PCAT) is an ACPI table header followed by extension tables, each of
which starts with its type and its length.  Several functions walk through the tables in the same
way; they are one loop with what is done at a table as a parameter (`tablePass`).

The tables themselves are taken apart once (`tablesFrom`), as the bytes from the start of each table
to the end of the PCAT, and `returns_walk` says what any walk returns in terms of them: the first
access outside of the PCAT, the result of the table at which the walk is left, or that of the last
table.
-/

namespace IxpDimm.Pcat

open Foundation

/-- An access outside of the data. -/
inductive Fault
  /-- A read behind the bytes of the PCAT. -/
  | read
  /-- A write behind the end of an array. -/
  | write
  deriving DecidableEq, Repr

/-- `PCAT_TABLE_SIZE`. -/
def pcatTableSize : ℕ := 40

/-- `PCAT_MAX_LEN`. -/
def pcatMaxLen : ℕ := 4096

/-- `struct bios_capabilities` as `get_platform_capabilities` delivers it: the `header.length` bytes of
the table. -/
structure BiosCapabilities where
  /-- The bytes of the table. -/
  bytes : List UInt8
  /-- The table has a header. -/
  header_le : pcatTableSize ≤ bytes.length
  /-- The table fits in `struct bios_capabilities`. -/
  length_le : bytes.length ≤ pcatMaxLen
  /-- The length in the header. -/
  length_eq : headerLength (ofList bytes) = bytes.length
  /-- The signature `"PCAT"`. -/
  signature : bytes.take 4 = [0x50, 0x43, 0x41, 0x54]
  /-- The checksum. -/
  checksum : verifyChecksum (ofList bytes) bytes.length = true

/-- A number of `n` bytes at a distance from the start of a table. -/
def field (table : List UInt8) (a n : ℕ) : Except Fault ℕ :=
  (readNumber table a n).mapError fun _ => .read

/-- A field within the PCAT. -/
theorem field_of_le {table : List UInt8} {a n : ℕ} (h : a + n ≤ table.length) :
    field table a n = .ok (readLE (ofList table) a n) := by
  rw [field, readNumber_of_le h]
  rfl

/-- A field that ends behind the PCAT. -/
theorem field_of_lt {table : List UInt8} {a n : ℕ} (hn : 0 < n) (h : table.length < a + n) :
    field table a n = .error .read := by
  rw [field]
  cases hread : readNumber table a n with
  | error address => rfl
  | ok value => exact absurd ((inBounds_readNumber hn).mp ⟨value, hread⟩) (not_le.mpr h)

/-! ### The walk -/

/-- What the body of the loop does at a table: the walk goes on, or is left with a result. -/
inductive Visit (σ : Type)
  /-- The walk goes on to the next table. -/
  | next (state : σ)
  /-- `break`. -/
  | leave (rc : ReturnCode) (state : σ)

/-- One pass of the loop over the extension tables, at an offset. -/
def tablePass {σ : Type} (pcat : List UInt8)
    (visit : ℕ → List UInt8 → σ → Except Fault (Visit σ)) (w : ℕ × σ) :
    (ℕ × σ) ⊕ Except Fault (ReturnCode × σ) :=
  if w.1 < headerLength (ofList pcat) then
    match (do
      let pHeader := pcat.drop w.1
      let length ← field pHeader 2 2
      if length = 0 ∨ headerLength (ofList pcat) < length + w.1 then
        pure (.leave .errBadPcat w.2, length)
      else do
        let type ← field pHeader 0 2
        let visited ← visit type pHeader w.2
        pure (visited, length) : Except Fault (Visit σ × ℕ)) with
    | .error fault => .inr (.error fault)
    | .ok (.leave rc state, _) => .inr (.ok (rc, state))
    | .ok (.next state, length) => .inl (w.1 + length, state)
  else .inr (.ok (.success, w.2))

/-- The loop over the extension tables. -/
def walkTables {σ : Type} (pcat : List UInt8)
    (visit : ℕ → List UInt8 → σ → Except Fault (Visit σ)) (state : σ) (fuel : ℕ) :
    Option (Except Fault (ReturnCode × σ)) :=
  runLoop (tablePass pcat visit) fuel (pcatTableSize, state)

/-! ### The tables -/

/-- `p_header->type`. -/
def tableType (table : List UInt8) : ℕ := readLE (ofList table) 0 2

/-- `p_header->length`. -/
def tableLength (table : List UInt8) : ℕ := readLE (ofList table) 2 2

/-- What follows the last table that a walk can come to. -/
inductive ChainEnd
  /-- Nothing. -/
  | done
  /-- Less than the header of a table. -/
  | cut
  /-- A table whose length is zero or leaves the PCAT. -/
  | badLength
  deriving DecidableEq, Repr

/-- The tables in the bytes behind the header, each with all bytes behind it. -/
def tablesFrom (rest : List UInt8) : List (List UInt8) × ChainEnd :=
  if rest = [] then ([], .done)
  else if rest.length < 4 then ([], .cut)
  else if _h : tableLength rest = 0 ∨ rest.length < tableLength rest then ([], .badLength)
  else
    let behind := tablesFrom (rest.drop (tableLength rest))
    (rest :: behind.1, behind.2)
  termination_by rest.length
  decreasing_by
    rw [List.length_drop]
    have := not_or.mp _h
    omega

/-- What a walk does at tables. -/
def visitTables {σ : Type} (visit : ℕ → List UInt8 → σ → Except Fault (Visit σ)) :
    List (List UInt8) → σ → Except Fault (Visit σ)
  | [], state => .ok (.next state)
  | table :: tables, state =>
    match visit (tableType table) table state with
    | .error fault => .error fault
    | .ok (.leave rc state') => .ok (.leave rc state')
    | .ok (.next state') => visitTables visit tables state'

/-- What a walk returns when it comes to the end of the tables. -/
def ChainEnd.result {σ : Type} (ending : ChainEnd) (state : σ) : Except Fault (ReturnCode × σ) :=
  match ending with
  | .done => .ok (.success, state)
  | .cut => .error .read
  | .badLength => .ok (.errBadPcat, state)

/-- What a walk returns. -/
def walkResult {σ : Type} (visit : ℕ → List UInt8 → σ → Except Fault (Visit σ))
    (tables : List (List UInt8) × ChainEnd) (state : σ) : Except Fault (ReturnCode × σ) :=
  match visitTables visit tables.1 state with
  | .error fault => .error fault
  | .ok (.leave rc state') => .ok (rc, state')
  | .ok (.next state') => tables.2.result state'

section
variable {σ : Type} {pcat : List UInt8} {visit : ℕ → List UInt8 → σ → Except Fault (Visit σ)}

/-- A pass behind the tables leaves the loop. -/
private theorem tablePass_done {offset : ℕ} {state : σ}
    (h : headerLength (ofList pcat) ≤ offset) :
    tablePass pcat visit (offset, state) = .inr (.ok (.success, state)) :=
  if_neg (not_lt.mpr h)

/-- A pass at less than a header reads behind the PCAT. -/
private theorem tablePass_cut {offset : ℕ} {state : σ}
    (hlength : headerLength (ofList pcat) = pcat.length) (h : offset < pcat.length)
    (hcut : (pcat.drop offset).length < 4) :
    tablePass pcat visit (offset, state) = .inr (.error .read) := by
  simp only [tablePass]
  rw [if_pos (by rwa [hlength]), field_of_lt (by decide) (by omega)]
  rfl

/-- A pass at a table with an invalid length leaves the loop. -/
private theorem tablePass_badLength {offset : ℕ} {state : σ}
    (hlength : headerLength (ofList pcat) = pcat.length) (h : offset < pcat.length)
    (hheader : 4 ≤ (pcat.drop offset).length)
    (hbad : tableLength (pcat.drop offset) = 0 ∨
      (pcat.drop offset).length < tableLength (pcat.drop offset)) :
    tablePass pcat visit (offset, state) = .inr (.ok (.errBadPcat, state)) := by
  have hcall : tableLength (pcat.drop offset) = 0 ∨
      headerLength (ofList pcat) < tableLength (pcat.drop offset) + offset := by
    rw [List.length_drop] at hbad
    omega
  have hfield : field (pcat.drop offset) 2 2 = .ok (tableLength (pcat.drop offset)) :=
    field_of_le hheader
  simp only [tablePass]
  rw [if_pos (by rwa [hlength]), hfield, ok_bind, if_pos hcall]
  rfl

/-- A pass at a table with a valid length visits it. -/
private theorem tablePass_table {offset : ℕ} {state : σ}
    (hlength : headerLength (ofList pcat) = pcat.length) (h : offset < pcat.length)
    (hheader : 4 ≤ (pcat.drop offset).length)
    (hgood : ¬ (tableLength (pcat.drop offset) = 0 ∨
      (pcat.drop offset).length < tableLength (pcat.drop offset))) :
    tablePass pcat visit (offset, state) =
      match visit (tableType (pcat.drop offset)) (pcat.drop offset) state with
      | .error fault => .inr (.error fault)
      | .ok (.leave rc state') => .inr (.ok (rc, state'))
      | .ok (.next state') => .inl (offset + tableLength (pcat.drop offset), state') := by
  have hcall : ¬ (tableLength (pcat.drop offset) = 0 ∨
      headerLength (ofList pcat) < tableLength (pcat.drop offset) + offset) := by
    rw [List.length_drop] at hgood
    omega
  have hfield : field (pcat.drop offset) 2 2 = .ok (tableLength (pcat.drop offset)) :=
    field_of_le hheader
  have htype : field (pcat.drop offset) 0 2 = .ok (tableType (pcat.drop offset)) :=
    field_of_le (by omega)
  simp only [tablePass]
  rw [if_pos (by rwa [hlength]), hfield, ok_bind, if_neg hcall, htype, ok_bind]
  cases visit (tableType (pcat.drop offset)) (pcat.drop offset) state with
  | error fault => rfl
  | ok visited =>
    cases visited with
    | next state' => rfl
    | leave rc state' => rfl

/-- The walk from an offset returns what the tables behind it give. -/
private theorem returns_runLoop (hlength : headerLength (ofList pcat) = pcat.length)
    {rest : List UInt8} {offset : ℕ} (hrest : pcat.drop offset = rest) (state : σ) :
    Returns (fun fuel => runLoop (tablePass pcat visit) fuel (offset, state))
      (walkResult visit (tablesFrom rest) state) := by
  induction hn : rest.length using Nat.strong_induction_on generalizing rest offset state with
  | _ n ih =>
    subst hrest
    rw [tablesFrom]
    by_cases hnil : pcat.drop offset = []
    · rw [if_pos hnil]
      have hle : headerLength (ofList pcat) ≤ offset := by
        rw [hlength]
        exact List.drop_eq_nil_iff.mp hnil
      exact ⟨1, runLoop_succ_of_inr (tablePass_done hle) 0⟩
    · rw [if_neg hnil]
      have hlt : offset < pcat.length := not_le.mp fun hle => hnil (List.drop_eq_nil_iff.mpr hle)
      by_cases hcut : (pcat.drop offset).length < 4
      · rw [if_pos hcut]
        exact ⟨1, runLoop_succ_of_inr (tablePass_cut hlength hlt hcut) 0⟩
      · rw [if_neg hcut]
        by_cases hbad : tableLength (pcat.drop offset) = 0 ∨
            (pcat.drop offset).length < tableLength (pcat.drop offset)
        · rw [dif_pos hbad]
          exact ⟨1, runLoop_succ_of_inr
            (tablePass_badLength hlength hlt (not_lt.mp hcut) hbad) 0⟩
        · rw [dif_neg hbad]
          have hpass := @tablePass_table _ _ visit _ state hlength hlt
            (not_lt.mp hcut) hbad
          simp only [walkResult, visitTables]
          cases hvisit : visit (tableType (pcat.drop offset)) (pcat.drop offset) state with
          | error fault =>
            rw [hvisit] at hpass
            exact ⟨1, runLoop_succ_of_inr hpass 0⟩
          | ok visited =>
            rw [hvisit] at hpass
            cases visited with
            | leave rc state' => exact ⟨1, runLoop_succ_of_inr hpass 0⟩
            | next state' =>
              have hdrop : pcat.drop (offset + tableLength (pcat.drop offset)) =
                  (pcat.drop offset).drop (tableLength (pcat.drop offset)) := List.drop_drop.symm
              have hshort : ((pcat.drop offset).drop (tableLength (pcat.drop offset))).length <
                  n := by
                rw [List.length_drop, ← hn]
                have := not_or.mp hbad
                omega
              obtain ⟨fuel, hfuel⟩ := ih _ hshort hdrop state' rfl
              exact ⟨fuel + 1, (runLoop_succ_of_inl hpass fuel).trans hfuel⟩

end

/-- Every walk through bytes with the length of their header terminates, and returns what the tables
give. -/
theorem returns_walk {σ : Type} {pcat : List UInt8}
    (hlength : headerLength (ofList pcat) = pcat.length)
    (visit : ℕ → List UInt8 → σ → Except Fault (Visit σ)) (state : σ) :
    Returns (walkTables pcat visit state)
      (walkResult visit (tablesFrom (pcat.drop pcatTableSize)) state) :=
  returns_runLoop hlength rfl state

/-- What a walk returns. -/
theorem returns_walk_iff {σ : Type} {pcat : List UInt8}
    (hlength : headerLength (ofList pcat) = pcat.length)
    {visit : ℕ → List UInt8 → σ → Except Fault (Visit σ)} {state : σ}
    {r : Except Fault (ReturnCode × σ)} :
    Returns (walkTables pcat visit state) r ↔
      walkResult visit (tablesFrom (pcat.drop pcatTableSize)) state = r :=
  ⟨fun h => (returns_walk hlength visit state).unique (fuelMono_runLoop _ _) h,
    fun h => h ▸ returns_walk hlength visit state⟩

end IxpDimm.Pcat
