import IxpDimm.PlatformConfig.Validate

/-!
# The walks over the extension tables

Both walks advance by the length of the extension table they are at.  Printing stops at an unknown
type and advances by any other length, also by zero, in which case it stays where it is for good;
it runs before the list has been checked.  Checking stops at a length below the header of an
extension table, but adds the offset and the length as 32-bit numbers.

The walks that a call of `check_platform_config` makes are `Printed` and `Listed`; the call returns
and all of them advance exactly when the data holds no entry of the one kind or the other.
-/

namespace IxpDimm

open Foundation

/-! ### Loops over offsets -/

/-- Every pass of the loop from offset zero that goes on moves to a larger offset. -/
def Advances {ρ : Type} (step : ℕ → ℕ ⊕ ρ) : Prop :=
  ∀ t u, LoopReaches step 0 t → step t = .inl u → t < u

/-- A loop that advances, and goes on below a bound only, ends. -/
theorem Advances.halts {ρ : Type} {step : ℕ → ℕ ⊕ ρ} (h : Advances step) (bound : ℕ)
    (hbound : ∀ t u, step t = .inl u → t < bound) : LoopHalts step 0 := by
  refine loopHalts_of_measure (fun t => bound - t) fun t u ht hu => ?_
  have hadv := h t u ht hu
  have hlt := hbound t u hu
  omega

section Entries

variable {m : Bytes} {length : ℕ}

/-- The types that printing knows. -/
def KnownType (m : Bytes) (offset : ℕ) : Prop :=
  extensionType m offset = partitionChangeTable ∨ extensionType m offset = interleaveTable

instance (m : Bytes) (offset : ℕ) : Decidable (KnownType m offset) :=
  inferInstanceAs (Decidable (_ ∨ _))

/-- A pass of the printing walk that goes on. -/
theorem printEntry_inl_iff {t u : ℕ} : printEntry m length t = .inl u ↔
    t < length ∧ u = if KnownType m t then t + extensionLength m t else 2 ^ 64 - 1 := by
  unfold printEntry
  by_cases hlt : t < length
  · rw [if_pos hlt]
    by_cases hknown : KnownType m t
    · rw [if_pos hknown, if_pos (show _ ∨ _ from hknown), Sum.inl.injEq]
      exact ⟨fun h => ⟨hlt, h.symm⟩, fun h => h.2.symm⟩
    · rw [if_neg hknown, if_neg (show ¬ (_ ∨ _) from hknown), Sum.inl.injEq]
      exact ⟨fun h => ⟨hlt, h.symm⟩, fun h => h.2.symm⟩
  · simp [hlt]

/-- The printing walk leaves at the end of the list. -/
theorem printEntry_of_le {t : ℕ} (h : length ≤ t) : printEntry m length t = .inr () :=
  if_neg (by omega)

/-- The checking walk accepts at the end of the list. -/
theorem listEntry_of_le {t : ℕ} (h : length ≤ t) : listEntry m length t = .inr true :=
  if_neg (by omega)

/-- A pass of the checking walk that goes on. -/
theorem listEntry_inl_iff {t u : ℕ} : listEntry m length t = .inl u ↔
    t < length ∧ extensionTableHeaderSize ≤ extensionLength m t ∧ u ≤ length ∧
      u = (t + extensionLength m t) % 2 ^ 32 := by
  unfold listEntry
  split_ifs with hlt hshort hover
  · simp only [false_iff]
    omega
  · simp only [false_iff]
    omega
  · simp only [Sum.inl.injEq]
    omega
  · simp only [false_iff]
    omega

/-- The printing walk of a list shorter than `2 ^ 32` bytes advances exactly when it is at no entry
of a known type without length. -/
theorem advances_printEntry_iff (hlength : length < 2 ^ 32) :
    Advances (printEntry m length) ↔ ∀ t, LoopReaches (printEntry m length) 0 t → t < length →
      KnownType m t → extensionLength m t ≠ 0 := by
  constructor
  · intro h t ht hlt hknown hzero
    have hstep : printEntry m length t = .inl t := by
      rw [printEntry_inl_iff, if_pos hknown, hzero, Nat.add_zero]
      exact ⟨hlt, rfl⟩
    exact lt_irrefl t (h t t ht hstep)
  · intro h t u ht hu
    obtain ⟨hlt, rfl⟩ := printEntry_inl_iff.mp hu
    split_ifs with hknown
    · have hne := h t ht hlt hknown
      omega
    · omega

/-- A printing walk that comes to an entry of a known type without length does not end. -/
theorem not_loopHalts_printEntry {t : ℕ} (ht : LoopReaches (printEntry m length) 0 t)
    (hlt : t < length) (hknown : KnownType m t) (hzero : extensionLength m t = 0) :
    ¬ LoopHalts (printEntry m length) 0 := by
  intro hhalts
  refine not_loopHalts_of_fixed ?_ (loopHalts_of_reaches ht hhalts)
  rw [printEntry_inl_iff, if_pos hknown, hzero, Nat.add_zero]
  exact ⟨hlt, rfl⟩

/-- The checking walk of a list shorter than `2 ^ 32` bytes advances exactly when no entry it is at
ends past `2 ^ 32`. -/
theorem advances_listEntry_iff (hlength : length < 2 ^ 32) :
    Advances (listEntry m length) ↔ ∀ t, LoopReaches (listEntry m length) 0 t → t < length →
      extensionTableHeaderSize ≤ extensionLength m t → t + extensionLength m t < 2 ^ 32 := by
  have hshort := fun t => extensionLength_lt m t
  constructor
  · intro h t ht hlt hsize
    by_contra hwrap
    -- the offset after the entry has wrapped, so it is smaller and still inside the list
    have := hshort t
    have hstep : listEntry m length t = .inl ((t + extensionLength m t) % 2 ^ 32) :=
      listEntry_inl_iff.mpr ⟨hlt, hsize, by omega, rfl⟩
    have := h t _ ht hstep
    omega
  · intro h t u ht hu
    obtain ⟨hlt, hsize, -, rfl⟩ := listEntry_inl_iff.mp hu
    have := h t ht hlt hsize
    unfold extensionTableHeaderSize at hsize
    omega

end Entries

/-! ### The walks of a call -/

/-- A sub-table at its offset. -/
def tableAt (kind : TableKind) (m : Bytes) : Bytes := view m (tableOffset kind m)

/-- The length of the extension tables of a sub-table. -/
def extLength (kind : TableKind) (m : Bytes) : ℕ := tableSize kind m - kind.structSize

/-- The extension tables of a sub-table fit in 32 bits. -/
theorem extLength_lt (kind : TableKind) (m : Bytes) : extLength kind m < 2 ^ 32 :=
  lt_of_le_of_lt (Nat.sub_le _ _) (tableSize_lt kind m)

/-- The body of the printing walk over a sub-table. -/
def printWalk (kind : TableKind) (m : Bytes) : ℕ → ℕ ⊕ Unit :=
  printEntry (extTables kind (tableAt kind m)) (extLength kind m)

/-- The body of the checking walk over a sub-table. -/
def listWalk (kind : TableKind) (m : Bytes) : ℕ → ℕ ⊕ Bool :=
  listEntry (extTables kind (tableAt kind m)) (extLength kind m)

/-- The check of a sub-table is reached: the header and the sub-tables before it are valid. -/
def Checked (m : Bytes) (pcdSize : UInt64) : TableKind → Prop
  | .currentConfig => isPlatformConfigHeaderValid m pcdSize = true
  | .configInput => isPlatformConfigHeaderValid m pcdSize = true ∧
      Returns (fun fuel => checkCurrentConfig fuel m) .success
  | .configOutput => isPlatformConfigHeaderValid m pcdSize = true ∧
      Returns (fun fuel => checkCurrentConfig fuel m) .success ∧
      Returns (fun fuel => checkConfigInput fuel m) .success

/-- The extension tables of a sub-table are printed: its check is reached, and its length is large
enough and the one in its header. -/
def Printed (m : Bytes) (pcdSize : UInt64) (kind : TableKind) : Prop :=
  Checked m pcdSize kind ∧ kind.structSize ≤ tableSize kind m ∧
    headerLength (tableAt kind m) = tableSize kind m

/-- The list of extension tables of a sub-table is checked: it has been printed and its header is
valid. -/
def Listed (m : Bytes) (pcdSize : UInt64) (kind : TableKind) : Prop :=
  Printed m pcdSize kind ∧ LoopHalts (printWalk kind m) 0 ∧
    isConfigDataTableHeaderValid (tableAt kind m) (tableSize kind m) kind.signature = true

/-- The printing of a sub-table returns when its walk ends. -/
theorem returns_printTable_iff {kind : TableKind} {m : Bytes}
    (hlength : headerLength (tableAt kind m) = tableSize kind m) :
    Returns (fun fuel => printTable kind fuel (tableAt kind m)) () ↔
      LoopHalts (printWalk kind m) 0 := by
  have hunit : (∃ r : Unit, Returns (fun fuel => runLoop (printWalk kind m) fuel 0) r) ↔
      Returns (fun fuel => runLoop (printWalk kind m) fuel 0) () :=
    ⟨fun ⟨⟨⟩, h⟩ => h, fun h => ⟨(), h⟩⟩
  simp only [printTable, hlength]
  split_ifs with hsize
  · rw [← exists_returns_runLoop_iff, hunit]
    rfl
  · -- there are no extension tables, and the walk ends at once
    refine ⟨fun _ => ⟨1, (), ?_⟩, fun _ => returns_some_iff.mpr rfl⟩
    exact runLoop_succ_of_inr (printEntry_of_le (by unfold extLength; omega)) 0

/-- The check of a list returns when its walk ends. -/
theorem exists_returns_list_iff {kind : TableKind} {m : Bytes} :
    (∃ valid, Returns (fun fuel => isExtensionTableListValid fuel
      (extTables kind (tableAt kind m)) (tableSize kind m - kind.structSize)) valid) ↔
      LoopHalts (listWalk kind m) 0 := by
  simp only [isExtensionTableListValid]
  split_ifs with hsize
  · rw [← exists_returns_runLoop_iff]
    rfl
  · refine ⟨fun _ => ⟨1, true, ?_⟩, fun _ => ⟨true, returns_some_iff.mpr rfl⟩⟩
    exact runLoop_succ_of_inr (listEntry_of_le (by unfold extLength; omega)) 0

/-- The check of a sub-table returns when the walks over it end: the printing one if it has the right
length, and the checking one if its header is valid as well. -/
theorem exists_returns_checkTable_iff {kind : TableKind} {m : Bytes} :
    (∃ rc, Returns (fun fuel => checkTable kind fuel m) rc) ↔
      (kind.structSize ≤ tableSize kind m → headerLength (tableAt kind m) = tableSize kind m →
        LoopHalts (printWalk kind m) 0 ∧
        (isConfigDataTableHeaderValid (tableAt kind m) (tableSize kind m) kind.signature = true →
          LoopHalts (listWalk kind m) 0)) := by
  by_cases hpresent : 0 < tableSize kind m
  · have hmap : (∃ rc, Returns (fun fuel => checkTable kind fuel m) rc) ↔
        ∃ valid, Returns (fun fuel => isTableValid kind fuel (some (tableAt kind m))
          (tableSize kind m)) valid := by
      simp only [returns_checkTable_iff hpresent]
      exact ⟨fun ⟨_, valid, h, _⟩ => ⟨valid, h⟩, fun ⟨valid, h⟩ => ⟨_, valid, h, rfl⟩⟩
    rw [hmap]
    by_cases hlength : kind.structSize ≤ tableSize kind m ∧
        headerLength (tableAt kind m) = tableSize kind m
    · simp only [returns_isTableValid_iff hlength.1 hlength.2, returns_printTable_iff hlength.2,
        exists_and_left, hlength.1, hlength.2, forall_const]
      by_cases hheader : isConfigDataTableHeaderValid (tableAt kind m) (tableSize kind m)
          kind.signature = true
      · simp only [hheader, if_true, forall_const, exists_returns_list_iff]
      · simp [hheader]
    · exact ⟨fun _ h₁ h₂ => absurd ⟨h₁, h₂⟩ hlength,
        fun _ => ⟨false, returns_isTableValid_of_length _ _ hlength⟩⟩
  · have habsent : tableSize kind m = 0 := by omega
    refine ⟨fun _ hsize => ?_, fun _ => ⟨_, returns_checkTable_of_absent habsent⟩⟩
    have := kind.header_lt_structSize
    omega

section Call

variable {m : Bytes} {pcdSize : UInt64}

/-- Every walk that is made advances. -/
def WalksAdvance (m : Bytes) (pcdSize : UInt64) : Prop :=
  ∀ kind, (Printed m pcdSize kind → Advances (printWalk kind m)) ∧
    (Listed m pcdSize kind → Advances (listWalk kind m))

/-- Walks that advance end. -/
private theorem WalksAdvance.returns (h : WalksAdvance m pcdSize) (kind : TableKind)
    (hchecked : Checked m pcdSize kind) :
    ∃ rc, Returns (fun fuel => checkTable kind fuel m) rc := by
  refine exists_returns_checkTable_iff.mpr fun hsize hlength => ?_
  have hprinted : Printed m pcdSize kind := ⟨hchecked, hsize, hlength⟩
  have hprint := ((h kind).1 hprinted).halts (extLength kind m) fun t u hu =>
    (printEntry_inl_iff.mp hu).1
  refine ⟨hprint, fun hheader => ?_⟩
  exact ((h kind).2 ⟨hprinted, hprint, hheader⟩).halts (extLength kind m) fun t u hu =>
    (listEntry_inl_iff.mp hu).1

/-- When every walk that is made advances, the call returns. -/
private theorem WalksAdvance.returns_check (h : WalksAdvance m pcdSize) :
    ∃ rc, Returns (fun fuel => checkPlatformConfig fuel (some m) pcdSize) rc := by
  by_cases hheader : isPlatformConfigHeaderValid m pcdSize = true
  · simp only [returns_checkPlatformConfig_iff hheader]
    obtain ⟨rc₁, h₁⟩ := h.returns .currentConfig hheader
    by_cases hrc₁ : rc₁ = .success
    · subst hrc₁
      obtain ⟨rc₂, h₂⟩ := h.returns .configInput ⟨hheader, h₁⟩
      by_cases hrc₂ : rc₂ = .success
      · subst hrc₂
        obtain ⟨rc₃, h₃⟩ := h.returns .configOutput ⟨hheader, h₁, h₂⟩
        exact ⟨rc₃, Or.inl ⟨h₁, Or.inl ⟨h₂, h₃⟩⟩⟩
      · exact ⟨rc₂, Or.inl ⟨h₁, Or.inr ⟨h₂, hrc₂⟩⟩⟩
    · exact ⟨rc₁, Or.inr ⟨h₁, hrc₁⟩⟩
  · rw [Bool.not_eq_true] at hheader
    exact ⟨_, 0, checkPlatformConfig_of_header hheader 0⟩

end Call

/-- The call returns and every walk it makes advances, exactly when no printing walk comes to an
entry of a known type without length, and no checking walk to an entry that ends past `2 ^ 32`. -/
theorem checkPlatformConfig_terminates_iff (m : Bytes) (pcdSize : UInt64) :
    ((∃ rc, Returns (fun fuel => checkPlatformConfig fuel (some m) pcdSize) rc) ∧
        WalksAdvance m pcdSize) ↔
      ∀ kind,
        (Printed m pcdSize kind → ∀ offset, LoopReaches (printWalk kind m) 0 offset →
          offset < extLength kind m → KnownType (extTables kind (tableAt kind m)) offset →
          extensionLength (extTables kind (tableAt kind m)) offset ≠ 0) ∧
        (Listed m pcdSize kind → ∀ offset, LoopReaches (listWalk kind m) 0 offset →
          offset < extLength kind m →
          4 ≤ extensionLength (extTables kind (tableAt kind m)) offset →
          offset + extensionLength (extTables kind (tableAt kind m)) offset < 2 ^ 32) := by
  have hwalks : WalksAdvance m pcdSize ↔ _ := forall_congr' fun kind =>
    and_congr (imp_congr_right fun _ => advances_printEntry_iff (extLength_lt kind m))
      (imp_congr_right fun _ => advances_listEntry_iff (extLength_lt kind m))
  constructor
  · exact fun h => hwalks.mp h.2
  · intro h
    have hadvance := hwalks.mpr h
    exact ⟨hadvance.returns_check, hadvance⟩

/-- Platform config data of 120 bytes with a current config table of 60 bytes whose one extension
table is a partition change table without length. -/
def stuckBytes : List UInt8 :=
  [0x44, 0x4D, 0x48, 0x44, 60, 0, 0, 0, 1, 0xC0] ++ List.replicate 26 0 ++
  [60, 0, 0, 0, 60, 0, 0, 0] ++ List.replicate 16 0 ++
  [0x43, 0x43, 0x55, 0x52, 60, 0, 0, 0, 1, 0] ++ List.replicate 46 0 ++ [4, 0, 0, 0]

/-- On that data the call does not return: printing the current config table stays at its extension
table for good. -/
theorem checkPlatformConfig_not_terminates :
    ¬ ∀ (m : Bytes) (pcdSize : UInt64), platformConfigDataSize ≤ pcdSize.toNat →
      (∃ rc, Returns (fun fuel => checkPlatformConfig fuel (some m) pcdSize) rc) ∧
        WalksAdvance m pcdSize := by
  intro h
  obtain ⟨⟨rc, hrc⟩, -⟩ := h (ofList stuckBytes) 120 (by decide)
  have hheader : isPlatformConfigHeaderValid (ofList stuckBytes) 120 = true := by decide +kernel
  have hstuck : ¬ LoopHalts (printWalk .currentConfig (ofList stuckBytes)) 0 :=
    not_loopHalts_printEntry .refl (by decide +kernel) (by decide +kernel) (by decide +kernel)
  have hcurrent : ∃ rc, Returns (fun fuel => checkCurrentConfig fuel (ofList stuckBytes)) rc := by
    rcases (returns_checkPlatformConfig_iff hheader).mp hrc with ⟨hok, -⟩ | ⟨hfail, -⟩
    · exact ⟨_, hok⟩
    · exact ⟨_, hfail⟩
  exact hstuck (exists_returns_checkTable_iff.mp hcurrent (by decide +kernel) (by decide +kernel)).1

end IxpDimm
