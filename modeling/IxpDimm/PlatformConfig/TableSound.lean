import IxpDimm.PlatformConfig.Placement

/-!
# Valid sub-tables

A sub-table on its own is valid when it is as long as its structure at least, its header is valid
with a checksum over its length, and its list of extension tables is.  The list is described without
the walks by `ExtensionList`, which depends on the bytes of the list only; this is what makes a copy
of a valid sub-table valid.
-/

namespace IxpDimm

open Foundation

/-! ### Lists of extension tables -/

/-- From an offset on, extension tables of at least the size of their header follow each other up to
the end of the list. -/
inductive ExtensionList (m : Bytes) (length : ℕ) : ℕ → Prop
  /-- The end of the list. -/
  | done : ExtensionList m length length
  /-- An extension table and those behind it. -/
  | entry {t : ℕ} : t < length → extensionTableHeaderSize ≤ extensionLength m t →
      t + extensionLength m t ≤ length → ExtensionList m length (t + extensionLength m t) →
      ExtensionList m length t

section Lists

variable {m m' : Bytes} {length : ℕ}

/-- A list depends on its bytes only. -/
theorem ExtensionList.congr {t : ℕ} (h : ExtensionList m length t)
    (hsame : SameBytes m m' 0 length) : ExtensionList m' length t := by
  induction h with
  | done => exact .done
  | @entry t hlt hsize hfits _ ih =>
    have hlength : extensionLength m' t = extensionLength m t := by
      unfold extensionTableHeaderSize at hsize
      exact (readLE_congr (hsame.mono (by omega) (by omega))).symm
    rw [← hlength] at hsize hfits ih
    exact .entry hlt hsize hfits ih

/-- The printing walk over a list ends. -/
theorem ExtensionList.halts_print {t : ℕ} (h : ExtensionList m length t) (hlength : length < 2 ^ 64) :
    LoopHalts (printEntry m length) t := by
  induction h with
  | done => exact ⟨1, (), runLoop_succ_of_inr (printEntry_of_le le_rfl) 0⟩
  | @entry t hlt _ _ _ ih =>
    by_cases hknown : KnownType m t
    · obtain ⟨fuel, r, hrun⟩ := ih
      have hstep : printEntry m length t = .inl (t + extensionLength m t) := by
        rw [printEntry_inl_iff, if_pos hknown]
        exact ⟨hlt, rfl⟩
      exact ⟨fuel + 1, r, by rwa [runLoop_succ_of_inl hstep]⟩
    · have hstep : printEntry m length t = .inl (2 ^ 64 - 1) := by
        rw [printEntry_inl_iff, if_neg hknown]
        exact ⟨hlt, rfl⟩
      refine ⟨2, (), ?_⟩
      rw [runLoop_succ_of_inl hstep]
      exact runLoop_succ_of_inr (printEntry_of_le (by omega)) 0

/-- The checking walk accepts a list. -/
private theorem ExtensionList.returns_true {t : ℕ} (h : ExtensionList m length t)
    (hlength : length < 2 ^ 32) : Returns (fun fuel => runLoop (listEntry m length) fuel t) true := by
  induction h with
  | done => exact ⟨1, runLoop_succ_of_inr (listEntry_of_le le_rfl) 0⟩
  | @entry t hlt hsize hfits _ ih =>
    obtain ⟨fuel, hrun⟩ := ih
    have hmod : (t + extensionLength m t) % 2 ^ 32 = t + extensionLength m t :=
      Nat.mod_eq_of_lt (by omega)
    have hstep : listEntry m length t = .inl (t + extensionLength m t) :=
      listEntry_inl_iff.mpr ⟨hlt, hsize, hfits, hmod.symm⟩
    refine ⟨fuel + 1, ?_⟩
    dsimp only
    rwa [runLoop_succ_of_inl hstep]

/-- What the checking walk accepts is a list, as long as its offsets do not wrap. -/
private theorem extensionList_of_run (hlength : length + 2 ^ 16 ≤ 2 ^ 32) {fuel t : ℕ}
    (ht : t ≤ length) (h : runLoop (listEntry m length) fuel t = some true) :
    ExtensionList m length t := by
  induction fuel generalizing t with
  | zero => cases h
  | succ fuel ih =>
    cases hstep : listEntry m length t with
    | inl u =>
      rw [runLoop_succ_of_inl hstep] at h
      obtain ⟨hlt, hsize, hle, rfl⟩ := listEntry_inl_iff.mp hstep
      have hshort := extensionLength_lt m t
      have hmod : (t + extensionLength m t) % 2 ^ 32 = t + extensionLength m t :=
        Nat.mod_eq_of_lt (by omega)
      rw [hmod] at hle h
      exact .entry hlt hsize hle (ih hle h)
    | inr valid =>
      rw [runLoop_succ_of_inr hstep] at h
      obtain rfl := Option.some.inj h
      unfold listEntry at hstep
      split_ifs at hstep with hlt
      · cases hstep
      · cases hstep
      · obtain rfl : t = length := by omega
        exact .done

/-- What the check of a list accepts. -/
theorem returns_isExtensionTableListValid_iff (hlength : length + 2 ^ 16 ≤ 2 ^ 32) :
    Returns (fun fuel => isExtensionTableListValid fuel m length) true ↔
      ExtensionList m length 0 := by
  simp only [isExtensionTableListValid]
  split_ifs with hpos
  · constructor
    · rintro ⟨fuel, h⟩
      exact extensionList_of_run hlength (Nat.zero_le _) h
    · exact fun h => h.returns_true (by omega)
  · obtain rfl : length = 0 := by omega
    exact ⟨fun _ => .done, fun _ => returns_some_iff.mpr rfl⟩

end Lists

/-! ### Valid sub-tables -/

/-- A sub-table on its own is valid: it is long enough, its header is valid with a checksum over its
length, and its list of extension tables is valid. -/
structure TableSound (kind : TableKind) (table : Bytes) : Prop where
  /-- The table is at least as long as its structure. -/
  size : kind.structSize ≤ headerLength table
  /-- The header is valid. -/
  header : isConfigDataTableHeaderValid table (headerLength table) kind.signature = true
  /-- The list of extension tables is valid. -/
  list : Returns (fun fuel => isExtensionTableListValid fuel (extTables kind table)
    (headerLength table - kind.structSize)) true

section Sound

variable {kind : TableKind} {table table' : Bytes}

/-- The header of a valid sub-table. -/
theorem TableSound.sum_eq_zero (h : TableSound kind table) :
    sumBytes table 0 (headerLength table) = 0 := by
  have hheader := h.header
  unfold isConfigDataTableHeaderValid at hheader
  split_ifs at hheader with _ hsum
  simpa [verifyChecksum] using hsum

/-- Sub-tables with the same bytes have headers of the same length. -/
theorem headerLength_congr (hsame : SameBytes table table' 0 8) :
    headerLength table' = headerLength table :=
  (readLE_congr (hsame.mono (by omega) (by omega))).symm

/-- Sub-tables with the same bytes have headers that are valid together. -/
theorem isConfigDataTableHeaderValid_congr {length : ℕ} (hlength : 8 ≤ length)
    (hsame : SameBytes table table' 0 length) (signature : List UInt8) :
    isConfigDataTableHeaderValid table' length signature =
      isConfigDataTableHeaderValid table length signature := by
  have hsig : headerSignature table' = headerSignature table := by
    unfold headerSignature
    rw [hsame 0 le_rfl (by omega), hsame 1 (by omega) (by omega), hsame 2 (by omega) (by omega),
      hsame 3 (by omega) (by omega)]
  unfold isConfigDataTableHeaderValid verifyChecksum
  rw [headerLength_congr (hsame.mono le_rfl (by omega)), sumBytes_congr hsame, hsig]

/-- A copy of a valid sub-table is valid. -/
theorem TableSound.congr (h : TableSound kind table) (hroom : headerLength table < 2 ^ 31)
    (hsame : SameBytes table table' 0 (headerLength table)) : TableSound kind table' := by
  have hsize := h.size
  have hlarger := kind.header_lt_structSize
  unfold configDataTableHeaderSize at hlarger
  have hlength : headerLength table' = headerLength table :=
    headerLength_congr (hsame.mono le_rfl (by omega))
  have hlist := h.list
  rw [returns_isExtensionTableListValid_iff (by omega)] at hlist
  refine ⟨by rw [hlength]; exact hsize, ?_, ?_⟩
  · rw [hlength, isConfigDataTableHeaderValid_congr (by omega) hsame]
    exact h.header
  · rw [hlength, returns_isExtensionTableListValid_iff (by omega)]
    refine hlist.congr ?_
    intro i _ hi
    exact hsame _ (Nat.zero_le _) (by omega)

/-- The check of a sub-table accepts exactly the valid ones. -/
theorem returns_isTableValid_true_iff (hroom : headerLength table < 2 ^ 31) {length : ℕ} :
    Returns (fun fuel => isTableValid kind fuel (some table) length) true ↔
      headerLength table = length ∧ TableSound kind table := by
  by_cases hlength : kind.structSize ≤ length ∧ headerLength table = length
  · obtain ⟨hsize, rfl⟩ := hlength
    rw [returns_isTableValid_iff hsize rfl]
    constructor
    · rintro ⟨-, hrest⟩
      split_ifs at hrest with hheader
      exact ⟨rfl, hsize, hheader, hrest⟩
    · rintro ⟨-, hsound⟩
      rw [if_pos hsound.header]
      refine ⟨?_, hsound.list⟩
      have hlist := hsound.list
      rw [returns_isExtensionTableListValid_iff (by omega)] at hlist
      obtain ⟨fuel, ⟨⟩, hrun⟩ := hlist.halts_print (by omega)
      simp only [printTable]
      split_ifs
      · exact ⟨fuel, hrun⟩
      · exact returns_some_iff.mpr rfl
  · constructor
    · intro htrue
      have hfalse := returns_isTableValid_of_length kind table hlength
      cases htrue.unique (fuelMono_isTableValid kind table length) hfalse
    · rintro ⟨rfl, hsound⟩
      exact absurd ⟨hsound.size, rfl⟩ hlength

end Sound

end IxpDimm
