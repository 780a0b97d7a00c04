import IxpDimm.Foundation.WhileLoop
import IxpDimm.PlatformConfig.Layout

/-!
# Checking platform config data

`check_platform_config` and what it calls.  The header is checked first, with a checksum over the
whole data; then each sub-table that is present is printed to the log and checked.  Printing and
checking both walk over the extension tables of the sub-table, driven by the lengths in the data.

The walks are loops whose end depends on the data, so the functions take a bound on the passes of a
walk and return `none` when it does not suffice.  What a call returns whenever it does is described
without the bound by the lemmas on `Returns`.
-/

namespace IxpDimm

open Foundation

/-! ### The walks over the extension tables -/

/-- One pass of the loop in `print_extension_tables`, on the offset; the lines it logs are left out.
An unknown type sets the offset to `-1`, the largest 64-bit number. -/
def printEntry (extTables : Bytes) (totalLength : ℕ) (offset : ℕ) : ℕ ⊕ Unit :=
  if offset < totalLength then
    if extensionType extTables offset = partitionChangeTable ∨
        extensionType extTables offset = interleaveTable then
      .inl (offset + extensionLength extTables offset)
    else .inl (2 ^ 64 - 1)
  else .inr ()

/-- `print_extension_tables`. -/
def printExtensionTables (fuel : ℕ) (extTables : Bytes) (totalLength : ℕ) : Option Unit :=
  runLoop (printEntry extTables totalLength) fuel 0

/-- One pass of the loop in `is_extension_table_list_valid`, on the 32-bit offset. -/
def listEntry (extTables : Bytes) (extTableLength : ℕ) (offset : ℕ) : ℕ ⊕ Bool :=
  if offset < extTableLength then
    if extensionLength extTables offset < extensionTableHeaderSize then .inr false
    else if (offset + extensionLength extTables offset) % 2 ^ 32 > extTableLength then .inr false
    else .inl ((offset + extensionLength extTables offset) % 2 ^ 32)
  else .inr true

/-- `is_extension_table_list_valid`. -/
def isExtensionTableListValid (fuel : ℕ) (extTables : Bytes) (extTableLength : ℕ) : Option Bool :=
  if extTableLength > 0 then runLoop (listEntry extTables extTableLength) fuel 0 else some true

/-! ### Headers -/

/-- `is_config_data_table_header_valid`. -/
def isConfigDataTableHeaderValid (m : Bytes) (tableLength : ℕ) (tableSignature : List UInt8) :
    Bool :=
  if headerLength m > tableLength then false
  else if !verifyChecksum m tableLength then false
  else headerSignature m == tableSignature

/-- `are_pcd_header_table_size_and_offset_valid`. -/
def arePcdHeaderTableSizeAndOffsetValid (tableSize tableOffset : ℕ) : Bool :=
  (tableSize == 0 && tableOffset == 0) ||
    (decide (tableSize > 0) && decide (tableOffset ≥ platformConfigDataSize))

/-- `is_pcd_header_table_info_valid`: the three sizes and offsets. -/
def isPcdHeaderTableInfoValid (m : Bytes) : Bool :=
  TableKind.all.all fun kind =>
    arePcdHeaderTableSizeAndOffsetValid (tableSize kind m) (tableOffset kind m)

/-- `is_platform_config_header_valid`; the size is handed on as a 32-bit number. -/
def isPlatformConfigHeaderValid (m : Bytes) (pcdSize : UInt64) : Bool :=
  if headerLength m < platformConfigDataSize then false
  else isConfigDataTableHeaderValid m (pcdSize.toNat % 2 ^ 32) platformConfigTableSignature &&
    isPcdHeaderTableInfoValid m

/-! ### Sub-tables -/

/-- The extension tables of a sub-table. -/
def extTables (kind : TableKind) (table : Bytes) : Bytes := view table kind.structSize

/-- The common body of `print_pcd_current`, `print_pcd_input` and `print_pcd_output`. -/
def printTable (kind : TableKind) (fuel : ℕ) (table : Bytes) : Option Unit :=
  if headerLength table > kind.structSize then
    printExtensionTables fuel (extTables kind table) (headerLength table - kind.structSize)
  else some ()

/-- The common body of `is_current_config_table_valid`, `is_config_input_table_valid` and
`is_config_output_table_valid`. -/
def isTableValid (kind : TableKind) (fuel : ℕ) (table : Option Bytes) (tableLength : ℕ) :
    Option Bool :=
  match table with
  | none => some false
  | some table =>
    if tableLength ≥ kind.structSize ∧ headerLength table = tableLength then
      (printTable kind fuel table).bind fun _ =>
        if isConfigDataTableHeaderValid table tableLength kind.signature then
          isExtensionTableListValid fuel (extTables kind table) (tableLength - kind.structSize)
        else some false
    else some false

/-- `is_current_config_table_valid`. -/
abbrev isCurrentConfigTableValid : ℕ → Option Bytes → ℕ → Option Bool := isTableValid .currentConfig

/-- `is_config_input_table_valid`. -/
abbrev isConfigInputTableValid : ℕ → Option Bytes → ℕ → Option Bool := isTableValid .configInput

/-- `is_config_output_table_valid`. -/
abbrev isConfigOutputTableValid : ℕ → Option Bytes → ℕ → Option Bool := isTableValid .configOutput

/-- The return code of a check that is valid or not. -/
def codeOfValid : Bool → ReturnCode
  | true => .success
  | false => .errBadDeviceConfig

/-- The common body of `check_current_config`, `check_config_input` and `check_config_output`: a
table that is not present is not invalid. -/
def checkTable (kind : TableKind) (fuel : ℕ) (m : Bytes) : Option ReturnCode :=
  if tableSize kind m > 0 then
    (isTableValid kind fuel (castTable kind m) (tableSize kind m)).map codeOfValid
  else some .success

/-- `check_current_config`. -/
abbrev checkCurrentConfig : ℕ → Bytes → Option ReturnCode := checkTable .currentConfig

/-- `check_config_input`. -/
abbrev checkConfigInput : ℕ → Bytes → Option ReturnCode := checkTable .configInput

/-- `check_config_output`. -/
abbrev checkConfigOutput : ℕ → Bytes → Option ReturnCode := checkTable .configOutput

/-! ### The platform config data -/

/-- `check_platform_config_header`. -/
def checkPlatformConfigHeader (m : Bytes) (pcdSize : UInt64) : ReturnCode :=
  codeOfValid (isPlatformConfigHeaderValid m pcdSize)

/-- `rc = first; if (rc == NVM_SUCCESS) rc = next`, where the calls may not return. -/
def thenCheck (first next : Option ReturnCode) : Option ReturnCode :=
  first.bind fun rc => if rc = .success then next else some rc

/-- `check_platform_config`; `none` is the null pointer. -/
def checkPlatformConfig (fuel : ℕ) (config : Option Bytes) (pcdSize : UInt64) :
    Option ReturnCode :=
  match config with
  | none => some .errBadDeviceConfig
  | some m =>
    thenCheck (some (checkPlatformConfigHeader m pcdSize))
      (thenCheck (checkCurrentConfig fuel m)
        (thenCheck (checkConfigInput fuel m) (checkConfigOutput fuel m)))

/-- The data is accepted. -/
def Accepted (m : Bytes) (pcdSize : UInt64) : Prop :=
  Returns (fun fuel => checkPlatformConfig fuel (some m) pcdSize) .success

/-! ### What the calls return -/

/-- A walk that prints does not depend on the bound. -/
private theorem fuelMono_printTable (kind : TableKind) (table : Bytes) :
    FuelMono fun fuel => printTable kind fuel table := by
  unfold printTable
  split_ifs
  · exact fuelMono_runLoop _ 0
  · exact fuelMono_const _

/-- A walk that checks does not depend on the bound. -/
private theorem fuelMono_isExtensionTableListValid (m : Bytes) (length : ℕ) :
    FuelMono fun fuel => isExtensionTableListValid fuel m length := by
  unfold isExtensionTableListValid
  split_ifs
  · exact fuelMono_runLoop _ 0
  · exact fuelMono_const _

section Table

variable {kind : TableKind} {table : Bytes} {length : ℕ}

/-- The part of the check of a table after it has been printed. -/
private theorem fuelMono_afterPrint :
    FuelMono fun fuel =>
      if isConfigDataTableHeaderValid table length kind.signature then
        isExtensionTableListValid fuel (extTables kind table) (length - kind.structSize)
      else some false := by
  by_cases h : isConfigDataTableHeaderValid table length kind.signature = true
  · simp only [h, if_true]
    exact fuelMono_isExtensionTableListValid _ _
  · simp only [h]
    exact fuelMono_const _

/-- The check of a table does not depend on the bound. -/
theorem fuelMono_isTableValid (kind : TableKind) (table : Bytes) (length : ℕ) :
    FuelMono fun fuel => isTableValid kind fuel (some table) length := by
  by_cases h : length ≥ kind.structSize ∧ headerLength table = length
  · simp only [isTableValid, if_pos h]
    exact (fuelMono_printTable kind table).bind fun _ => fuelMono_afterPrint
  · simp only [isTableValid, if_neg h]
    exact fuelMono_const _

/-- The check of a sub-table does not depend on the bound. -/
theorem fuelMono_checkTable (kind : TableKind) (m : Bytes) :
    FuelMono fun fuel => checkTable kind fuel m := by
  unfold checkTable castTable
  split_ifs
  · exact (fuelMono_isTableValid _ _ _).map codeOfValid
  · exact fuelMono_const _

/-- What the check of a table of the right length returns. -/
theorem returns_isTableValid_iff (hsize : kind.structSize ≤ length)
    (hlength : headerLength table = length) {valid : Bool} :
    Returns (fun fuel => isTableValid kind fuel (some table) length) valid ↔
      Returns (fun fuel => printTable kind fuel table) () ∧
      (if isConfigDataTableHeaderValid table length kind.signature then
        Returns (fun fuel => isExtensionTableListValid fuel (extTables kind table)
          (length - kind.structSize)) valid
      else valid = false) := by
  simp only [isTableValid, if_pos (And.intro hsize hlength)]
  rw [returns_bind_iff (fuelMono_printTable kind table) fun _ => fuelMono_afterPrint]
  constructor
  · rintro ⟨⟨⟩, hprint, hrest⟩
    refine ⟨hprint, ?_⟩
    split_ifs at hrest ⊢
    · exact hrest
    · exact (returns_some_iff.mp hrest).symm
  · rintro ⟨hprint, hrest⟩
    refine ⟨(), hprint, ?_⟩
    split_ifs at hrest ⊢
    · exact hrest
    · exact returns_some_iff.mpr hrest.symm

/-- A table of a wrong length is not valid. -/
theorem returns_isTableValid_of_length (kind : TableKind) (table : Bytes) {length : ℕ}
    (h : ¬ (kind.structSize ≤ length ∧ headerLength table = length)) :
    Returns (fun fuel => isTableValid kind fuel (some table) length) false :=
  ⟨0, if_neg h⟩

end Table

/-- The check of a sub-table that is present. -/
theorem returns_checkTable_iff {kind : TableKind} {m : Bytes} (h : 0 < tableSize kind m)
    {rc : ReturnCode} :
    Returns (fun fuel => checkTable kind fuel m) rc ↔
      ∃ valid, Returns (fun fuel => isTableValid kind fuel (some (view m (tableOffset kind m)))
        (tableSize kind m)) valid ∧ codeOfValid valid = rc := by
  simp only [checkTable, castTable, if_pos h]
  exact returns_map_iff

/-- The check of a sub-table that is not present. -/
theorem returns_checkTable_of_absent {kind : TableKind} {m : Bytes} (h : tableSize kind m = 0) :
    Returns (fun fuel => checkTable kind fuel m) .success :=
  ⟨0, if_neg (by omega)⟩

/-- A check after another one. -/
private theorem returns_thenCheck_iff {first next : ℕ → Option ReturnCode} (hfirst : FuelMono first)
    (hnext : FuelMono next) {rc : ReturnCode} :
    Returns (fun fuel => thenCheck (first fuel) (next fuel)) rc ↔
      (Returns first .success ∧ Returns next rc) ∨ (Returns first rc ∧ rc ≠ .success) := by
  have hmono : ∀ a, FuelMono fun fuel => if a = ReturnCode.success then next fuel else some a := by
    intro a
    split_ifs
    · exact hnext
    · exact fuelMono_const _
  refine (returns_bind_iff hfirst hmono).trans ⟨?_, ?_⟩
  · rintro ⟨a, ha, hr⟩
    by_cases hok : a = .success
    · subst hok
      exact Or.inl ⟨ha, by simpa using hr⟩
    · simp only [if_neg hok] at hr
      obtain rfl := returns_some_iff.mp hr
      exact Or.inr ⟨ha, hok⟩
  · rintro (⟨ha, hr⟩ | ⟨ha, hok⟩)
    · exact ⟨_, ha, by simpa using hr⟩
    · exact ⟨rc, ha, by simpa only [if_neg hok] using returns_some_iff.mpr rfl⟩

/-- A check after another one does not depend on the bound. -/
private theorem fuelMono_thenCheck {first next : ℕ → Option ReturnCode} (hfirst : FuelMono first)
    (hnext : FuelMono next) : FuelMono fun fuel => thenCheck (first fuel) (next fuel) := by
  have hbranch : ∀ rc : ReturnCode, FuelMono fun fuel =>
      if rc = .success then next fuel else some rc := by
    intro rc
    split_ifs
    · exact hnext
    · exact fuelMono_const _
  exact hfirst.bind hbranch

/-- What the check returns for data whose header is valid. -/
theorem returns_checkPlatformConfig_iff {m : Bytes} {pcdSize : UInt64}
    (h : isPlatformConfigHeaderValid m pcdSize = true) {rc : ReturnCode} :
    Returns (fun fuel => checkPlatformConfig fuel (some m) pcdSize) rc ↔
      (Returns (fun fuel => checkCurrentConfig fuel m) .success ∧
        ((Returns (fun fuel => checkConfigInput fuel m) .success ∧
            Returns (fun fuel => checkConfigOutput fuel m) rc) ∨
          (Returns (fun fuel => checkConfigInput fuel m) rc ∧ rc ≠ .success))) ∨
      (Returns (fun fuel => checkCurrentConfig fuel m) rc ∧ rc ≠ .success) := by
  have hheader : checkPlatformConfigHeader m pcdSize = .success := by
    rw [checkPlatformConfigHeader, h, codeOfValid]
  have hinput := fuelMono_thenCheck (fuelMono_checkTable .configInput m)
    (fuelMono_checkTable .configOutput m)
  have hcurrent := fuelMono_thenCheck (fuelMono_checkTable .currentConfig m) hinput
  simp only [checkPlatformConfig]
  rw [returns_thenCheck_iff (fuelMono_const _) hcurrent, hheader, returns_some_iff,
    returns_thenCheck_iff (fuelMono_checkTable .currentConfig m) hinput,
    returns_thenCheck_iff (fuelMono_checkTable .configInput m)
      (fuelMono_checkTable .configOutput m), returns_some_iff]
  grind

/-- The check of the data does not depend on the bound. -/
theorem fuelMono_checkPlatformConfig (m : Bytes) (pcdSize : UInt64) :
    FuelMono fun fuel => checkPlatformConfig fuel (some m) pcdSize :=
  fuelMono_thenCheck (fuelMono_const _) (fuelMono_thenCheck (fuelMono_checkTable .currentConfig m)
    (fuelMono_thenCheck (fuelMono_checkTable .configInput m)
      (fuelMono_checkTable .configOutput m)))

/-- Data whose header is not valid is refused. -/
theorem checkPlatformConfig_of_header {m : Bytes} {pcdSize : UInt64}
    (h : isPlatformConfigHeaderValid m pcdSize = false) (fuel : ℕ) :
    checkPlatformConfig fuel (some m) pcdSize = some .errBadDeviceConfig := by
  rw [checkPlatformConfig, checkPlatformConfigHeader, h, codeOfValid]
  rfl

/-- The data is accepted when the header and each of the three sub-tables is. -/
theorem accepted_iff {m : Bytes} {pcdSize : UInt64} :
    Accepted m pcdSize ↔ isPlatformConfigHeaderValid m pcdSize = true ∧
      ∀ kind, Returns (fun fuel => checkTable kind fuel m) .success := by
  unfold Accepted
  by_cases hheader : isPlatformConfigHeaderValid m pcdSize = true
  · rw [returns_checkPlatformConfig_iff hheader]
    constructor
    · rintro (⟨hcurrent, ⟨hinput, houtput⟩ | ⟨-, hne⟩⟩ | ⟨-, hne⟩)
      · refine ⟨hheader, fun kind => ?_⟩
        cases kind with
        | currentConfig => exact hcurrent
        | configInput => exact hinput
        | configOutput => exact houtput
      · exact absurd rfl hne
      · exact absurd rfl hne
    · rintro ⟨-, htables⟩
      exact Or.inl ⟨htables .currentConfig, Or.inl ⟨htables .configInput, htables .configOutput⟩⟩
  · constructor
    · rintro ⟨fuel, h⟩
      rw [Bool.not_eq_true] at hheader
      cases h.symm.trans (checkPlatformConfig_of_header hheader fuel)
    · exact fun h => absurd h.1 hheader

end IxpDimm
