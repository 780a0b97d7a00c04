import IxpDimm.ConfigGoal.InterleaveFormat
import IxpDimm.MemoryAllocator.Types
import IxpDimm.Pcat.Tables
import Mathlib.Data.Nat.Bitwise

/-!
# The platform capabilities of the BIOS

`apply_bios_capabilities` of `capabilities.c`: the walk through the PCAT that fills the platform
capabilities from the platform information table and from the interleave tables of the memory modes.
What the walk does at a table is `applyVisit`; a table that has the fields that are read is decoded
once (`decode`), and `applyVisit_eq_ok` says what the walk does at it.
-/

namespace IxpDimm.Pcat

open Foundation

/-! ### Data -/

/-- `NVM_INTERLEAVE_FORMATS`. -/
def nvmInterleaveFormats : ℕ := 32

/-- `enum mem_mode_interleave`. -/
inductive MemMode
  | oneLM | twoLM | appDirect
  deriving DecidableEq, Repr

/-- `enum app_direct_mode`. -/
inductive AppDirectMode
  | disabled | enabled | unknown
  deriving DecidableEq, Repr

/-- `struct memory_capabilities`. -/
structure MemoryCapabilities where
  /-- Whether the BIOS supports the memory mode. -/
  supported : Bool := false
  /-- The interleave alignment, as the exponent of a power of two. -/
  interleaveAlignmentSize : ℕ := 0
  /-- The number of formats. -/
  interleaveFormatsCount : ℕ := 0
  /-- The array of formats, of `NVM_INTERLEAVE_FORMATS` elements. -/
  interleaveFormats : ℕ → InterleaveFormat := fun _ => {}

/-- `struct platform_capabilities`. -/
structure PlatformCapabilities where
  /-- BIOS support for changes of the configuration. -/
  biosConfigSupport : Bool := false
  /-- The interface that validates a configuration at run time. -/
  biosRuntimeSupport : Bool := false
  /-- Mirrored memory. -/
  memoryMirrorSupported : Bool := false
  /-- Storage mode. -/
  storageModeSupported : Bool := false
  /-- Spare memory. -/
  memorySpareSupported : Bool := false
  /-- Migration of memory. -/
  memoryMigrationSupported : Bool := false
  /-- `one_lm_mode`, `memory_mode` and `app_direct_mode`. -/
  modes : MemMode → MemoryCapabilities := fun _ => {}
  /-- The volatile mode that the BIOS selected. -/
  currentVolatileMode : VolatileMode := .oneLM
  /-- The volatile mode that the setup menu selected. -/
  allowedVolatileMode : VolatileMode := .oneLM
  /-- The App Direct mode that the BIOS selected. -/
  currentAppDirectMode : AppDirectMode := .disabled

/-- The part of `struct nvm_features` that depends on the platform. -/
structure NvmFeatures where
  /-- `modify_device_capacity`. -/
  modifyDeviceCapacity : Bool
  /-- `memory_mode`. -/
  memoryMode : Bool
  /-- `app_direct_mode`. -/
  appDirectMode : Bool
  /-- `storage_mode`. -/
  storageMode : Bool
  deriving DecidableEq, Repr

/-- `struct nvm_capabilities`. -/
structure NvmCapabilities where
  /-- `platform_capabilities`. -/
  platformCapabilities : PlatformCapabilities
  /-- `nvm_features`. -/
  nvmFeatures : NvmFeatures

/-! ### The source -/

/-- `platform_capabilities_to_nvm_features`. -/
def platformCapabilitiesToNvmFeatures (pcat : PlatformCapabilities) (features : NvmFeatures) :
    NvmFeatures where
  modifyDeviceCapacity := features.modifyDeviceCapacity && pcat.biosConfigSupport
  memoryMode := (pcat.modes .twoLM).supported
  appDirectMode := features.appDirectMode && (pcat.modes .appDirect).supported
  storageMode := features.storageMode && pcat.storageModeSupported

/-- `get_current_app_direct_mode`. -/
def getCurrentAppDirectMode (currentMode : ℕ) : AppDirectMode :=
  match currentMode / 4 % 4 with
  | 0 => .disabled
  | 1 => .enabled
  | _ => .unknown

/-- `enum volatile_mode` of two bits. -/
def volatileModeOf : ℕ → VolatileMode
  | 0 => .oneLM
  | 1 => .memory
  | 2 => .auto
  | _ => .unknown

/-- The bit of `mem_mode_capabilities` for a memory mode. -/
def MemMode.capabilityBit : MemMode → ℕ
  | .oneLM => 0
  | .twoLM => 1
  | .appDirect => 2

/-- What a platform information table sets. -/
def applyPlatformInfo (mgmtSwConfigSupport memModeCapabilities currentMemMode pmemRasCapabilities : ℕ)
    (caps : PlatformCapabilities) : PlatformCapabilities :=
  { caps with
    biosConfigSupport := mgmtSwConfigSupport.testBit 0
    biosRuntimeSupport := mgmtSwConfigSupport.testBit 1
    currentVolatileMode := volatileModeOf (currentMemMode % 4)
    allowedVolatileMode := volatileModeOf (currentMemMode / 16 % 4)
    currentAppDirectMode := getCurrentAppDirectMode currentMemMode
    memoryMirrorSupported := pmemRasCapabilities.testBit 0
    memorySpareSupported := pmemRasCapabilities.testBit 1
    memoryMigrationSupported := pmemRasCapabilities.testBit 2
    modes := fun mode => { caps.modes mode with
      supported := (caps.modes mode).supported || memModeCapabilities.testBit mode.capabilityBit }
    storageModeSupported := caps.storageModeSupported || memModeCapabilities.testBit 4 }

/-- The memory modes of `enum mem_mode_interleave`. -/
def memModeOf : ℕ → Option MemMode
  | 0 => some .oneLM
  | 1 => some .twoLM
  | 3 => some .appDirect
  | _ => none

/-- The bits of the channel ways of a format. -/
def channelWays (format : UInt32) : UInt32 := (format >>> 16) &&& 0x1ff

/-- Whether a format has the way of a bit. -/
def hasWay (format : UInt32) (wayBit : ℕ) : Bool :=
  (channelWays format >>> UInt32.ofNat wayBit) &&& 1 = 1

/-- The format is added with the way of a bit. -/
def addFormat (format : UInt32) (wayBit : ℕ) (cap : MemoryCapabilities) :
    Except Fault MemoryCapabilities :=
  if cap.interleaveFormatsCount < nvmInterleaveFormats then
    .ok { cap with
      interleaveFormats := Function.update cap.interleaveFormats cap.interleaveFormatsCount
        { interleaveFormatToStruct format (cap.interleaveFormats cap.interleaveFormatsCount) with
          ways := interleaveWayToEnum (channelWays format &&& (1 <<< UInt32.ofNat wayBit)) }
      interleaveFormatsCount := cap.interleaveFormatsCount + 1 }
  else .error .write

/-- The loop over the bits of the ways, with its passes left. -/
def wayLoop (format : UInt32) : ℕ → ℕ → MemoryCapabilities → Except Fault MemoryCapabilities
  | 0, _, cap => .ok cap
  | left + 1, wayBit, cap =>
    if hasWay format wayBit then do
      let cap' ← addFormat format wayBit cap
      wayLoop format left (wayBit + 1) cap'
    else wayLoop format left (wayBit + 1) cap

/-- The loop over the formats of an interleave table, with its passes left. -/
def formatLoop (table : List UInt8) : ℕ → ℕ → MemoryCapabilities →
    Except Fault MemoryCapabilities
  | 0, _, cap => .ok cap
  | left + 1, j, cap => do
    let format ← field table (12 + 4 * j) 4
    let cap' ← wayLoop (UInt32.ofNat format) 9 0 cap
    formatLoop table left (j + 1) cap'

/-- What `apply_bios_capabilities` does at a table. -/
def applyVisit (type : ℕ) (table : List UInt8) (caps : PlatformCapabilities) :
    Except Fault (Visit PlatformCapabilities) :=
  if type = 0 then do
    let mgmtSwConfigSupport ← field table 4 1
    let currentMemMode ← field table 6 1
    let pmemRasCapabilities ← field table 7 1
    let memModeCapabilities ← field table 5 1
    pure (.next (applyPlatformInfo mgmtSwConfigSupport memModeCapabilities currentMemMode
      pmemRasCapabilities caps))
  else if type = 1 then do
    let memoryMode ← field table 4 1
    match memModeOf memoryMode with
    | none => pure (.leave .success caps)
    | some mode => do
      let interleaveAlignmentSize ← field table 8 2
      let supportedInterleaveCount ← field table 10 2
      let cap ← formatLoop table supportedInterleaveCount 0 { caps.modes mode with
        interleaveFormatsCount := 0
        interleaveAlignmentSize := interleaveAlignmentSize }
      pure (.next { caps with modes := Function.update caps.modes mode cap })
  else pure (.next caps)

/-- `apply_bios_capabilities`. -/
def applyBiosCapabilities (pcat : List UInt8) (caps : NvmCapabilities) (fuel : ℕ) :
    Option (Except Fault (ReturnCode × NvmCapabilities)) :=
  (walkTables pcat applyVisit caps.platformCapabilities fuel).map fun result =>
    result.map fun (rc, platform) =>
      (rc, ⟨platform, platformCapabilitiesToNvmFeatures platform caps.nvmFeatures⟩)

/-! ### The formats of a table -/

/-- What a format says of one of its ways; a size is open when the format has no single size. -/
structure FormatEntry where
  /-- Whether the BIOS recommends the format. -/
  recommended : Bool
  /-- The ways. -/
  ways : InterleaveWays
  /-- The interleave size of the channel. -/
  channel : Option InterleaveSize
  /-- The interleave size of the memory controller. -/
  imc : Option InterleaveSize
  deriving DecidableEq, Repr

/-- The size of a bitmap that has one. -/
def sizeOfBitmap (bitmap : UInt32) : Option InterleaveSize :=
  if interleaveSizeOfBitmap bitmap .none = .none then none
  else some (interleaveSizeOfBitmap bitmap .none)

/-- The ways of a bit. -/
def wayOfBit (wayBit : ℕ) : InterleaveWays := interleaveWayToEnum (1 <<< UInt32.ofNat wayBit)

/-- The entry of a format for one of its ways. -/
def entryOf (format : UInt32) (wayBit : ℕ) : FormatEntry where
  recommended := (format >>> 31) &&& 1 = 1
  ways := wayOfBit wayBit
  channel := sizeOfBitmap (format &&& 0xff)
  imc := sizeOfBitmap ((format >>> 8) &&& 0xff)

/-- The entries of a format, from a bit on. -/
def entriesFrom (format : UInt32) (wayBit left : ℕ) : List FormatEntry :=
  ((List.range' wayBit left).filter fun bit => hasWay format bit).map (entryOf format)

/-- The entries of a format: one for each of its ways. -/
def entries (format : UInt32) : List FormatEntry := entriesFrom format 0 9

/-- The element of the array for an entry; an open size stays. -/
def FormatEntry.over (entry : FormatEntry) (old : InterleaveFormat) : InterleaveFormat where
  recommended := entry.recommended
  ways := entry.ways
  channel := entry.channel.getD old.channel
  imc := entry.imc.getD old.imc

/-- An entry is appended to the formats of a mode. -/
def addEntry (cap : MemoryCapabilities) (entry : FormatEntry) : MemoryCapabilities :=
  { cap with
    interleaveFormats := Function.update cap.interleaveFormats cap.interleaveFormatsCount
      (entry.over (cap.interleaveFormats cap.interleaveFormatsCount))
    interleaveFormatsCount := cap.interleaveFormatsCount + 1 }

/-- The size that a bitmap leaves in a structure. -/
theorem interleaveSizeOfBitmap_eq (bitmap : UInt32) (old : InterleaveSize) :
    interleaveSizeOfBitmap bitmap old = (sizeOfBitmap bitmap).getD old := by
  rw [interleaveSizeOfBitmap_old, sizeOfBitmap]
  by_cases h : interleaveSizeOfBitmap bitmap .none = .none
  · rw [if_pos h, if_pos h, Option.getD_none]
  · rw [if_neg h, if_neg h, Option.getD_some]

/-- A way that a format has is the way of its bit. -/
private theorem channelWays_and {format : UInt32} {wayBit : ℕ} (hbit : wayBit < 32)
    (h : hasWay format wayBit = true) :
    channelWays format &&& (1 <<< UInt32.ofNat wayBit) = 1 <<< UInt32.ofNat wayBit := by
  have hone := of_decide_eq_true h
  have hmod : (UInt32.ofNat wayBit).toNat % 32 = wayBit := by
    rw [UInt32.toNat_ofNat', Nat.mod_eq_of_lt (show wayBit < 2 ^ 32 by omega),
      Nat.mod_eq_of_lt hbit]
  have htest : (channelWays format).toNat.testBit wayBit = true := by
    have hnat : (channelWays format).toNat >>> wayBit &&& 1 = 1 := by
      have := congrArg UInt32.toNat hone
      rwa [UInt32.toNat_and, UInt32.toNat_shiftRight, hmod] at this
    rw [Nat.testBit, Nat.and_comm]
    refine bne_iff_ne.mpr fun hzero => ?_
    rw [hzero] at hnat
    cases hnat
  have hpow : (1 <<< UInt32.ofNat wayBit : UInt32).toNat = 2 ^ wayBit := by
    rw [UInt32.toNat_shiftLeft, hmod]
    show (1 <<< wayBit) % 2 ^ 32 = 2 ^ wayBit
    rw [Nat.one_shiftLeft, Nat.mod_eq_of_lt (Nat.pow_lt_pow_right (by decide) hbit)]
  apply UInt32.toNat_inj.mp
  rw [UInt32.toNat_and, hpow, Nat.and_two_pow, htest, Bool.toNat_true, Nat.one_mul]

/-- A way that a format has is added as its entry. -/
private theorem addFormat_eq {format : UInt32} {wayBit : ℕ} {cap : MemoryCapabilities}
    (hbit : wayBit < 32) (h : hasWay format wayBit = true) :
    addFormat format wayBit cap =
      if cap.interleaveFormatsCount < nvmInterleaveFormats then
        .ok (addEntry cap (entryOf format wayBit))
      else .error .write := by
  rw [addFormat, channelWays_and hbit h]
  simp only [interleaveFormatToStruct, interleaveSizeOfBitmap_eq]
  rfl

/-- Entries are appended one after the other. -/
theorem count_foldl_addEntry (cap : MemoryCapabilities) (es : List FormatEntry) :
    (es.foldl addEntry cap).interleaveFormatsCount = cap.interleaveFormatsCount + es.length := by
  induction es generalizing cap with
  | nil => rfl
  | cons e es ih =>
    rw [List.foldl_cons, ih, List.length_cons]
    show cap.interleaveFormatsCount + 1 + es.length = _
    omega

/-- The loop over the ways appends the entries of the format, as long as the array has room. -/
private theorem wayLoop_eq {format : UInt32} {left wayBit : ℕ} {cap : MemoryCapabilities}
    (hbit : wayBit + left ≤ 32) (hcap : cap.interleaveFormatsCount ≤ nvmInterleaveFormats) :
    wayLoop format left wayBit cap =
      if cap.interleaveFormatsCount + (entriesFrom format wayBit left).length ≤
          nvmInterleaveFormats then
        .ok ((entriesFrom format wayBit left).foldl addEntry cap)
      else .error .write := by
  induction left generalizing wayBit cap with
  | zero => exact (if_pos hcap).symm
  | succ left ih =>
    rw [wayLoop, entriesFrom, List.range'_succ, List.filter_cons]
    cases hway : hasWay format wayBit with
    | false => exact ih (by omega) hcap
    | true =>
      rw [if_pos rfl, if_pos rfl, addFormat_eq (by omega) hway, List.map_cons, List.length_cons,
        List.foldl_cons]
      by_cases hroom : cap.interleaveFormatsCount < nvmInterleaveFormats
      · have hcount : (addEntry cap (entryOf format wayBit)).interleaveFormatsCount =
          cap.interleaveFormatsCount + 1 := rfl
        have hadded : (addEntry cap (entryOf format wayBit)).interleaveFormatsCount ≤
          nvmInterleaveFormats := hroom
        rw [if_pos hroom, ok_bind, ih (show wayBit + 1 + left ≤ 32 by omega) hadded, entriesFrom,
          hcount, Nat.add_assoc, Nat.add_comm 1]
      · rw [if_neg hroom, error_bind, if_neg (by omega)]

/-- The formats of an interleave table, from the one with the number `j` on. -/
def formatsFrom (table : List UInt8) (j left : ℕ) : List UInt32 :=
  (List.range' j left).map fun i => UInt32.ofNat (readLE (ofList table) (12 + 4 * i) 4)

/-- The loop over the formats appends the entries of all formats, as long as the table has them and
the array has room. -/
private theorem formatLoop_eq_ok {table : List UInt8} {left j : ℕ} {cap r : MemoryCapabilities}
    (hcap : cap.interleaveFormatsCount ≤ nvmInterleaveFormats) :
    formatLoop table left j cap = .ok r ↔
      (left = 0 ∨ 12 + 4 * (j + left) ≤ table.length) ∧
      cap.interleaveFormatsCount + ((formatsFrom table j left).flatMap entries).length ≤
        nvmInterleaveFormats ∧
      r = ((formatsFrom table j left).flatMap entries).foldl addEntry cap := by
  induction left generalizing j cap with
  | zero =>
    rw [formatLoop, Except.ok.injEq]
    exact ⟨fun h => ⟨Or.inl rfl, hcap, h.symm⟩, fun h => h.2.2.symm⟩
  | succ left ih =>
    rw [formatLoop, formatsFrom, List.range'_succ, List.map_cons, List.flatMap_cons,
      List.length_append, List.foldl_append]
    by_cases hread : 12 + 4 * j + 4 ≤ table.length
    · rw [field_of_le hread, ok_bind, wayLoop_eq (by decide) hcap]
      generalize hformat : UInt32.ofNat (readLE (ofList table) (12 + 4 * j) 4) = format
      have hentries : entriesFrom format 0 9 = entries format := rfl
      rw [hentries]
      by_cases hroom : cap.interleaveFormatsCount + (entries format).length ≤ nvmInterleaveFormats
      · rw [if_pos hroom, ok_bind]
        have hcount := count_foldl_addEntry cap (entries format)
        rw [ih (j := j + 1) (by rw [hcount]; exact hroom), hcount, formatsFrom]
        have hlength : (left = 0 ∨ 12 + 4 * (j + 1 + left) ≤ table.length) ↔
            (left + 1 = 0 ∨ 12 + 4 * (j + (left + 1)) ≤ table.length) := by omega
        rw [hlength, Nat.add_assoc]
      · rw [if_neg hroom, error_bind]
        exact iff_of_false (by rintro ⟨⟩) fun h => hroom (by omega)
    · rw [field_of_lt (by decide) (by omega), error_bind]
      exact iff_of_false (by rintro ⟨⟩) fun h => by omega

/-! ### A table -/

/-- A table, as far as the walk looks at it. -/
inductive ExtTable
  /-- A platform information table. -/
  | platformInfo (mgmtSwConfigSupport memModeCapabilities currentMemMode pmemRasCapabilities : ℕ)
  /-- An interleave table of a memory mode. -/
  | interleave (mode : MemMode) (interleaveAlignmentSize : ℕ) (formats : List UInt32)
  /-- An interleave table of a reserved memory mode. -/
  | reserved
  /-- A table of another type. -/
  | other
  deriving DecidableEq, Repr

/-- The table in these bytes, if they have the fields that are read. -/
def decode (table : List UInt8) : Option ExtTable :=
  let byte := fun a => readLE (ofList table) a 1
  let count := readLE (ofList table) 10 2
  if table.length < 4 then none
  else if tableType table = 0 then
    if 8 ≤ table.length then some (.platformInfo (byte 4) (byte 5) (byte 6) (byte 7)) else none
  else if tableType table = 1 then
    if 5 ≤ table.length then
      match memModeOf (byte 4) with
      | none => some .reserved
      | some mode =>
        if 12 + 4 * count ≤ table.length then
          some (.interleave mode (readLE (ofList table) 8 2) (formatsFrom table 0 count))
        else none
    else none
  else some .other

/-- The type says what a table is decoded to. -/
theorem tableType_of_decode {table : List UInt8} {t : ExtTable} (h : decode table = some t) :
    (tableType table = 0 ∧ ∃ mgmt memCaps mode ras, t = .platformInfo mgmt memCaps mode ras) ∨
      (tableType table = 1 ∧
        (t = .reserved ∨ ∃ mode alignment formats, t = .interleave mode alignment formats)) ∨
      (tableType table ≠ 0 ∧ tableType table ≠ 1 ∧ t = .other) := by
  simp only [decode] at h
  split_ifs at h with h4 h0 h8 h1 h5 hlength
  · exact Or.inl ⟨h0, _, _, _, _, (Option.some.inj h).symm⟩
  · refine Or.inr (Or.inl ⟨h1, ?_⟩)
    cases hmode : memModeOf (readLE (ofList table) 4 1) with
    | none =>
      rw [hmode] at h
      exact Or.inl (Option.some.inj h).symm
    | some mode =>
      rw [hmode] at h
      exact Or.inr ⟨_, _, _, (Option.some.inj h).symm⟩
  · refine Or.inr (Or.inl ⟨h1, Or.inl ?_⟩)
    cases hmode : memModeOf (readLE (ofList table) 4 1) with
    | none =>
      rw [hmode] at h
      exact (Option.some.inj h).symm
    | some mode =>
      rw [hmode] at h
      cases h
  · exact Or.inr (Or.inr ⟨h0, h1, (Option.some.inj h).symm⟩)

/-- The formats of a table have room in the array. -/
def ExtTable.Fits : ExtTable → Prop
  | .interleave _ _ formats => (formats.flatMap entries).length ≤ nvmInterleaveFormats
  | _ => True

/-- What the walk does at a table. -/
def ExtTable.visit (table : ExtTable) (caps : PlatformCapabilities) : Visit PlatformCapabilities :=
  match table with
  | .platformInfo mgmt memCaps mode ras => .next (applyPlatformInfo mgmt memCaps mode ras caps)
  | .interleave mode alignment formats =>
    .next { caps with
      modes := Function.update caps.modes mode
        ((formats.flatMap entries).foldl addEntry { caps.modes mode with
          interleaveFormatsCount := 0
          interleaveAlignmentSize := alignment }) }
  | .reserved => .leave .success caps
  | .other => .next caps

/-- The walk at a platform information table. -/
private theorem applyVisit_platformInfo {table : List UInt8} {caps : PlatformCapabilities} :
    applyVisit 0 table caps =
      if 8 ≤ table.length then
        .ok (.next (applyPlatformInfo (readLE (ofList table) 4 1) (readLE (ofList table) 5 1)
          (readLE (ofList table) 6 1) (readLE (ofList table) 7 1) caps))
      else .error .read := by
  rw [applyVisit, if_pos rfl]
  by_cases h : 8 ≤ table.length
  · rw [if_pos h, field_of_le (by omega), field_of_le (by omega), field_of_le (by omega),
      field_of_le (by omega)]
    rfl
  · rw [if_neg h]
    by_cases h4 : 5 ≤ table.length
    · rw [field_of_le h4, ok_bind]
      by_cases h6 : 7 ≤ table.length
      · rw [field_of_le h6, field_of_lt (by decide) (show table.length < 7 + 1 by omega)]
        rfl
      · rw [field_of_lt (by decide) (show table.length < 6 + 1 by omega)]
        rfl
    · rw [field_of_lt (by decide) (show table.length < 4 + 1 by omega)]
      rfl

/-- The walk at an interleave table. -/
private theorem applyVisit_interleave {table : List UInt8} {caps : PlatformCapabilities}
    {mode : MemMode} (hmode : memModeOf (readLE (ofList table) 4 1) = some mode)
    (h5 : 5 ≤ table.length) {v : Visit PlatformCapabilities} :
    applyVisit 1 table caps = .ok v ↔
      12 + 4 * readLE (ofList table) 10 2 ≤ table.length ∧
      (ExtTable.interleave mode (readLE (ofList table) 8 2)
        (formatsFrom table 0 (readLE (ofList table) 10 2))).Fits ∧
      v = (ExtTable.interleave mode (readLE (ofList table) 8 2)
        (formatsFrom table 0 (readLE (ofList table) 10 2))).visit caps := by
  rw [applyVisit, if_neg Nat.one_ne_zero, if_pos rfl, field_of_le h5, ok_bind, hmode]
  by_cases h12 : 12 ≤ table.length
  · simp only [field_of_le (show 8 + 2 ≤ table.length by omega),
      field_of_le (show 10 + 2 ≤ table.length by omega), ok_bind]
    generalize readLE (ofList table) 10 2 = count
    generalize readLE (ofList table) 8 2 = alignment
    have hloop : ∀ r, formatLoop table count 0 { caps.modes mode with
        interleaveFormatsCount := 0
        interleaveAlignmentSize := alignment } = .ok r ↔ _ :=
      fun r => formatLoop_eq_ok (Nat.zero_le _)
    constructor
    · intro h
      cases hrun : formatLoop table count 0 { caps.modes mode with
        interleaveFormatsCount := 0
        interleaveAlignmentSize := alignment } with
      | error fault =>
        rw [hrun, error_bind] at h
        cases h
      | ok r =>
        rw [hrun, ok_bind, pure_eq_ok, Except.ok.injEq] at h
        obtain ⟨hlength, hfits, rfl⟩ := (hloop r).mp hrun
        refine ⟨by omega, ?_, h.symm⟩
        rw [Nat.zero_add] at hfits
        exact hfits
    · rintro ⟨hlength, hfits, rfl⟩
      rw [(hloop _).mpr ⟨by omega, by rw [Nat.zero_add]; exact hfits, rfl⟩, ok_bind]
      rfl
  · refine iff_of_false ?_ fun h => by omega
    by_cases h8 : 10 ≤ table.length
    · simp only [field_of_le (show 8 + 2 ≤ table.length from h8), field_of_lt (show 0 < 2 by decide)
        (show table.length < 10 + 2 by omega), ok_bind, error_bind]
      rintro ⟨⟩
    · simp only [field_of_lt (show 0 < 2 by decide) (show table.length < 8 + 2 by omega),
        error_bind]
      rintro ⟨⟩

/-- What the walk does at a table: it needs the fields of the table, and room for its formats. -/
theorem applyVisit_eq_ok {table : List UInt8} (hheader : 4 ≤ table.length)
    {caps : PlatformCapabilities} {v : Visit PlatformCapabilities} :
    applyVisit (tableType table) table caps = .ok v ↔
      ∃ t, decode table = some t ∧ t.Fits ∧ v = t.visit caps := by
  simp only [decode]
  rw [if_neg (not_lt.mpr hheader)]
  by_cases h0 : tableType table = 0
  · rw [if_pos h0, h0, applyVisit_platformInfo]
    by_cases h8 : 8 ≤ table.length
    · rw [if_pos h8, if_pos h8, Except.ok.injEq]
      constructor
      · rintro rfl
        exact ⟨_, rfl, trivial, rfl⟩
      · rintro ⟨t, ht, -, rfl⟩
        obtain rfl := Option.some.inj ht
        rfl
    · rw [if_neg h8, if_neg h8]
      exact iff_of_false (by rintro ⟨⟩) (by rintro ⟨t, ⟨⟩, -⟩)
  · rw [if_neg h0]
    by_cases h1 : tableType table = 1
    · rw [if_pos h1, h1]
      by_cases h5 : 5 ≤ table.length
      · rw [if_pos h5]
        cases hmode : memModeOf (readLE (ofList table) 4 1) with
        | none =>
          have hvisit : applyVisit 1 table caps = .ok (.leave .success caps) := by
            rw [applyVisit, if_neg Nat.one_ne_zero, if_pos rfl, field_of_le h5, ok_bind, hmode]
            rfl
          rw [hvisit, Except.ok.injEq]
          constructor
          · rintro rfl
            exact ⟨.reserved, rfl, trivial, rfl⟩
          · rintro ⟨t, ht, -, rfl⟩
            obtain rfl := Option.some.inj ht
            rfl
        | some mode =>
          rw [applyVisit_interleave hmode h5]
          dsimp only
          by_cases hlength : 12 + 4 * readLE (ofList table) 10 2 ≤ table.length
          · rw [if_pos hlength]
            constructor
            · rintro ⟨-, hfits, rfl⟩
              exact ⟨_, rfl, hfits, rfl⟩
            · rintro ⟨t, ht, hfits, rfl⟩
              obtain rfl := Option.some.inj ht
              exact ⟨hlength, hfits, rfl⟩
          · rw [if_neg hlength]
            exact iff_of_false (fun h => hlength h.1) (by rintro ⟨t, ⟨⟩, -⟩)
      · rw [if_neg h5, applyVisit, if_neg Nat.one_ne_zero, if_pos rfl,
          field_of_lt (by decide) (by omega), error_bind]
        exact iff_of_false (by rintro ⟨⟩) (by rintro ⟨t, ⟨⟩, -⟩)
    · rw [if_neg h1, applyVisit, if_neg h0, if_neg h1, pure_eq_ok, Except.ok.injEq]
      constructor
      · rintro rfl
        exact ⟨.other, rfl, trivial, rfl⟩
      · rintro ⟨t, ht, -, rfl⟩
        obtain rfl := Option.some.inj ht
        rfl

end IxpDimm.Pcat
