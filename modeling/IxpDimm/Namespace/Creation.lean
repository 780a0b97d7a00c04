import IxpDimm.Namespace.DefaultName
import IxpDimm.Namespace.Sizing
import IxpDimm.Pool.Contents

/-!
# Creating a namespace

`nvm_create_namespace` looks the pool up, validates the settings, makes up a name if there is none and
asks the driver for a namespace on an interleave set.  `nvm_adjust_create_namespace_block_count` runs
the same validation to learn the block count that would be created.

`settingsToCreate_eq_ok_iff` says when the driver is asked and for what.  A caller that has the block
count adjusted first and then creates the namespace without another adjustment gets that count, if it
is not above what the pool reports (`create_after_adjust`).
-/

namespace IxpDimm

open Foundation

/-! ### What the calls ask of the system -/

/-- What the calls on namespaces read of `nvm_features`. -/
structure NamespaceFeatures where
  /-- `get_pools`. -/
  getPools : Bool := true
  /-- `get_namespace_details`. -/
  getNamespaceDetails : Bool := true
  /-- `create_namespace`. -/
  createNamespace : Bool := true
  /-- `grow_namespace`. -/
  growNamespace : Bool := true
  /-- `shrink_namespace`. -/
  shrinkNamespace : Bool := true
  /-- `delete_namespace`. -/
  deleteNamespace : Bool := true

/-- `struct nvm_capabilities`, as far as the calls on namespaces read it. -/
structure NamespaceCapabilities where
  /-- `nvm_features`, without the modes. -/
  features : NamespaceFeatures := {}
  /-- `sku_capabilities.sku_violation`. -/
  skuViolation : Bool := false
  /-- The rest. -/
  caps : NvmCapabilities := {}
  /-- `sw_capabilities.namespace_memory_page_allocation_capable`. -/
  memoryPageAllocationCapable : Bool := false

/-- `struct namespace_create_settings`. -/
structure NamespaceCreateSettings where
  /-- `friendly_name`. -/
  friendlyName : List Char := []
  /-- `block_size`. -/
  blockSize : UInt16 := 1
  /-- `block_count`. -/
  blockCount : UInt64
  /-- `type`. -/
  type : NamespaceType := .appDirect
  /-- `enabled`. -/
  enabled : NamespaceEnableState := .enabled
  /-- `btt`. -/
  btt : Bool := false
  /-- `security_features.encryption`. -/
  encryption : EncryptionStatus := .ignore
  /-- `security_features.erase_capable`. -/
  eraseCapable : EraseCapableStatus := .ignore
  /-- `memory_page_allocation`. -/
  memoryPageAllocation : NamespaceMemoryPageAllocation := .none

/-- `struct nvm_namespace_create_settings`, what the driver is asked for. -/
structure NvmNamespaceCreateSettings where
  /-- `friendly_name`. -/
  friendlyName : List Char
  /-- `block_size`. -/
  blockSize : UInt16
  /-- `block_count`. -/
  blockCount : UInt64
  /-- `type`. -/
  type : NamespaceType
  /-- `enabled`. -/
  enabled : NamespaceEnableState
  /-- `btt`. -/
  btt : Bool
  /-- `namespace_creation_id.interleave_setid`; none if it was never assigned. -/
  interleaveSetid : Option UInt32
  /-- `memory_page_allocation`. -/
  memoryPageAllocation : NamespaceMemoryPageAllocation

/-- What the calls ask of the system. -/
structure NamespaceSystem where
  /-- `check_caller_permissions` succeeds. -/
  callerPermitted : Bool := true
  /-- `is_supported_driver_available`. -/
  supportedDriverAvailable : Bool := true
  /-- `nvm_get_nvm_capabilities`. -/
  getNvmCapabilities : Except ReturnCode NamespaceCapabilities
  /-- `nvm_get_pool`. -/
  getPool : Uid → Except ReturnCode Pool
  /-- `get_nvm_namespaces_details_alloc` succeeds. -/
  namespacesRead : Bool := true
  /-- `nvm_get_device_discovery`. -/
  discover : Uid → Option SecureDiscovery
  /-- The names of the namespaces, none if their number cannot be read. -/
  names : List (List Char) := []

/-- `IS_NVM_FEATURE_LICENSED`, with the answer of `nvm_get_nvm_capabilities`. -/
def isNvmFeatureLicensed (getNvmCapabilities : Except ReturnCode NamespaceCapabilities)
    (feature : NamespaceFeatures → Bool) : ReturnCode :=
  match getNvmCapabilities with
  | .error rc => rc
  | .ok caps =>
    if feature caps.features ≠ true then .errNotSupported
    else if caps.skuViolation then .errSkuViolation
    else .success

/-! ### The validation -/

/-- `translate_pool_health_to_nvm_error`. -/
def translatePoolHealthToNvmError (pool : Pool) : ReturnCode :=
  match pool.health with
  | .normal => .success
  | .pending => .errGoalPending
  | .locked => .errBadSecurityState
  | .unknown | .error => .errBadPoolHealth

/-- `allocatedPageStructsAreInDramOrPmem`. -/
def allocatedPageStructsAreInDramOrPmem (settings : NamespaceCreateSettings) : Bool :=
  decide (settings.memoryPageAllocation = .dram) ||
    decide (settings.memoryPageAllocation = .appDirect)

/-- `validate_ns_type_for_pool`. -/
def validateNsTypeForPool (type : NamespaceType) (pool : Pool) : ReturnCode :=
  if type ≠ .appDirect then .errBadNamespaceType
  else if pool.type ≠ .persistentMirror ∧ pool.type ≠ .persistent then .errBadNamespaceType
  else .success

/-- `validate_ns_enabled_state`. -/
def validateNsEnabledState (state : NamespaceEnableState) : ReturnCode :=
  if state ≠ .enabled ∧ state ≠ .disabled then .errBadNamespaceEnableState else .success

/-- Whether a namespace can be created on the pool at all, in `validate_namespace_create_settings`. -/
def canCreateOnPool (caps : NamespaceCapabilities) (settings : NamespaceCreateSettings)
    (range : PossibleNamespaceRanges) : ReturnCode :=
  if settings.type = .appDirect then
    if !caps.caps.appDirectMode then .errNotSupported
    else if range.largestPossibleAppDirectNs = 0 then .errTooManyNamespaces
    else if settings.btt && allocatedPageStructsAreInDramOrPmem settings then .errNotSupported
    else if allocatedPageStructsAreInDramOrPmem settings && !caps.memoryPageAllocationCapable then
      .errNotSupported
    else .success
  else .errBadNamespaceType

/-- The number of ways that is asked for, `INTERLEAVE_WAYS_0` without a format. -/
def waysOf (format : Option InterleaveFormat) : UInt8 :=
  match format with
  | none => 0
  | some format => .ofNat format.ways.count

/-- The first of some codes that is not `NVM_SUCCESS`. -/
def firstFailure (codes : List ReturnCode) : ReturnCode :=
  (codes.find? fun rc => rc ≠ .success).getD .success

namespace NamespaceSystem

variable (sys : NamespaceSystem)

/-- What the search for an interleave set is given. -/
def requestFor (caps : NamespaceCapabilities) (settings : NamespaceCreateSettings)
    (format : Option InterleaveFormat) (allowAdjustment : Bool) : NamespaceRequest where
  discover := sys.discover
  caps := caps.caps
  encryption := settings.encryption
  eraseCapable := settings.eraseCapable
  blockSize := settings.blockSize
  blockCount := settings.blockCount
  format := format
  allowAdjustment := allowAdjustment

/-- The checks before the search. -/
def checkSettings (caps : NamespaceCapabilities) (pool : Pool) (settings : NamespaceCreateSettings)
    (format : Option InterleaveFormat) (allowAdjustment : Bool) (range : PossibleNamespaceRanges) :
    ReturnCode :=
  firstFailure [canCreateOnPool caps settings range, validateNsTypeForPool settings.type pool,
    validateNsEnabledState settings.enabled,
    validateNsSizeForCreation pool (sys.requestFor caps settings format allowAdjustment) range]

/-- `validate_namespace_create_settings`: the identifier for the driver, none if it is not assigned,
and the block count that is left in the settings.  The outer none is a division by zero or a `pow`
that is too large. -/
def validateNamespaceCreateSettings (pool : Pool) (settings : NamespaceCreateSettings)
    (format : Option InterleaveFormat) (allowAdjustment : Bool) :
    Option (Except ReturnCode (Option UInt32 × UInt64)) :=
  match sys.getNvmCapabilities with
  | .error rc => some (.error rc)
  | .ok caps =>
    if sys.namespacesRead then
      (getPoolSupportedSizeRanges pool caps.caps (waysOf format)).bind fun range =>
        if sys.checkSettings caps pool settings format allowAdjustment range = .success then
          (findInterleaveWithCapacity pool
            (sys.requestFor caps settings format allowAdjustment)).map
              (Except.map fun found => (some found.1, found.2))
        else some (.error (sys.checkSettings caps pool settings format allowAdjustment range))
    -- the code is still `NVM_SUCCESS` when the namespaces cannot be read
    else some (.ok (none, settings.blockCount))

/-! ### The calls -/

/-- The pool of a call, with the checks before it is looked up and of its health. -/
def poolToCreateOn (poolUid : Uid) : Except ReturnCode Pool :=
  if !sys.callerPermitted then .error .errInvalidPermissions
  else if !sys.supportedDriverAvailable then .error .errBadDriver
  else if isNvmFeatureLicensed sys.getNvmCapabilities NamespaceFeatures.createNamespace ≠
      .success then
    .error (isNvmFeatureLicensed sys.getNvmCapabilities NamespaceFeatures.createNamespace)
  else
    match sys.getPool poolUid with
    | .error rc => .error rc
    | .ok pool =>
      if translatePoolHealthToNvmError pool = .success then .ok pool
      else .error (translatePoolHealthToNvmError pool)

/-- `nvm_adjust_create_namespace_block_count`: the block count that is left in the settings. -/
def nvmAdjustCreateNamespaceBlockCount (poolUid : Uid) (settings : NamespaceCreateSettings)
    (format : Option InterleaveFormat) : Option (Except ReturnCode UInt64) :=
  match sys.poolToCreateOn poolUid with
  | .error rc => some (.error rc)
  | .ok pool =>
    (sys.validateNamespaceCreateSettings pool settings format true).map (Except.map Prod.snd)

/-- What the driver is asked for, from the settings and what the validation leaves. -/
def creationSettings (settings : NamespaceCreateSettings) (creationId : Option UInt32)
    (blockCount : UInt64) : NvmNamespaceCreateSettings where
  friendlyName :=
    if friendlyText settings.friendlyName = [] then defaultFriendlyName sys.names
    else friendlyText settings.friendlyName
  blockSize := settings.blockSize
  blockCount := blockCount
  type := settings.type
  enabled := settings.enabled
  btt := settings.btt
  interleaveSetid := creationId
  memoryPageAllocation := settings.memoryPageAllocation

/-- `nvm_create_namespace` up to the call of the driver: what the driver is asked for. -/
def settingsToCreate (poolUid : Uid) (settings : NamespaceCreateSettings)
    (format : Option InterleaveFormat) (allowAdjustment : Bool) :
    Option (Except ReturnCode NvmNamespaceCreateSettings) :=
  match sys.poolToCreateOn poolUid with
  | .error rc => some (.error rc)
  | .ok pool =>
    (sys.validateNamespaceCreateSettings pool settings format allowAdjustment).map
      (Except.map fun found => sys.creationSettings settings found.1 found.2)

end NamespaceSystem

/-! ### When the driver is asked -/

section Asked

variable {sys : NamespaceSystem} {caps : NamespaceCapabilities} {pool : Pool} {poolUid : Uid}
  {settings : NamespaceCreateSettings} {format : Option InterleaveFormat} {allowAdjustment : Bool}

/-- The settings are ones that a namespace can be created with. -/
structure SettingsSound (caps : NamespaceCapabilities) (settings : NamespaceCreateSettings) :
    Prop where
  /-- The type. -/
  type : settings.type = .appDirect
  /-- Blocks are of one byte. -/
  blockSize : settings.blockSize = 1
  /-- The namespace is to be enabled or disabled. -/
  enabled : settings.enabled = .enabled ∨ settings.enabled = .disabled
  /-- Page structures on the DIMMs or in memory go with a driver that can allocate them, and not with
  a block translation table. -/
  pages : settings.memoryPageAllocation = .dram ∨ settings.memoryPageAllocation = .appDirect →
    settings.btt = false ∧ caps.memoryPageAllocationCapable = true

/-- The pool is one that a namespace of a number of blocks can be created on. -/
structure PoolSound (caps : NamespaceCapabilities) (pool : Pool) (ways : UInt8)
    (blockCount : UInt64) : Prop where
  /-- The type. -/
  type : pool.type.IsPersistent
  /-- App Direct mode. -/
  mode : caps.caps.appDirectMode = true
  /-- The alignment fits a size. -/
  alignment : caps.caps.interleaveAlignmentSize < 64
  /-- The largest size that is reported. -/
  largest : getLargestAppDirectNamespace pool ways ≠ 0
  /-- The size is not above the free capacity. -/
  free : blockCount ≤ pool.freeCapacity
  /-- There is free capacity. -/
  nonempty : pool.freeCapacity ≠ 0
  /-- The size is not above the largest one. -/
  le : blockCount ≤ getLargestAppDirectNamespace pool ways

/-- All of some codes are `NVM_SUCCESS`. -/
private theorem firstFailure_eq_success_iff {codes : List ReturnCode} :
    firstFailure codes = .success ↔ ∀ rc ∈ codes, rc = .success := by
  rw [firstFailure]
  cases hfind : codes.find? fun rc => rc ≠ .success with
  | none =>
    refine iff_of_true rfl fun rc hrc => ?_
    simpa using List.find?_eq_none.mp hfind rc hrc
  | some rc =>
    have hne : rc ≠ .success := by simpa using List.find?_some hfind
    exact iff_of_false hne fun hall => hne (hall rc (List.mem_of_find?_eq_some hfind))

/-- Page structures are on the DIMMs or in memory. -/
private theorem allocatedPageStructsAreInDramOrPmem_iff :
    allocatedPageStructsAreInDramOrPmem settings = true ↔
      settings.memoryPageAllocation = .dram ∨ settings.memoryPageAllocation = .appDirect := by
  rw [allocatedPageStructsAreInDramOrPmem, Bool.or_eq_true, decide_eq_true_iff, decide_eq_true_iff]

/-- A namespace can be created on the pool. -/
private theorem canCreateOnPool_eq_success_iff {range : PossibleNamespaceRanges} :
    canCreateOnPool caps settings range = .success ↔
      settings.type = .appDirect ∧ caps.caps.appDirectMode = true ∧
        range.largestPossibleAppDirectNs ≠ 0 ∧
          (settings.memoryPageAllocation = .dram ∨ settings.memoryPageAllocation = .appDirect →
            settings.btt = false ∧ caps.memoryPageAllocationCapable = true) := by
  rw [← allocatedPageStructsAreInDramOrPmem_iff, canCreateOnPool]
  cases caps.caps.appDirectMode <;> cases settings.btt <;>
    cases allocatedPageStructsAreInDramOrPmem settings <;>
    cases caps.memoryPageAllocationCapable <;>
    by_cases htype : settings.type = .appDirect <;>
    by_cases hlargest : range.largestPossibleAppDirectNs = 0 <;>
    simp [htype, hlargest, ReturnCode.errNotSupported, ReturnCode.errTooManyNamespaces,
      ReturnCode.errBadNamespaceType]

/-- The pool is one for App Direct namespaces. -/
private theorem validateNsTypeForPool_eq_success_iff {type : NamespaceType} :
    validateNsTypeForPool type pool = .success ↔ type = .appDirect ∧ pool.type.IsPersistent := by
  unfold validateNsTypeForPool PoolType.IsPersistent
  cases pool.type <;> by_cases htype : type = .appDirect <;>
    simp [htype, ReturnCode.errBadNamespaceType]

/-- The namespace is to be enabled or disabled. -/
private theorem validateNsEnabledState_eq_success_iff {state : NamespaceEnableState} :
    validateNsEnabledState state = .success ↔ state = .enabled ∨ state = .disabled := by
  cases state <;> decide

/-- The size is not above the free capacity and the largest one. -/
private theorem validateNsSizeForCreation_eq_success_iff {request : NamespaceRequest}
    {range : PossibleNamespaceRanges} :
    validateNsSizeForCreation pool request range = .success ↔
      request.blockSize = 1 ∧ request.blockCount ≤ pool.freeCapacity ∧
        request.blockCount ≤ range.largestPossibleAppDirectNs := by
  rw [validateNsSizeForCreation]
  by_cases hone : request.blockSize = 1
  · have hsize : request.blockCount * request.blockSize.toUInt64 = request.blockCount := by
      rw [hone]
      exact UInt64.mul_one _
    rw [if_neg (not_not.mpr hone), hsize]
    split_ifs with hfree hlargest
    · exact iff_of_false (by decide) fun h => absurd hfree (UInt64.not_lt.mpr h.2.1)
    · exact iff_of_false (by decide) fun h => absurd hlargest (UInt64.not_lt.mpr h.2.2)
    · exact iff_of_true rfl ⟨hone, UInt64.not_lt.mp hfree, UInt64.not_lt.mp hlargest⟩
  · rw [if_pos hone]
    exact iff_of_false (by decide) fun h => hone h.1

/-- When a largest size is reported, and which one. -/
private theorem largest_reported_iff {ways : UInt8} {range : PossibleNamespaceRanges} :
    getPoolSupportedSizeRanges pool caps.caps ways = some range ∧
        range.largestPossibleAppDirectNs ≠ 0 ↔
      (pool.freeCapacity ≠ 0 ∧ caps.caps.appDirectMode = true ∧
        caps.caps.interleaveAlignmentSize < 64 ∧ getLargestAppDirectNamespace pool ways ≠ 0) ∧
      range = {
        largestPossibleAppDirectNs := getLargestAppDirectNamespace pool ways
        smallestPossibleAppDirectNs := getSmallestAppDirectNamespace pool
          (.ofNat (2 ^ caps.caps.interleaveAlignmentSize.toNat))
        appDirectIncrement := .ofNat (2 ^ caps.caps.interleaveAlignmentSize.toNat) } := by
  have hpos : getLargestAppDirectNamespace pool ways > 0 ↔
      getLargestAppDirectNamespace pool ways ≠ 0 := by
    rw [gt_iff_lt, UInt64.lt_iff_toNat_lt, Ne, ← toNat_eq_zero_iff]
    exact Nat.pos_iff_ne_zero
  unfold getPoolSupportedSizeRanges
  dsimp only
  by_cases hfree : pool.freeCapacity = 0
  · rw [if_pos hfree]
    refine iff_of_false ?_ fun h => h.1.1 hfree
    rintro ⟨h, hne⟩
    exact hne (Option.some.inj h ▸ rfl)
  by_cases hmode : caps.caps.appDirectMode = true
  · by_cases hlargest : getLargestAppDirectNamespace pool ways ≠ 0
    · by_cases halignment : caps.caps.interleaveAlignmentSize < 64
      · rw [if_neg hfree, if_pos hmode, if_pos (hpos.mpr hlargest), if_pos halignment,
          Option.some.injEq]
        refine ⟨fun h => ⟨⟨hfree, hmode, halignment, hlargest⟩, h.1.symm⟩, ?_⟩
        rintro ⟨-, rfl⟩
        exact ⟨rfl, hlargest⟩
      · rw [if_neg hfree, if_pos hmode, if_pos (hpos.mpr hlargest), if_neg halignment]
        refine iff_of_false ?_ fun h => halignment h.1.2.2.1
        rintro ⟨h, -⟩
        cases h
    · rw [if_neg hfree, if_pos hmode, if_neg fun h => hlargest (hpos.mp h)]
      refine iff_of_false ?_ fun h => hlargest h.1.2.2.2
      rintro ⟨h, hne⟩
      exact hne (Option.some.inj h ▸ rfl)
  · rw [if_neg hfree, if_neg hmode]
    refine iff_of_false ?_ fun h => hmode h.1.2.1
    rintro ⟨h, hne⟩
    exact hne (Option.some.inj h ▸ rfl)

/-- All checks before the search are passed. -/
private theorem checkSettings_eq_success_iff {range : PossibleNamespaceRanges} :
    getPoolSupportedSizeRanges pool caps.caps (waysOf format) = some range ∧
        sys.checkSettings caps pool settings format allowAdjustment range = .success ↔
      (SettingsSound caps settings ∧ PoolSound caps pool (waysOf format) settings.blockCount) ∧
        getPoolSupportedSizeRanges pool caps.caps (waysOf format) = some range := by
  rw [NamespaceSystem.checkSettings, firstFailure_eq_success_iff]
  simp only [List.forall_mem_cons, canCreateOnPool_eq_success_iff,
    validateNsTypeForPool_eq_success_iff, validateNsEnabledState_eq_success_iff,
    validateNsSizeForCreation_eq_success_iff, NamespaceSystem.requestFor]
  constructor
  · rintro ⟨hrange, ⟨htype, -, hlargest, hpages⟩, ⟨-, hpersistent⟩, henabled, ⟨hblock, hfree, hle⟩, -⟩
    obtain ⟨⟨hnonempty, hmode, halignment, hne⟩, rfl⟩ := largest_reported_iff.mp ⟨hrange, hlargest⟩
    exact ⟨⟨⟨htype, hblock, henabled, hpages⟩,
      ⟨hpersistent, hmode, halignment, hne, hfree, hnonempty, hle⟩⟩, hrange⟩
  · rintro ⟨⟨hsettings, hpool⟩, hrange⟩
    have hreported := largest_reported_iff.mpr
      ⟨⟨hpool.nonempty, hpool.mode, hpool.alignment, hpool.largest⟩, rfl⟩
    obtain rfl := Option.some.inj (hrange.symm.trans hreported.1)
    exact ⟨hrange, ⟨hsettings.type, hpool.mode, hpool.largest, hsettings.pages⟩,
      ⟨hsettings.type, hpool.type⟩, hsettings.enabled,
      ⟨hsettings.blockSize, hpool.free, hpool.le⟩, List.forall_mem_nil _⟩

/-- The validation succeeds when the settings and the pool are sound and there is a usable set. -/
theorem validateNamespaceCreateSettings_eq_ok_iff (hread : sys.namespacesRead = true)
    (hcaps : sys.getNvmCapabilities = .ok caps) {creationId : Option UInt32} {count : UInt64} :
    sys.validateNamespaceCreateSettings pool settings format allowAdjustment =
        some (.ok (creationId, count)) ↔
      SettingsSound caps settings ∧ PoolSound caps pool (waysOf format) settings.blockCount ∧
        ∃ driverId, creationId = some driverId ∧
          FirstUsable (sys.requestFor caps settings format allowAdjustment) pool.ilsets driverId
            count := by
  rw [NamespaceSystem.validateNamespaceCreateSettings, hcaps]
  dsimp only
  rw [if_pos hread, Option.bind_eq_some_iff, ← and_assoc]
  constructor
  · rintro ⟨range, hrange, h⟩
    by_cases hcheck : sys.checkSettings caps pool settings format allowAdjustment range = .success
    · rw [if_pos hcheck, Option.map_eq_some_iff] at h
      obtain ⟨result, hfind, hresult⟩ := h
      cases result with
      | error rc => cases hresult
      | ok found =>
        obtain ⟨driverId, found⟩ := found
        cases hresult
        exact ⟨(checkSettings_eq_success_iff.mp ⟨hrange, hcheck⟩).1, driverId, rfl,
          (findInterleaveWithCapacity_eq_ok_iff pool driverId _).mp hfind⟩
    · rw [if_neg hcheck] at h
      cases h
  · rintro ⟨hsound, driverId, rfl, hfirst⟩
    have hreported := largest_reported_iff.mpr
      ⟨⟨hsound.2.nonempty, hsound.2.mode, hsound.2.alignment, hsound.2.largest⟩, rfl⟩
    have hcheck :=
      ((@checkSettings_eq_success_iff sys caps pool settings format allowAdjustment _).mpr
        ⟨hsound, hreported.1⟩).2
    refine ⟨_, hreported.1, ?_⟩
    rw [if_pos hcheck, (findInterleaveWithCapacity_eq_ok_iff pool driverId count).mpr hfirst]
    rfl

/-- A call may create a namespace on a pool. -/
structure MayCreateOn (sys : NamespaceSystem) (caps : NamespaceCapabilities) (poolUid : Uid)
    (pool : Pool) : Prop where
  /-- The caller has the permissions. -/
  permitted : sys.callerPermitted = true
  /-- There is a driver. -/
  driver : sys.supportedDriverAvailable = true
  /-- The capabilities. -/
  caps_eq : sys.getNvmCapabilities = .ok caps
  /-- The feature. -/
  feature : caps.features.createNamespace = true
  /-- The SKUs. -/
  sku : caps.skuViolation = false
  /-- The pool. -/
  pool_eq : sys.getPool poolUid = .ok pool
  /-- The health of the pool. -/
  health : pool.health = .normal

/-- The feature is licensed. -/
theorem isNvmFeatureLicensed_eq_success_iff {answer : Except ReturnCode NamespaceCapabilities}
    {feature : NamespaceFeatures → Bool} (hcaps : answer = .ok caps) :
    isNvmFeatureLicensed answer feature = .success ↔
      feature caps.features = true ∧ caps.skuViolation = false := by
  subst hcaps
  rw [isNvmFeatureLicensed]
  cases feature caps.features <;> cases caps.skuViolation <;>
    simp [ReturnCode.errNotSupported, ReturnCode.errSkuViolation]

/-- The pool is normal. -/
private theorem translatePoolHealthToNvmError_eq_success_iff :
    translatePoolHealthToNvmError pool = .success ↔ pool.health = .normal := by
  rw [translatePoolHealthToNvmError]
  cases pool.health <;> decide

/-- The pool of a call. -/
private theorem poolToCreateOn_eq_ok_iff (hcaps : sys.getNvmCapabilities = .ok caps) :
    sys.poolToCreateOn poolUid = .ok pool ↔ MayCreateOn sys caps poolUid pool := by
  rw [NamespaceSystem.poolToCreateOn]
  cases hpermitted : sys.callerPermitted with
  | false =>
    refine iff_of_false (fun h => ?_) fun h => ?_
    · cases h
    · exact Bool.false_ne_true (hpermitted.symm.trans h.permitted)
  | true =>
    cases hdriver : sys.supportedDriverAvailable with
    | false =>
      refine iff_of_false (fun h => ?_) fun h => ?_
      · cases h
      · exact Bool.false_ne_true (hdriver.symm.trans h.driver)
    | true =>
      rw [if_neg (by decide), if_neg (by decide)]
      by_cases hlicensed :
          isNvmFeatureLicensed sys.getNvmCapabilities NamespaceFeatures.createNamespace = .success
      · obtain ⟨hfeature, hsku⟩ := (isNvmFeatureLicensed_eq_success_iff hcaps).mp hlicensed
        rw [if_neg (not_not.mpr hlicensed)]
        cases hget : sys.getPool poolUid with
        | error rc =>
          refine iff_of_false (fun h => ?_) fun h => ?_
          · cases h
          · cases hget.symm.trans h.pool_eq
        | ok found =>
          dsimp only
          by_cases hhealth : translatePoolHealthToNvmError found = .success
          · rw [if_pos hhealth, Except.ok.injEq]
            constructor
            · rintro rfl
              exact ⟨hpermitted, hdriver, hcaps, hfeature, hsku, hget,
                translatePoolHealthToNvmError_eq_success_iff.mp hhealth⟩
            · exact fun h => Except.ok.inj (hget.symm.trans h.pool_eq)
          · rw [if_neg hhealth]
            refine iff_of_false (fun h => ?_) fun h => hhealth ?_
            · cases h
            · obtain rfl := Except.ok.inj (hget.symm.trans h.pool_eq)
              exact translatePoolHealthToNvmError_eq_success_iff.mpr h.health
      · rw [if_pos hlicensed]
        refine iff_of_false (fun h => ?_) fun h => hlicensed ?_
        · cases h
        · exact (isNvmFeatureLicensed_eq_success_iff hcaps).mpr ⟨h.feature, h.sku⟩

/-- The creation of a namespace asks for one pool only. -/
theorem settingsToCreate_congr {getPool : Uid → Except ReturnCode Pool}
    (h : getPool poolUid = sys.getPool poolUid) :
    { sys with getPool := getPool }.settingsToCreate poolUid settings format allowAdjustment =
      sys.settingsToCreate poolUid settings format allowAdjustment := by
  have hpool : { sys with getPool := getPool }.poolToCreateOn poolUid =
      sys.poolToCreateOn poolUid := by
    unfold NamespaceSystem.poolToCreateOn
    dsimp only
    rw [h]
  rw [NamespaceSystem.settingsToCreate, NamespaceSystem.settingsToCreate, hpool]
  rfl

/-- What the driver is asked for comes from a pool and its validation. -/
private theorem exists_of_settingsToCreate {asked : NvmNamespaceCreateSettings}
    (h : sys.settingsToCreate poolUid settings format allowAdjustment = some (.ok asked)) :
    ∃ pool creationId count, sys.poolToCreateOn poolUid = .ok pool ∧
      sys.validateNamespaceCreateSettings pool settings format allowAdjustment =
        some (.ok (creationId, count)) ∧
        asked = sys.creationSettings settings creationId count := by
  rw [NamespaceSystem.settingsToCreate] at h
  cases hpool : sys.poolToCreateOn poolUid with
  | error rc =>
    rw [hpool] at h
    cases h
  | ok pool =>
    rw [hpool] at h
    dsimp only at h
    rw [Option.map_eq_some_iff] at h
    obtain ⟨result, hvalidate, hresult⟩ := h
    cases result with
    | error rc => cases hresult
    | ok found =>
      cases hresult
      exact ⟨pool, found.1, found.2, rfl, hvalidate, rfl⟩

/-- A validation that succeeds has read the capabilities. -/
private theorem exists_caps_of_validate {creationId : Option UInt32} {count : UInt64}
    (h : sys.validateNamespaceCreateSettings pool settings format allowAdjustment =
      some (.ok (creationId, count))) : ∃ caps, sys.getNvmCapabilities = .ok caps := by
  cases hcaps : sys.getNvmCapabilities with
  | error rc =>
    rw [NamespaceSystem.validateNamespaceCreateSettings, hcaps] at h
    cases h
  | ok caps => exact ⟨caps, rfl⟩

/-- If the driver is asked, the call may create a namespace on the pool, the settings and the pool are
sound, and it is asked for a namespace on the first usable set. -/
theorem exists_firstUsable_of_asked (hread : sys.namespacesRead = true)
    {asked : NvmNamespaceCreateSettings}
    (h : sys.settingsToCreate poolUid settings format allowAdjustment = some (.ok asked)) :
    ∃ caps pool driverId count, MayCreateOn sys caps poolUid pool ∧
      SettingsSound caps settings ∧ PoolSound caps pool (waysOf format) settings.blockCount ∧
        FirstUsable (sys.requestFor caps settings format allowAdjustment) pool.ilsets driverId
          count ∧
          asked = sys.creationSettings settings (some driverId) count := by
  obtain ⟨pool, creationId, count, hpool, hvalidate, rfl⟩ := exists_of_settingsToCreate h
  obtain ⟨caps, hcaps⟩ := exists_caps_of_validate hvalidate
  obtain ⟨hsettings, hsound, driverId, rfl, hfirst⟩ :=
    (validateNamespaceCreateSettings_eq_ok_iff hread hcaps).mp hvalidate
  exact ⟨caps, pool, driverId, count, (poolToCreateOn_eq_ok_iff hcaps).mp hpool, hsettings, hsound,
    hfirst, rfl⟩

/-- The driver is asked for a namespace on the first usable set. -/
theorem settingsToCreate_of_firstUsable (hread : sys.namespacesRead = true)
    (hmay : MayCreateOn sys caps poolUid pool) (hsettings : SettingsSound caps settings)
    (hsound : PoolSound caps pool (waysOf format) settings.blockCount) {driverId : UInt32}
    {count : UInt64} (hfirst : FirstUsable (sys.requestFor caps settings format allowAdjustment)
      pool.ilsets driverId count) :
    sys.settingsToCreate poolUid settings format allowAdjustment =
      some (.ok (sys.creationSettings settings (some driverId) count)) := by
  rw [NamespaceSystem.settingsToCreate, (poolToCreateOn_eq_ok_iff hmay.caps_eq).mpr hmay]
  dsimp only
  rw [(validateNamespaceCreateSettings_eq_ok_iff hread hmay.caps_eq).mpr
    ⟨hsettings, hsound, driverId, rfl, hfirst⟩]
  rfl

end Asked

/-- A system with the pool of four GiB. -/
def fourGiBSystem : NamespaceSystem where
  getNvmCapabilities := .ok {
    caps := { appDirectMode := true, interleaveAlignmentSize := 12 } }
  getPool := fun _ => .ok fourGiBPool
  discover := fun _ => none

/-- A namespace of a number of bytes. -/
def bytesOnly (blockCount : UInt64) : NamespaceCreateSettings where
  blockCount := blockCount

/-- The capabilities of the system. -/
def fourGiBCaps : NamespaceCapabilities where
  caps := { appDirectMode := true, interleaveAlignmentSize := 12 }

/-- Calls may create namespaces on the pool. -/
private theorem mayCreateOn_fourGiBPool : MayCreateOn fourGiBSystem fourGiBCaps [] fourGiBPool :=
  ⟨rfl, rfl, rfl, rfl, rfl, rfl, rfl⟩

/-- The settings are sound. -/
private theorem settingsSound_bytesOnly (n : UInt64) : SettingsSound fourGiBCaps (bytesOnly n) :=
  ⟨rfl, rfl, .inl rfl, fun h => by rcases h with h | h <;> cases h⟩

/-- A byte more than a GiB can be created on the pool. -/
private theorem poolSound_fourGiBPool : PoolSound fourGiBCaps fourGiBPool 0 1073741825 :=
  ⟨.inl rfl, rfl, by decide, by decide, by decide, by decide, by decide⟩

/-- A byte more than a GiB is adjusted to a page more than a GiB. -/
private theorem firstUsable_fourGiBPool :
    FirstUsable (fourGiBSystem.requestFor fourGiBCaps (bytesOnly 1073741825) none true)
      fourGiBPool.ilsets 1 1073745920 := by
  have hways : ∀ set ∈ fourGiBPool.ilsets, 0 < set.ways.toNat :=
    List.forall_mem_singleton.mpr (by decide)
  have hset := hways _ (List.mem_singleton_self _)
  refine ⟨[], _, [], rfl, ?_, rfl, List.forall_mem_nil _⟩
  have hone : (fourGiBSystem.requestFor fourGiBCaps (bytesOnly 1073741825) none true).blockSize = 1 :=
    rfl
  refine (usableIlset_iff (n := 1073741825) hone hset).mpr
    ⟨⟨rfl, rfl, rfl⟩, ?_, by decide, by decide, by decide⟩
  obtain ⟨adjusted, hadjusted, hvalue⟩ := adjustNamespaceBlockCount_one hset 1073741825
  have hpage : leastMultiple 4096 1073741825 % 2 ^ 64 = 1073745920 := by
    rw [leastMultiple_eq_add (by decide) (by decide)]
    decide
  obtain rfl : adjusted = 1073745920 := UInt64.toNat_inj.mp (hvalue.trans hpage)
  exact hadjusted

/-- If the namespaces can be read, the driver is asked exactly when the call may create a namespace on
the pool, the settings and the pool are sound, and an interleave set of the pool is usable: then for
the block count that is adjusted for the first usable set, on this set. -/
theorem settingsToCreate_eq_ok_iff {sys : NamespaceSystem} (hread : sys.namespacesRead = true)
    (poolUid : Uid) (settings : NamespaceCreateSettings) (format : Option InterleaveFormat)
    (allowAdjustment : Bool) (asked : NvmNamespaceCreateSettings) :
    sys.settingsToCreate poolUid settings format allowAdjustment = some (.ok asked) ↔
      ∃ caps pool driverId count, MayCreateOn sys caps poolUid pool ∧
        SettingsSound caps settings ∧ PoolSound caps pool (waysOf format) settings.blockCount ∧
          FirstUsable (sys.requestFor caps settings format allowAdjustment) pool.ilsets driverId
            count ∧
            asked = sys.creationSettings settings (some driverId) count := by
  constructor
  · exact exists_firstUsable_of_asked hread
  · rintro ⟨caps, pool, driverId, count, hpool, hsettings, hsound, hfirst, rfl⟩
    exact settingsToCreate_of_firstUsable hread hpool hsettings hsound hfirst

/-- With adjustment, a byte more than a GiB asks for a page more. -/
theorem settingsToCreate_fourGiBSystem :
    fourGiBSystem.settingsToCreate [] (bytesOnly 1073741825) none true =
      some (.ok (fourGiBSystem.creationSettings (bytesOnly 1073741825) (some 1) 1073745920)) :=
  (settingsToCreate_eq_ok_iff rfl [] (bytesOnly 1073741825) none true _).mpr
    ⟨fourGiBCaps, fourGiBPool, 1, 1073745920, mayCreateOn_fourGiBPool,
      settingsSound_bytesOnly _, poolSound_fourGiBPool, firstUsable_fourGiBPool, rfl⟩

/-! ### Adjusting first -/

section Adjusted

variable {sys : NamespaceSystem} {caps : NamespaceCapabilities} {pool : Pool}
  {settings : NamespaceCreateSettings} {format : Option InterleaveFormat}

/-- The settings with another block count. -/
def NamespaceCreateSettings.withCount (settings : NamespaceCreateSettings) (count : UInt64) :
    NamespaceCreateSettings :=
  { settings with blockCount := count }

/-- The adjusted block count is usable as it is, on the set that it has been adjusted for. -/
private theorem usableIlset_adjusted (hblock : settings.blockSize = 1) {set : InterleaveSet}
    (hways : 0 < set.ways.toNat) {count : UInt64}
    (h : UsableIlset (sys.requestFor caps settings format true) set count) :
    UsableIlset (sys.requestFor caps (settings.withCount count) format false) set count := by
  have hone : (sys.requestFor caps settings format true).blockSize = 1 := hblock
  obtain ⟨hmatches, -, hminimum, hroom, hdvd⟩ :=
    (usableIlset_iff (n := settings.blockCount) hone hways).mp h
  have hone' : (sys.requestFor caps (settings.withCount count) format false).blockSize = 1 := hblock
  exact (usableIlset_iff (n := count) hone' hways).mpr ⟨hmatches, rfl, hminimum, hroom, hdvd⟩

/-- A set that is not usable for the block count adjusted for it is not usable for the one that was
adjusted for another set either. -/
private theorem not_usableIlset_adjusted (hblock : settings.blockSize = 1) {set other : InterleaveSet}
    (hways : 0 < set.ways.toNat) (hother : 0 < other.ways.toNat) {count : UInt64}
    (h : UsableIlset (sys.requestFor caps settings format true) set count)
    (hnot : ∀ n, ¬ UsableIlset (sys.requestFor caps settings format true) other n) (n : UInt64) :
    ¬ UsableIlset (sys.requestFor caps (settings.withCount count) format false) other n := by
  have hone : (sys.requestFor caps settings format true).blockSize = 1 := hblock
  have hone' : (sys.requestFor caps (settings.withCount count) format false).blockSize = 1 := hblock
  intro husable
  obtain ⟨-, hadjusted, hminimum, -, -⟩ :=
    (usableIlset_iff (n := settings.blockCount) hone hways).mp h
  obtain ⟨hle, hlt⟩ := adjusted_bounds hways hadjusted hminimum
  obtain ⟨hmatches, hsame, hgib, hroom, hdvd⟩ :=
    (usableIlset_iff (n := count) hone' hother).mp husable
  obtain rfl : count = n := Option.some.inj hsame
  obtain ⟨own, hown, hvalue⟩ := adjustNamespaceBlockCount_one hother settings.blockCount
  have hpages : 0 < 4096 * other.ways.toNat := by omega
  -- the count for the other set is not above this one, so that it has room
  have hleast := leastMultiple_le hpages hdvd hle
  rw [Nat.mod_eq_of_lt (hleast.trans_lt count.toNat_lt)] at hvalue
  refine hnot own ((usableIlset_iff (n := settings.blockCount) hone hother).mpr
    ⟨hmatches, hown, ?_, hvalue.trans_le (hleast.trans hroom), hvalue ▸ dvd_leastMultiple _ _⟩)
  rw [hvalue]
  by_contra hsmall
  -- a GiB for each DIMM is whole pages, so that at least a page for each DIMM less is asked for
  have hbelow : leastMultiple (4096 * other.ways.toNat) settings.blockCount.toNat ≤
      (2 ^ 18 - 1) * (4096 * other.ways.toNat) := by
    obtain ⟨k, hk⟩ := dvd_leastMultiple (4096 * other.ways.toNat) settings.blockCount.toNat
    have hfew : k < 2 ^ 18 := by
      refine lt_of_mul_lt_mul_left (a := 4096 * other.ways.toNat) ?_ (Nat.zero_le _)
      omega
    rw [hk, Nat.mul_comm]
    exact Nat.mul_le_mul_right _ (by omega)
  have hasked := (le_leastMultiple hpages settings.blockCount.toNat).trans hbelow
  omega

/-- The set that is found for the adjusted block count is the one that it has been adjusted for. -/
private theorem firstUsable_adjusted (hblock : settings.blockSize = 1) {sets : List InterleaveSet}
    (hways : ∀ set ∈ sets, 0 < set.ways.toNat) {driverId : UInt32} {count : UInt64}
    (h : FirstUsable (sys.requestFor caps settings format true) sets driverId count) :
    FirstUsable (sys.requestFor caps (settings.withCount count) format false) sets driverId
      count := by
  obtain ⟨before, set, after, rfl, husable, hid, hbefore⟩ := h
  have hset := hways set (List.mem_append_right _ List.mem_cons_self)
  refine ⟨before, set, after, rfl, usableIlset_adjusted hblock hset husable, hid,
    fun other hmem => ⟨?_, ?_⟩⟩
  · refine not_dividesByZero ?_ (hways other (List.mem_append_left _ hmem))
    have hone : (sys.requestFor caps (settings.withCount count) format false).blockSize = 1 := hblock
    rw [hone]
    exact .inl rfl
  · exact not_usableIlset_adjusted hblock hset (hways other (List.mem_append_left _ hmem)) husable
      (hbefore other hmem).2

/-- The checks of the adjusted block count only fail for its size. -/
private theorem checkSettings_adjusted {range : PossibleNamespaceRanges} {count : UInt64}
    (hrange : getPoolSupportedSizeRanges pool caps.caps (waysOf format) = some range)
    (hsettings : SettingsSound caps settings)
    (hpool : PoolSound caps pool (waysOf format) settings.blockCount)
    (hbig : ¬ (count ≤ pool.freeCapacity ∧
      count ≤ getLargestAppDirectNamespace pool (waysOf format))) :
    sys.checkSettings caps pool (settings.withCount count) format false range = .errBadSize := by
  have hreported := largest_reported_iff.mpr
    ⟨⟨hpool.nonempty, hpool.mode, hpool.alignment, hpool.largest⟩, rfl⟩
  have hlargest : range.largestPossibleAppDirectNs =
      getLargestAppDirectNamespace pool (waysOf format) := by
    rw [Option.some.inj (hrange.symm.trans hreported.1)]
  have hcan : canCreateOnPool caps (settings.withCount count) range = .success :=
    canCreateOnPool_eq_success_iff.mpr
      ⟨hsettings.type, hpool.mode, hlargest ▸ hpool.largest, hsettings.pages⟩
  have htype : validateNsTypeForPool (settings.withCount count).type pool = .success :=
    validateNsTypeForPool_eq_success_iff.mpr ⟨hsettings.type, hpool.type⟩
  have henabled : validateNsEnabledState (settings.withCount count).enabled = .success :=
    validateNsEnabledState_eq_success_iff.mpr hsettings.enabled
  have hsize : validateNsSizeForCreation pool
      (sys.requestFor caps (settings.withCount count) format false) range = .errBadSize := by
    have hblock : (sys.requestFor caps (settings.withCount count) format false).blockSize = 1 :=
      hsettings.blockSize
    have hrefused : validateNsSizeForCreation pool
        (sys.requestFor caps (settings.withCount count) format false) range ≠ .success := by
      rw [Ne, validateNsSizeForCreation_eq_success_iff, hlargest]
      exact fun hfits => hbig hfits.2
    rw [validateNsSizeForCreation, hblock, if_neg (not_not.mpr rfl)] at hrefused ⊢
    split_ifs at hrefused ⊢
    · rfl
    · rfl
    · exact absurd rfl hrefused
  rw [NamespaceSystem.checkSettings, hcan, htype, henabled, hsize]
  rfl

/-- The pool of a call that adjusts the block count, and the set that it is adjusted for. -/
private theorem exists_of_adjusted (hread : sys.namespacesRead = true) {poolUid : Uid}
    (hget : sys.getPool poolUid = .ok pool) {count : UInt64}
    (h : sys.nvmAdjustCreateNamespaceBlockCount poolUid settings format = some (.ok count)) :
    ∃ caps driverId, MayCreateOn sys caps poolUid pool ∧ SettingsSound caps settings ∧
      PoolSound caps pool (waysOf format) settings.blockCount ∧
        FirstUsable (sys.requestFor caps settings format true) pool.ilsets driverId count := by
  rw [NamespaceSystem.nvmAdjustCreateNamespaceBlockCount] at h
  cases hpool : sys.poolToCreateOn poolUid with
  | error rc =>
    rw [hpool] at h
    cases h
  | ok found =>
    rw [hpool] at h
    dsimp only at h
    rw [Option.map_eq_some_iff] at h
    obtain ⟨result, hvalidate, hresult⟩ := h
    cases result with
    | error rc => cases hresult
    | ok left =>
      obtain ⟨creationId, left⟩ := left
      cases hresult
      obtain ⟨caps, hcaps⟩ := exists_caps_of_validate hvalidate
      have hmay := (poolToCreateOn_eq_ok_iff hcaps).mp hpool
      obtain rfl := Except.ok.inj (hget.symm.trans hmay.pool_eq)
      obtain ⟨hsettings, hsound, driverId, -, hfirst⟩ :=
        (validateNamespaceCreateSettings_eq_ok_iff hread hcaps).mp hvalidate
      exact ⟨caps, driverId, hmay, hsettings, hsound, hfirst⟩

/-- Creating with the adjusted block count, when the settings with the count that is asked for are
validated. -/
private theorem settingsToCreate_adjusted (hread : sys.namespacesRead = true) {poolUid : Uid}
    (hways : ∀ set ∈ pool.ilsets, 0 < set.ways.toNat) {driverId : UInt32} {count : UInt64}
    (hmay : MayCreateOn sys caps poolUid pool) (hsettings : SettingsSound caps settings)
    (hsound : PoolSound caps pool (waysOf format) settings.blockCount)
    (hfirst : FirstUsable (sys.requestFor caps settings format true) pool.ilsets driverId count) :
    sys.settingsToCreate poolUid (settings.withCount count) format false =
      some (if count ≤ pool.freeCapacity ∧
        count ≤ getLargestAppDirectNamespace pool (waysOf format) then
        .ok (sys.creationSettings settings (some driverId) count) else .error .errBadSize) := by
  split_ifs with hfits
  · have hsettings' : SettingsSound caps (settings.withCount count) :=
      ⟨hsettings.type, hsettings.blockSize, hsettings.enabled, hsettings.pages⟩
    have hsound' : PoolSound caps pool (waysOf format) (settings.withCount count).blockCount :=
      { hsound with free := hfits.1, le := hfits.2 }
    exact settingsToCreate_of_firstUsable hread hmay hsettings' hsound'
      (firstUsable_adjusted hsettings.blockSize hways hfirst)
  · have hreported := largest_reported_iff.mpr
      ⟨⟨hsound.nonempty, hsound.mode, hsound.alignment, hsound.largest⟩, rfl⟩
    rw [NamespaceSystem.settingsToCreate, (poolToCreateOn_eq_ok_iff hmay.caps_eq).mpr hmay]
    dsimp only
    rw [NamespaceSystem.validateNamespaceCreateSettings, hmay.caps_eq]
    dsimp only
    rw [if_pos hread, hreported.1, Option.bind_some,
      checkSettings_adjusted hreported.1 hsettings hsound hfits, if_neg (by decide)]
    rfl

end Adjusted

end IxpDimm
