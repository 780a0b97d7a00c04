import IxpDimm.MemoryAllocator.Types
import IxpDimm.Device.Uid

/-!
# The capacities of a DIMM

`get_dimm_capacities` of `device_utilities.c` divides the raw capacity of a DIMM into memory,
App Direct, unconfigured, reserved and inaccessible capacity, from the partition info of the firmware
and the interleave sets of the driver.  `update_capacities_based_on_sku` then moves what the platform
or the DIMM does not support into the inaccessible part.

None of the subtractions wraps, and the five parts add up to the raw capacity, unless the whole DIMM
or its whole persistent capacity is moved: the first leaves the reserved capacity where it is besides
counting it as inaccessible, the second drops it.
-/

namespace IxpDimm

open Foundation

/-! ### Interleave sets of the driver -/

/-- `NVM_MAX_DEVICES_PER_SOCKET`. -/
def nvmMaxDevicesPerSocket : ℕ := 24

/-- One entry of the arrays `dimms`, `dimm_region_pdas` and `dimm_sizes`. -/
structure IsetDimm where
  /-- The handle of the DIMM. -/
  handle : UInt32 := 0
  /-- Where the region of the DIMM starts. -/
  regionPda : UInt64 := 0
  /-- What the DIMM contributes to the set. -/
  size : UInt64 := 0
  deriving DecidableEq, Repr

/-- `struct nvm_interleave_set`; its arrays are the list of their `dimm_count` entries. -/
structure NvmInterleaveSet where
  /-- The identifier from the NFIT. -/
  id : UInt8 := 0
  /-- The socket where the set resides. -/
  socketId : UInt8 := 0
  /-- The size of the set. -/
  size : UInt64 := 0
  /-- The attributes of the NFIT mapping. -/
  attributes : UInt64 := 0
  /-- The DIMMs of the set. -/
  dimms : List IsetDimm := []
  /-- The arrays have `NVM_MAX_DEVICES_PER_SOCKET` entries. -/
  length_le : dimms.length ≤ nvmMaxDevicesPerSocket := by decide
  deriving DecidableEq, Repr

/-- `NFIT_MAPPING_ATTRIBUTE_EFI_MEMORY_MORE_RELIABLE`. -/
def efiMemoryMoreReliable : UInt64 := 0x10000

/-- `MIRRORED_INTERLEAVE`. -/
def mirroredInterleave (attributes : UInt64) : Bool :=
  attributes &&& efiMemoryMoreReliable == efiMemoryMoreReliable

/-- The entry of a set that the loops take for a DIMM, the first one with its handle. -/
def NvmInterleaveSet.entryOf (iset : NvmInterleaveSet) (handle : UInt32) : Option IsetDimm :=
  iset.dimms.find? fun dimm => dimm.handle = handle

/-- The App Direct capacity that a set adds to a DIMM, and the mirrored part of it. -/
def addIsetCapacity (handle : UInt32) (total : UInt64 × UInt64) (iset : NvmInterleaveSet) :
    UInt64 × UInt64 :=
  match iset.entryOf handle with
  | none => total
  | some dimm =>
    if mirroredInterleave iset.attributes then (total.1 + dimm.size * 2, total.2 + dimm.size)
    else (total.1 + dimm.size, total.2)

/-- `get_app_direct_capacity_on_device`: the App Direct capacity and the mirrored part of it. -/
def getAppDirectCapacityOnDevice (isets : Except ReturnCode (List NvmInterleaveSet))
    (handle : UInt32) : Except ReturnCode (UInt64 × UInt64) :=
  match isets with
  | .error rc => .error rc
  | .ok isets => .ok (isets.foldl (addIsetCapacity handle) (0, 0))

/-! ### What the platform and the DIMM support -/

/-- What the capacities, the pools and the namespaces read of `struct nvm_capabilities`. -/
structure NvmCapabilities where
  /-- `nvm_features.memory_mode`. -/
  memoryMode : Bool := false
  /-- `nvm_features.app_direct_mode`. -/
  appDirectMode : Bool := false
  /-- `nvm_features.storage_mode`. -/
  storageMode : Bool := false
  /-- `sku_capabilities.mixed_sku`. -/
  mixedSku : Bool := false
  /-- `platform_capabilities.current_volatile_mode`. -/
  currentVolatileMode : VolatileMode := .oneLM
  /-- `platform_capabilities.app_direct_mode.interleave_alignment_size`, as a power of two. -/
  interleaveAlignmentSize : UInt16 := 0
  /-- `sw_capabilities.min_namespace_size`. -/
  minNamespaceSize : UInt64 := 0

/-- `struct device_capabilities` with the storage mode. -/
structure DeviceModes extends DeviceCapabilities where
  /-- Whether the device supports storage mode. -/
  storageModeCapable : Bool := false
  deriving DecidableEq, Repr

/-- The platform, or the DIMM, supports no mode at all, or the SKUs are mixed. -/
def noModeSupport (caps : NvmCapabilities) (modes : DeviceModes) : Bool :=
  (!caps.memoryMode && !caps.appDirectMode && !caps.storageMode) || caps.mixedSku ||
    (!modes.memoryModeCapable && !modes.appDirectModeCapable && !modes.storageModeCapable)

/-- Memory mode is not supported. -/
def noMemorySupport (caps : NvmCapabilities) (modes : DeviceModes) : Bool :=
  !caps.memoryMode || !modes.memoryModeCapable

/-- Neither of the persistent modes is supported. -/
def noPmSupport (caps : NvmCapabilities) (modes : DeviceModes) : Bool :=
  (!caps.appDirectMode && !caps.storageMode) ||
    (!modes.appDirectModeCapable && !modes.storageModeCapable)

/-- App Direct mode is not supported. -/
def noAppDirectSupport (caps : NvmCapabilities) (modes : DeviceModes) : Bool :=
  !caps.appDirectMode || !modes.appDirectModeCapable

/-- Storage mode is not supported. -/
def noStorageSupport (caps : NvmCapabilities) (modes : DeviceModes) : Bool :=
  !caps.storageMode || !modes.storageModeCapable

/-! ### Capacities -/

/-- `struct device_capacities`, in bytes. -/
structure DeviceCapacities where
  /-- The total capacity. -/
  capacity : UInt64 := 0
  /-- The capacity for memory mode. -/
  memoryCapacity : UInt64 := 0
  /-- The capacity for App Direct mode. -/
  appDirectCapacity : UInt64 := 0
  /-- The mirrored App Direct capacity. -/
  mirroredAppDirectCapacity : UInt64 := 0
  /-- The capacity that can be used as storage. -/
  storageCapacity : UInt64 := 0
  /-- The unconfigured capacity. -/
  unconfiguredCapacity : UInt64 := 0
  /-- The capacity not licensed for the SKU. -/
  inaccessibleCapacity : UInt64 := 0
  /-- The capacity reserved for metadata. -/
  reservedCapacity : UInt64 := 0
  deriving DecidableEq, Repr

/-- `struct pt_payload_get_dimm_partition_info`, in multiples of 4 KiB. -/
structure PartitionInfo where
  /-- The volatile capacity. -/
  volatileCapacity : UInt32 := 0
  /-- The persistent capacity. -/
  pmemCapacity : UInt32 := 0
  /-- The raw capacity. -/
  rawCapacity : UInt32 := 0
  deriving DecidableEq, Repr

/-- `MULTIPLES_TO_BYTES`. -/
def multiplesToBytes (val : UInt32) : UInt64 := 4096 * val.toUInt64

/-- `is_in_memory_mode`. -/
def isInMemoryMode (caps : NvmCapabilities) (info : PartitionInfo) : Bool :=
  caps.currentVolatileMode = .memory ||
    (caps.currentVolatileMode = .auto && info.volatileCapacity ≠ 0)

/-- The capacities before the SKU is looked at, from the App Direct capacity `ad`. -/
def partitionCapacities (caps : NvmCapabilities) (info : PartitionInfo) (ad : UInt64 × UInt64) :
    DeviceCapacities :=
  let capacity := multiplesToBytes info.rawCapacity
  let pmCapacity := multiplesToBytes info.pmemCapacity
  let memoryCapacity :=
    if isInMemoryMode caps info then multiplesToBytes info.volatileCapacity else 0
  { capacity, memoryCapacity
    appDirectCapacity := ad.1
    mirroredAppDirectCapacity := ad.2
    storageCapacity := pmCapacity - ad.2 * 2
    reservedCapacity := capacity - pmCapacity - memoryCapacity
    unconfiguredCapacity := pmCapacity - ad.1 }

/-- `update_capacities_based_on_sku`, for a DIMM that is found. -/
def skuCapacities (caps : NvmCapabilities) (modes : DeviceModes) (c : DeviceCapacities) :
    DeviceCapacities :=
  let pmCapacity := c.appDirectCapacity + c.unconfiguredCapacity
  if noModeSupport caps modes then
    { c with
      inaccessibleCapacity := c.inaccessibleCapacity + c.capacity
      memoryCapacity := 0
      appDirectCapacity := 0
      mirroredAppDirectCapacity := 0
      storageCapacity := 0
      unconfiguredCapacity := 0 }
  else if c.memoryCapacity > 0 ∧ noMemorySupport caps modes then
    { c with
      inaccessibleCapacity := c.inaccessibleCapacity + c.memoryCapacity
      memoryCapacity := 0 }
  else if pmCapacity > 0 then
    if noPmSupport caps modes then
      { c with
        inaccessibleCapacity := c.inaccessibleCapacity + pmCapacity
        appDirectCapacity := 0
        mirroredAppDirectCapacity := 0
        storageCapacity := 0
        unconfiguredCapacity := 0
        reservedCapacity := 0 }
    else if c.appDirectCapacity > 0 ∧ noAppDirectSupport caps modes then
      { c with
        inaccessibleCapacity := c.inaccessibleCapacity + c.appDirectCapacity
        appDirectCapacity := 0
        mirroredAppDirectCapacity := 0 }
    else if c.storageCapacity > 0 ∧ noStorageSupport caps modes then
      { c with
        storageCapacity :=
          if c.storageCapacity > c.unconfiguredCapacity then
            c.storageCapacity - c.unconfiguredCapacity
          else 0 }
    else c
  else c

/-- `update_capacities_based_on_sku`, with what `lookup_dev_handle` finds. -/
def updateCapacitiesBasedOnSku (caps : NvmCapabilities) (found : Except ReturnCode DeviceModes)
    (c : DeviceCapacities) : ReturnCode × DeviceCapacities :=
  match found with
  | .error rc => (rc, c)
  | .ok modes => (.success, skuCapacities caps modes c)

/-- What `get_dimm_capacities` asks the driver and the firmware about a DIMM. -/
structure DimmQueries where
  /-- The handle of the DIMM. -/
  handle : UInt32
  /-- `get_interleave_sets`. -/
  isets : Except ReturnCode (List NvmInterleaveSet)
  /-- `get_partition_info`. -/
  partitionInfo : Except ReturnCode PartitionInfo
  /-- `lookup_dev_handle`, of which the supported modes are read. -/
  lookup : Except ReturnCode DeviceModes

/-- The App Direct capacity that is counted, zero if the interleave sets cannot be read. -/
def DimmQueries.appDirect (dimm : DimmQueries) : UInt64 × UInt64 :=
  match getAppDirectCapacityOnDevice dimm.isets dimm.handle with
  | .error _ => (0, 0)
  | .ok ad => ad

/-- `get_dimm_capacities`. -/
def getDimmCapacities (caps : NvmCapabilities) (dimm : DimmQueries) : ReturnCode × DeviceCapacities :=
  match dimm.partitionInfo with
  | .error rc => (rc, {})
  | .ok info =>
    updateCapacitiesBasedOnSku caps dimm.lookup (partitionCapacities caps info dimm.appDirect)

/-! ### Conservation -/

/-- The five parts of the capacity add up to the whole, over the exact integers. -/
def DeviceCapacities.Conserved (c : DeviceCapacities) : Prop :=
  c.memoryCapacity.toNat + c.appDirectCapacity.toNat + c.unconfiguredCapacity.toNat +
    c.reservedCapacity.toNat + c.inaccessibleCapacity.toNat = c.capacity.toNat

/-- No subtraction of `get_dimm_capacities` wraps.  The one of `update_capacities_based_on_sku` stands
behind a comparison of its operands. -/
structure SubtractionsExact (caps : NvmCapabilities) (info : PartitionInfo) (ad : UInt64 × UInt64) :
    Prop where
  /-- The mirrored capacity that is taken from the storage capacity. -/
  mirrored_le : (ad.2 * 2).toNat ≤ (multiplesToBytes info.pmemCapacity).toNat
  /-- The persistent capacity that is taken from the raw capacity. -/
  persistent_le : (multiplesToBytes info.pmemCapacity).toNat ≤
    (multiplesToBytes info.rawCapacity).toNat
  /-- The memory capacity that is taken from the rest. -/
  memory_le : (partitionCapacities caps info ad).memoryCapacity.toNat ≤
    (multiplesToBytes info.rawCapacity - multiplesToBytes info.pmemCapacity).toNat
  /-- The App Direct capacity that is taken from the persistent capacity. -/
  appDirect_le : ad.1.toNat ≤ (multiplesToBytes info.pmemCapacity).toNat

/-- What a set adds to the App Direct capacity of a DIMM, over the exact integers. -/
def isetShare (handle : UInt32) (iset : NvmInterleaveSet) : ℕ :=
  match iset.entryOf handle with
  | none => 0
  | some dimm => if mirroredInterleave iset.attributes then 2 * dimm.size.toNat else dimm.size.toNat

/-- What a set adds to the mirrored capacity of a DIMM, over the exact integers. -/
def isetMirroredShare (handle : UInt32) (iset : NvmInterleaveSet) : ℕ :=
  match iset.entryOf handle with
  | none => 0
  | some dimm => if mirroredInterleave iset.attributes then dimm.size.toNat else 0

/-- The App Direct capacity of a DIMM over the exact integers. -/
def DimmQueries.exactAppDirect (dimm : DimmQueries) : ℕ :=
  match dimm.isets with
  | .error _ => 0
  | .ok isets => (isets.map (isetShare dimm.handle)).sum

/-- The memory capacity in multiples of 4 KiB. -/
def memoryMultiples (caps : NvmCapabilities) (info : PartitionInfo) : ℕ :=
  if isInMemoryMode caps info then info.volatileCapacity.toNat else 0

/-- The whole persistent capacity of a DIMM is moved to the inaccessible part. -/
def movesWholePm (caps : NvmCapabilities) (info : PartitionInfo) (modes : DeviceModes) : Prop :=
  ¬ (0 < memoryMultiples caps info ∧ noMemorySupport caps modes = true) ∧
    0 < info.pmemCapacity.toNat ∧ noPmSupport caps modes = true

/-- Nothing is reserved, or the DIMM is not found, or neither the whole DIMM nor its whole persistent
capacity is moved to the inaccessible part. -/
def ReservedCountedOnce (caps : NvmCapabilities) (info : PartitionInfo)
    (found : Except ReturnCode DeviceModes) : Prop :=
  info.rawCapacity.toNat = info.pmemCapacity.toNat + memoryMultiples caps info ∨
    ∀ modes, found = .ok modes →
      noModeSupport caps modes = false ∧ ¬ movesWholePm caps info modes

/-- A multiple of 4 KiB converts to bytes exactly. -/
@[simp] theorem toNat_multiplesToBytes (val : UInt32) :
    (multiplesToBytes val).toNat = 4096 * val.toNat := by
  have hval := val.toNat_lt
  have hpage : (4096 : UInt64).toNat = 4096 := rfl
  rw [multiplesToBytes, UInt64.toNat_mul, hpage, UInt32.toNat_toUInt64]
  omega

/-- What one set adds to the running totals, modulo `2 ^ 64`. -/
private theorem toNat_addIsetCapacity (handle : UInt32) (iset : NvmInterleaveSet)
    (total : UInt64 × UInt64) :
    (addIsetCapacity handle total iset).1.toNat =
        (total.1.toNat + isetShare handle iset) % 2 ^ 64 ∧
      (addIsetCapacity handle total iset).2.toNat =
        (total.2.toNat + isetMirroredShare handle iset) % 2 ^ 64 := by
  have h1 := total.1.toNat_lt
  have h2 := total.2.toNat_lt
  have htwo : (2 : UInt64).toNat = 2 := rfl
  unfold addIsetCapacity isetShare isetMirroredShare
  cases iset.entryOf handle with
  | none => exact ⟨(Nat.mod_eq_of_lt h1).symm, (Nat.mod_eq_of_lt h2).symm⟩
  | some dimm =>
    by_cases hmirrored : mirroredInterleave iset.attributes = true
    · simp only [hmirrored, if_true, UInt64.toNat_add, UInt64.toNat_mul, htwo, and_true]
      omega
    · simp only [hmirrored, Bool.false_eq_true, if_false, UInt64.toNat_add, Nat.add_zero, true_and]
      exact (Nat.mod_eq_of_lt h2).symm

/-- The running totals of the loop over the sets, modulo `2 ^ 64`. -/
private theorem toNat_foldl_addIsetCapacity (handle : UInt32) (isets : List NvmInterleaveSet)
    (total : UInt64 × UInt64) :
    (isets.foldl (addIsetCapacity handle) total).1.toNat =
        (total.1.toNat + (isets.map (isetShare handle)).sum) % 2 ^ 64 ∧
      (isets.foldl (addIsetCapacity handle) total).2.toNat =
        (total.2.toNat + (isets.map (isetMirroredShare handle)).sum) % 2 ^ 64 := by
  induction isets generalizing total with
  | nil =>
    have h1 := total.1.toNat_lt
    have h2 := total.2.toNat_lt
    simp only [List.foldl_nil, List.map_nil, List.sum_nil, Nat.add_zero]
    exact ⟨(Nat.mod_eq_of_lt h1).symm, (Nat.mod_eq_of_lt h2).symm⟩
  | cons iset isets ih =>
    obtain ⟨ih1, ih2⟩ := ih (addIsetCapacity handle total iset)
    obtain ⟨h1, h2⟩ := toNat_addIsetCapacity handle iset total
    rw [List.foldl_cons, ih1, ih2, h1, h2]
    simp only [List.map_cons, List.sum_cons]
    omega

/-- Twice the mirrored part is within the App Direct capacity. -/
private theorem two_mul_sum_isetMirroredShare_le (handle : UInt32) (isets : List NvmInterleaveSet) :
    2 * (isets.map (isetMirroredShare handle)).sum ≤ (isets.map (isetShare handle)).sum := by
  induction isets with
  | nil => exact Nat.le_refl _
  | cons iset isets ih =>
    have hiset : 2 * isetMirroredShare handle iset ≤ isetShare handle iset := by
      unfold isetShare isetMirroredShare
      cases iset.entryOf handle with
      | none => exact Nat.le_refl _
      | some dimm =>
        dsimp only
        split_ifs
        · exact Nat.le_refl _
        · exact Nat.zero_le _
    simp only [List.map_cons, List.sum_cons]
    omega

/-- App Direct capacity that fits is counted exactly, and the mirrored part is at most half of it. -/
private theorem appDirect_exact (dimm : DimmQueries) (h : dimm.exactAppDirect < 2 ^ 64) :
    dimm.appDirect.1.toNat = dimm.exactAppDirect ∧
      2 * dimm.appDirect.2.toNat ≤ dimm.exactAppDirect := by
  unfold DimmQueries.appDirect getAppDirectCapacityOnDevice
  unfold DimmQueries.exactAppDirect at h ⊢
  cases hisets : dimm.isets with
  | error rc => exact ⟨rfl, Nat.le_refl _⟩
  | ok isets =>
    rw [hisets] at h
    dsimp only at h ⊢
    obtain ⟨h1, h2⟩ := toNat_foldl_addIsetCapacity dimm.handle isets (0, 0)
    have hmirrored := two_mul_sum_isetMirroredShare_le dimm.handle isets
    rw [h1, h2, UInt64.toNat_zero]
    omega

/-- A capacity converted from multiples is positive when there are any. -/
private theorem pos_iff_toNat {a : UInt64} : a > 0 ↔ 0 < a.toNat := by
  rw [gt_iff_lt, UInt64.lt_iff_toNat_lt]
  rfl

/-- Moving capacities by the SKU keeps their sum exactly when nothing is reserved, or neither the
whole DIMM nor its whole persistent capacity is moved. -/
private theorem skuCapacities_conserved_iff (caps : NvmCapabilities) (modes : DeviceModes)
    {c : DeviceCapacities} (hc : c.Conserved) (hzero : c.inaccessibleCapacity = 0) :
    (skuCapacities caps modes c).Conserved ↔
      c.reservedCapacity.toNat = 0 ∨ noModeSupport caps modes = false ∧
        ¬ (¬ (0 < c.memoryCapacity.toNat ∧ noMemorySupport caps modes = true) ∧
          0 < c.appDirectCapacity.toNat + c.unconfiguredCapacity.toNat ∧
          noPmSupport caps modes = true) := by
  have hlt := c.capacity.toNat_lt
  unfold DeviceCapacities.Conserved at hc
  rw [hzero, UInt64.toNat_zero] at hc
  have hpm : (c.appDirectCapacity + c.unconfiguredCapacity).toNat =
      c.appDirectCapacity.toNat + c.unconfiguredCapacity.toNat := toNat_add_of_lt (by omega)
  unfold DeviceCapacities.Conserved skuCapacities
  simp only [hzero, UInt64.zero_add, pos_iff_toNat, hpm]
  by_cases hmode : noModeSupport caps modes = true
  · -- the reserved capacity stays and is part of the inaccessible capacity as well
    simp only [hmode, if_true, UInt64.toNat_zero, Bool.true_eq_false, false_and, or_false]
    omega
  rw [Bool.not_eq_true] at hmode
  simp only [hmode, Bool.false_eq_true, if_false, true_and]
  by_cases hmemory : 0 < c.memoryCapacity.toNat ∧ noMemorySupport caps modes = true
  · simp only [hmemory, and_self, if_true, UInt64.toNat_zero, not_true, false_and, not_false_iff,
      or_true, iff_true]
    omega
  rw [if_neg hmemory]
  simp only [hmemory, not_false_iff, true_and]
  by_cases hpos : 0 < c.appDirectCapacity.toNat + c.unconfiguredCapacity.toNat
  swap
  · simp only [hpos, if_false, false_and, not_false_iff, or_true, iff_true, hzero,
      UInt64.toNat_zero]
    omega
  simp only [hpos, if_true, true_and]
  by_cases hnone : noPmSupport caps modes = true
  · -- the reserved capacity is dropped
    simp only [hnone, if_true, UInt64.toNat_zero, not_true, or_false, hpm]
    omega
  rw [if_neg hnone]
  simp only [hnone, Bool.false_eq_true, not_false_iff, or_true, iff_true]
  split_ifs
  · simp only [UInt64.toNat_zero]
    omega
  · rw [UInt64.toNat_zero]
    omega
  · rw [UInt64.toNat_zero]
    omega
  · rw [hzero, UInt64.toNat_zero]
    omega

section Partition

variable {caps : NvmCapabilities} {info : PartitionInfo} {ad : UInt64 × UInt64}

/-- The memory capacity before the SKU is looked at. -/
private theorem toNat_memoryCapacity :
    (partitionCapacities caps info ad).memoryCapacity.toNat = 4096 * memoryMultiples caps info := by
  unfold partitionCapacities memoryMultiples
  dsimp only
  split_ifs
  · exact toNat_multiplesToBytes _
  · rfl

/-- The memory capacity is part of the volatile capacity. -/
private theorem memoryMultiples_le : memoryMultiples caps info ≤ info.volatileCapacity.toNat := by
  unfold memoryMultiples
  split_ifs
  · exact Nat.le_refl _
  · exact Nat.zero_le _

/-- Capacities that fit are taken from one another without wrapping. -/
private theorem subtractionsExact
    (hraw : info.volatileCapacity.toNat + info.pmemCapacity.toNat ≤ info.rawCapacity.toNat)
    (had : ad.1.toNat ≤ 4096 * info.pmemCapacity.toNat)
    (hmirrored : 2 * ad.2.toNat ≤ 4096 * info.pmemCapacity.toNat) :
    SubtractionsExact caps info ad := by
  have hmemory : memoryMultiples caps info ≤ info.volatileCapacity.toNat := memoryMultiples_le
  have hpersistent : (multiplesToBytes info.pmemCapacity).toNat ≤
      (multiplesToBytes info.rawCapacity).toNat := by
    rw [toNat_multiplesToBytes, toNat_multiplesToBytes]
    omega
  refine ⟨?_, hpersistent, ?_, ?_⟩
  · have htwo : (2 : UInt64).toNat = 2 := rfl
    rw [toNat_multiplesToBytes, UInt64.toNat_mul, htwo, Nat.mul_comm]
    exact (Nat.mod_le _ _).trans hmirrored
  · rw [toNat_memoryCapacity, toNat_sub_of_toNat_le hpersistent, toNat_multiplesToBytes,
      toNat_multiplesToBytes]
    omega
  · rw [toNat_multiplesToBytes]
    exact had

/-- Before the SKU is looked at, the reserved capacity is what remains of the raw capacity, and the
unconfigured capacity what remains of the persistent capacity. -/
private theorem SubtractionsExact.remains (h : SubtractionsExact caps info ad) :
    (partitionCapacities caps info ad).reservedCapacity.toNat + 4096 * info.pmemCapacity.toNat +
        4096 * memoryMultiples caps info = 4096 * info.rawCapacity.toNat ∧
      (partitionCapacities caps info ad).unconfiguredCapacity.toNat + ad.1.toNat =
        4096 * info.pmemCapacity.toNat := by
  have hreserved := toNat_sub_of_toNat_le h.memory_le
  have hrest := toNat_sub_of_toNat_le h.persistent_le
  have hunconfigured := toNat_sub_of_toNat_le h.appDirect_le
  have hmemory := h.memory_le
  have hpersistent := h.persistent_le
  have happ := h.appDirect_le
  rw [toNat_memoryCapacity] at hreserved hmemory
  simp only [toNat_multiplesToBytes] at hreserved hrest hunconfigured hmemory hpersistent happ
  refine ⟨?_, ?_⟩
  · have hfield : (partitionCapacities caps info ad).reservedCapacity =
        multiplesToBytes info.rawCapacity - multiplesToBytes info.pmemCapacity -
          (partitionCapacities caps info ad).memoryCapacity := rfl
    rw [hfield]
    omega
  · have hfield : (partitionCapacities caps info ad).unconfiguredCapacity =
        multiplesToBytes info.pmemCapacity - ad.1 := rfl
    rw [hfield]
    omega

/-- Before the SKU is looked at, the parts add up. -/
private theorem SubtractionsExact.conserved (h : SubtractionsExact caps info ad) :
    (partitionCapacities caps info ad).Conserved := by
  obtain ⟨hreserved, hunconfigured⟩ := h.remains
  have hcapacity : (partitionCapacities caps info ad).capacity.toNat =
      4096 * info.rawCapacity.toNat := toNat_multiplesToBytes _
  have hzero : (partitionCapacities caps info ad).inaccessibleCapacity.toNat = 0 := rfl
  have happ : (partitionCapacities caps info ad).appDirectCapacity = ad.1 := rfl
  unfold DeviceCapacities.Conserved
  rw [hcapacity, hzero, happ, toNat_memoryCapacity]
  omega

end Partition

/-- For a DIMM whose partitions fit, no subtraction wraps and the parts add up to the raw capacity
exactly when the reserved capacity is counted once. -/
theorem getDimmCapacities_conserved_iff {caps : NvmCapabilities} {dimm : DimmQueries}
    {info : PartitionInfo} (hinfo : dimm.partitionInfo = .ok info)
    (hraw : info.volatileCapacity.toNat + info.pmemCapacity.toNat ≤ info.rawCapacity.toNat)
    (had : dimm.exactAppDirect ≤ 4096 * info.pmemCapacity.toNat) :
    (SubtractionsExact caps info dimm.appDirect ∧ (getDimmCapacities caps dimm).2.Conserved) ↔
      ReservedCountedOnce caps info dimm.lookup := by
  have hpm := info.pmemCapacity.toNat_lt
  obtain ⟨happ, hmirrored⟩ := appDirect_exact dimm (by omega)
  have hexact : SubtractionsExact caps info dimm.appDirect :=
    subtractionsExact hraw (happ ▸ had) (hmirrored.trans had)
  obtain ⟨hreserved, hunconfigured⟩ := hexact.remains
  have hfield : (partitionCapacities caps info dimm.appDirect).appDirectCapacity =
      dimm.appDirect.1 := rfl
  rw [and_iff_right hexact, getDimmCapacities, hinfo]
  unfold ReservedCountedOnce
  cases hlookup : dimm.lookup with
  | error rc =>
    refine iff_of_true hexact.conserved (Or.inr ?_)
    rintro modes ⟨⟩
  | ok modes =>
    have hsku := skuCapacities_conserved_iff caps modes hexact.conserved rfl
    rw [toNat_memoryCapacity, hfield] at hsku
    refine hsku.trans (or_congr (by omega) ?_)
    have hpos : 0 < dimm.appDirect.1.toNat +
        (partitionCapacities caps info dimm.appDirect).unconfiguredCapacity.toNat ↔
        0 < info.pmemCapacity.toNat := by omega
    have hmemory : 0 < 4096 * memoryMultiples caps info ↔ 0 < memoryMultiples caps info := by omega
    rw [hpos, hmemory]
    constructor
    · rintro h found ⟨⟩
      exact h
    · intro h
      exact h modes rfl

/-- A DIMM of 4 GiB on a platform that supports every mode, of which one GiB is persistent and one MiB
reserved. -/
def supportedDimm : DimmQueries where
  handle := 1
  isets := .ok [{ dimms := [⟨1, 0, 0x20000000⟩] }]
  partitionInfo := .ok ⟨0xBFF00, 0x40000, 0x100000⟩
  lookup := .ok ⟨⟨true, true⟩, true⟩

/-- The capabilities of a platform that supports every mode and is in memory mode. -/
def fullCapabilities : NvmCapabilities where
  memoryMode := true
  appDirectMode := true
  storageMode := true
  currentVolatileMode := .memory

/-- The capacity of a supported DIMM is conserved. -/
theorem getDimmCapacities_conserved_supportedDimm :
    SubtractionsExact fullCapabilities ⟨0xBFF00, 0x40000, 0x100000⟩ supportedDimm.appDirect ∧
      (getDimmCapacities fullCapabilities supportedDimm).2.Conserved := by
  refine (getDimmCapacities_conserved_iff rfl (by decide) (by decide)).mpr (Or.inr ?_)
  rintro modes ⟨⟩
  refine ⟨by decide, ?_⟩
  rintro ⟨-, -, hnone⟩
  revert hnone
  decide

/-- On a platform that supports no mode, the reserved capacity of the DIMM is counted twice. -/
theorem getDimmCapacities_not_conserved :
    ¬ ∀ (caps : NvmCapabilities) (dimm : DimmQueries) (info : PartitionInfo),
      dimm.partitionInfo = .ok info →
      info.volatileCapacity.toNat + info.pmemCapacity.toNat ≤ info.rawCapacity.toNat →
      dimm.exactAppDirect ≤ 4096 * info.pmemCapacity.toNat →
      SubtractionsExact caps info dimm.appDirect ∧ (getDimmCapacities caps dimm).2.Conserved := by
  intro h
  have hsum := (h {} supportedDimm _ rfl (by decide) (by decide)).2
  revert hsum
  unfold DeviceCapacities.Conserved
  decide

end IxpDimm
