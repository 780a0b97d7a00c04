import IxpDimm.Common.ReturnCode
import IxpDimm.ConfigGoal.Types
import IxpDimm.Device.Uid

/-!
# Checking a config goal

`validate_config_goal` of `config_goal.c`: the number of App Direct interleave sets, whether the modes
are supported, whether the sizes fit in the capacity of the device, and their alignment.  A size of
all ones stands for all that remains; the check of the sizes takes it, and the doubled size of a
mirrored set, from the capacity that is left.
-/

namespace IxpDimm

open Foundation

/-- `struct memory_capabilities`, as far as the checks read it. -/
structure MemoryCapabilities where
  /-- The interleave alignment, as a power of two. -/
  interleaveAlignmentSize : UInt16 := 0

/-- `struct platform_capabilities`, as far as the checks read it. -/
structure PlatformCapabilities where
  /-- Whether mirroring is supported. -/
  memoryMirrorSupported : Bool := false
  /-- Capabilities of memory mode. -/
  memoryMode : MemoryCapabilities := {}
  /-- Capabilities of App Direct mode. -/
  appDirectMode : MemoryCapabilities := {}

/-- The size that stands for all remaining capacity. -/
def remainingSize : UInt64 := 0 - 1

/-- `MAX_UINT64_GIB`. -/
def maxUInt64GiB : UInt64 := 17179869183

/-- `NVM_MAX_INTERLEAVE_SETS_PER_DIMM`. -/
def nvmMaxInterleaveSetsPerDimm : UInt16 := 2

/-! ### Alignment -/

/-- `validate_size_alignment`. -/
def validateSizeAlignment (sizeGb alignmentBytes : UInt64) : ReturnCode :=
  if sizeGb ≠ remainingSize ∧ sizeGb ≠ 0 ∧ sizeGb * bytesPerGiB % alignmentBytes ≠ 0 then
    .errBadAlignment
  else .success

/-- The check of the first sizes, until one fails. -/
def validateEach (check : UInt64 → ReturnCode) : List UInt64 → ReturnCode
  | [] => .success
  | size :: sizes =>
    match check size with
    | .success => validateEach check sizes
    | rc => rc

/-- The sizes of the App Direct interleave sets of a goal. -/
def ConfigGoal.appDirectSizes (goal : ConfigGoal) : List UInt64 :=
  [goal.appDirect1Size, goal.appDirect2Size].take goal.appDirectCount.toNat

/-- `validate_config_goal_alignment`; the exponents are cut off to eight bits. -/
def validateConfigGoalAlignment (goal : ConfigGoal) (capabilities : PlatformCapabilities) :
    ReturnCode :=
  let memAlignmentExp := capabilities.memoryMode.interleaveAlignmentSize.toUInt8
  let adAlignmentExp := capabilities.appDirectMode.interleaveAlignmentSize.toUInt8
  if memAlignmentExp < 64 ∧ adAlignmentExp < 64 then
    match validateSizeAlignment goal.memorySize ((1 : UInt64) <<< memAlignmentExp.toUInt64) with
    | .success =>
      validateEach (validateSizeAlignment · ((1 : UInt64) <<< adAlignmentExp.toUInt64))
        goal.appDirectSizes
    | rc => rc
  else .errUnknown

/-! ### Sizes -/

/-- `get_size_from_capacity`. -/
def getSizeFromCapacity (requestedGiB remainingBytes : UInt64) (mirrored : Bool) : UInt64 :=
  if requestedGiB = remainingSize then
    if mirrored then remainingBytes / bytesPerGiB / 2 else remainingBytes / bytesPerGiB
  else requestedGiB

/-- `validate_interleave_set_size`: the capacity that remains, or why the size is refused. -/
def validateInterleaveSetSize (sizeGb remainingCapacity : UInt64) (mirrored : Bool) :
    Except ReturnCode UInt64 :=
  let presented := getSizeFromCapacity sizeGb remainingCapacity mirrored
  let actualSizeGb := if mirrored then presented * 2 else presented
  if actualSizeGb > maxUInt64GiB then .error .errBadSize
  else if actualSizeGb * bytesPerGiB > remainingCapacity then .error .errBadSize
  else .ok (remainingCapacity - actualSizeGb * bytesPerGiB)

/-- The loop of `validate_config_goal_size` over the App Direct interleave sets. -/
def validateAppDirectSizes : List (UInt64 × Bool) → UInt64 → Except ReturnCode UInt64
  | [], remaining => .ok remaining
  | (size, mirrored) :: sets, remaining =>
    if size = 0 then .error .errBadSize
    else
      match validateInterleaveSetSize size remaining mirrored with
      | .ok remaining => validateAppDirectSizes sets remaining
      | .error rc => .error rc

/-- The sizes of the App Direct interleave sets of a goal, and whether they are mirrored. -/
def ConfigGoal.appDirectSets (goal : ConfigGoal) : List (UInt64 × Bool) :=
  [(goal.appDirect1Size, goal.appDirect1Settings.mirrored),
    (goal.appDirect2Size, goal.appDirect2Settings.mirrored)].take goal.appDirectCount.toNat

/-- `validate_config_goal_size`. -/
def validateConfigGoalSize (goal : ConfigGoal) (discovery : DeviceDiscovery) : ReturnCode :=
  match validateInterleaveSetSize goal.memorySize (usableCapacityBytes discovery.capacity) false with
  | .error rc => rc
  | .ok remaining =>
    match validateAppDirectSizes goal.appDirectSets remaining with
    | .error rc => rc
    | .ok _ => .success

/-! ### Support -/

/-- `get_number_of_mirrored_app_direct_interleave_sets`. -/
def getNumberOfMirroredAppDirectInterleaveSets (goal : ConfigGoal) : ℕ :=
  (if goal.appDirectCount > 0 ∧ goal.appDirect1Settings.mirrored then 1 else 0) +
    (if goal.appDirectCount > 1 ∧ goal.appDirect2Settings.mirrored then 1 else 0)

/-- `memory_capacity_is_requested_but_not_supported`. -/
def memoryCapacityIsRequestedButNotSupported (memorySize : UInt64) (capable : Bool) : Bool :=
  memorySize > 0 && !capable

/-- `app_direct_capacity_is_requested_but_not_supported`. -/
def appDirectCapacityIsRequestedButNotSupported (count : UInt16) (capable : Bool) : Bool :=
  count > 0 && !capable

/-- `validate_config_goal_supported`. -/
def validateConfigGoalSupported (goal : ConfigGoal) (capabilities : PlatformCapabilities)
    (discovery : DeviceDiscovery) : ReturnCode :=
  if memoryCapacityIsRequestedButNotSupported goal.memorySize
      discovery.deviceCapabilities.memoryModeCapable then .errConfigNotSupported
  else if appDirectCapacityIsRequestedButNotSupported goal.appDirectCount
      discovery.deviceCapabilities.appDirectModeCapable then .errConfigNotSupported
  else if getNumberOfMirroredAppDirectInterleaveSets goal > 0 ∧
      ¬ capabilities.memoryMirrorSupported then .errConfigNotSupported
  else if getNumberOfMirroredAppDirectInterleaveSets goal > 1 then .errBadDeviceConfig
  else .success

/-- `validate_config_goal`. -/
def validateConfigGoal (goal : ConfigGoal) (capabilities : PlatformCapabilities)
    (discovery : DeviceDiscovery) : ReturnCode :=
  if goal.appDirectCount > nvmMaxInterleaveSetsPerDimm then .errBadDeviceConfig
  else
    match validateConfigGoalSupported goal capabilities discovery with
    | .success =>
      match validateConfigGoalSize goal discovery with
      | .success => validateConfigGoalAlignment goal capabilities
      | rc => rc
    | rc => rc

/-! ### Accepted goals -/

/-- A size is refused as a bad size. -/
theorem validateInterleaveSetSize_error {size remaining : UInt64} {mirrored : Bool} {rc : ReturnCode}
    (h : validateInterleaveSetSize size remaining mirrored = .error rc) : rc = .errBadSize := by
  unfold validateInterleaveSetSize at h
  dsimp only at h
  split_ifs at h
  all_goals exact (Except.error.inj h).symm

/-- The sizes of interleave sets are refused as bad sizes. -/
theorem validateAppDirectSizes_error {sets : List (UInt64 × Bool)} {remaining : UInt64}
    {rc : ReturnCode} (h : validateAppDirectSizes sets remaining = .error rc) : rc = .errBadSize := by
  induction sets generalizing remaining with
  | nil => cases h
  | cons set sets ih =>
    obtain ⟨size, mirrored⟩ := set
    unfold validateAppDirectSizes at h
    split_ifs at h
    · exact (Except.error.inj h).symm
    · split at h
      · exact ih h
      · next hsize =>
        obtain rfl := Except.error.inj h
        exact validateInterleaveSetSize_error hsize

/-- Sizes of interleave sets are accepted one after the other. -/
theorem validateAppDirectSizes_cons_ok {size remaining rest : UInt64} {mirrored : Bool}
    {sets : List (UInt64 × Bool)}
    (h : validateAppDirectSizes ((size, mirrored) :: sets) remaining = .ok rest) :
    size ≠ 0 ∧ ∃ left, validateInterleaveSetSize size remaining mirrored = .ok left ∧
      validateAppDirectSizes sets left = .ok rest := by
  unfold validateAppDirectSizes at h
  split_ifs at h with hzero
  split at h
  · next left hleft => exact ⟨hzero, left, hleft, h⟩
  · cases h

/-- The size that stands for all that remains is the whole GiB of it, or half of them. -/
theorem toNat_getSizeFromCapacity {size remaining : UInt64} {k r : ℕ}
    (hremaining : remaining.toNat = 2 ^ 30 * k + r) (hr : r < 2 ^ 30) (mirrored : Bool) :
    (getSizeFromCapacity size remaining mirrored).toNat =
      if size = remainingSize then if mirrored then k / 2 else k else size.toNat := by
  have hdiv : (remaining / bytesPerGiB).toNat = k := by
    rw [UInt64.toNat_div, toNat_bytesPerGiB, hremaining]
    omega
  unfold getSizeFromCapacity
  split_ifs
  · rw [UInt64.toNat_div, hdiv]
    rfl
  · exact hdiv
  · rfl

/-- An accepted size, with that of the mirror, fits in the capacity that remains. -/
private theorem validateInterleaveSetSize_fits {size remaining rest : UInt64} {mirrored : Bool}
    (h : validateInterleaveSetSize size remaining mirrored = .ok rest) :
    ∃ actual : ℕ, actual = (if mirrored then
          2 * (getSizeFromCapacity size remaining mirrored).toNat % 2 ^ 64
        else (getSizeFromCapacity size remaining mirrored).toNat) ∧
      actual < 2 ^ 34 ∧ 2 ^ 30 * actual ≤ remaining.toNat ∧
      rest.toNat = remaining.toNat - 2 ^ 30 * actual := by
  unfold validateInterleaveSetSize at h
  dsimp only at h
  generalize getSizeFromCapacity size remaining mirrored = presented at h ⊢
  have hactual : (if mirrored then presented * 2 else presented).toNat =
      if mirrored then 2 * presented.toNat % 2 ^ 64 else presented.toNat := by
    split_ifs
    · rw [UInt64.toNat_mul, Nat.mul_comm]
      rfl
    · rfl
  rw [← hactual]
  generalize (if mirrored then presented * 2 else presented) = actual at h ⊢
  split_ifs at h with hmax hfits
  obtain rfl := Except.ok.inj h
  rw [gt_iff_lt, UInt64.lt_iff_toNat_lt, Nat.not_lt] at hmax hfits
  have hsmall : actual.toNat < 2 ^ 34 := Nat.lt_succ_of_le hmax
  have hbytes : (actual * bytesPerGiB).toNat = 2 ^ 30 * actual.toNat :=
    toNat_configGoalSizeToBytes_of_lt hsmall
  rw [hbytes] at hfits
  exact ⟨actual.toNat, rfl, hsmall, hfits, by rw [toNat_sub_of_toNat_le (hbytes ▸ hfits), hbytes]⟩

/-- The whole GiB that a set takes of those that remain. -/
def usedGiB (size : UInt64) (mirrored : Bool) (remainingGiB : ℕ) : ℕ :=
  if size = remainingSize then if mirrored then 2 * (remainingGiB / 2) else remainingGiB
  else if mirrored then 2 * (size.toNat % 2 ^ 34) else size.toNat % 2 ^ 34

/-- What an accepted size leaves.  The doubled size of a mirrored set is taken modulo `2 ^ 64`, so
that a size of `2 ^ 63` GiB more is accepted too. -/
theorem validateInterleaveSetSize_ok {size remaining rest : UInt64} {mirrored : Bool} {k : ℕ}
    (hremaining : remaining.toNat = 2 ^ 30 * k)
    (h : validateInterleaveSetSize size remaining mirrored = .ok rest) :
    usedGiB size mirrored k ≤ k ∧ rest.toNat = 2 ^ 30 * (k - usedGiB size mirrored k) ∧
      (size ≠ remainingSize →
        if mirrored then size.toNat % 2 ^ 63 < 2 ^ 33 else size.toNat < 2 ^ 34) := by
  obtain ⟨actual, hactual, hsmall, hfits, hrest⟩ := validateInterleaveSetSize_fits h
  have hlt := size.toNat_lt
  have hlt' := remaining.toNat_lt
  rw [toNat_getSizeFromCapacity (r := 0) hremaining (by omega)] at hactual
  have hused : actual = usedGiB size mirrored k := by
    unfold usedGiB
    split_ifs at hactual ⊢ <;> omega
  refine ⟨by omega, by omega, fun hsize => ?_⟩
  rw [if_neg hsize] at hactual
  split_ifs at hactual ⊢ <;> omega

section Accepted

variable {goal : ConfigGoal} {capabilities : PlatformCapabilities} {discovery : DeviceDiscovery}

/-- What the checks of an accepted goal have found. -/
theorem validateConfigGoal_success (h : validateConfigGoal goal capabilities discovery = .success) :
    goal.appDirectCount ≤ 2 ∧ getNumberOfMirroredAppDirectInterleaveSets goal ≤ 1 ∧
      ∃ remaining, validateInterleaveSetSize goal.memorySize
          (usableCapacityBytes discovery.capacity) false = .ok remaining ∧
        ∃ rest, validateAppDirectSizes goal.appDirectSets remaining = .ok rest := by
  unfold validateConfigGoal at h
  split_ifs at h with hcount
  split at h
  · next hsupported =>
    split at h
    · next hsize =>
      refine ⟨UInt16.not_lt.mp hcount, ?_, ?_⟩
      · unfold validateConfigGoalSupported at hsupported
        split_ifs at hsupported
        omega
      · unfold validateConfigGoalSize at hsize
        split at hsize
        · next hmemory =>
          cases validateInterleaveSetSize_error (hsize ▸ hmemory)
        · next remaining hmemory =>
          split at hsize
          · next hsets =>
            cases validateAppDirectSizes_error (hsize ▸ hsets)
          · next rest hsets => exact ⟨remaining, hmemory, rest, hsets⟩
    · exact absurd h ‹_›
  · exact absurd h ‹_›

end Accepted

end IxpDimm
