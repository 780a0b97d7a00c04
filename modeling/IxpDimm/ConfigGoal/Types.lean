import IxpDimm.Common.Capacity
import IxpDimm.Common.Text

/-!
# Config goals

The data types of `nvm_types.h` and `nvm_management.h` that describe how the capacity of one DIMM
is to be divided: an interleave format, the attributes of an App Direct interleave set, and the
`config_goal` itself with its memory size and up to two App Direct extents.
-/

namespace IxpDimm

/-- `enum interleave_size`. -/
inductive InterleaveSize
  | none | size64B | size128B | size256B | size4KB | size1GB
  deriving DecidableEq, Repr

/-- `enum interleave_ways`. -/
inductive InterleaveWays
  | ways0 | ways1 | ways2 | ways3 | ways4 | ways6 | ways8 | ways12 | ways16 | ways24
  deriving DecidableEq, Repr

/-- The number an `interleave_ways` constant stands for. -/
def InterleaveWays.count : InterleaveWays → ℕ
  | ways0 => 0 | ways1 => 1 | ways2 => 2 | ways3 => 3 | ways4 => 4
  | ways6 => 6 | ways8 => 8 | ways12 => 12 | ways16 => 16 | ways24 => 24

/-- `struct interleave_format`. -/
structure InterleaveFormat where
  /-- Whether the BIOS recommends the format. -/
  recommended : Bool := false
  /-- Channel interleave size. -/
  channel : InterleaveSize := .none
  /-- Memory controller interleave size. -/
  imc : InterleaveSize := .none
  /-- Number of ways. -/
  ways : InterleaveWays := .ways0
  deriving DecidableEq, Repr

/-- `NVM_MAX_DEVICES_PER_POOL`, the length of `dimms` of `struct app_direct_attributes`. -/
def nvmMaxDevicesPerPool : ℕ := 128

/-- `struct app_direct_attributes`.  The array `dimms` is the list of its leading entries, every
later entry being the empty text. -/
structure AppDirectAttributes where
  /-- The interleave format of the set. -/
  interleave : InterleaveFormat := {}
  /-- Whether the set is mirrored by the memory controller. -/
  mirrored : Bool := false
  /-- The uids of the member DIMMs. -/
  dimms : List Uid := []
  deriving DecidableEq, Repr

/-- `enum config_goal_status`. -/
inductive ConfigGoalStatus
  | unknown | new | success | errBadRequest | errInsufficientResources | errFw | errUnknown
  deriving DecidableEq, Repr

/-- `struct config_goal`; all sizes are in GiB. The default value is the zeroed structure. -/
structure ConfigGoal where
  /-- Memory mode capacity on the DIMM. -/
  memorySize : UInt64 := 0
  /-- Number of App Direct interleave sets. -/
  appDirectCount : UInt16 := 0
  /-- Size of the first App Direct extent on the DIMM. -/
  appDirect1Size : UInt64 := 0
  /-- Interleave set id of the first extent. -/
  appDirect1SetId : UInt16 := 0
  /-- Attributes of the first extent's interleave set. -/
  appDirect1Settings : AppDirectAttributes := {}
  /-- Size of the second App Direct extent on the DIMM. -/
  appDirect2Size : UInt64 := 0
  /-- Interleave set id of the second extent. -/
  appDirect2SetId : UInt16 := 0
  /-- Attributes of the second extent's interleave set. -/
  appDirect2Settings : AppDirectAttributes := {}
  /-- Status of the goal, ignored for input. -/
  status : ConfigGoalStatus := .unknown
  /-- Major version of the namespace labels. -/
  namespaceLabelMajor : UInt16 := 0
  /-- Minor version of the namespace labels. -/
  namespaceLabelMinor : UInt16 := 0
  deriving DecidableEq, Repr

instance : Inhabited ConfigGoal := ⟨{}⟩

/-- The capacity a goal hands out, in GiB and over the exact integers. -/
def ConfigGoal.totalGiB (goal : ConfigGoal) : ℕ :=
  goal.memorySize.toNat + goal.appDirect1Size.toNat + goal.appDirect2Size.toNat

end IxpDimm
