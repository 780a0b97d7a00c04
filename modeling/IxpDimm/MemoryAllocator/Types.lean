import Mathlib.Logic.Function.Basic
import IxpDimm.Common.ReturnCode
import IxpDimm.ConfigGoal.Types

/-!
# Requests, layouts and the library behind the allocator

The types of `MemoryAllocationTypes.h` and `MemoryAllocationRequest.h`, and what the layout steps
read from outside: the system capabilities, the details of the installed devices and the answers of
the native library.

The goals of a layout are a `std::map` from DIMM uids.  The map is kept as the list of its keys
together with the goal of every uid; indexing it at a uid that is not a key yields a zeroed goal,
as `operator[]` does, and the steps only ever index it with uids of the request.
-/

namespace IxpDimm

/-- `struct Dimm` of a request. -/
structure Dimm where
  /-- Unique id. -/
  uid : Uid
  /-- Capacity in bytes. -/
  capacityBytes : UInt64
  /-- Socket id. -/
  socket : UInt16
  /-- Memory controller id within the socket. -/
  memoryController : UInt16
  /-- Memory channel id within the socket. -/
  channel : UInt32
  deriving DecidableEq, Repr

/-- `struct AppDirectExtent`. -/
structure AppDirectExtent where
  /-- Requested App Direct capacity in GiB. -/
  capacityGiB : UInt64 := 0
  /-- Whether the extent is to be mirrored. -/
  mirrored : Bool := false
  /-- Whether the extent is not to be interleaved. -/
  byOne : Bool := false
  /-- Requested channel interleave size, `-1` for the default. -/
  channel : Int := -1
  /-- Requested memory controller interleave size, `-1` for the default. -/
  imc : Int := -1
  deriving DecidableEq, Repr

/-- `class MemoryAllocationRequest`. -/
structure MemoryAllocationRequest where
  /-- Requested memory mode capacity in GiB. -/
  memoryModeCapacityGiB : UInt64 := 0
  /-- Requested App Direct extent. -/
  appDirectExtent : AppDirectExtent := {}
  /-- Capacity to leave unallocated, in GiB. -/
  reservedCapacityGiB : UInt64 := 0
  /-- The requested DIMMs. -/
  dimms : List Dimm := []
  deriving Repr

namespace MemoryAllocationRequest

/-- `getAppDirectCapacityGiB`. -/
def appDirectCapacityGiB (request : MemoryAllocationRequest) : UInt64 :=
  request.appDirectExtent.capacityGiB

/-- `getNonReservedDimms`: no requested DIMM is reserved any more, so all of them. -/
def nonReservedDimms (request : MemoryAllocationRequest) : List Dimm := request.dimms

/-- `getTotalAlignedDimmCapacityInGiB`. -/
def totalAlignedDimmCapacityInGiB (request : MemoryAllocationRequest) : UInt64 :=
  bToGiB (request.dimms.foldl (fun capacity dimm =>
    capacity + usableCapacityBytes dimm.capacityBytes) 0)

end MemoryAllocationRequest

/-- `enum LayoutWarningCode`, the codes the layout steps raise. -/
inductive LayoutWarningCode
  | appDirectNotSupportedByDriver
  | appDirectSettingsNotRecommended
  | nonoptimalPopulation
  | requestedMemoryModeNotUsable
  | goalAdjustedMoreThan10Percent
  | skuMappedMemoryLimited
  deriving DecidableEq, Repr

/-- The goals under construction, by DIMM uid. -/
abbrev Goals := Uid → ConfigGoal

/-- `struct MemoryAllocationLayout`. -/
structure MemoryAllocationLayout where
  /-- Total memory mode capacity laid out, in GiB. -/
  memoryCapacity : UInt64 := 0
  /-- Total App Direct capacity laid out, in GiB. -/
  appDirectCapacity : UInt64 := 0
  /-- Capacity left on the requested DIMMs, in GiB. -/
  remainingCapacity : UInt64 := 0
  /-- The keys of the goal map. -/
  goalUids : List Uid := []
  /-- The goals of the map. -/
  goals : Goals := fun _ => {}
  /-- Warnings raised so far. -/
  warnings : List LayoutWarningCode := []

/-- The exceptions that leave a layout step.  `LayoutBuilder::build` swallows the two bad request
sizes; `nonTermination` is not one of the source's, it stands for a loop whose bound in this model
ran out. -/
inductive LayoutException
  /-- `NvmExceptionBadRequestSize`. -/
  | badRequestSize
  /-- `NvmExceptionBadRequestMemorySize`, a subclass of the former. -/
  | badRequestMemorySize
  /-- `LibraryException` with its error code. -/
  | library (code : ReturnCode)
  /-- `InterleaveableDimmSetBuilder::InvalidDimmsException`. -/
  | invalidDimms
  /-- `InvalidArgumentException`. -/
  | invalidArgument
  /-- The loop did not leave within its bound. -/
  | nonTermination
  deriving DecidableEq, Repr

/-- Whether an exception is a `NvmExceptionBadRequestSize`. -/
def LayoutException.isBadRequestSize : LayoutException → Bool
  | .badRequestSize | .badRequestMemorySize => true
  | _ => false

/-- Whether an exception of the source ends the build. -/
def LayoutException.endsBuild : LayoutException → Bool
  | .library _ | .invalidDimms | .invalidArgument => true
  | _ => false

/-- `enum volatile_mode`. -/
inductive VolatileMode
  | oneLM | memory | auto | unknown
  deriving DecidableEq, Repr

/-- What the layout steps read of `struct nvm_capabilities`. -/
structure SystemCapabilities where
  /-- `nvm_features.app_direct_mode`. -/
  appDirectMode : Bool
  /-- `platform_capabilities.app_direct_mode.interleave_formats`, the counted entries. -/
  interleaveFormats : List InterleaveFormat
  /-- `platform_capabilities.current_volatile_mode`. -/
  currentVolatileMode : VolatileMode

/-- What the mapped memory limit reads of `struct device_details`. -/
structure DeviceDetails where
  /-- `discovery.socket_id`. -/
  socketId : UInt16
  /-- `capacities.memory_capacity`, in bytes. -/
  memoryCapacity : UInt64
  /-- `capacities.app_direct_capacity`, in bytes. -/
  appDirectCapacity : UInt64
  /-- `status.is_configured`. -/
  isConfigured : Bool

/-- What the mapped memory limit reads of `struct socket`; all capacities in bytes. -/
structure Socket where
  /-- `mapped_memory_limit`. -/
  mappedMemoryLimit : UInt64
  /-- `total_mapped_memory`. -/
  totalMappedMemory : UInt64
  /-- `total_2lm_ddr_cache_memory`. -/
  total2LmDdrCacheMemory : UInt64
  /-- `is_capacity_skuing_supported`. -/
  isCapacitySkuingSupported : Bool

/-- The answers of the native library (`NvmLibrary`, `DeviceService`) and of the configuration
database to the calls the layout steps make. -/
structure NvmLibrary where
  /-- `getPools`: the `set_index` of the interleave sets of every pool. -/
  getPools : Except ReturnCode (List (List UInt32))
  /-- `DeviceService::getManageableUids`. -/
  getManageableUids : Except ReturnCode (List Uid)
  /-- `getConfigGoal`. -/
  getConfigGoal : Uid → Except ReturnCode ConfigGoal
  /-- `getNvmCapabilities`. -/
  getNvmCapabilities : Except ReturnCode SystemCapabilities
  /-- `getSocket`. -/
  getSocket : UInt16 → Except ReturnCode Socket
  /-- `get_config_value(SQL_KEY_APPDIRECT_GRANULARITY)`, `none` when it fails. -/
  appDirectGranularity : Option (List Char)

/-- The state of a `LayoutBuilder`. -/
structure LayoutBuilder where
  /-- `m_systemCapabilities`. -/
  systemCapabilities : SystemCapabilities
  /-- `m_nvmLib`. -/
  nvmLib : NvmLibrary
  /-- `m_deviceDetailsList`. -/
  deviceDetailsList : List DeviceDetails
  /-- `m_namespaceLabelMajor`. -/
  namespaceLabelMajor : UInt16
  /-- `m_namespaceLabelMinor`. -/
  namespaceLabelMinor : UInt16

/-- A program that builds a layout and may leave by an exception. -/
abbrev LayoutM := EStateM LayoutException MemoryAllocationLayout

/-- Replace the goal of one DIMM. -/
def MemoryAllocationLayout.setGoal (layout : MemoryAllocationLayout) (uid : Uid)
    (goal : ConfigGoal) : MemoryAllocationLayout :=
  { layout with goals := Function.update layout.goals uid goal }

end IxpDimm
