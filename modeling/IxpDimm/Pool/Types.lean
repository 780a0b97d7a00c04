import IxpDimm.ConfigGoal.Types
import IxpDimm.Device.Capacities
import IxpDimm.Namespace.Labels

/-!
# Pools

The driver reports interleave sets; `pool.c` makes pools of them.  All memory capacity forms one
pool, and the interleave sets of a socket form one pool of the mirrored sets and one of the others.
This module has the data that the pools are made from and the pools themselves.
-/

namespace IxpDimm

/-! ### Enumerations -/

/-- `enum pool_type`. -/
inductive PoolType
  | unknown | persistent | volatile | persistentMirror
  deriving DecidableEq, Repr

/-- `enum pool_health`. -/
inductive PoolHealth
  | unknown | normal | pending | error | locked
  deriving DecidableEq, Repr

/-- The number of a `pool_health` constant. -/
def PoolHealth.code : PoolHealth → ℕ
  | unknown => 0 | normal => 1 | pending => 2 | error => 3 | locked => 4

/-- `enum interleave_set_health`. -/
inductive InterleaveSetHealth
  | unknown | normal | degraded | failed
  deriving DecidableEq, Repr

/-- The number of an `interleave_set_health` constant. -/
def InterleaveSetHealth.code : InterleaveSetHealth → ℕ
  | unknown => 0 | normal => 1 | degraded => 2 | failed => 3

/-- `enum lock_state`. -/
inductive LockState
  | unknown | disabled | unlocked | locked | frozen | passphraseLimit | notSupported
  deriving DecidableEq, Repr

/-- `enum device_health`. -/
inductive DeviceHealth
  | unknown | normal | noncritical | critical | fatal
  deriving DecidableEq, Repr

/-- `enum config_status`. -/
inductive ConfigStatus
  | notConfigured | valid | errCorrupt | errBrokenInterleave | errReverted | errNotSupported
  | unknown
  deriving DecidableEq, Repr

/-- `enum encryption_status`. -/
inductive EncryptionStatus
  | off | on | ignore
  deriving DecidableEq, Repr

/-! ### What pools are made from -/

/-- `struct device_discovery` with the security fields that the pools and the namespaces read. -/
structure SecureDiscovery extends DeviceDiscovery where
  /-- The lock state. -/
  lockState : LockState := .disabled
  /-- `security_capabilities.passphrase_capable`. -/
  passphraseCapable : Bool := false
  /-- `security_capabilities.erase_crypto_capable`. -/
  eraseCryptoCapable : Bool := false
  deriving DecidableEq, Repr

/-- What the pools read of `struct device_status`. -/
structure DeviceStatus where
  /-- The health of the device. -/
  health : DeviceHealth := .normal
  /-- Whether the device is in viral state. -/
  viralState : Bool := false
  /-- The status of its configuration. -/
  configStatus : ConfigStatus := .valid
  deriving DecidableEq, Repr

/-- One entry of `dimm_list`, `dimm_capacities_list`, `dimm_status_list` and `dimm_goal_list`. -/
structure PoolDimmData where
  /-- The discovery information. -/
  discovery : SecureDiscovery := {}
  /-- The capacities. -/
  capacities : DeviceCapacities := {}
  /-- The status. -/
  status : DeviceStatus := {}
  /-- The config goal. -/
  goal : ConfigGoal := {}
  deriving DecidableEq, Repr

/-- `struct pool_data`.  The manageable DIMMs are one list of the entries of the parallel arrays. -/
structure PoolData where
  /-- The system capabilities. -/
  capabilities : NvmCapabilities
  /-- The manageable DIMMs. -/
  dimmList : List PoolDimmData
  /-- The interleave sets of the driver. -/
  isetList : List NvmInterleaveSet
  /-- The namespaces. -/
  namespaceList : List NvmNamespaceDetails
  /-- `fill_interleave_set_settings_and_id_from_dimm`: whether the platform config data of the DIMM
  has the set at the given address, and what becomes of the index and the settings. -/
  fillSettings : UInt32 → UInt64 → UInt32 × InterleaveFormat → Bool × (UInt32 × InterleaveFormat)

/-! ### Pools -/

/-- `struct interleave_set` of `nvm_management.h`.  The array `dimms` is the list of its leading
entries, every later entry being the empty text; `dimmCount` may be smaller or larger. -/
structure InterleaveSet where
  /-- The identifier from the platform config data. -/
  setIndex : UInt32 := 0
  /-- The identifier from the driver. -/
  driverId : UInt32 := 0
  /-- The size. -/
  size : UInt64 := 0
  /-- The free size. -/
  availableSize : UInt64 := 0
  /-- The interleave format. -/
  settings : InterleaveFormat := {}
  /-- The socket. -/
  socketId : UInt8 := 0
  /-- `dimm_count`. -/
  dimmCount : ℕ := 0
  /-- `dimms`. -/
  dimms : List Uid := []
  /-- Whether the set is mirrored. -/
  mirrored : Bool := false
  /-- The health. -/
  health : InterleaveSetHealth := .unknown
  /-- Whether all its DIMMs are encrypted. -/
  encryption : EncryptionStatus := .off
  /-- Whether all its DIMMs can be erased. -/
  eraseCapable : Bool := false
  deriving DecidableEq, Repr

/-- The entries `dimms[0]`, …, `dimms[dimm_count - 1]` that every loop over a set reads. -/
def InterleaveSet.members (set : InterleaveSet) : List Uid :=
  (List.range set.dimmCount).map fun i => set.dimms.getD i []

/-- One entry of `dimms`, `raw_capacities` and `memory_capacities` of a pool. -/
structure PoolDimm where
  /-- The unique id. -/
  uid : Uid
  /-- The raw capacity. -/
  rawCapacity : UInt64
  /-- The memory capacity, which only the volatile pool fills in. -/
  memoryCapacity : UInt64
  deriving DecidableEq, Repr

/-- `struct pool`, without its unique id. -/
structure Pool where
  /-- The type. -/
  type : PoolType
  /-- The socket, `-1` for the volatile pool. -/
  socketId : ℤ
  /-- The size. -/
  capacity : UInt64 := 0
  /-- The free size. -/
  freeCapacity : UInt64 := 0
  /-- The DIMMs. -/
  dimms : List PoolDimm := []
  /-- The interleave sets. -/
  ilsets : List InterleaveSet := []
  /-- The health. -/
  health : PoolHealth := .normal
  /-- Whether a namespace could be on encrypted DIMMs only. -/
  encryptionEnabled : Bool := false
  /-- Whether a namespace could be on DIMMs only that support encryption. -/
  encryptionCapable : Bool := false
  /-- Whether a namespace could be on DIMMs only that can be erased. -/
  eraseCapable : Bool := false
  deriving DecidableEq, Repr

/-- What a pool is looked up by. -/
def Pool.key (pool : Pool) : ℤ × PoolType := (pool.socketId, pool.type)

end IxpDimm
