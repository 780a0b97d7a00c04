import IxpDimm.Pool.Types
import IxpDimm.Device.Inventory

/-!
# Making pools

The functions of `pool.c` and `pool_utilities.c` that turn the manageable DIMMs and the interleave
sets of the driver into pools, and the one that counts the pools beforehand.
-/

namespace IxpDimm

open Foundation

/-! ### Macros -/

/-- `KEEP_POOL_HEALTH`. -/
def keepPoolHealth (health newHealth : PoolHealth) : PoolHealth :=
  if newHealth.code > health.code ∨ health = .normal then newHealth else health

/-- `KEEP_INTERLEAVE_HEALTH`. -/
def keepInterleaveHealth (health newHealth : InterleaveSetHealth) : InterleaveSetHealth :=
  if newHealth.code > health.code ∨ health = .normal then newHealth else health

/-- `REDUCE_CAPACITY`. -/
def reduceCapacity (current less : UInt64) : UInt64 :=
  if less ≥ current then 0 else current - less

/-- `device_is_encryption_enabled`. -/
def deviceIsEncryptionEnabled (lockState : LockState) : Bool :=
  lockState ≠ .disabled ∧ lockState ≠ .unknown ∧ lockState ≠ .notSupported

/-! ### Interleave sets of a pool -/

/-- `calculate_iset_free_capacity`. -/
def calculateIsetFreeCapacity (data : PoolData) (driverId : UInt32) (size : UInt64) : UInt64 :=
  data.namespaceList.foldl (fun available ns =>
    if ns.type = .appDirect ∧ ns.interleaveSetid = driverId then
      reduceCapacity available (ns.blockCount * ns.blockSize.toUInt64)
    else available) size

/-- The DIMMs that the inner loop of `nvm_interleave_to_interleave` matches by their handle. -/
def dimmsWithHandle (data : PoolData) (handle : UInt32) : List PoolDimmData :=
  data.dimmList.filter fun dimm => dimm.discovery.deviceHandle = handle

/-- The health that one DIMM of a set leaves the set with. -/
def joinHealth (health : InterleaveSetHealth) (dimm : PoolDimmData) : InterleaveSetHealth :=
  if dimm.status.health = .unknown then keepInterleaveHealth health .unknown
  else if dimm.status.health = .fatal then keepInterleaveHealth health .failed
  else if dimm.status.health ≠ .normal ∧ dimm.status.health ≠ .noncritical then
    keepInterleaveHealth health .degraded
  else health

/-- The body of the inner loop of `nvm_interleave_to_interleave`; the second component is
`iset_settings_filled`. -/
def joinDimm (data : PoolData) (iset : NvmInterleaveSet) (entry : IsetDimm)
    (state : InterleaveSet × Bool) (dimm : PoolDimmData) : InterleaveSet × Bool :=
  let set := state.1
  let secure := dimm.discovery.passphraseCapable
  let filled := data.fillSettings dimm.discovery.deviceHandle entry.regionPda
    (set.setIndex, set.settings)
  let settings := if state.2 then (set.setIndex, set.settings) else filled.2
  ({ set with
      eraseCapable := set.eraseCapable && secure && dimm.discovery.eraseCryptoCapable
      encryption :=
        if secure && deviceIsEncryptionEnabled dimm.discovery.lockState then set.encryption else .off
      health := joinHealth set.health dimm
      mirrored := mirroredInterleave iset.attributes
      setIndex := settings.1
      settings := settings.2
      dimmCount := set.dimmCount + 1 },
    state.2 || filled.1)

/-- One pass of the outer loop of `nvm_interleave_to_interleave`.  The entry `dimms[dimm_idx]` is
written by the last DIMM that matches, and stays empty if there is none. -/
def joinEntry (data : PoolData) (iset : NvmInterleaveSet) (set : InterleaveSet) (entry : IsetDimm) :
    InterleaveSet :=
  let found := dimmsWithHandle data entry.handle
  let set := (found.foldl (joinDimm data iset entry) (set, false)).1
  { set with dimms := set.dimms ++ [(found.getLast?.map fun dimm => dimm.discovery.uid).getD []] }

/-- `nvm_interleave_to_interleave`, into the zeroed next entry of `ilsets`. -/
def nvmInterleaveToInterleave (data : PoolData) (iset : NvmInterleaveSet) : InterleaveSet :=
  let start : InterleaveSet :=
    { driverId := iset.id.toUInt32
      size := iset.size
      availableSize := calculateIsetFreeCapacity data iset.id.toUInt32 iset.size
      socketId := iset.socketId
      health := if iset.dimms = [] then .unknown else .normal
      encryption := if iset.dimms = [] then .off else .on
      eraseCapable := iset.dimms ≠ [] }
  let set := iset.dimms.foldl (joinEntry data iset) start
  if set.dimmCount ≠ iset.dimms.length then
    { set with health := .failed, encryption := .off, eraseCapable := false }
  else set

/-! ### DIMMs of a pool -/

/-- `struct device_free_capacities`. -/
structure DeviceFreeCapacities where
  /-- The free capacity of sets of one DIMM. -/
  appDirectByoneCapacity : UInt64 := 0
  /-- The free capacity of other sets that are not mirrored. -/
  appDirectInterleavedCapacity : UInt64 := 0
  /-- The free capacity of mirrored sets. -/
  appDirectMirroredCapacity : UInt64 := 0
  deriving DecidableEq, Repr

/-- `get_dimm_free_capacities`: the share of a DIMM in the last interleave set of the pool. -/
def getDimmFreeCapacities (uid : Uid) (pool : Pool) : DeviceFreeCapacities :=
  let iset := pool.ilsets.getLastD {}
  if iset.members.any fun member => uidCmp uid member then
    if iset.mirrored then
      { appDirectMirroredCapacity := iset.availableSize / UInt64.ofNat iset.dimmCount }
    else if iset.settings.ways = .ways1 then
      { appDirectByoneCapacity := iset.availableSize }
    else
      { appDirectInterleavedCapacity := iset.availableSize / UInt64.ofNat iset.dimmCount }
  else {}

/-- What the free capacities of a DIMM add to a persistent pool. -/
def addFreeCapacities (pool : Pool) (caps : DeviceFreeCapacities) : UInt64 :=
  match pool.type with
  | .persistent =>
    pool.freeCapacity + (caps.appDirectByoneCapacity + caps.appDirectInterleavedCapacity)
  | .persistentMirror => pool.freeCapacity + caps.appDirectMirroredCapacity
  | _ => pool.freeCapacity

/-- The healths that a new DIMM brings into its pool, in the order of the tests. -/
def dimmHealths (dimm : PoolDimmData) : List PoolHealth :=
  (if dimm.discovery.lockState = .locked ∨ dimm.discovery.lockState = .passphraseLimit then
    [.locked] else []) ++
  (if dimm.goal.status = .new then [.pending] else []) ++
  (if dimm.status.health = .unknown then [.unknown]
    else if (dimm.status.health ≠ .normal ∧ dimm.status.health ≠ .noncritical) ∨
      dimm.status.viralState then [.error] else []) ++
  (if dimm.status.configStatus ≠ .notConfigured ∧ dimm.status.configStatus ≠ .valid then [.error]
    else [])

/-- The capacity that a new DIMM adds to a pool of a type. -/
def dimmCapacity (type : PoolType) (caps : DeviceCapacities) : UInt64 :=
  match type with
  | .volatile => caps.memoryCapacity
  | .persistent => reduceCapacity caps.appDirectCapacity (caps.mirroredAppDirectCapacity * 2)
  | .persistentMirror => caps.mirroredAppDirectCapacity
  | .unknown => 0

/-- The DIMM is in the pool already, as `get_dimm_index_from_pool` finds it. -/
def isInPool (uid : Uid) (pool : Pool) : Bool := pool.dimms.any fun dimm => uidCmp dimm.uid uid

/-- `add_dimm_to_pool`. -/
def addDimmToPool (data : PoolData) (dimm : PoolDimmData) (pool : Pool) : Pool :=
  let uid := dimm.discovery.uid
  let freeCaps := getDimmFreeCapacities uid pool
  if isInPool uid pool then { pool with freeCapacity := addFreeCapacities pool freeCaps }
  else
    let isPersistent := pool.type = .persistent ∨ pool.type = .persistentMirror
    let freeCaps := if data.capabilities.appDirectMode ∧ isPersistent then freeCaps else {}
    let memory := if pool.type = .volatile then dimm.capacities.memoryCapacity else 0
    { pool with
      dimms := pool.dimms ++ [⟨uid, dimm.capacities.capacity, memory⟩]
      capacity := pool.capacity + dimmCapacity pool.type dimm.capacities
      freeCapacity := addFreeCapacities pool freeCaps + memory
      health := (dimmHealths dimm).foldl keepPoolHealth pool.health }

/-! ### Interleave sets into pools -/

/-- Whether the pool can be encrypted, from the first DIMMs of the pool, as many as the set has. -/
def poolEncryptionCapable (data : PoolData) (pool : Pool) (set : InterleaveSet) : Bool :=
  (List.range set.dimmCount).all fun i =>
    match data.dimmList.find? fun dimm =>
        uidCmp ((pool.dimms.map PoolDimm.uid).getD i []) dimm.discovery.uid with
    | none => true
    | some dimm => dimm.discovery.passphraseCapable

/-- `update_pool_security_from_iset`. -/
def updatePoolSecurityFromIset (data : PoolData) (set : InterleaveSet) (pool : Pool) : Pool :=
  if set.availableSize > data.capabilities.minNamespaceSize then
    { pool with
      encryptionEnabled := pool.encryptionEnabled || set.encryption = .on
      eraseCapable := pool.eraseCapable || set.eraseCapable
      encryptionCapable := poolEncryptionCapable data pool set }
  else pool

/-- The health that an interleave set brings into its pool. -/
def setHealths (set : InterleaveSet) : List PoolHealth :=
  if set.health = .unknown then [.unknown]
  else if set.health = .degraded ∨ set.health = .failed then [.error]
  else []

/-- The DIMMs that the loops of `add_interleave_set_to_pool` find by their unique id. -/
def setDimms (data : PoolData) (set : InterleaveSet) : List PoolDimmData :=
  set.members.filterMap fun member =>
    data.dimmList.find? fun dimm => uidCmp dimm.discovery.uid member

/-- `add_interleave_set_to_pool`. -/
def addInterleaveSetToPool (data : PoolData) (iset : NvmInterleaveSet) (pool : Pool) : Pool :=
  let set := nvmInterleaveToInterleave data iset
  let pool := { pool with ilsets := pool.ilsets ++ [set] }
  let pool := (setDimms data set).foldl (fun pool dimm => addDimmToPool data dimm pool) pool
  let pool := { pool with health := (setHealths set).foldl keepPoolHealth pool.health }
  updatePoolSecurityFromIset data set pool

/-- `zero_pool_free_capacity_if_locked`. -/
def zeroPoolFreeCapacityIfLocked (pool : Pool) : Pool :=
  if pool.health = .locked then { pool with freeCapacity := 0 } else pool

/-- `get_pool_index`. -/
def getPoolIndex (socketId : ℤ) (type : PoolType) (pools : List Pool) : Option ℕ :=
  pools.findIdx? fun pool => pool.socketId = socketId ∧ pool.type = type

/-- `init_pool`. -/
def initPool (type : PoolType) (socketId : ℤ) : Pool where
  type := type
  socketId := socketId

/-- The type of the pool of an interleave set. -/
def isetPoolType (iset : NvmInterleaveSet) : PoolType :=
  if mirroredInterleave iset.attributes then .persistentMirror else .persistent

/-- The body of the loop of `add_interleave_sets_to_pools`. -/
def addIsetStep (data : PoolData) (count : UInt8) (state : ReturnCode × List Pool)
    (iset : NvmInterleaveSet) : ReturnCode × List Pool :=
  let add := fun pool => zeroPoolFreeCapacityIfLocked (addInterleaveSetToPool data iset pool)
  let pools := state.2
  match getPoolIndex iset.socketId.toNat (isetPoolType iset) pools with
  | some index => (state.1, pools.modify index add)
  | none =>
    if pools.length ≥ count.toNat then (.errArrayTooSmall, pools)
    else (.success, pools ++ [add (initPool (isetPoolType iset) iset.socketId.toNat)])

/-- `add_interleave_sets_to_pools`. -/
def addInterleaveSetsToPools (data : PoolData) (count : UInt8) (pools : List Pool) :
    ReturnCode × List Pool :=
  data.isetList.foldl (addIsetStep data count) (.success, pools)

/-- `add_dimms_volatile_capacity_to_pools`, from a DIMM of the list on. -/
def addDimmsVolatileCapacityToPools (data : PoolData) (count : UInt8) :
    List PoolDimmData → List Pool → ReturnCode × List Pool
  | [], pools => (.success, pools)
  | dimm :: dimms, pools =>
    let add := fun pool => zeroPoolFreeCapacityIfLocked (addDimmToPool data dimm pool)
    if dimm.capacities.memoryCapacity ≠ 0 then
      match getPoolIndex (-1) .volatile pools with
      | some index => addDimmsVolatileCapacityToPools data count dimms (pools.modify index add)
      | none =>
        if pools.length ≥ count.toNat then (.errArrayTooSmall, pools)
        else
          addDimmsVolatileCapacityToPools data count dimms (pools ++ [add (initPool .volatile (-1))])
    else addDimmsVolatileCapacityToPools data count dimms pools

/-- `populate_pools` with an array of `count` entries: the returned code or number of pools, and the
pools that were made. -/
def populatePools (data : PoolData) (count : UInt8) : Except ReturnCode ℕ × List Pool :=
  let volatile := addDimmsVolatileCapacityToPools data count data.dimmList []
  if volatile.1 = .success then
    if data.capabilities.appDirectMode then
      let all := addInterleaveSetsToPools data count volatile.2
      (if all.1 = .success then .ok all.2.length else .error all.1, all.2)
    else (.ok volatile.2.length, volatile.2)
  else (.error volatile.1, volatile.2)

/-! ### Counting pools -/

/-- `MAX_POOLS`. -/
def maxPools : ℕ := 9

/-- The loop of `count_pools` over the DIMMs: the sockets and types of the pools that are listed. -/
def countVolatile (dimms : List PoolDimmData) : List (ℤ × PoolType) :=
  dimms.foldl (fun listed dimm =>
    if dimm.capacities.memoryCapacity ≠ 0 ∧ (-1, .volatile) ∉ listed then
      listed ++ [(-1, .volatile)]
    else listed) []

/-- The socket and the type of the pool of an interleave set. -/
def isetKey (iset : NvmInterleaveSet) : ℤ × PoolType := (iset.socketId.toNat, isetPoolType iset)

/-- The loop of `count_pools` over the interleave sets: a new pool is written behind those listed so
far, and only then is their number compared with `MAX_POOLS`. -/
def countIsets : List NvmInterleaveSet → List (ℤ × PoolType) → ReturnCode × List (ℤ × PoolType)
  | [], listed => (.success, listed)
  | iset :: isets, listed =>
    if isetKey iset ∈ listed then countIsets isets listed
    else if listed.length + 1 > maxPools then (.errBadPoolHealth, listed ++ [isetKey iset])
    else countIsets isets (listed ++ [isetKey iset])

/-- The entries of `pools_list` that `count_pools` writes, in order, and the code its loops end
with. -/
def listPools (data : PoolData) : ReturnCode × List (ℤ × PoolType) :=
  if data.capabilities.appDirectMode then countIsets data.isetList (countVolatile data.dimmList)
  else (.success, countVolatile data.dimmList)

/-- `count_pools`. -/
def countPools (data : PoolData) : Except ReturnCode ℕ :=
  if (listPools data).1 = .success then .ok (listPools data).2.length else .error (listPools data).1

end IxpDimm
