import IxpDimm.Foundation.Load
import IxpDimm.Namespace.KeptPools
import IxpDimm.Namespace.Modification

/-!
# Namespaces and the room of their interleave sets

The calls that create, resize and delete namespaces, as steps of a system that has the platform and
the library context.  The driver makes the changes that it is asked for, or refuses them; that there
is room for a namespace is checked by the library only.

What is taken of an interleave set is the load of the list of namespaces (`takenOf`), and `RoomKept`
says that it is not more than there is.  A call keeps that, if the pools that it reads are those of the
platform (`keepsRoom_nvmCreateNamespace`, `keepsRoom_nvmModifyNamespaceBlockCount`,
`keepsRoom_nvmDeleteNamespace`).
-/

namespace IxpDimm

open Foundation

/-! ### The calls -/

/-- The namespaces of the platform are changed. -/
def PoolData.changeNamespaces (data : PoolData)
    (f : List NvmNamespaceDetails → List NvmNamespaceDetails) : PoolData :=
  { data with namespaceList := f data.namespaceList }

/-- The namespace has the unique id. -/
def hasNamespaceUid (uid : Uid) (ns : NvmNamespaceDetails) : Bool := uidCmp uid ns.namespaceUid

/-- The namespace that the driver makes when it is asked for one; an identifier that was never
assigned is anything. -/
def CallAnswers.made (answers : CallAnswers) (asked : NvmNamespaceCreateSettings) :
    NvmNamespaceDetails :=
  { answers.created with
    blockSize := asked.blockSize.toUInt32
    blockCount := asked.blockCount
    type := asked.type
    enabled := asked.enabled
    btt := asked.btt
    interleaveSetid := asked.interleaveSetid.getD answers.created.interleaveSetid
    memoryPageAllocation := some asked.memoryPageAllocation }

namespace LibraryState

variable (answers : CallAnswers) (s : LibraryState)

/-- What the creation of a namespace asks of the system. -/
def system : NamespaceSystem where
  callerPermitted := answers.callerPermitted
  supportedDriverAvailable := answers.supportedDriverAvailable
  getNvmCapabilities := answers.getNvmCapabilities
  getPool := s.nvmGetPool answers
  namespacesRead := answers.namespacesRead
  discover := answers.discover
  names := answers.names

/-- The platform is changed, if the driver does what it is asked for. -/
def askDriver (f : List NvmNamespaceDetails → List NvmNamespaceDetails) :
    ReturnCode × LibraryState :=
  if answers.driver = .success then (.success, { s with data := s.data.changeNamespaces f })
  else (answers.driver, s)

/-- `nvm_create_namespace`; none for a division by zero. -/
def nvmCreateNamespace (poolUid : Uid) (settings : NamespaceCreateSettings)
    (format : Option InterleaveFormat) (allowAdjustment : Bool) :
    Option (ReturnCode × LibraryState) :=
  ((s.system answers).settingsToCreate poolUid settings format allowAdjustment).map fun
    | .error rc => (rc, s)
    | .ok asked => askDriver answers s (· ++ [answers.made asked])

/-- `nvm_get_namespace_details`. -/
def nvmGetNamespaceDetails (uid : Uid) : Except ReturnCode NamespaceDetails × LibraryState :=
  if !answers.callerPermitted then (.error .errInvalidPermissions, s)
  else if !answers.supportedDriverAvailable then (.error .errBadDriver, s)
  else if isNvmFeatureLicensed answers.getNvmCapabilities NamespaceFeatures.getNamespaceDetails ≠
      .success then
    (.error (isNvmFeatureLicensed answers.getNvmCapabilities
      NamespaceFeatures.getNamespaceDetails), s)
  else
    match s.context.bind fun _ => answers.contextDetails uid with
    | some details => (.ok details, s)
    | none =>
      match s.data.namespaceList.find? (hasNamespaceUid uid) with
      | none => (.error .errBadNamespace, s)
      | some ns =>
        match s.getPoolFromNamespaceDetails answers ns.interleaveSetid with
        | (.error rc, s') => (.error rc, s')
        | (.ok pool, s') =>
          if ns.type = .appDirect ∧ ¬ hasIlset ns.interleaveSetid pool then
            (.error .errDriverFailed, s')
          else (.ok ⟨answers.uidOf pool, ns.blockCount, ns.type, ns.interleaveSetid⟩, s')

/-- `dimms_are_locked`. -/
def dimmsAreLocked (details : NamespaceDetails) : Except ReturnCode Bool :=
  if details.type = .appDirect then
    match s.nvmGetPool answers details.poolUid with
    | .error rc => .error rc
    | .ok pool =>
      match pool.ilsets.find? fun set => set.driverId = details.interleaveSetid with
      | none => .ok true
      | some set => .ok (interleaveSetHasLockedDimms answers.discover set)
  else .error .errBadNamespaceType

/-- `validate_namespace_block_count`: the block count that is left if it succeeds; none for a division
by zero. -/
def validateNamespaceBlockCount (uid : Uid) (blockCount : UInt64) (allowAdjustment : Bool) :
    Option (Except ReturnCode UInt64) × LibraryState :=
  match s.data.namespaceList.find? (hasNamespaceUid uid) with
  | none => (some (.error .errBadNamespace), s)
  | some ns =>
    match s.getPoolFromNamespaceDetails answers ns.interleaveSetid with
    | (.error rc, s') => (some (.error rc), s')
    | (.ok pool, s') =>
      ((validateNamespaceSizeForModification pool blockCount ns
        (answers.getNvmCapabilities.map NamespaceCapabilities.caps) allowAdjustment).map
          fun result => if result.1 = .success then .ok result.2 else .error result.1, s')

/-- What `nvm_modify_namespace_block_count` checks between the details and the new block count. -/
def mayResize (details : NamespaceDetails) (blockCount : UInt64) : ReturnCode :=
  if details.blockCount < blockCount ∧
      isNvmFeatureLicensed answers.getNvmCapabilities NamespaceFeatures.growNamespace ≠ .success then
    isNvmFeatureLicensed answers.getNvmCapabilities NamespaceFeatures.growNamespace
  else if details.blockCount > blockCount ∧
      isNvmFeatureLicensed answers.getNvmCapabilities NamespaceFeatures.shrinkNamespace ≠
        .success then
    isNvmFeatureLicensed answers.getNvmCapabilities NamespaceFeatures.shrinkNamespace
  else
    match s.nvmGetPool answers details.poolUid with
    | .error rc => rc
    | .ok pool => translatePoolHealthToNvmError pool

/-- The driver is asked for a block count that has been validated, unless the DIMMs are locked. -/
def resizeUnlocked (details : NamespaceDetails) (uid : Uid) (count : UInt64) :
    ReturnCode × LibraryState :=
  match s.dimmsAreLocked answers details with
  | .error rc => (rc, s)
  | .ok true => (.errBadSecurityState, s)
  | .ok false =>
    askDriver answers s (modifyFirst (hasNamespaceUid uid) fun ns => { ns with blockCount := count })

/-- `nvm_modify_namespace_block_count`; none for a division by zero. -/
def nvmModifyNamespaceBlockCount (uid : Uid) (blockCount : UInt64) (allowAdjustment : Bool) :
    Option (ReturnCode × LibraryState) :=
  if !answers.callerPermitted then some (.errInvalidPermissions, s)
  else if !answers.supportedDriverAvailable then some (.errBadDriver, s)
  else if blockCount = 0 then some (.errBadSize, s)
  else
    match s.nvmGetNamespaceDetails answers uid with
    | (.error rc, s') => some (rc, s')
    | (.ok details, s') =>
      if s'.mayResize answers details blockCount ≠ .success then
        some (s'.mayResize answers details blockCount, s')
      else
        match s'.validateNamespaceBlockCount answers uid blockCount allowAdjustment with
        | (none, _) => none
        | (some (.error rc), s'') => some (rc, s'')
        | (some (.ok count), s'') => some (s''.resizeUnlocked answers details uid count)

/-- `nvm_delete_namespace`. -/
def nvmDeleteNamespace (uid : Uid) : ReturnCode × LibraryState :=
  if !answers.callerPermitted then (.errInvalidPermissions, s)
  else if !answers.supportedDriverAvailable then (.errBadDriver, s)
  else if isNvmFeatureLicensed answers.getNvmCapabilities NamespaceFeatures.deleteNamespace ≠
      .success then
    (isNvmFeatureLicensed answers.getNvmCapabilities NamespaceFeatures.deleteNamespace, s)
  else
    match s.nvmGetNamespaceDetails answers uid with
    | (.error rc, s') => (rc, s')
    | (.ok _, s') => askDriver answers s' (List.eraseP (hasNamespaceUid uid))

end LibraryState

/-! ### Runs -/

/-- A call. -/
inductive NamespaceCommand
  | createContext
  | freeContext (force : Bool)
  | getPools (count : UInt8)
  | getNamespaceDetails (uid : Uid)
  | createNamespace (poolUid : Uid) (settings : NamespaceCreateSettings)
      (format : Option InterleaveFormat) (allowAdjustment : Bool)
  | modifyBlockCount (uid : Uid) (blockCount : UInt64) (allowAdjustment : Bool)
  | deleteNamespace (uid : Uid)

namespace LibraryState

/-- One call, with what the system answers; none for a division by zero. -/
def step (s : LibraryState) (call : CallAnswers × NamespaceCommand) : Option LibraryState :=
  match call.2 with
  | .createContext => some s.nvmCreateContext
  | .freeContext force => some (s.nvmFreeContext force)
  | .getPools count => some (s.nvmGetPools call.1 count).2
  | .getNamespaceDetails uid => some (s.nvmGetNamespaceDetails call.1 uid).2
  | .createNamespace poolUid settings format allowAdjustment =>
    (s.nvmCreateNamespace call.1 poolUid settings format allowAdjustment).map Prod.snd
  | .modifyBlockCount uid blockCount allowAdjustment =>
    (s.nvmModifyNamespaceBlockCount call.1 uid blockCount allowAdjustment).map Prod.snd
  | .deleteNamespace uid => some (s.nvmDeleteNamespace call.1 uid).2

/-- Calls one after the other. -/
def run (s : LibraryState) (calls : List (CallAnswers × NamespaceCommand)) :
    Option LibraryState :=
  calls.foldlM step s

end LibraryState

/-! ### What is taken of an interleave set -/

/-- What the namespaces of an interleave set take of it. -/
def takenOf (data : PoolData) (iset : NvmInterleaveSet) : ℕ :=
  load (isNamespaceOf iset) (fun ns => ns.blockCount.toNat * ns.blockSize.toNat) data.namespaceList

/-- The namespaces have blocks of one byte, as `validate_ns_size_for_creation` wants, and no
interleave set has more taken of it than there is. -/
structure RoomKept (data : PoolData) : Prop where
  /-- The interleave sets are told apart. -/
  ids : (data.isetList.map NvmInterleaveSet.id).Nodup
  /-- Blocks are of one byte. -/
  bytes : ∀ ns ∈ data.namespaceList, ns.blockSize = 1
  /-- No more is taken than there is. -/
  fits : ∀ iset ∈ data.isetList, takenOf data iset ≤ iset.size.toNat

section Room

variable {data : PoolData}

/-- What a namespace takes that is added. -/
theorem takenOf_append (data : PoolData) (ns : NvmNamespaceDetails)
    (iset : NvmInterleaveSet) : takenOf (data.changeNamespaces (· ++ [ns])) iset = takenOf data iset +
      loadOf (isNamespaceOf iset) (fun ns => ns.blockCount.toNat * ns.blockSize.toNat) ns :=
  load_append_singleton _ _

/-- A namespace with blocks of one byte takes as many as it has. -/
theorem loadOf_of_isNamespaceOf {iset : NvmInterleaveSet} {ns : NvmNamespaceDetails}
    (hns : isNamespaceOf iset ns = true) (hbyte : ns.blockSize = 1) :
    loadOf (isNamespaceOf iset) (fun ns => ns.blockCount.toNat * ns.blockSize.toNat) ns =
      ns.blockCount.toNat := by
  rw [loadOf, if_pos hns, hbyte]
  exact Nat.mul_one _

/-- Over blocks of one byte, what is taken is what `calculate_iset_free_capacity` subtracts. -/
private theorem RoomKept.freeSize_eq (h : RoomKept data) (iset : NvmInterleaveSet) :
    freeSize data iset = iset.size.toNat - takenOf data iset := by
  rw [freeSize, usedSize, takenOf]
  congr 1
  refine load_congr fun ns hns _ => ?_
  rw [h.bytes ns hns]
  have hone : ns.blockCount * UInt32.toUInt64 1 = ns.blockCount := UInt64.mul_one _
  rw [hone]
  exact (Nat.mul_one _).symm

/-- A namespace is on one interleave set only. -/
private theorem RoomKept.eq_of_isNamespaceOf (h : RoomKept data) {iset iset' : NvmInterleaveSet}
    (hmem : iset ∈ data.isetList) (hmem' : iset' ∈ data.isetList) {ns : NvmNamespaceDetails}
    (hns : isNamespaceOf iset ns = true) (hid : ns.interleaveSetid = iset'.id.toUInt32) :
    iset = iset' := by
  refine List.inj_on_of_nodup_map h.ids hmem hmem' ?_
  have hsame : iset.id.toUInt32 = iset'.id.toUInt32 := (of_decide_eq_true hns).2.symm.trans hid
  have hnat := congrArg UInt32.toNat hsame
  rw [UInt8.toNat_toUInt32, UInt8.toNat_toUInt32] at hnat
  exact UInt8.toNat_inj.mp hnat

/-- A namespace that the free size of its interleave set has room for. -/
private theorem RoomKept.append (h : RoomKept data) {ns : NvmNamespaceDetails}
    (hbyte : ns.blockSize = 1) {iset : NvmInterleaveSet} (hmem : iset ∈ data.isetList)
    (hid : ns.interleaveSetid = iset.id.toUInt32)
    (hroom : ns.blockCount.toNat ≤ freeSize data iset) :
    RoomKept (data.changeNamespaces (· ++ [ns])) := by
  refine ⟨h.ids, ?_, fun iset' hmem' => ?_⟩
  · intro other hother
    rcases List.mem_append.mp hother with hold | hnew
    · exact h.bytes other hold
    · rw [List.mem_singleton.mp hnew]
      exact hbyte
  · have hfits := h.fits iset' hmem'
    rw [takenOf_append]
    by_cases hns : isNamespaceOf iset' ns = true
    · obtain rfl := h.eq_of_isNamespaceOf hmem' hmem hns hid
      rw [h.freeSize_eq] at hroom
      rw [loadOf_of_isNamespaceOf hns hbyte]
      change takenOf data iset' + ns.blockCount.toNat ≤ iset'.size.toNat
      omega
    · rw [loadOf, if_neg hns]
      exact hfits

/-- A namespace with another block count, that the free size of its interleave set has room for beside
the old one. -/
private theorem RoomKept.resize (h : RoomKept data) {q : NvmNamespaceDetails → Bool}
    {ns : NvmNamespaceDetails} (hfind : data.namespaceList.find? q = some ns) {count : UInt64}
    (hroom : count.toNat ≤ ns.blockCount.toNat ∨ ∃ iset ∈ data.isetList,
      ns.interleaveSetid = iset.id.toUInt32 ∧
        count.toNat ≤ ns.blockCount.toNat + freeSize data iset) :
    RoomKept (data.changeNamespaces (modifyFirst q fun ns => { ns with blockCount := count })) := by
  have hbyte := h.bytes ns (List.mem_of_find?_eq_some hfind)
  refine ⟨h.ids, forall_mem_modifyFirst h.bytes fun other hother => h.bytes other hother,
    fun iset hmem => ?_⟩
  have hfits := h.fits iset hmem
  have hload : takenOf (data.changeNamespaces (modifyFirst q fun ns =>
      { ns with blockCount := count })) iset +
        loadOf (isNamespaceOf iset) (fun ns => ns.blockCount.toNat * ns.blockSize.toNat) ns =
      takenOf data iset +
        if isNamespaceOf iset ns then count.toNat * ns.blockSize.toNat else 0 :=
    load_modifyFirst hfind
  rw [loadOf, hbyte] at hload
  by_cases hns : isNamespaceOf iset ns = true
  · rw [if_pos hns, if_pos hns, UInt32.toNat_one, Nat.mul_one, Nat.mul_one] at hload
    rcases hroom with hless | ⟨iset', hmem', hid, hroom⟩
    · omega
    · obtain rfl := h.eq_of_isNamespaceOf hmem hmem' hns hid
      rw [h.freeSize_eq] at hroom
      omega
  · rw [if_neg hns, if_neg hns] at hload
    omega

/-- A namespace that is removed. -/
private theorem RoomKept.remove (h : RoomKept data) (q : NvmNamespaceDetails → Bool) :
    RoomKept (data.changeNamespaces (List.eraseP q)) :=
  ⟨h.ids, fun ns hns => h.bytes ns (List.mem_of_mem_eraseP hns),
    fun iset hmem => (load_eraseP_le q data.namespaceList).trans (h.fits iset hmem)⟩

end Room

/-! ### The interleave sets of a pool -/

section Pools

variable {data : PoolData}

/-- Converting a set keeps its identifier. -/
private theorem driverId_nvmInterleaveToInterleave (iset : NvmInterleaveSet) :
    (nvmInterleaveToInterleave data iset).driverId = iset.id.toUInt32 := by
  have hdimm : ∀ (entry : IsetDimm) (found : List PoolDimmData) (state : InterleaveSet × Bool),
      (found.foldl (joinDimm data iset entry) state).1.driverId = state.1.driverId := by
    intro entry found
    induction found with
    | nil => exact fun _ => rfl
    | cons dimm found ih => exact fun state => ih (joinDimm data iset entry state dimm)
  have hentry : ∀ (entries : List IsetDimm) (set : InterleaveSet),
      (entries.foldl (joinEntry data iset) set).driverId = set.driverId := by
    intro entries
    induction entries with
    | nil => exact fun _ => rfl
    | cons entry entries ih =>
      exact fun set => (ih (joinEntry data iset set entry)).trans (hdimm entry _ (set, false))
  rcases nvmInterleaveToInterleave_eq data iset with h | h
  · rw [h]
    exact hentry iset.dimms _
  · rw [h]
    exact hentry iset.dimms _

/-- Entering an interleave set adds it to those of the pool. -/
private theorem ilsets_enterIset (iset : NvmInterleaveSet) (pool : Pool) :
    (enterIset data iset pool).ilsets = pool.ilsets ++ [nvmInterleaveToInterleave data iset] := by
  have hdimms : ∀ (dimms : List PoolDimmData) (pool : Pool),
      (dimms.foldl (fun pool dimm => addDimmToPool data dimm pool) pool).ilsets = pool.ilsets := by
    intro dimms
    induction dimms with
    | nil => exact fun _ => rfl
    | cons dimm dimms ih => exact fun pool => (ih _).trans (ilsets_addDimmToPool data dimm pool)
  rw [enterIset, zeroPoolFreeCapacityIfLocked_eq, addInterleaveSetToPool]
  dsimp only
  obtain ⟨enabled, capable, erase, hsecurity⟩ := updatePoolSecurityFromIset_eq data
    (nvmInterleaveToInterleave data iset) _
  rw [hsecurity]
  exact hdimms _ _

/-- The interleave sets of a pool are those of the platform with its socket and type. -/
private theorem ilsets_of_mem_populated {pool : Pool} (h : pool ∈ populated data) :
    pool.ilsets = [] ∨
      pool.ilsets = (isetsAt data pool.key).map (nvmInterleaveToInterleave data) := by
  have hat : poolAt pool.key (populated data) = some pool :=
    find?_eq_some_of_mem (keys_populated data).1 h
  have hisets : ∀ (isets : List NvmInterleaveSet) (pool : Pool),
      (isets.foldl (fun pool iset => enterIset data iset pool) pool).ilsets =
        pool.ilsets ++ isets.map (nvmInterleaveToInterleave data) := by
    intro isets
    induction isets with
    | nil => exact fun pool => (List.append_nil _).symm
    | cons iset isets ih =>
      intro pool
      rw [List.foldl_cons, ih, ilsets_enterIset, List.map_cons, List.append_assoc]
      rfl
  have hdimms : ∀ (dimms : List PoolDimmData) (pool : Pool),
      (dimms.foldl (fun pool dimm => enterDimm data dimm pool) pool).ilsets = pool.ilsets := by
    intro dimms
    induction dimms with
    | nil => exact fun _ => rfl
    | cons dimm dimms ih =>
      intro pool
      rw [List.foldl_cons, ih, enterDimm, zeroPoolFreeCapacityIfLocked_eq]
      exact ilsets_addDimmToPool data dimm pool
  by_cases hkey : pool.key.2.IsPersistent
  · rw [poolAt_populated hkey] at hat
    split_ifs at hat
    right
    have hpool := congrArg Pool.ilsets (Option.some.inj hat)
    rw [hisets] at hpool
    exact hpool.symm
  · rw [poolAt_populated_of_not hkey] at hat
    split_ifs at hat
    left
    have hpool := congrArg Pool.ilsets (Option.some.inj hat)
    rw [hdimms] at hpool
    exact hpool.symm

end Pools

/-! ### What a call leaves -/

section Calls

variable {answers : CallAnswers} {s s' : LibraryState}

/-- What a call that may change the namespaces leaves. -/
structure KeepsRoom (s s' : LibraryState) : Prop where
  /-- No more is taken than there is. -/
  room : RoomKept s'.data
  /-- There is a context or there is none. -/
  isSome_eq : s'.context.isSome = s.context.isSome
  /-- The count of the context stays. -/
  count_eq : s'.contextCount = s.contextCount

/-- A call that only reads. -/
private theorem OnlyReads.keepsRoom (h : OnlyReads s s') (hroom : RoomKept s.data) : KeepsRoom s s' :=
  ⟨h.data_eq ▸ hroom, h.isSome_eq, h.count_eq⟩

/-- A change of the platform after calls that only read. -/
private theorem OnlyReads.keepsRoom_askDriver (h : OnlyReads s s') (hroom : RoomKept s.data)
    {f : List NvmNamespaceDetails → List NvmNamespaceDetails}
    (hf : RoomKept (s'.data.changeNamespaces f)) : KeepsRoom s (s'.askDriver answers f).2 := by
  rw [LibraryState.askDriver]
  split_ifs
  · exact ⟨hf, h.isSome_eq, h.count_eq⟩
  · exact h.keepsRoom hroom

/-- `nvm_get_namespace_details` only reads. -/
theorem onlyReads_nvmGetNamespaceDetails (uid : Uid) :
    OnlyReads s (s.nvmGetNamespaceDetails answers uid).2 := by
  unfold LibraryState.nvmGetNamespaceDetails
  split_ifs
  · exact .refl s
  · exact .refl s
  · exact .refl s
  cases s.context.bind fun _ => answers.contextDetails uid with
  | some details => exact .refl s
  | none =>
    cases s.data.namespaceList.find? (hasNamespaceUid uid) with
    | none => exact .refl s
    | some ns =>
      have hreads := (@getPoolFromNamespaceDetails_spec answers s ns.interleaveSetid).1
      dsimp only
      cases hget : s.getPoolFromNamespaceDetails answers ns.interleaveSetid with
      | mk result s' =>
        rw [hget] at hreads
        cases result with
        | error rc => exact hreads
        | ok pool =>
          dsimp only
          split_ifs
          · exact hreads
          · exact hreads

/-- Asking for a namespace asks for one that its interleave set has room for. -/
private theorem exists_iset_of_asked (hcurrent : CurrentPools s)
    (hread : answers.namespacesRead = true) {poolUid : Uid} {settings : NamespaceCreateSettings}
    {format : Option InterleaveFormat} {allowAdjustment : Bool} {asked : NvmNamespaceCreateSettings}
    (h : (s.system answers).settingsToCreate poolUid settings format allowAdjustment =
      some (.ok asked)) :
    (answers.made asked).blockSize = 1 ∧ (answers.made asked).type = .appDirect ∧
      ∃ iset ∈ s.data.isetList, (answers.made asked).interleaveSetid = iset.id.toUInt32 ∧
        (answers.made asked).blockCount.toNat ≤ freeSize s.data iset := by
  have hread' : (s.system answers).namespacesRead = true := hread
  obtain ⟨caps, pool, driverId, count, hmay, hsettings, -, hfirst, rfl⟩ :=
    exists_firstUsable_of_asked hread' h
  have hbyte : settings.blockSize = 1 := hsettings.blockSize
  refine ⟨?_, hsettings.type, ?_⟩
  · change settings.blockSize.toUInt32 = 1
    rw [hbyte]
    rfl
  obtain ⟨before, set, after, hsets, husable, hid, -⟩ := hfirst
  have hset : set ∈ pool.ilsets := hsets ▸ List.mem_append_right _ List.mem_cons_self
  rcases poolOf_of_nvmGetPool hcurrent hmay.pool_eq with hpool | rfl
  · rcases ilsets_of_mem_populated hpool with hnone | hall
    · rw [hnone] at hset
      exact absurd hset List.not_mem_nil
    · rw [hall] at hset
      obtain ⟨iset, hiset, rfl⟩ := List.mem_map.mp hset
      refine ⟨iset, (List.mem_filter.mp hiset).1, ?_, ?_⟩
      · exact hid.symm.trans (driverId_nvmInterleaveToInterleave iset)
      · have hroom := husable.room
        have hone : ((s.system answers).requestFor caps settings format
          allowAdjustment).blockSize = 1 := hbyte
        have hproduct : count * UInt16.toUInt64 1 = count := UInt64.mul_one _
        rw [hone, hproduct, toNat_availableSize] at hroom
        exact hroom
  · exact absurd hset List.not_mem_nil

/-- `nvm_create_namespace` leaves room, if the pools that are kept are current. -/
theorem keepsRoom_nvmCreateNamespace (hroom : RoomKept s.data) (hcurrent : CurrentPools s)
    (hread : answers.namespacesRead = true) {poolUid : Uid} {settings : NamespaceCreateSettings}
    {format : Option InterleaveFormat} {allowAdjustment : Bool} {rc : ReturnCode}
    (h : s.nvmCreateNamespace answers poolUid settings format allowAdjustment = some (rc, s')) :
    KeepsRoom s s' := by
  rw [LibraryState.nvmCreateNamespace, Option.map_eq_some_iff] at h
  obtain ⟨result, hasked, hresult⟩ := h
  cases result with
  | error rc =>
    obtain ⟨-, rfl⟩ := Prod.mk.inj hresult
    exact (OnlyReads.refl s).keepsRoom hroom
  | ok asked =>
    obtain ⟨hbyte, -, iset, hmem, hid, hle⟩ := exists_iset_of_asked hcurrent hread hasked
    have hkeeps : KeepsRoom s (s.askDriver answers (· ++ [answers.made asked])).2 :=
      (OnlyReads.refl s).keepsRoom_askDriver hroom (hroom.append hbyte hmem hid hle)
    have hafter : s.askDriver answers (· ++ [answers.made asked]) = (rc, s') := hresult
    rw [hafter] at hkeeps
    exact hkeeps

/-- The set that a pool of the platform has with an identifier. -/
private theorem exists_filter_eq_singleton (hroom : RoomKept s.data) {pool : Pool}
    (hpool : pool ∈ populated s.data) {interleaveSetid : UInt32}
    (hhas : LibraryState.hasIlset interleaveSetid pool = true) :
    ∃ iset ∈ s.data.isetList, interleaveSetid = iset.id.toUInt32 ∧
      pool.ilsets.filter (·.driverId = interleaveSetid) =
        [nvmInterleaveToInterleave s.data iset] := by
  obtain ⟨set, hset, hid⟩ := List.any_eq_true.mp hhas
  have hid' : interleaveSetid = set.driverId := of_decide_eq_true hid
  rcases ilsets_of_mem_populated hpool with hnone | hall
  · rw [hnone] at hset
    exact absurd hset List.not_mem_nil
  have hnd : (pool.ilsets.map InterleaveSet.driverId).Nodup := by
    have hids : ((isetsAt s.data pool.key).map NvmInterleaveSet.id).Nodup :=
      hroom.ids.sublist (List.filter_sublist.map _)
    have hmap : pool.ilsets.map InterleaveSet.driverId =
        ((isetsAt s.data pool.key).map NvmInterleaveSet.id).map UInt8.toUInt32 := by
      rw [hall, List.map_map, List.map_map]
      exact List.map_congr_left fun iset _ => driverId_nvmInterleaveToInterleave iset
    rw [hmap]
    refine hids.map fun a b hab => ?_
    have hnat := congrArg UInt32.toNat hab
    rw [UInt8.toNat_toUInt32, UInt8.toNat_toUInt32] at hnat
    exact UInt8.toNat_inj.mp hnat
  have hmem := hset
  rw [hall] at hmem
  obtain ⟨iset, hiset, rfl⟩ := List.mem_map.mp hmem
  refine ⟨iset, (List.mem_filter.mp hiset).1, ?_, ?_⟩
  · rw [hid', driverId_nvmInterleaveToInterleave]
  · have hfind := find?_eq_some_of_mem hnd hset
    rw [hid', filter_eq_toList_find? hnd, hfind, Option.toList_some]

/-- A size of blocks of one byte. -/
private theorem toNat_mul_one_mod (n : UInt64) : n.toNat * UInt32.toNat 1 % 2 ^ 64 = n.toNat := by
  rw [UInt32.toNat_one, Nat.mul_one, Nat.mod_eq_of_lt n.toNat_lt]

/-- A block count that is validated is not above the old one, or there is room for it. -/
private theorem room_of_validateNamespaceSizeForModification (hroom : RoomKept s.data)
    {pool : Pool} {ns : NvmNamespaceDetails} (hbyte : ns.blockSize = 1)
    (hpool : (pool ∈ populated s.data ∧ LibraryState.hasIlset ns.interleaveSetid pool = true) ∨
      pool = clearedPool) {caps : NvmCapabilities} {blockCount count : UInt64}
    {allowAdjustment : Bool}
    (h : validateNamespaceSizeForModification pool blockCount ns (.ok caps) allowAdjustment =
      some (.success, count)) :
    count.toNat ≤ ns.blockCount.toNat ∨ ∃ iset ∈ s.data.isetList,
      ns.interleaveSetid = iset.id.toUInt32 ∧
        count.toNat ≤ ns.blockCount.toNat + freeSize s.data iset := by
  rcases hpool with ⟨hmem, hhas⟩ | rfl
  · obtain ⟨iset, hiset, hid, hfilter⟩ := exists_filter_eq_singleton hroom hmem hhas
    obtain ⟨-, -, -, hhasRoom, -, -⟩ := (validate_eq_success_iff hfilter count).mp h
    rw [hbyte, toNat_mul_one_mod, toNat_mul_one_mod, toNat_availableSize] at hhasRoom
    rcases hhasRoom with hless | hfree
    · exact .inl hless
    · exact .inr ⟨iset, hiset, hid, by omega⟩
  · left
    rw [validateNamespaceSizeForModification, hbyte] at h
    have hone : blockCount * UInt32.toUInt64 1 = blockCount := UInt64.mul_one _
    have hreal : (getRealBlockSize 1).toUInt64 * ns.blockCount = ns.blockCount := UInt64.one_mul _
    simp only [hone, hreal] at h
    split_ifs at h with hmore htype
    · cases h
    · obtain rfl := (Prod.mk.inj (Option.some.inj h)).2
      by_contra hlarger
      have hlt : ns.blockCount < blockCount := UInt64.lt_iff_toNat_lt.mpr (Nat.not_le.mp hlarger)
      refine hmore ⟨hlt, UInt64.lt_iff_toNat_lt.mpr ?_⟩
      have hsub := toNat_sub_of_toNat_le (UInt64.lt_iff_toNat_lt.mp hlt).le
      rw [hsub]
      exact Nat.sub_pos_of_lt (Nat.not_le.mp hlarger)
    · cases h

/-- `validate_namespace_block_count` only reads. -/
private theorem onlyReads_validateNamespaceBlockCount (uid : Uid) (blockCount : UInt64)
    (allowAdjustment : Bool) :
    OnlyReads s (s.validateNamespaceBlockCount answers uid blockCount allowAdjustment).2 := by
  unfold LibraryState.validateNamespaceBlockCount
  cases s.data.namespaceList.find? (hasNamespaceUid uid) with
  | none => exact .refl s
  | some ns =>
    have hreads := (@getPoolFromNamespaceDetails_spec answers s ns.interleaveSetid).1
    dsimp only
    cases hget : s.getPoolFromNamespaceDetails answers ns.interleaveSetid with
    | mk result after =>
      rw [hget] at hreads
      cases result with
      | error rc => exact hreads
      | ok pool => exact hreads

/-- A block count that is validated is not above the old one, or there is room for it. -/
private theorem room_of_validateNamespaceBlockCount (hroom : RoomKept s.data)
    (hcurrent : CurrentPools s) {uid : Uid} {blockCount count : UInt64} {allowAdjustment : Bool}
    (h : s.validateNamespaceBlockCount answers uid blockCount allowAdjustment =
      (some (.ok count), s')) :
    ∃ ns, s.data.namespaceList.find? (hasNamespaceUid uid) = some ns ∧
      (count.toNat ≤ ns.blockCount.toNat ∨ ∃ iset ∈ s.data.isetList,
        ns.interleaveSetid = iset.id.toUInt32 ∧
          count.toNat ≤ ns.blockCount.toNat + freeSize s.data iset) := by
  rw [LibraryState.validateNamespaceBlockCount] at h
  cases hfind : s.data.namespaceList.find? (hasNamespaceUid uid) with
  | none =>
    rw [hfind] at h
    cases Option.some.inj (Prod.mk.inj h).1
  | some ns =>
    rw [hfind] at h
    dsimp only at h
    have hpool := (@getPoolFromNamespaceDetails_spec answers s ns.interleaveSetid).2
    cases hget : s.getPoolFromNamespaceDetails answers ns.interleaveSetid with
    | mk result after =>
      rw [hget] at h hpool
      cases result with
      | error rc => cases Option.some.inj (Prod.mk.inj h).1
      | ok pool =>
        refine ⟨ns, rfl, ?_⟩
        obtain ⟨⟨rc, count'⟩, hvalidate, hresult⟩ := Option.map_eq_some_iff.mp (Prod.mk.inj h).1
        dsimp only at hresult
        split_ifs at hresult with hsuccess
        obtain rfl := Except.ok.inj hresult
        cases hcaps : answers.getNvmCapabilities with
        | error rc' =>
          rw [hcaps] at hvalidate
          have hrc : rc' = rc := (Prod.mk.inj (Option.some.inj hvalidate)).1
          exact absurd (hrc.trans hsuccess ▸ hcaps) answers.error_ne
        | ok caps =>
          rw [hcaps, hsuccess] at hvalidate
          exact room_of_validateNamespaceSizeForModification hroom
            (hroom.bytes ns (List.mem_of_find?_eq_some hfind)) (hpool pool hcurrent rfl) hvalidate

/-- `nvm_modify_namespace_block_count` leaves room, if the pools that are kept are current. -/
theorem keepsRoom_nvmModifyNamespaceBlockCount (hroom : RoomKept s.data)
    (hcurrent : CurrentPools s) {uid : Uid} {blockCount : UInt64} {allowAdjustment : Bool}
    {rc : ReturnCode}
    (h : s.nvmModifyNamespaceBlockCount answers uid blockCount allowAdjustment = some (rc, s')) :
    KeepsRoom s s' := by
  rw [LibraryState.nvmModifyNamespaceBlockCount] at h
  split_ifs at h
  · exact (Prod.mk.inj (Option.some.inj h)).2 ▸ (OnlyReads.refl s).keepsRoom hroom
  · exact (Prod.mk.inj (Option.some.inj h)).2 ▸ (OnlyReads.refl s).keepsRoom hroom
  · exact (Prod.mk.inj (Option.some.inj h)).2 ▸ (OnlyReads.refl s).keepsRoom hroom
  have hdetails := @onlyReads_nvmGetNamespaceDetails answers s uid
  cases hget : s.nvmGetNamespaceDetails answers uid with
  | mk result s₁ =>
    rw [hget] at h hdetails
    cases result with
    | error rc' => exact (Prod.mk.inj (Option.some.inj h)).2 ▸ hdetails.keepsRoom hroom
    | ok details =>
      dsimp only at h
      by_cases hmay : s₁.mayResize answers details blockCount ≠ .success
      · rw [if_pos hmay] at h
        exact (Prod.mk.inj (Option.some.inj h)).2 ▸ hdetails.keepsRoom hroom
      rw [if_neg hmay] at h
      have hvalidated :=
        @onlyReads_validateNamespaceBlockCount answers s₁ uid blockCount allowAdjustment
      have hroom₁ : RoomKept s₁.data := hdetails.data_eq ▸ hroom
      cases hvalidate : s₁.validateNamespaceBlockCount answers uid blockCount allowAdjustment with
      | mk result s₂ =>
        rw [hvalidate] at h hvalidated
        have hreads := hdetails.trans hvalidated
        cases result with
        | none => cases h
        | some result =>
          cases result with
          | error rc' => exact (Prod.mk.inj (Option.some.inj h)).2 ▸ hreads.keepsRoom hroom
          | ok count =>
            obtain ⟨ns, hfind, hless⟩ := room_of_validateNamespaceBlockCount hroom₁
              (hdetails.current hcurrent) hvalidate
            have hafter := (Prod.ext_iff.mp (Option.some.inj h)).2
            dsimp only at hafter
            rw [← hafter, LibraryState.resizeUnlocked]
            rw [← hvalidated.data_eq] at hroom₁ hfind hless
            cases s₂.dimmsAreLocked answers details with
            | error rc'' => exact hreads.keepsRoom hroom
            | ok locked =>
              cases locked with
              | true => exact hreads.keepsRoom hroom
              | false => exact hreads.keepsRoom_askDriver hroom (hroom₁.resize hfind hless)

/-- `nvm_delete_namespace` leaves room. -/
theorem keepsRoom_nvmDeleteNamespace (hroom : RoomKept s.data) (uid : Uid) :
    KeepsRoom s (s.nvmDeleteNamespace answers uid).2 := by
  unfold LibraryState.nvmDeleteNamespace
  split_ifs
  · exact (OnlyReads.refl s).keepsRoom hroom
  · exact (OnlyReads.refl s).keepsRoom hroom
  · exact (OnlyReads.refl s).keepsRoom hroom
  have hreads := @onlyReads_nvmGetNamespaceDetails answers s uid
  cases hget : s.nvmGetNamespaceDetails answers uid with
  | mk result after =>
    rw [hget] at hreads
    cases result with
    | error rc => exact hreads.keepsRoom hroom
    | ok details =>
      have hafter : RoomKept after.data := hreads.data_eq ▸ hroom
      exact hreads.keepsRoom_askDriver hroom (hafter.remove _)

end Calls

end IxpDimm
