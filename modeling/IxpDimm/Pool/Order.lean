import IxpDimm.Pool.Conversion

/-!
# Pools do not depend on the order of the inventory

Reordering the DIMMs or the interleave sets of an inventory changes neither which pools there are nor
the capacity, the free capacity, the health, the DIMMs and the interleave sets of any of them.  An
interleave set is converted by looking its DIMMs up by handles and unique ids that are unique, and a
pool is known by what it is made of.

A pool with a locked interleave set has no free capacity, wherever the set occurs in the list, as long
as the locked DIMM is one that is read from the converted set.  The entries of the converted set are
written by the position of the handle in the set of the driver, and only as many of them are read as
there are manageable DIMMs: behind a DIMM that is not manageable, a locked one can be passed over.
-/

namespace IxpDimm

open Foundation PoolHealth

/-- A DIMM compares equal to a text exactly when its unique id is the key of the text. -/
private theorem uidCmp_uid_eq (dimm : PoolDimmData) (member : Uid) :
    uidCmp dimm.discovery.uid member = decide (dimm.discovery.uid = uidKey member) := by
  rw [Bool.eq_iff_iff, uidCmp_iff, uidKey_uid, decide_eq_true_eq]

/-! ### Reordering -/

/-- Two inventories are the same but for the order of the DIMMs and of the interleave sets. -/
structure Reordered (inv inv' : Inventory) : Prop where
  /-- The capabilities are the same. -/
  capabilities_eq : inv'.capabilities = inv.capabilities
  /-- The namespaces are the same. -/
  namespaces_eq : inv'.namespaceList = inv.namespaceList
  /-- The platform config data of the DIMMs is the same. -/
  settings_eq : inv'.fillSettings = inv.fillSettings
  /-- The DIMMs are reordered. -/
  dimms_perm : inv.dimmList.Perm inv'.dimmList
  /-- The interleave sets are reordered. -/
  isets_perm : inv.isetList.Perm inv'.isetList

section Reordered

variable {inv inv' : Inventory} (h : Reordered inv inv')
include h

/-- A DIMM is found by its handle in either order. -/
private theorem Reordered.dimmsWithHandle_eq (handle : UInt32) :
    dimmsWithHandle inv'.toPoolData handle = dimmsWithHandle inv.toPoolData handle :=
  (filter_eq_of_perm h.dimms_perm inv.handles_nodup handle).symm

/-- An interleave set is converted in the same way. -/
theorem Reordered.nvmInterleaveToInterleave_eq (iset : NvmInterleaveSet) :
    nvmInterleaveToInterleave inv'.toPoolData iset =
      nvmInterleaveToInterleave inv.toPoolData iset := by
  have hjoin : joinDimm inv'.toPoolData = joinDimm inv.toPoolData := by
    unfold joinDimm
    rw [h.settings_eq]
  have hentry : joinEntry inv'.toPoolData iset = joinEntry inv.toPoolData iset := by
    funext set entry
    rw [joinEntry, joinEntry, h.dimmsWithHandle_eq, hjoin]
  have hfree : calculateIsetFreeCapacity inv'.toPoolData =
      calculateIsetFreeCapacity inv.toPoolData := by
    unfold calculateIsetFreeCapacity
    rw [h.namespaces_eq]
  rw [nvmInterleaveToInterleave, nvmInterleaveToInterleave, hentry, hfree]

/-- The DIMMs of a converted interleave set are found in either order. -/
theorem Reordered.setDimms_eq (set : InterleaveSet) :
    setDimms inv'.toPoolData set = setDimms inv.toPoolData set := by
  unfold setDimms
  congr 1
  funext member
  simp only [uidCmp_uid_eq]
  exact (find?_eq_of_perm h.dimms_perm inv.uids_nodup (uidKey member)).symm

/-- An interleave set offers the same free capacity. -/
theorem Reordered.offeredBy_eq (type : PoolType) (iset : NvmInterleaveSet) :
    offeredBy inv'.toPoolData type iset = offeredBy inv.toPoolData type iset := by
  rw [offeredBy, offeredBy, h.nvmInterleaveToInterleave_eq, h.setDimms_eq]

/-- The pools are for the same sockets and types. -/
theorem Reordered.poolKeys_eq : inv'.poolKeys = inv.poolKeys := by
  have hany : (∃ dimm ∈ inv'.dimmList, dimm.capacities.memoryCapacity ≠ 0) ↔
      ∃ dimm ∈ inv.dimmList, dimm.capacities.memoryCapacity ≠ 0 := by
    refine exists_congr fun dimm => and_congr_left fun _ => ?_
    exact h.dimms_perm.mem_iff.symm
  have hisets : (inv'.isetList.map isetKey).toFinset = (inv.isetList.map isetKey).toFinset :=
    List.toFinset_eq_of_perm _ _ (h.isets_perm.map isetKey).symm
  rw [PoolData.poolKeys, PoolData.poolKeys, h.capabilities_eq, hisets]
  simp only [hany]

end Reordered

/-- Two pools have the same capacity, free capacity, health, DIMMs and interleave sets. -/
structure SamePool (pool pool' : Pool) : Prop where
  /-- The capacities are the same. -/
  capacity_eq : pool.capacity = pool'.capacity
  /-- The free capacities are the same. -/
  freeCapacity_eq : pool.freeCapacity = pool'.freeCapacity
  /-- The healths are the same. -/
  health_eq : pool.health = pool'.health
  /-- The DIMMs are the same, in any order. -/
  dimms_perm : pool.dimms.Perm pool'.dimms
  /-- The interleave sets are the same, in any order. -/
  ilsets_perm : pool.ilsets.Perm pool'.ilsets

/-- Pools that are made of the same DIMMs and interleave sets are the same. -/
theorem samePool_of_summarises {inv inv' : Inventory} {pool pool' : Pool}
    {added added' : List PoolDimmData} {isets isets' : List NvmInterleaveSet}
    (hre : Reordered inv inv') (h : Summarises inv pool added isets)
    (h' : Summarises inv' pool' added' isets') (htype : pool'.type = pool.type)
    (hadded : added.Perm added') (hisets : isets.Perm isets') : SamePool pool pool' := by
  have hconvert : nvmInterleaveToInterleave inv'.toPoolData =
      nvmInterleaveToInterleave inv.toPoolData := funext hre.nvmInterleaveToInterleave_eq
  have hhealth : pool.health = pool'.health := by
    rw [h.health_eq, h'.health_eq, isetHealths, isetHealths, hconvert,
      worst_eq_of_perm (hisets.flatMap_right _), worst_eq_of_perm (hadded.flatMap_right _)]
  have hoffered : offered inv.toPoolData pool.type added isets =
      offered inv'.toPoolData pool'.type added' isets' := by
    have hby : offeredBy inv'.toPoolData pool.type = offeredBy inv.toPoolData pool.type :=
      funext (hre.offeredBy_eq pool.type)
    rw [offered, offered, htype, hby, (hisets.map _).sum_eq, (hadded.map _).sum_eq]
  refine ⟨?_, ?_, hhealth, ?_, ?_⟩
  · rw [← UInt64.toNat_inj, h.capacity_eq, h'.capacity_eq, htype, (hadded.map _).sum_eq]
  · rw [← UInt64.toNat_inj, h.free_eq, h'.free_eq, hhealth, hoffered]
  · rw [h.dimms_eq, h'.dimms_eq, htype]
    exact hadded.map _
  · rw [h.ilsets_eq, h'.ilsets_eq, hconvert]
    exact hisets.map _

/-! ### The pool of a socket and a type -/

/-- The pool that `get_pool_index` finds. -/
def poolAt (key : ℤ × PoolType) (pools : List Pool) : Option Pool :=
  pools.find? fun pool => pool.key = key

/-- The pool of an interleave set is a persistent one. -/
theorem isPersistent_isetKey (iset : NvmInterleaveSet) : (isetKey iset).2.IsPersistent := by
  unfold isetKey isetPoolType
  split_ifs
  · exact Or.inr rfl
  · exact Or.inl rfl

/-- The interleave sets of a pool. -/
def isetsAt (data : PoolData) (key : ℤ × PoolType) : List NvmInterleaveSet :=
  data.isetList.filter fun iset => isetKey iset = key

/-- The DIMMs with memory capacity. -/
def memoryDimms (data : PoolData) : List PoolDimmData :=
  data.dimmList.filter fun dimm => dimm.capacities.memoryCapacity ≠ 0

/-- The pool with memory capacity is the volatile one. -/
private theorem poolAt_volatilePools (data : PoolData) (key : ℤ × PoolType) :
    poolAt key (volatilePools data data.dimmList []) =
      if key = (-1, .volatile) ∧ memoryDimms data ≠ [] then
        some ((memoryDimms data).foldl (fun pool dimm => enterDimm data dimm pool) (freshPool key))
      else none := by
  have hfind : poolAt key (volatilePools data data.dimmList []) = _ :=
    find?_upsertAll (fun dimm => key_enterDimm data dimm) key_freshPool [] (memoryDimms data) key
  rw [hfind, List.find?_nil, Option.getD_none]
  by_cases hkey : key = (-1, .volatile)
  · subst hkey
    by_cases hnone : memoryDimms data = []
    · simp [hnone]
    · have hmem : ((-1, .volatile) : ℤ × PoolType) ∈
          (memoryDimms data).map fun _ => ((-1, .volatile) : ℤ × PoolType) := by
        obtain ⟨dimm, hdimm⟩ := List.exists_mem_of_ne_nil _ hnone
        exact List.mem_map.mpr ⟨dimm, hdimm, rfl⟩
      rw [if_pos hmem, if_pos ⟨rfl, hnone⟩, List.filter_eq_self.mpr fun _ _ => by simp]
  · have hmem : key ∉ (memoryDimms data).map fun _ => ((-1, .volatile) : ℤ × PoolType) := by
      rintro hmem
      obtain ⟨-, -, rfl⟩ := List.mem_map.mp hmem
      exact hkey rfl
    rw [if_neg hmem, if_neg fun h => hkey h.1]

/-- A pool that is not persistent is left by the interleave sets. -/
private theorem poolAt_isetPools_of_not {key : ℤ × PoolType} (hkey : ¬ key.2.IsPersistent)
    (data : PoolData) (isets : List NvmInterleaveSet) (pools : List Pool) :
    poolAt key (isetPools data isets pools) = poolAt key pools := by
  have hfind : poolAt key (isetPools data isets pools) = _ :=
    find?_upsertAll (fun iset => key_enterIset data iset) key_freshPool pools isets key
  rw [hfind, if_neg]
  · rfl
  · rintro hmem
    obtain ⟨iset, -, rfl⟩ := List.mem_map.mp hmem
    exact hkey (isPersistent_isetKey iset)

/-- The volatile pool, and no pool of another type that is not persistent. -/
theorem poolAt_populated_of_not {key : ℤ × PoolType} (hkey : ¬ key.2.IsPersistent)
    (data : PoolData) :
    poolAt key (populated data) =
      if key = (-1, .volatile) ∧ memoryDimms data ≠ [] then
        some ((memoryDimms data).foldl (fun pool dimm => enterDimm data dimm pool) (freshPool key))
      else none := by
  rw [← poolAt_volatilePools]
  unfold populated
  dsimp only
  split_ifs
  · exact poolAt_isetPools_of_not hkey data _ _
  · rfl

/-- A persistent pool is that of its interleave sets. -/
theorem poolAt_populated {key : ℤ × PoolType} (hkey : key.2.IsPersistent) (data : PoolData) :
    poolAt key (populated data) =
      if data.capabilities.appDirectMode = true ∧ isetsAt data key ≠ [] then
        some ((isetsAt data key).foldl (fun pool iset => enterIset data iset pool) (freshPool key))
      else none := by
  have hvolatile : poolAt key (volatilePools data data.dimmList []) = none := by
    rw [poolAt_volatilePools, if_neg]
    rintro ⟨rfl, -⟩
    rcases hkey with hkey | hkey
    · cases hkey
    · cases hkey
  unfold populated
  dsimp only
  by_cases happ : data.capabilities.appDirectMode = true
  · have hfind : poolAt key (isetPools data data.isetList (volatilePools data data.dimmList [])) = _ :=
      find?_upsertAll (fun iset => key_enterIset data iset) key_freshPool
        (volatilePools data data.dimmList []) data.isetList key
    have hnone : (volatilePools data data.dimmList []).find? (fun pool => pool.key = key) = none :=
      hvolatile
    rw [if_pos happ, hfind, hnone, Option.getD_none]
    have hmem : key ∈ data.isetList.map isetKey ↔ isetsAt data key ≠ [] := by
      rw [List.mem_map, isetsAt, Ne, List.filter_eq_nil_iff]
      simp
    by_cases hisets : isetsAt data key = []
    · rw [if_neg fun h => hmem.mp h hisets, if_neg fun h => h.2 hisets]
    · rw [if_pos (hmem.mpr hisets), if_pos ⟨happ, hisets⟩]
      rfl
  · rw [if_neg happ, hvolatile, if_neg fun h => happ h.1]

/-- Reordering an inventory leaves the pool of every socket and type. -/
theorem Reordered.samePool {inv inv' : Inventory} (h : Reordered inv inv') (key : ℤ × PoolType) :
    Option.Rel SamePool (poolAt key (populated inv.toPoolData))
      (poolAt key (populated inv'.toPoolData)) := by
  by_cases hkey : key.2.IsPersistent
  · have hisets : (isetsAt inv.toPoolData key).Perm (isetsAt inv'.toPoolData key) :=
      h.isets_perm.filter _
    have hnil : isetsAt inv'.toPoolData key = [] ↔ isetsAt inv.toPoolData key = [] :=
      ⟨fun hn => List.perm_nil.mp (hn ▸ hisets), fun hn => List.nil_perm.mp (hn ▸ hisets)⟩
    rw [poolAt_populated hkey, poolAt_populated hkey, h.capabilities_eq]
    simp only [ne_eq, hnil]
    split_ifs with hsome
    · have happ' : inv'.capabilities.appDirectMode = true := h.capabilities_eq ▸ hsome.1
      obtain ⟨htype, added, hsum, hadded⟩ :=
        summarises_foldl_enterIset inv hsome.1 hkey (isetsAt inv.toPoolData key)
      obtain ⟨htype', added', hsum', hadded'⟩ :=
        summarises_foldl_enterIset inv' happ' hkey (isetsAt inv'.toPoolData key)
      refine Option.Rel.some (samePool_of_summarises h hsum hsum' (htype'.trans htype.symm) ?_ hisets)
      refine (List.perm_ext_iff_of_nodup hsum.nodup hsum'.nodup).mpr fun dimm => ?_
      rw [hadded, hadded']
      refine exists_congr fun iset => and_congr hisets.mem_iff ?_
      rw [h.nvmInterleaveToInterleave_eq, h.setDimms_eq]
    · exact Option.Rel.none
  · have hdimms : (memoryDimms inv.toPoolData).Perm (memoryDimms inv'.toPoolData) :=
      h.dimms_perm.filter _
    have hnil : memoryDimms inv'.toPoolData = [] ↔ memoryDimms inv.toPoolData = [] :=
      ⟨fun hn => List.perm_nil.mp (hn ▸ hdimms), fun hn => List.nil_perm.mp (hn ▸ hdimms)⟩
    rw [poolAt_populated_of_not hkey, poolAt_populated_of_not hkey]
    simp only [ne_eq, hnil]
    split_ifs with hsome
    · obtain ⟨rfl, -⟩ := hsome
      have hnodup : ∀ inv : Inventory, (memoryDimms inv.toPoolData).Nodup :=
        fun inv => (List.Nodup.of_map _ inv.uids_nodup).filter _
      obtain ⟨htype, hsum⟩ :=
        summarises_foldl_enterDimm inv (hnodup inv) (List.filter_subset_self _)
      obtain ⟨htype', hsum'⟩ :=
        summarises_foldl_enterDimm inv' (hnodup inv') (List.filter_subset_self _)
      exact Option.Rel.some (samePool_of_summarises h hsum hsum' (htype'.trans htype.symm) hdimms
        (List.Perm.refl _))
    · exact Option.Rel.none

/-! ### The DIMMs that are read from a converted set -/

/-- The manageable DIMM with a handle. -/
def dimmOf (data : PoolData) (handle : UInt32) : Option PoolDimmData :=
  data.dimmList.find? fun dimm => dimm.discovery.deviceHandle = handle

/-- The number of entries of a set that name a manageable DIMM. -/
def managedCount (data : PoolData) (iset : NvmInterleaveSet) : ℕ :=
  iset.dimms.countP fun entry => (dimmOf data entry.handle).isSome

/-- The manageable DIMMs among as many leading entries of a set as there are manageable DIMMs in
it. -/
def readDimms (data : PoolData) (iset : NvmInterleaveSet) : List PoolDimmData :=
  (iset.dimms.take (managedCount data iset)).filterMap fun entry => dimmOf data entry.handle

/-- One DIMM at most has a handle. -/
private theorem dimmsWithHandle_eq_toList (inv : Inventory) (handle : UInt32) :
    dimmsWithHandle inv.toPoolData handle = (dimmOf inv.toPoolData handle).toList :=
  filter_eq_toList_find? inv.handles_nodup handle

/-- What an entry of a set is converted to. -/
private theorem writtenUid_eq (inv : Inventory) (entry : IsetDimm) :
    writtenUid inv.toPoolData entry =
      ((dimmOf inv.toPoolData entry.handle).map fun dimm => dimm.discovery.uid).getD [] := by
  rw [writtenUid, dimmsWithHandle_eq_toList]
  cases dimmOf inv.toPoolData entry.handle with
  | none => rfl
  | some dimm => rfl

/-- As many DIMMs are found as entries name one. -/
private theorem length_foundDimms_eq (inv : Inventory) (entries : List IsetDimm) :
    (foundDimms inv.toPoolData entries).length =
      entries.countP fun entry => (dimmOf inv.toPoolData entry.handle).isSome := by
  induction entries with
  | nil => rfl
  | cons entry entries ih =>
    have hcons : foundDimms inv.toPoolData (entry :: entries) =
        dimmsWithHandle inv.toPoolData entry.handle ++ foundDimms inv.toPoolData entries :=
      List.flatMap_cons
    rw [hcons, List.length_append, ih, dimmsWithHandle_eq_toList, List.countP_cons, Nat.add_comm]
    cases dimmOf inv.toPoolData entry.handle with
    | none => rfl
    | some dimm => rfl

/-- The members of a converted set are its leading entries. -/
private theorem members_nvmInterleaveToInterleave (inv : Inventory) (iset : NvmInterleaveSet) :
    (nvmInterleaveToInterleave inv.toPoolData iset).members =
      (iset.dimms.take (managedCount inv.toPoolData iset)).map (writtenUid inv.toPoolData) := by
  obtain ⟨hdimms, hcount, -⟩ := nvmInterleaveToInterleave_spec inv.toPoolData iset
  rw [length_foundDimms_eq] at hcount
  rw [InterleaveSet.members_eq_take, hdimms, hcount, List.map_take, managedCount]
  rw [hdimms, hcount, List.length_map]
  exact List.countP_le_length

/-- The DIMMs that are found for a converted set are those that are read from its leading entries. -/
theorem setDimms_nvmInterleaveToInterleave (inv : Inventory) (iset : NvmInterleaveSet) :
    setDimms inv.toPoolData (nvmInterleaveToInterleave inv.toPoolData iset) =
      readDimms inv.toPoolData iset := by
  rw [setDimms, members_nvmInterleaveToInterleave, List.filterMap_map, readDimms]
  congr 1
  funext entry
  simp only [Function.comp_apply, uidCmp_uid_eq]
  cases hdimm : dimmOf inv.toPoolData entry.handle with
  | none =>
    have hempty : uidKey (writtenUid inv.toPoolData entry) = [] := by
      rw [writtenUid_eq, hdimm]
      rfl
    refine List.find?_eq_none.mpr fun dimm _ => ?_
    rw [hempty, decide_eq_true_eq]
    exact DeviceDiscovery.uid_ne_nil _
  | some dimm =>
    have huid : uidKey (writtenUid inv.toPoolData entry) = dimm.discovery.uid := by
      rw [writtenUid_eq, hdimm, Option.map_some, Option.getD_some, uidKey_uid]
    rw [huid]
    exact find?_eq_some_of_mem inv.uids_nodup (List.mem_of_find?_eq_some hdimm)

/-! ### Locked pools -/

/-- An interleave set of the driver with a locked DIMM. -/
def HasLockedDimm (data : PoolData) (iset : NvmInterleaveSet) : Prop :=
  ∃ entry ∈ iset.dimms, ∃ dimm, dimmOf data entry.handle = some dimm ∧ dimm.IsLocked

/-- A locked DIMM is read from some interleave set of the pool. -/
def LockIsRead (data : PoolData) (key : ℤ × PoolType) : Prop :=
  ∃ iset ∈ isetsAt data key, ∃ dimm ∈ readDimms data iset, dimm.IsLocked

/-- What the interleave sets of a pool offer as free capacity, as a word. -/
def offeredAt (data : PoolData) (key : ℤ × PoolType) : ℕ :=
  ((isetsAt data key).map (offeredBy data key.2)).sum % 2 ^ 64

/-- A pool is locked exactly when one of its DIMMs is. -/
theorem Summarises.locked_iff {inv : Inventory} {pool : Pool} {added : List PoolDimmData}
    {isets : List NvmInterleaveSet} (h : Summarises inv pool added isets) :
    pool.health = .locked ↔ ∃ dimm ∈ added, dimm.IsLocked := by
  have hbase : worst (isetHealths inv.toPoolData isets) ≠ .locked := by
    rw [Ne, worst_eq_locked_iff, isetHealths, List.mem_flatMap]
    rintro ⟨iset, -, hlocked⟩
    exact (notMem_setHealths _).2 hlocked
  rw [h.health_eq, max_eq_locked_iff, or_iff_right hbase, worst_eq_locked_iff, List.mem_flatMap]
  exact exists_congr fun dimm => and_congr_right fun _ => (mem_dimmHealths dimm).2

/-- A persistent pool has no free capacity exactly when a locked DIMM is read from one of its
interleave sets, or they offer none. -/
theorem freeCapacity_eq_zero_iff (inv : Inventory) (happ : inv.capabilities.appDirectMode = true)
    {key : ℤ × PoolType} (hkey : key.2.IsPersistent) {pool : Pool}
    (hpool : poolAt key (populated inv.toPoolData) = some pool) :
    pool.freeCapacity = 0 ↔ LockIsRead inv.toPoolData key ∨ offeredAt inv.toPoolData key = 0 := by
  rw [poolAt_populated hkey] at hpool
  split_ifs at hpool with hisets
  obtain rfl := Option.some.inj hpool
  obtain ⟨htype, added, h, hadded⟩ :=
    summarises_foldl_enterIset inv happ hkey (isetsAt inv.toPoolData key)
  have hlock : (∃ dimm ∈ added, dimm.IsLocked) ↔ LockIsRead inv.toPoolData key := by
    constructor
    · rintro ⟨dimm, hdimm, hlocked⟩
      obtain ⟨iset, hiset, hread⟩ := (hadded dimm).mp hdimm
      rw [setDimms_nvmInterleaveToInterleave] at hread
      exact ⟨iset, hiset, dimm, hread, hlocked⟩
    · rintro ⟨iset, hiset, dimm, hread, hlocked⟩
      refine ⟨dimm, (hadded dimm).mpr ⟨iset, hiset, ?_⟩, hlocked⟩
      rw [setDimms_nvmInterleaveToInterleave]
      exact hread
  rw [← toNat_eq_zero_iff, h.free_eq, ← hlock, ← h.locked_iff, htype, offered,
    sum_memoryCapacity_of_isPersistent hkey, Nat.add_zero]
  split_ifs with hlocked
  · simp [hlocked]
  · simp only [hlocked, false_or]
    rfl

/-- The pools do not depend on the order of the inventory, and a pool with a locked interleave set
has no free capacity. -/
structure OrderIndependent (inv : Inventory) (count : UInt8) : Prop where
  /-- Another order leads to the same code, and if pools are made, to the same ones. -/
  reordered : ∀ inv' : Inventory, Reordered inv inv' →
    (populatePools inv'.toPoolData count).1 = (populatePools inv.toPoolData count).1 ∧
      ∀ n, (populatePools inv.toPoolData count).1 = .ok n → ∀ key,
        Option.Rel SamePool (poolAt key (populatePools inv.toPoolData count).2)
          (poolAt key (populatePools inv'.toPoolData count).2)
  /-- A pool with a locked interleave set has no free capacity. -/
  locked : ∀ n, (populatePools inv.toPoolData count).1 = .ok n → ∀ key pool,
    poolAt key (populatePools inv.toPoolData count).2 = some pool →
    (∃ iset ∈ isetsAt inv.toPoolData key, HasLockedDimm inv.toPoolData iset) →
    pool.freeCapacity = 0

/-- Every pool with a locked interleave set has one from which a locked DIMM is read, or offers no
free capacity anyway. -/
def LocksRead (inv : Inventory) : Prop :=
  ∀ key, (∃ iset ∈ isetsAt inv.toPoolData key, HasLockedDimm inv.toPoolData iset) →
    LockIsRead inv.toPoolData key ∨ offeredAt inv.toPoolData key = 0

/-- Reordering an inventory leads to the same code and the same pools. -/
private theorem populatePools_reordered {inv inv' : Inventory} (h : Reordered inv inv')
    (count : UInt8) :
    (populatePools inv'.toPoolData count).1 = (populatePools inv.toPoolData count).1 ∧
      ∀ n, (populatePools inv.toPoolData count).1 = .ok n → ∀ key,
        Option.Rel SamePool (poolAt key (populatePools inv.toPoolData count).2)
          (poolAt key (populatePools inv'.toPoolData count).2) := by
  have hkeys := h.poolKeys_eq
  by_cases hroom : inv.poolKeys.card ≤ count.toNat
  · have hroom' : inv'.poolKeys.card ≤ count.toNat := hkeys ▸ hroom
    rw [populatePools_of_le hroom, populatePools_of_le hroom', hkeys]
    exact ⟨rfl, fun _ _ key => h.samePool key⟩
  · have hroom' : ¬ inv'.poolKeys.card ≤ count.toNat := hkeys ▸ hroom
    rw [populatePools_of_lt (Nat.not_le.mp hroom), populatePools_of_lt (Nat.not_le.mp hroom')]
    refine ⟨rfl, ?_⟩
    rintro n ⟨⟩

/-- An inventory with a locked DIMM behind one that is not manageable in its interleave set, and an
interleave set of another DIMM on the same socket. -/
def passedOverInventory : Inventory where
  capabilities := { appDirectMode := true }
  dimmList := [
    { discovery := { deviceHandle := 2, vendorId := 2, lockState := .locked } },
    { discovery := { deviceHandle := 3, vendorId := 3 } }]
  isetList := [
    { id := 1, size := 0x80000000, dimms := [{ handle := 1 }, { handle := 2 }] },
    { id := 2, size := 0x40000000, dimms := [{ handle := 3 }] }]
  namespaceList := []
  fillSettings := fun _ _ settings => (true, settings)
  handles_nodup := by decide
  uids_nodup := by decide +kernel

end IxpDimm
