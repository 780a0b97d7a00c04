import IxpDimm.Foundation.Keyed
import IxpDimm.Pool.Build

/-!
# Counting pools and making them

`count_pools` and `populate_pools` group the same DIMMs and interleave sets, by socket and type, with
different code.  Both find one pool for each key of `PoolData.poolKeys`: what is counted is what is
made.  `count_pools` lists the pools in an array of `MAX_POOLS` entries, and compares their number
with `MAX_POOLS` only after the next one has been written.
-/

namespace IxpDimm

open Foundation

/-! ### Pools keep their socket and type -/

/-- A DIMM does not change what its pool is looked up by. -/
@[simp] theorem key_addDimmToPool (data : PoolData) (dimm : PoolDimmData) (pool : Pool) :
    (addDimmToPool data dimm pool).key = pool.key := by
  unfold addDimmToPool
  dsimp only
  by_cases hin : isInPool dimm.discovery.uid pool = true
  · rw [if_pos hin]
    rfl
  · rw [if_neg hin]
    rfl

/-- Several DIMMs do not change what their pool is looked up by. -/
theorem key_foldl_addDimmToPool (data : PoolData) (dimms : List PoolDimmData) (pool : Pool) :
    (dimms.foldl (fun pool dimm => addDimmToPool data dimm pool) pool).key = pool.key := by
  induction dimms generalizing pool with
  | nil => rfl
  | cons dimm dimms ih => rw [List.foldl_cons, ih, key_addDimmToPool]

/-- The security fields are not part of what a pool is looked up by. -/
@[simp] theorem key_updatePoolSecurityFromIset (data : PoolData) (set : InterleaveSet)
    (pool : Pool) : (updatePoolSecurityFromIset data set pool).key = pool.key := by
  unfold updatePoolSecurityFromIset
  split_ifs
  · rfl
  · rfl

/-- An interleave set does not change what its pool is looked up by. -/
@[simp] theorem key_addInterleaveSetToPool (data : PoolData) (iset : NvmInterleaveSet)
    (pool : Pool) : (addInterleaveSetToPool data iset pool).key = pool.key := by
  unfold addInterleaveSetToPool
  dsimp only
  rw [key_updatePoolSecurityFromIset]
  exact key_foldl_addDimmToPool data _ _

/-- The free capacity is not part of what a pool is looked up by. -/
@[simp] theorem key_zeroPoolFreeCapacityIfLocked (pool : Pool) :
    (zeroPoolFreeCapacityIfLocked pool).key = pool.key := by
  unfold zeroPoolFreeCapacityIfLocked
  split_ifs
  · rfl
  · rfl

/-! ### The loops that make pools -/

/-- A fresh pool for a socket and a type. -/
def freshPool (key : ℤ × PoolType) : Pool := initPool key.2 key.1

/-- A fresh pool is found by its socket and type. -/
@[simp] theorem key_freshPool (key : ℤ × PoolType) : (freshPool key).key = key := rfl

/-- An interleave set is entered into its pool. -/
def enterIset (data : PoolData) (iset : NvmInterleaveSet) (pool : Pool) : Pool :=
  zeroPoolFreeCapacityIfLocked (addInterleaveSetToPool data iset pool)

/-- The memory capacity of a DIMM is entered into the volatile pool. -/
def enterDimm (data : PoolData) (dimm : PoolDimmData) (pool : Pool) : Pool :=
  zeroPoolFreeCapacityIfLocked (addDimmToPool data dimm pool)

/-- Entering an interleave set keeps what the pool is looked up by. -/
@[simp] theorem key_enterIset (data : PoolData) (iset : NvmInterleaveSet) (pool : Pool) :
    (enterIset data iset pool).key = pool.key := by
  rw [enterIset, key_zeroPoolFreeCapacityIfLocked, key_addInterleaveSetToPool]

/-- Entering a DIMM keeps what the pool is looked up by. -/
@[simp] theorem key_enterDimm (data : PoolData) (dimm : PoolDimmData) (pool : Pool) :
    (enterDimm data dimm pool).key = pool.key := by
  rw [enterDimm, key_zeroPoolFreeCapacityIfLocked, key_addDimmToPool]

/-- The pools with the interleave sets entered, in an array that is large enough. -/
def isetPools (data : PoolData) (isets : List NvmInterleaveSet) (pools : List Pool) : List Pool :=
  upsertAll Pool.key isetKey freshPool (enterIset data) pools isets

/-- The pools with the memory capacity of the DIMMs entered, in an array that is large enough. -/
def volatilePools (data : PoolData) (dimms : List PoolDimmData) (pools : List Pool) : List Pool :=
  upsertAll Pool.key (fun _ => (-1, .volatile)) freshPool (enterDimm data) pools
    (dimms.filter fun dimm => dimm.capacities.memoryCapacity ≠ 0)

/-- A pool is looked up by its socket and its type. -/
private theorem getPoolIndex_eq (key : ℤ × PoolType) (pools : List Pool) :
    getPoolIndex key.1 key.2 pools = pools.findIdx? fun pool => pool.key = key := by
  unfold getPoolIndex
  congr 1
  funext pool
  rw [decide_eq_decide, Pool.key, Prod.ext_iff]

/-- A pool that is there is updated in place. -/
private theorem getPoolIndex_of_mem {key : ℤ × PoolType} {pools : List Pool}
    (h : key ∈ pools.map Pool.key) (fresh : Pool) (add : Pool → Pool) :
    ∃ index, getPoolIndex key.1 key.2 pools = some index ∧
      pools.modify index add = upsert Pool.key key fresh add pools := by
  obtain ⟨index, hindex⟩ := exists_findIdx?_of_mem h
  refine ⟨index, (getPoolIndex_eq key pools).trans hindex, ?_⟩
  rw [upsert, hindex]

/-- A pool that is missing is not found. -/
private theorem getPoolIndex_of_notMem {key : ℤ × PoolType} {pools : List Pool}
    (h : key ∉ pools.map Pool.key) : getPoolIndex key.1 key.2 pools = none :=
  (getPoolIndex_eq key pools).trans (findIdx?_eq_none_of_notMem h)

section Isets

variable (data : PoolData) (count : UInt8) {pools : List Pool} {iset : NvmInterleaveSet}

/-- A set whose pool is there is entered. -/
private theorem addIsetStep_of_mem (rc : ReturnCode) (h : isetKey iset ∈ pools.map Pool.key) :
    addIsetStep data count (rc, pools) iset = (rc, isetPools data [iset] pools) := by
  obtain ⟨index, hindex, hmodify⟩ :=
    getPoolIndex_of_mem h (freshPool (isetKey iset)) (enterIset data iset)
  have hfound : getPoolIndex iset.socketId.toNat (isetPoolType iset) pools = some index := hindex
  rw [addIsetStep, hfound]
  exact congrArg (Prod.mk rc) hmodify

/-- A set whose pool is missing gets one if there is room. -/
private theorem addIsetStep_of_notMem (rc : ReturnCode) (h : isetKey iset ∉ pools.map Pool.key) :
    addIsetStep data count (rc, pools) iset =
      if pools.length < count.toNat then (.success, isetPools data [iset] pools)
      else (.errArrayTooSmall, pools) := by
  have hfound : getPoolIndex iset.socketId.toNat (isetPoolType iset) pools = none :=
    getPoolIndex_of_notMem h
  have hnew : isetPools data [iset] pools =
      pools ++ [enterIset data iset (freshPool (isetKey iset))] := upsert_of_notMem h
  rw [addIsetStep, hfound, hnew]
  dsimp only
  by_cases hroom : pools.length < count.toNat
  · rw [if_pos hroom, if_neg (Nat.not_le.mpr hroom)]
    rfl
  · rw [if_neg hroom, if_pos (Nat.not_lt.mp hroom)]

/-- Entering one set and then the others. -/
private theorem isetPools_cons (isets : List NvmInterleaveSet) :
    isetPools data (iset :: isets) pools = isetPools data isets (isetPools data [iset] pools) := rfl

/-- No pool is lost. -/
private theorem length_le_length_isetPools (isets : List NvmInterleaveSet) (pools : List Pool) :
    pools.length ≤ (isetPools data isets pools).length :=
  length_le_length_upsertAll (fun iset => key_enterIset data iset) key_freshPool pools isets

/-- The code for an array that is too small stays, as the array stays full. -/
private theorem foldl_addIsetStep_full (isets : List NvmInterleaveSet) {pools : List Pool}
    (hfull : count.toNat ≤ pools.length) :
    (isets.foldl (addIsetStep data count) (.errArrayTooSmall, pools)).1 = .errArrayTooSmall := by
  induction isets generalizing pools with
  | nil => rfl
  | cons iset isets ih =>
    rw [List.foldl_cons]
    by_cases h : isetKey iset ∈ pools.map Pool.key
    · rw [addIsetStep_of_mem data count _ h]
      exact ih (hfull.trans (length_le_length_isetPools data [iset] pools))
    · rw [addIsetStep_of_notMem data count _ h, if_neg (Nat.not_lt.mpr hfull)]
      exact ih hfull

/-- The loop over the interleave sets makes all their pools, if the array is large enough. -/
theorem addInterleaveSetsToPools_of_le (isets : List NvmInterleaveSet) {pools : List Pool}
    (hroom : (isetPools data isets pools).length ≤ count.toNat) :
    isets.foldl (addIsetStep data count) (.success, pools) =
      (.success, isetPools data isets pools) := by
  induction isets generalizing pools with
  | nil => rfl
  | cons iset isets ih =>
    rw [isetPools_cons] at hroom ⊢
    rw [List.foldl_cons]
    by_cases h : isetKey iset ∈ pools.map Pool.key
    · rw [addIsetStep_of_mem data count _ h]
      exact ih hroom
    · have hone : (isetPools data [iset] pools).length = pools.length + 1 := by
        have hnew : isetPools data [iset] pools =
            pools ++ [enterIset data iset (freshPool (isetKey iset))] := upsert_of_notMem h
        rw [hnew, List.length_append, List.length_singleton]
      have hle := length_le_length_isetPools data isets (isetPools data [iset] pools)
      rw [addIsetStep_of_notMem data count _ h, if_pos (by omega)]
      exact ih hroom

/-- The loop over the interleave sets fails if the array is too small for their pools. -/
theorem addInterleaveSetsToPools_of_lt (isets : List NvmInterleaveSet) {pools : List Pool}
    (hpools : pools.length ≤ count.toNat)
    (hroom : count.toNat < (isetPools data isets pools).length) :
    (isets.foldl (addIsetStep data count) (.success, pools)).1 = .errArrayTooSmall := by
  induction isets generalizing pools with
  | nil => exact absurd hroom (Nat.not_lt.mpr hpools)
  | cons iset isets ih =>
    rw [isetPools_cons] at hroom
    rw [List.foldl_cons]
    by_cases h : isetKey iset ∈ pools.map Pool.key
    · have hone : (isetPools data [iset] pools).length = pools.length := by
        have hold : isetPools data [iset] pools = _ := upsert_of_mem h
        rw [hold, length_modifyFirst]
      rw [addIsetStep_of_mem data count _ h]
      exact ih (hone ▸ hpools) hroom
    · have hnew : isetPools data [iset] pools =
          pools ++ [enterIset data iset (freshPool (isetKey iset))] := upsert_of_notMem h
      rw [addIsetStep_of_notMem data count _ h]
      split_ifs with hlt
      · refine ih ?_ hroom
        rw [hnew, List.length_append, List.length_singleton]
        exact hlt
      · exact foldl_addIsetStep_full data count isets (Nat.not_lt.mp hlt)

end Isets

section Volatile

variable (data : PoolData) (count : UInt8)

/-- A DIMM without memory capacity is passed over. -/
private theorem volatilePools_cons_of_eq {dimm : PoolDimmData} (dimms : List PoolDimmData)
    (pools : List Pool) (h : dimm.capacities.memoryCapacity = 0) :
    volatilePools data (dimm :: dimms) pools = volatilePools data dimms pools := by
  rw [volatilePools, List.filter_cons_of_neg (by simpa using h), volatilePools]

/-- A DIMM with memory capacity is entered into the volatile pool. -/
private theorem volatilePools_cons_of_ne {dimm : PoolDimmData} (dimms : List PoolDimmData)
    (pools : List Pool) (h : dimm.capacities.memoryCapacity ≠ 0) :
    volatilePools data (dimm :: dimms) pools =
      volatilePools data dimms (upsert Pool.key (-1, .volatile) (freshPool (-1, .volatile))
        (enterDimm data dimm) pools) := by
  rw [volatilePools, List.filter_cons_of_pos (by simpa using h)]
  rfl

/-- No pool is lost. -/
private theorem length_le_length_volatilePools (dimms : List PoolDimmData) (pools : List Pool) :
    pools.length ≤ (volatilePools data dimms pools).length :=
  length_le_length_upsertAll (fun dimm => key_enterDimm data dimm) key_freshPool pools _

/-- The loop over the DIMMs makes the volatile pool, if the array is large enough. -/
private theorem addDimmsVolatile_of_le (dimms : List PoolDimmData) {pools : List Pool}
    (hroom : (volatilePools data dimms pools).length ≤ count.toNat) :
    addDimmsVolatileCapacityToPools data count dimms pools =
      (.success, volatilePools data dimms pools) := by
  induction dimms generalizing pools with
  | nil => rfl
  | cons dimm dimms ih =>
    unfold addDimmsVolatileCapacityToPools
    dsimp only
    by_cases hmemory : dimm.capacities.memoryCapacity = 0
    · rw [volatilePools_cons_of_eq data dimms pools hmemory] at hroom ⊢
      rw [if_neg (not_not.mpr hmemory)]
      exact ih hroom
    rw [volatilePools_cons_of_ne data dimms pools hmemory] at hroom ⊢
    rw [if_pos hmemory]
    by_cases h : (-1, PoolType.volatile) ∈ pools.map Pool.key
    · obtain ⟨index, hindex, hmodify⟩ :=
        getPoolIndex_of_mem h (freshPool (-1, .volatile)) (enterDimm data dimm)
      have hfound : getPoolIndex (-1) .volatile pools = some index := hindex
      rw [← hmodify] at hroom ⊢
      rw [hfound]
      exact ih hroom
    · have hfound : getPoolIndex (-1) .volatile pools = none := getPoolIndex_of_notMem h
      rw [upsert_of_notMem h] at hroom ⊢
      have hle := length_le_length_volatilePools data dimms
        (pools ++ [enterDimm data dimm (freshPool (-1, .volatile))])
      rw [List.length_append, List.length_singleton] at hle
      rw [hfound]
      dsimp only
      rw [if_neg (by omega)]
      exact ih hroom

/-- The loop over the DIMMs fails if the array is too small for the volatile pool. -/
private theorem addDimmsVolatile_of_lt (dimms : List PoolDimmData) {pools : List Pool}
    (hpools : pools.length ≤ count.toNat)
    (hroom : count.toNat < (volatilePools data dimms pools).length) :
    (addDimmsVolatileCapacityToPools data count dimms pools).1 = .errArrayTooSmall := by
  induction dimms generalizing pools with
  | nil => exact absurd hroom (Nat.not_lt.mpr hpools)
  | cons dimm dimms ih =>
    unfold addDimmsVolatileCapacityToPools
    dsimp only
    by_cases hmemory : dimm.capacities.memoryCapacity = 0
    · rw [volatilePools_cons_of_eq data dimms pools hmemory] at hroom
      rw [if_neg (not_not.mpr hmemory)]
      exact ih hpools hroom
    rw [volatilePools_cons_of_ne data dimms pools hmemory] at hroom
    rw [if_pos hmemory]
    by_cases h : (-1, PoolType.volatile) ∈ pools.map Pool.key
    · obtain ⟨index, hindex, hmodify⟩ :=
        getPoolIndex_of_mem h (freshPool (-1, .volatile)) (enterDimm data dimm)
      have hfound : getPoolIndex (-1) .volatile pools = some index := hindex
      rw [← hmodify] at hroom
      rw [hfound]
      refine ih ?_ hroom
      rw [List.length_modify]
      exact hpools
    · have hfound : getPoolIndex (-1) .volatile pools = none := getPoolIndex_of_notMem h
      rw [upsert_of_notMem h] at hroom
      rw [hfound]
      dsimp only
      by_cases hlt : count.toNat ≤ pools.length
      · rw [if_pos hlt]
      · rw [if_neg hlt]
        refine ih ?_ hroom
        rw [List.length_append, List.length_singleton]
        omega

end Volatile

/-! ### What is made -/

/-- The pools of an inventory, as an array that is large enough holds them. -/
def populated (data : PoolData) : List Pool :=
  let volatile := volatilePools data data.dimmList []
  if data.capabilities.appDirectMode then isetPools data data.isetList volatile else volatile

/-- The sockets and types that an inventory has pools for. -/
def PoolData.poolKeys (data : PoolData) : Finset (ℤ × PoolType) :=
  (if ∃ dimm ∈ data.dimmList, dimm.capacities.memoryCapacity ≠ 0 then {(-1, .volatile)} else ∅) ∪
    if data.capabilities.appDirectMode then (data.isetList.map isetKey).toFinset else ∅

/-- The DIMMs with memory capacity are all entered into one pool. -/
private theorem toFinset_map_volatile (dimms : List PoolDimmData) :
    ((dimms.filter fun dimm => dimm.capacities.memoryCapacity ≠ 0).map
        fun _ => ((-1, .volatile) : ℤ × PoolType)).toFinset =
      if ∃ dimm ∈ dimms, dimm.capacities.memoryCapacity ≠ 0 then {(-1, .volatile)} else ∅ := by
  ext key
  rw [List.mem_toFinset, List.mem_map]
  constructor
  · rintro ⟨dimm, hdimm, rfl⟩
    obtain ⟨hmem, hmemory⟩ := List.mem_filter.mp hdimm
    rw [if_pos ⟨dimm, hmem, by simpa using hmemory⟩]
    exact Finset.mem_singleton_self _
  · intro hkey
    split_ifs at hkey with hany
    · obtain ⟨dimm, hmem, hmemory⟩ := hany
      refine ⟨dimm, List.mem_filter.mpr ⟨hmem, by simpa using hmemory⟩, ?_⟩
      exact (Finset.mem_singleton.mp hkey).symm
    · exact absurd hkey (Finset.notMem_empty _)

/-- The keys of the pools with the memory capacity. -/
private theorem keys_volatilePools (data : PoolData) (dimms : List PoolDimmData) :
    ((volatilePools data dimms []).map Pool.key).Nodup ∧
      ((volatilePools data dimms []).map Pool.key).toFinset =
        if ∃ dimm ∈ dimms, dimm.capacities.memoryCapacity ≠ 0 then {(-1, .volatile)} else ∅ := by
  have hstep := fun dimm => key_enterDimm data dimm
  have hnil : (([] : List Pool).map Pool.key).Nodup := by
    rw [List.map_nil]
    exact List.nodup_nil
  refine ⟨nodup_keys_upsertAll hstep key_freshPool hnil _, ?_⟩
  rw [volatilePools, toFinset_keys_upsertAll hstep key_freshPool, toFinset_map_volatile,
    List.map_nil, List.toFinset_nil, Finset.empty_union]

/-- The keys of the pools are distinct and are those of the inventory. -/
theorem keys_populated (data : PoolData) :
    ((populated data).map Pool.key).Nodup ∧
      ((populated data).map Pool.key).toFinset = data.poolKeys := by
  obtain ⟨hnd, hkeys⟩ := keys_volatilePools data data.dimmList
  unfold populated PoolData.poolKeys
  dsimp only
  split_ifs with happ hany
  · have hstep := fun iset => key_enterIset data iset
    refine ⟨nodup_keys_upsertAll hstep key_freshPool hnd _, ?_⟩
    rw [isetPools, toFinset_keys_upsertAll hstep key_freshPool, hkeys, if_pos hany]
  · have hstep := fun iset => key_enterIset data iset
    refine ⟨nodup_keys_upsertAll hstep key_freshPool hnd _, ?_⟩
    rw [isetPools, toFinset_keys_upsertAll hstep key_freshPool, hkeys, if_neg ‹_›]
  · refine ⟨hnd, ?_⟩
    rw [hkeys, if_pos ‹_›, Finset.union_empty]
  · refine ⟨hnd, ?_⟩
    rw [hkeys, if_neg ‹_›, Finset.union_empty]

/-- There is one pool for every key of the inventory. -/
theorem length_populated (data : PoolData) : (populated data).length = data.poolKeys.card := by
  obtain ⟨hnd, hkeys⟩ := keys_populated data
  rw [← List.length_map (f := Pool.key), ← List.toFinset_card_of_nodup hnd, hkeys]

/-- An array that is large enough holds all pools. -/
theorem populatePools_of_le {data : PoolData} {count : UInt8}
    (h : data.poolKeys.card ≤ count.toNat) :
    populatePools data count = (.ok data.poolKeys.card, populated data) := by
  rw [← length_populated] at h ⊢
  unfold populatePools
  unfold populated at h ⊢
  dsimp only at h ⊢
  by_cases happ : data.capabilities.appDirectMode = true
  · rw [if_pos happ] at h ⊢
    have hle := length_le_length_isetPools data data.isetList (volatilePools data data.dimmList [])
    rw [addDimmsVolatile_of_le data count _ (hle.trans h), if_pos rfl, if_pos happ,
      addInterleaveSetsToPools, addInterleaveSetsToPools_of_le data count _ h, if_pos rfl]
  · rw [if_neg happ] at h ⊢
    rw [addDimmsVolatile_of_le data count _ h, if_pos rfl, if_neg happ]

/-- An array that is too small is reported. -/
theorem populatePools_of_lt {data : PoolData} {count : UInt8}
    (h : count.toNat < data.poolKeys.card) :
    (populatePools data count).1 = .error .errArrayTooSmall := by
  rw [← length_populated] at h
  unfold populatePools
  unfold populated at h
  dsimp only at h ⊢
  by_cases hvolatile : (volatilePools data data.dimmList []).length ≤ count.toNat
  · rw [addDimmsVolatile_of_le data count _ hvolatile, if_pos rfl]
    by_cases happ : data.capabilities.appDirectMode = true
    · rw [if_pos happ] at h
      have hrc := addInterleaveSetsToPools_of_lt data count data.isetList hvolatile h
      rw [if_pos happ, addInterleaveSetsToPools, hrc, if_neg (by decide)]
    · rw [if_neg happ] at h
      exact absurd h (Nat.not_lt.mpr hvolatile)
  · have hrc := addDimmsVolatile_of_lt data count data.dimmList (Nat.zero_le _)
      (Nat.not_le.mp hvolatile)
    rw [hrc, if_neg (by decide)]

/-! ### What is counted -/

/-- What the loop over the interleave sets ends with, for `total` distinct pools. -/
private def Counted (total : ℕ) (result : ReturnCode × List (ℤ × PoolType)) : Prop :=
  (total ≤ maxPools → result.1 = .success ∧ result.2.length = total) ∧
    (maxPools < total → result.1 = .errBadPoolHealth ∧ result.2.length = maxPools + 1)

/-- A pool that is listed adds none. -/
private theorem toFinset_union_insert_of_mem {listed : List (ℤ × PoolType)} {key : ℤ × PoolType}
    (h : key ∈ listed) (keys : Finset (ℤ × PoolType)) :
    listed.toFinset ∪ insert key keys = listed.toFinset ∪ keys := by
  rw [Finset.union_insert, Finset.insert_eq_of_mem]
  exact Finset.mem_union_left _ (List.mem_toFinset.mpr h)

/-- A pool that is written becomes one of those listed. -/
private theorem toFinset_append_union (listed : List (ℤ × PoolType)) (key : ℤ × PoolType)
    (keys : Finset (ℤ × PoolType)) :
    (listed ++ [key]).toFinset ∪ keys = listed.toFinset ∪ insert key keys := by
  rw [List.toFinset_append, Finset.union_assoc, List.toFinset_cons, List.toFinset_nil,
    Finset.insert_union, Finset.empty_union]

/-- The loop over the interleave sets lists every pool once, up to the one that is too many. -/
private theorem countIsets_counted (isets : List NvmInterleaveSet) {listed : List (ℤ × PoolType)}
    (hnd : listed.Nodup) (hle : listed.length ≤ maxPools) :
    Counted (listed.toFinset ∪ (isets.map isetKey).toFinset).card (countIsets isets listed) := by
  induction isets generalizing listed with
  | nil =>
    rw [List.map_nil, List.toFinset_nil, Finset.union_empty, List.toFinset_card_of_nodup hnd]
    exact ⟨fun _ => ⟨rfl, rfl⟩, fun hlt => absurd hlt (Nat.not_lt.mpr hle)⟩
  | cons iset isets ih =>
    rw [List.map_cons, List.toFinset_cons, countIsets]
    split_ifs with hmem hfull
    · rw [toFinset_union_insert_of_mem hmem]
      exact ih hnd hle
    · have hnd' : (listed ++ [isetKey iset]).Nodup := List.nodup_append.mpr
        ⟨hnd, List.nodup_singleton _, fun key hkey key' hkey' heq =>
          hmem (List.mem_singleton.mp hkey' ▸ heq ▸ hkey)⟩
      have hcard : (listed ++ [isetKey iset]).length ≤
          (listed.toFinset ∪ insert (isetKey iset) (isets.map isetKey).toFinset).card := by
        rw [← toFinset_append_union, ← List.toFinset_card_of_nodup hnd']
        exact Finset.card_le_card Finset.subset_union_left
      rw [List.length_append, List.length_singleton] at hcard
      refine ⟨fun hle' => absurd (hcard.trans hle') (Nat.not_le.mpr hfull), fun _ => ⟨rfl, ?_⟩⟩
      rw [List.length_append, List.length_singleton]
      omega
    · rw [← toFinset_append_union]
      refine ih ?_ ?_
      · exact List.nodup_append.mpr ⟨hnd, List.nodup_singleton _, fun key hkey key' hkey' heq =>
          hmem (List.mem_singleton.mp hkey' ▸ heq ▸ hkey)⟩
      · rw [List.length_append, List.length_singleton]
        exact Nat.not_lt.mp hfull

/-- The loop over the DIMMs lists the volatile pool if there is memory capacity. -/
private theorem countVolatile_eq (dimms : List PoolDimmData) :
    countVolatile dimms =
      if ∃ dimm ∈ dimms, dimm.capacities.memoryCapacity ≠ 0 then [(-1, .volatile)] else [] := by
  induction dimms using List.reverseRecOn with
  | nil => simp [countVolatile]
  | append_singleton dimms dimm ih =>
    have hstep : countVolatile (dimms ++ [dimm]) =
        if dimm.capacities.memoryCapacity ≠ 0 ∧ (-1, PoolType.volatile) ∉ countVolatile dimms then
          countVolatile dimms ++ [(-1, .volatile)]
        else countVolatile dimms := by
      rw [countVolatile, List.foldl_append, List.foldl_cons, List.foldl_nil]
      rfl
    rw [hstep, ih]
    by_cases hany : ∃ dimm ∈ dimms, dimm.capacities.memoryCapacity ≠ 0
    · have hall : ∃ dimm' ∈ dimms ++ [dimm], dimm'.capacities.memoryCapacity ≠ 0 := by
        obtain ⟨dimm', hmem, hmemory⟩ := hany
        exact ⟨dimm', List.mem_append_left _ hmem, hmemory⟩
      rw [if_pos hany, if_pos hall, if_neg]
      rintro ⟨-, hnot⟩
      exact hnot (List.mem_singleton.mpr rfl)
    · rw [if_neg hany]
      by_cases hmemory : dimm.capacities.memoryCapacity = 0
      · rw [if_neg (fun h => h.1 hmemory), if_neg]
        rintro ⟨dimm', hmem, hmemory'⟩
        rcases List.mem_append.mp hmem with hmem | hmem
        · exact hany ⟨dimm', hmem, hmemory'⟩
        · exact hmemory' (List.mem_singleton.mp hmem ▸ hmemory)
      · rw [if_pos ⟨hmemory, List.not_mem_nil⟩,
          if_pos ⟨dimm, List.mem_append_right _ List.mem_cons_self, hmemory⟩, List.nil_append]

/-- `count_pools` lists one pool for every key of the inventory, up to the one that is too many. -/
private theorem listPools_counted (data : PoolData) : Counted data.poolKeys.card (listPools data) := by
  have hlist : (countVolatile data.dimmList).Nodup ∧ (countVolatile data.dimmList).length ≤ 1 ∧
      (countVolatile data.dimmList).toFinset =
        if ∃ dimm ∈ data.dimmList, dimm.capacities.memoryCapacity ≠ 0 then {(-1, .volatile)}
        else ∅ := by
    rw [countVolatile_eq]
    split_ifs
    · exact ⟨List.nodup_singleton _, Nat.le_refl _, rfl⟩
    · exact ⟨List.nodup_nil, Nat.zero_le _, rfl⟩
  obtain ⟨hnd, hlength, hkeys⟩ := hlist
  have hle : (countVolatile data.dimmList).length ≤ maxPools := hlength.trans (by decide)
  unfold PoolData.poolKeys listPools
  rw [← hkeys]
  by_cases happ : data.capabilities.appDirectMode = true
  · rw [if_pos happ, if_pos happ]
    exact countIsets_counted data.isetList hnd hle
  · rw [if_neg happ, if_neg happ, Finset.union_empty, List.toFinset_card_of_nodup hnd]
    exact ⟨fun _ => ⟨rfl, rfl⟩, fun hlt => absurd hlt (Nat.not_lt.mpr hle)⟩

/-! ### Counting against making -/

/-- What is counted is what is made in an array of that size, and no entry of the array of
`MAX_POOLS` pools that `count_pools` lists them in is beyond its end.  The entries are written in
order, and those before the last are the ones that are read. -/
structure CountsRight (data : PoolData) : Prop where
  /-- As many pools are made as are counted, and the array is not too small for them. -/
  populates : ∀ n, countPools data = .ok n →
    (populatePools data (UInt8.ofNat n)).1 = .ok n ∧
      (populatePools data (UInt8.ofNat n)).2.length = n
  /-- The entries that are listed are within the array. -/
  index_lt : ∀ index, index < (listPools data).2.length → index < maxPools

/-- Counting is right exactly for the inventories with at most `MAX_POOLS` pools. -/
theorem countsRight_iff (data : PoolData) :
    CountsRight data ↔ data.poolKeys.card ≤ maxPools := by
  obtain ⟨hfew, hmany⟩ := listPools_counted data
  constructor
  · intro h
    by_contra hlt
    obtain ⟨-, hlength⟩ := hmany (Nat.not_le.mp hlt)
    exact absurd (h.index_lt maxPools (by omega)) (Nat.lt_irrefl _)
  · intro hle
    obtain ⟨hrc, hlength⟩ := hfew hle
    refine ⟨fun n hn => ?_, fun index hindex => by omega⟩
    rw [countPools, if_pos hrc, hlength, Except.ok.injEq] at hn
    subst hn
    have hbyte : (UInt8.ofNat data.poolKeys.card).toNat = data.poolKeys.card := by
      rw [UInt8.toNat_ofNat']
      unfold maxPools at hle
      omega
    rw [populatePools_of_le (Nat.le_of_eq hbyte.symm), length_populated]
    exact ⟨rfl, rfl⟩

/-- An interleave set of a socket, with one DIMM. -/
def socketIset (socket : UInt8) (attributes : UInt64) : NvmInterleaveSet where
  socketId := socket
  attributes := attributes
  dimms := [{ handle := socket.toUInt32 }]
  length_le := by
    rw [List.length_singleton]
    decide

/-- An inventory with a mirrored interleave set and another one on each of five sockets. -/
def fiveSockets : PoolData where
  capabilities := { appDirectMode := true }
  dimmList := [{}]
  isetList := [0, 1, 2, 3, 4].flatMap fun socket =>
    [socketIset socket 0, socketIset socket efiMemoryMoreReliable]
  namespaceList := []
  fillSettings := fun _ _ settings => (false, settings)

/-- Counting the ten pools of five sockets writes behind the array. -/
theorem not_countsRight : ¬ ∀ data : PoolData, CountsRight data := by
  intro h
  have hindex := (h fiveSockets).index_lt 9 (by decide)
  exact absurd hindex (by decide)

end IxpDimm
