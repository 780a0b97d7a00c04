import IxpDimm.Foundation.Word
import IxpDimm.Pool.Count
import Mathlib.Order.Lattice

/-!
# What a pool is made of

A pool stands for a set of DIMMs and a set of interleave sets.  Its capacity is the sum over its
DIMMs, its health the worst health that any of them brings in, and its free capacity the sum of what
its interleave sets offer, or nothing if a DIMM is locked.  `Summarises` relates a pool of the code to
its DIMMs and interleave sets in this sense.  Making a fresh pool and entering an interleave set, or
a DIMM with memory capacity, keep the relation (`Summarises.enterIset`, `Summarises.enterDimm`),
although the code adds free capacity to a locked pool before it zeroes it again.
-/

namespace IxpDimm

open Foundation

/-! ### Healths by their severity -/

namespace PoolHealth

/-- The order in which `KEEP_POOL_HEALTH` holds on to a health; the normal health gives way to every
other one, although its number is not the least. -/
def severity : PoolHealth → ℕ
  | normal => 0 | unknown => 1 | pending => 2 | error => 3 | locked => 4

/-- Different healths have different severities. -/
theorem severity_injective : Function.Injective severity := by
  intro h h' heq
  cases h <;> cases h' <;> first | rfl | cases heq

instance : LinearOrder PoolHealth := LinearOrder.lift' severity severity_injective

/-- The worst of some healths. -/
def worst (healths : List PoolHealth) : PoolHealth := healths.foldr max .normal

/-- Nothing is better than the normal health. -/
@[simp] theorem normal_le (h : PoolHealth) : normal ≤ h := Nat.zero_le h.severity

/-- Nothing is worse than a lock. -/
@[simp] theorem le_locked (h : PoolHealth) : h ≤ locked := by
  cases h <;> decide

@[simp] theorem worst_nil : worst [] = .normal := rfl

/-- The worst of two lists. -/
theorem worst_append (l₁ l₂ : List PoolHealth) : worst (l₁ ++ l₂) = max (worst l₁) (worst l₂) := by
  induction l₁ with
  | nil => exact (max_eq_right (normal_le _)).symm
  | cons h l₁ ih =>
    have hcons : ∀ l, worst (h :: l) = max h (worst l) := fun _ => rfl
    rw [List.cons_append, hcons, hcons, ih, max_assoc]

/-- The worst health does not depend on the order. -/
theorem worst_eq_of_perm {l₁ l₂ : List PoolHealth} (h : l₁.Perm l₂) : worst l₁ = worst l₂ :=
  h.foldr_eq _

/-- The worse of two healths is a lock exactly when one of them is. -/
theorem max_eq_locked_iff {h h' : PoolHealth} : max h h' = .locked ↔ h = .locked ∨ h' = .locked := by
  constructor
  · intro hmax
    rcases max_choice h h' with hleft | hright
    · exact Or.inl (hleft.symm.trans hmax)
    · exact Or.inr (hright.symm.trans hmax)
  · rintro (rfl | rfl)
    · exact max_eq_left (le_locked _)
    · exact max_eq_right (le_locked _)

/-- The worst health is a lock exactly when there is one. -/
theorem worst_eq_locked_iff {l : List PoolHealth} : worst l = .locked ↔ .locked ∈ l := by
  induction l with
  | nil => simp
  | cons h l ih =>
    have hcons : worst (h :: l) = max h (worst l) := rfl
    rw [hcons, max_eq_locked_iff, ih, List.mem_cons, eq_comm]

end PoolHealth

open PoolHealth

/-- `KEEP_POOL_HEALTH` holds on to the worse of two healths. -/
theorem keepPoolHealth_eq_max {h new : PoolHealth} (hnew : new ≠ .normal) :
    keepPoolHealth h new = max h new := by
  cases h <;> cases new <;> first | rfl | exact absurd rfl hnew

/-- Several healths, none of them normal, are kept by the worst of them. -/
theorem foldl_keepPoolHealth {l : List PoolHealth} (hl : .normal ∉ l) (h : PoolHealth) :
    l.foldl keepPoolHealth h = max h (worst l) := by
  induction l generalizing h with
  | nil => exact (max_eq_left (normal_le h)).symm
  | cons new l ih =>
    rw [List.mem_cons, not_or] at hl
    have hcons : worst (new :: l) = max new (worst l) := rfl
    rw [List.foldl_cons, ih hl.2, keepPoolHealth_eq_max (Ne.symm hl.1), hcons, max_assoc]

/-- A DIMM that is locked. -/
def PoolDimmData.IsLocked (dimm : PoolDimmData) : Prop :=
  dimm.discovery.lockState = .locked ∨ dimm.discovery.lockState = .passphraseLimit

/-- No DIMM brings in the normal health, and only a locked one brings in a lock. -/
theorem mem_dimmHealths (dimm : PoolDimmData) :
    .normal ∉ dimmHealths dimm ∧ (.locked ∈ dimmHealths dimm ↔ dimm.IsLocked) := by
  unfold dimmHealths PoolDimmData.IsLocked
  split_ifs <;> simp_all

/-- No interleave set brings in the normal health or a lock. -/
theorem notMem_setHealths (set : InterleaveSet) :
    .normal ∉ setHealths set ∧ .locked ∉ setHealths set := by
  unfold setHealths
  split_ifs <;> simp

/-! ### DIMMs of a pool -/

/-- What pools are made from, where no two manageable DIMMs have the same handle or the same unique
id. -/
structure Inventory extends PoolData where
  /-- A DIMM has a handle of its own. -/
  handles_nodup : (dimmList.map fun dimm => dimm.discovery.deviceHandle).Nodup
  /-- A DIMM has a unique id of its own. -/
  uids_nodup : (dimmList.map fun dimm => dimm.discovery.uid).Nodup

/-- The texts of two DIMMs compare equal exactly when they are. -/
theorem uidCmp_uid_iff (dimm dimm' : PoolDimmData) :
    uidCmp dimm.discovery.uid dimm'.discovery.uid = true ↔
      dimm.discovery.uid = dimm'.discovery.uid := by
  rw [uidCmp_iff, uidKey_uid, uidKey_uid]

/-- A DIMM of an inventory is known by its unique id. -/
theorem Inventory.eq_of_uid_eq (inv : Inventory) {dimm dimm' : PoolDimmData}
    (hdimm : dimm ∈ inv.dimmList) (hdimm' : dimm' ∈ inv.dimmList)
    (h : dimm.discovery.uid = dimm'.discovery.uid) : dimm = dimm' :=
  List.inj_on_of_nodup_map inv.uids_nodup hdimm hdimm' h

/-- The entry that a DIMM has in a pool of a type. -/
def poolDimmOf (type : PoolType) (dimm : PoolDimmData) : PoolDimm :=
  ⟨dimm.discovery.uid, dimm.capacities.capacity,
    if type = .volatile then dimm.capacities.memoryCapacity else 0⟩

/-- The DIMMs of a pool are `added`, each once, and its capacity and health are theirs together with
the health `base`. -/
structure Members (inv : Inventory) (base : PoolHealth) (pool : Pool) (added : List PoolDimmData) :
    Prop where
  /-- The entries of the pool are those of the DIMMs. -/
  dimms_eq : pool.dimms = added.map (poolDimmOf pool.type)
  /-- No DIMM is added twice. -/
  nodup : added.Nodup
  /-- The DIMMs are manageable ones. -/
  subset : added ⊆ inv.dimmList
  /-- The capacity is the sum over the DIMMs. -/
  capacity_eq : pool.capacity.toNat =
    (added.map fun dimm => (dimmCapacity pool.type dimm.capacities).toNat).sum % 2 ^ 64
  /-- The health is the worst one. -/
  health_eq : pool.health = max base (worst (added.flatMap dimmHealths))

section Members

variable {inv : Inventory} {base : PoolHealth} {pool : Pool} {added : List PoolDimmData}
  {dimm : PoolDimmData}

/-- The code finds a DIMM in a pool exactly when it has been added. -/
theorem Members.isInPool_iff (h : Members inv base pool added) (hdimm : dimm ∈ inv.dimmList) :
    isInPool dimm.discovery.uid pool = true ↔ dimm ∈ added := by
  rw [isInPool, h.dimms_eq, List.any_map, List.any_eq_true]
  constructor
  · rintro ⟨dimm', hmem, hcmp⟩
    have hcmp' : uidCmp dimm'.discovery.uid dimm.discovery.uid = true := hcmp
    have huid := (uidCmp_uid_iff dimm' dimm).mp hcmp'
    exact inv.eq_of_uid_eq (h.subset hmem) hdimm huid ▸ hmem
  · intro hmem
    exact ⟨dimm, hmem, (uidCmp_uid_iff dimm dimm).mpr rfl⟩

/-- `add_dimm_to_pool` for a DIMM that is in the pool. -/
theorem addDimmToPool_of_isInPool (data : PoolData)
    (h : isInPool dimm.discovery.uid pool = true) :
    addDimmToPool data dimm pool =
      { pool with
        freeCapacity := addFreeCapacities pool (getDimmFreeCapacities dimm.discovery.uid pool) } := by
  unfold addDimmToPool
  exact if_pos h

/-- The free capacities that a new DIMM brings in. -/
def newFreeCapacities (data : PoolData) (dimm : PoolDimmData) (pool : Pool) :
    DeviceFreeCapacities :=
  if data.capabilities.appDirectMode ∧ (pool.type = .persistent ∨ pool.type = .persistentMirror) then
    getDimmFreeCapacities dimm.discovery.uid pool
  else {}

/-- `add_dimm_to_pool` for a DIMM that is not in the pool. -/
theorem addDimmToPool_of_not_isInPool (data : PoolData)
    (h : ¬ isInPool dimm.discovery.uid pool = true) :
    addDimmToPool data dimm pool =
      { pool with
        dimms := pool.dimms ++ [poolDimmOf pool.type dimm]
        capacity := pool.capacity + dimmCapacity pool.type dimm.capacities
        freeCapacity := addFreeCapacities pool (newFreeCapacities data dimm pool) +
          (poolDimmOf pool.type dimm).memoryCapacity
        health := (dimmHealths dimm).foldl keepPoolHealth pool.health } := by
  unfold addDimmToPool
  exact if_neg h

/-- Adding a DIMM to a pool keeps what its capacity and health are. -/
theorem Members.addDimmToPool (h : Members inv base pool added) (hdimm : dimm ∈ inv.dimmList) :
    ∃ added', Members inv base (addDimmToPool inv.toPoolData dimm pool) added' ∧
      ∀ x, x ∈ added' ↔ x ∈ added ∨ x = dimm := by
  by_cases hmem : dimm ∈ added
  · refine ⟨added, ?_, fun x => ⟨Or.inl, ?_⟩⟩
    · rw [addDimmToPool_of_isInPool _ ((h.isInPool_iff hdimm).mpr hmem)]
      exact ⟨h.dimms_eq, h.nodup, h.subset, h.capacity_eq, h.health_eq⟩
    · rintro (hx | rfl)
      · exact hx
      · exact hmem
  · have hnot : ¬ isInPool dimm.discovery.uid pool = true :=
      fun hin => hmem ((h.isInPool_iff hdimm).mp hin)
    refine ⟨added ++ [dimm], ?_, fun x => ?_⟩
    · rw [addDimmToPool_of_not_isInPool _ hnot]
      refine ⟨?_, ?_, ?_, ?_, ?_⟩
      · rw [List.map_append, List.map_singleton, ← h.dimms_eq]
      · refine List.nodup_append.mpr ⟨h.nodup, List.nodup_singleton _, ?_⟩
        rintro x hx y hy rfl
        exact hmem (List.mem_singleton.mp hy ▸ hx)
      · refine List.append_subset.mpr ⟨h.subset, fun x hx => ?_⟩
        exact List.mem_singleton.mp hx ▸ hdimm
      · rw [UInt64.toNat_add, h.capacity_eq, Nat.mod_add_mod, List.map_append, List.sum_append,
          List.map_singleton, List.sum_singleton]
      · rw [foldl_keepPoolHealth (mem_dimmHealths dimm).1, h.health_eq, List.flatMap_append,
          worst_append, List.flatMap_singleton, max_assoc]
    · rw [List.mem_append, List.mem_singleton]

/-- Adding several DIMMs to a pool keeps what its capacity and health are. -/
theorem Members.foldl_addDimmToPool (h : Members inv base pool added) {dimms : List PoolDimmData}
    (hdimms : dimms ⊆ inv.dimmList) :
    ∃ added', Members inv base
        (dimms.foldl (fun pool dimm => IxpDimm.addDimmToPool inv.toPoolData dimm pool) pool) added' ∧
      ∀ x, x ∈ added' ↔ x ∈ added ∨ x ∈ dimms := by
  induction dimms generalizing pool added with
  | nil => exact ⟨added, h, fun x => by simp⟩
  | cons dimm dimms ih =>
    obtain ⟨hdimm, hrest⟩ := List.cons_subset.mp hdimms
    obtain ⟨added₁, h₁, hmem₁⟩ := h.addDimmToPool hdimm
    obtain ⟨added', h', hmem'⟩ := ih h₁ hrest
    refine ⟨added', h', fun x => ?_⟩
    rw [hmem', hmem₁, List.mem_cons, or_assoc]

end Members

/-! ### Free capacity -/

/-- What an interleave set offers for each of its DIMMs, to a pool of a type. -/
def memberShare (type : PoolType) (set : InterleaveSet) : UInt64 :=
  match type with
  | .persistent =>
    if set.mirrored then 0
    else if set.settings.ways = .ways1 then set.availableSize
    else set.availableSize / UInt64.ofNat set.dimmCount
  | .persistentMirror =>
    if set.mirrored then set.availableSize / UInt64.ofNat set.dimmCount else 0
  | _ => 0

/-- What an interleave set of the driver offers altogether, over the exact integers. -/
def offeredBy (data : PoolData) (type : PoolType) (iset : NvmInterleaveSet) : ℕ :=
  let set := nvmInterleaveToInterleave data iset
  (setDimms data set).length * (memberShare type set).toNat

/-- A pool that interleave sets are entered into. -/
def PoolType.IsPersistent (type : PoolType) : Prop := type = .persistent ∨ type = .persistentMirror

/-- The DIMM is a member of the last interleave set of a pool. -/
structure LastSet (set : InterleaveSet) (uid : Uid) (pool : Pool) : Prop where
  /-- The set is the last one. -/
  last_eq : pool.ilsets.getLastD {} = set
  /-- The DIMM is a member of it. -/
  member : set.members.any (fun member => uidCmp uid member) = true

/-- The free capacities of a member add its share to the pool. -/
theorem addFreeCapacities_member {set : InterleaveSet} {uid : Uid} {pool : Pool}
    (h : LastSet set uid pool) :
    addFreeCapacities pool (getDimmFreeCapacities uid pool) =
      pool.freeCapacity + memberShare pool.type set := by
  have hcaps : getDimmFreeCapacities uid pool =
      if set.mirrored then
        { appDirectMirroredCapacity := set.availableSize / UInt64.ofNat set.dimmCount }
      else if set.settings.ways = .ways1 then { appDirectByoneCapacity := set.availableSize }
      else { appDirectInterleavedCapacity := set.availableSize / UInt64.ofNat set.dimmCount } := by
    rw [getDimmFreeCapacities, h.last_eq]
    exact if_pos h.member
  rw [hcaps]
  unfold addFreeCapacities memberShare
  cases pool.type with
  | unknown => exact (UInt64.add_zero _).symm
  | volatile => exact (UInt64.add_zero _).symm
  | persistent =>
    dsimp only
    split_ifs
    · rfl
    · rw [UInt64.add_zero]
    · rw [UInt64.zero_add]
  | persistentMirror =>
    dsimp only
    split_ifs
    · rfl
    · rfl
    · rfl

/-- A DIMM that is added to a persistent pool adds its share to the free capacity, whether it is new
or not. -/
theorem freeCapacity_addDimmToPool {data : PoolData} {dimm : PoolDimmData} {set : InterleaveSet}
    {pool : Pool} (happ : data.capabilities.appDirectMode = true) (htype : pool.type.IsPersistent)
    (hlast : LastSet set dimm.discovery.uid pool) :
    (addDimmToPool data dimm pool).freeCapacity =
      pool.freeCapacity + memberShare pool.type set := by
  rw [← addFreeCapacities_member hlast]
  by_cases hin : isInPool dimm.discovery.uid pool = true
  · rw [addDimmToPool_of_isInPool data hin]
  · have hmemory : (poolDimmOf pool.type dimm).memoryCapacity = 0 := by
      rcases htype with htype | htype
      · rw [htype]
        rfl
      · rw [htype]
        rfl
    have hfree : newFreeCapacities data dimm pool =
        getDimmFreeCapacities dimm.discovery.uid pool := if_pos ⟨happ, htype⟩
    rw [addDimmToPool_of_not_isInPool data hin, hmemory, hfree]
    exact UInt64.add_zero _

/-- A DIMM does not change the interleave sets of its pool. -/
@[simp] theorem ilsets_addDimmToPool (data : PoolData) (dimm : PoolDimmData) (pool : Pool) :
    (addDimmToPool data dimm pool).ilsets = pool.ilsets := by
  by_cases hin : isInPool dimm.discovery.uid pool = true
  · rw [addDimmToPool_of_isInPool data hin]
  · rw [addDimmToPool_of_not_isInPool data hin]

/-- A DIMM does not change the type of its pool. -/
@[simp] theorem type_addDimmToPool (data : PoolData) (dimm : PoolDimmData) (pool : Pool) :
    (addDimmToPool data dimm pool).type = pool.type :=
  congrArg Prod.snd (key_addDimmToPool data dimm pool)

/-- The DIMMs of an interleave set add their shares to the free capacity. -/
theorem freeCapacity_foldl_addDimmToPool {data : PoolData} {set : InterleaveSet}
    (happ : data.capabilities.appDirectMode = true) (dimms : List PoolDimmData) {pool : Pool}
    (htype : pool.type.IsPersistent)
    (hlast : ∀ dimm ∈ dimms, LastSet set dimm.discovery.uid pool) :
    (dimms.foldl (fun pool dimm => addDimmToPool data dimm pool) pool).freeCapacity.toNat =
        (pool.freeCapacity.toNat + dimms.length * (memberShare pool.type set).toNat) % 2 ^ 64 ∧
      (dimms.foldl (fun pool dimm => addDimmToPool data dimm pool) pool).ilsets = pool.ilsets := by
  induction dimms generalizing pool with
  | nil =>
    have hlt := pool.freeCapacity.toNat_lt
    rw [List.foldl_nil, List.length_nil, Nat.zero_mul, Nat.add_zero, Nat.mod_eq_of_lt hlt]
    exact ⟨rfl, rfl⟩
  | cons dimm dimms ih =>
    have hhead := hlast dimm List.mem_cons_self
    have hnext : ∀ dimm' ∈ dimms, LastSet set dimm'.discovery.uid (addDimmToPool data dimm pool) := by
      intro dimm' hdimm'
      obtain ⟨hset, hmember⟩ := hlast dimm' (List.mem_cons_of_mem _ hdimm')
      refine ⟨?_, hmember⟩
      rw [ilsets_addDimmToPool]
      exact hset
    obtain ⟨hfree, hilsets⟩ := ih (by rwa [type_addDimmToPool]) hnext
    rw [List.foldl_cons, hfree, hilsets, ilsets_addDimmToPool, type_addDimmToPool,
      freeCapacity_addDimmToPool happ htype hhead, UInt64.toNat_add, Nat.mod_add_mod,
      List.length_cons, Nat.succ_mul]
    refine ⟨?_, rfl⟩
    congr 1
    omega

/-! ### Pools and what they are made of -/

/-- The healths that some interleave sets bring into their pool. -/
def isetHealths (data : PoolData) (isets : List NvmInterleaveSet) : List PoolHealth :=
  isets.flatMap fun iset => setHealths (nvmInterleaveToInterleave data iset)

/-- The free capacity of a pool that is not locked, over the exact integers: what its interleave sets
offer, and the memory capacity of its DIMMs. -/
def offered (data : PoolData) (type : PoolType) (added : List PoolDimmData)
    (isets : List NvmInterleaveSet) : ℕ :=
  (isets.map (offeredBy data type)).sum +
    (added.map fun dimm => (poolDimmOf type dimm).memoryCapacity.toNat).sum

/-- A pool is made of the DIMMs `added` and the interleave sets `isets`. -/
structure Summarises (inv : Inventory) (pool : Pool) (added : List PoolDimmData)
    (isets : List NvmInterleaveSet) : Prop
    extends Members inv (worst (isetHealths inv.toPoolData isets)) pool added where
  /-- The interleave sets of the pool. -/
  ilsets_eq : pool.ilsets = isets.map (nvmInterleaveToInterleave inv.toPoolData)
  /-- The free capacity is what is offered, unless the pool is locked. -/
  free_eq : pool.freeCapacity.toNat =
    if pool.health = .locked then 0 else offered inv.toPoolData pool.type added isets % 2 ^ 64

/-- A fresh pool is made of nothing. -/
theorem summarises_freshPool (inv : Inventory) (key : ℤ × PoolType) :
    Summarises inv (freshPool key) [] [] where
  dimms_eq := rfl
  nodup := List.nodup_nil
  subset := List.nil_subset _
  capacity_eq := rfl
  health_eq := rfl
  ilsets_eq := rfl
  free_eq := rfl

section Enter

variable {inv : Inventory} {pool : Pool} {added : List PoolDimmData} {isets : List NvmInterleaveSet}

/-- `update_pool_security_from_iset` changes the security fields only. -/
theorem updatePoolSecurityFromIset_eq (data : PoolData) (set : InterleaveSet) (pool : Pool) :
    ∃ enabled capable erase, updatePoolSecurityFromIset data set pool =
      { pool with
        encryptionEnabled := enabled, encryptionCapable := capable, eraseCapable := erase } := by
  unfold updatePoolSecurityFromIset
  split_ifs
  · exact ⟨_, _, _, rfl⟩
  · exact ⟨pool.encryptionEnabled, pool.encryptionCapable, pool.eraseCapable, rfl⟩

/-- Zeroing the free capacity of a locked pool, field by field. -/
theorem zeroPoolFreeCapacityIfLocked_eq (pool : Pool) :
    zeroPoolFreeCapacityIfLocked pool =
      { pool with freeCapacity := if pool.health = .locked then 0 else pool.freeCapacity } := by
  unfold zeroPoolFreeCapacityIfLocked
  split_ifs
  · rfl
  · rfl

/-- A DIMM that is found for an interleave set is a manageable one and a member of it. -/
theorem mem_setDimms {data : PoolData} {set : InterleaveSet} {dimm : PoolDimmData}
    (h : dimm ∈ setDimms data set) :
    dimm ∈ data.dimmList ∧
      set.members.any (fun member => uidCmp dimm.discovery.uid member) = true := by
  obtain ⟨member, hmember, hfind⟩ := List.mem_filterMap.mp h
  have hcmp : uidCmp dimm.discovery.uid member = true := by
    simpa using List.find?_some hfind
  exact ⟨List.mem_of_find?_eq_some hfind, List.any_eq_true.mpr ⟨member, hmember, hcmp⟩⟩

/-- The DIMMs of a persistent pool have no memory capacity in it. -/
theorem sum_memoryCapacity_of_isPersistent {type : PoolType} (htype : type.IsPersistent)
    (added : List PoolDimmData) :
    (added.map fun dimm => (poolDimmOf type dimm).memoryCapacity.toNat).sum = 0 := by
  have hzero : ∀ dimm, (poolDimmOf type dimm).memoryCapacity.toNat = 0 := by
    intro dimm
    rcases htype with rfl | rfl
    · rfl
    · rfl
  refine List.sum_eq_zero fun n hn => ?_
  obtain ⟨dimm, -, rfl⟩ := List.mem_map.mp hn
  exact hzero dimm

/-- What the pool becomes while an interleave set is added: the set is appended and its DIMMs are
added. -/
private def withSet (data : PoolData) (set : InterleaveSet) (pool : Pool) : Pool :=
  (setDimms data set).foldl (fun pool dimm => addDimmToPool data dimm pool)
    { pool with ilsets := pool.ilsets ++ [set] }

/-- The DIMMs of an interleave set become members of the pool, and add what the set offers. -/
private theorem Members.withSet {base : PoolHealth} (h : Members inv base pool added)
    (happ : inv.capabilities.appDirectMode = true) (htype : pool.type.IsPersistent)
    (set : InterleaveSet) :
    (∃ added', Members inv base (withSet inv.toPoolData set pool) added' ∧
      ∀ x, x ∈ added' ↔ x ∈ added ∨ x ∈ setDimms inv.toPoolData set) ∧
    (withSet inv.toPoolData set pool).ilsets = pool.ilsets ++ [set] ∧
    (withSet inv.toPoolData set pool).type = pool.type ∧
    (withSet inv.toPoolData set pool).freeCapacity.toNat = (pool.freeCapacity.toNat +
      (setDimms inv.toPoolData set).length * (memberShare pool.type set).toNat) % 2 ^ 64 := by
  have hstart : Members inv base { pool with ilsets := pool.ilsets ++ [set] } added :=
    ⟨h.dimms_eq, h.nodup, h.subset, h.capacity_eq, h.health_eq⟩
  have hsubset : setDimms inv.toPoolData set ⊆ inv.dimmList :=
    fun dimm hdimm => (mem_setDimms hdimm).1
  have hlast : ∀ dimm ∈ setDimms inv.toPoolData set,
      LastSet set dimm.discovery.uid { pool with ilsets := pool.ilsets ++ [set] } := by
    intro dimm hdimm
    exact ⟨List.getLastD_concat .., (mem_setDimms hdimm).2⟩
  have htype₁ : ({ pool with ilsets := pool.ilsets ++ [set] } : Pool).type.IsPersistent := htype
  obtain ⟨hfree, hilsets⟩ := freeCapacity_foldl_addDimmToPool happ
    (setDimms inv.toPoolData set) htype₁ hlast
  refine ⟨hstart.foldl_addDimmToPool hsubset, hilsets, ?_, hfree⟩
  exact congrArg Prod.snd (key_foldl_addDimmToPool inv.toPoolData (setDimms inv.toPoolData set)
    { pool with ilsets := pool.ilsets ++ [set] })

/-- A lock among the DIMMs of a pool stays when DIMMs are added. -/
private theorem worst_eq_locked_of_subset {dimms dimms' : List PoolDimmData} (hsubset : dimms ⊆ dimms')
    (h : worst (dimms.flatMap dimmHealths) = .locked) :
    worst (dimms'.flatMap dimmHealths) = .locked := by
  rw [worst_eq_locked_iff, List.mem_flatMap] at h ⊢
  obtain ⟨dimm, hdimm, hlocked⟩ := h
  exact ⟨dimm, hsubset hdimm, hlocked⟩

/-- Entering an interleave set into its pool. -/
theorem Summarises.enterIset (h : Summarises inv pool added isets)
    (happ : inv.capabilities.appDirectMode = true) (htype : pool.type.IsPersistent)
    (iset : NvmInterleaveSet) :
    ∃ added', Summarises inv (enterIset inv.toPoolData iset pool) added' (isets ++ [iset]) ∧
      ∀ x, x ∈ added' ↔ x ∈ added ∨
        x ∈ setDimms inv.toPoolData (nvmInterleaveToInterleave inv.toPoolData iset) := by
  obtain ⟨⟨added', hmembers, hadded⟩, hilsets, htype', hfree⟩ :=
    h.toMembers.withSet happ htype (nvmInterleaveToInterleave inv.toPoolData iset)
  refine ⟨added', ?_, hadded⟩
  -- the security fields play no part, and the health of the set is kept before a lock is looked at
  obtain ⟨enabled, capable, erase, hsecurity⟩ := updatePoolSecurityFromIset_eq inv.toPoolData
    (nvmInterleaveToInterleave inv.toPoolData iset)
    { withSet inv.toPoolData (nvmInterleaveToInterleave inv.toPoolData iset) pool with
      health := (setHealths (nvmInterleaveToInterleave inv.toPoolData iset)).foldl keepPoolHealth
        (withSet inv.toPoolData (nvmInterleaveToInterleave inv.toPoolData iset) pool).health }
  have henter : addInterleaveSetToPool inv.toPoolData iset pool = _ := hsecurity
  have hbase : worst (isetHealths inv.toPoolData (isets ++ [iset])) =
      max (worst (isetHealths inv.toPoolData isets))
        (worst (setHealths (nvmInterleaveToInterleave inv.toPoolData iset))) := by
    rw [isetHealths, List.flatMap_append, worst_append, List.flatMap_singleton, isetHealths]
  have hhealth : (setHealths (nvmInterleaveToInterleave inv.toPoolData iset)).foldl keepPoolHealth
      (withSet inv.toPoolData (nvmInterleaveToInterleave inv.toPoolData iset) pool).health =
      max (worst (isetHealths inv.toPoolData (isets ++ [iset])))
        (worst (added'.flatMap dimmHealths)) := by
    rw [foldl_keepPoolHealth (notMem_setHealths _).1, hmembers.health_eq, hbase, max_right_comm]
  have hlocked : pool.health = .locked → max (worst (isetHealths inv.toPoolData (isets ++ [iset])))
      (worst (added'.flatMap dimmHealths)) = .locked := by
    rw [h.health_eq, max_eq_locked_iff, max_eq_locked_iff, hbase, max_eq_locked_iff]
    rintro (hlocked | hlocked)
    · exact Or.inl (Or.inl hlocked)
    · exact Or.inr (worst_eq_locked_of_subset (fun x hx => (hadded x).mpr (Or.inl hx)) hlocked)
  rw [IxpDimm.enterIset, zeroPoolFreeCapacityIfLocked_eq, henter]
  refine ⟨⟨?_, hmembers.nodup, hmembers.subset, ?_, hhealth⟩, ?_, ?_⟩
  · exact hmembers.dimms_eq
  · exact hmembers.capacity_eq
  · rw [List.map_append, ← h.ilsets_eq]
    exact hilsets
  · dsimp only
    rw [hhealth]
    split_ifs with hlock
    · rfl
    · have hnot : ¬ pool.health = .locked := fun hpool => hlock (hlocked hpool)
      rw [hfree, h.free_eq, if_neg hnot, Nat.mod_add_mod, htype', offered, offered,
        sum_memoryCapacity_of_isPersistent htype, sum_memoryCapacity_of_isPersistent htype,
        List.map_append, List.sum_append, List.map_singleton, List.sum_singleton]
      rfl

/-- Entering the memory capacity of a DIMM into the volatile pool. -/
theorem Summarises.enterDimm (h : Summarises inv pool added []) (htype : pool.type = .volatile)
    {dimm : PoolDimmData} (hdimm : dimm ∈ inv.dimmList) (hnew : dimm ∉ added) :
    Summarises inv (enterDimm inv.toPoolData dimm pool) (added ++ [dimm]) [] := by
  have hnot : ¬ isInPool dimm.discovery.uid pool = true :=
    fun hin => hnew ((h.isInPool_iff hdimm).mp hin)
  have hfree : addFreeCapacities pool (newFreeCapacities inv.toPoolData dimm pool) =
      pool.freeCapacity := by
    rw [addFreeCapacities, htype]
  have hhealth : (dimmHealths dimm).foldl keepPoolHealth pool.health =
      max (worst (isetHealths inv.toPoolData [])) (worst ((added ++ [dimm]).flatMap dimmHealths)) := by
    rw [foldl_keepPoolHealth (mem_dimmHealths dimm).1, h.health_eq, List.flatMap_append,
      worst_append, List.flatMap_singleton, max_assoc]
  rw [IxpDimm.enterDimm, zeroPoolFreeCapacityIfLocked_eq, addDimmToPool_of_not_isInPool _ hnot,
    hfree]
  refine ⟨⟨?_, ?_, ?_, ?_, hhealth⟩, h.ilsets_eq, ?_⟩
  · rw [List.map_append, List.map_singleton, ← h.dimms_eq]
  · refine List.nodup_append.mpr ⟨h.nodup, List.nodup_singleton _, ?_⟩
    rintro x hx y hy rfl
    exact hnew (List.mem_singleton.mp hy ▸ hx)
  · refine List.append_subset.mpr ⟨h.subset, fun x hx => ?_⟩
    exact List.mem_singleton.mp hx ▸ hdimm
  · dsimp only
    rw [UInt64.toNat_add, h.capacity_eq, Nat.mod_add_mod, List.map_append, List.sum_append,
      List.map_singleton, List.sum_singleton]
  · dsimp only
    rw [hhealth]
    split_ifs with hlock
    · rfl
    · have hpool : ¬ pool.health = .locked := by
        rw [h.health_eq, max_eq_locked_iff]
        rintro (hlocked | hlocked)
        · exact hlock (max_eq_locked_iff.mpr (Or.inl hlocked))
        · exact hlock (max_eq_locked_iff.mpr (Or.inr
            (worst_eq_locked_of_subset (List.subset_append_left _ _) hlocked)))
      rw [UInt64.toNat_add, h.free_eq, if_neg hpool, Nat.mod_add_mod, offered, offered,
        List.map_append, List.sum_append, List.map_singleton, List.sum_singleton, Nat.add_assoc]

end Enter

/-! ### Whole runs -/

/-- The pool of some interleave sets is made of them and of their DIMMs. -/
theorem summarises_foldl_enterIset (inv : Inventory) (happ : inv.capabilities.appDirectMode = true)
    {key : ℤ × PoolType} (htype : key.2.IsPersistent) (isets : List NvmInterleaveSet) :
    (isets.foldl (fun pool iset => enterIset inv.toPoolData iset pool) (freshPool key)).type = key.2 ∧
    ∃ added, Summarises inv
        (isets.foldl (fun pool iset => enterIset inv.toPoolData iset pool) (freshPool key))
        added isets ∧
      ∀ x, x ∈ added ↔ ∃ iset ∈ isets,
        x ∈ setDimms inv.toPoolData (nvmInterleaveToInterleave inv.toPoolData iset) := by
  induction isets using List.reverseRecOn with
  | nil => exact ⟨rfl, [], summarises_freshPool inv key, fun x => by simp⟩
  | append_singleton isets iset ih =>
    obtain ⟨htype', added, h, hadded⟩ := ih
    rw [List.foldl_append, List.foldl_cons, List.foldl_nil]
    obtain ⟨added', h', hadded'⟩ := h.enterIset happ (htype'.symm ▸ htype) iset
    refine ⟨?_, added', h', fun x => ?_⟩
    · exact (congrArg Prod.snd (key_enterIset inv.toPoolData iset _)).trans htype'
    · rw [hadded', hadded]
      constructor
      · rintro (⟨iset', hmem, hx⟩ | hx)
        · exact ⟨iset', List.mem_append_left _ hmem, hx⟩
        · exact ⟨iset, List.mem_append_right _ List.mem_cons_self, hx⟩
      · rintro ⟨iset', hmem, hx⟩
        rcases List.mem_append.mp hmem with hmem | hmem
        · exact Or.inl ⟨iset', hmem, hx⟩
        · rw [List.mem_singleton.mp hmem] at hx
          exact Or.inr hx

/-- The volatile pool is made of the DIMMs with memory capacity. -/
theorem summarises_foldl_enterDimm (inv : Inventory) {dimms : List PoolDimmData}
    (hnd : dimms.Nodup) (hsubset : dimms ⊆ inv.dimmList) :
    (dimms.foldl (fun pool dimm => enterDimm inv.toPoolData dimm pool)
        (freshPool (-1, .volatile))).type = .volatile ∧
      Summarises inv (dimms.foldl (fun pool dimm => enterDimm inv.toPoolData dimm pool)
        (freshPool (-1, .volatile))) dimms [] := by
  induction dimms using List.reverseRecOn with
  | nil => exact ⟨rfl, summarises_freshPool inv _⟩
  | append_singleton dimms dimm ih =>
    obtain ⟨hnd', -, hdisjoint⟩ := List.nodup_append.mp hnd
    obtain ⟨hdimms, hdimm⟩ := List.append_subset.mp hsubset
    obtain ⟨htype, h⟩ := ih hnd' hdimms
    rw [List.foldl_append, List.foldl_cons, List.foldl_nil]
    refine ⟨?_, h.enterDimm htype (hdimm List.mem_cons_self) fun hmem => ?_⟩
    · exact (congrArg Prod.snd (key_enterDimm inv.toPoolData dimm _)).trans htype
    · exact hdisjoint dimm hmem dimm List.mem_cons_self rfl

end IxpDimm
