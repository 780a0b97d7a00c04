import IxpDimm.Context.NvmContext
import IxpDimm.Foundation.Effects
import IxpDimm.Namespace.Creation
import IxpDimm.Pool.Order
import Mathlib.Data.List.ReduceOption

/-!
# Pools kept in the context

`nvm_get_pools` keeps the pools that it makes in the library context, and the other calls take them
from there.  Without a context, or before the first call of `nvm_get_pools`, a call makes the pools of
its own from the platform.

A context is made by `nvm_create_context` and counts how often; `nvm_free_context` takes it away when
the count is down to zero.  The pools that are kept are those of the platform as long as its
namespaces stay as they are (`CurrentPools`), and then every lookup finds a pool of the platform
(`poolOf_of_nvmGetPool`, `getPoolFromNamespaceDetails_spec`).
-/

namespace IxpDimm

open Foundation

/-! ### What a call asks of the system -/

/-- `struct namespace_details`, as far as the calls read it. -/
structure NamespaceDetails where
  /-- `pool_uid`. -/
  poolUid : Uid
  /-- `block_count`. -/
  blockCount : UInt64
  /-- `type`. -/
  type : NamespaceType
  /-- `creation_id.interleave_setid`. -/
  interleaveSetid : UInt32

/-- What one call asks of the system. -/
structure CallAnswers where
  /-- `check_caller_permissions` succeeds. -/
  callerPermitted : Bool := true
  /-- `is_supported_driver_available`. -/
  supportedDriverAvailable : Bool := true
  /-- `nvm_get_nvm_capabilities`. -/
  getNvmCapabilities : Except ReturnCode NamespaceCapabilities
  /-- An error is not `NVM_SUCCESS`. -/
  error_ne : getNvmCapabilities ≠ .error .success
  /-- What `collect_required_pool_data` returns. -/
  collectRequiredPoolData : ReturnCode := .success
  /-- `get_nvm_namespaces_details_alloc` succeeds. -/
  namespacesRead : Bool := true
  /-- `nvm_get_device_discovery`. -/
  discover : Uid → Option SecureDiscovery
  /-- The names of the namespaces, none if their number cannot be read. -/
  names : List (List Char) := []
  /-- `calculate_uid` of a pool, from its socket and type. -/
  poolUid : ℤ × PoolType → Uid
  /-- `get_nvm_context_namespace_details`. -/
  contextDetails : Uid → Option NamespaceDetails := fun _ => none
  /-- What the driver returns when it is asked for a change. -/
  driver : ReturnCode := .success
  /-- A namespace with what the driver chooses of a new one. -/
  created : NvmNamespaceDetails

/-- The platform and the part of the context that the calls on namespaces use. -/
structure LibraryState where
  /-- What `collect_required_pool_data` collects. -/
  data : PoolData
  /-- `p_context`, with `pool_count` and `p_pools`. -/
  context : Option (CachedList Pool) := none
  /-- `g_ctx_count`. -/
  contextCount : ℤ := 0

/-- The unique id of a pool; a cleared structure has none. -/
def CallAnswers.uidOf (answers : CallAnswers) (pool : Pool) : Uid :=
  if pool.type = .unknown then [] else answers.poolUid pool.key

/-- A cleared `struct pool`. -/
def clearedPool : Pool where
  type := .unknown
  socketId := 0
  health := .unknown

namespace LibraryState

/-! ### The context -/

/-- The pools that are kept; none without a context. -/
def kept (s : LibraryState) : CachedList Pool := s.context.getD {}

/-- `nvm_create_context`. -/
def nvmCreateContext (s : LibraryState) : LibraryState :=
  match s.context with
  | some _ => { s with contextCount := s.contextCount + 1 }
  | none => { s with context := some {}, contextCount := 1 }

/-- `nvm_free_context`. -/
def nvmFreeContext (s : LibraryState) (force : Bool) : LibraryState :=
  match s.context with
  | none => s
  | some _ =>
    let count := if force then 0 else s.contextCount - 1
    if count ≤ 0 then { s with context := none, contextCount := 0 }
    else { s with contextCount := count }

/-- `set_nvm_context_pools`. -/
def setNvmContextPools (s : LibraryState) (pools : List Pool) : LibraryState :=
  { s with context := s.context.map fun kept => kept.store pools true }

/-- `get_nvm_context_pool`. -/
def getNvmContextPool (answers : CallAnswers) (s : LibraryState) (uid : Uid) : Option Pool :=
  if 0 < s.kept.count then
    ((s.kept.list.getD []).take s.kept.count.toNat).find? fun pool => uidCmp uid (answers.uidOf pool)
  else none

/-! ### The calls on pools -/

variable (answers : CallAnswers) (s : LibraryState)

/-- The checks that the calls on pools begin with. -/
def mayGetPools : ReturnCode :=
  if !answers.callerPermitted then .errInvalidPermissions
  else if !answers.supportedDriverAvailable then .errBadDriver
  else isNvmFeatureLicensed answers.getNvmCapabilities NamespaceFeatures.getPools

/-- `nvm_get_pool_count`. -/
def nvmGetPoolCount : Except ReturnCode ℕ :=
  if mayGetPools answers ≠ .success then .error (mayGetPools answers)
  else
    match s.kept.getCount with
    | .ok count => .ok count.toNat
    | .error _ =>
      if answers.collectRequiredPoolData ≠ .success then .error answers.collectRequiredPoolData
      else countPools s.data

/-- The pools that are made from the platform in an array of `count` entries. -/
def collectPools (count : UInt8) : Except ReturnCode (List Pool) :=
  if answers.collectRequiredPoolData ≠ .success then .error answers.collectRequiredPoolData
  else (populatePools s.data count).1.map fun _ => (populatePools s.data count).2

/-- `nvm_get_pools` with an array of `count` entries. -/
def nvmGetPools (count : UInt8) : Except ReturnCode (List Pool) × LibraryState :=
  if mayGetPools answers ≠ .success then (.error (mayGetPools answers), s)
  else if count = 0 then (.error .errInvalidParameter, s)
  else
    match s.kept.fetch count.toNat (min count.toNat) with
    | ⟨.ok _, entries⟩ => (.ok entries.reduceOption, s)
    | ⟨.error rc, _⟩ =>
      if rc = .errArrayTooSmall then (.error rc, s)
      else
        match collectPools answers s count with
        | .error rc => (.error rc, s)
        | .ok [] => (.ok [], s)
        | .ok (pool :: pools) => (.ok (pool :: pools), s.setNvmContextPools (pool :: pools))

/-- The pools that `nvm_get_pool` makes: as many as it has counted. -/
def collectCountedPools : Except ReturnCode (List Pool) :=
  if answers.collectRequiredPoolData ≠ .success then .error answers.collectRequiredPoolData
  else
    match countPools s.data with
    | .error rc => .error rc
    | .ok 0 => .ok []
    | .ok (n + 1) => collectPools answers s (.ofNat (n + 1))

/-- The pool with a unique id, in pools that have been made; the structure stays clear if there are
none. -/
def findPool (uid : Uid) : List Pool → Except ReturnCode Pool
  | [] => .ok clearedPool
  | pool :: pools =>
    match (pool :: pools).find? fun pool => uidCmp (answers.uidOf pool) uid with
    | some pool => .ok pool
    | none => .error .errBadPool

/-- `nvm_get_pool`. -/
def nvmGetPool (uid : Uid) : Except ReturnCode Pool :=
  if mayGetPools answers ≠ .success then .error (mayGetPools answers)
  else
    match s.getNvmContextPool answers uid with
    | some pool => .ok pool
    | none => collectCountedPools answers s >>= findPool answers uid

/-- The pool has the interleave set. -/
def hasIlset (driverId : UInt32) (pool : Pool) : Bool :=
  pool.ilsets.any fun set => driverId = set.driverId

/-- `get_pool_from_namespace_details`, with the identifier of the interleave set; the loop over the
pools does not end at the first one. -/
def getPoolFromNamespaceDetails (interleaveSetid : UInt32) :
    Except ReturnCode Pool × LibraryState :=
  match nvmGetPoolCount answers s with
  | .error rc => (.error rc, s)
  | .ok 0 => (.ok clearedPool, s)
  | .ok (n + 1) =>
    match nvmGetPools answers s (.ofNat (n + 1)) with
    | (.error rc, s') => (.error rc, s')
    | (.ok [], s') => (.ok clearedPool, s')
    | (.ok (pool :: pools), s') =>
      match ((pool :: pools).filter (hasIlset interleaveSetid)).getLast? with
      | some pool => (.ok pool, s')
      | none => (.error .errDriverFailed, s')

end LibraryState

/-! ### Pools of the platform -/

section Current

variable {answers : CallAnswers} {s : LibraryState}

/-- The pools that are kept, if there are any, are those that the platform has now. -/
def CurrentPools (s : LibraryState) : Prop :=
  s.kept.count < 0 ∨ s.kept = ⟨(populated s.data).length, some (populated s.data)⟩

/-- What a call that changes nothing on the platform leaves. -/
structure OnlyReads (s s' : LibraryState) : Prop where
  /-- The platform stays. -/
  data_eq : s'.data = s.data
  /-- There is a context or there is none. -/
  isSome_eq : s'.context.isSome = s.context.isSome
  /-- The count of the context stays. -/
  count_eq : s'.contextCount = s.contextCount
  /-- Pools of the platform stay so. -/
  current : CurrentPools s → CurrentPools s'

/-- Nothing is changed. -/
theorem OnlyReads.refl (s : LibraryState) : OnlyReads s s := ⟨rfl, rfl, rfl, id⟩

/-- One call after the other. -/
theorem OnlyReads.trans {s s' s'' : LibraryState} (h : OnlyReads s s') (h' : OnlyReads s' s'') :
    OnlyReads s s'' :=
  ⟨h'.data_eq.trans h.data_eq, h'.isSome_eq.trans h.isSome_eq, h'.count_eq.trans h.count_eq,
    fun hs => h'.current (h.current hs)⟩

/-- A pool of the platform that is current, or the cleared structure. -/
def PoolOf (data : PoolData) (pool : Pool) : Prop := pool ∈ populated data ∨ pool = clearedPool

/-- All pools are made, or none. -/
private theorem eq_populated_of_collectPools {count : UInt8} {pools : List Pool}
    (h : s.collectPools answers count = .ok pools) : pools = populated s.data := by
  rw [LibraryState.collectPools] at h
  split_ifs at h
  rcases Nat.lt_or_ge count.toNat s.data.poolKeys.card with hlt | hle
  · rw [populatePools_of_lt hlt] at h
    cases h
  · rw [populatePools_of_le hle] at h
    exact (Except.ok.inj h).symm

/-- All pools are made as counted, or none. -/
private theorem eq_populated_of_collectCountedPools {pools : List Pool}
    (h : s.collectCountedPools answers = .ok pools) : pools = [] ∨ pools = populated s.data := by
  rw [LibraryState.collectCountedPools] at h
  by_cases hcollect : answers.collectRequiredPoolData ≠ .success
  · rw [if_pos hcollect] at h
    cases h
  · rw [if_neg hcollect] at h
    cases hcount : countPools s.data with
    | error rc =>
      rw [hcount] at h
      cases h
    | ok n =>
      rw [hcount] at h
      cases n with
      | zero => exact .inl (Except.ok.inj h).symm
      | succ n => exact .inr (eq_populated_of_collectPools h)

/-- A pool that is found is one of those that were made, or the cleared structure. -/
private theorem mem_of_findPool {uid : Uid} {pools : List Pool} {pool : Pool}
    (h : LibraryState.findPool answers uid pools = .ok pool) :
    pool ∈ pools ∨ pool = clearedPool := by
  cases pools with
  | nil => exact .inr (Except.ok.inj h).symm
  | cons first pools =>
    rw [LibraryState.findPool] at h
    cases hfind : (first :: pools).find? fun pool => uidCmp (answers.uidOf pool) uid with
    | none =>
      rw [hfind] at h
      cases h
    | some found =>
      rw [hfind] at h
      obtain rfl := Except.ok.inj h
      exact .inl (List.mem_of_find?_eq_some hfind)

/-- A pool that is kept is one of the platform. -/
private theorem mem_populated_of_context (hcurrent : CurrentPools s) {uid : Uid} {pool : Pool}
    (h : s.getNvmContextPool answers uid = some pool) : pool ∈ populated s.data := by
  rw [LibraryState.getNvmContextPool] at h
  split_ifs at h with hcount
  rcases hcurrent with hnone | hkept
  · omega
  · rw [hkept] at h
    exact List.mem_of_mem_take (List.mem_of_find?_eq_some h)

/-- `nvm_get_pool` finds a pool of the platform. -/
theorem poolOf_of_nvmGetPool (hcurrent : CurrentPools s) {uid : Uid} {pool : Pool}
    (h : s.nvmGetPool answers uid = .ok pool) : PoolOf s.data pool := by
  rw [LibraryState.nvmGetPool] at h
  by_cases hgate : LibraryState.mayGetPools answers ≠ .success
  · rw [if_pos hgate] at h
    cases h
  · rw [if_neg hgate] at h
    cases hcontext : s.getNvmContextPool answers uid with
    | some found =>
      rw [hcontext] at h
      obtain rfl := Except.ok.inj h
      exact .inl (mem_populated_of_context hcurrent hcontext)
    | none =>
      rw [hcontext] at h
      obtain ⟨pools, hpools, hfind⟩ := except_bind_ok h
      rcases mem_of_findPool hfind with hmem | hcleared
      · rcases eq_populated_of_collectCountedPools hpools with rfl | rfl
        · exact absurd hmem List.not_mem_nil
        · exact .inl hmem
      · exact .inr hcleared

/-- Keeping pools of the platform changes nothing else. -/
private theorem onlyReads_setNvmContextPools :
    OnlyReads s (s.setNvmContextPools (populated s.data)) := by
  refine ⟨rfl, ?_, rfl, fun hcurrent => ?_⟩
  · rw [LibraryState.setNvmContextPools, Option.isSome_map]
  · cases hcontext : s.context with
    | none =>
      left
      rw [LibraryState.kept, LibraryState.setNvmContextPools, hcontext]
      exact neg_one_lt_zero
    | some kept =>
      right
      rw [LibraryState.kept, LibraryState.setNvmContextPools, hcontext]
      rfl

/-- What is copied from a list is in it. -/
private theorem mem_of_mem_fetch {α : Type} {c : CachedList α} {size : ℕ} {passes : ℕ → ℕ} {a : α}
    (h : a ∈ (c.fetch size passes).entries.reduceOption) : a ∈ c.list.getD [] := by
  rw [List.reduceOption_mem_iff, CachedList.fetch] at h
  cases hlist : c.list with
  | none =>
    rw [hlist] at h
    exact absurd h List.not_mem_nil
  | some entries =>
    rw [hlist] at h
    dsimp only at h
    by_cases hcount : 0 < c.count
    · rw [if_pos hcount] at h
      obtain ⟨i, -, hi⟩ := List.mem_map.mp h
      exact List.mem_of_getElem? hi
    · rw [if_neg hcount] at h
      exact absurd h List.not_mem_nil

/-- What is fetched from the pools that are kept is of the platform. -/
private theorem mem_populated_of_fetch (hcurrent : CurrentPools s) {size : ℕ} {passes : ℕ → ℕ}
    {pool : Pool} (h : pool ∈ (s.kept.fetch size passes).entries.reduceOption)
    {n : ℕ} (hok : (s.kept.fetch size passes).rc = .ok n) : pool ∈ populated s.data := by
  rcases hcurrent with hnone | hkept
  · rw [CachedList.fetch] at hok
    cases hlist : s.kept.list with
    | none =>
      rw [hlist] at hok
      cases hok
    | some entries =>
      rw [hlist] at hok
      dsimp only at hok
      rw [if_neg (by omega)] at hok
      cases hok
  · have hmem := mem_of_mem_fetch h
    rw [hkept] at hmem
    exact hmem

/-- `nvm_get_pools` returns the pools of the platform, and changes nothing else than what is kept. -/
theorem nvmGetPools_spec (count : UInt8) :
    OnlyReads s (s.nvmGetPools answers count).2 ∧
      ∀ pools, CurrentPools s → (s.nvmGetPools answers count).1 = .ok pools →
        ∀ pool ∈ pools, pool ∈ populated s.data := by
  unfold LibraryState.nvmGetPools
  by_cases hgate : LibraryState.mayGetPools answers ≠ .success
  · rw [if_pos hgate]
    exact ⟨.refl s, fun _ _ h => by cases h⟩
  by_cases hzero : count = 0
  · rw [if_neg hgate, if_pos hzero]
    exact ⟨.refl s, fun _ _ h => by cases h⟩
  rw [if_neg hgate, if_neg hzero]
  cases hfetch : s.kept.fetch count.toNat (min count.toNat) with
  | mk rc entries =>
    cases rc with
    | ok n =>
      refine ⟨.refl s, fun pools hcurrent h pool hmem => ?_⟩
      obtain rfl := Except.ok.inj h
      have hok : (s.kept.fetch count.toNat (min count.toNat)).rc = .ok n := by rw [hfetch]
      refine mem_populated_of_fetch hcurrent ?_ hok
      rw [hfetch]
      exact hmem
    | error rc =>
      dsimp only
      by_cases hsmall : rc = .errArrayTooSmall
      · rw [if_pos hsmall]
        exact ⟨.refl s, fun _ _ h => by cases h⟩
      rw [if_neg hsmall]
      cases hcollect : s.collectPools answers count with
      | error rc => exact ⟨.refl s, fun _ _ h => by cases h⟩
      | ok pools =>
        have hall := eq_populated_of_collectPools hcollect
        cases pools with
        | nil => exact ⟨.refl s, fun _ _ h pool hmem => by cases h; cases hmem⟩
        | cons pool pools =>
          dsimp only
          rw [hall]
          refine ⟨onlyReads_setNvmContextPools, fun _ _ h => ?_⟩
          obtain rfl := Except.ok.inj h
          exact fun _ => id

/-- `get_pool_from_namespace_details` finds a pool of the platform that has the set, and changes
nothing else than what is kept. -/
theorem getPoolFromNamespaceDetails_spec (interleaveSetid : UInt32) :
    OnlyReads s (s.getPoolFromNamespaceDetails answers interleaveSetid).2 ∧
      ∀ pool, CurrentPools s →
        (s.getPoolFromNamespaceDetails answers interleaveSetid).1 = .ok pool →
          (pool ∈ populated s.data ∧ LibraryState.hasIlset interleaveSetid pool = true) ∨
            pool = clearedPool := by
  unfold LibraryState.getPoolFromNamespaceDetails
  cases hcount : s.nvmGetPoolCount answers with
  | error rc => exact ⟨.refl s, fun _ _ h => by cases h⟩
  | ok n =>
    cases n with
    | zero =>
      refine ⟨.refl s, fun pool _ h => ?_⟩
      obtain rfl := Except.ok.inj h
      exact .inr rfl
    | succ n =>
      obtain ⟨hreads, hpools⟩ := @nvmGetPools_spec answers s (.ofNat (n + 1))
      dsimp only
      cases hget : s.nvmGetPools answers (.ofNat (n + 1)) with
      | mk result s' =>
        rw [hget] at hreads hpools
        cases result with
        | error rc => exact ⟨hreads, fun _ _ h => by cases h⟩
        | ok pools =>
          cases pools with
          | nil =>
            refine ⟨hreads, fun pool _ h => ?_⟩
            obtain rfl := Except.ok.inj h
            exact .inr rfl
          | cons first pools =>
            dsimp only
            cases hlast :
              ((first :: pools).filter (LibraryState.hasIlset interleaveSetid)).getLast? with
            | none => exact ⟨hreads, fun _ _ h => by cases h⟩
            | some last =>
              refine ⟨hreads, fun pool hcurrent h => ?_⟩
              obtain rfl := Except.ok.inj h
              obtain ⟨hmem, hhas⟩ := List.mem_filter.mp (List.mem_of_getLast? hlast)
              exact .inl ⟨hpools _ hcurrent rfl _ hmem, hhas⟩

end Current

end IxpDimm
