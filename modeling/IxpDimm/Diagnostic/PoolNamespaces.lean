import IxpDimm.Diagnostic.BestPractices

/-!
# Pools without namespaces

What `check_namespace_best_practices` reports when every query succeeds: the pools of persistent
memory that have an interleave set without an App Direct namespace.  If there are no namespaces at
all the comparison is left out, so that no pool is reported then (`reportsPools_iff`).
-/

namespace IxpDimm.Diagnostic

open Foundation

/-! ### The pools to report -/

/-- A pool of persistent memory has an interleave set without an App Direct namespace. -/
def NeedsNamespaces (namespaces : List NvmNamespaceDetails) (pool : DiagPool) : Prop :=
  (pool.type = .persistent ∨ pool.type = .persistentMirror) ∧
    ∃ set ∈ pool.ilsets, ∀ details ∈ namespaces,
      ¬(details.type = .appDirect ∧ details.interleaveSetid = set.driverId)

/-- The search of the code finds such a set. -/
theorem poolInterleaveSetsNeedNamespace_iff (namespaces : List NvmNamespaceDetails)
    (pool : DiagPool) :
    poolInterleaveSetsNeedNamespace namespaces pool = true ↔ NeedsNamespaces namespaces pool := by
  simp only [poolInterleaveSetsNeedNamespace, NeedsNamespaces, Bool.and_eq_true, Bool.or_eq_true,
    beq_iff_eq, List.any_eq_true, Bool.not_eq_true', List.any_eq_false]

instance (namespaces : List NvmNamespaceDetails) : DecidablePred (NeedsNamespaces namespaces) :=
  fun pool => decidable_of_iff _ (poolInterleaveSetsNeedNamespace_iff namespaces pool)

/-- The event of a pool. -/
def poolNeedsNamespacesEvent (pool : DiagPool) : DiagEvent :=
  { pconfigEvent .info .poolNeedsAppDirectNamespaces [.uid pool.poolUid] .ok with
    uid := some pool.poolUid }

/-- Every query succeeds, with these pools and namespaces. -/
structure AnswersPools (queries : BestPracticesQueries) (pools : List DiagPool)
    (namespaces : List NvmNamespaceDetails) : Prop where
  /-- The number of pools. -/
  poolCount : queries.getPoolCount = .ok pools.length
  /-- The memory for the pools. -/
  alloc : queries.allocPools = .ok ()
  /-- The pools. -/
  pools : queries.getPools pools.length = .ok ⟨pools.length, pools⟩
  /-- The number of namespaces. -/
  namespaceCount : queries.getNamespaceCount = .ok namespaces.length
  /-- The namespaces and their details. -/
  namespaces : ∃ uids, queries.getNamespaces namespaces.length = .ok ⟨namespaces.length, uids⟩ ∧
    uids.map queries.getNamespaceDetails = namespaces.map .ok

/-- One event is logged for each pool to report, no other pool has such an event, and the events are
counted. -/
def ReportsPools (queries : BestPracticesQueries) (pools : List DiagPool)
    (namespaces : List NvmNamespaceDetails) : Prop :=
  ((events (checkNamespaceBestPractices queries).log).filter fun event =>
      event.code = .poolNeedsAppDirectNamespaces) =
        (pools.filter fun pool => NeedsNamespaces namespaces pool).map poolNeedsNamespacesEvent ∧
    (checkNamespaceBestPractices queries).count =
      (pools.filter fun pool => NeedsNamespaces namespaces pool).length

/-! ### The run -/

section Run

variable {queries : BestPracticesQueries} {pools : List DiagPool}
  {namespaces : List NvmNamespaceDetails}

/-- The details are fetched. -/
private theorem fetchNamespaceDetails_spec {uids : List Uid}
    (h : uids.map queries.getNamespaceDetails = namespaces.map .ok) :
    (fetchNamespaceDetails queries uids).value = .ok namespaces ∧
      Emits [] (fetchNamespaceDetails queries uids) := by
  induction uids generalizing namespaces with
  | nil =>
    obtain rfl : namespaces = [] := List.map_eq_nil_iff.mp h.symm
    exact ⟨rfl, emits_pure _⟩
  | cons uid uids ih =>
    cases namespaces with
    | nil => cases h
    | cons details namespaces =>
      obtain ⟨hfirst, hrest⟩ := List.cons.inj h
      obtain ⟨hvalue, hemits⟩ := ih hrest
      constructor
      · rw [fetchNamespaceDetails, Tally.value_bind, value_ask, hfirst]
        dsimp only
        rw [Tally.value_bind, hvalue]
        rfl
      · rw [fetchNamespaceDetails]
        refine emits_ask ?_
        rw [hfirst]
        exact emits_bind hemits (emits_pure _)

/-- The events of the comparison of the pools with the namespaces. -/
private theorem emits_checkIfPoolsNeedNamespaces :
    Emits ((pools.filter fun pool => NeedsNamespaces namespaces pool).map poolNeedsNamespacesEvent)
      (checkIfPoolsNeedNamespaces namespaces pools) := by
  have hflat : (pools.filter fun pool => NeedsNamespaces namespaces pool).map
      poolNeedsNamespacesEvent = pools.flatMap fun pool =>
        if poolInterleaveSetsNeedNamespace namespaces pool then [poolNeedsNamespacesEvent pool]
        else [] := by
    induction pools with
    | nil => rfl
    | cons pool pools ih =>
      rw [List.flatMap_cons, ← ih, List.filter_cons]
      by_cases hneeds : NeedsNamespaces namespaces pool
      · rw [if_pos (decide_eq_true hneeds),
          if_pos ((poolInterleaveSetsNeedNamespace_iff _ _).mpr hneeds)]
        rfl
      · rw [if_neg (fun h => hneeds (of_decide_eq_true h)),
          if_neg (fun h => hneeds ((poolInterleaveSetsNeedNamespace_iff _ _).mp h))]
        rfl
  rw [hflat]
  refine emits_forM fun pool => ?_
  by_cases hvolatile : pool.type = .volatile
  · -- a volatile pool is not even looked at
    have hnone : poolInterleaveSetsNeedNamespace namespaces pool = false := by
      rw [poolInterleaveSetsNeedNamespace, hvolatile]
      rfl
    rw [if_neg (not_not.mpr hvolatile), hnone]
    exact emits_pure _
  · rw [if_pos hvolatile]
    exact emits_reportIf _ _

/-- The namespaces are listed, if there are any. -/
private theorem getAllDriverNamespaceDetails_spec (h : AnswersPools queries pools namespaces)
    (hne : namespaces ≠ []) :
    (getAllDriverNamespaceDetails queries namespaces.length).value = .ok namespaces ∧
      Emits [] (getAllDriverNamespaceDetails queries namespaces.length) := by
  obtain ⟨uids, huids, hdetails⟩ := h.namespaces
  have hlength : uids.length = namespaces.length := by
    have hmap := congrArg List.length hdetails
    rwa [List.length_map, List.length_map] at hmap
  have htake : uids.take namespaces.length = uids := List.take_of_length_le hlength.le
  have hsome : namespaces.length ≠ 0 := fun hzero => hne (List.length_eq_zero_iff.mp hzero)
  obtain ⟨hvalue, hfetch⟩ := fetchNamespaceDetails_spec hdetails
  rw [getAllDriverNamespaceDetails, huids]
  constructor
  · rw [Tally.value_bind, value_ask]
    dsimp only
    rw [if_neg hsome, htake, hvalue]
  · refine emits_ask ?_
    dsimp only
    rw [if_neg hsome, htake]
    exact hfetch

/-- The events of the comparison: none if there are no namespaces. -/
private theorem emits_checkNamespaceBestPracticesWithPools
    (h : AnswersPools queries pools namespaces) :
    Emits (if namespaces = [] then [] else
      (pools.filter fun pool => NeedsNamespaces namespaces pool).map poolNeedsNamespacesEvent)
      (checkNamespaceBestPracticesWithPools queries pools) := by
  have hcount := h.namespaceCount
  have hrun : (checkNamespacesOfPools queries pools).value = nvmSuccess ∧
      Emits (if namespaces = [] then [] else
        (pools.filter fun pool => NeedsNamespaces namespaces pool).map poolNeedsNamespacesEvent)
        (checkNamespacesOfPools queries pools) := by
    cases namespaces with
    | nil =>
      rw [checkNamespacesOfPools, hcount]
      exact ⟨rfl, emits_ask (emits_pure _)⟩
    | cons first rest =>
      obtain ⟨hvalue, hall⟩ := getAllDriverNamespaceDetails_spec h (List.cons_ne_nil first rest)
      rw [List.length_cons] at hcount hvalue hall
      rw [checkNamespacesOfPools, hcount, if_neg (List.cons_ne_nil first rest)]
      constructor
      · rw [Tally.value_bind, value_ask]
        dsimp only
        rw [Tally.value_bind, hvalue]
        rfl
      · refine emits_ask ?_
        dsimp only
        refine emits_bind hall ?_
        rw [hvalue]
        exact emits_then emits_checkIfPoolsNeedNamespaces (emits_pure _)
  refine emits_then hrun.2 ?_
  rw [hrun.1, if_neg (not_not.mpr rfl)]
  exact emits_pure _

/-- The events of the check: none if there are no namespaces. -/
private theorem emits_checkNamespaceBestPractices (h : AnswersPools queries pools namespaces) :
    Emits (if namespaces = [] then [] else
      (pools.filter fun pool => NeedsNamespaces namespaces pool).map poolNeedsNamespacesEvent)
      (checkNamespaceBestPractices queries) := by
  have hpools := emits_checkNamespaceBestPracticesWithPools h
  have hcount := h.poolCount
  have hget := h.pools
  cases pools with
  | nil =>
    rw [checkNamespaceBestPractices, hcount, List.filter_nil, List.map_nil, ite_self]
    exact emits_ask (emits_pure _)
  | cons first rest =>
    rw [List.length_cons] at hcount hget
    rw [checkNamespaceBestPractices, hcount]
    refine emits_ask ?_
    dsimp only
    rw [h.alloc]
    refine emits_ask ?_
    dsimp only
    rw [hget]
    refine emits_ask ?_
    dsimp only
    have htake : (first :: rest).take (rest.length + 1) = first :: rest :=
      List.take_of_length_le le_rfl
    rw [if_neg (Nat.succ_ne_zero _), htake]
    exact emits_then hpools (emits_pure _)

/-- When every query succeeds, the pools that need namespaces are reported exactly if there is a
namespace, or no pool of persistent memory has an interleave set. -/
theorem reportsPools_iff (h : AnswersPools queries pools namespaces) :
    ReportsPools queries pools namespaces ↔
      (namespaces ≠ [] ∨ ∀ pool ∈ pools,
        pool.type = .persistent ∨ pool.type = .persistentMirror → pool.ilsets = []) := by
  obtain ⟨hevents, hcount⟩ := emits_checkNamespaceBestPractices h
  rw [ReportsPools, hevents, hcount]
  by_cases hnone : namespaces = []
  · subst hnone
    rw [if_pos rfl]
    constructor
    · rintro ⟨hlogged, -⟩
      refine Or.inr fun pool hpool hpersistent => ?_
      have hempty : pools.filter (fun pool => NeedsNamespaces [] pool) = [] :=
        List.map_eq_nil_iff.mp hlogged.symm
      by_contra hsets
      obtain ⟨set, hset⟩ := List.exists_mem_of_ne_nil _ hsets
      have hneeds : NeedsNamespaces [] pool :=
        ⟨hpersistent, set, hset, List.forall_mem_nil _⟩
      exact List.filter_eq_nil_iff.mp hempty pool hpool (decide_eq_true hneeds)
    · rintro (hsome | hsets)
      · exact absurd rfl hsome
      · have hempty : pools.filter (fun pool => NeedsNamespaces [] pool) = [] := by
          refine List.filter_eq_nil_iff.mpr fun pool hpool hneeds => ?_
          obtain ⟨hpersistent, set, hset, -⟩ := of_decide_eq_true hneeds
          rw [hsets pool hpool hpersistent] at hset
          cases hset
        rw [hempty]
        exact ⟨rfl, rfl⟩
  · rw [if_neg hnone, List.length_map]
    refine iff_of_true ⟨List.filter_eq_self.mpr fun event hevent => ?_, rfl⟩ (Or.inl hnone)
    obtain ⟨pool, -, rfl⟩ := List.mem_map.mp hevent
    exact decide_eq_true rfl

end Run

/-- A pool of persistent memory with one interleave set. -/
def persistentPool : DiagPool where
  type := .persistent
  socketId := 0
  ilsets := [{}]
  poolUid := []

/-- The details of a namespace without blocks. -/
def emptyNamespace : NvmNamespaceDetails where
  namespaceUid := []
  friendlyName := []
  blockSize := 0
  blockCount := 0
  type := .appDirect
  health := .normal
  enabled := .enabled
  btt := false
  interleaveSetid := 0
  memoryPageAllocation := none
  nlabels := 0
  labelSum := 0

/-- The answers about this pool when there are no namespaces. -/
def noNamespacesQueries : BestPracticesQueries where
  getSocketCount := .ok 0
  getSockets _ := .ok ⟨0, []⟩
  getPoolCount := .ok 1
  allocPools := .ok ()
  getPools _ := .ok ⟨1, [persistentPool]⟩
  getNamespaceCount := .ok 0
  getNamespaces _ := .ok ⟨0, []⟩
  getNamespaceDetails _ := .ok emptyNamespace
  uninitializedDetails := []

/-- The answers are those of a system with the pool and without namespaces. -/
private theorem answersPools_noNamespaces :
    AnswersPools noNamespacesQueries [persistentPool] [] :=
  ⟨rfl, rfl, rfl, rfl, [], rfl, rfl⟩

/-- Whether the pool is reported is the question of the statement. -/
theorem reportsPools_noNamespaces : AnswersPools noNamespacesQueries [persistentPool] [] ∧
    (ReportsPools noNamespacesQueries [persistentPool] [] ↔
      (([] : List NvmNamespaceDetails) ≠ [] ∨ ∀ pool ∈ [persistentPool],
        pool.type = .persistent ∨ pool.type = .persistentMirror → pool.ilsets = [])) :=
  ⟨answersPools_noNamespaces, reportsPools_iff answersPools_noNamespaces⟩

/-- Without namespaces the pool is not reported. -/
theorem not_reportsPools_noNamespaces : ¬∀ queries pools namespaces,
    AnswersPools queries pools namespaces → ReportsPools queries pools namespaces := by
  intro h
  have hcount := (h _ _ _ answersPools_noNamespaces).2
  revert hcount
  decide

end IxpDimm.Diagnostic
