import IxpDimm.MemoryAllocator.ShrinkAccount
import IxpDimm.MemoryAllocator.Totals

/-!
# The limit of the mapped memory

What the step `LayoutStepLimitTotalMappedMemory` achieves on each socket whose SKU limits the mapped
memory: what is mapped afterwards is within the limit unless the part that cannot be shrunk is above
it already, the goals of the other sockets stay, and no unsigned subtraction of the computation
wraps.

The passes over a socket take what it exceeds its limit by off the second extents, the first extents
and the memory, in turn.  Each of them makes one round in equal shares, so it can end with something
left, which the next pass is given, and it wraps when a DIMM that has less than the share is met while
still less is left to be taken.
-/

namespace IxpDimm

open Foundation

namespace LayoutStepLimitTotalMappedMemory

/-! ### What the step counts -/

/-- The devices of a socket. -/
def socketDetails (builder : LayoutBuilder) (socketId : UInt16) : List DeviceDetails :=
  lookup socketId (groupByKey DeviceDetails.socketId builder.deviceDetailsList)

/-- The goals of the requested DIMMs of a socket. -/
def socketGoals (request : MemoryAllocationRequest) (layout : MemoryAllocationLayout)
    (socketId : UInt16) : List ConfigGoal :=
  lookup socketId (reqSocketIdConfigGoalMap request layout)

/-- Whether the socket stays in 1LM, so that what it maps is counted from its total. -/
def staysOneLM (details : List DeviceDetails) (goals : List ConfigGoal) : Bool :=
  !details.any (fun d => d.memoryCapacity > 0) && !isReqConfigurationMemMode details goals

/-- The GiB that stay mapped on a socket besides the request, as the step counts them. -/
def existingGiB (details : List DeviceDetails) (info : Socket) (goals : List ConfigGoal) : UInt64 :=
  bToGiB (totalCurrSizeInB details info (details.length == goals.length)
    (details.any fun d => d.memoryCapacity > 0) (isReqConfigurationMemMode details goals))

/-- `m_newTotalMappedSizeOnSocketInGib`. -/
def newTotalMapped (details : List DeviceDetails) (info : Socket) (goals : List ConfigGoal) :
    UInt64 :=
  existingGiB details info goals + goals.foldl (fun total goal =>
    total + goal.memorySize + goal.appDirect1Size + goal.appDirect2Size) 0

/-- `m_limitOnSocketInGib`. -/
def limitOnSocket (info : Socket) : UInt64 := bToGiB info.mappedMemoryLimit

/-- The devices whose App Direct capacity is subtracted from what is mapped in 1LM. -/
def replacedDetails (details : List DeviceDetails) (goals : List ConfigGoal) : List DeviceDetails :=
  details.filter fun d => details.length == goals.length || !d.isConfigured

/-! ### The subtractions of the step -/

/-- The subtractions of a running difference. -/
def differenceSubtractions : UInt64 → List UInt64 → List (UInt64 × UInt64)
  | _, [] => []
  | total, n :: ns => (total, n) :: differenceSubtractions (total - n) ns

/-- The subtractions of `shrinkLayoutGoals`. -/
def shrinkGoalsSubtractions (dimms : List Dimm) (exceeded : UInt64) (goals : Goals) :
    List (UInt64 × UInt64) :=
  let ad2 := shrinkAD2 dimms exceeded goals
  let ad1 := shrinkAD1 dimms ad2.1 ad2.2
  shrinkSubtractions .appDirect2 dimms exceeded goals ++
    (shrinkSubtractions .appDirect1 dimms ad2.1 ad2.2 ++
      shrinkSubtractions .twoLM dimms ad1.1 ad1.2)

/-- The subtractions of the step on one socket. -/
def socketSubtractions (details : List DeviceDetails) (info : Socket) (reqGoals : List ConfigGoal)
    (dimms : List Dimm) (goals : Goals) : List (UInt64 × UInt64) :=
  (if staysOneLM details reqGoals then
    differenceSubtractions info.totalMappedMemory
      ((replacedDetails details reqGoals).map DeviceDetails.appDirectCapacity)
  else []) ++
  (if newTotalMapped details info reqGoals > limitOnSocket info then
    (newTotalMapped details info reqGoals, limitOnSocket info) ::
      shrinkGoalsSubtractions dimms
        (newTotalMapped details info reqGoals - limitOnSocket info) goals
  else [])

/-- The goals after the step has been on one socket. -/
def limitSocket (details : List DeviceDetails) (info : Socket) (reqGoals : List ConfigGoal)
    (dimms : List Dimm) (goals : Goals) : Goals :=
  if newTotalMapped details info reqGoals > limitOnSocket info then
    shrinkLayoutGoals dimms (newTotalMapped details info reqGoals - limitOnSocket info) goals
  else goals

section Step

variable (builder : LayoutBuilder) (request : MemoryAllocationRequest)
  (layout : MemoryAllocationLayout)

/-- The goals after the step has been on the sockets of a list. -/
def limitSockets : List (UInt16 × Socket) → Goals → Goals
  | [], goals => goals
  | (id, info) :: sockets, goals =>
    limitSockets sockets (limitSocket (socketDetails builder id) info
      (socketGoals request layout id) (socketDimms request id) goals)

/-- The subtractions of the step on the sockets of a list. -/
def limitSubtractions : List (UInt16 × Socket) → Goals → List (UInt64 × UInt64)
  | [], _ => []
  | (id, info) :: sockets, goals =>
    socketSubtractions (socketDetails builder id) info (socketGoals request layout id)
      (socketDimms request id) goals ++
    limitSubtractions sockets (limitSocket (socketDetails builder id) info
      (socketGoals request layout id) (socketDimms request id) goals)

/-- The sockets whose SKU limits the mapped memory. -/
def limitedSockets : Except LayoutException (List (UInt16 × Socket)) :=
  initPcatType6info builder.nvmLib ((reqSocketIdConfigGoalMap request layout).map Prod.fst)

/-- What the step is to achieve, from a layout before it to the one after it. -/
structure LimitKept (sockets : List (UInt16 × Socket)) (after : MemoryAllocationLayout) : Prop where
  /-- What a socket maps is within its limit, if what cannot be shrunk is. -/
  within : ∀ socket ∈ sockets,
    (existingGiB (socketDetails builder socket.1) socket.2
      (socketGoals request layout socket.1)).toNat ≤ (limitOnSocket socket.2).toNat →
    (existingGiB (socketDetails builder socket.1) socket.2
      (socketGoals request layout socket.1)).toNat +
      ((socketGoals request after socket.1).map ConfigGoal.totalGiB).sum ≤
        (limitOnSocket socket.2).toNat
  /-- The goals of a socket that is within its limit stay. -/
  unchanged : ∀ d ∈ request.dimms, (∀ info, (d.socket, info) ∈ sockets →
    (newTotalMapped (socketDetails builder d.socket) info
      (socketGoals request layout d.socket)).toNat ≤ (limitOnSocket info).toNat) →
    after.goals d.uid = layout.goals d.uid
  /-- No subtraction wraps. -/
  noWrap : NoWrap (limitSubtractions builder request layout sockets layout.goals)

end Step

/-! ### The goals by socket -/

section Request

variable {request : MemoryAllocationRequest} {layout : MemoryAllocationLayout}

/-- The keys of the goal map are the uids of the request, which differ as `uid_cmp` sees them. -/
structure OneGoalEach (request : MemoryAllocationRequest) (layout : MemoryAllocationLayout) :
    Prop where
  /-- The uids differ. -/
  distinct : request.dimms.Pairwise fun d e => uidCmp d.uid e.uid = false
  /-- There is one goal for each of them. -/
  goalUids : layout.goalUids = request.dimms.map Dimm.uid

/-- Uids that `uid_cmp` tells apart differ. -/
theorem nodup_uids {dimms : List Dimm}
    (h : dimms.Pairwise fun d e => uidCmp d.uid e.uid = false) : (dimms.map Dimm.uid).Nodup := by
  refine List.pairwise_map.mpr (h.imp fun {d e} hde heq => ?_)
  rw [heq, uidCmp_self] at hde
  cases hde

/-- The goal found for a requested DIMM is its own. -/
private theorem filter_goalUids (h : OneGoalEach request layout) {d : Dimm}
    (hd : d ∈ request.dimms) : (layout.goalUids.filter fun uid => uidCmp uid d.uid) = [d.uid] := by
  have hself : ∀ dimms : List Dimm, dimms.Pairwise (fun d e => uidCmp d.uid e.uid = false) →
      d ∈ dimms → ((dimms.map Dimm.uid).filter fun uid => uidCmp uid d.uid) = [d.uid] := by
    intro dimms hdistinct hd
    induction dimms with
    | nil => exact absurd hd List.not_mem_nil
    | cons e dimms ih =>
      rw [List.pairwise_cons] at hdistinct
      rw [List.map_cons, List.filter_cons]
      rcases List.mem_cons.mp hd with rfl | hd
      · have hnil : ((dimms.map Dimm.uid).filter fun uid => uidCmp uid d.uid) = [] := by
          refine List.filter_eq_nil_iff.mpr fun uid huid => ?_
          obtain ⟨e, he, rfl⟩ := List.mem_map.mp huid
          rw [uidCmp_comm, hdistinct.1 e he]
          exact Bool.false_ne_true
        rw [uidCmp_self, if_pos rfl, hnil]
      · rw [hdistinct.1 d hd, if_neg Bool.false_ne_true]
        exact ih hdistinct.2 hd
  rw [h.goalUids]
  exact hself request.dimms h.distinct hd

/-- The map of the goals by socket. -/
private theorem reqSocketIdConfigGoalMap_eq (h : OneGoalEach request layout) :
    reqSocketIdConfigGoalMap request layout =
      request.dimms.foldl (fun m d => pushBack d.socket (layout.goals d.uid) m) [] := by
  refine List.foldl_ext _ _ _ fun m d hd => ?_
  rw [filter_goalUids h hd, List.foldl_cons, List.foldl_nil]

/-- The goals of a socket are those of its DIMMs. -/
theorem socketGoals_eq (h : OneGoalEach request layout) (id : UInt16) :
    socketGoals request layout id = (socketDimms request id).map fun d => layout.goals d.uid := by
  have hgroup := (groupAt_foldl_pushBack Dimm.socket (fun d => layout.goals d.uid)
    request.dimms).2 id
  rw [← reqSocketIdConfigGoalMap_eq h] at hgroup
  rw [socketGoals, socketDimms]
  exact hgroup

/-- The sockets that are limited are sockets of the map, each of them once. -/
private theorem initPcatType6info_sublist {lib : NvmLibrary} {ids : List UInt16}
    {sockets : List (UInt16 × Socket)} (h : initPcatType6info lib ids = .ok sockets) :
    (sockets.map Prod.fst).Sublist ids := by
  induction ids generalizing sockets with
  | nil =>
    obtain rfl := Except.ok.inj h
    exact List.Sublist.refl _
  | cons id ids ih =>
    unfold initPcatType6info at h
    split at h
    · cases h
    · rename_i info _
      obtain ⟨rest, hrest, hpure⟩ := except_bind_ok h
      obtain rfl := Except.ok.inj hpure
      split_ifs
      · exact (ih hrest).cons_cons id
      · exact (ih hrest).cons id

/-- No socket is met twice. -/
theorem nodup_limitedSockets {builder : LayoutBuilder} (h : OneGoalEach request layout)
    {sockets : List (UInt16 × Socket)} (hsockets : limitedSockets builder request layout = .ok sockets) :
    (sockets.map Prod.fst).Nodup := by
  have hascend := (groupAt_foldl_pushBack Dimm.socket (fun d => layout.goals d.uid)
    request.dimms).1
  rw [← reqSocketIdConfigGoalMap_eq h] at hascend
  exact (hascend.imp fun hlt => Std.ne_of_lt hlt).sublist (initPcatType6info_sublist hsockets)

end Request

/-! ### A run of the step -/

section Run

variable {builder : LayoutBuilder} {request : MemoryAllocationRequest}
  {layout after : MemoryAllocationLayout} {sockets : List (UInt16 × Socket)}

/-- The total of a socket, when the information about it is accepted. -/
private theorem calculateTotalMappedCapacityPerSocket_ok {details : List DeviceDetails}
    {info : Socket} {goals : List ConfigGoal} {total : UInt64}
    (h : calculateTotalMappedCapacityPerSocket details info goals = .ok total) :
    total = newTotalMapped details info goals := by
  unfold calculateTotalMappedCapacityPerSocket at h
  dsimp only at h
  split_ifs at h
  exact (Except.ok.inj h).symm

/-- What a socket exceeds its limit by, if it does. -/
private def exceededSocket (builder : LayoutBuilder) (request : MemoryAllocationRequest)
    (layout : MemoryAllocationLayout) (socket : UInt16 × Socket) : Option (List Dimm × UInt64) :=
  if newTotalMapped (socketDetails builder socket.1) socket.2
      (socketGoals request layout socket.1) > limitOnSocket socket.2 then
    some (socketDimms request socket.1, newTotalMapped (socketDetails builder socket.1) socket.2
      (socketGoals request layout socket.1) - limitOnSocket socket.2)
  else none

/-- The sockets that exceed their limit are among the limited ones. -/
private theorem exceededSockets_ok (hsockets : limitedSockets builder request layout = .ok sockets)
    {exceeded : List (List Dimm × UInt64)}
    (h : exceededSockets builder request layout = .ok exceeded) :
    exceeded = sockets.filterMap (exceededSocket builder request layout) := by
  unfold exceededSockets at h
  obtain ⟨sockets', hsockets', h⟩ := except_bind_ok h
  obtain rfl : sockets' = sockets := Except.ok.inj (hsockets'.symm.trans hsockets)
  obtain ⟨totals, htotals, h⟩ := except_bind_ok h
  obtain rfl := Except.ok.inj h
  have hmap : totals = sockets'.map fun socket => (socketDimms request socket.1,
      newTotalMapped (socketDetails builder socket.1) socket.2
        (socketGoals request layout socket.1), limitOnSocket socket.2) := by
    refine except_mapM_ok_eq_map (fun socket row hrow => ?_) htotals
    obtain ⟨total, htotal, hpair⟩ := except_bind_ok hrow
    obtain rfl := Except.ok.inj hpair
    rw [calculateTotalMappedCapacityPerSocket_ok htotal]
    rfl
  rw [hmap, List.filterMap_map]
  rfl

/-- The goals after the sockets that exceed their limit have been shrunk. -/
private theorem foldl_exceededSocket (sockets : List (UInt16 × Socket)) (goals : Goals) :
    (sockets.filterMap (exceededSocket builder request layout)).foldl
      (fun goals socket => shrinkLayoutGoals socket.1 socket.2 goals) goals =
      limitSockets builder request layout sockets goals := by
  induction sockets generalizing goals with
  | nil => rfl
  | cons socket sockets ih =>
    obtain ⟨id, info⟩ := socket
    rw [limitSockets, limitSocket]
    by_cases hexceeds : newTotalMapped (socketDetails builder id) info
        (socketGoals request layout id) > limitOnSocket info
    · rw [if_pos hexceeds, ← ih, List.filterMap_cons, exceededSocket, if_pos hexceeds,
        List.foldl_cons]
    · rw [if_neg hexceeds, ← ih, List.filterMap_cons, exceededSocket, if_neg hexceeds]

/-- The goals after the step. -/
theorem goals_of_execute (hsockets : limitedSockets builder request layout = .ok sockets)
    (hrun : execute builder request layout = .ok () after) :
    after.goalUids = layout.goalUids ∧
      after.goals = limitSockets builder request layout sockets layout.goals := by
  unfold execute at hrun
  split at hrun
  · cases hrun
  · rename_i exceeded hexceeded
    obtain ⟨-, rfl⟩ := EStateM.Result.ok.inj hrun
    obtain rfl := exceededSockets_ok hsockets hexceeded
    refine ⟨?_, ?_⟩
    · unfold limit
      dsimp only
      split_ifs
      · rfl
      · rfl
    · rw [limit_goals]
      exact foldl_exceededSocket sockets layout.goals

end Run

/-! ### The account of one socket -/

section Account

variable {dimms : List Dimm} {goals : Goals}

/-- The GiB that are handed out on DIMMs. -/
def mappedGiB (dimms : List Dimm) (goals : Goals) : ℕ :=
  (dimms.map fun d => (goals d.uid).totalGiB).sum

/-- The three kinds of capacity together. -/
theorem mappedGiB_eq (dimms : List Dimm) (goals : Goals) :
    mappedGiB dimms goals = kindGiB .twoLM dimms goals + kindGiB .appDirect1 dimms goals +
      kindGiB .appDirect2 dimms goals := by
  unfold mappedGiB kindGiB
  rw [← List.sum_map_add, ← List.sum_map_add]
  rfl

/-- What is left to be taken of an amount after the second extents, the first ones and the memory
have each been through one round. -/
def leftOnDimms (dimms : List Dimm) (goals : Goals) (amount : ℕ) : ℕ :=
  leftAfter (kindSizes .twoLM dimms goals) (leftAfter (kindSizes .appDirect1 dimms goals)
    (leftAfter (kindSizes .appDirect2 dimms goals) amount))

/-- None of the rounds meets a DIMM that has less than the share while still less is left. -/
structure FairOnDimms (dimms : List Dimm) (goals : Goals) (amount : ℕ) : Prop where
  /-- The round over the second extents. -/
  second : FairlyTaken (kindSizes .appDirect2 dimms goals) amount
  /-- The round over the first extents. -/
  first : FairlyTaken (kindSizes .appDirect1 dimms goals)
    (leftAfter (kindSizes .appDirect2 dimms goals) amount)
  /-- The round over the memory. -/
  memory : FairlyTaken (kindSizes .twoLM dimms goals)
    (leftAfter (kindSizes .appDirect1 dimms goals)
      (leftAfter (kindSizes .appDirect2 dimms goals) amount))

/-- An amount has been taken off the DIMMs, or more, but for what the rounds leave. -/
structure TakenOff (dimms : List Dimm) (amount : ℕ) (before after : Goals) : Prop where
  /-- At least the amount is gone but for what is left. -/
  le : mappedGiB dimms after + (amount - leftOnDimms dimms before amount) ≤ mappedGiB dimms before
  /-- When something is left, no more than that is gone. -/
  eq : 0 < leftOnDimms dimms before amount →
    mappedGiB dimms after + (amount - leftOnDimms dimms before amount) = mappedGiB dimms before

/-- What is said about DIMMs depends on their goals only. -/
private theorem onDimms_congr {goals' : Goals} (h : ∀ d ∈ dimms, goals d.uid = goals' d.uid) :
    (∀ type, kindSizes type dimms goals = kindSizes type dimms goals') ∧
      mappedGiB dimms goals = mappedGiB dimms goals' := by
  refine ⟨fun type => kindSizes_congr fun d hd => by rw [h d hd], ?_⟩
  unfold mappedGiB
  exact congrArg List.sum (List.map_congr_left fun d hd => by rw [h d hd])

/-- So do the rounds. -/
private theorem fairOnDimms_congr {goals' : Goals} (h : ∀ d ∈ dimms, goals d.uid = goals' d.uid)
    (amount : ℕ) : FairOnDimms dimms goals amount ↔ FairOnDimms dimms goals' amount := by
  have hsizes := (onDimms_congr h).1
  constructor
  · rintro ⟨h₂, h₁, hM⟩
    simp only [hsizes] at h₂ h₁ hM
    exact ⟨h₂, h₁, hM⟩
  · rintro ⟨h₂, h₁, hM⟩
    simp only [← hsizes] at h₂ h₁ hM
    exact ⟨h₂, h₁, hM⟩

/-- And what they take off. -/
private theorem TakenOff.congr {amount : ℕ} {before before' after after' : Goals}
    (h : TakenOff dimms amount before after) (hbefore : ∀ d ∈ dimms, before d.uid = before' d.uid)
    (hafter : ∀ d ∈ dimms, after d.uid = after' d.uid) : TakenOff dimms amount before' after' := by
  obtain ⟨hle, heq⟩ := h
  simp only [leftOnDimms, (onDimms_congr hbefore).1, (onDimms_congr hbefore).2,
    (onDimms_congr hafter).2] at hle heq
  exact ⟨hle, heq⟩

/-- Nothing can go wrong when there is nothing to take. -/
private theorem fairOnDimms_zero (dimms : List Dimm) (goals : Goals) :
    FairOnDimms dimms goals 0 := by
  have hleft : ∀ sizes : List ℕ, leftAfter sizes 0 = 0 := fun sizes =>
    Nat.le_zero.mp (leftAfter_le sizes 0)
  refine ⟨fun _ => fair_zero _ _, ?_, ?_⟩
  · rw [hleft]
    exact fun _ => fair_zero _ _
  · rw [hleft, hleft]
    exact fun _ => fair_zero _ _

/-- A visit to a DIMM leaves the other kinds of capacity. -/
private theorem size_reduceGoal_of_ne {type other : CapacityType} (share : UInt64)
    (goal : ConfigGoal) (h : type ≠ other) (htype : type ≠ .reservedAppDirectByOne)
    (hother : other ≠ .reservedAppDirectByOne) :
    other.size (reduceGoal type share goal) = other.size goal := by
  cases type <;> cases other <;>
    first
    | exact absurd rfl h
    | exact absurd rfl htype
    | exact absurd rfl hother
    | simp [CapacityType.size, CapacityType.setSize, reduceGoal]

/-- The account of the three passes over a socket. -/
theorem shrinkLayoutGoals_account (hnd : (dimms.map Dimm.uid).Nodup)
    (hfit : mappedGiB dimms goals < 2 ^ 64) (amount : UInt64) :
    (NoWrap (shrinkGoalsSubtractions dimms amount goals) ↔
      FairOnDimms dimms goals amount.toNat) ∧
    (FairOnDimms dimms goals amount.toNat →
      TakenOff dimms amount.toNat goals (shrinkLayoutGoals dimms amount goals)) := by
  rw [mappedGiB_eq] at hfit
  -- The passes before one leave its kind of capacity, so it starts with the sizes of the beginning.
  have hkept : ∀ {type : CapacityType} (other : CapacityType) (n : UInt64) (g : Goals), type ≠ other →
      type ≠ .reservedAppDirectByOne → other ≠ .reservedAppDirectByOne →
      kindSizes other dimms (shrinkCapacity type dimms n g).2 = kindSizes other dimms g ∧
        kindGiB other dimms (shrinkCapacity type dimms n g).2 = kindGiB other dimms g := by
    intro type other n g hne htype hother
    have hsize : ∀ d ∈ dimms, other.size ((shrinkCapacity type dimms n g).2 d.uid) =
        other.size (g d.uid) := fun d _ =>
      size_shrinkCapacity_of_ne (fun share goal => size_reduceGoal_of_ne share goal hne htype
        hother) n d.uid
    exact ⟨kindSizes_congr hsize, kindGiB_congr hsize⟩
  have hfirst := hkept .appDirect1 amount goals
    (show CapacityType.appDirect2 ≠ .appDirect1 by decide) (by decide) (by decide)
  have hmemory := hkept .twoLM amount goals
    (show CapacityType.appDirect2 ≠ .twoLM by decide) (by decide) (by decide)
  have hsecond := shrinkCapacity_account hnd
    (show kindGiB .appDirect2 dimms goals < 2 ^ 64 by omega) amount
  unfold shrinkGoalsSubtractions shrinkLayoutGoals shrinkAD2 shrinkAD1 shrinkMemory
  dsimp only
  generalize shrinkCapacity .appDirect2 dimms amount goals = ad2 at hfirst hmemory hsecond ⊢
  have hsecond' := hkept .appDirect2 ad2.1 ad2.2
    (show CapacityType.appDirect1 ≠ .appDirect2 by decide) (by decide) (by decide)
  have hmemory' := hkept .twoLM ad2.1 ad2.2
    (show CapacityType.appDirect1 ≠ .twoLM by decide) (by decide) (by decide)
  have hfirst' := shrinkCapacity_account hnd
    (show kindGiB .appDirect1 dimms ad2.2 < 2 ^ 64 by omega) ad2.1
  rw [hfirst.1] at hfirst'
  generalize shrinkCapacity .appDirect1 dimms ad2.1 ad2.2 = ad1 at hsecond' hmemory' hfirst' ⊢
  have hsecond'' := hkept .appDirect2 ad1.1 ad1.2
    (show CapacityType.twoLM ≠ .appDirect2 by decide) (by decide) (by decide)
  have hfirst'' := hkept .appDirect1 ad1.1 ad1.2
    (show CapacityType.twoLM ≠ .appDirect1 by decide) (by decide) (by decide)
  have hmemory'' := shrinkCapacity_account hnd
    (show kindGiB .twoLM dimms ad1.2 < 2 ^ 64 by omega) ad1.1
  rw [hmemory'.1, hmemory.1] at hmemory''
  generalize shrinkCapacity .twoLM dimms ad1.1 ad1.2 = memory at hsecond'' hfirst'' hmemory'' ⊢
  constructor
  · rw [noWrap_append, noWrap_append, hsecond.1]
    constructor
    · rintro ⟨h₂, hwrap₁, hwrapM⟩
      have hleft := (hsecond.2 h₂).left_eq
      have h₁ := hfirst'.1.mp hwrap₁
      have hleft' := (hfirst'.2 h₁).left_eq
      have hM := hmemory''.1.mp hwrapM
      rw [hleft', hleft] at hM
      rw [hleft] at h₁
      exact ⟨h₂, h₁, hM⟩
    · rintro ⟨h₂, h₁, hM⟩
      rw [← (hsecond.2 h₂).left_eq] at h₁ hM
      rw [← (hfirst'.2 h₁).left_eq] at hM
      exact ⟨h₂, hfirst'.1.mpr h₁, hmemory''.1.mpr hM⟩
  · rintro ⟨h₂, h₁, hM⟩
    suffices htaken : ∀ left, left = leftOnDimms dimms goals amount.toNat →
        mappedGiB dimms memory.2 + (amount.toNat - left) ≤ mappedGiB dimms goals ∧
          (0 < left → mappedGiB dimms memory.2 + (amount.toNat - left) = mappedGiB dimms goals) from
      ⟨(htaken _ rfl).1, (htaken _ rfl).2⟩
    rintro left rfl
    rw [leftOnDimms, mappedGiB_eq, mappedGiB_eq]
    have hle₂ := leftAfter_le (kindSizes .appDirect2 dimms goals) amount.toNat
    obtain ⟨hleft₂, htaken₂, hexact₂⟩ := hsecond.2 h₂
    rw [← hleft₂] at h₁ hM hle₂ htaken₂ hexact₂ ⊢
    have hle₁ := leftAfter_le (kindSizes .appDirect1 dimms goals) ad2.1.toNat
    obtain ⟨hleft₁, htaken₁, hexact₁⟩ := hfirst'.2 h₁
    rw [← hleft₁] at hM hle₁ htaken₁ hexact₁ ⊢
    have hleM := leftAfter_le (kindSizes .twoLM dimms goals) ad1.1.toNat
    obtain ⟨-, htakenM, hexactM⟩ := hmemory''.2 hM
    have hkeptFirst := hfirst.2
    have hkeptFirst'' := hfirst''.2
    have hkeptSecond := hsecond'.2.symm.trans hsecond''.2.symm
    have hkeptMemory := hmemory'.2.trans hmemory.2
    refine ⟨by omega, fun hpos => ?_⟩
    have := hexactM hpos
    have := hexact₁ (by omega)
    have := hexact₂ (by omega)
    omega

/-- Shrinking the goals of a socket leaves those of other DIMMs. -/
private theorem shrinkLayoutGoals_apply_of_notMem {uid : Uid} (h : uid ∉ dimms.map Dimm.uid)
    (amount : UInt64) : shrinkLayoutGoals dimms amount goals uid = goals uid := by
  unfold shrinkLayoutGoals shrinkAD2 shrinkAD1 shrinkMemory
  dsimp only
  rw [shrinkCapacity_apply_of_notMem h, shrinkCapacity_apply_of_notMem h,
    shrinkCapacity_apply_of_notMem h]

/-- A running difference does not wrap exactly when it stays above zero to its end. -/
theorem noWrap_differenceSubtractions (total : UInt64) (ns : List UInt64) :
    NoWrap (differenceSubtractions total ns) ↔ (ns.map UInt64.toNat).sum ≤ total.toNat := by
  induction ns generalizing total with
  | nil => exact ⟨fun _ => Nat.zero_le _, fun _ => noWrap_nil⟩
  | cons n ns ih =>
    have hcons : differenceSubtractions total (n :: ns) =
        [(total, n)] ++ differenceSubtractions (total - n) ns := rfl
    rw [hcons, noWrap_append, noWrap_singleton, ih, List.map_cons, List.sum_cons]
    constructor
    · rintro ⟨hle, hrest⟩
      rw [toNat_sub_of_toNat_le hle] at hrest
      omega
    · intro hle
      have hle' : n.toNat ≤ total.toNat := by omega
      rw [toNat_sub_of_toNat_le hle']
      omega

end Account

/-! ### One socket -/

section OneSocket

variable (details : List DeviceDetails) (info : Socket) (reqGoals : List ConfigGoal)

/-- The GiB that a socket exceeds its limit by. -/
def excess : ℕ :=
  (existingGiB details info reqGoals).toNat + (reqGoals.map ConfigGoal.totalGiB).sum -
    (limitOnSocket info).toNat

/-- The App Direct capacity that the request replaces in 1LM is part of what is mapped. -/
def ReplacedMapped : Prop :=
  staysOneLM details reqGoals = true →
    ((replacedDetails details reqGoals).map fun d => d.appDirectCapacity.toNat).sum ≤
      info.totalMappedMemory.toNat

variable {details info reqGoals}

/-- The total of a socket over the exact integers. -/
theorem toNat_newTotalMapped (hfit : (reqGoals.map ConfigGoal.totalGiB).sum < 2 ^ 34) :
    (newTotalMapped details info reqGoals).toNat =
      (existingGiB details info reqGoals).toNat + (reqGoals.map ConfigGoal.totalGiB).sum := by
  have hgoal : ∀ goal ∈ reqGoals,
      (goal.memorySize + goal.appDirect1Size + goal.appDirect2Size).toNat = goal.totalGiB := by
    intro goal hmem
    have hle : goal.totalGiB ≤ (reqGoals.map ConfigGoal.totalGiB).sum :=
      le_sum_map_of_mem hmem
    have htotal : goal.totalGiB =
      goal.memorySize.toNat + goal.appDirect1Size.toNat + goal.appDirect2Size.toNat := rfl
    rw [htotal] at hle ⊢
    rw [toNat_add_of_lt, toNat_add_of_lt]
    · omega
    · rw [toNat_add_of_lt (by omega)]
      omega
  have hmap := List.map_congr_left hgoal
  have hfold : (reqGoals.foldl (fun (total : UInt64) (goal : ConfigGoal) =>
      total + goal.memorySize + goal.appDirect1Size + goal.appDirect2Size) 0).toNat =
        (reqGoals.map ConfigGoal.totalGiB).sum := by
    rw [← hmap] at hfit ⊢
    rw [← toNat_foldl_add_of_lt _ _ (by omega)]
    congr 1
    refine List.foldl_ext _ _ _ fun total goal _ => ?_
    rw [UInt64.add_assoc, UInt64.add_assoc, UInt64.add_assoc]
  have hexisting : (existingGiB details info reqGoals).toNat < 2 ^ 34 := by
    rw [existingGiB, toNat_bToGiB]
    have := (totalCurrSizeInB details info (details.length == reqGoals.length)
      (details.any fun d => d.memoryCapacity > 0) (isReqConfigurationMemMode details
        reqGoals)).toNat_lt
    omega
  rw [newTotalMapped, toNat_add_of_lt (by omega), hfold]

/-- What the step does on one socket: it wraps nothing exactly when the replaced capacity is part of
what is mapped and each round is fair, and then it takes the excess away but for what is left. -/
theorem limitSocket_account (details : List DeviceDetails) (info : Socket) {dimms : List Dimm}
    {goals : Goals} (hnd : (dimms.map Dimm.uid).Nodup)
    (hgoals : reqGoals = dimms.map fun d => goals d.uid) (hfit : mappedGiB dimms goals < 2 ^ 34) :
    (NoWrap (socketSubtractions details info reqGoals dimms goals) ↔
      ReplacedMapped details info reqGoals ∧
        FairOnDimms dimms goals (excess details info reqGoals)) ∧
    (FairOnDimms dimms goals (excess details info reqGoals) →
      TakenOff dimms (excess details info reqGoals) goals
        (limitSocket details info reqGoals dimms goals)) := by
  have hsum : (reqGoals.map ConfigGoal.totalGiB).sum = mappedGiB dimms goals := by
    rw [hgoals, List.map_map]
    rfl
  have htotal : (newTotalMapped details info reqGoals).toNat =
      (existingGiB details info reqGoals).toNat + (reqGoals.map ConfigGoal.totalGiB).sum :=
    toNat_newTotalMapped (hsum ▸ hfit)
  have hreplaced : NoWrap (if staysOneLM details reqGoals then
      differenceSubtractions info.totalMappedMemory
        ((replacedDetails details reqGoals).map DeviceDetails.appDirectCapacity)
      else []) ↔ ReplacedMapped details info reqGoals := by
    unfold ReplacedMapped
    by_cases hstays : staysOneLM details reqGoals = true
    · rw [if_pos hstays, noWrap_differenceSubtractions, List.map_map]
      exact ⟨fun h _ => h, fun h => h hstays⟩
    · rw [if_neg hstays]
      exact ⟨fun _ h => absurd h hstays, fun _ => noWrap_nil⟩
  rw [socketSubtractions, noWrap_append, hreplaced, limitSocket]
  by_cases hexceeds : newTotalMapped details info reqGoals > limitOnSocket info
  · have hlt : (limitOnSocket info).toNat < (newTotalMapped details info reqGoals).toNat :=
      UInt64.lt_iff_toNat_lt.mp hexceeds
    have hamount : (newTotalMapped details info reqGoals - limitOnSocket info).toNat =
        excess details info reqGoals := by
      rw [toNat_sub_of_toNat_le (Nat.le_of_lt hlt), htotal, excess]
    obtain ⟨hwrap, haccount⟩ := shrinkLayoutGoals_account hnd (Nat.lt_trans hfit (by decide))
      (newTotalMapped details info reqGoals - limitOnSocket info)
    rw [hamount] at hwrap haccount
    rw [if_pos hexceeds, if_pos hexceeds, ← List.singleton_append, noWrap_append,
      noWrap_singleton, hwrap]
    exact ⟨and_congr_right fun _ => ⟨And.right, fun h => ⟨Nat.le_of_lt hlt, h⟩⟩, haccount⟩
  · have hle : (newTotalMapped details info reqGoals).toNat ≤ (limitOnSocket info).toNat :=
      UInt64.le_iff_toNat_le.mp (UInt64.not_lt.mp hexceeds)
    have hzero : excess details info reqGoals = 0 := by
      rw [excess]
      omega
    rw [if_neg hexceeds, if_neg hexceeds, hzero]
    refine ⟨⟨fun h => ⟨h.1, fairOnDimms_zero dimms goals⟩, fun h => ⟨h.1, noWrap_nil⟩⟩,
      fun _ => ⟨?_, fun _ => ?_⟩⟩
    · omega
    · omega

end OneSocket

/-! ### All sockets -/

section Sockets

variable {builder : LayoutBuilder} {request : MemoryAllocationRequest}
  {layout after : MemoryAllocationLayout}

/-- What a socket exceeds its limit by, with the goals the step starts from. -/
def socketExcess (builder : LayoutBuilder) (request : MemoryAllocationRequest)
    (layout : MemoryAllocationLayout) (socket : UInt16 × Socket) : ℕ :=
  excess (socketDetails builder socket.1) socket.2 (socketGoals request layout socket.1)

/-- A DIMM of one socket is not on another. -/
private theorem notMem_socketDimms (hnd : (request.dimms.map Dimm.uid).Nodup) {d : Dimm}
    (hd : d ∈ request.dimms) {id : UInt16} (hid : d.socket ≠ id) :
    d.uid ∉ (socketDimms request id).map Dimm.uid := by
  intro hmem
  obtain ⟨e, he, huid⟩ := List.mem_map.mp hmem
  obtain ⟨he, hsocket⟩ := List.mem_filter.mp he
  obtain rfl : e = d := List.inj_on_of_nodup_map hnd he hd huid
  exact hid (beq_iff_eq.mp hsocket)

/-- The step on a socket leaves the goals of a DIMM that is on another, or when there is nothing to
take. -/
private theorem limitSocket_apply {details : List DeviceDetails} {info : Socket}
    {reqGoals : List ConfigGoal} {dimms : List Dimm} {goals : Goals} {uid : Uid}
    (h : uid ∉ dimms.map Dimm.uid ∨
      (newTotalMapped details info reqGoals).toNat ≤ (limitOnSocket info).toNat) :
    limitSocket details info reqGoals dimms goals uid = goals uid := by
  unfold limitSocket
  split_ifs with hexceeds
  · rcases h with h | h
    · exact shrinkLayoutGoals_apply_of_notMem h _
    · have := UInt64.lt_iff_toNat_lt.mp hexceeds
      omega
  · rfl

/-- So do the steps on several sockets. -/
private theorem limitSockets_apply {sockets : List (UInt16 × Socket)} {goals : Goals} {uid : Uid}
    (h : ∀ socket ∈ sockets, uid ∉ (socketDimms request socket.1).map Dimm.uid ∨
      (newTotalMapped (socketDetails builder socket.1) socket.2
        (socketGoals request layout socket.1)).toNat ≤ (limitOnSocket socket.2).toNat) :
    limitSockets builder request layout sockets goals uid = goals uid := by
  induction sockets generalizing goals with
  | nil => rfl
  | cons socket sockets ih =>
    rw [limitSockets, ih fun s hs => h s (List.mem_cons_of_mem socket hs),
      limitSocket_apply (h socket List.mem_cons_self)]

/-- The account of the step over sockets, from goals that are still those of the start on their
DIMMs: the sockets do not disturb each other. -/
private theorem limitSockets_account (builder : LayoutBuilder) (h : OneGoalEach request layout)
    (hfit : mappedGiB request.dimms layout.goals < 2 ^ 34) (sockets : List (UInt16 × Socket)) :
    ∀ goals : Goals, (sockets.map Prod.fst).Nodup →
      (∀ socket ∈ sockets, ∀ d ∈ socketDimms request socket.1,
        goals d.uid = layout.goals d.uid) →
      (NoWrap (limitSubtractions builder request layout sockets goals) ↔ ∀ socket ∈ sockets,
        ReplacedMapped (socketDetails builder socket.1) socket.2
          (socketGoals request layout socket.1) ∧
        FairOnDimms (socketDimms request socket.1) layout.goals
          (socketExcess builder request layout socket)) ∧
      ∀ socket ∈ sockets, FairOnDimms (socketDimms request socket.1) layout.goals
          (socketExcess builder request layout socket) →
        TakenOff (socketDimms request socket.1) (socketExcess builder request layout socket)
          layout.goals (limitSockets builder request layout sockets goals) := by
  have hnd := nodup_uids h.distinct
  induction sockets with
  | nil =>
    intro goals _ _
    exact ⟨⟨fun _ _ hs => absurd hs List.not_mem_nil, fun _ => noWrap_nil⟩,
      fun _ hs => absurd hs List.not_mem_nil⟩
  | cons socket sockets ih =>
    obtain ⟨id, info⟩ := socket
    intro goals hids hagree
    rw [List.map_cons, List.nodup_cons] at hids
    have hhead := hagree (id, info) List.mem_cons_self
    have hsub : (socketDimms request id).Sublist request.dimms := List.filter_sublist
    have hgoals : socketGoals request layout id =
        (socketDimms request id).map fun d => goals d.uid := by
      rw [socketGoals_eq h]
      exact List.map_congr_left fun d hd => (hhead d hd).symm
    have hfit' : mappedGiB (socketDimms request id) goals < 2 ^ 34 := by
      rw [(onDimms_congr hhead).2]
      exact Nat.lt_of_le_of_lt (List.Sublist.sum_le_sum (hsub.map _) fun _ _ => Nat.zero_le _) hfit
    obtain ⟨hwrap, htaken⟩ := limitSocket_account (socketDetails builder id) info
      (hnd.sublist (hsub.map _)) hgoals hfit'
    -- The first socket leaves the DIMMs of the others, and they leave its own.
    have hothers : ∀ socket ∈ sockets, ∀ d ∈ socketDimms request socket.1,
        d.uid ∉ (socketDimms request id).map Dimm.uid := by
      intro socket hs d hd
      obtain ⟨hd, hsocket⟩ := List.mem_filter.mp hd
      refine notMem_socketDimms hnd hd fun heq => hids.1 ?_
      show id ∈ sockets.map Prod.fst
      rw [← heq, beq_iff_eq.mp hsocket]
      exact List.mem_map_of_mem hs
    have hown : ∀ d ∈ socketDimms request id, ∀ socket ∈ sockets,
        d.uid ∉ (socketDimms request socket.1).map Dimm.uid := by
      intro d hd socket hs
      obtain ⟨hd, hsocket⟩ := List.mem_filter.mp hd
      refine notMem_socketDimms hnd hd fun heq => hids.1 ?_
      show id ∈ sockets.map Prod.fst
      rw [← beq_iff_eq.mp hsocket, heq]
      exact List.mem_map_of_mem hs
    have hagree' : ∀ socket ∈ sockets, ∀ d ∈ socketDimms request socket.1,
        limitSocket (socketDetails builder id) info (socketGoals request layout id)
          (socketDimms request id) goals d.uid = layout.goals d.uid := by
      intro socket hs d hd
      rw [limitSocket_apply (.inl (hothers socket hs d hd))]
      exact hagree socket (List.mem_cons_of_mem _ hs) d hd
    obtain ⟨ihwrap, ihtaken⟩ := ih _ hids.2 hagree'
    rw [fairOnDimms_congr hhead] at hwrap htaken
    constructor
    · rw [limitSubtractions, noWrap_append, hwrap, ihwrap, List.forall_mem_cons]
      rfl
    · rw [List.forall_mem_cons]
      refine ⟨fun hfair => (htaken hfair).congr hhead fun d hd => ?_, ihtaken⟩
      exact (limitSockets_apply fun socket hs => .inl (hown d hd socket hs)).symm

/-- What the step meets its purpose on, for one socket: the replaced capacity is part of what is
mapped, the rounds over the socket are fair, and they leave nothing of the excess unless what cannot
be shrunk is above the limit. -/
structure Limitable (builder : LayoutBuilder) (request : MemoryAllocationRequest)
    (layout : MemoryAllocationLayout) (socket : UInt16 × Socket) : Prop where
  /-- In 1LM the replaced App Direct capacity is part of what is mapped. -/
  replaced : ReplacedMapped (socketDetails builder socket.1) socket.2
    (socketGoals request layout socket.1)
  /-- No round meets a DIMM that has less than the share while still less is left. -/
  fair : FairOnDimms (socketDimms request socket.1) layout.goals
    (socketExcess builder request layout socket)
  /-- The rounds take the whole excess. -/
  nothingLeft : (existingGiB (socketDetails builder socket.1) socket.2
      (socketGoals request layout socket.1)).toNat ≤ (limitOnSocket socket.2).toNat →
    leftOnDimms (socketDimms request socket.1) layout.goals
      (socketExcess builder request layout socket) = 0

/-- A socket from which the excess was taken is within its limit exactly when nothing is left. -/
private theorem within_iff (h : OneGoalEach request layout)
    (huids : after.goalUids = layout.goalUids) {socket : UInt16 × Socket}
    (htaken : TakenOff (socketDimms request socket.1) (socketExcess builder request layout socket)
      layout.goals after.goals) :
    (existingGiB (socketDetails builder socket.1) socket.2
        (socketGoals request layout socket.1)).toNat +
      ((socketGoals request after socket.1).map ConfigGoal.totalGiB).sum ≤
        (limitOnSocket socket.2).toNat ↔
    leftOnDimms (socketDimms request socket.1) layout.goals
      (socketExcess builder request layout socket) = 0 := by
  have hafter : OneGoalEach request after := ⟨h.distinct, huids.trans h.goalUids⟩
  have hsum : ∀ {l : MemoryAllocationLayout}, OneGoalEach request l →
      ((socketGoals request l socket.1).map ConfigGoal.totalGiB).sum =
        mappedGiB (socketDimms request socket.1) l.goals := by
    intro l hl
    rw [socketGoals_eq hl, List.map_map]
    rfl
  have hexcess : socketExcess builder request layout socket =
      (existingGiB (socketDetails builder socket.1) socket.2
        (socketGoals request layout socket.1)).toNat +
      mappedGiB (socketDimms request socket.1) layout.goals - (limitOnSocket socket.2).toNat := by
    rw [socketExcess, excess, hsum h]
  have hleft : leftOnDimms (socketDimms request socket.1) layout.goals
      (socketExcess builder request layout socket) ≤ socketExcess builder request layout socket :=
    (leftAfter_le _ _).trans ((leftAfter_le _ _).trans (leftAfter_le _ _))
  rw [hsum hafter]
  obtain ⟨hle, heq⟩ := htaken
  generalize leftOnDimms (socketDimms request socket.1) layout.goals
    (socketExcess builder request layout socket) = left at hle heq hleft ⊢
  constructor
  · intro hwithin
    by_contra hne
    have := heq (Nat.pos_of_ne_zero hne)
    omega
  · rintro rfl
    omega

/-- The step keeps the limits exactly when each of the limited sockets allows it. -/
theorem limitKept_iff_limitable (h : OneGoalEach request layout)
    (hfit : mappedGiB request.dimms layout.goals < 2 ^ 34) {sockets : List (UInt16 × Socket)}
    (hsockets : limitedSockets builder request layout = .ok sockets)
    (hrun : execute builder request layout = .ok () after) :
    LimitKept builder request layout sockets after ↔
      ∀ socket ∈ sockets, Limitable builder request layout socket := by
  obtain ⟨huids, hgoals⟩ := goals_of_execute hsockets hrun
  obtain ⟨hwrap, htaken⟩ := limitSockets_account builder h hfit sockets layout.goals
    (nodup_limitedSockets h hsockets) fun _ _ _ _ => rfl
  rw [← hgoals] at htaken
  constructor
  · rintro ⟨hwithin, -, hnoWrap⟩ socket hs
    obtain ⟨hreplaced, hfair⟩ := hwrap.mp hnoWrap socket hs
    exact ⟨hreplaced, hfair, fun hexisting =>
      (within_iff h huids (htaken socket hs hfair)).mp (hwithin socket hs hexisting)⟩
  · intro hlimitable
    refine ⟨fun socket hs hexisting => ?_, fun d hd hbelow => ?_, ?_⟩
    · obtain ⟨-, hfair, hnothing⟩ := hlimitable socket hs
      exact (within_iff h huids (htaken socket hs hfair)).mpr (hnothing hexisting)
    · rw [hgoals]
      refine limitSockets_apply fun socket hs => ?_
      by_cases hsocket : d.socket = socket.1
      · rw [← hsocket]
        refine .inr (hbelow socket.2 ?_)
        rw [hsocket]
        exact hs
      · exact .inl (notMem_socketDimms (nodup_uids h.distinct) hd hsocket)
    · exact hwrap.mpr fun socket hs => ⟨(hlimitable socket hs).replaced,
        (hlimitable socket hs).fair⟩

/-- A run of the step that ends has read the sockets. -/
theorem exists_limitedSockets (hrun : execute builder request layout = .ok () after) :
    ∃ sockets, limitedSockets builder request layout = .ok sockets := by
  unfold execute at hrun
  split at hrun
  · cases hrun
  · rename_i exceeded hexceeded
    unfold exceededSockets at hexceeded
    obtain ⟨sockets, hsockets, -⟩ := except_bind_ok hexceeded
    exact ⟨sockets, hsockets⟩

end Sockets

end LayoutStepLimitTotalMappedMemory

/-! ### The step in a build -/

namespace LayoutBuilder

open LayoutStepLimitTotalMappedMemory

variable (builder : LayoutBuilder) (request : MemoryAllocationRequest)

/-- The memory step adds no keys to the goal map. -/
theorem goalUids_memory (lib : NvmLibrary) (layout : MemoryAllocationLayout) :
    (finalState (LayoutStepMemory.execute lib request layout)).goalUids = layout.goalUids := by
  unfold LayoutStepMemory.execute
  split_ifs
  · split
    · rfl
    · split_ifs
      · rfl
      · rfl
  · rfl

/-- Neither does the App Direct step. -/
theorem goalUids_appDirect (lib : NvmLibrary) (layout : MemoryAllocationLayout) :
    (finalState (LayoutStepAppDirect.execute lib request layout)).goalUids = layout.goalUids := by
  have hadd : ∀ layout : MemoryAllocationLayout,
      (LayoutStepAppDirect.addExtentCapacityToLayout layout).goalUids = layout.goalUids := by
    intro layout
    unfold LayoutStepAppDirect.addExtentCapacityToLayout
    dsimp only
    split_ifs
    · rfl
    · rfl
  unfold LayoutStepAppDirect.execute
  split_ifs
  · split
    · rfl
    · split
      · rfl
      · dsimp only
        split_ifs
        · exact hadd _
        · exact hadd _
  · rfl

/-- Before the mapped memory limit there is one goal for each of the requested DIMMs. -/
private theorem oneGoalEach_layoutBeforeLimit
    (hdistinct : request.dimms.Pairwise fun d e => uidCmp d.uid e.uid = false) :
    OneGoalEach request (builder.layoutBeforeLimit request) := by
  refine ⟨hdistinct, ?_⟩
  have huntouched : Untouched builder request (afterSteps
      (builder.warningGeneratingLayoutSteps request) (builder.initLayoutGoals request)) :=
    afterSteps_keeps (untouched_warningGeneratingLayoutSteps builder request)
      (untouched_initLayoutGoals builder request)
  have hreserve : (builder.layoutBeforeLimit request).goalUids =
      (builder.layoutBeforeReserved request).goalUids := by
    unfold layoutBeforeLimit LayoutStepReserved.reserve
    dsimp only
    split_ifs
    · rfl
    · rfl
  rw [hreserve, layoutBeforeReserved, goalUids_appDirect, layoutBeforeAppDirect, goalUids_memory,
    huntouched.goalUids]
  exact (nodup_uids hdistinct).dedup

/-- Before the mapped memory limit the goals fit in the DIMMs. -/
private theorem goalsFit_layoutBeforeLimit (hnd : (request.dimms.map Dimm.uid).Nodup) :
    GoalsFit request.dimms (builder.layoutBeforeLimit request) := by
  have huntouched : Untouched builder request (afterSteps
      (builder.warningGeneratingLayoutSteps request) (builder.initLayoutGoals request)) :=
    afterSteps_keeps (untouched_warningGeneratingLayoutSteps builder request)
      (untouched_initLayoutGoals builder request)
  have hphase : MemoryPhase request.dimms (builder.layoutBeforeAppDirect request) :=
    LayoutStepMemory.execute_memoryGoals builder.nvmLib hnd _ huntouched.memoryPhase
  intro d hd
  exact ((LayoutStepReserved.reserve_within request _ d.uid).totalGiB_le).trans
    (appDirect_goalAt builder hnd hphase d hd).fits

/-- For DIMMs whose uids differ and whose capacities add up in 64 bits, the mapped memory limit of a
build keeps every limited socket within its limit, leaves the goals of the others and wraps nothing
exactly when every limited socket can be limited in single rounds. -/
theorem limitKept_iff (hdistinct : request.dimms.Pairwise fun d e => uidCmp d.uid e.uid = false)
    (hcapacity : (request.dimms.map fun d => d.capacityBytes.toNat).sum < 2 ^ 64)
    (after : MemoryAllocationLayout)
    (hrun : LayoutStepLimitTotalMappedMemory.execute builder request
      (builder.layoutBeforeLimit request) = .ok () after) :
    ∃ sockets, limitedSockets builder request (builder.layoutBeforeLimit request) = .ok sockets ∧
      (LimitKept builder request (builder.layoutBeforeLimit request) sockets after ↔
        ∀ socket ∈ sockets,
          Limitable builder request (builder.layoutBeforeLimit request) socket) := by
  obtain ⟨sockets, hsockets⟩ := exists_limitedSockets hrun
  have hfit : mappedGiB request.dimms (builder.layoutBeforeLimit request).goals < 2 ^ 34 := by
    refine Nat.lt_of_le_of_lt ?_ (totalGiB_lt hcapacity)
    exact sum_map_le_sum_map_of_le (goalsFit_layoutBeforeLimit builder request
      (nodup_uids hdistinct))
  exact ⟨sockets, hsockets, limitKept_iff_limitable
    (oneGoalEach_layoutBeforeLimit builder request hdistinct) hfit hsockets hrun⟩

/-- A socket that maps 1 GiB of DDR and whose SKU limits the mapped memory. -/
def limitedSocket (limitGiB : UInt64) : Socket where
  mappedMemoryLimit := giBToB limitGiB
  totalMappedMemory := giBToB 1
  total2LmDdrCacheMemory := 0
  isCapacitySkuingSupported := true

/-- A builder on a platform of such sockets, with two unconfigured devices on the first of them. -/
def limitedBuilder (limitGiB : UInt64) : LayoutBuilder :=
  { plainBuilder with
    nvmLib := { plainLibrary with getSocket := fun _ => .ok (limitedSocket limitGiB) }
    deviceDetailsList := List.replicate 2 ⟨0, 0, 0, false⟩ }

/-- Two DIMMs, all of each of them App Direct that is not interleaved. -/
def byOneRequest (first second : UInt64) : MemoryAllocationRequest where
  appDirectExtent := { capacityGiB := first + second, byOne := true }
  dimms := [plainDimm ['a'] first 0 0, plainDimm ['b'] second 1 0]

/-- On two DIMMs of 5 GiB, the socket is brought down to its limit of 3 GiB. -/
theorem limitKept_evenPair : ∃ sockets after,
    limitedSockets (limitedBuilder 3) (byOneRequest 5 5)
        ((limitedBuilder 3).layoutBeforeLimit (byOneRequest 5 5)) = .ok sockets ∧
      sockets ≠ [] ∧
      LayoutStepLimitTotalMappedMemory.execute (limitedBuilder 3) (byOneRequest 5 5)
        ((limitedBuilder 3).layoutBeforeLimit (byOneRequest 5 5)) = .ok () after ∧
      LimitKept (limitedBuilder 3) (byOneRequest 5 5)
        ((limitedBuilder 3).layoutBeforeLimit (byOneRequest 5 5)) sockets after := by
  have hrun : LayoutStepLimitTotalMappedMemory.execute (limitedBuilder 3) (byOneRequest 5 5)
      ((limitedBuilder 3).layoutBeforeLimit (byOneRequest 5 5)) = .ok () (finalState
        (LayoutStepLimitTotalMappedMemory.execute (limitedBuilder 3) (byOneRequest 5 5)
          ((limitedBuilder 3).layoutBeforeLimit (byOneRequest 5 5)))) := rfl
  obtain ⟨sockets, hsockets, hiff⟩ := limitKept_iff (limitedBuilder 3) (byOneRequest 5 5)
    (by decide +kernel) (by decide +kernel) _ hrun
  obtain rfl : [(0, limitedSocket 3)] = sockets := Except.ok.inj (.trans rfl hsockets)
  refine ⟨_, _, hsockets, List.cons_ne_nil _ _, hrun, hiff.mpr ?_⟩
  have hsecond : kindSizes .appDirect2 (socketDimms (byOneRequest 5 5) 0)
      ((limitedBuilder 3).layoutBeforeLimit (byOneRequest 5 5)).goals = [] := by decide +kernel
  have hfirst : kindSizes .appDirect1 (socketDimms (byOneRequest 5 5) 0)
      ((limitedBuilder 3).layoutBeforeLimit (byOneRequest 5 5)).goals = [5, 5] := by decide +kernel
  have hmemory : kindSizes .twoLM (socketDimms (byOneRequest 5 5) 0)
      ((limitedBuilder 3).layoutBeforeLimit (byOneRequest 5 5)).goals = [] := by decide +kernel
  have hexcess : socketExcess (limitedBuilder 3) (byOneRequest 5 5)
      ((limitedBuilder 3).layoutBeforeLimit (byOneRequest 5 5)) (0, limitedSocket 3) = 8 := by
    decide +kernel
  intro socket hs
  obtain rfl := List.mem_singleton.mp hs
  refine ⟨fun _ => by decide +kernel, ?_, fun _ => by decide +kernel⟩
  rw [hexcess]
  -- Both DIMMs have the share of 4 GiB.
  refine ⟨?_, ?_, ?_⟩
  · rw [hsecond]
    exact fun _ => fair_nil _ _
  · rw [hsecond, hfirst]
    intro _
    have hshare : evenShare (leftAfter [] 8) [5, 5].length = 4 := by decide
    rw [hshare, fair_cons, fair_cons]
    exact ⟨fun h => absurd h (by decide), fun h => absurd h (by decide), fair_nil _ _⟩
  · rw [hsecond, hfirst, hmemory]
    exact fun _ => fair_nil _ _

/-- On a DIMM of 5 GiB and one of 1 GiB, the share of 3 GiB is more than the second one has: the
socket ends with 3 GiB mapped and a limit of 2 GiB, although only 1 GiB could not be shrunk. -/
theorem not_limitKept_unevenPair : ∃ sockets after,
    (byOneRequest 5 1).dimms.Pairwise (fun d e => uidCmp d.uid e.uid = false) ∧
    ((byOneRequest 5 1).dimms.map fun d => d.capacityBytes.toNat).sum < 2 ^ 64 ∧
    limitedSockets (limitedBuilder 2) (byOneRequest 5 1)
        ((limitedBuilder 2).layoutBeforeLimit (byOneRequest 5 1)) = .ok sockets ∧
      LayoutStepLimitTotalMappedMemory.execute (limitedBuilder 2) (byOneRequest 5 1)
        ((limitedBuilder 2).layoutBeforeLimit (byOneRequest 5 1)) = .ok () after ∧
      ¬ LimitKept (limitedBuilder 2) (byOneRequest 5 1)
        ((limitedBuilder 2).layoutBeforeLimit (byOneRequest 5 1)) sockets after := by
  refine ⟨[(0, limitedSocket 2)], finalState
    (LayoutStepLimitTotalMappedMemory.execute (limitedBuilder 2) (byOneRequest 5 1)
      ((limitedBuilder 2).layoutBeforeLimit (byOneRequest 5 1))), by decide +kernel,
    by decide +kernel, rfl, rfl, fun hkept => ?_⟩
  have hwithin := hkept.within (0, limitedSocket 2) List.mem_cons_self (by decide +kernel)
  exact absurd hwithin (by decide +kernel)

end LayoutBuilder

end IxpDimm
