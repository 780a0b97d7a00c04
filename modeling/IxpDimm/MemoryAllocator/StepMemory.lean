import IxpDimm.Foundation.WhileLoop
import IxpDimm.MemoryAllocator.LayoutStep

/-!
# The memory mode step

`LayoutStepMemory.cpp`.  The requested memory mode capacity is laid out in rounds: each round gives
every DIMM that has capacity left the same whole number of GiB, until the request is met, a round
allocates nothing, or no DIMM has capacity left.  The boundary between the volatile and the
persistent partition of every DIMM is then moved to the alignment of the persistent partition.

The step is entered with zeroed goals, so every goal it leaves has a memory size within its DIMM
and no App Direct extent; the rounds are bounded by the GiB there are to hand out.
-/

namespace IxpDimm

open Foundation

/-- `PM_RECOMMENDED_ALIGNMENT_GIB`. -/
def pmRecommendedAlignmentGiB : UInt64 := 32

/-- `CONFIG_VALUE_LEN`. -/
def configValueLen : ℕ := 1024

namespace LayoutStepMemory

/-- `getBytesAllocatedFromLayout`. -/
def getBytesAllocatedFromLayout (goalUids : List Uid) (goals : Goals) : UInt64 :=
  goalUids.foldl (fun bytes uid => bytes + configGoalSizeToBytes (goals uid).memorySize) 0

/-- `layoutMaximumSymmetricalBytesOnDimms`; it fails before it changes a goal. -/
def layoutMaximumSymmetricalBytesOnDimms (bytesToLayout : UInt64) (dimmsToLayout : List Dimm)
    (goals : Goals) : Except LayoutException Goals :=
  match getLargestPerDimmSymmetricalBytes dimmsToLayout goals bytesToLayout with
  | .error e => .error e
  | .ok (bytesPerDimm, dimmsIncluded) =>
    .ok (updateAll Dimm.uid (fun _ goal =>
      { goal with memorySize := goal.memorySize + bytesToConfigGoalSize bytesPerDimm })
      dimmsIncluded goals)

/-- `newBytesWereAllocated`. -/
def newBytesWereAllocated (goalUids : List Uid) (goals : Goals) (previousBytesAllocated : UInt64) :
    Bool :=
  previousBytesAllocated ≠ getBytesAllocatedFromLayout goalUids goals

/-- One round of the loop in `layoutMemoryModeCapacity`, on the goals and `bytesAllocated`. -/
def layoutRound (request : MemoryAllocationRequest) (goalUids : List Uid) :
    Goals × UInt64 → (Goals × UInt64) ⊕ EStateM.Result LayoutException Goals Unit
  | (goals, bytesAllocated) =>
    let bytesToAllocate := giBToB request.memoryModeCapacityGiB
    if bytesAllocated < bytesToAllocate then
      match layoutMaximumSymmetricalBytesOnDimms (bytesToAllocate - bytesAllocated)
        request.nonReservedDimms goals with
      | .error e => .inr (.error e goals)
      | .ok goals' =>
        if newBytesWereAllocated goalUids goals' bytesAllocated then
          .inl (goals', getBytesAllocatedFromLayout goalUids goals')
        else
          .inr (.ok () goals')
    else
      .inr (.ok () goals)

/-- A number of rounds within which the loop of `layoutMemoryModeCapacity` ends. -/
def roundBound (request : MemoryAllocationRequest) : ℕ :=
  (request.dimms.map fun dimm => wholeGiB dimm.capacityBytes).sum + 1

/-- `layoutMemoryModeCapacity`. -/
def layoutMemoryModeCapacity (request : MemoryAllocationRequest) (goalUids : List Uid)
    (goals : Goals) : EStateM.Result LayoutException Goals Unit :=
  (runLoop (layoutRound request goalUids) (roundBound request) (goals, 0)).getD
    (.error .nonTermination goals)

/-- The alignment `getAlignedPersistentPartitionCapacityGiB` reads from the configuration.  For a
value that is set to a number, the number `s_strtoull` stores is overwritten by its result, the
count of characters it consumed. -/
def appDirectGranularity (lib : NvmLibrary) : UInt64 :=
  match lib.appDirectGranularity with
  | none => pmRecommendedAlignmentGiB
  | some value =>
    if value = "RECOMMENDED".toList then pmRecommendedAlignmentGiB
    else UInt64.ofNat (sStrtoull value configValueLen).2

/-- `getAlignedPersistentPartitionCapacityGiB`. -/
def getAlignedPersistentPartitionCapacityGiB (lib : NvmLibrary)
    (persistentPartitionGiB totalDimmGiB : UInt64) : UInt64 :=
  let granularity := appDirectGranularity lib
  let roundedUpPersistentGiB := roundUp persistentPartitionGiB granularity
  let roundedUpDiff := roundedUpPersistentGiB - persistentPartitionGiB
  let roundedDownPersistentGiB := roundDown persistentPartitionGiB granularity
  let roundedDownDiff := persistentPartitionGiB - roundedDownPersistentGiB
  if roundedUpPersistentGiB ≤ totalDimmGiB ∧ roundedUpDiff ≤ roundedDownDiff then
    roundedUpPersistentGiB
  else
    roundedDownPersistentGiB

/-- `getAlignedMemoryGoalSize`. -/
def getAlignedMemoryGoalSize (lib : NvmLibrary) (dimm : Dimm) (goal : ConfigGoal) : UInt64 :=
  let memoryBytes := configGoalSizeToBytes goal.memorySize
  let persistentGiB := bToGiB (dimm.capacityBytes - memoryBytes)
  let dimmGiB := bToGiB dimm.capacityBytes
  let newPersistentGiB := getAlignedPersistentPartitionCapacityGiB lib persistentGiB dimmGiB
  bytesToConfigGoalSize (dimm.capacityBytes - giBToB newPersistentGiB)

/-- `alignPartitionBoundary`. -/
def alignPartitionBoundary (lib : NvmLibrary) (request : MemoryAllocationRequest) (goals : Goals) :
    Goals :=
  updateAll Dimm.uid (fun dimm goal =>
    { goal with memorySize := getAlignedMemoryGoalSize lib dimm goal })
    request.nonReservedDimms goals

/-- `LayoutStepMemory::execute`. -/
def execute (lib : NvmLibrary) (request : MemoryAllocationRequest) : LayoutM Unit := fun layout =>
  if request.memoryModeCapacityGiB > 0 then
    match layoutMemoryModeCapacity request layout.goalUids layout.goals with
    | .ok _ laidOut =>
      let goals := alignPartitionBoundary lib request laidOut
      .ok () { layout with
        goals := goals
        memoryCapacity := bToGiB (getBytesAllocatedFromLayout layout.goalUids goals) }
    | .error e goals =>
      if e.isBadRequestSize then
        .error .badRequestMemorySize { layout with
          goals := goals
          memoryCapacity := bToGiB (getBytesAllocatedFromLayout layout.goalUids goals) }
      else
        .error e { layout with goals := goals }
  else
    .ok () layout

/-! ### The goals during the step -/

/-- The goals while memory is laid out: a memory size that fits the DIMM, and no App Direct. -/
structure MemoryGoal (cap : UInt64) (goal : ConfigGoal) : Prop where
  /-- The memory fits on the DIMM. -/
  fits : goal.memorySize.toNat ≤ wholeGiB cap
  /-- There is no App Direct set. -/
  count : goal.appDirectCount = 0
  /-- There is no first extent. -/
  first : goal.appDirect1Size = 0
  /-- There is no second extent. -/
  second : goal.appDirect2Size = 0

/-- Every requested DIMM has such a goal. -/
def MemoryGoals (dimms : List Dimm) (goals : Goals) : Prop :=
  ∀ d ∈ dimms, MemoryGoal d.capacityBytes (goals d.uid)

/-- With memory only, the accounting counts the memory. -/
theorem MemoryGoal.countedGiB {cap : UInt64} {goal : ConfigGoal} (h : MemoryGoal cap goal) :
    goal.countedGiB = goal.memorySize.toNat := by
  simp [ConfigGoal.countedGiB, ConfigGoal.countedFirst, ConfigGoal.countedSecond, h.first,
    h.second]

/-- With memory only, the goal hands out its memory. -/
theorem MemoryGoal.totalGiB {cap : UInt64} {goal : ConfigGoal} (h : MemoryGoal cap goal) :
    goal.totalGiB = goal.memorySize.toNat := by
  simp [ConfigGoal.totalGiB, h.first, h.second]

/-- Only the memory size of a goal changes, to one that fits. -/
private theorem MemoryGoal.setMemory {cap : UInt64} {goal : ConfigGoal} (h : MemoryGoal cap goal)
    {size : UInt64} (hfits : size.toNat ≤ wholeGiB cap) :
    MemoryGoal cap { goal with memorySize := size } :=
  ⟨hfits, h.count, h.first, h.second⟩

section Round

variable {dimms : List Dimm} {goals : Goals}

/-- The share of a round fits on every DIMM that gets it. -/
theorem share_fits (hgoals : MemoryGoals dimms goals) {requested bytes : UInt64}
    {included : List Dimm} (hshare : SymmetricalShare dimms goals requested bytes included)
    {d : Dimm} (hd : d ∈ included) :
    ((goals d.uid).memorySize + bytesToConfigGoalSize bytes).toNat =
        (goals d.uid).memorySize.toNat + bytes.toNat / 2 ^ 30 ∧
      (goals d.uid).memorySize.toNat + bytes.toNat / 2 ^ 30 ≤ wholeGiB d.capacityBytes := by
  have hmem : d ∈ dimms := by
    rw [hshare.included_eq] at hd
    exact List.mem_of_mem_filter hd
  have hgoal := hgoals d hmem
  have hle := hshare.le_unallocated d hd
  rw [toNat_getDimmUnallocatedGiBAlignedBytes (hgoal.countedGiB ▸ hgoal.fits),
    hgoal.countedGiB] at hle
  have hfits := hgoal.fits
  have hlt := wholeGiB_lt d.capacityBytes
  have hsum : (goals d.uid).memorySize.toNat + bytes.toNat / 2 ^ 30 ≤
      wholeGiB d.capacityBytes := by omega
  refine ⟨?_, hsum⟩
  rw [toNat_add_of_lt, toNat_bytesToConfigGoalSize]
  rw [toNat_bytesToConfigGoalSize]
  omega

/-- What a round that lays out memory does: the same share on every included DIMM. -/
theorem layoutRound_share {requested : UInt64} {goals' : Goals}
    (h : layoutMaximumSymmetricalBytesOnDimms requested dimms goals = .ok goals') :
    ∃ bytes included, SymmetricalShare dimms goals requested bytes included ∧
      goals' = updateAll Dimm.uid (fun _ goal =>
        { goal with memorySize := goal.memorySize + bytesToConfigGoalSize bytes })
        included goals := by
  unfold layoutMaximumSymmetricalBytesOnDimms at h
  rcases getLargestPerDimmSymmetricalBytes_spec dimms goals requested with
    ⟨-, herr⟩ | ⟨bytes, included, hok, hshare⟩
  · rw [herr] at h
    simp at h
  · rw [hok] at h
    exact ⟨bytes, included, hshare, (Except.ok.inj h).symm⟩

/-- The goal of a requested DIMM after a round: its share is added if it is included. -/
theorem round_apply (hnd : (dimms.map Dimm.uid).Nodup) {requested bytes : UInt64}
    {included : List Dimm} (hshare : SymmetricalShare dimms goals requested bytes included)
    {d : Dimm} (hd : d ∈ dimms) :
    updateAll Dimm.uid (fun _ goal =>
        { goal with memorySize := goal.memorySize + bytesToConfigGoalSize bytes })
        included goals d.uid =
      if d ∈ included then
        { goals d.uid with
          memorySize := (goals d.uid).memorySize + bytesToConfigGoalSize bytes }
      else goals d.uid := by
  have hsub : (included.map Dimm.uid).Sublist (dimms.map Dimm.uid) := by
    rw [hshare.included_eq]
    exact List.Sublist.map _ List.filter_sublist
  split_ifs with hin
  · exact updateAll_apply_of_mem (hnd.sublist hsub) hin goals
  · refine updateAll_apply_of_notMem (fun hmem => hin ?_) goals
    -- a DIMM with the same uid is the DIMM itself
    obtain ⟨e, he, hue⟩ := List.mem_map.mp hmem
    have hed : e ∈ dimms := by
      rw [hshare.included_eq] at he
      exact List.mem_of_mem_filter he
    rwa [← List.inj_on_of_nodup_map hnd hed hd hue]

/-- A round keeps the goals of the memory phase. -/
theorem round_memoryGoals (hnd : (dimms.map Dimm.uid).Nodup)
    (hgoals : MemoryGoals dimms goals) {requested : UInt64} {goals' : Goals}
    (h : layoutMaximumSymmetricalBytesOnDimms requested dimms goals = .ok goals') :
    MemoryGoals dimms goals' := by
  obtain ⟨bytes, included, hshare, rfl⟩ := layoutRound_share h
  intro d hd
  rw [round_apply hnd hshare hd]
  split_ifs with hin
  · obtain ⟨heq, hle⟩ := share_fits hgoals hshare hin
    exact (hgoals d hd).setMemory (heq ▸ hle)
  · exact hgoals d hd

/-- The GiB of memory laid out on the requested DIMMs. -/
def memoryGiB (dimms : List Dimm) (goals : Goals) : ℕ :=
  (dimms.map fun d => (goals d.uid).memorySize.toNat).sum

/-- The memory laid out is within the whole GiB of the DIMMs. -/
theorem memoryGiB_le (hgoals : MemoryGoals dimms goals) :
    memoryGiB dimms goals ≤ (dimms.map fun d => wholeGiB d.capacityBytes).sum :=
  sum_map_le_sum_map_of_le fun d hd => (hgoals d hd).fits

/-- A round either leaves every goal as it is or lays out more memory. -/
theorem round_progress (hnd : (dimms.map Dimm.uid).Nodup)
    (hgoals : MemoryGoals dimms goals) {requested : UInt64} {goals' : Goals}
    (h : layoutMaximumSymmetricalBytesOnDimms requested dimms goals = .ok goals') :
    (∀ d ∈ dimms, goals' d.uid = goals d.uid) ∨ memoryGiB dimms goals < memoryGiB dimms goals' := by
  obtain ⟨bytes, included, hshare, rfl⟩ := layoutRound_share h
  by_cases hzero : bytesToConfigGoalSize bytes = 0
  · left
    intro d hd
    rw [round_apply hnd hshare hd]
    split_ifs
    · simp [hzero]
    · rfl
  · right
    have hpos := toNat_pos_of_ne_zero hzero
    rw [toNat_bytesToConfigGoalSize] at hpos
    obtain ⟨d, hin⟩ := List.exists_mem_of_ne_nil _ hshare.included_ne
    have hd : d ∈ dimms := by
      rw [hshare.included_eq] at hin
      exact List.mem_of_mem_filter hin
    -- every DIMM gets at least what it had, and the included one gets more
    have hstep : ∀ e ∈ dimms, (goals e.uid).memorySize.toNat +
        (if e ∈ included then bytes.toNat / 2 ^ 30 else 0) =
        (updateAll Dimm.uid (fun _ goal =>
          { goal with memorySize := goal.memorySize + bytesToConfigGoalSize bytes })
          included goals e.uid).memorySize.toNat := by
      intro e he
      rw [round_apply hnd hshare he]
      split_ifs with hein
      · exact (share_fits hgoals hshare hein).1.symm
      · rfl
    by_contra hnot
    have heq := forall_eq_of_sum_map_eq (fun e he => (hstep e he) ▸ Nat.le_add_right _ _)
      (le_antisymm (sum_map_le_sum_map_of_le fun e he => (hstep e he) ▸ Nat.le_add_right _ _)
        (not_lt.mp hnot)) d hd
    have hstep' := hstep d hd
    rw [if_pos hin] at hstep'
    omega

end Round

/-! ### The step as a whole -/

section Step

variable {request : MemoryAllocationRequest} {goalUids : List Uid} {goals : Goals}

/-- Goals that agree on the keys of the map have the same allocated bytes. -/
private theorem getBytesAllocatedFromLayout_congr {goals' : Goals}
    (h : ∀ uid ∈ goalUids, goals' uid = goals uid) :
    getBytesAllocatedFromLayout goalUids goals' = getBytesAllocatedFromLayout goalUids goals := by
  rw [← UInt64.toNat_inj, getBytesAllocatedFromLayout, getBytesAllocatedFromLayout,
    toNat_foldl_add, toNat_foldl_add]
  have hmap : (goalUids.map fun uid => (configGoalSizeToBytes (goals' uid).memorySize).toNat) =
      goalUids.map fun uid => (configGoalSizeToBytes (goals uid).memorySize).toNat :=
    List.map_congr_left fun uid huid => by rw [h uid huid]
  rw [hmap]

/-- The rule for the rounds: what every round keeps holds of the goals the loop is left with. -/
theorem layoutMemoryModeCapacity_rule (I : Goals → Prop)
    (hround : ∀ requested goals goals', I goals → layoutMaximumSymmetricalBytesOnDimms requested
      request.nonReservedDimms goals = .ok goals' → I goals')
    (goalUids : List Uid) (hgoals : I goals) :
    I (finalState (layoutMemoryModeCapacity request goalUids goals)) := by
  unfold layoutMemoryModeCapacity
  cases hrun : runLoop (layoutRound request goalUids) (roundBound request) (goals, 0) with
  | none => exact hgoals
  | some r =>
    refine runLoop_rule (fun s => I s.1) (fun r => I (finalState r)) ?_ ?_ hgoals hrun
    · rintro ⟨g, b⟩ ⟨g', b'⟩ hg hstep
      simp only [layoutRound] at hstep
      split_ifs at hstep with hlt
      split at hstep
      · cases hstep
      · rename_i g'' hlay
        split_ifs at hstep with hnew
        obtain ⟨rfl, -⟩ := Prod.mk.inj (Sum.inl.inj hstep)
        exact hround _ g g'' hg hlay
    · rintro ⟨g, b⟩ r hg hstep
      simp only [layoutRound] at hstep
      split_ifs at hstep with hlt
      · split at hstep
        · obtain rfl := Sum.inr.inj hstep
          exact hg
        · rename_i g'' hlay
          split_ifs at hstep with hnew
          obtain rfl := Sum.inr.inj hstep
          exact hround _ g g'' hg hlay
      · obtain rfl := Sum.inr.inj hstep
        exact hg

/-- The rule for the step: what the rounds and the alignment keep, the step keeps. -/
theorem keeps_execute (lib : NvmLibrary) (I : Goals → Prop)
    (hround : ∀ requested goals goals', I goals → layoutMaximumSymmetricalBytesOnDimms requested
      request.nonReservedDimms goals = .ok goals' → I goals')
    (halign : ∀ goals, I goals → I (alignPartitionBoundary lib request goals)) :
    Keeps (fun layout => I layout.goals) (execute lib request) := by
  intro layout hgoals
  have hloop := layoutMemoryModeCapacity_rule I hround layout.goalUids hgoals
  unfold execute
  split_ifs
  · split
    · rename_i hrun
      rw [hrun] at hloop
      exact halign _ hloop
    · rename_i hrun
      rw [hrun] at hloop
      split_ifs
      · exact hloop
      · exact hloop
  · exact hgoals

/-- The loop ends within its bound: a round that goes on has laid out more memory. -/
theorem layoutMemoryModeCapacity_terminates (hnd : (request.dimms.map Dimm.uid).Nodup)
    (hkeys : ∀ uid ∈ goalUids, uid ∈ request.dimms.map Dimm.uid)
    (hgoals : MemoryGoals request.dimms goals)
    (hzero : getBytesAllocatedFromLayout goalUids goals = 0) :
    (runLoop (layoutRound request goalUids) (roundBound request) (goals, 0)).isSome := by
  refine runLoop_isSome_of_measure
    (fun s => MemoryGoals request.dimms s.1 ∧ s.2 = getBytesAllocatedFromLayout goalUids s.1)
    (fun s => (request.dimms.map fun d => wholeGiB d.capacityBytes).sum -
      memoryGiB request.dimms s.1) ?_ ⟨hgoals, hzero.symm⟩ ?_
  · rintro ⟨g, b⟩ ⟨g', b'⟩ ⟨hg, hb⟩ hstep
    simp only [layoutRound] at hstep
    split_ifs at hstep with hlt
    split at hstep
    · simp at hstep
    · rename_i g'' hlay
      split_ifs at hstep with hnew
      obtain ⟨rfl, rfl⟩ := Prod.mk.inj (Sum.inl.inj hstep)
      have hg' := round_memoryGoals hnd hg hlay
      refine ⟨⟨hg', rfl⟩, ?_⟩
      have hle := memoryGiB_le hg'
      rcases round_progress hnd hg hlay with hsame | hmore
      · -- nothing was laid out, so the loop would have ended
        exfalso
        have hbytes : getBytesAllocatedFromLayout goalUids g'' =
            getBytesAllocatedFromLayout goalUids g := by
          refine getBytesAllocatedFromLayout_congr fun uid huid => ?_
          obtain ⟨d, hd, rfl⟩ := List.mem_map.mp (hkeys uid huid)
          exact hsame d hd
        rw [newBytesWereAllocated, decide_eq_true_iff] at hnew
        dsimp only at hb
        exact hnew (hb.trans hbytes.symm)
      · dsimp only at hmore ⊢
        omega
  · dsimp only [roundBound]
    omega

/-- The aligned persistent partition fits on the DIMM when the unaligned one does. -/
private theorem getAlignedPersistentPartitionCapacityGiB_le (lib : NvmLibrary)
    (persistentGiB dimmGiB : UInt64) (h : persistentGiB.toNat ≤ dimmGiB.toNat) :
    (getAlignedPersistentPartitionCapacityGiB lib persistentGiB dimmGiB).toNat ≤
      dimmGiB.toNat := by
  unfold getAlignedPersistentPartitionCapacityGiB
  dsimp only
  split_ifs with hup
  · exact UInt64.le_iff_toNat_le.mp hup.1
  · exact (toNat_roundDown_le _ _).trans h

/-- The memory size after the alignment is what the aligned persistent partition leaves of the
whole GiB of the DIMM. -/
theorem getAlignedMemoryGoalSize_spec (lib : NvmLibrary) {dimm : Dimm} {goal : ConfigGoal}
    (h : goal.memorySize.toNat ≤ wholeGiB dimm.capacityBytes) :
    ∃ persistentGiB dimmGiB : UInt64,
      persistentGiB.toNat = wholeGiB dimm.capacityBytes - goal.memorySize.toNat ∧
      dimmGiB.toNat = wholeGiB dimm.capacityBytes ∧
      (getAlignedPersistentPartitionCapacityGiB lib persistentGiB dimmGiB).toNat ≤
        wholeGiB dimm.capacityBytes ∧
      (getAlignedMemoryGoalSize lib dimm goal).toNat = wholeGiB dimm.capacityBytes -
        (getAlignedPersistentPartitionCapacityGiB lib persistentGiB dimmGiB).toNat := by
  have hlt := wholeGiB_lt dimm.capacityBytes
  have hmem := toNat_configGoalSizeToBytes_of_lt (show goal.memorySize.toNat < 2 ^ 34 by omega)
  have hpersistent : (bToGiB (dimm.capacityBytes - configGoalSizeToBytes goal.memorySize)).toNat =
      wholeGiB dimm.capacityBytes - goal.memorySize.toNat := by
    have hle : (configGoalSizeToBytes goal.memorySize).toNat ≤ dimm.capacityBytes.toNat := by
      rw [hmem]
      unfold wholeGiB at h
      omega
    rw [toNat_bToGiB, toNat_sub_of_toNat_le hle, hmem, wholeGiB, Nat.sub_mul_div]
  have hdimm : (bToGiB dimm.capacityBytes).toNat = wholeGiB dimm.capacityBytes := toNat_bToGiB _
  have haligned := getAlignedPersistentPartitionCapacityGiB_le lib
    (bToGiB (dimm.capacityBytes - configGoalSizeToBytes goal.memorySize))
    (bToGiB dimm.capacityBytes) (by
      rw [hpersistent, hdimm]
      exact Nat.sub_le _ _)
  rw [hdimm] at haligned
  refine ⟨_, _, hpersistent, hdimm, haligned, ?_⟩
  unfold getAlignedMemoryGoalSize
  dsimp only
  generalize getAlignedPersistentPartitionCapacityGiB lib
    (bToGiB (dimm.capacityBytes - configGoalSizeToBytes goal.memorySize))
    (bToGiB dimm.capacityBytes) = newPersistentGiB at haligned ⊢
  have hbytes : (giBToB newPersistentGiB).toNat = 2 ^ 30 * newPersistentGiB.toNat :=
    toNat_configGoalSizeToBytes_of_lt (show newPersistentGiB.toNat < 2 ^ 34 by omega)
  have hle : (giBToB newPersistentGiB).toNat ≤ dimm.capacityBytes.toNat := by
    rw [hbytes]
    unfold wholeGiB at haligned
    omega
  rw [toNat_bytesToConfigGoalSize, toNat_sub_of_toNat_le hle, hbytes, wholeGiB, Nat.sub_mul_div]

/-- The memory size after the alignment fits on the DIMM. -/
private theorem getAlignedMemoryGoalSize_le (lib : NvmLibrary) {dimm : Dimm} {goal : ConfigGoal}
    (h : goal.memorySize.toNat ≤ wholeGiB dimm.capacityBytes) :
    (getAlignedMemoryGoalSize lib dimm goal).toNat ≤ wholeGiB dimm.capacityBytes := by
  obtain ⟨_, _, -, -, -, hmemory⟩ := getAlignedMemoryGoalSize_spec lib h
  rw [hmemory]
  exact Nat.sub_le _ _

/-- The alignment keeps the goals of the memory phase. -/
theorem alignPartitionBoundary_memoryGoals (lib : NvmLibrary)
    (hnd : (request.dimms.map Dimm.uid).Nodup) (hgoals : MemoryGoals request.dimms goals) :
    MemoryGoals request.dimms (alignPartitionBoundary lib request goals) := by
  intro d hd
  rw [alignPartitionBoundary, MemoryAllocationRequest.nonReservedDimms,
    updateAll_apply_of_mem hnd hd]
  exact (hgoals d hd).setMemory (getAlignedMemoryGoalSize_le lib (hgoals d hd).fits)

/-- The step keeps the goals of the memory phase, however it ends. -/
theorem execute_memoryGoals (lib : NvmLibrary) (hnd : (request.dimms.map Dimm.uid).Nodup) :
    Keeps (fun layout => MemoryGoals request.dimms layout.goals) (execute lib request) :=
  keeps_execute lib (MemoryGoals request.dimms)
    (fun _ _ _ hgoals hlay => round_memoryGoals hnd hgoals hlay)
    (fun _ hgoals => alignPartitionBoundary_memoryGoals lib hnd hgoals)

end Step

end LayoutStepMemory

end IxpDimm
