import IxpDimm.Foundation.Effects
import IxpDimm.Foundation.TableUpdate
import IxpDimm.MemoryAllocator.Types

/-!
# Capacity accounting shared by the layout steps

The helpers of `LayoutStep.cpp` that read the goals: the capacity a goal leaves on its DIMM, in
bytes and rounded down to whole GiB, the same over a list of DIMMs, and the largest number of bytes
that fits symmetrically on the DIMMs that have capacity left.

A goal counts against its DIMM through `countedGiB`: its memory size, its second App Direct size
when it has two sets and its first when it has at least one.  As long as that is within the whole
GiB of the DIMM the 64-bit subtractions are exact.
-/

namespace IxpDimm

open Foundation

/-- `getDimmUnallocatedBytes`.  The source also rounds the rest down after the memory has been taken
off, and drops the rounded value. -/
def getDimmUnallocatedBytes (dimmCapacity : UInt64) (dimmGoal : ConfigGoal) : UInt64 :=
  let afterMemory :=
    if dimmGoal.memorySize ≠ 0 then dimmCapacity - configGoalSizeToBytes dimmGoal.memorySize
    else dimmCapacity
  let afterAppDirect2 :=
    if dimmGoal.appDirectCount ≥ 2 then
      afterMemory - configGoalSizeToBytes dimmGoal.appDirect2Size
    else afterMemory
  if dimmGoal.appDirectCount ≥ 1 then
    afterAppDirect2 - configGoalSizeToBytes dimmGoal.appDirect1Size
  else afterAppDirect2

/-- `getDimmUnallocatedGiBAlignedBytes`. -/
def getDimmUnallocatedGiBAlignedBytes (dimmCapacity : UInt64) (dimmGoal : ConfigGoal) : UInt64 :=
  roundDown (getDimmUnallocatedBytes dimmCapacity dimmGoal) bytesPerGiB

/-- Whether a DIMM has whole GiB left that its goal does not use. -/
def hasUnallocatedCapacity (goals : Goals) (dimm : Dimm) : Bool :=
  getDimmUnallocatedGiBAlignedBytes dimm.capacityBytes (goals dimm.uid) > 0

/-- `getCountOfDimmsWithUnallocatedCapacity`. -/
def getCountOfDimmsWithUnallocatedCapacity (dimms : List Dimm) (goals : Goals) : ℕ :=
  dimms.countP (hasUnallocatedCapacity goals)

/-- `getRemainingBytesFromDimms`. -/
def getRemainingBytesFromDimms (dimms : List Dimm) (goals : Goals) : UInt64 :=
  dimms.foldl (fun bytes dimm =>
    bytes + getDimmUnallocatedGiBAlignedBytes dimm.capacityBytes (goals dimm.uid)) 0

/-- `getRemainingBytesFromRequestedDimms`. -/
def getRemainingBytesFromRequestedDimms (request : MemoryAllocationRequest) (goals : Goals) :
    UInt64 :=
  getRemainingBytesFromDimms request.nonReservedDimms goals

/-- One pass of the loop in `getLargestPerDimmSymmetricalBytes`: a DIMM with capacity left is
included and bounds the bytes per DIMM. -/
def includeDimm (goals : Goals) (acc : UInt64 × List Dimm) (dimm : Dimm) : UInt64 × List Dimm :=
  let dimmMaxBytes := getDimmUnallocatedGiBAlignedBytes dimm.capacityBytes (goals dimm.uid)
  if dimmMaxBytes > 0 then
    (if dimmMaxBytes < acc.1 then dimmMaxBytes else acc.1, acc.2 ++ [dimm])
  else acc

/-- `getLargestPerDimmSymmetricalBytes`: the bytes per DIMM and the DIMMs that take them. -/
def getLargestPerDimmSymmetricalBytes (dimms : List Dimm) (goals : Goals)
    (requestedBytes : UInt64) : Except LayoutException (UInt64 × List Dimm) :=
  if getCountOfDimmsWithUnallocatedCapacity dimms goals = 0 then
    .error .badRequestSize
  else
    let front := (dimms.head?.map Dimm.capacityBytes).getD 0
    let (bytes, dimmsIncluded) := dimms.foldl (includeDimm goals) (front, [])
    let evenlyDividedBytes := UInt64.ofNat (requestedBytes.toNat / dimmsIncluded.length)
    let bytes := if evenlyDividedBytes < bytes then evenlyDividedBytes else bytes
    .ok (roundDown bytes bytesPerGiB, dimmsIncluded)

/-! ### The accounting over the exact integers -/

/-- The part of the first extent that the accounting sees. -/
def ConfigGoal.countedFirst (goal : ConfigGoal) : ℕ :=
  if goal.appDirectCount ≥ 1 then goal.appDirect1Size.toNat else 0

/-- The part of the second extent that the accounting sees. -/
def ConfigGoal.countedSecond (goal : ConfigGoal) : ℕ :=
  if goal.appDirectCount ≥ 2 then goal.appDirect2Size.toNat else 0

/-- The GiB of its DIMM that the accounting takes a goal to use. -/
def ConfigGoal.countedGiB (goal : ConfigGoal) : ℕ :=
  goal.memorySize.toNat + goal.countedSecond + goal.countedFirst

/-- The accounting sees at most the first extent. -/
theorem ConfigGoal.countedFirst_le (goal : ConfigGoal) :
    goal.countedFirst ≤ goal.appDirect1Size.toNat := by
  unfold countedFirst
  split_ifs
  · exact le_rfl
  · exact Nat.zero_le _

/-- The accounting sees at most the second extent. -/
theorem ConfigGoal.countedSecond_le (goal : ConfigGoal) :
    goal.countedSecond ≤ goal.appDirect2Size.toNat := by
  unfold countedSecond
  split_ifs
  · exact le_rfl
  · exact Nat.zero_le _

/-- The accounting never counts more than the goal hands out. -/
theorem ConfigGoal.countedGiB_le_totalGiB (goal : ConfigGoal) :
    goal.countedGiB ≤ goal.totalGiB := by
  have := goal.countedFirst_le
  have := goal.countedSecond_le
  unfold countedGiB totalGiB
  omega

/-- The number of App Direct sets of a goal covers the extents that are not empty. -/
structure ConfigGoal.CountCovers (goal : ConfigGoal) : Prop where
  /-- A first extent is counted. -/
  first : goal.appDirect1Size ≠ 0 → goal.appDirectCount ≥ 1
  /-- A second extent is counted. -/
  second : goal.appDirect2Size ≠ 0 → goal.appDirectCount ≥ 2

/-- The accounting sees all of an extent exactly when the extent is empty or counted. -/
private theorem ite_toNat_eq_iff {p : Prop} [Decidable p] {size : UInt64} :
    (if p then size.toNat else 0) = size.toNat ↔ (size ≠ 0 → p) := by
  by_cases hp : p
  · simp [hp]
  · rw [if_neg hp, eq_comm, toNat_eq_zero_iff]
    simp [hp]

/-- The accounting counts everything a goal hands out exactly when the number of sets covers the
extents that are not empty. -/
theorem ConfigGoal.countedGiB_eq_totalGiB_iff (goal : ConfigGoal) :
    goal.countedGiB = goal.totalGiB ↔ goal.CountCovers := by
  have hfirst : goal.countedFirst = goal.appDirect1Size.toNat ↔ _ := ite_toNat_eq_iff
  have hsecond : goal.countedSecond = goal.appDirect2Size.toNat ↔ _ := ite_toNat_eq_iff
  have h₁ := goal.countedFirst_le
  have h₂ := goal.countedSecond_le
  unfold countedGiB totalGiB
  constructor
  · intro heq
    exact ⟨hfirst.mp (by omega), hsecond.mp (by omega)⟩
  · intro hcovers
    rw [hfirst.mpr hcovers.first, hsecond.mpr hcovers.second]
    omega

/-- Taking a size that fits off a number of bytes. -/
private theorem toNat_sub_configGoalSize {bytes size : UInt64}
    (h : 2 ^ 30 * size.toNat ≤ bytes.toNat) :
    (bytes - configGoalSizeToBytes size).toNat = bytes.toNat - 2 ^ 30 * size.toNat := by
  have hlt : size.toNat < 2 ^ 34 := by
    have := bytes.toNat_lt
    omega
  rw [toNat_sub_of_toNat_le (by rwa [toNat_configGoalSizeToBytes_of_lt hlt]),
    toNat_configGoalSizeToBytes_of_lt hlt]

/-- Taking a size that fits off a number of bytes, under a condition that may hold it back. -/
private theorem toNat_ite_sub_configGoalSize {p : Prop} [Decidable p] {bytes size : UInt64} {n : ℕ}
    (hn : n = if p then size.toNat else 0) (h : 2 ^ 30 * n ≤ bytes.toNat) :
    (if p then bytes - configGoalSizeToBytes size else bytes).toNat =
      bytes.toNat - 2 ^ 30 * n := by
  subst hn
  by_cases hp : p
  · rw [if_pos hp] at h ⊢
    rw [if_pos hp]
    exact toNat_sub_configGoalSize h
  · simp only [if_neg hp, Nat.mul_zero, Nat.sub_zero]

/-- The unallocated bytes are exact while the goal stays within the whole GiB of the capacity. -/
theorem toNat_getDimmUnallocatedBytes {cap : UInt64} {goal : ConfigGoal}
    (h : goal.countedGiB ≤ wholeGiB cap) :
    (getDimmUnallocatedBytes cap goal).toNat = cap.toNat - 2 ^ 30 * goal.countedGiB := by
  have hcap : 2 ^ 30 * goal.countedGiB ≤ cap.toNat := by
    unfold wholeGiB at h
    omega
  rw [ConfigGoal.countedGiB, Nat.mul_add, Nat.mul_add] at hcap ⊢
  have hmemory : goal.memorySize.toNat =
      if goal.memorySize ≠ 0 then goal.memorySize.toNat else 0 :=
    (ite_toNat_eq_iff.mpr id).symm
  have hm := toNat_ite_sub_configGoalSize hmemory (show _ ≤ cap.toNat by omega)
  have hs := toNat_ite_sub_configGoalSize (n := goal.countedSecond) rfl
    (show _ ≤ UInt64.toNat (if goal.memorySize ≠ 0 then
      cap - configGoalSizeToBytes goal.memorySize else cap) by omega)
  unfold getDimmUnallocatedBytes
  dsimp only
  rw [toNat_ite_sub_configGoalSize (n := goal.countedFirst) rfl]
  · omega
  · omega

/-- The aligned unallocated bytes are the whole GiB the goal does not use. -/
theorem toNat_getDimmUnallocatedGiBAlignedBytes {cap : UInt64} {goal : ConfigGoal}
    (h : goal.countedGiB ≤ wholeGiB cap) :
    (getDimmUnallocatedGiBAlignedBytes cap goal).toNat =
      2 ^ 30 * (wholeGiB cap - goal.countedGiB) := by
  rw [getDimmUnallocatedGiBAlignedBytes, toNat_roundDown_bytesPerGiB,
    toNat_getDimmUnallocatedBytes h]
  unfold wholeGiB at h ⊢
  omega

/-- A DIMM has capacity left exactly when its goal uses fewer than its whole GiB. -/
theorem hasUnallocatedCapacity_iff {goals : Goals} {dimm : Dimm}
    (h : (goals dimm.uid).countedGiB ≤ wholeGiB dimm.capacityBytes) :
    hasUnallocatedCapacity goals dimm = true ↔
      (goals dimm.uid).countedGiB < wholeGiB dimm.capacityBytes := by
  rw [hasUnallocatedCapacity, decide_eq_true_iff, gt_iff_lt, UInt64.lt_iff_toNat_lt,
    toNat_getDimmUnallocatedGiBAlignedBytes h, UInt64.toNat_zero]
  omega

/-- Whether a DIMM has capacity left depends on its own goal only. -/
theorem hasUnallocatedCapacity_congr {goals goals' : Goals} {dimm : Dimm}
    (h : goals' dimm.uid = goals dimm.uid) :
    hasUnallocatedCapacity goals' dimm = hasUnallocatedCapacity goals dimm := by
  simp only [hasUnallocatedCapacity, h]

/-! ### The largest symmetrical share -/

/-- The loop includes the DIMMs with capacity left, in order. -/
private theorem foldl_includeDimm_snd (goals : Goals) (dimms : List Dimm)
    (acc : UInt64 × List Dimm) :
    (dimms.foldl (includeDimm goals) acc).2 =
      acc.2 ++ dimms.filter (hasUnallocatedCapacity goals) := by
  induction dimms generalizing acc with
  | nil => simp
  | cons d dimms ih =>
    rw [List.foldl_cons, ih, List.filter_cons]
    unfold includeDimm hasUnallocatedCapacity
    by_cases h : getDimmUnallocatedGiBAlignedBytes d.capacityBytes (goals d.uid) > 0
    · simp [h]
    · simp [h]

/-- The bytes only go down in the loop. -/
private theorem foldl_includeDimm_fst_le (goals : Goals) (dimms : List Dimm)
    (acc : UInt64 × List Dimm) :
    (dimms.foldl (includeDimm goals) acc).1 ≤ acc.1 := by
  induction dimms generalizing acc with
  | nil => exact UInt64.le_refl _
  | cons d dimms ih =>
    rw [List.foldl_cons]
    refine UInt64.le_trans (ih _) ?_
    unfold includeDimm
    dsimp only
    split_ifs with h₁ h₂
    · exact UInt64.le_of_lt h₂
    · exact UInt64.le_refl _
    · exact UInt64.le_refl _

/-- The bytes end up at most at the unallocated bytes of every included DIMM. -/
private theorem foldl_includeDimm_fst_le_of_mem {goals : Goals} {dimms : List Dimm} {d : Dimm}
    (hd : d ∈ dimms) (hcap : hasUnallocatedCapacity goals d = true) (acc : UInt64 × List Dimm) :
    (dimms.foldl (includeDimm goals) acc).1 ≤
      getDimmUnallocatedGiBAlignedBytes d.capacityBytes (goals d.uid) := by
  induction dimms generalizing acc with
  | nil => simp at hd
  | cons e dimms ih =>
    rw [List.foldl_cons]
    rcases List.mem_cons.mp hd with rfl | hd
    · refine UInt64.le_trans (foldl_includeDimm_fst_le _ _ _) ?_
      have hpos : getDimmUnallocatedGiBAlignedBytes d.capacityBytes (goals d.uid) > 0 := by
        simpa [hasUnallocatedCapacity] using hcap
      unfold includeDimm
      dsimp only
      rw [if_pos hpos]
      split_ifs with hlt
      · exact UInt64.le_refl _
      · exact UInt64.not_lt.mp hlt
    · exact ih hd _

/-- What a successful call of `getLargestPerDimmSymmetricalBytes` returns. -/
structure SymmetricalShare (dimms : List Dimm) (goals : Goals) (requestedBytes bytes : UInt64)
    (included : List Dimm) : Prop where
  /-- The share goes to the DIMMs that have capacity left. -/
  included_eq : included = dimms.filter (hasUnallocatedCapacity goals)
  /-- There is at least one of them. -/
  included_ne : included ≠ []
  /-- The share fits on each of them. -/
  le_unallocated : ∀ d ∈ included, bytes.toNat ≤
    (getDimmUnallocatedGiBAlignedBytes d.capacityBytes (goals d.uid)).toNat
  /-- The share is a number of whole GiB. -/
  whole : bytes.toNat % 2 ^ 30 = 0

/-- The call fails only by the bad request size, and only when no DIMM has capacity left. -/
theorem getLargestPerDimmSymmetricalBytes_spec (dimms : List Dimm) (goals : Goals)
    (requestedBytes : UInt64) :
    (dimms.filter (hasUnallocatedCapacity goals) = [] ∧
      getLargestPerDimmSymmetricalBytes dimms goals requestedBytes = .error .badRequestSize) ∨
    ∃ bytes included,
      getLargestPerDimmSymmetricalBytes dimms goals requestedBytes = .ok (bytes, included) ∧
      SymmetricalShare dimms goals requestedBytes bytes included := by
  by_cases hnone : dimms.filter (hasUnallocatedCapacity goals) = []
  · refine Or.inl ⟨hnone, ?_⟩
    have hcount : getCountOfDimmsWithUnallocatedCapacity dimms goals = 0 := by
      rw [getCountOfDimmsWithUnallocatedCapacity, List.countP_eq_length_filter, hnone]
      rfl
    rw [getLargestPerDimmSymmetricalBytes, if_pos hcount]
  · have hcount : getCountOfDimmsWithUnallocatedCapacity dimms goals ≠ 0 := by
      rw [getCountOfDimmsWithUnallocatedCapacity, List.countP_eq_length_filter]
      exact fun h => hnone (List.length_eq_zero_iff.mp h)
    refine Or.inr ⟨_, _, by rw [getLargestPerDimmSymmetricalBytes, if_neg hcount], ?_⟩
    have hsnd : (dimms.foldl (includeDimm goals)
        ((dimms.head?.map Dimm.capacityBytes).getD 0, [])).2 =
          dimms.filter (hasUnallocatedCapacity goals) := by
      rw [foldl_includeDimm_snd, List.nil_append]
    refine ⟨hsnd, by rwa [hsnd], ?_, ?_⟩
    · intro d hd
      rw [hsnd, List.mem_filter] at hd
      refine (toNat_roundDown_le _ _).trans ?_
      have hle := UInt64.le_iff_toNat_le.mp (foldl_includeDimm_fst_le_of_mem hd.1 hd.2
        ((dimms.head?.map Dimm.capacityBytes).getD 0, []))
      split_ifs with hlt
      · exact (le_of_lt (UInt64.lt_iff_toNat_lt.mp hlt)).trans hle
      · exact hle
    · rw [toNat_roundDown_bytesPerGiB]
      omega

/-- The bytes stay above a bound that they start above and that the DIMMs with capacity left have. -/
private theorem le_foldl_includeDimm_fst {goals : Goals} {dimms : List Dimm} {bound : UInt64}
    (h : ∀ d ∈ dimms, hasUnallocatedCapacity goals d = true →
      bound ≤ getDimmUnallocatedGiBAlignedBytes d.capacityBytes (goals d.uid))
    {acc : UInt64 × List Dimm} (hacc : bound ≤ acc.1) :
    bound ≤ (dimms.foldl (includeDimm goals) acc).1 := by
  induction dimms generalizing acc with
  | nil => exact hacc
  | cons d dimms ih =>
    rw [List.foldl_cons]
    refine ih (fun e he => h e (List.mem_cons_of_mem d he)) ?_
    unfold includeDimm
    dsimp only
    split_ifs with hcap hlt
    · exact h d List.mem_cons_self (decide_eq_true hcap)
    · exact hacc
    · exact hacc

/-- Together the shares are within the request, and a share has no GiB only when the request has
less than one for each of the DIMMs that are included. -/
theorem symmetricalShare_even {dimms : List Dimm} {goals : Goals}
    (hcapacity : ∀ d ∈ dimms, 2 ^ 30 ≤ d.capacityBytes.toNat) {requestedBytes bytes : UInt64}
    {included : List Dimm}
    (h : getLargestPerDimmSymmetricalBytes dimms goals requestedBytes = .ok (bytes, included)) :
    bytes.toNat * included.length ≤ requestedBytes.toNat ∧
      (bytes.toNat < 2 ^ 30 → requestedBytes.toNat < 2 ^ 30 * included.length) := by
  rw [getLargestPerDimmSymmetricalBytes] at h
  split_ifs at h with hcount
  obtain ⟨hbytes, hincluded⟩ := Prod.mk.inj (Except.ok.inj h)
  rw [foldl_includeDimm_snd, List.nil_append] at hincluded
  subst hincluded
  have hpos : 0 < (dimms.filter (hasUnallocatedCapacity goals)).length := by
    rw [← List.countP_eq_length_filter]
    exact Nat.pos_of_ne_zero hcount
  obtain ⟨d, rest, rfl⟩ : ∃ d rest, dimms = d :: rest := by
    refine List.exists_cons_of_ne_nil ?_
    rintro rfl
    exact absurd hpos (lt_irrefl 0)
  have hbound : bytesPerGiB.toNat = 2 ^ 30 := rfl
  have hfold : 2 ^ 30 ≤ ((d :: rest).foldl (includeDimm goals) (d.capacityBytes, [])).1.toNat := by
    rw [← hbound]
    refine UInt64.le_iff_toNat_le.mp (le_foldl_includeDimm_fst (fun e he hcap => ?_) ?_)
    · have hleft := UInt64.lt_iff_toNat_lt.mp (of_decide_eq_true hcap)
      rw [UInt64.toNat_zero, getDimmUnallocatedGiBAlignedBytes, toNat_roundDown_bytesPerGiB] at hleft
      rw [UInt64.le_iff_toNat_le, hbound, getDimmUnallocatedGiBAlignedBytes,
        toNat_roundDown_bytesPerGiB]
      omega
    · exact UInt64.le_iff_toNat_le.mpr (hbound ▸ hcapacity d List.mem_cons_self)
  simp only [List.head?_cons, Option.map_some, Option.getD_some, foldl_includeDimm_snd,
    List.nil_append] at hbytes
  generalize ((d :: rest).foldl (includeDimm goals) (d.capacityBytes, [])).1 = least at hfold hbytes
  generalize (List.filter (hasUnallocatedCapacity goals) (d :: rest)).length = n at hpos hbytes ⊢
  have hlt : requestedBytes.toNat / n < 2 ^ 64 :=
    Nat.lt_of_le_of_lt (Nat.div_le_self _ _) (UInt64.toNat_lt _)
  -- the share before it is rounded down
  have hshare : ∃ x : UInt64, bytes = roundDown x bytesPerGiB ∧
      x.toNat ≤ requestedBytes.toNat / n ∧ (x.toNat < 2 ^ 30 → requestedBytes.toNat / n < 2 ^ 30) := by
    refine ⟨_, hbytes.symm, ?_⟩
    split_ifs with hless
    · rw [toNat_ofNat_of_lt hlt]
      exact ⟨le_rfl, id⟩
    · rw [UInt64.lt_iff_toNat_lt, toNat_ofNat_of_lt hlt, not_lt] at hless
      exact ⟨hless, fun hsmall => absurd hsmall (not_lt.mpr hfold)⟩
  obtain ⟨x, rfl, hle, hsmall⟩ := hshare
  rw [toNat_roundDown_bytesPerGiB]
  constructor
  · refine (Nat.mul_le_mul_right n ?_).trans (Nat.div_mul_le_self requestedBytes.toNat n)
    omega
  · intro hnone
    exact (Nat.div_lt_iff_lt_mul hpos).mp (hsmall (by omega))

/-- Where every DIMM has a GiB left, an equal share of all that is left has a GiB too. -/
theorem one_giB_le_symmetricalShare {dimms : List Dimm} {goals : Goals}
    (hleft : ∀ d ∈ dimms,
      2 ^ 30 ≤ (getDimmUnallocatedGiBAlignedBytes d.capacityBytes (goals d.uid)).toNat)
    (hcapacity : ∀ d ∈ dimms, 2 ^ 30 ≤ d.capacityBytes.toNat)
    (hsum : (dimms.map fun d =>
      (getDimmUnallocatedGiBAlignedBytes d.capacityBytes (goals d.uid)).toNat).sum < 2 ^ 64)
    {bytes : UInt64} {included : List Dimm}
    (h : getLargestPerDimmSymmetricalBytes dimms goals (getRemainingBytesFromDimms dimms goals) =
      .ok (bytes, included)) : 2 ^ 30 ≤ bytes.toNat := by
  have hincluded : included.length ≤ dimms.length := by
    rcases getLargestPerDimmSymmetricalBytes_spec dimms goals
      (getRemainingBytesFromDimms dimms goals) with ⟨-, herr⟩ | ⟨bytes', included', hok, hshare⟩
    · rw [herr] at h
      cases h
    · rw [hok] at h
      obtain ⟨-, rfl⟩ := Prod.mk.inj (Except.ok.inj h)
      rw [hshare.included_eq]
      exact List.length_filter_le _ _
  by_contra hlt
  have hfew := (symmetricalShare_even hcapacity h).2 (not_le.mp hlt)
  -- The DIMMs have as many GiB left as there are of them.
  have hle : (dimms.map fun _ => 2 ^ 30).sum ≤ (dimms.map fun e =>
      (getDimmUnallocatedGiBAlignedBytes e.capacityBytes (goals e.uid)).toNat).sum :=
    sum_map_le_sum_map_of_le hleft
  rw [List.map_const', List.sum_replicate, Nat.nsmul_eq_mul] at hle
  rw [getRemainingBytesFromDimms, toNat_foldl_add_of_lt _ _ hsum] at hfew
  omega

end IxpDimm
