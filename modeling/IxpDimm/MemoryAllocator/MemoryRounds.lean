import IxpDimm.MemoryAllocator.LayoutBuilder
import Mathlib.Data.List.Dedup

/-!
# The rounds of the memory mode step

Every round of `layoutMemoryModeCapacity` gives the DIMMs with a GiB left the same number of GiB, so
that what is laid out stays within the request and within each DIMM, and the rounds end when the
request is met, when fewer GiB are to be placed than there are DIMMs with a GiB left, or by the
exception when there is no such DIMM (`MemoryLaw`).

The request is converted to bytes in 64 bits.  A request of `2 ^ 34` GiB or more is therefore laid
out as its remainder, and the law fails unless the DIMMs cannot hold even that (`memoryLaw_iff`).
-/

namespace IxpDimm.LayoutStepMemory

open Foundation

/-! ### What the rounds are to do -/

/-- The goals at some point of the rounds: between two rounds, or when a round has updated some of
the DIMMs it includes. -/
inductive AtSomePoint (request : MemoryAllocationRequest) (goalUids : List Uid) (start : Goals) :
    Goals → Prop
  /-- Between two rounds. -/
  | between {goals : Goals} {bytesAllocated : UInt64} :
    LoopReaches (layoutRound request goalUids) (start, 0) (goals, bytesAllocated) →
    AtSomePoint request goalUids start goals
  /-- Within a round, after the update of some DIMMs. -/
  | within {goals : Goals} {bytesAllocated bytesPerDimm : UInt64} {included : List Dimm} (k : ℕ) :
    LoopReaches (layoutRound request goalUids) (start, 0) (goals, bytesAllocated) →
    bytesAllocated < giBToB request.memoryModeCapacityGiB →
    getLargestPerDimmSymmetricalBytes request.nonReservedDimms goals
      (giBToB request.memoryModeCapacityGiB - bytesAllocated) = .ok (bytesPerDimm, included) →
    AtSomePoint request goalUids start (updateAll Dimm.uid (fun _ goal =>
      { goal with memorySize := goal.memorySize + bytesToConfigGoalSize bytesPerDimm })
      (included.take k) goals)

/-- The DIMMs with a GiB that is not laid out as memory. -/
def dimmsWithGiBFree (dimms : List Dimm) (goals : Goals) : List Dimm :=
  dimms.filter fun d => (goals d.uid).memorySize.toNat < wholeGiB d.capacityBytes

/-- The GiB that the rounds have still to place. -/
def remainingGiB (request : MemoryAllocationRequest) (goals : Goals) : ℕ :=
  request.memoryModeCapacityGiB.toNat - memoryGiB request.dimms goals

/-- The goals that `layoutMemoryModeCapacity` leaves. -/
def goalsAfter (request : MemoryAllocationRequest) (goalUids : List Uid) (start : Goals) : Goals :=
  finalState (layoutMemoryModeCapacity request goalUids start)

/-- What `layoutMemoryModeCapacity` is to do from the goals `start`. -/
structure MemoryLaw (request : MemoryAllocationRequest) (goalUids : List Uid) (start : Goals) :
    Prop where
  /-- It ends, normally or by the bad request size. -/
  ends : ∃ goals, layoutMemoryModeCapacity request goalUids start = .ok () goals ∨
    layoutMemoryModeCapacity request goalUids start = .error .badRequestSize goals
  /-- At every point the memory is within the request. -/
  total : ∀ goals, AtSomePoint request goalUids start goals →
    memoryGiB request.dimms goals ≤ request.memoryModeCapacityGiB.toNat
  /-- At every point the memory of a DIMM is within its whole GiB. -/
  whole : ∀ goals, AtSomePoint request goalUids start goals →
    ∀ d ∈ request.dimms, (goals d.uid).memorySize.toNat ≤ wholeGiB d.capacityBytes
  /-- In the end there are fewer GiB to place than DIMMs with a GiB free, or no such DIMMs. -/
  final : remainingGiB request (goalsAfter request goalUids start) <
      (dimmsWithGiBFree request.dimms (goalsAfter request goalUids start)).length ∨
    dimmsWithGiBFree request.dimms (goalsAfter request goalUids start) = []
  /-- The exception is raised exactly when the request is unmet and no DIMM has a GiB free. -/
  raised : (∃ goals, layoutMemoryModeCapacity request goalUids start =
      .error .badRequestSize goals) ↔
    0 < remainingGiB request (goalsAfter request goalUids start) ∧
      dimmsWithGiBFree request.dimms (goalsAfter request goalUids start) = []

/-- The whole GiB of the requested DIMMs. -/
def totalWholeGiB (dimms : List Dimm) : ℕ := (dimms.map fun d => wholeGiB d.capacityBytes).sum

/-! ### The account of the bytes -/

section
variable {request : MemoryAllocationRequest} {goalUids : List Uid} {goals : Goals}

/-- The GiB that the rounds see of a request. -/
def seenGiB (request : MemoryAllocationRequest) : ℕ := request.memoryModeCapacityGiB.toNat % 2 ^ 34

/-- The bytes to allocate. -/
private theorem toNat_bytesToAllocate (request : MemoryAllocationRequest) :
    (giBToB request.memoryModeCapacityGiB).toNat = 2 ^ 30 * seenGiB request := by
  have hmul : (giBToB request.memoryModeCapacityGiB).toNat =
      2 ^ 30 * request.memoryModeCapacityGiB.toNat % (2 ^ 30 * 2 ^ 34) := by
    rw [← pow_add]
    exact toNat_configGoalSizeToBytes request.memoryModeCapacityGiB
  rw [hmul, Nat.mul_mod_mul_left, seenGiB]

/-- The bytes of the goals of the requested DIMMs. -/
private theorem toNat_getBytesAllocated (hkeys : goalUids.Perm (request.dimms.map Dimm.uid))
    (hgoals : MemoryGoals request.dimms goals)
    (hfit : memoryGiB request.dimms goals < 2 ^ 34) :
    (getBytesAllocatedFromLayout goalUids goals).toNat =
      2 ^ 30 * memoryGiB request.dimms goals := by
  have hbytes : ∀ d ∈ request.dimms,
      (configGoalSizeToBytes (goals d.uid).memorySize).toNat =
        2 ^ 30 * (goals d.uid).memorySize.toNat := by
    intro d hd
    have hfits := (hgoals d hd).fits
    have hlt := wholeGiB_lt d.capacityBytes
    exact toNat_configGoalSizeToBytes_of_lt (by omega)
  have hsum : (goalUids.map fun uid => (configGoalSizeToBytes (goals uid).memorySize).toNat).sum =
      2 ^ 30 * memoryGiB request.dimms goals := by
    have hmap : (request.dimms.map fun d => (configGoalSizeToBytes
        (goals d.uid).memorySize).toNat) =
          request.dimms.map fun d => 2 ^ 30 * (goals d.uid).memorySize.toNat :=
      List.map_congr_left hbytes
    rw [(hkeys.map _).sum_eq, List.map_map, memoryGiB, ← List.sum_map_mul_left, ← hmap]
    rfl
  have hlt : 2 ^ 30 * memoryGiB request.dimms goals < 2 ^ 64 := by omega
  rw [← hsum] at hlt
  rw [getBytesAllocatedFromLayout, toNat_foldl_add_of_lt _ _ hlt, hsum]

/-! ### A round -/

/-- The DIMMs with a GiB free are those with capacity left. -/
private theorem dimmsWithGiBFree_eq (hgoals : MemoryGoals request.dimms goals) :
    dimmsWithGiBFree request.dimms goals =
      request.dimms.filter (hasUnallocatedCapacity goals) := by
  refine List.filter_congr fun d hd => ?_
  have hgoal := hgoals d hd
  rw [Bool.eq_iff_iff, hasUnallocatedCapacity_iff (hgoal.countedGiB ▸ hgoal.fits),
    hgoal.countedGiB, decide_eq_true_iff]

/-- A share for those elements of a list that are in another one. -/
private theorem sum_map_ite_mem_le {dimms some : List Dimm} (hnd : dimms.Nodup) (share : ℕ) :
    (dimms.map fun d => if d ∈ some then share else 0).sum ≤ some.length * share := by
  have hfilter : ∀ l : List Dimm, (l.map fun d => if d ∈ some then share else 0).sum =
      (l.filter fun d => d ∈ some).length * share := by
    intro l
    induction l with
    | nil => exact (Nat.zero_mul share).symm
    | cons d l ih =>
      rw [List.map_cons, List.sum_cons, ih]
      by_cases hmem : d ∈ some
      · rw [if_pos hmem, List.filter_cons, if_pos (by simpa using hmem), List.length_cons,
          Nat.succ_mul, Nat.add_comm]
      · rw [if_neg hmem, Nat.zero_add, List.filter_cons, if_neg (by simpa using hmem)]
  rw [hfilter]
  refine Nat.mul_le_mul_right share (List.Subperm.length_le (List.subperm_of_subset
    (hnd.filter _) fun d hd => ?_))
  exact of_decide_eq_true (List.mem_filter.mp hd).2

/-- What is laid out when some of the included DIMMs have got their share. -/
private theorem addShare_bounds (hnd : (request.dimms.map Dimm.uid).Nodup)
    (hgoals : MemoryGoals request.dimms goals) {requested bytes : UInt64} {included some : List Dimm}
    (hshare : SymmetricalShare request.dimms goals requested bytes included)
    (hsub : some.Sublist included) :
    let goals' := updateAll Dimm.uid (fun _ goal =>
      { goal with memorySize := goal.memorySize + bytesToConfigGoalSize bytes }) some goals
    memoryGiB request.dimms goals' ≤
        memoryGiB request.dimms goals + some.length * (bytes.toNat / 2 ^ 30) ∧
      ∀ d ∈ request.dimms, (goals' d.uid).memorySize.toNat ≤ wholeGiB d.capacityBytes := by
  intro goals'
  have hincluded : included.Sublist request.dimms := by
    rw [hshare.included_eq]
    exact List.filter_sublist
  have hgoal : ∀ d ∈ request.dimms, (goals' d.uid).memorySize.toNat =
      (goals d.uid).memorySize.toNat + if d ∈ some then bytes.toNat / 2 ^ 30 else 0 := by
    intro d hd
    by_cases hmem : d ∈ some
    · have happly := updateAll_apply_of_mem (h := fun _ goal => { goal with
        memorySize := goal.memorySize + bytesToConfigGoalSize bytes })
        (hnd.sublist ((hsub.trans hincluded).map Dimm.uid)) hmem goals
      rw [if_pos hmem, ← (share_fits hgoals hshare (hsub.subset hmem)).1]
      exact congrArg (fun goal => goal.memorySize.toNat) happly
    · have hnot : d.uid ∉ some.map Dimm.uid := by
        intro huid
        obtain ⟨e, he, hue⟩ := List.mem_map.mp huid
        have hed := List.inj_on_of_nodup_map hnd ((hsub.trans hincluded).subset he) hd hue
        exact hmem (hed ▸ he)
      rw [if_neg hmem, Nat.add_zero]
      exact congrArg (fun goal => goal.memorySize.toNat) (updateAll_apply_of_notMem hnot goals)
  constructor
  · have hmap : (request.dimms.map fun d => (goals' d.uid).memorySize.toNat) =
        request.dimms.map fun d => (goals d.uid).memorySize.toNat +
          if d ∈ some then bytes.toNat / 2 ^ 30 else 0 := List.map_congr_left hgoal
    rw [memoryGiB, hmap, List.sum_map_add]
    exact Nat.add_le_add_left (sum_map_ite_mem_le (List.Nodup.of_map _ hnd) _) _
  · intro d hd
    rw [hgoal d hd]
    split_ifs with hmem
    · exact (share_fits hgoals hshare (hsub.subset hmem)).2
    · exact (hgoals d hd).fits

/-- What holds between two rounds. -/
structure BetweenRounds (request : MemoryAllocationRequest) (goalUids : List Uid) (goals : Goals)
    (bytesAllocated : UInt64) : Prop where
  /-- The goals hold memory only, which fits on the DIMMs. -/
  memory : MemoryGoals request.dimms goals
  /-- The bytes are those of the goals. -/
  bytes : bytesAllocated = getBytesAllocatedFromLayout goalUids goals
  /-- The memory is within what the rounds see of the request. -/
  within : memoryGiB request.dimms goals ≤ seenGiB request

/-- The GiB that are seen of a request. -/
private theorem seenGiB_lt (request : MemoryAllocationRequest) : seenGiB request < 2 ^ 34 :=
  Nat.mod_lt _ (by norm_num)

/-- The bytes between two rounds. -/
private theorem BetweenRounds.toNat_bytes (hkeys : goalUids.Perm (request.dimms.map Dimm.uid))
    {bytesAllocated : UInt64} (h : BetweenRounds request goalUids goals bytesAllocated) :
    bytesAllocated.toNat = 2 ^ 30 * memoryGiB request.dimms goals := by
  rw [h.bytes]
  exact toNat_getBytesAllocated hkeys h.memory (h.within.trans_lt (seenGiB_lt request))

/-- What a round asks for. -/
private theorem BetweenRounds.toNat_requested (hkeys : goalUids.Perm (request.dimms.map Dimm.uid))
    {bytesAllocated : UInt64} (h : BetweenRounds request goalUids goals bytesAllocated) :
    (giBToB request.memoryModeCapacityGiB - bytesAllocated).toNat =
      2 ^ 30 * (seenGiB request - memoryGiB request.dimms goals) := by
  have hbytes := h.toNat_bytes hkeys
  have hwithin := h.within
  have hallocate := toNat_bytesToAllocate request
  rw [toNat_sub_of_toNat_le (by omega), hbytes, hallocate, Nat.mul_sub]

/-- Within a round the memory stays within the request, and within each DIMM. -/
private theorem BetweenRounds.share_within (hnd : (request.dimms.map Dimm.uid).Nodup)
    (hkeys : goalUids.Perm (request.dimms.map Dimm.uid))
    (hcapacity : ∀ d ∈ request.dimms, 2 ^ 30 ≤ d.capacityBytes.toNat) {bytesAllocated : UInt64}
    (h : BetweenRounds request goalUids goals bytesAllocated) {bytes : UInt64}
    {included some : List Dimm}
    (hlargest : getLargestPerDimmSymmetricalBytes request.dimms goals
      (giBToB request.memoryModeCapacityGiB - bytesAllocated) = .ok (bytes, included))
    (hsub : some.Sublist included) :
    let goals' := updateAll Dimm.uid (fun _ goal =>
      { goal with memorySize := goal.memorySize + bytesToConfigGoalSize bytes }) some goals
    memoryGiB request.dimms goals' ≤ seenGiB request ∧
      ∀ d ∈ request.dimms, (goals' d.uid).memorySize.toNat ≤ wholeGiB d.capacityBytes := by
  obtain ⟨hmul, -⟩ := symmetricalShare_even hcapacity hlargest
  have hwithin := h.within
  rcases getLargestPerDimmSymmetricalBytes_spec request.dimms goals
    (giBToB request.memoryModeCapacityGiB - bytesAllocated) with ⟨-, herr⟩ | ⟨b, i, hok, hshare⟩
  · rw [herr] at hlargest
    cases hlargest
  · rw [hok] at hlargest
    obtain ⟨rfl, rfl⟩ := Prod.mk.inj (Except.ok.inj hlargest)
    obtain ⟨htotal, hwhole⟩ := addShare_bounds hnd h.memory hshare hsub
    refine ⟨htotal.trans ?_, hwhole⟩
    rw [h.toNat_requested hkeys] at hmul
    have hsome : some.length * (b.toNat / 2 ^ 30) ≤ i.length * (b.toNat / 2 ^ 30) :=
      Nat.mul_le_mul_right _ hsub.length_le
    have hgib : 2 ^ 30 * (i.length * (b.toNat / 2 ^ 30)) ≤ b.toNat * i.length := by
      rw [Nat.mul_left_comm, Nat.mul_comm b.toNat]
      exact Nat.mul_le_mul_left _ (Nat.mul_div_le _ _)
    omega

/-- The share of a round that lays out memory. -/
private theorem round_largest {requested : UInt64} {goals' : Goals}
    (h : layoutMaximumSymmetricalBytesOnDimms requested request.dimms goals = .ok goals') :
    ∃ bytes included, getLargestPerDimmSymmetricalBytes request.dimms goals requested =
        .ok (bytes, included) ∧ SymmetricalShare request.dimms goals requested bytes included ∧
      goals' = updateAll Dimm.uid (fun _ goal =>
        { goal with memorySize := goal.memorySize + bytesToConfigGoalSize bytes })
        included goals := by
  unfold layoutMaximumSymmetricalBytesOnDimms at h
  rcases getLargestPerDimmSymmetricalBytes_spec request.dimms goals requested with
    ⟨-, herr⟩ | ⟨bytes, included, hok, hshare⟩
  · rw [herr] at h
    cases h
  · rw [hok] at h
    exact ⟨bytes, included, hok, hshare, (Except.ok.inj h).symm⟩

/-- A round that goes on. -/
private theorem BetweenRounds.next (hnd : (request.dimms.map Dimm.uid).Nodup)
    (hkeys : goalUids.Perm (request.dimms.map Dimm.uid))
    (hcapacity : ∀ d ∈ request.dimms, 2 ^ 30 ≤ d.capacityBytes.toNat) {bytesAllocated : UInt64}
    (h : BetweenRounds request goalUids goals bytesAllocated) {next : Goals × UInt64}
    (hround : layoutRound request goalUids (goals, bytesAllocated) = .inl next) :
    BetweenRounds request goalUids next.1 next.2 := by
  simp only [layoutRound] at hround
  split_ifs at hround
  split at hround
  · cases hround
  · rename_i goals' hlay
    split_ifs at hround
    obtain rfl := Sum.inl.inj hround
    obtain ⟨bytes, included, hlargest, -, hgoals'⟩ := round_largest hlay
    refine ⟨round_memoryGoals hnd h.memory hlay, rfl, ?_⟩
    rw [hgoals']
    exact (h.share_within hnd hkeys hcapacity hlargest (List.Sublist.refl _)).1

/-- A round after which there are no new bytes changes nothing, since there are fewer GiB to place
than DIMMs with a GiB free. -/
private theorem BetweenRounds.few_of_not_new (hnd : (request.dimms.map Dimm.uid).Nodup)
    (hkeys : goalUids.Perm (request.dimms.map Dimm.uid))
    (hcapacity : ∀ d ∈ request.dimms, 2 ^ 30 ≤ d.capacityBytes.toNat) {bytesAllocated : UInt64}
    (h : BetweenRounds request goalUids goals bytesAllocated) {goals' : Goals}
    (hlay : layoutMaximumSymmetricalBytesOnDimms
      (giBToB request.memoryModeCapacityGiB - bytesAllocated) request.dimms goals = .ok goals')
    (hnew : ¬ newBytesWereAllocated goalUids goals' bytesAllocated = true) :
    (∀ d ∈ request.dimms, goals' d.uid = goals d.uid) ∧
      seenGiB request - memoryGiB request.dimms goals <
        (dimmsWithGiBFree request.dimms goals).length := by
  have hmemory := round_memoryGoals hnd h.memory hlay
  obtain ⟨bytes, included, hlargest, hshare, hgoals'⟩ := round_largest hlay
  have hwithin : memoryGiB request.dimms goals' ≤ seenGiB request := by
    rw [hgoals']
    exact (h.share_within hnd hkeys hcapacity hlargest (List.Sublist.refl _)).1
  have hbytes := h.toNat_bytes hkeys
  have hbytes' := toNat_getBytesAllocated hkeys hmemory (hwithin.trans_lt (seenGiB_lt request))
  rw [newBytesWereAllocated, decide_eq_true_eq, not_not] at hnew
  rw [← hnew] at hbytes'
  have hsame : ∀ d ∈ request.dimms, goals' d.uid = goals d.uid := by
    rcases round_progress hnd h.memory hlay with hsame | hmore
    · exact hsame
    · omega
  refine ⟨hsame, ?_⟩
  obtain ⟨d, hd⟩ := List.exists_mem_of_ne_nil _ hshare.included_ne
  have hmem : d ∈ request.dimms := by
    rw [hshare.included_eq] at hd
    exact List.mem_of_mem_filter hd
  -- the share of an included DIMM is zero
  have hshare_zero : bytes.toNat < 2 ^ 30 := by
    have hgoal := round_apply hnd hshare hmem
    rw [← hgoals', if_pos hd, hsame d hmem] at hgoal
    have hmemorySize := congrArg (fun goal => goal.memorySize.toNat) hgoal
    dsimp only at hmemorySize
    rw [(share_fits h.memory hshare hd).1] at hmemorySize
    omega
  have hfew := (symmetricalShare_even hcapacity hlargest).2 hshare_zero
  rw [h.toNat_requested hkeys, hshare.included_eq, ← dimmsWithGiBFree_eq h.memory] at hfew
  exact Nat.lt_of_mul_lt_mul_left hfew

/-- How the rounds end: normally, with the request met or fewer GiB to place than DIMMs with a GiB
free, or by the exception, with the request unmet and no such DIMM. -/
inductive Ended (request : MemoryAllocationRequest) :
    EStateM.Result LayoutException Goals Unit → Prop
  /-- The request is met. -/
  | met {goals : Goals} : MemoryGoals request.dimms goals →
    memoryGiB request.dimms goals = seenGiB request → Ended request (.ok () goals)
  /-- A round could not give a GiB to each DIMM that has one free. -/
  | few {goals : Goals} : MemoryGoals request.dimms goals →
    memoryGiB request.dimms goals ≤ seenGiB request →
    seenGiB request - memoryGiB request.dimms goals <
      (dimmsWithGiBFree request.dimms goals).length →
    Ended request (.ok () goals)
  /-- No DIMM has a GiB free. -/
  | full {goals : Goals} : memoryGiB request.dimms goals < seenGiB request →
    dimmsWithGiBFree request.dimms goals = [] →
    Ended request (.error .badRequestSize goals)

/-- The memory and the free DIMMs depend on the goals of the DIMMs only. -/
private theorem memory_congr {goals' : Goals}
    (h : ∀ d ∈ request.dimms, goals' d.uid = goals d.uid) :
    memoryGiB request.dimms goals' = memoryGiB request.dimms goals ∧
      dimmsWithGiBFree request.dimms goals' = dimmsWithGiBFree request.dimms goals :=
  ⟨congrArg List.sum (List.map_congr_left fun d hd => by rw [h d hd]),
    List.filter_congr fun d hd => by rw [h d hd]⟩

/-- A round that ends the loop. -/
private theorem BetweenRounds.ended (hnd : (request.dimms.map Dimm.uid).Nodup)
    (hkeys : goalUids.Perm (request.dimms.map Dimm.uid))
    (hcapacity : ∀ d ∈ request.dimms, 2 ^ 30 ≤ d.capacityBytes.toNat) {bytesAllocated : UInt64}
    (h : BetweenRounds request goalUids goals bytesAllocated)
    {r : EStateM.Result LayoutException Goals Unit}
    (hround : layoutRound request goalUids (goals, bytesAllocated) = .inr r) : Ended request r := by
  have hwithin := h.within
  have hbytes := h.toNat_bytes hkeys
  have hallocate := toNat_bytesToAllocate request
  simp only [layoutRound] at hround
  split_ifs at hround with hmore
  · rw [UInt64.lt_iff_toNat_lt, hbytes, hallocate] at hmore
    split at hround
    · rename_i e hlay
      obtain rfl := Sum.inr.inj hround
      unfold layoutMaximumSymmetricalBytesOnDimms at hlay
      rcases getLargestPerDimmSymmetricalBytes_spec request.dimms goals
        (giBToB request.memoryModeCapacityGiB - bytesAllocated) with
        ⟨hnone, herr⟩ | ⟨bytes, included, hok, -⟩
      · rw [MemoryAllocationRequest.nonReservedDimms, herr] at hlay
        obtain rfl := Except.error.inj hlay
        refine Ended.full (by omega) ?_
        rw [dimmsWithGiBFree_eq h.memory, hnone]
      · rw [MemoryAllocationRequest.nonReservedDimms, hok] at hlay
        cases hlay
    · rename_i goals' hlay
      split_ifs at hround with hnew
      obtain rfl := Sum.inr.inj hround
      obtain ⟨hsame, hfew⟩ := h.few_of_not_new hnd hkeys hcapacity hlay hnew
      obtain ⟨hmemory, hfree⟩ := memory_congr hsame
      rw [← hmemory, ← hfree] at hfew
      exact Ended.few (round_memoryGoals hnd h.memory hlay) (hmemory ▸ hwithin) hfew
  · obtain rfl := Sum.inr.inj hround
    rw [UInt64.lt_iff_toNat_lt, hbytes, hallocate] at hmore
    exact Ended.met h.memory (by omega)

/-! ### All rounds -/

/-- Between any two rounds. -/
private theorem betweenRounds_of_reaches (hnd : (request.dimms.map Dimm.uid).Nodup)
    (hkeys : goalUids.Perm (request.dimms.map Dimm.uid))
    (hcapacity : ∀ d ∈ request.dimms, 2 ^ 30 ≤ d.capacityBytes.toNat) {start : Goals}
    (hstart : BetweenRounds request goalUids start 0) {state : Goals × UInt64}
    (hreach : LoopReaches (layoutRound request goalUids) (start, 0) state) :
    BetweenRounds request goalUids state.1 state.2 := by
  induction hreach with
  | refl => exact hstart
  | tail _ hstep ih => exact ih.next hnd hkeys hcapacity hstep

/-- The rounds end. -/
theorem ended_layoutMemoryModeCapacity (hnd : (request.dimms.map Dimm.uid).Nodup)
    (hkeys : goalUids.Perm (request.dimms.map Dimm.uid))
    (hcapacity : ∀ d ∈ request.dimms, 2 ^ 30 ≤ d.capacityBytes.toNat) {start : Goals}
    (hstart : BetweenRounds request goalUids start 0) :
    Ended request (layoutMemoryModeCapacity request goalUids start) := by
  obtain ⟨r, hr⟩ := Option.isSome_iff_exists.mp (layoutMemoryModeCapacity_terminates hnd
    (fun uid huid => hkeys.subset huid) hstart.memory hstart.bytes.symm)
  rw [layoutMemoryModeCapacity, hr, Option.getD_some]
  refine runLoop_rule (fun s => BetweenRounds request goalUids s.1 s.2) (Ended request) ?_ ?_
    hstart hr
  · exact fun _ _ h hstep => h.next hnd hkeys hcapacity hstep
  · exact fun _ _ h hstep => h.ended hnd hkeys hcapacity hstep

/-- At every point the memory is within what is seen of the request, and within each DIMM. -/
private theorem within_of_atSomePoint (hnd : (request.dimms.map Dimm.uid).Nodup)
    (hkeys : goalUids.Perm (request.dimms.map Dimm.uid))
    (hcapacity : ∀ d ∈ request.dimms, 2 ^ 30 ≤ d.capacityBytes.toNat) {start : Goals}
    (hstart : BetweenRounds request goalUids start 0)
    (h : AtSomePoint request goalUids start goals) :
    memoryGiB request.dimms goals ≤ seenGiB request ∧
      ∀ d ∈ request.dimms, (goals d.uid).memorySize.toNat ≤ wholeGiB d.capacityBytes := by
  cases h with
  | between hreach =>
    have hinv := betweenRounds_of_reaches hnd hkeys hcapacity hstart hreach
    exact ⟨hinv.within, fun d hd => (hinv.memory d hd).fits⟩
  | within k hreach _ hlargest =>
    have hinv := betweenRounds_of_reaches hnd hkeys hcapacity hstart hreach
    exact hinv.share_within hnd hkeys hcapacity hlargest (List.take_sublist k _)

/-- The memory and a GiB for each DIMM that has one free are within the whole GiB. -/
private theorem memoryGiB_add_free_le (hgoals : MemoryGoals request.dimms goals) :
    memoryGiB request.dimms goals + (dimmsWithGiBFree request.dimms goals).length ≤
      totalWholeGiB request.dimms := by
  have hall : ∀ d ∈ request.dimms, (goals d.uid).memorySize.toNat ≤ wholeGiB d.capacityBytes :=
    fun d hd => (hgoals d hd).fits
  unfold memoryGiB dimmsWithGiBFree totalWholeGiB
  generalize request.dimms = dimms at hall
  induction dimms with
  | nil => exact le_rfl
  | cons d dimms ih =>
    rw [List.forall_mem_cons] at hall
    have hrest := ih hall.2
    have hfirst := hall.1
    rw [List.filter_cons]
    split_ifs with hfree
    · rw [decide_eq_true_eq] at hfree
      simp only [List.map_cons, List.sum_cons, List.length_cons]
      omega
    · simp only [List.map_cons, List.sum_cons]
      omega

/-- When no DIMM has a GiB free, the memory is all of the whole GiB. -/
private theorem totalWholeGiB_le (hfree : dimmsWithGiBFree request.dimms goals = []) :
    totalWholeGiB request.dimms ≤ memoryGiB request.dimms goals := by
  refine sum_map_le_sum_map_of_le fun d hd => ?_
  have hnot := List.filter_eq_nil_iff.mp hfree d hd
  rw [decide_eq_true_eq] at hnot
  exact not_lt.mp hnot

end

/-- The goals that the build starts from hold nothing. -/
theorem betweenRounds_initLayoutGoals (builder : LayoutBuilder)
    (request : MemoryAllocationRequest) :
    BetweenRounds request (builder.initLayoutGoals request).goalUids
      (builder.initLayoutGoals request).goals 0 := by
  have hgoal : ∀ uid, ((builder.initLayoutGoals request).goals uid).memorySize = 0 ∧
      ((builder.initLayoutGoals request).goals uid).appDirectCount = 0 ∧
      ((builder.initLayoutGoals request).goals uid).appDirect1Size = 0 ∧
      ((builder.initLayoutGoals request).goals uid).appDirect2Size = 0 := by
    intro uid
    unfold LayoutBuilder.initLayoutGoals
    dsimp only
    split_ifs
    · exact ⟨rfl, rfl, rfl, rfl⟩
    · exact ⟨rfl, rfl, rfl, rfl⟩
  have hbytes : ∀ (uids : List Uid) (bytes : UInt64), uids.foldl (fun bytes uid => bytes +
      configGoalSizeToBytes ((builder.initLayoutGoals request).goals uid).memorySize) bytes =
        bytes := by
    intro uids
    induction uids with
    | nil => exact fun _ => rfl
    | cons uid uids ih =>
      intro bytes
      rw [List.foldl_cons, ih, (hgoal uid).1]
      exact UInt64.add_zero bytes
  refine ⟨fun d _ => ?_, (hbytes _ 0).symm, ?_⟩
  · obtain ⟨hmemory, hcount, hfirst, hsecond⟩ := hgoal d.uid
    refine ⟨?_, hcount, hfirst, hsecond⟩
    rw [hmemory]
    exact Nat.zero_le _
  · have hzero : memoryGiB request.dimms (builder.initLayoutGoals request).goals = 0 := by
      refine List.sum_eq_zero fun x hx => ?_
      obtain ⟨d, -, rfl⟩ := List.mem_map.mp hx
      rw [(hgoal d.uid).1]
      rfl
    rw [hzero]
    exact Nat.zero_le _

/-- From the empty goals of a build, for DIMMs with a GiB each: the rounds keep the law when the
request is below `2 ^ 34` GiB, or when its remainder is above what the DIMMs hold; and only then,
unless there are more than `2 ^ 34` DIMMs. -/
theorem memoryLaw_iff (builder : LayoutBuilder) (request : MemoryAllocationRequest)
    (hnd : (request.dimms.map Dimm.uid).Nodup)
    (hcapacity : ∀ d ∈ request.dimms, 2 ^ 30 ≤ d.capacityBytes.toNat) :
    (request.memoryModeCapacityGiB.toNat < 2 ^ 34 ∨
        totalWholeGiB request.dimms < request.memoryModeCapacityGiB.toNat % 2 ^ 34 →
      MemoryLaw request (builder.initLayoutGoals request).goalUids
        (builder.initLayoutGoals request).goals) ∧
    (request.dimms.length ≤ 2 ^ 34 → MemoryLaw request (builder.initLayoutGoals request).goalUids
        (builder.initLayoutGoals request).goals →
      request.memoryModeCapacityGiB.toNat < 2 ^ 34 ∨
        totalWholeGiB request.dimms < request.memoryModeCapacityGiB.toNat % 2 ^ 34) := by
  have hkeys : (builder.initLayoutGoals request).goalUids.Perm (request.dimms.map Dimm.uid) := by
    show ((request.dimms.map Dimm.uid).dedup).Perm _
    rw [List.Nodup.dedup hnd]
  have hstart := betweenRounds_initLayoutGoals builder request
  have hended := ended_layoutMemoryModeCapacity hnd hkeys hcapacity hstart
  have hwithin := fun goals => @within_of_atSomePoint _ _ goals hnd hkeys hcapacity _ hstart
  have hseen : seenGiB request ≤ request.memoryModeCapacityGiB.toNat := Nat.mod_le _ _
  refine ⟨fun hcond => ?_, fun hcount hlaw => ?_⟩
  · have htotal : ∀ goals, AtSomePoint request (builder.initLayoutGoals request).goalUids
        (builder.initLayoutGoals request).goals goals →
        memoryGiB request.dimms goals ≤ request.memoryModeCapacityGiB.toNat :=
      fun goals hpoint => (hwithin goals hpoint).1.trans hseen
    have hwhole := fun goals hpoint => (hwithin goals hpoint).2
    have hcond' : seenGiB request = request.memoryModeCapacityGiB.toNat ∨
        totalWholeGiB request.dimms < seenGiB request := by
      rcases hcond with hlt | hlt
      · exact Or.inl (Nat.mod_eq_of_lt hlt)
      · exact Or.inr hlt
    generalize hresult : layoutMemoryModeCapacity request
      (builder.initLayoutGoals request).goalUids (builder.initLayoutGoals request).goals = result
      at hended
    have hafter : goalsAfter request (builder.initLayoutGoals request).goalUids
        (builder.initLayoutGoals request).goals = finalState result := congrArg finalState hresult
    cases hended with
    | @met goals hmemory hmet =>
      have hfull := memoryGiB_add_free_le hmemory
      have heq : remainingGiB request goals = 0 := by
        rw [remainingGiB]
        omega
      refine ⟨⟨goals, Or.inl hresult⟩, htotal, hwhole, ?_, ?_⟩
      · rw [hafter, finalState_ok, heq, List.length_pos_iff]
        exact (em _).symm
      · rw [hresult, hafter, finalState_ok, heq]
        exact iff_of_false (fun ⟨_, herror⟩ => nomatch herror) fun hboth => absurd hboth.1 (lt_irrefl 0)
    | @few goals hmemory hle hfew =>
      have hfull := memoryGiB_add_free_le hmemory
      have hlt : remainingGiB request goals < (dimmsWithGiBFree request.dimms goals).length := by
        rw [remainingGiB]
        omega
      refine ⟨⟨goals, Or.inl hresult⟩, htotal, hwhole, ?_, ?_⟩
      · rw [hafter]
        exact Or.inl hlt
      · rw [hresult, hafter, finalState_ok]
        refine iff_of_false (fun ⟨_, herror⟩ => nomatch herror) fun hboth => ?_
        rw [hboth.2] at hlt
        exact absurd hlt (Nat.not_lt_zero _)
    | @full goals hless hfree =>
      refine ⟨⟨goals, Or.inr hresult⟩, htotal, hwhole, ?_, ?_⟩
      · rw [hafter]
        exact Or.inr hfree
      · rw [hresult, hafter, finalState_error]
        refine iff_of_true ⟨goals, rfl⟩ ⟨?_, hfree⟩
        rw [remainingGiB]
        omega
  · by_contra hnot
    rw [not_or, not_lt, not_lt] at hnot
    have hover : seenGiB request + 2 ^ 34 ≤ request.memoryModeCapacityGiB.toNat := by
      rw [seenGiB]
      omega
    have hfinal := hlaw.final
    have hraised := hlaw.raised
    rw [goalsAfter] at hfinal hraised
    generalize layoutMemoryModeCapacity request (builder.initLayoutGoals request).goalUids
      (builder.initLayoutGoals request).goals = result at hended hfinal hraised
    have hok : ∀ goals, result = .ok () goals → memoryGiB request.dimms goals ≤ seenGiB request →
        False := by
      rintro goals rfl hle
      rw [finalState_ok] at hfinal hraised
      have hremaining : 2 ^ 34 ≤ remainingGiB request goals := by
        rw [remainingGiB]
        omega
      rcases hfinal with hfew | hfree
      · have hlength : (dimmsWithGiBFree request.dimms goals).length ≤ request.dimms.length :=
          List.length_filter_le _ _
        omega
      · obtain ⟨_, herror⟩ := hraised.mpr ⟨by omega, hfree⟩
        cases herror
    cases hended with
    | met _ hmet => exact hok _ rfl hmet.le
    | few _ hle _ => exact hok _ rfl hle
    | full hless hfree =>
      have hle := totalWholeGiB_le hfree
      have hheld : totalWholeGiB request.dimms ≥ seenGiB request := hnot.2
      omega

/-- A request for memory on two DIMMs of five and three GiB. -/
private def unevenRequest (memoryModeCapacityGiB : UInt64) : MemoryAllocationRequest where
  memoryModeCapacityGiB := memoryModeCapacityGiB
  dimms := [LayoutBuilder.plainDimm ['a'] 5 0 0, LayoutBuilder.plainDimm ['b'] 3 1 0]

/-- Seven GiB on these DIMMs. -/
theorem memoryLaw_uneven :
    MemoryLaw (unevenRequest 7) (LayoutBuilder.plainBuilder.initLayoutGoals (unevenRequest 7)).goalUids
      (LayoutBuilder.plainBuilder.initLayoutGoals (unevenRequest 7)).goals :=
  (memoryLaw_iff LayoutBuilder.plainBuilder (unevenRequest 7) (by decide) (by decide)).1
    (Or.inl (by decide))

/-- `2 ^ 34` GiB on these DIMMs are laid out as none. -/
theorem not_memoryLaw_overflow :
    ¬ ∀ (builder : LayoutBuilder) (request : MemoryAllocationRequest),
      (request.dimms.map Dimm.uid).Nodup →
      (∀ d ∈ request.dimms, 2 ^ 30 ≤ d.capacityBytes.toNat) →
      MemoryLaw request (builder.initLayoutGoals request).goalUids
        (builder.initLayoutGoals request).goals := by
  intro h
  have hlaw := h LayoutBuilder.plainBuilder (unevenRequest 17179869184) (by decide) (by decide)
  exact absurd hlaw.final (by decide)

end IxpDimm.LayoutStepMemory
