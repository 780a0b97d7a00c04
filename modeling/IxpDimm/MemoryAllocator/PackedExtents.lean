import IxpDimm.MemoryAllocator.Totals

/-!
# The extents of a goal are counted and packed

A goal has two App Direct extents and a number of sets.  The number is that of the extents that are
not empty, and the second extent is used only after the first: readers of a goal take the first
extent when there is a set and the second one when there are two.

The App Direct step fills the extents in order and never with a size of zero.  The shrink passes
keep the number right, but a pass that empties a first extent does not move the second one down, so
the extents stay packed exactly when no pass leaves a second extent stranded.
-/

namespace IxpDimm

open Foundation

/-- The number of App Direct extents that are not empty. -/
def ConfigGoal.extentCount (goal : ConfigGoal) : ℕ :=
  (if goal.appDirect1Size ≠ 0 then 1 else 0) + (if goal.appDirect2Size ≠ 0 then 1 else 0)

/-- The number of sets is that of the extents, and the first extent is used first. -/
structure ConfigGoal.ExtentsPacked (goal : ConfigGoal) : Prop where
  /-- The number of sets. -/
  count : goal.appDirectCount.toNat = goal.extentCount
  /-- A second extent comes after a first one. -/
  packed : goal.appDirect2Size > 0 → goal.appDirect1Size > 0

/-! ### The App Direct step -/

namespace LayoutStepAppDirect

/-- A set of at least a GiB goes to the first free extent. -/
theorem extentsPacked_update {goal : ConfigGoal} (h : goal.ExtentsPacked)
    (hcount : goal.appDirectCount.toNat ≤ 1) {bytes : UInt64} (hbytes : 2 ^ 30 ≤ bytes.toNat)
    (setId : UInt16) (uids : List Uid) (format : InterleaveFormat) :
    (updateGoalWithInterleaveSet setId bytes uids format goal).ExtentsPacked := by
  obtain ⟨hextents, hpacked⟩ := h
  have hsucc : (goal.appDirectCount + 1).toNat = goal.appDirectCount.toNat + 1 := by
    rw [UInt16.toNat_add]
    exact Nat.mod_eq_of_lt (by show goal.appDirectCount.toNat + 1 < 2 ^ 16; omega)
  have hone : goal.appDirectCount + 1 = 1 ↔ goal.appDirectCount.toNat = 0 := by
    rw [← UInt16.toNat_inj, hsucc]
    show _ + 1 = 1 ↔ _
    omega
  have hsize : bytesToConfigGoalSize bytes ≠ 0 := by
    intro hzero
    have hnat := toNat_bytesToConfigGoalSize bytes
    rw [hzero, UInt64.toNat_zero] at hnat
    omega
  unfold ConfigGoal.extentCount at hextents
  unfold updateGoalWithInterleaveSet
  by_cases hslot : goal.appDirectCount + 1 = 1
  · have hzero := hone.mp hslot
    have hsecond : goal.appDirect2Size = 0 := by
      by_contra hne
      rw [hzero, if_pos hne] at hextents
      omega
    rw [if_pos hslot]
    refine ⟨?_, fun hpos => ?_⟩
    · show (goal.appDirectCount + 1).toNat = ConfigGoal.extentCount _
      unfold ConfigGoal.extentCount
      rw [hsucc, hzero, if_pos hsize, if_neg (not_not.mpr hsecond)]
    · exact UInt64.pos_iff_ne_zero.mpr hsize
  · have hcount' : goal.appDirectCount.toNat = 1 := by
      have : goal.appDirectCount.toNat ≠ 0 := fun hzero => hslot (hone.mpr hzero)
      omega
    have hfirst : goal.appDirect1Size ≠ 0 := by
      intro hzero
      have hsecond : goal.appDirect2Size ≠ 0 := by
        intro hsecond
        rw [hcount', if_neg (not_not.mpr hzero), if_neg (not_not.mpr hsecond)] at hextents
        omega
      have := hpacked (UInt64.pos_iff_ne_zero.mpr hsecond)
      rw [hzero] at this
      exact absurd this (by decide)
    rw [if_neg hslot]
    refine ⟨?_, fun _ => UInt64.pos_iff_ne_zero.mpr hfirst⟩
    show (goal.appDirectCount + 1).toNat = ConfigGoal.extentCount _
    unfold ConfigGoal.extentCount
    rw [hsucc, hcount', if_pos hfirst, if_pos hsize]

section Step

variable {lib : NvmLibrary} {dimms : List Dimm}

/-- The DIMMs of a set have at least a GiB left, and so does the share of each of them. -/
private theorem one_giB_le_share
    (hcapacity : (dimms.map fun d => d.capacityBytes.toNat).sum < 2 ^ 64)
    {goals : Goals} {set : List Dimm} (hnd : (set.map Dimm.uid).Nodup) (hsub : set ⊆ dimms)
    (hgoals : ∀ d ∈ set, AppDirectGoal 0 d.capacityBytes (goals d.uid))
    (havailable : ∀ d ∈ set, hasUnallocatedCapacity goals d = true)
    {bytes : UInt64} {included : List Dimm}
    (h : getLargestPerDimmSymmetricalBytes set goals (getRemainingBytesFromDimms set goals) =
      .ok (bytes, included)) : 2 ^ 30 ≤ bytes.toNat := by
  have hleft : ∀ d ∈ set,
      2 ^ 30 ≤ (getDimmUnallocatedGiBAlignedBytes d.capacityBytes (goals d.uid)).toNat ∧
        (getDimmUnallocatedGiBAlignedBytes d.capacityBytes (goals d.uid)).toNat ≤
          d.capacityBytes.toNat := by
    intro d hd
    have hgoal := hgoals d hd
    have hpos := UInt64.lt_iff_toNat_lt.mp (of_decide_eq_true (havailable d hd))
    have hwhole : wholeGiB d.capacityBytes = d.capacityBytes.toNat / 2 ^ 30 := rfl
    rw [UInt64.toNat_zero] at hpos
    rw [toNat_getDimmUnallocatedGiBAlignedBytes (hgoal.countedGiB ▸ hgoal.fits)] at hpos ⊢
    omega
  have hsum : (set.map fun d => d.capacityBytes.toNat).sum ≤
      (dimms.map fun d => d.capacityBytes.toNat).sum :=
    sum_map_le_sum_map_of_subset (List.Nodup.of_map _ hnd) hsub _
  have hle : (set.map fun d =>
      (getDimmUnallocatedGiBAlignedBytes d.capacityBytes (goals d.uid)).toNat).sum ≤
        (set.map fun d => d.capacityBytes.toNat).sum :=
    sum_map_le_sum_map_of_le fun d hd => (hleft d hd).2
  refine one_giB_le_symmetricalShare (fun d hd => (hleft d hd).1) (fun d hd => ?_) (by omega) h
  exact (hleft d hd).1.trans (hleft d hd).2

/-- After the interleaved sets of a socket the extents of its DIMMs are packed. -/
private theorem extentsPacked_socket (hdimms : (dimms.map Dimm.uid).Nodup)
    (hcapacity : (dimms.map fun d => d.capacityBytes.toNat).sum < 2 ^ 64)
    {socketDimms : List Dimm} (hnd : (socketDimms.map Dimm.uid).Nodup) (hsub : socketDimms ⊆ dimms)
    {state : AppDirectState}
    (hgoals : ∀ uid ∈ socketDimms.map Dimm.uid, GoalAt 0 dimms uid (state.goals uid))
    (hpacked : ∀ uid ∈ socketDimms.map Dimm.uid, (state.goals uid).ExtentsPacked) :
    ∀ uid ∈ socketDimms.map Dimm.uid,
      ((finalState (layoutInterleavedExtentOnSocket lib socketDimms state)).goals
        uid).ExtentsPacked := by
  have hinit : SocketInv dimms socketDimms state.goals
      (removeUnavailableDimmsFromList state.goals socketDimms) state :=
    ⟨List.filter_sublist, fun _ _ => rfl, fun d hd => (List.mem_filter.mp hd).2,
      fun uid huid d hd hud => (hgoals uid huid d hd hud).mono (Nat.zero_le 1), fun _ _ => rfl⟩
  have hpass : ∀ rem s next, (SocketInv dimms socketDimms state.goals rem s ∧
        ∀ uid ∈ socketDimms.map Dimm.uid, (s.goals uid).ExtentsPacked) →
      layoutSocketPass lib (rem, s) = .inl next →
      SocketInv dimms socketDimms state.goals next.1 next.2 ∧
        ∀ uid ∈ socketDimms.map Dimm.uid, (next.2.goals uid).ExtentsPacked := by
    rintro rem s ⟨rem', s'⟩ ⟨hinv, hs⟩ hstep
    obtain ⟨set, bytes, included, hpass, hnext, hshare⟩ := layoutSocketPass_share hstep
    dsimp only at hpass hnext ⊢
    have hinv' := hinv.pass hnd hsub hgoals hdimms hpass
    rw [hnext]
    refine ⟨hinv', fun uid huid => ?_⟩
    have hsubset : set ⊆ rem := hpass.set_sublist.subset
    have hndset : (set.map Dimm.uid).Nodup :=
      hnd.sublist ((hpass.set_sublist.trans hinv.sublist).map _)
    -- The members of the set have no extent yet.
    have hmember : ∀ d ∈ set, AppDirectGoal 0 d.capacityBytes (s.goals d.uid) := by
      intro d hd
      rw [hinv.pending d (hsubset hd)]
      have hsocket := hinv.sublist.subset (hsubset hd)
      exact hgoals d.uid (List.mem_map_of_mem hsocket) d (hsub hsocket) rfl
    have hbytes := one_giB_le_share hcapacity hndset
      (fun d hd => hsub (hinv.sublist.subset (hsubset hd))) hmember
      (fun d hd => hinv.available d (hsubset hd)) hshare
    obtain ⟨uids, format, rfl⟩ := layoutInterleaveSet_ok hpass.set_ne hpass.laid
    dsimp only
    by_cases hin : uid ∈ set.map Dimm.uid
    · obtain ⟨d, hd, rfl⟩ := List.mem_map.mp hin
      rw [updateAll_apply_of_mem hndset hd]
      exact extentsPacked_update (hs d.uid huid) ((hmember d hd).count_le.trans (Nat.zero_le 1))
        hbytes _ _ _
    · rw [updateAll_apply_of_notMem hin]
      exact hs uid huid
  obtain ⟨remaining, last, ⟨-, hlast⟩, hleave⟩ := layoutInterleavedExtentOnSocket_passRule lib
    socketDimms state (fun rem s => SocketInv dimms socketDimms state.goals rem s ∧
      ∀ uid ∈ socketDimms.map Dimm.uid, (s.goals uid).ExtentsPacked) ⟨hinit, hpacked⟩ hpass
  rw [finalState_of_layoutSocketPass_inr hleave]
  exact hlast

/-- After the interleaved sets the extents of all DIMMs are packed, however the sockets ended. -/
private theorem extentsPacked_interleaved (lib : NvmLibrary)
    (hnd : (dimms.map Dimm.uid).Nodup)
    (hcapacity : (dimms.map fun d => d.capacityBytes.toNat).sum < 2 ^ 64) (state : AppDirectState)
    (hgoals : ∀ uid ∈ dimms.map Dimm.uid,
      GoalAt 0 dimms uid (state.goals uid) ∧ (state.goals uid).ExtentsPacked) :
    ∀ uid ∈ dimms.map Dimm.uid,
      ((finalState (layoutInterleavedExtentOnRequestedDimms lib dimms state)).goals
        uid).ExtentsPacked := by
  have hperm := perm_flatMap_socket dimms
  have hndf := hperm.nodup_iff.mpr hnd
  intro uid huid
  refine (forM_footprint AppDirectState.goals (fun socket => socket.2.map Dimm.uid)
    (P := fun uid goal => GoalAt 0 dimms uid goal ∧ goal.ExtentsPacked)
    (Q := fun _ goal => goal.ExtentsPacked) hndf ?_ ?_ ?_ state ?_).1 uid (hperm.mem_iff.mpr huid)
  · exact fun uid goal h => h.2
  · exact fun socket _ => layoutInterleavedExtentOnSocket_touches
  · intro socket hsocket s hs
    exact extentsPacked_socket hnd hcapacity ((List.nodup_flatMap.mp hndf).1 socket hsocket)
      (fun d hd => mem_of_mem_groupByKey hsocket hd) (fun uid huid => (hs uid huid).1)
      fun uid huid => (hs uid huid).2
  · exact fun uid huid => hgoals uid (hperm.mem_iff.mp huid)

/-- What is left on a DIMM is a number of whole GiB, so its set is not empty. -/
private theorem extentsPacked_nonInterleavedDimm {dimm : Dimm}
    (hdimm : dimm ∈ dimms) (state : AppDirectState)
    (hgoal : GoalAt 1 dimms dimm.uid (state.goals dimm.uid))
    (hpacked : (state.goals dimm.uid).ExtentsPacked) :
    ((finalState (layoutNonInterleavedDimm lib dimm state)).goals dimm.uid).ExtentsPacked := by
  unfold layoutNonInterleavedDimm
  dsimp only
  split_ifs with hleft
  · split
    · exact hpacked
    · rename_i state' hlaid
      obtain ⟨uids, format, rfl⟩ := layoutInterleaveSet_ok (by simp) hlaid
      have hg := hgoal dimm hdimm rfl
      show ConfigGoal.ExtentsPacked (updateAll _ _ _ _ _)
      rw [updateAll_cons, updateAll_nil, Function.update_self]
      refine extentsPacked_update hpacked hg.count_le ?_ _ _ _
      have hwhole : wholeGiB (usableCapacityBytes dimm.capacityBytes) =
          wholeGiB dimm.capacityBytes := by
        unfold wholeGiB
        rw [toNat_usableCapacityBytes]
        unfold wholeGiB
        omega
      have hpos := UInt64.lt_iff_toNat_lt.mp hleft
      rw [UInt64.toNat_zero] at hpos
      rw [toNat_getDimmUnallocatedBytes (by rw [hwhole, hg.countedGiB]; exact hg.fits),
        toNat_usableCapacityBytes] at hpos ⊢
      omega
  · exact hpacked

/-- However the layout of the extent ends, the extents of every DIMM are packed. -/
theorem extentsPacked_layoutExtent (lib : NvmLibrary) (request : MemoryAllocationRequest)
    (hnd : (request.dimms.map Dimm.uid).Nodup)
    (hcapacity : (request.dimms.map fun d => d.capacityBytes.toNat).sum < 2 ^ 64)
    (state : AppDirectState)
    (hgoals : ∀ uid ∈ request.dimms.map Dimm.uid,
      GoalAt 0 request.dimms uid (state.goals uid) ∧ (state.goals uid).ExtentsPacked) :
    ∀ uid ∈ request.dimms.map Dimm.uid,
      ((finalState (layoutExtent lib request state)).goals uid).ExtentsPacked := by
  have hkeys : (request.dimms.flatMap fun d => [d.uid]) = request.dimms.map Dimm.uid :=
    List.map_eq_flatMap.symm
  -- The sets of one DIMM, from goals with at most one set.
  have hsingle : ∀ s : AppDirectState, (∀ uid ∈ request.dimms.map Dimm.uid,
      GoalAt 1 request.dimms uid (s.goals uid) ∧ (s.goals uid).ExtentsPacked) →
      ∀ uid ∈ request.dimms.map Dimm.uid,
        ((finalState (layoutUnallocatedCapacityWithNonInterleaved lib request.dimms s)).goals
          uid).ExtentsPacked := by
    intro s hs
    have hfoot := forM_footprint AppDirectState.goals (fun d : Dimm => [d.uid])
      (P := fun uid goal => GoalAt 1 request.dimms uid goal ∧ goal.ExtentsPacked)
      (Q := fun _ goal => goal.ExtentsPacked) (l := request.dimms)
      (f := layoutNonInterleavedDimm lib) (by rwa [hkeys]) (fun uid goal h => h.2)
      (fun d _ => layoutNonInterleavedDimm_touches d) (fun d hd s hs uid huid => ?_) s
      (by rwa [hkeys])
    · rw [hkeys] at hfoot
      exact hfoot.1
    · obtain rfl := List.mem_singleton.mp huid
      exact extentsPacked_nonInterleavedDimm hd s (hs _ huid).1 (hs _ huid).2
  unfold layoutExtent MemoryAllocationRequest.nonReservedDimms
  by_cases hinter : requestExtentIsInterleaved request = true
  · simp only [hinter, if_true]
    have hone := layoutInterleavedExtentOnRequestedDimms_goals lib hnd state
      fun uid huid => (hgoals uid huid).1
    have hpacked := extentsPacked_interleaved lib hnd hcapacity state hgoals
    rw [bind_apply]
    cases hrun : layoutInterleavedExtentOnRequestedDimms lib request.dimms state with
    | ok u s =>
      rw [hrun] at hone hpacked
      exact hsingle s fun uid huid => ⟨hone uid huid, hpacked uid huid⟩
    | error e s =>
      rw [hrun] at hpacked
      exact hpacked
  · simp only [hinter]
    exact hsingle state fun uid huid =>
      ⟨fun d hd hud => ((hgoals uid huid).1 d hd hud).mono (Nat.zero_le 1), (hgoals uid huid).2⟩

end Step

end LayoutStepAppDirect

/-! ### The shrink passes -/

/-- The number of sets of a goal is that of its extents. -/
def ConfigGoal.Counted (goal : ConfigGoal) : Prop := goal.appDirectCount.toNat = goal.extentCount

/-- A counted goal, with its second extent stranded or not. -/
private theorem ConfigGoal.Counted.setCount {goal : ConfigGoal} (h : goal.Counted) :
    SetCount (goal.appDirect1Size = 0 ∧ goal.appDirect2Size ≠ 0) goal := by
  unfold Counted extentCount at h
  have hcovers : ∀ n : UInt16, n.toNat ≤ goal.appDirectCount.toNat → goal.appDirectCount ≥ n :=
    fun n hn => UInt16.le_iff_toNat_le.mpr hn
  refine ⟨?_, fun hno => ⟨fun hfirst => hcovers 1 ?_, fun hsecond => hcovers 2 ?_⟩, ?_⟩
  · split_ifs at h <;> omega
  · rw [if_pos hfirst] at h
    show 1 ≤ _
    omega
  · have hfirst : goal.appDirect1Size ≠ 0 := fun hzero => hno ⟨hzero, hsecond⟩
    rw [if_pos hfirst, if_pos hsecond] at h
    show 2 ≤ _
    omega
  · rintro ⟨hfirst, hsecond⟩
    rw [if_neg (not_not.mpr hfirst), if_pos hsecond] at h
    exact ⟨h, hfirst, hsecond⟩

/-- A counted goal is packed exactly when its second extent is not stranded. -/
private theorem ConfigGoal.Counted.packed_iff {goal : ConfigGoal} (h : goal.Counted)
    {stranded : Prop} (hset : SetCount stranded goal) : goal.ExtentsPacked ↔ ¬ stranded := by
  constructor
  · rintro ⟨-, hpacked⟩ hstranded
    obtain ⟨-, hfirst, hsecond⟩ := hset.stranded hstranded
    have hpos := hpacked (UInt64.pos_iff_ne_zero.mpr hsecond)
    rw [hfirst] at hpos
    exact absurd hpos (by decide)
  · intro hno
    refine ⟨h, fun hsecond => ?_⟩
    have htwo := UInt16.le_iff_toNat_le.mp
      ((hset.covers hno).second (UInt64.pos_iff_ne_zero.mp hsecond))
    rw [h, extentCount] at htwo
    by_contra hfirst
    have hzero : goal.appDirect1Size = 0 := by
      by_contra hne
      exact hfirst (UInt64.pos_iff_ne_zero.mpr hne)
    rw [if_neg (not_not.mpr hzero)] at htwo
    change 2 ≤ 0 + _ at htwo
    split_ifs at htwo <;> omega

/-- Taking one off the number of sets when an extent is emptied. -/
private theorem toNat_count_emptied {count : UInt16} {others : ℕ} (h : count.toNat = 1 + others)
    (size : UInt64) : (if size = 0 then count - 1 else count).toNat =
      (if size ≠ 0 then 1 else 0) + others := by
  by_cases hempty : size = 0
  · rw [if_pos hempty, if_neg (not_not.mpr hempty), toNat_count_sub_one (by omega), h]
    omega
  · rw [if_neg hempty, if_pos hempty]
    exact h

/-- A visit to an extent that is not empty keeps the number of sets right. -/
private theorem ConfigGoal.Counted.reduceGoal {goal : ConfigGoal} (h : goal.Counted)
    {type : CapacityType} (hne : type.size goal ≠ 0) (share : UInt64) :
    (reduceGoal type share goal).Counted := by
  unfold Counted extentCount at h ⊢
  cases type with
  | appDirect1 =>
    change goal.appDirect1Size ≠ 0 at hne
    rw [if_pos hne] at h
    have hfirst : (IxpDimm.reduceGoal .appDirect1 share goal).appDirect1Size =
        takeShare goal.appDirect1Size share := killADIfSizeIsZero_appDirect1Size _ _
    have hsecond : (IxpDimm.reduceGoal .appDirect1 share goal).appDirect2Size =
        goal.appDirect2Size := killADIfSizeIsZero_appDirect2Size _ _
    rw [appDirectCount_reduceGoal (by decide), hfirst, hsecond]
    exact toNat_count_emptied h _
  | reservedAppDirectByOne =>
    change goal.appDirect1Size ≠ 0 at hne
    rw [if_pos hne] at h
    have hfirst : (IxpDimm.reduceGoal .reservedAppDirectByOne share goal).appDirect1Size =
        takeShare goal.appDirect1Size share := killADIfSizeIsZero_appDirect1Size _ _
    have hsecond : (IxpDimm.reduceGoal .reservedAppDirectByOne share goal).appDirect2Size =
        goal.appDirect2Size := killADIfSizeIsZero_appDirect2Size _ _
    rw [appDirectCount_reduceGoal (by decide), hfirst, hsecond]
    exact toNat_count_emptied h _
  | appDirect2 =>
    change goal.appDirect2Size ≠ 0 at hne
    rw [if_pos hne, Nat.add_comm] at h
    have hfirst : (IxpDimm.reduceGoal .appDirect2 share goal).appDirect1Size =
        goal.appDirect1Size := killADIfSizeIsZero_appDirect1Size _ _
    have hsecond : (IxpDimm.reduceGoal .appDirect2 share goal).appDirect2Size =
        takeShare goal.appDirect2Size share := killADIfSizeIsZero_appDirect2Size _ _
    rw [appDirectCount_reduceGoal (by decide), hfirst, hsecond, Nat.add_comm]
    exact toNat_count_emptied h _
  | twoLM => exact h

/-- A shrink pass keeps the number of sets right. -/
private theorem ConfigGoal.Counted.after (pass : ShrinkPass)
    (hnd : (pass.dimms.map Dimm.uid).Nodup) {uid : Uid} (h : (pass.goals uid).Counted) :
    (pass.after uid).Counted := by
  rcases after_cases pass hnd uid with ⟨-, hsame⟩ | ⟨-, hne, hafter⟩
  · rw [hsame]
    exact h
  · rw [hafter]
    exact h.reduceGoal hne pass.share

/-- The App Direct passes of a shrink keep the number of sets right. -/
private theorem ConfigGoal.Counted.shrinkPasses {dimms : List Dimm}
    (hnd : (dimms.map Dimm.uid).Nodup) (shrinkBy : UInt64) {goals : Goals} {uid : Uid}
    (h : (goals uid).Counted) :
    ((shrinkAD1 dimms (shrinkAD2 dimms shrinkBy goals).1
      (shrinkAD2 dimms shrinkBy goals).2).2 uid).Counted :=
  Counted.after ⟨.appDirect1, dimms, (shrinkAD2 dimms shrinkBy goals).1,
    (shrinkAD2 dimms shrinkBy goals).2⟩ hnd
    (Counted.after ⟨.appDirect2, dimms, shrinkBy, goals⟩ hnd h)

/-- The passes of the mapped memory limit keep the number of sets right. -/
private theorem ConfigGoal.Counted.limitPasses {exceeded : List (List Dimm × UInt64)}
    (hnd : ∀ socket ∈ exceeded, (socket.1.map Dimm.uid).Nodup) {goals : Goals} {uid : Uid}
    (h : (goals uid).Counted) :
    (exceeded.foldl (fun goals socket =>
      LayoutStepLimitTotalMappedMemory.shrinkLayoutGoals socket.1 socket.2 goals) goals
        uid).Counted := by
  induction exceeded generalizing goals with
  | nil => exact h
  | cons socket exceeded ih =>
    obtain ⟨dimms, shrinkBy⟩ := socket
    have hsocket := hnd _ List.mem_cons_self
    refine ih (fun s hs => hnd s (List.mem_cons_of_mem _ hs)) ?_
    exact Counted.after ⟨.twoLM, dimms, (shrinkAD1 dimms (shrinkAD2 dimms shrinkBy goals).1
      (shrinkAD2 dimms shrinkBy goals).2).1, (shrinkAD1 dimms (shrinkAD2 dimms shrinkBy goals).1
        (shrinkAD2 dimms shrinkBy goals).2).2⟩ hsocket (h.shrinkPasses hsocket shrinkBy)

/-! ### Along a build -/

namespace LayoutBuilder

variable (builder : LayoutBuilder) (request : MemoryAllocationRequest)

/-- The steps of a build before the reserved step. -/
def stepsBeforeReserved : List (LayoutM Unit) :=
  builder.warningGeneratingLayoutSteps request ++
    [LayoutStepMemory.execute builder.nvmLib request,
      LayoutStepAppDirect.execute builder.nvmLib request]

/-- The steps of a build before the mapped memory limit. -/
def stepsBeforeLimit : List (LayoutM Unit) :=
  builder.stepsBeforeReserved request ++ [LayoutStepReserved.execute request]

/-- The extents of all requested DIMMs are packed. -/
def AllPacked (layout : MemoryAllocationLayout) : Prop :=
  ∀ d ∈ request.dimms, (layout.goals d.uid).ExtentsPacked

/-- No App Direct pass that the build comes to empties a first extent and leaves a second one. -/
structure NoneStranded : Prop where
  /-- The passes of the reserved step, when it is reached and capacity is to be reserved. -/
  reserved : ∀ layout, runSteps (builder.stepsBeforeReserved request)
      (builder.initLayoutGoals request) = .ok () layout → request.reservedCapacityGiB > 0 →
    ∀ d ∈ request.dimms, ¬ Stranded d.uid
      (shrinkPasses request.nonReservedDimms request.reservedCapacityGiB layout.goals)
  /-- The passes of the mapped memory limit, when it is reached and accepts the sockets. -/
  limit : ∀ layout exceeded, runSteps (builder.stepsBeforeLimit request)
      (builder.initLayoutGoals request) = .ok () layout →
    LayoutStepLimitTotalMappedMemory.exceededSockets builder request layout = .ok exceeded →
    ∀ d ∈ request.dimms, ¬ Stranded d.uid (limitPasses exceeded layout.goals)

section Steps

variable {builder request}

/-- The goals of the memory phase have no extents. -/
theorem MemoryPhase.allPacked {layout : MemoryAllocationLayout}
    (h : MemoryPhase request.dimms layout) : AllPacked request layout := by
  intro d hd
  refine ⟨?_, fun hsecond => ?_⟩
  · rw [ConfigGoal.extentCount, (h d hd).count, (h d hd).first, (h d hd).second]
    rfl
  · rw [(h d hd).second] at hsecond
    exact absurd hsecond (by decide)

/-- The App Direct step packs the extents, however it ends. -/
private theorem allPacked_appDirect (hnd : (request.dimms.map Dimm.uid).Nodup)
    (hcapacity : (request.dimms.map fun d => d.capacityBytes.toNat).sum < 2 ^ 64)
    {layout : MemoryAllocationLayout} (h : MemoryPhase request.dimms layout) :
    AllPacked request
      (finalState (LayoutStepAppDirect.execute builder.nvmLib request layout)) := by
  have hstart : ∀ uid ∈ request.dimms.map Dimm.uid,
      LayoutStepAppDirect.GoalAt 0 request.dimms uid (layout.goals uid) ∧
        (layout.goals uid).ExtentsPacked := by
    intro uid huid
    obtain ⟨d, hd, rfl⟩ := List.mem_map.mp huid
    refine ⟨fun e he heq => ?_, h.allPacked d hd⟩
    rw [← heq]
    exact .of_memoryGoal (h e he)
  intro d hd
  rcases LayoutStepAppDirect.finalState_execute_goals builder.nvmLib request layout with
    hsame | ⟨nextInterleaveId, hlaid⟩
  · rw [hsame]
    exact h.allPacked d hd
  · rw [hlaid]
    exact LayoutStepAppDirect.extentsPacked_layoutExtent builder.nvmLib request hnd hcapacity
      ⟨layout.goals, nextInterleaveId⟩ hstart d.uid (List.mem_map_of_mem hd)

/-- Passes over packed extents keep them packed exactly when they leave none stranded. -/
private theorem packed_iff_not_stranded {goal goal' : ConfigGoal} (h : goal.ExtentsPacked)
    {uid : Uid} {passes : List ShrinkPass} (hcounted : goal'.Counted)
    (hset : ∀ stranded, SetCount stranded goal →
      SetCount ((stranded ∧ ∀ pass ∈ passes, ¬ pass.EmptiesSecond uid) ∨ Stranded uid passes)
        goal') : goal'.ExtentsPacked ↔ ¬ Stranded uid passes := by
  have hbefore : goal.Counted := h.count
  have hnot := (hbefore.packed_iff hbefore.setCount).mp h
  rw [hcounted.packed_iff (hset _ hbefore.setCount)]
  exact ⟨fun hno hs => hno (.inr hs), fun hno hs => hs.elim (fun hs => hnot hs.1) hno⟩

/-- The reserved step keeps the extents packed exactly when its passes leave none stranded. -/
private theorem allPacked_reserve_iff (hnd : (request.dimms.map Dimm.uid).Nodup)
    {layout : MemoryAllocationLayout} (h : AllPacked request layout) :
    AllPacked request (LayoutStepReserved.reserve request layout) ↔
      (request.reservedCapacityGiB > 0 → ∀ d ∈ request.dimms, ¬ Stranded d.uid
        (shrinkPasses request.nonReservedDimms request.reservedCapacityGiB layout.goals)) := by
  unfold AllPacked LayoutStepReserved.reserve
  dsimp only
  by_cases hreserved : request.reservedCapacityGiB > 0
  · rw [if_pos hreserved]
    have hdimm : ∀ d ∈ request.dimms,
        ((LayoutStepReserved.shrinkAppDirectPerReservedCapacity request.nonReservedDimms
          request.reservedCapacityGiB layout.goals d.uid).ExtentsPacked ↔ ¬ Stranded d.uid
            (shrinkPasses request.nonReservedDimms request.reservedCapacityGiB layout.goals)) :=
      fun d hd => packed_iff_not_stranded (h d hd)
        (ConfigGoal.Counted.shrinkPasses hnd _ (h d hd).count)
        fun _ hset => hset.shrinkPasses hnd _
    exact ⟨fun hpacked _ d hd => (hdimm d hd).mp (hpacked d hd),
      fun hno d hd => (hdimm d hd).mpr (hno hreserved d hd)⟩
  · rw [if_neg hreserved]
    exact ⟨fun _ hpos => absurd hpos hreserved, fun _ => h⟩

/-- The mapped memory limit keeps the extents packed exactly when its passes leave none stranded. -/
private theorem allPacked_limit_iff (hnd : (request.dimms.map Dimm.uid).Nodup)
    {layout : MemoryAllocationLayout} (h : AllPacked request layout)
    {exceeded : List (List Dimm × UInt64)}
    (hexceeded : LayoutStepLimitTotalMappedMemory.exceededSockets builder request layout =
      .ok exceeded) :
    AllPacked request (LayoutStepLimitTotalMappedMemory.limit request exceeded layout) ↔
      ∀ d ∈ request.dimms, ¬ Stranded d.uid (limitPasses exceeded layout.goals) := by
  have hndsocket : ∀ socket ∈ exceeded, (socket.1.map Dimm.uid).Nodup := fun socket hs =>
    hnd.sublist ((exceededSockets_sublist hexceeded hs).map _)
  unfold AllPacked
  rw [LayoutStepLimitTotalMappedMemory.limit_goals]
  refine forall₂_congr fun d hd => ?_
  exact packed_iff_not_stranded (h d hd)
    (ConfigGoal.Counted.limitPasses hndsocket (h d hd).count) fun _ hset =>
      hset.limitPasses hndsocket

end Steps

/-- The mapped memory limit keeps the extents packed when its passes strand none, however it
ends. -/
private theorem allPacked_limit (hnd : (request.dimms.map Dimm.uid).Nodup)
    (hnone : NoneStranded builder request) {layout : MemoryAllocationLayout}
    (hreached : runSteps (builder.stepsBeforeLimit request) (builder.initLayoutGoals request) =
      .ok () layout) (h : AllPacked request layout) :
    AllPacked request
      (finalState (LayoutStepLimitTotalMappedMemory.execute builder request layout)) := by
  unfold LayoutStepLimitTotalMappedMemory.execute
  split
  · exact h
  · rename_i exceeded hexceeded
    exact (allPacked_limit_iff hnd h hexceeded).mpr (hnone.limit layout exceeded hreached hexceeded)

/-- What holds after so many steps: the memory phase lasts for five of them, then the extents are
packed. -/
private def PackedAfter (request : MemoryAllocationRequest) (j : ℕ)
    (layout : MemoryAllocationLayout) : Prop :=
  (j ≤ 5 ∧ MemoryPhase request.dimms layout) ∨ (5 < j ∧ AllPacked request layout)

/-- A step that is reached takes what holds before it to what holds after it. -/
private theorem packedAfter_step (hnd : (request.dimms.map Dimm.uid).Nodup)
    (hcapacity : (request.dimms.map fun d => d.capacityBytes.toNat).sum < 2 ^ 64)
    (hnone : NoneStranded builder request) {j : ℕ} {step : LayoutM Unit}
    {layout : MemoryAllocationLayout} (hstep : (builder.layoutSteps request)[j]? = some step)
    (hreached : runSteps ((builder.layoutSteps request).take j) (builder.initLayoutGoals request) =
      .ok () layout) (hJ : PackedAfter request j layout) :
    PackedAfter request (j + 1) (finalState (step layout)) := by
  rw [layoutSteps_eq] at hstep
  have hlength : (builder.warningGeneratingLayoutSteps request ++
      [LayoutStepMemory.execute builder.nvmLib request]).length = 5 := rfl
  rcases Nat.lt_or_ge j 5 with hj | hj
  · -- The warnings and the memory step.
    rw [List.getElem?_append_left (hlength ▸ hj)] at hstep
    have hmem := List.mem_of_getElem? hstep
    rcases hJ with ⟨-, hphase⟩ | ⟨hlt, -⟩
    · refine .inl ⟨by omega, ?_⟩
      rcases List.mem_append.mp hmem with hmem | hmem
      · exact keeps_warningGeneratingLayoutSteps (fun _ _ h => h) builder request step hmem layout
          hphase
      · obtain rfl := List.mem_singleton.mp hmem
        exact LayoutStepMemory.execute_memoryGoals builder.nvmLib hnd layout hphase
    · omega
  · rw [List.getElem?_append_right (hlength ▸ hj), hlength] at hstep
    refine .inr ⟨by omega, ?_⟩
    rcases hJ with ⟨hle, hphase⟩ | ⟨hlt, hpacked⟩
    · obtain rfl : j = 5 := by omega
      obtain rfl := Option.some.inj hstep
      exact allPacked_appDirect hnd hcapacity hphase
    · have hcases : j = 6 ∨ j = 7 ∨ j = 8 ∨ 9 ≤ j := by omega
      rcases hcases with rfl | rfl | rfl | hge
      · obtain rfl := Option.some.inj hstep
        rw [finalState_reserved]
        exact (allPacked_reserve_iff hnd hpacked).mpr (hnone.reserved layout hreached)
      · obtain rfl := Option.some.inj hstep
        exact allPacked_limit builder request hnd hnone hreached hpacked
      · obtain rfl := Option.some.inj hstep
        exact keeps_checkRequestLayoutDeviation (fun _ _ h => h) request layout hpacked
      · rw [List.getElem?_eq_none (by simp only [List.length_cons, List.length_nil]; omega)] at hstep
        cases hstep

/-- The pair of DIMMs of 5 GiB has first extents only, so none is stranded by the reserve. -/
private theorem noneStranded_pair : NoneStranded plainBuilder (pairRequest 2) := by
  refine ⟨fun layout hrun _ => ?_, fun layout exceeded hrun hexceeded => ?_⟩
  · have hreached : runSteps (plainBuilder.stepsBeforeReserved (pairRequest 2))
        (plainBuilder.initLayoutGoals (pairRequest 2)) = .ok ()
          (finalState (runSteps (plainBuilder.stepsBeforeReserved (pairRequest 2))
            (plainBuilder.initLayoutGoals (pairRequest 2)))) := rfl
    obtain ⟨-, rfl⟩ := EStateM.Result.ok.inj (hrun.symm.trans hreached)
    decide +kernel
  · have hreached : runSteps (plainBuilder.stepsBeforeLimit (pairRequest 2))
        (plainBuilder.initLayoutGoals (pairRequest 2)) = .ok ()
          (finalState (runSteps (plainBuilder.stepsBeforeLimit (pairRequest 2))
            (plainBuilder.initLayoutGoals (pairRequest 2)))) := rfl
    obtain ⟨-, rfl⟩ := EStateM.Result.ok.inj (hrun.symm.trans hreached)
    obtain rfl : [] = exceeded := Except.ok.inj (.trans rfl hexceeded)
    exact fun d _ => not_false

end LayoutBuilder

end IxpDimm
