import IxpDimm.MemoryAllocator.StepAppDirect
import IxpDimm.MemoryAllocator.StepMemory

/-!
# The goals during the App Direct step

For DIMMs with distinct uids the step hands out no more than a DIMM has: a set is laid out on DIMMs
that are not in a set yet, with a share that fits on each of them, and the set of its own that a
DIMM gets afterwards takes exactly what is left.  The invariant of a goal carries the number of sets
it can have so far, which is what makes the capacity accounting see all of its extents.
-/

namespace IxpDimm

open Foundation

namespace LayoutStepAppDirect

/-- A goal of the App Direct step with at most `n` sets: it fits on its DIMM and its number of sets
covers its extents. -/
structure AppDirectGoal (n : ℕ) (cap : UInt64) (goal : ConfigGoal) : Prop where
  /-- The goal fits on the DIMM. -/
  fits : goal.totalGiB ≤ wholeGiB cap
  /-- The extents are counted. -/
  covers : goal.CountCovers
  /-- There are at most `n` sets. -/
  count_le : goal.appDirectCount.toNat ≤ n

/-- A larger bound on the number of sets is a weaker statement. -/
theorem AppDirectGoal.mono {m n : ℕ} (hmn : m ≤ n) {cap : UInt64} {goal : ConfigGoal}
    (h : AppDirectGoal m cap goal) : AppDirectGoal n cap goal :=
  ⟨h.fits, h.covers, h.count_le.trans hmn⟩

/-- The accounting is exact for such a goal. -/
theorem AppDirectGoal.countedGiB {n : ℕ} {cap : UInt64} {goal : ConfigGoal}
    (h : AppDirectGoal n cap goal) : goal.countedGiB = goal.totalGiB :=
  goal.countedGiB_eq_totalGiB_iff.mpr h.covers

/-- The App Direct step starts from the goals the memory step leaves. -/
theorem AppDirectGoal.of_memoryGoal {cap : UInt64} {goal : ConfigGoal}
    (h : LayoutStepMemory.MemoryGoal cap goal) : AppDirectGoal 0 cap goal := by
  refine ⟨?_, ⟨fun hne => absurd h.first hne, fun hne => absurd h.second hne⟩, by simp [h.count]⟩
  rw [h.totalGiB]
  exact h.fits

/-- A goal with at most one set takes another one that fits on what its DIMM has left. -/
theorem AppDirectGoal.update {n : ℕ} (hn : n ≤ 1) {cap : UInt64} {goal : ConfigGoal}
    (h : AppDirectGoal n cap goal) {bytes : UInt64}
    (hbytes : goal.totalGiB + bytes.toNat / 2 ^ 30 ≤ wholeGiB cap) (setId : UInt16)
    (uids : List Uid) (format : InterleaveFormat) :
    AppDirectGoal (n + 1) cap (updateGoalWithInterleaveSet setId bytes uids format goal) := by
  have hcount := h.count_le
  have hsucc : (goal.appDirectCount + 1).toNat = goal.appDirectCount.toNat + 1 := by
    rw [UInt16.toNat_add]
    exact Nat.mod_eq_of_lt (by show goal.appDirectCount.toNat + 1 < 2 ^ 16; omega)
  have hone : goal.appDirectCount + 1 = 1 ↔ goal.appDirectCount.toNat = 0 := by
    rw [← UInt16.toNat_inj, hsucc]
    show _ + 1 = 1 ↔ _
    omega
  have hfirst : goal.appDirectCount.toNat = 0 → goal.appDirect1Size = 0 := fun hzero => by
    by_contra hne
    have hge := UInt16.le_iff_toNat_le.mp (h.covers.first hne)
    have : (1 : UInt16).toNat = 1 := rfl
    omega
  have hsecond : goal.appDirect2Size = 0 := by
    by_contra hne
    have hge := UInt16.le_iff_toNat_le.mp (h.covers.second hne)
    have : (2 : UInt16).toNat = 2 := rfl
    omega
  unfold ConfigGoal.totalGiB at hbytes
  unfold updateGoalWithInterleaveSet
  split_ifs with hslot
  · have hzero := hone.mp hslot
    refine ⟨?_, ⟨fun _ => ?_, fun hne => absurd hsecond hne⟩, ?_⟩
    · show goal.memorySize.toNat + (bytesToConfigGoalSize bytes).toNat +
        goal.appDirect2Size.toNat ≤ _
      rw [toNat_bytesToConfigGoalSize]
      omega
    · show goal.appDirectCount + 1 ≥ 1
      rw [ge_iff_le, UInt16.le_iff_toNat_le, hsucc]
      exact Nat.le_add_left _ _
    · show (goal.appDirectCount + 1).toNat ≤ n + 1
      omega
  · have hpos : goal.appDirectCount.toNat ≠ 0 := fun hzero => hslot (hone.mpr hzero)
    rw [hsecond, UInt64.toNat_zero] at hbytes
    refine ⟨?_, ⟨fun _ => ?_, fun _ => ?_⟩, ?_⟩
    · show goal.memorySize.toNat + goal.appDirect1Size.toNat +
        (bytesToConfigGoalSize bytes).toNat ≤ _
      rw [toNat_bytesToConfigGoalSize]
      omega
    · show goal.appDirectCount + 1 ≥ 1
      rw [ge_iff_le, UInt16.le_iff_toNat_le, hsucc]
      exact Nat.le_add_left _ _
    · show goal.appDirectCount + 1 ≥ 2
      rw [ge_iff_le, UInt16.le_iff_toNat_le, hsucc]
      show 2 ≤ _
      omega
    · show (goal.appDirectCount + 1).toNat ≤ n + 1
      omega

/-- The goal kept for a uid is one of the step, for every requested DIMM with that uid. -/
def GoalAt (n : ℕ) (dimms : List Dimm) (uid : Uid) (goal : ConfigGoal) : Prop :=
  ∀ d ∈ dimms, d.uid = uid → AppDirectGoal n d.capacityBytes goal

/-! ### The interleaved sets -/

section Interleaved

variable {lib : NvmLibrary} {dimms : List Dimm}

/-- The DIMMs of a socket while its sets are laid out: those still to be covered are in no set and
have capacity left. -/
structure SocketInv (dimms socketDimms : List Dimm) (before : Goals) (remaining : List Dimm)
    (state : AppDirectState) : Prop where
  /-- The DIMMs to cover are DIMMs of the socket. -/
  sublist : remaining.Sublist socketDimms
  /-- The DIMMs to cover have the goal they had before. -/
  pending : ∀ d ∈ remaining, state.goals d.uid = before d.uid
  /-- The DIMMs to cover have capacity left. -/
  available : ∀ d ∈ remaining, hasUnallocatedCapacity state.goals d = true
  /-- Every DIMM of the socket has at most one set. -/
  goals : ∀ uid ∈ socketDimms.map Dimm.uid, GoalAt 1 dimms uid (state.goals uid)
  /-- The goals of other DIMMs are as before. -/
  frame : ∀ uid, uid ∉ socketDimms.map Dimm.uid → state.goals uid = before uid

/-- A pass over a socket keeps its invariant. -/
theorem SocketInv.pass {socketDimms remaining set : List Dimm} {before : Goals}
    {state state' : AppDirectState} {bytes : UInt64}
    (hnd : (socketDimms.map Dimm.uid).Nodup) (hsub : socketDimms ⊆ dimms)
    (hbefore : ∀ uid ∈ socketDimms.map Dimm.uid, GoalAt 0 dimms uid (before uid))
    (hdimms : (dimms.map Dimm.uid).Nodup)
    (hinv : SocketInv dimms socketDimms before remaining state)
    (hpass : SetPass lib remaining state set bytes state') :
    SocketInv dimms socketDimms before (removeDimmsFromList set remaining) state' := by
  have hndr : (remaining.map Dimm.uid).Nodup := hnd.sublist (hinv.sublist.map _)
  have hnds : (set.map Dimm.uid).Nodup := hndr.sublist (hpass.set_sublist.map _)
  obtain ⟨uids, format, rfl⟩ := layoutInterleaveSet_ok hpass.set_ne hpass.laid
  obtain ⟨included, hshare⟩ := hpass.share
  have hother : ∀ uid, uid ∉ set.map Dimm.uid → updateAll Dimm.uid (fun _ =>
      updateGoalWithInterleaveSet state.nextInterleaveId bytes uids format) set state.goals uid =
      state.goals uid := fun uid huid => updateAll_apply_of_notMem huid _
  have hleft : ∀ d ∈ removeDimmsFromList set remaining, d ∈ remaining ∧ d.uid ∉ set.map Dimm.uid :=
    fun d hd => ⟨(removeDimmsFromList_sublist set remaining).subset hd,
      uid_notMem_of_mem_removeDimmsFromList hndr hd⟩
  constructor
  · exact (removeDimmsFromList_sublist set remaining).trans hinv.sublist
  · intro d hd
    obtain ⟨hrem, hnot⟩ := hleft d hd
    exact (hother d.uid hnot).trans (hinv.pending d hrem)
  · intro d hd
    obtain ⟨hrem, hnot⟩ := hleft d hd
    rw [hasUnallocatedCapacity_congr (hother d.uid hnot)]
    exact hinv.available d hrem
  · intro uid huid
    by_cases hin : uid ∈ set.map Dimm.uid
    · obtain ⟨e, he, rfl⟩ := List.mem_map.mp hin
      have her := hpass.set_sublist.subset he
      have hed : e ∈ dimms := hsub (hinv.sublist.subset her)
      intro d hd hud
      obtain rfl : d = e := List.inj_on_of_nodup_map hdimms hd hed hud
      dsimp only
      rw [updateAll_apply_of_mem hnds he]
      have hgoal : AppDirectGoal 0 d.capacityBytes (state.goals d.uid) := by
        rw [hinv.pending d her]
        exact hbefore d.uid huid d hd rfl
      refine hgoal.update (Nat.zero_le 1) ?_ _ _ _
      -- the member has capacity left, so it is one of those the share fits on
      have hinc : d ∈ included := by
        rw [hshare.included_eq, List.mem_filter]
        exact ⟨he, hinv.available d her⟩
      have hle := hshare.le_unallocated d hinc
      have hfits := hgoal.fits
      rw [toNat_getDimmUnallocatedGiBAlignedBytes (hgoal.countedGiB ▸ hgoal.fits),
        hgoal.countedGiB] at hle
      omega
    · dsimp only
      rw [hother uid hin]
      exact hinv.goals uid huid
  · intro uid huid
    have hin : uid ∉ set.map Dimm.uid := fun hin =>
      huid (((hpass.set_sublist.trans hinv.sublist).map Dimm.uid).subset hin)
    exact (hother uid hin).trans (hinv.frame uid huid)

/-- The invariant of a socket holds where its loop is left. -/
theorem layoutInterleavedExtentOnSocket_inv (lib : NvmLibrary) {socketDimms : List Dimm}
    {state : AppDirectState} (hdimms : (dimms.map Dimm.uid).Nodup) (hnd : (socketDimms.map Dimm.uid).Nodup)
    (hsub : socketDimms ⊆ dimms)
    (hgoals : ∀ uid ∈ socketDimms.map Dimm.uid, GoalAt 0 dimms uid (state.goals uid)) :
    ∃ remaining last, SocketInv dimms socketDimms state.goals remaining last ∧
      layoutSocketPass lib (remaining, last) =
        .inr (layoutInterleavedExtentOnSocket lib socketDimms state) := by
  refine layoutInterleavedExtentOnSocket_rule lib socketDimms state
    (SocketInv dimms socketDimms state.goals) ?_ fun rem s set bytes s' hinv hpass =>
      hinv.pass hnd hsub hgoals hdimms hpass
  constructor
  · exact List.filter_sublist
  · exact fun _ _ => rfl
  · exact fun d hd => (List.mem_filter.mp hd).2
  · exact fun uid huid d hd hud => (hgoals uid huid d hd hud).mono (Nat.zero_le 1)
  · exact fun _ _ => rfl

/-- A pass that leaves the loop leaves the state as it is. -/
theorem finalState_of_layoutSocketPass_inr {remaining : List Dimm} {state : AppDirectState}
    {r : EStateM.Result LayoutException AppDirectState Unit}
    (h : layoutSocketPass lib (remaining, state) = .inr r) : finalState r = state := by
  rcases layoutSocketPass_inr h with ⟨-, rfl⟩ | ⟨e, rfl, -⟩ | ⟨-, rfl, -⟩
  · rfl
  · rfl
  · rfl

/-- A socket changes the goals of its own DIMMs only. -/
theorem layoutInterleavedExtentOnSocket_touches {socketDimms : List Dimm} :
    Touches AppDirectState.goals (socketDimms.map Dimm.uid)
      (layoutInterleavedExtentOnSocket lib socketDimms) := by
  intro state uid huid
  have hpass : ∀ rem s set bytes s', (rem ⊆ socketDimms ∧ s.goals uid = state.goals uid) →
      SetPass lib rem s set bytes s' →
      removeDimmsFromList set rem ⊆ socketDimms ∧ s'.goals uid = state.goals uid := by
    rintro rem s set bytes s' ⟨hrem, hs⟩ hpass
    refine ⟨fun d hd => hrem ((removeDimmsFromList_sublist set rem).subset hd), ?_⟩
    obtain ⟨uids, format, rfl⟩ := layoutInterleaveSet_ok hpass.set_ne hpass.laid
    refine (updateAll_apply_of_notMem (fun hin => huid ?_) _).trans hs
    obtain ⟨d, hd, rfl⟩ := List.mem_map.mp hin
    exact List.mem_map_of_mem (hrem (hpass.set_sublist.subset hd))
  obtain ⟨remaining, last, ⟨-, hframe⟩, hlast⟩ := layoutInterleavedExtentOnSocket_rule lib
    socketDimms state (fun rem s => rem ⊆ socketDimms ∧ s.goals uid = state.goals uid)
    ⟨List.filter_sublist.subset, rfl⟩ hpass
  rw [finalState_of_layoutSocketPass_inr hlast]
  exact hframe

/-- The keys of the sockets are the keys of the DIMMs. -/
theorem perm_flatMap_socket (dimms : List Dimm) :
    ((groupByKey Dimm.socket dimms).flatMap fun socket => socket.2.map Dimm.uid).Perm
      (dimms.map Dimm.uid) := by
  rw [← List.map_flatMap]
  exact (perm_flatMap_groupByKey Dimm.socket dimms).map Dimm.uid

/-- After the interleaved sets every DIMM has at most one set, however the sockets ended. -/
theorem layoutInterleavedExtentOnRequestedDimms_goals (lib : NvmLibrary)
    (hnd : (dimms.map Dimm.uid).Nodup) (state : AppDirectState)
    (hgoals : ∀ uid ∈ dimms.map Dimm.uid, GoalAt 0 dimms uid (state.goals uid)) :
    ∀ uid ∈ dimms.map Dimm.uid, GoalAt 1 dimms uid
      ((finalState (layoutInterleavedExtentOnRequestedDimms lib dimms state)).goals uid) := by
  have hperm := perm_flatMap_socket dimms
  have hndf := hperm.nodup_iff.mpr hnd
  intro uid huid
  refine (forM_footprint AppDirectState.goals (fun socket => socket.2.map Dimm.uid)
    (P := GoalAt 0 dimms) (Q := GoalAt 1 dimms) hndf ?_ ?_ ?_ state ?_).1 uid
    (hperm.mem_iff.mpr huid)
  · exact fun uid goal h d hd hud => (h d hd hud).mono (Nat.zero_le 1)
  · exact fun socket _ => layoutInterleavedExtentOnSocket_touches
  · intro socket hsocket s hs uid huid
    have hndsocket : (socket.2.map Dimm.uid).Nodup := (List.nodup_flatMap.mp hndf).1 socket hsocket
    obtain ⟨remaining, last, hinv, hlast⟩ := layoutInterleavedExtentOnSocket_inv lib hnd
      hndsocket (fun d hd => mem_of_mem_groupByKey hsocket hd) hs
    rw [finalState_of_layoutSocketPass_inr hlast]
    exact hinv.goals uid huid
  · exact fun uid huid => hgoals uid (hperm.mem_iff.mp huid)

end Interleaved

/-! ### The sets of one DIMM -/

section NonInterleaved

variable {lib : NvmLibrary} {dimms : List Dimm}

/-- Laying out what is left on a DIMM changes its own goal only. -/
theorem layoutNonInterleavedDimm_touches (dimm : Dimm) :
    Touches AppDirectState.goals [dimm.uid] (layoutNonInterleavedDimm lib dimm) := by
  intro state uid huid
  unfold layoutNonInterleavedDimm
  dsimp only
  split_ifs
  · split
    · rfl
    · rename_i state' hlaid
      obtain ⟨uids, format, rfl⟩ := layoutInterleaveSet_ok (by simp) hlaid
      exact updateAll_apply_of_notMem huid _
  · rfl

/-- What is left on a DIMM fits on it. -/
theorem layoutNonInterleavedDimm_goalAt (hnd : (dimms.map Dimm.uid).Nodup) {dimm : Dimm}
    (hdimm : dimm ∈ dimms) (state : AppDirectState)
    (hgoal : GoalAt 1 dimms dimm.uid (state.goals dimm.uid)) :
    GoalAt 2 dimms dimm.uid
      ((finalState (layoutNonInterleavedDimm lib dimm state)).goals dimm.uid) := by
  have hsame : GoalAt 2 dimms dimm.uid (state.goals dimm.uid) :=
    fun d hd hud => (hgoal d hd hud).mono (by omega)
  unfold layoutNonInterleavedDimm
  dsimp only
  split_ifs
  · split
    · exact hsame
    · rename_i state' hlaid
      obtain ⟨uids, format, rfl⟩ := layoutInterleaveSet_ok (by simp) hlaid
      intro d hd hud
      obtain rfl : d = dimm := List.inj_on_of_nodup_map hnd hd hdimm hud
      have hg := hgoal d hd rfl
      show AppDirectGoal 2 d.capacityBytes (updateAll _ _ _ _ _)
      rw [updateAll_cons, updateAll_nil, Function.update_self]
      refine hg.update le_rfl ?_ _ _ _
      have hwhole : wholeGiB (usableCapacityBytes d.capacityBytes) =
          wholeGiB d.capacityBytes := by
        unfold wholeGiB
        rw [toNat_usableCapacityBytes]
        unfold wholeGiB
        omega
      have hfits := hg.fits
      rw [toNat_getDimmUnallocatedBytes (by rw [hwhole, hg.countedGiB]; exact hfits),
        toNat_usableCapacityBytes, hg.countedGiB]
      omega
  · exact hsame

/-- After the sets of one DIMM every DIMM has at most two sets. -/
theorem layoutUnallocatedCapacityWithNonInterleaved_goals (hnd : (dimms.map Dimm.uid).Nodup)
    (state : AppDirectState)
    (hgoals : ∀ uid ∈ dimms.map Dimm.uid, GoalAt 1 dimms uid (state.goals uid)) :
    ∀ uid ∈ dimms.map Dimm.uid, GoalAt 2 dimms uid
      ((finalState (layoutUnallocatedCapacityWithNonInterleaved lib dimms state)).goals uid) := by
  have hkeys : (dimms.flatMap fun d => [d.uid]) = dimms.map Dimm.uid :=
    List.map_eq_flatMap.symm
  have hfoot := forM_footprint AppDirectState.goals (fun d : Dimm => [d.uid])
    (P := GoalAt 1 dimms) (Q := GoalAt 2 dimms) (l := dimms) (f := layoutNonInterleavedDimm lib)
    (by rwa [hkeys]) (fun uid goal h d hd hud => (h d hd hud).mono (by omega))
    (fun d _ => layoutNonInterleavedDimm_touches d) (fun d hd s hs uid huid => ?_) state
    (by rwa [hkeys])
  · rw [hkeys] at hfoot
    exact hfoot.1
  · obtain rfl := List.mem_singleton.mp huid
    exact layoutNonInterleavedDimm_goalAt hnd hd s (hs _ huid)

end NonInterleaved

/-! ### The step as a whole -/

/-- However the layout of the extent ends, every DIMM has a goal of the step. -/
theorem layoutExtent_goals (lib : NvmLibrary) (request : MemoryAllocationRequest)
    (hnd : (request.dimms.map Dimm.uid).Nodup) (state : AppDirectState)
    (hgoals : ∀ uid ∈ request.dimms.map Dimm.uid, GoalAt 0 request.dimms uid (state.goals uid)) :
    ∀ uid ∈ request.dimms.map Dimm.uid, GoalAt 2 request.dimms uid
      ((finalState (layoutExtent lib request state)).goals uid) := by
  unfold layoutExtent MemoryAllocationRequest.nonReservedDimms
  by_cases hinter : requestExtentIsInterleaved request = true
  · simp only [hinter, if_true]
    have hone := layoutInterleavedExtentOnRequestedDimms_goals lib hnd state hgoals
    rw [bind_apply]
    cases hrun : layoutInterleavedExtentOnRequestedDimms lib request.dimms state with
    | ok u s =>
      rw [hrun] at hone
      exact layoutUnallocatedCapacityWithNonInterleaved_goals hnd s hone
    | error e s =>
      rw [hrun] at hone
      exact fun uid huid d hd hud => (hone uid huid d hd hud).mono (by omega)
  · simp only [hinter]
    exact layoutUnallocatedCapacityWithNonInterleaved_goals hnd state
      fun uid huid d hd hud => (hgoals uid huid d hd hud).mono (by omega)

end LayoutStepAppDirect

end IxpDimm
