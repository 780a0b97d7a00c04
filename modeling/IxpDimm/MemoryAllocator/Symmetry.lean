import IxpDimm.MemoryAllocator.BuildRun

/-!
# Interleave sets and the sizes of their members

An interleave set is symmetric when its members have extents of the same size.  The App Direct step
gives every set a fresh id and the same size on every member, as long as the 16-bit ids do not run
around.  A shrink pass takes the same share from every DIMM it visits, but it stops visiting when
the amount to shrink is used up: a set some of whose members were visited and others not is left
with different sizes.  So the sets stay symmetric exactly through passes that visit the members of a
set equally often.
-/

namespace IxpDimm

open Foundation

/-! ### The sets a goal carries -/

/-- The two places for an App Direct extent in a goal. -/
inductive Slot
  | first | second
  deriving DecidableEq, Repr

/-- The size of the extent in a slot. -/
def ConfigGoal.slotSize (goal : ConfigGoal) : Slot → UInt64
  | .first => goal.appDirect1Size
  | .second => goal.appDirect2Size

/-- The interleave set id of the extent in a slot. -/
def ConfigGoal.slotSetId (goal : ConfigGoal) : Slot → UInt16
  | .first => goal.appDirect1SetId
  | .second => goal.appDirect2SetId

/-- A slot carries a set unless its id and its size are both zero, as in a zeroed goal. -/
def ConfigGoal.Carries (goal : ConfigGoal) (slot : Slot) : Prop :=
  goal.slotSetId slot ≠ 0 ∨ goal.slotSize slot ≠ 0

instance {p : Slot → Prop} [DecidablePred p] : Decidable (∀ slot, p slot) :=
  decidable_of_iff (p .first ∧ p .second) ⟨fun h slot => by cases slot; exacts [h.1, h.2],
    fun h => ⟨h .first, h .second⟩⟩

instance (goal : ConfigGoal) (slot : Slot) : Decidable (goal.Carries slot) :=
  inferInstanceAs (Decidable (_ ∨ _))

/-- Any two of the DIMMs whose goals carry the same interleave set id have the same App Direct size
for that set. -/
def SymmetricSets (dimms : List Dimm) (goals : Goals) : Prop :=
  ∀ d ∈ dimms, ∀ e ∈ dimms, ∀ i j,
    (goals d.uid).Carries i → (goals e.uid).Carries j →
    (goals d.uid).slotSetId i = (goals e.uid).slotSetId j →
    (goals d.uid).slotSize i = (goals e.uid).slotSize j

instance (dimms : List Dimm) (goals : Goals) : Decidable (SymmetricSets dimms goals) :=
  inferInstanceAs (Decidable (∀ d ∈ dimms, ∀ e ∈ dimms, ∀ _ _ : Slot, _ → _ → _ → _))

/-- The slot whose size a kind of capacity stands for. -/
def CapacityType.slot : CapacityType → Option Slot
  | .appDirect1 | .reservedAppDirectByOne => some .first
  | .appDirect2 => some .second
  | .twoLM => none

/-! ### Laying out sets under fresh ids -/

namespace LayoutStepAppDirect

/-- The carried sets are the first `count` ones laid out from the id `start` on, and `size` gives
the size of each. -/
def Numbered (start : UInt16) (count : ℕ) (size : ℕ → UInt64) (goals : Goals) : Prop :=
  ∀ uid slot, (goals uid).Carries slot → ∃ n < count,
    (goals uid).slotSetId slot = start + UInt16.ofNat n ∧ (goals uid).slotSize slot = size n

/-- At most `bound` sets have been laid out since the id `start`. -/
def LaidOut (start : UInt16) (bound : ℕ) (state : AppDirectState) : Prop :=
  ∃ count size, count ≤ bound ∧ Numbered start count size state.goals ∧
    state.nextInterleaveId = start + UInt16.ofNat count

/-- More sets may have been laid out. -/
theorem LaidOut.mono {start : UInt16} {m n : ℕ} (hmn : m ≤ n) {state : AppDirectState}
    (h : LaidOut start m state) : LaidOut start n state := by
  obtain ⟨count, size, hle, hnum, hnext⟩ := h
  exact ⟨count, size, hle.trans hmn, hnum, hnext⟩

/-- A slot of an updated goal is as before or holds the new set. -/
private theorem slot_updateGoal (setId : UInt16) (bytes : UInt64) (uids : List Uid)
    (format : InterleaveFormat) (goal : ConfigGoal) (slot : Slot) :
    let goal' := updateGoalWithInterleaveSet setId bytes uids format goal
    (goal'.slotSetId slot = goal.slotSetId slot ∧ goal'.slotSize slot = goal.slotSize slot) ∨
      (goal'.slotSetId slot = setId ∧ goal'.slotSize slot = bytesToConfigGoalSize bytes) := by
  unfold updateGoalWithInterleaveSet
  cases slot <;> dsimp only [ConfigGoal.slotSetId, ConfigGoal.slotSize] <;> split_ifs <;> simp

/-- Laying out one set numbers one more. -/
theorem LaidOut.layoutInterleaveSet {lib : NvmLibrary} {start : UInt16} {bound : ℕ}
    {state state' : AppDirectState} (h : LaidOut start bound state) {dimms : List Dimm}
    (hne : dimms ≠ []) {bytes : UInt64}
    (hlaid : layoutInterleaveSet lib dimms bytes state = .ok state') :
    LaidOut start (bound + 1) state' := by
  obtain ⟨count, size, hle, hnum, hnext⟩ := h
  obtain ⟨uids, format, rfl⟩ := layoutInterleaveSet_ok hne hlaid
  refine ⟨count + 1, Function.update size count (bytesToConfigGoalSize bytes), by omega, ?_, ?_⟩
  · intro uid
    refine updateAll_forall (P := fun _ (goal : ConfigGoal) => ∀ slot, goal.Carries slot →
      ∃ n < count + 1, goal.slotSetId slot = start + UInt16.ofNat n ∧ goal.slotSize slot =
        Function.update size count (bytesToConfigGoalSize bytes) n) ?_ ?_ uid
    · intro d _ goal hgoal slot hcarries
      rcases slot_updateGoal state.nextInterleaveId bytes uids format goal slot with
        ⟨hid, hsize⟩ | ⟨hid, hsize⟩
      · rw [ConfigGoal.Carries, hid, hsize] at hcarries
        rw [hid, hsize]
        exact hgoal slot hcarries
      · exact ⟨count, Nat.lt_succ_self _, by rw [hid, hnext],
          by rw [hsize, Function.update_self]⟩
    · intro uid slot hcarries
      obtain ⟨n, hn, hid, hsize⟩ := hnum uid slot hcarries
      exact ⟨n, by omega, hid, by rw [Function.update_of_ne (by omega), hsize]⟩
  · show state.nextInterleaveId + 1 = _
    rw [hnext, UInt16.add_assoc]
    congr 1
    rw [← UInt16.toNat_inj]
    simp

/-- The sets of a socket are at most as many as its DIMMs. -/
private theorem LaidOut.socket (lib : NvmLibrary) {start : UInt16} {bound : ℕ}
    {state : AppDirectState} (h : LaidOut start bound state) (socketDimms : List Dimm) :
    LaidOut start (bound + socketDimms.length)
      (finalState (layoutInterleavedExtentOnSocket lib socketDimms state)) := by
  have hpass : ∀ rem s set bytes s',
      (∃ b, b + rem.length ≤ bound + socketDimms.length ∧ LaidOut start b s) →
      SetPass lib rem s set bytes s' →
      ∃ b, b + (removeDimmsFromList set rem).length ≤ bound + socketDimms.length ∧
        LaidOut start b s' := by
    rintro rem s set bytes s' ⟨b, hb, hs⟩ hpass
    have hlt := length_removeDimmsFromList_lt hpass.set_ne hpass.set_sublist.subset
    exact ⟨b + 1, by omega, hs.layoutInterleaveSet hpass.set_ne hpass.laid⟩
  obtain ⟨rem, last, ⟨b, hb, hs⟩, hlast⟩ := layoutInterleavedExtentOnSocket_rule lib socketDimms
    state (fun rem s => ∃ b, b + rem.length ≤ bound + socketDimms.length ∧ LaidOut start b s)
    ⟨bound, Nat.add_le_add_left List.filter_sublist.length_le _, h⟩ hpass
  rw [finalState_of_layoutSocketPass_inr hlast]
  exact hs.mono (by omega)

/-- What is left on a DIMM is at most one set. -/
private theorem LaidOut.dimm (lib : NvmLibrary) {start : UInt16} {bound : ℕ}
    {state : AppDirectState} (h : LaidOut start bound state) (dimm : Dimm) :
    LaidOut start (bound + 1) (finalState (layoutNonInterleavedDimm lib dimm state)) := by
  unfold layoutNonInterleavedDimm
  dsimp only
  split_ifs
  · split
    · exact h.mono (Nat.le_succ _)
    · rename_i hlaid
      exact h.layoutInterleaveSet (by simp) hlaid
  · exact h.mono (Nat.le_succ _)

/-- The step lays out at most two sets for every DIMM. -/
theorem LaidOut.layoutExtent (lib : NvmLibrary) {start : UInt16} {state : AppDirectState}
    (h : LaidOut start 0 state) (request : MemoryAllocationRequest) :
    LaidOut start (2 * request.dimms.length) (finalState (layoutExtent lib request state)) := by
  have hsockets : ((groupByKey Dimm.socket request.dimms).map fun socket => socket.2.length).sum =
      request.dimms.length := by
    rw [← (perm_flatMap_groupByKey Dimm.socket request.dimms).length_eq, List.length_flatMap]
  have hinter := forM_cost (I := LaidOut start) (fun m n s hmn => LaidOut.mono hmn)
    (fun socket => socket.2.length)
    (fun (socket : UInt16 × List Dimm) (_ : socket ∈ groupByKey Dimm.socket request.dimms) n s hs =>
      LaidOut.socket lib hs socket.2) 0 state h
  rw [hsockets, Nat.zero_add] at hinter
  change LaidOut start _ (finalState
    (layoutInterleavedExtentOnRequestedDimms lib request.dimms state)) at hinter
  have hsingle : ∀ n s, LaidOut start n s → LaidOut start (n + request.dimms.length)
      (finalState (layoutUnallocatedCapacityWithNonInterleaved lib request.dimms s)) := by
    intro n s hs
    have hcost := forM_cost (I := LaidOut start) (fun m n s hmn => LaidOut.mono hmn)
      (fun _ => 1) (fun (d : Dimm) (_ : d ∈ request.dimms) n s hs => LaidOut.dimm lib hs d) n s hs
    have hsum : (request.dimms.map fun _ => 1).sum = request.dimms.length := by simp
    rw [hsum] at hcost
    exact hcost
  unfold LayoutStepAppDirect.layoutExtent MemoryAllocationRequest.nonReservedDimms
  by_cases hbyone : requestExtentIsInterleaved request = true
  · simp only [hbyone, if_true]
    rw [bind_apply]
    cases hrun : layoutInterleavedExtentOnRequestedDimms lib request.dimms state with
    | ok u s =>
      rw [hrun] at hinter
      exact (hsingle _ s hinter).mono (by omega)
    | error e s =>
      rw [hrun] at hinter
      exact hinter.mono (by omega)
  · simp only [hbyone]
    exact (hsingle 0 state h).mono (by omega)

/-- Sets whose ids have not run around are symmetric. -/
theorem LaidOut.symmetric {start : UInt16} {bound : ℕ} {state : AppDirectState}
    (h : LaidOut start bound state) (hbound : bound < 2 ^ 16) (dimms : List Dimm) :
    SymmetricSets dimms state.goals := by
  obtain ⟨count, size, hle, hnum, -⟩ := h
  intro d _ e _ i j hi hj hid
  obtain ⟨m, hm, hidm, hsizem⟩ := hnum d.uid i hi
  obtain ⟨n, hn, hidn, hsizen⟩ := hnum e.uid j hj
  rw [hidm, hidn, UInt16.add_right_inj, ← UInt16.toNat_inj, UInt16.toNat_ofNat',
    UInt16.toNat_ofNat', Nat.mod_eq_of_lt (by omega), Nat.mod_eq_of_lt (by omega)] at hid
  rw [hsizem, hsizen, hid]

end LayoutStepAppDirect

/-! ### Up to the App Direct step -/

namespace LayoutBuilder

/-- No goal carries a set. -/
def NoSets (goals : Goals) : Prop :=
  ∀ uid slot, (goals uid).slotSetId slot = 0 ∧ (goals uid).slotSize slot = 0

/-- Changing memory sizes along a list of DIMMs lays out no sets. -/
private theorem NoSets.updateAll_memory (size : Dimm → ConfigGoal → UInt64) (dimms : List Dimm)
    {goals : Goals} (h : NoSets goals) :
    NoSets (updateAll Dimm.uid (fun d goal => { goal with memorySize := size d goal }) dimms
      goals) := by
  intro uid
  refine updateAll_forall (P := fun _ (goal : ConfigGoal) => ∀ slot, goal.slotSetId slot = 0 ∧
    goal.slotSize slot = 0) (fun d _ goal hgoal slot => ?_) h uid
  have hslot := hgoal slot
  cases slot
  · exact hslot
  · exact hslot

/-- The memory step lays out no sets. -/
private theorem keeps_noSets_memory (lib : NvmLibrary) (request : MemoryAllocationRequest) :
    Keeps (fun layout => NoSets layout.goals) (LayoutStepMemory.execute lib request) := by
  refine LayoutStepMemory.keeps_execute lib NoSets ?_ ?_
  · intro requested goals goals' hgoals hlay
    unfold LayoutStepMemory.layoutMaximumSymmetricalBytesOnDimms at hlay
    split at hlay
    · cases hlay
    · rename_i bytes included _
      obtain rfl := Except.ok.inj hlay
      exact hgoals.updateAll_memory (fun _ goal =>
        goal.memorySize + bytesToConfigGoalSize bytes) included
  · exact fun goals hgoals =>
      hgoals.updateAll_memory (LayoutStepMemory.getAlignedMemoryGoalSize lib) _

/-- No goal carries a set when the App Direct step starts. -/
private theorem noSets_beforeAppDirect (builder : LayoutBuilder)
    (request : MemoryAllocationRequest) :
    NoSets (builder.layoutBeforeAppDirect request).goals := by
  refine keeps_noSets_memory builder.nvmLib request _ ?_
  refine afterSteps_keeps (I := fun layout => NoSets layout.goals)
    (keeps_warningGeneratingLayoutSteps (fun _ _ h => h) builder request) ?_
  intro uid slot
  unfold initLayoutGoals
  dsimp only
  split_ifs <;> cases slot <;> exact ⟨rfl, rfl⟩

/-- With fewer than `2 ^ 15` DIMMs the ids do not run around, so the sets the App Direct step lays
out are symmetric. -/
theorem symmetricSets_layoutBeforeReserved (builder : LayoutBuilder)
    (request : MemoryAllocationRequest) (hcount : request.dimms.length < 2 ^ 15)
    (dimms : List Dimm) : SymmetricSets dimms (builder.layoutBeforeReserved request).goals := by
  have hnone := noSets_beforeAppDirect builder request
  unfold layoutBeforeReserved
  generalize builder.layoutBeforeAppDirect request = layout at hnone ⊢
  rcases LayoutStepAppDirect.finalState_execute_goals builder.nvmLib request layout with
    hsame | ⟨start, hlaid⟩
  · rw [hsame]
    intro d _ e _ i j _ _ _
    rw [(hnone d.uid i).2, (hnone e.uid j).2]
  · have hstart : LayoutStepAppDirect.LaidOut start 0 ⟨layout.goals, start⟩ := by
      refine ⟨0, fun _ => 0, le_rfl, ?_, by simp⟩
      intro uid slot hcarries
      rcases hcarries with hid | hsize
      · exact absurd (hnone uid slot).1 hid
      · exact absurd (hnone uid slot).2 hsize
    rw [hlaid]
    exact (hstart.layoutExtent builder.nvmLib request).symmetric (by omega) dimms

end LayoutBuilder

/-! ### Shrink passes -/

namespace ShrinkPass

/-- The goals after the pass. -/
def after (pass : ShrinkPass) : Goals :=
  (shrinkCapacity pass.type pass.dimms pass.shrinkBy pass.goals).2

/-- How often the pass takes capacity from a slot of a goal. -/
def visits (pass : ShrinkPass) (uid : Uid) (slot : Slot) : ℕ :=
  if pass.type.slot = some slot then
    ((shrinkVisits pass.type pass.dimms pass.shrinkBy pass.goals).map Dimm.uid).count uid
  else 0

/-- The pass takes capacity equally often from all members of every set. -/
def EvenOnSets (dimms : List Dimm) (pass : ShrinkPass) : Prop :=
  ∀ d ∈ dimms, ∀ e ∈ dimms, ∀ i j,
    (pass.goals d.uid).Carries i → (pass.goals e.uid).Carries j →
    (pass.goals d.uid).slotSetId i = (pass.goals e.uid).slotSetId j →
    pass.visits d.uid i = pass.visits e.uid j

instance (dimms : List Dimm) (pass : ShrinkPass) : Decidable (pass.EvenOnSets dimms) :=
  inferInstanceAs (Decidable (∀ d ∈ dimms, ∀ e ∈ dimms, ∀ _ _ : Slot, _ → _ → _ → _))

/-- The share the pass takes at every visit. -/
def share (pass : ShrinkPass) : UInt64 :=
  shrinkShare pass.type pass.dimms pass.shrinkBy pass.goals

end ShrinkPass

/-- A visit leaves the set ids alone. -/
private theorem slotSetId_reduceGoal (type : CapacityType) (share : UInt64) (goal : ConfigGoal)
    (slot : Slot) : (reduceGoal type share goal).slotSetId slot = goal.slotSetId slot := by
  unfold reduceGoal
  cases slot <;> cases type <;> simp [ConfigGoal.slotSetId, CapacityType.setSize]

/-- Repeated visits leave the set ids alone. -/
private theorem slotSetId_iterate_reduceGoal (type : CapacityType) (share : UInt64) (n : ℕ)
    (goal : ConfigGoal) (slot : Slot) :
    ((reduceGoal type share)^[n] goal).slotSetId slot = goal.slotSetId slot := by
  induction n generalizing goal with
  | zero => rfl
  | succ n ih => rw [Function.iterate_succ_apply, ih, slotSetId_reduceGoal]

/-- Repeated visits take the share off their own size as often. -/
private theorem toNat_size_iterate_reduceGoal (type : CapacityType) (share : UInt64) (n : ℕ)
    (goal : ConfigGoal) :
    (type.size ((reduceGoal type share)^[n] goal)).toNat =
      (type.size goal).toNat - n * share.toNat := by
  induction n generalizing goal with
  | zero => simp
  | succ n ih =>
    rw [Function.iterate_succ_apply, ih, toNat_size_reduceGoal, Nat.succ_mul]
    omega

/-- Visits leave the size of another slot alone. -/
private theorem slotSize_iterate_reduceGoal {type : CapacityType} {slot : Slot}
    (h : type.slot ≠ some slot) (share : UInt64) (n : ℕ) (goal : ConfigGoal) :
    ((reduceGoal type share)^[n] goal).slotSize slot = goal.slotSize slot := by
  induction n generalizing goal with
  | zero => rfl
  | succ n ih =>
    rw [Function.iterate_succ_apply, ih, reduceGoal]
    cases slot <;> cases type <;>
      simp_all [ConfigGoal.slotSize, CapacityType.setSize, CapacityType.slot]

namespace ShrinkPass

variable {dimms : List Dimm}

/-- A goal after the pass: the share is taken off once for every visit to its DIMM. -/
private theorem after_apply (pass : ShrinkPass) (uid : Uid) :
    pass.after uid = (reduceGoal pass.type pass.share)^[
      ((shrinkVisits pass.type pass.dimms pass.shrinkBy pass.goals).map Dimm.uid).count uid]
      (pass.goals uid) := by
  rw [after, shrinkCapacity_goals, updateAll_const_apply]
  rfl

/-- The set ids are as before the pass. -/
theorem slotSetId_after (pass : ShrinkPass) (uid : Uid) (slot : Slot) :
    (pass.after uid).slotSetId slot = (pass.goals uid).slotSetId slot := by
  rw [after_apply, slotSetId_iterate_reduceGoal]

/-- The size of a slot after the pass. -/
theorem toNat_slotSize_after (pass : ShrinkPass) (uid : Uid) (slot : Slot) :
    ((pass.after uid).slotSize slot).toNat =
      ((pass.goals uid).slotSize slot).toNat - pass.visits uid slot * pass.share.toNat := by
  rw [after_apply]
  by_cases hslot : pass.type.slot = some slot
  · have hsize : ∀ goal : ConfigGoal, goal.slotSize slot = pass.type.size goal := by
      intro goal
      cases htype : pass.type <;> rw [htype] at hslot <;> cases hslot <;> rfl
    rw [hsize, hsize, visits, if_pos hslot, toNat_size_iterate_reduceGoal]
  · rw [visits, if_neg hslot, slotSize_iterate_reduceGoal hslot]
    omega

/-- A slot that carries a set after the pass carried it before. -/
private theorem carries_of_after {pass : ShrinkPass} {uid : Uid} {slot : Slot}
    (h : (pass.after uid).Carries slot) :
    (pass.goals uid).Carries slot := by
  rcases h with hid | hsize
  · exact Or.inl (by rwa [← slotSetId_after])
  · refine Or.inr fun hzero => hsize ?_
    rw [← toNat_eq_zero_iff, toNat_slotSize_after, hzero]
    simp

/-- A pass that is even on the sets keeps them symmetric. -/
theorem symmetricSets_after (pass : ShrinkPass) (hsymm : SymmetricSets dimms pass.goals)
    (heven : pass.EvenOnSets dimms) : SymmetricSets dimms pass.after := by
  intro d hd e he i j hi hj hid
  rw [slotSetId_after, slotSetId_after] at hid
  have hbefore := hsymm d hd e he i j (carries_of_after hi) (carries_of_after hj) hid
  have hvisits := heven d hd e he i j (carries_of_after hi) (carries_of_after hj) hid
  rw [← UInt64.toNat_inj, toNat_slotSize_after, toNat_slotSize_after, hbefore, hvisits]

end ShrinkPass

/-! ### The steps that shrink -/

section Steps

variable {dimms : List Dimm}

/-- The App Direct passes of a shrink keep the sets symmetric when they are even on them. -/
private theorem symmetricSets_shrinkPasses {socketDimms : List Dimm} {shrinkBy : UInt64}
    {goals : Goals} (hsymm : SymmetricSets dimms goals)
    (heven : ∀ pass ∈ shrinkPasses socketDimms shrinkBy goals, pass.EvenOnSets dimms) :
    SymmetricSets dimms (shrinkAD1 socketDimms (shrinkAD2 socketDimms shrinkBy goals).1
      (shrinkAD2 socketDimms shrinkBy goals).2).2 := by
  have hAD2 := ShrinkPass.symmetricSets_after ⟨.appDirect2, socketDimms, shrinkBy, goals⟩ hsymm
    (heven _ (by simp [shrinkPasses]))
  exact ShrinkPass.symmetricSets_after ⟨.appDirect1, socketDimms,
    (shrinkAD2 socketDimms shrinkBy goals).1, (shrinkAD2 socketDimms shrinkBy goals).2⟩ hAD2
    (heven _ (by simp [shrinkPasses]))

/-- Shrinking memory does not concern the sets. -/
private theorem symmetricSets_shrinkMemory {socketDimms : List Dimm} {shrinkBy : UInt64}
    {goals : Goals} (hsymm : SymmetricSets dimms goals) :
    SymmetricSets dimms (shrinkMemory socketDimms shrinkBy goals).2 :=
  ShrinkPass.symmetricSets_after ⟨.twoLM, socketDimms, shrinkBy, goals⟩ hsymm
    fun _ _ _ _ _ _ _ _ _ => rfl

/-- The mapped memory limit keeps the sets symmetric when its passes are even on them. -/
private theorem symmetricSets_limit {exceeded : List (List Dimm × UInt64)} {goals : Goals}
    (hsymm : SymmetricSets dimms goals)
    (heven : ∀ pass ∈ limitPasses exceeded goals, pass.EvenOnSets dimms) :
    SymmetricSets dimms (exceeded.foldl (fun goals socket =>
      LayoutStepLimitTotalMappedMemory.shrinkLayoutGoals socket.1 socket.2 goals) goals) := by
  induction exceeded generalizing goals with
  | nil => exact hsymm
  | cons socket exceeded ih =>
    obtain ⟨socketDimms, shrinkBy⟩ := socket
    refine ih ?_ fun pass hpass => heven pass (List.mem_append_right _ hpass)
    exact symmetricSets_shrinkMemory (symmetricSets_shrinkPasses hsymm
      fun pass hpass => heven pass (List.mem_append_left _ hpass))

end Steps

end IxpDimm
