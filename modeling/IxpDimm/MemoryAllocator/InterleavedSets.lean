import IxpDimm.MemoryAllocator.AppDirectGoals
import IxpDimm.MemoryAllocator.CreatedSets
import IxpDimm.MemoryAllocator.GreedySets
import IxpDimm.MemoryAllocator.LayoutBuilder
import Mathlib.Data.List.TakeWhile

/-!
# The sets of the interleaved layout

The loop over a socket lays out the sets of its greedy cover one after the other, up to the first
one that cannot be laid out (`follows_createdInterleaved`).  Every member of a set gives the same
whole number of GiB, and what a DIMM has left afterwards becomes a set of its own
(`InterleaveLaw`).

The share of a set is an equal part of what its members have left together, which is summed in 64
bits.  Where the sum exceeds them, the share of a member can be less than a GiB
(`interleaveLaw_iff`).
-/

namespace IxpDimm.LayoutStepAppDirect

open Foundation InterleaveableDimmSetBuilder

/-! ### What the layout is to do -/

/-- The whole GiB that a DIMM has left. -/
def leftGiB (goals : Goals) (dimm : Dimm) : ℕ :=
  wholeGiB dimm.capacityBytes - (goals dimm.uid).totalGiB

/-- What the layout of the extent is to do for the DIMMs of a request. -/
structure InterleaveLaw (lib : NvmLibrary) (request : MemoryAllocationRequest)
    (state : AppDirectState) : Prop where
  /-- The loop over a socket ends. -/
  terminates : ∀ socket ∈ groupByKey Dimm.socket request.dimms, ∀ s : AppDirectState,
    (runLoop (layoutSocketPass lib) ((removeUnavailableDimmsFromList s.goals socket.2).length + 1)
      (removeUnavailableDimmsFromList s.goals socket.2, s)).isSome
  /-- The interleaved sets have no DIMM in common. -/
  disjoint : (createdInterleaved lib request.dimms state).Pairwise fun set other =>
    List.Disjoint (set.dimms.map Dimm.uid) (other.dimms.map Dimm.uid)
  /-- An interleaved set occupies one of the interleave sets on a socket. -/
  occupies : ∀ set ∈ createdInterleaved lib request.dimms state,
    (∃ socket ∈ groupByKey Dimm.socket request.dimms, set.dimms.Sublist socket.2) ∧
      ∃ map ∈ interleaveSets, Occupies set.dimms map
  /-- The size for each of its DIMMs is at least a GiB, and within what each of them has left. -/
  size : ∀ set ∈ createdInterleaved lib request.dimms state, 2 ^ 30 ≤ set.bytesPerDimm.toNat ∧
    ∀ d ∈ set.dimms, set.bytesPerDimm.toNat ≤ 2 ^ 30 * leftGiB set.before d
  /-- After the sets of one DIMM every whole GiB is handed out. -/
  rest : ∀ state', layoutExtent lib request state = .ok () state' →
    ∀ d ∈ request.dimms, (state'.goals d.uid).totalGiB = wholeGiB d.capacityBytes

/-- The GiB that the members of a set have left together, as far as 64 bits hold the bytes. -/
def seenLeftGiB (goals : Goals) (set : List Dimm) : ℕ := (set.map (leftGiB goals)).sum % 2 ^ 34

/-- A set can be laid out: its members are seen to have capacity left, and its parameters are
found. -/
def canBeLaidOut (lib : NvmLibrary) (goals : Goals) (set : List Dimm) : Bool :=
  decide (seenLeftGiB goals set ≠ 0) && ((set.mapM fun dimm => stringToUid dimm.uid).isOk &&
    lib.getNvmCapabilities.isOk)

/-- The sets of the covers of all sockets. -/
def coverSets (goals : Goals) (dimms : List Dimm) : List (List Dimm) :=
  (groupByKey Dimm.socket dimms).flatMap fun socket =>
    greedySets (removeUnavailableDimmsFromList goals socket.2)

/-! ### One set -/

section
variable {lib : NvmLibrary} {goals : Goals} {set : List Dimm}

/-- The parameters of a set are found. -/
private theorem parameters_iff (lib : NvmLibrary) (set : List Dimm) :
    (((∃ uids, set.mapM (fun dimm => stringToUid dimm.uid) = .ok uids) ∧
      ∃ format, MemoryAllocationUtil.getRecommendedInterleaveFormatForWays lib set.length =
        .ok format) ↔
    ((set.mapM fun dimm => stringToUid dimm.uid).isOk && lib.getNvmCapabilities.isOk) = true) := by
  rw [Bool.and_eq_true]
  refine and_congr ?_ ?_
  · cases set.mapM fun dimm => stringToUid dimm.uid with
    | error e => exact iff_of_false (fun ⟨_, h⟩ => nomatch h) Bool.false_ne_true
    | ok uids => exact iff_of_true ⟨uids, rfl⟩ rfl
  · unfold MemoryAllocationUtil.getRecommendedInterleaveFormatForWays
    cases lib.getNvmCapabilities with
    | error e => exact iff_of_false (fun ⟨_, h⟩ => nomatch h) Bool.false_ne_true
    | ok capabilities => exact iff_of_true ⟨_, rfl⟩ rfl

/-- The bytes that the members of a set have left, as the code sums them. -/
private theorem toNat_getRemainingBytesFromDimms
    (hgoals : ∀ d ∈ set, AppDirectGoal 0 d.capacityBytes (goals d.uid)) :
    (getRemainingBytesFromDimms set goals).toNat = 2 ^ 30 * seenLeftGiB goals set := by
  have hbytes : ∀ d ∈ set,
      (getDimmUnallocatedGiBAlignedBytes d.capacityBytes (goals d.uid)).toNat =
        2 ^ 30 * leftGiB goals d := by
    intro d hd
    have hgoal := hgoals d hd
    rw [toNat_getDimmUnallocatedGiBAlignedBytes (hgoal.countedGiB ▸ hgoal.fits),
      hgoal.countedGiB, leftGiB]
  have hmap : (set.map fun d =>
      (getDimmUnallocatedGiBAlignedBytes d.capacityBytes (goals d.uid)).toNat) =
        set.map fun d => 2 ^ 30 * leftGiB goals d := List.map_congr_left hbytes
  rw [getRemainingBytesFromDimms, toNat_foldl_add, UInt64.toNat_zero, Nat.zero_add, hmap,
    List.sum_map_mul_left, seenLeftGiB, ← Nat.mul_mod_mul_left, ← pow_add]

/-- The members of a set have capacity left exactly when 64 bits see some. -/
private theorem getRemainingBytesFromDimms_eq_zero_iff
    (hgoals : ∀ d ∈ set, AppDirectGoal 0 d.capacityBytes (goals d.uid)) :
    getRemainingBytesFromDimms set goals = 0 ↔ seenLeftGiB goals set = 0 := by
  have hbytes := toNat_getRemainingBytesFromDimms hgoals
  rw [← toNat_eq_zero_iff, hbytes]
  omega

/-- What can be laid out depends on the goals of the members. -/
private theorem canBeLaidOut_congr {goals' : Goals}
    (h : ∀ d ∈ set, goals' d.uid = goals d.uid) :
    canBeLaidOut lib goals' set = canBeLaidOut lib goals set := by
  have hleft : set.map (leftGiB goals') = set.map (leftGiB goals) :=
    List.map_congr_left fun d hd => by rw [leftGiB, leftGiB, h d hd]
  rw [canBeLaidOut, canBeLaidOut, seenLeftGiB, seenLeftGiB, hleft]

end

/-! ### One pass -/

section
variable {lib : NvmLibrary} {remaining set : List Dimm} {state : AppDirectState}

/-- A set that can be laid out is laid out. -/
private theorem layoutSocketPass_of_canBeLaidOut
    (hfound : getLargestSetOfInterleavableDimms remaining = .ok set) (hset : set ≠ [])
    (hgoals : ∀ d ∈ set, AppDirectGoal 0 d.capacityBytes (state.goals d.uid))
    (havailable : ∀ d ∈ set, hasUnallocatedCapacity state.goals d = true)
    (hcan : canBeLaidOut lib state.goals set = true) :
    ∃ next, layoutSocketPass lib (remaining, state) = .inl next := by
  rw [canBeLaidOut, Bool.and_eq_true, decide_eq_true_eq] at hcan
  have hne : remaining ≠ [] := by
    rintro rfl
    exact hset (List.sublist_nil.mp (getLargestSetOfInterleavableDimms_sublist hfound))
  have hleft : getRemainingBytesFromDimms set state.goals ≠ 0 :=
    fun hzero => hcan.1 ((getRemainingBytesFromDimms_eq_zero_iff hgoals).mp hzero)
  rcases getLargestPerDimmSymmetricalBytes_spec set state.goals
    (getRemainingBytesFromDimms set state.goals) with ⟨hnone, -⟩ | ⟨bytes, included, hok, -⟩
  · obtain ⟨d, hd⟩ := List.exists_mem_of_ne_nil _ hset
    exact absurd (havailable d hd) (List.filter_eq_nil_iff.mp hnone d hd)
  · obtain ⟨state', hlaid⟩ :=
      (@layoutInterleaveSet_ok_iff _ _ bytes state hset).mpr
        ((parameters_iff lib set).mpr hcan.2)
    refine ⟨(removeDimmsFromList set remaining, state'), ?_⟩
    simp only [layoutSocketPass, if_neg hne, hfound, if_neg hleft, hok, hlaid]

/-- A set that cannot be laid out ends the loop by an exception. -/
private theorem layoutSocketPass_of_not_canBeLaidOut
    (hfound : getLargestSetOfInterleavableDimms remaining = .ok set) (hset : set ≠ [])
    (hgoals : ∀ d ∈ set, AppDirectGoal 0 d.capacityBytes (state.goals d.uid))
    (hcan : ¬ canBeLaidOut lib state.goals set = true) :
    ∃ e, layoutSocketPass lib (remaining, state) = .inr (.error e state) := by
  have hne : remaining ≠ [] := by
    rintro rfl
    exact hset (List.sublist_nil.mp (getLargestSetOfInterleavableDimms_sublist hfound))
  cases hpass : layoutSocketPass lib (remaining, state) with
  | inl next =>
    exfalso
    obtain ⟨set', bytes, hset', -⟩ := layoutSocketPass_inl hpass
    obtain rfl := Except.ok.inj (hfound.symm.trans hset'.found)
    refine hcan ?_
    rw [canBeLaidOut, Bool.and_eq_true, decide_eq_true_eq]
    refine ⟨fun hzero => ?_, (parameters_iff lib set).mp
      ((layoutInterleaveSet_ok_iff hset).mp ⟨_, hset'.laid⟩)⟩
    have hnoBytes := (getRemainingBytesFromDimms_eq_zero_iff hgoals).mpr hzero
    simp only [layoutSocketPass, if_neg hne, hfound, if_pos hnoBytes] at hpass
    cases hpass
  | inr r =>
    rcases layoutSocketPass_inr hpass with ⟨hnil, -⟩ | ⟨e, rfl, -⟩ | ⟨-, rfl, -⟩
    · exact absurd hnil hne
    · exact ⟨e, rfl⟩
    · exact ⟨_, rfl⟩

/-- Where no set is found the loop ends by an exception. -/
private theorem layoutSocketPass_of_not_found (hne : remaining ≠ [])
    (hnone : ∀ set, getLargestSetOfInterleavableDimms remaining = .ok set → set = []) :
    ∃ e, layoutSocketPass lib (remaining, state) = .inr (.error e state) := by
  cases hpass : layoutSocketPass lib (remaining, state) with
  | inl next =>
    obtain ⟨set, bytes, hset, -⟩ := layoutSocketPass_inl hpass
    exact absurd (hnone set hset.found) hset.set_ne
  | inr r =>
    rcases layoutSocketPass_inr hpass with ⟨hnil, -⟩ | ⟨e, rfl, -⟩ | ⟨-, rfl, -⟩
    · exact absurd hnil hne
    · exact ⟨e, rfl⟩
    · exact ⟨_, rfl⟩

end

/-! ### The sets that are created -/

/-- A set that is created from DIMMs with the goals they had at first. -/
structure Recorded (goals : Goals) (set : CreatedSet) : Prop where
  /-- The members had the goals of before. -/
  before : ∀ d ∈ set.dimms, set.before d.uid = goals d.uid
  /-- The bytes are an equal share of what the members have left. -/
  share : ∃ included, getLargestPerDimmSymmetricalBytes set.dimms set.before
    (getRemainingBytesFromDimms set.dimms set.before) = .ok (set.bytesPerDimm, included)

/-- A run follows a list of sets: it creates them up to the first one that cannot be laid out, and it
ends normally when there is no such one. -/
structure Follows (lib : NvmLibrary) (goals : Goals) (sets : List (List Dimm))
    (created : List CreatedSet) (ended : Prop) : Prop where
  /-- The sets that are created. -/
  taken : created.map CreatedSet.dimms = sets.takeWhile (canBeLaidOut lib goals)
  /-- How they are created. -/
  recorded : ∀ set ∈ created, Recorded goals set
  /-- When the run ends normally. -/
  ended_iff : ended ↔ ∀ set ∈ sets, canBeLaidOut lib goals set = true

section
variable {lib : NvmLibrary} {goals : Goals} {sets sets' : List (List Dimm)}
  {created created' : List CreatedSet} {ended ended' : Prop}

/-- Nothing to follow. -/
private theorem follows_nil : Follows lib goals [] [] True :=
  ⟨rfl, List.forall_mem_nil _, iff_of_true trivial (List.forall_mem_nil _)⟩

/-- A set that cannot be laid out ends the run. -/
private theorem follows_stop {set : List Dimm} (hset : ¬ canBeLaidOut lib goals set = true) :
    Follows lib goals (set :: sets) [] False := by
  refine ⟨?_, List.forall_mem_nil _, iff_of_false id fun h => hset (h set List.mem_cons_self)⟩
  rw [List.takeWhile_cons, if_neg hset]
  rfl

/-- A set that is laid out. -/
private theorem follows_set {set : CreatedSet} (hcan : canBeLaidOut lib goals set.dimms = true)
    (hset : Recorded goals set) : Follows lib goals [set.dimms] [set] True := by
  refine ⟨?_, List.forall_mem_singleton.mpr hset,
    iff_of_true trivial (List.forall_mem_singleton.mpr hcan)⟩
  rw [List.takeWhile_cons, if_pos hcan]
  rfl

/-- The end of a run, said differently. -/
private theorem Follows.congr (h : Follows lib goals sets created ended) (hiff : ended ↔ ended') :
    Follows lib goals sets created ended' :=
  ⟨h.taken, h.recorded, hiff.symm.trans h.ended_iff⟩

/-- One run after the other. -/
private theorem Follows.append (h : Follows lib goals sets created ended)
    (hrest : ended → Follows lib goals sets' created' ended')
    (hstop : ¬ ended → created' = [] ∧ ¬ ended') :
    Follows lib goals (sets ++ sets') (created ++ created') ended' := by
  by_cases hended : ended
  · obtain ⟨htaken, hrecorded, hended_iff⟩ := hrest hended
    have hall := h.ended_iff.mp hended
    constructor
    · rw [List.map_append, h.taken, htaken, List.takeWhile_append_of_pos hall,
        List.takeWhile_eq_self_iff.mpr hall]
    · intro set hset
      rcases List.mem_append.mp hset with hset | hset
      · exact h.recorded set hset
      · exact hrecorded set hset
    · rw [hended_iff, List.forall_mem_append]
      exact ⟨fun hall' => ⟨hall, hall'⟩, And.right⟩
  · obtain ⟨rfl, hended'⟩ := hstop hended
    have hnot : ¬ ∀ set ∈ sets, canBeLaidOut lib goals set = true :=
      fun hall => hended (h.ended_iff.mpr hall)
    have hlength : (sets.takeWhile (canBeLaidOut lib goals)).length ≠ sets.length := by
      intro heq
      refine hnot (List.takeWhile_eq_self_iff.mp ?_)
      exact (List.takeWhile_prefix _).eq_of_length heq
    constructor
    · rw [List.append_nil, h.taken, List.takeWhile_append, if_neg hlength]
    · rw [List.append_nil]
      exact h.recorded
    · rw [List.forall_mem_append]
      exact iff_of_false hended' fun hall => hnot hall.1

/-- The loop over DIMMs with capacity left follows their cover. -/
private theorem follows_loopTrace {fuel : ℕ} {remaining : List Dimm} {state : AppDirectState}
    (hfuel : remaining.length < fuel) (hnd : (remaining.map Dimm.uid).Nodup)
    (hpending : ∀ d ∈ remaining, state.goals d.uid = goals d.uid)
    (hgoals : ∀ d ∈ remaining, AppDirectGoal 0 d.capacityBytes (goals d.uid))
    (havailable : ∀ d ∈ remaining, hasUnallocatedCapacity goals d = true) :
    Follows lib goals (greedySets remaining)
      ((loopTrace (layoutSocketPass lib) fuel (remaining, state)).flatMap createdInPass)
      (∃ s, runLoop (layoutSocketPass lib) fuel (remaining, state) = some (.ok () s)) := by
  induction fuel generalizing remaining state with
  | zero => exact absurd hfuel (Nat.not_lt_zero _)
  | succ fuel ih =>
    -- a pass that leaves the loop creates no set
    have hleave : ∀ r, layoutSocketPass lib (remaining, state) = .inr r →
        (loopTrace (layoutSocketPass lib) (fuel + 1) (remaining, state)).flatMap createdInPass = [] ∧
          runLoop (layoutSocketPass lib) (fuel + 1) (remaining, state) = some r := by
      intro r hr
      rw [loopTrace, hr, runLoop_succ_of_inr hr]
      exact ⟨rfl, rfl⟩
    have hstop : ∀ sets, (∃ e, layoutSocketPass lib (remaining, state) = .inr (.error e state)) →
        (∀ set ∈ sets.head?, ¬ canBeLaidOut lib goals set = true) → sets ≠ [] →
        Follows lib goals sets
          ((loopTrace (layoutSocketPass lib) (fuel + 1) (remaining, state)).flatMap createdInPass)
          (∃ s, runLoop (layoutSocketPass lib) (fuel + 1) (remaining, state) =
            some (.ok () s)) := by
      rintro sets ⟨e, he⟩ hhead hne
      obtain ⟨set, rest, rfl⟩ := List.exists_cons_of_ne_nil hne
      obtain ⟨htrace, hrun⟩ := hleave _ he
      rw [htrace]
      refine (follows_stop (hhead set rfl)).congr (iff_of_false id ?_)
      rintro ⟨s, hs⟩
      rw [hrun] at hs
      cases hs
    by_cases hnil : remaining = []
    · subst hnil
      have hpass : layoutSocketPass lib ([], state) = .inr (.ok () state) := by
        rw [layoutSocketPass, if_pos rfl]
      obtain ⟨htrace, hrun⟩ := hleave _ hpass
      rw [htrace, greedySets_nil]
      exact follows_nil.congr (iff_of_true trivial ⟨state, hrun⟩)
    by_cases hfound : ∃ set, getLargestSetOfInterleavableDimms remaining = .ok set ∧ set ≠ []
    · obtain ⟨set, hfound, hset⟩ := hfound
      have hsub := getLargestSetOfInterleavableDimms_sublist hfound
      have hsame : ∀ d ∈ set, state.goals d.uid = goals d.uid :=
        fun d hd => hpending d (hsub.subset hd)
      have hmember : ∀ d ∈ set, AppDirectGoal 0 d.capacityBytes (state.goals d.uid) := by
        intro d hd
        rw [hsame d hd]
        exact hgoals d (hsub.subset hd)
      rw [greedySets_of_found hfound hset]
      by_cases hcan : canBeLaidOut lib goals set = true
      · have hcan' : canBeLaidOut lib state.goals set = true := by
          rw [canBeLaidOut_congr hsame]
          exact hcan
        obtain ⟨next, hnext⟩ := layoutSocketPass_of_canBeLaidOut hfound hset hmember
          (fun d hd => by
            rw [hasUnallocatedCapacity_congr (hsame d hd)]
            exact havailable d (hsub.subset hd)) hcan'
        obtain ⟨set', bytes, hpass, hremaining, hcreated, hshare⟩ := createdInPass_of_inl hnext
        obtain rfl := Except.ok.inj (hfound.symm.trans hpass.found)
        obtain ⟨remaining', state'⟩ := next
        dsimp only at hremaining hpass
        subst hremaining
        rw [loopTrace, hnext, runLoop_succ_of_inl hnext, List.flatMap_cons, hcreated]
        have hleft := removeDimmsFromList_sublist set remaining
        have hrest := @ih (removeDimmsFromList set remaining) state'
          ?_ (hnd.sublist (hleft.map _)) ?_ (fun d hd => hgoals d (hleft.subset hd))
          (fun d hd => havailable d (hleft.subset hd))
        · exact (@follows_set _ _ ⟨state.nextInterleaveId, set, bytes, state.goals⟩ hcan
            ⟨hsame, hshare⟩).append (fun _ => hrest) fun hno => absurd trivial hno
        · have := length_removeDimmsFromList_lt hset hsub.subset
          omega
        · intro d hd
          obtain ⟨uids, format, rfl⟩ := layoutInterleaveSet_ok hset hpass.laid
          exact (updateAll_apply_of_notMem (uid_notMem_of_mem_removeDimmsFromList hnd hd) _).trans
            (hpending d (hleft.subset hd))
      · have hcan' : ¬ canBeLaidOut lib state.goals set = true := by
          rw [canBeLaidOut_congr hsame]
          exact hcan
        refine hstop _ (layoutSocketPass_of_not_canBeLaidOut hfound hset hmember hcan') ?_
          (List.cons_ne_nil _ _)
        intro head hhead
        obtain rfl := Option.some.inj hhead
        exact hcan
    · have hnone : ∀ set, getLargestSetOfInterleavableDimms remaining = .ok set → set = [] := by
        intro set h
        by_contra hset
        exact hfound ⟨set, h, hset⟩
      rw [greedySets_of_not_found hnil hnone]
      refine hstop _ (layoutSocketPass_of_not_found hnil hnone) ?_ (List.cons_ne_nil _ _)
      intro head hhead
      obtain rfl := Option.some.inj hhead
      exact Bool.false_ne_true

/-- A socket follows the cover of its DIMMs with capacity left. -/
private theorem follows_createdOnSocket {socketDimms : List Dimm} {state : AppDirectState}
    (hnd : (socketDimms.map Dimm.uid).Nodup)
    (hsame : ∀ d ∈ socketDimms, state.goals d.uid = goals d.uid)
    (hgoals : ∀ d ∈ socketDimms, AppDirectGoal 0 d.capacityBytes (goals d.uid)) :
    Follows lib goals (greedySets (removeUnavailableDimmsFromList goals socketDimms))
      (createdOnSocket lib socketDimms state)
      (∃ s, layoutInterleavedExtentOnSocket lib socketDimms state = .ok () s) := by
  have havailable : removeUnavailableDimmsFromList state.goals socketDimms =
      removeUnavailableDimmsFromList goals socketDimms :=
    List.filter_congr fun d hd => hasUnallocatedCapacity_congr (hsame d hd)
  have hsub : (removeUnavailableDimmsFromList goals socketDimms).Sublist socketDimms :=
    List.filter_sublist
  have hloop := @follows_loopTrace lib _ _ _ state (Nat.lt_succ_self _)
    (hnd.sublist (hsub.map _)) (fun d hd => hsame d (hsub.subset hd))
    (fun d hd => hgoals d (hsub.subset hd)) fun d hd => (List.mem_filter.mp hd).2
  rw [createdOnSocket, havailable]
  refine hloop.congr ?_
  unfold layoutInterleavedExtentOnSocket
  rw [havailable]
  dsimp only
  obtain ⟨r, hr⟩ := Option.isSome_iff_exists.mp (layoutSocketPass_terminates lib
    (removeUnavailableDimmsFromList goals socketDimms) state)
  rw [hr, Option.getD_some]
  exact exists_congr fun s => Option.some_inj

/-- The sockets, one after the other, follow the covers of all of them. -/
private theorem follows_sockets {sockets : List (UInt16 × List Dimm)} {state : AppDirectState}
    (hnd : (sockets.flatMap fun socket => socket.2.map Dimm.uid).Nodup)
    (hsame : ∀ socket ∈ sockets, ∀ d ∈ socket.2, state.goals d.uid = goals d.uid)
    (hgoals : ∀ socket ∈ sockets, ∀ d ∈ socket.2,
      AppDirectGoal 0 d.capacityBytes (goals d.uid)) :
    Follows lib goals (sockets.flatMap fun socket =>
        greedySets (removeUnavailableDimmsFromList goals socket.2))
      ((forMTrace (fun socket : UInt16 × List Dimm => layoutInterleavedExtentOnSocket lib socket.2)
        sockets state).flatMap fun run => createdOnSocket lib run.1.2 run.2)
      (∃ s, sockets.forM (fun socket => layoutInterleavedExtentOnSocket lib socket.2) state =
        .ok ⟨⟩ s) := by
  induction sockets generalizing state with
  | nil => exact follows_nil.congr (iff_of_true trivial ⟨state, rfl⟩)
  | cons socket sockets ih =>
    rw [List.flatMap_cons, List.nodup_append'] at hnd
    obtain ⟨hnd₁, hnd₂, hdisjoint⟩ := hnd
    rw [List.forall_mem_cons] at hsame hgoals
    have hsocket := @follows_createdOnSocket lib _ _ _ hnd₁ hsame.1 hgoals.1
    have hforM : ∀ s, (socket :: sockets).forM
        (fun socket => layoutInterleavedExtentOnSocket lib socket.2) s =
          (layoutInterleavedExtentOnSocket lib socket.2 >>= fun _ => sockets.forM
            fun socket => layoutInterleavedExtentOnSocket lib socket.2) s := fun _ => rfl
    rw [List.flatMap_cons, forMTrace, List.flatMap_cons, hforM, bind_apply]
    refine hsocket.append ?_ ?_
    · rintro ⟨s, hs⟩
      rw [hs]
      refine ih hnd₂ (fun other hother d hd => ?_) hgoals.2
      -- the DIMMs of the other sockets keep their goals
      have htouch := @layoutInterleavedExtentOnSocket_touches lib socket.2
        state d.uid fun huid => hdisjoint huid
          (List.mem_flatMap.mpr ⟨other, hother, List.mem_map_of_mem hd⟩)
      rw [hs] at htouch
      exact htouch.trans (hsame.2 other hother d hd)
    · intro hno
      cases hrun : layoutInterleavedExtentOnSocket lib socket.2 state with
      | ok u s => exact absurd ⟨s, hrun⟩ hno
      | error e s =>
        refine ⟨rfl, ?_⟩
        rintro ⟨s', hs'⟩
        cases hs'

/-- The interleaved layout follows the covers of the sockets. -/
theorem follows_createdInterleaved {dimms : List Dimm} {state : AppDirectState}
    (hnd : (dimms.map Dimm.uid).Nodup)
    (hgoals : ∀ d ∈ dimms, AppDirectGoal 0 d.capacityBytes (state.goals d.uid)) :
    Follows lib state.goals (coverSets state.goals dimms) (createdInterleaved lib dimms state)
      (∃ s, layoutInterleavedExtentOnRequestedDimms lib dimms state = .ok ⟨⟩ s) :=
  follows_sockets ((perm_flatMap_socket dimms).nodup_iff.mpr hnd) (fun _ _ _ _ => rfl)
    fun _ hsocket d hd => hgoals d (mem_of_mem_groupByKey hsocket hd)

end

/-! ### The size of a set -/

section
variable {lib : NvmLibrary} {goals : Goals}

/-- The size for each member is within what each has left, and it is a GiB exactly when 64 bits see a
GiB for each member. -/
private theorem Recorded.size {set : CreatedSet} (h : Recorded goals set)
    (hgoals : ∀ d ∈ set.dimms, AppDirectGoal 0 d.capacityBytes (goals d.uid))
    (havailable : ∀ d ∈ set.dimms, hasUnallocatedCapacity goals d = true) :
    (2 ^ 30 ≤ set.bytesPerDimm.toNat ↔ set.dimms.length ≤ seenLeftGiB goals set.dimms) ∧
      ∀ d ∈ set.dimms, set.bytesPerDimm.toNat ≤ 2 ^ 30 * leftGiB set.before d := by
  obtain ⟨included, hlargest⟩ := h.share
  have hmember : ∀ d ∈ set.dimms, AppDirectGoal 0 d.capacityBytes (set.before d.uid) := by
    intro d hd
    rw [h.before d hd]
    exact hgoals d hd
  have hseen : seenLeftGiB set.before set.dimms = seenLeftGiB goals set.dimms := by
    have hmap : set.dimms.map (leftGiB set.before) = set.dimms.map (leftGiB goals) :=
      List.map_congr_left fun d hd => by rw [leftGiB, leftGiB, h.before d hd]
    rw [seenLeftGiB, seenLeftGiB, hmap]
  have havailable' : ∀ d ∈ set.dimms, hasUnallocatedCapacity set.before d = true := by
    intro d hd
    rw [hasUnallocatedCapacity_congr (h.before d hd)]
    exact havailable d hd
  have hcapacity : ∀ d ∈ set.dimms, 2 ^ 30 ≤ d.capacityBytes.toNat := by
    intro d hd
    have hgoal := hmember d hd
    have hleft := (hasUnallocatedCapacity_iff (hgoal.countedGiB ▸ hgoal.fits)).mp
      (havailable' d hd)
    unfold wholeGiB at hleft
    omega
  obtain ⟨hwithin, hfew⟩ := symmetricalShare_even hcapacity hlargest
  rw [toNat_getRemainingBytesFromDimms hmember, hseen] at hwithin hfew
  rcases getLargestPerDimmSymmetricalBytes_spec set.dimms set.before
    (getRemainingBytesFromDimms set.dimms set.before) with ⟨-, herr⟩ | ⟨bytes, inc, hok, hshare⟩
  · rw [herr] at hlargest
    cases hlargest
  · rw [hok] at hlargest
    obtain ⟨hbytes, hinc⟩ := Prod.mk.inj (Except.ok.inj hlargest)
    have hall : inc = set.dimms := by
      rw [hshare.included_eq]
      exact List.filter_eq_self.mpr havailable'
    rw [← hinc, hall] at hwithin hfew
    constructor
    · constructor
      · intro hle
        have hmul := (Nat.mul_le_mul_right set.dimms.length hle).trans hwithin
        exact Nat.le_of_mul_le_mul_left hmul (by norm_num)
      · intro hle
        by_contra hlt
        have hless := hfew (not_le.mp hlt)
        have hmul := Nat.mul_le_mul_left (2 ^ 30) hle
        omega
    · intro d hd
      have hgoal := hmember d hd
      have hfits := hshare.le_unallocated d (hall ▸ hd)
      rwa [hbytes, toNat_getDimmUnallocatedGiBAlignedBytes (hgoal.countedGiB ▸ hgoal.fits),
        hgoal.countedGiB] at hfits

/-! ### What is left on a DIMM -/

/-- A set adds its size to a goal with at most one set. -/
private theorem AppDirectGoal.totalGiB_update {cap : UInt64} {goal : ConfigGoal}
    (h : AppDirectGoal 1 cap goal) (bytes : UInt64) (setId : UInt16) (uids : List Uid)
    (format : InterleaveFormat) :
    (updateGoalWithInterleaveSet setId bytes uids format goal).totalGiB =
      goal.totalGiB + bytes.toNat / 2 ^ 30 := by
  have hcount := h.count_le
  have hsecond : goal.appDirect2Size = 0 := by
    by_contra hne
    have htwo : 2 ≤ goal.appDirectCount.toNat := UInt16.le_iff_toNat_le.mp (h.covers.second hne)
    omega
  unfold updateGoalWithInterleaveSet
  split_ifs with hslot
  · have hfirst : goal.appDirect1Size = 0 := by
      by_contra hne
      have hone : 1 ≤ goal.appDirectCount.toNat := UInt16.le_iff_toNat_le.mp (h.covers.first hne)
      have hsucc := congrArg UInt16.toNat hslot
      rw [UInt16.toNat_add] at hsucc
      change (goal.appDirectCount.toNat + 1) % 2 ^ 16 = 1 at hsucc
      omega
    unfold ConfigGoal.totalGiB
    rw [hfirst, hsecond, UInt64.toNat_zero]
    dsimp only
    rw [toNat_bytesToConfigGoalSize]
    simp only [Nat.add_zero]
  · unfold ConfigGoal.totalGiB
    rw [hsecond, UInt64.toNat_zero]
    dsimp only
    rw [toNat_bytesToConfigGoalSize, Nat.add_zero]

/-- The set of its own takes all that a DIMM has left. -/
private theorem totalGiB_layoutNonInterleavedDimm {dimm : Dimm} {state state' : AppDirectState}
    (hgoal : AppDirectGoal 1 dimm.capacityBytes (state.goals dimm.uid))
    (hrun : layoutNonInterleavedDimm lib dimm state = .ok () state') :
    (state'.goals dimm.uid).totalGiB = wholeGiB dimm.capacityBytes := by
  have hfits := hgoal.fits
  have hwhole : wholeGiB (usableCapacityBytes dimm.capacityBytes) = wholeGiB dimm.capacityBytes := by
    rw [wholeGiB, toNat_usableCapacityBytes]
    exact Nat.mul_div_cancel_left _ (by norm_num)
  have hleft : (getDimmUnallocatedBytes (usableCapacityBytes dimm.capacityBytes)
      (state.goals dimm.uid)).toNat =
        2 ^ 30 * (wholeGiB dimm.capacityBytes - (state.goals dimm.uid).totalGiB) := by
    rw [toNat_getDimmUnallocatedBytes (by rw [hwhole, hgoal.countedGiB]; exact hfits),
      toNat_usableCapacityBytes, hgoal.countedGiB, Nat.mul_sub]
  unfold layoutNonInterleavedDimm at hrun
  dsimp only at hrun
  split_ifs at hrun with hsome
  · split at hrun
    · cases hrun
    · rename_i laid hlaid
      obtain ⟨-, rfl⟩ := EStateM.Result.ok.inj hrun
      obtain ⟨uids, format, rfl⟩ := layoutInterleaveSet_ok (List.cons_ne_nil _ _) hlaid
      show ConfigGoal.totalGiB (updateAll _ _ _ _ _) = _
      rw [updateAll_cons, updateAll_nil, Function.update_self, hgoal.totalGiB_update, hleft,
        Nat.mul_div_cancel_left _ (by norm_num)]
      omega
  · obtain ⟨-, rfl⟩ := EStateM.Result.ok.inj hrun
    rw [gt_iff_lt, UInt64.lt_iff_toNat_lt, hleft, UInt64.toNat_zero] at hsome
    omega

/-- After the sets of one DIMM nothing is left on any of the DIMMs. -/
private theorem totalGiB_layoutUnallocated {dimms : List Dimm} {state state' : AppDirectState}
    (hnd : (dimms.map Dimm.uid).Nodup)
    (hgoals : ∀ d ∈ dimms, AppDirectGoal 1 d.capacityBytes (state.goals d.uid))
    (hrun : layoutUnallocatedCapacityWithNonInterleaved lib dimms state = .ok () state') :
    ∀ d ∈ dimms, (state'.goals d.uid).totalGiB = wholeGiB d.capacityBytes := by
  have hkeys : (dimms.flatMap fun d => [d.uid]) = dimms.map Dimm.uid := List.map_eq_flatMap.symm
  have hfoot := forM_footprint_ok AppDirectState.goals (fun d : Dimm => [d.uid])
    (P := GoalAt 1 dimms)
    (Q := fun uid goal => ∀ d ∈ dimms, d.uid = uid → goal.totalGiB = wholeGiB d.capacityBytes)
    (by rwa [hkeys]) (fun d _ => layoutNonInterleavedDimm_touches d) ?_ ?_ hrun
  · intro d hd
    exact hfoot.1 d.uid (by rw [hkeys]; exact List.mem_map_of_mem hd) d hd rfl
  · intro d hd s s' hP hpass uid huid e he heq
    obtain rfl := List.mem_singleton.mp huid
    obtain rfl := List.inj_on_of_nodup_map hnd he hd heq
    exact totalGiB_layoutNonInterleavedDimm (hP _ huid e he rfl) hpass
  · intro uid huid d hd heq
    exact heq ▸ hgoals d hd

/-- However the extent is laid out, when that ends normally every whole GiB is handed out. -/
private theorem totalGiB_layoutExtent {request : MemoryAllocationRequest}
    {state state' : AppDirectState} (hnd : (request.dimms.map Dimm.uid).Nodup)
    (hgoals : ∀ d ∈ request.dimms, AppDirectGoal 0 d.capacityBytes (state.goals d.uid))
    (hrun : layoutExtent lib request state = .ok () state') :
    ∀ d ∈ request.dimms, (state'.goals d.uid).totalGiB = wholeGiB d.capacityBytes := by
  unfold layoutExtent MemoryAllocationRequest.nonReservedDimms at hrun
  by_cases hinter : requestExtentIsInterleaved request = true
  · rw [if_pos hinter, bind_apply] at hrun
    have hone := layoutInterleavedExtentOnRequestedDimms_goals lib hnd state (by
      intro uid huid d hd heq
      exact heq ▸ hgoals d hd)
    cases hsets : layoutInterleavedExtentOnRequestedDimms lib request.dimms state with
    | error e s =>
      rw [hsets] at hrun
      cases hrun
    | ok u s =>
      rw [hsets] at hrun hone
      exact totalGiB_layoutUnallocated hnd
        (fun d hd => hone d.uid (List.mem_map_of_mem hd) d hd rfl) hrun
  · rw [if_neg hinter] at hrun
    exact totalGiB_layoutUnallocated hnd (fun d hd => (hgoals d hd).mono (Nat.zero_le 1)) hrun

end

/-! ### The law -/

section
variable {lib : NvmLibrary} {request : MemoryAllocationRequest} {goals : Goals} {dimms : List Dimm}

/-- A set of the covers is taken from the DIMMs of one socket that have capacity left. -/
private theorem mem_coverSets {set : List Dimm} (hset : set ∈ coverSets goals dimms) :
    ∃ socket ∈ groupByKey Dimm.socket dimms,
      set ∈ greedySets (removeUnavailableDimmsFromList goals socket.2) ∧
      set.Sublist socket.2 ∧ ∀ d ∈ set, hasUnallocatedCapacity goals d = true := by
  obtain ⟨socket, hsocket, hcover⟩ := List.mem_flatMap.mp hset
  have hsub := sublist_of_mem_greedySets _ set hcover
  exact ⟨socket, hsocket, hcover, hsub.trans List.filter_sublist,
    fun d hd => (List.mem_filter.mp (hsub.subset hd)).2⟩

/-- The sets of the covers have no DIMM in common. -/
private theorem pairwise_disjoint_coverSets (hnd : (dimms.map Dimm.uid).Nodup) :
    (coverSets goals dimms).Pairwise fun set other =>
      List.Disjoint (set.map Dimm.uid) (other.map Dimm.uid) := by
  have hndf := (perm_flatMap_socket dimms).nodup_iff.mpr hnd
  rw [List.nodup_flatMap] at hndf
  obtain ⟨hsockets, hpairwise⟩ := hndf
  rw [coverSets, List.pairwise_flatMap]
  refine ⟨fun socket hsocket => ?_, hpairwise.imp fun {socket other} hdisjoint set hset
    set' hset' uid huid huid' => ?_⟩
  · exact pairwise_disjoint_greedySets ((hsockets socket hsocket).sublist
      (List.filter_sublist.map _))
  · have hsub := (sublist_of_mem_greedySets _ set hset).trans List.filter_sublist
    have hsub' := (sublist_of_mem_greedySets _ set' hset').trans List.filter_sublist
    exact hdisjoint ((hsub.map Dimm.uid).subset huid) ((hsub'.map Dimm.uid).subset huid')

/-- The DIMMs of a socket are at distinct positions. -/
private theorem nodup_dimmLocation (hnd : (dimms.map Dimm.uid).Nodup)
    (hpositions : ∀ d ∈ dimms, ∀ e ∈ dimms, d.socket = e.socket →
      dimmLocation d = dimmLocation e → d = e) {socket : UInt16 × List Dimm}
    (hsocket : socket ∈ groupByKey Dimm.socket dimms) : (socket.2.map dimmLocation).Nodup := by
  have hndf := (perm_flatMap_socket dimms).nodup_iff.mpr hnd
  have hnodup : socket.2.Nodup :=
    List.Nodup.of_map _ ((List.nodup_flatMap.mp hndf).1 socket hsocket)
  refine hnodup.map_on fun d hd e he hsame => ?_
  exact hpositions d (mem_of_mem_groupByKey hsocket hd) e (mem_of_mem_groupByKey hsocket he)
    ((key_of_mem_groupByKey hsocket hd).trans (key_of_mem_groupByKey hsocket he).symm) hsame

/-- A set that can be laid out has a member. -/
private theorem ne_nil_of_canBeLaidOut {set : List Dimm}
    (h : canBeLaidOut lib goals set = true) : set ≠ [] := by
  rintro rfl
  exact Bool.false_ne_true h

/-- When the whole GiB of all DIMMs together fit in 64 bits as bytes, 64 bits see a GiB left for each
member of a set of the covers. -/
theorem length_le_seenLeftGiB (hnd : (dimms.map Dimm.uid).Nodup)
    (hgoals : ∀ d ∈ dimms, AppDirectGoal 0 d.capacityBytes (goals d.uid))
    (hcapacity : (dimms.map fun d => wholeGiB d.capacityBytes).sum < 2 ^ 34) {set : List Dimm}
    (hset : set ∈ coverSets goals dimms) : set.length ≤ seenLeftGiB goals set := by
  obtain ⟨socket, hsocket, -, hsub, havailable⟩ := mem_coverSets hset
  have hsubset : set ⊆ dimms := fun d hd => mem_of_mem_groupByKey hsocket (hsub.subset hd)
  have hndf := (perm_flatMap_socket dimms).nodup_iff.mpr hnd
  have hnodup : set.Nodup :=
    (List.Nodup.of_map _ ((List.nodup_flatMap.mp hndf).1 socket hsocket)).sublist hsub
  have hone : ∀ d ∈ set, 1 ≤ leftGiB goals d := by
    intro d hd
    have hgoal := hgoals d (hsubset hd)
    have hleft := (hasUnallocatedCapacity_iff (hgoal.countedGiB ▸ hgoal.fits)).mp (havailable d hd)
    rw [hgoal.countedGiB] at hleft
    exact Nat.sub_pos_of_lt hleft
  have hlower := sum_map_le_sum_map_of_le hone
  rw [List.map_const', List.sum_replicate, Nat.nsmul_eq_mul, Nat.mul_one] at hlower
  have hupper : (set.map (leftGiB goals)).sum ≤
      (dimms.map fun d => wholeGiB d.capacityBytes).sum :=
    (sum_map_le_sum_map_of_le fun d _ => Nat.sub_le _ _).trans
      (sum_map_le_sum_map_of_subset hnodup hsubset _)
  rw [seenLeftGiB, Nat.mod_eq_of_lt (hupper.trans_lt hcapacity)]
  exact hlower

end

/-- The step starts with empty goals. -/
def emptyState : AppDirectState := ⟨fun _ => {}, 1⟩

/-- An empty goal fits on any DIMM. -/
private theorem appDirectGoal_emptyState (d : Dimm) :
    AppDirectGoal 0 d.capacityBytes (emptyState.goals d.uid) :=
  ⟨Nat.zero_le _, ⟨fun h => absurd rfl h, fun h => absurd rfl h⟩, le_rfl⟩

/-- A request for all of two DIMMs on one channel of the two memory controllers. -/
def bothControllersRequest (gib gib' : UInt64) : MemoryAllocationRequest where
  dimms := [LayoutBuilder.plainDimm ['a'] gib 0 0, LayoutBuilder.plainDimm ['b'] gib' 1 0]

end IxpDimm.LayoutStepAppDirect
