import IxpDimm.MemoryAllocator.CreatedSets
import IxpDimm.MemoryAllocator.LayoutBuilder

/-!
# The ids of the interleave sets that are created

The App Direct step numbers its sets from the id after the largest one in use.  The ids in use are
those of the interleave sets that exist, of the goals of the manageable DIMMs and of the goals under
construction (`usedSetIds`).

The counter has 16 bits, as the ids of the platform config data do, and is not checked: the ids are
fresh as long as it does not run around (`freshSetIds_iff`).
-/

namespace IxpDimm.LayoutStepAppDirect

open Foundation LayoutBuilder MemoryAllocationUtil

/-! ### The ids in use -/

/-- The ids of the interleave sets of a goal. -/
def goalSetIds (goal : ConfigGoal) : List ℕ :=
  (if goal.appDirectCount > 0 then [goal.appDirect1SetId.toNat] else []) ++
    if goal.appDirectCount > 1 then [goal.appDirect2SetId.toNat] else []

/-- The ids of the goal of a DIMM, if it has one. -/
def configGoalSetIds (lib : NvmLibrary) (uid : Uid) : List ℕ :=
  match lib.getConfigGoal uid with
  | .ok goal => goalSetIds goal
  | .error _ => []

/-- The ids of the interleave sets that exist. -/
def poolSetIds (lib : NvmLibrary) : List ℕ :=
  match lib.getPools with
  | .ok pools => pools.flatten.map UInt32.toNat
  | .error _ => []

/-- The ids in use: those of existing interleave sets, of the goals of the manageable DIMMs, and of
the goals under construction. -/
def usedSetIds (lib : NvmLibrary) (layout : MemoryAllocationLayout) : List ℕ :=
  poolSetIds lib ++
    (match lib.getManageableUids with
      | .ok uids => uids.flatMap (configGoalSetIds lib)
      | .error _ => []) ++
    layout.goalUids.flatMap fun uid => goalSetIds (layout.goals uid)

/-- The largest of some ids. -/
def largestId (ids : List ℕ) : ℕ := ids.foldr max 0

/-- The ids handed out are distinct, none of them is zero, and none of them is in use. -/
structure FreshSetIds (lib : NvmLibrary) (layout : MemoryAllocationLayout)
    (created : List CreatedSet) : Prop where
  /-- Distinct sets have distinct ids. -/
  distinct : (created.map CreatedSet.setId).Nodup
  /-- No id is zero. -/
  ne_zero : ∀ set ∈ created, set.setId ≠ 0
  /-- No id is in use. -/
  unused : ∀ set ∈ created, set.setId.toNat ∉ usedSetIds lib layout

/-! ### The next id -/

/-- The largest id of two lists. -/
private theorem largestId_append (ids ids' : List ℕ) :
    largestId (ids ++ ids') = max (largestId ids) (largestId ids') := by
  induction ids with
  | nil => exact (Nat.zero_max _).symm
  | cons id ids ih =>
    have hcons : ∀ l, largestId (id :: l) = max id (largestId l) := fun _ => rfl
    rw [List.cons_append, hcons, hcons, ih, max_assoc]

/-- An id is at most the largest one. -/
private theorem le_largestId {ids : List ℕ} {id : ℕ} (h : id ∈ ids) : id ≤ largestId ids := by
  induction ids with
  | nil => cases h
  | cons first ids ih =>
    rcases List.mem_cons.mp h with rfl | hmem
    · exact Nat.le_max_left _ _
    · exact (ih hmem).trans (Nat.le_max_right _ _)

/-- One update of the maximum with an id of 16 bits. -/
private theorem toNat_raiseMaxId {maxId : UInt16} {id : UInt32} (hid : id.toNat < 2 ^ 16) :
    (raiseMaxId maxId id).toNat = max maxId.toNat id.toNat := by
  have hmax : maxId.toUInt32.toNat = maxId.toNat := UInt16.toNat_toUInt32 maxId
  rw [raiseMaxId]
  split_ifs with h
  · rw [gt_iff_lt, UInt32.lt_iff_toNat_lt, hmax] at h
    rw [UInt32.toNat_toUInt16, Nat.mod_eq_of_lt hid, max_eq_right h.le]
  · rw [gt_iff_lt, UInt32.lt_iff_toNat_lt, hmax, not_lt] at h
    rw [max_eq_left h]

/-- The maximum after the interleave sets that exist. -/
private theorem toNat_getLastInterleaveSetIdFromCurrentConfig {pools : List (List UInt32)}
    (hindex : ∀ ilsets ∈ pools, ∀ index ∈ ilsets, index.toNat < 2 ^ 16) (maxId : UInt16) :
    (getLastInterleaveSetIdFromCurrentConfig pools maxId).toNat =
      max maxId.toNat (largestId (pools.flatten.map UInt32.toNat)) := by
  have hsets : ∀ (ilsets : List UInt32) (maxId : UInt16), (∀ index ∈ ilsets, index.toNat < 2 ^ 16) →
      (ilsets.foldl raiseMaxId maxId).toNat =
        max maxId.toNat (largestId (ilsets.map UInt32.toNat)) := by
    intro ilsets
    induction ilsets with
    | nil => exact fun maxId _ => (Nat.max_zero _).symm
    | cons index ilsets ih =>
      intro maxId h
      rw [List.forall_mem_cons] at h
      rw [List.foldl_cons, ih _ h.2, toNat_raiseMaxId h.1, max_assoc]
      rfl
  rw [getLastInterleaveSetIdFromCurrentConfig]
  induction pools generalizing maxId with
  | nil => exact (Nat.max_zero _).symm
  | cons ilsets pools ih =>
    rw [List.forall_mem_cons] at hindex
    rw [List.foldl_cons, ih hindex.2, hsets _ _ hindex.1, List.flatten_cons, List.map_append,
      largestId_append, max_assoc]

/-- The largest id of a goal. -/
private theorem largestId_goalSetIds (goal : ConfigGoal) :
    largestId (goalSetIds goal) =
      max (if goal.appDirectCount > 0 then goal.appDirect1SetId.toNat else 0)
        (if goal.appDirectCount > 1 then goal.appDirect2SetId.toNat else 0) := by
  rw [goalSetIds, largestId_append]
  congr 1
  · split_ifs
    · exact Nat.max_zero _
    · rfl
  · split_ifs
    · exact Nat.max_zero _
    · rfl

/-- One update of the maximum with an id that counts under a condition. -/
private theorem toNat_raiseIf {p : Prop} [Decidable p] (maxId id : UInt16) :
    (if p ∧ id > maxId then id else maxId).toNat = max maxId.toNat (if p then id.toNat else 0) := by
  by_cases hp : p
  · by_cases hlt : id > maxId
    · have hle := UInt16.lt_iff_toNat_lt.mp hlt
      rw [if_pos ⟨hp, hlt⟩, if_pos hp, max_eq_right hle.le]
    · have hle := UInt16.le_iff_toNat_le.mp (UInt16.not_lt.mp hlt)
      rw [if_neg (fun h => hlt h.2), if_pos hp, max_eq_left hle]
  · rw [if_neg (fun h => hp h.1), if_neg hp, Nat.max_zero]

/-- The maximum of the goal of a DIMM. -/
private theorem toNat_getDimmInterleaveInfoMaxSetIndex {lib : NvmLibrary} {uid : Uid} {id : UInt16}
    (h : getDimmInterleaveInfoMaxSetIndex lib uid = .ok id) :
    id.toNat = largestId (configGoalSetIds lib uid) := by
  rw [getDimmInterleaveInfoMaxSetIndex] at h
  rw [configGoalSetIds]
  cases hgoal : lib.getConfigGoal uid with
  | ok goal =>
    rw [hgoal] at h
    dsimp only at h ⊢
    rw [← apply_ite] at h
    obtain rfl := Except.ok.inj h
    rw [largestId_goalSetIds, toNat_raiseIf]
    congr 1
    split_ifs
    · rfl
    · rfl
  | error code =>
    rw [hgoal] at h
    dsimp only at h ⊢
    split_ifs at h
    obtain rfl := Except.ok.inj h
    rfl

/-- The maximum after the goals of the DIMMs. -/
private theorem toNat_foldlM_configGoals {lib : NvmLibrary} {uids : List Uid} {maxId last : UInt16}
    (h : (uids.foldlM (fun maxId uid => do
      let maxDimmInterleaveIndex ← getDimmInterleaveInfoMaxSetIndex lib uid
      pure (raiseMaxId maxId maxDimmInterleaveIndex.toUInt32)) maxId :
        Except LayoutException UInt16) = .ok last) :
    last.toNat = max maxId.toNat (largestId (uids.flatMap (configGoalSetIds lib))) := by
  induction uids generalizing maxId with
  | nil =>
    obtain rfl := Except.ok.inj h
    exact (Nat.max_zero _).symm
  | cons uid uids ih =>
    rw [List.foldlM_cons] at h
    obtain ⟨next, hnext, hrest⟩ := except_bind_ok h
    obtain ⟨id, hid, hpure⟩ := except_bind_ok hnext
    obtain rfl := Except.ok.inj hpure
    have hlt : id.toUInt32.toNat < 2 ^ 16 := by
      rw [UInt16.toNat_toUInt32]
      exact id.toNat_lt
    rw [ih hrest, toNat_raiseMaxId hlt, UInt16.toNat_toUInt32,
      toNat_getDimmInterleaveInfoMaxSetIndex hid, List.flatMap_cons, largestId_append, max_assoc]

/-- The maximum after the goals under construction. -/
private theorem toNat_getLastInterleaveSetIdFromLayout (layout : MemoryAllocationLayout)
    (maxId : UInt16) :
    (getLastInterleaveSetIdFromLayout layout maxId).toNat = max maxId.toNat
      (largestId (layout.goalUids.flatMap fun uid => goalSetIds (layout.goals uid))) := by
  rw [getLastInterleaveSetIdFromLayout]
  generalize layout.goalUids = uids
  induction uids generalizing maxId with
  | nil => exact (Nat.max_zero _).symm
  | cons uid uids ih =>
    rw [List.foldl_cons, ih, List.flatMap_cons, largestId_append, largestId_goalSetIds]
    dsimp only
    rw [toNat_raiseIf, toNat_raiseIf, max_assoc, max_assoc, ← max_assoc _ _ (largestId _),
      max_comm (if (layout.goals uid).appDirectCount > 1 then _ else _), max_assoc]

/-- The next id is the one after the largest in use, in 16 bits. -/
private theorem getNextAvailableInterleaveSetId_spec {lib : NvmLibrary}
    {layout : MemoryAllocationLayout} {start : UInt16}
    (hindex : ∀ pools, lib.getPools = .ok pools →
      ∀ ilsets ∈ pools, ∀ index ∈ ilsets, index.toNat < 2 ^ 16)
    (h : getNextAvailableInterleaveSetId lib layout = .ok start) :
    largestId (usedSetIds lib layout) < 2 ^ 16 ∧
      start = UInt16.ofNat (largestId (usedSetIds lib layout) + 1) := by
  rw [getNextAvailableInterleaveSetId] at h
  cases hpools : lib.getPools with
  | error code =>
    rw [hpools] at h
    cases h
  | ok pools =>
    rw [hpools] at h
    obtain ⟨maxId, hgoals, hpure⟩ := except_bind_ok h
    obtain rfl := Except.ok.inj hpure
    rw [getLastInterleaveSetIdFromConfigGoals] at hgoals
    cases huids : lib.getManageableUids with
    | error code =>
      rw [huids] at hgoals
      cases hgoals
    | ok uids =>
      rw [huids] at hgoals
      have hmax : (getLastInterleaveSetIdFromLayout layout maxId).toNat =
          largestId (usedSetIds lib layout) := by
        rw [toNat_getLastInterleaveSetIdFromLayout, toNat_foldlM_configGoals hgoals,
          toNat_getLastInterleaveSetIdFromCurrentConfig (hindex pools hpools), usedSetIds,
          poolSetIds, hpools, huids, largestId_append, largestId_append]
        exact congrArg (max · _) (congrArg (max · _) (Nat.zero_max _))
      rw [← hmax]
      refine ⟨UInt16.toNat_lt _, ?_⟩
      rw [← UInt16.toNat_inj, UInt16.toNat_ofNat', UInt16.toNat_add]
      rfl

/-! ### The ids that are handed out -/

/-- The sets are numbered one after the other. -/
structure Numbers (state : AppDirectState) (created : List CreatedSet) (state' : AppDirectState) :
    Prop where
  /-- The ids. -/
  ids : created.map CreatedSet.setId =
    (List.range created.length).map fun k => state.nextInterleaveId + UInt16.ofNat k
  /-- The next id. -/
  next : state'.nextInterleaveId = state.nextInterleaveId + UInt16.ofNat created.length

/-- Numbering composes. -/
private theorem composes_numbers : Composes Numbers where
  nil state := ⟨rfl, (UInt16.add_zero _).symm⟩
  append := by
    intro s t u xs ys hxs hys
    refine ⟨?_, ?_⟩
    · rw [List.map_append, hxs.ids, hys.ids, hxs.next, List.length_append, List.range_add,
        List.map_append, List.map_map]
      congr 1
      refine List.map_congr_left fun k _ => ?_
      rw [Function.comp_apply, UInt16.ofNat_add, UInt16.add_assoc]
    · rw [hys.next, hxs.next, List.length_append, UInt16.ofNat_add, UInt16.add_assoc]

/-- The sets of the extent are numbered. -/
private theorem numbers_createdSets (lib : NvmLibrary) (request : MemoryAllocationRequest)
    (state : AppDirectState) :
    Numbers state (createdSets lib request state) (finalState (layoutExtent lib request state)) := by
  refine createdSets_rule composes_numbers ?_ request state
  intro dimms bytes s s' hne hlaid
  obtain ⟨uids, format, rfl⟩ := layoutInterleaveSet_ok hne hlaid
  refine ⟨?_, rfl⟩
  show [s.nextInterleaveId] = [s.nextInterleaveId + UInt16.ofNat 0]
  rw [show UInt16.ofNat 0 = 0 from rfl, UInt16.add_zero]

/-- The ids that one layout hands out are fresh exactly when no set is created or the largest id in
use and the number of sets together stay below `2 ^ 16`. -/
theorem freshSetIds_iff (lib : NvmLibrary) (request : MemoryAllocationRequest)
    (layout : MemoryAllocationLayout) (start : UInt16)
    (hindex : ∀ pools, lib.getPools = .ok pools →
      ∀ ilsets ∈ pools, ∀ index ∈ ilsets, index.toNat < 2 ^ 16)
    (hstart : getNextAvailableInterleaveSetId lib layout = .ok start) :
    FreshSetIds lib layout (createdSets lib request ⟨layout.goals, start⟩) ↔
      createdSets lib request ⟨layout.goals, start⟩ = [] ∨
      largestId (usedSetIds lib layout) +
        (createdSets lib request ⟨layout.goals, start⟩).length < 2 ^ 16 := by
  obtain ⟨hlargest, rfl⟩ := getNextAvailableInterleaveSetId_spec hindex hstart
  have hids := (numbers_createdSets lib request
    ⟨layout.goals, UInt16.ofNat (largestId (usedSetIds lib layout) + 1)⟩).ids
  generalize createdSets lib request _ = created at hids ⊢
  generalize hmax : largestId (usedSetIds lib layout) = largest at hlargest hids ⊢
  dsimp only at hids
  have hid : ∀ k, UInt16.ofNat (largest + 1) + UInt16.ofNat k = UInt16.ofNat (largest + 1 + k) :=
    fun k => (UInt16.ofNat_add _ _).symm
  simp only [hid] at hids
  have htoNat : ∀ k, (UInt16.ofNat (largest + 1 + k)).toNat = (largest + 1 + k) % 2 ^ 16 :=
    fun k => UInt16.toNat_ofNat'
  have hmem : ∀ set ∈ created, ∃ k < created.length, set.setId = UInt16.ofNat (largest + 1 + k) := by
    intro set hset
    have hmap : set.setId ∈ created.map CreatedSet.setId := List.mem_map_of_mem hset
    rw [hids] at hmap
    obtain ⟨k, hk, heq⟩ := List.mem_map.mp hmap
    exact ⟨k, List.mem_range.mp hk, heq.symm⟩
  constructor
  · intro hfresh
    by_contra hover
    rw [not_or, not_lt] at hover
    -- the counter comes to zero
    have hzero : (0 : UInt16) ∈ created.map CreatedSet.setId := by
      have hlength := List.length_pos_iff.mpr hover.1
      rw [hids]
      refine List.mem_map.mpr ⟨2 ^ 16 - 1 - largest, List.mem_range.mpr (by omega), ?_⟩
      rw [← UInt16.toNat_inj, htoNat, UInt16.toNat_zero]
      omega
    obtain ⟨set, hset, heq⟩ := List.mem_map.mp hzero
    exact hfresh.ne_zero set hset heq
  · rintro (rfl | hfits)
    · exact ⟨List.nodup_nil, fun _ hset => absurd hset List.not_mem_nil,
        fun _ hset => absurd hset List.not_mem_nil⟩
    · refine ⟨?_, fun set hset heq => ?_, fun set hset hused => ?_⟩
      · rw [hids]
        refine List.Nodup.map_on ?_ List.nodup_range
        intro k hk l hl heq
        rw [List.mem_range] at hk hl
        rw [← UInt16.toNat_inj, htoNat, htoNat] at heq
        omega
      · obtain ⟨k, hk, hsetId⟩ := hmem set hset
        rw [hsetId, ← UInt16.toNat_inj, htoNat, UInt16.toNat_zero] at heq
        omega
      · obtain ⟨k, hk, hsetId⟩ := hmem set hset
        have hle := le_largestId hused
        rw [hmax, hsetId, htoNat] at hle
        omega

/-- The library of a platform with one interleave set of the given id. -/
private def oneSetLibrary (index : UInt32) : NvmLibrary :=
  { plainLibrary with getPools := .ok [[index]] }

/-- A request for all of a DIMM of five GiB. -/
private def oneDimmRequest : MemoryAllocationRequest where
  appDirectExtent := { capacityGiB := 5 }
  dimms := [plainDimm ['a'] 5 0 0]

/-- The indices of that library have 16 bits. -/
private theorem oneSetLibrary_index {index : UInt32} (h : index.toNat < 2 ^ 16) :
    ∀ pools, (oneSetLibrary index).getPools = .ok pools →
      ∀ ilsets ∈ pools, ∀ index ∈ ilsets, index.toNat < 2 ^ 16 := by
  intro pools hpools
  obtain rfl := Except.ok.inj hpools
  exact List.forall_mem_singleton.mpr (List.forall_mem_singleton.mpr h)

/-- Next to the set 7, the ids are fresh. -/
theorem freshSetIds_afterSeven :
    FreshSetIds (oneSetLibrary 7) {} (createdSets (oneSetLibrary 7) oneDimmRequest ⟨fun _ => {}, 8⟩) :=
  (freshSetIds_iff (oneSetLibrary 7) oneDimmRequest {} 8 (oneSetLibrary_index (by decide)) rfl).mpr
    (Or.inr (by decide))

/-- Next to the set 65535, the first id is zero. -/
theorem not_freshSetIds_afterLast :
    ¬ ∀ (lib : NvmLibrary) (request : MemoryAllocationRequest) (layout : MemoryAllocationLayout)
      (start : UInt16), (∀ pools, lib.getPools = .ok pools →
        ∀ ilsets ∈ pools, ∀ index ∈ ilsets, index.toNat < 2 ^ 16) →
      getNextAvailableInterleaveSetId lib layout = .ok start →
      FreshSetIds lib layout (createdSets lib request ⟨layout.goals, start⟩) := by
  intro h
  have hfresh := h (oneSetLibrary 65535) oneDimmRequest {} 0 (oneSetLibrary_index (by decide)) rfl
  have hcreated : (createdSets (oneSetLibrary 65535) oneDimmRequest ⟨fun _ => {}, 0⟩).map
      CreatedSet.setId = [0] := by decide
  obtain ⟨set, hset, heq⟩ := List.mem_map.mp (hcreated ▸ List.mem_singleton_self (0 : UInt16))
  exact hfresh.ne_zero set hset heq

end IxpDimm.LayoutStepAppDirect
