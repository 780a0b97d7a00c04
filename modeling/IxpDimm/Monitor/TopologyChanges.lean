import IxpDimm.Foundation.Keyed
import IxpDimm.Monitor.LogEffect

/-!
# The changes that the start-up check reports

What has changed between a saved topology and the devices that are listed now: devices that are new
and stand at no missing DIMM's handle, devices that stand at the handle of a missing DIMM and so have
replaced it, devices that have moved to another handle, and DIMMs that are missing without a
replacement.  With distinct ids and handles the start-up check logs one event for each of these, and
then saves the listed devices (`checkDeviceStartUpStatus_changes`).

The map of devices is in the order of the ids, the lists are in any order, so the events are given up
to their order.
-/

namespace IxpDimm

open Foundation

/-! ### Changes -/

/-- The ids and the handles of the saved and of the listed DIMMs are distinct. -/
structure DistinctTopologies (saved : List TopologyState) (current : List DeviceDiscovery) :
    Prop where
  /-- The saved ids are distinct. -/
  savedUids : (saved.map TopologyState.uid).Nodup
  /-- The saved handles are distinct. -/
  savedHandles : (saved.map TopologyState.deviceHandle).Nodup
  /-- The listed ids are distinct. -/
  currentUids : (current.map DeviceDiscovery.uid).Nodup
  /-- The listed handles are distinct. -/
  currentHandles : (current.map DeviceDiscovery.deviceHandle).Nodup

/-- The rows of a saved topology have the ids of devices. -/
def SavedUidsOfDevices (saved : List TopologyState) : Prop :=
  ∀ row ∈ saved, ∃ device : DeviceDiscovery, row.uid = device.uid

section Changes

variable (lib : MonitorLibrary) (saved : List TopologyState) (current : List DeviceDiscovery)

/-- The saved DIMM with a handle that is not listed any more. -/
def missingAt (handle : UInt32) : Option TopologyState :=
  saved.find? fun row => row.uid ∉ current.map DeviceDiscovery.uid ∧ row.deviceHandle = handle

/-- One event for each listed DIMM that is not saved and whose handle is not that of a missing saved
DIMM. -/
def addedChanges : List Event :=
  (current.filter fun d => d.uid ∉ saved.map TopologyState.uid ∧
    missingAt saved current d.deviceHandle = none).map fun d =>
      addedEvent d.uid (getTopologyInfoForDevice lib d)

/-- One event with both ids for each listed DIMM that is not saved and whose handle is that of a
missing saved DIMM. -/
def replacedChanges : List Event :=
  current.filterMap fun d =>
    if d.uid ∉ saved.map TopologyState.uid then
      (missingAt saved current d.deviceHandle).map fun row =>
        replacedEvent row.uid d.uid (getTopologyInfoForDevice lib d)
    else none

/-- One event for each DIMM that is saved and listed with different handles. -/
def movedChanges : List Event :=
  (current.filter fun d => ∃ row ∈ saved, row.uid = d.uid ∧ row.deviceHandle ≠ d.deviceHandle).map
    fun d => movedEvent d.uid (getTopologyInfoForDevice lib d)

/-- One event for each saved DIMM that is not listed and not replaced. -/
def missingChanges : List Event :=
  (saved.filter fun row => row.uid ∉ current.map DeviceDiscovery.uid ∧
    ∀ d ∈ current, d.uid ∉ saved.map TopologyState.uid → d.deviceHandle ≠ row.deviceHandle).map
      fun row => missingEvent row.uid

/-! ### The map -/

/-- The entry of a listed device. -/
def listedInfo (d : DeviceDiscovery) : DeviceInfo :=
  match saved.find? fun row => row.uid = d.uid with
  | some row => storedDeviceInfo row (some (getTopologyInfoForDevice lib d))
  | none => getTopologyInfoForDevice lib d

/-- The entries of the map: the listed devices, and the saved ones that are not listed. -/
def mapEntries : DeviceMap :=
  current.map (fun d => (d.uid, listedInfo lib saved d)) ++
    (saved.filter fun row => row.uid ∉ current.map DeviceDiscovery.uid).map fun row =>
      (row.uid, storedDeviceInfo row none)

variable {lib saved current}

/-- Nothing is found by a key that no element has. -/
private theorem find?_eq_none_of_notMem {α : Type*} {key : α → Uid} {l : List α} {k : Uid}
    (h : k ∉ l.map key) : (l.find? fun a => key a = k) = none :=
  List.find?_eq_none.mpr fun a ha hka => h (List.mem_map.mpr ⟨a, ha, of_decide_eq_true hka⟩)

/-- What is found at a key among the listed devices. -/
private theorem lookup_listed (h : DistinctTopologies saved current) (k : Uid) :
    lookup k (fillMap DeviceDiscovery.uid
      (fun d (_ : Option DeviceInfo) => getTopologyInfoForDevice lib d) current []) =
      (current.find? fun d => d.uid = k).map (getTopologyInfoForDevice lib) := by
  by_cases hk : k ∈ current.map DeviceDiscovery.uid
  · obtain ⟨d, hd, rfl⟩ := List.mem_map.mp hk
    rw [lookup_fillMap_of_mem h.currentUids hd, find?_eq_some_of_mem h.currentUids hd,
      Option.map_some]
  · rw [lookup_fillMap_of_notMem hk, find?_eq_none_of_notMem hk, Option.map_none, lookup_nil]

/-- What is found at a key of the merged map. -/
private theorem lookup_merged (h : DistinctTopologies saved current) (k : Uid) :
    lookup k (fillMap TopologyState.uid storedDeviceInfo saved
      (fillMap DeviceDiscovery.uid (fun d _ => getTopologyInfoForDevice lib d) current [])) =
    (saved.find? fun row => row.uid = k).elim
      ((current.find? fun d => d.uid = k).map (getTopologyInfoForDevice lib)) fun row =>
        some (storedDeviceInfo row
          ((current.find? fun d => d.uid = k).map (getTopologyInfoForDevice lib))) := by
  by_cases hk : k ∈ saved.map TopologyState.uid
  · obtain ⟨row, hrow, rfl⟩ := List.mem_map.mp hk
    rw [lookup_fillMap_of_mem h.savedUids hrow, find?_eq_some_of_mem h.savedUids hrow,
      Option.elim_some, lookup_listed h]
  · rw [lookup_fillMap_of_notMem hk, find?_eq_none_of_notMem hk, Option.elim_none,
      lookup_listed h]

/-- The keys of the entries are distinct. -/
private theorem nodup_keys_mapEntries (h : DistinctTopologies saved current) :
    ((mapEntries lib saved current).map Prod.fst).Nodup := by
  rw [mapEntries, List.map_append, List.map_map, List.map_map, List.nodup_append]
  refine ⟨h.currentUids, h.savedUids.sublist (List.filter_sublist.map _), ?_⟩
  intro k hk j hj heq
  obtain ⟨row, hrow, rfl⟩ := List.mem_map.mp hj
  have hmissing := of_decide_eq_true (List.mem_filter.mp hrow).2
  rw [heq] at hk
  exact hmissing hk

/-- The merged map has these entries. -/
private theorem merged_perm (h : DistinctTopologies saved current) :
    (fillMap TopologyState.uid storedDeviceInfo saved
      (fillMap DeviceDiscovery.uid (fun d _ => getTopologyInfoForDevice lib d) current [])).Perm
      (mapEntries lib saved current) := by
  have hascending : Ascending (fillMap TopologyState.uid storedDeviceInfo saved
      (fillMap DeviceDiscovery.uid (fun d _ => getTopologyInfoForDevice lib d) current [])) :=
    Ascending.fillMap (Ascending.fillMap List.Pairwise.nil)
  refine (List.perm_ext_iff_of_nodup (.of_map Prod.fst hascending.nodup)
    (.of_map Prod.fst (nodup_keys_mapEntries h))).mpr ?_
  rintro ⟨k, info⟩
  rw [mem_iff_lookup hascending, lookup_merged h, mapEntries, List.mem_append, List.mem_map,
    List.mem_map]
  constructor
  · intro hfound
    cases hcurrent : current.find? fun d => decide (d.uid = k) with
    | some d =>
      have hd := List.mem_of_find?_eq_some hcurrent
      have hkey := List.find?_some hcurrent
      obtain rfl : d.uid = k := of_decide_eq_true hkey
      refine .inl ⟨d, hd, Prod.ext rfl (Option.some.inj ?_)⟩
      rw [← hfound, hcurrent, Option.map_some, listedInfo]
      cases saved.find? fun row => decide (row.uid = d.uid) <;> rfl
    | none =>
      rw [hcurrent, Option.map_none] at hfound
      cases hsaved : saved.find? fun row => decide (row.uid = k) with
      | none =>
        rw [hsaved] at hfound
        cases hfound
      | some row =>
        have hrow := List.mem_of_find?_eq_some hsaved
        have hkey := List.find?_some hsaved
        obtain rfl : row.uid = k := of_decide_eq_true hkey
        rw [hsaved, Option.elim_some] at hfound
        refine .inr ⟨row, List.mem_filter.mpr ⟨hrow, decide_eq_true fun hlisted => ?_⟩,
          Prod.ext rfl (Option.some.inj hfound)⟩
        obtain ⟨d, hd, hdk⟩ := List.mem_map.mp hlisted
        exact List.find?_eq_none.mp hcurrent d hd (decide_eq_true hdk)
  · rintro (⟨d, hd, heq⟩ | ⟨row, hrow, heq⟩)
    · obtain ⟨rfl, rfl⟩ := Prod.mk.inj heq
      rw [find?_eq_some_of_mem h.currentUids hd, Option.map_some, listedInfo]
      cases saved.find? fun row => decide (row.uid = d.uid) <;> rfl
    · obtain ⟨rfl, rfl⟩ := Prod.mk.inj heq
      obtain ⟨hrow, hmissing⟩ := List.mem_filter.mp hrow
      rw [find?_eq_some_of_mem h.savedUids hrow,
        find?_eq_none_of_notMem (of_decide_eq_true hmissing), Option.elim_some, Option.map_none]

/-- The entry of a listed device that was not saved. -/
private theorem listedInfo_of_notMem {d : DeviceDiscovery} (h : d.uid ∉ saved.map TopologyState.uid) :
    listedInfo lib saved d = getTopologyInfoForDevice lib d := by
  rw [listedInfo, find?_eq_none_of_notMem h]

/-- The entry of a listed device that was saved. -/
private theorem listedInfo_of_mem {row : TopologyState} (h : (saved.map TopologyState.uid).Nodup)
    (hrow : row ∈ saved) {d : DeviceDiscovery} (huid : row.uid = d.uid) :
    listedInfo lib saved d = storedDeviceInfo row (some (getTopologyInfoForDevice lib d)) := by
  rw [listedInfo, ← huid, find?_eq_some_of_mem h hrow]

/-- A listed device is discovered. -/
private theorem listedInfo_discovered (d : DeviceDiscovery) :
    (listedInfo lib saved d).discovered = true := by
  unfold listedInfo
  cases saved.find? fun row => decide (row.uid = d.uid) <;> rfl

/-- What is known of a listed device. -/
private theorem listedInfo_discovery (d : DeviceDiscovery) :
    (listedInfo lib saved d).discovery = d := by
  unfold listedInfo
  cases saved.find? fun row => decide (row.uid = d.uid) <;> rfl

/-- A listed device is added when it was not saved. -/
private theorem isAdded_listedInfo_iff (h : DistinctTopologies saved current) (d : DeviceDiscovery) :
    (listedInfo lib saved d).isAdded = true ↔ d.uid ∉ saved.map TopologyState.uid := by
  by_cases hd : d.uid ∈ saved.map TopologyState.uid
  · obtain ⟨row, hrow, huid⟩ := List.mem_map.mp hd
    rw [listedInfo_of_mem h.savedUids hrow huid]
    exact iff_of_false Bool.false_ne_true (not_not.mpr hd)
  · rw [listedInfo_of_notMem hd]
    exact iff_of_true rfl hd

/-- A listed device has moved when it was saved with another handle. -/
private theorem isMoved_listedInfo_iff (h : DistinctTopologies saved current) (d : DeviceDiscovery) :
    (listedInfo lib saved d).isMoved = true ↔
      ∃ row ∈ saved, row.uid = d.uid ∧ row.deviceHandle ≠ d.deviceHandle := by
  by_cases hd : d.uid ∈ saved.map TopologyState.uid
  · obtain ⟨row, hrow, huid⟩ := List.mem_map.mp hd
    rw [listedInfo_of_mem h.savedUids hrow huid]
    change (d.deviceHandle != row.deviceHandle) = true ↔ _
    rw [bne_iff_ne]
    constructor
    · exact fun hne => ⟨row, hrow, huid, hne.symm⟩
    · rintro ⟨other, hother, hotherUid, hne⟩
      rw [List.inj_on_of_nodup_map h.savedUids hother hrow (hotherUid.trans huid.symm)] at hne
      exact hne.symm
  · rw [listedInfo_of_notMem hd]
    refine iff_of_false Bool.false_ne_true ?_
    rintro ⟨row, hrow, huid, -⟩
    exact hd (List.mem_map.mpr ⟨row, hrow, huid⟩)

/-- The missing DIMM at a handle is the only one. -/
private theorem missingAt_eq_some_iff (h : DistinctTopologies saved current) (handle : UInt32)
    (row : TopologyState) : missingAt saved current handle = some row ↔
      row ∈ saved ∧ row.uid ∉ current.map DeviceDiscovery.uid ∧ row.deviceHandle = handle := by
  constructor
  · intro hfound
    have hkey := List.find?_some hfound
    exact ⟨List.mem_of_find?_eq_some hfound, of_decide_eq_true hkey⟩
  · rintro ⟨hrow, hmissing, rfl⟩
    cases hfound : missingAt saved current row.deviceHandle with
    | none =>
      exact absurd (decide_eq_true ⟨hmissing, rfl⟩) (List.find?_eq_none.mp hfound row hrow)
    | some other =>
      have hkey := List.find?_some hfound
      rw [List.inj_on_of_nodup_map h.savedHandles (List.mem_of_find?_eq_some hfound) hrow
        (of_decide_eq_true hkey).2]

/-- The search for a replaced DIMM finds the missing DIMM at the handle. -/
private theorem getReplacedDimmUid_eq (h : DistinctTopologies saved current) {devices : DeviceMap}
    (hperm : devices.Perm (mapEntries lib saved current)) (handle : UInt32) :
    getReplacedDimmUid devices handle =
      (missingAt saved current handle).elim [] TopologyState.uid := by
  have hentry : ∀ e ∈ devices,
      (!e.2.discovered && e.2.stored && e.2.storedState.deviceHandle == handle) = true →
      missingAt saved current handle = some e.2.storedState := by
    intro e he hmatch
    rcases List.mem_append.mp (hperm.subset he) with he | he
    · obtain ⟨d, -, rfl⟩ := List.mem_map.mp he
      rw [listedInfo_discovered] at hmatch
      cases hmatch
    · obtain ⟨row, hrow, rfl⟩ := List.mem_map.mp he
      obtain ⟨hrow, hmissing⟩ := List.mem_filter.mp hrow
      refine (missingAt_eq_some_iff h handle row).mpr ⟨hrow, of_decide_eq_true hmissing, ?_⟩
      exact beq_iff_eq.mp hmatch
  rw [getReplacedDimmUid]
  cases hfound : devices.find? fun e =>
      !e.2.discovered && e.2.stored && e.2.storedState.deviceHandle == handle with
  | some e =>
    have hmatch := List.find?_some hfound
    rw [hentry e (List.mem_of_find?_eq_some hfound) hmatch, Option.elim_some]
  | none =>
    cases hmissing : missingAt saved current handle with
    | none => rfl
    | some row =>
      obtain ⟨hrow, hunlisted, hhandle⟩ := (missingAt_eq_some_iff h handle row).mp hmissing
      have hmem : (row.uid, storedDeviceInfo row none) ∈ devices := by
        refine hperm.symm.subset (List.mem_append_right _ (List.mem_map.mpr ⟨row, ?_, rfl⟩))
        exact List.mem_filter.mpr ⟨hrow, decide_eq_true hunlisted⟩
      exact absurd (beq_iff_eq.mpr hhandle) (List.find?_eq_none.mp hfound _ hmem)

/-- The elements of a list that satisfy a predicate, with a function applied. -/
private theorem map_filter_eq_flatMap {α β : Type*} (p : α → Prop) [DecidablePred p] (f : α → β)
    (l : List α) : (l.filter (p ·)).map f = l.flatMap fun a => if p a then [f a] else [] := by
  induction l with
  | nil => rfl
  | cons a l ih =>
    rw [List.flatMap_cons, ← ih, List.filter_cons]
    by_cases ha : p a
    · rw [if_pos (decide_eq_true ha), if_pos ha, List.map_cons, List.singleton_append]
    · rw [if_neg (by simpa using ha), if_neg ha, List.nil_append]

/-- What a pass reports for the entries, when it reports nothing for the missing ones. -/
private theorem flatMap_perm_current {β : Type*} {devices : DeviceMap}
    (hperm : devices.Perm (mapEntries lib saved current)) (f : Uid × DeviceInfo → List β) :
    (devices.flatMap f).Perm (current.flatMap (fun d => f (d.uid, listedInfo lib saved d)) ++
      (saved.filter fun row => row.uid ∉ current.map DeviceDiscovery.uid).flatMap fun row =>
        f (row.uid, storedDeviceInfo row none)) := by
  refine (hperm.flatMap_right f).trans (.of_eq ?_)
  rw [mapEntries, List.flatMap_append, List.flatMap_map, List.flatMap_map]

/-- The uids of saved DIMMs are not empty. -/
private theorem uid_ne_nil (hsaved : SavedUidsOfDevices saved) {row : TopologyState}
    (hrow : row ∈ saved) : row.uid ≠ [] := by
  obtain ⟨device, huid⟩ := hsaved row hrow
  rw [huid]
  exact device.uid_ne_nil

/-- The first pass logs what has been added and replaced. -/
private theorem newDimmEvents_perm (h : DistinctTopologies saved current)
    (hsaved : SavedUidsOfDevices saved) {devices : DeviceMap}
    (hperm : devices.Perm (mapEntries lib saved current)) :
    (devices.flatMap (newDimmEvents devices)).Perm
      (addedChanges lib saved current ++ replacedChanges lib saved current) := by
  have hmissing : (saved.filter fun row => row.uid ∉ current.map DeviceDiscovery.uid).flatMap
      (fun row => newDimmEvents devices (row.uid, storedDeviceInfo row none)) = [] :=
    List.flatMap_eq_nil_iff.mpr fun row _ => rfl
  have hlisted : ∀ d ∈ current, newDimmEvents devices (d.uid, listedInfo lib saved d) =
      (if d.uid ∉ saved.map TopologyState.uid ∧ missingAt saved current d.deviceHandle = none then
        [addedEvent d.uid (getTopologyInfoForDevice lib d)] else []) ++
      (if d.uid ∉ saved.map TopologyState.uid then
        (missingAt saved current d.deviceHandle).map fun row =>
          replacedEvent row.uid d.uid (getTopologyInfoForDevice lib d) else none).toList := by
    intro d _
    rw [newDimmEvents]
    dsimp only
    by_cases hd : d.uid ∈ saved.map TopologyState.uid
    · obtain ⟨row, hrow, huid⟩ := List.mem_map.mp hd
      have hstored : (listedInfo lib saved d).isAdded = false := by
        rw [listedInfo_of_mem h.savedUids hrow huid]
        rfl
      rw [hstored, if_neg Bool.false_ne_true, if_neg fun hnot => hnot.1 hd,
        if_neg (not_not.mpr hd)]
      rfl
    · have hadded : (listedInfo lib saved d).isAdded = true := by
        rw [listedInfo_of_notMem hd]
        rfl
      have hhandle : (getTopologyInfoForDevice lib d).discovery.deviceHandle = d.deviceHandle := rfl
      rw [if_pos hadded, listedInfo_of_notMem hd, getReplacedDimmUid_eq h hperm, if_pos hd, hhandle]
      cases hat : missingAt saved current d.deviceHandle with
      | none =>
        rw [Option.elim_none, if_pos rfl, if_pos ⟨hd, rfl⟩]
        rfl
      | some row =>
        have hrow := ((missingAt_eq_some_iff h _ row).mp hat).1
        rw [Option.elim_some, if_neg (uid_ne_nil hsaved hrow), if_neg fun hnot => by cases hnot.2]
        rfl
  refine (flatMap_perm_current hperm _).trans ?_
  rw [hmissing, List.append_nil, List.flatMap_congr hlisted, addedChanges, replacedChanges,
    map_filter_eq_flatMap, List.filterMap_eq_flatMap_toList]
  exact (List.flatMap_append_perm current _ _).symm

/-- The first pass has noted a missing DIMM as replaced exactly when an unsaved device stands at its
handle. -/
private theorem mem_replacedUids_iff (h : DistinctTopologies saved current)
    (hsaved : SavedUidsOfDevices saved) {devices : DeviceMap}
    (hperm : devices.Perm (mapEntries lib saved current)) {row : TopologyState} (hrow : row ∈ saved)
    (hmissing : row.uid ∉ current.map DeviceDiscovery.uid) :
    row.uid ∈ devices.flatMap (replacedUidsOf devices) ↔
      ∃ d ∈ current, d.uid ∉ saved.map TopologyState.uid ∧ d.deviceHandle = row.deviceHandle := by
  have hof : ∀ e, row.uid ∈ replacedUidsOf devices e ↔ e.2.isAdded = true ∧
      e.2.discovery.deviceHandle = row.deviceHandle := by
    intro e
    have hat : getReplacedDimmUid devices e.2.discovery.deviceHandle = row.uid ↔
        e.2.discovery.deviceHandle = row.deviceHandle := by
      rw [getReplacedDimmUid_eq h hperm]
      constructor
      · intro huid
        cases hfound : missingAt saved current e.2.discovery.deviceHandle with
        | none =>
          rw [hfound] at huid
          exact absurd huid.symm (uid_ne_nil hsaved hrow)
        | some other =>
          rw [hfound] at huid
          obtain ⟨hother, -, hhandle⟩ := (missingAt_eq_some_iff h _ other).mp hfound
          rw [← hhandle, List.inj_on_of_nodup_map h.savedUids hother hrow huid]
      · intro hhandle
        rw [(missingAt_eq_some_iff h _ row).mpr ⟨hrow, hmissing, hhandle.symm⟩, Option.elim_some]
    rw [replacedUidsOf, ← hat]
    constructor
    · intro hmem
      split_ifs at hmem with hcond
      · exact ⟨hcond.1, (List.mem_singleton.mp hmem).symm⟩
      · exact absurd hmem List.not_mem_nil
    · rintro ⟨hadded, huid⟩
      rw [huid, if_pos ⟨hadded, uid_ne_nil hsaved hrow⟩]
      exact List.mem_singleton_self _
  rw [(hperm.flatMap_right _).mem_iff, List.mem_flatMap]
  constructor
  · rintro ⟨e, he, hmem⟩
    obtain ⟨hadded, hhandle⟩ := (hof e).mp hmem
    rcases List.mem_append.mp he with he | he
    · obtain ⟨d, hd, rfl⟩ := List.mem_map.mp he
      dsimp only at hadded hhandle
      rw [listedInfo_discovery] at hhandle
      exact ⟨d, hd, (isAdded_listedInfo_iff h d).mp hadded, hhandle⟩
    · obtain ⟨other, -, rfl⟩ := List.mem_map.mp he
      exact absurd hadded Bool.false_ne_true
  · rintro ⟨d, hd, hnew, hhandle⟩
    refine ⟨(d.uid, listedInfo lib saved d), List.mem_append_left _ (List.mem_map_of_mem hd), ?_⟩
    rw [hof]
    dsimp only
    rw [listedInfo_discovery]
    exact ⟨(isAdded_listedInfo_iff h d).mpr hnew, hhandle⟩

/-- The second pass logs what has moved and what is missing. -/
private theorem modifiedDimmEvents_perm (h : DistinctTopologies saved current)
    (hsaved : SavedUidsOfDevices saved) {devices : DeviceMap}
    (hperm : devices.Perm (mapEntries lib saved current)) :
    (devices.flatMap (modifiedDimmEvents (devices.flatMap (replacedUidsOf devices)))).Perm
      (movedChanges lib saved current ++ missingChanges saved current) := by
  refine (flatMap_perm_current hperm _).trans (.of_eq (congrArg₂ (· ++ ·) ?_ ?_))
  · rw [movedChanges, map_filter_eq_flatMap]
    refine List.flatMap_congr fun d _ => ?_
    have hlisted : ¬ (listedInfo lib saved d).isMissing = true := by
      rw [DeviceInfo.isMissing, listedInfo_discovered, Bool.not_true, Bool.and_false]
      exact Bool.false_ne_true
    have hevent : movedEvent d.uid (listedInfo lib saved d) =
        movedEvent d.uid (getTopologyInfoForDevice lib d) := by
      rw [movedEvent, listedInfo_discovery]
      rfl
    have hnone : missingUidsOf (devices.flatMap (replacedUidsOf devices))
        (d.uid, listedInfo lib saved d) = [] := if_neg fun hmissing => hlisted hmissing.1
    rw [modifiedDimmEvents, hnone, hevent]
    exact if_congr (isMoved_listedInfo_iff h d) rfl rfl
  · have hfilter : missingChanges saved current =
        ((saved.filter fun row => row.uid ∉ current.map DeviceDiscovery.uid).filter fun row =>
          ∀ d ∈ current, d.uid ∉ saved.map TopologyState.uid →
            d.deviceHandle ≠ row.deviceHandle).map fun row => missingEvent row.uid := by
      rw [missingChanges, List.filter_filter]
      refine congrArg _ (List.filter_congr fun row _ => ?_)
      rw [Bool.decide_and, Bool.and_comm]
    rw [hfilter, map_filter_eq_flatMap]
    refine List.flatMap_congr fun row hrow => ?_
    obtain ⟨hrow, hmissing⟩ := List.mem_filter.mp hrow
    have hreplaced := mem_replacedUids_iff h hsaved hperm hrow (of_decide_eq_true hmissing)
    have hnotMoved : ¬ (storedDeviceInfo row none).isMoved = true := Bool.false_ne_true
    rw [modifiedDimmEvents, if_neg hnotMoved, missingUidsOf]
    by_cases hnone : ∀ d ∈ current, d.uid ∉ saved.map TopologyState.uid →
        d.deviceHandle ≠ row.deviceHandle
    · rw [if_pos hnone, if_pos]
      · rfl
      · refine ⟨rfl, fun hmem => ?_⟩
        obtain ⟨d, hd, hnew, hhandle⟩ := hreplaced.mp hmem
        exact hnone d hd hnew hhandle
    · rw [if_neg hnone, if_neg]
      · rfl
      · rintro ⟨-, hnot⟩
        exact hnone fun d hd hnew hhandle => hnot (hreplaced.mpr ⟨d, hd, hnew, hhandle⟩)

/-- The rows that are saved are those of the listed devices. -/
private theorem rowsToSave_perm {devices : DeviceMap}
    (hperm : devices.Perm (mapEntries lib saved current)) :
    (rowsToSave lib devices).Perm
      (current.map fun d => topologyStateFor lib d.uid (getTopologyInfoForDevice lib d)) := by
  have hfilter : (mapEntries lib saved current).filter (fun e => e.2.discovered) =
      current.map fun d => (d.uid, listedInfo lib saved d) := by
    have hlisted : (current.map fun d => (d.uid, listedInfo lib saved d)).filter
        (fun e => e.2.discovered) = current.map fun d => (d.uid, listedInfo lib saved d) := by
      refine List.filter_eq_self.mpr fun e he => ?_
      obtain ⟨d, -, rfl⟩ := List.mem_map.mp he
      exact listedInfo_discovered d
    have hmissing : ((saved.filter fun row => row.uid ∉ current.map DeviceDiscovery.uid).map
        fun row => (row.uid, storedDeviceInfo row none)).filter (fun e => e.2.discovered) = [] := by
      refine List.filter_eq_nil_iff.mpr fun e he => ?_
      obtain ⟨row, -, rfl⟩ := List.mem_map.mp he
      exact Bool.false_ne_true
    rw [mapEntries, List.filter_append, hlisted, hmissing, List.append_nil]
  refine ((hperm.filter _).map _).trans (.of_eq ?_)
  rw [hfilter, List.map_map]
  refine List.map_congr_left fun d _ => ?_
  change topologyStateFor lib d.uid (listedInfo lib saved d) = _
  rw [listedInfo]
  cases saved.find? fun row => decide (row.uid = d.uid) <;> rfl

/-- The codes of the events for changes of the topology. -/
def EventCode.isTopologyChange : EventCode → Bool
  | configTopologyAddedConfiguredDevice | configTopologyAddedNewDevice
  | configTopologyMissingDevice | configTopologyReplacedConfiguredDevice
  | configTopologyReplacedNewDevice | configTopologyMovedDevice => true
  | _ => false

/-- The events that have been logged for changes of the topology. -/
def loggedChanges (store after : MonitorStore) : List Event :=
  (after.events.drop store.events.length).filter fun event => event.code.isTopologyChange

/-- The events of the first two passes are for changes of the topology. -/
theorem isTopologyChange_of_mem_changeEvents {devices : DeviceMap} {event : Event}
    (h : event ∈ changeEvents devices) : event.code.isTopologyChange = true := by
  rcases List.mem_append.mp h with h | h
  · obtain ⟨e, -, he⟩ := List.mem_flatMap.mp h
    unfold newDimmEvents addedEvent replacedEvent at he
    split_ifs at he <;> simp only [List.mem_singleton, List.not_mem_nil] at he <;> rw [he] <;> rfl
  · obtain ⟨e, -, he⟩ := List.mem_flatMap.mp h
    unfold modifiedDimmEvents at he
    split_ifs at he
    · rw [List.mem_singleton.mp he]
      rfl
    · obtain ⟨uid, -, rfl⟩ := List.mem_map.mp he
      rfl

/-- The events of the third pass are not. -/
theorem isTopologyChange_of_mem_goalEvents {e : Uid × DeviceInfo} {event : Event}
    (h : event ∈ goalEvents lib e) : event.code.isTopologyChange = false := by
  unfold goalEvents at h
  split_ifs at h
  · rw [List.mem_singleton.mp h]
    rfl
  · exact absurd h List.not_mem_nil

end Changes

/-- The changes that the start-up check logs are those of the first two passes. -/
theorem loggedChanges_eq {faults : DbFaults} (h : faults.WritesSucceed) (lib : MonitorLibrary)
    (store : MonitorStore) {devices : DeviceMap}
    (hdevices : getCurrentDeviceMapWithSavedTopology lib faults store = devices) :
    loggedChanges store (checkDeviceStartUpStatus lib faults store) =
      if isSavedTopologyStateValid faults.validForChanges store then changeEvents devices
      else [] := by
  obtain ⟨logged, heffect, hafter⟩ := checkDeviceStartUpStatus_eq h lib store hdevices
  have hgoals : (devices.flatMap (goalEvents lib)).filter (fun e => e.code.isTopologyChange) = [] := by
    refine List.filter_eq_nil_iff.mpr fun event hevent => ?_
    obtain ⟨e, -, he⟩ := List.mem_flatMap.mp hevent
    rw [isTopologyChange_of_mem_goalEvents he]
    exact Bool.false_ne_true
  rw [loggedChanges, hafter]
  dsimp only
  rw [heffect.events, List.drop_left' (List.length_map _), List.filter_append, hgoals,
    List.append_nil]
  refine List.filter_eq_self.mpr fun event hevent => ?_
  split_ifs at hevent
  · exact isTopologyChange_of_mem_changeEvents hevent
  · exact absurd hevent List.not_mem_nil

/-- The start-up check logs exactly one event for each change, and then the saved topology is that of
the listed devices. -/
theorem checkDeviceStartUpStatus_changes {lib : MonitorLibrary} {current : List DeviceDiscovery}
    (hcurrent : lib.getDevices = some current) {store : MonitorStore}
    (hvalid : store.topologyStateValid.getD 0 ≠ 0)
    (hdistinct : DistinctTopologies store.topology current)
    (hsaved : SavedUidsOfDevices store.topology) :
    (loggedChanges store (checkDeviceStartUpStatus lib {} store)).Perm
        (addedChanges lib store.topology current ++ replacedChanges lib store.topology current ++
          movedChanges lib store.topology current ++ missingChanges store.topology current) ∧
      (checkDeviceStartUpStatus lib {} store).topology.Perm
        (current.map fun d => topologyStateFor lib d.uid (getTopologyInfoForDevice lib d)) ∧
      (checkDeviceStartUpStatus lib {} store).topologyStateValid = some 1 := by
  have hflag : isSavedTopologyStateValid false store = true := by
    rw [isSavedTopologyStateValid, bne_iff_ne.mpr hvalid]
    rfl
  have hrows : getSavedTopologyState {} store = store.topology := by
    rw [getSavedTopologyState, if_pos hflag]
    by_cases hlength : 0 < store.topology.length
    · rw [decide_eq_true hlength]
      rfl
    · rw [decide_eq_false hlength, List.length_eq_zero_iff.mp (Nat.eq_zero_of_not_pos hlength)]
      rfl
  have hmap : getCurrentDeviceMapWithSavedTopology lib {} store =
      fillMap TopologyState.uid storedDeviceInfo store.topology (fillMap DeviceDiscovery.uid
        (fun d _ => getTopologyInfoForDevice lib d) current []) := by
    rw [getCurrentDeviceMapWithSavedTopology, if_pos hflag, addSavedTopologyStateToDeviceMap, hrows,
      getCurrentDeviceMap, addCurrentDevicesToDeviceMap, hcurrent]
  have hperm : (getCurrentDeviceMapWithSavedTopology lib {} store).Perm
      (mapEntries lib store.topology current) := by
    rw [hmap]
    exact merged_perm hdistinct
  have hwrites : DbFaults.WritesSucceed {} := ⟨rfl, fun _ => rfl⟩
  obtain ⟨logged, -, hafter⟩ := checkDeviceStartUpStatus_eq hwrites lib store rfl
  have hsave := rowsToSave_perm hperm
  have hnodup : ((rowsToSave lib (getCurrentDeviceMapWithSavedTopology lib {} store) ++ []).map
      TopologyState.deviceHandle).Nodup := by
    rw [List.append_nil]
    refine (hsave.map _).nodup_iff.mpr ?_
    rw [List.map_map]
    exact hdistinct.currentHandles
  have hall := insertRows_of_nodup hnodup
  have hinserted := perm_of_insertRows hall
  rw [List.append_nil] at hinserted
  refine ⟨?_, ?_, ?_⟩
  · rw [loggedChanges_eq hwrites lib store rfl, if_pos hflag, changeEvents, List.append_assoc]
    exact (newDimmEvents_perm hdistinct hsaved hperm).append
      (modifiedDimmEvents_perm hdistinct hsaved hperm)
  · rw [hafter]
    exact hinserted.trans hsave
  · rw [hafter]
    dsimp only
    rw [hall, if_pos rfl]

/-- A DIMM with a serial number at a handle. -/
private def dimmAt (serial : UInt8) (handle : UInt32) : DeviceDiscovery where
  deviceHandle := handle
  serialNumber := smallSerial serial

/-- The first DIMM has stayed, the third has moved to the fourth handle, and another one stands at
the handle of the second. -/
private def changedLibrary : MonitorLibrary where
  getDevices := some [dimmAt 1 1, dimmAt 3 4, dimmAt 4 2]
  getDeviceStatus := fun _ => some {}
  getConfigGoal := fun _ => none
  getSensors := fun _ => none

/-- Three DIMMs have been saved. -/
private def savedStore : MonitorStore where
  topology := [{ deviceHandle := 1, uid := (dimmAt 1 1).uid },
    { deviceHandle := 2, uid := (dimmAt 2 2).uid }, { deviceHandle := 3, uid := (dimmAt 3 3).uid }]
  topologyStateValid := some 1

/-- A replacement and a move are logged. -/
theorem checkDeviceStartUpStatus_changes_swap :
    DistinctTopologies savedStore.topology [dimmAt 1 1, dimmAt 3 4, dimmAt 4 2] ∧
      SavedUidsOfDevices savedStore.topology ∧
      (loggedChanges savedStore (checkDeviceStartUpStatus changedLibrary {} savedStore)).Perm
        (addedChanges changedLibrary savedStore.topology [dimmAt 1 1, dimmAt 3 4, dimmAt 4 2] ++
          replacedChanges changedLibrary savedStore.topology
            [dimmAt 1 1, dimmAt 3 4, dimmAt 4 2] ++
          movedChanges changedLibrary savedStore.topology [dimmAt 1 1, dimmAt 3 4, dimmAt 4 2] ++
          missingChanges savedStore.topology [dimmAt 1 1, dimmAt 3 4, dimmAt 4 2]) := by
  have hdistinct : DistinctTopologies savedStore.topology [dimmAt 1 1, dimmAt 3 4, dimmAt 4 2] :=
    ⟨by decide +kernel, by decide +kernel, by decide +kernel, by decide +kernel⟩
  have hsaved : SavedUidsOfDevices savedStore.topology :=
    List.forall_mem_cons.mpr ⟨⟨dimmAt 1 1, rfl⟩, List.forall_mem_cons.mpr ⟨⟨dimmAt 2 2, rfl⟩,
      List.forall_mem_cons.mpr ⟨⟨dimmAt 3 3, rfl⟩, fun _ h => absurd h List.not_mem_nil⟩⟩⟩
  exact ⟨hdistinct, hsaved,
    (checkDeviceStartUpStatus_changes rfl (by decide) hdistinct hsaved).1⟩

/-- The two events, in the order in which they are logged. -/
example : (loggedChanges savedStore (checkDeviceStartUpStatus changedLibrary {} savedStore)).map
    Event.code =
      [.configTopologyReplacedConfiguredDevice, .configTopologyMovedDevice] := by decide +kernel

end IxpDimm
