import IxpDimm.Monitor.TopologyChanges

/-!
# The start-up check when a call fails

A listing that fails leaves no devices, a read of the database that fails leaves no saved topology,
and the check goes on with what it has: DIMMs are reported as missing or as added, their events are
acknowledged, and the topology is saved anew.  `undisturbed_iff` says when this does no harm: the
saved topology is already that of the listed devices, and, if its rows have not been read, nothing is
compared with them and no goal is newly found to be applied.
-/

namespace IxpDimm

open Foundation

/-! ### What a start must not do -/

/-- A start-up check has left everything as it was: it has logged no change of the topology and
acknowledged no event, the saved topology and its flag are the same, and the next start without a
failure logs the changes that it would have logged. -/
structure Undisturbed (lib : MonitorLibrary) (faults : DbFaults) (store : MonitorStore) : Prop where
  /-- No change is logged. -/
  noChange : loggedChanges store (checkDeviceStartUpStatus lib faults store) = []
  /-- No event is acknowledged. -/
  noAcknowledgement :
    (checkDeviceStartUpStatus lib faults store).events.take store.events.length = store.events
  /-- The saved topology is the same. -/
  topology : (checkDeviceStartUpStatus lib faults store).topology = store.topology
  /-- The flag is the same. -/
  valid : (checkDeviceStartUpStatus lib faults store).topologyStateValid = store.topologyStateValid
  /-- The next start logs the same. -/
  nextStart : ∀ next : MonitorLibrary,
    loggedChanges (checkDeviceStartUpStatus lib faults store)
        (checkDeviceStartUpStatus next {} (checkDeviceStartUpStatus lib faults store)) =
      loggedChanges store (checkDeviceStartUpStatus next {} store)

/-- The saved rows are read and added to the map. -/
def rowsRead (faults : DbFaults) (store : MonitorStore) : Bool :=
  isSavedTopologyStateValid faults.validForMap store &&
    isSavedTopologyStateValid faults.validForStates store && !faults.stateCount && !faults.states

/-- The rows of the devices that are listed. -/
def listedRows (lib : MonitorLibrary) : List TopologyState :=
  (getCurrentDeviceMap lib).map fun e => topologyStateFor lib e.1 e.2

/-- The saved topology is that of some rows: they are saved in the order of their handles, up to the
first whose handle is already there, and the flag says whether there is none. -/
structure SavedAs (rows : List TopologyState) (store : MonitorStore) : Prop where
  /-- The handles ascend. -/
  ascending : (store.topology.map TopologyState.deviceHandle).Pairwise (· < ·)
  /-- The rows that are saved, and those that are not. -/
  rows : ∃ kept dropped, rows = kept ++ dropped ∧ store.topology.Perm kept ∧
    (∀ row ∈ dropped.head?, row.deviceHandle ∈ kept.map TopologyState.deviceHandle) ∧
    store.topologyStateValid = some (if dropped = [] then 1 else 0)

/-- The goal of a listed device has been applied. -/
def listedGoalApplied (lib : MonitorLibrary) (entry : Uid × DeviceInfo) : Prop :=
  entry.2.discovery.manageability = .validConfig ∧
    getConfigGoalStatusForDevice lib entry.1 = .success

/-- There is nothing that the check could lose.  The saved topology is that of the listed devices;
and if its rows are not read, the check for changes does not take it as valid or no device is listed,
and no event is open that an applied goal would acknowledge. -/
structure NothingToLose (lib : MonitorLibrary) (faults : DbFaults) (store : MonitorStore) :
    Prop where
  /-- The saved topology is that of the listed devices. -/
  topology : SavedAs (listedRows lib) store
  /-- Without the rows, nothing is compared. -/
  changes : rowsRead faults store = false →
    isSavedTopologyStateValid faults.validForChanges store = true → getCurrentDeviceMap lib = []
  /-- Without the rows, no goal is found to be applied while an event about the configuration of its
  device is open. -/
  goals : rowsRead faults store = false → ∀ entry ∈ getCurrentDeviceMap lib,
    listedGoalApplied lib entry → ∀ event ∈ store.events, event.actionRequired = true →
      event.type = .config ∨ event.type = .diagPlatformConfig → uidCmp event.uid entry.1 = false

/-! ### Acknowledgements -/

/-- An event stays open when no filter matches it. -/
theorem acknowledgeAll_eq_self_iff {event : Event} (h : event.actionRequired = true)
    (filters : List EventFilter) : acknowledgeAll filters event = event ↔
      ∀ filter ∈ filters, eventMatchesFilter filter event = false := by
  induction filters with
  | nil => exact iff_of_true rfl fun filter hfilter => absurd hfilter List.not_mem_nil
  | cons filter filters ih =>
    rw [acknowledgeAll, List.foldl_cons, List.forall_mem_cons]
    by_cases hmatch : eventMatchesFilter filter event = true
    · have hclosed : (event.acknowledge filter).actionRequired = false := by
        rw [Event.acknowledge, if_pos hmatch]
      refine iff_of_false (fun heq => ?_) fun hnone => ?_
      · rw [← acknowledgeAll, acknowledgeAll_eq_self hclosed] at heq
        rw [heq, h] at hclosed
        cases hclosed
      · rw [hnone.1] at hmatch
        cases hmatch
    · have hkept : event.acknowledge filter = event := if_neg hmatch
      rw [hkept, Bool.eq_false_iff.mpr hmatch]
      exact ih.trans ⟨fun hall => ⟨rfl, hall⟩, And.right⟩

/-- Events stay as they are when no filter matches an open one. -/
theorem map_acknowledgeAll_eq_self_iff (events : List Event) (filters : List EventFilter) :
    events.map (acknowledgeAll filters) = events ↔ ∀ event ∈ events, event.actionRequired = true →
      ∀ filter ∈ filters, eventMatchesFilter filter event = false := by
  have hself : events.map (acknowledgeAll filters) = events ↔
      ∀ event ∈ events, acknowledgeAll filters event = event := by
    nth_rewrite 2 [← List.map_id events]
    exact List.map_inj_left
  rw [hself]
  refine forall₂_congr fun event _ => ⟨fun heq hopen => ?_, fun hall => ?_⟩
  · exact (acknowledgeAll_eq_self_iff hopen filters).mp heq
  · cases hopen : event.actionRequired with
    | false => exact acknowledgeAll_eq_self hopen filters
    | true => exact (acknowledgeAll_eq_self_iff hopen filters).mpr (hall hopen)

/-! ### The map -/

/-- The map is that of the listed devices, with the rows that have been read. -/
theorem getCurrentDeviceMapWithSavedTopology_eq (lib : MonitorLibrary) (faults : DbFaults)
    (store : MonitorStore) : getCurrentDeviceMapWithSavedTopology lib faults store =
      fillMap TopologyState.uid storedDeviceInfo
        (if rowsRead faults store then store.topology else []) (getCurrentDeviceMap lib) := by
  have hrows : getSavedTopologyState faults store =
      if (isSavedTopologyStateValid faults.validForStates store && !faults.stateCount &&
        !faults.states) = true then store.topology else [] := by
    rw [getSavedTopologyState]
    cases isSavedTopologyStateValid faults.validForStates store <;> cases faults.stateCount <;>
      cases faults.states <;> cases store.topology <;> rfl
  rw [getCurrentDeviceMapWithSavedTopology, addSavedTopologyStateToDeviceMap, hrows, rowsRead]
  cases isSavedTopologyStateValid faults.validForMap store with
  | false => rfl
  | true => rw [if_pos rfl, Bool.true_and]

/-- The map of the listed devices is ordered. -/
theorem ascending_getCurrentDeviceMap (lib : MonitorLibrary) :
    Ascending (getCurrentDeviceMap lib) := by
  rw [getCurrentDeviceMap, addCurrentDevicesToDeviceMap]
  cases lib.getDevices with
  | none => exact List.Pairwise.nil
  | some devList => exact Ascending.fillMap List.Pairwise.nil

/-- An entry of the map of the listed devices is discovered and not stored. -/
theorem mem_getCurrentDeviceMap {lib : MonitorLibrary} {e : Uid × DeviceInfo}
    (h : e ∈ getCurrentDeviceMap lib) : e.2.discovered = true ∧ e.2.stored = false := by
  rw [getCurrentDeviceMap, addCurrentDevicesToDeviceMap] at h
  cases hdevices : lib.getDevices with
  | none =>
    rw [hdevices] at h
    exact absurd h List.not_mem_nil
  | some devList =>
    rw [hdevices] at h
    exact forall_mem_fillMap (P := fun e => e.2.discovered = true ∧ e.2.stored = false)
      (fun d _ => ⟨rfl, rfl⟩) (fun e he => absurd he List.not_mem_nil) e h

/-- What is saved for a map with a first entry. -/
private theorem rowsToSave_cons (lib : MonitorLibrary) (e : Uid × DeviceInfo) (map : DeviceMap) :
    rowsToSave lib (e :: map) =
      (if e.2.discovered then [topologyStateFor lib e.1 e.2] else []) ++ rowsToSave lib map := by
  rw [rowsToSave, List.filter_cons]
  split_ifs <;> rfl

/-- Storing a row in the map does not change what is saved. -/
private theorem rowsToSave_assign (lib : MonitorLibrary) (row : TopologyState) {map : DeviceMap}
    (h : Ascending map) :
    rowsToSave lib (assign row.uid (storedDeviceInfo row (lookup row.uid map)) map) =
      rowsToSave lib map := by
  induction map with
  | nil => rfl
  | cons e map ih =>
    have hcons := List.pairwise_cons.mp h
    rw [assign]
    split_ifs with hlt heq
    · have hnone : lookup row.uid (e :: map) = none := by
        refine lookup_eq_none_of_lt fun k hk => ?_
        rcases List.mem_cons.mp hk with rfl | hk
        · exact hlt
        · exact lt_trans hlt (hcons.1 k hk)
      rw [hnone, rowsToSave_cons]
      rfl
    · rw [lookup_cons, if_pos heq.symm, rowsToSave_cons, rowsToSave_cons, heq]
      rfl
    · rw [lookup_cons, if_neg (Ne.symm heq), rowsToSave_cons, rowsToSave_cons, ih hcons.2]

/-- Storing rows in the map does not change what is saved. -/
theorem rowsToSave_fillMap (lib : MonitorLibrary) (rows : List TopologyState) {map : DeviceMap}
    (h : Ascending map) :
    rowsToSave lib (fillMap TopologyState.uid storedDeviceInfo rows map) = rowsToSave lib map := by
  induction rows generalizing map with
  | nil => rfl
  | cons row rows ih => exact (ih (h.assign _ _)).trans (rowsToSave_assign lib row h)

/-! ### Without the saved rows -/

/-- No listed device replaces another when the saved rows have not been read. -/
private theorem replacedUidsOf_listed (lib : MonitorLibrary) (e : Uid × DeviceInfo) :
    replacedUidsOf (getCurrentDeviceMap lib) e = [] := by
  have hnone : getReplacedDimmUid (getCurrentDeviceMap lib) e.2.discovery.deviceHandle = [] := by
    have hfind : (getCurrentDeviceMap lib).find? (fun e' => !e'.2.discovered && e'.2.stored &&
        e'.2.storedState.deviceHandle == e.2.discovery.deviceHandle) = none := by
      refine List.find?_eq_none.mpr fun e' he' => ?_
      rw [(mem_getCurrentDeviceMap he').1]
      exact Bool.false_ne_true
    rw [getReplacedDimmUid, hfind]
  rw [replacedUidsOf, if_neg fun h => h.2 hnone]

/-- No listed device is missing when the saved rows have not been read. -/
private theorem missingUidsOf_listed {lib : MonitorLibrary} (replacedUids : List Uid)
    {e : Uid × DeviceInfo} (he : e ∈ getCurrentDeviceMap lib) :
    missingUidsOf replacedUids e = [] := by
  rw [missingUidsOf, DeviceInfo.isMissing, (mem_getCurrentDeviceMap he).2,
    if_neg fun h => Bool.false_ne_true h.1]

/-- Without the saved rows no event is acknowledged for a change. -/
private theorem changeFilters_listed (lib : MonitorLibrary) :
    changeFilters (getCurrentDeviceMap lib) = [] := by
  rw [changeFilters, List.append_eq_nil_iff, List.flatMap_eq_nil_iff, List.flatMap_eq_nil_iff]
  refine ⟨fun e _ => ?_, fun e he => ?_⟩
  · rw [replacedUidsOf_listed, List.map_nil]
  · rw [missingUidsOf_listed _ he, List.map_nil]

/-- Without the saved rows every listed device is reported. -/
private theorem changeEvents_listed_eq_nil_iff (lib : MonitorLibrary) :
    changeEvents (getCurrentDeviceMap lib) = [] ↔ getCurrentDeviceMap lib = [] := by
  constructor
  · intro hnil
    refine List.eq_nil_iff_forall_not_mem.mpr fun e he => ?_
    have hevents := List.flatMap_eq_nil_iff.mp (List.append_eq_nil_iff.mp hnil).1 e he
    obtain ⟨hdiscovered, hstored⟩ := mem_getCurrentDeviceMap he
    have hadded : e.2.isAdded = true := by rw [DeviceInfo.isAdded, hdiscovered, hstored]; rfl
    rw [newDimmEvents, if_pos hadded] at hevents
    split_ifs at hevents
  · intro hnil
    rw [hnil]
    rfl

/-- Without the saved rows the goals that have been applied are found. -/
private theorem goalApplied_listed_iff {lib : MonitorLibrary} {e : Uid × DeviceInfo}
    (he : e ∈ getCurrentDeviceMap lib) : goalApplied lib e = true ↔ listedGoalApplied lib e := by
  obtain ⟨hdiscovered, hstored⟩ := mem_getCurrentDeviceMap he
  rw [goalApplied, hdiscovered, hstored, listedGoalApplied, Bool.true_and, Bool.not_false,
    Bool.true_or, Bool.and_true, Bool.and_eq_true, decide_eq_true_iff, decide_eq_true_iff]

/-! ### With the saved rows of the listed devices -/

/-- A device of the map that is listed, was saved with its handle and with the status of its goal. -/
structure Settled (lib : MonitorLibrary) (e : Uid × DeviceInfo) : Prop where
  /-- It is listed. -/
  discovered : e.2.discovered = true
  /-- It was saved. -/
  stored : e.2.stored = true
  /-- The handle is the same. -/
  handle : e.2.discovery.deviceHandle = e.2.storedState.deviceHandle
  /-- The status of the goal is the same. -/
  goal : e.2.discovery.manageability = .validConfig →
    getConfigGoalStatusForDevice lib e.1 = e.2.storedState.configGoalStatus

/-- Nothing is reported of settled devices. -/
private theorem settled_reports {lib : MonitorLibrary} {devices : DeviceMap}
    (h : ∀ e ∈ devices, Settled lib e) :
    changeEvents devices = [] ∧ changeFilters devices = [] ∧
      devices.flatMap (goalFilters lib) = [] := by
  have hadded : ∀ e ∈ devices, e.2.isAdded = false := by
    intro e he
    rw [DeviceInfo.isAdded, (h e he).stored, Bool.not_true, Bool.and_false]
  have hmoved : ∀ e ∈ devices, e.2.isMoved = false := by
    intro e he
    rw [DeviceInfo.isMoved, (h e he).handle, bne_self_eq_false, Bool.and_false]
  have hmissing : ∀ replacedUids, ∀ e ∈ devices, missingUidsOf replacedUids e = [] := by
    intro replacedUids e he
    rw [missingUidsOf, DeviceInfo.isMissing, (h e he).discovered, Bool.not_true, Bool.and_false,
      if_neg fun hnot => Bool.false_ne_true hnot.1]
  refine ⟨?_, ?_, ?_⟩
  · rw [changeEvents, List.append_eq_nil_iff, List.flatMap_eq_nil_iff, List.flatMap_eq_nil_iff]
    refine ⟨fun e he => ?_, fun e he => ?_⟩
    · rw [newDimmEvents, hadded e he, if_neg Bool.false_ne_true]
    · rw [modifiedDimmEvents, hmoved e he, if_neg Bool.false_ne_true, hmissing _ e he, List.map_nil]
  · rw [changeFilters, List.append_eq_nil_iff, List.flatMap_eq_nil_iff, List.flatMap_eq_nil_iff]
    refine ⟨fun e he => ?_, fun e he => ?_⟩
    · rw [replacedUidsOf, hadded e he, if_neg fun hnot => Bool.false_ne_true hnot.1, List.map_nil]
    · rw [hmissing _ e he, List.map_nil]
  · refine List.flatMap_eq_nil_iff.mpr fun e he => ?_
    have hnot : ¬ goalApplied lib e = true := by
      intro happlied
      rw [goalApplied, Bool.and_eq_true, Bool.and_eq_true, Bool.and_eq_true, decide_eq_true_iff]
        at happlied
      obtain ⟨⟨⟨-, hconfig⟩, hnew⟩, -⟩ := happlied
      rw [(h e he).stored, (h e he).goal hconfig, bne_self_eq_false] at hnew
      cases hnew
    rw [goalFilters, if_neg hnot]

/-- With the saved rows of the listed devices all devices of the map are settled. -/
private theorem settled_of_savedAs {lib : MonitorLibrary} {store : MonitorStore}
    (h : SavedAs (listedRows lib) store) (hvalid : store.topologyStateValid.getD 0 ≠ 0) :
    ∀ e ∈ fillMap TopologyState.uid storedDeviceInfo store.topology (getCurrentDeviceMap lib),
      Settled lib e := by
  have hrows : store.topology.Perm (listedRows lib) := by
    obtain ⟨kept, dropped, hkept, hperm, -, hflag⟩ := h.rows
    have hnone : dropped = [] := by
      by_contra hsome
      rw [hflag, if_neg hsome] at hvalid
      exact hvalid rfl
    rwa [hkept, hnone, List.append_nil]
  have hascending := ascending_getCurrentDeviceMap lib
  have huids : (store.topology.map TopologyState.uid).Nodup := by
    refine (hrows.map _).nodup_iff.mpr ?_
    rw [listedRows, List.map_map]
    exact hascending.nodup
  rintro ⟨k, info⟩ he
  rw [mem_iff_lookup hascending.fillMap] at he
  by_cases hk : k ∈ store.topology.map TopologyState.uid
  · obtain ⟨row, hrow, rfl⟩ := List.mem_map.mp hk
    obtain ⟨e, hlisted, rfl⟩ := List.mem_map.mp (hrows.subset hrow)
    have hfound : lookup (topologyStateFor lib e.1 e.2).uid (getCurrentDeviceMap lib) = some e.2 :=
      (mem_iff_lookup hascending _ _).mp hlisted
    rw [lookup_fillMap_of_mem huids hrow, hfound] at he
    obtain rfl := Option.some.inj he
    refine ⟨(mem_getCurrentDeviceMap hlisted).1, rfl, rfl, fun hconfig => ?_⟩
    exact (if_pos hconfig).symm
  · rw [lookup_fillMap_of_notMem hk] at he
    have hlisted := (mem_iff_lookup hascending _ _).mpr he
    refine absurd (List.mem_map.mpr ⟨topologyStateFor lib k info, hrows.symm.subset ?_, rfl⟩) hk
    exact List.mem_map.mpr ⟨(k, info), hlisted, rfl⟩

/-! ### What is saved -/

/-- The handles ascend after an insertion. -/
private theorem ascending_insertRow {row : TopologyState} {rows rows' : List TopologyState}
    (h : (rows.map TopologyState.deviceHandle).Pairwise (· < ·))
    (hinsert : insertRow TopologyState.deviceHandle row rows = some rows') :
    (rows'.map TopologyState.deviceHandle).Pairwise (· < ·) := by
  induction rows generalizing rows' with
  | nil =>
    obtain rfl := Option.some.inj hinsert
    exact List.pairwise_singleton _ _
  | cons r rows ih =>
    have hcons := List.pairwise_cons.mp h
    rw [insertRow] at hinsert
    split_ifs at hinsert with hlt heq
    · obtain rfl := Option.some.inj hinsert
      refine List.pairwise_cons.mpr ⟨fun handle hhandle => ?_, h⟩
      rcases List.mem_cons.mp hhandle with rfl | hhandle
      · exact hlt
      · exact UInt32.lt_trans hlt (hcons.1 handle hhandle)
    · obtain ⟨rest, hrest, rfl⟩ := Option.map_eq_some_iff.mp hinsert
      refine List.pairwise_cons.mpr ⟨fun handle hhandle => ?_, ih hcons.2 hrest⟩
      have hmem := ((perm_of_insertRow hrest).map TopologyState.deviceHandle).subset hhandle
      rw [List.map_cons] at hmem
      rcases List.mem_cons.mp hmem with rfl | hmem
      · exact UInt32.lt_of_le_of_ne (UInt32.not_lt.mp hlt) (Ne.symm heq)
      · exact hcons.1 handle hmem

/-- A row that is refused has a handle of the table. -/
private theorem mem_of_insertRow_eq_none {row : TopologyState} {rows : List TopologyState}
    (h : insertRow TopologyState.deviceHandle row rows = none) :
    row.deviceHandle ∈ rows.map TopologyState.deviceHandle := by
  by_contra hnot
  obtain ⟨rows', hrows'⟩ := insertRow_of_notMem hnot
  rw [hrows'] at h
  cases h

/-- Rows are added to a table up to the first whose handle is already there. -/
private theorem insertRows_spec (rows table : List TopologyState)
    (h : (table.map TopologyState.deviceHandle).Pairwise (· < ·)) :
    ((insertRows rows table).1.map TopologyState.deviceHandle).Pairwise (· < ·) ∧
      ∃ kept dropped, rows = kept ++ dropped ∧ (insertRows rows table).1.Perm (kept ++ table) ∧
        (∀ row ∈ dropped.head?,
          row.deviceHandle ∈ (kept ++ table).map TopologyState.deviceHandle) ∧
        (insertRows rows table).2 = decide (dropped = []) := by
  induction rows generalizing table with
  | nil =>
    refine ⟨h, [], [], rfl, .refl _, fun row hrow => ?_, rfl⟩
    cases hrow
  | cons row rows ih =>
    rw [insertRows]
    cases hinsert : insertRow TopologyState.deviceHandle row table with
    | none =>
      refine ⟨h, [], row :: rows, rfl, .refl _, fun first hfirst => ?_, rfl⟩
      obtain rfl := Option.some.inj hfirst
      exact mem_of_insertRow_eq_none hinsert
    | some table' =>
      obtain ⟨hascending, kept, dropped, hsplit, hperm, hfirst, hall⟩ :=
        ih table' (ascending_insertRow h hinsert)
      have hmid : (kept ++ table').Perm (row :: kept ++ table) :=
        ((perm_of_insertRow hinsert).append_left kept).trans List.perm_middle
      refine ⟨hascending, row :: kept, dropped, congrArg (row :: ·) hsplit, hperm.trans hmid, ?_,
        hall⟩
      exact fun first h => (hmid.map TopologyState.deviceHandle).subset (hfirst first h)

/-- Rows are split in one way at the first whose handle is already there. -/
private theorem kept_unique {kept dropped kept' dropped' : List TopologyState}
    (h : kept ++ dropped = kept' ++ dropped')
    (hfirst : ∀ row ∈ dropped.head?, row.deviceHandle ∈ kept.map TopologyState.deviceHandle)
    (hnodup : (kept'.map TopologyState.deviceHandle).Nodup) (hle : kept.length ≤ kept'.length) :
    kept = kept' := by
  obtain ⟨rest, rfl⟩ := List.prefix_of_prefix_length_le ⟨dropped, rfl⟩ ⟨dropped', h.symm⟩ hle
  cases rest with
  | nil => exact (List.append_nil kept).symm
  | cons row rest =>
    rw [List.append_assoc, List.append_cancel_left_eq] at h
    rw [List.map_append, List.nodup_append] at hnodup
    refine absurd rfl (hnodup.2.2 _ (hfirst row ?_) _ List.mem_cons_self)
    rw [h]
    rfl

/-- A saved topology is that of some rows when it is the table to which they have been added. -/
theorem savedAs_iff (rows : List TopologyState) (store : MonitorStore) : SavedAs rows store ↔
    store.topology = (insertRows rows []).1 ∧
      store.topologyStateValid = some (if (insertRows rows []).2 then 1 else 0) := by
  obtain ⟨hascending, kept, dropped, hsplit, hperm, hfirst, hall⟩ :=
    insertRows_spec rows [] List.Pairwise.nil
  rw [List.append_nil] at hperm hfirst
  have hnodup : (kept.map TopologyState.deviceHandle).Nodup :=
    (hperm.map _).nodup_iff.mp (hascending.imp fun hlt => UInt32.ne_of_lt hlt)
  rw [hall]
  constructor
  · rintro ⟨hsaved, kept', dropped', hsplit', hperm', hfirst', hflag⟩
    have hnodup' : (kept'.map TopologyState.deviceHandle).Nodup :=
      (hperm'.map _).nodup_iff.mp (hsaved.imp fun hlt => UInt32.ne_of_lt hlt)
    have hkept : kept = kept' := by
      rcases Nat.le_total kept.length kept'.length with hle | hle
      · exact kept_unique (hsplit.symm.trans hsplit') hfirst hnodup' hle
      · exact (kept_unique (hsplit'.symm.trans hsplit) hfirst' hnodup hle).symm
    subst hkept
    obtain rfl := List.append_cancel_left (hsplit.symm.trans hsplit')
    refine ⟨?_, ?_⟩
    · refine List.Perm.eq_of_pairwise (fun a b _ _ hab hba => ?_) (List.pairwise_map.mp hsaved)
        (List.pairwise_map.mp hascending) (hperm'.trans hperm.symm)
      exact absurd hba (UInt32.lt_asymm hab)
    · rw [hflag]
      simp only [decide_eq_true_eq]
  · rintro ⟨htopology, hflag⟩
    refine ⟨htopology ▸ hascending, kept, dropped, hsplit, htopology ▸ hperm, hfirst, ?_⟩
    rw [hflag]
    simp only [decide_eq_true_eq]

/-! ### When a failure does no harm -/

/-- What a fault-free start logs depends on the saved topology and its flag. -/
private theorem loggedChanges_congr {store store' : MonitorStore}
    (htopology : store.topology = store'.topology)
    (hvalid : store.topologyStateValid = store'.topologyStateValid) (next : MonitorLibrary) :
    loggedChanges store (checkDeviceStartUpStatus next {} store) =
      loggedChanges store' (checkDeviceStartUpStatus next {} store') := by
  have hwrites : DbFaults.WritesSucceed {} := ⟨rfl, fun _ => rfl⟩
  have hflag : isSavedTopologyStateValid false store = isSavedTopologyStateValid false store' := by
    rw [isSavedTopologyStateValid, isSavedTopologyStateValid, hvalid]
  have hread : rowsRead {} store = rowsRead {} store' := by
    rw [rowsRead, rowsRead, hflag]
  rw [loggedChanges_eq hwrites next store rfl, loggedChanges_eq hwrites next store' rfl, hflag,
    getCurrentDeviceMapWithSavedTopology_eq, getCurrentDeviceMapWithSavedTopology_eq, hread,
    htopology]

/-- The filters of the goals that have been applied leave an event open when it is not about the
configuration of the device. -/
private theorem goalFilters_notMatch_iff {lib : MonitorLibrary} {e : Uid × DeviceInfo}
    (event : Event) : (∀ filter ∈ goalFilters lib e, eventMatchesFilter filter event = false) ↔
      (goalApplied lib e = true → event.type = .config ∨ event.type = .diagPlatformConfig →
        uidCmp event.uid e.1 = false) := by
  by_cases happlied : goalApplied lib e = true
  · rw [goalFilters, if_pos happlied, List.forall_mem_cons, List.forall_mem_singleton]
    have hmatch : ∀ type, eventMatchesFilter (filterEventTypeForDevice type e.1) event = false ↔
        (event.type = type → uidCmp event.uid e.1 = false) := by
      intro type
      have heq : eventMatchesFilter (filterEventTypeForDevice type e.1) event =
          (((decide (type = event.type) && true) && uidCmp event.uid e.1) && true) := rfl
      rw [heq, Bool.and_true, Bool.and_true, Bool.and_eq_false_iff, decide_eq_false_iff_not,
        eq_comm (a := type), imp_iff_not_or]
    rw [hmatch, hmatch]
    constructor
    · rintro ⟨hconfig, hdiag⟩ - (htype | htype)
      · exact hconfig htype
      · exact hdiag htype
    · intro h
      exact ⟨fun htype => h happlied (.inl htype), fun htype => h happlied (.inr htype)⟩
  · rw [goalFilters, if_neg happlied]
    exact ⟨fun _ h => absurd h happlied, fun _ filter hfilter => absurd hfilter List.not_mem_nil⟩

/-- A start-up check whose writes succeed leaves everything as it was when the saved topology is that
of the listed devices, no change is found in the map and no open event is acknowledged for it. -/
private theorem undisturbed_iff_quiet {faults : DbFaults} (h : faults.WritesSucceed)
    (lib : MonitorLibrary) {store : MonitorStore} {devices : DeviceMap}
    (hdevices : getCurrentDeviceMapWithSavedTopology lib faults store = devices) :
    Undisturbed lib faults store ↔ SavedAs (listedRows lib) store ∧
      (if isSavedTopologyStateValid faults.validForChanges store then changeEvents devices
        else []) = [] ∧
      ∀ event ∈ store.events, event.actionRequired = true →
        ∀ filter ∈ (if isSavedTopologyStateValid faults.validForChanges store then
            changeFilters devices else []) ++ devices.flatMap (goalFilters lib),
          eventMatchesFilter filter event = false := by
  obtain ⟨logged, heffect, hafter⟩ := checkDeviceStartUpStatus_eq h lib store hdevices
  have hrows : rowsToSave lib devices = listedRows lib := by
    have hlisted : (getCurrentDeviceMap lib).filter (fun e => e.2.discovered) =
        getCurrentDeviceMap lib :=
      List.filter_eq_self.mpr fun e he => (mem_getCurrentDeviceMap he).1
    rw [← hdevices, getCurrentDeviceMapWithSavedTopology_eq,
      rowsToSave_fillMap lib _ (ascending_getCurrentDeviceMap lib), rowsToSave, hlisted, listedRows]
  rw [hrows] at hafter
  have hsame : SavedAs (listedRows lib) store ↔
      (checkDeviceStartUpStatus lib faults store).topology = store.topology ∧
        (checkDeviceStartUpStatus lib faults store).topologyStateValid =
          store.topologyStateValid := by
    rw [savedAs_iff, hafter, eq_comm (a := store.topology), eq_comm (a := store.topologyStateValid)]
  have hacknowledged :
      (checkDeviceStartUpStatus lib faults store).events.take store.events.length = store.events ↔
      store.events.map (acknowledgeAll ((if isSavedTopologyStateValid faults.validForChanges store
        then changeFilters devices else []) ++ devices.flatMap (goalFilters lib))) =
        store.events := by
    rw [hafter]
    dsimp only
    rw [heffect.events, List.take_left' (List.length_map _)]
  rw [hsame, ← loggedChanges_eq h lib store hdevices, ← map_acknowledgeAll_eq_self_iff,
    ← hacknowledged]
  constructor
  · intro hundisturbed
    exact ⟨⟨hundisturbed.topology, hundisturbed.valid⟩, hundisturbed.noChange,
      hundisturbed.noAcknowledgement⟩
  · rintro ⟨⟨htopology, hvalid⟩, hnone, hkept⟩
    exact ⟨hnone, hkept, htopology, hvalid, loggedChanges_congr htopology hvalid⟩

/-- A start-up check whose writes succeed leaves everything as it was exactly when there is nothing
to lose. -/
theorem undisturbed_iff {faults : DbFaults} (h : faults.WritesSucceed) (lib : MonitorLibrary)
    (store : MonitorStore) : Undisturbed lib faults store ↔ NothingToLose lib faults store := by
  rw [undisturbed_iff_quiet h lib (getCurrentDeviceMapWithSavedTopology_eq lib faults store)]
  cases hread : rowsRead faults store with
  | true =>
    -- the saved rows are those of the listed devices, and the map says nothing new
    have hflag : store.topologyStateValid.getD 0 ≠ 0 := by
      rw [rowsRead, Bool.and_eq_true, Bool.and_eq_true, Bool.and_eq_true,
        isSavedTopologyStateValid, Bool.and_eq_true, bne_iff_ne] at hread
      exact hread.1.1.1.2
    constructor
    · rintro ⟨hsaved, -⟩
      refine ⟨hsaved, fun hnot => ?_, fun hnot => ?_⟩
      · rw [hread] at hnot
        cases hnot
      · rw [hread] at hnot
        cases hnot
    · intro hnothing
      obtain ⟨hevents, hfilters, hgoals⟩ :=
        settled_reports (settled_of_savedAs hnothing.topology hflag)
      rw [if_pos rfl, hevents, hfilters, hgoals, ite_self, ite_self, List.append_nil]
      exact ⟨hnothing.topology, rfl, fun _ _ _ filter hfilter => absurd hfilter List.not_mem_nil⟩
  | false =>
    -- the map is that of the listed devices, and each of them counts as added
    have hempty : fillMap TopologyState.uid storedDeviceInfo [] (getCurrentDeviceMap lib) =
        getCurrentDeviceMap lib := rfl
    rw [if_neg Bool.false_ne_true, hempty, changeFilters_listed, ite_self, List.nil_append]
    constructor
    · rintro ⟨hsaved, hevents, hfilters⟩
      refine ⟨hsaved, fun _ hchecked => ?_, ?_⟩
      · rw [if_pos hchecked] at hevents
        exact (changeEvents_listed_eq_nil_iff lib).mp hevents
      · intro _ e he happlied event hevent hopen
        refine (goalFilters_notMatch_iff event).mp (fun filter hfilter => ?_)
          ((goalApplied_listed_iff he).mpr happlied)
        exact hfilters event hevent hopen filter (List.mem_flatMap.mpr ⟨e, he, hfilter⟩)
    · intro hnothing
      refine ⟨hnothing.topology, ?_, fun event hevent hopen filter hfilter => ?_⟩
      · cases hchecked : isSavedTopologyStateValid faults.validForChanges store with
        | false => rfl
        | true =>
          rw [if_pos rfl]
          exact (changeEvents_listed_eq_nil_iff lib).mpr (hnothing.changes hread hchecked)
      · obtain ⟨e, he, hfilter⟩ := List.mem_flatMap.mp hfilter
        refine (goalFilters_notMatch_iff event).mpr (fun happlied => ?_) filter hfilter
        exact hnothing.goals hread e he ((goalApplied_listed_iff he).mp happlied) event hevent hopen

/-- The library does not list the devices. -/
private def failingLibrary : MonitorLibrary where
  getDevices := none
  getDeviceStatus := fun _ => none
  getConfigGoal := fun _ => none
  getSensors := fun _ => none

/-- A failed listing is harmless when no device was saved. -/
theorem undisturbed_nothingSaved :
    DbFaults.WritesSucceed {} ∧ Undisturbed failingLibrary {} { topologyStateValid := some 1 } := by
  refine ⟨⟨rfl, fun _ => rfl⟩, (undisturbed_iff ⟨rfl, fun _ => rfl⟩ failingLibrary _).mpr ?_⟩
  have hsaved : SavedAs (listedRows failingLibrary) { topologyStateValid := some 1 } :=
    ⟨List.Pairwise.nil, [], [], rfl, .refl _, fun _ hrow => (Option.not_mem_none _ hrow).elim, rfl⟩
  exact ⟨hsaved, fun _ _ => rfl, fun _ e he => absurd he List.not_mem_nil⟩

/-- One DIMM has been saved, and a health event is open for it. -/
private def oneSavedDimm : MonitorStore where
  events := [⟨.health, .critical, .healthHealthStateChanged,
    ({ deviceHandle := 1 } : DeviceDiscovery).uid, true, []⟩]
  topology := [{ deviceHandle := 1, uid := ({ deviceHandle := 1 } : DeviceDiscovery).uid }]
  topologyStateValid := some 1

/-- When the listing fails, a saved DIMM is reported as missing, its event is acknowledged and its row
is lost. -/
theorem not_undisturbed_oneSavedDimm :
    (loggedChanges oneSavedDimm (checkDeviceStartUpStatus failingLibrary {} oneSavedDimm)).map
        Event.code = [.configTopologyMissingDevice] ∧
      (checkDeviceStartUpStatus failingLibrary {} oneSavedDimm).events.map Event.actionRequired =
        [false, false] ∧
      (checkDeviceStartUpStatus failingLibrary {} oneSavedDimm).topology = [] ∧
      ¬ Undisturbed failingLibrary {} oneSavedDimm := by
  have hlogged : (loggedChanges oneSavedDimm
      (checkDeviceStartUpStatus failingLibrary {} oneSavedDimm)).map Event.code =
        [.configTopologyMissingDevice] := by
    decide +kernel
  refine ⟨hlogged, by decide +kernel, by decide +kernel, fun hundisturbed => ?_⟩
  rw [hundisturbed.noChange] at hlogged
  cases hlogged

end IxpDimm
