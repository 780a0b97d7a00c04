import IxpDimm.EventLog.Notify

/-!
# Queries of the event log

`nvm_get_event_count`, `nvm_get_events` and `nvm_purge_events` of `monitor.c`, and
`NvmLibrary::getEvents`, which counts the matching events, allocates an array for them and has it
filled.  The log may change between the two calls, and the size of the array is handed over as a
16-bit number.

`getEvents_eq_ok_iff` says what is returned in every case.  A purge deletes what it can, and the
queries after it find everything else (`getEvents_after_purge`).
-/

namespace IxpDimm.EventLog

/-! ### The calls -/

/-- `NVM_ERR_INVALIDPERMISSIONS` -/
def errInvalidPermissions : ℤ := -6

/-- What a call finds: whether the caller is permitted, and which steps of reading succeed. -/
structure Caller where
  /-- `check_caller_permissions` succeeds. -/
  permitted : Bool := true
  /-- The steps of reading the table. -/
  reads : Reads := {}
  deriving DecidableEq, Repr

/-- No event is deleted. -/
def noDeletes : ℕ → Bool := fun _ => false

/-- `nvm_get_event_count`. -/
def nvmGetEventCount (caller : Caller) (filter : Option EventFilter) (table : EventTable) : ℤ :=
  if !caller.permitted then errInvalidPermissions
  else (processEventsMatchingFilter caller.reads noDeletes filter false 0 false table).rc

/-- `nvm_get_events` for an array that is not null: the return code, and the array. -/
def nvmGetEvents (caller : Caller) (filter : Option EventFilter) (array : ℕ → Event) (count : UInt16)
    (table : EventTable) : ℤ × (ℕ → Event) :=
  if !caller.permitted then (errInvalidPermissions, array)
  else if count = 0 then (errInvalidParameter, array)
  else
    let zeroed : ℕ → Event := fun i => if i < count.toNat then {} else array i
    let processed := processEventsMatchingFilter caller.reads noDeletes filter true count false table
    (processed.rc, fun i => processed.events.getD i (zeroed i))

/-- `nvm_purge_events`. -/
def nvmPurgeEvents (caller : Caller) (deletes : ℕ → Bool) (filter : Option EventFilter)
    (table : EventTable) : ℤ × EventTable :=
  if !caller.permitted then (errInvalidPermissions, table)
  else
    let processed := processEventsMatchingFilter caller.reads deletes filter false 0 true table
    (processed.rc, processed.table)

/-- `NvmLibrary::getEvents`: the events, or the code of a `LibraryException`.  The two calls find
their own tables, and `array` is what the memory of the new array holds. -/
def getEvents (counting copying : Caller) (filter : Option EventFilter) (array : ℕ → Event)
    (counted copied : EventTable) : Except ℤ (List Event) :=
  let rc := nvmGetEventCount counting filter counted
  if rc < 0 then .error rc
  else if rc > 0 then
    let count := rc.toNat
    let (rc, fromLib) := nvmGetEvents copying filter array (UInt16.ofNat count) copied
    if rc < 0 then .error rc else .ok ((List.range count).map fromLib)
  else .ok []

/-! ### Counting and copying -/

/-- A call reads a table: the caller is permitted, and reading succeeds where there is something. -/
structure Caller.Reads (caller : Caller) (table : EventTable) : Prop where
  /-- The caller is permitted. -/
  permitted : caller.permitted = true
  /-- The number of rows is read. -/
  count : caller.reads.count = true
  /-- The rows are read. -/
  rows : table.rows ≠ [] → caller.reads.Succeed

section Reads

variable {caller : Caller} {filter : Option EventFilter} {table : EventTable}

/-- A table without rows matches nothing. -/
private theorem matching_of_nil (h : table.rows = []) : matching filter table = [] := by
  rw [matching, h]
  rfl

/-- Processing a table without rows. -/
private theorem processEvents_nil {reads : Reads} (hcount : reads.count = true)
    (h : table.rows = []) (deletes : ℕ → Bool) (events : Bool) (count : UInt16) (purge : Bool) :
    processEventsMatchingFilter reads deletes filter events count purge table =
      ⟨0, [], table⟩ := by
  rw [processEventsMatchingFilter, if_pos hcount, h]
  rfl

/-- A call that does not read the table leaves with an error. -/
private theorem processEvents_neg (hpermitted : caller.permitted = true)
    (h : ¬ caller.Reads table) (deletes : ℕ → Bool) (events : Bool) (count : UInt16)
    (purge : Bool) :
    (processEventsMatchingFilter caller.reads deletes filter events count purge table).rc < 0 := by
  cases hcount : caller.reads.count with
  | false =>
    rw [processEventsMatchingFilter, hcount]
    exact (by decide : errUnknown < 0)
  | true =>
    have hrows : ¬ (table.rows ≠ [] → caller.reads.Succeed) :=
      fun hrows => h ⟨hpermitted, hcount, hrows⟩
    obtain ⟨hsome, hfails⟩ := Classical.not_imp.mp hrows
    exact processEvents_failed filter deletes hfails hsome events count purge

/-- Counting. -/
theorem nvmGetEventCount_eq (h : caller.Reads table) :
    nvmGetEventCount caller filter table = (matching filter table).length := by
  rw [nvmGetEventCount, h.permitted, Bool.not_true, if_neg Bool.false_ne_true]
  by_cases hnil : table.rows = []
  · rw [processEvents_nil h.count hnil, matching_of_nil hnil]
    rfl
  · rw [processEvents_count filter noDeletes (h.rows hnil) rfl]

/-- Counting fails. -/
private theorem nvmGetEventCount_neg (h : ¬ caller.Reads table) :
    nvmGetEventCount caller filter table < 0 := by
  rw [nvmGetEventCount]
  cases hpermitted : caller.permitted with
  | false => exact (by decide : errInvalidPermissions < 0)
  | true => exact processEvents_neg hpermitted h noDeletes false 0 false

variable {count : UInt16}

/-- Copying into an array that is large enough. -/
theorem nvmGetEvents_eq (array : ℕ → Event) (h : caller.Reads table) (hcount : count ≠ 0)
    (hfits : (matching filter table).length ≤ count.toNat) :
    nvmGetEvents caller filter array count table =
      (((matching filter table).length : ℤ), fun i =>
        ((matching filter table).map DbEvent.toEvent).getD i
          (if i < count.toNat then {} else array i)) := by
  have hpos : 0 < count := by
    rw [UInt16.lt_iff_toNat_lt]
    exact Nat.pos_of_ne_zero fun hzero => hcount (UInt16.toNat_inj.mp hzero)
  unfold nvmGetEvents
  rw [h.permitted, Bool.not_true, if_neg Bool.false_ne_true, if_neg hcount]
  dsimp only
  by_cases hnil : table.rows = []
  · rw [processEvents_nil h.count hnil, matching_of_nil hnil]
    rfl
  · rw [processEvents_copy filter noDeletes (h.rows hnil) hpos hfits]

/-- Copying fails. -/
private theorem nvmGetEvents_neg (array : ℕ → Event)
    (h : ¬ (caller.Reads table ∧ count ≠ 0 ∧ (matching filter table).length ≤ count.toNat)) :
    (nvmGetEvents caller filter array count table).1 < 0 := by
  unfold nvmGetEvents
  cases hpermitted : caller.permitted with
  | false => exact (by decide : errInvalidPermissions < 0)
  | true =>
    rw [Bool.not_true, if_neg Bool.false_ne_true]
    split_ifs with hcount
    · exact (by decide : errInvalidParameter < 0)
    · dsimp only
      by_cases hreads : caller.Reads table
      · have hsmall : count.toNat < (matching filter table).length := by
          by_contra hfits
          exact h ⟨hreads, hcount, not_lt.mp hfits⟩
        have hpos : 0 < count := by
          rw [UInt16.lt_iff_toNat_lt]
          exact Nat.pos_of_ne_zero fun hzero => hcount (UInt16.toNat_inj.mp hzero)
        have hnil : table.rows ≠ [] := by
          intro hnil
          rw [matching_of_nil hnil] at hsmall
          exact Nat.not_lt_zero _ hsmall
        rw [processEvents_small filter noDeletes (hreads.rows hnil) hpos hsmall]
        decide
      · exact processEvents_neg hpermitted hreads noDeletes true count false

end Reads

/-- What is in an array of `n` events after some have been copied to it: these, zeroed ones as far as
the 16-bit number reaches, and behind them what was there before. -/
def filledArray (array : ℕ → Event) (n : ℕ) (events : List Event) : List Event :=
  events ++ List.replicate (n % 2 ^ 16 - events.length) ({} : Event) ++
    (List.range (n - n % 2 ^ 16)).map fun i => array (n % 2 ^ 16 + i)

/-- The array, read from its start. -/
private theorem map_range_filled (array : ℕ → Event) {n : ℕ} {events : List Event}
    (hfits : events.length ≤ n % 2 ^ 16) :
    ((List.range n).map fun i => events.getD i (if i < n % 2 ^ 16 then {} else array i)) =
      filledArray array n events := by
  have hle := Nat.mod_le n (2 ^ 16)
  have hlength : (events ++ List.replicate (n % 2 ^ 16 - events.length) ({} : Event)).length =
      n % 2 ^ 16 := by
    rw [List.length_append, List.length_replicate]
    omega
  rw [filledArray]
  refine List.ext_getElem ?_ fun i hi hi' => ?_
  · simp only [List.length_map, List.length_range, List.length_append,
      List.length_replicate]
    omega
  · rw [List.getElem_map, List.getElem_range]
    by_cases hevent : i < events.length
    · have hlt : i < (events ++ List.replicate (n % 2 ^ 16 - events.length)
          ({} : Event)).length := by omega
      rw [List.getElem_append_left hlt, List.getElem_append_left hevent]
      exact List.getD_eq_getElem _ _ hevent
    · rw [List.getD_eq_default _ _ (not_lt.mp hevent)]
      by_cases hzeroed : i < n % 2 ^ 16
      · have hlt : i < (events ++ List.replicate (n % 2 ^ 16 - events.length)
            ({} : Event)).length := by rw [hlength]; exact hzeroed
        rw [if_pos hzeroed, List.getElem_append_left hlt]
        rw [List.getElem_append_right (not_lt.mp hevent), List.getElem_replicate]
      · have hge : (events ++ List.replicate (n % 2 ^ 16 - events.length)
            ({} : Event)).length ≤ i := by rw [hlength]; exact not_lt.mp hzeroed
        rw [if_neg hzeroed, List.getElem_append_right hge, List.getElem_map, List.getElem_range]
        rw [hlength, Nat.add_sub_cancel' (not_lt.mp hzeroed)]

section Calls

variable {counting copying : Caller} {filter : Option EventFilter} {counted copied : EventTable}

/-- The number that is handed over as the size of the array. -/
private theorem ofNat_ne_zero_iff (n : ℕ) : UInt16.ofNat n ≠ 0 ↔ n % 2 ^ 16 ≠ 0 := by
  rw [ne_eq, ← UInt16.toNat_inj, UInt16.toNat_ofNat']
  rfl

/-- Where nothing matches, there are no events. -/
private theorem getEvents_nil (array : ℕ → Event) (h : counting.Reads counted)
    (hnil : matching filter counted = []) :
    getEvents counting copying filter array counted copied = .ok [] := by
  rw [getEvents]
  dsimp only
  rw [nvmGetEventCount_eq h, hnil]
  rfl

/-- Where the array is large enough, it has the events. -/
private theorem getEvents_filled (array : ℕ → Event) (h : counting.Reads counted)
    (h' : copying.Reads copied) (hcount : (matching filter counted).length % 2 ^ 16 ≠ 0)
    (hfits : (matching filter copied).length ≤ (matching filter counted).length % 2 ^ 16) :
    getEvents counting copying filter array counted copied =
      .ok (filledArray array (matching filter counted).length
        ((matching filter copied).map DbEvent.toEvent)) := by
  rw [getEvents]
  dsimp only
  rw [nvmGetEventCount_eq h, if_neg (by omega), Int.toNat_natCast]
  generalize (matching filter counted).length = n at hcount hfits ⊢
  have hpos : 0 < n := Nat.pos_of_ne_zero fun hzero => hcount (by rw [hzero, Nat.zero_mod])
  have htoNat : (UInt16.ofNat n).toNat = n % 2 ^ 16 := UInt16.toNat_ofNat'
  rw [if_pos (by omega), nvmGetEvents_eq array h' ((ofNat_ne_zero_iff n).mpr hcount)
    (by rw [htoNat]; exact hfits), htoNat]
  dsimp only
  rw [if_neg (by omega), map_range_filled array (by rw [List.length_map]; exact hfits)]

/-- `NvmLibrary::getEvents` returns exactly when the log can be read both times, the number of
matching events is not a multiple of `2 ^ 16` above zero, and its last 16 bits are enough for those
that match the second time.  Then it has these, but as many events as were counted the first
time. -/
theorem getEvents_eq_ok_iff (counting copying : Caller) (filter : Option EventFilter)
    (array : ℕ → Event) (counted copied : EventTable) (events : List Event) :
    getEvents counting copying filter array counted copied = .ok events ↔
      counting.Reads counted ∧
      (matching filter counted = [] ∧ events = [] ∨
        copying.Reads copied ∧ (matching filter counted).length % 2 ^ 16 ≠ 0 ∧
          (matching filter copied).length ≤ (matching filter counted).length % 2 ^ 16 ∧
          events = filledArray array (matching filter counted).length
            ((matching filter copied).map DbEvent.toEvent)) := by
  by_cases hreads : counting.Reads counted
  · rw [and_iff_right hreads]
    by_cases hnil : matching filter counted = []
    · rw [getEvents_nil array hreads hnil, Except.ok.injEq, hnil, eq_comm]
      simp
    · have hpos : 0 < (matching filter counted).length := List.length_pos_of_ne_nil hnil
      by_cases hcopy : copying.Reads copied ∧ (matching filter counted).length % 2 ^ 16 ≠ 0 ∧
          (matching filter copied).length ≤ (matching filter counted).length % 2 ^ 16
      · obtain ⟨hreads', hcount, hfits⟩ := hcopy
        rw [getEvents_filled array hreads hreads' hcount hfits, Except.ok.injEq, eq_comm]
        constructor
        · exact fun h => .inr ⟨hreads', hcount, hfits, h⟩
        · rintro (⟨h, -⟩ | ⟨-, -, -, h⟩)
          · exact absurd h hnil
          · exact h
      · have hneg : (nvmGetEvents copying filter array
            (UInt16.ofNat (matching filter counted).length) copied).1 < 0 := by
          refine nvmGetEvents_neg array fun h => hcopy ⟨h.1, (ofNat_ne_zero_iff _).mp h.2.1, ?_⟩
          rw [← UInt16.toNat_ofNat']
          exact h.2.2
        refine iff_of_false (fun h => ?_) ?_
        · rw [getEvents] at h
          dsimp only at h
          rw [nvmGetEventCount_eq hreads, if_neg (by omega), if_pos (by omega),
            Int.toNat_natCast, if_pos hneg] at h
          cases h
        · rintro (⟨h, -⟩ | ⟨hreads', hcount, hfits, -⟩)
          · exact hnil h
          · exact hcopy ⟨hreads', hcount, hfits⟩
  · refine iff_of_false (fun h => ?_) fun h => hreads h.1
    rw [getEvents] at h
    dsimp only at h
    rw [if_pos (nvmGetEventCount_neg hreads)] at h
    cases h

end Calls

/-! ### Purging -/

section Purge

variable (filter : Option EventFilter) (deletes : ℕ → Bool)

/-- The purging loop counts the matching rows, and deletes those whose deletion succeeds. -/
private theorem processLoop_purge (rows : List DbEvent) (p : Processed) :
    processLoop filter false 0 true deletes rows p =
      { p with
        rc := p.rc + (rows.filter (eventMatchesFilter filter)).length
        table := p.table.deleteWhere fun row =>
          (rows.filter (eventMatchesFilter filter)).any fun matched =>
            deletes matched.id && matched.id == row.id } := by
  induction rows generalizing p with
  | nil =>
    have htable : p.table = p.table.deleteWhere fun _ => false :=
      EventTable.ext (List.filter_eq_self.mpr fun _ _ => rfl).symm rfl
    rw [processLoop, List.filter_nil, List.length_nil, Nat.cast_zero, add_zero]
    exact congrArg (fun table => { p with table := table }) htable
  | cons row rows ih =>
    rw [processLoop]
    by_cases hmatch : eventMatchesFilter filter row
    · rw [if_pos hmatch, if_pos rfl, ih, List.filter_cons_of_pos hmatch, List.length_cons]
      dsimp only
      congr 1
      · rw [Nat.cast_add, Nat.cast_one, add_assoc, add_comm (1 : ℤ)]
      · refine EventTable.ext ?_ ?_
        · split_ifs with hdelete
          · simp only [EventTable.deleteById, EventTable.deleteWhere, List.filter_filter]
            refine List.filter_congr fun other _ => ?_
            rw [List.any_cons, hdelete, Bool.true_and, Bool.not_or, Bool.and_comm, BEq.comm]
            rfl
          · refine List.filter_congr fun other _ => ?_
            dsimp only
            rw [List.any_cons, eq_false_of_ne_true hdelete, Bool.false_and, Bool.false_or]
        · split_ifs <;> rfl
    · rw [if_neg hmatch, ih, List.filter_cons_of_neg hmatch]

/-- A purge deletes the rows that match, as far as their deletion succeeds. -/
theorem nvmPurgeEvents_eq {caller : Caller} {table : EventTable} (h : caller.Reads table) :
    nvmPurgeEvents caller deletes filter table =
      (((matching filter table).length : ℤ),
        table.deleteWhere fun row => eventMatchesFilter filter row && deletes row.id) := by
  unfold nvmPurgeEvents
  rw [h.permitted, Bool.not_true, if_neg Bool.false_ne_true]
  dsimp only
  by_cases hnil : table.rows = []
  · rw [processEvents_nil h.count hnil, matching_of_nil hnil]
    refine Prod.ext rfl (EventTable.ext ?_ rfl)
    simp only [EventTable.deleteWhere, hnil, List.filter_nil]
  · obtain ⟨hcount, hmemory, hrows⟩ := h.rows hnil
    rw [processEventsMatchingFilter, if_pos hcount, if_pos (List.length_pos_of_ne_nil hnil),
      if_pos hmemory, if_pos hrows, processLoop_purge]
    refine Prod.ext (zero_add _) (EventTable.ext (List.filter_congr fun row hrow => ?_) rfl)
    -- the identifiers tell the rows apart, so that no row is deleted for another one
    congr 1
    rw [Bool.eq_iff_iff, List.any_eq_true, Bool.and_eq_true]
    constructor
    · rintro ⟨matched, hmatched, hsame⟩
      rw [Bool.and_eq_true, beq_iff_eq] at hsame
      obtain ⟨hmem, hmatch⟩ := List.mem_filter.mp hmatched
      obtain rfl := EventTable.eq_of_id_eq (List.mem_reverse.mp hmem) hrow hsame.2
      exact ⟨hmatch, hsame.1⟩
    · rintro ⟨hmatch, hdelete⟩
      exact ⟨row, List.mem_filter.mpr ⟨List.mem_reverse.mpr hrow, hmatch⟩,
        by rw [hdelete, beq_self_eq_true, Bool.and_self]⟩

end Purge

/-- The rows that another filter matches after rows were deleted. -/
private theorem matching_deleteWhere (filter : Option EventFilter) (test : DbEvent → Bool)
    (table : EventTable) :
    matching filter (table.deleteWhere test) =
      (matching filter table).filter fun row => !test row := by
  rw [matching, matching, EventTable.deleteWhere, ← List.filter_reverse, List.filter_filter,
    List.filter_filter]
  exact List.filter_congr fun row _ => Bool.and_comm _ _

/-- A purge returns the number of matching events, whether they could be deleted or not.  Any query
after it returns, newest first, exactly the events it asks for that the purge did not delete. -/
theorem getEvents_after_purge (purger reader : Caller) (deletes : ℕ → Bool)
    (purged wanted : Option EventFilter) (array : ℕ → Event) (table : EventTable)
    (hpurger : purger.Reads table)
    (hreader : reader.Reads (nvmPurgeEvents purger deletes purged table).2)
    (hsmall : (matching wanted table).length < 2 ^ 16) :
    (nvmPurgeEvents purger deletes purged table).1 = (matching purged table).length ∧
      getEvents reader reader wanted array (nvmPurgeEvents purger deletes purged table).2
          (nvmPurgeEvents purger deletes purged table).2 =
        .ok (((matching wanted table).filter fun row =>
          !(eventMatchesFilter purged row && deletes row.id)).map DbEvent.toEvent) := by
  rw [nvmPurgeEvents_eq purged deletes hpurger] at hreader ⊢
  refine ⟨rfl, ?_⟩
  rw [← matching_deleteWhere wanted _ table]
  dsimp only
  generalize hafter : (table.deleteWhere fun row =>
    eventMatchesFilter purged row && deletes row.id) = after at hreader
  dsimp only at hreader ⊢
  have hle : (matching wanted after).length ≤ (matching wanted table).length := by
    rw [← hafter, matching_deleteWhere]
    exact List.length_filter_le _ _
  have hmod : (matching wanted after).length % 2 ^ 16 = (matching wanted after).length :=
    Nat.mod_eq_of_lt (hle.trans_lt hsmall)
  rcases Nat.eq_zero_or_pos (matching wanted after).length with hzero | hpos
  · have hnil := List.length_eq_zero_iff.mp hzero
    rw [getEvents_nil array hreader hnil, hnil, List.map_nil]
  · rw [getEvents_filled array hreader hreader (by omega) hmod.ge, filledArray, hmod,
      List.length_map, Nat.sub_self, List.replicate_zero, List.range_zero, List.map_nil,
      List.append_nil, List.append_nil]

/-- A purge of the first of two events, whose deletion succeeds. -/
theorem getEvents_after_purge_first :
    let table := (EventTable.empty.add { type := 1, code := 7 } 10).add { type := 2, code := 9 } 11
    (nvmPurgeEvents {} (fun _ => true) (some { type := some 1 }) table).1 = 1 ∧
      getEvents {} {} none (fun _ => {}) (nvmPurgeEvents {} (fun _ => true)
          (some { type := some 1 }) table).2 (nvmPurgeEvents {} (fun _ => true)
          (some { type := some 1 }) table).2 =
        .ok [{ eventId := 2, type := 2, code := 9, time := 11 }] :=
  getEvents_after_purge {} {} (fun _ => true) (some { type := some 1 }) none (fun _ => {})
    ((EventTable.empty.add { type := 1, code := 7 } 10).add { type := 2, code := 9 } 11)
    ⟨rfl, rfl, fun _ => ⟨rfl, rfl, rfl⟩⟩ ⟨rfl, rfl, fun _ => ⟨rfl, rfl, rfl⟩⟩ (by decide)

end IxpDimm.EventLog
