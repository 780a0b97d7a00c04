import IxpDimm.EventLog.Table

/-!
# Acknowledging events

`acknowledge_events` counts the events that match a filter, fetches them into an array of that size
and then reads, changes and writes back one row after the other.

Three things go wrong with it.  A reading that fails is taken for an empty result.  The count is
handed over as a `NVM_UINT16`, so that the array is too small for more than 65535 events, and that
error is taken for an empty result as well.  And the loop keeps one return code, which the next row
that is read sets back to success.  `acknowledgesRight_iff` says exactly when none of this matters.
-/

namespace IxpDimm.EventLog

/-- Which of the operations of `acknowledge_events` succeed. -/
structure AckFaults where
  /-- The readings of the call that counts. -/
  counting : Reads := {}
  /-- The allocation of the array of events. -/
  memory : Bool := true
  /-- The readings of the call that fetches. -/
  fetching : Reads := {}
  /-- `db_get_event_by_id`, for each identifier. -/
  get : ℕ → Bool := fun _ => true
  /-- `db_update_event_by_id`, for each identifier. -/
  update : ℕ → Bool := fun _ => true

/-- The loop of `acknowledge_events` over the identifiers of the array, with the return code and the
table. -/
def acknowledgeLoop (faults : AckFaults) : List ℕ → ℤ × EventTable → ℤ × EventTable
  | [], result => result
  | id :: ids, (_, table) =>
    match (if faults.get id then table.getById id else none) with
    | none => acknowledgeLoop faults ids (errUnknown, table)
    | some row =>
      if row.actionRequired ≠ 0 then
        if faults.update row.id then
          acknowledgeLoop faults ids (0, table.acknowledgeById row.id)
        else
          acknowledgeLoop faults ids (errUnknown, table)
      else
        acknowledgeLoop faults ids (0, table)

/-- `acknowledge_events`.  The array is zeroed before the events are fetched into it. -/
def acknowledgeEvents (faults : AckFaults) (filter : Option EventFilter) (table : EventTable) :
    ℤ × EventTable :=
  let keep : ℕ → Bool := fun _ => true
  let count := (processEventsMatchingFilter faults.counting keep filter false 0 false table).rc
  if 0 < count then
    if faults.memory then
      let fetched := processEventsMatchingFilter faults.fetching keep filter true
        (UInt16.ofNat count.toNat) false table
      if 0 < fetched.rc then
        acknowledgeLoop faults
          ((List.range fetched.rc.toNat).map fun i => (fetched.events.getD i {}).eventId) (0, table)
      else
        (0, table)
    else
      (errNoMemory, table)
  else
    (0, table)

/-! ### What is asked of it -/

variable (filter : Option EventFilter) (faults : AckFaults) (table : EventTable)

/-- The table with the matching events acknowledged: nothing else of them changes, and nothing of
the other events. -/
def acknowledged : EventTable :=
  table.setActionRequired fun row =>
    if eventMatchesFilter filter row then 0 else row.actionRequired

/-- Success means that the matching events are acknowledged, and an update that fails is not a
success. -/
structure AcknowledgesRight : Prop where
  /-- On success, the matching events are acknowledged. -/
  acknowledged : (acknowledgeEvents faults filter table).1 = 0 →
    (acknowledgeEvents faults filter table).2 = acknowledged filter table
  /-- An update that fails is reported. -/
  reported : (∃ row ∈ table.rows, eventMatchesFilter filter row ∧ row.actionRequired ≠ 0 ∧
      faults.update row.id = false) →
    (acknowledgeEvents faults filter table).1 ≠ 0

/-- The row can be read and, where this is needed, written back. -/
def Writable (row : DbEvent) : Prop :=
  faults.get row.id = true ∧ (row.actionRequired ≠ 0 → faults.update row.id = true)

instance (row : DbEvent) : Decidable (Writable faults row) :=
  inferInstanceAs (Decidable (_ ∧ (_ → _)))

/-- The oldest matching event comes last in the array.  If that event is not writable, the return
code says so; otherwise all the others have to be writable. -/
def LoopReports : Prop :=
  (∃ oldest ∈ (matching filter table).getLast?, ¬ Writable faults oldest) ∨
    ∀ row ∈ matching filter table, row.actionRequired ≠ 0 → Writable faults row

/-- Nothing needs to be acknowledged, or all readings succeed and the count of matching events
fits, or there is an error in any case: the array cannot be allocated, or the count is a multiple of
65536, so that the array stays zeroed. -/
def AcknowledgeCondition : Prop :=
  (∀ row ∈ matching filter table, row.actionRequired = 0) ∨
    faults.counting.Succeed ∧ (faults.memory = false ∨ faults.fetching.Succeed ∧
      (65536 ∣ (matching filter table).length ∨
        (matching filter table).length < 65536 ∧ LoopReports filter faults table))

/-! ### The loop -/

variable {filter faults table}

@[simp] theorem setActionRequired_rows (value : DbEvent → UInt32) :
    (table.setActionRequired value).rows =
      table.rows.map fun row => { row with actionRequired := value row } := rfl

/-- A table is left alone where every row keeps its `action_required`. -/
theorem setActionRequired_eq_self {value : DbEvent → UInt32}
    (h : ∀ row ∈ table.rows, value row = row.actionRequired) :
    table.setActionRequired value = table := by
  refine EventTable.ext ?_ rfl
  calc (table.setActionRequired value).rows
      = table.rows.map id := List.map_congr_left fun row hrow => by rw [h row hrow, id]
    _ = table.rows := List.map_id _

/-- Rows that are given the same `action_required` make the same table. -/
theorem setActionRequired_congr {value value' : DbEvent → UInt32}
    (h : ∀ row ∈ table.rows, value row = value' row) :
    table.setActionRequired value = table.setActionRequired value' := by
  refine EventTable.ext (List.map_congr_left fun row hrow => ?_) rfl
  rw [h row hrow]

/-- Two changes of `action_required` are one. -/
theorem setActionRequired_setActionRequired (value value' : DbEvent → UInt32) :
    (table.setActionRequired value).setActionRequired value' =
      table.setActionRequired fun row => value' { row with actionRequired := value row } := by
  refine EventTable.ext ?_ rfl
  rw [setActionRequired_rows, setActionRequired_rows, List.map_map]
  rfl

/-- A row of the table is found by its identifier. -/
theorem getById_of_mem {row : DbEvent} (h : row ∈ table.rows) :
    table.getById row.id = some row := by
  obtain ⟨found, hfound⟩ := Option.isSome_iff_exists.mp
    (List.find?_isSome.mpr ⟨row, h, by simp⟩ :
      (table.rows.find? fun r => decide (r.id = row.id)).isSome)
  have hid := List.find?_some hfound
  rw [EventTable.getById, hfound]
  exact congrArg some (EventTable.eq_of_id_eq (List.mem_of_find?_eq_some hfound) h (by simpa using hid))

/-- The acknowledgement of one row leaves the other rows in the table. -/
theorem mem_acknowledgeById {id : ℕ} {row : DbEvent} (h : row ∈ table.rows) (hne : row.id ≠ id) :
    row ∈ (table.acknowledgeById id).rows := by
  refine List.mem_map.mpr ⟨row, h, ?_⟩
  dsimp only
  rw [if_neg hne]

/-- What one pass of the loop does to the table. -/
def acknowledgeRow (faults : AckFaults) (row : DbEvent) (table : EventTable) : EventTable :=
  if Writable faults row ∧ row.actionRequired ≠ 0 then table.acknowledgeById row.id else table

/-- One pass of the loop, for a row of the table. -/
theorem acknowledgeLoop_cons {row : DbEvent} (h : row ∈ table.rows) (ids : List ℕ) (rc : ℤ) :
    acknowledgeLoop faults (row.id :: ids) (rc, table) =
      acknowledgeLoop faults ids
        (if Writable faults row then 0 else errUnknown, acknowledgeRow faults row table) := by
  rw [acknowledgeLoop, acknowledgeRow, getById_of_mem h]
  by_cases hget : faults.get row.id
  · by_cases hrequired : row.actionRequired ≠ 0
    · by_cases hupdate : faults.update row.id
      · have hwritable : Writable faults row := ⟨hget, fun _ => hupdate⟩
        simp only [hget, hrequired, hupdate, hwritable, if_true, ne_eq, not_false_eq_true, and_self]
      · have hwritable : ¬ Writable faults row := fun hw => hupdate (hw.2 hrequired)
        simp only [hget, hrequired, hupdate, hwritable, if_true, ne_eq, not_false_eq_true, if_false,
          false_and, Bool.false_eq_true]
    · have hwritable : Writable faults row := ⟨hget, fun hne => absurd hne hrequired⟩
      simp only [hget, hrequired, hwritable, if_true, if_false, and_false]
  · have hwritable : ¬ Writable faults row := fun hw => hget hw.1
    simp only [hget, hwritable, if_false, false_and, Bool.false_eq_true]

/-- What is in the table after one pass. -/
theorem acknowledgeRow_eq {row : DbEvent} (h : row ∈ table.rows) :
    acknowledgeRow faults row table = table.setActionRequired fun r =>
      if r.id = row.id ∧ Writable faults row then 0 else r.actionRequired := by
  rw [acknowledgeRow]
  by_cases hwritable : Writable faults row
  · by_cases hrequired : row.actionRequired ≠ 0
    · rw [if_pos ⟨hwritable, hrequired⟩, EventTable.acknowledgeById]
      exact setActionRequired_congr fun r _ => by simp only [hwritable, and_true]
    · rw [if_neg fun hand => hrequired hand.2]
      symm
      apply setActionRequired_eq_self
      intro r hr
      split_ifs with hid
      · obtain rfl := EventTable.eq_of_id_eq hr h hid.1
        exact (not_not.mp hrequired).symm
      · rfl
  · rw [if_neg fun hand => hwritable hand.1]
    symm
    exact setActionRequired_eq_self fun r _ => if_neg fun hand => hwritable hand.2

/-- The loop acknowledges the writable rows. -/
theorem acknowledgeLoop_table {rows : List DbEvent} (hrows : rows.Pairwise fun a b => b.id ≠ a.id)
    (hmem : ∀ row ∈ rows, row ∈ table.rows) (rc : ℤ) :
    (acknowledgeLoop faults (rows.map DbEvent.id) (rc, table)).2 = table.setActionRequired fun r =>
      if ∃ row ∈ rows, r.id = row.id ∧ Writable faults row then 0 else r.actionRequired := by
  induction rows generalizing table rc with
  | nil =>
    symm
    exact setActionRequired_eq_self fun r _ => if_neg (by simp)
  | cons row rows ih =>
    obtain ⟨hne, hrows⟩ := List.pairwise_cons.mp hrows
    have hrow := hmem row List.mem_cons_self
    have hrest : ∀ other ∈ rows, other ∈ (acknowledgeRow faults row table).rows := by
      intro other hother
      have hin := hmem other (List.mem_cons_of_mem _ hother)
      rw [acknowledgeRow]
      split_ifs
      · exact mem_acknowledgeById hin (hne other hother)
      · exact hin
    rw [List.map_cons, acknowledgeLoop_cons hrow, ih hrows hrest, acknowledgeRow_eq hrow,
      setActionRequired_setActionRequired]
    apply setActionRequired_congr
    intro r _
    simp only [List.exists_mem_cons_iff]
    split_ifs with h1 h2 h3 h4 h5
    · rfl
    · exact absurd (.inr h1) h2
    · rfl
    · exact absurd (.inl h3) h4
    · exact (h5.elim h3 h1).elim
    · rfl

/-- The return code of the loop is that of the last row. -/
theorem acknowledgeLoop_rc {rows : List DbEvent} (hrows : rows.Pairwise fun a b => b.id ≠ a.id)
    (hmem : ∀ row ∈ rows, row ∈ table.rows) (rc : ℤ) :
    (acknowledgeLoop faults (rows.map DbEvent.id) (rc, table)).1 =
      (rows.getLast?.map fun row => if Writable faults row then 0 else errUnknown).getD rc := by
  induction rows generalizing table rc with
  | nil => rfl
  | cons row rows ih =>
    obtain ⟨hne, hrows⟩ := List.pairwise_cons.mp hrows
    have hrow := hmem row List.mem_cons_self
    have hrest : ∀ other ∈ rows, other ∈ (acknowledgeRow faults row table).rows := by
      intro other hother
      have hin := hmem other (List.mem_cons_of_mem _ hother)
      rw [acknowledgeRow]
      split_ifs
      · exact mem_acknowledgeById hin (hne other hother)
      · exact hin
    rw [List.map_cons, acknowledgeLoop_cons hrow, ih hrows hrest]
    cases rows with
    | nil => rfl
    | cons next rows => rw [List.getLast?_cons_cons, List.getLast?_eq_some_getLast (by simp)]; rfl

/-! ### The cases of a call -/

/-- The rows that match are rows of the table that the filter matches. -/
theorem mem_matching {row : DbEvent} :
    row ∈ matching filter table ↔ row ∈ table.rows ∧ eventMatchesFilter filter row = true := by
  rw [matching, List.mem_filter, List.mem_reverse]

/-- The identifiers of the rows that match are distinct. -/
theorem pairwise_matching :
    (matching filter table).Pairwise fun a b => b.id ≠ a.id := by
  refine List.Pairwise.filter _ (List.pairwise_reverse.mpr ?_)
  exact table.ascending.imp fun hlt => hlt.ne

/-- A call that counts no event does nothing. -/
private theorem acknowledgeEvents_of_nil (hnil : matching filter table = []) :
    acknowledgeEvents faults filter table = (0, table) := by
  have hcount : ¬ 0 < (processEventsMatchingFilter faults.counting (fun _ => true) filter false 0
      false table).rc := by
    by_cases hreads : faults.counting.Succeed
    · rw [processEvents_count filter _ hreads rfl, hnil]
      exact lt_irrefl _
    · by_cases hrows : table.rows = []
      · rw [processEventsMatchingFilter, hrows]
        split_ifs
        · exact absurd ‹0 < ([] : List DbEvent).length› (lt_irrefl 0)
        · exact absurd ‹0 < ([] : List DbEvent).length› (lt_irrefl 0)
        · exact absurd ‹0 < ([] : List DbEvent).length› (lt_irrefl 0)
        · exact lt_irrefl _
        · exact (by decide : ¬ 0 < errUnknown)
      · exact (processEvents_failed filter _ hreads hrows false 0 false).not_gt
  rw [acknowledgeEvents, if_neg hcount]

/-- A table with matching events has rows. -/
private theorem rows_ne_nil (hne : matching filter table ≠ []) : table.rows ≠ [] := by
  intro hnil
  exact hne (by rw [matching, hnil]; rfl)

/-- A counting call that cannot read is taken for one that counts no event. -/
private theorem acknowledgeEvents_of_counting (hne : matching filter table ≠ [])
    (hreads : ¬ faults.counting.Succeed) :
    acknowledgeEvents faults filter table = (0, table) := by
  have hfailed := processEvents_failed filter (fun _ => true) hreads (rows_ne_nil hne) false 0 false
  rw [acknowledgeEvents, if_neg hfailed.not_gt]

/-- The matching events are counted, as soon as the counting call can read. -/
private theorem acknowledgeEvents_of_counted (hne : matching filter table ≠ [])
    (hreads : faults.counting.Succeed) :
    acknowledgeEvents faults filter table =
      if faults.memory then
        let fetched := processEventsMatchingFilter faults.fetching (fun _ => true) filter true
          (UInt16.ofNat (matching filter table).length) false table
        if 0 < fetched.rc then
          acknowledgeLoop faults
            ((List.range fetched.rc.toNat).map fun i => (fetched.events.getD i {}).eventId) (0, table)
        else
          (0, table)
      else
        (errNoMemory, table) := by
  have hpos : (0 : ℤ) < (matching filter table).length := by
    have := List.length_pos_of_ne_nil hne
    omega
  have hcounted : processEventsMatchingFilter faults.counting (fun _ => true) filter false 0 false
      table = ⟨(matching filter table).length, [], table⟩ :=
    processEvents_count filter _ hreads rfl table
  rw [acknowledgeEvents, hcounted, if_pos hpos, Int.toNat_natCast]

/-- A fetching call that cannot read is taken for one that finds no event. -/
private theorem acknowledgeEvents_of_fetching (hne : matching filter table ≠ [])
    (hcounting : faults.counting.Succeed) (hmemory : faults.memory = true)
    (hfetching : ¬ faults.fetching.Succeed) :
    acknowledgeEvents faults filter table = (0, table) := by
  have hfailed := processEvents_failed filter (fun _ => true) hfetching (rows_ne_nil hne) true
    (UInt16.ofNat (matching filter table).length) false
  rw [acknowledgeEvents_of_counted hne hcounting, if_pos hmemory]
  exact if_neg hfailed.not_gt

/-- A zeroed array: no event has the identifier zero. -/
private theorem acknowledgeLoop_zero (n : ℕ) (rc : ℤ) :
    acknowledgeLoop faults (List.replicate (n + 1) 0) (rc, table) = (errUnknown, table) := by
  have hnone : (if faults.get 0 then table.getById 0 else none) = none := by
    split_ifs
    · refine List.find?_eq_none.mpr fun row hrow => ?_
      have := (table.given row hrow).1
      simp only [decide_eq_true_eq]
      omega
    · rfl
  have hstep : ∀ (ids : List ℕ) (rc : ℤ), acknowledgeLoop faults (0 :: ids) (rc, table) =
      acknowledgeLoop faults ids (errUnknown, table) := by
    intro ids rc
    rw [acknowledgeLoop, hnone]
  induction n generalizing rc with
  | zero => rw [List.replicate_one, hstep, acknowledgeLoop]
  | succ n ih => rw [List.replicate_succ, hstep, ih]

/-- What the call does with the matching events it has counted. -/
private theorem acknowledgeEvents_of_fetched (hne : matching filter table ≠ [])
    (hcounting : faults.counting.Succeed) (hmemory : faults.memory = true)
    (hfetching : faults.fetching.Succeed) :
    acknowledgeEvents faults filter table =
      if 65536 ∣ (matching filter table).length then (errUnknown, table)
      else if (matching filter table).length < 65536 then
        acknowledgeLoop faults ((matching filter table).map DbEvent.id) (0, table)
      else (0, table) := by
  have hpos := List.length_pos_of_ne_nil hne
  have hcounted : (0 : ℤ) < (matching filter table).length := by omega
  have hsize : (UInt16.ofNat (matching filter table).length).toNat =
      (matching filter table).length % 65536 := by simp
  rw [acknowledgeEvents_of_counted hne hcounting, if_pos hmemory]
  dsimp only
  by_cases hdvd : 65536 ∣ (matching filter table).length
  · have hzero : UInt16.ofNat (matching filter table).length = 0 :=
      UInt16.toNat_inj.mp (by rw [hsize, Nat.mod_eq_zero_of_dvd hdvd]; rfl)
    have hnothing : (true && decide (0 < UInt16.ofNat (matching filter table).length)) = false := by
      rw [hzero]
      rfl
    obtain ⟨n, hn⟩ := Nat.exists_eq_succ_of_ne_zero hpos.ne'
    rw [if_pos hdvd, processEvents_count filter _ hfetching hnothing, if_pos hcounted,
      Int.toNat_natCast]
    have hids : ((List.range (matching filter table).length).map fun i =>
        (([] : List Event).getD i {}).eventId) = List.replicate (n + 1) 0 := by
      rw [List.eq_replicate_iff, List.length_map, List.length_range]
      refine ⟨hn, fun id hid => ?_⟩
      obtain ⟨i, -, rfl⟩ := List.mem_map.mp hid
      rfl
    rw [hids, acknowledgeLoop_zero]
  · have hcount : 0 < UInt16.ofNat (matching filter table).length := by
      rw [UInt16.lt_iff_toNat_lt, hsize]
      exact Nat.pos_of_ne_zero fun h => hdvd (Nat.dvd_of_mod_eq_zero h)
    rw [if_neg hdvd]
    by_cases hlt : (matching filter table).length < 65536
    · have hfits : (matching filter table).length ≤
          (UInt16.ofNat (matching filter table).length).toNat := by
        rw [hsize, Nat.mod_eq_of_lt hlt]
      rw [if_pos hlt, processEvents_copy filter _ hfetching hcount hfits, if_pos hcounted,
        Int.toNat_natCast]
      congr 1
      apply List.ext_getElem
      · simp
      · intro i h1 h2
        simp only [List.length_map, List.length_range] at h1
        simp [List.getD_eq_getElem?_getD, List.getElem?_eq_getElem h1, DbEvent.toEvent]
    · have hsmall : (UInt16.ofNat (matching filter table).length).toNat <
          (matching filter table).length := by
        rw [hsize]
        exact (Nat.mod_lt _ (by decide)).trans_le (not_lt.mp hlt)
      rw [if_neg hlt, processEvents_small filter _ hfetching hcount hsmall, if_neg (by decide)]

/-! ### When success means that the events are acknowledged -/

/-- Where a matching event needs to be acknowledged, the table as it is will not do. -/
private theorem ne_acknowledged {row : DbEvent} (hrow : row ∈ matching filter table)
    (hrequired : row.actionRequired ≠ 0) : table ≠ acknowledged filter table := by
  intro heq
  obtain ⟨hmem, hmatch⟩ := mem_matching.mp hrow
  have hrows := congrArg EventTable.rows heq
  rw [acknowledged, setActionRequired_rows] at hrows
  have hfixed := List.map_inj_left.mp ((List.map_id _).trans hrows) row hmem
  have := congrArg DbEvent.actionRequired hfixed
  rw [if_pos hmatch] at this
  exact hrequired this

/-- A call that does nothing and succeeds is wrong as soon as an event needs to be acknowledged. -/
private theorem not_acknowledgesRight {row : DbEvent} (hrow : row ∈ matching filter table)
    (hrequired : row.actionRequired ≠ 0)
    (hcall : acknowledgeEvents faults filter table = (0, table)) :
    ¬ AcknowledgesRight filter faults table := by
  intro hright
  have := hright.acknowledged (by rw [hcall])
  rw [hcall] at this
  exact ne_acknowledged hrow hrequired this

/-- A call that fails is right. -/
private theorem acknowledgesRight_of_error (h : (acknowledgeEvents faults filter table).1 ≠ 0) :
    AcknowledgesRight filter faults table :=
  ⟨fun hzero => absurd hzero h, fun _ => h⟩

/-- A call that goes through the loop. -/
private theorem acknowledgesRight_iff_loopReports (hne : matching filter table ≠ [])
    (hcall : acknowledgeEvents faults filter table =
      acknowledgeLoop faults ((matching filter table).map DbEvent.id) (0, table)) :
    AcknowledgesRight filter faults table ↔ LoopReports filter faults table := by
  have hrows : ∀ row ∈ matching filter table, row ∈ table.rows := fun row hrow =>
    (mem_matching.mp hrow).1
  have hlast : (matching filter table).getLast? = some ((matching filter table).getLast hne) :=
    List.getLast?_eq_some_getLast hne
  have hrc := @acknowledgeLoop_rc faults _ _ pairwise_matching hrows 0
  rw [← hcall, hlast, Option.map_some, Option.getD_some] at hrc
  have htable := @acknowledgeLoop_table faults _ _ pairwise_matching hrows 0
  rw [← hcall] at htable
  by_cases holdest : Writable faults ((matching filter table).getLast hne)
  · rw [if_pos holdest] at hrc
    constructor
    · intro hright
      refine .inr fun row hrow hrequired => ?_
      obtain ⟨hmem, hmatch⟩ := mem_matching.mp hrow
      have heq := congrArg EventTable.rows (htable.symm.trans (hright.acknowledged hrc))
      rw [acknowledged, setActionRequired_rows, setActionRequired_rows] at heq
      have hvalue := congrArg DbEvent.actionRequired (List.map_inj_left.mp heq row hmem)
      simp only [hmatch, if_true] at hvalue
      by_contra hnot
      rw [if_neg] at hvalue
      · exact hrequired hvalue
      · rintro ⟨other, hother, hid, hwritable⟩
        obtain rfl := EventTable.eq_of_id_eq hmem (hrows other hother) hid
        exact hnot hwritable
    · rintro (⟨oldest, hmem, hnot⟩ | hall)
      · rw [hlast] at hmem
        obtain rfl := Option.some.inj hmem
        exact absurd holdest hnot
      · refine ⟨fun _ => ?_, ?_⟩
        · rw [htable, acknowledged]
          apply setActionRequired_congr
          intro row hmem
          by_cases hmatch : eventMatchesFilter filter row
          · have hrow := mem_matching.mpr ⟨hmem, hmatch⟩
            rw [if_pos hmatch]
            by_cases hrequired : row.actionRequired = 0
            · rw [hrequired, ite_self]
            · exact if_pos ⟨row, hrow, rfl, hall row hrow hrequired⟩
          · rw [if_neg hmatch, if_neg]
            rintro ⟨other, hother, hid, -⟩
            obtain rfl := EventTable.eq_of_id_eq hmem (hrows other hother) hid
            exact hmatch (mem_matching.mp hother).2
        · rintro ⟨row, hmem, hmatch, hrequired, hupdate⟩
          have hwritable := hall row (mem_matching.mpr ⟨hmem, hmatch⟩) hrequired
          rw [hwritable.2 hrequired] at hupdate
          exact absurd hupdate (by decide)
  · rw [if_neg holdest] at hrc
    refine iff_of_true (acknowledgesRight_of_error ?_) (.inl ⟨_, hlast, holdest⟩)
    rw [hrc]
    decide

/-- Where nothing needs to be acknowledged, nothing goes wrong. -/
private theorem acknowledgesRight_of_none
    (hnone : ∀ row ∈ matching filter table, row.actionRequired = 0) :
    AcknowledgesRight filter faults table := by
  have hself : acknowledged filter table = table := by
    refine setActionRequired_eq_self fun row hrow => ?_
    split_ifs with hmatch
    · exact (hnone row (mem_matching.mpr ⟨hrow, hmatch⟩)).symm
    · rfl
  refine ⟨fun _ => ?_, ?_⟩
  · rw [hself]
    by_cases hne : matching filter table = []
    · rw [acknowledgeEvents_of_nil hne]
    by_cases hcounting : faults.counting.Succeed
    swap
    · rw [acknowledgeEvents_of_counting hne hcounting]
    by_cases hmemory : faults.memory
    swap
    · rw [acknowledgeEvents_of_counted hne hcounting, if_neg hmemory]
    by_cases hfetching : faults.fetching.Succeed
    swap
    · rw [acknowledgeEvents_of_fetching hne hcounting hmemory hfetching]
    rw [acknowledgeEvents_of_fetched hne hcounting hmemory hfetching]
    split_ifs
    · rfl
    · rw [acknowledgeLoop_table pairwise_matching fun row hrow => (mem_matching.mp hrow).1]
      refine setActionRequired_eq_self fun row hrow => ?_
      split_ifs with hsome
      · obtain ⟨other, hother, hid, -⟩ := hsome
        obtain rfl := EventTable.eq_of_id_eq hrow (mem_matching.mp hother).1 hid
        exact (hnone row hother).symm
      · rfl
    · rfl
  · rintro ⟨row, hmem, hmatch, hrequired, -⟩
    exact absurd (hnone row (mem_matching.mpr ⟨hmem, hmatch⟩)) hrequired

/-- Success of `acknowledge_events` means that the matching events are acknowledged, and nothing
else is changed, exactly under the condition. -/
theorem acknowledgesRight_iff (filter : Option EventFilter) (faults : AckFaults)
    (table : EventTable) :
    AcknowledgesRight filter faults table ↔ AcknowledgeCondition filter faults table := by
  by_cases hnone : ∀ row ∈ matching filter table, row.actionRequired = 0
  · exact iff_of_true (acknowledgesRight_of_none hnone) (.inl hnone)
  rw [AcknowledgeCondition, or_iff_right hnone]
  push Not at hnone
  obtain ⟨row, hrow, hrequired⟩ := hnone
  have hne : matching filter table ≠ [] := List.ne_nil_of_mem hrow
  by_cases hcounting : faults.counting.Succeed
  swap
  · exact iff_of_false (not_acknowledgesRight hrow hrequired
      (acknowledgeEvents_of_counting hne hcounting)) fun h => hcounting h.1
  rw [and_iff_right hcounting]
  by_cases hmemory : faults.memory
  swap
  · refine iff_of_true (acknowledgesRight_of_error ?_) (.inl (by simpa using hmemory))
    rw [acknowledgeEvents_of_counted hne hcounting, if_neg hmemory]
    exact (by decide : errNoMemory ≠ 0)
  rw [or_iff_right (by simpa using hmemory)]
  by_cases hfetching : faults.fetching.Succeed
  swap
  · exact iff_of_false (not_acknowledgesRight hrow hrequired
      (acknowledgeEvents_of_fetching hne hcounting hmemory hfetching)) fun h => hfetching h.1
  rw [and_iff_right hfetching]
  have hcall := acknowledgeEvents_of_fetched hne hcounting hmemory hfetching
  by_cases hdvd : 65536 ∣ (matching filter table).length
  · rw [if_pos hdvd] at hcall
    refine iff_of_true (acknowledgesRight_of_error ?_) (.inl hdvd)
    rw [hcall]
    exact (by decide : errUnknown ≠ 0)
  rw [or_iff_right hdvd]
  rw [if_neg hdvd] at hcall
  by_cases hlt : (matching filter table).length < 65536
  · rw [if_pos hlt] at hcall
    rw [acknowledgesRight_iff_loopReports hne hcall, and_iff_right hlt]
  · rw [if_neg hlt] at hcall
    exact iff_of_false (not_acknowledgesRight hrow hrequired hcall) fun h => hlt h.1

/-- Two events that require an action. -/
def twoEvents : EventTable :=
  (EventTable.empty.add { actionRequired := 1 } 100).add { actionRequired := 1 } 101

/-- The update of the newer event fails, that of the older one succeeds: the call succeeds with an
event that still requires action. -/
theorem not_acknowledgesRight_newerFails :
    ¬ AcknowledgesRight none { update := fun id => id ≠ 2 } twoEvents := by
  intro h
  have hreport := h.reported ⟨twoEvents.rows.getLast (by decide), List.getLast_mem _, by decide⟩
  exact hreport (by decide)

end IxpDimm.EventLog
