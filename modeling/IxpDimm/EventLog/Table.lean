import IxpDimm.Common.Text
import Mathlib.Data.List.Infix
import Mathlib.Data.List.Sort
import Mathlib.Tactic.Linarith

/-!
# The event table and its filters

The table `event` of the database, with the operations that the event log uses, and
`process_events_matching_filter`, by which every reader of the table counts, copies or purges the
events that a filter matches.  The function is called twice by most readers: once to count the
matching events, and once to copy them into an array of that size.  The size is passed as a
`NVM_UINT16`.

Return codes are kept as the integers they are, since the same variable holds a count.
-/

namespace IxpDimm.EventLog

/-! ### Rows -/

/-- `struct db_event`, a row of the table.  The identifiers are given by the database; they are
positive and fit the `int` that they are read into. -/
structure DbEvent where
  /-- The primary key. -/
  id : ℕ
  /-- `enum event_type`. -/
  type : UInt32
  /-- `enum event_severity`. -/
  severity : UInt32
  /-- The code. -/
  code : UInt32
  /-- Whether a corrective action is needed. -/
  actionRequired : UInt32
  /-- The unique id of the item that had the event. -/
  uid : Uid
  /-- The time at which the event was stored. -/
  time : UInt64
  /-- The first argument of the message. -/
  arg1 : List Char
  /-- The second argument of the message. -/
  arg2 : List Char
  /-- The third argument of the message. -/
  arg3 : List Char
  /-- `enum diagnostic_result`. -/
  diagResult : UInt32
  deriving DecidableEq, Repr

/-- `struct event`, without the message text. -/
structure Event where
  /-- The identifier of the row. -/
  eventId : ℕ := 0
  /-- `enum event_type`. -/
  type : UInt32 := 0
  /-- `enum event_severity`. -/
  severity : UInt32 := 0
  /-- The code. -/
  code : UInt16 := 0
  /-- Whether a corrective action is needed. -/
  actionRequired : UInt8 := 0
  /-- The unique id of the item that had the event. -/
  uid : Uid := []
  /-- The time at which the event was stored. -/
  time : UInt64 := 0
  /-- The arguments of the message. -/
  args : List Char × List Char × List Char := ([], [], [])
  /-- `enum diagnostic_result`. -/
  diagResult : UInt32 := 0
  deriving DecidableEq, Repr

/-- The fields that `process_events_matching_filter` copies out of a row. -/
def DbEvent.toEvent (row : DbEvent) : Event where
  eventId := row.id
  type := row.type
  severity := row.severity
  code := row.code.toUInt16
  actionRequired := row.actionRequired.toUInt8
  uid := row.uid
  time := row.time
  args := (row.arg1, row.arg2, row.arg3)
  diagResult := row.diagResult

/-- An event as `store_event` hands it to the database. -/
def Event.toDbEvent (event : Event) (id : ℕ) (timeNow : UInt64) : DbEvent where
  id := id
  type := event.type
  severity := event.severity
  code := event.code.toUInt32
  actionRequired := event.actionRequired.toUInt32
  uid := event.uid
  time := timeNow
  arg1 := event.args.1
  arg2 := event.args.2.1
  arg3 := event.args.2.2
  diagResult := event.diagResult

/-! ### The table -/

/-- The table `event`: the rows in the order of their keys, and the largest key that was ever given
(`AUTOINCREMENT`). -/
@[ext] structure EventTable where
  /-- The rows. -/
  rows : List DbEvent
  /-- The largest identifier given so far. -/
  seq : ℕ
  /-- The identifiers ascend. -/
  ascending : rows.Pairwise fun a b => a.id < b.id
  /-- The identifiers were given. -/
  given : ∀ row ∈ rows, 0 < row.id ∧ row.id ≤ seq

namespace EventTable

/-- A table in which nothing was ever stored. -/
def empty : EventTable where
  rows := []
  seq := 0
  ascending := .nil
  given := by simp

/-- `db_add_event` -/
def add (table : EventTable) (event : Event) (timeNow : UInt64) : EventTable where
  rows := table.rows ++ [event.toDbEvent (table.seq + 1) timeNow]
  seq := table.seq + 1
  ascending := by
    refine List.pairwise_append.mpr ⟨table.ascending, List.pairwise_singleton _ _, ?_⟩
    intro row hrow new hnew
    obtain rfl := List.mem_singleton.mp hnew
    exact Nat.lt_succ_of_le (table.given row hrow).2
  given := by
    intro row hrow
    rcases List.mem_append.mp hrow with h | h
    · exact ⟨(table.given row h).1, Nat.le_succ_of_le (table.given row h).2⟩
    · obtain rfl := List.mem_singleton.mp h
      exact ⟨Nat.succ_pos _, le_rfl⟩

/-- The rows that satisfy a test are deleted. -/
def deleteWhere (table : EventTable) (test : DbEvent → Bool) : EventTable where
  rows := table.rows.filter fun row => !test row
  seq := table.seq
  ascending := table.ascending.filter _
  given := fun row hrow => table.given row (List.mem_of_mem_filter hrow)

/-- `db_delete_event_by_id` -/
def deleteById (table : EventTable) (id : ℕ) : EventTable :=
  table.deleteWhere fun row => row.id = id

/-- Every row is given an `action_required`. -/
def setActionRequired (table : EventTable) (value : DbEvent → UInt32) : EventTable where
  rows := table.rows.map fun row => { row with actionRequired := value row }
  seq := table.seq
  ascending := List.pairwise_map.mpr table.ascending
  given := by
    intro row hrow
    obtain ⟨old, hold, rfl⟩ := List.mem_map.mp hrow
    exact table.given old hold

/-- `db_get_event_by_id` -/
def getById (table : EventTable) (id : ℕ) : Option DbEvent :=
  table.rows.find? fun row => row.id = id

/-- `db_update_event_by_id`, for the update that the event log makes: the row that was read is
written back with no action required. -/
def acknowledgeById (table : EventTable) (id : ℕ) : EventTable :=
  table.setActionRequired fun row => if row.id = id then 0 else row.actionRequired

/-- `get_nvm_event_id`: the largest identifier in the table, which is `NULL`, and read as zero, in an
empty table. -/
def maxId (table : EventTable) : ℕ := (table.rows.getLast?.map DbEvent.id).getD 0

end EventTable

/-! ### Filters -/

/-- `EVENT_TYPE_ALL` -/
def eventTypeAll : UInt32 := 0

/-- `EVENT_TYPE_DIAG` -/
def eventTypeDiag : UInt32 := 4

/-- `struct event_filter`: the values whose bit is set in the mask. -/
structure EventFilter where
  /-- `NVM_FILTER_ON_TYPE`. -/
  type : Option UInt32 := none
  /-- `NVM_FILTER_ON_SEVERITY`. -/
  severity : Option UInt32 := none
  /-- `NVM_FILTER_ON_CODE`. -/
  code : Option UInt16 := none
  /-- `NVM_FILTER_ON_UID`. -/
  uid : Option Uid := none
  /-- `NVM_FILTER_ON_AFTER`. -/
  after : Option UInt64 := none
  /-- `NVM_FILTER_ON_BEFORE`. -/
  before : Option UInt64 := none
  /-- `NVM_FILTER_ON_EVENT`. -/
  eventId : Option ℕ := none
  /-- `NVM_FILTER_ON_AR`. -/
  actionRequired : Option UInt8 := none
  deriving DecidableEq, Repr

/-- The test of `event_matches_filter` on the type: besides the type itself, all types and all
diagnostic types can be asked for. -/
def typeMatches (wanted type : UInt32) : Bool :=
  wanted == eventTypeAll || wanted == type || (wanted == eventTypeDiag && !(type < eventTypeDiag))

/-- `event_matches_filter` for a filter that is not `NULL`. -/
def EventFilter.matchesRow (filter : EventFilter) (row : DbEvent) : Bool :=
  (filter.type.all fun type => typeMatches type row.type) &&
  (filter.severity.all fun severity => !(row.severity < severity)) &&
  (filter.code.all fun code => row.code == code.toUInt32) &&
  (filter.uid.all fun uid => uidCmp row.uid uid) &&
  (filter.after.all fun after => !(row.time ≤ after)) &&
  (filter.before.all fun before => !(before ≤ row.time)) &&
  (filter.eventId.all fun eventId => row.id == eventId) &&
  (filter.actionRequired.all fun value => row.actionRequired == value.toUInt32)

/-- `event_matches_filter` -/
def eventMatchesFilter (filter : Option EventFilter) (row : DbEvent) : Bool :=
  filter.all fun filter => filter.matchesRow row

/-! ### Reading the table -/

/-- `NVM_ERR_UNKNOWN` -/
def errUnknown : ℤ := -1

/-- `NVM_ERR_NOMEMORY` -/
def errNoMemory : ℤ := -2

/-- `NVM_ERR_ARRAYTOOSMALL` -/
def errArrayTooSmall : ℤ := -17

/-- Which of the steps of reading the whole table succeed. -/
structure Reads where
  /-- `db_get_event_count` -/
  count : Bool := true
  /-- The allocation of the array of rows. -/
  memory : Bool := true
  /-- `db_get_events` -/
  rows : Bool := true
  deriving DecidableEq, Repr

/-- Everything is read. -/
def Reads.Succeed (reads : Reads) : Prop := reads.count ∧ reads.memory ∧ reads.rows

instance (reads : Reads) : Decidable reads.Succeed :=
  inferInstanceAs (Decidable (reads.count ∧ reads.memory ∧ reads.rows))

/-- What `process_events_matching_filter` has done so far. -/
structure Processed where
  /-- The count of matching events, or an error. -/
  rc : ℤ
  /-- The events copied to the array of the caller. -/
  events : List Event
  /-- The table. -/
  table : EventTable

/-- The loop of `process_events_matching_filter`.  `events` says whether `p_events` is given, and
`deletes` which deletions succeed. -/
def processLoop (filter : Option EventFilter) (events : Bool) (count : UInt16) (purge : Bool)
    (deletes : ℕ → Bool) : List DbEvent → Processed → Processed
  | [], p => p
  | row :: rows, p =>
    if eventMatchesFilter filter row then
      if purge then
        processLoop filter events count purge deletes rows
          { p with
            rc := p.rc + 1
            table := if deletes row.id then p.table.deleteById row.id else p.table }
      else if events && decide (0 < count) then
        if (count.toNat : ℤ) < p.rc + 1 then
          { p with rc := errArrayTooSmall }
        else
          processLoop filter events count purge deletes rows
            { p with rc := p.rc + 1, events := p.events ++ [row.toEvent] }
      else
        processLoop filter events count purge deletes rows { p with rc := p.rc + 1 }
    else
      processLoop filter events count purge deletes rows p

/-- `process_events_matching_filter`.  The rows are read `ORDER BY id DESC`. -/
def processEventsMatchingFilter (reads : Reads) (deletes : ℕ → Bool) (filter : Option EventFilter)
    (events : Bool) (count : UInt16) (purge : Bool) (table : EventTable) : Processed :=
  if reads.count then
    if 0 < table.rows.length then
      if reads.memory then
        if reads.rows then
          processLoop filter events count purge deletes table.rows.reverse ⟨0, [], table⟩
        else
          ⟨errUnknown, [], table⟩
      else
        ⟨errNoMemory, [], table⟩
    else
      ⟨0, [], table⟩
  else
    ⟨errUnknown, [], table⟩

/-- The events that the filter matches, in the order in which they are read. -/
def matching (filter : Option EventFilter) (table : EventTable) : List DbEvent :=
  table.rows.reverse.filter (eventMatchesFilter filter)

/-! ### Counting and copying -/

variable (filter : Option EventFilter) (deletes : ℕ → Bool) {events : Bool} {count : UInt16}

/-- Where nothing is copied, the loop adds the number of matching rows. -/
private theorem processLoop_count (h : (events && decide (0 < count)) = false)
    (rows : List DbEvent) (p : Processed) :
    processLoop filter events count false deletes rows p =
      { p with rc := p.rc + (rows.filter (eventMatchesFilter filter)).length } := by
  induction rows generalizing p with
  | nil => simp [processLoop]
  | cons row rows ih =>
    rw [processLoop]
    by_cases hmatch : eventMatchesFilter filter row
    · rw [if_pos hmatch, if_neg (by decide), if_neg (by rw [h]; decide), ih,
        List.filter_cons_of_pos hmatch, List.length_cons]
      simp only [Nat.cast_add, Nat.cast_one, add_assoc, add_comm (1 : ℤ)]
    · rw [if_neg hmatch, ih, List.filter_cons_of_neg hmatch]

/-- Where the array is large enough, the loop copies the matching rows. -/
private theorem processLoop_copy (hcount : 0 < count) (rows : List DbEvent) (k : ℕ)
    (copied : List Event) (table : EventTable)
    (hfits : k + (rows.filter (eventMatchesFilter filter)).length ≤ count.toNat) :
    processLoop filter true count false deletes rows ⟨k, copied, table⟩ =
      ⟨(k + (rows.filter (eventMatchesFilter filter)).length : ℕ),
        copied ++ (rows.filter (eventMatchesFilter filter)).map DbEvent.toEvent, table⟩ := by
  induction rows generalizing k copied with
  | nil => simp [processLoop]
  | cons row rows ih =>
    rw [processLoop]
    by_cases hmatch : eventMatchesFilter filter row
    · rw [List.filter_cons_of_pos hmatch, List.length_cons] at hfits ⊢
      have hroom : ¬ (count.toNat : ℤ) < (k : ℤ) + 1 := by omega
      rw [if_pos hmatch, if_neg (by decide), if_pos (by simpa using hcount), if_neg hroom]
      have hnext := ih (k + 1) (copied ++ [row.toEvent]) (by omega)
      rw [Nat.cast_add, Nat.cast_one] at hnext
      rw [hnext, List.map_cons, List.append_assoc, List.singleton_append]
      congr 2
      omega
    · rw [List.filter_cons_of_neg hmatch] at hfits ⊢
      rw [if_neg hmatch]
      exact ih k copied hfits

/-- Where the array is too small, the loop ends with the error. -/
private theorem processLoop_small (hcount : 0 < count) (rows : List DbEvent) (k : ℕ)
    (copied : List Event) (table : EventTable) (hk : k ≤ count.toNat)
    (hsmall : count.toNat < k + (rows.filter (eventMatchesFilter filter)).length) :
    ∃ copied', processLoop filter true count false deletes rows ⟨k, copied, table⟩ =
      ⟨errArrayTooSmall, copied', table⟩ := by
  induction rows generalizing k copied with
  | nil => exact absurd hsmall (by simpa using hk)
  | cons row rows ih =>
    rw [processLoop]
    by_cases hmatch : eventMatchesFilter filter row
    · rw [List.filter_cons_of_pos hmatch, List.length_cons] at hsmall
      rw [if_pos hmatch, if_neg (by decide), if_pos (by simpa using hcount)]
      by_cases hroom : (count.toNat : ℤ) < (k : ℤ) + 1
      · rw [if_pos hroom]
        exact ⟨copied, rfl⟩
      · rw [if_neg hroom]
        have hnext := ih (k + 1) (copied ++ [row.toEvent]) (by omega) (by omega)
        rw [Nat.cast_add, Nat.cast_one] at hnext
        exact hnext
    · rw [List.filter_cons_of_neg hmatch] at hsmall
      rw [if_neg hmatch]
      exact ih k copied hk hsmall

/-- What is read of a table is what its rows are, as soon as all steps of the reading succeed. -/
private theorem processEvents_of_succeed {reads : Reads} (hreads : reads.Succeed) (purge : Bool)
    (table : EventTable) :
    processEventsMatchingFilter reads deletes filter events count purge table =
      processLoop filter events count purge deletes table.rows.reverse ⟨0, [], table⟩ := by
  obtain ⟨hcount, hmemory, hrows⟩ := hreads
  rw [processEventsMatchingFilter, if_pos hcount, if_pos hmemory, if_pos hrows]
  split_ifs with hlen
  · rfl
  · have hnil : table.rows = [] := List.length_eq_zero_iff.mp (by omega)
    rw [hnil, List.reverse_nil, processLoop]

/-- Where nothing is copied, the matching rows are counted. -/
theorem processEvents_count {reads : Reads} (hreads : reads.Succeed)
    (h : (events && decide (0 < count)) = false) (table : EventTable) :
    processEventsMatchingFilter reads deletes filter events count false table =
      ⟨(matching filter table).length, [], table⟩ := by
  rw [processEvents_of_succeed filter deletes hreads, processLoop_count filter deletes h, matching,
    zero_add]

/-- An array that is large enough receives the matching rows. -/
theorem processEvents_copy {reads : Reads} (hreads : reads.Succeed) (hcount : 0 < count)
    {table : EventTable} (hfits : (matching filter table).length ≤ count.toNat) :
    processEventsMatchingFilter reads deletes filter true count false table =
      ⟨(matching filter table).length, (matching filter table).map DbEvent.toEvent, table⟩ := by
  have hloop := processLoop_copy filter deletes hcount table.rows.reverse 0 [] table
    (by rw [zero_add]; exact hfits)
  rw [zero_add, List.nil_append] at hloop
  rw [processEvents_of_succeed filter deletes hreads]
  exact hloop

/-- For an array that is too small there is an error. -/
theorem processEvents_small {reads : Reads} (hreads : reads.Succeed) (hcount : 0 < count)
    {table : EventTable} (hsmall : count.toNat < (matching filter table).length) :
    (processEventsMatchingFilter reads deletes filter true count false table).rc =
      errArrayTooSmall := by
  obtain ⟨copied, hloop⟩ := processLoop_small filter deletes hcount table.rows.reverse 0 []
    table (Nat.zero_le _) (by rw [zero_add]; exact hsmall)
  rw [processEvents_of_succeed filter deletes hreads]
  exact congrArg Processed.rc hloop

/-- A reading that fails is an error, unless there is nothing to be read. -/
theorem processEvents_failed {reads : Reads} (hreads : ¬ reads.Succeed) {table : EventTable}
    (hrows : table.rows ≠ []) (events : Bool) (count : UInt16) (purge : Bool) :
    (processEventsMatchingFilter reads deletes filter events count purge table).rc < 0 := by
  have hlen : 0 < table.rows.length := List.length_pos_of_ne_nil hrows
  rw [processEventsMatchingFilter, if_pos hlen]
  split_ifs with h1 h2 h3
  · exact absurd ⟨h1, h2, h3⟩ hreads
  · exact (by decide : errUnknown < 0)
  · exact (by decide : errNoMemory < 0)
  · exact (by decide : errUnknown < 0)

/-! ### What later tables hold -/

namespace EventTable

/-- A later table holds rows of the earlier one, by their identifiers, and rows with identifiers
that were not given before. -/
structure Later (table table' : EventTable) : Prop where
  /-- Identifiers are not given again. -/
  seq : table.seq ≤ table'.seq
  /-- Every row was there or has a new identifier. -/
  rows : ∀ row' ∈ table'.rows, table.seq < row'.id ∨ ∃ row ∈ table.rows, row.id = row'.id

/-- A table is later than itself. -/
theorem Later.refl (table : EventTable) : Later table table :=
  ⟨le_rfl, fun row hrow => .inr ⟨row, hrow, rfl⟩⟩

/-- A table that is later than a later table is later. -/
theorem Later.trans {table table' table'' : EventTable} (h : Later table table')
    (h' : Later table' table'') : Later table table'' := by
  refine ⟨h.seq.trans h'.seq, fun row'' hrow'' => ?_⟩
  rcases h'.rows row'' hrow'' with hnew | ⟨row', hrow', hid⟩
  · exact .inl (h.seq.trans_lt hnew)
  · rw [← hid]
    exact h.rows row' hrow'

/-- Adding a row gives a later table. -/
theorem later_add (table : EventTable) (event : Event) (timeNow : UInt64) :
    Later table (table.add event timeNow) := by
  refine ⟨Nat.le_succ _, fun row hrow => ?_⟩
  rcases List.mem_append.mp hrow with h | h
  · exact .inr ⟨row, h, rfl⟩
  · obtain rfl := List.mem_singleton.mp h
    exact .inl (Nat.lt_succ_self _)

/-- Deleting rows gives a later table. -/
theorem later_deleteWhere (table : EventTable) (test : DbEvent → Bool) :
    Later table (table.deleteWhere test) :=
  ⟨le_rfl, fun row hrow => .inr ⟨row, List.mem_of_mem_filter hrow, rfl⟩⟩

/-- Acknowledging rows gives a later table. -/
theorem later_setActionRequired (table : EventTable) (value : DbEvent → UInt32) :
    Later table (table.setActionRequired value) := by
  refine ⟨le_rfl, fun row hrow => ?_⟩
  obtain ⟨old, hold, rfl⟩ := List.mem_map.mp hrow
  exact .inr ⟨old, hold, rfl⟩

/-- The identifiers of the rows are at most the largest one. -/
theorem id_le_maxId {table : EventTable} {row : DbEvent} (h : row ∈ table.rows) :
    row.id ≤ table.maxId := by
  rcases List.eq_nil_or_concat' table.rows with hnil | ⟨first, last, hrows⟩
  · rw [hnil] at h
    exact absurd h List.not_mem_nil
  · have hmax : table.maxId = last.id := by
      rw [maxId, hrows, List.getLast?_concat, Option.map_some, Option.getD_some]
    have hasc := table.ascending
    rw [hrows, List.pairwise_append] at hasc
    rw [hrows, List.mem_append, List.mem_singleton] at h
    rw [hmax]
    rcases h with h | rfl
    · exact (hasc.2.2 row h last (List.mem_singleton_self _)).le
    · exact le_rfl

/-- The largest identifier of the table was given. -/
theorem maxId_le_seq (table : EventTable) : table.maxId ≤ table.seq := by
  rw [maxId]
  cases hlast : table.rows.getLast? with
  | none => exact Nat.zero_le _
  | some row => exact (table.given row (List.mem_of_getLast? hlast)).2

/-- Rows with the same identifier are the same. -/
theorem eq_of_id_eq {table : EventTable} {row row' : DbEvent} (h : row ∈ table.rows)
    (h' : row' ∈ table.rows) (hid : row.id = row'.id) : row = row' := by
  have hnodup : (table.rows.map DbEvent.id).Nodup :=
    List.pairwise_map.mpr (table.ascending.imp fun hlt => hlt.ne)
  exact List.inj_on_of_nodup_map hnodup h h' hid

end EventTable

/-- Reading, copying and purging gives a later table. -/
theorem later_processEvents (reads : Reads) (deletes : ℕ → Bool) (filter : Option EventFilter)
    (events : Bool) (count : UInt16) (purge : Bool) (table : EventTable) :
    table.Later (processEventsMatchingFilter reads deletes filter events count purge table).table := by
  have hloop : ∀ (rows : List DbEvent) (p : Processed), table.Later p.table →
      table.Later (processLoop filter events count purge deletes rows p).table := by
    intro rows
    induction rows with
    | nil => exact fun p hp => hp
    | cons row rows ih =>
      intro p hp
      rw [processLoop]
      split_ifs
      · exact ih _ (hp.trans (p.table.later_deleteWhere _))
      · exact ih _ hp
      · exact hp
      · exact ih _ hp
      · exact ih _ hp
      · exact ih _ hp
  rw [processEventsMatchingFilter]
  split_ifs
  · exact hloop _ _ (.refl table)
  · exact .refl table
  · exact .refl table
  · exact .refl table
  · exact .refl table

end IxpDimm.EventLog
