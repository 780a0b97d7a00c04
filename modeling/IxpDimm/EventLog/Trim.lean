import IxpDimm.Config.Settings
import IxpDimm.EventLog.Table
import Mathlib.Data.List.Dedup
import Mathlib.Data.List.Perm.Basic

/-!
# Storing events and trimming the log

`store_event` adds a row and then, when the table has reached `EVENT_LOG_MAX` rows, deletes the
oldest rows that require no action.  How many is computed as `trim_percent * max_events / 100` in
`int`: this is zero when the product is below 100, and it can be zero or negative when the product
leaves the range of `int` (it wraps around here).  With zero the log is never trimmed.

A run of stores keeps its table within the bound exactly when the product is not of that kind, or
the run never needs to trim (`storesBounded_iff`).
-/

namespace IxpDimm.EventLog

open Config

/-! ### The code -/

/-- The settings that `store_event` reads, where they are there. -/
structure LogSettings where
  /-- `EVENT_LOG_MAX` -/
  eventLogMax : Option Int32 := none
  /-- `EVENT_LOG_TRIM_PERCENT` -/
  eventLogTrimPercent : Option Int32 := none
  deriving DecidableEq, Repr

/-- `max_events`, with its default. -/
def LogSettings.maxEvents (settings : LogSettings) : Int32 :=
  getBoundedConfigValueInt keyEventLogMax settings.eventLogMax 10000

/-- `trim_percent`, with its default, which also replaces a negative value. -/
def LogSettings.trimPercent (settings : LogSettings) : Int32 :=
  let defaultTrimPercent := 10
  let trimPercent :=
    getBoundedConfigValueInt keyEventLogTrimPercent settings.eventLogTrimPercent defaultTrimPercent
  if trimPercent < 0 then defaultTrimPercent else trimPercent

/-- Which of the operations of `store_event` succeed. -/
structure StoreFaults where
  /-- `db_add_event` -/
  add : Bool := true
  /-- `table_row_count`, which leaves the count at zero when it fails. -/
  count : Bool := true
  /-- `db_run_custom_sql` -/
  trim : Bool := true
  deriving DecidableEq, Repr

/-- The rows that require no action. -/
def EventTable.noActionRequired (table : EventTable) : List DbEvent :=
  table.rows.filter fun row => row.actionRequired = 0

/-- `SELECT id FROM event where action_required = 0 ORDER BY id LIMIT n`; there is no limit when `n`
is negative. -/
def EventTable.selectOldest (table : EventTable) (limit : Int32) : List DbEvent :=
  if limit < 0 then table.noActionRequired
  else table.noActionRequired.take limit.toInt.toNat

/-- `DELETE FROM event where id IN (SELECT …)` -/
def EventTable.trim (table : EventTable) (limit : Int32) : EventTable :=
  table.deleteWhere fun row => row.id ∈ (table.selectOldest limit).map DbEvent.id

/-- `store_event`, without the entry in the system log. -/
def storeEvent (faults : StoreFaults) (settings : LogSettings) (event : Event) (timeNow : UInt64)
    (table : EventTable) : ℤ × EventTable :=
  if faults.add then
    let table := table.add event timeNow
    let eventCount := if faults.count then table.rows.length else 0
    if settings.maxEvents.toInt ≤ (eventCount : ℤ) then
      let trimEvents := settings.trimPercent * settings.maxEvents / 100
      (0, if faults.trim then table.trim trimEvents else table)
    else
      (0, table)
  else
    (errUnknown, table)

/-- Storing an event gives a later table. -/
theorem later_storeEvent (faults : StoreFaults) (settings : LogSettings) (event : Event)
    (timeNow : UInt64) (table : EventTable) :
    table.Later (storeEvent faults settings event timeNow table).2 := by
  have hadd := table.later_add event timeNow
  rw [storeEvent]
  by_cases hstored : faults.add
  · rw [if_pos hstored]
    dsimp only
    split_ifs
    · exact hadd.trans (EventTable.later_deleteWhere _ _)
    · exact hadd
    · exact hadd
    · exact hadd.trans (EventTable.later_deleteWhere _ _)
    · exact hadd
    · exact hadd
  · rw [if_neg hstored]
    exact .refl table

/-! ### What is asked of it -/

/-- What one successful store does to a table: some of the oldest rows that require no action are
removed, not more than the share, and the table is within its bound or holds only rows that require
action. -/
structure StoreBounded (settings : LogSettings) (table : EventTable) (event : Event)
    (timeNow : UInt64) (table' : EventTable) : Prop where
  /-- The rows that were removed. -/
  removed : ∃ k ≤ (table.add event timeNow).noActionRequired.length,
    100 * (k : ℤ) ≤ min settings.trimPercent.toInt 100 * settings.maxEvents.toInt ∧
    table'.rows = (table.add event timeNow).rows.filter fun row =>
      row ∉ (table.add event timeNow).noActionRequired.take k
  /-- The size of the table. -/
  bounded : (table'.rows.length : ℤ) ≤ settings.maxEvents.toInt ∨
    ∀ row ∈ table'.rows, row.actionRequired ≠ 0

/-- Every store of a run is as it should be. -/
def StoresBounded (settings : LogSettings) : EventTable → List (Event × UInt64) → Prop
  | _, [] => True
  | table, (event, timeNow) :: stores =>
    StoreBounded settings table event timeNow (storeEvent {} settings event timeNow table).2 ∧
      StoresBounded settings (storeEvent {} settings event timeNow table).2 stores

/-- The number of events to be trimmed is not zero: the product of the two settings, as an `int`, is
a hundred or more in absolute value. -/
def LogSettings.Trims (settings : LogSettings) : Prop :=
  100 ≤ |Int.bmod (settings.trimPercent.toInt * settings.maxEvents.toInt) (2 ^ 32)|

/-! ### The settings -/

/-- The share that is trimmed is at least ten percent. -/
theorem ten_le_trimPercent (settings : LogSettings) : 10 ≤ settings.trimPercent.toInt := by
  have hten : ∀ v : Int32, 10 ≤ (if v < 10 then 10 else v).toInt := by
    intro v
    split_ifs with hlt
    · decide
    · have := Int32.le_iff_toInt_le.mp (Int32.not_lt.mp hlt)
      simpa using this
  rw [LogSettings.trimPercent]
  split_ifs
  · decide
  · cases settings.eventLogTrimPercent with
    | none => exact (by decide : (10 : ℤ) ≤ (10 : Int32).toInt)
    | some v =>
      rw [getBoundedConfigValueInt_some, applyBoundToConfigValue_eventLogTrimPercent]
      exact hten v

/-- The size of the table is at most 100000. -/
theorem maxEvents_le (settings : LogSettings) : settings.maxEvents.toInt ≤ 100000 := by
  have hbound : ∀ v : Int32, (applyBound v 0 100000).toInt ≤ 100000 := by
    intro v
    rw [applyBound]
    split_ifs with h1 h2 h3
    · decide
    · decide
    · decide
    · have := Int32.le_iff_toInt_le.mp (Int32.not_lt.mp h3)
      simpa using this
  rw [LogSettings.maxEvents]
  cases settings.eventLogMax with
  | none => exact (by decide : (10000 : Int32).toInt ≤ 100000)
  | some v =>
    rw [getBoundedConfigValueInt_some, applyBoundToConfigValue_eventLogMax]
    exact hbound v

/-- The number of events to be trimmed, as an integer. -/
theorem toInt_trimEvents (settings : LogSettings) :
    (settings.trimPercent * settings.maxEvents / 100).toInt =
      (Int.bmod (settings.trimPercent.toInt * settings.maxEvents.toInt) (2 ^ 32)).tdiv 100 := by
  rw [Int32.toInt_div_of_ne_right _ _ (by decide), Int32.toInt_mul]
  rfl

/-- The wrapped product is at most the product, and is the product where that is small. -/
private theorem bmod_product {q : ℤ} (hq : 0 ≤ q) :
    Int.bmod q (2 ^ 32) ≤ q ∧ (q ≤ 10000000 → Int.bmod q (2 ^ 32) = q) := by
  rw [Int.bmod_def]
  constructor
  · split_ifs <;> omega
  · intro hsmall
    split_ifs <;> omega

/-- Which multiples of a hundred are left after the division. -/
private theorem tdiv_hundred (w : ℤ) :
    (w.tdiv 100 = 0 ↔ |w| < 100) ∧ (0 ≤ w.tdiv 100 → 100 * w.tdiv 100 ≤ max w 0) ∧
      (w.tdiv 100 < 0 → w < 0) := by
  rcases le_total 0 w with hw | hw
  · rw [Int.tdiv_eq_ediv_of_nonneg hw, abs_of_nonneg hw, max_eq_left hw]
    omega
  · obtain ⟨v, rfl⟩ : ∃ v, w = -v := ⟨-w, (neg_neg w).symm⟩
    have hv : 0 ≤ v := by omega
    rw [Int.neg_tdiv, Int.tdiv_eq_ediv_of_nonneg hv, abs_neg, abs_of_nonneg hv, max_eq_right hw]
    omega

/-- Nothing is trimmed exactly when the number of events to be trimmed is zero. -/
theorem trims_iff (settings : LogSettings) :
    settings.Trims ↔ (settings.trimPercent * settings.maxEvents / 100).toInt ≠ 0 := by
  rw [LogSettings.Trims, toInt_trimEvents, ne_eq, (tdiv_hundred _).1, not_lt]

/-! ### Trimming -/

/-- How many rows are selected for deletion. -/
def selectCount (limit : Int32) (available : ℕ) : ℕ :=
  if limit.toInt < 0 then available else min limit.toInt.toNat available

/-- The rows selected for deletion are the oldest of those that require no action. -/
theorem selectOldest_eq (table : EventTable) (limit : Int32) :
    table.selectOldest limit =
      table.noActionRequired.take (selectCount limit table.noActionRequired.length) := by
  rw [EventTable.selectOldest, selectCount]
  by_cases hneg : limit.toInt < 0
  · rw [if_pos hneg, if_pos (Int32.lt_iff_toInt_lt.mpr hneg), List.take_length]
  · rw [if_neg hneg, if_neg fun h => hneg (Int32.lt_iff_toInt_lt.mp h), ← List.take_take,
      List.take_length]

/-- The rows that are left after trimming. -/
theorem rows_trim (table : EventTable) (limit : Int32) :
    (table.trim limit).rows = table.rows.filter fun row =>
      row ∉ table.noActionRequired.take (selectCount limit table.noActionRequired.length) := by
  have hsub : ∀ row ∈ table.selectOldest limit, row ∈ table.rows := by
    intro row hrow
    rw [selectOldest_eq] at hrow
    exact List.mem_of_mem_filter (List.mem_of_mem_take hrow)
  rw [← selectOldest_eq]
  apply List.filter_congr
  intro row hrow
  rw [← decide_not, decide_eq_decide, not_iff_not, List.mem_map]
  constructor
  · rintro ⟨other, hother, hid⟩
    obtain rfl := EventTable.eq_of_id_eq (hsub other hother) hrow hid
    exact hother
  · intro hmem
    exact ⟨row, hmem, rfl⟩

/-- A list without a part of it, counted. -/
private theorem length_filter_notMem {rows taken : List DbEvent} (hrows : rows.Nodup)
    (htaken : taken.Sublist rows) :
    (rows.filter fun row => row ∉ taken).length + taken.length = rows.length := by
  have hperm : (rows.filter fun row => row ∈ taken).Perm taken := by
    rw [List.perm_ext_iff_of_nodup (hrows.filter _) (hrows.sublist htaken)]
    intro row
    rw [List.mem_filter, decide_eq_true_eq]
    exact and_iff_right_of_imp fun h => htaken.subset h
  have hsplit := List.length_eq_length_filter_add (l := rows) fun row => decide (row ∈ taken)
  rw [hperm.length_eq] at hsplit
  simp only [decide_not]
  omega

/-- The rows of a table are distinct. -/
private theorem nodup_rows (table : EventTable) : table.rows.Nodup :=
  table.ascending.imp fun hlt heq => absurd (congrArg DbEvent.id heq) hlt.ne

/-- The number of rows that are left after trimming. -/
theorem length_rows_trim (table : EventTable) (limit : Int32) :
    (table.trim limit).rows.length + selectCount limit table.noActionRequired.length =
      table.rows.length := by
  have htaken : (table.noActionRequired.take
      (selectCount limit table.noActionRequired.length)).Sublist table.rows :=
    (List.take_sublist _ _).trans List.filter_sublist
  have hle : selectCount limit table.noActionRequired.length ≤ table.noActionRequired.length := by
    rw [selectCount]
    split_ifs
    · exact le_rfl
    · exact min_le_right _ _
  have hcount := length_filter_notMem (nodup_rows table) htaken
  rw [List.length_take, min_eq_left hle] at hcount
  rw [rows_trim]
  exact hcount

/-- Where all rows that require no action are selected, none of them is left. -/
theorem actionRequired_of_trim {table : EventTable} {limit : Int32}
    (hall : selectCount limit table.noActionRequired.length = table.noActionRequired.length)
    {row : DbEvent} (hrow : row ∈ (table.trim limit).rows) : row.actionRequired ≠ 0 := by
  intro hzero
  rw [rows_trim, hall, List.take_length, List.mem_filter, decide_eq_true_eq] at hrow
  exact hrow.2 (List.mem_filter.mpr ⟨hrow.1, by simpa using hzero⟩)

/-! ### One store -/

variable {settings : LogSettings} {table : EventTable}

/-- The table after a store. -/
theorem storeEvent_table (settings : LogSettings) (event : Event) (timeNow : UInt64)
    (table : EventTable) :
    (storeEvent {} settings event timeNow table).2 =
      if settings.maxEvents.toInt ≤ ((table.add event timeNow).rows.length : ℤ) then
        (table.add event timeNow).trim (settings.trimPercent * settings.maxEvents / 100)
      else table.add event timeNow := by
  rw [storeEvent, if_pos rfl]
  dsimp only
  rw [if_pos rfl, if_pos rfl]
  split_ifs <;> rfl

/-- The number of rows that are removed is within the share, if it is not more than the size of the
table. -/
private theorem hundred_mul_selectCount_le (hmax : 1 ≤ settings.maxEvents.toInt) {available : ℕ}
    (havailable : settings.Trims → (available : ℤ) ≤ settings.maxEvents.toInt) :
    100 * (selectCount (settings.trimPercent * settings.maxEvents / 100) available : ℤ) ≤
      min settings.trimPercent.toInt 100 * settings.maxEvents.toInt := by
  have hten := ten_le_trimPercent settings
  have hle := maxEvents_le settings
  have hproduct := bmod_product
    (mul_nonneg (by omega : 0 ≤ settings.trimPercent.toInt) (by omega : 0 ≤ settings.maxEvents.toInt))
  have hdiv := tdiv_hundred
    (Int.bmod (settings.trimPercent.toInt * settings.maxEvents.toInt) (2 ^ 32))
  rw [← toInt_trimEvents] at hdiv
  rw [selectCount]
  by_cases hzero : (settings.trimPercent * settings.maxEvents / 100).toInt = 0
  · rw [hzero, if_neg (lt_irrefl _)]
    simpa using mul_nonneg (by omega : 0 ≤ min settings.trimPercent.toInt 100)
      (by omega : 0 ≤ settings.maxEvents.toInt)
  have havailable := havailable ((trims_iff settings).mpr hzero)
  rcases le_total settings.trimPercent.toInt 100 with hp | hp
  · rw [min_eq_left hp]
    have hsmall : settings.trimPercent.toInt * settings.maxEvents.toInt ≤ 10000000 := by nlinarith
    have hself := hproduct.2 hsmall
    have hpos : 0 ≤ settings.trimPercent.toInt * settings.maxEvents.toInt := by positivity
    split_ifs with hneg
    · exact absurd (hdiv.2.2 hneg) (by omega)
    · have hbound := hdiv.2.1 (not_lt.mp hneg)
      rw [hself, max_eq_left hpos] at hbound
      omega
  · rw [min_eq_right hp]
    split_ifs with hneg
    · omega
    · omega

/-- At most one more row requires no action after a row was added. -/
private theorem length_noActionRequired_add (event : Event) (timeNow : UInt64) :
    (table.add event timeNow).noActionRequired.length ≤ table.noActionRequired.length + 1 := by
  rw [EventTable.noActionRequired, EventTable.add, List.filter_append, List.length_append]
  exact Nat.add_le_add_left (List.length_filter_le _ _) _

/-- What a store removes. -/
private theorem removed_storeEvent (hmax : 1 ≤ settings.maxEvents.toInt) (event : Event)
    (timeNow : UInt64) (havailable : settings.Trims →
      ((table.add event timeNow).noActionRequired.length : ℤ) ≤ settings.maxEvents.toInt) :
    ∃ k ≤ (table.add event timeNow).noActionRequired.length,
      100 * (k : ℤ) ≤ min settings.trimPercent.toInt 100 * settings.maxEvents.toInt ∧
      (storeEvent {} settings event timeNow table).2.rows =
        (table.add event timeNow).rows.filter fun row =>
          row ∉ (table.add event timeNow).noActionRequired.take k := by
  rw [storeEvent_table]
  split_ifs
  · refine ⟨selectCount (settings.trimPercent * settings.maxEvents / 100) _, ?_,
      hundred_mul_selectCount_le hmax havailable, rows_trim _ _⟩
    rw [selectCount]
    split_ifs
    · exact le_rfl
    · exact min_le_right _ _
  · have hten := ten_le_trimPercent settings
    refine ⟨0, Nat.zero_le _, ?_, ?_⟩
    · simpa using mul_nonneg (by omega : 0 ≤ min settings.trimPercent.toInt 100)
        (by omega : 0 ≤ settings.maxEvents.toInt)
    · rw [List.take_zero, List.filter_eq_self.mpr (by simp)]

/-- There is room in the table, or all its rows require action. -/
def WithinLog (settings : LogSettings) (table : EventTable) : Prop :=
  (table.rows.length : ℤ) < settings.maxEvents.toInt ∨ ∀ row ∈ table.rows, row.actionRequired ≠ 0

/-- A log that is trimmed keeps room for a row, as long as there are rows that it may remove. -/
private theorem withinLog_step (hmax : 1 ≤ settings.maxEvents.toInt) (htrims : settings.Trims)
    (hwithin : WithinLog settings table) (event : Event) (timeNow : UInt64) :
    ((table.add event timeNow).noActionRequired.length : ℤ) ≤ settings.maxEvents.toInt ∧
      WithinLog settings (storeEvent {} settings event timeNow table).2 := by
  have hlen : (table.add event timeNow).rows.length = table.rows.length + 1 := by
    rw [EventTable.add, List.length_append, List.length_singleton]
  have hadd := @length_noActionRequired_add table event timeNow
  have hnone : (∀ row ∈ table.rows, row.actionRequired ≠ 0) → table.noActionRequired = [] :=
    fun h => List.filter_eq_nil_iff.mpr fun row hrow => by simpa using h row hrow
  have hrows : (table.add event timeNow).noActionRequired.length ≤
      (table.add event timeNow).rows.length := List.length_filter_le _ _
  constructor
  · rcases hwithin with hroom | hall
    · omega
    · rw [hnone hall, List.length_nil] at hadd
      omega
  · rw [storeEvent_table]
    split_ifs with hfull
    · have hzero := (trims_iff settings).mp htrims
      have hleft := length_rows_trim (table.add event timeNow)
        (settings.trimPercent * settings.maxEvents / 100)
      by_cases hk : selectCount (settings.trimPercent * settings.maxEvents / 100)
          (table.add event timeNow).noActionRequired.length =
            (table.add event timeNow).noActionRequired.length
      · exact .inr fun row hrow => actionRequired_of_trim hk hrow
      · -- Some rows are left that require no action, so as many as asked for were removed.
        rcases hwithin with hroom | hall
        · rw [selectCount] at hk hleft
          split_ifs at hk hleft with hneg
          · exact absurd rfl hk
          · left
            omega
        · rw [hnone hall, List.length_nil] at hadd
          rw [selectCount] at hk
          split_ifs at hk with hneg
          · exact absurd rfl hk
          · omega
    · exact .inl (not_le.mp hfull)

/-- A log that is trimmed stays within its bound. -/
private theorem storesBounded_of_trims (hmax : 1 ≤ settings.maxEvents.toInt)
    (htrims : settings.Trims) (hwithin : WithinLog settings table)
    (stores : List (Event × UInt64)) : StoresBounded settings table stores := by
  induction stores generalizing table with
  | nil => exact trivial
  | cons store stores ih =>
    obtain ⟨havailable, hnext⟩ := withinLog_step hmax htrims hwithin store.1 store.2
    refine ⟨⟨removed_storeEvent hmax store.1 store.2 fun _ => havailable, ?_⟩, ih hnext⟩
    exact hnext.imp le_of_lt id

/-- A log that is not trimmed only grows. -/
private theorem rows_storeEvent_of_not_trims (htrims : ¬ settings.Trims) (event : Event)
    (timeNow : UInt64) :
    (storeEvent {} settings event timeNow table).2.rows = (table.add event timeNow).rows := by
  rw [trims_iff, not_not] at htrims
  rw [storeEvent_table]
  split_ifs
  · rw [rows_trim, selectCount, htrims, if_neg (lt_irrefl _), Int.toNat_zero, Nat.zero_min,
      List.take_zero, List.filter_eq_self.mpr (by simp)]
  · rfl

/-- The rows of a table with a new row require action when the old ones and the event do. -/
private theorem forall_rows_add (event : Event) (timeNow : UInt64) :
    (∀ row ∈ (table.add event timeNow).rows, row.actionRequired ≠ 0) ↔
      (∀ row ∈ table.rows, row.actionRequired ≠ 0) ∧ event.actionRequired ≠ 0 := by
  have hevent : (event.toDbEvent (table.seq + 1) timeNow).actionRequired ≠ 0 ↔
      event.actionRequired ≠ 0 := by
    rw [not_iff_not, Event.toDbEvent, ← UInt32.toNat_inj, ← UInt8.toNat_inj, UInt8.toNat_toUInt32]
    rfl
  rw [EventTable.add, List.forall_mem_append, List.forall_mem_singleton, hevent]

/-- A log that is not trimmed is within its bound until it has outgrown it, and then as long as
everything in it requires action. -/
private theorem storesBounded_iff_of_not_trims (hmax : 1 ≤ settings.maxEvents.toInt)
    (htrims : ¬ settings.Trims) (stores : List (Event × UInt64)) :
    StoresBounded settings table stores ↔
      stores = [] ∨ ((table.rows.length + stores.length : ℕ) : ℤ) ≤ settings.maxEvents.toInt ∨
        (∀ row ∈ table.rows, row.actionRequired ≠ 0) ∧
          ∀ store ∈ stores, store.1.actionRequired ≠ 0 := by
  induction stores generalizing table with
  | nil => exact iff_of_true trivial (.inl rfl)
  | cons store stores ih =>
    have hrows := @rows_storeEvent_of_not_trims _ table htrims store.1 store.2
    have hlen : (storeEvent {} settings store.1 store.2 table).2.rows.length =
        table.rows.length + 1 := by
      rw [hrows, EventTable.add, List.length_append, List.length_singleton]
    have hrequired : (∀ row ∈ (storeEvent {} settings store.1 store.2 table).2.rows,
        row.actionRequired ≠ 0) ↔
          (∀ row ∈ table.rows, row.actionRequired ≠ 0) ∧ store.1.actionRequired ≠ 0 := by
      rw [hrows, forall_rows_add]
    have hone : StoreBounded settings table store.1 store.2
        (storeEvent {} settings store.1 store.2 table).2 ↔
          ((table.rows.length + 1 : ℕ) : ℤ) ≤ settings.maxEvents.toInt ∨
            (∀ row ∈ table.rows, row.actionRequired ≠ 0) ∧ store.1.actionRequired ≠ 0 := by
      rw [← hlen, ← hrequired]
      exact ⟨fun h => h.bounded, fun h =>
        ⟨removed_storeEvent hmax store.1 store.2 fun h' => absurd h' htrims, h⟩⟩
    rw [StoresBounded, hone, ih, hlen, hrequired, or_iff_right (List.cons_ne_nil _ _),
      List.length_cons, List.forall_mem_cons]
    constructor
    · rintro ⟨hfirst, rfl | hfits | ⟨⟨hall, hstore⟩, hstores⟩⟩
      · exact hfirst.imp id fun h => ⟨h.1, h.2, by simp⟩
      · left
        omega
      · exact .inr ⟨hall, hstore, hstores⟩
    · rintro (hfits | ⟨hall, hstore, hstores⟩)
      · exact ⟨.inl (by omega), .inr (.inl (by omega))⟩
      · exact ⟨.inr ⟨hall, hstore⟩, .inr (.inr ⟨⟨hall, hstore⟩, hstores⟩)⟩

/-- A run of stores into an empty table keeps the table within its bound exactly when the product of
the two settings is not lost, or nothing would have to be trimmed in this run. -/
theorem storesBounded_iff (settings : LogSettings) (hmax : 1 ≤ settings.maxEvents.toInt)
    (stores : List (Event × UInt64)) :
    StoresBounded settings .empty stores ↔
      settings.Trims ∨ (stores.length : ℤ) ≤ settings.maxEvents.toInt ∨
        ∀ store ∈ stores, store.1.actionRequired ≠ 0 := by
  by_cases htrims : settings.Trims
  · have hwithin : WithinLog settings .empty := .inr fun row hrow => absurd hrow List.not_mem_nil
    exact iff_of_true (storesBounded_of_trims hmax htrims hwithin stores) (.inl htrims)
  · rw [storesBounded_iff_of_not_trims hmax htrims, or_iff_right htrims]
    have hempty : EventTable.empty.rows = [] := rfl
    rw [hempty, List.length_nil, Nat.zero_add]
    constructor
    · rintro (rfl | hfits | ⟨-, hall⟩)
      · exact .inr (by simp)
      · exact .inl hfits
      · exact .inr hall
    · rintro (hfits | hall)
      · exact .inr (.inl hfits)
      · exact .inr (.inr ⟨by simp, hall⟩)

/-- With the default settings, every run of stores keeps its table within the bound. -/
theorem storesBounded_default :
    1 ≤ (LogSettings.maxEvents {}).toInt ∧
      (StoresBounded {} .empty [({}, 100), ({ actionRequired := 1 }, 101)] ↔
        LogSettings.Trims {} ∨ (2 : ℤ) ≤ (LogSettings.maxEvents {}).toInt ∨
          ∀ store ∈ [(({} : Event), (100 : UInt64)), ({ actionRequired := 1 }, 101)],
            store.1.actionRequired ≠ 0) :=
  ⟨by decide, storesBounded_iff {} (by decide) _⟩

/-- With nine events as the maximum and ten percent to be trimmed, the tenth event is one too
many. -/
theorem not_storesBounded_nine :
    1 ≤ (LogSettings.maxEvents { eventLogMax := some 9 }).toInt ∧
      ¬ StoresBounded { eventLogMax := some 9 } .empty (List.replicate 10 ({}, 100)) := by
  have hmax : (LogSettings.maxEvents { eventLogMax := some 9 }).toInt = 9 := by decide
  have htrims : ¬ LogSettings.Trims { eventLogMax := some 9 } := by
    rw [trims_iff]
    decide
  refine ⟨by rw [hmax]; decide, fun h => ?_⟩
  have hle : 1 ≤ (LogSettings.maxEvents { eventLogMax := some 9 }).toInt := by rw [hmax]; decide
  rcases (storesBounded_iff_of_not_trims hle htrims _).mp h with hnil | hfits | ⟨-, hall⟩
  · exact absurd hnil (by decide)
  · rw [hmax] at hfits
    exact absurd hfits (by decide)
  · exact hall ({}, 100) (by decide) rfl

end IxpDimm.EventLog
