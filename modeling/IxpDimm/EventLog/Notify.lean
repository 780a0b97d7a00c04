import IxpDimm.EventLog.Acknowledge
import IxpDimm.EventLog.Trim
import Mathlib.Data.List.FinRange
import Mathlib.Logic.Function.Basic

/-!
# Notification of event subscribers

Subscribers are kept in a few slots.  With the first one a thread is started that polls the event
table: it remembers the largest identifier it has seen, and hands the events with larger
identifiers to the subscribers.  Events that were in the table when the polling started are not new.

A poll counts the events and fetches them into an array of that size, but the size is passed as a
`NVM_UINT16`.  With 65536 events or more the fetch fails, or, when the count is a multiple of 65536,
nothing is copied and the loop runs over the array as it was allocated.  Runs in which this does not
happen notify every subscriber exactly once (`notifiesOnce_of_fits`).
-/

namespace IxpDimm.EventLog

/-! ### The code -/

/-- `MAX_EVENT_SUBSCRIBERS` -/
def maxEventSubscribers : ℕ := 5

/-- `NVM_ERR_INVALIDPARAMETER` -/
def errInvalidParameter : ℤ := -4

/-- `NVM_ERR_EXCEEDSMAXSUBSCRIBERS` -/
def errExceedsMaxSubscribers : ℤ := -38

/-- `NVM_ERR_BADCALLBACK` -/
def errBadCallback : ℤ := -18

/-- `NVM_ERR_NOTSUPPORTED` -/
def errNotSupported : ℤ := -3

/-- `DB_ERR_FAILURE` -/
def dbErrFailure : ℤ := -1

/-- `struct event_notify_callback`, with a type `κ` of callbacks. -/
structure Subscriber (κ : Type*) where
  /-- The type of the events that are of interest. -/
  type : UInt32
  /-- The callback. -/
  callback : κ

/-- Whether a subscriber is interested in events of a type. -/
def Subscriber.wants {κ : Type*} (subscriber : Subscriber κ) (type : UInt32) : Bool :=
  subscriber.type == type || subscriber.type == eventTypeAll

/-- The state of the notification: the variables of the file, and the event table. -/
structure NotifyState (κ : Type*) where
  /-- `g_is_polling` -/
  isPolling : Bool := false
  /-- `g_event_callback_list` -/
  slots : Fin maxEventSubscribers → Option (Subscriber κ) := fun _ => none
  /-- `g_current_event_id` -/
  currentEventId : ℕ := 0
  /-- The event table. -/
  table : EventTable

/-- A call of a callback. -/
structure Call (κ : Type*) where
  /-- The slot of the callback. -/
  slot : Fin maxEventSubscribers
  /-- The callback. -/
  callback : κ
  /-- The event that is passed. -/
  event : Event

variable {κ : Type*}

/-- `init_event_notify` -/
def initEventNotify (state : NotifyState κ) : NotifyState κ :=
  if state.isPolling then state
  else
    { state with
      slots := fun _ => none
      currentEventId := state.table.maxId
      isPolling := true }

/-- `nvm_add_event_notify` -/
def nvmAddEventNotify (type : UInt32) (callback : Option κ) (state : NotifyState κ) :
    ℤ × NotifyState κ :=
  match callback with
  | none => (errInvalidParameter, state)
  | some callback =>
    let state := initEventNotify state
    match (List.finRange maxEventSubscribers).find? fun i => (state.slots i).isNone with
    | none => (errExceedsMaxSubscribers, state)
    | some i =>
      (i.val, { state with slots := Function.update state.slots i (some ⟨type, callback⟩) })

/-- `nvm_remove_event_notify`.  Without a subscriber left, the polling is stopped. -/
def nvmRemoveEventNotify (callbackId : ℤ) (state : NotifyState κ) : ℤ × NotifyState κ :=
  if callbackId < 0 then (errBadCallback, state)
  else if h : callbackId.toNat < maxEventSubscribers then
    let slots := Function.update state.slots ⟨callbackId.toNat, h⟩ none
    let stillListening := (List.finRange maxEventSubscribers).any fun i => (slots i).isSome
    (0, { state with slots := slots, isPolling := stillListening && state.isPolling })
  else (errBadCallback, state)

/-- `nvm_acknowledge_event`, with the outcomes of reading and of updating the row. -/
def nvmAcknowledgeEvent (get update : Bool) (eventId : ℕ) (table : EventTable) : ℤ × EventTable :=
  match (if get then table.getById eventId else none) with
  | none => (errInvalidParameter, table)
  | some row =>
    if row.actionRequired = 0 then (errNotSupported, table)
    else if update then (0, table.acknowledgeById eventId)
    else (dbErrFailure, table)

/-- The calls that one event gives rise to. -/
def callsFor (slots : Fin maxEventSubscribers → Option (Subscriber κ)) (event : Event) :
    List (Call κ) :=
  (List.finRange maxEventSubscribers).filterMap fun i =>
    (slots i).bind fun subscriber =>
      if subscriber.wants event.type then some ⟨i, subscriber.callback, event⟩ else none

/-- The loop of `poll_events` over an array of events. -/
def notifyEvents (state : NotifyState κ) (buffer : ℕ → Event) (eventCount : ℕ) : List (Call κ) :=
  (List.range eventCount).flatMap fun e =>
    if state.currentEventId < (buffer e).eventId then callsFor state.slots (buffer e) else []

/-- One pass of the loop of `poll_events`.  The table can be read; `memory` is what the array of
events holds when it is allocated. -/
def pollEvents (memory : ℕ → Event) (state : NotifyState κ) : NotifyState κ × List (Call κ) :=
  let keep : ℕ → Bool := fun _ => true
  let nextEventId := state.table.maxId
  if state.currentEventId < nextEventId then
    let eventCount := (processEventsMatchingFilter {} keep (some {}) false 0 false state.table).rc
    if eventCount < 0 then (state, [])
    else
      let fetched := processEventsMatchingFilter {} keep (some {}) true
        (UInt16.ofNat eventCount.toNat) false state.table
      if fetched.rc < 0 then (state, [])
      else
        ({ state with currentEventId := nextEventId },
          notifyEvents state (fun e => fetched.events.getD e (memory e)) fetched.rc.toNat)
  else if nextEventId < state.currentEventId then
    ({ state with currentEventId := nextEventId }, [])
  else (state, [])

/-! ### Runs -/

/-- What can happen: something is done to the table, a subscriber comes or goes, or the table is
polled. -/
inductive Step (κ : Type*)
  | store (faults : StoreFaults) (settings : LogSettings) (event : Event) (timeNow : UInt64)
  | acknowledge (faults : AckFaults) (filter : Option EventFilter)
  | acknowledgeEvent (get update : Bool) (eventId : ℕ)
  | purge (reads : Reads) (deletes : ℕ → Bool) (filter : Option EventFilter)
  | addNotify (type : UInt32) (callback : Option κ)
  | removeNotify (callbackId : ℤ)
  | poll (memory : ℕ → Event)

/-- The state after a step. -/
def Step.next (state : NotifyState κ) : Step κ → NotifyState κ
  | store faults settings event timeNow =>
    { state with table := (storeEvent faults settings event timeNow state.table).2 }
  | acknowledge faults filter =>
    { state with table := (acknowledgeEvents faults filter state.table).2 }
  | acknowledgeEvent get update eventId =>
    { state with table := (nvmAcknowledgeEvent get update eventId state.table).2 }
  | purge reads deletes filter =>
    { state with
      table := (processEventsMatchingFilter reads deletes filter false 0 true state.table).table }
  | addNotify type callback => (nvmAddEventNotify type callback state).2
  | removeNotify callbackId => (nvmRemoveEventNotify callbackId state).2
  | poll memory => (pollEvents memory state).1

/-- The identifiers of the events in the table. -/
def NotifyState.ids (state : NotifyState κ) : List ℕ := state.table.rows.map DbEvent.id

/-- A state, with the identifiers of the events that were in the table when the polling started or
at a poll since. -/
structure Watch (κ : Type*) where
  /-- The state. -/
  state : NotifyState κ
  /-- The events that are not new. -/
  seen : List ℕ

/-- A step, watched. -/
def Watch.next (watch : Watch κ) (step : Step κ) : Watch κ where
  state := step.next watch.state
  seen :=
    if !watch.state.isPolling && (step.next watch.state).isPolling then watch.state.ids
    else
      match step with
      | .poll _ => watch.seen ++ watch.state.ids
      | _ => watch.seen

/-- The polls of a run: the state in which each is made, and the memory that it finds. -/
def pollsOf : Watch κ → List (Step κ) → List (Watch κ × (ℕ → Event))
  | _, [] => []
  | watch, .poll memory :: steps => (watch, memory) :: pollsOf (watch.next (.poll memory)) steps
  | watch, step :: steps => pollsOf (watch.next step) steps

/-- At the start of the process nobody has subscribed. -/
def Watch.start (table : EventTable) : Watch κ := ⟨{ table := table }, []⟩

/-- What a poll is to do: every subscriber is called once for every new event of interest, and there
are no other calls. -/
structure NotifiesOnce (watch : Watch κ) (calls : List (Call κ)) : Prop where
  /-- A new event is passed once to every subscriber that wants it. -/
  once : ∀ row ∈ watch.state.table.rows, row.id ∉ watch.seen →
    ∀ i subscriber, watch.state.slots i = some subscriber → subscriber.wants row.type = true →
      calls.filter (fun call => call.slot = i ∧ call.event.eventId = row.id) =
        [⟨i, subscriber.callback, row.toEvent⟩]
  /-- A call is for a new event of the table and a subscriber that wants it. -/
  only : ∀ call ∈ calls, ∃ row ∈ watch.state.table.rows, row.id ∉ watch.seen ∧
    ∃ subscriber, watch.state.slots call.slot = some subscriber ∧
      subscriber.wants row.type = true ∧
      call = ⟨call.slot, subscriber.callback, row.toEvent⟩

/-- If there is something new, the count of events is not lost in a `NVM_UINT16`. -/
def PollFits (state : NotifyState κ) : Prop :=
  state.currentEventId < state.table.maxId → state.table.rows.length < 65536

/-! ### The table over a run -/

/-- Acknowledging events gives a later table. -/
theorem later_acknowledgeEvents (faults : AckFaults) (filter : Option EventFilter)
    (table : EventTable) : table.Later (acknowledgeEvents faults filter table).2 := by
  have hloop : ∀ (ids : List ℕ) (result : ℤ × EventTable), table.Later result.2 →
      table.Later (acknowledgeLoop faults ids result).2 := by
    intro ids
    induction ids with
    | nil => exact fun result h => h
    | cons id ids ih =>
      intro result h
      rw [acknowledgeLoop]
      split
      · exact ih _ h
      · split_ifs
        · exact ih _ (h.trans (EventTable.later_setActionRequired _ _))
        · exact ih _ h
        · exact ih _ h
  rw [acknowledgeEvents]
  dsimp only
  split_ifs
  · exact hloop _ _ (.refl table)
  · exact .refl table
  · exact .refl table
  · exact .refl table

/-- Acknowledging one event gives a later table. -/
theorem later_nvmAcknowledgeEvent (get update : Bool) (eventId : ℕ) (table : EventTable) :
    table.Later (nvmAcknowledgeEvent get update eventId table).2 := by
  rw [nvmAcknowledgeEvent]
  split
  · exact .refl table
  · split_ifs
    · exact .refl table
    · exact EventTable.later_setActionRequired _ _
    · exact .refl table

/-! ### Subscribing -/

/-- A new subscriber changes the slots, after the polling was started. -/
theorem nvmAddEventNotify_cases (type : UInt32) (callback : Option κ) (state : NotifyState κ) :
    (nvmAddEventNotify type callback state).2 = state ∨
      ∃ slots, (nvmAddEventNotify type callback state).2 =
        { initEventNotify state with slots := slots } := by
  cases callback with
  | none => exact .inl rfl
  | some callback =>
    right
    rw [nvmAddEventNotify]
    dsimp only
    split
    · exact ⟨(initEventNotify state).slots, rfl⟩
    · exact ⟨_, rfl⟩

/-- A subscriber that goes leaves a slot free; with the last one, the polling stops. -/
theorem nvmRemoveEventNotify_cases (callbackId : ℤ) (state : NotifyState κ) :
    (nvmRemoveEventNotify callbackId state).2 = state ∨
      ∃ slots isPolling, (nvmRemoveEventNotify callbackId state).2 =
          { state with slots := slots, isPolling := isPolling } ∧
        (isPolling = true → state.isPolling = true) ∧
        (isPolling = false → (∀ i, slots i = none) ∨
          state.isPolling = false ∧ ∀ i, slots i = none ∨ slots i = state.slots i) := by
  rw [nvmRemoveEventNotify]
  split_ifs with hneg hlt
  · exact .inl rfl
  · right
    refine ⟨_, _, rfl, fun h => (Bool.and_eq_true_iff.mp h).2, fun h => ?_⟩
    rcases Bool.and_eq_false_iff.mp h with hnone | hidle
    · left
      intro i
      have := List.any_eq_false.mp hnone i (List.mem_finRange i)
      simpa using this
    · right
      refine ⟨hidle, fun i => ?_⟩
      by_cases hi : i = ⟨callbackId.toNat, hlt⟩
      · left
        rw [hi, Function.update_self]
      · right
        rw [Function.update_of_ne hi]
  · exact .inl rfl

/-! ### Polling -/

/-- All events match a filter that asks for nothing. -/
theorem matching_all (table : EventTable) : matching (some {}) table = table.rows.reverse :=
  List.filter_eq_self.mpr fun _ _ => rfl

/-- The loop over the numbers of a list is the loop over the list. -/
private theorem flatMap_range_getD {α β : Type*} (l : List α) (d : ℕ → α) (f : α → List β) :
    ((List.range l.length).flatMap fun e => f (l.getD e (d e))) = l.flatMap f := by
  have hl : (List.range l.length).map (fun e => l.getD e (d e)) = l := by
    apply List.ext_getElem
    · rw [List.length_map, List.length_range]
    · intro e h1 h2
      rw [List.getElem_map, List.getElem_range, List.getD_eq_getElem _ _ h2]
  calc ((List.range l.length).flatMap fun e => f (l.getD e (d e)))
      = ((List.range l.length).map fun e => l.getD e (d e)).flatMap f := by rw [List.flatMap_map]
    _ = l.flatMap f := by rw [hl]

/-- The calls of a poll that is as it should be: the rows are gone through from the newest to the
oldest. -/
def newCalls (state : NotifyState κ) : List (Call κ) :=
  state.table.rows.reverse.flatMap fun row =>
    if state.currentEventId < row.id then callsFor state.slots row.toEvent else []

/-- A poll whose count fits goes through all rows of the table, and remembers the largest
identifier. -/
theorem pollEvents_of_fits (memory : ℕ → Event) {state : NotifyState κ} (hfits : PollFits state) :
    pollEvents memory state =
      ({ state with currentEventId := state.table.maxId }, newCalls state) := by
  have hnone : ¬ state.currentEventId < state.table.maxId → newCalls state = [] := by
    intro hold
    refine List.flatMap_eq_nil_iff.mpr fun row hrow => if_neg ?_
    have := EventTable.id_le_maxId (List.mem_reverse.mp hrow)
    omega
  by_cases hnew : state.currentEventId < state.table.maxId
  · have hlt := hfits hnew
    have hpos : 0 < state.table.rows.length := by
      refine List.length_pos_of_ne_nil fun hnil => ?_
      rw [EventTable.maxId, hnil] at hnew
      exact absurd hnew (Nat.not_lt_zero _)
    have hlen : (matching (some {}) state.table).length = state.table.rows.length := by
      rw [matching_all, List.length_reverse]
    have hsize : (UInt16.ofNat state.table.rows.length).toNat = state.table.rows.length := by
      simp [Nat.mod_eq_of_lt hlt]
    have hcounted : processEventsMatchingFilter {} (fun _ => true) (some {}) false 0 false
        state.table = ⟨state.table.rows.length, [], state.table⟩ := by
      rw [processEvents_count _ _ (by decide) rfl, hlen]
    have hcount : 0 < UInt16.ofNat state.table.rows.length := by
      rw [UInt16.lt_iff_toNat_lt, hsize]
      exact hpos
    have hfetched : processEventsMatchingFilter {} (fun _ => true) (some {}) true
        (UInt16.ofNat state.table.rows.length) false state.table =
          ⟨state.table.rows.length, state.table.rows.reverse.map DbEvent.toEvent,
            state.table⟩ := by
      rw [processEvents_copy _ _ (by decide) hcount (by rw [hlen, hsize]), hlen, matching_all]
    have hnonneg : ¬ ((state.table.rows.length : ℕ) : ℤ) < 0 := by omega
    have hlength : state.table.rows.length =
        (state.table.rows.reverse.map DbEvent.toEvent).length := by
      rw [List.length_map, List.length_reverse]
    rw [pollEvents, if_pos hnew, hcounted, if_neg hnonneg, Int.toNat_natCast, hfetched,
      if_neg hnonneg, Int.toNat_natCast]
    congr 1
    rw [notifyEvents, newCalls]
    conv_lhs => rw [hlength]
    rw [flatMap_range_getD (state.table.rows.reverse.map DbEvent.toEvent) memory fun event =>
      if state.currentEventId < event.eventId then callsFor state.slots event else [],
      List.flatMap_map]
    rfl
  · rw [pollEvents, if_neg hnew, hnone hnew]
    split_ifs with hold
    · rfl
    · have heq : state.table.maxId = state.currentEventId := by omega
      rw [heq]

/-! ### What a poll does -/

/-- Where only one element of a list contributes. -/
private theorem flatMap_eq_of_unique {α β : Type*} {l : List α} (hl : l.Nodup) {a : α} (ha : a ∈ l)
    {f : α → List β} (hother : ∀ b ∈ l, b ≠ a → f b = []) : l.flatMap f = f a := by
  obtain ⟨first, rest, rfl⟩ := List.append_of_mem ha
  have hfirst : ∀ b ∈ first, f b = [] := by
    intro b hb
    refine hother b (List.mem_append_left _ hb) ?_
    rintro rfl
    exact (List.nodup_append.mp hl).2.2 b hb b List.mem_cons_self rfl
  have hrest : ∀ b ∈ rest, f b = [] := by
    intro b hb
    refine hother b (List.mem_append_right _ (List.mem_cons_of_mem _ hb)) ?_
    rintro rfl
    exact (List.nodup_cons.mp (List.nodup_append.mp hl).2.1).1 hb
  rw [List.flatMap_append, List.flatMap_cons, List.flatMap_eq_nil_iff.mpr hfirst,
    List.flatMap_eq_nil_iff.mpr hrest, List.nil_append, List.append_nil]

variable {slots : Fin maxEventSubscribers → Option (Subscriber κ)}

/-- The calls for an event are those of the subscribers that want it. -/
theorem mem_callsFor {event : Event} {call : Call κ} :
    call ∈ callsFor slots event ↔ ∃ subscriber, slots call.slot = some subscriber ∧
      subscriber.wants event.type = true ∧ call = ⟨call.slot, subscriber.callback, event⟩ := by
  rw [callsFor, List.mem_filterMap]
  constructor
  · rintro ⟨i, -, hi⟩
    obtain ⟨subscriber, hslot, hwants⟩ := Option.bind_eq_some_iff.mp hi
    split_ifs at hwants with hw
    obtain rfl := Option.some.inj hwants
    exact ⟨subscriber, hslot, hw, rfl⟩
  · rintro ⟨subscriber, hslot, hwants, hcall⟩
    refine ⟨call.slot, List.mem_finRange _, ?_⟩
    rw [hslot, Option.bind_some, if_pos hwants]
    exact congrArg some hcall.symm

/-- A subscriber that wants an event is called once for it. -/
theorem filter_callsFor {event : Event} {i : Fin maxEventSubscribers} {subscriber : Subscriber κ}
    (hslot : slots i = some subscriber) (hwants : subscriber.wants event.type = true) :
    (callsFor slots event).filter (fun call =>
        call.slot = i ∧ call.event.eventId = event.eventId) =
      [⟨i, subscriber.callback, event⟩] := by
  rw [callsFor, List.filterMap_eq_flatMap_toList, List.filter_flatMap]
  rw [flatMap_eq_of_unique (List.nodup_finRange _) (List.mem_finRange i)]
  · rw [hslot, Option.bind_some, if_pos hwants]
    simp
  · intro j _ hne
    refine List.filter_eq_nil_iff.mpr fun call hcall => ?_
    obtain ⟨other, -, hother⟩ := Option.bind_eq_some_iff.mp (Option.mem_toList.mp hcall)
    split_ifs at hother
    obtain rfl := Option.some.inj hother
    simpa using fun h => absurd h hne

/-- What holds of the identifiers between two polls. -/
structure Tracked (watch : Watch κ) : Prop where
  /-- Without polling, there are no subscribers. -/
  idle : watch.state.isPolling = false → ∀ i, watch.state.slots i = none
  /-- The events that were seen have been given identifiers. -/
  seen_le : watch.state.isPolling = true → ∀ id ∈ watch.seen, id ≤ watch.state.table.seq
  /-- So has the event remembered. -/
  current_le : watch.state.isPolling = true →
    watch.state.currentEventId ≤ watch.state.table.seq
  /-- The events in the table that were seen are those up to the event remembered. -/
  mem_seen_iff : watch.state.isPolling = true → ∀ row ∈ watch.state.table.rows,
    row.id ∈ watch.seen ↔ row.id ≤ watch.state.currentEventId

/-- A poll whose count fits notifies every subscriber once. -/
theorem notifiesOnce_pollEvents (memory : ℕ → Event) {watch : Watch κ} (htracked : Tracked watch)
    (hfits : PollFits watch.state) :
    NotifiesOnce watch (pollEvents memory watch.state).2 := by
  have hnew : watch.state.isPolling = true → ∀ row ∈ watch.state.table.rows,
      watch.state.currentEventId < row.id ↔ row.id ∉ watch.seen := fun hpolling row hrow => by
    rw [htracked.mem_seen_iff hpolling row hrow, not_le]
  have hpolling : ∀ {i subscriber}, watch.state.slots i = some subscriber →
      watch.state.isPolling = true := by
    intro i subscriber hslot
    by_contra hidle
    rw [htracked.idle (Bool.eq_false_of_not_eq_true hidle) i] at hslot
    exact absurd hslot (by simp)
  rw [pollEvents_of_fits memory hfits]
  constructor
  · intro row hrow hseen i subscriber hslot hwants
    have hlt := (hnew (hpolling hslot) row hrow).mpr hseen
    have hnodup : watch.state.table.rows.reverse.Nodup := by
      refine List.nodup_reverse.mpr (watch.state.table.ascending.imp fun hlt heq => ?_)
      exact absurd (congrArg DbEvent.id heq) hlt.ne
    rw [newCalls, List.filter_flatMap,
      flatMap_eq_of_unique hnodup (List.mem_reverse.mpr hrow), if_pos hlt]
    · have hevent : subscriber.wants row.toEvent.type = true := hwants
      exact filter_callsFor hslot hevent
    · intro other hother hne
      refine List.filter_eq_nil_iff.mpr fun call hcall => ?_
      split_ifs at hcall with hold
      · obtain ⟨sub, -, -, hcall⟩ := mem_callsFor.mp hcall
        rw [decide_eq_true_eq]
        rintro ⟨-, hid⟩
        rw [hcall] at hid
        exact hne (EventTable.eq_of_id_eq (List.mem_reverse.mp hother) hrow hid)
      · exact absurd hcall List.not_mem_nil
  · intro call hcall
    obtain ⟨row, hrow, hcall⟩ := List.mem_flatMap.mp hcall
    have hrow := List.mem_reverse.mp hrow
    split_ifs at hcall with hlt
    · obtain ⟨subscriber, hslot, hwants, hcall⟩ := mem_callsFor.mp hcall
      exact ⟨row, hrow, (hnew (hpolling hslot) row hrow).mp hlt, subscriber, hslot, hwants, hcall⟩
    · exact absurd hcall List.not_mem_nil

/-! ### Runs of polls -/

/-- A step that changes the table only. -/
private theorem tracked_later {watch : Watch κ} (htracked : Tracked watch) {table : EventTable}
    (hlater : watch.state.table.Later table) :
    Tracked ⟨{ watch.state with table := table }, watch.seen⟩ := by
  refine ⟨htracked.idle, fun hpolling id hid => ?_, fun hpolling => ?_, fun hpolling row hrow => ?_⟩
  · exact (htracked.seen_le hpolling id hid).trans hlater.seq
  · exact (htracked.current_le hpolling).trans hlater.seq
  · rcases hlater.rows row hrow with hnew | ⟨old, hold, hid⟩
    · constructor
      · intro hseen
        exact absurd (htracked.seen_le hpolling row.id hseen) hnew.not_ge
      · intro hle
        exact absurd (hle.trans (htracked.current_le hpolling)) hnew.not_ge
    · rw [← hid]
      exact htracked.mem_seen_iff hpolling old hold

/-- A poll moves on to the largest identifier. -/
private theorem tracked_poll (memory : ℕ → Event) {watch : Watch κ} (htracked : Tracked watch)
    (hfits : PollFits watch.state) : Tracked (watch.next (.poll memory)) := by
  have hnext : (Step.poll memory).next watch.state =
      { watch.state with currentEventId := watch.state.table.maxId } := by
    rw [Step.next, pollEvents_of_fits memory hfits]
  have hseen : (watch.next (.poll memory)).seen = watch.seen ++ watch.state.ids := by
    rw [Watch.next, hnext]
    cases watch.state.isPolling <;> rfl
  have hstate : (watch.next (.poll memory)).state =
      { watch.state with currentEventId := watch.state.table.maxId } := hnext
  have hgiven : ∀ id ∈ watch.state.ids, id ≤ watch.state.table.seq := by
    intro id hid
    obtain ⟨row, hrow, rfl⟩ := List.mem_map.mp hid
    exact (watch.state.table.given row hrow).2
  constructor
  · rw [hstate]
    exact htracked.idle
  · rw [hstate, hseen]
    intro hpolling id hid
    rcases List.mem_append.mp hid with h | h
    · exact htracked.seen_le hpolling id h
    · exact hgiven id h
  · rw [hstate]
    exact fun _ => watch.state.table.maxId_le_seq
  · rw [hstate, hseen]
    intro _ row hrow
    exact iff_of_true (List.mem_append_right _ (List.mem_map_of_mem hrow))
      (EventTable.id_le_maxId hrow)

/-- A new subscriber, which may be the first one. -/
private theorem tracked_addNotify (type : UInt32) (callback : Option κ) {watch : Watch κ}
    (htracked : Tracked watch) : Tracked (watch.next (.addNotify type callback)) := by
  have hstate : (watch.next (.addNotify type callback)).state =
      (nvmAddEventNotify type callback watch.state).2 := rfl
  have hseen : (watch.next (.addNotify type callback)).seen =
      if !watch.state.isPolling && (nvmAddEventNotify type callback watch.state).2.isPolling then
        watch.state.ids else watch.seen := rfl
  rcases nvmAddEventNotify_cases type callback watch.state with hsame | ⟨slots, hnew⟩
  · rw [hsame, Bool.not_and_self, if_neg (by decide)] at hseen
    rw [hsame] at hstate
    constructor
    · rw [hstate]; exact htracked.idle
    · rw [hstate, hseen]; exact htracked.seen_le
    · rw [hstate]; exact htracked.current_le
    · rw [hstate, hseen]; exact htracked.mem_seen_iff
  · rw [hnew] at hstate hseen
    rcases Bool.eq_false_or_eq_true watch.state.isPolling with hpolling | hidle
    · rw [initEventNotify, if_pos hpolling] at hstate hseen
      rw [hpolling, Bool.not_true, Bool.false_and, if_neg (by decide)] at hseen
      constructor
      · rw [hstate]
        intro hidle
        exact absurd (hpolling.symm.trans hidle) (by decide)
      · rw [hstate, hseen]; exact htracked.seen_le
      · rw [hstate]; exact htracked.current_le
      · rw [hstate, hseen]; exact htracked.mem_seen_iff
    · have hinit : initEventNotify watch.state =
          { watch.state with
            slots := fun _ => none
            currentEventId := watch.state.table.maxId
            isPolling := true } := if_neg (by rw [hidle]; decide)
      rw [hinit] at hstate hseen
      rw [hidle, Bool.not_false, Bool.and_self, if_pos rfl] at hseen
      constructor
      · rw [hstate]
        intro habsurd
        exact Bool.noConfusion habsurd
      · rw [hstate, hseen]
        intro _ id hid
        obtain ⟨row, hrow, rfl⟩ := List.mem_map.mp hid
        exact (watch.state.table.given row hrow).2
      · rw [hstate]
        exact fun _ => watch.state.table.maxId_le_seq
      · rw [hstate, hseen]
        intro _ row hrow
        exact iff_of_true (List.mem_map_of_mem hrow) (EventTable.id_le_maxId hrow)

/-- A subscriber that goes, which may be the last one. -/
private theorem tracked_removeNotify (callbackId : ℤ) {watch : Watch κ}
    (htracked : Tracked watch) : Tracked (watch.next (.removeNotify callbackId)) := by
  have hstate : (watch.next (.removeNotify callbackId)).state =
      (nvmRemoveEventNotify callbackId watch.state).2 := rfl
  have hseen : (watch.next (.removeNotify callbackId)).seen =
      if !watch.state.isPolling && (nvmRemoveEventNotify callbackId watch.state).2.isPolling then
        watch.state.ids else watch.seen := rfl
  rcases nvmRemoveEventNotify_cases callbackId watch.state with
    hsame | ⟨slots, isPolling, hnew, hstill, hstopped⟩
  · rw [hsame, Bool.not_and_self, if_neg (by decide)] at hseen
    rw [hsame] at hstate
    constructor
    · rw [hstate]; exact htracked.idle
    · rw [hstate, hseen]; exact htracked.seen_le
    · rw [hstate]; exact htracked.current_le
    · rw [hstate, hseen]; exact htracked.mem_seen_iff
  · rw [hnew] at hstate hseen
    have hnot : (!watch.state.isPolling && isPolling) = false := by
      cases isPolling with
      | false => exact Bool.and_false _
      | true => rw [hstill rfl]; rfl
    rw [hnot, if_neg (by decide)] at hseen
    constructor
    · rw [hstate]
      intro hidle i
      rcases hstopped hidle with hnone | ⟨hwas, hslots⟩
      · exact hnone i
      · exact (hslots i).elim id fun h => h.trans (htracked.idle hwas i)
    · rw [hstate, hseen]
      exact fun hpolling => htracked.seen_le (hstill hpolling)
    · rw [hstate]
      exact fun hpolling => htracked.current_le (hstill hpolling)
    · rw [hstate, hseen]
      exact fun hpolling => htracked.mem_seen_iff (hstill hpolling)

/-- Every step keeps track, if a poll fits. -/
private theorem tracked_next {watch : Watch κ} (htracked : Tracked watch) (step : Step κ)
    (hfits : ∀ memory, step = .poll memory → PollFits watch.state) :
    Tracked (watch.next step) := by
  have htable : ∀ {table : EventTable}, watch.state.table.Later table →
      Tracked ⟨{ watch.state with table := table },
        if !watch.state.isPolling && watch.state.isPolling then watch.state.ids
        else watch.seen⟩ := by
    intro table hlater
    rw [Bool.not_and_self, if_neg (by decide)]
    exact tracked_later htracked hlater
  cases step with
  | store faults settings event timeNow => exact htable (later_storeEvent _ _ _ _ _)
  | acknowledge faults filter => exact htable (later_acknowledgeEvents _ _ _)
  | acknowledgeEvent get update eventId => exact htable (later_nvmAcknowledgeEvent _ _ _ _)
  | purge reads deletes filter => exact htable (later_processEvents _ _ _ _ _ _ _)
  | addNotify type callback => exact tracked_addNotify type callback htracked
  | removeNotify callbackId => exact tracked_removeNotify callbackId htracked
  | poll memory => exact tracked_poll memory htracked (hfits memory rfl)

/-- The polls of a run after a step. -/
private theorem mem_pollsOf_cons {watch : Watch κ} {step : Step κ} {steps : List (Step κ)}
    {poll : Watch κ × (ℕ → Event)} :
    poll ∈ pollsOf watch (step :: steps) ↔
      (poll.1 = watch ∧ step = .poll poll.2) ∨ poll ∈ pollsOf (watch.next step) steps := by
  cases step with
  | poll memory =>
    rw [pollsOf, List.mem_cons, Prod.ext_iff, Step.poll.injEq, eq_comm (a := poll.2)]
  | _ => simp [pollsOf]

/-- In a run whose polls fit, every poll notifies every subscriber once. -/
private theorem notifiesOnce_of_tracked {watch : Watch κ} (htracked : Tracked watch)
    (steps : List (Step κ)) (hfits : ∀ poll ∈ pollsOf watch steps, PollFits poll.1.state) :
    ∀ poll ∈ pollsOf watch steps, NotifiesOnce poll.1 (pollEvents poll.2 poll.1.state).2 := by
  induction steps generalizing watch with
  | nil => exact fun poll hpoll => absurd hpoll List.not_mem_nil
  | cons step steps ih =>
    have hstep : ∀ memory, step = .poll memory → PollFits watch.state := fun memory hpoll =>
      hfits (watch, memory) (mem_pollsOf_cons.mpr (.inl ⟨rfl, hpoll⟩))
    intro poll hpoll
    rcases mem_pollsOf_cons.mp hpoll with ⟨hwatch, hpoll⟩ | hpoll
    · rw [hwatch]
      exact notifiesOnce_pollEvents poll.2 htracked (hstep poll.2 hpoll)
    · exact ih (tracked_next htracked step hstep)
        (fun poll hpoll => hfits poll (mem_pollsOf_cons.mpr (.inr hpoll))) poll hpoll

/-- From the start of the process on, whatever is done to the table and whoever subscribes, every
poll passes the new events once to every subscriber that wants them and nothing else, as long as no
poll that finds something new finds 65536 events or more. -/
theorem notifiesOnce_of_fits (table : EventTable) (steps : List (Step κ))
    (hfits : ∀ poll ∈ pollsOf (Watch.start table) steps, PollFits poll.1.state) :
    ∀ poll ∈ pollsOf (Watch.start table) steps,
      NotifiesOnce poll.1 (pollEvents poll.2 poll.1.state).2 := by
  refine notifiesOnce_of_tracked ⟨fun _ _ => rfl, ?_, ?_, ?_⟩ steps hfits
  · exact fun hpolling => Bool.noConfusion hpolling
  · exact fun hpolling => Bool.noConfusion hpolling
  · exact fun hpolling => Bool.noConfusion hpolling

/-- One subscriber for all events, and one event. -/
def oneEvent : List (Step Unit) :=
  [.addNotify eventTypeAll (some ()), .store {} {} { type := 2 } 100, .poll fun _ => {}]

/-- The subscriber is called once for the event. -/
theorem notifiesOnce_oneEvent :
    (∀ poll ∈ pollsOf (Watch.start .empty) oneEvent, PollFits poll.1.state) ∧
      ∀ poll ∈ pollsOf (Watch.start .empty) oneEvent,
        NotifiesOnce poll.1 (pollEvents poll.2 poll.1.state).2 := by
  have hfits : ∀ poll ∈ pollsOf (Watch.start .empty) oneEvent, PollFits poll.1.state := by
    intro poll hpoll
    obtain rfl := List.mem_singleton.mp hpoll
    exact fun _ => by decide
  exact ⟨hfits, notifiesOnce_of_fits .empty oneEvent hfits⟩

/-! ### A poll that does not fit -/

/-- Storing an event that requires action, with the default settings. -/
def requiringStore : Step Unit := .store {} {} { actionRequired := 1 } 100

/-- Events that require action are not trimmed. -/
private theorem rows_requiringStore {table : EventTable}
    (hall : ∀ row ∈ table.rows, row.actionRequired ≠ 0) :
    (storeEvent {} {} { actionRequired := 1 } 100 table).2.rows =
      (table.add { actionRequired := 1 } 100).rows := by
  have hnone : (table.add { actionRequired := 1 } 100).noActionRequired = [] := by
    refine List.filter_eq_nil_iff.mpr fun row hrow => ?_
    rcases List.mem_append.mp hrow with h | h
    · simpa using hall row h
    · obtain rfl := List.mem_singleton.mp h
      exact (by decide : ¬ decide ((1 : UInt8).toUInt32 = 0) = true)
  rw [storeEvent_table]
  split_ifs
  · rw [rows_trim, hnone, List.take_nil, List.filter_eq_self.mpr (by simp)]
  · rfl

/-- The poll after a number of events that require action. -/
private theorem pollsOf_requiringStores (memory : ℕ → Event) (n : ℕ) (watch : Watch Unit)
    (hall : ∀ row ∈ watch.state.table.rows, row.actionRequired ≠ 0) :
    ∃ watch', pollsOf watch (List.replicate n requiringStore ++ [.poll memory]) =
        [(watch', memory)] ∧
      watch'.state.slots = watch.state.slots ∧
      watch'.state.currentEventId = watch.state.currentEventId ∧ watch'.seen = watch.seen ∧
      watch'.state.table.rows.length = watch.state.table.rows.length + n := by
  induction n generalizing watch with
  | zero => exact ⟨watch, rfl, rfl, rfl, rfl, rfl⟩
  | succ n ih =>
    have hrows := rows_requiringStore hall
    have hseen : (watch.next requiringStore).seen = watch.seen := by
      have : (watch.next requiringStore).seen =
          if !watch.state.isPolling && watch.state.isPolling then watch.state.ids
          else watch.seen := rfl
      rw [this, Bool.not_and_self, if_neg (by decide)]
    obtain ⟨watch', hpolls, hslots, hcurrent, hseen', hlen⟩ := ih (watch.next requiringStore) (by
      intro row hrow
      have hrow : row ∈ (storeEvent {} {} { actionRequired := 1 } 100 watch.state.table).2.rows :=
        hrow
      rw [hrows] at hrow
      rcases List.mem_append.mp hrow with h | h
      · exact hall row h
      · obtain rfl := List.mem_singleton.mp h
        exact (by decide : (1 : UInt8).toUInt32 ≠ 0))
    refine ⟨watch', hpolls, hslots, hcurrent, hseen'.trans hseen, hlen.trans ?_⟩
    have : (watch.next requiringStore).state.table.rows =
        (storeEvent {} {} { actionRequired := 1 } 100 watch.state.table).2.rows := rfl
    rw [this, hrows, EventTable.add, List.length_append, List.length_singleton]
    omega

/-- A poll that finds 65536 new events goes through an array into which nothing was copied. -/
private theorem pollEvents_overrun {state : NotifyState κ} (hcurrent : state.currentEventId = 0)
    (hlen : state.table.rows.length = 65536) : (pollEvents (fun _ => {}) state).2 = [] := by
  have hnew : state.currentEventId < state.table.maxId := by
    obtain ⟨row, hrow⟩ := List.exists_mem_of_length_pos
      (by omega : 0 < state.table.rows.length)
    have := EventTable.id_le_maxId hrow
    have := (state.table.given row hrow).1
    omega
  have hcounted : ∀ events : Bool, processEventsMatchingFilter {} (fun _ => true) (some {}) events 0
      false state.table = ⟨65536, [], state.table⟩ := by
    intro events
    rw [processEvents_count _ _ (by decide) (by rw [Bool.and_eq_false_iff]; exact .inr rfl),
      matching_all, List.length_reverse, hlen]
    rfl
  have hzero : UInt16.ofNat (65536 : ℤ).toNat = 0 := rfl
  have hnonneg : ¬ (65536 : ℤ) < 0 := by decide
  rw [pollEvents, if_pos hnew, hcounted, if_neg hnonneg, hzero, hcounted, if_neg hnonneg,
    notifyEvents, List.flatMap_eq_nil_iff]
  intro e _
  refine if_neg ?_
  rw [List.getD_nil, hcurrent]
  exact Nat.lt_irrefl 0

/-- After 65536 events that require action, the subscriber for all events is called for none. -/
theorem not_notifiesOnce_overrun :
    ¬ ∀ poll ∈ pollsOf (Watch.start .empty) (.addNotify eventTypeAll (some ()) ::
        (List.replicate 65536 requiringStore ++ [.poll fun _ => {}])),
      NotifiesOnce poll.1 (pollEvents poll.2 poll.1.state).2 := by
  intro h
  obtain ⟨watch, hpolls, hslots, hcurrent, hseen, hlen⟩ := pollsOf_requiringStores (fun _ => {})
    65536 ((Watch.start .empty).next (.addNotify eventTypeAll (some ())))
    (fun row hrow => absurd hrow List.not_mem_nil)
  have honce := (h (watch, fun _ => {}) (mem_pollsOf_cons.mpr (.inr (by
    rw [hpolls]
    exact List.mem_singleton_self _)))).once
  have hlen : watch.state.table.rows.length = 65536 := hlen
  obtain ⟨row, hrow⟩ := List.exists_mem_of_length_pos (by omega : 0 < watch.state.table.rows.length)
  have hcall := honce row hrow (by rw [hseen]; exact List.not_mem_nil)
    ⟨0, by decide⟩ ⟨eventTypeAll, ()⟩
    (by rw [hslots]; rfl) (by simp [Subscriber.wants])
  rw [pollEvents_overrun hcurrent hlen] at hcall
  exact absurd hcall (by simp)

end IxpDimm.EventLog
