import IxpDimm.Device.Uid
import IxpDimm.EventLog.Metadata

/-!
# Serial numbers in the events of a support file

`cleanup_support_events.c`: what `support_filter_data` does to the event table of a support file when
serial numbers are to be removed.  The serial-number arguments of one kind of event are cleared, and
in the events that hold the uid of a DIMM the uids are replaced by uids that have the handle of the
DIMM in place of its serial number.

Both loops update the rows of a copy of the table one by one; together they map every row to what
becomes of it (`rows_supportFilterSerialNums`).
-/

namespace IxpDimm.EventLog

/-! ### Strings -/

/-- `EVENT_UID_LEN`. -/
def eventUidLen : ℕ := 37

/-- `NVM_EVENT_ARG_LEN`, `EVENT_ARG1_LEN`, `EVENT_ARG2_LEN` and `EVENT_ARG3_LEN`. -/
def nvmEventArgLen : ℕ := 1024

/-- `s_strcpy` into an array of `size` characters. -/
def sStrcpy (src : List Char) (size : ℕ) : List Char := (cString src).take (size - 1)

/-- `s_strcat` into an array of `size` characters. -/
def sStrcat (dst : List Char) (size : ℕ) (src : List Char) : List Char :=
  dst ++ src.take (size - 1 - dst.length)

/-- The characters of the delimiter `", "`. -/
def isDelimiter (c : Char) : Bool := c = ',' ∨ c = ' '

/-- What `strtok` finds, one after the other, with the delimiter `", "`. -/
def strtokTokens (text : List Char) : List (List Char) :=
  (text.splitOnP isDelimiter).filter fun token => token ≠ []

/-- `"MISSING"`. -/
def missingText : List Char := ['M', 'I', 'S', 'S', 'I', 'N', 'G']

/-! ### Devices -/

/-- The bytes of a handle. -/
def handleBytes (handle : UInt32) : Vector UInt8 4 :=
  #v[handle.toUInt8, (handle >>> 8).toUInt8, (handle >>> 16).toUInt8, (handle >>> 24).toUInt8]

/-- `lookup_dev_uid`. -/
def lookupDevUid (devices : List DeviceDiscovery) (devUid : Uid) : Option DeviceDiscovery :=
  devices.find? fun device => uidCmp devUid device.uid

/-- `generate_obfuscated_uid_for_device`. -/
def generateObfuscatedUidForDevice (device : DeviceDiscovery) : Uid :=
  ({ device with serialNumber := handleBytes device.deviceHandle } : DeviceDiscovery).uid

/-- `generate_obfuscated_dimm_uid`; without devices `nvm_get_device_discovery` fails. -/
def generateObfuscatedDimmUid (devices : Option (List DeviceDiscovery)) (realUid : Uid) : Uid :=
  match devices.bind fun devices => lookupDevUid devices realUid with
  | some device => generateObfuscatedUidForDevice device
  | none => missingText

/-! ### An event -/

/-- The loop of `build_obfuscated_dimm_uid_list_from_real_uid_list`, with the list so far and the
number of uids in it. -/
def obfuscatedListLoop (devices : Option (List DeviceDiscovery)) (size : ℕ) :
    List (List Char) → List Char → ℕ → List Char
  | [], list, _ => list
  | token :: tokens, list, count =>
    let list' := if count > 0 then sStrcat list size [',', ' '] else list
    obfuscatedListLoop devices size tokens
      (sStrcat list' size (generateObfuscatedDimmUid devices (sStrcpy token nvmMaxUidLen)))
      (count + 1)

/-- `build_obfuscated_dimm_uid_list_from_real_uid_list`. -/
def buildObfuscatedDimmUidListFromRealUidList (devices : Option (List DeviceDiscovery))
    (originalList : List Char) (originalListSize obfuscatedListSize : ℕ) : List Char :=
  obfuscatedListLoop devices obfuscatedListSize
    (strtokTokens (sStrcpy originalList originalListSize)) [] 0

/-- `replace_dimm_uids_with_obfuscated_uids`. -/
def replaceDimmUidsWithObfuscatedUids (devices : Option (List DeviceDiscovery))
    (uidBuffer : List Char) (bufferSize : ℕ) : List Char :=
  buildObfuscatedDimmUidListFromRealUidList devices (sStrcpy uidBuffer nvmEventArgLen)
    nvmEventArgLen bufferSize

/-- `event_arg_should_be_obfuscated`. -/
def eventArgShouldBeObfuscated (argType : EventArgType) : Bool :=
  argType = .deviceUid ∨ argType = .deviceUidList

/-- `obfuscate_dimm_uids_in_event_arg`. -/
def obfuscateDimmUidsInEventArg (devices : Option (List DeviceDiscovery)) (argType : EventArgType)
    (arg : List Char) (argLen : ℕ) : List Char :=
  if eventArgShouldBeObfuscated argType then replaceDimmUidsWithObfuscatedUids devices arg argLen
  else arg

/-- `obfuscate_dimm_uid_in_event_uid`. -/
def obfuscateDimmUidInEventUid (devices : Option (List DeviceDiscovery)) (uidType : EventUidType)
    (uid : Uid) (uidLen : ℕ) : Uid :=
  if uidType = .device then replaceDimmUidsWithObfuscatedUids devices uid uidLen else uid

/-- `obfuscate_dimm_uid_in_db_event`. -/
def obfuscateDimmUidInDbEvent (devices : Option (List DeviceDiscovery))
    (metadata : EventFieldMetadata) (event : DbEvent) : DbEvent :=
  { event with
    uid := obfuscateDimmUidInEventUid devices metadata.uidType event.uid eventUidLen
    arg1 := obfuscateDimmUidsInEventArg devices metadata.arg1Type event.arg1 nvmEventArgLen
    arg2 := obfuscateDimmUidsInEventArg devices metadata.arg2Type event.arg2 nvmEventArgLen
    arg3 := obfuscateDimmUidsInEventArg devices metadata.arg3Type event.arg3 nvmEventArgLen }

/-- An argument after `clear_serial_num_in_db_event`. -/
def clearSerialNumInArg (argType : EventArgType) (arg : List Char) : List Char :=
  if argType = .serialNum then missingText else arg

/-- `clear_serial_num_in_db_event`. -/
def clearSerialNumInDbEvent (metadata : EventFieldMetadata) (event : DbEvent) : DbEvent :=
  { event with
    arg1 := clearSerialNumInArg metadata.arg1Type event.arg1
    arg2 := clearSerialNumInArg metadata.arg2Type event.arg2
    arg3 := clearSerialNumInArg metadata.arg3Type event.arg3 }

/-! ### The table -/

/-- `db_update_event_by_id` with an event that has the identifier. -/
def EventTable.updateById (table : EventTable) (id : ℕ) (event : DbEvent) : EventTable where
  rows := table.rows.map fun row => if row.id = id then { event with id := id } else row
  seq := table.seq
  ascending := by
    refine List.pairwise_map.mpr (table.ascending.imp ?_)
    intro a b hab
    split_ifs <;> simp_all
  given := by
    intro row hrow
    obtain ⟨old, hold, rfl⟩ := List.mem_map.mp hrow
    have hgiven := table.given old hold
    split_ifs with hid
    · rw [← hid]
      exact hgiven
    · exact hgiven

/-- The loop over a copy of events: those that satisfy a test are changed and updated. -/
def updateEvents (test : DbEvent → Bool) (change : DbEvent → DbEvent) (events : List DbEvent)
    (table : EventTable) : EventTable :=
  events.foldl (fun table event =>
    if test event then table.updateById event.id (change event) else table) table

/-- `change_serial_num_in_events`. -/
def changeSerialNumInEvents (eventType eventCode : UInt32) (table : EventTable) : EventTable :=
  let metadata := getEventFieldMetadata eventType eventCode
  if metadata.includesArgType .serialNum then
    updateEvents (fun event => event.code = eventCode) (clearSerialNumInDbEvent metadata)
      (table.rows.filter fun row => row.type = eventType) table
  else table

/-- `change_dimm_uid_in_events`. -/
def changeDimmUidInEvents (devices : Option (List DeviceDiscovery)) (table : EventTable) :
    EventTable :=
  updateEvents (fun event => (getEventFieldMetadata event.type event.code).containsDeviceUid)
    (fun event => obfuscateDimmUidInDbEvent devices (getEventFieldMetadata event.type event.code)
      event)
    table.rows table

/-- What `support_filter_data` does to the event table for `GSF_SERIAL_NUMS`; `607` is
`EVENT_CODE_DIAG_PCONFIG_BROKEN_ISET`. -/
def supportFilterSerialNums (devices : Option (List DeviceDiscovery)) (table : EventTable) :
    EventTable :=
  changeDimmUidInEvents devices (changeSerialNumInEvents eventTypeDiagPlatformConfig 607 table)

/-! ### What becomes of a row -/

/-- The rows after the loop over events with distinct identifiers. -/
private theorem rows_updateEvents_foldl {test : DbEvent → Bool} {change : DbEvent → DbEvent}
    {events : List DbEvent} (hnodup : (events.map DbEvent.id).Nodup) (table : EventTable) :
    (updateEvents test change events table).rows = table.rows.map fun row =>
      ((events.find? fun event => event.id = row.id ∧ test event).map fun event =>
        { change event with id := row.id }).getD row := by
  induction events generalizing table with
  | nil => simp [updateEvents]
  | cons event events ih =>
    rw [List.map_cons, List.nodup_cons] at hnodup
    have hstep : updateEvents test change (event :: events) table =
        updateEvents test change events
          (if test event then table.updateById event.id (change event) else table) := rfl
    rw [hstep, ih hnodup.2]
    by_cases htest : test event = true
    · rw [if_pos htest, EventTable.updateById, List.map_map]
      refine List.map_congr_left fun row _ => ?_
      rw [Function.comp_apply]
      by_cases hid : row.id = event.id
      · have hnone : events.find? (fun event' => event'.id = event.id ∧ test event') = none := by
          rw [List.find?_eq_none]
          intro event' hmem hboth
          rw [decide_eq_true_eq] at hboth
          exact hnodup.1 (hboth.1 ▸ List.mem_map_of_mem hmem)
        have hfound : (event :: events).find? (fun event' => event'.id = row.id ∧ test event') =
            some event := by
          rw [List.find?_cons_of_pos]
          exact decide_eq_true ⟨hid.symm, htest⟩
        rw [if_pos hid, hfound]
        dsimp only
        rw [hnone, hid]
        rfl
      · have hskip : (event :: events).find? (fun event' => event'.id = row.id ∧ test event') =
            events.find? fun event' => event'.id = row.id ∧ test event' := by
          rw [List.find?_cons_of_neg]
          rw [decide_eq_true_eq]
          exact fun hboth => hid hboth.1.symm
        rw [if_neg hid, hskip]
    · rw [if_neg htest]
      refine List.map_congr_left fun row _ => ?_
      rw [List.find?_cons_of_neg]
      rw [decide_eq_true_eq]
      exact fun hboth => htest hboth.2

/-- The identifiers of a table are distinct. -/
private theorem nodup_ids (table : EventTable) : (table.rows.map DbEvent.id).Nodup :=
  List.pairwise_map.mpr (table.ascending.imp fun h => h.ne)

/-- The rows after the loop over the rows that satisfy a condition. -/
private theorem rows_updateEvents {test p : DbEvent → Bool} {change : DbEvent → DbEvent}
    (hid : ∀ event, (change event).id = event.id) (table : EventTable) :
    (updateEvents test change (table.rows.filter p) table).rows =
      table.rows.map fun row => if p row ∧ test row then change row else row := by
  have hnodup : ((table.rows.filter p).map DbEvent.id).Nodup :=
    (nodup_ids table).sublist (List.filter_sublist.map _)
  rw [rows_updateEvents_foldl hnodup]
  refine List.map_congr_left fun row hrow => ?_
  have hunique : ∀ event ∈ table.rows, event.id = row.id → event = row := fun event hevent hsame =>
    List.inj_on_of_nodup_map (nodup_ids table) hevent hrow hsame
  by_cases hboth : p row ∧ test row
  · have hfound : (table.rows.filter p).find? (fun event => event.id = row.id ∧ test event) =
        some row := by
      cases hfind : (table.rows.filter p).find? fun event => event.id = row.id ∧ test event with
      | none =>
        rw [List.find?_eq_none] at hfind
        exact absurd (decide_eq_true ⟨rfl, hboth.2⟩)
          (hfind row (List.mem_filter.mpr ⟨hrow, hboth.1⟩))
      | some event =>
        have htest := List.find?_some hfind
        rw [decide_eq_true_eq] at htest
        rw [hunique event (List.mem_of_mem_filter (List.mem_of_find?_eq_some hfind)) htest.1]
    rw [hfound, if_pos hboth, Option.map_some, Option.getD_some]
    exact congrArg (fun id => { change row with id := id }) (hid row).symm
  · have hnone : (table.rows.filter p).find? (fun event => event.id = row.id ∧ test event) =
        none := by
      rw [List.find?_eq_none]
      intro event hmem htest
      obtain ⟨hevent, hp⟩ := List.mem_filter.mp hmem
      rw [decide_eq_true_eq] at htest
      rw [hunique event hevent htest.1] at hp htest
      exact hboth ⟨hp, htest.2⟩
    rw [hnone, if_neg hboth, Option.map_none, Option.getD_none]

/-- The metadata of the events whose serial-number arguments are cleared. -/
theorem getEventFieldMetadata_brokenIset :
    getEventFieldMetadata eventTypeDiagPlatformConfig 607 =
      noUidCustomData eventTypeDiagPlatformConfig 607 .other .serialNum .other := by
  decide +kernel

/-- A row after its serial number was cleared. -/
def clearedRow (row : DbEvent) : DbEvent :=
  if row.type = eventTypeDiagPlatformConfig ∧ row.code = 607 then { row with arg2 := missingText }
  else row

/-- A row after its uids were obfuscated. -/
def obfuscatedRow (devices : Option (List DeviceDiscovery)) (row : DbEvent) : DbEvent :=
  if (getEventFieldMetadata row.type row.code).containsDeviceUid then
    obfuscateDimmUidInDbEvent devices (getEventFieldMetadata row.type row.code) row
  else row

/-- Every row is cleared and obfuscated. -/
theorem rows_supportFilterSerialNums (devices : Option (List DeviceDiscovery))
    (table : EventTable) :
    (supportFilterSerialNums devices table).rows =
      table.rows.map fun row => obfuscatedRow devices (clearedRow row) := by
  have hcleared : (changeSerialNumInEvents eventTypeDiagPlatformConfig 607 table).rows =
      table.rows.map clearedRow := by
    have hid : ∀ event, (clearSerialNumInDbEvent (noUidCustomData eventTypeDiagPlatformConfig 607
        .other .serialNum .other) event).id = event.id := fun _ => rfl
    rw [changeSerialNumInEvents, getEventFieldMetadata_brokenIset, if_pos (by decide),
      rows_updateEvents hid]
    refine List.map_congr_left fun row _ => ?_
    simp only [clearedRow, decide_eq_true_eq]
    rfl
  have hall : ∀ table : EventTable, (changeDimmUidInEvents devices table).rows =
      table.rows.map (obfuscatedRow devices) := by
    intro table
    have hid : ∀ event, (obfuscateDimmUidInDbEvent devices
        (getEventFieldMetadata event.type event.code) event).id = event.id := fun _ => rfl
    have hcopy : table.rows = table.rows.filter fun _ => true := (List.filter_true _).symm
    rw [changeDimmUidInEvents]
    nth_rewrite 1 [hcopy]
    rw [rows_updateEvents hid]
    refine List.map_congr_left fun row _ => ?_
    simp only [obfuscatedRow, true_and]
  rw [supportFilterSerialNums, hall, hcleared, List.map_map]
  rfl

end IxpDimm.EventLog
