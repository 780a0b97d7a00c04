import IxpDimm.Diagnostic.Accounting
import IxpDimm.Foundation.FirstMatch
import Mathlib.Data.List.Count
import Mathlib.Data.List.Induction

/-!
# The NFIT check of the platform configuration diagnostic

`verify_nfit` counts the devices of the topology, looks for NVM-DIMMs that the SMBIOS tables have and
the topology does not, and for serial numbers that occur more than once.  The rest of the diagnostic is
run only if it reports nothing; `nfitSilent_iff` says when that is so.
-/

namespace IxpDimm.Diagnostic

open Foundation

/-! ### What the check is answered -/

/-- `struct nvm_topology`. -/
structure NvmTopology where
  /-- The physical id. -/
  id : UInt16
  /-- The serial number. -/
  serialNumber : Vector UInt8 4
  deriving DecidableEq, Repr

/-- `struct nvm_details`, an entry of the SMBIOS inventory. -/
structure NvmDetails where
  /-- The physical id. -/
  id : UInt16
  /-- The memory type. -/
  type : UInt8
  /-- The details of the type. -/
  typeDetailBits : UInt16
  deriving DecidableEq, Repr

/-- What the check is answered. -/
structure NfitQueries where
  /-- `get_topology_count`. -/
  getTopologyCount : Except ErrorCode ℕ
  /-- `get_topology` with an array of that many entries. -/
  getTopology : ℕ → Except ErrorCode (Filled NvmTopology)
  /-- `get_smbios_inventory_count`. -/
  getSmbiosInventoryCount : Except ErrorCode ℕ
  /-- `get_smbios_inventory` with an array of that many entries. -/
  getSmbiosInventory : ℕ → Except ErrorCode (Filled NvmDetails)

/-- An event of the platform configuration diagnostic. -/
def pconfigEvent (severity : EventSeverity) (code : EventCode) (args : List EventArg)
    (result : DiagnosticResult) : DiagEvent where
  type := .platformConfig
  severity := severity
  code := code
  args := args
  result := result

/-- An event of the platform configuration diagnostic with one of some codes. -/
def HasCode (codes : List EventCode) (event : DiagEvent) : Prop :=
  event.type = .platformConfig ∧ event.code ∈ codes

/-- The event of success. -/
def pconfigSuccessEvent : DiagEvent := pconfigEvent .info .pconfigSuccess [] .ok

/-! ### The check -/

/-- `smbios_entry_is_nvmdimm`. -/
def smbiosEntryIsNvmdimm (details : NvmDetails) : Bool :=
  details.type == 0x1A && details.typeDetailBits &&& (1 : UInt16) <<< 12 != 0

/-- `smbios_entry_is_in_topology`. -/
def smbiosEntryIsInTopology (details : NvmDetails) (devices : List NvmTopology) : Bool :=
  devices.any fun device => device.id == details.id

/-- The SMBIOS entries of NVM-DIMMs that are not in the topology. -/
def uninitializedDimms (inventory : List NvmDetails) (devices : List NvmTopology) :
    List NvmDetails :=
  inventory.filter fun details =>
    smbiosEntryIsNvmdimm details && !smbiosEntryIsInTopology details devices

/-- `check_if_all_dimms_from_smbios_are_in_topology`. -/
def checkIfAllDimmsFromSmbiosAreInTopology (inventory : List NvmDetails)
    (devices : List NvmTopology) : Diag Unit :=
  (uninitializedDimms inventory devices).forM fun details =>
    report (pconfigEvent .critical .dimmInitFailed [.number details.id.toNat] .failed)

/-- `check_smbios_table_for_uninitialized_dimms`.  The count is converted to eight bits. -/
def checkSmbiosTableForUninitializedDimms (queries : NfitQueries) (devices : List NvmTopology) :
    Diag ℤ := do
  match ← ask queries.getSmbiosInventoryCount with
  | .error e => pure e.val
  | .ok 0 => pure nvmSuccess
  | .ok (n + 1) => do
    match ← ask (queries.getSmbiosInventory ((n + 1) % 2 ^ 8)) with
    | .error e => pure e.val
    | .ok inventory =>
      if inventory.returned = 0 then pure nvmSuccess
      else do
        checkIfAllDimmsFromSmbiosAreInTopology inventory.entries devices
        pure nvmSuccess

/-- `add_serial_number_to_list`: a new serial number is put in front. -/
def addSerialNumberToList (list : List (Vector UInt8 4 × ℕ)) (serial : Vector UInt8 4) :
    List (Vector UInt8 4 × ℕ) :=
  if list.any (·.1 == serial) then
    modifyFirst (·.1 == serial) (fun item => (item.1, item.2 + 1)) list
  else (serial, 1) :: list

/-- `add_device_serial_numbers_to_list`. -/
def serialNumberCounts (devices : List NvmTopology) : List (Vector UInt8 4 × ℕ) :=
  (devices.map (·.serialNumber)).foldl addSerialNumberToList []

/-- `check_for_duplicate_serial_numbers`; each event is counted once, through `events_added`. -/
def checkForDuplicateSerialNumbers (devices : List NvmTopology) : Diag Unit :=
  ((serialNumberCounts devices).filter fun item => 1 < item.2).forM fun item =>
    report { pconfigEvent .critical .duplicateSerialNumbers
      [.number item.2, .serial item.1.toList, .text []] .failed with uid := some [] }

/-- `verify_nfit`: the number of devices, which may be an error, and the return code. -/
def verifyNfit (queries : NfitQueries) : Diag (ℤ × ℤ) := do
  match ← ask queries.getTopologyCount with
  | .error e => do
    report (pconfigEvent .warn .invalidNfit [] .failed)
    pure (e.val, nvmSuccess)
  | .ok 0 => do
    report (pconfigEvent .info .pconfigNoDimms [] .aborted)
    pure (0, nvmSuccess)
  | .ok (n + 1) => do
    match ← ask (queries.getTopology (n + 1)) with
    | .error _ => do
      report (pconfigEvent .warn .invalidNfit [] .failed)
      pure ((n + 1 : ℕ), nvmSuccess)
    | .ok topology => do
      reportIf (topology.returned == 0) (pconfigEvent .warn .pconfigNoDimms [] .aborted)
      let rc ← checkSmbiosTableForUninitializedDimms queries topology.entries
      checkForDuplicateSerialNumbers topology.entries
      pure ((n + 1 : ℕ), rc)

/-! ### Its events -/

section Accounted

variable (queries : NfitQueries) (devices : List NvmTopology)

/-- An event with a code other than success is a finding. -/
theorem isFinding_pconfigEvent {severity : EventSeverity} {code : EventCode} {args : List EventArg}
    {result : DiagnosticResult} (h : code ≠ .pconfigSuccess) :
    IsFinding pconfigSuccessEvent (pconfigEvent severity code args result) := ⟨rfl, h⟩

/-- An event with one of some codes other than success is a finding. -/
theorem HasCode.isFinding {codes : List EventCode} {event : DiagEvent} (h : HasCode codes event)
    (hcodes : .pconfigSuccess ∉ codes) : IsFinding pconfigSuccessEvent event :=
  ⟨h.1, fun heq => hcodes (show pconfigSuccessEvent.code ∈ codes from heq ▸ h.2)⟩

/-- The comparison with the SMBIOS tables counts its events. -/
private theorem reports_checkSmbios :
    Reports (IsFinding pconfigSuccessEvent)
      (checkSmbiosTableForUninitializedDimms queries devices) := by
  refine Tally.counts_bind (reports_ask _) ?_
  rw [value_ask]
  match queries.getSmbiosInventoryCount with
  | .error e => exact Tally.counts_pure _
  | .ok 0 => exact Tally.counts_pure _
  | .ok (n + 1) =>
    refine Tally.counts_bind (reports_ask _) ?_
    rw [value_ask]
    cases queries.getSmbiosInventory ((n + 1) % 2 ^ 8) with
    | error e => exact Tally.counts_pure _
    | ok inventory =>
      dsimp only
      split_ifs
      · exact Tally.counts_pure _
      · refine Tally.counts_bind (Tally.counts_forM fun details _ => ?_) (Tally.counts_pure _)
        exact reports_report (isFinding_pconfigEvent (by decide))

/-- The check of the serial numbers counts its events. -/
private theorem reports_checkForDuplicateSerialNumbers :
    Reports (IsFinding pconfigSuccessEvent) (checkForDuplicateSerialNumbers devices) :=
  Tally.counts_forM fun _ _ => reports_report ⟨rfl, fun h => by cases h⟩

/-- The NFIT check counts its events. -/
theorem reports_verifyNfit : Reports (IsFinding pconfigSuccessEvent) (verifyNfit queries) := by
  have hreport : ∀ {severity : EventSeverity} {code : EventCode} {result : DiagnosticResult}
      (value : ℤ × ℤ), code ≠ .pconfigSuccess → Reports (IsFinding pconfigSuccessEvent) (do
        report (pconfigEvent severity code [] result)
        pure value) := fun _ hcode =>
    Tally.counts_bind (reports_report (isFinding_pconfigEvent hcode)) (Tally.counts_pure _)
  refine Tally.counts_bind (reports_ask _) ?_
  rw [value_ask]
  match queries.getTopologyCount with
  | .error e => exact hreport _ (by decide)
  | .ok 0 => exact hreport _ (by decide)
  | .ok (n + 1) =>
    refine Tally.counts_bind (reports_ask _) ?_
    rw [value_ask]
    cases queries.getTopology (n + 1) with
    | error e => exact hreport _ (by decide)
    | ok topology =>
      refine Tally.counts_bind (reports_reportIf (isFinding_pconfigEvent (by decide)) _) ?_
      refine Tally.counts_bind (reports_checkSmbios queries _) ?_
      exact Tally.counts_bind (reports_checkForDuplicateSerialNumbers _) (Tally.counts_pure _)

/-- Without a failed query, the comparison with the SMBIOS tables returns success. -/
private theorem settled_checkSmbios :
    Settled (checkSmbiosTableForUninitializedDimms queries devices) := by
  refine settles_ask fun count hcount => ?_
  rw [hcount]
  match count with
  | 0 => exact settled_pure
  | n + 1 =>
    refine settles_ask fun inventory hinventory => ?_
    rw [hinventory]
    dsimp only
    split_ifs
    · exact settled_pure
    · exact settles_bind fun _ _ => settled_pure

/-- Without a failed query, the NFIT check returns success. -/
theorem settles_verifyNfit : Settles (fun result => result.2 = nvmSuccess) (verifyNfit queries) := by
  refine settles_ask fun count hcount => ?_
  rw [hcount]
  match count with
  | 0 => exact settles_report _ _
  | n + 1 =>
    refine settles_ask fun topology htopology => ?_
    rw [htopology]
    refine settles_bind fun _ _ => settles_then (settled_checkSmbios queries _) fun hrc => ?_
    exact settles_bind fun _ _ => settles_pure hrc

end Accounted

/-! ### Duplicate serial numbers -/

/-- The list has each serial number once, with the number of its devices. -/
private structure CountsSerials (serials : List (Vector UInt8 4))
    (list : List (Vector UInt8 4 × ℕ)) : Prop where
  /-- No serial number has two items. -/
  keys : (list.map (·.1)).Nodup
  /-- An item has the number of devices. -/
  count : ∀ item ∈ list, item.2 = serials.count item.1
  /-- Every serial number has an item. -/
  found : ∀ serial ∈ serials, serial ∈ list.map (·.1)

section Serials

variable {serials : List (Vector UInt8 4)} {list : List (Vector UInt8 4 × ℕ)}

/-- The item of a serial number that is in the list counts one device more. -/
private theorem CountsSerials.modify (h : CountsSerials serials list) {serial : Vector UInt8 4}
    (hmem : serial ∈ list.map (·.1)) : CountsSerials (serials ++ [serial])
      (list.map fun item => if (item.1 == serial) = true then (item.1, item.2 + 1) else item) := by
  have hkeys : (list.map fun item =>
      if (item.1 == serial) = true then (item.1, item.2 + 1) else item).map (·.1) =
        list.map (·.1) := by
    rw [List.map_map]
    refine List.map_congr_left fun item _ => ?_
    rw [Function.comp_apply]
    split_ifs <;> rfl
  constructor
  · rw [hkeys]
    exact h.keys
  · intro item hitem
    obtain ⟨old, hold, rfl⟩ := List.mem_map.mp hitem
    rw [List.count_append, List.count_singleton]
    split_ifs with hsame hcount hcount
    · rw [h.count old hold]
    · exact absurd (beq_iff_eq.mp hsame).symm fun heq => hcount (beq_iff_eq.mpr heq)
    · exact absurd (beq_iff_eq.mp hcount).symm fun heq => hsame (beq_iff_eq.mpr heq)
    · rw [h.count old hold, Nat.add_zero]
  · intro other hother
    rw [hkeys]
    rcases List.mem_append.mp hother with hold | hnew
    · exact h.found other hold
    · rwa [List.mem_singleton.mp hnew]

/-- A serial number that is not in the list gets an item in front. -/
private theorem CountsSerials.cons (h : CountsSerials serials list) {serial : Vector UInt8 4}
    (hmem : serial ∉ list.map (·.1)) :
    CountsSerials (serials ++ [serial]) ((serial, 1) :: list) := by
  have hzero : serials.count serial = 0 :=
    List.count_eq_zero.mpr fun hserial => hmem (h.found serial hserial)
  constructor
  · rw [List.map_cons]
    exact List.nodup_cons.mpr ⟨hmem, h.keys⟩
  · intro item hitem
    rw [List.count_append, List.count_singleton]
    rcases List.mem_cons.mp hitem with rfl | hold
    · rw [hzero, if_pos (beq_self_eq_true _)]
    · have hne : ¬ (serial == item.1) = true := by
        intro heq
        refine hmem ?_
        rw [beq_iff_eq.mp heq]
        exact List.mem_map_of_mem hold
      rw [if_neg hne, Nat.add_zero, h.count item hold]
  · intro other hother
    rw [List.map_cons, List.mem_cons]
    rcases List.mem_append.mp hother with hold | hnew
    · exact Or.inr (h.found other hold)
    · exact Or.inl (List.mem_singleton.mp hnew)

/-- Adding a serial number counts it. -/
private theorem CountsSerials.add (h : CountsSerials serials list) (serial : Vector UInt8 4) :
    CountsSerials (serials ++ [serial]) (addSerialNumberToList list serial) := by
  have hany : list.any (fun item => item.1 == serial) = true ↔ serial ∈ list.map (·.1) := by
    rw [List.any_eq_true, List.mem_map]
    exact exists_congr fun item => and_congr_right fun _ => beq_iff_eq
  unfold addSerialNumberToList
  split_ifs with hmem
  · have hpairwise : list.Pairwise fun a b => ¬ ((a.1 == serial) = true ∧ (b.1 == serial) = true) := by
      refine (List.pairwise_map.mp h.keys).imp fun hne hboth => hne ?_
      rw [beq_iff_eq.mp hboth.1, beq_iff_eq.mp hboth.2]
    rw [modifyFirst_eq_map hpairwise]
    exact h.modify (hany.mp hmem)
  · exact h.cons fun hserial => hmem (hany.mpr hserial)

/-- The list counts the serial numbers of the devices. -/
private theorem countsSerials_serialNumberCounts (devices : List NvmTopology) :
    CountsSerials (devices.map (·.serialNumber)) (serialNumberCounts devices) := by
  unfold serialNumberCounts
  induction devices.map (·.serialNumber) using List.reverseRecOn with
  | nil => exact ⟨List.nodup_nil, List.forall_mem_nil _, List.forall_mem_nil _⟩
  | append_singleton serials serial ih =>
    rw [List.foldl_append, List.foldl_cons, List.foldl_nil]
    exact ih.add serial

end Serials

/-- No serial number is reported exactly if none occurs twice. -/
theorem events_checkForDuplicateSerialNumbers_eq_nil_iff (devices : List NvmTopology) :
    events (checkForDuplicateSerialNumbers devices).log = [] ↔
      (devices.map (·.serialNumber)).Nodup := by
  have hcounts := countsSerials_serialNumberCounts devices
  rw [checkForDuplicateSerialNumbers, Tally.log_forM, events_flatMap, List.flatMap_eq_nil_iff,
    List.nodup_iff_count_le_one]
  constructor
  · intro hnone serial
    by_contra hmore
    have hserial : serial ∈ devices.map (·.serialNumber) :=
      List.count_pos_iff.mp (Nat.zero_lt_of_lt (not_le.mp hmore))
    obtain ⟨item, hitem, rfl⟩ := List.mem_map.mp (hcounts.found serial hserial)
    have hfilter : item ∈ (serialNumberCounts devices).filter fun item => 1 < item.2 := by
      refine List.mem_filter.mpr ⟨hitem, decide_eq_true ?_⟩
      rw [hcounts.count item hitem]
      exact not_le.mp hmore
    cases hnone item hfilter
  · intro hle item hitem
    obtain ⟨hmem, hmore⟩ := List.mem_filter.mp hitem
    rw [hcounts.count item hmem] at hmore
    exact absurd (of_decide_eq_true hmore) (not_lt.mpr (hle item.1))

/-! ### When nothing is reported -/

/-- The entries of the SMBIOS tables, as far as they are read. -/
def smbiosInventory (queries : NfitQueries) : List NvmDetails :=
  match queries.getSmbiosInventoryCount with
  | .ok (n + 1) =>
    match queries.getSmbiosInventory ((n + 1) % 2 ^ 8) with
    | .ok inventory => if inventory.returned = 0 then [] else inventory.entries
    | .error _ => []
  | _ => []

/-- The NFIT check has nothing to report: there are devices, the SMBIOS tables have no other NVM-DIMM,
and the serial numbers differ. -/
def NfitSilent (queries : NfitQueries) : Prop :=
  ∃ n topology, queries.getTopologyCount = .ok (n + 1) ∧ queries.getTopology (n + 1) = .ok topology ∧
    topology.returned ≠ 0 ∧ uninitializedDimms (smbiosInventory queries) topology.entries = [] ∧
      (topology.entries.map (·.serialNumber)).Nodup

section Silent

variable (queries : NfitQueries)

/-- The comparison with the topology reports the uninitialized DIMMs. -/
private theorem events_checkIfAllDimms_eq_nil_iff (inventory : List NvmDetails)
    (devices : List NvmTopology) :
    events (checkIfAllDimmsFromSmbiosAreInTopology inventory devices).log = [] ↔
      uninitializedDimms inventory devices = [] := by
  rw [checkIfAllDimmsFromSmbiosAreInTopology, Tally.log_forM, events_flatMap,
    List.flatMap_eq_nil_iff]
  constructor
  · intro hnone
    refine List.eq_nil_iff_forall_not_mem.mpr fun details hdetails => ?_
    cases hnone details hdetails
  · intro hnone details hdetails
    rw [hnone] at hdetails
    cases hdetails

/-- The comparison with the SMBIOS tables reports the uninitialized DIMMs. -/
private theorem events_checkSmbios_eq_nil_iff (devices : List NvmTopology) :
    events (checkSmbiosTableForUninitializedDimms queries devices).log = [] ↔
      uninitializedDimms (smbiosInventory queries) devices = [] := by
  unfold checkSmbiosTableForUninitializedDimms smbiosInventory
  rw [Tally.log_bind, events_append, value_ask, log_ask, events_asked, List.nil_append]
  cases queries.getSmbiosInventoryCount with
  | error e => exact iff_of_true rfl rfl
  | ok count =>
    cases count with
    | zero => exact iff_of_true rfl rfl
    | succ m =>
      dsimp only
      rw [Tally.log_bind, events_append, value_ask, log_ask, events_asked, List.nil_append]
      cases queries.getSmbiosInventory ((m + 1) % 2 ^ 8) with
      | error e => exact iff_of_true rfl rfl
      | ok inventory =>
        dsimp only
        split_ifs with hreturned
        · exact iff_of_true rfl rfl
        · rw [Tally.log_bind, Tally.log_pure, List.append_nil]
          exact events_checkIfAllDimms_eq_nil_iff _ _

/-- The NFIT check reports nothing exactly if it has nothing to report. -/
theorem nfitSilent_iff : events (verifyNfit queries).log = [] ↔ NfitSilent queries := by
  unfold verifyNfit NfitSilent
  rw [Tally.log_bind, events_append, value_ask, log_ask, events_asked, List.nil_append]
  match queries.getTopologyCount with
  | .error e =>
    refine iff_of_false (List.cons_ne_nil _ _) ?_
    rintro ⟨_, _, hcount, -⟩
    cases hcount
  | .ok 0 =>
    refine iff_of_false (List.cons_ne_nil _ _) ?_
    rintro ⟨_, _, hcount, -⟩
    cases hcount
  | .ok (n + 1) =>
    rw [Tally.log_bind, events_append, value_ask, log_ask, events_asked, List.nil_append]
    cases htopology : queries.getTopology (n + 1) with
    | error e =>
      refine iff_of_false (List.cons_ne_nil _ _) ?_
      rintro ⟨m, topology, hcount, hfound, -⟩
      obtain rfl : n = m := Nat.succ.inj (Except.ok.inj hcount)
      rw [htopology] at hfound
      cases hfound
    | ok topology =>
      have honly : (∃ m topology', (.ok (n + 1) : Except ErrorCode ℕ) = .ok (m + 1) ∧
          queries.getTopology (m + 1) = .ok topology' ∧ topology'.returned ≠ 0 ∧
          uninitializedDimms (smbiosInventory queries) topology'.entries = [] ∧
            (topology'.entries.map (·.serialNumber)).Nodup) ↔ topology.returned ≠ 0 ∧
          uninitializedDimms (smbiosInventory queries) topology.entries = [] ∧
            (topology.entries.map (·.serialNumber)).Nodup := by
        constructor
        · rintro ⟨m, topology', hcount, hfound, h⟩
          obtain rfl : n = m := Nat.succ.inj (Except.ok.inj hcount)
          obtain rfl := Except.ok.inj (htopology.symm.trans hfound)
          exact h
        · exact fun h => ⟨n, topology, rfl, htopology, h⟩
      rw [honly]
      simp only [Tally.log_bind, Tally.log_pure, events_append, List.append_nil,
        List.append_eq_nil_iff, events_checkSmbios_eq_nil_iff,
        events_checkForDuplicateSerialNumbers_eq_nil_iff]
      refine and_congr_left fun _ => ?_
      unfold reportIf
      by_cases hreturned : topology.returned = 0
      · rw [if_pos (beq_iff_eq.mpr hreturned)]
        exact iff_of_false (List.cons_ne_nil _ _) fun h => h hreturned
      · rw [if_neg fun h => hreturned (beq_iff_eq.mp h)]
        exact iff_of_true rfl hreturned

/-- With nothing to report, the number of devices is that of the topology. -/
theorem value_verifyNfit_of_silent (h : NfitSilent queries) :
    ∃ n, queries.getTopologyCount = .ok (n + 1) ∧
      (verifyNfit queries).value.1 = ((n + 1 : ℕ) : ℤ) := by
  obtain ⟨n, topology, hcount, htopology, -⟩ := h
  refine ⟨n, hcount, ?_⟩
  unfold verifyNfit
  rw [Tally.value_bind, value_ask, hcount]
  dsimp only
  rw [Tally.value_bind, value_ask, htopology]
  rfl

end Silent

end IxpDimm.Diagnostic
