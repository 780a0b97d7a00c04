import IxpDimm.ConfigGoal.Update
import IxpDimm.Foundation.LoopSimulation

/-!
# A config input table that is stored

A config input table is written with a checksum, and what is read back is a copy of it in a larger
buffer.  What `config_input_table_to_config_goal` makes of the copy is what it makes of the table
(`configInputTableToConfigGoal_copy`): it reads nothing but the revision and the extension tables, and
it leaves the status alone, which `nvm_get_config_goal` has filled in before.
-/

namespace IxpDimm

open Foundation

/-- A goal with a status. -/
def ConfigGoal.withStatus (status : ConfigGoalStatus) (goal : ConfigGoal) : ConfigGoal :=
  { goal with status := status }

/-! ### What decoding depends on -/

section Congr

variable {platform : Platform} {deviceUid : Uid} {m m' : Bytes}

/-- Comparing bytes depends on them only. -/
private theorem cmpBytes_congr {bytes : Bytes} {n : ℕ} (h : SameBytes m m' 0 n) :
    cmpBytes bytes m' n = cmpBytes bytes m n := by
  rw [Bool.eq_iff_iff, cmpBytes_iff, cmpBytes_iff]
  exact ⟨fun hsame => hsame.trans h.symm, fun hsame => hsame.trans h⟩

/-- The unique id of a record depends on its identifier. -/
private theorem getDeviceUid_congr {revision : UInt8} {old : Uid} (h : SameBytes m m' 0 26) :
    getDeviceUidFromDimmInterleaveInfoTable platform m' revision old =
      getDeviceUidFromDimmInterleaveInfoTable platform m revision old := by
  have hlookup : lookupDevManufacturerSerialPart platform m' (view m' 2) (view m' 6) =
      lookupDevManufacturerSerialPart platform m (view m 2) (view m 6) := by
    unfold lookupDevManufacturerSerialPart
    congr 1
    funext device
    rw [cmpBytes_congr (h.mono le_rfl (by omega)),
      cmpBytes_congr ((h.mono (b := 2) (k := 4) (by omega) (by omega)).view),
      cmpBytes_congr ((h.mono (b := 6) (k := 20) (by omega) (by omega)).view)]
  unfold getDeviceUidFromDimmInterleaveInfoTable
  rw [hlookup, deviceUidBytesToString_congr (h.symm.mono le_rfl (by omega))]

/-- The loop over the DIMMs depends on the revision and on their records. -/
private theorem decodeDimms_congr {tableLength : ℕ} (hrevision : headerRevision m' = headerRevision m)
    {n i setOffset : ℕ} {dimms : List Uid} {size : UInt64}
    (h : SameBytes m m' setOffset (dimmInfoTableSize * n)) :
    decodeDimms platform deviceUid m' tableLength n i setOffset dimms size =
      decodeDimms platform deviceUid m tableLength n i setOffset dimms size := by
  induction n generalizing i setOffset dimms size with
  | zero => rfl
  | succ n ih =>
    unfold dimmInfoTableSize at h ih
    have hrecord : SameBytes (view m setOffset) (view m' setOffset) 0 48 :=
      (h.mono le_rfl (by omega)).view
    have hsize : readLE (view m' setOffset) 40 8 = readLE (view m setOffset) 40 8 :=
      readLE_congr (hrecord.symm.mono (by omega) (by omega))
    unfold decodeDimms
    split_ifs
    · rfl
    · dsimp only
      rw [hrevision, getDeviceUid_congr (hrecord.mono le_rfl (by omega)), hsize,
        ih (h.mono (by unfold dimmInfoTableSize; omega) (by unfold dimmInfoTableSize; omega))]

/-- What is decoded of an App Direct table depends on the revision and on the table, and leaves the
status alone. -/
private theorem decodeAppDirect_congr {tableLength offset : ℕ} {goal : ConfigGoal}
    (status : ConfigGoalStatus) (hrevision : headerRevision m' = headerRevision m)
    (hroom : offset + interleaveInfoTableSize < 2 ^ 32)
    (h : SameBytes m m' offset
      (interleaveInfoTableSize + dimmInfoTableSize * (view m offset 6).toNat)) :
    decodeAppDirect platform deviceUid m' tableLength offset (goal.withStatus status) =
      Prod.map id (ConfigGoal.withStatus status)
        (decodeAppDirect platform deviceUid m tableLength offset goal) := by
  unfold interleaveInfoTableSize at hroom h
  have hentry : SameBytes (view m offset) (view m' offset) 0 24 :=
    (h.mono le_rfl (by omega)).view
  have hcount : view m' offset 6 = view m offset 6 := (hentry 6 (by omega) (by omega)).symm
  have hindex : interleaveIndex (view m' offset) = interleaveIndex (view m offset) := by
    rw [interleaveIndex, readLE_congr (hentry.symm.mono (by omega) (by omega))]
    rfl
  have hsettings : ∀ old, decodeSettings (view m' offset) old = decodeSettings (view m offset) old := by
    intro old
    have hformat : readLE (view m' offset) 8 4 = readLE (view m offset) 8 4 :=
      readLE_congr (hentry.symm.mono (by omega) (by omega))
    rw [decodeSettings, decodeSettings, hformat, ← hentry 12 (by omega) (by omega)]
  have hoffset : (offset + interleaveInfoTableSize) % 2 ^ 32 = offset + 24 := by
    unfold interleaveInfoTableSize
    exact Nat.mod_eq_of_lt hroom
  have hdimms : ∀ dimms size, decodeDimms platform deviceUid m' tableLength (view m offset 6).toNat 0
      (offset + 24) dimms size = decodeDimms platform deviceUid m tableLength
        (view m offset 6).toNat 0 (offset + 24) dimms size :=
    fun dimms size => decodeDimms_congr hrevision (h.mono (by omega) (by omega))
  unfold decodeAppDirect
  dsimp only
  rw [hcount, hindex, hoffset]
  simp only [hsettings, hdimms, ConfigGoal.withStatus]
  split_ifs
  · rfl
  · rfl
  · rfl

/-- The bytes that decoding an extension table depends on are in the table. -/
structure EntryRoom (m : Bytes) (offset length : ℕ) : Prop where
  /-- There is room for the header and the fields that every table has. -/
  fields : 8 ≤ length
  /-- A partition size change table has its size. -/
  partition : extensionType m offset = partitionChangeTable → 16 ≤ length
  /-- An interleave table has its DIMMs. -/
  interleave : extensionType m offset = interleaveTable →
    interleaveInfoTableSize + dimmInfoTableSize * (view m offset 6).toNat ≤ length

/-- A pass of the walk depends on the revision and on the extension table, and leaves the status
alone. -/
private theorem decodeEntry_congr {tableLength offset : ℕ} {goal : ConfigGoal}
    (status : ConfigGoalStatus) (hrevision : headerRevision m' = headerRevision m)
    (hroom : offset + interleaveInfoTableSize < 2 ^ 32)
    (hentry : EntryRoom m offset (extensionLength m offset))
    (h : SameBytes m m' offset (extensionLength m offset)) :
    decodeEntry platform deviceUid m' tableLength (offset, goal.withStatus status) =
      (decodeEntry platform deviceUid m tableLength (offset, goal)).map
        (Prod.map id (ConfigGoal.withStatus status)) (Prod.map id (ConfigGoal.withStatus status)) := by
  obtain ⟨hfields, hpartition, hinterleave⟩ := hentry
  have htype : extensionType m' offset = extensionType m offset :=
    readLE_congr (h.symm.mono le_rfl (by omega))
  have hlength : extensionLength m' offset = extensionLength m offset :=
    readLE_congr (h.symm.mono (by omega) (by omega))
  have hmemory : view m' offset 7 = view m offset 7 := (h (offset + 7) (by omega) (by omega)).symm
  have hextension : decodeExtension platform deviceUid m' tableLength offset
      (goal.withStatus status) = Prod.map id (ConfigGoal.withStatus status)
        (decodeExtension platform deviceUid m tableLength offset goal) := by
    unfold decodeExtension
    dsimp only
    rw [htype, hmemory]
    split_ifs with hp hi ha hm
    · have hsize : readLE (view m' offset) 8 8 = readLE (view m offset) 8 8 := by
        have hlarge := hpartition hp
        rw [readLE_view, readLE_view]
        exact readLE_congr (h.symm.mono (by omega) (by omega))
      unfold decodePartition
      rw [hsize]
      cases lookupDevUid platform deviceUid with
      | error rc => rfl
      | ok discovery => rfl
    · exact decodeAppDirect_congr status hrevision hroom
        (h.mono le_rfl (Nat.add_le_add_left (hinterleave hi) _))
    · rfl
    · rfl
    · rfl
  unfold decodeEntry
  dsimp only
  rw [hlength, hextension]
  split_ifs
  · rfl
  · cases hrun : decodeExtension platform deviceUid m tableLength offset goal with
    | mk rc decoded => cases rc <;> rfl
  · rfl

end Congr

/-! ### Tables that can be walked -/

/-- The extension tables from an offset to the end of a table, each with room for what is read of it. -/
inductive DecodableFrom (m : Bytes) (length : ℕ) : ℕ → Prop
  /-- The end is reached. -/
  | done : DecodableFrom m length length
  /-- There is an extension table, and the walk goes on behind it. -/
  | entry {offset : ℕ} : EntryRoom m offset (extensionLength m offset) →
      offset + extensionLength m offset ≤ length →
      DecodableFrom m length (offset + extensionLength m offset) → DecodableFrom m length offset

/-- A pass that goes on gets behind the extension table. -/
private theorem decodeEntry_inl {platform : Platform} {deviceUid : Uid} {m : Bytes}
    {tableLength offset next : ℕ} {goal goal' : ConfigGoal}
    (h : decodeEntry platform deviceUid m tableLength (offset, goal) = .inl (next, goal')) :
    next = (offset + extensionLength m offset) % 2 ^ 32 := by
  unfold decodeEntry at h
  dsimp only at h
  split_ifs at h
  split at h
  · exact (congrArg Prod.fst (Sum.inl.inj h)).symm
  · cases h

/-- The walk over a copy of the extension tables does what the walk over the tables does, and leaves
the status alone. -/
private theorem runLoop_decodeEntry_copy {platform : Platform} {deviceUid : Uid} {m m' : Bytes}
    {start length : ℕ} (status : ConfigGoalStatus) (hrevision : headerRevision m' = headerRevision m)
    (hlength : length + interleaveInfoTableSize < 2 ^ 32)
    (hsame : SameBytes m m' start (length - start)) (hdecodable : DecodableFrom m length start)
    (fuel : ℕ) (goal : ConfigGoal) :
    runLoop (decodeEntry platform deviceUid m' length) fuel (start, goal.withStatus status) =
      (runLoop (decodeEntry platform deviceUid m length) fuel (start, goal)).map
        (Prod.map id (ConfigGoal.withStatus status)) := by
  let follows (s s' : ℕ × ConfigGoal) : Prop :=
    s' = (s.1, s.2.withStatus status) ∧ start ≤ s.1 ∧ DecodableFrom m length s.1
  have hpass : ∀ s s', follows s s' → decodeEntry platform deviceUid m' length s' =
      (decodeEntry platform deviceUid m length s).map
        (Prod.map id (ConfigGoal.withStatus status)) (Prod.map id (ConfigGoal.withStatus status)) := by
    rintro ⟨offset, goal⟩ _ ⟨rfl, hstart, hfrom⟩
    dsimp only at hstart hfrom ⊢
    cases hfrom with
    | done =>
      unfold decodeEntry
      dsimp only
      rw [if_neg (Nat.lt_irrefl _), if_neg (Nat.lt_irrefl _)]
      rfl
    | entry hroom hend _ =>
      exact decodeEntry_congr status hrevision (by omega) hroom
        (hsame.mono hstart (by omega))
  refine runLoop_simulation follows _ ?_ ?_ ⟨rfl, le_rfl, hdecodable⟩
  · rintro ⟨offset, goal⟩ s' ⟨next, goal'⟩ hfollows hstep
    refine ⟨(next, goal'.withStatus status), ?_, rfl, ?_⟩
    · rw [hpass _ _ hfollows, hstep]
      rfl
    · obtain ⟨-, hstart, hfrom⟩ := hfollows
      dsimp only at hstart hfrom ⊢
      have hnext := decodeEntry_inl hstep
      cases hfrom with
      | done =>
        unfold decodeEntry at hstep
        dsimp only at hstep
        rw [if_neg (Nat.lt_irrefl _)] at hstep
        cases hstep
      | entry _ hend hrest =>
        rw [Nat.mod_eq_of_lt (by omega)] at hnext
        rw [hnext]
        exact ⟨by omega, hrest⟩
  · intro s s' r hfollows hstep
    rw [hpass _ _ hfollows, hstep]
    rfl

/-! ### The table of a goal -/

section Goal

variable {platform : Platform} {goal : ConfigGoal} {discovery : DeviceDiscovery} {seqNum : UInt32}
  {revision : UInt8} {table : ConfigInputTable}

/-- An interleave table of a goal counts its DIMMs. -/
private theorem dimmCount_of_goalTables {tables : List InterleaveInfoExtensionTable}
    (h : GoalTables platform goal discovery revision tables) :
    ∀ table ∈ tables, table.dimmCount.toNat = table.dimms.length := by
  have hset : ∀ {qos : AppDirectAttributes} {size offset : UInt64} {setId : UInt16}
      {devices : List DeviceDiscovery}, SetDevices platform qos devices →
      (tableOfSet qos size offset setId revision devices).dimmCount.toNat =
        (tableOfSet qos size offset setId revision devices).dimms.length := by
    intro qos size offset setId devices hdevices
    obtain ⟨hways, -, hsmall⟩ := hdevices.length
    simp only [tableOfSet, populateDimmInfoExtensionTable, List.length_map, hways]
    exact UInt8.toNat_ofNat_of_lt' (by rw [← hways]; exact Nat.lt_of_le_of_lt hsmall (by decide))
  cases h with
  | none => exact List.forall_mem_nil _
  | one _ hdevices => exact List.forall_mem_singleton.mpr (hset hdevices)
  | two _ hdevices₁ hdevices₂ =>
    exact List.forall_mem_cons.mpr ⟨hset hdevices₁, List.forall_mem_singleton.mpr (hset hdevices₂)⟩

/-- Interleave tables that follow each other in memory can be walked. -/
private theorem decodableFrom_interleaveTables {m : Bytes} {a length : ℕ}
    {tables : List InterleaveInfoExtensionTable}
    (h : Holds m a (tables.flatMap InterleaveInfoExtensionTable.bytes))
    (hlengths : ∀ table ∈ tables, table.bytes.length = table.length ∧ table.length ≤ 312)
    (hcounts : ∀ table ∈ tables, table.dimmCount.toNat = table.dimms.length)
    (hend : a + (tables.map InterleaveInfoExtensionTable.length).sum = length) :
    DecodableFrom m length a := by
  induction tables generalizing a with
  | nil =>
    obtain rfl : a = length := by simpa using hend
    exact .done
  | cons table tables ih =>
    obtain ⟨hbytes, hsmall⟩ := hlengths table List.mem_cons_self
    have hcount := hcounts table List.mem_cons_self
    rw [List.flatMap_cons, holds_append, hbytes] at h
    obtain ⟨htype, hlength, -, hdimms, -⟩ := read_interleaveTable h.1
      (lt_of_le_of_lt hsmall (by decide))
    rw [List.map_cons, List.sum_cons] at hend
    have hsize : table.length = interleaveInfoTableSize + dimmInfoTableSize * table.dimms.length :=
      rfl
    refine .entry ⟨?_, fun hpartition => ?_, fun _ => ?_⟩ ?_ ?_
    · rw [hlength, hsize]
      unfold interleaveInfoTableSize
      omega
    · rw [htype] at hpartition
      exact absurd hpartition (by decide)
    · rw [hlength, hdimms, hcount, hsize]
    · rw [hlength]
      omega
    · rw [hlength]
      exact ih h.2 (fun t ht => hlengths t (List.mem_cons_of_mem _ ht))
        (fun t ht => hcounts t (List.mem_cons_of_mem _ ht)) (by omega)

/-- The length of the table of a goal. -/
private theorem length_of_goal (h : configGoalToConfigInput platform goal discovery seqNum revision =
    .ok table) : 64 ≤ table.length ∧ table.length ≤ 688 := by
  obtain ⟨tables, htables, rfl⟩ := configGoalToConfigInput_ok h
  obtain ⟨-, hsum⟩ := lengths_of_goalTables htables
  simp only [ConfigInputTable.length, TableKind.structSize, partitionSizeChangeTableSize]
  omega

/-- The table of a goal can be walked. -/
private theorem decodableFrom_of_goal (h : configGoalToConfigInput platform goal discovery seqNum
    revision = .ok table) :
    DecodableFrom (ofList table.bytes) table.length TableKind.configInput.structSize := by
  obtain ⟨tables, htables, rfl⟩ := configGoalToConfigInput_ok h
  obtain ⟨hlengths, -⟩ := lengths_of_goalTables htables
  obtain ⟨-, hpartition, hinterleave⟩ := read_configInputTable (holds_ofList
    (ConfigInputTable.bytes ⟨revision, seqNum, configGoalToPartitionExtTable goal discovery, tables⟩))
  obtain ⟨htype, hlength, -⟩ := read_partitionTable hpartition
  change DecodableFrom _ _ 48
  refine .entry ⟨?_, fun _ => ?_, fun hset => ?_⟩ ?_ ?_
  · rw [hlength]
    decide
  · rw [hlength]
    decide
  · rw [htype] at hset
    exact absurd hset (by decide)
  · rw [hlength]
    exact Nat.le_add_right _ _
  · rw [hlength]
    exact decodableFrom_interleaveTables hinterleave hlengths (dimmCount_of_goalTables htables) rfl

/-! ### Copies -/

/-- What is read back is a copy of a config input table. -/
structure IsCopy (m : Bytes) (table : ConfigInputTable) : Prop where
  /-- The length. -/
  length : headerLength m = table.length
  /-- The revision. -/
  revision : headerRevision m = table.revision
  /-- The sequence number. -/
  number : sequenceNumber m = table.sequenceNumber.toNat
  /-- The extension tables. -/
  tables : SameBytes (ofList table.bytes) m TableKind.configInput.structSize
    (table.length - TableKind.configInput.structSize)

/-- A buffer that starts with the table of a goal and its checksum is a copy of it. -/
theorem isCopy_of_goal {m : Bytes}
    (h : configGoalToConfigInput platform goal discovery seqNum revision = .ok table)
    (hsame : SameBytes m table.packed 0 (headerLength table.packed)) : IsCopy m table := by
  obtain ⟨hmin, hmax⟩ := length_of_goal h
  obtain ⟨-, hlength, hnumber⟩ := read_configInputHeader (holds_ofList table.bytes) (by omega)
  have hrevision := (read_configInputTable (holds_ofList table.bytes)).1
  -- the checksum is the only byte in which the packed table differs
  have hpacked : ∀ b n, checksumOffset < b ∨ b + n ≤ checksumOffset →
      SameBytes table.packed (ofList table.bytes) b n :=
    fun b n hb i hi hlt => generateChecksum_apply_of_ne _ _ (by omega)
  have hpackedLength : headerLength table.packed = table.length := by
    rw [← hlength]
    exact headerLength_congr (hpacked 0 8 (Or.inr (by decide))).symm
  rw [hpackedLength] at hsame
  have hbytes : ∀ b n, checksumOffset < b ∨ b + n ≤ checksumOffset → b + n ≤ table.length →
      SameBytes m (ofList table.bytes) b n :=
    fun b n hb hn => (hsame.mono (Nat.zero_le b) (by omega)).trans (hpacked b n hb)
  refine ⟨?_, ?_, ?_, ?_⟩
  · rw [← hlength]
    exact headerLength_congr (hbytes 0 8 (Or.inr (by decide)) (by omega)).symm
  · rw [← hrevision]
    exact hbytes 8 1 (Or.inr (by decide)) (by omega) 8 le_rfl (by omega)
  · rw [← hnumber]
    exact readLE_congr (hbytes 36 4 (Or.inl (by decide)) (by omega))
  · have hroom : TableKind.configInput.structSize ≤ table.length := le_trans (by decide) hmin
    exact (hbytes _ _ (Or.inl (by decide)) (Nat.add_sub_of_le hroom).le).symm

/-- What is decoded of a copy of the table of a goal is what is decoded of the table, with the status
that was there before. -/
theorem configInputTableToConfigGoal_copy {m : Bytes} (platform' : Platform) (deviceUid : Uid)
    (h : configGoalToConfigInput platform goal discovery seqNum revision = .ok table)
    (hcopy : IsCopy m table) (status : ConfigGoalStatus) (fuel : ℕ) :
    configInputTableToConfigGoal fuel platform' deviceUid m TableKind.configInput.structSize
        (headerLength m) { status := status } =
      (configInputTableToConfigGoal fuel platform' deviceUid (ofList table.bytes)
        TableKind.configInput.structSize table.length {}).map
          (Prod.map id (ConfigGoal.withStatus status)) := by
  obtain ⟨-, hmax⟩ := length_of_goal h
  have hrevision := (read_configInputTable (holds_ofList table.bytes)).1
  rw [hcopy.length]
  exact runLoop_decodeEntry_copy status (hcopy.revision.trans hrevision.symm)
    (by unfold interleaveInfoTableSize; omega) hcopy.tables (decodableFrom_of_goal h) fuel {}

/-! ### The walk succeeds -/

/-- The loop over DIMMs that are within the table succeeds. -/
private theorem decodeDimms_success {deviceUid : Uid} {m : Bytes} {tableLength n i setOffset : ℕ}
    {dimms : List Uid} {size : UInt64}
    (h : setOffset + dimmInfoTableSize * n ≤ tableLength + dimmInfoTableSize) :
    (decodeDimms platform deviceUid m tableLength n i setOffset dimms size).1 = .success := by
  induction n generalizing i setOffset dimms size with
  | zero => rfl
  | succ n ih =>
    unfold dimmInfoTableSize at h
    unfold decodeDimms
    rw [if_neg (by omega)]
    exact ih (by unfold dimmInfoTableSize; omega)

/-- An App Direct set is decoded as long as a slot of the goal is free. -/
private theorem decodeAppDirect_success {deviceUid : Uid} {m : Bytes} {tableLength offset : ℕ}
    {goal : ConfigGoal} (hfree : goal.appDirect2Size = 0) (hlength : tableLength < 2 ^ 32)
    (hroom : offset + interleaveInfoTableSize + dimmInfoTableSize * (view m offset 6).toNat ≤
      tableLength) :
    ∃ decoded, decodeAppDirect platform deviceUid m tableLength offset goal = (.success, decoded) ∧
      (goal.appDirect1Size = 0 → decoded.appDirect2Size = 0) := by
  have hoffset : (offset + interleaveInfoTableSize) % 2 ^ 32 = offset + interleaveInfoTableSize :=
    Nat.mod_eq_of_lt (by omega)
  have hdimms : ∀ dimms size, (decodeDimms platform deviceUid m tableLength (view m offset 6).toNat 0
      (offset + interleaveInfoTableSize) dimms size).1 = .success :=
    fun dimms size => decodeDimms_success (by omega)
  unfold decodeAppDirect
  dsimp only
  rw [hoffset]
  by_cases hfirst : goal.appDirect1Size = 0
  · rw [if_neg (not_not.mpr hfirst), hdimms]
    exact ⟨_, rfl, fun _ => hfree⟩
  · rw [if_pos hfirst, if_neg (not_not.mpr hfree), hdimms]
    exact ⟨_, rfl, fun h => absurd h hfirst⟩

/-- The partition size change table of a known device is decoded. -/
private theorem decodeEntry_partition_success {deviceUid : Uid} {m : Bytes} {tableLength a : ℕ}
    {decoded : ConfigGoal} {device : DeviceDiscovery}
    (h : Holds m a (configGoalToPartitionExtTable goal discovery).bytes)
    (hroom : a + 16 ≤ tableLength) (hlength : tableLength < 2 ^ 32)
    (hlookup : lookupDevUid platform deviceUid = .ok device) :
    ∃ memorySize, decodeEntry platform deviceUid m tableLength (a, decoded) =
      .inl (a + 16, { decoded with memorySize := memorySize }) := by
  obtain ⟨htype, hlen, -⟩ := read_partitionTable h
  have hnext : (a + extensionLength m a) % 2 ^ 32 = a + 16 := by
    rw [hlen, partitionSizeChangeTableSize]
    omega
  unfold decodeEntry decodeExtension decodePartition
  dsimp only
  rw [hnext, if_pos (by omega), if_neg (by omega), if_pos htype, hlookup]
  exact ⟨_, rfl⟩

/-- The table of an interleave set is decoded as long as a slot of the goal is free. -/
private theorem decodeEntry_set_success (deviceUid : Uid) (decoded : ConfigGoal) {m : Bytes}
    {tableLength a : ℕ} {qos : AppDirectAttributes} {size offset : UInt64} {setId : UInt16}
    {devices : List DeviceDiscovery} (hdevices : SetDevices platform qos devices)
    (h : Holds m a (tableOfSet qos size offset setId (headerRevision m) devices).bytes)
    (hroom : a + (24 + 48 * devices.length) ≤ tableLength) (hlength : tableLength < 2 ^ 32)
    (hfree : decoded.appDirect2Size = 0) :
    ∃ decoded', decodeEntry platform deviceUid m tableLength (a, decoded) =
        .inl (a + (24 + 48 * devices.length), decoded') ∧
      (decoded.appDirect1Size = 0 → decoded'.appDirect2Size = 0) := by
  obtain ⟨hways, -, hsix⟩ := hdevices.length
  obtain ⟨-, -, -, hcount, -⟩ := read_interleaveTable h (by rw [length_tableOfSet]; omega)
  have hcount' : (view m a 6).toNat = devices.length := by
    rw [hcount, hways]
    exact UInt8.toNat_ofNat_of_lt' (by rw [← hways]; exact Nat.lt_of_le_of_lt hsix (by decide))
  have hsuccess : ∃ decoded', decodeAppDirect platform deviceUid m tableLength a decoded =
      (.success, decoded') ∧ (decoded.appDirect1Size = 0 → decoded'.appDirect2Size = 0) := by
    refine decodeAppDirect_success hfree hlength ?_
    rw [hcount']
    unfold interleaveInfoTableSize dimmInfoTableSize
    omega
  obtain ⟨decoded', hread, hslot⟩ := hsuccess
  refine ⟨decoded', ?_, hslot⟩
  rw [decodeEntry_tableOfSet hdevices h hroom hlength hread, if_pos rfl]

/-- The walk over the table of a goal succeeds for a known device. -/
theorem exists_returns_decoded {deviceUid : Uid} {device : DeviceDiscovery}
    (hlookup : lookupDevUid platform deviceUid = .ok device)
    (h : configGoalToConfigInput platform goal discovery seqNum revision = .ok table) :
    ∃ decoded, Returns (fun fuel => configInputTableToConfigGoal fuel platform deviceUid
      (ofList table.bytes) TableKind.configInput.structSize table.length {}) (.success, decoded) := by
  obtain ⟨hmin, hmax⟩ := length_of_goal h
  have hlt : table.length < 2 ^ 32 := by omega
  obtain ⟨tables, htables, rfl⟩ := configGoalToConfigInput_ok h
  obtain ⟨hrevision, hpartition, hsets⟩ := read_configInputTable (holds_ofList
    (ConfigInputTable.bytes ⟨revision, seqNum, configGoalToPartitionExtTable goal discovery, tables⟩))
  dsimp only at hrevision hpartition hsets
  generalize hm : ofList (ConfigInputTable.bytes
    ⟨revision, seqNum, configGoalToPartitionExtTable goal discovery, tables⟩) = m at *
  generalize htotal : ConfigInputTable.length
    ⟨revision, seqNum, configGoalToPartitionExtTable goal discovery, tables⟩ = total at *
  have hfirst : ∃ memorySize, decodeEntry platform deviceUid m total (48, {}) =
      .inl (48 + 16, { memorySize := memorySize }) :=
    decodeEntry_partition_success hpartition hmin hlt hlookup
  obtain ⟨memorySize, hfirst⟩ := hfirst
  have hend : ∀ decoded, decodeEntry platform deviceUid m total (total, decoded) =
      .inr (.success, decoded) := by
    intro decoded
    unfold decodeEntry
    dsimp only
    rw [if_neg (Nat.lt_irrefl _)]
  have hwalk : ∀ fuel, configInputTableToConfigGoal (fuel + 1) platform deviceUid m
      TableKind.configInput.structSize total {} = runLoop (decodeEntry platform deviceUid m total)
        fuel (64, { memorySize := memorySize }) :=
    fun fuel => runLoop_succ_of_inl hfirst fuel
  subst hrevision
  -- by the number of sets: each of them finds a free slot
  cases htables with
  | none =>
    obtain rfl : 64 = total := htotal
    exact ⟨_, 2, (hwalk 1).trans (runLoop_succ_of_inr (hend _) 0)⟩
  | @one devices _ hdevices =>
    have hlength : total = 64 + (24 + 48 * devices.length) := by
      rw [← htotal, ConfigInputTable.length, List.map_singleton, List.sum_singleton, firstTable,
        length_tableOfSet]
      rfl
    rw [List.flatMap_singleton] at hsets
    obtain ⟨decoded, hset, -⟩ := decodeEntry_set_success deviceUid { memorySize := memorySize }
      hdevices hsets hlength.ge hlt rfl
    rw [← hlength] at hset
    exact ⟨decoded, 3, (hwalk 2).trans ((runLoop_succ_of_inl hset 1).trans
      (runLoop_succ_of_inr (hend _) 0))⟩
  | @two devices₁ devices₂ _ hdevices₁ hdevices₂ =>
    have hlength : total = 64 + (24 + 48 * devices₁.length) + (24 + 48 * devices₂.length) := by
      rw [← htotal, ConfigInputTable.length, List.map_cons, List.map_singleton, List.sum_cons,
        List.sum_singleton, firstTable, secondTable, length_tableOfSet, length_tableOfSet,
        TableKind.structSize, partitionSizeChangeTableSize]
      omega
    rw [List.flatMap_cons, List.flatMap_singleton, holds_append, firstTable,
      length_bytes_tableOfSet] at hsets
    obtain ⟨decoded, hset, hfree⟩ := decodeEntry_set_success deviceUid
      { memorySize := memorySize } hdevices₁ hsets.1 (by omega) hlt rfl
    obtain ⟨decoded', hset', -⟩ := decodeEntry_set_success deviceUid decoded hdevices₂ hsets.2
      hlength.ge hlt (hfree rfl)
    rw [← hlength] at hset'
    exact ⟨decoded', 4, (hwalk 3).trans ((runLoop_succ_of_inl hset 2).trans
      ((runLoop_succ_of_inl hset' 1).trans (runLoop_succ_of_inr (hend _) 0)))⟩

end Goal

end IxpDimm
