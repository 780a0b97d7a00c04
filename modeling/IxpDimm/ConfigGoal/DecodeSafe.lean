import IxpDimm.ConfigGoal.Decode
import IxpDimm.PlatformConfig.Walk

/-!
# The memory that decoding a config input table accesses

`config_input_table_to_config_goal` walks over the extension tables that
`is_extension_table_list_valid` has accepted, and over the DIMMs of the App Direct interleave tables.
What a pass of the walk reads is given by ranges of bytes of the table, and what it writes by indices
of the array `dimms` of an App Direct set; both follow the passes of the decoding.

The walk ends, since it goes through the offsets at which the list was checked.  But the check looks
at nothing but the lengths.  A table can be too short for its fields, the loop over the DIMMs compares
the start of a record with the end of the table, and it writes as many uids as the table says
(`decodeSafe_iff`).
-/

namespace IxpDimm

open Foundation

/-! ### What is read -/

/-- Bytes of the table, by the distance of the first of them from its start. -/
structure ByteRange where
  /-- The distance. -/
  start : ℤ
  /-- The number of bytes. -/
  length : ℕ
  deriving DecidableEq

/-- The bytes are within the table. -/
structure ByteRange.Inside (range : ByteRange) (tableLength : ℕ) : Prop where
  /-- They are not before the table. -/
  nonneg : 0 ≤ range.start
  /-- They are not behind the table. -/
  le_length : range.start + range.length ≤ tableLength

/-- The bytes of a field at a place of the table. -/
def bytesAt (a n : ℕ) : ByteRange := ⟨a, n⟩

/-- A 32-bit offset that is kept in an `int`. -/
def intOffset (offset : ℕ) : ℤ := if offset < 2 ^ 31 then offset else offset - 2 ^ 32

/-- How many bytes `cmp_bytes` looks at: up to the first that differs. -/
def cmpBytesReads (bytes1 bytes2 : Bytes) (len : ℕ) : ℕ :=
  min len (((List.range len).takeWhile fun i => bytes1 i == bytes2 i).length + 1)

/-- How far into a record the comparison with a device reads. -/
def deviceReads (device : DeviceDiscovery) (dimm : Bytes) : ℕ :=
  if !cmpBytes (ofList device.manufacturer.toList) dimm 2 then
    cmpBytesReads (ofList device.manufacturer.toList) dimm 2
  else if !cmpBytes (ofList device.serialNumber.toList) (view dimm 2) 4 then
    2 + cmpBytesReads (ofList device.serialNumber.toList) (view dimm 2) 4
  else 6 + cmpBytesReads (ofList device.partNumber.toList) (view dimm 6) 20

/-- How far into a record `lookup_dev_manufacturer_serial_part` reads: up to the first device that
matches. -/
def devicesReads (dimm : Bytes) : List DeviceDiscovery → ℕ
  | [] => 0
  | device :: devices =>
    max (deviceReads device dimm)
      (if cmpBytes (ofList device.manufacturer.toList) dimm 2 &&
        cmpBytes (ofList device.serialNumber.toList) (view dimm 2) 4 &&
        cmpBytes (ofList device.partNumber.toList) (view dimm 6) 20 then 0
      else devicesReads dimm devices)

/-- How far into a record `get_device_uid_from_dimm_interleave_info_table` reads.  When no device
matches, the serial number is read for the log. -/
def identifierReads (platform : Platform) (dimm : Bytes) (revision : UInt8) : ℕ :=
  if revision = 1 then
    match platform.getDevices with
    | .error _ => 6
    | .ok devices =>
      match lookupDevManufacturerSerialPart platform dimm (view dimm 2) (view dimm 6) with
      | .ok _ => devicesReads dimm devices
      | .error _ => max 6 (devicesReads dimm devices)
  else 9

/-- How far into the record at an offset the loop over the DIMMs reads: to the end of the size when
the record is that of the device. -/
def recordReads (platform : Platform) (deviceUid : Uid) (table : Bytes) (setOffset : ℕ) (old : Uid) :
    ℕ :=
  let dimm := view table setOffset
  let uid := getDeviceUidFromDimmInterleaveInfoTable platform dimm (headerRevision table) old
  if uidCmp uid deviceUid then dimmInfoTableSize
  else identifierReads platform dimm (headerRevision table)

/-- What the loop over the DIMMs reads, with `n` of them left: the revision of the table and the
record, for each of them. -/
def dimmsReads (platform : Platform) (deviceUid : Uid) (table : Bytes) (tableLength : ℕ) :
    ℕ → ℕ → ℕ → List Uid → List ByteRange
  | 0, _, _, _ => []
  | n + 1, i, setOffset, dimms =>
    if setOffset > tableLength then []
    else
      let uid := getDeviceUidFromDimmInterleaveInfoTable platform (view table setOffset)
        (headerRevision table) (dimms.getD i [])
      bytesAt 8 1 :: ⟨intOffset setOffset,
        recordReads platform deviceUid table setOffset (dimms.getD i [])⟩ ::
        dimmsReads platform deviceUid table tableLength n (i + 1) (setOffset + dimmInfoTableSize)
          (setEntry dimms i uid)

/-- The uids in the set that an App Direct interleave table is decoded to. -/
def nextDimms (goal : ConfigGoal) : List Uid :=
  if goal.appDirect1Size ≠ 0 then goal.appDirect2Settings.dimms else goal.appDirect1Settings.dimms

/-- The goal has two App Direct sets with a size. -/
def BothSets (goal : ConfigGoal) : Prop := goal.appDirect1Size ≠ 0 ∧ goal.appDirect2Size ≠ 0

instance (goal : ConfigGoal) : Decidable (BothSets goal) := inferInstanceAs (Decidable (_ ∧ _))

/-- What is read of an App Direct interleave table: the index, the mirroring, the format, the number
of DIMMs, and the DIMMs. -/
def appDirectReads (platform : Platform) (deviceUid : Uid) (table : Bytes)
    (tableLength offset : ℕ) (goal : ConfigGoal) : List ByteRange :=
  if BothSets goal then []
  else
    [bytesAt (offset + 4) 2, bytesAt (offset + 12) 1, bytesAt (offset + 8) 4,
        bytesAt (offset + 6) 1] ++
      dimmsReads platform deviceUid table tableLength (table (offset + 6)).toNat 0
        ((offset + interleaveInfoTableSize) % 2 ^ 32) (nextDimms goal)

/-- What is read of an extension table behind its header. -/
def extensionReads (platform : Platform) (deviceUid : Uid) (table : Bytes)
    (tableLength offset : ℕ) (goal : ConfigGoal) : List ByteRange :=
  if extensionType table offset = partitionChangeTable then
    match lookupDevUid platform deviceUid with
    | .error _ => []
    | .ok _ => [bytesAt (offset + 8) 8]
  else if extensionType table offset = interleaveTable then
    bytesAt (offset + 7) 1 ::
      if table (offset + 7) = interleaveMemoryTypeAppDirect then
        appDirectReads platform deviceUid table tableLength offset goal
      else []
  else []

/-- What a pass of the walk reads: the length, the type, and the rest of the extension table. -/
def passReads (platform : Platform) (deviceUid : Uid) (table : Bytes) (tableLength : ℕ) :
    ℕ × ConfigGoal → List ByteRange
  | (offset, goal) =>
    if offset < tableLength then
      bytesAt (offset + 2) 2 ::
        if (offset + extensionLength table offset) % 2 ^ 32 > tableLength then []
        else bytesAt offset 2 :: extensionReads platform deviceUid table tableLength offset goal
    else []

/-! ### What is written -/

/-- The entries of `dimms` that the loop over the DIMMs writes. -/
def dimmsWrites (tableLength : ℕ) : ℕ → ℕ → ℕ → List ℕ
  | 0, _, _ => []
  | n + 1, i, setOffset =>
    if setOffset > tableLength then []
    else i :: dimmsWrites tableLength n (i + 1) (setOffset + dimmInfoTableSize)

/-- The entries of `dimms` that a pass of the walk writes. -/
def passWrites (table : Bytes) (tableLength : ℕ) : ℕ × ConfigGoal → List ℕ
  | (offset, goal) =>
    if offset < tableLength ∧
        ¬ (offset + extensionLength table offset) % 2 ^ 32 > tableLength ∧
        extensionType table offset = interleaveTable ∧
        table (offset + 7) = interleaveMemoryTypeAppDirect ∧ ¬ BothSets goal then
      dimmsWrites tableLength (table (offset + 6)).toNat 0
        ((offset + interleaveInfoTableSize) % 2 ^ 32)
    else []

/-! ### Safety -/

/-- The decoding of a table of `tableLength` bytes ends, reads bytes of the table only, writes entries
of `dimms` that exist, and counts at most two App Direct sets. -/
structure DecodeSafe (platform : Platform) (deviceUid : Uid) (table : Bytes)
    (extTableOffset tableLength : ℕ) (goal : ConfigGoal) : Prop where
  /-- The walk ends. -/
  terminates : ∃ r, Returns (fun fuel => configInputTableToConfigGoal fuel platform deviceUid table
    extTableOffset tableLength goal) r
  /-- Every pass reads within the table. -/
  reads : ∀ s, LoopReaches (decodeEntry platform deviceUid table tableLength) (extTableOffset, goal) s →
    ∀ range ∈ passReads platform deviceUid table tableLength s, range.Inside tableLength
  /-- Every pass writes within the array. -/
  writes : ∀ s, LoopReaches (decodeEntry platform deviceUid table tableLength)
    (extTableOffset, goal) s → ∀ i ∈ passWrites table tableLength s, i < nvmMaxDevicesPerPool
  /-- There are at most two sets, unless none is decoded. -/
  sets : ∀ r, Returns (fun fuel => configInputTableToConfigGoal fuel platform deviceUid table
    extTableOffset tableLength goal) r →
      r.2.appDirectCount = goal.appDirectCount ∨ r.2.appDirectCount ≤ 2

/-- How many records the loop over the DIMMs visits: those that start at the end of the table at
last. -/
def visitedRecords (tableLength n setOffset : ℕ) : ℕ :=
  if setOffset > tableLength then 0 else min n ((tableLength - setOffset) / dimmInfoTableSize + 1)

/-- The records that are visited are within the table as far as they are read, and there are entries
for them. -/
structure RecordsInside (platform : Platform) (deviceUid : Uid) (table : Bytes)
    (tableLength count start : ℕ) (dimms : List Uid) : Prop where
  /-- There is an entry for each of them. -/
  entries : visitedRecords tableLength count start ≤ nvmMaxDevicesPerPool
  /-- Their offsets fit in an `int`. -/
  offsets : ∀ k < visitedRecords tableLength count start, start + dimmInfoTableSize * k < 2 ^ 31
  /-- A last record that is cut off is not read beyond the end. -/
  cutOff : start ≤ tableLength → (tableLength - start) / dimmInfoTableSize < count →
    recordReads platform deviceUid table
      (start + dimmInfoTableSize * ((tableLength - start) / dimmInfoTableSize))
      (dimms.getD ((tableLength - start) / dimmInfoTableSize) []) ≤
        (tableLength - start) % dimmInfoTableSize

/-- An extension table has the fields that are read of it within the table. -/
structure ExtensionInside (platform : Platform) (deviceUid : Uid) (table : Bytes)
    (tableLength offset : ℕ) (goal : ConfigGoal) : Prop where
  /-- The header. -/
  header : offset + 4 ≤ tableLength
  /-- The size of the partition, for a device that is known. -/
  partitionSize : extensionType table offset = partitionChangeTable →
    (∃ discovery, lookupDevUid platform deviceUid = .ok discovery) → offset + 16 ≤ tableLength
  /-- The memory type of an interleave table. -/
  memoryType : extensionType table offset = interleaveTable → offset + 8 ≤ tableLength
  /-- The other fields of an App Direct interleave table, unless there are two sets already. -/
  fields : extensionType table offset = interleaveTable →
    table (offset + 7) = interleaveMemoryTypeAppDirect → ¬ BothSets goal → offset + 13 ≤ tableLength
  /-- Its DIMMs. -/
  records : extensionType table offset = interleaveTable →
    table (offset + 7) = interleaveMemoryTypeAppDirect → ¬ BothSets goal →
    RecordsInside platform deviceUid table tableLength (table (offset + 6)).toNat
      ((offset + interleaveInfoTableSize) % 2 ^ 32) (nextDimms goal)

/-! ### The records -/

/-- An overwritten entry leaves those behind it. -/
private theorem getD_setEntry (dimms : List Uid) (i : ℕ) (uid : Uid) {j : ℕ} (hj : i < j) :
    (setEntry dimms i uid).getD j [] = dimms.getD j [] := by
  unfold setEntry
  split_ifs with hlt
  · rw [List.getD_eq_getElem?_getD, List.getD_eq_getElem?_getD, List.getElem?_set_ne hj.ne]
  · have hlength : (dimms ++ List.replicate (i - dimms.length) [] ++ [uid]).length ≤ j := by
      simp only [List.length_append, List.length_replicate, List.length_singleton]
      omega
    rw [List.getD_eq_default _ _ hlength, List.getD_eq_default _ _ (by omega)]

/-- `cmp_bytes` looks at no more bytes than it is told to. -/
private theorem cmpBytesReads_le (bytes1 bytes2 : Bytes) (len : ℕ) :
    cmpBytesReads bytes1 bytes2 len ≤ len := Nat.min_le_left _ _

/-- The comparison with a device reads the identifier at most. -/
private theorem deviceReads_le (device : DeviceDiscovery) (dimm : Bytes) :
    deviceReads device dimm ≤ 26 := by
  have hmanufacturer := cmpBytesReads_le (ofList device.manufacturer.toList) dimm 2
  have hserial := cmpBytesReads_le (ofList device.serialNumber.toList) (view dimm 2) 4
  have hpart := cmpBytesReads_le (ofList device.partNumber.toList) (view dimm 6) 20
  unfold deviceReads
  split_ifs
  · omega
  · omega
  · omega

/-- The comparison with all devices reads the identifier at most. -/
private theorem devicesReads_le (dimm : Bytes) (devices : List DeviceDiscovery) :
    devicesReads dimm devices ≤ 26 := by
  induction devices with
  | nil => exact Nat.zero_le _
  | cons device devices ih =>
    refine max_le (deviceReads_le device dimm) ?_
    split_ifs
    · exact Nat.zero_le _
    · exact ih

/-- A record is read to its end at most. -/
private theorem recordReads_le (platform : Platform) (deviceUid : Uid) (table : Bytes)
    (setOffset : ℕ) (old : Uid) :
    recordReads platform deviceUid table setOffset old ≤ dimmInfoTableSize := by
  have hidentifier : identifierReads platform (view table setOffset) (headerRevision table) ≤ 26 := by
    unfold identifierReads
    split_ifs
    · split
      · norm_num
      · split
        · exact devicesReads_le _ _
        · exact max_le (by norm_num) (devicesReads_le _ _)
    · norm_num
  unfold recordReads
  dsimp only
  split_ifs
  · exact le_rfl
  · exact hidentifier.trans (by decide)

/-- One more record is visited when the first one starts within the table. -/
private theorem visitedRecords_succ (tableLength n setOffset : ℕ) :
    visitedRecords tableLength (n + 1) setOffset =
      if setOffset > tableLength then 0
      else visitedRecords tableLength n (setOffset + dimmInfoTableSize) + 1 := by
  unfold visitedRecords dimmInfoTableSize
  split_ifs with hout hnext
  · rfl
  · omega
  · omega

/-- A range from an offset on is within the table when the offset fits in an `int`. -/
private theorem inside_intOffset {tableLength setOffset n : ℕ} (hlt : tableLength < 2 ^ 32)
    (hle : setOffset ≤ tableLength) :
    (⟨intOffset setOffset, n⟩ : ByteRange).Inside tableLength ↔
      setOffset < 2 ^ 31 ∧ setOffset + n ≤ tableLength := by
  unfold intOffset
  split_ifs with hint
  · constructor
    · rintro ⟨-, hend⟩
      dsimp only at hend
      exact ⟨hint, by omega⟩
    · rintro ⟨-, hend⟩
      exact ⟨by dsimp only; omega, by dsimp only; omega⟩
  · refine iff_of_false ?_ fun h => hint h.1
    rintro ⟨hstart, -⟩
    dsimp only at hstart
    omega

/-- A field is within the table when its end is. -/
private theorem inside_bytesAt {tableLength a n : ℕ} :
    (bytesAt a n).Inside tableLength ↔ a + n ≤ tableLength := by
  unfold bytesAt
  constructor
  · rintro ⟨-, hend⟩
    dsimp only at hend
    omega
  · intro hend
    exact ⟨by dsimp only; omega, by dsimp only; omega⟩

section
variable {platform : Platform} {deviceUid : Uid} {table : Bytes} {tableLength : ℕ}

/-- What the loop over the DIMMs reads is within the table when every record is that it visits. -/
private theorem dimmsReads_inside_iff (hrevision : 9 ≤ tableLength) (hlt : tableLength < 2 ^ 32)
    (n i setOffset : ℕ) (dimms : List Uid) :
    (∀ range ∈ dimmsReads platform deviceUid table tableLength n i setOffset dimms,
      range.Inside tableLength) ↔
    ∀ k < visitedRecords tableLength n setOffset, setOffset + dimmInfoTableSize * k < 2 ^ 31 ∧
      setOffset + dimmInfoTableSize * k + recordReads platform deviceUid table
        (setOffset + dimmInfoTableSize * k) (dimms.getD (i + k) []) ≤ tableLength := by
  induction n generalizing i setOffset dimms with
  | zero =>
    have hnone : visitedRecords tableLength 0 setOffset = 0 := by
      unfold visitedRecords
      split_ifs
      · rfl
      · exact Nat.zero_min _
    rw [dimmsReads, hnone]
    exact iff_of_true (List.forall_mem_nil _) fun k hk => absurd hk (Nat.not_lt_zero k)
  | succ n ih =>
    rw [visitedRecords_succ, dimmsReads]
    split_ifs with hout
    · exact iff_of_true (List.forall_mem_nil _) fun k hk => absurd hk (Nat.not_lt_zero k)
    · have hone : (bytesAt 8 1).Inside tableLength := inside_bytesAt.mpr hrevision
      dsimp only
      rw [List.forall_mem_cons, List.forall_mem_cons, inside_intOffset hlt (not_lt.mp hout), ih,
        and_iff_right hone]
      -- the first record, and those behind it
      constructor
      · rintro ⟨hfirst, hrest⟩ k hk
        cases k with
        | zero => exact hfirst
        | succ k =>
          have hrecord := hrest k (Nat.lt_of_succ_lt_succ hk)
          rw [getD_setEntry _ _ _ (by omega)] at hrecord
          have hoffset : setOffset + dimmInfoTableSize * (k + 1) =
              setOffset + dimmInfoTableSize + dimmInfoTableSize * k := by
            rw [Nat.mul_succ]
            omega
          have hindex : i + (k + 1) = i + 1 + k := by omega
          rw [hoffset, hindex]
          exact hrecord
      · intro h
        refine ⟨h 0 (Nat.succ_pos _), fun k hk => ?_⟩
        have hrecord := h (k + 1) (Nat.succ_lt_succ hk)
        rw [getD_setEntry _ _ _ (by omega)]
        have hoffset : setOffset + dimmInfoTableSize * (k + 1) =
            setOffset + dimmInfoTableSize + dimmInfoTableSize * k := by
          rw [Nat.mul_succ]
          omega
        have hindex : i + (k + 1) = i + 1 + k := by omega
        rw [hoffset, hindex] at hrecord
        exact hrecord

/-- The entries that the loop over the DIMMs writes are consecutive. -/
private theorem dimmsWrites_eq (n i setOffset : ℕ) :
    dimmsWrites tableLength n i setOffset =
      List.range' i (visitedRecords tableLength n setOffset) := by
  induction n generalizing i setOffset with
  | zero =>
    have hnone : visitedRecords tableLength 0 setOffset = 0 := by
      unfold visitedRecords
      split_ifs
      · rfl
      · exact Nat.zero_min _
    rw [hnone]
    rfl
  | succ n ih =>
    rw [dimmsWrites, visitedRecords_succ]
    split_ifs
    · rfl
    · rw [ih, List.range'_succ]

/-- The loop over the DIMMs is safe exactly under the condition on its records. -/
private theorem recordsInside_iff (hrevision : 9 ≤ tableLength) (hlt : tableLength < 2 ^ 32)
    (n setOffset : ℕ) (dimms : List Uid) :
    ((∀ range ∈ dimmsReads platform deviceUid table tableLength n 0 setOffset dimms,
        range.Inside tableLength) ∧
      ∀ i ∈ dimmsWrites tableLength n 0 setOffset, i < nvmMaxDevicesPerPool) ↔
    RecordsInside platform deviceUid table tableLength n setOffset dimms := by
  rw [dimmsReads_inside_iff hrevision hlt, dimmsWrites_eq]
  simp only [Nat.zero_add]
  constructor
  · rintro ⟨hreads, hwrites⟩
    refine ⟨?_, fun k hk => (hreads k hk).1, fun hstart hcut => ?_⟩
    · by_contra hmany
      have hlast := hwrites nvmMaxDevicesPerPool (List.mem_range'_1.mpr ⟨Nat.zero_le _, by omega⟩)
      exact absurd hlast (lt_irrefl _)
    · have hvisited : (tableLength - setOffset) / dimmInfoTableSize <
          visitedRecords tableLength n setOffset := by
        unfold visitedRecords
        rw [if_neg (not_lt.mpr hstart)]
        omega
      have hread := (hreads _ hvisited).2
      have hdiv := Nat.div_add_mod (tableLength - setOffset) dimmInfoTableSize
      omega
  · rintro ⟨hentries, hoffsets, hcut⟩
    refine ⟨fun k hk => ⟨hoffsets k hk, ?_⟩, fun i hi => ?_⟩
    · have hstart : setOffset ≤ tableLength := by
        by_contra hout
        unfold visitedRecords at hk
        rw [if_pos (not_le.mp hout)] at hk
        exact absurd hk (Nat.not_lt_zero k)
      unfold visitedRecords at hk
      rw [if_neg (not_lt.mpr hstart), Nat.lt_min, Nat.lt_succ_iff] at hk
      have hdiv := Nat.div_add_mod (tableLength - setOffset) dimmInfoTableSize
      rcases Nat.lt_or_ge k ((tableLength - setOffset) / dimmInfoTableSize) with hbefore | hlast
      · -- a record before the last one is all there
        have hread := recordReads_le platform deviceUid table
          (setOffset + dimmInfoTableSize * k) (dimms.getD k [])
        have hnext := Nat.mul_le_mul_left dimmInfoTableSize hbefore
        rw [Nat.mul_succ] at hnext
        omega
      · obtain rfl : k = (tableLength - setOffset) / dimmInfoTableSize := le_antisymm hk.2 hlast
        have hread := hcut hstart hk.1
        omega
    · have hlt := (List.mem_range'_1.mp hi).2
      omega

/-! ### A pass -/

/-- A pass over an extension table within the list is safe exactly when the table has its fields. -/
private theorem pass_safe_iff (hrevision : 9 ≤ tableLength) (hlt : tableLength < 2 ^ 32)
    {offset : ℕ} {goal : ConfigGoal} (hoffset : offset < tableLength)
    (hnext : (offset + extensionLength table offset) % 2 ^ 32 ≤ tableLength) :
    ((∀ range ∈ passReads platform deviceUid table tableLength (offset, goal),
        range.Inside tableLength) ∧
      ∀ i ∈ passWrites table tableLength (offset, goal), i < nvmMaxDevicesPerPool) ↔
    ExtensionInside platform deviceUid table tableLength offset goal := by
  have hstay : ¬ (offset + extensionLength table offset) % 2 ^ 32 > tableLength := not_lt.mpr hnext
  have hwrites : passWrites table tableLength (offset, goal) =
      if extensionType table offset = interleaveTable ∧
        table (offset + 7) = interleaveMemoryTypeAppDirect ∧ ¬ BothSets goal then
          dimmsWrites tableLength (table (offset + 6)).toNat 0
            ((offset + interleaveInfoTableSize) % 2 ^ 32)
      else [] := by
    rw [passWrites]
    simp only [hoffset, hstay, true_and, not_false_eq_true]
  rw [passReads, if_pos hoffset, if_neg hstay, List.forall_mem_cons, List.forall_mem_cons,
    inside_bytesAt, inside_bytesAt, hwrites]
  unfold extensionReads
  by_cases hpartition : extensionType table offset = partitionChangeTable
  · have hother : extensionType table offset ≠ interleaveTable := by
      rw [hpartition]
      decide
    rw [if_pos hpartition, if_neg fun h => hother h.1]
    cases hlookup : lookupDevUid platform deviceUid with
    | error rc =>
      constructor
      · rintro ⟨⟨hlength, -⟩, -⟩
        refine ⟨hlength, fun _ ⟨d, hd⟩ => ?_, fun h => absurd h hother, fun h => absurd h hother,
          fun h => absurd h hother⟩
        rw [hlookup] at hd
        cases hd
      · intro h
        have hheader := h.header
        exact ⟨⟨hheader, by omega, List.forall_mem_nil _⟩, List.forall_mem_nil _⟩
    | ok discovery =>
      dsimp only
      rw [List.forall_mem_singleton, inside_bytesAt]
      constructor
      · rintro ⟨⟨hlength, -, hsize⟩, -⟩
        exact ⟨hlength, fun _ _ => hsize, fun h => absurd h hother, fun h => absurd h hother,
          fun h => absurd h hother⟩
      · intro h
        have hheader := h.header
        exact ⟨⟨hheader, by omega, h.partitionSize hpartition ⟨discovery, hlookup⟩⟩,
          List.forall_mem_nil _⟩
  by_cases hinterleave : extensionType table offset = interleaveTable
  · rw [if_neg hpartition, if_pos hinterleave, List.forall_mem_cons, inside_bytesAt]
    by_cases happDirect : table (offset + 7) = interleaveMemoryTypeAppDirect
    · rw [if_pos happDirect]
      unfold appDirectReads
      by_cases hboth : BothSets goal
      · rw [if_pos hboth, if_neg fun h => h.2.2 hboth]
        constructor
        · rintro ⟨⟨hlength, -, htype, -⟩, -⟩
          exact ⟨hlength, fun h => absurd h hpartition, fun _ => htype,
            fun _ _ h => absurd hboth h, fun _ _ h => absurd hboth h⟩
        · intro h
          have hheader := h.header
          exact ⟨⟨hheader, by omega, h.memoryType hinterleave, List.forall_mem_nil _⟩,
            List.forall_mem_nil _⟩
      · have hrecords := @recordsInside_iff platform deviceUid table tableLength hrevision
          hlt (table (offset + 6)).toNat
          ((offset + interleaveInfoTableSize) % 2 ^ 32) (nextDimms goal)
        rw [if_neg hboth, if_pos ⟨hinterleave, happDirect, hboth⟩, List.forall_mem_append,
          List.forall_mem_cons, List.forall_mem_cons, List.forall_mem_cons,
          List.forall_mem_singleton, inside_bytesAt, inside_bytesAt, inside_bytesAt,
          inside_bytesAt]
        constructor
        · rintro ⟨⟨hlength, -, htype, ⟨-, hmirror, -⟩, hreads⟩, hwritten⟩
          exact ⟨hlength, fun h => absurd h hpartition, fun _ => htype, fun _ _ _ => hmirror,
            fun _ _ _ => hrecords.mp ⟨hreads, hwritten⟩⟩
        · intro h
          have hheader := h.header
          have hfields := h.fields hinterleave happDirect hboth
          obtain ⟨hreads, hwritten⟩ := hrecords.mpr (h.records hinterleave happDirect hboth)
          exact ⟨⟨hheader, by omega, h.memoryType hinterleave,
            ⟨by omega, hfields, by omega, by omega⟩, hreads⟩, hwritten⟩
    · rw [if_neg happDirect, if_neg fun h => happDirect h.2.1]
      constructor
      · rintro ⟨⟨hlength, -, htype, -⟩, -⟩
        exact ⟨hlength, fun h => absurd h hpartition, fun _ => htype,
          fun _ h => absurd h happDirect, fun _ h => absurd h happDirect⟩
      · intro h
        have hheader := h.header
        exact ⟨⟨hheader, by omega, h.memoryType hinterleave, List.forall_mem_nil _⟩,
          List.forall_mem_nil _⟩
  · rw [if_neg hpartition, if_neg hinterleave, if_neg fun h => hinterleave h.1]
    constructor
    · rintro ⟨⟨hlength, -⟩, -⟩
      exact ⟨hlength, fun h => absurd h hpartition, fun h => absurd h hinterleave,
        fun h => absurd h hinterleave, fun h => absurd h hinterleave⟩
    · intro h
      have hheader := h.header
      exact ⟨⟨hheader, by omega, List.forall_mem_nil _⟩, List.forall_mem_nil _⟩

/-! ### The walk -/

/-- A list that is accepted is walked through. -/
private theorem exists_runLoop_of_accepted {m : Bytes} {length : ℕ}
    (h : Returns (fun fuel => isExtensionTableListValid fuel m length) true) :
    ∃ fuel, runLoop (listEntry m length) fuel 0 = some true := by
  obtain ⟨fuel, hfuel⟩ := h
  dsimp only at hfuel
  unfold isExtensionTableListValid at hfuel
  split_ifs at hfuel with hpos
  · exact ⟨fuel, hfuel⟩
  · exact ⟨1, runLoop_succ_of_inr (listEntry_of_le (not_lt.mp hpos)) 0⟩

/-- The walk through a list that is accepted goes on before the end. -/
private theorem listEntry_goes_on {m : Bytes} {length fuel start t : ℕ}
    (hrun : runLoop (listEntry m length) fuel start = some true)
    (hreach : LoopReaches (listEntry m length) start t) (ht : t < length) :
    ∃ u, listEntry m length t = .inl u := by
  cases hstep : listEntry m length t with
  | inl u => exact ⟨u, rfl⟩
  | inr valid =>
    exfalso
    obtain ⟨fuel', hrun'⟩ := runLoop_of_reaches hreach (runLoop_succ_of_inr hstep 0)
    obtain rfl := runLoop_unique hrun hrun'
    unfold listEntry at hstep
    split_ifs at hstep
    · cases hstep
    · cases hstep

/-- A pass of the decoding goes to the entry that the check of the list goes to. -/
private theorem next_of_listEntry {extTableOffset t u : ℕ} (hle : extTableOffset ≤ tableLength)
    (hlt : tableLength < 2 ^ 32)
    (hstep : listEntry (view table extTableOffset) (tableLength - extTableOffset) t = .inl u) :
    (extTableOffset + t + extensionLength table (extTableOffset + t)) % 2 ^ 32 =
        extTableOffset + u ∧ extTableOffset + u ≤ tableLength := by
  obtain ⟨-, -, hu, hnext⟩ := listEntry_inl_iff.mp hstep
  have hlength : extensionLength (view table extTableOffset) t =
      extensionLength table (extTableOffset + t) := readLE_view _ _ _ _
  rw [hlength] at hnext
  omega

/-- The decoding is at the offsets that the check of the list comes through. -/
private theorem reaches_list {extTableOffset fuel : ℕ} (hle : extTableOffset ≤ tableLength)
    (hlt : tableLength < 2 ^ 32)
    (hrun : runLoop (listEntry (view table extTableOffset) (tableLength - extTableOffset)) fuel 0 =
      some true) {goal : ConfigGoal} {s : ℕ × ConfigGoal}
    (hreach : LoopReaches (decodeEntry platform deviceUid table tableLength)
      (extTableOffset, goal) s) :
    ∃ t, s.1 = extTableOffset + t ∧
      LoopReaches (listEntry (view table extTableOffset) (tableLength - extTableOffset)) 0 t := by
  induction hreach with
  | refl => exact ⟨0, rfl, .refl⟩
  | @tail s s' _ hstep ih =>
    obtain ⟨t, ht, hlist⟩ := ih
    obtain ⟨offset, goal⟩ := s
    dsimp only at ht
    subst ht
    unfold decodeEntry at hstep
    dsimp only at hstep
    split_ifs at hstep with hin hout
    obtain ⟨u, hu⟩ := listEntry_goes_on hrun hlist (by omega)
    refine ⟨u, ?_, hlist.tail hu⟩
    rw [← (next_of_listEntry hle hlt hu).1]
    split at hstep
    · obtain rfl := Sum.inl.inj hstep
      rfl
    · cases hstep

/-- The decoding ends where the check of the list does. -/
private theorem loopHalts_decodeEntry {extTableOffset : ℕ} (hle : extTableOffset ≤ tableLength)
    (hlt : tableLength < 2 ^ 32) {fuel t : ℕ} {goal : ConfigGoal}
    (hrun : runLoop (listEntry (view table extTableOffset) (tableLength - extTableOffset)) fuel t =
      some true) :
    LoopHalts (decodeEntry platform deviceUid table tableLength) (extTableOffset + t, goal) := by
  induction fuel generalizing t goal with
  | zero => cases hrun
  | succ fuel ih =>
    cases hdecode : decodeEntry platform deviceUid table tableLength (extTableOffset + t, goal) with
    | inr r => exact ⟨1, r, runLoop_succ_of_inr hdecode 0⟩
    | inl s =>
      have hin : extTableOffset + t < tableLength := by
        unfold decodeEntry at hdecode
        dsimp only at hdecode
        split_ifs at hdecode with hin
        exact hin
      obtain ⟨u, hu⟩ := listEntry_goes_on hrun .refl (by omega)
      rw [runLoop_succ_of_inl hu] at hrun
      have hnext : s.1 = extTableOffset + u := by
        rw [← (next_of_listEntry hle hlt hu).1]
        unfold decodeEntry at hdecode
        dsimp only at hdecode
        split_ifs at hdecode
        split at hdecode
        · obtain rfl := Sum.inl.inj hdecode
          rfl
        · cases hdecode
      obtain ⟨fuel', r, hr⟩ := @ih _ s.2 hrun
      rw [← hnext] at hr
      exact ⟨fuel' + 1, r, by rwa [runLoop_succ_of_inl hdecode]⟩

/-- An App Direct interleave table leaves the number of sets as it is, or makes it one or two. -/
private theorem appDirectCount_decoded (offset : ℕ) (goal : ConfigGoal) :
    (decodeAppDirect platform deviceUid table tableLength offset goal).2.appDirectCount =
        goal.appDirectCount ∨
      (decodeAppDirect platform deviceUid table tableLength offset goal).2.appDirectCount ≤ 2 := by
  unfold decodeAppDirect
  dsimp only
  split_ifs
  · exact .inl rfl
  · exact .inr (UInt16.le_iff_toNat_le.mpr le_rfl)
  · exact .inr (UInt16.le_iff_toNat_le.mpr (Nat.le_succ 1))

/-- A partition size change table leaves the number of sets as it is. -/
private theorem appDirectCount_decodePartition (entry : Bytes) (goal : ConfigGoal) :
    (decodePartition platform deviceUid entry goal).2.appDirectCount = goal.appDirectCount := by
  unfold decodePartition
  split
  · rfl
  · rfl

/-- An extension table leaves the number of sets as it is, or makes it one or two. -/
private theorem appDirectCount_decodeExtension (offset : ℕ) (goal : ConfigGoal) :
    (decodeExtension platform deviceUid table tableLength offset goal).2.appDirectCount =
        goal.appDirectCount ∨
      (decodeExtension platform deviceUid table tableLength offset goal).2.appDirectCount ≤ 2 := by
  unfold decodeExtension
  dsimp only
  split_ifs
  · exact .inl (appDirectCount_decodePartition _ goal)
  · exact appDirectCount_decoded offset goal
  · exact .inl rfl
  · exact .inl rfl
  · exact .inl rfl

/-- The decoding leaves the number of sets as it is, or makes it one or two. -/
private theorem appDirectCount_of_run {extTableOffset fuel : ℕ} {goal : ConfigGoal}
    {r : ReturnCode × ConfigGoal}
    (h : runLoop (decodeEntry platform deviceUid table tableLength) fuel (extTableOffset, goal) =
      some r) : r.2.appDirectCount = goal.appDirectCount ∨ r.2.appDirectCount ≤ 2 := by
  have hstep : ∀ offset g, g.appDirectCount = goal.appDirectCount ∨ g.appDirectCount ≤ 2 →
      (decodeExtension platform deviceUid table tableLength offset g).2.appDirectCount =
          goal.appDirectCount ∨
        (decodeExtension platform deviceUid table tableLength offset g).2.appDirectCount ≤ 2 := by
    intro offset g hg
    rcases @appDirectCount_decodeExtension platform deviceUid table tableLength offset g with hsame | htwo
    · rw [hsame]
      exact hg
    · exact .inr htwo
  refine runLoop_rule (fun s => s.2.appDirectCount = goal.appDirectCount ∨ s.2.appDirectCount ≤ 2)
    (fun r => r.2.appDirectCount = goal.appDirectCount ∨ r.2.appDirectCount ≤ 2) ?_ ?_ (.inl rfl) h
  · rintro ⟨offset, g⟩ s' hg hpass
    have hext := hstep offset g hg
    unfold decodeEntry at hpass
    dsimp only at hpass
    split_ifs at hpass
    split at hpass
    · rename_i g' hdecode
      rw [hdecode] at hext
      obtain rfl := Sum.inl.inj hpass
      exact hext
    · cases hpass
  · rintro ⟨offset, g⟩ r hg hpass
    have hext := hstep offset g hg
    unfold decodeEntry at hpass
    dsimp only at hpass
    split_ifs at hpass
    · obtain rfl := Sum.inr.inj hpass
      exact hg
    · split at hpass
      · cases hpass
      · rename_i rc g' hdecode
        rw [hdecode] at hext
        obtain rfl := Sum.inr.inj hpass
        exact hext
    · obtain rfl := Sum.inr.inj hpass
      exact hg

end

/-- For a table whose extension tables `is_extension_table_list_valid` accepts: the decoding is safe
exactly when the fields that are read of every extension table it comes to are within the table. -/
theorem decodeSafe_iff (platform : Platform) (deviceUid : Uid) (kind : TableKind) (table : Bytes)
    (tableLength : ℕ) (goal : ConfigGoal) (hsize : kind.structSize ≤ tableLength)
    (hlt : tableLength < 2 ^ 32)
    (haccepted : Returns (fun fuel => isExtensionTableListValid fuel (extTables kind table)
      (tableLength - kind.structSize)) true) :
    DecodeSafe platform deviceUid table kind.structSize tableLength goal ↔
      ∀ offset g, LoopReaches (decodeEntry platform deviceUid table tableLength)
        (kind.structSize, goal) (offset, g) → offset < tableLength →
          ExtensionInside platform deviceUid table tableLength offset g := by
  obtain ⟨fuel, hrun⟩ := exists_runLoop_of_accepted haccepted
  have hrevision : 9 ≤ tableLength := by
    have hheader := kind.header_lt_structSize
    rw [configDataTableHeaderSize] at hheader
    omega
  -- before the end of the table the walk is at an extension table of the list
  have hpass : ∀ offset g, LoopReaches (decodeEntry platform deviceUid table tableLength)
      (kind.structSize, goal) (offset, g) → offset < tableLength →
      (offset + extensionLength table offset) % 2 ^ 32 ≤ tableLength := by
    intro offset g hreach hin
    obtain ⟨t, rfl, hlist⟩ := reaches_list hsize hlt hrun hreach
    obtain ⟨u, hu⟩ := listEntry_goes_on hrun hlist (by omega)
    obtain ⟨hnext, hle⟩ := next_of_listEntry hsize hlt hu
    rw [hnext]
    exact hle
  constructor
  · intro hsafe offset g hreach hin
    exact (pass_safe_iff hrevision hlt hin (hpass offset g hreach hin)).mp
      ⟨hsafe.reads _ hreach, hsafe.writes _ hreach⟩
  · intro hinside
    have hsafe : ∀ s, LoopReaches (decodeEntry platform deviceUid table tableLength)
        (kind.structSize, goal) s →
        (∀ range ∈ passReads platform deviceUid table tableLength s, range.Inside tableLength) ∧
          ∀ i ∈ passWrites table tableLength s, i < nvmMaxDevicesPerPool := by
      rintro ⟨offset, g⟩ hreach
      by_cases hin : offset < tableLength
      · exact (pass_safe_iff hrevision hlt hin (hpass offset g hreach hin)).mpr
          (hinside offset g hreach hin)
      · rw [passReads, if_neg hin, passWrites, if_neg fun h => hin h.1]
        exact ⟨List.forall_mem_nil _, List.forall_mem_nil _⟩
    refine ⟨?_, fun s hreach => (hsafe s hreach).1, fun s hreach => (hsafe s hreach).2, ?_⟩
    · obtain ⟨fuel', r, hr⟩ := @loopHalts_decodeEntry platform deviceUid _ _ _ hsize hlt _ _ goal
        hrun
      exact ⟨r, fuel', hr⟩
    · rintro r ⟨fuel', hr⟩
      exact appDirectCount_of_run hr

/-- A config input table with one App Direct interleave table of one DIMM, and so many bytes of its
record. -/
def oneDimmTable (recordBytes : ℕ) : Bytes :=
  ofList (List.replicate 48 0 ++ [5, 0, UInt8.ofNat (24 + recordBytes), 0, 0, 0, 1, 2] ++
    List.replicate (16 + recordBytes) 0)

/-- A platform without devices. -/
def emptyPlatform : Platform := ⟨.ok [], .ok 0⟩

/-- The table with all of the record is decoded within it. -/
theorem decodeSafe_oneDimm :
    DecodeSafe emptyPlatform [] (oneDimmTable 48) TableKind.configInput.structSize 120 {} := by
  refine (decodeSafe_iff emptyPlatform [] .configInput (oneDimmTable 48) 120 {} (by decide)
    (by decide) ⟨2, by decide⟩).mpr fun offset g hreach hin => ?_
  have hfirst : ∀ s, LoopReaches (decodeEntry emptyPlatform [] (oneDimmTable 48) 120) (48, {}) s →
      s = (48, {}) ∨ 120 ≤ s.1 := by
    intro s hs
    induction hs with
    | refl => exact .inl rfl
    | @tail t u _ hstep ih =>
      right
      rcases ih with rfl | hend
      · have hnext : ((decodeEntry emptyPlatform [] (oneDimmTable 48) 120
            (48, {})).getLeft?.map Prod.fst) = some 120 := by
          decide
        rw [hstep] at hnext
        exact (Option.some.inj hnext).ge
      · obtain ⟨o, g'⟩ := t
        rw [decodeEntry, if_neg (not_lt.mpr hend)] at hstep
        cases hstep
  rcases hfirst _ hreach with hstart | hend
  · obtain ⟨rfl, rfl⟩ := Prod.mk.inj hstart
    exact ⟨by decide, fun h => absurd h (by decide), by decide, by decide,
      fun _ _ _ => ⟨by decide, by decide, fun _ h => absurd h (by decide)⟩⟩
  · exact absurd hin (not_lt.mpr hend)

/-- The table without the record is accepted, and the uid of the record is read behind it. -/
theorem not_decodeSafe_cutOff :
    ¬ ∀ (platform : Platform) (deviceUid : Uid) (table : Bytes) (tableLength : ℕ)
      (goal : ConfigGoal), TableKind.configInput.structSize ≤ tableLength → tableLength < 2 ^ 32 →
      Returns (fun fuel => isExtensionTableListValid fuel (extTables .configInput table)
        (tableLength - TableKind.configInput.structSize)) true →
      DecodeSafe platform deviceUid table TableKind.configInput.structSize tableLength goal := by
  intro h
  have hsafe := h emptyPlatform [] (oneDimmTable 0) 72 {} (by decide) (by decide) ⟨2, by decide⟩
  have hread : (⟨72, 9⟩ : ByteRange) ∈ passReads emptyPlatform [] (oneDimmTable 0) 72 (48, {}) := by
    decide
  have hinside := hsafe.reads _ .refl _ hread
  exact absurd hinside.le_length (by decide)

end IxpDimm
