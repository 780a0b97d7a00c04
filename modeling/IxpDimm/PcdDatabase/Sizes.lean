import IxpDimm.PcdDatabase.Database

/-!
# The places of what is built from the database

`get_dimm_platform_config_size_from_db` counts what `get_dimm_platform_config_data_from_db` writes.
Here are also the places where it is written (`placesFrom`): each table, interleave table and DIMM
has the address at which it ends, and the number that is compared with the size of the buffer before
it is written.  The two are not the same for partition size change tables and for DIMMs.
-/

namespace IxpDimm.PcdDatabase

open Foundation

/-! ### The size -/

section Size

variable (db : PcdDb) (handle : UInt32)

/-- The number of rows of the DIMMs of an interleave set, in the table for the revision. -/
def dimmRowCount (kind : TableKind) (row : DbDimmInterleaveSet) : ℕ :=
  if getTableRevision db handle kind = some 1 then
    (db.dimmInfosV1.filter (DbInterleaveSetDimmInfoV1.isOf handle row.indexId kind)).length
  else (db.dimmInfosV2.filter (DbInterleaveSetDimmInfoV2.isOf handle row.indexId kind)).length

/-- The loop over the interleave sets, without a buffer. -/
def countInterleaveSets (kind : TableKind) : List DbDimmInterleaveSet → ℕ → Except ReturnCode ℕ
  | [], rc => .ok rc
  | row :: rows, rc =>
    let dimmInfoSize := dimmInfoTableSize * dimmRowCount db handle kind row
    if dimmInfoSize / dimmInfoTableSize ≠ row.dimmCount then .error .errBadDeviceConfig
    else countInterleaveSets kind rows (rc + interleaveInfoTableSize + dimmInfoSize)

/-- The rows of the interleave sets of a sub-table. -/
def interleaveSetsOf (kind : TableKind) : List DbDimmInterleaveSet :=
  db.interleaveSets.filter (DbDimmInterleaveSet.isOf handle kind)

/-- `get_dimm_interleave_tables_from_db` without a buffer. -/
def getDimmInterleaveTablesSizeFromDb (kind : TableKind) : Except ReturnCode ℕ :=
  countInterleaveSets db handle kind (interleaveSetsOf db handle kind) 0

/-- `get_dimm_partition_table_from_db` without a buffer; it is not called for a current config. -/
def getDimmPartitionTableSizeFromDb (kind : TableKind) : ℕ :=
  if kind = .currentConfig then 0
  else
    match db.partitionChanges.find? (DbDimmPartitionChange.isOf handle kind) with
    | none => 0
    | some _ => partitionSizeChangeTableSize

/-- `get_dimm_current_config_size_from_db`, `get_dimm_config_input_size_from_db` and
`get_dimm_config_output_size_from_db`; the last takes the size of a config input, which is the
same. -/
def getDimmConfigTableSizeFromDb (kind : TableKind) : Except ReturnCode ℕ :=
  match configTableOf db handle kind with
  | none => .ok 0
  | some _ => do
    let interleaveTableSize ← getDimmInterleaveTablesSizeFromDb db handle kind
    pure (kind.structSize + getDimmPartitionTableSizeFromDb db handle kind + interleaveTableSize)

/-- `get_dimm_platform_config_size_from_db`. -/
def getDimmPlatformConfigSizeFromDb : Except ReturnCode ℕ :=
  match db.platformConfigs.find? fun row => row.deviceHandle == handle with
  | none => .ok 0
  | some _ => do
    let currentConfigSize ← getDimmConfigTableSizeFromDb db handle .currentConfig
    let configInputSize ← getDimmConfigTableSizeFromDb db handle .configInput
    let configOutputSize ← getDimmConfigTableSizeFromDb db handle .configOutput
    pure (platformConfigDataSize + currentConfigSize + configInputSize + configOutputSize)

end Size

/-! ### Places -/

/-- Where something is written to the buffer. -/
structure Place where
  /-- What the size of the buffer is compared with. -/
  checked : ℕ
  /-- The address behind it. -/
  stop : ℕ

/-- The first place that is not in the buffer, if there is one, is refused. -/
def RefusedInTime (size : ℕ) (places : List Place) : Prop :=
  ∀ before place after, places = before ++ place :: after → (∀ p ∈ before, p.stop ≤ size) →
    size < place.stop → size < place.checked

section Refused

variable {size : ℕ}

/-- Nothing is written. -/
theorem refusedInTime_nil : RefusedInTime size [] := by
  intro before place after h
  exact absurd h.symm (List.append_ne_nil_of_right_ne_nil before (List.cons_ne_nil place after))

/-- One place after another. -/
theorem refusedInTime_cons {place : Place} {places : List Place} :
    RefusedInTime size (place :: places) ↔ (size < place.stop → size < place.checked) ∧
      (place.stop ≤ size → RefusedInTime size places) := by
  constructor
  · intro h
    refine ⟨h [] place places rfl (List.forall_mem_nil _), fun hfits before p after heq hbefore => ?_⟩
    refine h (place :: before) p after ?_ (List.forall_mem_cons.mpr ⟨hfits, hbefore⟩)
    rw [heq, List.cons_append]
  · rintro ⟨hfirst, hrest⟩ before p after heq hbefore
    cases before with
    | nil =>
      obtain ⟨rfl, rfl⟩ := List.cons.inj heq
      exact hfirst
    | cons q before =>
      obtain ⟨rfl, rfl⟩ := List.cons.inj heq
      obtain ⟨hfits, hbefore⟩ := List.forall_mem_cons.mp hbefore
      exact hrest hfits before p after rfl hbefore

/-- Places behind places. -/
theorem refusedInTime_append {places places' : List Place} :
    RefusedInTime size (places ++ places') ↔ RefusedInTime size places ∧
      ((∀ p ∈ places, p.stop ≤ size) → RefusedInTime size places') := by
  induction places with
  | nil =>
    rw [List.nil_append, and_iff_right refusedInTime_nil]
    exact ⟨fun h _ => h, fun h => h (List.forall_mem_nil _)⟩
  | cons place places ih =>
    rw [List.cons_append, refusedInTime_cons, refusedInTime_cons, ih]
    simp only [List.forall_mem_cons]
    tauto

/-- Places that are in the buffer. -/
theorem refusedInTime_of_fits {places : List Place} (h : ∀ p ∈ places, p.stop ≤ size) :
    RefusedInTime size places := by
  rintro before place after rfl - hover
  exact absurd (h place (List.mem_append_right _ List.mem_cons_self)) (not_le.mpr hover)

end Refused

/-! ### The places of the data of a DIMM -/

/-- The places of DIMMs, with the size of those before them: `start` is the address of the first
DIMM, `length` the length of the data before the interleave tables of the sub-table. -/
def dimmPlaces (length start : ℕ) : ℕ → ℕ → List Place
  | 0, _ => []
  | n + 1, rc =>
    ⟨length + rc + dimmInfoTableSize, start + rc + dimmInfoTableSize⟩ ::
      dimmPlaces length start n (rc + dimmInfoTableSize)

/-- The places of interleave tables and their DIMMs behind data of some length, with the size of the
interleave tables before them.  They end with an interleave table that has another number of DIMMs
than it says. -/
def setPlaces (count : DbDimmInterleaveSet → ℕ) (length : ℕ) :
    List DbDimmInterleaveSet → ℕ → List Place
  | [], _ => []
  | row :: rows, rc =>
    let start := length + rc + interleaveInfoTableSize
    ⟨start, start⟩ :: dimmPlaces length start (count row) 0 ++
      if count row = row.dimmCount then
        setPlaces count length rows
          (rc + interleaveInfoTableSize + dimmInfoTableSize * count row)
      else []

section Places

variable (db : PcdDb) (handle : UInt32)

/-- The place of a partition size change table at an address, if there is one. -/
def partitionPlaces (kind : TableKind) (a : ℕ) : List Place :=
  if getDimmPartitionTableSizeFromDb db handle kind = 0 then []
  else [⟨a + 8, a + partitionSizeChangeTableSize⟩]

/-- The places of a sub-table at an address and its extension tables. -/
def tablePlaces (kind : TableKind) (a : ℕ) : List Place :=
  match configTableOf db handle kind with
  | none => []
  | some _ =>
    let behind := a + kind.structSize
    ⟨behind, behind⟩ :: partitionPlaces db handle kind behind ++
      setPlaces (dimmRowCount db handle kind)
        (behind + getDimmPartitionTableSizeFromDb db handle kind) (interleaveSetsOf db handle kind) 0

/-- The places of sub-tables one behind the other.  They end with a sub-table that is wrong. -/
def placesFrom : List TableKind → ℕ → List Place
  | [], _ => []
  | kind :: kinds, a =>
    tablePlaces db handle kind a ++
      match getDimmConfigTableSizeFromDb db handle kind with
      | .ok n => placesFrom kinds (a + n)
      | .error _ => []

/-- The sub-tables in the order in which they are built. -/
def buildOrder : List TableKind := [.currentConfig, .configOutput, .configInput]

/-- The size of what there is for a sub-table, whether it is right or not. -/
def neededTableSize (kind : TableKind) : ℕ :=
  match configTableOf db handle kind with
  | none => 0
  | some _ => kind.structSize + getDimmPartitionTableSizeFromDb db handle kind +
      ((interleaveSetsOf db handle kind).map fun row =>
        interleaveInfoTableSize + dimmInfoTableSize * dimmRowCount db handle kind row).sum

/-- The size of what there is for a DIMM. -/
def neededSize : ℕ := platformConfigDataSize + (buildOrder.map (neededTableSize db handle)).sum

end Places

/-- What is counted of interleave sets is what there is. -/
theorem countInterleaveSets_eq {db : PcdDb} {handle : UInt32} {kind : TableKind}
    {rows : List DbDimmInterleaveSet} {rc n : ℕ}
    (h : countInterleaveSets db handle kind rows rc = .ok n) :
    n = rc + (rows.map fun row =>
      interleaveInfoTableSize + dimmInfoTableSize * dimmRowCount db handle kind row).sum := by
  induction rows generalizing rc with
  | nil =>
    cases h
    rfl
  | cons row rows ih =>
    rw [countInterleaveSets] at h
    split_ifs at h
    rw [ih h, List.map_cons, List.sum_cons]
    omega

/-- What is counted for a sub-table is what there is. -/
theorem getDimmConfigTableSizeFromDb_eq {db : PcdDb} {handle : UInt32} {kind : TableKind} {n : ℕ}
    (h : getDimmConfigTableSizeFromDb db handle kind = .ok n) :
    n = neededTableSize db handle kind := by
  rw [getDimmConfigTableSizeFromDb] at h
  rw [neededTableSize]
  cases hrow : configTableOf db handle kind with
  | none =>
    rw [hrow] at h
    cases h
    rfl
  | some row =>
    rw [hrow] at h
    simp only [getDimmInterleaveTablesSizeFromDb] at h
    cases hsets : countInterleaveSets db handle kind (interleaveSetsOf db handle kind) 0 with
    | error e =>
      rw [hsets] at h
      cases h
    | ok k =>
      rw [hsets] at h
      cases h
      rw [countInterleaveSets_eq hsets, Nat.zero_add]

end IxpDimm.PcdDatabase
