import IxpDimm.PcdDatabase.DataBuilt
import IxpDimm.PcdDatabase.Stored
import IxpDimm.PlatformConfig.Placement

/-!
# Storing platform config data and building it again

Platform config data is stored by `update_dimm_platform_config_in_db` and built again by
`get_dimm_platform_config_data_from_db`.  No column holds `mem_spare`: every interleave set is built
without it, and all else that the data says is kept.  The data comes back exactly if no set is a spare
and the sub-tables that are present fit in the buffer one behind the other (`isRestored_iff`).
-/

namespace IxpDimm.PcdDatabase

open Foundation

/-- An interleave set that is no spare. -/
def InterleaveSet.withoutSpare (set : InterleaveSet) : InterleaveSet := { set with memSpare := 0 }

/-- What a sub-table says, without spares. -/
def TableContents.withoutSpares (d : TableContents) : TableContents :=
  { d with interleaves := d.interleaves.map InterleaveSet.withoutSpare }

/-- The contents of a sub-table do not change without spares if there are none. -/
private theorem withoutSpares_eq_self_iff (d : TableContents) :
    d.withoutSpares = d ↔ ∀ set ∈ d.interleaves, set.memSpare = 0 := by
  have hself : ∀ set : InterleaveSet, set.withoutSpare = set ↔ set.memSpare = 0 := by
    intro set
    cases set
    simp [InterleaveSet.withoutSpare, eq_comm]
  have hmap : d.withoutSpares = d ↔
      d.interleaves.map InterleaveSet.withoutSpare = d.interleaves.map id := by
    rw [List.map_id]
    cases d
    simp [TableContents.withoutSpares]
  rw [hmap, List.map_inj_left]
  exact forall₂_congr fun set _ => hself set

/-! ### The rows of stored data -/

/-- Interleave tables with different indices take up less than 2^30 bytes. -/
private theorem contents_size_lt {kind : TableKind} {table : Bytes}
    (hstorable : StorableTable kind table) :
    (contents kind table).size kind < 2 ^ 30 := by
  have hpartitions : (contents kind table).partitions.length ≤ 1 := by
    refine hstorable.partitions.trans ?_
    split_ifs <;> decide
  have hset : ∀ set ∈ (contents kind table).interleaves,
      set.index ∈ List.range 65536 ∧ set.size ≤ 12264 := by
    intro set hmem
    obtain ⟨a, -, rfl⟩ := List.mem_map.mp hmem
    have hindex : readLE (extTables kind table) (a + 4) 2 < 65536 := readLE_lt _ _ 2
    have hcount : dimmCount (extTables kind table) a < 256 := readLE_lt _ _ 1
    refine ⟨List.mem_range.mpr hindex, ?_⟩
    rw [InterleaveSet.size, interleaveSetAt, dimmRecordsAt, List.length_map, List.length_range]
    unfold interleaveInfoTableSize dimmInfoTableSize
    omega
  have hcount : (contents kind table).interleaves.length ≤ 65536 := by
    have hsubset : (contents kind table).interleaves.map InterleaveSet.index ⊆ List.range 65536 := by
      intro index hmem
      obtain ⟨set, hset', rfl⟩ := List.mem_map.mp hmem
      exact (hset set hset').1
    have hle := (List.subperm_of_subset hstorable.indices hsubset).length_le
    rwa [List.length_map, List.length_range] at hle
  have hsum : ((contents kind table).interleaves.map InterleaveSet.size).sum ≤
      (contents kind table).interleaves.length * 12264 := by
    have hle := List.sum_le_card_nsmul ((contents kind table).interleaves.map InterleaveSet.size)
      12264 (List.forall_mem_map.mpr fun set hmem => (hset set hmem).2)
    rwa [List.length_map, Nat.nsmul_eq_mul] at hle
  have hstruct := (lt_structSize kind).2
  rw [TableContents.size, partitionSizeChangeTableSize]
  omega

section Stored

variable {db : PcdDb} {handle : UInt32} {m : Bytes} {kind : TableKind} {table : Bytes}
  (htable : castTable kind m = some table)

include htable

/-- The rows of the interleave tables of a sub-table. -/
private theorem interleaveSetsOf_storedDb : interleaveSetsOf (storedDb db handle m) handle kind =
    (ofType (extTables kind table) interleaveTable (extensionsOf kind table)).map
      (dbInterleaveSet handle kind (extTables kind table)) := by
  rw [interleaveSetsOf, filter_interleaveSets, interleaveRows, htable]
  rfl

/-- The row of the partition size change table of a sub-table. -/
private theorem partitionOf_storedDb (hstorable : StorableTable kind table) :
    (partitionOf (storedDb db handle m) handle kind).toList =
      (ofType (extTables kind table) partitionChangeTable (extensionsOf kind table)).map
        (dbPartitionChange handle kind (extTables kind table)) := by
  have hcount := hstorable.partitions
  rw [contents, contentsAt, List.length_map] at hcount
  have hrows := filter_partitionChanges handle m kind db
  rw [partitionRows, htable] at hrows
  change _ = List.map (dbPartitionChange handle kind (extTables kind table))
    (ofType (extTables kind table) partitionChangeTable (extensionsOf kind table)) at hrows
  rw [partitionOf]
  split_ifs with hcurrent
  · rw [if_pos hcurrent] at hcount
    rw [List.eq_nil_of_length_eq_zero (Nat.le_zero.mp hcount)]
    rfl
  · rw [if_neg hcurrent] at hcount
    rw [← List.head?_filter, hrows]
    generalize ofType (extTables kind table) partitionChangeTable (extensionsOf kind table) = offsets
      at hcount ⊢
    obtain _ | ⟨a, _ | ⟨b, offsets⟩⟩ := offsets
    · rfl
    · rfl
    · simp at hcount

section Interleave

variable (hstorable : StorableTable kind table) {a : ℕ}
  (ha : a ∈ ofType (extTables kind table) interleaveTable (extensionsOf kind table))

include hstorable ha

/-- The rows of the DIMMs of an interleave table. -/
private theorem dimmsOf_storedDb :
    dimmsOf (storedDb db handle m) handle kind
        (dbInterleaveSet handle kind (extTables kind table) a) =
      dbDimmInfos handle kind (extTables kind table) a :=
  filter_dimmInfosV2 handle db htable hstorable.indices ha

/-- The interleave set of a row is the one it was made from, without a spare. -/
private theorem interleaveSetOf_storedDb :
    interleaveSetOf (storedDb db handle m) handle kind
        (dbInterleaveSet handle kind (extTables kind table) a) =
      (interleaveSetAt (extTables kind table) a).withoutSpare := by
  have hdimms : (dbDimmInfos handle kind (extTables kind table) a).map dimmRecordOf =
      dimmRecordsAt (extTables kind table) (a + interleaveInfoTableSize)
        (dimmCount (extTables kind table) a) := by
    rw [dbDimmInfos, dimmRecordsAt, List.map_map]
    refine List.map_congr_left fun i _ => ?_
    rw [Function.comp_apply, ← Nat.add_assoc]
    generalize a + interleaveInfoTableSize + dimmInfoTableSize * i = b
    -- the nine bytes of the unique id survive as a text
    have huid : readLE (ofList (deviceUidStringToBytes (deviceUidBytesToString
        (view (extTables kind table) b)))) 0 9 = readLE (extTables kind table) b 9 := by
      rw [deviceUidStringToBytes_deviceUidBytesToString]
      have hview := readLE_view (extTables kind table) b 0 9
      rw [Nat.add_zero] at hview
      rw [← hview]
      rfl
    rw [dimmRecordOf, dimmRecordAt]
    dsimp only [dbDimmInfoV2]
    rw [huid]
  rw [interleaveSetOf, dimmsOf_storedDb htable hstorable ha, hdimms]
  rfl

/-- The values of the row of an interleave table fit in the fields. -/
private theorem interleaveRowValid_storedDb :
    InterleaveRowValid (storedDb db handle m) handle kind
      (dbInterleaveSet handle kind (extTables kind table) a) := by
  have hread := readLE_lt (extTables kind table)
  refine ⟨⟨?_, ?_, ?_⟩, ?_, ?_⟩
  · simp [interleaveSetFields, FieldsDisjoint]
  · simp [interleaveSetFields, interleaveInfoTableSize]
  · simp only [interleaveSetFields, dbInterleaveSet, List.cons_append, List.nil_append,
      List.forall_mem_cons]
    exact ⟨by decide, by decide, hread _ 2, hread _ 4, hread _ 1, hread _ 1, hread _ 1, hread _ 1,
      by decide, List.forall_mem_nil _⟩
  · rw [dimmsOf_storedDb htable hstorable ha, dbDimmInfos, List.length_map, List.length_range]
    rfl
  · rw [dimmsOf_storedDb htable hstorable ha]
    intro d hd
    obtain ⟨i, -, rfl⟩ := List.mem_map.mp hd
    refine ⟨by simp [dimmRow, FieldsDisjoint], by simp [dimmRow, dimmInfoTableSize], ?_⟩
    simp only [dimmRow, dbDimmInfoV2, List.forall_mem_cons]
    exact ⟨hread _ 8, hread _ 8, readLE_lt _ 0 9, List.forall_mem_nil _⟩

end Interleave

/-- The values of the rows of extension tables fit in the fields. -/
private theorem extensionsValid_storedDb (hstorable : StorableTable kind table) :
    ExtensionsValid (storedDb db handle m) handle kind := by
  have hpartition : ∀ row ∈ partitionOf (storedDb db handle m) handle kind,
      ∃ a, row = dbPartitionChange handle kind (extTables kind table) a := by
    intro row hrow
    have hmem := Option.mem_toList.mpr hrow
    rw [partitionOf_storedDb htable hstorable] at hmem
    obtain ⟨a, -, rfl⟩ := List.mem_map.mp hmem
    exact ⟨a, rfl⟩
  have hread := readLE_lt (extTables kind table)
  refine ⟨fun row hrow => ?_, fun row hrow => ?_, fun row hrow => ?_, fun row hrow => ?_⟩
  · obtain ⟨a, rfl⟩ := hpartition row hrow
    rfl
  · obtain ⟨a, rfl⟩ := hpartition row hrow
    refine ⟨by simp [partitionChangeFields, FieldsDisjoint],
      by simp [partitionChangeFields, partitionSizeChangeTableSize], ?_⟩
    simp only [partitionChangeFields, dbPartitionChange, List.forall_mem_cons]
    exact ⟨by decide, by decide, hread _ 8, hread _ 4, List.forall_mem_nil _⟩
  · rw [interleaveSetsOf_storedDb htable] at hrow
    obtain ⟨a, -, rfl⟩ := List.mem_map.mp hrow
    rfl
  · rw [interleaveSetsOf_storedDb htable] at hrow
    obtain ⟨a, ha, rfl⟩ := List.mem_map.mp hrow
    exact interleaveRowValid_storedDb htable hstorable ha

/-- What the rows of a sub-table say is what it says, without spares. -/
private theorem contentsOf_storedDb (hstorable : StorableTable kind table) :
    contentsOf (storedDb db handle m) handle kind (dbConfigTable handle kind table) =
      (contents kind table).withoutSpares := by
  have hpartitions : (partitionOf (storedDb db handle m) handle kind).toList.map partitionChangeOf =
      (contents kind table).partitions := by
    rw [partitionOf_storedDb htable hstorable, List.map_map]
    rfl
  have hinterleaves : (interleaveSetsOf (storedDb db handle m) handle kind).map
      (interleaveSetOf (storedDb db handle m) handle kind) =
      (contents kind table).interleaves.map InterleaveSet.withoutSpare := by
    rw [interleaveSetsOf_storedDb htable, List.map_map, contents, contentsAt, List.map_map]
    exact List.map_congr_left fun a ha => interleaveSetOf_storedDb htable hstorable ha
  rw [contentsOf, hpartitions, hinterleaves]
  rfl

/-- The sub-table that is built has the size of its contents. -/
private theorem builtTableSize_storedDb (hstorable : StorableTable kind table) :
    builtTableSize (storedDb db handle m) handle kind = (contents kind table).size kind := by
  have hsize : ∀ a, interleaveSize (dbInterleaveSet handle kind (extTables kind table) a) =
      (interleaveSetAt (extTables kind table) a).size := by
    intro a
    rw [interleaveSize, InterleaveSet.size, interleaveSetAt, dimmRecordsAt, List.length_map,
      List.length_range]
    rfl
  rw [builtTableSize, (extensionsValid_storedDb htable hstorable).totalSize_eq,
    partitionOf_storedDb htable hstorable, interleaveSetsOf_storedDb htable, TableContents.size,
    contents, contentsAt, List.length_map, List.length_map, List.map_map, List.map_map,
    ← Nat.add_assoc]
  refine congrArg _ (congrArg _ (List.map_congr_left fun a _ => hsize a))

/-- The values of the row of a valid sub-table fit in the fields. -/
private theorem tableRowValid_storedDb (hstorable : StorableTable kind table)
    (hsound : TableSound kind table) :
    TableRowValid (storedDb db handle m) handle kind (dbConfigTable handle kind table) := by
  refine ⟨?_, ⟨?_, ?_, ?_⟩, ?_, ?_, extensionsValid_storedDb htable hstorable, ?_⟩
  · have hrevision : readLE table 8 1 = (headerRevision table).toNat := by
      simp [readLE, headerRevision]
    have htwo := hstorable.revision
    rw [getTableRevision, configTableOf_storedDb, htable]
    change some (readLE table 8 1) ≠ some 1
    rw [hrevision, ne_eq, Option.some.injEq]
    omega
  · cases kind <;>
      simp [tableRow, headerFields, bodyFields, bodyPlaces, dbConfigTable, dbBody, FieldsDisjoint]
  · cases kind <;>
      simp [tableRow, headerFields, bodyFields, bodyPlaces, dbConfigTable, dbBody,
        TableKind.structSize]
  · have hread := readLE_lt table
    intro f hf
    rcases List.mem_append.mp hf with hheader | hbody
    · simp only [headerFields, dbConfigTable, dbHeader, List.mem_cons, List.not_mem_nil,
        or_false] at hheader
      have hstruct : kind.structSize < 256 ^ 4 := by cases kind <;> decide
      rcases hheader with rfl | rfl | rfl | rfl | rfl | rfl | rfl | rfl
      · exact hread 0 4
      · exact hstruct
      · exact hread 8 1
      · exact hread 10 6
      · exact hread 16 8
      · exact hread 24 4
      · exact hread 28 4
      · exact hread 32 4
    · rw [bodyFields, dbConfigTable, dbBody, List.zipWith_map_right, List.zipWith_self] at hbody
      obtain ⟨place, -, rfl⟩ := List.mem_map.mp hbody
      exact hread place.1 place.2
  · have hheader := hsound.header
    unfold isConfigDataTableHeaderValid at hheader
    split_ifs at hheader
    exact (headerSignature_eq_iff (by cases kind <;> rfl)).mp (eq_of_beq hheader)
  · rw [dbConfigTable, dbBody, List.length_map]
  · rw [builtTableSize_storedDb htable hstorable]
    exact (contents_size_lt hstorable).trans (by decide)

end Stored

/-- What is left of the contents without spares is the same exactly if there are none. -/
private theorem withoutSpares_contents_iff {m : Bytes} :
    (∀ kind, ((castTable kind m).map fun table => (contents kind table).withoutSpares) =
      (castTable kind m).map (contents kind)) ↔ NoSpare m := by
  refine forall_congr' fun kind => ?_
  cases castTable kind m with
  | none => simp
  | some table => simp [withoutSpares_eq_self_iff]

/-! ### Round trips -/

/-- Platform config data is stored for a DIMM and built again in a blank buffer: both succeed, and
what is built is accepted and says the same. -/
def IsRestored (db : PcdDb) (handle : UInt32) (m : Bytes) (size : UInt32) : Prop :=
  ∃ db', Returns (fun fuel => updateDimmPlatformConfigInDb fuel db handle m) (.success, db') ∧
    let result := getDimmPlatformConfigDataFromDb db' handle (fun _ => 0) size
    result.1 = .success ∧ Accepted result.2 (UInt64.ofNat size.toNat) ∧
      ∀ kind, (castTable kind result.2).map (contents kind) = (castTable kind m).map (contents kind)

section Data

variable {db : PcdDb} {handle : UInt32} {m : Bytes}

/-- The data that is built has the size of what the data says. -/
private theorem builtSize_storedDb (hstorable : Storable m) :
    builtSize (storedDb db handle m) handle = rebuiltSize m := by
  have hkind : ∀ kind,
      builtKindSize (storedDb db handle m) handle kind = rebuiltTableSize m kind := by
    intro kind
    rw [builtKindSize, configTableOf_storedDb, rebuiltTableSize]
    cases htable : castTable kind m with
    | none => rfl
    | some table => exact builtTableSize_storedDb htable (hstorable kind table htable)
  rw [builtSize, rebuiltSize]
  simp only [buildOrder, TableKind.all, List.map_cons, List.map_nil, List.sum_cons, List.sum_nil,
    hkind]
  omega

/-- The data that is built takes up less than 2^32 bytes. -/
private theorem rebuiltSize_lt (hstorable : Storable m) : rebuiltSize m < 2 ^ 32 := by
  have hkind : ∀ kind, rebuiltTableSize m kind < 2 ^ 30 := by
    intro kind
    rw [rebuiltTableSize]
    cases htable : castTable kind m with
    | none => exact Nat.two_pow_pos 30
    | some table => exact contents_size_lt (hstorable kind table htable)
  have hcurrent := hkind .currentConfig
  have hinput := hkind .configInput
  have houtput := hkind .configOutput
  simp only [rebuiltSize, TableKind.all, List.map_cons, List.map_nil, List.sum_cons, List.sum_nil]
  unfold platformConfigDataSize
  omega

variable (haccepted : Accepted m (UInt64.ofNat (headerLength m))) (hstorable : Storable m)

include haccepted hstorable

/-- The rows of the sub-tables of accepted data are valid. -/
private theorem tableRowsValid_storedDb :
    ∀ kind, ∀ row ∈ configTableOf (storedDb db handle m) handle kind,
      TableRowValid (storedDb db handle m) handle kind row := by
  intro kind row hrow
  rw [configTableOf_storedDb] at hrow
  obtain ⟨table, htable, rfl⟩ := Option.map_eq_some_iff.mp hrow
  exact tableRowValid_storedDb htable (hstorable kind table htable)
    (tableSound_of_accepted haccepted htable).2

/-- What is built from accepted data: it succeeds with room, and when it succeeds the data is accepted
exactly if there is room, and says what was stored, without spares. -/
private theorem getDimmPlatformConfigDataFromDb_storedDb (size : UInt32) :
    let result := getDimmPlatformConfigDataFromDb (storedDb db handle m) handle (fun _ => 0) size
    (rebuiltSize m ≤ size.toNat → result.1 = .success) ∧ (result.1 = .success →
      (Accepted result.2 (UInt64.ofNat size.toNat) ↔ rebuiltSize m ≤ size.toNat) ∧
        ∀ kind, (castTable kind result.2).map (contents kind) =
          (castTable kind m).map fun table => (contents kind table).withoutSpares) := by
  have hvalid := @tableRowsValid_storedDb db handle m haccepted hstorable
  have hsignature : (dbPlatformConfig handle m).header.signature =
      readLE (ofList platformConfigTableSignature) 0 4 := by
    have hheader := (accepted_iff.mp haccepted).1
    rw [isPlatformConfigHeaderValid] at hheader
    split_ifs at hheader
    rw [Bool.and_eq_true, isConfigDataTableHeaderValid] at hheader
    obtain ⟨hheader, -⟩ := hheader
    split_ifs at hheader
    exact (headerSignature_eq_iff rfl).mp (eq_of_beq hheader)
  have hspec := getDimmPlatformConfigDataFromDb_spec hvalid (find?_platformConfigs handle db)
    (readLE_lt m 0 4) (by rw [builtSize_storedDb hstorable]; exact rebuiltSize_lt hstorable) size
  rw [builtSize_storedDb hstorable] at hspec
  refine ⟨hspec.1, fun hok => ?_⟩
  have hbuilt := hspec.2 hok
  refine ⟨?_, fun kind => ?_⟩
  · rw [hbuilt.accepted_iff hvalid hsignature, builtSize_storedDb hstorable]
  · rw [hbuilt.contents_eq hvalid, configTableOf_storedDb]
    cases htable : castTable kind m with
    | none => rfl
    | some table =>
      exact congrArg some (contentsOf_storedDb htable (hstorable kind table htable))

/-- Data that comes back has no spares, and what it says fits in the buffer. -/
private theorem noSpare_of_isRestored {size : UInt32} (h : IsRestored db handle m size) :
    NoSpare m ∧ rebuiltSize m ≤ size.toNat := by
  obtain ⟨db', hupdate', hok, haccepts, hcontents⟩ := h
  have hupdate := returns_update haccepted hstorable db handle
  obtain rfl : db' = storedDb db handle m :=
    congrArg Prod.snd (hupdate'.unique (fuelMono_updateDimmPlatformConfigInDb db handle m) hupdate)
  obtain ⟨hfits, hbuilt⟩ :=
    (getDimmPlatformConfigDataFromDb_storedDb haccepted hstorable size).2 hok
  refine ⟨withoutSpares_contents_iff.mp fun kind => ?_, hfits.mp haccepts⟩
  rw [← hbuilt kind, hcontents kind]

/-- Data without spares comes back if what it says fits in the buffer. -/
private theorem isRestored_of_noSpare {size : UInt32} (hspare : NoSpare m)
    (hle : rebuiltSize m ≤ size.toNat) : IsRestored db handle m size := by
  obtain ⟨hroom, hdone⟩ :=
    @getDimmPlatformConfigDataFromDb_storedDb db handle m haccepted hstorable size
  obtain ⟨hfits, hbuilt⟩ := hdone (hroom hle)
  refine ⟨_, returns_update haccepted hstorable db handle, hroom hle, hfits.mpr hle, fun kind => ?_⟩
  rw [hbuilt kind, withoutSpares_contents_iff.mpr hspare kind]

end Data

/-! ### Data in a buffer of its own length -/

/-- The extension tables of a sub-table have the lengths of their structures, those for partition size
changes come first, and the unique ids of DIMMs come from texts. -/
structure ExactTable (kind : TableKind) (table : Bytes) : Prop where
  /-- The lengths of the partition size change tables. -/
  partitions : ∀ a ∈ ofType (extTables kind table) partitionChangeTable (extensionsOf kind table),
    extensionLength (extTables kind table) a = partitionSizeChangeTableSize
  /-- The lengths of the interleave tables. -/
  interleaves : ∀ a ∈ ofType (extTables kind table) interleaveTable (extensionsOf kind table),
    extensionLength (extTables kind table) a =
      interleaveInfoTableSize + dimmInfoTableSize * dimmCount (extTables kind table) a
  /-- The order of the extension tables. -/
  order : ∀ a ∈ ofType (extTables kind table) partitionChangeTable (extensionsOf kind table),
    ∀ b ∈ ofType (extTables kind table) interleaveTable (extensionsOf kind table), a < b
  /-- The unique ids of the DIMMs. -/
  uids : ∀ set ∈ (contents kind table).interleaves, ∀ dimm ∈ set.dimms,
    ∃ text : Uid, dimm.uid = readLE (ofList (deviceUidStringToBytes text)) 0 9

/-! ### A spare that is lost -/

/-- Accepted platform config data that can be stored comes back exactly if no interleave set is a
spare and what it says fits in the buffer. -/
theorem isRestored_iff (db : PcdDb) (handle : UInt32) (m : Bytes) (size : UInt32)
    (haccepted : Accepted m (UInt64.ofNat (headerLength m))) (hstorable : Storable m) :
    IsRestored db handle m size ↔ NoSpare m ∧ rebuiltSize m ≤ size.toNat :=
  ⟨noSpare_of_isRestored haccepted hstorable,
    fun h => isRestored_of_noSpare haccepted hstorable h.1 h.2⟩

/-- Platform config data of 180 bytes with a config input that has one interleave table with one DIMM;
the interleave set is a spare or not. -/
def spareBytes (memSpare : UInt8) : List UInt8 :=
  -- the header of the data, with a config input of 120 bytes behind it
  [0x44, 0x4D, 0x48, 0x44, 180, 0, 0, 0, 1, 122] ++ List.replicate 34 0 ++
  [120, 0, 0, 0, 60, 0, 0, 0] ++ List.replicate 8 0 ++
  -- the config input
  [0x43, 0x49, 0x4E, 0x5F, 120, 0, 0, 0, 2, 177 - memSpare] ++ List.replicate 26 0 ++
  [1, 0, 0, 0] ++ List.replicate 8 0 ++
  -- the interleave table
  [5, 0, 72, 0, 1, 0, 1, 2, 0, 0, 0, 0, 0, 0, memSpare] ++ List.replicate 9 0 ++
  -- its DIMM
  [0x80, 0x89, 0, 0, 0, 0, 0, 0, 1] ++ List.replicate 23 0 ++ List.replicate 8 0 ++
  [0, 0, 0, 0x40, 0, 0, 0, 0]

/-- A database without rows. -/
def emptyDb : PcdDb where
  platformConfigs := []
  configTables _ := []
  partitionChanges := []
  interleaveSets := []
  dimmInfosV1 := []
  dimmInfosV2 := []

/-- The data of the config input. -/
private theorem castTable_spareBytes {memSpare : UInt8} (h : memSpare = 0 ∨ memSpare = 1)
    {kind : TableKind} {table : Bytes}
    (htable : castTable kind (ofList (spareBytes memSpare)) = some table) :
    kind = .configInput ∧ table = view (ofList (spareBytes memSpare)) 60 := by
  obtain ⟨hpresent, rfl⟩ := castTable_eq_some_iff.mp htable
  rcases h with rfl | rfl <;> cases kind
  · exact absurd hpresent (by decide +kernel)
  · exact ⟨rfl, congrArg (view (ofList (spareBytes 0))) (by decide +kernel)⟩
  · exact absurd hpresent (by decide +kernel)
  · exact absurd hpresent (by decide +kernel)
  · exact ⟨rfl, congrArg (view (ofList (spareBytes 1))) (by decide +kernel)⟩
  · exact absurd hpresent (by decide +kernel)

/-- The data is accepted, whether the interleave set is a spare or not. -/
private theorem accepted_spareBytes {memSpare : UInt8} (h : memSpare = 0 ∨ memSpare = 1) :
    Accepted (ofList (spareBytes memSpare))
      (UInt64.ofNat (headerLength (ofList (spareBytes memSpare)))) := by
  rcases h with rfl | rfl
  · exact ⟨5, by decide +kernel⟩
  · exact ⟨5, by decide +kernel⟩

/-- The data can be stored, whether the interleave set is a spare or not. -/
private theorem storable_spareBytes {memSpare : UInt8} (h : memSpare = 0 ∨ memSpare = 1) :
    Storable (ofList (spareBytes memSpare)) := by
  intro kind table htable
  obtain ⟨rfl, rfl⟩ := castTable_spareBytes h htable
  rcases h with rfl | rfl
  · exact ⟨by decide +kernel, by decide +kernel, by decide +kernel, by decide +kernel⟩
  · exact ⟨by decide +kernel, by decide +kernel, by decide +kernel, by decide +kernel⟩

/-- Without the spare the data comes back. -/
theorem isRestored_spareBytes : IsRestored emptyDb 0 (ofList (spareBytes 0)) 180 := by
  refine (isRestored_iff emptyDb 0 (ofList (spareBytes 0)) 180 (accepted_spareBytes (Or.inl rfl))
    (storable_spareBytes (Or.inl rfl))).mpr ⟨fun kind table htable => ?_, by decide +kernel⟩
  obtain ⟨rfl, rfl⟩ := castTable_spareBytes (Or.inl rfl) htable
  decide +kernel

/-- With the spare the data does not come back. -/
theorem not_isRestored_spareBytes : ¬∀ (db : PcdDb) (handle : UInt32) (m : Bytes) (size : UInt32),
    Accepted m (UInt64.ofNat (headerLength m)) → Storable m →
      (∀ kind, ∀ table ∈ castTable kind m, ExactTable kind table) → headerLength m ≤ size.toNat →
        IsRestored db handle m size := by
  intro h
  have haccepted := accepted_spareBytes (Or.inr rfl)
  have hstorable := storable_spareBytes (Or.inr rfl)
  have htrip := h emptyDb 0 (ofList (spareBytes 1)) 180 haccepted hstorable ?_ (by decide +kernel)
  · have hspare := (noSpare_of_isRestored haccepted hstorable htrip).1 .configInput _ rfl
    revert hspare
    decide +kernel
  · intro kind table htable
    obtain ⟨rfl, rfl⟩ := castTable_spareBytes (Or.inr rfl) htable
    refine ⟨by decide +kernel, by decide +kernel, by decide +kernel, ?_⟩
    have hset : ∀ set ∈ (contents .configInput (view (ofList (spareBytes 1)) 60)).interleaves,
        ∀ dimm ∈ set.dimms, dimm.uid =
          readLE (ofList (deviceUidStringToBytes "8089-00000001".toList)) 0 9 := by
      decide +kernel
    exact fun set hmem dimm hdimm => ⟨_, hset set hmem dimm hdimm⟩

end IxpDimm.PcdDatabase
