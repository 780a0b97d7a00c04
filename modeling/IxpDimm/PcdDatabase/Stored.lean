import IxpDimm.Foundation.Keyed
import IxpDimm.PcdDatabase.Contents

/-!
# What is stored of platform config data

For data that is accepted and whose tables can be stored (`Storable`),
`update_dimm_platform_config_in_db` succeeds and leaves the rows of `storedDb`.  Of these the ones that
belong to a sub-table of the DIMM, or to an interleave set of it, are those that were made from it: the
rows of other DIMMs, other sub-tables and other interleave sets are told apart by their keys.
-/

namespace IxpDimm.PcdDatabase

open Foundation

/-! ### Tables that can be stored -/

/-- A sub-table of revision 2 or more, with at most one partition size change, and none in a current
config, and with interleave tables that have room for their DIMMs and different indices. -/
structure StorableTable (kind : TableKind) (table : Bytes) : Prop where
  /-- The revision. -/
  revision : 2 ≤ (headerRevision table).toNat
  /-- The partition size changes. -/
  partitions : (contents kind table).partitions.length ≤ if kind = .currentConfig then 0 else 1
  /-- The lengths of the interleave tables. -/
  lengths : ∀ a ∈ ofType (extTables kind table) interleaveTable (extensionsOf kind table),
    interleaveInfoTableSize + dimmInfoTableSize * dimmCount (extTables kind table) a ≤
      extensionLength (extTables kind table) a
  /-- The indices of the interleave tables. -/
  indices : ((contents kind table).interleaves.map InterleaveSet.index).Nodup

/-- The sub-tables of platform config data can be stored. -/
def Storable (m : Bytes) : Prop := ∀ kind, ∀ table ∈ castTable kind m, StorableTable kind table

/-- A sub-table that is present. -/
theorem castTable_eq_some_iff {kind : TableKind} {m table : Bytes} :
    castTable kind m = some table ↔ 0 < tableSize kind m ∧ tableAt kind m = table := by
  rw [castTable]
  split_ifs with h
  · rw [Option.some.injEq]
    exact ⟨fun heq => ⟨h, heq⟩, fun heq => heq.2⟩
  · exact ⟨(fun heq => by cases heq), fun heq => absurd heq.1 h⟩

/-- A sub-table of accepted data is valid and as long as the data says. -/
theorem tableSound_of_accepted {m : Bytes} {pcdSize : UInt64} (h : Accepted m pcdSize)
    {kind : TableKind} {table : Bytes} (htable : castTable kind m = some table) :
    headerLength table = tableSize kind m ∧ TableSound kind table := by
  obtain ⟨hpresent, rfl⟩ := castTable_eq_some_iff.mp htable
  obtain ⟨valid, hvalid, hcode⟩ := (returns_checkTable_iff hpresent).mp ((accepted_iff.mp h).2 kind)
  obtain rfl : valid = true := by
    cases valid with
    | true => rfl
    | false => cases hcode
  by_cases hlength : kind.structSize ≤ tableSize kind m ∧
      headerLength (tableAt kind m) = tableSize kind m
  · obtain ⟨-, hrest⟩ := (returns_isTableValid_iff hlength.1 hlength.2).mp hvalid
    split_ifs at hrest with hheader
    refine ⟨hlength.2, ?_, ?_, ?_⟩
    · rw [hlength.2]
      exact hlength.1
    · rw [hlength.2]
      exact hheader
    · rw [hlength.2]
      exact hrest
  · have hfalse := returns_isTableValid_of_length kind (tableAt kind m) hlength
    cases hvalid.unique (fuelMono_isTableValid kind _ _) hfalse

/-! ### Storing extension tables -/

section Extensions

variable (handle : UInt32) (kind : TableKind) (m : Bytes)

/-- The rows of the DIMMs of the interleave table at an address. -/
def dbDimmInfos (a : ℕ) : List DbInterleaveSetDimmInfoV2 :=
  (List.range (dimmCount m a)).map fun i =>
    dbDimmInfoV2 handle kind (readLE m (a + 4) 2) m
      (a + (interleaveInfoTableSize + dimmInfoTableSize * i))

/-- The rows of the extension tables at offsets are added. -/
def addExtensions (offsets : List ℕ) (db : PcdDb) : PcdDb :=
  { db with
    partitionChanges := db.partitionChanges ++
      (ofType m partitionChangeTable offsets).map (dbPartitionChange handle kind m)
    interleaveSets := db.interleaveSets ++
      (ofType m interleaveTable offsets).map (dbInterleaveSet handle kind m)
    dimmInfosV2 := db.dimmInfosV2 ++
      (ofType m interleaveTable offsets).flatMap (dbDimmInfos handle kind m) }

/-- No rows are added. -/
private theorem addExtensions_nil (db : PcdDb) : addExtensions handle kind m [] db = db := by
  simp [addExtensions, ofType]

variable {handle kind m} {revision : UInt8}

/-- The loop over the DIMMs adds their rows. -/
private theorem storeDimmsLoop_eq (hrevision : revision ≠ 1) {a left offset : ℕ} {db : PcdDb}
    (hroom : offset + dimmInfoTableSize * left ≤ extensionLength m a) :
    storeDimmsLoop handle kind revision m a left offset db =
      (.success, { db with
        dimmInfosV2 := db.dimmInfosV2 ++ (List.range left).map fun i =>
          dbDimmInfoV2 handle kind (readLE m (a + 4) 2) m
            (a + (offset + dimmInfoTableSize * i)) }) := by
  induction left generalizing offset db with
  | zero => simp [storeDimmsLoop]
  | succ left ih =>
    rw [Nat.mul_succ] at hroom
    rw [storeDimmsLoop, if_neg (by omega)]
    dsimp only
    rw [if_neg hrevision, ih (by omega)]
    have hnext : ∀ i, offset + dimmInfoTableSize + dimmInfoTableSize * i =
        offset + dimmInfoTableSize * (i + 1) := fun i => by rw [Nat.mul_succ]; omega
    simp only [hnext, List.range_succ_eq_map, List.map_cons, List.map_map, Function.comp_def,
      Nat.mul_zero, Nat.add_zero, List.append_assoc, List.cons_append, List.nil_append,
      Nat.succ_eq_add_one]

/-- An interleave table with room for its DIMMs is stored with them. -/
private theorem updateDimmInterleaveSetInDb_eq (hrevision : revision ≠ 1) {a : ℕ} {db : PcdDb}
    (hroom : interleaveInfoTableSize + dimmInfoTableSize * dimmCount m a ≤ extensionLength m a) :
    updateDimmInterleaveSetInDb db handle kind revision m a =
      (.success, { db with
        interleaveSets := db.interleaveSets ++ [dbInterleaveSet handle kind m a]
        dimmInfosV2 := db.dimmInfosV2 ++ dbDimmInfos handle kind m a }) := by
  exact storeDimmsLoop_eq hrevision hroom

/-- The walk over extension tables adds their rows. -/
private theorem returns_storeEntry (hrevision : revision ≠ 1) {length t : ℕ} {ts : List ℕ}
    (h : ExtensionWalk m length t ts)
    (hroom : ∀ a ∈ ofType m interleaveTable ts,
      interleaveInfoTableSize + dimmInfoTableSize * dimmCount m a ≤ extensionLength m a)
    (db : PcdDb) :
    Returns (fun fuel => runLoop (storeEntry handle kind revision m length) fuel (t, .success, db))
      (.success, addExtensions handle kind m ts db) := by
  induction h generalizing db with
  | done hle =>
    refine ⟨1, ?_⟩
    dsimp only
    rw [addExtensions_nil]
    refine runLoop_succ_of_inr ?_ 0
    rw [storeEntry, if_neg (by omega)]
  | @entry t ts hlt hsize hle hrest ih =>
    -- the types are told apart once; what is stored for the table is what its rows add
    have hstored : ∃ db', (if extensionType m t = partitionChangeTable then
          (ReturnCode.success, updateDimmPartitionSizeInDb db handle kind m t)
        else if extensionType m t = interleaveTable then
          updateDimmInterleaveSetInDb db handle kind revision m t
        else (.success, db)) = (.success, db') ∧
        addExtensions handle kind m ts db' = addExtensions handle kind m (t :: ts) db := by
      split_ifs with hpartition hinterleave
      · refine ⟨_, rfl, ?_⟩
        simp [addExtensions, ofType, updateDimmPartitionSizeInDb, hpartition, partitionChangeTable,
          interleaveTable]
      · have hmem : t ∈ ofType m interleaveTable (t :: ts) := by
          simp [ofType, hinterleave]
        refine ⟨_, updateDimmInterleaveSetInDb_eq hrevision (hroom t hmem), ?_⟩
        simp [addExtensions, ofType, hinterleave, partitionChangeTable, interleaveTable]
      · refine ⟨_, rfl, ?_⟩
        simp [addExtensions, ofType, hpartition, hinterleave]
    obtain ⟨db', hdb', hadd⟩ := hstored
    have hrest' : ∀ a ∈ ofType m interleaveTable ts,
        interleaveInfoTableSize + dimmInfoTableSize * dimmCount m a ≤ extensionLength m a := by
      intro a ha
      refine hroom a ?_
      rw [ofType, List.mem_filter] at ha ⊢
      exact ⟨List.mem_cons_of_mem t ha.1, ha.2⟩
    obtain ⟨fuel, hrun⟩ := ih hrest' db'
    rw [hadd] at hrun
    refine ⟨fuel + 1, ?_⟩
    have hstep : storeEntry handle kind revision m length (t, .success, db) =
        .inl ((t + extensionLength m t) % 2 ^ 32, .success, db') := by
      rw [storeEntry]
      dsimp only
      rw [if_pos ⟨hlt, rfl⟩, if_neg (by omega), hdb']
    exact (runLoop_succ_of_inl hstep fuel).trans hrun

end Extensions

/-! ### Storing sub-tables -/

/-- The row of a sub-table. -/
def dbConfigTable (handle : UInt32) (kind : TableKind) (table : Bytes) : DbConfigTable :=
  ⟨handle, dbHeader table, dbBody kind table⟩

/-- The rows of a sub-table and of its extension tables are added, if it is present. -/
def addTable (handle : UInt32) (m : Bytes) (kind : TableKind) (db : PcdDb) : PcdDb :=
  match castTable kind m with
  | none => db
  | some table =>
    addExtensions handle kind (extTables kind table) (extensionsOf kind table)
      { db with
        configTables := Function.update db.configTables kind
          (db.configTables kind ++ [dbConfigTable handle kind table]) }

/-- The database after platform config data has been stored. -/
def storedDb (db : PcdDb) (handle : UInt32) (m : Bytes) : PcdDb :=
  let cleared := clearDimmPlatformConfigFromDb db handle
  addTable handle m .currentConfig (addTable handle m .configOutput (addTable handle m .configInput
    { cleared with platformConfigs := cleared.platformConfigs ++ [dbPlatformConfig handle m] }))

/-- Storing a sub-table does not depend on the bound. -/
private theorem fuelMono_storeConfigTable (handle : UInt32) (m : Bytes) (kind : TableKind)
    (s : ReturnCode × PcdDb) : FuelMono fun fuel => storeConfigTable fuel handle m kind s := by
  by_cases hpresent : tableSize kind m ≠ 0
  · simp only [storeConfigTable, if_pos hpresent]
    cases castTable kind m with
    | none => exact fuelMono_const _
    | some table =>
      by_cases hlarger : headerLength table > kind.structSize
      · simp only [if_pos hlarger]
        exact (fuelMono_runLoop _ _).map _
      · simp only [if_neg hlarger]
        exact fuelMono_const _
  · simp only [storeConfigTable, if_neg hpresent]
    exact fuelMono_const _

/-- Storing platform config data does not depend on the bound. -/
theorem fuelMono_updateDimmPlatformConfigInDb (db : PcdDb) (handle : UInt32) (m : Bytes) :
    FuelMono fun fuel => updateDimmPlatformConfigInDb fuel db handle m := by
  have hmono := fuelMono_storeConfigTable handle m
  refine (fuelMono_checkPlatformConfig m _).bind fun rc => ?_
  split_ifs
  · exact (hmono .configInput _).bind fun s => (hmono .configOutput s).bind (hmono .currentConfig)
  · exact fuelMono_const _

section Update

variable {m : Bytes} (haccepted : Accepted m (UInt64.ofNat (headerLength m)))
  (hstorable : Storable m)

include haccepted hstorable

/-- A sub-table is stored. -/
private theorem returns_storeConfigTable (handle : UInt32) (kind : TableKind) (db : PcdDb) :
    Returns (fun fuel => storeConfigTable fuel handle m kind (.success, db))
      (.success, addTable handle m kind db) := by
  cases htable : castTable kind m with
  | none =>
    have habsent : tableSize kind m = 0 := by
      by_contra hpresent
      rw [castTable, if_pos (by omega)] at htable
      cases htable
    refine ⟨0, ?_⟩
    simp only [storeConfigTable, addTable, htable]
    rw [if_neg (by omega)]
  | some table =>
    obtain ⟨hlength, hsound⟩ := tableSound_of_accepted haccepted htable
    have htableOk := hstorable kind table htable
    have hpresent : tableSize kind m ≠ 0 := (castTable_eq_some_iff.mp htable).1.ne'
    have hwalk := walk_extensionsOf hsound.list
    have hrevision : headerRevision table ≠ 1 := by
      intro hone
      have htwo := htableOk.revision
      rw [hone] at htwo
      exact absurd htwo (by decide)
    simp only [storeConfigTable, addTable, htable, if_pos hpresent, if_true]
    by_cases hlarger : headerLength table > kind.structSize
    · simp only [if_pos hlarger]
      exact returns_map_iff.mpr ⟨_, returns_storeEntry hrevision hwalk htableOk.lengths _, rfl⟩
    · -- without extension tables there is nothing to add
      have hend : headerLength table - kind.structSize = 0 := by omega
      rw [hend] at hwalk
      have hnil : extensionsOf kind table = [] := by
        generalize extensionsOf kind table = ts at hwalk ⊢
        cases hwalk with
        | done => rfl
        | entry hlt => omega
      simp only [if_neg hlarger, hnil, addExtensions_nil]
      exact returns_some_iff.mpr rfl

/-- The three sub-tables are stored. -/
private theorem returns_storeConfigTables (handle : UInt32) (db : PcdDb) :
    Returns (fun fuel => (storeConfigTable fuel handle m .configInput (.success, db)).bind fun s =>
        (storeConfigTable fuel handle m .configOutput s).bind fun s =>
          storeConfigTable fuel handle m .currentConfig s)
      (.success, addTable handle m .currentConfig (addTable handle m .configOutput
        (addTable handle m .configInput db))) := by
  have hstore := returns_storeConfigTable haccepted hstorable handle
  have hmono := fuelMono_storeConfigTable handle m
  have hlast := (returns_bind_iff (hmono .configOutput _) (hmono .currentConfig)).mpr
    ⟨_, hstore .configOutput (addTable handle m .configInput db), hstore .currentConfig _⟩
  exact (returns_bind_iff (hmono .configInput _)
    fun s => (hmono .configOutput s).bind (hmono .currentConfig)).mpr
      ⟨_, hstore .configInput db, hlast⟩

/-- Accepted platform config data that can be stored is stored. -/
theorem returns_update (db : PcdDb) (handle : UInt32) :
    Returns (fun fuel => updateDimmPlatformConfigInDb fuel db handle m)
      (.success, storedDb db handle m) := by
  have hmono := fuelMono_storeConfigTable handle m
  refine (returns_bind_iff (fuelMono_checkPlatformConfig m _) fun rc => ?_).mpr
    ⟨.success, haccepted, ?_⟩
  · split_ifs
    · exact (hmono .configInput _).bind fun s => (hmono .configOutput s).bind (hmono .currentConfig)
    · exact fuelMono_const _
  · exact returns_storeConfigTables haccepted hstorable handle _

end Update

/-! ### Reading the rows -/

section Rows

variable (handle : UInt32) (m : Bytes) (kind : TableKind)

/-- The rows that are added for the partition size changes of a sub-table. -/
def partitionRows : List DbDimmPartitionChange :=
  (castTable kind m).elim [] fun table =>
    (ofType (extTables kind table) partitionChangeTable (extensionsOf kind table)).map
      (dbPartitionChange handle kind (extTables kind table))

/-- The rows that are added for the interleave tables of a sub-table. -/
def interleaveRows : List DbDimmInterleaveSet :=
  (castTable kind m).elim [] fun table =>
    (ofType (extTables kind table) interleaveTable (extensionsOf kind table)).map
      (dbInterleaveSet handle kind (extTables kind table))

/-- The rows that are added for the DIMMs of a sub-table. -/
def dimmRows : List DbInterleaveSetDimmInfoV2 :=
  (castTable kind m).elim [] fun table =>
    (ofType (extTables kind table) interleaveTable (extensionsOf kind table)).flatMap
      (dbDimmInfos handle kind (extTables kind table))

variable {handle m kind}

/-- The rows of the partition size changes after a sub-table has been stored. -/
private theorem partitionChanges_addTable (db : PcdDb) :
    (addTable handle m kind db).partitionChanges =
      db.partitionChanges ++ partitionRows handle m kind := by
  rw [addTable, partitionRows]
  cases castTable kind m with
  | none => exact (List.append_nil _).symm
  | some table => rfl

/-- The rows of the interleave tables after a sub-table has been stored. -/
private theorem interleaveSets_addTable (db : PcdDb) :
    (addTable handle m kind db).interleaveSets =
      db.interleaveSets ++ interleaveRows handle m kind := by
  rw [addTable, interleaveRows]
  cases castTable kind m with
  | none => exact (List.append_nil _).symm
  | some table => rfl

/-- The rows of the DIMMs after a sub-table has been stored. -/
private theorem dimmInfosV2_addTable (db : PcdDb) :
    (addTable handle m kind db).dimmInfosV2 = db.dimmInfosV2 ++ dimmRows handle m kind := by
  rw [addTable, dimmRows]
  cases castTable kind m with
  | none => exact (List.append_nil _).symm
  | some table => rfl

/-- The rows of the sub-tables after a sub-table has been stored. -/
private theorem configTables_addTable (db : PcdDb) (k : TableKind) :
    (addTable handle m kind db).configTables k = db.configTables k ++
      if k = kind then (castTable kind m).toList.map (dbConfigTable handle kind) else [] := by
  rw [addTable]
  cases castTable kind m with
  | none => simp
  | some table =>
    by_cases hk : k = kind
    · subst hk
      simp [addExtensions]
    · simp [addExtensions, hk]

/-- The row of the header stays when a sub-table is stored. -/
private theorem platformConfigs_addTable (db : PcdDb) :
    (addTable handle m kind db).platformConfigs = db.platformConfigs := by
  rw [addTable]
  cases castTable kind m <;> rfl

/-- Of the rows that are added for the sub-tables, those with the key of one are its own. -/
private theorem filter_added {β : Type} {cleared : List β} {rows : TableKind → List β} {p : β → Bool}
    (hcleared : ∀ x ∈ cleared, p x = false) (hrows : ∀ k, k ≠ kind → ∀ x ∈ rows k, p x = false) :
    (cleared ++ rows .configInput ++ rows .configOutput ++ rows .currentConfig).filter p =
      (rows kind).filter p := by
  have hnil : ∀ {l : List β}, (∀ x ∈ l, p x = false) → l.filter p = [] := by
    intro l hl
    refine List.filter_eq_nil_iff.mpr fun x hx => ?_
    rw [hl x hx]
    exact Bool.false_ne_true
  rw [List.filter_append, List.filter_append, List.filter_append, hnil hcleared]
  cases kind with
  | currentConfig => rw [hnil (hrows .configInput nofun), hnil (hrows .configOutput nofun)]; rfl
  | configInput =>
    rw [hnil (hrows .configOutput nofun), hnil (hrows .currentConfig nofun)]
    simp
  | configOutput =>
    rw [hnil (hrows .configInput nofun), hnil (hrows .currentConfig nofun)]
    simp

/-- A row of a partition size change belongs to the sub-table it was made from. -/
private theorem isOf_partitionRows {k : TableKind} :
    ∀ row ∈ partitionRows handle m k, row.isOf handle kind = decide (k = kind) := by
  intro row hrow
  rw [partitionRows] at hrow
  cases htable : castTable k m with
  | none =>
    rw [htable] at hrow
    cases hrow
  | some table =>
    rw [htable] at hrow
    obtain ⟨a, -, rfl⟩ := List.mem_map.mp hrow
    simp [DbDimmPartitionChange.isOf, dbPartitionChange]
    rfl

/-- A row of an interleave table belongs to the sub-table it was made from. -/
private theorem isOf_interleaveRows {k : TableKind} :
    ∀ row ∈ interleaveRows handle m k, row.isOf handle kind = decide (k = kind) := by
  intro row hrow
  rw [interleaveRows] at hrow
  cases htable : castTable k m with
  | none =>
    rw [htable] at hrow
    cases hrow
  | some table =>
    rw [htable] at hrow
    obtain ⟨a, -, rfl⟩ := List.mem_map.mp hrow
    simp [DbDimmInterleaveSet.isOf, dbInterleaveSet]
    rfl

/-- A row of a DIMM belongs to the sub-table and the interleave table it was made from. -/
private theorem isOf_dbDimmInfos {ext : Bytes} {a index : ℕ} {k : TableKind} :
    ∀ row ∈ dbDimmInfos handle k ext a,
      row.isOf handle index kind = (readLE ext (a + 4) 2 == index && k == kind) := by
  intro row hrow
  obtain ⟨i, -, rfl⟩ := List.mem_map.mp hrow
  simp [DbInterleaveSetDimmInfoV2.isOf, dbDimmInfoV2]

/-- A row of a DIMM does not belong to another sub-table. -/
private theorem isOf_dimmRows {k : TableKind} (hk : k ≠ kind) (index : ℕ) :
    ∀ row ∈ dimmRows handle m k, row.isOf handle index kind = false := by
  intro row hrow
  rw [dimmRows] at hrow
  cases htable : castTable k m with
  | none =>
    rw [htable] at hrow
    cases hrow
  | some table =>
    rw [htable] at hrow
    obtain ⟨a, -, hmem⟩ := List.mem_flatMap.mp hrow
    rw [isOf_dbDimmInfos row hmem, beq_eq_false_iff_ne.mpr hk, Bool.and_false]

variable (db : PcdDb) (handle m kind)

/-- The rows of the partition size changes of a sub-table are read back. -/
theorem filter_partitionChanges :
    (storedDb db handle m).partitionChanges.filter (DbDimmPartitionChange.isOf handle kind) =
      partitionRows handle m kind := by
  simp only [storedDb, partitionChanges_addTable, clearDimmPlatformConfigFromDb]
  rw [@filter_added kind _ _ (partitionRows handle m)]
  · refine List.filter_eq_self.mpr fun row hrow => ?_
    rw [isOf_partitionRows row hrow, decide_eq_true rfl]
  · intro row hrow
    have hother := (List.mem_filter.mp hrow).2
    simp only [bne_iff_ne] at hother
    simp [DbDimmPartitionChange.isOf, hother]
  · intro k hk row hrow
    rw [isOf_partitionRows row hrow, decide_eq_false hk]

/-- The rows of the interleave tables of a sub-table are read back. -/
theorem filter_interleaveSets :
    (storedDb db handle m).interleaveSets.filter (DbDimmInterleaveSet.isOf handle kind) =
      interleaveRows handle m kind := by
  simp only [storedDb, interleaveSets_addTable, clearDimmPlatformConfigFromDb]
  rw [@filter_added kind _ _ (interleaveRows handle m)]
  · refine List.filter_eq_self.mpr fun row hrow => ?_
    rw [isOf_interleaveRows row hrow, decide_eq_true rfl]
  · intro row hrow
    have hother := (List.mem_filter.mp hrow).2
    simp only [bne_iff_ne] at hother
    simp [DbDimmInterleaveSet.isOf, hother]
  · intro k hk row hrow
    rw [isOf_interleaveRows row hrow, decide_eq_false hk]

variable {m kind}

/-- The rows of the DIMMs of an interleave table are read back, as no other table of the sub-table has
its index. -/
theorem filter_dimmInfosV2 {table : Bytes} (htable : castTable kind m = some table)
    (hindices : ((contents kind table).interleaves.map InterleaveSet.index).Nodup) {a : ℕ}
    (ha : a ∈ ofType (extTables kind table) interleaveTable (extensionsOf kind table)) :
    (storedDb db handle m).dimmInfosV2.filter
        (DbInterleaveSetDimmInfoV2.isOf handle (readLE (extTables kind table) (a + 4) 2) kind) =
      dbDimmInfos handle kind (extTables kind table) a := by
  simp only [storedDb, dimmInfosV2_addTable, clearDimmPlatformConfigFromDb]
  rw [@filter_added kind _ _ (dimmRows handle m)]
  · rw [dimmRows, htable]
    refine @filter_flatMap_eq ℕ ℕ _ (fun b => readLE (extTables kind table) (b + 4) 2) _ ?_ _ _ _ ha ?_
    · rwa [contents, contentsAt, List.map_map] at hindices
    · intro b _ row hrow
      rw [isOf_dbDimmInfos row hrow]
      simp
  · intro row hrow
    have hother := (List.mem_filter.mp hrow).2
    simp only [bne_iff_ne] at hother
    simp [DbInterleaveSetDimmInfoV2.isOf, hother]
  · exact fun k hk => isOf_dimmRows hk _

/-- The row of a sub-table is read back. -/
theorem configTableOf_storedDb : configTableOf (storedDb db handle m) handle kind =
    (castTable kind m).map (dbConfigTable handle kind) := by
  have hcleared : ((db.configTables kind).filter fun row => row.deviceHandle != handle).find?
      (fun row => row.deviceHandle == handle) = none := by
    refine List.find?_eq_none.mpr fun row hrow => ?_
    have hother := (List.mem_filter.mp hrow).2
    simp only [bne_iff_ne] at hother
    simp [hother]
  have hown : ((castTable kind m).toList.map (dbConfigTable handle kind)).find?
      (fun row => row.deviceHandle == handle) =
        (castTable kind m).map (dbConfigTable handle kind) := by
    cases castTable kind m with
    | none => rfl
    | some table => simp [dbConfigTable]
  simp only [configTableOf, storedDb, configTables_addTable, clearDimmPlatformConfigFromDb,
    List.find?_append, hcleared]
  cases kind <;> simp [hown]

/-- The row of the header is read back. -/
theorem find?_platformConfigs :
    (storedDb db handle m).platformConfigs.find? (fun row => row.deviceHandle == handle) =
      some (dbPlatformConfig handle m) := by
  have hcleared : (db.platformConfigs.filter fun row => row.deviceHandle != handle).find?
      (fun row => row.deviceHandle == handle) = none := by
    refine List.find?_eq_none.mpr fun row hrow => ?_
    have hother := (List.mem_filter.mp hrow).2
    simp only [bne_iff_ne] at hother
    simp [hother]
  simp only [storedDb, platformConfigs_addTable, clearDimmPlatformConfigFromDb, List.find?_append,
    hcleared]
  simp [dbPlatformConfig]

end Rows

end IxpDimm.PcdDatabase
