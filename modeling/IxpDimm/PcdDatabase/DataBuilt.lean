import IxpDimm.PcdDatabase.TableBuilt

/-!
# Platform config data built from the database

The three sub-tables are built one behind the other.  With room for all of them this succeeds, and
whenever it succeeds each sub-table that has a row is where the header of the data says
(`KindBuilt`).  The data that is built is accepted exactly if it is not longer than the buffer
(`DataBuilt.accepted_iff`).
-/

namespace IxpDimm.PcdDatabase

open Foundation

/-! ### Sub-tables of the data -/

section Built

variable (db : PcdDb) (handle : UInt32) (kind : TableKind)

/-- What is built of a kind: a sub-table if it has a row, which is before an address, or nothing. -/
def KindBuilt (m : Bytes) (stop : ℕ) : Prop :=
  match configTableOf db handle kind with
  | none => tableSize kind m = 0 ∧ tableOffset kind m = 0
  | some row =>
    TableBuilt db handle kind row m (tableOffset kind m) ∧
      tableSize kind m = builtTableSize db handle kind ∧
      platformConfigDataSize ≤ tableOffset kind m ∧
      tableOffset kind m + builtTableSize db handle kind ≤ stop

/-- The size of what is built of a kind. -/
def builtKindSize : ℕ :=
  match configTableOf db handle kind with
  | none => 0
  | some _ => builtTableSize db handle kind

/-- The size of the data that is built. -/
def builtSize : ℕ := platformConfigDataSize + (buildOrder.map (builtKindSize db handle)).sum

variable {db handle kind} {m m' : Bytes} {a stop : ℕ}

/-- What is built of a kind depends on its fields in the header and on the bytes behind it. -/
theorem KindBuilt.congr (h : KindBuilt db handle kind m stop)
    (hfields : SameBytes m' m kind.sizeField 8)
    (hbytes : ∀ i, platformConfigDataSize ≤ i → i < stop → m' i = m i) :
    KindBuilt db handle kind m' stop := by
  have hoffsetField : kind.sizeField + 4 = kind.offsetField := kind.fields_lt.2.1
  have hsize : tableSize kind m' = tableSize kind m :=
    readLE_congr (hfields.mono le_rfl (by omega))
  have hoffset : tableOffset kind m' = tableOffset kind m :=
    readLE_congr (hfields.mono (by omega) (by omega))
  unfold KindBuilt at h ⊢
  cases hrow : configTableOf db handle kind with
  | none =>
    rw [hrow] at h
    exact ⟨hsize.trans h.1, hoffset.trans h.2⟩
  | some row =>
    rw [hrow] at h
    obtain ⟨htable, hsized, hstart, hstop⟩ := h
    dsimp only
    rw [hsize, hoffset]
    exact ⟨htable.congr fun i hi hlt => hbytes i (hstart.trans hi) (by omega), hsized, hstart, hstop⟩

/-- What is built of a kind stays when another kind is built behind it. -/
private theorem KindBuilt.stays {k : TableKind} (h : KindBuilt db handle k m a) (hne : k ≠ kind)
    (hstart : platformConfigDataSize ≤ a) (hstays : StaysBefore kind a m m') :
    KindBuilt db handle k m' a := by
  have hapart := sizeField_apart hne
  obtain ⟨hlow, hoffset, hend⟩ := sizeField_lt k
  refine h.congr (fun i hi hlt => hstays i (by omega) ⟨by omega, by omega⟩) fun i hi hlt => ?_
  exact hstays i hlt (outsideLengths_of_le hi)

/-- What is built of a kind is also before a later address. -/
private theorem KindBuilt.mono (h : KindBuilt db handle kind m a) (hle : a ≤ stop) :
    KindBuilt db handle kind m stop := by
  unfold KindBuilt at h ⊢
  split at h
  · exact h
  · exact ⟨h.1, h.2.1, h.2.2.1, h.2.2.2.trans hle⟩

end Built

/-! ### Building the sub-tables -/

section Spec

variable {db : PcdDb} {handle : UInt32} {size : ℕ}
  (hvalid : ∀ kind, ∀ row ∈ configTableOf db handle kind, TableRowValid db handle kind row)

include hvalid

/-- A kind is built behind the data so far. -/
private theorem getDimmConfigTableFromDb_kind {kind : TableKind} {m : Bytes} {a : ℕ}
    (h : BuiltUpTo (tablesBefore kind) m a) (hblank : Blank m a)
    (hrange : a + builtKindSize db handle kind < 2 ^ 32) :
    let result := getDimmConfigTableFromDb kind db handle m size
    let stop := a + builtKindSize db handle kind
    (stop ≤ size → result.1 = .success) ∧ (result.1 = .success →
      BuiltUpTo (tablesBefore kind ++ [kind]) result.2 stop ∧ Blank result.2 stop ∧
        KindBuilt db handle kind result.2 stop ∧ StaysBefore kind a m result.2) := by
  have hstart : platformConfigDataSize ≤ a := by
    rw [← h.sizes]
    exact Nat.le_add_right _ _
  unfold KindBuilt builtKindSize at *
  cases hrow : configTableOf db handle kind with
  | none =>
    obtain ⟨hstate, hsize, hoffset, hframe⟩ := h.absent
    have hresult : getDimmConfigTableFromDb kind db handle m size =
        (.success, writeFields m 0 [(kind.sizeField, 4, 0), (kind.offsetField, 4, 0)]) := by
      rw [getDimmConfigTableFromDb, hrow]
    rw [hresult]
    refine ⟨fun _ => rfl, fun _ => ⟨hstate, fun i hi => ?_, ⟨hsize, hoffset⟩,
      fun i _ houtside => hframe i houtside⟩⟩
    exact (hframe i (outsideLengths_of_le (hstart.trans hi))).trans (hblank i hi)
  | some row =>
    rw [hrow] at hrange
    obtain ⟨hroom, hdone⟩ := @getDimmConfigTableFromDb_spec db handle kind size a row m hrow
      (hvalid kind row hrow) h hblank hrange
    refine ⟨hroom, fun hok => ?_⟩
    have hfinished := hdone hok
    refine ⟨hfinished.state, hfinished.blank, ?_, hfinished.stays⟩
    dsimp only
    rw [hfinished.offset]
    exact ⟨hfinished.table, hfinished.size, hstart, le_rfl⟩

/-- Sub-tables are built one behind the other: with room for all of them it succeeds, and when it
succeeds they are there. -/
private theorem buildTables_spec {kinds done : List TableKind} {m : Bytes} {a : ℕ}
    (horder : InOrder done kinds) (h : BuiltUpTo done m a) (hblank : Blank m a)
    (hbuilt : ∀ k ∈ done, KindBuilt db handle k m a)
    (hrange : a + (kinds.map (builtKindSize db handle)).sum < 2 ^ 32) :
    let result := buildTables db handle size kinds m
    let stop := a + (kinds.map (builtKindSize db handle)).sum
    (stop ≤ size → result.1 = .success) ∧ (result.1 = .success →
      headerLength result.2 = stop ∧ Blank result.2 stop ∧
        (∀ k ∈ done ++ kinds, KindBuilt db handle k result.2 stop) ∧
        ∀ i, i < configDataTableHeaderSize → (i < 4 ∨ 8 ≤ i) → result.2 i = m i) := by
  have hstart : platformConfigDataSize ≤ a := by
    rw [← h.sizes]
    exact Nat.le_add_right _ _
  induction kinds generalizing done m a with
  | nil =>
    refine ⟨fun _ => rfl, fun _ => ⟨h.length, hblank, ?_, fun _ _ _ => rfl⟩⟩
    rwa [List.append_nil]
  | cons kind kinds ih =>
    obtain ⟨rfl, horder⟩ := horder
    rw [List.map_cons, List.sum_cons] at hrange ⊢
    obtain ⟨hroom, hdone⟩ := @getDimmConfigTableFromDb_kind db handle size hvalid kind m a h hblank
      (by omega)
    rw [buildTables]
    generalize getDimmConfigTableFromDb kind db handle m size = result at hroom hdone ⊢
    dsimp only
    split_ifs with hok
    · obtain ⟨hstate, hblank', hkind, hstays⟩ := hdone hok
      have hbuilt' : ∀ k ∈ tablesBefore kind ++ [kind],
          KindBuilt db handle k result.2 (a + builtKindSize db handle kind) := by
        intro k hk
        rcases List.mem_append.mp hk with hbefore | hself
        · have hne : k ≠ kind := fun heq => notMem_tablesBefore kind (heq ▸ hbefore)
          exact ((hbuilt k hbefore).stays hne hstart hstays).mono (Nat.le_add_right _ _)
        · obtain rfl := List.mem_singleton.mp hself
          exact hkind
      have hnext := @ih _ result.2 (a + builtKindSize db handle kind) horder hstate hblank' hbuilt'
        (by omega) (by omega)
      rw [List.append_assoc, List.singleton_append, Nat.add_assoc] at hnext
      refine ⟨hnext.1, fun hsuccess => ?_⟩
      obtain ⟨hlength, hblank'', htables, hheader⟩ := hnext.2 hsuccess
      refine ⟨hlength, hblank'', htables, fun i hi hapart => ?_⟩
      have hfield := kind.fields_lt.1
      rw [hheader i hi hapart]
      refine hstays i ?_ ⟨hapart, Or.inl (by omega)⟩
      unfold configDataTableHeaderSize at hi
      unfold platformConfigDataSize at hstart
      omega
    · exact ⟨fun hle => absurd (hroom (by omega)) hok, fun hsuccess => absurd hsuccess hok⟩

end Spec

/-! ### The data -/

/-- The data of a DIMM has been built. -/
structure DataBuilt (db : PcdDb) (handle : UInt32) (row : DbDimmPlatformConfig) (m : Bytes) :
    Prop where
  /-- The length. -/
  length : headerLength m = builtSize db handle
  /-- The signature. -/
  signature : readLE m 0 4 = row.header.signature
  /-- The checksum. -/
  checksum : sumBytes m 0 (builtSize db handle) = 0
  /-- There is nothing behind the data. -/
  blank : Blank m (builtSize db handle)
  /-- The sub-tables. -/
  tables : ∀ kind, KindBuilt db handle kind m (builtSize db handle)

section Data

variable {db : PcdDb} {handle : UInt32} {row : DbDimmPlatformConfig}

/-- The data is finished by its checksum. -/
private theorem dataBuilt_of_tables {m : Bytes} (hlength : headerLength m = builtSize db handle)
    (hsignature : readLE m 0 4 = row.header.signature) (hblank : Blank m (builtSize db handle))
    (htables : ∀ kind, KindBuilt db handle kind m (builtSize db handle)) :
    DataBuilt db handle row (generateChecksum m (builtSize db handle) checksumOffset) := by
  have hlarge : platformConfigDataSize ≤ builtSize db handle := Nat.le_add_right _ _
  unfold platformConfigDataSize at hlarge
  -- the checksum is outside of all other fields
  have happly : ∀ i, i ≠ 9 → generateChecksum m (builtSize db handle) checksumOffset i = m i :=
    fun i hi => generateChecksum_apply_of_ne _ _ hi
  refine ⟨?_, ?_, ?_, fun i hi => ?_, fun kind => ?_⟩
  · exact (readLE_congr fun i _ hi => happly i (by omega)).trans hlength
  · exact (readLE_congr fun i _ hi => happly i (by omega)).trans hsignature
  · exact sumBytes_generateChecksum _ (by unfold checksumOffset; omega)
  · rw [happly i (by omega), hblank i hi]
  · have hfield := kind.fields_lt.1
    unfold configDataTableHeaderSize at hfield
    refine (htables kind).congr (fun i hi _ => happly i (by omega)) fun i hi _ => happly i ?_
    unfold platformConfigDataSize at hi
    omega

/-- The data of a DIMM is built in a blank buffer: with room it succeeds, and when it succeeds the
data is there. -/
theorem getDimmPlatformConfigDataFromDb_spec
    (hvalid : ∀ kind, ∀ row ∈ configTableOf db handle kind, TableRowValid db handle kind row)
    (hrow : db.platformConfigs.find? (fun row => row.deviceHandle == handle) = some row)
    (hsignature : row.header.signature < 256 ^ 4) (hrange : builtSize db handle < 2 ^ 32)
    (size : UInt32) :
    let result := getDimmPlatformConfigDataFromDb db handle (fun _ => 0) size
    (builtSize db handle ≤ size.toNat → result.1 = .success) ∧
      (result.1 = .success → DataBuilt db handle row result.2) := by
  by_cases hroom : platformConfigDataSize ≤ size.toNat
  · rw [getDimmPlatformConfigDataFromDb_stored _ hroom hrow]
    obtain ⟨hstate, hframe⟩ := builtUpTo_headerFields (fun _ => 0) row.header
    have hfirst : readLE (writeFields (fun _ => 0) 0 (headerFields row.header platformConfigDataSize))
        0 4 = row.header.signature := by
      have hread := @readLE_writeFields (headerFields row.header platformConfigDataSize) (fun _ => 0)
        0 0 4 row.header.signature (by simp [headerFields, FieldsDisjoint]) (by simp [headerFields])
      rwa [Nat.zero_add, Nat.mod_eq_of_lt hsignature] at hread
    have hspec := @buildTables_spec db handle size.toNat hvalid buildOrder [] _ _
      inOrder_buildOrder hstate (fun i hi => hframe i hi) (List.forall_mem_nil _) hrange
    generalize writeFields (fun _ => 0) 0 _ = m₀ at hfirst hspec ⊢
    generalize buildTables db handle size.toNat buildOrder m₀ = result at hspec ⊢
    obtain ⟨hok, hdone⟩ := hspec
    dsimp only
    split_ifs with hsuccess
    · obtain ⟨hlength, hblank, htables, hheader⟩ := hdone hsuccess
      rw [hlength]
      refine ⟨fun _ => rfl, fun _ => dataBuilt_of_tables hlength ?_ hblank fun kind => ?_⟩
      · rw [← hfirst]
        exact readLE_congr fun i _ hi => hheader i (by unfold configDataTableHeaderSize; omega)
          (Or.inl (by omega))
      · exact htables kind (by cases kind <;> decide)
    · exact ⟨fun hle => absurd (hok hle) hsuccess, fun h => absurd h hsuccess⟩
  · rw [getDimmPlatformConfigDataFromDb, if_pos (not_le.mp hroom)]
    refine ⟨fun hle => absurd ?_ hroom, fun hok => by cases hok⟩
    exact (Nat.le_add_right _ _).trans hle

/-- The sizes and offsets in the header of the data are valid. -/
private theorem DataBuilt.isPcdHeaderTableInfoValid {m : Bytes} (h : DataBuilt db handle row m) :
    isPcdHeaderTableInfoValid m = true := by
  refine List.all_eq_true.mpr fun kind _ => ?_
  have hkind := h.tables kind
  unfold KindBuilt at hkind
  unfold arePcdHeaderTableSizeAndOffsetValid
  cases hrow : configTableOf db handle kind with
  | none =>
    rw [hrow] at hkind
    rw [hkind.1, hkind.2]
    rfl
  | some row =>
    rw [hrow] at hkind
    obtain ⟨-, hsize, hoffset, -⟩ := hkind
    have hlow := (lt_structSize kind).1
    have hpresent : 0 < tableSize kind m := by
      rw [hsize, builtTableSize]
      omega
    simp [hpresent, hoffset]

section Accepted

variable {m : Bytes} (h : DataBuilt db handle row m)
  (hvalid : ∀ kind, ∀ row ∈ configTableOf db handle kind, TableRowValid db handle kind row)

include h hvalid

/-- The sub-tables of the data say what their rows say. -/
theorem DataBuilt.contents_eq (kind : TableKind) : (castTable kind m).map (contents kind) =
    (configTableOf db handle kind).map (contentsOf db handle kind) := by
  have hkind := h.tables kind
  unfold KindBuilt at hkind
  cases hrow : configTableOf db handle kind with
  | none =>
    rw [hrow] at hkind
    rw [castTable, if_neg (by rw [hkind.1]; decide)]
    rfl
  | some row =>
    rw [hrow] at hkind
    obtain ⟨htable, hsize, -⟩ := hkind
    have hlow := (lt_structSize kind).1
    rw [castTable, if_pos (by rw [hsize, builtTableSize]; omega), Option.map_some,
      htable.contents_eq (hvalid kind row hrow), Option.map_some]

/-- The check of each sub-table of the data succeeds. -/
private theorem DataBuilt.returns_checkTable (kind : TableKind) :
    Returns (fun fuel => checkTable kind fuel m) .success := by
  have hkind := h.tables kind
  unfold KindBuilt at hkind
  cases hrow : configTableOf db handle kind with
  | none =>
    rw [hrow] at hkind
    exact returns_checkTable_of_absent hkind.1
  | some row =>
    rw [hrow] at hkind
    obtain ⟨htable, hsize, -⟩ := hkind
    have hlow := (lt_structSize kind).1
    have hrowValid := hvalid kind row hrow
    obtain ⟨hlength, hsound⟩ := htable.sound hrowValid
    refine (returns_checkTable_iff (by rw [hsize, builtTableSize]; omega)).mpr ⟨true, ?_, rfl⟩
    refine (returns_isTableValid_true_iff (by rw [hlength]; exact hrowValid.size)).mpr ⟨?_, hsound⟩
    rw [hlength, hsize]

/-- The data is accepted exactly if it is not longer than the buffer. -/
theorem DataBuilt.accepted_iff
    (hsignature : row.header.signature = readLE (ofList platformConfigTableSignature) 0 4)
    (size : UInt32) :
    Accepted m (UInt64.ofNat size.toNat) ↔ builtSize db handle ≤ size.toNat := by
  have hlt := size.toNat_lt
  have hmod : (UInt64.ofNat size.toNat).toNat % 2 ^ 32 = size.toNat := by
    rw [UInt64.toNat_ofNat_of_lt' (by show size.toNat < 2 ^ 64; omega), Nat.mod_eq_of_lt hlt]
  have hlarge : platformConfigDataSize ≤ builtSize db handle := Nat.le_add_right _ _
  rw [IxpDimm.accepted_iff, isPlatformConfigHeaderValid, h.length, if_neg (not_lt.mpr hlarge), hmod,
    h.isPcdHeaderTableInfoValid, Bool.and_true, isConfigDataTableHeaderValid, h.length]
  constructor
  · rintro ⟨hheader, -⟩
    by_contra hover
    rw [if_pos (not_le.mp hover)] at hheader
    cases hheader
  · intro hle
    refine ⟨?_, h.returns_checkTable hvalid⟩
    have hsum : sumBytes m 0 size.toNat = 0 := by
      obtain ⟨k, hk⟩ := Nat.exists_eq_add_of_le hle
      rw [hk, sumBytes_add, h.checksum, sumBytes_eq_zero fun i hi _ => h.blank i (by omega)]
      rfl
    have hsig : headerSignature m = platformConfigTableSignature := by
      rw [headerSignature_eq_iff rfl, h.signature, hsignature]
    rw [if_neg (not_lt.mpr hle), verifyChecksum, hsum, hsig]
    rfl

end Accepted

end Data

end IxpDimm.PcdDatabase
