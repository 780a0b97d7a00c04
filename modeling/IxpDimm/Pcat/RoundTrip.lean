import IxpDimm.Pcat.Rebuilt

/-!
# The round trip of a PCAT through the database

A PCAT that is stored with `update_pcat_in_db` and rebuilt with `get_pcat_from_db` has the same
tables, grouped by their types (`regrouped`).  Since the tables of a type stay in their order,
`get_socket_sku` finds the same tables in it.  `apply_bios_capabilities` is left at the first
interleave table of a reserved mode, and a platform information table that was behind it comes
before it (`RoundTripsWhen`).
-/

namespace IxpDimm.Pcat

open Foundation

/-! ### The statement -/

/-- The bytes of the table in a buffer. -/
def bytesOf (m : Bytes) : List UInt8 := (List.range (headerLength m)).map m

/-- The PCAT is stored, a PCAT is rebuilt from the database, its bytes sum to zero, and the
capabilities and the socket SKUs are those of the original. -/
def RoundTrips (db : PcatDb) (pcat : List UInt8) (memory : Bytes) (capLen : ℕ)
    (features : NvmFeatures) : Prop :=
  ∃ db' m, Returns (updatePcatInDb db pcat) (.ok (.success, db')) ∧
    getPcatFromDb db' memory capLen = (.success, m) ∧
    verifyChecksum m (headerLength m) = true ∧
    (∃ rc caps caps',
      Returns (applyBiosCapabilities pcat ⟨{}, features⟩) (.ok (rc, caps)) ∧
      Returns (applyBiosCapabilities (bytesOf m) ⟨{}, features⟩) (.ok (rc, caps')) ∧
      caps'.platformCapabilities.report = caps.platformCapabilities.report ∧
      caps'.nvmFeatures = caps.nvmFeatures) ∧
    ∀ id, ∃ rc socket, Returns (getSocketSku pcat id) (.ok (rc, socket)) ∧
      Returns (getSocketSku (bytesOf m) id) (.ok (rc, socket))

/-- The PCATs that make the round trip. -/
structure RoundTripsWhen (pcat : List UInt8) : Prop where
  /-- The formats of every interleave table have room in a row of the database. -/
  stored : ∀ table ∈ (extTables pcat).1, FormatsFit table
  /-- The ways of the formats have room in the capabilities, up to the first reserved mode. -/
  applied : ∀ table ∈ visitedTables (extTables pcat).1, ∀ t, decode table = some t → t.Fits
  /-- A platform information table behind the first reserved mode says nothing. -/
  behind : ∀ table ∈ (extTables pcat).1.dropWhile (fun table => !leaves table), ∀ t,
    decode table = some t → t.platformInfo?.isSome → describe [t] = describe []

/-! ### What the walk applies -/

/-- The tables that the walk applies. -/
def applied (tables : List (List UInt8)) : List ExtTable := (visitedTables tables).filterMap decode

/-- The walk through tables that are decoded. -/
theorem walkResult_applied {tables : List (List UInt8)} (hheader : ∀ table ∈ tables, 4 ≤ table.length)
    (hdecode : ∀ table ∈ tables, ∃ t, decode table = some t) {rc : ReturnCode}
    {caps : PlatformCapabilities} :
    walkResult applyVisit (tables, .done) {} = .ok (rc, caps) ↔
      rc = .success ∧ (∀ t ∈ applied tables, t.Fits) ∧
        caps = (applied tables).foldl applyTable {} := by
  have hrc : ∀ caps' : PlatformCapabilities, (if tables.any leaves = true then rc = .success
      else ChainEnd.done.result caps' = .ok (rc, caps')) ↔ rc = ReturnCode.success := by
    intro caps'
    by_cases hleaves : tables.any leaves = true
    · rw [if_pos hleaves]
    · rw [if_neg hleaves]
      exact ⟨fun h => (Prod.mk.inj (Except.ok.inj h)).1.symm, fun h => by rw [h]; rfl⟩
  have hsame : ∀ {l : List (List UInt8)} {ts : List ExtTable},
      List.Forall₂ (fun table t => decode table = some t) l ts → ts = l.filterMap decode := by
    intro l ts h
    induction h with
    | nil => rfl
    | cons hdecode _ ih => rw [List.filterMap_cons, hdecode, ← ih]
  rw [walkResult_eq_ok hheader]
  constructor
  · rintro ⟨ts, hts, hfits, rfl, hsuccess⟩
    have hts' : ts = applied tables := hsame hts
    rw [hts'] at hfits ⊢
    exact ⟨(hrc _).mp hsuccess, hfits, rfl⟩
  · rintro ⟨hsuccess, hfits, rfl⟩
    obtain ⟨ts, hts⟩ : ∃ ts, List.Forall₂ (fun table t => decode table = some t)
        (visitedTables tables) ts :=
      exists_forall₂ fun table htable => hdecode table ((List.takeWhile_sublist _).mem htable)
    have hts' : ts = applied tables := hsame hts
    rw [hts'] at hts
    exact ⟨_, hts, hfits, rfl, (hrc _).mpr hsuccess⟩

/-- What only tables of a type say is said by the tables of this type. -/
private theorem filterMap_tablesOf {β : Type} {f : ExtTable → Option β} {type : ℕ}
    (h : ∀ table t, decode table = some t → tableType table ≠ type → f t = none)
    (tables : List (List UInt8)) :
    (tables.filterMap decode).filterMap f = ((tablesOf type tables).filterMap decode).filterMap f := by
  rw [List.filterMap_filterMap, List.filterMap_filterMap, tablesOf, List.filterMap_filter]
  congr 1
  funext table
  by_cases htype : tableType table = type
  · rw [if_pos (decide_eq_true htype)]
  · rw [if_neg (by simpa using htype)]
    cases hdecode : decode table with
    | none => rfl
    | some t => exact h table t hdecode htype

/-- The platform information is that of the tables of type 0. -/
theorem platformInfos_decode (tables : List (List UInt8)) :
    platformInfos (tables.filterMap decode) =
      platformInfos ((tablesOf 0 tables).filterMap decode) := by
  refine filterMap_tablesOf (fun table t hdecode htype => ?_) tables
  rcases tableType_of_decode hdecode with ⟨h0, -⟩ | ⟨-, rfl | ⟨mode, alignment, formats, rfl⟩⟩ | ⟨-, -, rfl⟩
  · exact absurd h0 htype
  · rfl
  · rfl
  · rfl

/-- The formats of a mode are those of the tables of type 1. -/
theorem interleaves_decode (tables : List (List UInt8)) (mode : MemMode) :
    interleaves (tables.filterMap decode) mode =
      interleaves ((tablesOf 1 tables).filterMap decode) mode := by
  refine filterMap_tablesOf (fun table t hdecode htype => ?_) tables
  rcases tableType_of_decode hdecode with ⟨-, a, b, c, d, rfl⟩ | ⟨h1, -⟩ | ⟨-, -, rfl⟩
  · rfl
  · exact absurd h1 htype
  · rfl

/-- The room for the formats depends on the tables of type 1. -/
theorem fits_decode (tables : List (List UInt8)) :
    (∀ t ∈ tables.filterMap decode, t.Fits) ↔
      ∀ t ∈ (tablesOf 1 tables).filterMap decode, t.Fits := by
  constructor
  · intro h t ht
    obtain ⟨table, htable, hdecode⟩ := List.mem_filterMap.mp ht
    exact h t (List.mem_filterMap.mpr ⟨table, List.mem_of_mem_filter htable, hdecode⟩)
  · intro h t ht
    obtain ⟨table, htable, hdecode⟩ := List.mem_filterMap.mp ht
    rcases tableType_of_decode hdecode with ⟨-, a, b, c, d, rfl⟩ | ⟨h1, -⟩ | ⟨-, -, rfl⟩
    · trivial
    · have hmem : table ∈ tablesOf 1 tables := List.mem_filter.mpr ⟨htable, decide_eq_true h1⟩
      exact h t (List.mem_filterMap.mpr ⟨table, hmem, hdecode⟩)
    · trivial

/-! ### The original and the rebuilt PCAT -/

/-- The tables that a walk comes to have their fields. -/
theorem WellFormed.structSize_le {pcat : List UInt8} (h : WellFormed pcat) {table : List UInt8}
    (htable : table ∈ (extTables pcat).1) : structSize table ≤ table.length :=
  (h.fields table htable).trans (mem_tablesFrom htable).2.2

/-- What `update_pcat_in_db` returns. -/
theorem returns_update {pcat : List UInt8} (h : WellFormed pcat) (db : PcatDb)
    {r : Except Fault (ReturnCode × PcatDb)} :
    Returns (updatePcatInDb db pcat) r ↔
      (if ∀ table ∈ (extTables pcat).1, FormatsFit table then
        .ok (.success, storedDb pcat (extTables pcat).1) else .error .write) = r := by
  have hmap : Returns (updatePcatInDb db pcat) r ↔
      ∃ result, Returns (walkTables pcat updateVisit
          ({ clearPcatFromDb db with platformCapabilities := [headerRow pcat] }, .success)) result ∧
        result.map (fun x => (if x.1 = .success then x.2.2 else x.1, x.2.1)) = r := returns_map_iff
  have hvisit := @visitTables_update (extTables pcat).1
    (fun table htable => h.structSize_le htable)
    { clearPcatFromDb db with platformCapabilities := [headerRow pcat] } h.nodes
  have hfilled := h.filled
  rw [hmap]
  simp only [returns_walk_iff h.length_eq, exists_eq_left']
  change (walkResult updateVisit (extTables pcat) _).map _ = r ↔ _
  rw [walkResult, hvisit, hfilled]
  by_cases hfits : ∀ table ∈ (extTables pcat).1, FormatsFit table
  · rw [if_pos hfits, if_pos hfits, foldl_storeTable]
    rfl
  · rw [if_neg hfits, if_neg hfits]
    rfl

/-- The tables of the rebuilt PCAT are the regrouped tables of the original. -/
theorem rebuilt_tables {pcat : List UInt8} (h : WellFormed pcat)
    (hfits : ∀ table ∈ (extTables pcat).1, FormatsFit table) {capLen : ℕ}
    (hcap : pcat.length ≤ capLen) (memory : Bytes) :
    ∃ m, getPcatFromDb (storedDb pcat (extTables pcat).1) memory capLen = (.success, m) ∧
      verifyChecksum m (headerLength m) = true ∧
      headerLength (ofList (bytesOf m)) = (bytesOf m).length ∧
      (extTables (bytesOf m)).2 = .done ∧
      List.Forall₂ SameTable (extTables (bytesOf m)).1 (regrouped (extTables pcat).1) := by
  have hrows := @dbRows_storedDb pcat _ h.platformInfo h.runtimeValidation
  have htotal := totalSize_dbRows_le h
  have hmax := h.length_le
  rw [← hrows] at htotal
  obtain ⟨m, hget, hlength, hchecksum, hlaid⟩ := getPcatFromDb_spec
    (@storedDb_valid pcat _ hfits) rfl (htotal.trans hcap)
    (by rw [pcatMaxLen] at hmax; omega) memory
  have hbytes : (bytesOf m).length = headerLength m := by
    rw [bytesOf, List.length_map, List.length_range]
  have hsame : SameBytes (ofList (bytesOf m)) m 0 (headerLength m) := by
    intro i _ hi
    rw [Nat.zero_add] at hi
    rw [ofList, bytesOf, List.getD_eq_getElem?_getD, List.getElem?_map, List.getElem?_range hi]
    rfl
  have hlaid' : LaidOut (ofList ((bytesOf m).drop pcatTableSize)) 0
      ((regrouped (extTables pcat).1).map builtRow) := by
    rw [← view_ofList, laidOut_view, Nat.add_zero, ← hrows]
    exact hlaid.congr (hsame.mono (Nat.zero_le _) (by omega))
  obtain ⟨hdone, htables⟩ := tablesFrom_of_laidOut
    (fun row hrow => by
      obtain ⟨table, -, rfl⟩ := List.mem_map.mp hrow
      exact builtRow_isTable table)
    (by rw [List.length_drop, hbytes, hlength, hrows, Nat.add_sub_cancel_left]) hlaid'
  refine ⟨m, hget, hchecksum, ?_, hdone, ?_⟩
  · rw [hbytes]
    refine readLE_congr (hsame.mono (Nat.zero_le _) ?_)
    rw [hlength, pcatTableSize]
    omega
  · have hflip := (List.forall₂_map_right_iff.mp htables).flip
    refine List.Forall₂.flip (((List.forall₂_and_left _ _).mpr
      ⟨fun table htable => mem_regrouped.mp htable, hflip⟩).imp ?_)
    rintro table table' ⟨⟨hmem, htype⟩, hsize, hholds⟩
    exact sameTable_of_holds htype (h.structSize_le hmem) hsize hholds

/-- The walk for the capabilities reads the same. -/
private theorem applied_congr {tables' tables : List (List UInt8)}
    (h : List.Forall₂ SameTable tables' tables) : applied tables' = applied tables := by
  induction h with
  | nil => rfl
  | @cons table' table tables' tables hsame _ ih =>
    have hleaves : leaves table' = leaves table := by rw [leaves, leaves, hsame.decode]
    simp only [applied, visitedTables, List.takeWhile_cons, hleaves] at ih ⊢
    cases leaves table with
    | true => rfl
    | false =>
      rw [Bool.not_false, if_pos rfl, if_pos rfl, List.filterMap_cons, List.filterMap_cons,
        hsame.decode, ih]

/-- The walk for a socket reads the same. -/
private theorem socketInfos_congr {tables' tables : List (List UInt8)}
    (h : List.Forall₂ SameTable tables' tables) : socketInfos tables' = socketInfos tables := by
  induction h with
  | nil => rfl
  | @cons table' table tables' tables hsame _ ih =>
    simp only [socketInfos, List.filter_cons, hsame.type] at ih ⊢
    by_cases h6 : tableType table = 6
    · rw [if_pos (decide_eq_true h6), if_pos (decide_eq_true h6), List.map_cons, List.map_cons,
        (hsame.socket h6).2, ih]
    · rw [if_neg (by simpa using h6), if_neg (by simpa using h6), ih]

/-- The features depend on the report. -/
private theorem features_congr {caps caps' : PlatformCapabilities} (h : caps'.report = caps.report)
    (features : NvmFeatures) : platformCapabilitiesToNvmFeatures caps' features =
      platformCapabilitiesToNvmFeatures caps features := by
  have hconfig : caps'.biosConfigSupport = caps.biosConfigSupport :=
    congrArg Report.biosConfigSupport h
  have hstorage : caps'.storageModeSupported = caps.storageModeSupported :=
    congrArg Report.storageModeSupported h
  have hmode : ∀ mode, (caps'.modes mode).supported = (caps.modes mode).supported :=
    fun mode => congrArg (fun r : Report => (r.modes mode).supported) h
  rw [platformCapabilitiesToNvmFeatures, platformCapabilitiesToNvmFeatures, hconfig, hstorage,
    hmode, hmode]

/-- The socket that is found. -/
private theorem returns_sku {pcat : List UInt8}
    (hlength : headerLength (ofList pcat) = pcat.length) (hfilled : (extTables pcat).2 = .done)
    (hsize : ∀ table ∈ (extTables pcat).1, tableType table = 6 → 32 ≤ table.length) (id : ℕ) :
    Returns (getSocketSku pcat id) (.ok (((socketInfos (extTables pcat).1).find? fun info =>
      info.nodeId = id).elim (.success, {}) fun info => (info.status, info.socket))) := by
  have hwalk : Returns (getSocketSku pcat id) (walkResult (skuVisit id) (extTables pcat) {}) :=
    returns_walk hlength (skuVisit id) {}
  rw [walkResult, visitTables_sku hsize, hfilled] at hwalk
  cases hfind : (socketInfos (extTables pcat).1).find? fun info => info.nodeId = id with
  | none =>
    rw [hfind] at hwalk
    exact hwalk
  | some info =>
    rw [hfind] at hwalk
    exact hwalk

/-- Descriptions differ by what the platform information tables and the interleave tables say. -/
private theorem describe_eq_iff {ts us ts' us' : List ExtTable}
    (hts : platformInfos ts = platformInfos ts') (hus : platformInfos us = platformInfos us')
    (h : ∀ mode, interleaves ts mode = interleaves us mode)
    (h' : ∀ mode, interleaves ts' mode = interleaves us' mode) :
    describe ts = describe us ↔ describe ts' = describe us' := by
  simp only [describe, hts, hus, h, h', Report.mk.injEq, funext_iff, ModeReport.mk.injEq, and_true]

/-- What the walk applies of the regrouped tables. -/
private theorem applied_regrouped (tables : List (List UInt8)) :
    platformInfos (applied (regrouped tables)) =
        platformInfos ((tablesOf 0 tables).filterMap decode) ∧
      (∀ mode, interleaves (applied (regrouped tables)) mode = interleaves (applied tables) mode) ∧
      ((∀ t ∈ applied (regrouped tables), t.Fits) ↔ ∀ t ∈ applied tables, t.Fits) := by
  obtain ⟨hinfo, hmode⟩ := tablesOf_visitedTables_regrouped tables
  refine ⟨?_, fun mode => ?_, ?_⟩
  · rw [applied, platformInfos_decode, hinfo]
  · rw [applied, interleaves_decode, hmode, ← interleaves_decode, applied]
  · rw [applied, fits_decode, hmode, ← fits_decode, applied]

/-- The regrouped tables describe the same when the platform information behind the first reserved
mode says nothing. -/
private theorem describe_regrouped_iff {tables : List (List UInt8)}
    (hdecode : ∀ table ∈ tables, ∃ t, decode table = some t)
    (hinfo : (tablesOf 0 tables).length ≤ 1) :
    describe (applied (regrouped tables)) = describe (applied tables) ↔
      ∀ table ∈ tables.dropWhile (fun table => !leaves table), ∀ t, decode table = some t →
        t.platformInfo?.isSome → describe [t] = describe [] := by
  obtain ⟨hinfos, hmodes, -⟩ := applied_regrouped tables
  have hsplit : visitedTables tables ++ tables.dropWhile (fun table => !leaves table) = tables :=
    List.takeWhile_append_dropWhile
  have hvisited : platformInfos (applied tables) =
      platformInfos ((tablesOf 0 (visitedTables tables)).filterMap decode) := by
    rw [applied, platformInfos_decode]
  generalize tables.dropWhile (fun table => !leaves table) = behind at hsplit ⊢
  have hall : tablesOf 0 tables = tablesOf 0 (visitedTables tables) ++ tablesOf 0 behind := by
    rw [← tablesOf_append, hsplit]
  have htype : ∀ table t, decode table = some t → t.platformInfo?.isSome → tableType table = 0 := by
    intro table t ht hsome
    rcases tableType_of_decode ht with ⟨h0, -⟩ | ⟨-, rfl | ⟨mode, alignment, formats, rfl⟩⟩ |
      ⟨-, -, rfl⟩
    · exact h0
    · cases hsome
    · cases hsome
    · cases hsome
  cases hbehind : tablesOf 0 behind with
  | nil =>
    rw [hbehind, List.append_nil] at hall
    refine iff_of_true (describe_congr (by rw [hinfos, hvisited, hall]) hmodes) ?_
    intro table hmem t ht hsome
    have hnone : table ∈ tablesOf 0 behind :=
      List.mem_filter.mpr ⟨hmem, decide_eq_true (htype table t ht hsome)⟩
    rw [hbehind] at hnone
    cases hnone
  | cons p rest =>
    rw [hbehind] at hall
    have hlengths := hinfo
    rw [hall, List.length_append, List.length_cons] at hlengths
    have hnone : tablesOf 0 (visitedTables tables) = [] :=
      List.eq_nil_of_length_eq_zero (by omega)
    have hrest : rest = [] := List.eq_nil_of_length_eq_zero (by omega)
    subst hrest
    rw [hnone, List.nil_append] at hall
    have hp : p ∈ behind ∧ tableType p = 0 := by
      have hmem : p ∈ tablesOf 0 behind := by rw [hbehind]; exact List.mem_cons_self
      exact ⟨List.mem_of_mem_filter hmem, of_decide_eq_true (List.mem_filter.mp hmem).2⟩
    have hptables : p ∈ tables := by rw [← hsplit]; exact List.mem_append_right _ hp.1
    obtain ⟨t, ht⟩ := hdecode p hptables
    have hsome : t.platformInfo?.isSome ∧ ∀ mode, t.interleave? mode = none := by
      rcases tableType_of_decode ht with ⟨-, a, b, c, d, rfl⟩ | ⟨h1, -⟩ | ⟨h0, -⟩
      · exact ⟨rfl, fun _ => rfl⟩
      · omega
      · exact absurd hp.2 h0
    have hone : platformInfos (applied (regrouped tables)) = platformInfos [t] := by
      rw [hinfos, hall, List.filterMap_cons, ht]
      rfl
    have hzero : platformInfos (applied tables) = platformInfos [] := by
      rw [hvisited, hnone]
      rfl
    have hmode : ∀ mode, interleaves [t] mode = interleaves [] mode := by
      intro mode
      rw [interleaves, List.filterMap_cons, hsome.2 mode]
      rfl
    rw [describe_eq_iff hone hzero hmodes hmode]
    constructor
    · intro h table hmem t' ht' hsome'
      have hsame : table ∈ tablesOf 0 behind :=
        List.mem_filter.mpr ⟨hmem, decide_eq_true (htype table t' ht' hsome')⟩
      rw [hbehind, List.mem_singleton] at hsame
      rw [hsame, ht] at ht'
      rw [← Option.some.inj ht']
      exact h
    · exact fun h => h p hp.1 t ht hsome.1

/-- When the capabilities of the original and of the rebuilt PCAT are the same. -/
private theorem applySame_iff {pcat bytes : List UInt8} (h : WellFormed pcat)
    (hlength : headerLength (ofList bytes) = bytes.length) (hfilled : (extTables bytes).2 = .done)
    (hsame : List.Forall₂ SameTable (extTables bytes).1 (regrouped (extTables pcat).1))
    (features : NvmFeatures) :
    (∃ rc caps caps',
      Returns (applyBiosCapabilities pcat ⟨{}, features⟩) (.ok (rc, caps)) ∧
      Returns (applyBiosCapabilities bytes ⟨{}, features⟩) (.ok (rc, caps')) ∧
      caps'.platformCapabilities.report = caps.platformCapabilities.report ∧
      caps'.nvmFeatures = caps.nvmFeatures) ↔
    (∀ t ∈ applied (extTables pcat).1, t.Fits) ∧
      describe (applied (regrouped (extTables pcat).1)) = describe (applied (extTables pcat).1) := by
  have hreturns : ∀ {pcat : List UInt8}, headerLength (ofList pcat) = pcat.length →
      (extTables pcat).2 = .done → (∀ table ∈ (extTables pcat).1, ∃ t, decode table = some t) →
      ∀ {rc : ReturnCode} {caps : NvmCapabilities},
        Returns (applyBiosCapabilities pcat ⟨{}, features⟩) (.ok (rc, caps)) ↔
          rc = .success ∧ (∀ t ∈ applied (extTables pcat).1, t.Fits) ∧
            caps = ⟨(applied (extTables pcat).1).foldl applyTable {},
              platformCapabilitiesToNvmFeatures ((applied (extTables pcat).1).foldl applyTable {})
                features⟩ := by
    intro pcat hlength hfilled hdecode rc caps
    have hheader : ∀ table ∈ (extTables pcat).1, 4 ≤ table.length :=
      fun table htable => (mem_tablesFrom htable).1
    have hwalk : ∀ rc platform, walkResult applyVisit (extTables pcat) {} = .ok (rc, platform) ↔
        rc = .success ∧ (∀ t ∈ applied (extTables pcat).1, t.Fits) ∧
          platform = (applied (extTables pcat).1).foldl applyTable {} := by
      intro rc platform
      rw [← walkResult_applied hheader hdecode, ← hfilled]
    rw [returns_apply hlength]
    change (walkResult applyVisit (extTables pcat) {}).map _ = _ ↔ _
    constructor
    · intro hresult
      cases hrun : walkResult applyVisit (extTables pcat) {} with
      | error fault =>
        rw [hrun] at hresult
        cases hresult
      | ok result =>
        obtain ⟨rc', platform⟩ := result
        obtain ⟨hrc, hfits, rfl⟩ := (hwalk rc' platform).mp hrun
        rw [hrun] at hresult
        obtain ⟨rfl, rfl⟩ := Prod.mk.inj (Except.ok.inj hresult)
        exact ⟨hrc, hfits, rfl⟩
    · rintro ⟨hrc, hfits, rfl⟩
      rw [(hwalk rc _).mpr ⟨hrc, hfits, rfl⟩]
      rfl
  have hdecode : ∀ table ∈ (extTables pcat).1, ∃ t, decode table = some t := fun table htable =>
    exists_decode (mem_tablesFrom htable).1 (h.structSize_le htable)
  have hdecode' : ∀ table ∈ (extTables bytes).1, ∃ t, decode table = some t := by
    intro table htable
    obtain ⟨original, hmem, hboth⟩ := exists_mem_of_forall₂ hsame htable
    rw [hboth.decode]
    exact hdecode original (mem_regrouped.mp hmem).1
  have happlied : applied (extTables bytes).1 = applied (regrouped (extTables pcat).1) :=
    applied_congr hsame
  have hfits := (applied_regrouped (extTables pcat).1).2.2
  simp only [hreturns h.length_eq h.filled hdecode, hreturns hlength hfilled hdecode', happlied]
  constructor
  · rintro ⟨rc, caps, caps', ⟨-, hroom, rfl⟩, ⟨-, -, rfl⟩, hreport, -⟩
    rw [report_foldl_applyTable, report_foldl_applyTable] at hreport
    exact ⟨hroom, hreport⟩
  · rintro ⟨hroom, hdescribe⟩
    have hreport : ((applied (regrouped (extTables pcat).1)).foldl applyTable {}).report =
        ((applied (extTables pcat).1).foldl applyTable {}).report := by
      rw [report_foldl_applyTable, report_foldl_applyTable, hdescribe]
    exact ⟨.success, _, _, ⟨rfl, hroom, rfl⟩, ⟨rfl, hfits.mpr hroom, rfl⟩, hreport,
      features_congr hreport features⟩

/-- The room for the formats of the tables that the walk applies. -/
private theorem fits_applied_iff (tables : List (List UInt8)) :
    (∀ t ∈ applied tables, t.Fits) ↔
      ∀ table ∈ visitedTables tables, ∀ t, decode table = some t → t.Fits := by
  constructor
  · exact fun h table htable t ht => h t (List.mem_filterMap.mpr ⟨table, htable, ht⟩)
  · intro h t ht
    obtain ⟨table, htable, hdecode⟩ := List.mem_filterMap.mp ht
    exact h table htable t hdecode

/-- When a PCAT is stored. -/
private theorem returns_update_success {pcat : List UInt8} (h : WellFormed pcat) (db db' : PcatDb) :
    Returns (updatePcatInDb db pcat) (.ok (.success, db')) ↔
      (∀ table ∈ (extTables pcat).1, FormatsFit table) ∧
        storedDb pcat (extTables pcat).1 = db' := by
  rw [returns_update h]
  by_cases hfits : ∀ table ∈ (extTables pcat).1, FormatsFit table
  · rw [if_pos hfits, Except.ok.injEq, Prod.mk.injEq]
    exact ⟨fun hdb => ⟨hfits, hdb.2⟩, fun hdb => ⟨rfl, hdb.2⟩⟩
  · rw [if_neg hfits]
    exact iff_of_false (by rintro ⟨⟩) fun hdb => hfits hdb.1

/-- The tables of a well-formed PCAT are decoded. -/
private theorem WellFormed.exists_decode {pcat : List UInt8} (h : WellFormed pcat) :
    ∀ table ∈ (extTables pcat).1, ∃ t, decode table = some t :=
  fun _ htable => Pcat.exists_decode (mem_tablesFrom htable).1 (h.structSize_le htable)

/-- A PCAT that makes the round trip. -/
private theorem RoundTrips.when {db : PcatDb} {pcat : List UInt8} {memory : Bytes} {capLen : ℕ}
    {features : NvmFeatures} (htrip : RoundTrips db pcat memory capLen features)
    (h : WellFormed pcat) (hcap : pcat.length ≤ capLen) : RoundTripsWhen pcat := by
  obtain ⟨db', m, hupdate, hget, -, hsame, -⟩ := htrip
  obtain ⟨hfits, rfl⟩ := (returns_update_success h db db').mp hupdate
  obtain ⟨m', hget', -, hlength, hfilled, htables⟩ := rebuilt_tables h hfits hcap memory
  rw [hget'] at hget
  obtain ⟨-, rfl⟩ := Prod.mk.inj hget
  obtain ⟨hroom, hequal⟩ := (applySame_iff h hlength hfilled htables features).mp hsame
  exact ⟨hfits, (fits_applied_iff _).mp hroom,
    (describe_regrouped_iff h.exists_decode h.platformInfo).mp hequal⟩

/-- A PCAT under the conditions makes the round trip. -/
private theorem RoundTripsWhen.roundTrips {pcat : List UInt8} (hwhen : RoundTripsWhen pcat)
    (h : WellFormed pcat) {capLen : ℕ} (hcap : pcat.length ≤ capLen) (db : PcatDb) (memory : Bytes)
    (features : NvmFeatures) : RoundTrips db pcat memory capLen features := by
  obtain ⟨hfits, hroom, hbehind⟩ := hwhen
  obtain ⟨m, hget, hchecksum, hlength, hfilled, htables⟩ := rebuilt_tables h hfits hcap memory
  refine ⟨_, m, (returns_update_success h db _).mpr ⟨hfits, rfl⟩, hget, hchecksum,
    (applySame_iff h hlength hfilled htables features).mpr ⟨(fits_applied_iff _).mpr hroom,
      (describe_regrouped_iff h.exists_decode h.platformInfo).mpr hbehind⟩, fun id => ?_⟩
  -- the socket tables are the same, in the same order
  have hsize : ∀ table ∈ (extTables pcat).1, tableType table = 6 → 32 ≤ table.length := by
    intro table htable h6
    have hstruct := h.structSize_le htable
    rwa [structSize, if_neg (by omega), if_neg (by omega), if_neg (by omega), if_pos h6] at hstruct
  have hsize' : ∀ table ∈ (extTables (bytesOf m)).1, tableType table = 6 → 32 ≤ table.length := by
    intro table htable h6
    obtain ⟨original, -, hboth⟩ := exists_mem_of_forall₂ htables htable
    exact (hboth.socket (hboth.type ▸ h6)).1
  have hsockets : socketInfos (extTables (bytesOf m)).1 = socketInfos (extTables pcat).1 := by
    rw [socketInfos_congr htables, socketInfos, socketInfos]
    change (tablesOf 6 (regrouped (extTables pcat).1)).map socketInfo =
      (tablesOf 6 (extTables pcat).1).map socketInfo
    simp [regrouped]
  have hsku := returns_sku h.length_eq h.filled hsize id
  have hsku' := returns_sku hlength hfilled hsize' id
  rw [hsockets] at hsku'
  exact ⟨_, _, hsku, hsku'⟩

/-- A well-formed PCAT makes the round trip through the database, into a buffer that is large enough
for it, exactly under the conditions of `RoundTripsWhen`. -/
theorem roundTrips_iff (db : PcatDb) {pcat : List UInt8} (h : WellFormed pcat) (memory : Bytes)
    {capLen : ℕ} (hcap : pcat.length ≤ capLen) (features : NvmFeatures) :
    RoundTrips db pcat memory capLen features ↔ RoundTripsWhen pcat :=
  ⟨fun htrip => htrip.when h hcap, fun hwhen => hwhen.roundTrips h hcap db memory features⟩

/-- A PCAT of a platform information table and, behind it, an interleave table with the reserved
memory mode 4. -/
def platformInfoFirst : List UInt8 :=
  [0x50, 0x43, 0x41, 0x54, 68, 0, 0, 0, 1, 0x57] ++ List.replicate 30 0 ++
    [0, 0, 16, 0, 1, 0, 0, 0, 0, 0, 0, 0, 0, 0, 0, 0] ++
    [1, 0, 12, 0, 4, 0, 0, 0, 26, 0, 0, 0]

/-- The tables of `platformInfoFirst`. -/
private theorem extTables_platformInfoFirst : extTables platformInfoFirst =
    ([platformInfoFirst.drop 40, platformInfoFirst.drop 56], .done) := by
  rw [extTables, tablesFrom, if_neg (by decide), if_neg (by decide), dif_neg (by decide),
    tablesFrom, if_neg (by decide), if_neg (by decide), dif_neg (by decide), tablesFrom,
    if_pos (by decide)]
  rfl

/-- The PCAT with the platform information first is well formed and makes the round trip. -/
theorem roundTrips_platformInfoFirst : WellFormed platformInfoFirst ∧
    RoundTrips ⟨[], [], [], [], []⟩ platformInfoFirst (fun _ => 0) 4096 ⟨true, true, true, true⟩ := by
  have h : WellFormed platformInfoFirst := by
    constructor
    case header_le => decide
    case length_le => decide
    case length_eq => decide
    case filled => rw [extTables_platformInfoFirst]
    all_goals
      rw [extTables_platformInfoFirst]
      decide
  refine ⟨h, (roundTrips_iff ⟨[], [], [], [], []⟩ h (fun _ => 0) (by decide)
    ⟨true, true, true, true⟩).mpr ⟨?_, ?_, ?_⟩⟩
  · rw [extTables_platformInfoFirst]
    decide
  · have hvisited : visitedTables (extTables platformInfoFirst).1 =
        [platformInfoFirst.drop 40] := by
      rw [extTables_platformInfoFirst]
      decide
    rw [hvisited]
    intro table htable t ht
    rw [List.mem_singleton.mp htable,
      show decode (platformInfoFirst.drop 40) = some (.platformInfo 1 0 0 0) by decide] at ht
    rw [← Option.some.inj ht]
    trivial
  · have hbehind : (extTables platformInfoFirst).1.dropWhile (fun table => !leaves table) =
        [platformInfoFirst.drop 56] := by
      rw [extTables_platformInfoFirst]
      decide
    rw [hbehind]
    intro table htable t ht hsome
    rw [List.mem_singleton.mp htable,
      show decode (platformInfoFirst.drop 56) = some .reserved by decide] at ht
    rw [← Option.some.inj ht] at hsome
    cases hsome

/-- The tables of `reservedFirst`. -/
private theorem extTables_reservedFirst : extTables reservedFirst.bytes =
    ([reservedFirst.bytes.drop 40, reservedFirst.bytes.drop 52], .done) := by
  rw [extTables, tablesFrom, if_neg (by decide), if_neg (by decide), dif_neg (by decide),
    tablesFrom, if_neg (by decide), if_neg (by decide), dif_neg (by decide), tablesFrom,
    if_pos (by decide)]
  rfl

/-- With the platform information behind the interleave table the PCAT is well formed, and does not
make the round trip: its support is reported of the rebuilt PCAT only. -/
theorem not_roundTrips_reservedFirst : WellFormed reservedFirst.bytes ∧
    ¬ RoundTrips ⟨[], [], [], [], []⟩ reservedFirst.bytes (fun _ => 0) 4096
      ⟨true, true, true, true⟩ := by
  have h : WellFormed reservedFirst.bytes := by
    constructor
    case header_le => exact reservedFirst.header_le
    case length_le => exact reservedFirst.length_le
    case length_eq => exact reservedFirst.length_eq
    case filled => rw [extTables_reservedFirst]
    all_goals
      rw [extTables_reservedFirst]
      decide
  refine ⟨h, fun htrip => ?_⟩
  have hbehind : (extTables reservedFirst.bytes).1.dropWhile (fun table => !leaves table) =
      [reservedFirst.bytes.drop 40, reservedFirst.bytes.drop 52] := by
    rw [extTables_reservedFirst]
    decide
  have hequal := (htrip.when h (by decide)).behind (reservedFirst.bytes.drop 52)
    (by rw [hbehind]; exact List.mem_cons_of_mem _ List.mem_cons_self) (.platformInfo 1 0 0 0)
    (by decide) rfl
  exact absurd (congrArg Report.biosConfigSupport hequal) (by decide)

end IxpDimm.Pcat
