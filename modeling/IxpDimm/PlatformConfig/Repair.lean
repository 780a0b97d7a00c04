import IxpDimm.PlatformConfig.Device

/-!
# Repairing platform config data

`get_repaired_dimm_platform_config` returns the platform config data of a DIMM if it is valid, and
otherwise data that is built from those of its sub-tables that are.  The sub-tables are looked at only
if the header is valid, and the header carries a checksum over the whole data: a sub-table that has
been damaged in one byte takes the other ones with it.

For data with a sound header, `getRepaired_retains_iff` says when the valid sub-tables are retained.
-/

namespace IxpDimm

open Foundation

/-! ### The function -/

/-- `p_old_config_input`, `p_old_current_cfg` and `p_old_config_output`, by the return codes of their
checks. -/
def tablesByCode (old : Bytes) (rcInput rcCurrent rcOutput : ReturnCode) : Tables
  | .currentConfig => if rcCurrent = .success then castCurrentConfig old else none
  | .configInput => if rcInput = .success then castConfigInput old else none
  | .configOutput => if rcOutput = .success then castConfigOutput old else none

/-- The sub-tables that are kept: none unless the header is valid, and then the valid ones. -/
def keptTables (fuel : ℕ) (old : Bytes) (pcdSize : UInt64) : Option Tables :=
  if checkPlatformConfigHeader old pcdSize = .success then
    (checkConfigInput fuel old).bind fun rcInput =>
      (checkCurrentConfig fuel old).bind fun rcCurrent =>
        (checkConfigOutput fuel old).map fun rcOutput =>
          tablesByCode old rcInput rcCurrent rcOutput
  else some fun _ => none

/-- `get_repaired_dimm_platform_config`.  The last argument is what `pp_config` points to, `none` if
it is null; the result holds what it points to afterwards. -/
def getRepairedDimmPlatformConfig (fuel : ℕ) (heap : Bytes) (device : PcdDevice)
    (ppConfig : Option (Option Bytes)) :
    Option (ReturnCode × Option (Option Bytes) × PcdDevice) :=
  match ppConfig with
  | some none =>
    (getDimmPlatformConfig fuel heap device).bind fun (rc, old, device) =>
      if rc ≠ .success then
        match old with
        | none => some (rc, some none, device)
        | some old =>
          (keptTables fuel old (UInt64.ofNat (getPcdTableSize device.partition))).map fun tables =>
            let built := buildPlatformConfigData (tables .currentConfig) (tables .configInput)
              (tables .configOutput) (some none)
            (built.1, built.2, device)
      else some (rc, some old, device)
  | _ => some (.errInvalidParameter, ppConfig, device)

/-! ### What it retains -/

/-- A sub-table is present and valid on its own. -/
def ValidIn (kind : TableKind) (m : Bytes) : Prop :=
  0 < tableSize kind m ∧
    Returns (fun fuel => isTableValid kind fuel (castTable kind m) (tableSize kind m)) true

/-- A sub-table of `m` is present in `config`, byte for byte. -/
def Retains (m config : Bytes) (kind : TableKind) : Prop :=
  ∃ copied, castTable kind config = some copied ∧ tableSize kind config = tableSize kind m ∧
    SameBytes copied (tableAt kind m) 0 (tableSize kind m)

/-- The fields of the header of data of a size: the signature, the length, and the sub-tables behind
the header and within the data. -/
structure HeaderSound (m : Bytes) (pcdSize : ℕ) : Prop where
  /-- The signature. -/
  signature : headerSignature m = platformConfigTableSignature
  /-- The length is large enough for the header. -/
  length : platformConfigDataSize ≤ headerLength m
  /-- The length is within the data. -/
  length_le : headerLength m ≤ pcdSize
  /-- The data fits in the partition. -/
  fits : pcdSize ≤ devPltCfgOemPartitionSize
  /-- A sub-table is not there, or behind the header and within the data. -/
  tables : ∀ kind, (tableSize kind m = 0 ∧ tableOffset kind m = 0) ∨
    (0 < tableSize kind m ∧ platformConfigDataSize ≤ tableOffset kind m ∧
      tableOffset kind m + tableSize kind m ≤ pcdSize)

section Sound

variable {m : Bytes} {size : ℕ}

/-- The sizes of the sub-tables of such data. -/
theorem HeaderSound.tableSize_le (h : HeaderSound m size) (kind : TableKind) :
    tableSize kind m ≤ devPltCfgOemPartitionSize := by
  have hfits := h.fits
  rcases h.tables kind with ⟨hzero, -⟩ | ⟨-, -, hend⟩
  · omega
  · omega

/-- The header of such data is valid exactly when the data sums to zero. -/
theorem HeaderSound.isPlatformConfigHeaderValid_iff (h : HeaderSound m size) :
    isPlatformConfigHeaderValid m (UInt64.ofNat size) = true ↔ sumBytes m 0 size = 0 := by
  have hfits := h.fits
  unfold devPltCfgOemPartitionSize at hfits
  have hsize : (UInt64.ofNat size).toNat % 2 ^ 32 = size := by
    rw [UInt64.toNat_ofNat', Nat.mod_eq_of_lt (by omega), Nat.mod_eq_of_lt (by omega)]
  have hinfo : isPcdHeaderTableInfoValid m = true := by
    refine List.all_eq_true.mpr fun kind _ => ?_
    have hkind := h.tables kind
    simp only [arePcdHeaderTableSizeAndOffsetValid, Bool.or_eq_true, Bool.and_eq_true, beq_iff_eq,
      decide_eq_true_iff]
    tauto
  unfold isPlatformConfigHeaderValid isConfigDataTableHeaderValid verifyChecksum
  rw [hsize, hinfo, h.signature, if_neg (by have := h.length; omega),
    if_neg (by have := h.length_le; omega)]
  simp

/-- A present sub-table is valid on its own exactly when its check succeeds. -/
theorem validIn_iff {kind : TableKind} (hpresent : 0 < tableSize kind m) :
    ValidIn kind m ↔ Returns (fun fuel => checkTable kind fuel m) .success := by
  rw [returns_checkTable_iff hpresent, ValidIn, castTable, if_pos hpresent]
  constructor
  · rintro ⟨-, hvalid⟩
    exact ⟨true, hvalid, rfl⟩
  · rintro ⟨valid, hvalid, hcode⟩
    cases valid with
    | true => exact ⟨hpresent, hvalid⟩
    | false => cases hcode

/-- A sub-table whose check succeeds is valid on its own, if it is present. -/
theorem tableSound_of_validIn {kind : TableKind} (hsmall : tableSize kind m < 2 ^ 31)
    (h : ValidIn kind m) :
    headerLength (tableAt kind m) = tableSize kind m ∧ TableSound kind (tableAt kind m) := by
  obtain ⟨hpresent, hvalid⟩ := h
  rw [castTable, if_pos hpresent] at hvalid
  by_cases hlength : headerLength (view m (tableOffset kind m)) = tableSize kind m
  · exact (returns_isTableValid_true_iff (show headerLength (view m _) < _ by omega)).mp hvalid
  · have hfalse := returns_isTableValid_of_length kind (view m (tableOffset kind m))
      fun h => hlength h.2
    cases hvalid.unique (fuelMono_isTableValid kind _ _) hfalse

end Sound

/-! ### When it returns -/

/-- No printing walk over a sub-table of the right length comes to an entry of a known type without
length. -/
def PrintsThrough (m : Bytes) : Prop :=
  ∀ kind, kind.structSize ≤ tableSize kind m → headerLength (tableAt kind m) = tableSize kind m →
    ∀ offset, LoopReaches (printWalk kind m) 0 offset → offset < extLength kind m →
      KnownType (extTables kind (tableAt kind m)) offset →
      extensionLength (extTables kind (tableAt kind m)) offset ≠ 0

section Returns

variable {m : Bytes} {size : ℕ}

/-- A printing walk ends exactly when it comes to no entry of a known type without length. -/
private theorem loopHalts_printWalk_iff (kind : TableKind) (m : Bytes) :
    LoopHalts (printWalk kind m) 0 ↔ ∀ offset, LoopReaches (printWalk kind m) 0 offset →
      offset < extLength kind m → KnownType (extTables kind (tableAt kind m)) offset →
      extensionLength (extTables kind (tableAt kind m)) offset ≠ 0 := by
  constructor
  · intro hhalts offset hreach hlt hknown hzero
    exact not_loopHalts_printEntry hreach hlt hknown hzero hhalts
  · intro h
    exact ((advances_printEntry_iff (extLength_lt kind m)).mpr h).halts (extLength kind m)
      fun t u hu => (printEntry_inl_iff.mp hu).1

/-- The checking walk over a sub-table that fits in the partition ends. -/
private theorem loopHalts_listWalk {kind : TableKind}
    (hsmall : tableSize kind m ≤ devPltCfgOemPartitionSize) : LoopHalts (listWalk kind m) 0 := by
  unfold devPltCfgOemPartitionSize at hsmall
  have hlength : extLength kind m ≤ 65536 := by
    unfold extLength
    omega
  refine ((advances_listEntry_iff (extLength_lt kind m)).mpr fun t _ hlt _ => ?_).halts
    (extLength kind m) fun t u hu => (listEntry_inl_iff.mp hu).1
  have := extensionLength_lt (extTables kind (tableAt kind m)) t
  omega

/-- The checks of the sub-tables return exactly when the printing walks go through. -/
private theorem HeaderSound.printsThrough_iff (h : HeaderSound m size) :
    PrintsThrough m ↔ ∀ kind, ∃ rc, Returns (fun fuel => checkTable kind fuel m) rc := by
  refine forall_congr' fun kind => ?_
  have hlist := loopHalts_listWalk (h.tableSize_le kind)
  rw [exists_returns_checkTable_iff]
  refine imp_congr_right fun _ => imp_congr_right fun _ => ?_
  rw [← loopHalts_printWalk_iff]
  exact ⟨fun hprint => ⟨hprint, fun _ => hlist⟩, fun hboth => hboth.1⟩

end Returns

/-! ### What it does with data that has a sound header -/

section Repair

variable {heap partition m : Bytes}

/-- What is read from a partition, with what follows the buffer in memory. -/
def readBuffer (heap partition : Bytes) : Bytes :=
  (readPartition heap partition (getPcdTableSize partition)).2

/-- Reading data with a sound header for the first time. -/
theorem getDimmPlatformConfig_of_sound
    (h : HeaderSound (readBuffer heap partition) (getPcdTableSize partition)) (fuel : ℕ) :
    getDimmPlatformConfig fuel heap ⟨partition, none⟩ =
      (checkPlatformConfig fuel (some (readBuffer heap partition))
        (UInt64.ofNat (getPcdTableSize partition))).map fun rc =>
          (rc, some (readBuffer heap partition),
            if rc = .success then ⟨partition, some (readBuffer heap partition)⟩
            else ⟨partition, none⟩) := by
  have hfits := h.fits
  have hroom := h.length.trans h.length_le
  obtain ⟨buffer, hread, -⟩ := readPartition_spec heap partition hfits
  have hbuffer : readBuffer heap partition = buffer := by rw [readBuffer, hread]
  rw [hbuffer]
  have hhw : getHwDimmPlatformConfigAlloc fuel heap partition =
      (checkPlatformConfig fuel (some buffer) (UInt64.ofNat (getPcdTableSize partition))).map
        fun rc => (rc, some buffer) := by
    unfold platformConfigDataSize at hroom
    unfold getHwDimmPlatformConfigAlloc
    dsimp only
    rw [if_neg (by omega), if_neg (by unfold platformConfigDataSize; omega), hread]
  rw [getDimmPlatformConfig, hhw, Option.map_map]
  rfl

/-- What is kept of data whose header is valid. -/
theorem returns_keptTables_iff {pcdSize : UInt64}
    (h : isPlatformConfigHeaderValid m pcdSize = true) {tables : Tables} :
    Returns (fun fuel => keptTables fuel m pcdSize) tables ↔
      ∀ kind, ∃ rc, Returns (fun fuel => checkTable kind fuel m) rc ∧
        tables kind = if rc = .success then castTable kind m else none := by
  have hheader : checkPlatformConfigHeader m pcdSize = .success := by
    rw [checkPlatformConfigHeader, h, codeOfValid]
  have hmap : ∀ rcInput rcCurrent, FuelMono fun fuel => (checkConfigOutput fuel m).map
      (tablesByCode m rcInput rcCurrent) :=
    fun rcInput rcCurrent => (fuelMono_checkTable .configOutput m).map _
  simp only [keptTables, hheader, if_true]
  rw [returns_bind_iff (fuelMono_checkTable .configInput m) fun rcInput =>
    (fuelMono_checkTable .currentConfig m).bind fun rcCurrent => hmap rcInput rcCurrent]
  constructor
  · rintro ⟨rcInput, hinput, hrest⟩
    obtain ⟨rcCurrent, hcurrent, hrest⟩ := (returns_bind_iff (fuelMono_checkTable .currentConfig m)
      fun rcCurrent => hmap rcInput rcCurrent).mp hrest
    obtain ⟨rcOutput, houtput, rfl⟩ := returns_map_iff.mp hrest
    intro kind
    cases kind with
    | currentConfig => exact ⟨rcCurrent, hcurrent, rfl⟩
    | configInput => exact ⟨rcInput, hinput, rfl⟩
    | configOutput => exact ⟨rcOutput, houtput, rfl⟩
  · intro hall
    obtain ⟨rcInput, hinput, htables₁⟩ := hall .configInput
    obtain ⟨rcCurrent, hcurrent, htables₂⟩ := hall .currentConfig
    obtain ⟨rcOutput, houtput, htables₃⟩ := hall .configOutput
    refine ⟨rcInput, hinput, (returns_bind_iff (fuelMono_checkTable .currentConfig m)
      fun rcCurrent => hmap rcInput rcCurrent).mpr ⟨rcCurrent, hcurrent, ?_⟩⟩
    refine returns_map_iff.mpr ⟨rcOutput, houtput, ?_⟩
    funext kind
    cases kind with
    | currentConfig => exact htables₂.symm
    | configInput => exact htables₁.symm
    | configOutput => exact htables₃.symm

/-- The sub-tables that are kept are valid on their own and fit in the partition together. -/
private theorem tablesSound_kept {size : ℕ} (h : HeaderSound m size)
    (hsize : headerLength m + tableSize .configInput m + tableSize .currentConfig m +
      tableSize .configOutput m = size) {tables : Tables}
    (htables : ∀ kind, ∃ rc, Returns (fun fuel => checkTable kind fuel m) rc ∧
      tables kind = if rc = .success then castTable kind m else none) :
    TablesSound tables ∧ builtSize tables ≤ devPltCfgOemPartitionSize ∧
      ∀ kind table, tables kind = some table → ValidIn kind m ∧ table = tableAt kind m := by
  have hkept : ∀ kind table, tables kind = some table → ValidIn kind m ∧ table = tableAt kind m := by
    intro kind table htable
    obtain ⟨rc, hrc, heq⟩ := htables kind
    rw [heq] at htable
    split_ifs at htable with hok
    unfold castTable at htable
    split_ifs at htable with hpresent
    obtain rfl := Option.some.inj htable
    exact ⟨(validIn_iff hpresent).mpr (hok ▸ hrc), rfl⟩
  have hsmall : ∀ kind, tableSize kind m < 2 ^ 31 := fun kind => by
    have := h.tableSize_le kind
    unfold devPltCfgOemPartitionSize at this
    omega
  have hsupplied : ∀ kind, suppliedSize tables kind ≤ tableSize kind m := by
    intro kind
    unfold suppliedSize
    cases htable : tables kind with
    | none => exact Nat.zero_le _
    | some table =>
      obtain ⟨hvalid, rfl⟩ := hkept kind table htable
      exact (tableSound_of_validIn (hsmall kind) hvalid).1.le
  refine ⟨fun kind table htable => ?_, ?_, hkept⟩
  · obtain ⟨hvalid, rfl⟩ := hkept kind table htable
    exact (tableSound_of_validIn (hsmall kind) hvalid).2
  · have h₁ := hsupplied .currentConfig
    have h₂ := hsupplied .configInput
    have h₃ := hsupplied .configOutput
    have hlength := h.length
    have hfits := h.fits
    simp only [builtSize, TableKind.all, List.map_cons, List.map_nil, List.sum_cons, List.sum_nil]
    omega

/-- What is built from sub-tables. -/
def builtFrom (tables : Tables) : ReturnCode × Option (Option Bytes) :=
  buildPlatformConfigData (tables .currentConfig) (tables .configInput) (tables .configOutput)
    (some none)

/-- The function on data with a sound header that is read for the first time. -/
theorem getRepaired_of_sound
    (h : HeaderSound (readBuffer heap partition) (getPcdTableSize partition)) (fuel : ℕ) :
    getRepairedDimmPlatformConfig fuel heap ⟨partition, none⟩ (some none) =
      (checkPlatformConfig fuel (some (readBuffer heap partition))
        (UInt64.ofNat (getPcdTableSize partition))).bind fun rc =>
          if rc = .success then
            some (.success, some (some (readBuffer heap partition)),
              ⟨partition, some (readBuffer heap partition)⟩)
          else (keptTables fuel (readBuffer heap partition)
            (UInt64.ofNat (getPcdTableSize partition))).map fun tables =>
              ((builtFrom tables).1, (builtFrom tables).2, ⟨partition, none⟩) := by
  rw [getRepairedDimmPlatformConfig, getDimmPlatformConfig_of_sound h]
  cases checkPlatformConfig fuel (some (readBuffer heap partition))
    (UInt64.ofNat (getPcdTableSize partition)) with
  | none => rfl
  | some rc =>
    simp only [Option.map_some, Option.bind_some]
    by_cases hok : rc = .success
    · simp [hok]
    · simp [hok, builtFrom]

/-- The fields of data with a sound header add up to its size. -/
private theorem HeaderSound.size_eq
    (h : HeaderSound (readBuffer heap partition) (getPcdTableSize partition)) :
    headerLength (readBuffer heap partition) + tableSize .configInput (readBuffer heap partition) +
      tableSize .currentConfig (readBuffer heap partition) +
      tableSize .configOutput (readBuffer heap partition) = getPcdTableSize partition := by
  have hroom := h.length.trans h.length_le
  unfold platformConfigDataSize at hroom
  obtain ⟨buffer, hread, hsame⟩ := readPartition_spec heap partition h.fits
  have hbuffer : readBuffer heap partition = buffer := by rw [readBuffer, hread]
  rw [hbuffer] at h ⊢
  have hlength : headerLength partition = headerLength buffer :=
    headerLength_congr (hsame.mono le_rfl (by omega))
  have htables : ∀ kind, tableSize kind partition = tableSize kind buffer := fun kind => by
    have hplace := kind.fields_lt
    unfold platformConfigDataSize at hplace
    exact (readLE_congr (hsame.mono (by omega) (by omega))).symm
  have h₁ := h.tableSize_le .currentConfig
  have h₂ := h.tableSize_le .configInput
  have h₃ := h.tableSize_le .configOutput
  have h₄ := h.length_le
  have h₅ := h.fits
  unfold devPltCfgOemPartitionSize at h₁ h₂ h₃ h₅
  conv_rhs => rw [getPcdTableSize, hlength, htables, htables, htables]
  exact (Nat.mod_eq_of_lt (by omega)).symm

/-- What is built from sub-tables that are kept retains the valid ones. -/
private theorem exists_builtFrom_kept
    (h : HeaderSound (readBuffer heap partition) (getPcdTableSize partition)) {tables : Tables}
    (htables : ∀ kind, ∃ rc, Returns (fun fuel => checkTable kind fuel (readBuffer heap partition)) rc ∧
      tables kind = if rc = .success then castTable kind (readBuffer heap partition) else none) :
    ∃ config, builtFrom tables = (.success, some (some config)) ∧
      ∀ kind, ValidIn kind (readBuffer heap partition) →
        Retains (readBuffer heap partition) config kind := by
  obtain ⟨hsound, hfits, hkept⟩ := tablesSound_kept h h.size_eq htables
  unfold devPltCfgOemPartitionSize at hfits
  obtain ⟨config, hbuild, hassembled⟩ := build_assembled hsound (by omega)
  refine ⟨config, hbuild, fun kind hvalid => ?_⟩
  obtain ⟨rc, hrc, heq⟩ := htables kind
  have hok := hrc.unique (fuelMono_checkTable kind _) ((validIn_iff hvalid.1).mp hvalid)
  rw [if_pos hok, castTable, if_pos hvalid.1] at heq
  obtain ⟨copied, hcast, hsize, hsame⟩ :=
    ((hassembled _ le_rfl).castTable hsound kind).2 _ heq
  have hsmall := h.tableSize_le kind
  unfold devPltCfgOemPartitionSize at hsmall
  have hlength := (tableSound_of_validIn (by omega) hvalid).1
  unfold tableAt at hlength
  rw [hlength] at hsize hsame
  exact ⟨copied, hcast, hsize, hsame⟩

end Repair

/-- The valid sub-tables of what is read are retained: the function returns data that holds each of
them byte for byte. -/
def RepairRetains (heap partition : Bytes) : Prop :=
  ∃ config device,
    Returns (fun fuel => getRepairedDimmPlatformConfig fuel heap ⟨partition, none⟩ (some none))
      (.success, some (some config), device) ∧
    ∀ kind, ValidIn kind (readBuffer heap partition) →
      Retains (readBuffer heap partition) config kind

section Main

variable {heap partition : Bytes}

/-- Calls of the function do not depend on the bound. -/
private theorem fuelMono_afterCheck (m partition : Bytes) (pcdSize : UInt64) (rc : ReturnCode) :
    FuelMono fun fuel =>
      if rc = .success then
        some (ReturnCode.success, some (some m), (⟨partition, some m⟩ : PcdDevice))
      else (keptTables fuel m pcdSize).map fun tables =>
        ((builtFrom tables).1, (builtFrom tables).2, ⟨partition, none⟩) := by
  split_ifs
  · exact fuelMono_const _
  · refine FuelMono.map ?_ _
    unfold keptTables
    split_ifs
    · exact (fuelMono_checkTable .configInput m).bind fun _ =>
        (fuelMono_checkTable .currentConfig m).bind fun _ =>
          (fuelMono_checkTable .configOutput m).map _
    · exact fuelMono_const _

/-- What the function returns for data with a sound header. -/
private theorem returns_getRepaired_iff
    (h : HeaderSound (readBuffer heap partition) (getPcdTableSize partition))
    {r : ReturnCode × Option (Option Bytes) × PcdDevice} :
    Returns (fun fuel => getRepairedDimmPlatformConfig fuel heap ⟨partition, none⟩ (some none)) r ↔
      ∃ rc, Returns (fun fuel => checkPlatformConfig fuel (some (readBuffer heap partition))
          (UInt64.ofNat (getPcdTableSize partition))) rc ∧
        ((rc = .success ∧ r = (.success, some (some (readBuffer heap partition)),
            ⟨partition, some (readBuffer heap partition)⟩)) ∨
          (rc ≠ .success ∧ ∃ tables, Returns (fun fuel => keptTables fuel (readBuffer heap partition)
              (UInt64.ofNat (getPcdTableSize partition))) tables ∧
            r = ((builtFrom tables).1, (builtFrom tables).2, ⟨partition, none⟩))) := by
  simp only [getRepaired_of_sound h]
  rw [returns_bind_iff (fuelMono_checkPlatformConfig _ _) (fuelMono_afterCheck _ _ _)]
  refine exists_congr fun rc => and_congr_right fun _ => ?_
  by_cases hok : rc = .success
  · simp only [hok, if_true, returns_some_iff, true_and, ne_eq, not_true_eq_false, false_and, or_false]
    exact eq_comm
  · simp only [hok, if_false, false_and, ne_eq, not_false_eq_true, true_and, false_or]
    rw [returns_map_iff]
    exact exists_congr fun tables => and_congr_right fun _ => eq_comm

/-- The function leaves the partition of the DIMM as it is. -/
theorem partition_of_getRepaired
    (h : HeaderSound (readBuffer heap partition) (getPcdTableSize partition))
    {r : ReturnCode × Option (Option Bytes) × PcdDevice}
    (hr : Returns (fun fuel =>
      getRepairedDimmPlatformConfig fuel heap ⟨partition, none⟩ (some none)) r) :
    r.2.2.partition = partition := by
  obtain ⟨rc, -, ⟨-, rfl⟩ | ⟨-, tables, -, rfl⟩⟩ := (returns_getRepaired_iff h).mp hr
  · rfl
  · rfl

/-- With a valid header, the sub-tables are retained exactly when all their checks return. -/
private theorem repairRetains_iff_of_sum_eq_zero
    (h : HeaderSound (readBuffer heap partition) (getPcdTableSize partition))
    (hsum : sumBytes (readBuffer heap partition) 0 (getPcdTableSize partition) = 0) :
    RepairRetains heap partition ↔
      ∀ kind, ∃ rc, Returns (fun fuel => checkTable kind fuel (readBuffer heap partition)) rc := by
  have hheader := h.isPlatformConfigHeaderValid_iff.mpr hsum
  constructor
  · rintro ⟨config, device, hreturns, -⟩
    obtain ⟨rc, hcheck, ⟨rfl, -⟩ | ⟨-, tables, htables, -⟩⟩ := (returns_getRepaired_iff h).mp hreturns
    · exact fun kind => ⟨_, (accepted_iff.mp hcheck).2 kind⟩
    · intro kind
      obtain ⟨rc, hrc, -⟩ := (returns_keptTables_iff hheader).mp htables kind
      exact ⟨rc, hrc⟩
  · intro hall
    by_cases haccepted : Accepted (readBuffer heap partition)
        (UInt64.ofNat (getPcdTableSize partition))
    · refine ⟨_, _, (returns_getRepaired_iff h).mpr ⟨_, haccepted, Or.inl ⟨rfl, rfl⟩⟩, ?_⟩
      intro kind hvalid
      exact ⟨_, if_pos hvalid.1, rfl, fun _ _ _ => rfl⟩
    · -- the check of some sub-table fails, and the valid ones are kept
      have hfails : ∃ rc, Returns (fun fuel => checkPlatformConfig fuel
          (some (readBuffer heap partition)) (UInt64.ofNat (getPcdTableSize partition))) rc ∧
          rc ≠ .success := by
        simp only [returns_checkPlatformConfig_iff hheader]
        obtain ⟨rc₁, h₁⟩ := hall .currentConfig
        obtain ⟨rc₂, h₂⟩ := hall .configInput
        obtain ⟨rc₃, h₃⟩ := hall .configOutput
        by_cases hrc₁ : rc₁ = .success
        · by_cases hrc₂ : rc₂ = .success
          · refine ⟨rc₃, Or.inl ⟨hrc₁ ▸ h₁, Or.inl ⟨hrc₂ ▸ h₂, h₃⟩⟩, fun hrc₃ => haccepted ?_⟩
            refine accepted_iff.mpr ⟨hheader, fun kind => ?_⟩
            cases kind with
            | currentConfig => exact hrc₁ ▸ h₁
            | configInput => exact hrc₂ ▸ h₂
            | configOutput => exact hrc₃ ▸ h₃
          · exact ⟨rc₂, Or.inl ⟨hrc₁ ▸ h₁, Or.inr ⟨h₂, hrc₂⟩⟩, hrc₂⟩
        · exact ⟨rc₁, Or.inr ⟨h₁, hrc₁⟩, hrc₁⟩
      obtain ⟨rc, hcheck, hrc⟩ := hfails
      choose codes hcodes using hall
      have htables : ∀ kind, ∃ rc, Returns (fun fuel =>
          checkTable kind fuel (readBuffer heap partition)) rc ∧
          (if codes kind = .success then castTable kind (readBuffer heap partition) else none) =
            if rc = .success then castTable kind (readBuffer heap partition) else none :=
        fun kind => ⟨codes kind, hcodes kind, rfl⟩
      obtain ⟨config, hbuilt, hretains⟩ := exists_builtFrom_kept h htables
      refine ⟨config, ⟨partition, none⟩, (returns_getRepaired_iff h).mpr
        ⟨rc, hcheck, Or.inr ⟨hrc, _, (returns_keptTables_iff hheader).mpr htables, ?_⟩⟩, hretains⟩
      rw [hbuilt]

/-- Without a valid header, nothing is retained. -/
private theorem repairRetains_iff_of_sum_ne_zero
    (h : HeaderSound (readBuffer heap partition) (getPcdTableSize partition))
    (hsum : sumBytes (readBuffer heap partition) 0 (getPcdTableSize partition) ≠ 0) :
    RepairRetains heap partition ↔ ∀ kind, ¬ ValidIn kind (readBuffer heap partition) := by
  have hheader : isPlatformConfigHeaderValid (readBuffer heap partition)
      (UInt64.ofNat (getPcdTableSize partition)) = false := by
    rw [← Bool.not_eq_true]
    exact fun hvalid => hsum (h.isPlatformConfigHeaderValid_iff.mp hvalid)
  have hcheck : Returns (fun fuel => checkPlatformConfig fuel (some (readBuffer heap partition))
      (UInt64.ofNat (getPcdTableSize partition))) .errBadDeviceConfig :=
    ⟨0, checkPlatformConfig_of_header hheader 0⟩
  have hkept : Returns (fun fuel => keptTables fuel (readBuffer heap partition)
      (UInt64.ofNat (getPcdTableSize partition))) (fun _ => none) := by
    refine ⟨0, if_neg ?_⟩
    rw [checkPlatformConfigHeader, hheader, codeOfValid]
    simp
  have hnothing : TablesSound fun _ => none := fun kind table htable => by cases htable
  obtain ⟨empty, hbuild, hassembled⟩ := build_assembled hnothing (by decide)
  have hreturns := (returns_getRepaired_iff h).mpr
    ⟨_, hcheck, Or.inr ⟨by simp, _, hkept, rfl⟩⟩
  have hbuilt : builtFrom (fun _ => none) = (.success, some (some empty)) := hbuild
  rw [hbuilt] at hreturns
  constructor
  · rintro ⟨config, device, hother, hretains⟩ kind hvalid
    obtain ⟨rc, hrc, hrest⟩ := (returns_getRepaired_iff h).mp hother
    obtain rfl := hrc.unique (fuelMono_checkPlatformConfig _ _) hcheck
    rcases hrest with ⟨hok, -⟩ | ⟨-, tables, htables, heq⟩
    · cases hok
    · have hmono : FuelMono fun fuel => keptTables fuel (readBuffer heap partition)
          (UInt64.ofNat (getPcdTableSize partition)) := by
        simp only [keptTables, checkPlatformConfigHeader, hheader, codeOfValid, reduceCtorEq,
          if_false]
        exact fuelMono_const _
      obtain rfl := htables.unique hmono hkept
      rw [hbuilt] at heq
      obtain ⟨-, hconfig⟩ := Prod.mk.inj heq
      obtain rfl := Option.some.inj (Option.some.inj (Prod.mk.inj hconfig).1)
      obtain ⟨copied, hcast, -⟩ := hretains kind hvalid
      rw [((hassembled _ le_rfl).castTable hnothing kind).1 rfl]
        at hcast
      cases hcast
  · intro hnone
    exact ⟨empty, _, hreturns, fun kind hvalid => absurd hvalid (hnone kind)⟩

end Main

/-- For data with a sound header the valid sub-tables are retained exactly when the data sums to zero
and no printing walk is stuck, or it does not and no sub-table is valid on its own. -/
theorem getRepaired_retains_iff {heap partition : Bytes}
    (h : HeaderSound (readBuffer heap partition) (getPcdTableSize partition)) :
    RepairRetains heap partition ↔
      (sumBytes (readBuffer heap partition) 0 (getPcdTableSize partition) = 0 ∧
          PrintsThrough (readBuffer heap partition)) ∨
        (sumBytes (readBuffer heap partition) 0 (getPcdTableSize partition) ≠ 0 ∧
          ∀ kind, ¬ ValidIn kind (readBuffer heap partition)) := by
  by_cases hsum : sumBytes (readBuffer heap partition) 0 (getPcdTableSize partition) = 0
  · rw [repairRetains_iff_of_sum_eq_zero h hsum, h.printsThrough_iff]
    simp [hsum]
  · rw [repairRetains_iff_of_sum_ne_zero h hsum]
    simp [hsum]

end IxpDimm
