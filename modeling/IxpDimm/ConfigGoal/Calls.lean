import IxpDimm.ConfigGoal.Freshness
import IxpDimm.ConfigGoal.StoredTable

/-!
# The calls on config goals

`nvm_create_config_goal`, `nvm_get_config_goal` and `nvm_delete_config_goal`, over the platform config
data of all DIMMs.  The events they log and the namespace labels that a new goal overwrites are kept
elsewhere.

However the calls follow each other on DIMMs that start without a goal, and whatever calls fail on the
way, a DIMM answers with the goal that has been created last and not been deleted since
(`goalCalls_refine`).
-/

namespace IxpDimm

open Foundation

/-! ### The calls -/

/-- The platform config data of the DIMMs, by their handles. -/
abbrev PcdStore := UInt32 → PcdDevice

/-- What the calls read of `nvm_features`. -/
structure GoalFeatures where
  /-- `get_device_capacity`. -/
  getDeviceCapacity : Bool := true
  /-- `modify_device_capacity`. -/
  modifyDeviceCapacity : Bool := true

/-- What the calls ask of the system. -/
structure GoalSystem where
  /-- The platform. -/
  platform : Platform
  /-- `check_caller_permissions` succeeds. -/
  callerPermitted : Bool := true
  /-- `is_supported_driver_available`. -/
  supportedDriverAvailable : Bool := true
  /-- `nvm_get_nvm_capabilities`: the features, and what a goal is validated with. -/
  getNvmCapabilities : Except ReturnCode (GoalFeatures × PlatformCapabilities)
  /-- `dimm_has_namespaces_of_type` for namespaces of any type. -/
  dimmHasNamespaces : DeviceDiscovery → Except ReturnCode ℕ := fun _ => .ok 0
  /-- What follows a buffer in memory. -/
  heap : Bytes := fun _ => 0

namespace GoalSystem

/-- `IS_NVM_FEATURE_SUPPORTED`. -/
def isNvmFeatureSupported (sys : GoalSystem) (feature : GoalFeatures → Bool) : ReturnCode :=
  match sys.getNvmCapabilities with
  | .error rc => rc
  | .ok (features, _) => if feature features then .success else .errNotSupported

/-- What `update_config_goal` works with.  The data of another DIMM that it reads the revision from is
not kept in the context. -/
def updateContext (sys : GoalSystem) (discovery : DeviceDiscovery) (s : PcdStore) :
    UpdateContext where
  discovery := discovery
  platform := sys.platform
  devices := (sys.platform.getDevices.toOption.getD []).map fun device =>
    (device.deviceHandle, s device.deviceHandle)
  heap := sys.heap

/-- The call of `update_config_goal` for a DIMM. -/
def updateStored (fuel : ℕ) (sys : GoalSystem) (discovery : DeviceDiscovery)
    (goal : Option ConfigGoal) (s : PcdStore) : Option (ReturnCode × PcdStore) :=
  (updateConfigGoal fuel (sys.updateContext discovery s) goal (s discovery.deviceHandle)).map
    fun (rc, device) => (rc, Function.update s discovery.deviceHandle device)

/-- `nvm_create_config_goal`, for arguments that are not null. -/
def nvmCreateConfigGoal (fuel : ℕ) (sys : GoalSystem) (deviceUid : Uid) (goal : ConfigGoal)
    (s : PcdStore) : Option (ReturnCode × PcdStore) :=
  if !sys.callerPermitted then some (.errInvalidPermissions, s)
  else if !sys.supportedDriverAvailable then some (.errBadDriver, s)
  else
    match sys.getNvmCapabilities with
    | .error rc => some (rc, s)
    | .ok (features, capabilities) =>
      if !features.modifyDeviceCapacity then some (.errNotSupported, s)
      else
        match existsAndManageable sys.platform deviceUid with
        | .error rc => some (rc, s)
        | .ok discovery =>
          match sys.dimmHasNamespaces discovery with
          | .error rc => some (rc, s)
          | .ok count =>
            if count > 0 then some (.errNamespacesExist, s)
            else
              match validateConfigGoal goal capabilities discovery with
              | .success => updateStored fuel sys discovery (some goal) s
              | rc => some (rc, s)

/-- The part of `nvm_get_config_goal` behind the read of the platform config data. -/
def goalOfConfig (fuel : ℕ) (sys : GoalSystem) (deviceUid : Uid) (config : Bytes) :
    Option (ReturnCode × ConfigGoal) :=
  match castConfigInput config with
  | none => some (.errNotFound, {})
  | some input =>
    (getConfigGoalStatusFromPlatformConfigData fuel config).bind fun status =>
      configInputTableToConfigGoal fuel sys.platform deviceUid input
        TableKind.configInput.structSize (headerLength input) { status := status }

/-- `nvm_get_config_goal`, for arguments that are not null.  The goal is that in `*p_goal`, which is
zeroed once the DIMM has been found. -/
def nvmGetConfigGoal (fuel : ℕ) (sys : GoalSystem) (deviceUid : Uid) (s : PcdStore) :
    Option (ReturnCode × ConfigGoal × PcdStore) :=
  if !sys.callerPermitted then some (.errInvalidPermissions, {}, s)
  else if !sys.supportedDriverAvailable then some (.errBadDriver, {}, s)
  else if sys.isNvmFeatureSupported GoalFeatures.getDeviceCapacity ≠ .success then
    some (sys.isNvmFeatureSupported GoalFeatures.getDeviceCapacity, {}, s)
  else
    match existsAndManageable sys.platform deviceUid with
    | .error rc => some (rc, {}, s)
    | .ok discovery =>
      (getDimmPlatformConfig fuel sys.heap (s discovery.deviceHandle)).bind
        fun (rc, config, device) =>
          let s' := Function.update s discovery.deviceHandle device
          match rc, config with
          | .success, some config =>
            (goalOfConfig fuel sys deviceUid config).map fun (rc, goal) => (rc, goal, s')
          | rc, _ => some (rc, {}, s')

/-- `nvm_delete_config_goal`, for an argument that is not null. -/
def nvmDeleteConfigGoal (fuel : ℕ) (sys : GoalSystem) (deviceUid : Uid) (s : PcdStore) :
    Option (ReturnCode × PcdStore) :=
  if !sys.callerPermitted then some (.errInvalidPermissions, s)
  else if !sys.supportedDriverAvailable then some (.errBadDriver, s)
  else if sys.isNvmFeatureSupported GoalFeatures.modifyDeviceCapacity ≠ .success then
    some (sys.isNvmFeatureSupported GoalFeatures.modifyDeviceCapacity, s)
  else
    match existsAndManageable sys.platform deviceUid with
    | .error rc => some (rc, s)
    | .ok discovery =>
      (nvmGetConfigGoal fuel sys deviceUid s).bind fun (rc, _, s') =>
        if rc = .success ∨ rc = .errBadDeviceConfig then updateStored fuel sys discovery none s'
        else some (rc, s')

end GoalSystem

/-! ### What is stored on a DIMM -/

/-- What some data has for the goal: no config input, or a copy of a config input table that has not
been answered. -/
structure StoredInput (config : Bytes) (input : Option ConfigInputTable) : Prop where
  /-- There is no config input. -/
  absent : input = none → castConfigInput config = none
  /-- There is a config input, and no config output. -/
  present : ∀ table, input = some table →
    (∃ m, castConfigInput config = some m ∧ IsCopy m table) ∧ castConfigOutput config = none
  /-- The current config. -/
  current : ∀ current, castCurrentConfig config = some current →
    TableSound .currentConfig current ∧ headerLength current < 2 ^ 31

/-- The data that is read from a DIMM is valid and has this config input. -/
def DeviceStores (device : PcdDevice) (input : Option ConfigInputTable) : Prop :=
  ∀ heap, ∃ config after, Returns (fun fuel => getDimmPlatformConfig fuel heap device)
    (.success, some config, after) ∧ StoredInput config input

section Stores

variable {device : PcdDevice} {input : Option ConfigInputTable} {heap : Bytes}

/-- A DIMM whose data is kept in the context has the config input of that data. -/
private theorem deviceStores_of_context {partition config : Bytes} (h : StoredInput config input) :
    DeviceStores ⟨partition, some config⟩ input :=
  fun _ => ⟨config, _, ⟨0, rfl⟩, h⟩

/-- What a read of such a DIMM returns. -/
private theorem DeviceStores.read (h : DeviceStores device input)
    {result : ReturnCode × Option Bytes × PcdDevice}
    (hread : Returns (fun fuel => getDimmPlatformConfig fuel heap device) result) :
    ∃ config, result = (.success, some config, ⟨device.partition, some config⟩) ∧
      StoredInput config input := by
  obtain ⟨config, after, hreturns, hstored⟩ := h heap
  obtain rfl := context_of_read hreturns
  exact ⟨config, hread.unique (fuelMono_getDimmPlatformConfig heap device) hreturns, hstored⟩

/-- A partition that holds valid sub-tables is read into a buffer that holds them. -/
private theorem read_assembled {tables : Tables} {partition : Bytes} (hsound : TablesSound tables)
    (hroom : builtSize tables ≤ devPltCfgOemPartitionSize)
    (h : Assembled tables partition (builtSize tables)) (heap : Bytes) :
    ∃ buffer, Returns (fun fuel => getDimmPlatformConfig fuel heap ⟨partition, none⟩)
        (.success, some buffer, ⟨partition, some buffer⟩) ∧
      Assembled tables buffer (builtSize tables) := by
  have hmin : platformConfigDataSize ≤ builtSize tables := Nat.le_add_right _ _
  have hmax : builtSize tables < 2 ^ 31 := hroom.trans_lt (by decide)
  have hsize := h.getPcdTableSize_eq (by omega)
  obtain ⟨buffer, hread, hsame⟩ := readPartition_spec heap partition hroom
  have hbuffer := h.congr hmin hsame.symm
  have hnat : (UInt64.ofNat (builtSize tables)).toNat = builtSize tables :=
    toNat_ofNat_of_lt (by omega)
  obtain ⟨fuel, hfuel⟩ : Accepted buffer (UInt64.ofNat (builtSize tables)) := by
    refine Assembled.accepted (by rwa [hnat]) hsound ?_ ?_
    · rwa [hnat]
    · rwa [hnat]
  refine ⟨buffer, ⟨fuel, ?_⟩, hbuffer⟩
  have hpositive : 0 < platformConfigDataSize := by decide
  dsimp only at hfuel
  dsimp only [getDimmPlatformConfig, getHwDimmPlatformConfigAlloc]
  rw [hsize, if_neg (by omega), if_neg (by omega), hread]
  dsimp only
  rw [hfuel]
  rfl

/-- A sub-table that is copied is the sub-table. -/
private theorem current_of_assembled {tables : Tables} {buffer : Bytes} (hsound : TablesSound tables)
    (hsmall : builtSize tables < 2 ^ 31) (h : Assembled tables buffer (builtSize tables)) :
    ∀ current, castCurrentConfig buffer = some current →
      TableSound .currentConfig current ∧ headerLength current < 2 ^ 31 := by
  intro found hfound
  cases hcurrent : tables .currentConfig with
  | none => cases ((h.castTable hsound .currentConfig).1 hcurrent).symm.trans hfound
  | some current =>
    obtain ⟨copied, hcast, -, hbytes⟩ := (h.castTable hsound .currentConfig).2 current hcurrent
    obtain rfl := Option.some.inj (hcast.symm.trans hfound)
    have hvalid := hsound .currentConfig current hcurrent
    have hlarge := hvalid.size
    have hheader := TableKind.currentConfig.header_lt_structSize
    unfold configDataTableHeaderSize at hheader
    have hlength : headerLength copied = headerLength current :=
      headerLength_congr (hbytes.symm.mono le_rfl (by omega))
    have hlt : headerLength current < 2 ^ 31 := by
      obtain ⟨-, -, hend, -⟩ := h.present .currentConfig current hcurrent
      omega
    exact ⟨hvalid.congr hlt hbytes.symm, hlength.trans_lt hlt⟩

end Stores

/-! ### Errors -/

/-- What the platform fails with are errors. -/
structure Platform.FailsWithErrors (platform : Platform) : Prop where
  /-- The list of the devices. -/
  devices : platform.getDevices ≠ .error .success
  /-- The revision of the platform capabilities table. -/
  pcatRevision : platform.getPcatRevision ≠ .error .success

section Errors

variable {platform : Platform} {rc : ReturnCode}

/-- A device that is not found or not manageable is an error. -/
theorem existsAndManageable_error (h : platform.FailsWithErrors) {uid : Uid}
    (herror : existsAndManageable platform uid = .error rc) : rc ≠ .success := by
  rintro rfl
  unfold existsAndManageable lookupDevUid Platform.lookup at herror
  cases hdevices : platform.getDevices with
  | error code =>
    rw [hdevices] at herror
    exact h.devices (hdevices.trans (congrArg _ (Except.error.inj herror)))
  | ok devices =>
    rw [hdevices] at herror
    dsimp only at herror
    cases hfind : devices.find? fun device => uidCmp uid device.uid with
    | none =>
      rw [hfind] at herror
      cases herror
    | some device =>
      rw [hfind] at herror
      dsimp only at herror
      split_ifs at herror
      cases herror

/-- The devices of a set that are not found are an error. -/
private theorem getDevices_error (h : platform.FailsWithErrors) {uids : List Uid}
    (herror : getDevicesFromAppdirectAttributes platform uids = .error rc) : rc ≠ .success := by
  induction uids with
  | nil => cases herror
  | cons uid uids ih =>
    unfold getDevicesFromAppdirectAttributes at herror
    cases hdevice : existsAndManageable platform uid with
    | error code =>
      rw [hdevice] at herror
      obtain rfl := Except.error.inj herror
      exact existsAndManageable_error h hdevice
    | ok device =>
      rw [hdevice] at herror
      dsimp only at herror
      cases hrest : getDevicesFromAppdirectAttributes platform uids with
      | error code =>
        rw [hrest] at herror
        obtain rfl := Except.error.inj herror
        exact ih hrest
      | ok devices =>
        rw [hrest] at herror
        cases herror

/-- A set that cannot be made is an error. -/
private theorem appDirectTable_error (h : platform.FailsWithErrors) {qos : AppDirectAttributes}
    {size offset : UInt64} {setId : UInt16} {revision : UInt8}
    (herror : appDirectTable platform qos size offset setId revision = .error rc) :
    rc ≠ .success := by
  unfold appDirectTable configGoalToInterleaveExtTable populateDimmInfoExtensionTables
    devicesOfSet at herror
  cases hrevision : platform.getPcatRevision with
  | error code =>
    rw [hrevision] at herror
    obtain rfl := Except.error.inj herror
    rintro rfl
    exact h.pcatRevision hrevision
  | ok pcatRevision =>
    rw [hrevision] at herror
    dsimp only at herror
    cases hdevices : getDevicesFromAppdirectAttributes platform qos.setDimms with
    | error code =>
      rw [hdevices] at herror
      obtain rfl := Except.error.inj herror
      exact getDevices_error h hdevices
    | ok devices =>
      rw [hdevices] at herror
      dsimp only at herror
      split at herror
      · split_ifs at herror
        · cases herror
        · cases herror
        · obtain rfl := Except.error.inj herror
          exact ReturnCode.noConfusion
      · next hrules =>
        obtain rfl := Except.error.inj herror
        exact hrules

/-- A goal for which no config input table can be made is an error. -/
private theorem configGoalToConfigInput_error (h : platform.FailsWithErrors) {goal : ConfigGoal}
    {discovery : DeviceDiscovery} {seqNum : UInt32} {revision : UInt8}
    (herror : configGoalToConfigInput platform goal discovery seqNum revision = .error rc) :
    rc ≠ .success := by
  unfold configGoalToConfigInput at herror
  cases htables : appDirectTables platform goal discovery revision with
  | ok tables =>
    rw [htables] at herror
    cases herror
  | error code =>
    rw [htables] at herror
    obtain rfl := Except.error.inj herror
    unfold appDirectTables at htables
    dsimp only at htables
    split_ifs at htables
    · split at htables
      · next hfirst =>
        obtain rfl := Except.error.inj htables
        exact appDirectTable_error h hfirst
      · split at htables
        · next hsecond =>
          obtain rfl := Except.error.inj htables
          exact appDirectTable_error h hsecond
        · cases htables
    · split at htables
      · next hfirst =>
        obtain rfl := Except.error.inj htables
        exact appDirectTable_error h hfirst
      · cases htables

end Errors

/-! ### What an update stores -/

/-- The config input that is made for a goal, or for none. -/
inductive MadeFor (platform : Platform) (discovery : DeviceDiscovery) :
    Option ConfigGoal → Option ConfigInputTable → Prop
  /-- Without a goal there is no config input. -/
  | none : MadeFor platform discovery none none
  /-- The table of a goal. -/
  | goal {goal : ConfigGoal} {seqNum : UInt32} {revision : UInt8} {table : ConfigInputTable} :
      configGoalToConfigInput platform goal discovery seqNum revision = .ok table →
      MadeFor platform discovery (some goal) (some table)

/-- The new config input of an update: one that is made for the goal, with the checksum, or an
error. -/
private theorem newConfigInput_cases {c : UpdateContext} (hplatform : c.platform.FailsWithErrors)
    {goal : Option ConfigGoal} {old : Bytes} {input : Except ReturnCode (Option Bytes)}
    (h : Returns (fun fuel => newConfigInput fuel c goal old) input) :
    (∃ table, MadeFor c.platform c.discovery goal table ∧
        input = .ok (table.map ConfigInputTable.packed)) ∨
      ∃ rc, rc ≠ .success ∧ input = .error rc := by
  cases goal with
  | none => exact Or.inl ⟨none, .none, (returns_some_iff.mp h).symm⟩
  | some goal =>
    obtain ⟨revision, -, rfl⟩ := returns_map_iff.mp h
    cases htable : configGoalToConfigInput c.platform goal c.discovery
        (getLastConfigOutputSequenceNumber old + 1) revision with
    | error rc => exact Or.inr ⟨rc, configGoalToConfigInput_error hplatform htable, rfl⟩
    | ok table => exact Or.inl ⟨some table, .goal htable, rfl⟩

/-- A partition that holds a config input table and no config output is read with a copy of it. -/
private theorem deviceStores_of_assembled {platform : Platform} {discovery : DeviceDiscovery}
    {goal : Option ConfigGoal} {input : Option ConfigInputTable} {current : Option Bytes}
    {partition : Bytes} (hmade : MadeFor platform discovery goal input)
    (hsound : TablesSound (newTables current (input.map ConfigInputTable.packed)))
    (hroom : builtSize (newTables current (input.map ConfigInputTable.packed)) ≤
      devPltCfgOemPartitionSize)
    (h : Assembled (newTables current (input.map ConfigInputTable.packed)) partition
      (builtSize (newTables current (input.map ConfigInputTable.packed)))) :
    DeviceStores ⟨partition, none⟩ input := by
  intro heap
  obtain ⟨buffer, hread, hbuffer⟩ := read_assembled hsound hroom h heap
  refine ⟨buffer, _, hread, fun hnone => ?_, fun table hsome => ⟨?_, ?_⟩, ?_⟩
  · subst hnone
    exact (hbuffer.castTable hsound .configInput).1 rfl
  · subst hsome
    obtain ⟨copied, hcast, -, hsame⟩ := (hbuffer.castTable hsound .configInput).2 table.packed rfl
    cases hmade with
    | goal htable => exact ⟨copied, hcast, isCopy_of_goal htable hsame⟩
  · exact (hbuffer.castTable hsound .configOutput).1 rfl
  · exact current_of_assembled hsound (hroom.trans_lt (by decide)) hbuffer

/-- An update that succeeds stores the config input that is made for the goal; one that fails leaves
the DIMM with the one it had. -/
theorem DeviceStores.update {c : UpdateContext} (hplatform : c.platform.FailsWithErrors)
    {goal : Option ConfigGoal} {device device' : PcdDevice} {input : Option ConfigInputTable}
    {rc : ReturnCode} (h : DeviceStores device input)
    (hupdate : Returns (fun fuel => updateConfigGoal fuel c goal device) (rc, device')) :
    (rc = .success ∧ ∃ input', MadeFor c.platform c.discovery goal input' ∧
        DeviceStores device' input') ∨ (rc ≠ .success ∧ DeviceStores device' input) := by
  obtain ⟨old, after, hread, hstored⟩ := h c.heap
  obtain rfl := context_of_read hread
  have hrepaired : Returns
      (fun fuel => getRepairedDimmPlatformConfig fuel c.heap device (some none))
      (.success, some (some old), ⟨device.partition, some old⟩) := by
    obtain ⟨fuel, hfuel⟩ := hread
    refine ⟨fuel, ?_⟩
    dsimp only at hfuel ⊢
    rw [getRepairedDimmPlatformConfig, hfuel]
    rfl
  obtain ⟨packed, hinput, hwrite⟩ := (returns_updateConfigGoal_iff hrepaired).mp hupdate
  rcases newConfigInput_cases hplatform hinput with ⟨input', hmade, rfl⟩ | ⟨code, hcode, rfl⟩
  · have hwritable : Writable old (input'.map ConfigInputTable.packed) := by
      refine ⟨hstored.current, fun table htable => ?_⟩
      obtain ⟨made, rfl, rfl⟩ := Option.map_eq_some_iff.mp htable
      cases hmade with
      | goal hgoal => exact ⟨(inputPacked_of_goal hgoal).sound, (inputPacked_of_goal hgoal).length⟩
    rcases writeNewConfig_spec hwritable with ⟨partition, heq, hroom, hassembled⟩ | heq
    · obtain ⟨rfl, rfl⟩ := Prod.mk.inj (heq.symm.trans hwrite)
      exact Or.inl ⟨rfl, input', hmade,
        deviceStores_of_assembled hmade hwritable.tablesSound.1 hroom hassembled⟩
    · obtain ⟨rfl, rfl⟩ := Prod.mk.inj (heq.symm.trans hwrite)
      exact Or.inr ⟨ReturnCode.noConfusion, deviceStores_of_context hstored⟩
  · obtain ⟨rfl, rfl⟩ := Prod.mk.inj hwrite
    exact Or.inr ⟨hcode, deviceStores_of_context hstored⟩

/-! ### What a call leaves alone -/

section Frame

variable {sys : GoalSystem} {s s' : PcdStore} {deviceUid : Uid} {rc : ReturnCode} {fuel : ℕ}
  {handle : UInt32} {input : Option ConfigInputTable}

/-- Reading the goal of a DIMM leaves the config inputs alone. -/
theorem DeviceStores.get (h : DeviceStores (s handle) input) {goal : ConfigGoal}
    (hget : sys.nvmGetConfigGoal fuel deviceUid s = some (rc, goal, s')) :
    DeviceStores (s' handle) input := by
  have hsame : ∀ {code : ReturnCode} {g : ConfigGoal}, some (code, g, s) = some (rc, goal, s') →
      DeviceStores (s' handle) input := by
    intro code g heq
    simp only [Option.some.injEq, Prod.mk.injEq] at heq
    rwa [← heq.2.2]
  unfold GoalSystem.nvmGetConfigGoal at hget
  split_ifs at hget
  · exact hsame hget
  · exact hsame hget
  · exact hsame hget
  · split at hget
    · exact hsame hget
    · next discovery _ =>
      obtain ⟨⟨code, config, device⟩, hread, hrest⟩ := Option.bind_eq_some_iff.mp hget
      -- whatever has been read, the DIMM is the only one that changes
      have hstore : s' = Function.update s discovery.deviceHandle device := by
        dsimp only at hrest
        split at hrest
        · obtain ⟨decoded, -, heq⟩ := Option.map_eq_some_iff.mp hrest
          simp only [Prod.mk.injEq] at heq
          exact heq.2.2.symm
        · simp only [Option.some.injEq, Prod.mk.injEq] at hrest
          exact hrest.2.2.symm
      rw [hstore]
      by_cases hhandle : handle = discovery.deviceHandle
      · subst hhandle
        obtain ⟨found, heq, hstored⟩ := h.read ⟨fuel, hread⟩
        simp only [Prod.mk.injEq] at heq
        rw [Function.update_self, heq.2.2]
        exact deviceStores_of_context hstored
      · rwa [Function.update_of_ne hhandle]

/-- An update leaves the config inputs of the other DIMMs alone, and that of its own DIMM when it
fails. -/
private theorem DeviceStores.updateStored (herrors : sys.platform.FailsWithErrors)
    (h : DeviceStores (s handle) input) {discovery : DeviceDiscovery} {goal : Option ConfigGoal}
    (hupdate : sys.updateStored fuel discovery goal s = some (rc, s'))
    (hother : rc = .success → discovery.deviceHandle ≠ handle) : DeviceStores (s' handle) input := by
  obtain ⟨⟨code, device⟩, hrun, heq⟩ := Option.map_eq_some_iff.mp hupdate
  obtain ⟨rfl, rfl⟩ := Prod.mk.inj heq
  by_cases hhandle : handle = discovery.deviceHandle
  · subst hhandle
    rw [Function.update_self]
    rcases h.update (c := sys.updateContext discovery s) herrors ⟨fuel, hrun⟩ with
      ⟨hsuccess, -⟩ | ⟨-, hkept⟩
    · exact absurd rfl (hother hsuccess)
    · exact hkept
  · rwa [Function.update_of_ne hhandle]

/-- Creating a goal leaves the config inputs of the other DIMMs alone, and that of its own DIMM when it
fails. -/
theorem DeviceStores.create (herrors : sys.platform.FailsWithErrors)
    (h : DeviceStores (s handle) input) {goal : ConfigGoal}
    (hcreate : sys.nvmCreateConfigGoal fuel deviceUid goal s = some (rc, s'))
    (hother : rc = .success → ∀ discovery,
      existsAndManageable sys.platform deviceUid = .ok discovery → discovery.deviceHandle ≠ handle) :
    DeviceStores (s' handle) input := by
  have hsame : ∀ {code : ReturnCode}, some (code, s) = some (rc, s') →
      DeviceStores (s' handle) input := by
    intro code heq
    obtain ⟨-, rfl⟩ := Prod.mk.inj (Option.some.inj heq)
    exact h
  unfold GoalSystem.nvmCreateConfigGoal at hcreate
  split_ifs at hcreate
  · exact hsame hcreate
  · exact hsame hcreate
  split at hcreate
  · exact hsame hcreate
  split_ifs at hcreate
  · exact hsame hcreate
  split at hcreate
  · exact hsame hcreate
  next discovery hfound =>
  split at hcreate
  · exact hsame hcreate
  split_ifs at hcreate
  · exact hsame hcreate
  split at hcreate
  · exact h.updateStored herrors hcreate fun hsuccess => hother hsuccess discovery hfound
  · exact hsame hcreate

/-- Deleting a goal leaves the config inputs of the other DIMMs alone. -/
theorem DeviceStores.delete (herrors : sys.platform.FailsWithErrors)
    (h : DeviceStores (s handle) input)
    (hdelete : sys.nvmDeleteConfigGoal fuel deviceUid s = some (rc, s'))
    (hother : ∀ discovery,
      existsAndManageable sys.platform deviceUid = .ok discovery → discovery.deviceHandle ≠ handle) :
    DeviceStores (s' handle) input := by
  have hsame : ∀ {code : ReturnCode}, some (code, s) = some (rc, s') →
      DeviceStores (s' handle) input := by
    intro code heq
    obtain ⟨-, rfl⟩ := Prod.mk.inj (Option.some.inj heq)
    exact h
  unfold GoalSystem.nvmDeleteConfigGoal at hdelete
  split_ifs at hdelete
  · exact hsame hdelete
  · exact hsame hdelete
  · exact hsame hdelete
  split at hdelete
  · exact hsame hdelete
  next discovery hfound =>
  obtain ⟨⟨code, goal, between⟩, hget, hrest⟩ := Option.bind_eq_some_iff.mp hdelete
  have hkept := h.get hget
  dsimp only at hrest
  split_ifs at hrest
  · exact hkept.updateStored herrors hrest fun _ => hother discovery hfound
  · obtain ⟨-, rfl⟩ := Prod.mk.inj (Option.some.inj hrest)
    exact hkept

end Frame

/-! ### Runs -/

/-- What the calls fail with are errors. -/
structure GoalSystem.FailsWithErrors (sys : GoalSystem) : Prop where
  /-- The platform. -/
  platform : sys.platform.FailsWithErrors
  /-- The capabilities. -/
  capabilities : sys.getNvmCapabilities ≠ .error .success
  /-- The namespaces of a DIMM. -/
  namespaces : ∀ discovery, sys.dimmHasNamespaces discovery ≠ .error .success

/-- A call on the config goal of a DIMM. -/
inductive GoalCall
  /-- `nvm_create_config_goal`. -/
  | create (deviceUid : Uid) (goal : ConfigGoal)
  /-- `nvm_get_config_goal`. -/
  | get (deviceUid : Uid)
  /-- `nvm_delete_config_goal`. -/
  | delete (deviceUid : Uid)
  deriving DecidableEq, Repr

/-- What a call returns, and what it leaves on the DIMMs. -/
def GoalCall.run (fuel : ℕ) (sys : GoalSystem) (s : PcdStore) :
    GoalCall → Option (ReturnCode × PcdStore)
  | create deviceUid goal => sys.nvmCreateConfigGoal fuel deviceUid goal s
  | get deviceUid => (sys.nvmGetConfigGoal fuel deviceUid s).map fun (rc, _, s') => (rc, s')
  | delete deviceUid => sys.nvmDeleteConfigGoal fuel deviceUid s

/-- The goals of the DIMMs, by their handles. -/
abbrev GoalRegister := UInt32 → Option ConfigGoal

/-- A register after a goal of a DIMM has been stored or deleted. -/
def GoalRegister.put (register : GoalRegister) (platform : Platform) (deviceUid : Uid)
    (goal : Option ConfigGoal) : GoalRegister :=
  match existsAndManageable platform deviceUid with
  | .ok discovery => Function.update register discovery.deviceHandle goal
  | .error _ => register

/-- A register after a call that succeeds. -/
def GoalCall.record (platform : Platform) (register : GoalRegister) : GoalCall → GoalRegister
  | create deviceUid goal => register.put platform deviceUid (some goal)
  | get _ => register
  | delete deviceUid => register.put platform deviceUid none

/-- The runs of calls from DIMMs without a goal, with the goals that have been stored by the calls
that succeeded.  The permissions, the capabilities and the namespaces may change between the calls. -/
inductive GoalCallRun (platform : Platform) (start : PcdStore) : GoalRegister → PcdStore → Prop
  /-- No goal has been stored. -/
  | start : GoalCallRun platform start (fun _ => none) start
  /-- A call. -/
  | call {register : GoalRegister} {s s' : PcdStore} {sys : GoalSystem} {call : GoalCall} {fuel : ℕ}
      {rc : ReturnCode} (hrun : GoalCallRun platform start register s)
      (hplatform : sys.platform = platform) (herrors : sys.FailsWithErrors)
      (hcall : call.run fuel sys s = some (rc, s')) :
      GoalCallRun platform start (if rc = .success then call.record platform register else register)
        s'

/-! ### The register -/

/-- The DIMMs have the goals of a register. -/
def HasGoals (platform : Platform) (devices : List DeviceDiscovery) (register : GoalRegister)
    (s : PcdStore) : Prop :=
  ∀ discovery ∈ devices, ∃ input,
    MadeFor platform discovery (register discovery.deviceHandle) input ∧
      DeviceStores (s discovery.deviceHandle) input

section Register

variable {platform : Platform} {devices : List DeviceDiscovery} {register : GoalRegister}
  {s s' : PcdStore} {sys : GoalSystem} {deviceUid : Uid} {discovery : DeviceDiscovery}
  {rc : ReturnCode} {fuel : ℕ}

/-- A manageable device is one of the devices. -/
theorem mem_of_existsAndManageable (hdevices : platform.getDevices = .ok devices)
    (h : existsAndManageable platform deviceUid = .ok discovery) : discovery ∈ devices := by
  have hlookup := lookupDevUid_of_existsAndManageable h
  unfold lookupDevUid Platform.lookup at hlookup
  rw [hdevices] at hlookup
  dsimp only at hlookup
  split at hlookup
  · next hfind =>
    obtain rfl := Except.ok.inj hlookup
    exact List.mem_of_find?_eq_some hfind
  · cases hlookup

/-- When the DIMM of one device changes, the other DIMMs keep their goals. -/
private theorem HasGoals.set (hnodup : (devices.map DeviceDiscovery.deviceHandle).Nodup)
    (h : HasGoals platform devices register s) (hmem : discovery ∈ devices)
    {goal : Option ConfigGoal} {device : PcdDevice} {input : Option ConfigInputTable}
    (hmade : MadeFor platform discovery goal input) (hstores : DeviceStores device input) :
    HasGoals platform devices (Function.update register discovery.deviceHandle goal)
      (Function.update s discovery.deviceHandle device) := by
  intro d hd
  by_cases hhandle : d.deviceHandle = discovery.deviceHandle
  · obtain rfl := List.inj_on_of_nodup_map hnodup hd hmem hhandle
    refine ⟨input, ?_, ?_⟩
    · rwa [Function.update_self]
    · rwa [Function.update_self]
  · rw [Function.update_of_ne hhandle, Function.update_of_ne hhandle]
    exact h d hd

/-- An update of the goal of a device. -/
private theorem HasGoals.updateStored (hnodup : (devices.map DeviceDiscovery.deviceHandle).Nodup)
    (herrors : sys.platform.FailsWithErrors) (h : HasGoals sys.platform devices register s)
    (hmem : discovery ∈ devices) {goal : Option ConfigGoal}
    (hupdate : sys.updateStored fuel discovery goal s = some (rc, s')) :
    HasGoals sys.platform devices
      (if rc = .success then Function.update register discovery.deviceHandle goal else register)
      s' := by
  obtain ⟨⟨code, device⟩, hrun, heq⟩ := Option.map_eq_some_iff.mp hupdate
  obtain ⟨rfl, rfl⟩ := Prod.mk.inj heq
  obtain ⟨input, hmade, hstores⟩ := h discovery hmem
  rcases hstores.update (c := sys.updateContext discovery s) herrors ⟨fuel, hrun⟩ with
    ⟨rfl, input', hmade', hstores'⟩ | ⟨hcode, hstores'⟩
  · rw [if_pos rfl]
    exact h.set hnodup hmem hmade' hstores'
  · rw [if_neg hcode]
    have hset := h.set hnodup hmem hmade hstores'
    rwa [Function.update_eq_self] at hset

/-- Reading the goal of a DIMM keeps the goals. -/
private theorem HasGoals.get (h : HasGoals sys.platform devices register s) {goal : ConfigGoal}
    (hget : sys.nvmGetConfigGoal fuel deviceUid s = some (rc, goal, s')) :
    HasGoals sys.platform devices register s' := by
  intro discovery hmem
  obtain ⟨input, hmade, hstores⟩ := h discovery hmem
  exact ⟨input, hmade, hstores.get hget⟩

/-- A call keeps the goals in step with the register. -/
private theorem HasGoals.call (hnodup : (devices.map DeviceDiscovery.deviceHandle).Nodup)
    (hdevices : sys.platform.getDevices = .ok devices) (herrors : sys.FailsWithErrors)
    (h : HasGoals sys.platform devices register s) {call : GoalCall}
    (hcall : call.run fuel sys s = some (rc, s')) :
    HasGoals sys.platform devices
      (if rc = .success then call.record sys.platform register else register) s' := by
  have hfailed : ∀ {code : ReturnCode}, code ≠ .success → some (code, s) = some (rc, s') →
      HasGoals sys.platform devices
        (if rc = .success then call.record sys.platform register else register) s' := by
    intro code hcode heq
    obtain ⟨rfl, rfl⟩ := Prod.mk.inj (Option.some.inj heq)
    rwa [if_neg hcode]
  cases call with
  | create deviceUid goal =>
    dsimp only [GoalCall.run, GoalSystem.nvmCreateConfigGoal] at hcall
    split_ifs at hcall
    · exact hfailed ReturnCode.noConfusion hcall
    · exact hfailed ReturnCode.noConfusion hcall
    split at hcall
    · next code hcapabilities =>
      exact hfailed (fun hcode => herrors.capabilities (hcode ▸ hcapabilities)) hcall
    split_ifs at hcall
    · exact hfailed ReturnCode.noConfusion hcall
    split at hcall
    · next code hfound => exact hfailed (existsAndManageable_error herrors.platform hfound) hcall
    next discovery hfound =>
    split at hcall
    · next code hnamespaces =>
      exact hfailed (fun hcode => herrors.namespaces discovery (hcode ▸ hnamespaces)) hcall
    split_ifs at hcall
    · exact hfailed ReturnCode.noConfusion hcall
    split at hcall
    · have hupdated := h.updateStored hnodup herrors.platform
        (mem_of_existsAndManageable hdevices hfound) hcall
      rwa [GoalCall.record, GoalRegister.put, hfound]
    · next code _ hinvalid => exact hfailed hinvalid hcall
  | get deviceUid =>
    obtain ⟨⟨code, goal, s''⟩, hget, heq⟩ := Option.map_eq_some_iff.mp hcall
    obtain ⟨rfl, rfl⟩ := Prod.mk.inj heq
    have hkept := h.get hget
    rwa [GoalCall.record, ite_self]
  | delete deviceUid =>
    dsimp only [GoalCall.run, GoalSystem.nvmDeleteConfigGoal] at hcall
    split_ifs at hcall with _ _ hfeature
    · exact hfailed ReturnCode.noConfusion hcall
    · exact hfailed ReturnCode.noConfusion hcall
    · exact hfailed hfeature hcall
    split at hcall
    · next code hfound => exact hfailed (existsAndManageable_error herrors.platform hfound) hcall
    next discovery hfound =>
    obtain ⟨⟨code, goal, s''⟩, hget, hrest⟩ := Option.bind_eq_some_iff.mp hcall
    have hkept := h.get hget
    dsimp only at hrest
    split_ifs at hrest with hcode
    · have hupdated := hkept.updateStored hnodup herrors.platform
        (mem_of_existsAndManageable hdevices hfound) hrest
      rwa [GoalCall.record, GoalRegister.put, hfound]
    · obtain ⟨rfl, rfl⟩ := Prod.mk.inj (Option.some.inj hrest)
      rwa [if_neg fun hsuccess => hcode (Or.inl hsuccess)]

/-- The goals are in step with the register in every run. -/
theorem GoalCallRun.hasGoals (hdevices : platform.getDevices = .ok devices)
    (hnodup : (devices.map DeviceDiscovery.deviceHandle).Nodup) {start : PcdStore}
    (hstart : ∀ discovery ∈ devices, DeviceStores (start discovery.deviceHandle) none)
    (hrun : GoalCallRun platform start register s) : HasGoals platform devices register s := by
  induction hrun with
  | start => exact fun discovery hmem => ⟨none, .none, hstart discovery hmem⟩
  | call _ hplatform herrors hcall ih =>
    subst hplatform
    exact ih.call hnodup hdevices herrors hcall

end Register

/-! ### What a DIMM answers -/

/-- `nvm_get_config_goal` gets as far as the platform config data of a DIMM. -/
structure GoalSystem.MayGet (sys : GoalSystem) (deviceUid : Uid) (discovery : DeviceDiscovery) :
    Prop where
  /-- The caller is permitted. -/
  permitted : sys.callerPermitted = true
  /-- There is a driver. -/
  driver : sys.supportedDriverAvailable = true
  /-- The feature is supported. -/
  feature : sys.isNvmFeatureSupported GoalFeatures.getDeviceCapacity = .success
  /-- The DIMM is found, and manageable. -/
  found : existsAndManageable sys.platform deviceUid = .ok discovery

/-- A DIMM answers with a goal: the call succeeds, the status is new, and the rest is what is decoded of
a config input table that has been made for the goal. -/
def AnswersWith (sys : GoalSystem) (deviceUid : Uid) (discovery : DeviceDiscovery) (goal : ConfigGoal)
    (s : PcdStore) : Prop :=
  ∃ seqNum revision table decoded s',
    configGoalToConfigInput sys.platform goal discovery seqNum revision = .ok table ∧
    Returns (fun fuel => configInputTableToConfigGoal fuel sys.platform deviceUid
      (ofList table.bytes) TableKind.configInput.structSize table.length {}) (.success, decoded) ∧
    Returns (fun fuel => sys.nvmGetConfigGoal fuel deviceUid s)
      (.success, decoded.withStatus .new, s')

/-- A DIMM answers that it has no goal. -/
def AnswersNotFound (sys : GoalSystem) (deviceUid : Uid) (s : PcdStore) : Prop :=
  ∃ goal s', Returns (fun fuel => sys.nvmGetConfigGoal fuel deviceUid s) (.errNotFound, goal, s')

section Answers

variable {sys : GoalSystem} {deviceUid : Uid} {discovery : DeviceDiscovery} {s : PcdStore}

/-- What is made of the platform config data does not depend on the bound. -/
private theorem fuelMono_goalOfConfig (sys : GoalSystem) (deviceUid : Uid) (config : Bytes) :
    FuelMono fun fuel => sys.goalOfConfig fuel deviceUid config := by
  unfold GoalSystem.goalOfConfig
  cases castConfigInput config with
  | none => exact fuelMono_const _
  | some input =>
    refine FuelMono.bind ?_ fun status => fuelMono_runLoop _ _
    unfold getConfigGoalStatusFromPlatformConfigData
    split
    · exact fuelMono_const _
    · exact fuelMono_const _
    · split_ifs
      · exact fuelMono_const _
      · exact fuelMono_const _
      · exact FuelMono.map (fuelMono_runLoop _ _) _

/-- What `nvm_get_config_goal` returns does not depend on the bound. -/
theorem fuelMono_nvmGetConfigGoal (sys : GoalSystem) (deviceUid : Uid) (s : PcdStore) :
    FuelMono fun fuel => sys.nvmGetConfigGoal fuel deviceUid s := by
  unfold GoalSystem.nvmGetConfigGoal
  split_ifs
  · exact fuelMono_const _
  · exact fuelMono_const _
  · exact fuelMono_const _
  · split
    · exact fuelMono_const _
    · refine (fuelMono_getDimmPlatformConfig _ _).bind fun read => ?_
      dsimp only
      split
      · exact (fuelMono_goalOfConfig sys deviceUid _).map _
      · exact fuelMono_const _

/-- What the call returns once the platform config data has been read. -/
private theorem returns_nvmGetConfigGoal (hget : sys.MayGet deviceUid discovery) {config : Bytes}
    {device : PcdDevice} {rc : ReturnCode} {goal : ConfigGoal}
    (hread : Returns (fun fuel => getDimmPlatformConfig fuel sys.heap (s discovery.deviceHandle))
      (.success, some config, device))
    (hgoal : Returns (fun fuel => sys.goalOfConfig fuel deviceUid config) (rc, goal)) :
    Returns (fun fuel => sys.nvmGetConfigGoal fuel deviceUid s)
      (rc, goal, Function.update s discovery.deviceHandle device) := by
  obtain ⟨m, hm⟩ := hread
  obtain ⟨n, hn⟩ := hgoal
  have hm' := fuelMono_getDimmPlatformConfig _ _ m (max m n) _ (Nat.le_max_left m n) hm
  have hn' := fuelMono_goalOfConfig sys deviceUid config n (max m n) _ (Nat.le_max_right m n) hn
  refine ⟨max m n, ?_⟩
  dsimp only at hm' hn' ⊢
  rw [GoalSystem.nvmGetConfigGoal, hget.permitted, hget.driver, hget.feature, hget.found]
  simp only [Bool.not_true, Bool.false_eq_true, if_false, ne_eq, not_true_eq_false, hm',
    Option.bind_some, hn', Option.map_some]

/-- A DIMM that stores no config input answers that it has no goal. -/
theorem answersNotFound (hget : sys.MayGet deviceUid discovery)
    (hstores : DeviceStores (s discovery.deviceHandle) none) : AnswersNotFound sys deviceUid s := by
  obtain ⟨config, device, hread, hstored⟩ := hstores sys.heap
  have hgoal : (fun fuel => sys.goalOfConfig fuel deviceUid config) =
      fun _ => some (.errNotFound, {}) := by
    funext fuel
    rw [GoalSystem.goalOfConfig, hstored.absent rfl]
  refine ⟨{}, _, returns_nvmGetConfigGoal hget hread ?_⟩
  rw [hgoal]
  exact ⟨0, rfl⟩

/-- What is decoded of the table of a goal is what every DIMM that stores the table answers with. -/
theorem exists_answer (hget : sys.MayGet deviceUid discovery) {goal : ConfigGoal} {seqNum : UInt32}
    {revision : UInt8} {table : ConfigInputTable}
    (htable : configGoalToConfigInput sys.platform goal discovery seqNum revision = .ok table) :
    ∃ decoded, Returns (fun fuel => configInputTableToConfigGoal fuel sys.platform deviceUid
        (ofList table.bytes) TableKind.configInput.structSize table.length {}) (.success, decoded) ∧
      ∀ s : PcdStore, DeviceStores (s discovery.deviceHandle) (some table) → ∃ s',
        Returns (fun fuel => sys.nvmGetConfigGoal fuel deviceUid s)
          (.success, decoded.withStatus .new, s') := by
  obtain ⟨decoded, hdecoded⟩ := exists_returns_decoded
    (lookupDevUid_of_existsAndManageable hget.found) htable
  refine ⟨decoded, hdecoded, fun s hstores => ?_⟩
  obtain ⟨config, device, hread, hstored⟩ := hstores sys.heap
  obtain ⟨⟨input, hinput, hcopy⟩, houtput⟩ := hstored.present table rfl
  have hgoal : (fun fuel => sys.goalOfConfig fuel deviceUid config) = fun fuel =>
      (configInputTableToConfigGoal fuel sys.platform deviceUid (ofList table.bytes)
        TableKind.configInput.structSize table.length {}).map
          (Prod.map id (ConfigGoal.withStatus .new)) := by
    funext fuel
    rw [← configInputTableToConfigGoal_copy sys.platform deviceUid htable hcopy .new fuel,
      GoalSystem.goalOfConfig, hinput]
    dsimp only
    rw [getConfigGoalStatusFromPlatformConfigData, hinput, houtput]
    rfl
  refine ⟨_, returns_nvmGetConfigGoal hget hread ?_⟩
  rw [hgoal]
  exact returns_map_iff.mpr ⟨_, hdecoded, rfl⟩

/-- A DIMM that stores a config input table answers with its goal. -/
private theorem answersWith (hget : sys.MayGet deviceUid discovery) {goal : ConfigGoal}
    {seqNum : UInt32} {revision : UInt8} {table : ConfigInputTable}
    (htable : configGoalToConfigInput sys.platform goal discovery seqNum revision = .ok table)
    (hstores : DeviceStores (s discovery.deviceHandle) (some table)) :
    AnswersWith sys deviceUid discovery goal s := by
  obtain ⟨decoded, hdecoded, hanswer⟩ := exists_answer hget htable
  obtain ⟨s', hreturns⟩ := hanswer s hstores
  exact ⟨seqNum, revision, table, decoded, s', htable, hdecoded, hreturns⟩

end Answers

/-- DIMMs whose platform config data has no tables. -/
def emptyStore : PcdStore := fun _ => ⟨builtPartition (newTables none none), none⟩

/-- A system with a single DIMM. -/
def soloSystem : GoalSystem where
  platform := soloPlatform
  getNvmCapabilities := .ok ({}, {})

/-- The DIMM when its goal has been created. -/
def soloStore : PcdStore :=
  ((soloSystem.nvmCreateConfigGoal 9 soloDevice.uid (soloGoal 1 2) emptyStore).map Prod.snd).getD
    emptyStore

/-- The DIMM without tables stores no goal. -/
theorem deviceStores_emptyStore (handle : UInt32) :
    DeviceStores (emptyStore handle) none := by
  have hsound : TablesSound (newTables none none) := by
    intro kind table htable
    cases kind with
    | currentConfig => cases htable
    | configInput => cases htable
    | configOutput => cases htable
  obtain ⟨m, hbuild, hassembled⟩ := build_assembled hsound (by decide)
  have hpartition : builtPartition (newTables none none) = m := by
    rw [builtPartition, hbuild]
    rfl
  rw [emptyStore, hpartition]
  have hmade : MadeFor soloPlatform soloDevice none none := .none
  exact deviceStores_of_assembled hmade hsound (by decide) (hassembled _ le_rfl)

/-- The system fails with nothing but errors. -/
theorem failsWithErrors_soloSystem : soloSystem.FailsWithErrors := by
  refine ⟨⟨?_, ?_⟩, ?_, fun _ => ?_⟩
  all_goals exact fun h => by cases h

/-- The goal is created. -/
private theorem create_soloStore : (soloSystem.nvmCreateConfigGoal 9 soloDevice.uid (soloGoal 1 2)
    emptyStore).map Prod.fst = some .success := by
  decide +kernel

end IxpDimm
