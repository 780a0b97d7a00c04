import IxpDimm.ConfigGoal.Calls
import IxpDimm.MemoryAllocator.Allocator

/-!
# Allocations

The allocator on the platform config data of the DIMMs.  `NvmLibrary.cpp` passes the calls of the core
on to the native library: a uid that is too long is an exception, and so is an error code.

An allocation is a run of calls that create goals (`allocate_outcome`): it stores the goals of a layout
up to the first failure, and the exception says whether there are any.  A goal that a DIMM answers with
is not touched by later allocations (`allocations_keep_goal`), since the rules for requests see it.
-/

namespace IxpDimm

open Foundation MemoryAllocator

/-! ### The library behind the allocator -/

/-- `NvmLibrary::createConfigGoal`. -/
def GoalSystem.createConfigGoal (fuel : ℕ) (sys : GoalSystem) (deviceUid : Uid) (goal : ConfigGoal)
    (s : PcdStore) : Option (RuleResult × PcdStore) :=
  match stringToUid deviceUid with
  | .error e => some (.error (.layout e), s)
  | .ok uid => (sys.nvmCreateConfigGoal fuel uid goal s).map fun (rc, s') =>
      (if rc = .success then .ok () else .error (.library rc), s')

/-- `NvmLibrary::getConfigGoal` as the allocator sees it: what `nvm_get_config_goal` returns. -/
def ReadsGoals (lib : NvmLibrary) (sys : GoalSystem) (s : PcdStore) : Prop :=
  ∀ deviceUid uid rc goal s', stringToUid deviceUid = .ok uid →
    Returns (fun fuel => sys.nvmGetConfigGoal fuel uid s) (rc, goal, s') →
    lib.getConfigGoal deviceUid = if rc = .success then .ok goal else .error rc

section Library

variable {sys : GoalSystem} {deviceUid uid : Uid} {goal : ConfigGoal} {s s' : PcdStore} {fuel : ℕ}

/-- The only exception of a conversion. -/
private theorem stringToUid_error {e : LayoutException} (h : stringToUid deviceUid = .error e) :
    nvmMaxUidLen ≤ deviceUid.length ∧ e = .invalidArgument := by
  unfold stringToUid at h
  split_ifs at h with hlong
  exact ⟨Nat.le_of_pred_lt hlong, (Except.error.inj h).symm⟩

/-- A goal is created by a call of the native library, if the uid is not too long. -/
private theorem createConfigGoal_cases {result : RuleResult}
    (h : sys.createConfigGoal fuel deviceUid goal s = some (result, s')) :
    (nvmMaxUidLen ≤ deviceUid.length ∧ s' = s ∧ result = .error (.layout .invalidArgument)) ∨
      ∃ uid rc, stringToUid deviceUid = .ok uid ∧
        sys.nvmCreateConfigGoal fuel uid goal s = some (rc, s') ∧
        result = if rc = .success then .ok () else .error (.library rc) := by
  unfold GoalSystem.createConfigGoal at h
  cases huid : stringToUid deviceUid with
  | error e =>
    rw [huid] at h
    obtain ⟨hlong, rfl⟩ := stringToUid_error huid
    obtain ⟨rfl, rfl⟩ := Prod.mk.inj (Option.some.inj h)
    exact Or.inl ⟨hlong, rfl, rfl⟩
  | ok uid =>
    rw [huid] at h
    obtain ⟨⟨rc, s''⟩, hcreate, heq⟩ := Option.map_eq_some_iff.mp h
    obtain ⟨rfl, rfl⟩ := Prod.mk.inj heq
    exact Or.inr ⟨uid, rc, rfl, hcreate, rfl⟩

/-- What a call that creates a goal has found out before. -/
private theorem create_success (herrors : sys.FailsWithErrors)
    (h : sys.nvmCreateConfigGoal fuel uid goal s = some (.success, s')) :
    sys.callerPermitted = true ∧ sys.supportedDriverAvailable = true ∧
      ∃ capabilities, sys.getNvmCapabilities = .ok capabilities := by
  unfold GoalSystem.nvmCreateConfigGoal at h
  cases hpermitted : sys.callerPermitted with
  | false =>
    rw [hpermitted] at h
    cases h
  | true =>
    cases hdriver : sys.supportedDriverAvailable with
    | false =>
      rw [hpermitted, hdriver] at h
      cases h
    | true =>
      cases hcapabilities : sys.getNvmCapabilities with
      | ok capabilities => exact ⟨rfl, rfl, capabilities, rfl⟩
      | error rc =>
        rw [hpermitted, hdriver, hcapabilities] at h
        obtain ⟨rfl, -⟩ := Prod.mk.inj (Option.some.inj h)
        exact absurd hcapabilities herrors.capabilities

end Library

/-! ### What an allocation stores -/

/-- The outcome of an allocation that has created goals for some DIMMs and none for the rest. -/
inductive AllocationOutcome : List Uid → List Uid → RuleResult → Prop
  /-- All goals have been created. -/
  | all {created : List Uid} : AllocationOutcome created [] (.ok ())
  /-- The library fails at the first DIMM. -/
  | none {rest : List Uid} {code : ReturnCode} : rest ≠ [] → code ≠ .success →
      AllocationOutcome [] rest (.error (.library code))
  /-- The library fails when goals have been created. -/
  | some {created rest : List Uid} : created ≠ [] → rest ≠ [] →
      AllocationOutcome created rest (.error .partialResultsCouldNotBeUndone)
  /-- The uid of the next DIMM is too long. -/
  | tooLong {created rest : List Uid} {uid : Uid} : nvmMaxUidLen ≤ uid.length →
      AllocationOutcome created (uid :: rest) (.error (.layout .invalidArgument))

/-- A register with the goals of a layout for some DIMMs, one after the other. -/
def registerGoals (platform : Platform) (goals : Goals) (register : GoalRegister) (uids : List Uid) :
    GoalRegister :=
  uids.foldl (fun register uid => register.put platform (cString uid) (some (goals uid))) register

section Outcome

variable {sys : GoalSystem} {goals : Goals} {s s' start : PcdStore} {fuel : ℕ}
  {register : GoalRegister} {result : RuleResult}

/-- The loop of an allocation is a run of calls. -/
private theorem createConfigGoals_outcome (herrors : sys.FailsWithErrors) (created : List Uid)
    {uids : List Uid}
    (hrun : GoalCallRun sys.platform start (registerGoals sys.platform goals register created) s)
    (h : createConfigGoals (sys.createConfigGoal fuel) goals (!created.isEmpty) uids s =
      some (result, s')) :
    ∃ done rest, uids = done ++ rest ∧ AllocationOutcome (created ++ done) rest result ∧
      GoalCallRun sys.platform start
        (registerGoals sys.platform goals register (created ++ done)) s' := by
  induction uids generalizing created s with
  | nil =>
    obtain ⟨rfl, rfl⟩ := Prod.mk.inj (Option.some.inj h)
    rw [← List.append_nil created] at hrun
    exact ⟨[], [], rfl, .all, hrun⟩
  | cons uid uids ih =>
    obtain ⟨⟨called, s₁⟩, hcall, hrest⟩ := Option.bind_eq_some_iff.mp h
    rcases createConfigGoal_cases hcall with ⟨hlong, rfl, rfl⟩ | ⟨v, rc, huid, hcreate, rfl⟩
    · obtain ⟨rfl, rfl⟩ := Prod.mk.inj (Option.some.inj hrest)
      refine ⟨[], uid :: uids, rfl, .tooLong hlong, ?_⟩
      rwa [List.append_nil]
    · have hcreated : GoalCall.run fuel sys s (.create v (goals uid)) = some (rc, s₁) := hcreate
      have hnext := hrun.call rfl herrors hcreated
      obtain rfl : v = cString uid := by
        unfold stringToUid at huid
        split_ifs at huid
        exact (Except.ok.inj huid).symm
      by_cases hrc : rc = .success
      · rw [if_pos hrc] at hrest hnext
        have hregister : GoalCall.record sys.platform
            (registerGoals sys.platform goals register created) (.create (cString uid) (goals uid)) =
            registerGoals sys.platform goals register (created ++ [uid]) := by
          rw [registerGoals, registerGoals, List.foldl_append]
          rfl
        have hflag : (!(created ++ [uid]).isEmpty) = true := by
          cases created with
          | nil => rfl
          | cons _ _ => rfl
        rw [hregister] at hnext
        rw [← hflag] at hrest
        obtain ⟨done, rest, rfl, houtcome, hdone⟩ := ih _ hnext hrest
        rw [List.append_assoc, List.singleton_append] at houtcome hdone
        exact ⟨uid :: done, rest, rfl, houtcome, hdone⟩
      · rw [if_neg hrc] at hrest hnext
        obtain ⟨rfl, rfl⟩ := Prod.mk.inj (Option.some.inj hrest)
        refine ⟨[], uid :: uids, rfl, ?_, ?_⟩
        · rw [List.append_nil]
          cases created with
          | nil => exact .none (List.cons_ne_nil _ _) hrc
          | cons first created => exact .some (List.cons_ne_nil _ _) (List.cons_ne_nil _ _)
        · rwa [List.append_nil]

end Outcome

/-- What happens between two boots. -/
inductive AllocatorOp
  /-- A request is laid out, and the layout is allocated. -/
  | allocate
  /-- `nvm_get_config_goal`. -/
  | get (deviceUid : Uid)
  /-- `nvm_delete_config_goal`. -/
  | delete (deviceUid : Uid)
  deriving DecidableEq, Repr

/-- The effect of an operation.  The answers of the library that a layout is made of are those before
the operation; reading them changes nothing but what is kept in the context. -/
inductive AllocatorStep (platform : Platform) : AllocatorOp → PcdStore → PcdStore → Prop
  /-- An allocation, whatever it throws. -/
  | allocate {s s' : PcdStore} {sys : GoalSystem} {allocator : MemoryAllocator}
      {request : MemoryAllocationRequest} {major minor : UInt16} {layout : MemoryAllocationLayout}
      {fuel : ℕ} {result : RuleResult} (hplatform : sys.platform = platform)
      (herrors : sys.FailsWithErrors)
      (hreads : ReadsGoals allocator.nvmLib.toNvmLibrary sys s)
      (hlayout : allocator.layout request major minor = .ok layout)
      (hallocate : MemoryAllocator.allocate (sys.createConfigGoal fuel) layout s =
        some (result, s')) : AllocatorStep platform .allocate s s'
  /-- A read. -/
  | get {s s' : PcdStore} {sys : GoalSystem} {deviceUid : Uid} {fuel : ℕ} {rc : ReturnCode}
      {goal : ConfigGoal} (hplatform : sys.platform = platform) (herrors : sys.FailsWithErrors)
      (hget : sys.nvmGetConfigGoal fuel deviceUid s = some (rc, goal, s')) :
      AllocatorStep platform (.get deviceUid) s s'
  /-- A goal is deleted. -/
  | delete {s s' : PcdStore} {sys : GoalSystem} {deviceUid : Uid} {fuel : ℕ} {rc : ReturnCode}
      (hplatform : sys.platform = platform) (herrors : sys.FailsWithErrors)
      (hdelete : sys.nvmDeleteConfigGoal fuel deviceUid s = some (rc, s')) :
      AllocatorStep platform (.delete deviceUid) s s'

/-- Operations one after the other. -/
inductive AllocatorRun (platform : Platform) : PcdStore → List AllocatorOp → PcdStore → Prop
  /-- No operation. -/
  | nil {s : PcdStore} : AllocatorRun platform s [] s
  /-- An operation, and those after it. -/
  | cons {s s₁ s' : PcdStore} {op : AllocatorOp} {ops : List AllocatorOp} :
      AllocatorStep platform op s s₁ → AllocatorRun platform s₁ ops s' →
      AllocatorRun platform s (op :: ops) s'

section Runs

variable {platform : Platform} {start s s' : PcdStore} {register : GoalRegister}

/-- An operation is a run of calls. -/
private theorem AllocatorStep.goalCallRun {op : AllocatorOp} (h : AllocatorStep platform op s s')
    (hrun : GoalCallRun platform start register s) :
    ∃ register', GoalCallRun platform start register' s' := by
  cases h with
  | allocate hplatform herrors _ _ hallocate =>
    subst hplatform
    obtain ⟨created, _, -, -, hafter⟩ :=
      createConfigGoals_outcome herrors [] hrun hallocate
    exact ⟨_, hafter⟩
  | @get _ _ sys deviceUid fuel rc goal hplatform herrors hget =>
    have hcall : GoalCall.run fuel sys s (.get deviceUid) = some (rc, s') := by
      rw [GoalCall.run, hget]
      rfl
    exact ⟨_, hrun.call hplatform herrors hcall⟩
  | @delete _ _ sys deviceUid fuel rc hplatform herrors hdelete =>
    have hcall : GoalCall.run fuel sys s (.delete deviceUid) = some (rc, s') := hdelete
    exact ⟨_, hrun.call hplatform herrors hcall⟩

/-- Operations are a run of calls. -/
private theorem AllocatorRun.goalCallRun {ops : List AllocatorOp} (h : AllocatorRun platform s ops s')
    (hrun : GoalCallRun platform start register s) :
    ∃ register', GoalCallRun platform start register' s' := by
  induction h generalizing register with
  | nil => exact ⟨register, hrun⟩
  | cons hstep _ ih =>
    obtain ⟨_, hnext⟩ := hstep.goalCallRun hrun
    exact ih hnext

end Runs

/-! ### Goals that are waiting -/

section Waiting

variable {sys : GoalSystem} {discovery : DeviceDiscovery} {s s' : PcdStore}
  {goal : ConfigGoal} {table : ConfigInputTable}

/-- The rules do not let a DIMM through that has a goal, if it can be created at all. -/
private theorem not_noUnappliedGoal {lib : NvmLibrary} (hreads : ReadsGoals lib sys s) {dimm : Dimm}
    (hmade : MadeFor sys.platform discovery (some goal) (some table))
    (hstores : DeviceStores (s discovery.deviceHandle) (some table))
    (hpermitted : sys.callerPermitted = true) (hdriver : sys.supportedDriverAvailable = true)
    {capabilities : GoalFeatures × PlatformCapabilities}
    (hcapabilities : sys.getNvmCapabilities = .ok capabilities) {uid : Uid}
    (huid : stringToUid dimm.uid = .ok uid)
    (hfound : existsAndManageable sys.platform uid = .ok discovery) :
    ¬ NoUnappliedGoal lib dimm := by
  intro hnone
  by_cases hfeature : sys.isNvmFeatureSupported GoalFeatures.getDeviceCapacity = .success
  · -- the DIMM answers with the goal, which is new
    cases hmade with
    | goal htable =>
      obtain ⟨decoded, -, hanswer⟩ := exists_answer ⟨hpermitted, hdriver, hfeature, hfound⟩ htable
      obtain ⟨_, hreturns⟩ := hanswer s hstores
      have hread := hreads dimm.uid uid _ _ _ huid hreturns
      rw [if_pos rfl] at hread
      rw [NoUnappliedGoal, hread] at hnone
      cases hnone
  · -- the DIMM does not answer, and this is no sign that it has no goal
    have hunsupported : sys.isNvmFeatureSupported GoalFeatures.getDeviceCapacity =
        .errNotSupported := by
      obtain ⟨features, platformCapabilities⟩ := capabilities
      unfold GoalSystem.isNvmFeatureSupported at hfeature ⊢
      rw [hcapabilities] at hfeature ⊢
      dsimp only at hfeature ⊢
      split_ifs at hfeature ⊢
      · exact absurd rfl hfeature
      · rfl
    have hreturns : Returns (fun fuel => sys.nvmGetConfigGoal fuel uid s)
        (.errNotSupported, {}, s) := by
      refine ⟨0, ?_⟩
      dsimp only [GoalSystem.nvmGetConfigGoal]
      rw [hpermitted, hdriver, hunsupported]
      rfl
    have hread := hreads dimm.uid uid _ _ _ huid hreturns
    rw [if_neg (by decide)] at hread
    rw [NoUnappliedGoal, hread] at hnone
    rcases hnone with h | h
    · cases h
    · cases h

/-- An allocation leaves a config input alone when no goal is created for its DIMM. -/
private theorem createConfigGoals_keeps (herrors : sys.FailsWithErrors) {handle : UInt32}
    {input : Option ConfigInputTable} {goals : Goals} {fuel : ℕ} {uids : List Uid}
    (hother : ∀ deviceUid ∈ uids, ∀ uid s s', stringToUid deviceUid = .ok uid →
      sys.nvmCreateConfigGoal fuel uid (goals deviceUid) s = some (.success, s') →
      ∀ discovery, existsAndManageable sys.platform uid = .ok discovery →
        discovery.deviceHandle ≠ handle) {succeeded : Bool} {result : RuleResult}
    (hstores : DeviceStores (s handle) input)
    (h : createConfigGoals (sys.createConfigGoal fuel) goals succeeded uids s = some (result, s')) :
    DeviceStores (s' handle) input := by
  induction uids generalizing succeeded s with
  | nil =>
    obtain ⟨-, rfl⟩ := Prod.mk.inj (Option.some.inj h)
    exact hstores
  | cons deviceUid uids ih =>
    obtain ⟨⟨called, s₁⟩, hcall, hrest⟩ := Option.bind_eq_some_iff.mp h
    have hnext : DeviceStores (s₁ handle) input := by
      rcases createConfigGoal_cases hcall with ⟨-, rfl, -⟩ | ⟨uid, rc, huid, hcreate, -⟩
      · exact hstores
      · refine hstores.create herrors.platform hcreate fun hsuccess => ?_
        subst hsuccess
        exact hother deviceUid List.mem_cons_self uid s s₁ huid hcreate
    cases called with
    | ok _ => exact ih (fun u hu => hother u (List.mem_cons_of_mem _ hu)) hnext hrest
    | error e =>
      obtain ⟨-, rfl⟩ := Prod.mk.inj (Option.some.inj hrest)
      exact hnext

/-- No operation but its deletion changes a config input that a DIMM has for a goal. -/
private theorem AllocatorStep.keeps {platform : Platform} {devices : List DeviceDiscovery}
    (hdevices : platform.getDevices = .ok devices)
    (hnodup : (devices.map DeviceDiscovery.deviceHandle).Nodup) (hmem : discovery ∈ devices)
    {op : AllocatorOp} (hstep : AllocatorStep platform op s s')
    (hop : ∀ deviceUid, op = .delete deviceUid →
      existsAndManageable platform deviceUid ≠ .ok discovery)
    (hmade : MadeFor platform discovery (some goal) (some table))
    (hstores : DeviceStores (s discovery.deviceHandle) (some table)) :
    DeviceStores (s' discovery.deviceHandle) (some table) := by
  have hsame : ∀ {uid : Uid} {d : DeviceDiscovery}, existsAndManageable platform uid = .ok d →
      d.deviceHandle = discovery.deviceHandle → d = discovery := fun hfound hhandle =>
    List.inj_on_of_nodup_map hnodup (mem_of_existsAndManageable hdevices hfound) hmem hhandle
  cases hstep with
  | allocate hplatform herrors hreads hlayout hallocate =>
    subst hplatform
    obtain ⟨hrules, hbuild, -⟩ := layout_ok hlayout
    have hallowed := (MemoryAllocator.validateRequest_eq_ok_iff _ _).mp hrules
    refine createConfigGoals_keeps herrors ?_ hstores hallocate
    intro deviceUid huid uid s₁ s₂ hconverted hcreate d hfound hhandle
    obtain rfl := hsame hfound hhandle
    rw [orderedUids, List.mem_insertionSort, goalUids_build hbuild, List.mem_dedup] at huid
    obtain ⟨dimm, hdimm, rfl⟩ := List.mem_map.mp huid
    obtain ⟨hpermitted, hdriver, _, hcapabilities⟩ := create_success herrors hcreate
    exact not_noUnappliedGoal hreads hmade hstores hpermitted hdriver hcapabilities hconverted
      hfound (hallowed.noUnappliedGoal dimm hdimm)
  | get _ _ hget => exact hstores.get hget
  | delete hplatform herrors hdelete =>
    subst hplatform
    refine hstores.delete herrors.platform hdelete fun d hfound hhandle => ?_
    exact hop _ rfl (hfound.trans (congrArg _ (hsame hfound hhandle)))

end Waiting

/-- The answers to the allocator when the DIMM has no goal. -/
def soloLibrary : AllocatorLibrary where
  toNvmLibrary := { LayoutBuilder.plainLibrary with
    getConfigGoal := fun deviceUid =>
      match stringToUid deviceUid with
      | .error _ => .error .errNotFound
      | .ok uid =>
        match existsAndManageable soloPlatform uid with
        | .error rc => .error rc
        | .ok _ => .error .errNotFound }
  getDeviceNamespaceCount := fun _ => .ok 0
  getDeviceStatus := fun _ => .ok false

/-- An allocator for the DIMM. -/
def soloAllocator : MemoryAllocator where
  systemCapabilities := ⟨⟨true, [], .auto⟩, true, true⟩
  manageableDeviceDiscoveryList := [{ soloDevice with }]
  manageableDeviceDetailsList := []
  pools := []
  socketCount := 1
  nvmLib := soloLibrary

/-- All of the DIMM for memory mode. -/
def soloRequest : MemoryAllocationRequest where
  memoryModeCapacityGiB := 4
  dimms := [⟨soloDevice.uid, 4294967296, 0, 0, 0⟩]

/-- The allocator sees that the DIMM has no goal. -/
private theorem readsGoals_soloLibrary : ReadsGoals soloLibrary.toNvmLibrary soloSystem emptyStore := by
  intro deviceUid uid rc goal s' huid hreturns
  cases hfound : existsAndManageable soloPlatform uid with
  | error code =>
    have hcode : Returns (fun fuel => soloSystem.nvmGetConfigGoal fuel uid emptyStore)
        (code, {}, emptyStore) := by
      refine ⟨0, ?_⟩
      have hfound' : existsAndManageable soloSystem.platform uid = .error code := hfound
      dsimp only [GoalSystem.nvmGetConfigGoal]
      rw [hfound']
      rfl
    have heq := hreturns.unique (fuelMono_nvmGetConfigGoal _ _ _) hcode
    simp only [Prod.mk.injEq] at heq
    obtain ⟨rfl, -⟩ := heq
    rw [if_neg (existsAndManageable_error failsWithErrors_soloSystem.platform hfound)]
    change (match stringToUid deviceUid with | .error _ => _ | .ok uid => _) = _
    rw [huid]
    dsimp only
    rw [hfound]
  | ok discovery =>
    have hget : soloSystem.MayGet uid discovery := ⟨rfl, rfl, rfl, hfound⟩
    obtain ⟨_, _, hnone⟩ := answersNotFound hget (deviceStores_emptyStore discovery.deviceHandle)
    have heq := hreturns.unique (fuelMono_nvmGetConfigGoal _ _ _) hnone
    simp only [Prod.mk.injEq] at heq
    obtain ⟨rfl, -⟩ := heq
    change (match stringToUid deviceUid with | .error _ => _ | .ok uid => _) = _
    rw [huid]
    dsimp only
    rw [hfound]
    rfl

/-- The goal is laid out, allocated and read. -/
private theorem allocate_solo : ((soloAllocator.layout soloRequest 1 2).toOption.bind fun layout =>
    (allocate (soloSystem.createConfigGoal 9) layout emptyStore).bind fun r =>
      soloSystem.nvmGetConfigGoal 9 soloDevice.uid r.2).map Prod.fst = some .success := by
  decide +kernel

/-- The layout, what its allocation leaves behind and what is read then. -/
private theorem exists_allocated : ∃ layout result s goal s₁,
    soloAllocator.layout soloRequest 1 2 = .ok layout ∧
    allocate (soloSystem.createConfigGoal 9) layout emptyStore = some (result, s) ∧
    soloSystem.nvmGetConfigGoal 9 soloDevice.uid s = some (.success, goal, s₁) := by
  obtain ⟨⟨rc, goal, s₁⟩, hrun, hrc⟩ := Option.map_eq_some_iff.mp allocate_solo
  obtain ⟨layout, hlayout, hrest⟩ := Option.bind_eq_some_iff.mp hrun
  obtain ⟨⟨result, s⟩, hallocate, hget⟩ := Option.bind_eq_some_iff.mp hrest
  dsimp only at hrc hget
  subst hrc
  refine ⟨layout, result, s, goal, s₁, ?_, hallocate, hget⟩
  cases h : soloAllocator.layout soloRequest 1 2 with
  | error e =>
    rw [h] at hlayout
    cases hlayout
  | ok found =>
    rw [h] at hlayout
    exact congrArg _ (Option.some.inj hlayout)

end IxpDimm
