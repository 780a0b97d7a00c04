import IxpDimm.ConfigGoal.Update

/-!
# The sequence numbers of config goals

A config input has a sequence number, and the BIOS answers it with a config output of the same
number.  `update_config_goal` numbers a new config input by the config output that is stored, and
removes the config output when it writes.  So the number goes on only as long as each goal is answered
before the next one is written: a goal that replaces one that is not answered, or that follows a
deletion, starts at one again.

A run is any sequence of created, replaced and deleted goals, failed updates, reads, and answers of
the BIOS.  `numbersFresh_iff` says that a new config input of a run has a fresh number exactly when
the numbers continue, and that the status of a goal is never that of an older one.
-/

namespace IxpDimm

open Foundation

/-! ### The status of a goal -/

/-- `enum config_error`. -/
inductive ConfigError
  | notFound | badRequest | insufficientResources | fw | brokenInterleave | unknown
  deriving DecidableEq, Repr

/-- The error that the status of a partition size change table stands for. -/
def partitionChangeError (status : ℕ) : ConfigError :=
  if status = 1 then .notFound
  else if status = 3 then .brokenInterleave
  else if status = 4 ∨ status = 8 then .badRequest
  else if status = 5 ∨ status = 7 then .insufficientResources
  else if status = 6 then .fw
  else .unknown

/-- The error that the status of an interleave table stands for. -/
def interleaveError (status : UInt8) : ConfigError :=
  if status = 1 ∨ status = 2 ∨ status = 8 then .notFound
  else if status = 3 then .brokenInterleave
  else if status = 4 ∨ status = 9 ∨ status = 10 ∨ status = 11 then .badRequest
  else if status = 5 ∨ status = 6 ∨ status = 7 then .insufficientResources
  else .unknown

/-- One pass of the loop of `get_config_error_from_config_output`, on the 64-bit offset. -/
def configErrorEntry (m : Bytes) (length offset : ℕ) : ℕ ⊕ ConfigError :=
  if offset < length then
    if extensionLength m offset ≤ extensionTableHeaderSize then .inr .badRequest
    else
      let error :=
        if extensionType m offset = partitionChangeTable then
          partitionChangeError (readLE m (offset + 4) 4)
        else if extensionType m offset = interleaveTable then interleaveError (m (offset + 13))
        else .notFound
      if error = .notFound then .inl ((offset + extensionLength m offset) % 2 ^ 64) else .inr error
  else .inr .notFound

/-- `get_config_error_from_config_output`. -/
def getConfigErrorFromConfigOutput (fuel : ℕ) (output : Bytes) : Option ConfigError :=
  runLoop (configErrorEntry (extTables .configOutput output)
    ((headerLength output + (2 ^ 64 - TableKind.configOutput.structSize)) % 2 ^ 64)) fuel 0

/-- `get_config_goal_status_error_from_config_output`. -/
def getConfigGoalStatusErrorFromConfigOutput (fuel : ℕ) (output : Bytes) :
    Option ConfigGoalStatus :=
  (getConfigErrorFromConfigOutput fuel output).map fun
    | .badRequest => .errBadRequest
    | .brokenInterleave => .errBadRequest
    | .fw => .errFw
    | .insufficientResources => .errInsufficientResources
    | .unknown => .errUnknown
    | .notFound => .unknown

/-- `CONFIG_OUTPUT_STATUS_SUCCESS`. -/
def configOutputStatusSuccess : UInt8 := 1

/-- `get_config_goal_status_from_platform_config_data`. -/
def getConfigGoalStatusFromPlatformConfigData (fuel : ℕ) (config : Bytes) :
    Option ConfigGoalStatus :=
  match castConfigInput config, castConfigOutput config with
  | none, _ => some .unknown
  | some _, none => some .new
  | some input, some output =>
    if sequenceNumber output ≠ sequenceNumber input then some .new
    else if validationStatus output = configOutputStatusSuccess then some .success
    else getConfigGoalStatusErrorFromConfigOutput fuel output

/-! ### Numbers on a DIMM -/

/-- The sequence numbers of the config input and the config output of some data, whose current config
is valid. -/
structure ConfigNumbers (config : Bytes) (input output : Option ℕ) : Prop where
  /-- The number of the config input, if there is one. -/
  input_eq : (castConfigInput config).map sequenceNumber = input
  /-- The number of the config output, if there is one. -/
  output_eq : (castConfigOutput config).map sequenceNumber = output
  /-- The current config. -/
  current : ∀ current, castCurrentConfig config = some current →
    TableSound .currentConfig current ∧ headerLength current < 2 ^ 31

/-- The data that is read from a DIMM is valid and has these sequence numbers. -/
def DeviceHolds (device : PcdDevice) (input output : Option ℕ) : Prop :=
  ∀ heap, ∃ config after, Returns (fun fuel => getDimmPlatformConfig fuel heap device)
    (.success, some config, after) ∧ ConfigNumbers config input output

section Holds

variable {device : PcdDevice} {i o : Option ℕ} {heap : Bytes}

/-- What a read returns is kept in the context, and the partition stays. -/
theorem context_of_read {config : Bytes} {after : PcdDevice}
    (h : Returns (fun fuel => getDimmPlatformConfig fuel heap device)
      (.success, some config, after)) :
    after = ⟨device.partition, some config⟩ := by
  obtain ⟨fuel, h⟩ := h
  obtain ⟨partition, context⟩ := device
  dsimp only [getDimmPlatformConfig] at h
  cases context with
  | some kept =>
    simp only [Option.some.injEq, Prod.mk.injEq] at h
    obtain ⟨-, rfl, rfl⟩ := h
    rfl
  | none =>
    obtain ⟨⟨rc, read⟩, -, hread⟩ := Option.map_eq_some_iff.mp h
    cases read with
    | none => simp at hread
    | some read =>
      simp only [Prod.mk.injEq, Option.some.injEq] at hread
      obtain ⟨rfl, rfl, rfl⟩ := hread
      rfl

/-- A DIMM whose data is kept in the context has the numbers of that data. -/
private theorem deviceHolds_of_context {partition config : Bytes} (h : ConfigNumbers config i o) :
    DeviceHolds ⟨partition, some config⟩ i o :=
  fun _ => ⟨config, _, ⟨0, rfl⟩, h⟩

/-- What a read of such a DIMM returns. -/
theorem DeviceHolds.read (h : DeviceHolds device i o)
    {result : ReturnCode × Option Bytes × PcdDevice}
    (hread : Returns (fun fuel => getDimmPlatformConfig fuel heap device) result) :
    ∃ config, result = (.success, some config, ⟨device.partition, some config⟩) ∧
      ConfigNumbers config i o := by
  obtain ⟨config, after, hreturns, hnumbers⟩ := h heap
  obtain rfl := context_of_read hreturns
  exact ⟨config, hread.unique (fuelMono_getDimmPlatformConfig heap device) hreturns, hnumbers⟩

/-- The numbers on a DIMM are unique. -/
theorem DeviceHolds.unique (h : DeviceHolds device i o) {i' o' : Option ℕ}
    (h' : DeviceHolds device i' o') : i' = i ∧ o' = o := by
  obtain ⟨config, after, hreturns, hnumbers⟩ := h' fun _ => 0
  obtain ⟨config', heq, hnumbers'⟩ := h.read hreturns
  simp only [Prod.mk.injEq, Option.some.injEq, true_and] at heq
  obtain ⟨rfl, -⟩ := heq
  exact ⟨hnumbers.input_eq.symm.trans hnumbers'.input_eq,
    hnumbers.output_eq.symm.trans hnumbers'.output_eq⟩

end Holds

/-! ### What an update does to the numbers -/

/-- The number of a config input that is written after a config output. -/
def nextNumber (output : Option ℕ) : ℕ := (output.getD 0 + 1) % 2 ^ 32

/-- The number that `update_config_goal` gives a new config input. -/
private theorem toNat_nextNumber {config : Bytes} {i o : Option ℕ} (h : ConfigNumbers config i o) :
    (getLastConfigOutputSequenceNumber config + 1).toNat = nextNumber o := by
  rw [getLastConfigOutputSequenceNumber, nextNumber, ← h.output_eq]
  cases castConfigOutput config with
  | none => rfl
  | some output =>
    have hlt : sequenceNumber output < 2 ^ 32 := readLE_lt output 36 4
    dsimp only
    rw [Option.map_some, Option.getD_some, UInt32.toNat_add, UInt32.toNat_ofNat',
      Nat.mod_eq_of_lt hlt]
    rfl

/-- A partition that holds valid sub-tables is read with their numbers. -/
private theorem deviceHolds_of_assembled {tables : Tables} {partition : Bytes}
    (hsound : TablesSound tables) (hroom : builtSize tables ≤ devPltCfgOemPartitionSize)
    (h : Assembled tables partition (builtSize tables)) :
    DeviceHolds ⟨partition, none⟩ ((tables .configInput).map sequenceNumber)
      ((tables .configOutput).map sequenceNumber) := by
  intro heap
  have hmin : platformConfigDataSize ≤ builtSize tables := Nat.le_add_right _ _
  unfold devPltCfgOemPartitionSize at hroom
  have hsize := h.getPcdTableSize_eq (by omega)
  obtain ⟨buffer, hread, hsame⟩ := readPartition_spec heap partition hroom
  have hbuffer := h.congr hmin hsame.symm
  have hnat : (UInt64.ofNat (builtSize tables)).toNat = builtSize tables :=
    toNat_ofNat_of_lt (by omega)
  have haccepted : Accepted buffer (UInt64.ofNat (builtSize tables)) := by
    refine Assembled.accepted ?_ hsound ?_ ?_
    · rw [hnat]
      exact hbuffer
    · rw [hnat]
      exact hmin
    · rw [hnat]
      omega
  have hnumber : ∀ kind : TableKind, kind ≠ .currentConfig →
      (castTable kind buffer).map sequenceNumber = (tables kind).map sequenceNumber := by
    intro kind hkind
    cases htable : tables kind with
    | none => rw [(hbuffer.castTable hsound kind).1 htable]
    | some table =>
      obtain ⟨copied, hcast, -, hcopied⟩ := (hbuffer.castTable hsound kind).2 table htable
      have hlarge := (hsound kind table htable).size
      have hfields : 40 ≤ kind.structSize := by
        cases kind <;> decide
      rw [hcast, Option.map_some, Option.map_some]
      exact congrArg some (readLE_congr (hcopied.mono (Nat.zero_le _) (by omega)))
  refine ⟨buffer, ⟨partition, some buffer⟩, ?_, hnumber .configInput (by decide),
    hnumber .configOutput (by decide), ?_⟩
  · obtain ⟨fuel, hfuel⟩ := haccepted
    refine ⟨fuel, ?_⟩
    dsimp only at hfuel
    unfold platformConfigDataSize at hmin
    dsimp only [getDimmPlatformConfig, getHwDimmPlatformConfigAlloc]
    unfold platformConfigDataSize devPltCfgOemPartitionSize
    rw [hsize, if_neg (by omega), if_neg (by omega), hread]
    dsimp only
    rw [hfuel]
    rfl
  · intro found hfound
    cases hcurrent : tables .currentConfig with
    | none => cases ((hbuffer.castTable hsound .currentConfig).1 hcurrent).symm.trans hfound
    | some current =>
      obtain ⟨copied, hcast, hshort, hbytes⟩ :=
        (hbuffer.castTable hsound .currentConfig).2 current hcurrent
      obtain rfl := Option.some.inj (hcast.symm.trans hfound)
      have hvalid := hsound .currentConfig current hcurrent
      have hlarge := hvalid.size
      have hheader := TableKind.currentConfig.header_lt_structSize
      unfold configDataTableHeaderSize at hheader
      have hlength : headerLength copied = headerLength current :=
        headerLength_congr (hbytes.symm.mono le_rfl (by omega))
      have hlt : headerLength current < 2 ^ 31 := by
        obtain ⟨-, -, hend, -⟩ := h.present .currentConfig current hcurrent
        omega
      exact ⟨hvalid.congr hlt hbytes.symm, hlength.trans_lt hlt⟩

section Update

variable {c : UpdateContext} {goal : Option ConfigGoal} {device device' : PcdDevice}
  {i o : Option ℕ} {rc : ReturnCode}

/-- An update of a DIMM writes the next number, or none if the goal is deleted, and removes the config
output; or it leaves the partition and the numbers as they were and keeps the data in the context. -/
theorem DeviceHolds.updateConfigGoal (h : DeviceHolds device i o)
    (hpartition : DeviceHolds ⟨device.partition, none⟩ i o)
    (hupdate : Returns (fun fuel => IxpDimm.updateConfigGoal fuel c goal device) (rc, device')) :
    (rc = .success ∧ device'.context = none ∧
        DeviceHolds device' (goal.map fun _ => nextNumber o) none) ∨
      (device'.context ≠ none ∧ DeviceHolds device' i o ∧
        DeviceHolds ⟨device'.partition, none⟩ i o) := by
  obtain ⟨old, after, hread, hnumbers⟩ := h c.heap
  obtain rfl := context_of_read hread
  have hrepaired : Returns
      (fun fuel => getRepairedDimmPlatformConfig fuel c.heap device (some none))
      (.success, some (some old), ⟨device.partition, some old⟩) := by
    obtain ⟨fuel, hfuel⟩ := hread
    refine ⟨fuel, ?_⟩
    dsimp only at hfuel ⊢
    rw [getRepairedDimmPlatformConfig, hfuel]
    rfl
  obtain ⟨input, hinput, hwrite⟩ := (returns_updateConfigGoal_iff hrepaired).mp hupdate
  have hkept : ∀ code, (code, (⟨device.partition, some old⟩ : PcdDevice)) = (rc, device') →
      device'.context ≠ none ∧ DeviceHolds device' i o ∧
        DeviceHolds ⟨device'.partition, none⟩ i o := by
    intro code heq
    obtain ⟨-, rfl⟩ := Prod.mk.inj heq
    exact ⟨Option.some_ne_none old, deviceHolds_of_context hnumbers, hpartition⟩
  cases input with
  | error code => exact Or.inr (hkept code hwrite)
  | ok input =>
    have hspec := newConfigInput_spec hinput
    have hwritable : Writable old input := by
      refine ⟨hnumbers.current, fun table htable => ?_⟩
      rcases hspec with ⟨-, rfl⟩ | ⟨made, -, rfl, hpacked⟩
      · cases htable
      · cases htable
        exact ⟨hpacked.sound, hpacked.length⟩
    have hnumber : input.map sequenceNumber = goal.map fun _ => nextNumber o := by
      rcases hspec with ⟨rfl, rfl⟩ | ⟨made, hgoal, rfl, hpacked⟩
      · rfl
      · obtain ⟨g, rfl⟩ := Option.isSome_iff_exists.mp hgoal
        exact congrArg some (hpacked.number.trans (toNat_nextNumber hnumbers))
    rcases writeNewConfig_spec hwritable with ⟨partition, heq, hroom, hassembled⟩ | heq
    · obtain ⟨rfl, rfl⟩ := Prod.mk.inj (heq.symm.trans hwrite)
      exact Or.inl ⟨rfl, rfl,
        hnumber ▸ deviceHolds_of_assembled hwritable.tablesSound.1 hroom hassembled⟩
    · exact Or.inr (hkept _ (heq.symm.trans hwrite))

end Update

/-! ### Runs -/

/-- A DIMM, the numbers of the config inputs that the BIOS has answered so far, and whether the goal
that is stored on the DIMM is still to be answered. -/
structure GoalState where
  /-- The DIMM. -/
  device : PcdDevice
  /-- The numbers that have been answered. -/
  answered : List ℕ := []
  /-- The goal that is stored has not been answered. -/
  pending : Bool := false

/-- What can happen to a DIMM. -/
inductive GoalEvent
  /-- A goal is created or replaced. -/
  | written
  /-- The goal is deleted. -/
  | deleted
  /-- An update writes nothing. -/
  | failed
  /-- The BIOS answers the config input. -/
  | answered
  /-- The data is read. -/
  | read
  deriving DecidableEq, Repr

/-- The steps of a run.  An update has written the DIMM if it succeeds and the context keeps nothing
of the DIMM.  The BIOS finds a config input on the partition and leaves valid data there with that
config input and a config output of its number. -/
inductive GoalStep : GoalState → GoalEvent → GoalState → Prop
  | written {s : GoalState} {c : UpdateContext} {goal : ConfigGoal} {device : PcdDevice}
      (hupdate : Returns (fun fuel => updateConfigGoal fuel c (some goal) s.device)
        (.success, device)) (hwritten : device.context = none) :
      GoalStep s .written ⟨device, s.answered, true⟩
  | deleted {s : GoalState} {c : UpdateContext} {device : PcdDevice}
      (hupdate : Returns (fun fuel => updateConfigGoal fuel c none s.device) (.success, device))
      (hwritten : device.context = none) :
      GoalStep s .deleted ⟨device, s.answered, false⟩
  | failed {s : GoalState} {c : UpdateContext} {goal : Option ConfigGoal} {rc : ReturnCode}
      {device : PcdDevice}
      (hupdate : Returns (fun fuel => updateConfigGoal fuel c goal s.device) (rc, device))
      (hfailed : ¬ (rc = .success ∧ device.context = none)) :
      GoalStep s .failed ⟨device, s.answered, s.pending⟩
  | answered {s : GoalState} {n : ℕ} {output : Option ℕ} {partition : Bytes}
      (hbefore : DeviceHolds ⟨s.device.partition, none⟩ (some n) output)
      (hafter : DeviceHolds ⟨partition, none⟩ (some n) (some n)) :
      GoalStep s .answered ⟨⟨partition, none⟩, n :: s.answered, false⟩
  | read {s : GoalState} {heap : Bytes} {result : ReturnCode × Option Bytes × PcdDevice}
      (hread : Returns (fun fuel => getDimmPlatformConfig fuel heap s.device) result) :
      GoalStep s .read ⟨result.2.2, s.answered, s.pending⟩

/-- The numbers continue: the goal before has been answered with a number other than zero, or there
has been no goal at all. -/
def NumbersContinue (s : GoalState) : Prop :=
  (∃ i n, n ≠ 0 ∧ DeviceHolds s.device i (some n)) ∨
    (s.answered = [] ∧ DeviceHolds s.device none none)

/-- The runs from a state whose steps are allowed. -/
inductive GoalRun (allowed : GoalState → GoalEvent → Prop) (start : GoalState) : GoalState → Prop
  | start : GoalRun allowed start start
  | step {s s' : GoalState} {e : GoalEvent} (hrun : GoalRun allowed start s) (hstep : GoalStep s e s')
      (hallowed : allowed s e) : GoalRun allowed start s'

/-- The runs in which goals are written only where the numbers continue. -/
abbrev ContinuousRun : GoalState → GoalState → Prop :=
  GoalRun fun s e => e = .written → NumbersContinue s

/-- A DIMM without a goal and without an answer to one. -/
structure Unprovisioned (s : GoalState) : Prop where
  /-- What is read from the DIMM. -/
  device : DeviceHolds s.device none none
  /-- What is on its partition. -/
  partition : DeviceHolds ⟨s.device.partition, none⟩ none none
  /-- Nothing has been answered. -/
  answered : s.answered = []
  /-- Nothing is to be answered. -/
  pending : s.pending = false

/-- The config input that a step has written has neither the number of one that has been answered nor
that of the one that was stored. -/
def WritesFresh (s s' : GoalState) : Prop :=
  ∀ number output, DeviceHolds s'.device (some number) output →
    number ∉ s.answered ∧ ∀ output', ¬ DeviceHolds s.device (some number) output'

/-- A goal that is still to be answered is reported as new. -/
def ReportsNew (s : GoalState) : Prop :=
  s.pending = true → ∀ heap config device status,
    Returns (fun fuel => getDimmPlatformConfig fuel heap s.device)
      (.success, some config, device) →
    Returns (fun fuel => getConfigGoalStatusFromPlatformConfigData fuel config) status →
      status = .new

/-- What continuous runs keep of the numbers. -/
structure NumbersInOrder (s : GoalState) (input output : Option ℕ) : Prop where
  /-- What is read from the DIMM. -/
  device : DeviceHolds s.device input output
  /-- What is on its partition. -/
  partition : DeviceHolds ⟨s.device.partition, none⟩ input output
  /-- The config output answers the config input. -/
  answers : ∀ n, output = some n → input = some n ∧ n ∈ s.answered
  /-- A goal that is to be answered is stored, and has no config output. -/
  pending : s.pending = true → input.isSome ∧ output = none
  /-- The config input has the largest number so far, unless the numbers have run over. -/
  bound : ∀ m, input = some m → m ≠ 0 → ∀ a ∈ s.answered, 1 ≤ a ∧ a ≤ m
  /-- The first number is one. -/
  first : s.answered ≠ [] → 1 ∈ s.answered
  /-- A number that is stored before any is answered is one. -/
  firstStored : s.answered = [] → ∀ m, input = some m → m = 1

section Order

variable {s s' : GoalState} {input output : Option ℕ}

/-- A number on a DIMM has 32 bits. -/
private theorem DeviceHolds.output_lt {device : PcdDevice} {n : ℕ}
    (h : DeviceHolds device input (some n)) : n < 2 ^ 32 := by
  obtain ⟨config, -, -, hnumbers⟩ := h fun _ => 0
  obtain ⟨table, -, htable⟩ := Option.map_eq_some_iff.mp hnumbers.output_eq
  rw [← htable]
  exact readLE_lt table 36 4

/-- Where the numbers continue in a continuous run. -/
private theorem NumbersInOrder.continue_iff (h : NumbersInOrder s input output) :
    NumbersContinue s ↔ (∃ n, n ≠ 0 ∧ output = some n) ∨
      (s.answered = [] ∧ input = none ∧ output = none) := by
  constructor
  · rintro (⟨i, n, hn, hholds⟩ | ⟨hanswered, hholds⟩)
    · obtain ⟨-, houtput⟩ := h.device.unique hholds
      exact Or.inl ⟨n, hn, houtput.symm⟩
    · obtain ⟨hinput, houtput⟩ := h.device.unique hholds
      exact Or.inr ⟨hanswered, hinput.symm, houtput.symm⟩
  · rintro (⟨n, hn, rfl⟩ | ⟨hanswered, rfl, rfl⟩)
    · exact Or.inl ⟨input, n, hn, h.device⟩
    · exact Or.inr ⟨hanswered, h.device⟩

/-- The next number is above every number that has been answered, unless it is zero, and it is not the
one that is stored. -/
private theorem NumbersInOrder.next (h : NumbersInOrder s input output)
    (hcontinue : NumbersContinue s) :
    (∀ a ∈ s.answered, 1 ≤ a ∧ (nextNumber output ≠ 0 → a ≤ nextNumber output) ∧
        a ≠ nextNumber output) ∧
      input ≠ some (nextNumber output) ∧ (s.answered = [] → nextNumber output = 1) := by
  rcases h.continue_iff.mp hcontinue with ⟨n, hn, rfl⟩ | ⟨hanswered, rfl, rfl⟩
  · obtain ⟨rfl, hmem⟩ := h.answers n rfl
    have hlt := h.device.output_lt
    have hnext : nextNumber (some n) = (n + 1) % 2 ^ 32 := rfl
    have hcases : nextNumber (some n) = 0 ∨ nextNumber (some n) = n + 1 := by
      rw [hnext]
      omega
    refine ⟨fun a ha => ?_, fun heq => ?_, fun hnil => ?_⟩
    · obtain ⟨hpos, hle⟩ := h.bound n rfl hn a ha
      refine ⟨hpos, fun hne => ?_, fun heq => ?_⟩
      · exact hle.trans (by omega)
      · omega
    · have heq' := Option.some.inj heq
      omega
    · rw [hnil] at hmem
      cases hmem
  · rw [hanswered]
    exact ⟨fun a ha => absurd ha List.not_mem_nil, fun heq => Option.some_ne_none _ heq.symm,
      fun _ => rfl⟩

/-- What a written goal leaves on the DIMM. -/
private theorem NumbersInOrder.written (h : NumbersInOrder s input output) {c : UpdateContext}
    {goal : ConfigGoal} {device : PcdDevice}
    (hupdate : Returns (fun fuel => updateConfigGoal fuel c (some goal) s.device)
      (.success, device)) (hwritten : device.context = none) :
    DeviceHolds device (some (nextNumber output)) none := by
  rcases h.device.updateConfigGoal h.partition hupdate with ⟨-, -, hholds⟩ | ⟨hcontext, -⟩
  · exact hholds
  · exact absurd hwritten hcontext

/-- A device whose context keeps nothing is its partition. -/
private theorem eq_of_context_none {device : PcdDevice} (h : device.context = none) :
    (⟨device.partition, none⟩ : PcdDevice) = device := by
  obtain ⟨partition, context⟩ := device
  dsimp only at h
  rw [h]

/-- A step of a continuous run keeps the numbers in order. -/
private theorem NumbersInOrder.step (h : NumbersInOrder s input output) {e : GoalEvent}
    (hstep : GoalStep s e s') (hcontinue : e = .written → NumbersContinue s) :
    ∃ input' output', NumbersInOrder s' input' output' := by
  cases hstep with
  | written hupdate hwritten =>
    obtain ⟨hanswered, -, hfirst⟩ := h.next (hcontinue rfl)
    have hholds := h.written hupdate hwritten
    refine ⟨_, _, hholds, ?_, ?_, ?_, ?_, h.first, ?_⟩
    · rw [eq_of_context_none hwritten]
      exact hholds
    · exact fun n hn => by cases hn
    · exact fun _ => ⟨rfl, rfl⟩
    · intro m hm hne a ha
      obtain rfl := Option.some.inj hm
      exact ⟨(hanswered a ha).1, (hanswered a ha).2.1 hne⟩
    · intro hnil m hm
      exact (Option.some.inj hm).symm.trans (hfirst hnil)
  | deleted hupdate hwritten =>
    rcases h.device.updateConfigGoal h.partition hupdate with ⟨-, -, hholds⟩ | ⟨hcontext, -⟩
    · have hnone : DeviceHolds _ none none := hholds
      refine ⟨none, none, hnone, ?_, ?_, ?_, ?_, h.first, ?_⟩
      · rw [eq_of_context_none hwritten]
        exact hnone
      · exact fun n hn => by cases hn
      · exact fun hpending => by cases hpending
      · exact fun m hm => by cases hm
      · exact fun _ m hm => by cases hm
    · exact absurd hwritten hcontext
  | failed hupdate hfailed =>
    rcases h.device.updateConfigGoal h.partition hupdate with ⟨hrc, hcontext, -⟩ | ⟨-, hdevice, hpart⟩
    · exact absurd ⟨hrc, hcontext⟩ hfailed
    · exact ⟨input, output, hdevice, hpart, h.answers, h.pending, h.bound, h.first, h.firstStored⟩
  | answered hbefore hafter =>
    rename_i n o partition
    obtain ⟨hinput, -⟩ := h.partition.unique hbefore
    refine ⟨some n, some n, hafter, hafter, ?_, ?_, ?_, ?_, ?_⟩
    · intro m hm
      obtain rfl := Option.some.inj hm
      exact ⟨rfl, List.mem_cons_self⟩
    · exact fun hpending => by cases hpending
    · intro m hm hne a ha
      obtain rfl := Option.some.inj hm
      rcases List.mem_cons.mp ha with rfl | ha
      · exact ⟨Nat.one_le_iff_ne_zero.mpr hne, le_rfl⟩
      · exact h.bound n hinput.symm hne a ha
    · intro _
      by_cases hnil : s.answered = []
      · rw [h.firstStored hnil n hinput.symm]
        exact List.mem_cons_self
      · exact List.mem_cons_of_mem _ (h.first hnil)
    · exact fun hnil => absurd hnil (List.cons_ne_nil _ _)
  | read hread =>
    obtain ⟨config, rfl, hnumbers⟩ := h.device.read hread
    exact ⟨input, output, deviceHolds_of_context hnumbers, h.partition, h.answers, h.pending, h.bound,
      h.first, h.firstStored⟩

/-- The numbers are in order in every state of a continuous run. -/
theorem exists_numbersInOrder {start : GoalState} (hstart : Unprovisioned start)
    (hrun : ContinuousRun start s) : ∃ input output, NumbersInOrder s input output := by
  induction hrun with
  | start =>
    refine ⟨none, none, hstart.device, hstart.partition, ?_, ?_, ?_, ?_, ?_⟩
    · exact fun n hn => by cases hn
    · exact fun hpending => by cases hstart.pending.symm.trans hpending
    · exact fun m hm => by cases hm
    · exact fun hne => absurd hstart.answered hne
    · exact fun _ m hm => by cases hm
  | step _ hstep hcontinue ih =>
    obtain ⟨input, output, horder⟩ := ih
    exact horder.step hstep hcontinue

/-- A written goal has a fresh number exactly when the numbers continue. -/
private theorem NumbersInOrder.writesFresh_iff (h : NumbersInOrder s input output)
    (hstep : GoalStep s .written s') : WritesFresh s s' ↔ NumbersContinue s := by
  cases hstep with
  | written hupdate hwritten =>
    have hholds := h.written hupdate hwritten
    constructor
    · intro hfresh
      obtain ⟨hanswered, hstored⟩ := hfresh _ _ hholds
      rw [h.continue_iff]
      by_contra hnot
      rw [not_or] at hnot
      -- otherwise the number is one, which has been answered or is stored
      have hone : nextNumber output = 1 := by
        cases output with
        | none => rfl
        | some n =>
          by_cases hn : n = 0
          · rw [hn]
            rfl
          · exact absurd ⟨n, hn, rfl⟩ hnot.1
      rw [hone] at hanswered hstored
      have hnil : s.answered = [] := by
        by_contra hne
        exact hanswered (h.first hne)
      have hnone : output = none := by
        cases output with
        | none => rfl
        | some n =>
          have hmem := (h.answers n rfl).2
          rw [hnil] at hmem
          cases hmem
      cases input with
      | none => exact hnot.2 ⟨hnil, rfl, hnone⟩
      | some m =>
        rw [h.firstStored hnil m rfl] at h
        exact hstored output h.device
    · intro hcontinue number output' hnumber
      obtain ⟨heq, -⟩ := hholds.unique hnumber
      obtain rfl := Option.some.inj heq
      obtain ⟨hanswered, hstored, -⟩ := h.next hcontinue
      refine ⟨fun hmem => (hanswered _ hmem).2.2 rfl, fun o' hsame => ?_⟩
      exact hstored (h.device.unique hsame).1.symm

/-- A goal that is to be answered is reported as new. -/
private theorem NumbersInOrder.reportsNew (h : NumbersInOrder s input output) : ReportsNew s := by
  intro hpending heap config device status hread hstatus
  obtain ⟨hsome, hnone⟩ := h.pending hpending
  obtain ⟨config', heq, hnumbers⟩ := h.device.read hread
  simp only [Prod.mk.injEq, Option.some.injEq, true_and] at heq
  obtain ⟨rfl, -⟩ := heq
  obtain ⟨fuel, hstatus⟩ := hstatus
  dsimp only [getConfigGoalStatusFromPlatformConfigData] at hstatus
  cases hinput : castConfigInput config with
  | none =>
    have hmap := hnumbers.input_eq
    rw [hinput, Option.map_none] at hmap
    rw [← hmap] at hsome
    cases hsome
  | some table =>
    have hmap := hnumbers.output_eq
    rw [hnone, Option.map_eq_none_iff] at hmap
    rw [hinput, hmap] at hstatus
    exact (Option.some.inj hstatus).symm

end Order

/-- In every state of a continuous run, a goal that is still to be answered is reported as new, and
the next goal that is written has a fresh number exactly when the numbers continue. -/
theorem numbersFresh_iff {start s : GoalState} (hstart : Unprovisioned start)
    (hrun : ContinuousRun start s) :
    ReportsNew s ∧ ∀ s', GoalStep s .written s' → (WritesFresh s s' ↔ NumbersContinue s) := by
  obtain ⟨input, output, horder⟩ := exists_numbersInOrder hstart hrun
  exact ⟨horder.reportsNew, fun s' hstep => horder.writesFresh_iff hstep⟩

/-! ### A goal that is deleted after its answer -/

/-- The partition on which these tables are built. -/
def builtPartition (tables : Tables) : Bytes :=
  (buildPlatformConfigData (tables .currentConfig) (tables .configInput) (tables .configOutput)
    (some none)).2.join.getD fun _ => 0

/-- A built partition is read with the numbers of its tables. -/
private theorem deviceHolds_builtPartition {tables : Tables} (hsound : TablesSound tables)
    (hroom : builtSize tables ≤ devPltCfgOemPartitionSize) :
    DeviceHolds ⟨builtPartition tables, none⟩ ((tables .configInput).map sequenceNumber)
      ((tables .configOutput).map sequenceNumber) := by
  obtain ⟨m, hbuild, hassembled⟩ :=
    build_assembled hsound (hroom.trans_lt (by decide))
  have hpartition : builtPartition tables = m := by
    rw [builtPartition, hbuild]
    rfl
  rw [hpartition]
  exact deviceHolds_of_assembled hsound hroom (hassembled _ le_rfl)

/-- A DIMM whose platform config data has no tables. -/
def emptyDimm : GoalState := { device := ⟨builtPartition fun _ => none, none⟩ }

/-- A config output table of 48 bytes that answers the config input with the number one. -/
def plainOutputBytes : List UInt8 :=
  [0x43, 0x4F, 0x55, 0x54, 48, 0, 0, 0, 1, 0x92] ++ List.replicate 26 0 ++ [1, 0, 0, 0, 1] ++
  List.replicate 7 0

/-- A config input and its answer. -/
def answeredTables : Tables
  | .configInput => some (ofList plainInputBytes)
  | .configOutput => some (ofList plainOutputBytes)
  | .currentConfig => none

/-- The answered tables are valid. -/
private theorem tablesSound_answeredTables : TablesSound answeredTables := by
  intro kind table htable
  cases kind with
  | currentConfig => cases htable
  | configInput =>
    obtain rfl := Option.some.inj htable
    exact tablesSound_plainTables .configInput _ rfl
  | configOutput =>
    obtain rfl := Option.some.inj htable
    exact ⟨by decide, by decide +kernel, ⟨0, by decide⟩⟩

/-- What an update of the DIMM works with. -/
def soleContext : UpdateContext := { discovery := {}, platform := ⟨.ok [], .ok 2⟩ }

/-- The DIMM after an update. -/
def afterUpdate (goal : Option ConfigGoal) (device : PcdDevice) : PcdDevice :=
  ((updateConfigGoal 5 soleContext goal device).map Prod.snd).getD device

/-- An update succeeds and leaves nothing in the context. -/
private def updateWrites (goal : Option ConfigGoal) (device : PcdDevice) : Bool :=
  (updateConfigGoal 5 soleContext goal device).map (fun r => (r.1, r.2.context.isNone)) =
    some (.success, true)

section AfterUpdate

variable {goal : Option ConfigGoal} {device : PcdDevice} {i o : Option ℕ}

/-- What such an update returns. -/
private theorem afterUpdate_spec (h : updateWrites goal device = true) :
    Returns (fun fuel => updateConfigGoal fuel soleContext goal device)
        (.success, afterUpdate goal device) ∧ (afterUpdate goal device).context = none := by
  obtain ⟨⟨rc, after⟩, hupdate, hresult⟩ := Option.map_eq_some_iff.mp (of_decide_eq_true h)
  obtain ⟨hrc, hcontext⟩ := Prod.mk.inj hresult
  dsimp only at hrc hcontext
  subst hrc
  have hafter : afterUpdate goal device = after := by
    rw [afterUpdate, hupdate]
    rfl
  rw [hafter]
  exact ⟨⟨5, hupdate⟩, Option.isNone_iff_eq_none.mp hcontext⟩

/-- What it leaves on the DIMM. -/
private theorem deviceHolds_afterUpdate (h : updateWrites goal device = true)
    (hdevice : DeviceHolds device i o) (hcontext : device.context = none) :
    DeviceHolds (afterUpdate goal device) (goal.map fun _ => nextNumber o) none := by
  obtain ⟨hupdate, hwritten⟩ := afterUpdate_spec h
  have hpartition := hdevice
  rw [← eq_of_context_none hcontext] at hpartition
  rcases hdevice.updateConfigGoal hpartition hupdate with ⟨-, -, hholds⟩ | ⟨hkept, -⟩
  · exact hholds
  · exact absurd hwritten hkept

end AfterUpdate

/-- The DIMM when the goal has been created. -/
def createdDevice : PcdDevice := afterUpdate (some {}) emptyDimm.device

/-- The DIMM when the goal has been answered. -/
def answeredDevice : PcdDevice := ⟨builtPartition answeredTables, none⟩

/-- The DIMM when the goal has been deleted. -/
def deletedDevice : PcdDevice := afterUpdate none answeredDevice

/-- The DIMM when the goal has been created again. -/
def repeatedDevice : PcdDevice := afterUpdate (some {}) deletedDevice

/-- The goal has been created. -/
def createdGoal : GoalState := { device := createdDevice, pending := true }

/-- The goal has been answered. -/
def answeredGoal : GoalState := { device := answeredDevice, answered := [1] }

/-- The goal has been deleted. -/
def deletedGoal : GoalState := { device := deletedDevice, answered := [1] }

/-- The goal has been created again. -/
def repeatedGoal : GoalState :=
  { device := repeatedDevice, answered := [1], pending := true }

/-- The goal is written to the empty DIMM. -/
private theorem updateWrites_created : updateWrites (some {}) emptyDimm.device = true := by
  decide +kernel

/-- The answered goal is deleted. -/
private theorem updateWrites_deleted : updateWrites none answeredDevice = true := by
  decide +kernel

/-- The goal is written again. -/
private theorem updateWrites_repeated : updateWrites (some {}) deletedDevice = true := by
  decide +kernel

/-- There is no goal on the empty DIMM. -/
private theorem unprovisioned_emptyDimm : Unprovisioned emptyDimm := by
  have hsound : TablesSound fun _ => none := fun _ _ htable => by cases htable
  have hholds : DeviceHolds emptyDimm.device none none :=
    deviceHolds_builtPartition hsound (by decide)
  exact ⟨hholds, hholds, rfl, rfl⟩

/-- The answered goal has the number one. -/
private theorem deviceHolds_answeredDevice : DeviceHolds answeredDevice (some 1) (some 1) :=
  deviceHolds_builtPartition tablesSound_answeredTables (by decide)

/-- After the deletion no number is left. -/
private theorem deviceHolds_deletedDevice : DeviceHolds deletedDevice none none :=
  deviceHolds_afterUpdate updateWrites_deleted deviceHolds_answeredDevice rfl

/-- The new goal has the number one again. -/
private theorem deviceHolds_repeatedDevice : DeviceHolds repeatedDevice (some 1) none :=
  deviceHolds_afterUpdate updateWrites_repeated deviceHolds_deletedDevice
    (afterUpdate_spec updateWrites_deleted).2

/-- The goal is created. -/
private theorem goalStep_created : GoalStep emptyDimm .written createdGoal := by
  obtain ⟨hupdate, hwritten⟩ := afterUpdate_spec updateWrites_created
  exact .written hupdate hwritten

/-- The BIOS answers the goal. -/
private theorem goalStep_answered : GoalStep createdGoal .answered answeredGoal := by
  have hwritten : createdDevice.context = none := (afterUpdate_spec updateWrites_created).2
  have hholds : DeviceHolds createdDevice (some 1) none :=
    deviceHolds_afterUpdate updateWrites_created unprovisioned_emptyDimm.device rfl
  rw [← eq_of_context_none hwritten] at hholds
  exact .answered hholds deviceHolds_answeredDevice

/-- The goal is deleted. -/
private theorem goalStep_deleted : GoalStep answeredGoal .deleted deletedGoal := by
  obtain ⟨hupdate, hwritten⟩ := afterUpdate_spec updateWrites_deleted
  exact .deleted hupdate hwritten

/-- A goal is created again. -/
private theorem goalStep_repeated : GoalStep deletedGoal .written repeatedGoal := by
  obtain ⟨hupdate, hwritten⟩ := afterUpdate_spec updateWrites_repeated
  have hdevice : deletedGoal.device = deletedDevice := by rw [deletedGoal]
  rw [← hdevice] at hupdate hwritten
  rw [repeatedGoal, repeatedDevice, ← hdevice]
  exact .written hupdate hwritten

/-- A run of steps that are allowed leads to the deleted goal. -/
private theorem goalRun_deletedGoal {allowed : GoalState → GoalEvent → Prop}
    (hcreated : allowed emptyDimm .written) (hanswered : allowed createdGoal .answered)
    (hdeleted : allowed answeredGoal .deleted) : GoalRun allowed emptyDimm deletedGoal :=
  .step (.step (.step .start goalStep_created hcreated) goalStep_answered hanswered)
    goalStep_deleted hdeleted

/-- A goal is created, answered and deleted. -/
theorem numbersFresh_deletedGoal : ReportsNew deletedGoal ∧
    ∀ s', GoalStep deletedGoal .written s' →
      (WritesFresh deletedGoal s' ↔ NumbersContinue deletedGoal) :=
  numbersFresh_iff unprovisioned_emptyDimm (goalRun_deletedGoal
    (fun _ => Or.inr ⟨rfl, unprovisioned_emptyDimm.device⟩) nofun nofun)

/-- A goal that is created after that has the number that has been answered. -/
theorem not_numbersFresh_repeatedGoal : ¬ ∀ start s s', Unprovisioned start →
    GoalRun (fun _ _ => True) start s → GoalStep s .written s' →
      WritesFresh s s' ∧ ReportsNew s' := by
  intro hclaim
  obtain ⟨hfresh, -⟩ := hclaim emptyDimm deletedGoal repeatedGoal unprovisioned_emptyDimm
    (goalRun_deletedGoal trivial trivial trivial) goalStep_repeated
  have hdevice : repeatedGoal.device = repeatedDevice := by rw [repeatedGoal]
  rw [WritesFresh, hdevice] at hfresh
  exact (hfresh 1 none deviceHolds_repeatedDevice).1 List.mem_cons_self

end IxpDimm
