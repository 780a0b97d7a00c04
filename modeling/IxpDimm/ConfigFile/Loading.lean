import IxpDimm.Common.ReturnCode
import IxpDimm.ConfigFile.Reader
import Mathlib.Data.List.Pairwise

/-!
# Loading a config goal from a file

`nvm_load_config` looks for the line of a DIMM in a file and makes a config goal of it.  The DIMMs of
the interleave sets of the goal are not on that line: `fill_goal_dimm_uids` reads the whole file once
more, and every line with the index of one of the sets puts the DIMM that it names into the array
`dimms` of the set.

Nothing keeps the index into the array below its length, and neither the socket of a line nor the
DIMMs written so far are looked at.  The number of entries is compared with the ways of the format in
the end.  `loadsSoundly_iff` says for which files each DIMM of the set is written once, inside the
array.
-/

namespace IxpDimm

/-! ### The lines of a file -/

/-- What successive calls of `read_dimm_config` into one structure return, and the status of the last
one; `read` stands for an unfinished loop. -/
def configLines : ℕ → List Char → DimmConfig → List DimmConfig × ReadStatus
  | 0, _, _ => ([], .read)
  | fuel + 1, file, config =>
    match readDimmConfig file config with
    | (.read, config, rest) =>
      let more := configLines fuel rest config
      (config :: more.1, more.2)
    | (status, _, _) => ([], status)

/-- The lines that the loops of `nvm_load_config` and `fill_goal_dimm_uids` go through, from the start
of the file and a zeroed structure.  Every line has a character at least, which bounds the loop. -/
def fileLines (file : List Char) : List DimmConfig × ReadStatus :=
  configLines (file.length + 1) file {}

/-- `fgets` takes a character at least. -/
private theorem fgets_shorter {file text rest : List Char} (h : fgets file = some (text, rest)) :
    rest.length < file.length := by
  unfold fgets at h
  split_ifs at h with hfile
  rw [Option.some.injEq, Prod.mk.injEq] at h
  obtain ⟨htext, hrest⟩ := h
  have hne : text ≠ [] := by
    obtain ⟨c, file, rfl⟩ := List.exists_cons_of_ne_nil hfile
    by_cases hc : c = '\n'
    · subst hc
      rw [← htext]
      exact List.cons_ne_nil _ _
    · have htake : ((c :: file).take (maxConfigLineLen - 1)).takeWhile (· ≠ '\n') =
          c :: (file.take 510).takeWhile (· ≠ '\n') :=
        List.takeWhile_cons_of_pos (decide_eq_true hc)
      rw [← htext, htake]
      split_ifs
      · exact List.cons_ne_nil _ _
      · exact List.cons_ne_nil _ _
  rw [← hrest, List.length_drop, htext]
  have hpos := List.length_pos_of_ne_nil hne
  have hfilled := List.length_pos_of_ne_nil hfile
  omega

/-- The next line takes a character at least. -/
private theorem nextConfigLine_shorter {fuel : ℕ} {file line rest : List Char}
    (h : nextConfigLine fuel file = some (line, rest)) : rest.length < file.length := by
  induction fuel generalizing file with
  | zero => cases h
  | succ fuel ih =>
    rw [nextConfigLine] at h
    rcases hread : fgets file with - | ⟨text, behind⟩
    · rw [hread] at h
      cases h
    · rw [hread] at h
      dsimp only at h
      have hshort := fgets_shorter hread
      split_ifs at h with hcomment
      · obtain ⟨-, rfl⟩ := Prod.mk.inj (Option.some.inj h)
        exact hshort
      · exact (ih h).trans hshort

/-- A line that has been read takes a character at least. -/
private theorem readDimmConfig_shorter {file rest : List Char} {config config' : DimmConfig}
    (h : readDimmConfig file config = (.read, config', rest)) : rest.length < file.length := by
  rw [readDimmConfig] at h
  rcases hline : nextConfigLine (file.length + 1) file with - | ⟨line, behind⟩
  · rw [hline] at h
    cases h
  · rw [hline] at h
    obtain ⟨-, hrest⟩ := Prod.mk.inj (Prod.mk.inj h).2
    exact hrest ▸ nextConfigLine_shorter hline

/-- With enough fuel the loop over the lines comes to its end. -/
private theorem configLines_finished {fuel : ℕ} {file : List Char} (h : file.length < fuel)
    (config : DimmConfig) : (configLines fuel file config).2 ≠ .read := by
  induction fuel generalizing file config with
  | zero => exact absurd h (Nat.not_lt_zero _)
  | succ fuel ih =>
    rw [configLines]
    rcases hread : readDimmConfig file config with ⟨status, config', rest⟩
    cases status with
    | endOfFile => exact fun h => by cases h
    | badFile => exact fun h => by cases h
    | read =>
      have hshort := readDimmConfig_shorter hread
      exact ih (by omega) config'

/-- The loop over the lines of a file comes to its end. -/
theorem fileLines_finished (file : List Char) : (fileLines file).2 ≠ .read :=
  configLines_finished (Nat.lt_succ_self _) {}

/-! ### The DIMMs of a goal -/

/-- The App Direct sets of a goal. -/
inductive AppDirectSet
  | first | second
  deriving DecidableEq, Repr

/-- `app_direct_1_set_id` and `app_direct_2_set_id`. -/
def DimmConfig.setId (config : DimmConfig) : AppDirectSet → UInt16
  | .first => config.appDirect1SetId
  | .second => config.appDirect2SetId

/-- `app_direct_1_settings.interleave` and `app_direct_2_settings.interleave`. -/
def DimmConfig.interleave (config : DimmConfig) : AppDirectSet → InterleaveFormat
  | .first => config.appDirect1Interleave
  | .second => config.appDirect2Interleave

/-- A config goal that is being loaded. -/
structure LoadedGoal where
  /-- What has been read from the line of the DIMM. -/
  config : DimmConfig
  /-- `app_direct_count`. -/
  appDirectCount : UInt16
  deriving DecidableEq, Repr

/-- The goal has the set: `app_direct_count > 0` and `app_direct_count > 1`. -/
def LoadedGoal.HasSet (goal : LoadedGoal) : AppDirectSet → Prop
  | .first => goal.appDirectCount > 0
  | .second => goal.appDirectCount > 1

instance (goal : LoadedGoal) (set : AppDirectSet) : Decidable (goal.HasSet set) := by
  cases set <;> exact inferInstanceAs (Decidable (_ > _))

/-- `lookup_dev_handle`, which finds nothing either if the devices cannot be read. -/
def lookupDevHandle (devices : List DeviceDiscovery) (handle : UInt32) : Option DeviceDiscovery :=
  devices.find? fun device => handle = device.deviceHandle

/-- `memmove` of a uid to the next entry of `dimms`; there is none behind the end of the array. -/
def putUid (dimms : List Uid) (uid : Uid) : Option (List Uid) :=
  if dimms.length < nvmMaxDevicesPerPool then some (dimms ++ [uid]) else none

/-- What a pass of the loop of `fill_goal_dimm_uids` does for one of the sets. -/
def fillSet (devices : List DeviceDiscovery) (goal : LoadedGoal) (set : AppDirectSet)
    (tmp : DimmConfig) (dimms : List Uid) : Option (List Uid) :=
  if goal.HasSet set ∧ goal.config.setId set = tmp.setId set then
    match lookupDevHandle devices tmp.dimmHandle with
    | some discovery => putUid dimms discovery.uid
    | none => some dimms
  else some dimms

/-- The entries of `app_direct_1_settings.dimms` and `app_direct_2_settings.dimms` that have been
written. -/
structure GoalDimms where
  /-- The entries of the first set. -/
  first : List Uid := []
  /-- The entries of the second set. -/
  second : List Uid := []
  deriving DecidableEq, Repr

/-- The entries of a set. -/
def GoalDimms.of (dimms : GoalDimms) : AppDirectSet → List Uid
  | .first => dimms.first
  | .second => dimms.second

/-- The body of the loop of `fill_goal_dimm_uids`. -/
def fillEntry (devices : List DeviceDiscovery) (goal : LoadedGoal) (dimms : GoalDimms)
    (tmp : DimmConfig) : Option GoalDimms := do
  let first ← fillSet devices goal .first tmp dimms.first
  let second ← fillSet devices goal .second tmp dimms.second
  pure ⟨first, second⟩

/-- The code that `fill_goal_dimm_uids` returns: that of the loop, unless a set has not as many DIMMs
as its format has ways. -/
def fillCode (goal : LoadedGoal) (status : ReadStatus) (dimms : GoalDimms) : ReturnCode :=
  let rc := if status = .badFile then .errBadFile else .success
  let rc := if goal.HasSet .first ∧
      dimms.first.length ≠ (goal.config.interleave .first).ways.count then .errBadDeviceConfig else rc
  if goal.HasSet .second ∧
      dimms.second.length ≠ (goal.config.interleave .second).ways.count then .errBadDeviceConfig
  else rc

/-- `fill_goal_dimm_uids`: the code and the entries of the arrays, or nothing if it writes behind the
end of one. -/
def fillGoalDimmUids (devices : List DeviceDiscovery) (file : List Char) (goal : LoadedGoal) :
    Option (ReturnCode × GoalDimms) := do
  let dimms ← (fileLines file).1.foldlM (fillEntry devices goal) {}
  pure (fillCode goal (fileLines file).2 dimms, dimms)

/-- The goal that `nvm_load_config` makes for a DIMM before it looks for the other DIMMs, from the
first line with the handle and the socket of the DIMM. -/
def goalOfFile (discovery : DeviceDiscovery) (file : List Char) : Except ReturnCode LoadedGoal :=
  match (fileLines file).1.find? fun config =>
      config.dimmHandle = discovery.deviceHandle ∧
        config.socketId.toUInt32 = handleSocketId discovery.deviceHandle with
  | none => .error (if (fileLines file).2 = .badFile then .errBadFile else .errBadDeviceConfig)
  | some config =>
    if discovery.capacity / bytesPerGiB ≥ config.dimmSizeGb then
      .ok {
        config := config
        appDirectCount :=
          if config.appDirect2Size ≠ 0 then 2 else if config.appDirect1Size ≠ 0 then 1 else 0 }
    else .error .errBadDeviceConfig

/-- What `nvm_load_config` ends in. -/
inductive LoadOutcome
  /-- It returns a code. -/
  | fails (rc : ReturnCode)
  /-- It writes behind the end of an array. -/
  | overruns
  /-- It goes on with `nvm_create_config_goal`. -/
  | creates (goal : LoadedGoal) (dimms : GoalDimms)
  deriving DecidableEq, Repr

/-- `nvm_load_config` for a manageable DIMM, once the file is open. -/
def nvmLoadConfig (devices : List DeviceDiscovery) (discovery : DeviceDiscovery)
    (file : List Char) : LoadOutcome :=
  match goalOfFile discovery file with
  | .error rc => .fails rc
  | .ok goal =>
    match fillGoalDimmUids devices file goal with
    | none => .overruns
    | some (.success, dimms) => .creates goal dimms
    | some (rc, _) => .fails rc

/-! ### What is written -/

/-- The unique id that a line puts into a set: the line has the index of the set, and its handle is
known. -/
def lineUid (devices : List DeviceDiscovery) (goal : LoadedGoal) (set : AppDirectSet)
    (tmp : DimmConfig) : Option Uid :=
  if goal.HasSet set ∧ goal.config.setId set = tmp.setId set then
    (lookupDevHandle devices tmp.dimmHandle).map fun discovery => discovery.uid
  else none

/-- The unique ids that lines put into a set. -/
def setUids (devices : List DeviceDiscovery) (goal : LoadedGoal) (set : AppDirectSet)
    (lines : List DimmConfig) : List Uid :=
  lines.filterMap (lineUid devices goal set)

/-- A pass of the loop appends what the line puts into a set, if there is room for it. -/
private theorem fillSet_eq_some_iff {devices : List DeviceDiscovery} {goal : LoadedGoal}
    {set : AppDirectSet} {tmp : DimmConfig} {dimms dimms' : List Uid}
    (hfits : dimms.length ≤ nvmMaxDevicesPerPool) :
    fillSet devices goal set tmp dimms = some dimms' ↔
      dimms' = dimms ++ (lineUid devices goal set tmp).toList ∧
        dimms'.length ≤ nvmMaxDevicesPerPool := by
  have hkeep : some dimms = some dimms' ↔
      dimms' = dimms ++ [] ∧ dimms'.length ≤ nvmMaxDevicesPerPool := by
    rw [List.append_nil, Option.some.injEq]
    exact ⟨fun h => ⟨h.symm, h ▸ hfits⟩, fun h => h.1.symm⟩
  unfold fillSet lineUid
  by_cases hid : goal.HasSet set ∧ goal.config.setId set = tmp.setId set
  · rw [if_pos hid, if_pos hid]
    rcases lookupDevHandle devices tmp.dimmHandle with - | discovery
    · exact hkeep
    · dsimp only
      rw [Option.map_some, Option.toList_some, putUid]
      split_ifs with hroom
      · rw [Option.some.injEq]
        refine ⟨fun h => ⟨h.symm, ?_⟩, fun h => h.1.symm⟩
        rw [← h, List.length_append]
        exact hroom
      · refine iff_of_false (fun h => by cases h) ?_
        rintro ⟨rfl, hlong⟩
        rw [List.length_append, List.length_singleton] at hlong
        exact hroom hlong
  · rw [if_neg hid, if_neg hid]
    exact hkeep

/-- Lines put their unique ids into a set one after the other. -/
private theorem setUids_cons (devices : List DeviceDiscovery) (goal : LoadedGoal) (set : AppDirectSet)
    (tmp : DimmConfig) (lines : List DimmConfig) :
    setUids devices goal set (tmp :: lines) =
      (lineUid devices goal set tmp).toList ++ setUids devices goal set lines := by
  rw [setUids, List.filterMap_cons]
  cases lineUid devices goal set tmp with
  | none => rfl
  | some uid => rfl

/-- A pass of the loop appends to both arrays what the line puts into the sets, if there is room for
it. -/
private theorem fillEntry_eq_some_iff {devices : List DeviceDiscovery} {goal : LoadedGoal}
    {tmp : DimmConfig} {dimms dimms' : GoalDimms}
    (hfits : ∀ set, (dimms.of set).length ≤ nvmMaxDevicesPerPool) :
    fillEntry devices goal dimms tmp = some dimms' ↔
      ∀ set, dimms'.of set = dimms.of set ++ (lineUid devices goal set tmp).toList ∧
        (dimms'.of set).length ≤ nvmMaxDevicesPerPool := by
  have hboth : (∀ set, dimms'.of set = dimms.of set ++ (lineUid devices goal set tmp).toList ∧
        (dimms'.of set).length ≤ nvmMaxDevicesPerPool) ↔
      fillSet devices goal .first tmp (dimms.of .first) = some (dimms'.of .first) ∧
        fillSet devices goal .second tmp (dimms.of .second) = some (dimms'.of .second) := by
    rw [fillSet_eq_some_iff (hfits .first), fillSet_eq_some_iff (hfits .second)]
    refine ⟨fun h => ⟨h .first, h .second⟩, fun h set => ?_⟩
    cases set with
    | first => exact h.1
    | second => exact h.2
  rw [hboth, fillEntry]
  dsimp only [GoalDimms.of]
  rcases hfirst : fillSet devices goal .first tmp dimms.first with - | first
  · exact iff_of_false (fun h => by cases h) fun h => by cases h.1
  rcases hsecond : fillSet devices goal .second tmp dimms.second with - | second
  · exact iff_of_false (fun h => by cases h) fun h => by cases h.2
  · obtain ⟨first', second'⟩ := dimms'
    simp

/-- The loop over some lines appends to both arrays what the lines put into the sets, if there is room
for all of it. -/
theorem foldlM_fillEntry {devices : List DeviceDiscovery} {goal : LoadedGoal}
    (lines : List DimmConfig) {dimms dimms' : GoalDimms}
    (hfits : ∀ set, (dimms.of set).length ≤ nvmMaxDevicesPerPool) :
    lines.foldlM (fillEntry devices goal) dimms = some dimms' ↔
      ∀ set, dimms'.of set = dimms.of set ++ setUids devices goal set lines ∧
        (dimms'.of set).length ≤ nvmMaxDevicesPerPool := by
  induction lines generalizing dimms with
  | nil =>
    constructor
    · intro h set
      cases h
      exact ⟨(List.append_nil _).symm, hfits set⟩
    · intro h
      obtain ⟨first, second⟩ := dimms
      obtain ⟨first', second'⟩ := dimms'
      have hfirst : first' = first ++ [] := (h .first).1
      have hsecond : second' = second ++ [] := (h .second).1
      rw [hfirst, hsecond, List.append_nil, List.append_nil]
      rfl
  | cons tmp lines ih =>
    rw [List.foldlM_cons]
    constructor
    · intro h set
      obtain ⟨next, hstep, hrest⟩ := Option.bind_eq_some_iff.mp h
      have hnext := (fillEntry_eq_some_iff hfits).mp hstep
      obtain ⟨heq, hle⟩ := (ih fun set => (hnext set).2).mp hrest set
      rw [heq, (hnext set).1, setUids_cons, List.append_assoc]
      refine ⟨rfl, ?_⟩
      rw [heq, (hnext set).1, List.append_assoc] at hle
      exact hle
    · intro h
      -- the entries of the first line fit, since they are the first of those that fit
      have hnext : ∀ set, (GoalDimms.mk
          (dimms.first ++ (lineUid devices goal .first tmp).toList)
          (dimms.second ++ (lineUid devices goal .second tmp).toList)).of set =
            dimms.of set ++ (lineUid devices goal set tmp).toList := by
        intro set
        cases set with
        | first => rfl
        | second => rfl
      have hroom : ∀ set, (dimms.of set ++ (lineUid devices goal set tmp).toList).length ≤
          nvmMaxDevicesPerPool := by
        intro set
        obtain ⟨heq, hle⟩ := h set
        rw [heq, setUids_cons, ← List.append_assoc, List.length_append] at hle
        exact (Nat.le_add_right _ _).trans hle
      have hstep := (fillEntry_eq_some_iff hfits).mpr fun set =>
        ⟨hnext set, (hnext set).symm ▸ hroom set⟩
      refine Option.bind_eq_some_iff.mpr ⟨_, hstep, ?_⟩
      refine (ih fun set => (hnext set).symm ▸ hroom set).mpr fun set => ?_
      obtain ⟨heq, hle⟩ := h set
      rw [hnext, heq, setUids_cons, List.append_assoc]
      refine ⟨rfl, ?_⟩
      rwa [heq, setUids_cons] at hle

/-- A goal without a set has nothing put into it. -/
private theorem setUids_of_not_hasSet {devices : List DeviceDiscovery} {goal : LoadedGoal}
    {set : AppDirectSet} (h : ¬ goal.HasSet set) (lines : List DimmConfig) :
    setUids devices goal set lines = [] :=
  List.filterMap_eq_nil_iff.mpr fun _ _ => if_neg fun hand => h hand.1

/-- `fill_goal_dimm_uids` ends with the arrays that the lines of the file make, if they have room. -/
theorem fillGoalDimmUids_eq_some_iff {devices : List DeviceDiscovery} {file : List Char}
    {goal : LoadedGoal} {rc : ReturnCode} {dimms : GoalDimms} :
    fillGoalDimmUids devices file goal = some (rc, dimms) ↔
      rc = fillCode goal (fileLines file).2 dimms ∧
        ∀ set, dimms.of set = setUids devices goal set (fileLines file).1 ∧
          (dimms.of set).length ≤ nvmMaxDevicesPerPool := by
  have hstart : ∀ set, (({} : GoalDimms).of set).length ≤ nvmMaxDevicesPerPool := by
    intro set
    cases set with
    | first => exact Nat.zero_le _
    | second => exact Nat.zero_le _
  have hrun : (fileLines file).1.foldlM (fillEntry devices goal) {} = some dimms ↔
      ∀ set, dimms.of set = setUids devices goal set (fileLines file).1 ∧
        (dimms.of set).length ≤ nvmMaxDevicesPerPool := by
    rw [foldlM_fillEntry (fileLines file).1 hstart]
    refine forall_congr' fun set => ?_
    cases set with
    | first => rfl
    | second => rfl
  rw [← hrun, fillGoalDimmUids, Option.bind_eq_bind, Option.bind_eq_some_iff]
  constructor
  · rintro ⟨dimms', hdimms, hpair⟩
    obtain ⟨rfl, rfl⟩ := Prod.mk.inj (Option.some.inj hpair)
    exact ⟨rfl, hdimms⟩
  · rintro ⟨rfl, hdimms⟩
    exact ⟨dimms, hdimms, rfl⟩

/-- When `fill_goal_dimm_uids` succeeds, every set has as many DIMMs as its format has ways. -/
private theorem ways_of_success {goal : LoadedGoal} {status : ReadStatus} {dimms : GoalDimms}
    {set : AppDirectSet} (hset : goal.HasSet set) (h : fillCode goal status dimms = .success) :
    (goal.config.interleave set).ways.count = (dimms.of set).length := by
  unfold fillCode at h
  dsimp only at h
  by_contra hne
  cases set with
  | first =>
    have hfirst : goal.HasSet .first ∧
        dimms.first.length ≠ (goal.config.interleave .first).ways.count :=
      ⟨hset, fun heq => hne heq.symm⟩
    rw [if_pos hfirst] at h
    split_ifs at h
  | second =>
    have hsecond : goal.HasSet .second ∧
        dimms.second.length ≠ (goal.config.interleave .second).ways.count :=
      ⟨hset, fun heq => hne heq.symm⟩
    rw [if_pos hsecond] at h
    cases h

/-! ### When the DIMMs are written soundly -/

/-- The entries that a run writes for a set of a goal: each DIMM with the index of the set and the
socket of the goal at most once, no more than the array has, and on success as many as the format of
the set says. -/
structure SetFilled (devices : List DeviceDiscovery) (file : List Char) (goal : LoadedGoal)
    (set : AppDirectSet) (rc : ReturnCode) (written : List Uid) : Prop where
  /-- No DIMM is written twice. -/
  nodup : written.Nodup
  /-- The file gives every DIMM that is written the index of the set and the socket of the goal. -/
  belongs : ∀ uid ∈ written, ∃ line ∈ (fileLines file).1,
    line.setId set = goal.config.setId set ∧ line.socketId = goal.config.socketId ∧
      ∃ discovery, lookupDevHandle devices line.dimmHandle = some discovery ∧ discovery.uid = uid
  /-- The array has room. -/
  length_le : written.length ≤ nvmMaxDevicesPerPool
  /-- The number of DIMMs of the set. -/
  ways_eq : rc = .success → (goal.config.interleave set).ways.count = written.length

/-- Loading the goal of a DIMM from a file fills its sets soundly. -/
def LoadsSoundly (devices : List DeviceDiscovery) (discovery : DeviceDiscovery) (file : List Char) :
    Prop :=
  ∀ goal, goalOfFile discovery file = .ok goal →
    ∃ rc dimms, fillGoalDimmUids devices file goal = some (rc, dimms) ∧
      ∀ set, goal.HasSet set → SetFilled devices file goal set rc (dimms.of set)

/-- The lines of a file with the index of a set whose DIMMs are known: there are no more of them than
the array has entries, they name different DIMMs, and they have the socket of the goal. -/
structure LinesSound (devices : List DeviceDiscovery) (file : List Char) (goal : LoadedGoal)
    (set : AppDirectSet) : Prop where
  /-- The lines name different DIMMs. -/
  nodup : (setUids devices goal set (fileLines file).1).Nodup
  /-- The number of lines. -/
  length_le : (setUids devices goal set (fileLines file).1).length ≤ nvmMaxDevicesPerPool
  /-- The socket of the lines. -/
  socket_eq : ∀ line ∈ (fileLines file).1, (lineUid devices goal set line).isSome →
    line.socketId = goal.config.socketId

/-- A line puts a unique id into a set exactly when it has the index of the set and names the DIMM. -/
private theorem lineUid_eq_some_iff {devices : List DeviceDiscovery} {goal : LoadedGoal}
    {set : AppDirectSet} (hset : goal.HasSet set) {line : DimmConfig} {uid : Uid} :
    lineUid devices goal set line = some uid ↔
      line.setId set = goal.config.setId set ∧
        ∃ discovery, lookupDevHandle devices line.dimmHandle = some discovery ∧
          discovery.uid = uid := by
  rw [lineUid]
  split_ifs with hid
  · rw [Option.map_eq_some_iff]
    exact ⟨fun h => ⟨hid.2.symm, h⟩, fun h => h.2⟩
  · exact iff_of_false (fun h => by cases h) fun h => hid ⟨hset, h.1.symm⟩

/-- A goal is loaded soundly exactly when the lines of the file for each of its sets are sound. -/
theorem loadsSoundly_iff (devices : List DeviceDiscovery) (discovery : DeviceDiscovery)
    (file : List Char) :
    LoadsSoundly devices discovery file ↔
      ∀ goal, goalOfFile discovery file = .ok goal →
        ∀ set, goal.HasSet set → LinesSound devices file goal set := by
  refine forall_congr' fun goal => forall_congr' fun _ => ?_
  constructor
  · rintro ⟨rc, dimms, hfill, hsound⟩ set hset
    obtain ⟨hdimms, hle⟩ := (fillGoalDimmUids_eq_some_iff.mp hfill).2 set
    obtain ⟨hnodup, hbelongs, -, -⟩ := hsound set hset
    rw [hdimms] at hnodup hbelongs hle
    refine ⟨hnodup, hle, fun line hline hsome => ?_⟩
    obtain ⟨uid, huid⟩ := Option.isSome_iff_exists.mp hsome
    obtain ⟨line', hline', hid, hsocket, hnames⟩ :=
      hbelongs uid (List.mem_filterMap.mpr ⟨line, hline, huid⟩)
    have huid' := (lineUid_eq_some_iff hset).mpr ⟨hid, hnames⟩
    -- two lines for one DIMM would write it twice
    by_contra hother
    have hne : line ≠ line' := fun heq => hother (heq ▸ hsocket)
    have hpairs := List.pairwise_filterMap.mp hnodup
    have hsymm : Std.Symm fun line line' : DimmConfig =>
        ∀ uid, lineUid devices goal set line = some uid →
          ∀ uid', lineUid devices goal set line' = some uid' → uid ≠ uid' :=
      ⟨fun _ _ h uid hput uid' hput' heq => h uid' hput' uid hput heq.symm⟩
    exact hpairs.forall hline hline' hne uid huid uid huid' rfl
  · intro h
    have hle : ∀ set, (setUids devices goal set (fileLines file).1).length ≤
        nvmMaxDevicesPerPool := by
      intro set
      by_cases hset : goal.HasSet set
      · exact (h set hset).length_le
      · rw [setUids_of_not_hasSet hset]
        exact Nat.zero_le _
    have hof : ∀ set, (GoalDimms.mk (setUids devices goal .first (fileLines file).1)
        (setUids devices goal .second (fileLines file).1)).of set =
          setUids devices goal set (fileLines file).1 := by
      intro set
      cases set with
      | first => rfl
      | second => rfl
    refine ⟨_, _, fillGoalDimmUids_eq_some_iff.mpr
      ⟨rfl, fun set => ⟨hof set, (hof set).symm ▸ hle set⟩⟩, fun set hset => ?_⟩
    obtain ⟨hnodup, hlength, hsocket⟩ := h set hset
    refine ⟨(hof set).symm ▸ hnodup, ?_, (hof set).symm ▸ hlength, ways_of_success hset⟩
    rw [hof]
    intro uid huid
    obtain ⟨line, hline, hput⟩ := List.mem_filterMap.mp huid
    obtain ⟨hid, hnames⟩ := (lineUid_eq_some_iff hset).mp hput
    exact ⟨line, hline, hid, hsocket line hline (Option.isSome_iff_exists.mpr ⟨uid, hput⟩), hnames⟩

/-- A DIMM. -/
private def listedDimm : DeviceDiscovery := { deviceHandle := 1, capacity := 0x1000000000 }

/-- A file with the line of the DIMM twice, which puts it into a set of two ways. -/
private def doubledFile : List Char :=
  "0,1,64,0,16,147460,0,1,0,0,0,0\n0,1,64,0,16,147460,0,1,0,0,0,0\n".toList

/-- The goal that the file has for the DIMM. -/
private def doubledGoal : LoadedGoal where
  config := {
    dimmHandle := 1
    dimmSizeGb := 64
    appDirect1Size := 16
    appDirect1Interleave := { channel := .size256B, imc := .size4KB, ways := .ways2 }
    appDirect1SetId := 1 }
  appDirectCount := 1

/-- The goal is created with the DIMM as both DIMMs of its set. -/
theorem not_loadsSoundly_doubled :
    nvmLoadConfig [listedDimm] listedDimm doubledFile =
        .creates doubledGoal ⟨[listedDimm.uid, listedDimm.uid], []⟩ ∧
      ¬ LoadsSoundly [listedDimm] listedDimm doubledFile := by
  refine ⟨by decide +kernel, fun h => ?_⟩
  have hgoal : goalOfFile listedDimm doubledFile = .ok doubledGoal := by decide +kernel
  obtain ⟨rc, dimms, hfill, hsound⟩ := h doubledGoal hgoal
  have huids : setUids [listedDimm] doubledGoal .first (fileLines doubledFile).1 =
      [listedDimm.uid, listedDimm.uid] := by decide +kernel
  have hnodup := (hsound .first (by decide)).nodup
  rw [((fillGoalDimmUids_eq_some_iff.mp hfill).2 .first).1, huids] at hnodup
  exact (List.nodup_cons.mp hnodup).1 List.mem_cons_self

end IxpDimm
