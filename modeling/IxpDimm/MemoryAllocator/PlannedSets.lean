import IxpDimm.ConfigGoal.Encode
import IxpDimm.MemoryAllocator.StepAppDirect
import Mathlib.Data.List.Dedup
import Mathlib.Data.List.Find

/-!
# Planned interleave sets under the rules of the library

The allocator plans interleave sets from bit maps over the positions of a socket
(`InterleaveableDimmSetBuilder`), and the library checks the set of a goal that is submitted by
counting DIMMs and comparing channel ids across the memory controllers
(`verify_interleave_set_rules`).

The positions are numbered by the channel modulo three, so the planner takes two DIMMs of different
controllers for partners when their channel ids are equal modulo three.  To the library they are
partners only when the ids are equal.  When each position holds at most one DIMM, the two agree on
every subset of the populated positions exactly when partners carry the same channel id and the BIOS
recommends a format for every number of ways that can be planned.
-/

namespace IxpDimm

open Foundation LayoutStepAppDirect InterleaveableDimmSetBuilder

/-- The DIMM of a request is the manageable device with its uid, at the same place. -/
structure Installed (platform : Platform) (dimm : Dimm) : Prop where
  /-- The uid fits the array of a goal. -/
  uid : stringToUid dimm.uid = .ok dimm.uid
  /-- The device is there, at the place of the DIMM. -/
  device : ∃ device, existsAndManageable platform dimm.uid = .ok device ∧
    device.socketId = dimm.socket ∧ device.memoryControllerId = dimm.memoryController ∧
    device.channelId.toNat = dimm.channel.toNat

/-- The check of `populate_dimm_info_extension_tables` on the interleave set of a submitted goal. -/
def verifySubmittedSet (platform : Platform) (qos : AppDirectAttributes) : ReturnCode :=
  match getDevicesFromAppdirectAttributes platform qos.setDimms with
  | .error rc => rc
  | .ok devices => verifyInterleaveSetRules devices

/-- The settings that the layout of one more set has written into a goal. -/
def plannedSettings (before after : ConfigGoal) : AppDirectAttributes :=
  if before.appDirectCount + 1 = 1 then after.appDirect1Settings else after.appDirect2Settings

/-- The library accepts the set for each of its DIMMs, whatever the goals were before it was laid
out. -/
def SetAccepted (platform : Platform) (lib : NvmLibrary) (set : List Dimm) : Prop :=
  ∀ bytes state state', layoutInterleaveSet lib set bytes state = .ok state' → ∀ dimm ∈ set,
    verifySubmittedSet platform
      (plannedSettings (state.goals dimm.uid) (state'.goals dimm.uid)) = .success

/-- Every set that is planned for some of the DIMMs is accepted. -/
def PlansAccepted (platform : Platform) (lib : NvmLibrary) (dimms : List Dimm) : Prop :=
  ∀ population, population.Sublist dimms → ∀ set,
    getLargestSetOfInterleavableDimms population = .ok set → SetAccepted platform lib set

/-- The DIMMs sit on the two controllers of a socket, one at a position. -/
structure OnePerPosition (dimms : List Dimm) : Prop where
  /-- There are two memory controllers. -/
  controller : ∀ d ∈ dimms, d.memoryController.toNat < imcsPerSocket
  /-- No two DIMMs have the same position. -/
  position : (dimms.map dimmLocation).Nodup

/-- Partners, the DIMMs of the two controllers on the same channel modulo three, carry the same
channel id. -/
def PartnersShareChannel (dimms : List Dimm) : Prop :=
  ∀ d ∈ dimms, ∀ e ∈ dimms, d.memoryController ≠ e.memoryController →
    d.channel.toNat % channelsPerImc = e.channel.toNat % channelsPerImc → d.channel = e.channel

/-- Each position of a map holds a DIMM. -/
def Occupies (dimms : List Dimm) (map : ℕ) : Prop :=
  ∀ i, dimmPopulated map i → ∃ d ∈ dimms, dimmLocation d = i

/-- The number of positions of a map. -/
def positionCount (map : ℕ) : ℕ := (List.range 6).countP (dimmPopulated map)

/-- The BIOS recommends a format with as many ways as each set that the DIMMs can form has
positions. -/
def FormatsRecommended (formats : List InterleaveFormat) (dimms : List Dimm) : Prop :=
  ∀ map ∈ interleaveSets, Occupies dimms map →
    ∃ format ∈ formats, format.ways.count = positionCount map ∧ format.recommended

/-! ### The DIMMs on a map -/

/-- The bits of a map after one of them was cleared. -/
private theorem testBit_clearDimm (map i j : ℕ) :
    (clearDimm map i).testBit j = (map.testBit j && decide (i ≠ j)) := by
  by_cases h : i = j
  · simp [clearDimm, Nat.testBit_xor, Nat.testBit_and, h]
  · simp [clearDimm, Nat.testBit_xor, Nat.testBit_and, h]

/-- The bits of a map after those of some DIMMs were cleared. -/
private theorem testBit_foldl_clearDimm (dimms : List Dimm) (map j : ℕ) :
    (dimms.foldl (fun map dimm => clearDimm map (dimmLocation dimm)) map).testBit j =
      (map.testBit j && decide (∀ d ∈ dimms, dimmLocation d ≠ j)) := by
  induction dimms generalizing map with
  | nil => simp
  | cons d dimms ih =>
    rw [List.foldl_cons, ih, testBit_clearDimm]
    by_cases h : dimmLocation d = j
    · simp [h]
    · simp [h]

/-- A set is found on a map exactly when all of its positions hold a DIMM; it then consists of the
DIMMs on these positions. -/
private theorem getDimmsFromListMatchingInterleaveSet_eq (dimms : List Dimm) (map : ℕ) :
    (Occupies dimms map → getDimmsFromListMatchingInterleaveSet dimms map =
      dimms.filter fun d => dimmPopulated map (dimmLocation d)) ∧
    (¬ Occupies dimms map → getDimmsFromListMatchingInterleaveSet dimms map = []) := by
  unfold getDimmsFromListMatchingInterleaveSet
  dsimp only
  have hzero : (dimms.filter fun d => dimmPopulated map (dimmLocation d)).foldl
      (fun map dimm => clearDimm map (dimmLocation dimm)) map = 0 ↔ Occupies dimms map := by
    constructor
    · intro hz i hi
      have hbit := congrArg (Nat.testBit · i) hz
      simp only [testBit_foldl_clearDimm, Nat.zero_testBit, Bool.and_eq_false_iff] at hbit
      rcases hbit with hbit | hbit
      · rw [dimmPopulated, hbit] at hi
        cases hi
      · rw [decide_eq_false_iff_not] at hbit
        push Not at hbit
        obtain ⟨d, hd, hloc⟩ := hbit
        exact ⟨d, (List.mem_filter.mp hd).1, hloc⟩
    · intro hocc
      apply Nat.eq_of_testBit_eq
      intro i
      rw [testBit_foldl_clearDimm, Nat.zero_testBit]
      by_cases hi : map.testBit i
      · obtain ⟨d, hd, hloc⟩ := hocc i hi
        rw [Bool.and_eq_false_iff, decide_eq_false_iff_not]
        right
        intro hall
        refine hall d (List.mem_filter.mpr ⟨hd, ?_⟩) hloc
        rw [hloc]
        exact hi
      · simp [hi]
  constructor
  · intro hocc
    rw [if_neg (not_not.mpr (hzero.mpr hocc))]
  · intro hnot
    rw [if_pos (fun hz => hnot (hzero.mp hz))]

/-! ### The maps -/

/-- The partner of every position of the map is on the map. -/
private def Paired (map : ℕ) : Prop :=
  ∀ c < 3, dimmPopulated map (2 * c) = dimmPopulated map (2 * c + 1)

/-- The positions of the map are those of one controller. -/
private def OneController (map : ℕ) : Prop :=
  (∀ i < 6, dimmPopulated map i → i % 2 = 0) ∨ ∀ i < 6, dimmPopulated map i → i % 2 = 1

private instance (map : ℕ) : Decidable (Paired map) :=
  inferInstanceAs (Decidable (∀ c < 3, dimmPopulated map (2 * c) = dimmPopulated map (2 * c + 1)))

private instance (map : ℕ) : Decidable (OneController map) :=
  inferInstanceAs (Decidable ((∀ i < 6, dimmPopulated map i → i % 2 = 0) ∨
    ∀ i < 6, dimmPopulated map i → i % 2 = 1))

/-- The maps use the six positions only. -/
private theorem lt_of_mem_interleaveSets : ∀ map ∈ interleaveSets, map < 2 ^ 6 := by decide

/-- A map is tried before every map on a part of its positions. -/
private theorem find?_submap :
    ∀ map ∈ interleaveSets, interleaveSets.find? (fun map' => map' &&& map = map') = some map := by
  decide +kernel

/-- Every map has a position. -/
private theorem exists_dimmPopulated :
    ∀ map ∈ interleaveSets, ∃ i < 6, dimmPopulated map i = true := by
  decide +kernel

/-- The maps are the ones the rules allow: those of one or six positions, those of two that are
partners or of one controller, those of three of one controller and those of two pairs. -/
private theorem interleaveSets_rules :
    ∀ map ∈ interleaveSets,
      positionCount map = 1 ∨ positionCount map = 6 ∨
      (positionCount map = 2 ∧ (Paired map ∨ OneController map)) ∨
      (positionCount map = 3 ∧ OneController map) ∨ (positionCount map = 4 ∧ Paired map) := by
  decide +kernel

/-- The maps across the controllers. -/
private theorem pair_mem_interleaveSets :
    ∀ c < 3, 3 <<< (2 * c) ∈ interleaveSets ∧ positionCount (3 <<< (2 * c)) = 2 ∧
      ∀ i < 6, dimmPopulated (3 <<< (2 * c)) i = decide (i / 2 = c) := by
  decide +kernel

/-- A position of a map is one of the six. -/
private theorem lt_of_dimmPopulated {map i : ℕ} (hmap : map ∈ interleaveSets)
    (hi : dimmPopulated map i) : i < 6 := by
  by_contra hge
  have hlt : map < 2 ^ i :=
    (lt_of_mem_interleaveSets map hmap).trans_le (Nat.pow_le_pow_right (by decide) (by omega))
  rw [dimmPopulated, Nat.testBit_lt_two_pow hlt] at hi
  cases hi

/-- Being on a part of the positions, in bits. -/
private theorem and_eq_left_iff {map map' : ℕ} :
    map' &&& map = map' ↔ ∀ i, dimmPopulated map' i → dimmPopulated map i := by
  constructor
  · intro h i hi
    have hbit := congrArg (Nat.testBit · i) h
    simp only [Nat.testBit_and] at hbit
    rw [dimmPopulated] at hi ⊢
    rw [hi, Bool.true_and] at hbit
    exact hbit
  · intro h
    apply Nat.eq_of_testBit_eq
    intro i
    rw [Nat.testBit_and]
    by_cases hi : map'.testBit i
    · have := h i hi
      rw [dimmPopulated] at this
      simp [hi, this]
    · simp [hi]

/-! ### The set that is planned -/

/-- The builder accepts DIMMs of one socket with valid channel ids. -/
private theorem validated {dimms : List Dimm} (hsocket : ∀ d ∈ dimms, ∀ e ∈ dimms, d.socket = e.socket)
    (hchannel : dimmsHaveValidChannelIds dimms) :
    ¬ (dimmsAreOnMultipleSockets dimms ∨ !dimmsHaveValidChannelIds dimms) := by
  rw [hchannel]
  simp only [Bool.not_true, Bool.false_eq_true, or_false, dimmsAreOnMultipleSockets,
    decide_eq_true_eq, Nat.not_lt]
  have hsub : (dimms.map Dimm.socket).dedup ⊆ (dimms.map Dimm.socket).head?.toList := by
    intro s hs
    rw [List.mem_dedup] at hs
    obtain ⟨d, hd, rfl⟩ := List.mem_map.mp hs
    cases dimms with
    | nil => cases hd
    | cons e dimms =>
      simp [hsocket d hd e List.mem_cons_self]
  calc (dimms.map Dimm.socket).dedup.length
      ≤ (dimms.map Dimm.socket).head?.toList.length :=
        ((List.nodup_dedup _).subperm hsub).length_le
    _ ≤ 1 := by cases (dimms.map Dimm.socket).head? <;> simp

/-- DIMMs that the builder accepts are on one socket. -/
private theorem socket_eq_of_not_multiple {dimms : List Dimm}
    (h : dimmsAreOnMultipleSockets dimms = false) :
    ∀ d ∈ dimms, ∀ e ∈ dimms, d.socket = e.socket := by
  intro d hd e he
  have hlen : (dimms.map Dimm.socket).dedup.length ≤ 1 := by
    simpa [dimmsAreOnMultipleSockets] using h
  have hd' : d.socket ∈ (dimms.map Dimm.socket).dedup :=
    List.mem_dedup.mpr (List.mem_map_of_mem hd)
  have he' : e.socket ∈ (dimms.map Dimm.socket).dedup :=
    List.mem_dedup.mpr (List.mem_map_of_mem he)
  obtain ⟨s, hs⟩ := List.length_eq_one_iff.mp
    (Nat.le_antisymm hlen (List.length_pos_of_mem hd'))
  rw [hs, List.mem_singleton] at hd' he'
  rw [hd', he']

/-- What the builder returns are the DIMMs on a map that they occupy, or nothing. -/
private theorem planned_cases {dimms set : List Dimm}
    (h : getLargestSetOfInterleavableDimms dimms = .ok set) :
    set = [] ∨ ∃ map ∈ interleaveSets, Occupies dimms map ∧
      set = dimms.filter fun d => dimmPopulated map (dimmLocation d) := by
  unfold getLargestSetOfInterleavableDimms at h
  split_ifs at h
  obtain rfl := Except.ok.inj h
  cases hfind : (interleaveSets.map (getDimmsFromListMatchingInterleaveSet dimms)).find?
      fun set => !set.isEmpty with
  | none => exact .inl rfl
  | some set =>
    right
    obtain ⟨map, hmap, hset⟩ := List.mem_map.mp (List.mem_of_find?_eq_some hfind)
    have hne : set ≠ [] := by simpa using List.find?_some hfind
    by_cases hocc : Occupies dimms map
    · refine ⟨map, hmap, hocc, ?_⟩
      rw [Option.getD_some, ← hset, (getDimmsFromListMatchingInterleaveSet_eq dimms map).1 hocc]
    · rw [(getDimmsFromListMatchingInterleaveSet_eq dimms map).2 hocc] at hset
      exact absurd hset.symm hne

/-- The DIMMs on a map that is occupied are planned when there are no others. -/
private theorem planned_of_occupies {dimms : List Dimm} {map : ℕ}
    (hsocket : ∀ d ∈ dimms, ∀ e ∈ dimms, d.socket = e.socket)
    (hchannel : dimmsHaveValidChannelIds dimms) (hmap : map ∈ interleaveSets)
    (hocc : Occupies dimms map) :
    getLargestSetOfInterleavableDimms (dimms.filter fun d => dimmPopulated map (dimmLocation d)) =
      .ok (dimms.filter fun d => dimmPopulated map (dimmLocation d)) := by
  generalize hpop : dimms.filter (fun d => dimmPopulated map (dimmLocation d)) = population
  have hmem : ∀ d, d ∈ population ↔ d ∈ dimms ∧ dimmPopulated map (dimmLocation d) := by
    intro d
    rw [← hpop, List.mem_filter]
  have hoccupies : ∀ map', Occupies population map' ↔ map' &&& map = map' := by
    intro map'
    rw [and_eq_left_iff]
    constructor
    · intro h i hi
      obtain ⟨d, hd, rfl⟩ := h i hi
      exact ((hmem d).mp hd).2
    · intro h i hi
      obtain ⟨d, hd, rfl⟩ := hocc i (h i hi)
      exact ⟨d, (hmem d).mpr ⟨hd, h _ hi⟩, rfl⟩
  have hchannel' : dimmsHaveValidChannelIds population := by
    rw [dimmsHaveValidChannelIds, List.all_eq_true] at hchannel ⊢
    exact fun d hd => hchannel d ((hmem d).mp hd).1
  have hvalid := validated
    (fun d hd e he => hsocket d ((hmem d).mp hd).1 e ((hmem e).mp he).1) hchannel'
  have hfind : ∀ map' ∈ interleaveSets,
      ((fun set : List Dimm => !set.isEmpty) ∘ getDimmsFromListMatchingInterleaveSet population) map' =
        decide (map' &&& map = map') := by
    intro map' hmap'
    rw [Function.comp_apply, Bool.eq_iff_iff, decide_eq_true_eq, ← hoccupies]
    by_cases hocc' : Occupies population map'
    · rw [(getDimmsFromListMatchingInterleaveSet_eq population map').1 hocc']
      obtain ⟨i, _, hi⟩ := exists_dimmPopulated map' hmap'
      obtain ⟨d, hd, rfl⟩ := hocc' i hi
      have hne : population.filter (fun d => dimmPopulated map' (dimmLocation d)) ≠ [] :=
        List.ne_nil_of_mem (List.mem_filter.mpr ⟨hd, hi⟩)
      simpa [hocc'] using hne
    · rw [(getDimmsFromListMatchingInterleaveSet_eq population map').2 hocc']
      simp [hocc']
  rw [getLargestSetOfInterleavableDimms, if_neg hvalid, List.find?_map, List.find?_congr hfind,
    find?_submap map hmap, Option.map_some, Option.getD_some,
    (getDimmsFromListMatchingInterleaveSet_eq population map).1
      ((hoccupies map).mpr (Nat.and_self map))]
  congr 1
  rw [List.filter_eq_self]
  exact fun d hd => ((hmem d).mp hd).2

/-! ### The rules of the library -/

section Rules

variable {platform : Platform} {lib : NvmLibrary} {formats : List InterleaveFormat} {dimms : List Dimm}

/-- The device of a DIMM. -/
private def deviceOf (platform : Platform) (dimm : Dimm) : DeviceDiscovery :=
  (existsAndManageable platform dimm.uid).toOption.getD {}

/-- The device of a DIMM that is installed. -/
private theorem Installed.deviceOf {dimm : Dimm} (h : Installed platform dimm) :
    existsAndManageable platform dimm.uid = .ok (deviceOf platform dimm) ∧
      (IxpDimm.deviceOf platform dimm).socketId = dimm.socket ∧
      (IxpDimm.deviceOf platform dimm).memoryControllerId = dimm.memoryController ∧
      (IxpDimm.deviceOf platform dimm).channelId.toNat = dimm.channel.toNat := by
  obtain ⟨device, hdevice, hplace⟩ := h.device
  have heq : IxpDimm.deviceOf platform dimm = device := by
    rw [IxpDimm.deviceOf, hdevice]
    rfl
  rw [heq]
  exact ⟨hdevice, hplace⟩

/-- The devices of a set are found. -/
private theorem getDevices_of_installed {set : List Dimm} (h : ∀ d ∈ set, Installed platform d) :
    getDevicesFromAppdirectAttributes platform (set.map Dimm.uid) =
      .ok (set.map (deviceOf platform)) := by
  induction set with
  | nil => rfl
  | cons d set ih =>
    have hd := (h d List.mem_cons_self).deviceOf.1
    have hset := ih fun e he => h e (List.mem_cons_of_mem d he)
    rw [List.map_cons, getDevicesFromAppdirectAttributes, hd]
    dsimp only
    rw [hset, List.map_cons]

/-- DIMMs of one socket are not a request across sockets. -/
private theorem not_across_socket {set : List Dimm} (h : ∀ d ∈ set, Installed platform d)
    (hsocket : ∀ d ∈ set, ∀ e ∈ set, d.socket = e.socket) :
    interleaveRequestAcrossSocket (set.map (deviceOf platform)) = false := by
  cases set with
  | nil => rfl
  | cons d set =>
    rw [List.map_cons, interleaveRequestAcrossSocket, List.any_map, List.any_eq_false]
    intro e he
    have hd := (h d List.mem_cons_self).deviceOf.2.1
    have he' := (h e (List.mem_cons_of_mem d he)).deviceOf.2.1
    simp [hd, he', hsocket e (List.mem_cons_of_mem d he) d List.mem_cons_self]

/-- DIMMs of one controller are not across controllers. -/
private theorem not_across_controllers {set : List Dimm} (h : ∀ d ∈ set, Installed platform d)
    (hsame : ∀ d ∈ set, ∀ e ∈ set, d.memoryController = e.memoryController) :
    dimmsAreAcrossControllers (set.map (deviceOf platform)) = false := by
  cases set with
  | nil => rfl
  | cons d set =>
    rw [List.map_cons, dimmsAreAcrossControllers, List.any_map, List.any_eq_false]
    intro e he
    have hd := (h d List.mem_cons_self).deviceOf.2.2.1
    have he' := (h e (List.mem_cons_of_mem d he)).deviceOf.2.2.1
    simp [hd, he', hsame e (List.mem_cons_of_mem d he) d List.mem_cons_self]

/-- The channels match when every DIMM has one of the other controller with its channel id. -/
private theorem channels_match_iff {set : List Dimm} (h : ∀ d ∈ set, Installed platform d)
    (hne : set ≠ []) :
    dimmsAcrossControllersAndChannelsMatch (set.map (deviceOf platform)) = true ↔
      ∀ d ∈ set, ∃ e ∈ set, d.channel = e.channel ∧ d.memoryController ≠ e.memoryController := by
  have hempty : (set.map (deviceOf platform)).isEmpty = false := by
    rw [List.isEmpty_map]
    simpa using hne
  have hchannel : ∀ d ∈ set, ∀ e ∈ set,
      ((deviceOf platform d).channelId = (deviceOf platform e).channelId ↔
        d.channel = e.channel) := by
    intro d hd e he
    rw [← UInt16.toNat_inj, (h d hd).deviceOf.2.2.2, (h e he).deviceOf.2.2.2, UInt32.toNat_inj]
  rw [dimmsAcrossControllersAndChannelsMatch, hempty, Bool.not_false, Bool.true_and, List.all_map,
    List.all_eq_true]
  refine forall₂_congr fun d hd => ?_
  rw [Function.comp_apply, List.any_map, List.any_eq_true]
  refine exists_congr fun e => and_congr_right fun he => ?_
  rw [Function.comp_apply, Bool.and_eq_true, decide_eq_true_eq, decide_eq_true_eq,
    hchannel d hd e he, (h d hd).deviceOf.2.2.1, (h e he).deviceOf.2.2.1]

/-- With as many ways as uids, the DIMMs of the settings are those written. -/
private theorem setDimms_updateSettings {uids : List Uid} {format : InterleaveFormat}
    (h : format.ways.count = uids.length) (settings : AppDirectAttributes) :
    (updateSettings uids format settings).setDimms = uids := by
  rw [AppDirectAttributes.setDimms, updateSettings]
  apply List.ext_getElem
  · simp [h]
  · intro i hi hlt
    simp [List.getElem?_append_left hlt, hlt]

/-- The settings that one more set writes. -/
private theorem plannedSettings_update (setId : UInt16) (bytes : UInt64) (uids : List Uid)
    (format : InterleaveFormat) (goal : ConfigGoal) :
    ∃ settings, plannedSettings goal (updateGoalWithInterleaveSet setId bytes uids format goal) =
      updateSettings uids format settings := by
  unfold plannedSettings updateGoalWithInterleaveSet
  by_cases h : goal.appDirectCount + 1 = 1
  · rw [if_pos h, if_pos h]
    exact ⟨_, rfl⟩
  · rw [if_neg h, if_neg h]
    exact ⟨_, rfl⟩

/-- A set is accepted when the BIOS recommends a format for it and its devices meet the rules. -/
private theorem setAccepted_iff {capabilities : SystemCapabilities}
    (hcaps : lib.getNvmCapabilities = .ok capabilities) {set : List Dimm} (hne : set ≠ [])
    (h : ∀ d ∈ set, Installed platform d) (hnd : (set.map Dimm.uid).Nodup) :
    SetAccepted platform lib set ↔
      (∃ format ∈ capabilities.interleaveFormats,
        format.ways.count = set.length ∧ format.recommended) ∧
      verifyInterleaveSetRules (set.map (deviceOf platform)) = .success := by
  have huids : set.mapM (fun dimm => stringToUid dimm.uid) = .ok (set.map Dimm.uid) :=
    except_mapM_eq_ok fun d hd => (h d hd).uid
  have hformat : MemoryAllocationUtil.getRecommendedInterleaveFormatForWays lib set.length =
      .ok ((capabilities.interleaveFormats.find? fun format =>
        format.ways.count = set.length ∧ format.recommended).getD {}) := by
    rw [MemoryAllocationUtil.getRecommendedInterleaveFormatForWays, hcaps]
  generalize hfound : (capabilities.interleaveFormats.find? fun format =>
    format.ways.count = set.length ∧ format.recommended) = found at hformat
  -- What is submitted for a DIMM of the set, from any goals before.
  have hplanned : ∀ (bytes : UInt64) (state state' : AppDirectState),
      layoutInterleaveSet lib set bytes state = .ok state' → ∀ d ∈ set, ∃ settings,
        plannedSettings (state.goals d.uid) (state'.goals d.uid) =
          updateSettings (set.map Dimm.uid) (found.getD {}) settings := by
    intro bytes state state' hlaid d hd
    rw [layoutInterleaveSet_eq huids hformat] at hlaid
    obtain rfl := Except.ok.inj hlaid
    dsimp only
    rw [updateAll_apply_of_mem hnd hd]
    exact plannedSettings_update _ _ _ _ _
  cases found with
  | none =>
    -- The zeroed format has no ways, so the goal is submitted without DIMMs.
    constructor
    · intro haccepted
      obtain ⟨d, hd⟩ := List.exists_mem_of_ne_nil set hne
      have hlaid : layoutInterleaveSet lib set 0 ⟨fun _ => {}, 0⟩ = .ok _ :=
        layoutInterleaveSet_eq huids hformat
      have hok := haccepted _ _ _ hlaid d hd
      obtain ⟨settings, hsettings⟩ := hplanned _ _ _ hlaid d hd
      have hrejected : verifySubmittedSet platform
          (updateSettings (set.map Dimm.uid) ((none : Option InterleaveFormat).getD {}) settings) =
            .errUnknown := rfl
      rw [hsettings, hrejected] at hok
      cases hok
    · rintro ⟨⟨format, hmem, hways⟩, _⟩
      rw [List.find?_eq_none] at hfound
      exact absurd hways (by simpa using hfound format hmem)
  | some format =>
    have hways : format.ways.count = set.length ∧ format.recommended = true := by
      simpa using List.find?_some hfound
    have hdevices : ∀ settings, verifySubmittedSet platform
        (updateSettings (set.map Dimm.uid) ((some format).getD {}) settings) =
          verifyInterleaveSetRules (set.map (deviceOf platform)) := by
      intro settings
      rw [Option.getD_some, verifySubmittedSet,
        setDimms_updateSettings (by rw [List.length_map, hways.1]), getDevices_of_installed h]
    constructor
    · intro haccepted
      obtain ⟨d, hd⟩ := List.exists_mem_of_ne_nil set hne
      have hlaid : layoutInterleaveSet lib set 0 ⟨fun _ => {}, 0⟩ = .ok _ :=
        layoutInterleaveSet_eq huids hformat
      have hok := haccepted _ _ _ hlaid d hd
      obtain ⟨settings, hsettings⟩ := hplanned _ _ _ hlaid d hd
      rw [hsettings, hdevices] at hok
      exact ⟨⟨format, List.mem_of_find?_eq_some hfound, hways⟩, hok⟩
    · rintro ⟨_, hrules⟩ bytes state state' hlaid d hd
      obtain ⟨settings, hsettings⟩ := hplanned _ _ _ hlaid d hd
      rw [hsettings, hdevices, hrules]

/-- The position of a DIMM tells its controller and its channel. -/
private theorem dimmLocation_parts {d : Dimm} (h : d.memoryController.toNat < imcsPerSocket) :
    dimmLocation d < 6 ∧ dimmLocation d % 2 = d.memoryController.toNat ∧
      dimmLocation d / 2 = d.channel.toNat % channelsPerImc := by
  have hchannel : d.channel.toNat % channelsPerImc < 3 := Nat.mod_lt _ (by decide)
  have htwo : imcsPerSocket = 2 := rfl
  rw [dimmLocation]
  omega

/-- With one DIMM at a position, an occupied map holds as many DIMMs as it has positions. -/
private theorem length_filter_eq_positionCount {map : ℕ} (hone : OnePerPosition dimms)
    (hmap : map ∈ interleaveSets) (hocc : Occupies dimms map) :
    (dimms.filter fun d => dimmPopulated map (dimmLocation d)).length = positionCount map := by
  have hperm : ((dimms.filter fun d => dimmPopulated map (dimmLocation d)).map dimmLocation).Perm
      ((List.range 6).filter (dimmPopulated map)) := by
    rw [List.perm_ext_iff_of_nodup]
    · intro i
      rw [List.mem_map, List.mem_filter, List.mem_range]
      constructor
      · rintro ⟨d, hd, rfl⟩
        have hi := (List.mem_filter.mp hd).2
        exact ⟨lt_of_dimmPopulated hmap hi, hi⟩
      · rintro ⟨_, hi⟩
        obtain ⟨d, hd, rfl⟩ := hocc i hi
        exact ⟨d, List.mem_filter.mpr ⟨hd, hi⟩, rfl⟩
    · exact hone.position.sublist (List.filter_sublist.map dimmLocation)
    · exact List.nodup_range.filter _
  rw [positionCount, List.countP_eq_length_filter, ← hperm.length_eq, List.length_map]

/-- The DIMMs on a map that is occupied meet the rules, when partners share their channel id. -/
private theorem rules_of_partners {map : ℕ} (hinst : ∀ d ∈ dimms, Installed platform d)
    (hsocket : ∀ d ∈ dimms, ∀ e ∈ dimms, d.socket = e.socket) (hone : OnePerPosition dimms)
    (hpartners : PartnersShareChannel dimms) (hmap : map ∈ interleaveSets)
    (hocc : Occupies dimms map) :
    verifyInterleaveSetRules ((dimms.filter fun d => dimmPopulated map (dimmLocation d)).map
      (deviceOf platform)) = .success := by
  have hlength := length_filter_eq_positionCount hone hmap hocc
  generalize hset : dimms.filter (fun d => dimmPopulated map (dimmLocation d)) = set at hlength
  have hmem : ∀ d, d ∈ set ↔ d ∈ dimms ∧ dimmPopulated map (dimmLocation d) := by
    intro d
    rw [← hset, List.mem_filter]
  have hinst' : ∀ d ∈ set, Installed platform d := fun d hd => hinst d ((hmem d).mp hd).1
  have hacross := not_across_socket hinst'
    fun d hd e he => hsocket d ((hmem d).mp hd).1 e ((hmem e).mp he).1
  have hcontrollers : OneController map →
      dimmsAreAcrossControllers (set.map (deviceOf platform)) = false := by
    intro hcontroller
    apply not_across_controllers hinst'
    intro d hd e he
    obtain ⟨hd6, hdc, _⟩ := dimmLocation_parts (hone.controller d ((hmem d).mp hd).1)
    obtain ⟨he6, hec, _⟩ := dimmLocation_parts (hone.controller e ((hmem e).mp he).1)
    rw [← UInt16.toNat_inj, ← hdc, ← hec]
    rcases hcontroller with hall | hall
    · rw [hall _ hd6 ((hmem d).mp hd).2, hall _ he6 ((hmem e).mp he).2]
    · rw [hall _ hd6 ((hmem d).mp hd).2, hall _ he6 ((hmem e).mp he).2]
  have hchannels : set ≠ [] → Paired map →
      dimmsAcrossControllersAndChannelsMatch (set.map (deviceOf platform)) = true := by
    intro hne hpaired
    rw [channels_match_iff hinst' hne]
    intro d hd
    obtain ⟨hd6, hdc, hdch⟩ := dimmLocation_parts (hone.controller d ((hmem d).mp hd).1)
    -- The partner sits at the other position of the pair.
    have hbit : dimmPopulated map (2 * (dimmLocation d / 2) + (1 - dimmLocation d % 2)) := by
      have hpair := hpaired (dimmLocation d / 2) (by omega)
      have hbit := ((hmem d).mp hd).2
      rcases Nat.mod_two_eq_zero_or_one (dimmLocation d) with hpar | hpar
      · rw [hpar]
        rwa [← hpair, show 2 * (dimmLocation d / 2) = dimmLocation d by omega]
      · rw [hpar]
        rwa [Nat.sub_self, Nat.add_zero, hpair,
          show 2 * (dimmLocation d / 2) + 1 = dimmLocation d by omega]
    obtain ⟨e, he, hloc⟩ := hocc _ hbit
    have hemem : e ∈ set := (hmem e).mpr ⟨he, hloc ▸ hbit⟩
    obtain ⟨_, hec, hech⟩ := dimmLocation_parts (hone.controller e he)
    have hcontroller : d.memoryController ≠ e.memoryController := by
      intro heq
      rw [← UInt16.toNat_inj] at heq
      omega
    exact ⟨e, hemem, hpartners d ((hmem d).mp hd).1 e he hcontroller (by omega), hcontroller⟩
  have hlen : (set.map (deviceOf platform)).length = positionCount map := by
    rw [List.length_map, hlength]
  rw [verifyInterleaveSetRules, hacross, if_neg Bool.false_ne_true]
  rcases interleaveSets_rules map hmap with hcount | hcount | ⟨hcount, hrule⟩ | ⟨hcount, hrule⟩ |
    ⟨hcount, hrule⟩
  · simp [hlen, hcount]
  · simp [hlen, hcount]
  · rcases hrule with hrule | hrule
    · have hne : set ≠ [] := List.ne_nil_of_length_pos (by omega)
      simp [hlen, hcount, hchannels hne hrule]
    · simp [hlen, hcount, hcontrollers hrule]
  · simp [hlen, hcount, hcontrollers hrule]
  · have hne : set ≠ [] := List.ne_nil_of_length_pos (by omega)
    simp [hlen, hcount, hchannels hne hrule]

/-- DIMMs of two controllers are across controllers. -/
private theorem across_controllers {set : List Dimm} (h : ∀ d ∈ set, Installed platform d)
    {d e : Dimm} (hd : d ∈ set) (he : e ∈ set) (hne : d.memoryController ≠ e.memoryController) :
    dimmsAreAcrossControllers (set.map (deviceOf platform)) = true := by
  cases set with
  | nil => cases hd
  | cons x set =>
    rw [List.map_cons, dimmsAreAcrossControllers, List.any_map, List.any_eq_true]
    by_contra hall
    push Not at hall
    have hsame : ∀ y ∈ x :: set, y.memoryController = x.memoryController := by
      intro y hy
      rcases List.mem_cons.mp hy with rfl | hy'
      · rfl
      · have hx := (h x List.mem_cons_self).deviceOf.2.2.1
        have hy'' := (h y hy).deviceOf.2.2.1
        simpa [hx, hy''] using hall y hy'
    exact hne ((hsame d hd).trans (hsame e he).symm)

/-- Partners whose channel ids differ are planned as a set of two that the rules reject. -/
private theorem partnersShareChannel_of_rules (hinst : ∀ d ∈ dimms, Installed platform d)
    (hsocket : ∀ d ∈ dimms, ∀ e ∈ dimms, d.socket = e.socket) (hone : OnePerPosition dimms)
    (hrules : ∀ map ∈ interleaveSets, Occupies dimms map →
      verifyInterleaveSetRules ((dimms.filter fun d => dimmPopulated map (dimmLocation d)).map
        (deviceOf platform)) = .success) :
    PartnersShareChannel dimms := by
  intro d hd e he hcontroller hchannel
  obtain ⟨hd6, hdc, hdch⟩ := dimmLocation_parts (hone.controller d hd)
  obtain ⟨he6, hec, hech⟩ := dimmLocation_parts (hone.controller e he)
  have hparity : dimmLocation d % 2 ≠ dimmLocation e % 2 := by
    rw [hdc, hec]
    exact fun heq => hcontroller (UInt16.toNat_inj.mp heq)
  obtain ⟨hmap, hcount, hbits⟩ := pair_mem_interleaveSets (dimmLocation d / 2) (by omega)
  generalize 3 <<< (2 * (dimmLocation d / 2)) = map at hmap hcount hbits
  have hdbit : dimmPopulated map (dimmLocation d) := by
    rw [hbits _ hd6, decide_eq_true_eq]
  have hebit : dimmPopulated map (dimmLocation e) := by
    rw [hbits _ he6, decide_eq_true_eq]
    omega
  have hocc : Occupies dimms map := by
    intro i hi
    have hi6 := lt_of_dimmPopulated hmap hi
    rw [hbits i hi6, decide_eq_true_eq] at hi
    rcases Nat.lt_or_ge (i % 2) 1 with hpar | hpar
    · by_cases hdpar : dimmLocation d % 2 = 0
      · exact ⟨d, hd, by omega⟩
      · exact ⟨e, he, by omega⟩
    · by_cases hdpar : dimmLocation d % 2 = 0
      · exact ⟨e, he, by omega⟩
      · exact ⟨d, hd, by omega⟩
  have hlength := length_filter_eq_positionCount hone hmap hocc
  have hok := hrules map hmap hocc
  have hdset : d ∈ dimms.filter fun d => dimmPopulated map (dimmLocation d) :=
    List.mem_filter.mpr ⟨hd, hdbit⟩
  have heset : e ∈ dimms.filter fun d => dimmPopulated map (dimmLocation d) :=
    List.mem_filter.mpr ⟨he, hebit⟩
  generalize hset : dimms.filter (fun d => dimmPopulated map (dimmLocation d)) = set at *
  have hmem : ∀ x ∈ set, x ∈ dimms ∧ dimmPopulated map (dimmLocation x) := by
    intro x hx
    rw [← hset] at hx
    exact List.mem_filter.mp hx
  have hinst' : ∀ x ∈ set, Installed platform x := fun x hx => hinst x (hmem x hx).1
  have hacross := not_across_socket hinst'
    fun x hx y hy => hsocket x (hmem x hx).1 y (hmem y hy).1
  have hlen : (set.map (deviceOf platform)).length = 2 := by
    rw [List.length_map, hlength, hcount]
  have hmatch : dimmsAcrossControllersAndChannelsMatch (set.map (deviceOf platform)) = true := by
    by_contra hno
    rw [verifyInterleaveSetRules, hacross, if_neg Bool.false_ne_true] at hok
    simp [hlen, across_controllers hinst' hdset heset hcontroller, hno] at hok
  obtain ⟨x, hx, hxchannel, hxcontroller⟩ :=
    (channels_match_iff hinst' (List.ne_nil_of_mem hdset)).mp hmatch d hdset
  -- The only other DIMM on the map is the partner.
  obtain ⟨hx6, hxc, _⟩ := dimmLocation_parts (hone.controller x (hmem x hx).1)
  have hxpair : dimmLocation x / 2 = dimmLocation d / 2 := by
    have hbit := (hmem x hx).2
    rwa [hbits _ hx6, decide_eq_true_eq] at hbit
  have hxparity : dimmLocation d % 2 ≠ dimmLocation x % 2 := by
    rw [hdc, hxc]
    exact fun heq => hxcontroller (UInt16.toNat_inj.mp heq)
  have hloc : dimmLocation x = dimmLocation e := by omega
  have hxe : x = e := List.inj_on_of_nodup_map hone.position (hmem x hx).1 he hloc
  rw [hxchannel, hxe]

end Rules

/-- `deviceDiscoveryToDimm`. -/
def deviceDiscoveryToDimm (device : DeviceDiscovery) : Dimm where
  uid := device.uid
  capacityBytes := device.capacity
  socket := device.socketId
  memoryController := device.memoryControllerId
  channel := device.channelId.toUInt32

/-- A device on each controller: on channel 0 of the first one and on a channel of the other. -/
def onePerController (channel : UInt16) : List DeviceDiscovery :=
  [{ memoryControllerId := 0, channelId := 0, serialNumber := smallSerial 1 },
    { memoryControllerId := 1, channelId := channel, serialNumber := smallSerial 2 }]

/-- The platform with these devices. -/
def onePerControllerPlatform (channel : UInt16) : Platform where
  getDevices := .ok (onePerController channel)
  getPcatRevision := .ok 1

/-- A BIOS that recommends a format for each number of ways of the planner. -/
def allWaysRecommended : SystemCapabilities where
  appDirectMode := true
  interleaveFormats := [.ways1, .ways2, .ways3, .ways4, .ways6].map fun ways =>
    { recommended := true, channel := .size4KB, imc := .size4KB, ways := ways }
  currentVolatileMode := .oneLM

/-- A library with this BIOS. -/
def allWaysLibrary : NvmLibrary where
  getPools := .ok []
  getManageableUids := .ok []
  getConfigGoal _ := .error .errNotFound
  getNvmCapabilities := .ok allWaysRecommended
  getSocket _ := .error .errNotFound
  appDirectGranularity := none

/-- The devices are installed on their platform. -/
private theorem installed_onePerController {channel : UInt16} (h : channel = 0 ∨ channel = 3) :
    ∀ d ∈ (onePerController channel).map deviceDiscoveryToDimm,
      Installed (onePerControllerPlatform channel) d := by
  have hdevice : ∀ device ∈ onePerController channel,
      stringToUid device.uid = .ok device.uid ∧
        existsAndManageable (onePerControllerPlatform channel) device.uid = .ok device := by
    rcases h with rfl | rfl
    · decide +kernel
    · decide +kernel
  intro d hd
  obtain ⟨device, hmem, rfl⟩ := List.mem_map.mp hd
  obtain ⟨huid, hfound⟩ := hdevice device hmem
  exact ⟨huid, device, hfound, rfl, rfl, UInt16.toNat_toUInt32 _ |>.symm⟩

end IxpDimm
