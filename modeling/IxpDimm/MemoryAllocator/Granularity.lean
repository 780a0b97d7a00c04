import IxpDimm.ConfigFile.Tokens
import IxpDimm.MemoryAllocator.MemoryRounds

/-!
# The alignment of the persistent partition

The memory mode step moves the boundary between the volatile and the persistent partition of each
DIMM so that the persistent partition is a multiple of the configured App Direct granularity
(`GranularityLaw`).  The granularity is a setting in text.

`s_strtoull` stores the number it reads through its last argument and returns the count of
characters it consumed.  The step passes the address of its granularity there, and then assigns the
count to it: the setting `64` aligns the partition to two GiB.  The law holds exactly when the number
divides the count (`granularityLaw_iff`).
-/

namespace IxpDimm.LayoutStepMemory

open Foundation

/-! ### The law -/

/-- A memory size within the whole GiB of a DIMM that leaves a multiple of the granularity. -/
structure Granular (granularity : ℕ) (dimm : Dimm) (memorySize : UInt64) : Prop where
  /-- The memory is within the DIMM. -/
  within : memorySize.toNat ≤ wholeGiB dimm.capacityBytes
  /-- The persistent partition is a multiple of the granularity. -/
  multiple : granularity ∣ wholeGiB dimm.capacityBytes - memorySize.toNat

/-- What the alignment is to do with a granularity. -/
structure GranularityLaw (lib : NvmLibrary) (granularity : ℕ) : Prop where
  /-- The alignment of any memory goal that fits on its DIMM. -/
  aligned : ∀ (dimm : Dimm) (goal : ConfigGoal),
    goal.memorySize.toNat ≤ wholeGiB dimm.capacityBytes →
    Granular granularity dimm (getAlignedMemoryGoalSize lib dimm goal)
  /-- The memory that the step leaves on each DIMM of a request for memory. -/
  executed : ∀ (builder : LayoutBuilder) (request : MemoryAllocationRequest)
    (layout : MemoryAllocationLayout), (request.dimms.map Dimm.uid).Nodup →
    0 < request.memoryModeCapacityGiB →
    execute lib request (builder.initLayoutGoals request) = .ok () layout →
    ∀ dimm ∈ request.dimms, Granular granularity dimm (layout.goals dimm.uid).memorySize

/-! ### The granularity that is read -/

/-- At least the first digit of a numeral is consumed. -/
private theorem strtoullDigits_snd_pos {text : List Char} (h : IsNumeral text) :
    0 < (strtoullDigits text 0 0).2 := by
  obtain ⟨c, rest, rfl⟩ := List.exists_cons_of_ne_nil h.1
  have hfirst : (0 : UInt64) * 10 ≥ 0 := by decide
  have hsecond : (0 : UInt64) * 10 + toDigit c ≥ 0 * 10 := by
    rw [ge_iff_le, UInt64.le_iff_toNat_le]
    exact Nat.zero_le _
  rw [strtoullDigits, if_pos (h.2 c List.mem_cons_self), if_pos hfirst, if_pos hsecond]
  exact Nat.lt_of_lt_of_le Nat.zero_lt_one (strtoullDigits_snd_bounds _ _ _).1

section
variable {lib : NvmLibrary} {text : List Char}

/-- The granularity that the step takes from a numeral is a count of its characters: of all of them,
when the number fits in 64 bits. -/
private theorem appDirectGranularity_numeral (hconfig : lib.appDirectGranularity = some text)
    (hnumeral : IsNumeral text) (hlength : text.length < configValueLen) :
    0 < (appDirectGranularity lib).toNat ∧ (appDirectGranularity lib).toNat ≤ text.length ∧
      (numeral text < 2 ^ 64 → (appDirectGranularity lib).toNat = text.length) := by
  have hword : text ≠ "RECOMMENDED".toList := by
    rintro rfl
    exact absurd (hnumeral.2 'R' (by decide)) (by decide)
  have hread : appDirectGranularity lib = UInt64.ofNat (strtoullDigits text 0 0).2 := by
    rw [appDirectGranularity, hconfig]
    dsimp only
    rw [if_neg hword, sStrtoull_numeral hnumeral hlength.le]
  obtain ⟨-, hupper⟩ := strtoullDigits_snd_bounds text 0 0
  rw [Nat.zero_add] at hupper
  rw [configValueLen] at hlength
  rw [hread, toNat_ofNat_of_lt (by omega)]
  refine ⟨strtoullDigits_snd_pos hnumeral, hupper, fun hlt => ?_⟩
  change Nat.ofDigitChars 10 text (0 : UInt64).toNat < 2 ^ 64 at hlt
  rw [strtoullDigits_of_lt hnumeral.2 0 hlt, Nat.zero_add]

/-! ### The alignment -/

/-- The aligned partition is a multiple of the granularity that is read. -/
private theorem dvd_getAlignedPersistentPartitionCapacityGiB {persistentGiB dimmGiB : UInt64}
    (hne : appDirectGranularity lib ≠ 0)
    (hlt : persistentGiB.toNat + (appDirectGranularity lib).toNat < 2 ^ 64) :
    (appDirectGranularity lib).toNat ∣
      (getAlignedPersistentPartitionCapacityGiB lib persistentGiB dimmGiB).toNat := by
  unfold getAlignedPersistentPartitionCapacityGiB
  dsimp only
  split_ifs
  · exact dvd_toNat_roundUp hne hlt
  · exact dvd_toNat_roundDown _ hne

/-- A partition that is a multiple already stays as it is. -/
private theorem getAlignedPersistentPartitionCapacityGiB_of_dvd
    {persistentGiB dimmGiB : UInt64}
    (h : (appDirectGranularity lib).toNat ∣ persistentGiB.toNat) :
    getAlignedPersistentPartitionCapacityGiB lib persistentGiB dimmGiB = persistentGiB := by
  obtain ⟨hup, hdown⟩ := round_of_dvd h
  unfold getAlignedPersistentPartitionCapacityGiB
  dsimp only
  rw [hup, hdown, ite_self]

/-- A memory goal is aligned to the granularity that is read. -/
private theorem granular_getAlignedMemoryGoalSize {granularity : ℕ}
    (hpos : 0 < (appDirectGranularity lib).toNat)
    (hsmall : (appDirectGranularity lib).toNat < 2 ^ 34)
    (hdvd : granularity ∣ (appDirectGranularity lib).toNat) {dimm : Dimm} {goal : ConfigGoal}
    (hfits : goal.memorySize.toNat ≤ wholeGiB dimm.capacityBytes) :
    Granular granularity dimm (getAlignedMemoryGoalSize lib dimm goal) := by
  obtain ⟨persistentGiB, dimmGiB, hpersistent, -, hwithin, hmemory⟩ :=
    getAlignedMemoryGoalSize_spec lib hfits
  have hne : appDirectGranularity lib ≠ 0 := fun hzero => hpos.ne' (toNat_eq_zero_iff.mpr hzero)
  have hlt := wholeGiB_lt dimm.capacityBytes
  have haligned : (appDirectGranularity lib).toNat ∣
      (getAlignedPersistentPartitionCapacityGiB lib persistentGiB dimmGiB).toNat :=
    dvd_getAlignedPersistentPartitionCapacityGiB hne (by omega)
  refine ⟨by rw [hmemory]; exact Nat.sub_le _ _, ?_⟩
  rw [hmemory, Nat.sub_sub_self hwithin]
  exact hdvd.trans haligned

/-- A memory goal that leaves a multiple of the granularity that is read stays as it is. -/
private theorem toNat_getAlignedMemoryGoalSize_of_dvd {dimm : Dimm} {goal : ConfigGoal}
    (hfits : goal.memorySize.toNat ≤ wholeGiB dimm.capacityBytes)
    (hdvd : (appDirectGranularity lib).toNat ∣
      wholeGiB dimm.capacityBytes - goal.memorySize.toNat) :
    (getAlignedMemoryGoalSize lib dimm goal).toNat = goal.memorySize.toNat := by
  obtain ⟨persistentGiB, dimmGiB, hpersistent, -, -, hmemory⟩ :=
    getAlignedMemoryGoalSize_spec lib hfits
  rw [← hpersistent] at hdvd
  rw [hmemory, getAlignedPersistentPartitionCapacityGiB_of_dvd hdvd, hpersistent,
    Nat.sub_sub_self hfits]

/-! ### The step -/

/-- When the step succeeds on a request for memory, it has aligned memory goals. -/
private theorem execute_eq_ok {builder : LayoutBuilder} {request : MemoryAllocationRequest}
    {layout : MemoryAllocationLayout} (hnd : (request.dimms.map Dimm.uid).Nodup)
    (hrequested : 0 < request.memoryModeCapacityGiB)
    (hexecute : execute lib request (builder.initLayoutGoals request) = .ok () layout) :
    ∃ laidOut, MemoryGoals request.dimms laidOut ∧
      ∀ dimm ∈ request.dimms, (layout.goals dimm.uid).memorySize =
        getAlignedMemoryGoalSize lib dimm (laidOut dimm.uid) := by
  have hstart := (betweenRounds_initLayoutGoals builder request).memory
  have hrounds := layoutMemoryModeCapacity_rule (MemoryGoals request.dimms)
    (fun _ _ _ hgoals hlay => round_memoryGoals hnd hgoals hlay)
    (builder.initLayoutGoals request).goalUids hstart
  rw [execute, if_pos hrequested] at hexecute
  split at hexecute
  · rename_i laidOut hrun
    rw [hrun] at hrounds
    obtain ⟨-, rfl⟩ := EStateM.Result.ok.inj hexecute
    refine ⟨laidOut, hrounds, fun dimm hdimm => ?_⟩
    have happly := updateAll_apply_of_mem (h := fun dimm goal => { goal with
      memorySize := getAlignedMemoryGoalSize lib dimm goal }) hnd hdimm laidOut
    exact congrArg ConfigGoal.memorySize happly
  · split_ifs at hexecute

/-- A request for one GiB of memory on one DIMM. -/
def oneGiBRequest (gib : UInt64) : MemoryAllocationRequest where
  memoryModeCapacityGiB := 1
  dimms := [LayoutBuilder.plainDimm ['a'] gib 0 0]

/-- The request has one DIMM. -/
private theorem nodup_oneGiBRequest (gib : UInt64) :
    ((oneGiBRequest gib).dimms.map Dimm.uid).Nodup :=
  List.nodup_singleton _

/-- Memory is requested. -/
private theorem oneGiBRequest_requested (gib : UInt64) :
    0 < (oneGiBRequest gib).memoryModeCapacityGiB :=
  show (0 : UInt64) < 1 by decide

/-- The DIMM has the GiB of the request. -/
private theorem toNat_capacityBytes_plainDimm {gib : UInt64} (hlt : gib.toNat < 2 ^ 34) :
    (LayoutBuilder.plainDimm ['a'] gib 0 0).capacityBytes.toNat = 2 ^ 30 * gib.toNat :=
  toNat_configGoalSizeToBytes_of_lt hlt

/-- The whole GiB of the DIMM. -/
private theorem wholeGiB_plainDimm {gib : UInt64} (hlt : gib.toNat < 2 ^ 34) :
    wholeGiB (LayoutBuilder.plainDimm ['a'] gib 0 0).capacityBytes = gib.toNat := by
  rw [wholeGiB, toNat_capacityBytes_plainDimm hlt]
  exact Nat.mul_div_cancel_left _ (by norm_num)

/-- One GiB is laid out on a DIMM that has it, and its rest is aligned. -/
private theorem execute_oneGiBRequest (lib : NvmLibrary) {gib : UInt64} (hpos : 0 < gib.toNat)
    (hlt : gib.toNat < 2 ^ 34) :
    ∃ layout goal, execute lib (oneGiBRequest gib)
        (LayoutBuilder.plainBuilder.initLayoutGoals (oneGiBRequest gib)) = .ok () layout ∧
      goal.memorySize.toNat = 1 ∧
      (layout.goals ['a']).memorySize =
        getAlignedMemoryGoalSize lib (LayoutBuilder.plainDimm ['a'] gib 0 0) goal := by
  have hwhole := wholeGiB_plainDimm hlt
  have hcapacity : ∀ d ∈ (oneGiBRequest gib).dimms, 2 ^ 30 ≤ d.capacityBytes.toNat := by
    intro d hd
    rw [List.mem_singleton.mp hd, toNat_capacityBytes_plainDimm hlt]
    omega
  have hkeys : (LayoutBuilder.plainBuilder.initLayoutGoals (oneGiBRequest gib)).goalUids.Perm
      ((oneGiBRequest gib).dimms.map Dimm.uid) := List.Perm.refl _
  have hended := ended_layoutMemoryModeCapacity (nodup_oneGiBRequest gib) hkeys hcapacity
    (betweenRounds_initLayoutGoals LayoutBuilder.plainBuilder (oneGiBRequest gib))
  have hseen : seenGiB (oneGiBRequest gib) = 1 := rfl
  have hmemory : ∀ goals, memoryGiB (oneGiBRequest gib).dimms goals =
      (goals ['a']).memorySize.toNat := fun _ => Nat.add_zero _
  obtain ⟨laidOut, hrun, hone⟩ : ∃ laidOut, layoutMemoryModeCapacity (oneGiBRequest gib)
      (LayoutBuilder.plainBuilder.initLayoutGoals (oneGiBRequest gib)).goalUids
      (LayoutBuilder.plainBuilder.initLayoutGoals (oneGiBRequest gib)).goals = .ok () laidOut ∧
        (laidOut ['a']).memorySize.toNat = 1 := by
    generalize layoutMemoryModeCapacity _ _ _ = result at hended ⊢
    cases hended with
    | @met goals _ hmet =>
      rw [hmemory, hseen] at hmet
      exact ⟨goals, rfl, hmet⟩
    | @few goals _ hle hfew =>
      have hlength : (dimmsWithGiBFree (oneGiBRequest gib).dimms goals).length ≤ 1 :=
        List.length_filter_le _ _
      rw [hmemory, hseen] at hle hfew
      exact ⟨goals, rfl, by omega⟩
    | @full goals hless hfree =>
      -- the DIMM has a GiB free
      have hnot := List.filter_eq_nil_iff.mp hfree _ List.mem_cons_self
      rw [decide_eq_true_eq, hwhole] at hnot
      rw [hmemory, hseen] at hless
      change ¬ (goals ['a']).memorySize.toNat < gib.toNat at hnot
      omega
  refine ⟨_, laidOut ['a'],
    by rw [execute, if_pos (oneGiBRequest_requested gib), hrun], hone, ?_⟩
  have happly := updateAll_apply_of_mem (h := fun dimm goal => { goal with
    memorySize := getAlignedMemoryGoalSize lib dimm goal })
    (nodup_oneGiBRequest gib) List.mem_cons_self laidOut
  exact congrArg ConfigGoal.memorySize happly

/-- For a granularity that is set to a number: the persistent partitions are multiples of the number
exactly when it divides the count of its characters. -/
theorem granularityLaw_iff (hconfig : lib.appDirectGranularity = some text)
    (hnumeral : IsNumeral text) (hlength : text.length < configValueLen) :
    GranularityLaw lib (numeral text) ↔ numeral text ∣ text.length := by
  obtain ⟨hpos, hcount, hall⟩ := appDirectGranularity_numeral hconfig hnumeral hlength
  rw [configValueLen] at hlength
  constructor
  · intro hlaw
    -- a DIMM with one GiB of memory and a persistent partition as large as the count
    obtain ⟨gib, hgib⟩ : ∃ gib : UInt64, gib.toNat = (appDirectGranularity lib).toNat + 1 :=
      ⟨.ofNat _, toNat_ofNat_of_lt (by omega)⟩
    obtain ⟨layout, goal, hexecute, hone, hassigned⟩ :=
      execute_oneGiBRequest lib (show 0 < gib.toNat by omega) (by omega)
    have hgranular := (hlaw.executed LayoutBuilder.plainBuilder _ layout (nodup_oneGiBRequest gib)
      (oneGiBRequest_requested gib) hexecute _ List.mem_cons_self).multiple
    have hwhole := wholeGiB_plainDimm (show gib.toNat < 2 ^ 34 by omega)
    have hleaves : wholeGiB (LayoutBuilder.plainDimm ['a'] gib 0 0).capacityBytes -
        goal.memorySize.toNat = (appDirectGranularity lib).toNat := by
      omega
    change numeral text ∣ wholeGiB (LayoutBuilder.plainDimm ['a'] gib 0 0).capacityBytes -
      (layout.goals ['a']).memorySize.toNat at hgranular
    rw [hassigned, toNat_getAlignedMemoryGoalSize_of_dvd (by omega) (hleaves ▸ dvd_rfl),
      hleaves] at hgranular
    have hle := Nat.le_of_dvd hpos hgranular
    rwa [hall (by omega)] at hgranular
  · intro hdvd
    have hlt : numeral text < 2 ^ 64 := by
      have hle := Nat.le_of_dvd (hpos.trans_le hcount) hdvd
      omega
    have hread : numeral text ∣ (appDirectGranularity lib).toNat := (hall hlt).symm ▸ hdvd
    have hsmall : (appDirectGranularity lib).toNat < 2 ^ 34 := by omega
    refine ⟨fun dimm goal hfits => granular_getAlignedMemoryGoalSize hpos hsmall hread hfits, ?_⟩
    intro builder request layout hnd hrequested hexecute dimm hdimm
    obtain ⟨laidOut, hgoals, hassigned⟩ := execute_eq_ok hnd hrequested hexecute
    rw [hassigned dimm hdimm]
    exact granular_getAlignedMemoryGoalSize hpos hsmall hread (hgoals dimm hdimm).fits

end

/-- A library whose granularity is set to a text. -/
def configuredLibrary (text : List Char) : NvmLibrary :=
  { LayoutBuilder.plainLibrary with appDirectGranularity := some text }

/-- A granularity of one GiB. -/
theorem granularityLaw_one : GranularityLaw (configuredLibrary ['1']) (numeral ['1']) :=
  have hconfig : (configuredLibrary ['1']).appDirectGranularity = some ['1'] := rfl
  have hnumeral : IsNumeral ['1'] := ⟨List.cons_ne_nil _ _, List.forall_mem_singleton.mpr rfl⟩
  (granularityLaw_iff hconfig hnumeral (by decide)).mpr (by decide)

/-- A granularity of 64 GiB: two GiB are left for the persistent partition. -/
theorem not_granularityLaw_sixtyFour :
    ¬ ∀ (lib : NvmLibrary) (text : List Char), lib.appDirectGranularity = some text →
      IsNumeral text → text.length < configValueLen → 1 ≤ numeral text →
      GranularityLaw lib (numeral text) := by
  intro h
  have hnumeral : IsNumeral ['6', '4'] :=
    ⟨List.cons_ne_nil _ _, List.forall_mem_cons.mpr ⟨rfl, List.forall_mem_singleton.mpr rfl⟩⟩
  have hlaw := h (configuredLibrary ['6', '4']) ['6', '4'] rfl hnumeral (by decide) (by decide)
  have hgranular := hlaw.aligned (LayoutBuilder.plainDimm ['a'] 66 0 0) { memorySize := 64 }
    (by decide)
  exact absurd hgranular.multiple (by decide)

end IxpDimm.LayoutStepMemory
