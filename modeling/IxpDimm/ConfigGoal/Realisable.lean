import IxpDimm.Foundation.Ranges
import IxpDimm.ConfigGoal.Encode

/-!
# Goals and the layouts of their tables

The config input table of an accepted goal describes a layout of the DIMM: what is left to memory
mode, the partition for persistent memory, and for each interleave set an extent of that partition.
The layout is realisable when the two parts fit in the capacity, the extents are inside the partition
and they do not overlap.

The check of a goal and the functions that fill out its table work out the remaining capacity on
their own, and they disagree about the size that stands for all of it.  `SizesAgree` is the condition on
the goal under which the layout is realisable, and `configGoalToConfigInput_realisable_iff` says that
there is no other.
-/

namespace IxpDimm

open Foundation

/-! ### Realisable layouts -/

/-- The bytes that a goal leaves to memory mode. -/
def memoryBytes (goal : ConfigGoal) (discovery : DeviceDiscovery) : ℕ :=
  if goal.memorySize = remainingSize then (usableCapacityBytes discovery.capacity).toNat
  else 2 ^ 30 * goal.memorySize.toNat

/-- The extent of a DIMM in an interleave set, by its start and its end in the partition. -/
def DimmInfoExtensionTable.extent (dimm : DimmInfoExtensionTable) : ℕ × ℕ :=
  (dimm.offset.toNat, dimm.offset.toNat + dimm.size.toNat)

/-- The layout that a table describes is realisable on a device. -/
structure Realisable (goal : ConfigGoal) (discovery : DeviceDiscovery) (table : ConfigInputTable) :
    Prop where
  /-- Memory mode and the partition fit in the capacity. -/
  capacity : memoryBytes goal discovery + table.partitionTable.partitionSize.toNat ≤
    discovery.capacity.toNat
  /-- The extents are inside the partition. -/
  inside : ∀ set ∈ table.interleaveTables, ∀ dimm ∈ set.dimms,
    dimm.extent.2 ≤ table.partitionTable.partitionSize.toNat
  /-- The extents of different sets do not overlap. -/
  disjoint : table.interleaveTables.Pairwise fun set₁ set₂ => ∀ dimm₁ ∈ set₁.dimms,
    ∀ dimm₂ ∈ set₂.dimms, DisjointRanges dimm₁.extent dimm₂.extent

/-- A goal for which the check of the sizes and the table agree about what remains.

There is no interleave set; or the memory size is given and the first of two interleave sets does not
take all that remains.  The other cases are at the limits of 64 bits, where an extent is empty because
its size wraps. -/
def SizesAgree (goal : ConfigGoal) (discovery : DeviceDiscovery) : Prop :=
  goal.appDirectCount = 0 ∨
    (goal.memorySize ≠ remainingSize ∧
      (goal.appDirectCount = 1 ∨ goal.appDirect1Size ≠ remainingSize ∨
        (goal.appDirect1Settings.mirrored = false ∧ goal.memorySize = 0 ∧
          wholeGiB discovery.capacity = 2 ^ 34 - 1))) ∨
    (goal.memorySize = remainingSize ∧ goal.appDirectCount = 1 ∧
      (wholeGiB discovery.capacity = 2 ^ 34 - 1 ∨
        (goal.appDirect1Settings.mirrored = true ∧
          (goal.appDirect1Size.toNat = 2 ^ 63 ∨ wholeGiB discovery.capacity = 0)))) ∨
    (goal.memorySize = remainingSize ∧ goal.appDirectCount = 2 ∧
      goal.appDirect1Settings.mirrored = true ∧ goal.appDirect1Size.toNat = 2 ^ 63 ∧
      wholeGiB discovery.capacity = 2 ^ 34 - 1)

instance (goal : ConfigGoal) (discovery : DeviceDiscovery) : Decidable (SizesAgree goal discovery) :=
  inferInstanceAs (Decidable (_ ∨ _))

/-! ### The extents of a set -/

/-- A size in GiB is stored modulo `2 ^ 34`. -/
theorem toNat_mul_bytesPerGiB (size : UInt64) :
    (size * bytesPerGiB).toNat = 2 ^ 30 * (size.toNat % 2 ^ 34) := by
  have h := toNat_configGoalSizeToBytes size
  unfold configGoalSizeToBytes at h
  omega

/-- The extent of a set, in GiB. -/
def extentOf (offsetGiB sizeGiB : UInt64) : ℕ × ℕ :=
  (2 ^ 30 * (offsetGiB.toNat % 2 ^ 34),
    2 ^ 30 * (offsetGiB.toNat % 2 ^ 34) + 2 ^ 30 * (sizeGiB.toNat % 2 ^ 34))

/-- Every DIMM of a set, and there is one, has the same extent. -/
structure HasExtent (set : InterleaveInfoExtensionTable) (extent : ℕ × ℕ) : Prop where
  /-- There is a DIMM. -/
  nonempty : ∃ dimm, dimm ∈ set.dimms
  /-- The extent of the DIMMs. -/
  extent_eq : ∀ dimm ∈ set.dimms, dimm.extent = extent

/-- The table of a set has the extent that it is filled out with. -/
private theorem hasExtent_tableOfSet {platform : Platform} {qos : AppDirectAttributes}
    {devices : List DeviceDiscovery} (h : SetDevices platform qos devices)
    (sizeGiB offsetGiB : UInt64) (setId : UInt16) (tableRevision : UInt8) :
    HasExtent (tableOfSet qos sizeGiB offsetGiB setId tableRevision devices)
      (extentOf offsetGiB sizeGiB) := by
  obtain ⟨pcatRevision, -, hdevices⟩ := h
  obtain ⟨found, -, -, -, hpos, -⟩ := devicesOfSet_ok hdevices
  refine ⟨⟨_, List.mem_map_of_mem (List.getElem_mem hpos)⟩, fun dimm hdimm => ?_⟩
  obtain ⟨device, -, rfl⟩ := List.mem_map.mp hdimm
  rw [DimmInfoExtensionTable.extent, toNat_mul_bytesPerGiB, toNat_mul_bytesPerGiB, extentOf]

/-- The extent of the first interleave set. -/
private theorem hasExtent_firstTable {platform : Platform} {goal : ConfigGoal}
    {devices : List DeviceDiscovery} (h : SetDevices platform goal.appDirect1Settings devices)
    (discovery : DeviceDiscovery) (tableRevision : UInt8) :
    HasExtent (firstTable goal discovery tableRevision devices)
      (extentOf 0 (firstSetGiB goal discovery)) :=
  hasExtent_tableOfSet h _ _ _ _

/-- The extent of the second interleave set. -/
private theorem hasExtent_secondTable {platform : Platform} {goal : ConfigGoal}
    {devices : List DeviceDiscovery} (h : SetDevices platform goal.appDirect2Settings devices)
    (discovery : DeviceDiscovery) (tableRevision : UInt8) :
    HasExtent (secondTable goal discovery tableRevision devices)
      (extentOf goal.appDirect1Size (secondSetGiB goal discovery)) :=
  hasExtent_tableOfSet h _ _ _ _

/-- The extents of a set have a property exactly when its extent has it. -/
private theorem HasExtent.forall_iff {set : InterleaveInfoExtensionTable} {extent : ℕ × ℕ}
    (h : HasExtent set extent) (P : ℕ × ℕ → Prop) :
    (∀ dimm ∈ set.dimms, P dimm.extent) ↔ P extent := by
  constructor
  · intro hall
    obtain ⟨dimm, hdimm⟩ := h.nonempty
    exact h.extent_eq dimm hdimm ▸ hall dimm hdimm
  · intro hP dimm hdimm
    rw [h.extent_eq dimm hdimm]
    exact hP

/-! ### What remains -/

section Remaining

variable {goal : ConfigGoal} {discovery : DeviceDiscovery} {remaining : UInt64}

/-- With a memory size that is given, the table leaves what the check leaves to the interleave sets,
and the part of the capacity past its last whole GiB if there is no memory. -/
private theorem remaining_of_given (hgiven : goal.memorySize ≠ remainingSize)
    (h : validateInterleaveSetSize goal.memorySize (usableCapacityBytes discovery.capacity) false =
      .ok remaining) :
    remaining.toNat = 2 ^ 30 * (wholeGiB discovery.capacity - goal.memorySize.toNat) ∧
      (configGoalToPartitionExtTable goal discovery).partitionSize =
        remainingForAppDirect goal discovery ∧
      ∃ r < 2 ^ 30, (remainingForAppDirect goal discovery).toNat =
          2 ^ 30 * (wholeGiB discovery.capacity - goal.memorySize.toNat) + r ∧
        2 ^ 30 * goal.memorySize.toNat + (remainingForAppDirect goal discovery).toNat ≤
          discovery.capacity.toNat := by
  obtain ⟨hused, hrest, hsmall⟩ := validateInterleaveSetSize_ok
    (toNat_usableCapacityBytes discovery.capacity) h
  have hmemory := hsmall hgiven
  rw [if_neg (by decide)] at hmemory
  have hused' : usedGiB goal.memorySize false (wholeGiB discovery.capacity) =
      goal.memorySize.toNat := by
    rw [usedGiB, if_neg hgiven, if_neg (by decide)]
    omega
  rw [hused'] at hused hrest
  refine ⟨hrest, ?_⟩
  have hcapacity : discovery.capacity.toNat =
      2 ^ 30 * wholeGiB discovery.capacity + (reservedCapacityBytes discovery.capacity).toNat := by
    rw [toNat_reservedCapacityBytes, wholeGiB]
    omega
  have hreserved : (reservedCapacityBytes discovery.capacity).toNat < 2 ^ 30 := by
    rw [toNat_reservedCapacityBytes]
    omega
  have hbytes := toNat_mul_bytesPerGiB goal.memorySize
  rw [Nat.mod_eq_of_lt hmemory] at hbytes
  unfold configGoalToPartitionExtTable remainingForAppDirect
  by_cases hzero : goal.memorySize = 0
  · have hzero' : goal.memorySize.toNat = 0 := by rw [hzero]; rfl
    dsimp only
    rw [if_neg hgiven, if_pos hzero, if_neg (not_not.mpr hzero)]
    exact ⟨rfl, _, hreserved, by omega, by omega⟩
  · have hpartition : (usableCapacityBytes discovery.capacity -
        goal.memorySize * bytesPerGiB).toNat =
        2 ^ 30 * (wholeGiB discovery.capacity - goal.memorySize.toNat) := by
      rw [toNat_sub_of_toNat_le] <;> rw [hbytes, toNat_usableCapacityBytes] <;> omega
    have hsame : discovery.capacity - goal.memorySize * bytesPerGiB -
        reservedCapacityBytes discovery.capacity =
        usableCapacityBytes discovery.capacity - goal.memorySize * bytesPerGiB := by
      unfold usableCapacityBytes
      generalize goal.memorySize * bytesPerGiB = x
      generalize reservedCapacityBytes discovery.capacity = y
      grind
    dsimp only
    rw [if_neg hgiven, if_neg hzero, if_pos hzero, hsame]
    exact ⟨rfl, 0, by omega, by omega, by omega⟩

/-- With all capacity for memory, the check leaves nothing to the interleave sets, but the table
leaves them a GiB more than there is. -/
private theorem remaining_of_all (hall : goal.memorySize = remainingSize)
    (h : validateInterleaveSetSize goal.memorySize (usableCapacityBytes discovery.capacity) false =
      .ok remaining) :
    remaining.toNat = 0 ∧ (configGoalToPartitionExtTable goal discovery).partitionSize = 0 ∧
      (remainingForAppDirect goal discovery).toNat =
        2 ^ 30 * ((wholeGiB discovery.capacity + 1) % 2 ^ 34) := by
  obtain ⟨hused, hrest, -⟩ := validateInterleaveSetSize_ok
    (toNat_usableCapacityBytes discovery.capacity) h
  have hused' : usedGiB goal.memorySize false (wholeGiB discovery.capacity) =
      wholeGiB discovery.capacity := by
    rw [usedGiB, if_pos hall, if_neg (by decide)]
  rw [hused', Nat.sub_self, Nat.mul_zero] at hrest
  refine ⟨hrest, by rw [configGoalToPartitionExtTable, if_pos hall], ?_⟩
  have hsum : remainingForAppDirect goal discovery =
      usableCapacityBytes discovery.capacity + bytesPerGiB := by
    rw [remainingForAppDirect, if_pos (by rw [hall]; decide), hall, usableCapacityBytes]
    have hone : remainingSize * bytesPerGiB = 0 - bytesPerGiB := by decide
    rw [hone]
    generalize reservedCapacityBytes discovery.capacity = y
    generalize bytesPerGiB = z
    grind
  have hlt := wholeGiB_lt discovery.capacity
  rw [hsum, UInt64.toNat_add, toNat_usableCapacityBytes, toNat_bytesPerGiB]
  omega

/-- The sizes of the interleave sets in their tables, when some whole GiB remain. -/
private theorem setGiB_of_remaining {k r : ℕ} (hr : r < 2 ^ 30)
    (h : (remainingForAppDirect goal discovery).toNat = 2 ^ 30 * k + r) :
    (firstSetGiB goal discovery).toNat =
        (if goal.appDirect1Size = remainingSize then
          if goal.appDirect1Settings.mirrored then k / 2 else k
        else goal.appDirect1Size.toNat) ∧
      ((firstSetGiB goal discovery).toNat % 2 ^ 34 ≤ k →
        (secondSetGiB goal discovery).toNat =
          if goal.appDirect2Size = remainingSize then
            if goal.appDirect2Settings.mirrored then
              (k - (firstSetGiB goal discovery).toNat % 2 ^ 34) / 2
            else k - (firstSetGiB goal discovery).toNat % 2 ^ 34
          else goal.appDirect2Size.toNat) := by
  refine ⟨toNat_getSizeFromCapacity h hr _, fun hle => ?_⟩
  have hleft : (remainingForAppDirect goal discovery -
      firstSetGiB goal discovery * bytesPerGiB).toNat =
      2 ^ 30 * (k - (firstSetGiB goal discovery).toNat % 2 ^ 34) + r := by
    rw [toNat_sub_of_toNat_le] <;> rw [toNat_mul_bytesPerGiB, h] <;> omega
  exact toNat_getSizeFromCapacity hleft hr _

end Remaining

/-! ### Which layouts are realisable -/

section Main

variable {platform : Platform} {goal : ConfigGoal} {discovery : DeviceDiscovery}
  {capabilities : PlatformCapabilities} {seqNum : UInt32} {tableRevision : UInt8}

/-- The memory and the partition of an accepted goal fit in the capacity. -/
private theorem capacity_of_accepted
    (h : validateConfigGoal goal capabilities discovery = .success) :
    memoryBytes goal discovery +
      (configGoalToPartitionExtTable goal discovery).partitionSize.toNat ≤
        discovery.capacity.toNat := by
  obtain ⟨-, -, remaining, hmemory, -⟩ := validateConfigGoal_success h
  unfold memoryBytes
  by_cases hall : goal.memorySize = remainingSize
  · obtain ⟨-, hpartition, -⟩ := remaining_of_all hall hmemory
    rw [if_pos hall, hpartition, toNat_usableCapacityBytes, wholeGiB]
    show 2 ^ 30 * (discovery.capacity.toNat / 2 ^ 30) + 0 ≤ _
    omega
  · obtain ⟨-, hpartition, r, -, -, hle⟩ := remaining_of_given hall hmemory
    rw [if_neg hall, hpartition]
    exact hle

/-- The layout of one interleave set. -/
private theorem realisable_one_iff {partition : PartitionSizeChangeExtensionTable}
    {set : InterleaveInfoExtensionTable} {extent : ℕ × ℕ}
    (hcapacity : memoryBytes goal discovery + partition.partitionSize.toNat ≤
      discovery.capacity.toNat) (hset : HasExtent set extent) :
    Realisable goal discovery ⟨tableRevision, seqNum, partition, [set]⟩ ↔
      extent.2 ≤ partition.partitionSize.toNat := by
  have hinside := hset.forall_iff fun e => e.2 ≤ partition.partitionSize.toNat
  constructor
  · intro hreal
    exact hinside.mp (hreal.inside set List.mem_cons_self)
  · intro hle
    refine ⟨hcapacity, fun set' hmem => ?_, List.pairwise_singleton _ _⟩
    obtain rfl := List.mem_singleton.mp hmem
    exact hinside.mpr hle

/-- The layout of two interleave sets. -/
private theorem realisable_two_iff {partition : PartitionSizeChangeExtensionTable}
    {set₁ set₂ : InterleaveInfoExtensionTable} {extent₁ extent₂ : ℕ × ℕ}
    (hcapacity : memoryBytes goal discovery + partition.partitionSize.toNat ≤
      discovery.capacity.toNat) (hset₁ : HasExtent set₁ extent₁) (hset₂ : HasExtent set₂ extent₂) :
    Realisable goal discovery ⟨tableRevision, seqNum, partition, [set₁, set₂]⟩ ↔
      extent₁.2 ≤ partition.partitionSize.toNat ∧ extent₂.2 ≤ partition.partitionSize.toNat ∧
        DisjointRanges extent₁ extent₂ := by
  have hinside₁ := hset₁.forall_iff fun e => e.2 ≤ partition.partitionSize.toNat
  have hinside₂ := hset₂.forall_iff fun e => e.2 ≤ partition.partitionSize.toNat
  have hdisjoint : (∀ dimm₁ ∈ set₁.dimms, ∀ dimm₂ ∈ set₂.dimms,
      DisjointRanges dimm₁.extent dimm₂.extent) ↔ DisjointRanges extent₁ extent₂ := by
    rw [← hset₁.forall_iff fun e => DisjointRanges e extent₂]
    exact forall_congr' fun dimm₁ => imp_congr_right fun _ => hset₂.forall_iff _
  constructor
  · intro hreal
    exact ⟨hinside₁.mp (hreal.inside set₁ List.mem_cons_self),
      hinside₂.mp (hreal.inside set₂ (List.mem_cons_of_mem _ List.mem_cons_self)),
      hdisjoint.mp ((List.pairwise_cons.mp hreal.disjoint).1 set₂ List.mem_cons_self)⟩
  · rintro ⟨hle₁, hle₂, hapart⟩
    refine ⟨hcapacity, fun set hmem => ?_, ?_⟩
    · rcases List.mem_cons.mp hmem with rfl | hmem
      · exact hinside₁.mpr hle₁
      · obtain rfl := List.mem_singleton.mp hmem
        exact hinside₂.mpr hle₂
    · refine List.pairwise_cons.mpr ⟨fun set hmem => ?_, List.pairwise_singleton _ _⟩
      obtain rfl := List.mem_singleton.mp hmem
      exact hdisjoint.mpr hapart

/-- The size that stands for all that remains, as a number. -/
private theorem eq_remainingSize_iff (size : UInt64) :
    size = remainingSize ↔ size.toNat = 2 ^ 64 - 1 :=
  UInt64.toNat_inj.symm

/-- The extent of one interleave set is in the partition exactly when the check and the table
agree. -/
private theorem inside_one_iff (h : validateConfigGoal goal capabilities discovery = .success)
    (hcount : goal.appDirectCount = 1) :
    (extentOf 0 (firstSetGiB goal discovery)).2 ≤
        (configGoalToPartitionExtTable goal discovery).partitionSize.toNat ↔
      SizesAgree goal discovery := by
  obtain ⟨-, -, remaining, hmemory, rest, hsets⟩ := validateConfigGoal_success h
  rw [ConfigGoal.appDirectSets, hcount] at hsets
  obtain ⟨hpos, left, hset, -⟩ := validateAppDirectSizes_cons_ok hsets
  have hpos' : goal.appDirect1Size.toNat ≠ 0 := fun hzero => hpos (UInt64.toNat_inj.mp hzero)
  have hzero : (0 : UInt64).toNat = 0 := rfl
  have hlt := goal.appDirect1Size.toNat_lt
  have hU := wholeGiB_lt discovery.capacity
  unfold extentOf
  dsimp only
  by_cases hall : goal.memorySize = remainingSize
  · obtain ⟨hremaining, hpartition, hleft⟩ := remaining_of_all hall hmemory
    obtain ⟨hfirst, -⟩ := setGiB_of_remaining (r := 0) (by omega) hleft
    obtain ⟨hused, -, hsmall⟩ := validateInterleaveSetSize_ok (k := 0) hremaining hset
    have hagree : SizesAgree goal discovery ↔ wholeGiB discovery.capacity = 2 ^ 34 - 1 ∨
        (goal.appDirect1Settings.mirrored = true ∧
          (goal.appDirect1Size.toNat = 2 ^ 63 ∨ wholeGiB discovery.capacity = 0)) := by
      simp [SizesAgree, hcount, hall]
    rw [hagree, hpartition, hfirst, hzero]
    replace hsmall := or_iff_not_imp_left.mpr hsmall
    unfold usedGiB at hused
    simp only [eq_remainingSize_iff] at hused hsmall ⊢
    cases hmirrored : goal.appDirect1Settings.mirrored <;>
      simp only [hmirrored, Bool.false_eq_true, if_true, if_false, true_and, false_and, or_false]
        at hused hsmall ⊢ <;>
      split_ifs at hused ⊢ <;> omega
  · obtain ⟨hremaining, hpartition, r, hr, hleft, -⟩ := remaining_of_given hall hmemory
    obtain ⟨hfirst, -⟩ := setGiB_of_remaining hr hleft
    obtain ⟨hused, -, -⟩ := validateInterleaveSetSize_ok hremaining hset
    have hagree : SizesAgree goal discovery := Or.inr (Or.inl ⟨hall, Or.inl hcount⟩)
    refine iff_of_true ?_ hagree
    rw [hpartition, hleft, hfirst, hzero]
    unfold usedGiB at hused
    split_ifs at hused ⊢ <;> omega

/-- Not both of two interleave sets of an accepted goal are mirrored. -/
private theorem mirrored_of_accepted (hcount : goal.appDirectCount = 2)
    (h : getNumberOfMirroredAppDirectInterleaveSets goal ≤ 1) :
    goal.appDirect1Settings.mirrored = false ∨ goal.appDirect2Settings.mirrored = false := by
  unfold getNumberOfMirroredAppDirectInterleaveSets at h
  rw [hcount] at h
  cases hfirst : goal.appDirect1Settings.mirrored with
  | false => exact Or.inl rfl
  | true =>
    cases hsecond : goal.appDirect2Settings.mirrored with
    | false => exact Or.inr rfl
    | true =>
      rw [hfirst, hsecond] at h
      exact absurd h (by decide)

/-- Where nothing remains, the only size that can be given is one that wraps to nothing when it is
doubled for a mirror. -/
private theorem wraps_of_none_left {size remaining rest : UInt64} {mirrored : Bool}
    (hremaining : remaining.toNat = 2 ^ 30 * 0) (hpos : size ≠ 0) (hgiven : size ≠ remainingSize)
    (h : validateInterleaveSetSize size remaining mirrored = .ok rest) :
    mirrored = true ∧ size.toNat = 2 ^ 63 := by
  have hpos' : size.toNat ≠ 0 := fun hzero => hpos (UInt64.toNat_inj.mp hzero)
  have hlt := size.toNat_lt
  obtain ⟨hused, -, hsmall⟩ := validateInterleaveSetSize_ok hremaining h
  replace hsmall := hsmall hgiven
  rw [usedGiB, if_neg hgiven] at hused
  cases mirrored with
  | false =>
    simp only [Bool.false_eq_true, if_false] at hused hsmall
    omega
  | true =>
    simp only [if_true] at hused hsmall
    exact ⟨rfl, by omega⟩

/-- Of two interleave sets, with all capacity for memory. -/
private theorem inside_two_iff_of_all
    (h : validateConfigGoal goal capabilities discovery = .success)
    (hcount : goal.appDirectCount = 2) (hall : goal.memorySize = remainingSize) :
    ((extentOf 0 (firstSetGiB goal discovery)).2 ≤
          (configGoalToPartitionExtTable goal discovery).partitionSize.toNat ∧
        (extentOf goal.appDirect1Size (secondSetGiB goal discovery)).2 ≤
          (configGoalToPartitionExtTable goal discovery).partitionSize.toNat ∧
        DisjointRanges (extentOf 0 (firstSetGiB goal discovery))
          (extentOf goal.appDirect1Size (secondSetGiB goal discovery))) ↔
      SizesAgree goal discovery := by
  obtain ⟨-, hmirrors, remaining, hmemory, rest, hsets⟩ := validateConfigGoal_success h
  replace hmirrors := mirrored_of_accepted hcount hmirrors
  rw [ConfigGoal.appDirectSets, hcount] at hsets
  obtain ⟨hpos₁, left, hset₁, hsets⟩ := validateAppDirectSizes_cons_ok hsets
  obtain ⟨hpos₂, left₂, hset₂, -⟩ := validateAppDirectSizes_cons_ok hsets
  obtain ⟨hremaining, hpartition, hleft⟩ := remaining_of_all hall hmemory
  obtain ⟨hfirst, hsecond⟩ := setGiB_of_remaining (r := 0) (by omega) hleft
  obtain ⟨-, hrest, -⟩ := validateInterleaveSetSize_ok (k := 0) hremaining hset₁
  rw [Nat.zero_sub] at hrest
  have hagree : SizesAgree goal discovery ↔ goal.appDirect1Settings.mirrored = true ∧
      goal.appDirect1Size.toNat = 2 ^ 63 ∧ wholeGiB discovery.capacity = 2 ^ 34 - 1 := by
    simp [SizesAgree, hcount, hall]
  have hzero : (0 : UInt64).toNat = 0 := rfl
  have hU := wholeGiB_lt discovery.capacity
  unfold extentOf DisjointRanges
  dsimp only
  rw [hagree, hpartition, hzero]
  by_cases hgiven₁ : goal.appDirect1Size = remainingSize
  · -- the second set starts at the size that stands for all that remains
    rw [eq_remainingSize_iff] at hgiven₁
    refine iff_of_false (fun hinside => ?_) (fun hsome => ?_)
    · have := hinside.2.1
      omega
    · omega
  · obtain ⟨hmirrored, hwraps⟩ := wraps_of_none_left hremaining hpos₁ hgiven₁ hset₁
    rw [if_neg hgiven₁, hwraps] at hfirst
    have hsecond' := hsecond (by rw [hfirst]; omega)
    have hnot : goal.appDirect2Settings.mirrored = false :=
      hmirrors.resolve_left (by rw [hmirrored]; decide)
    by_cases hgiven₂ : goal.appDirect2Size = remainingSize
    · rw [if_pos hgiven₂, hnot, if_neg (by decide)] at hsecond'
      simp only [hmirrored, true_and]
      omega
    · have := (wraps_of_none_left hrest hpos₂ hgiven₂ hset₂).1
      rw [hnot] at this
      cases this

/-- Of two interleave sets, with a memory size that is given. -/
private theorem inside_two_iff_of_given
    (h : validateConfigGoal goal capabilities discovery = .success)
    (hcount : goal.appDirectCount = 2) (hgiven : goal.memorySize ≠ remainingSize) :
    ((extentOf 0 (firstSetGiB goal discovery)).2 ≤
          (configGoalToPartitionExtTable goal discovery).partitionSize.toNat ∧
        (extentOf goal.appDirect1Size (secondSetGiB goal discovery)).2 ≤
          (configGoalToPartitionExtTable goal discovery).partitionSize.toNat ∧
        DisjointRanges (extentOf 0 (firstSetGiB goal discovery))
          (extentOf goal.appDirect1Size (secondSetGiB goal discovery))) ↔
      SizesAgree goal discovery := by
  obtain ⟨-, hmirrors, remaining, hmemory, rest, hsets⟩ := validateConfigGoal_success h
  replace hmirrors := mirrored_of_accepted hcount hmirrors
  rw [ConfigGoal.appDirectSets, hcount] at hsets
  obtain ⟨-, left, hset₁, hsets⟩ := validateAppDirectSizes_cons_ok hsets
  obtain ⟨hpos₂, left₂, hset₂, -⟩ := validateAppDirectSizes_cons_ok hsets
  have hpos₂' : goal.appDirect2Size.toNat ≠ 0 := fun hzero => hpos₂ (UInt64.toNat_inj.mp hzero)
  obtain ⟨hremaining, hpartition, r, hr, hleft, -⟩ := remaining_of_given hgiven hmemory
  obtain ⟨hfirst, hsecond⟩ := setGiB_of_remaining hr hleft
  obtain ⟨hused₁, hrest, -⟩ := validateInterleaveSetSize_ok hremaining hset₁
  obtain ⟨hused₂, -, hsmall₂⟩ := validateInterleaveSetSize_ok hrest hset₂
  have hzero : (0 : UInt64).toNat = 0 := rfl
  have hU := wholeGiB_lt discovery.capacity
  have hfits : (firstSetGiB goal discovery).toNat % 2 ^ 34 ≤
      wholeGiB discovery.capacity - goal.memorySize.toNat := by
    rw [hfirst]
    unfold usedGiB at hused₁
    split_ifs at hused₁ ⊢ <;> omega
  replace hsecond := hsecond hfits
  unfold extentOf DisjointRanges
  dsimp only
  rw [hpartition, hleft, hzero]
  by_cases hgiven₁ : goal.appDirect1Size = remainingSize
  · -- the second set starts at the last GiB of 64 bits and has to be empty
    have hagree : SizesAgree goal discovery ↔ goal.appDirect1Settings.mirrored = false ∧
        goal.memorySize = 0 ∧ wholeGiB discovery.capacity = 2 ^ 34 - 1 := by
      simp [SizesAgree, hcount, hgiven, hgiven₁]
    have hmemory₀ : goal.memorySize = 0 ↔ goal.memorySize.toNat = 0 := UInt64.toNat_inj.symm
    have hlast := (eq_remainingSize_iff _).mp hgiven₁
    have hused : usedGiB goal.appDirect1Size goal.appDirect1Settings.mirrored
        (wholeGiB discovery.capacity - goal.memorySize.toNat) =
        if goal.appDirect1Settings.mirrored then
          2 * ((wholeGiB discovery.capacity - goal.memorySize.toNat) / 2)
        else wholeGiB discovery.capacity - goal.memorySize.toNat := by
      rw [usedGiB, if_pos hgiven₁]
    rw [if_pos hgiven₁] at hfirst
    rw [hfirst] at hsecond ⊢
    rw [hused] at hused₂
    rw [hagree, hmemory₀]
    unfold usedGiB at hused₂
    cases hmirrored : goal.appDirect1Settings.mirrored with
    | false =>
      simp only [hmirrored, Bool.false_eq_true, if_false] at hused₂ hsecond
      have hempty : (secondSetGiB goal discovery).toNat % 2 ^ 34 = 0 := by
        rw [hsecond]
        split_ifs at hused₂ ⊢ <;> omega
      simp only [Bool.false_eq_true, if_false, true_and]
      omega
    | true =>
      have hnot : goal.appDirect2Settings.mirrored = false :=
        hmirrors.resolve_left (by rw [hmirrored]; decide)
      simp only [hmirrored, hnot, Bool.false_eq_true, if_false, if_true] at hsecond hsmall₂
      refine iff_of_false (fun hinside => ?_) (fun hnone => Bool.noConfusion hnone.1)
      have hend := hinside.2.1
      split_ifs at hsecond with hgiven₂
      · omega
      · have := hsmall₂ hgiven₂
        omega
  · have hagree : SizesAgree goal discovery := Or.inr (Or.inl ⟨hgiven, Or.inr (Or.inl hgiven₁)⟩)
    refine iff_of_true ?_ hagree
    rw [if_neg hgiven₁] at hfirst
    rw [hfirst] at hsecond hfits ⊢
    have hused : goal.appDirect1Size.toNat % 2 ^ 34 ≤
        usedGiB goal.appDirect1Size goal.appDirect1Settings.mirrored
          (wholeGiB discovery.capacity - goal.memorySize.toNat) := by
      rw [usedGiB, if_neg hgiven₁]
      split_ifs <;> omega
    generalize usedGiB goal.appDirect1Size goal.appDirect1Settings.mirrored
      (wholeGiB discovery.capacity - goal.memorySize.toNat) = used at hused hused₁ hused₂
    have hsecond' : (secondSetGiB goal discovery).toNat % 2 ^ 34 ≤
        wholeGiB discovery.capacity - goal.memorySize.toNat -
          goal.appDirect1Size.toNat % 2 ^ 34 := by
      rw [hsecond]
      unfold usedGiB at hused₂
      split_ifs at hused₂ ⊢ <;> omega
    omega

end Main

/-- The table of an accepted goal describes a realisable layout exactly when the check and the table
agree about what remains. -/
theorem configGoalToConfigInput_realisable_iff {platform : Platform} {goal : ConfigGoal}
    {capabilities : PlatformCapabilities} {discovery : DeviceDiscovery} {seqNum : UInt32}
    {tableRevision : UInt8} {table : ConfigInputTable}
    (hvalid : validateConfigGoal goal capabilities discovery = .success)
    (htable : configGoalToConfigInput platform goal discovery seqNum tableRevision = .ok table) :
    Realisable goal discovery table ↔ SizesAgree goal discovery := by
  have hcapacity := capacity_of_accepted hvalid
  obtain ⟨tables, htables, rfl⟩ := configGoalToConfigInput_ok htable
  cases htables with
  | none hcount =>
    refine iff_of_true ⟨hcapacity, ?_, List.Pairwise.nil⟩ (Or.inl hcount)
    intro set hset
    cases hset
  | one hcount hdevices =>
    rw [realisable_one_iff hcapacity (hasExtent_firstTable hdevices _ _)]
    exact inside_one_iff hvalid hcount
  | two hcount hdevices₁ hdevices₂ =>
    have htwo : goal.appDirectCount = 2 := by
      have hle := UInt16.le_iff_toNat_le.mp (validateConfigGoal_success hvalid).1
      have hlt := UInt16.lt_iff_toNat_lt.mp hcount
      exact UInt16.toNat_inj.mp (Nat.le_antisymm hle hlt)
    rw [realisable_two_iff hcapacity (hasExtent_firstTable hdevices₁ _ _)
      (hasExtent_secondTable hdevices₂ _ _)]
    by_cases hall : goal.memorySize = remainingSize
    · exact inside_two_iff_of_all hvalid htwo hall
    · exact inside_two_iff_of_given hvalid htwo hall

/-! ### One DIMM on its own -/

/-- A DIMM of 4 GiB. -/
def soloDevice : DeviceDiscovery where
  vendorId := 0x8086
  serialNumber := #v[0x12, 0x34, 0x56, 0x78]
  capacity := 4294967296
  deviceCapabilities := ⟨true, true⟩

/-- A platform with that DIMM only. -/
def soloPlatform : Platform := ⟨.ok [soloDevice], .ok 1⟩

/-- Settings of an interleave set of that DIMM. -/
def soloSettings : AppDirectAttributes where
  interleave := ⟨false, .size4KB, .size4KB, .ways1⟩
  dimms := [soloDevice.uid]

/-- A goal for that DIMM with one interleave set. -/
def soloGoal (memorySize appDirectSize : UInt64) : ConfigGoal where
  memorySize := memorySize
  appDirectCount := 1
  appDirect1Size := appDirectSize
  appDirect1SetId := 1
  appDirect1Settings := soloSettings

/-- The table of such a goal. -/
def soloTable (memorySize appDirectSize : UInt64) : ConfigInputTable :=
  ⟨1, 1, configGoalToPartitionExtTable (soloGoal memorySize appDirectSize) soloDevice,
    [firstTable (soloGoal memorySize appDirectSize) soloDevice 1 [soloDevice]]⟩

/-- A goal that leaves a GiB to memory mode and takes the rest has a realisable layout. -/
theorem configGoalToConfigInput_realisable_solo :
    Realisable (soloGoal 1 remainingSize) soloDevice (soloTable 1 remainingSize) := by
  have hvalid : validateConfigGoal (soloGoal 1 remainingSize) {} soloDevice = .success := by
    decide +kernel
  have htable : configGoalToConfigInput soloPlatform (soloGoal 1 remainingSize) soloDevice 1 1 =
      .ok (soloTable 1 remainingSize) := by
    decide +kernel
  exact (configGoalToConfigInput_realisable_iff hvalid htable).mpr (by decide +kernel)

/-- A goal that leaves all capacity to memory mode and all that remains to an interleave set is
accepted, and its interleave set is larger than the DIMM. -/
theorem configGoalToConfigInput_not_realisable :
    ¬ ∀ (platform : Platform) (goal : ConfigGoal) (capabilities : PlatformCapabilities)
      (discovery : DeviceDiscovery) (seqNum : UInt32) (tableRevision : UInt8)
      (table : ConfigInputTable),
      validateConfigGoal goal capabilities discovery = .success →
      configGoalToConfigInput platform goal discovery seqNum tableRevision = .ok table →
      Realisable goal discovery table := by
  intro hall
  have hreal := hall soloPlatform (soloGoal remainingSize remainingSize) {} soloDevice 1 1
    (soloTable remainingSize remainingSize) (by decide +kernel) (by decide +kernel)
  have hinside := hreal.inside _ List.mem_cons_self _ List.mem_cons_self
  exact absurd hinside (by decide +kernel)

end IxpDimm
