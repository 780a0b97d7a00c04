import Mathlib.Logic.Function.Iterate
import IxpDimm.MemoryAllocator.LayoutStep

/-!
# Shrinking the capacity of a layout

`LayoutStep.cpp` takes capacity back from the goals with one routine per kind of capacity
(`shrinkAD2`, `shrinkAD1`, and `shrinkMemory` of the mapped memory limit).  The three differ only in
the field they shrink, so they are one definition here with the kind as a parameter.  An amount that
covers the whole kind eliminates it on every DIMM; a smaller amount is divided by the number of
DIMMs, rounded up, and taken off DIMM by DIMM while some of it is left.

The goals after a pass are described by the DIMMs it visits and the share it takes from each of
them: `shrinkCapacity_goals`.
-/

namespace IxpDimm

open Foundation

/-- `enum capacity_type`. -/
inductive CapacityType
  | appDirect1 | appDirect2 | twoLM | reservedAppDirectByOne
  deriving DecidableEq, Repr

namespace CapacityType

/-- The size field of a goal that a kind of capacity stands for. -/
def size : CapacityType → ConfigGoal → UInt64
  | appDirect1, goal | reservedAppDirectByOne, goal => goal.appDirect1Size
  | appDirect2, goal => goal.appDirect2Size
  | twoLM, goal => goal.memorySize

/-- Overwrite the size field of a goal that a kind of capacity stands for. -/
def setSize (type : CapacityType) (size : UInt64) (goal : ConfigGoal) : ConfigGoal :=
  match type with
  | appDirect1 | reservedAppDirectByOne => { goal with appDirect1Size := size }
  | appDirect2 => { goal with appDirect2Size := size }
  | twoLM => { goal with memorySize := size }

end CapacityType

/-- `killADIfSizeIsZero`: an App Direct extent of size zero loses its settings and its place in the
count of sets. -/
def killADIfSizeIsZero (type : CapacityType) (goal : ConfigGoal) : ConfigGoal :=
  match type with
  | .appDirect1 | .reservedAppDirectByOne =>
    if goal.appDirect1Size = 0 then
      { goal with appDirect1Settings := {}, appDirectCount := goal.appDirectCount - 1 }
    else goal
  | .appDirect2 =>
    if goal.appDirect2Size = 0 then
      { goal with appDirect2Settings := {}, appDirectCount := goal.appDirectCount - 1 }
    else goal
  | .twoLM => goal

/-- `getAD1Dimms`, `getAD2Dimms` and `get2LMDimms`. -/
def dimmsWithCapacity (type : CapacityType) (dimms : List Dimm) (goals : Goals) : List Dimm :=
  dimms.filter fun dimm => type.size (goals dimm.uid) > 0

/-- `getTotalAD1Capacity`, `getTotalAD2Capacity` and `getTotal2LMCapacity`. -/
def getTotalCapacity (type : CapacityType) (dimms : List Dimm) (goals : Goals) : UInt64 :=
  dimms.foldl (fun total dimm => total + type.size (goals dimm.uid)) 0

/-- `killAllCapacityByType`. -/
def killAllCapacityByType (type : CapacityType) (dimms : List Dimm) (goals : Goals) : Goals :=
  updateAll Dimm.uid (fun _ goal => killADIfSizeIsZero type (type.setSize 0 goal)) dimms goals

/-- `calculateCapacityToShrinkPerDimm`.  The source rounds up in double precision, which is exact
for capacities below `2 ^ 53` GiB. -/
def calculateCapacityToShrinkPerDimm (capacityToShrink : UInt64) (numDimms : ℕ) : UInt64 :=
  UInt64.ofNat ((capacityToShrink.toNat + (numDimms - 1)) / numDimms)

/-- `shrinkSize`: what is left to shrink and the new size. -/
def shrinkSize (shrinkSizeBy reduceBy size : UInt64) : UInt64 × UInt64 :=
  -- reduce each DIMM evenly if possible
  if size ≥ reduceBy ∧ shrinkSizeBy ≥ reduceBy then
    (shrinkSizeBy - reduceBy, size - reduceBy)
  -- reduce little more than needed (because of ceil/rounding up)
  else if size ≥ reduceBy ∧ shrinkSizeBy < reduceBy then
    (0, size - reduceBy)
  -- reduce more than what's available per DIMM
  else
    (shrinkSizeBy - size, 0)

/-- One pass of the loop that shrinks evenly, on what is left to shrink and the goals. -/
def shrinkDimm (type : CapacityType) (reduceBy : UInt64) (acc : UInt64 × Goals) (dimm : Dimm) :
    UInt64 × Goals :=
  if acc.1 > 0 then
    let goal := acc.2 dimm.uid
    let (left, size) := shrinkSize acc.1 reduceBy (type.size goal)
    (left, Function.update acc.2 dimm.uid (killADIfSizeIsZero type (type.setSize size goal)))
  else acc

/-- The common body of `shrinkAD2`, `shrinkAD1` and `shrinkMemory`: what is left to shrink and the
new goals. -/
def shrinkCapacity (type : CapacityType) (dimms : List Dimm) (shrinkBy : UInt64) (goals : Goals) :
    UInt64 × Goals :=
  let typeDimms := dimmsWithCapacity type dimms goals
  if shrinkBy > 0 ∧ typeDimms ≠ [] then
    let totalCapacity := getTotalCapacity type typeDimms goals
    if shrinkBy ≥ totalCapacity then
      (shrinkBy - totalCapacity, killAllCapacityByType type typeDimms goals)
    else
      let reduceBy := calculateCapacityToShrinkPerDimm shrinkBy typeDimms.length
      typeDimms.foldl (shrinkDimm type reduceBy) (shrinkBy, goals)
  else (shrinkBy, goals)

/-- `shrinkAD2`. -/
def shrinkAD2 : List Dimm → UInt64 → Goals → UInt64 × Goals := shrinkCapacity .appDirect2

/-- `shrinkAD1`. -/
def shrinkAD1 : List Dimm → UInt64 → Goals → UInt64 × Goals := shrinkCapacity .appDirect1

/-- `LayoutStepLimitTotalMappedMemory::shrinkMemory`. -/
def shrinkMemory : List Dimm → UInt64 → Goals → UInt64 × Goals := shrinkCapacity .twoLM

/-! ### What one visit does to a goal -/

/-- A share taken off a size as far as it goes. -/
def takeShare (size share : UInt64) : UInt64 := if size ≥ share then size - share else 0

/-- A visit of a shrink pass to a DIMM. -/
def reduceGoal (type : CapacityType) (share : UInt64) (goal : ConfigGoal) : ConfigGoal :=
  killADIfSizeIsZero type (type.setSize (takeShare (type.size goal) share) goal)

/-- The new size in `shrinkSize` does not depend on what is left to shrink. -/
theorem shrinkSize_snd (left reduceBy size : UInt64) :
    (shrinkSize left reduceBy size).2 = takeShare size reduceBy := by
  unfold shrinkSize takeShare
  by_cases hsize : size ≥ reduceBy
  · by_cases hleft : left ≥ reduceBy
    · simp [hsize, hleft]
    · simp [hsize, hleft, UInt64.not_le.mp hleft]
  · simp [hsize]

section Kill

variable (type : CapacityType) (goal : ConfigGoal)

@[simp] theorem killADIfSizeIsZero_memorySize :
    (killADIfSizeIsZero type goal).memorySize = goal.memorySize := by
  unfold killADIfSizeIsZero
  cases type <;> dsimp only <;> first | rfl | (split_ifs <;> rfl)

@[simp] theorem killADIfSizeIsZero_appDirect1Size :
    (killADIfSizeIsZero type goal).appDirect1Size = goal.appDirect1Size := by
  unfold killADIfSizeIsZero
  cases type <;> dsimp only <;> first | rfl | (split_ifs <;> rfl)

@[simp] theorem killADIfSizeIsZero_appDirect2Size :
    (killADIfSizeIsZero type goal).appDirect2Size = goal.appDirect2Size := by
  unfold killADIfSizeIsZero
  cases type <;> dsimp only <;> first | rfl | (split_ifs <;> rfl)

@[simp] theorem killADIfSizeIsZero_appDirect1SetId :
    (killADIfSizeIsZero type goal).appDirect1SetId = goal.appDirect1SetId := by
  unfold killADIfSizeIsZero
  cases type <;> dsimp only <;> first | rfl | (split_ifs <;> rfl)

@[simp] theorem killADIfSizeIsZero_appDirect2SetId :
    (killADIfSizeIsZero type goal).appDirect2SetId = goal.appDirect2SetId := by
  unfold killADIfSizeIsZero
  cases type <;> dsimp only <;> first | rfl | (split_ifs <;> rfl)

end Kill

/-- Taking a share off a size, over the exact integers. -/
theorem toNat_takeShare (size share : UInt64) :
    (takeShare size share).toNat = size.toNat - share.toNat := by
  unfold takeShare
  split_ifs with hle
  · exact toNat_sub_of_toNat_le (UInt64.le_iff_toNat_le.mp hle)
  · have := UInt64.lt_iff_toNat_lt.mp (UInt64.not_le.mp hle)
    rw [UInt64.toNat_zero]
    omega

/-- The size that a visit leaves, over the exact integers. -/
theorem toNat_size_reduceGoal (type : CapacityType) (share : UInt64) (goal : ConfigGoal) :
    (type.size (reduceGoal type share goal)).toNat = (type.size goal).toNat - share.toNat := by
  have h := toNat_takeShare (type.size goal) share
  cases type <;> simpa only [CapacityType.size, reduceGoal, CapacityType.setSize,
    killADIfSizeIsZero_memorySize, killADIfSizeIsZero_appDirect1Size,
    killADIfSizeIsZero_appDirect2Size] using h

/-- A visit that empties an App Direct extent takes one off the number of sets. -/
theorem appDirectCount_reduceGoal {type : CapacityType} (htype : type ≠ .twoLM) (share : UInt64)
    (goal : ConfigGoal) :
    (reduceGoal type share goal).appDirectCount =
      if takeShare (type.size goal) share = 0 then goal.appDirectCount - 1
      else goal.appDirectCount := by
  unfold reduceGoal
  generalize takeShare (type.size goal) share = size
  by_cases hzero : size = 0
  · cases type <;> simp_all [killADIfSizeIsZero, CapacityType.setSize]
  · cases type <;> simp_all [killADIfSizeIsZero, CapacityType.setSize]

/-- A goal that hands out at most what another one does, field by field. -/
structure ConfigGoal.Within (goal bound : ConfigGoal) : Prop where
  /-- No more memory. -/
  memory : goal.memorySize.toNat ≤ bound.memorySize.toNat
  /-- No larger first extent. -/
  first : goal.appDirect1Size.toNat ≤ bound.appDirect1Size.toNat
  /-- No larger second extent. -/
  second : goal.appDirect2Size.toNat ≤ bound.appDirect2Size.toNat

/-- Every goal is within itself. -/
theorem ConfigGoal.Within.refl (goal : ConfigGoal) : goal.Within goal := ⟨le_rfl, le_rfl, le_rfl⟩

/-- Being within is transitive. -/
theorem ConfigGoal.Within.trans {a b c : ConfigGoal} (hab : a.Within b) (hbc : b.Within c) :
    a.Within c :=
  ⟨hab.memory.trans hbc.memory, hab.first.trans hbc.first, hab.second.trans hbc.second⟩

/-- A goal within another one hands out at most as much. -/
theorem ConfigGoal.Within.totalGiB_le {a b : ConfigGoal} (h : a.Within b) :
    a.totalGiB ≤ b.totalGiB := by
  have h₁ := h.memory
  have h₂ := h.first
  have h₃ := h.second
  unfold ConfigGoal.totalGiB
  omega

/-- A visit only takes capacity away. -/
theorem reduceGoal_within (type : CapacityType) (share : UInt64) (goal : ConfigGoal) :
    (reduceGoal type share goal).Within goal := by
  have hle : (takeShare (type.size goal) share).toNat ≤ (type.size goal).toNat := by
    rw [toNat_takeShare]
    exact Nat.sub_le _ _
  constructor <;> cases type <;>
    simp only [reduceGoal, CapacityType.setSize, killADIfSizeIsZero_memorySize,
      killADIfSizeIsZero_appDirect1Size, killADIfSizeIsZero_appDirect2Size] <;>
    first | exact hle | exact le_rfl

/-! ### What a whole pass does to the goals -/

/-- The DIMMs the even loop visits before the amount to shrink is used up. -/
def visitedDimms (type : CapacityType) (reduceBy : UInt64) : UInt64 × Goals → List Dimm → List Dimm
  | _, [] => []
  | acc, dimm :: dimms =>
    if acc.1 > 0 then dimm :: visitedDimms type reduceBy (shrinkDimm type reduceBy acc dimm) dimms
    else []

/-- The share a shrink pass takes from each DIMM it visits; eliminating a kind of capacity takes
all there can be. -/
def shrinkShare (type : CapacityType) (dimms : List Dimm) (shrinkBy : UInt64) (goals : Goals) :
    UInt64 :=
  let typeDimms := dimmsWithCapacity type dimms goals
  if shrinkBy ≥ getTotalCapacity type typeDimms goals then 0 - 1
  else calculateCapacityToShrinkPerDimm shrinkBy typeDimms.length

/-- The DIMMs a shrink pass takes capacity from, in order. -/
def shrinkVisits (type : CapacityType) (dimms : List Dimm) (shrinkBy : UInt64) (goals : Goals) :
    List Dimm :=
  let typeDimms := dimmsWithCapacity type dimms goals
  if shrinkBy = 0 then []
  else if shrinkBy ≥ getTotalCapacity type typeDimms goals then typeDimms
  else visitedDimms type (calculateCapacityToShrinkPerDimm shrinkBy typeDimms.length)
    (shrinkBy, goals) typeDimms

/-- The goals after the even loop: the share is taken off at every visited DIMM. -/
private theorem foldl_shrinkDimm_snd (type : CapacityType) (reduceBy : UInt64) (dimms : List Dimm)
    (acc : UInt64 × Goals) :
    (dimms.foldl (shrinkDimm type reduceBy) acc).2 =
      updateAll Dimm.uid (fun _ => reduceGoal type reduceBy)
        (visitedDimms type reduceBy acc dimms) acc.2 := by
  induction dimms generalizing acc with
  | nil => rfl
  | cons d dimms ih =>
    rw [List.foldl_cons, ih, visitedDimms]
    by_cases hleft : acc.1 > 0
    · rw [if_pos hleft, updateAll_cons]
      congr 1
      rw [shrinkDimm, if_pos hleft]
      dsimp only
      rw [shrinkSize_snd]
      rfl
    · -- nothing is left to shrink, so neither this DIMM nor a later one is touched
      have hskip : shrinkDimm type reduceBy acc d = acc := by rw [shrinkDimm, if_neg hleft]
      rw [if_neg hleft, hskip]
      cases dimms with
      | nil => rfl
      | cons e dimms => rw [visitedDimms, if_neg hleft]

/-- Eliminating a kind of capacity is a visit that takes all there can be. -/
private theorem reduceGoal_max (type : CapacityType) (goal : ConfigGoal) :
    reduceGoal type (0 - 1) goal = killADIfSizeIsZero type (type.setSize 0 goal) := by
  have hzero : takeShare (type.size goal) (0 - 1) = 0 := by
    have hlt := (type.size goal).toNat_lt
    have hmax : (0 - 1 : UInt64).toNat = 2 ^ 64 - 1 := by decide
    rw [← toNat_eq_zero_iff, toNat_takeShare]
    omega
  rw [reduceGoal, hzero]

/-- The goals after a shrink pass: the share is taken off at every visited DIMM. -/
theorem shrinkCapacity_goals (type : CapacityType) (dimms : List Dimm) (shrinkBy : UInt64)
    (goals : Goals) :
    (shrinkCapacity type dimms shrinkBy goals).2 =
      updateAll Dimm.uid (fun _ => reduceGoal type (shrinkShare type dimms shrinkBy goals))
        (shrinkVisits type dimms shrinkBy goals) goals := by
  unfold shrinkCapacity shrinkShare shrinkVisits
  dsimp only
  by_cases hzero : shrinkBy = 0
  · simp [hzero]
  · have hpos : shrinkBy > 0 := UInt64.pos_iff_ne_zero.mpr hzero
    by_cases hnil : dimmsWithCapacity type dimms goals = []
    · simp [hzero, hnil, visitedDimms]
    · rw [if_pos ⟨hpos, hnil⟩, if_neg hzero]
      split_ifs with htotal
      · have hkill : (fun (_ : Dimm) goal => killADIfSizeIsZero type (type.setSize 0 goal)) =
            fun _ => reduceGoal type (0 - 1) := by
          funext _ goal
          exact (reduceGoal_max type goal).symm
        rw [killAllCapacityByType, hkill]
      · exact foldl_shrinkDimm_snd _ _ _ _

/-- A shrink pass only takes capacity away. -/
theorem shrinkCapacity_within (type : CapacityType) (dimms : List Dimm) (shrinkBy : UInt64)
    (goals : Goals) (uid : Uid) :
    ((shrinkCapacity type dimms shrinkBy goals).2 uid).Within (goals uid) := by
  rw [shrinkCapacity_goals]
  refine updateAll_forall (P := fun uid (goal : ConfigGoal) => goal.Within (goals uid)) ?_ ?_ uid
  · intro d _ goal hgoal
    exact (reduceGoal_within _ _ _).trans hgoal
  · exact fun uid => ConfigGoal.Within.refl _

end IxpDimm
