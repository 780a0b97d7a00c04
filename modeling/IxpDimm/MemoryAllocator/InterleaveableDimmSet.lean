import Mathlib.Tactic.IntervalCases
import IxpDimm.MemoryAllocator.Types

/-!
# The largest set of DIMMs that can be interleaved

`InterleaveableDimmSetBuilder.cpp`.  The DIMMs of a socket sit on two memory controllers with three
channels each; a position is numbered by channel and controller, and the sets that can be
interleaved are bit maps over the six positions, tried from the largest to the single DIMMs.
-/

namespace IxpDimm

namespace InterleaveableDimmSetBuilder

/-- `CHANNELS_PER_IMC`. -/
def channelsPerImc : ℕ := 3

/-- `IMCS_PER_SOCKET`. -/
def imcsPerSocket : ℕ := 2

/-- `DIMM_LOCATION`. -/
def dimmLocation (dimm : Dimm) : ℕ :=
  2 * (dimm.channel.toNat % channelsPerImc) + dimm.memoryController.toNat

/-- `DIMM_POPULATED`; C leaves the shift undefined from position 32 on. -/
def dimmPopulated (map dimmIndex : ℕ) : Bool := map.testBit dimmIndex

/-- `CLEAR_DIMM`. -/
def clearDimm (map dimmIndex : ℕ) : ℕ := map ^^^ (map &&& 2 ^ dimmIndex)

/-- `INTERLEAVE_SETS` before its end mark. -/
def interleaveSets : List ℕ :=
  [0b111111, -- x6
    0b001111, 0b111100, 0b110011, -- x4
    0b010101, 0b101010, -- x3
    0b000011, 0b001100, 0b110000, -- x2 across memory controllers
    0b000101, 0b001010, 0b010100, 0b101000, 0b010001, 0b100010, -- x2 across channels
    0b000001, 0b000010, 0b000100, 0b001000, 0b010000, 0b100000] -- x1

/-- `dimmsAreOnMultipleSockets`. -/
def dimmsAreOnMultipleSockets (dimms : List Dimm) : Bool :=
  (dimms.map Dimm.socket).dedup.length > 1

/-- `dimmsHaveValidChannelIds`. -/
def dimmsHaveValidChannelIds (dimms : List Dimm) : Bool :=
  dimms.all fun dimm => dimm.channel.toNat ≤ imcsPerSocket * channelsPerImc - 1

/-- `getDimmsFromListMatchingInterleaveSet`. -/
def getDimmsFromListMatchingInterleaveSet (dimms : List Dimm) (interleaveSetMap : ℕ) : List Dimm :=
  let interleaveSetDimms := dimms.filter fun dimm =>
    dimmPopulated interleaveSetMap (dimmLocation dimm)
  let dimmsNotFound := interleaveSetDimms.foldl (fun map dimm =>
    clearDimm map (dimmLocation dimm)) interleaveSetMap
  if dimmsNotFound ≠ 0 then [] else interleaveSetDimms

/-- `getLargestSetOfInterleavableDimms`. -/
def getLargestSetOfInterleavableDimms (dimms : List Dimm) :
    Except LayoutException (List Dimm) :=
  if dimmsAreOnMultipleSockets dimms ∨ !dimmsHaveValidChannelIds dimms then
    .error .invalidDimms
  else
    .ok (((interleaveSets.map (getDimmsFromListMatchingInterleaveSet dimms)).find?
      fun set => !set.isEmpty).getD [])

/-- The DIMMs that match a set are DIMMs of the list, in its order. -/
theorem getDimmsFromListMatchingInterleaveSet_sublist (dimms : List Dimm) (map : ℕ) :
    (getDimmsFromListMatchingInterleaveSet dimms map).Sublist dimms := by
  unfold getDimmsFromListMatchingInterleaveSet
  dsimp only
  split_ifs
  · exact List.nil_sublist _
  · exact List.filter_sublist

/-- The set found consists of DIMMs of the list, in its order. -/
theorem getLargestSetOfInterleavableDimms_sublist {dimms set : List Dimm}
    (h : getLargestSetOfInterleavableDimms dimms = .ok set) : set.Sublist dimms := by
  unfold getLargestSetOfInterleavableDimms at h
  split_ifs at h
  obtain rfl := Except.ok.inj h
  cases hfind : (interleaveSets.map (getDimmsFromListMatchingInterleaveSet dimms)).find?
      fun set => !set.isEmpty with
  | none => exact List.nil_sublist _
  | some set =>
    obtain ⟨map, -, rfl⟩ := List.mem_map.mp (List.mem_of_find?_eq_some hfind)
    exact getDimmsFromListMatchingInterleaveSet_sublist dimms map

/-- Clearing the one position of a set of one leaves nothing to find. -/
private theorem foldl_clearDimm_single {dimms : List Dimm} {i : ℕ}
    (h : ∀ d ∈ dimms, dimmLocation d = i) (hne : dimms ≠ []) :
    dimms.foldl (fun map dimm => clearDimm map (dimmLocation dimm)) (2 ^ i) = 0 := by
  have hzero : ∀ l : List Dimm,
      l.foldl (fun map dimm => clearDimm map (dimmLocation dimm)) 0 = 0 := by
    intro l
    induction l with
    | nil => rfl
    | cons d l ih => simpa [clearDimm] using ih
  cases dimms with
  | nil => exact absurd rfl hne
  | cons d dimms =>
    rw [List.foldl_cons, h d List.mem_cons_self]
    have hclear : clearDimm (2 ^ i) i = 0 := by simp [clearDimm]
    rw [hclear, hzero]

/-- A DIMM at one of the six positions matches the set of one at its position. -/
private theorem getDimmsFromListMatchingInterleaveSet_single_ne_nil {dimms : List Dimm} {d : Dimm}
    (hd : d ∈ dimms) : getDimmsFromListMatchingInterleaveSet dimms (2 ^ dimmLocation d) ≠ [] := by
  have hmem : d ∈ dimms.filter fun dimm =>
      dimmPopulated (2 ^ dimmLocation d) (dimmLocation dimm) := by
    rw [List.mem_filter]
    exact ⟨hd, by simp [dimmPopulated]⟩
  have hne := List.ne_nil_of_mem hmem
  have hclear := foldl_clearDimm_single (i := dimmLocation d) (fun e he => by
    have hbit := (List.mem_filter.mp he).2
    rw [dimmPopulated, Nat.testBit_two_pow, decide_eq_true_iff] at hbit
    exact hbit.symm) hne
  unfold getDimmsFromListMatchingInterleaveSet
  dsimp only
  rwa [hclear, if_neg (by simp)]

/-- On a list with a DIMM at one of the six positions a set is found. -/
theorem getLargestSetOfInterleavableDimms_ne_nil {dimms set : List Dimm} {d : Dimm} (hd : d ∈ dimms)
    (hlocation : dimmLocation d < 6) (h : getLargestSetOfInterleavableDimms dimms = .ok set) :
    set ≠ [] := by
  unfold getLargestSetOfInterleavableDimms at h
  split_ifs at h
  obtain rfl := Except.ok.inj h
  have hmap : 2 ^ dimmLocation d ∈ interleaveSets := by
    generalize dimmLocation d = i at hlocation
    interval_cases i <;> decide
  have hfound : ((interleaveSets.map (getDimmsFromListMatchingInterleaveSet dimms)).find?
      fun set => !set.isEmpty).isSome := by
    rw [List.find?_isSome]
    refine ⟨_, List.mem_map_of_mem hmap, ?_⟩
    simpa using getDimmsFromListMatchingInterleaveSet_single_ne_nil hd
  obtain ⟨set, hset⟩ := Option.isSome_iff_exists.mp hfound
  rw [hset]
  simpa using List.find?_some hset

end InterleaveableDimmSetBuilder

end IxpDimm
