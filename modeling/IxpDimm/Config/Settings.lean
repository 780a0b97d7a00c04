import IxpDimm.Common.Text
import Mathlib.Data.List.GetD
import Mathlib.Data.List.Infix
import Mathlib.Data.List.TakeWhile

/-!
# Configuration settings and their bounds

The keys of the table `config`, the comparison `s_strncmp` by which the code tells them apart, and
the bounds that a setting read as an `int` is brought into.  The comparison looks at as many
characters as one of the two texts has, so it is a test for a prefix.
-/

namespace IxpDimm.Config

/-! ### Comparing texts -/

/-- A character of a C string, which is a zero byte at its end. -/
def charAt (text : List Char) (i : ℕ) : Char := text.getD i '\x00'

/-- `s_strncmp`: zero when the first `size` characters agree, otherwise the number of the first
character that differs. -/
def sStrncmp (str1 str2 : List Char) (size : ℕ) : ℤ :=
  if size = 0 then -1
  else
    let same := ((List.range size).takeWhile fun i => charAt str1 i == charAt str2 i).length
    if same = size then 0 else same + 1

/-- A loop over the first `n` numbers gets to the end when the test holds for all of them. -/
private theorem length_takeWhile_range (test : ℕ → Bool) (n : ℕ) :
    ((List.range n).takeWhile test).length = n ↔ ∀ i < n, test i = true := by
  constructor
  · intro hlen i hi
    have hall : (List.range n).takeWhile test = List.range n :=
      (List.takeWhile_prefix test).eq_of_length (by rw [hlen, List.length_range])
    exact List.takeWhile_eq_self_iff.mp hall i (List.mem_range.mpr hi)
  · intro h
    rw [List.takeWhile_eq_self_iff.mpr fun i hi => h i (List.mem_range.mp hi), List.length_range]

/-- Compared over the length of the first text, two texts agree when the first is a prefix of the
second. -/
theorem sStrncmp_eq_zero_iff {str1 str2 : List Char} (hzero : '\x00' ∉ str1) :
    sStrncmp str1 str2 str1.length = 0 ↔ str1 ≠ [] ∧ str1 <+: str2 := by
  rw [sStrncmp]
  by_cases hempty : str1.length = 0
  · have hnil : str1 = [] := List.length_eq_zero_iff.mp hempty
    rw [if_pos hempty]
    exact iff_of_false (by decide) fun h => h.1 hnil
  rw [if_neg hempty]
  dsimp only
  by_cases hsame : ((List.range str1.length).takeWhile fun i =>
      charAt str1 i == charAt str2 i).length = str1.length
  · rw [if_pos hsame]
    refine iff_of_true rfl ⟨fun hnil => hempty (by rw [hnil]; rfl), ?_⟩
    rw [length_takeWhile_range] at hsame
    rw [List.prefix_iff_getElem?]
    intro i hi
    have hi' := beq_iff_eq.mp (hsame i hi)
    rw [charAt, charAt, List.getD_eq_getElem _ _ hi, List.getD_eq_getElem?_getD] at hi'
    cases hsome : str2[i]? with
    | none =>
      rw [hsome, Option.getD_none] at hi'
      exact absurd (hi' ▸ List.getElem_mem hi) hzero
    | some c => rw [hi', hsome, Option.getD_some]
  · rw [if_neg hsame]
    refine iff_of_false (by omega) fun h => hsame ?_
    rw [length_takeWhile_range]
    intro i hi
    obtain ⟨rest, rfl⟩ := h.2
    rw [beq_iff_eq, charAt, charAt, List.getD_eq_getElem?_getD, List.getD_eq_getElem?_getD,
      List.getElem?_append_left hi]

/-! ### Keys -/

/-- `SQL_KEY_EVENT_POLLING_INTERVAL_MINUTES` -/
def keyEventPollingIntervalMinutes : List Char := "EVENT_POLLING_INTERVAL_MINUTES".toList

/-- `SQL_KEY_SUPPORT_SNAPSHOT_MAX` -/
def keySupportSnapshotMax : List Char := "SUPPORT_SNAPSHOT_MAX".toList

/-- `SQL_KEY_LOG_MAX` -/
def keyLogMax : List Char := "LOG_MAX".toList

/-- `SQL_KEY_PERFORMANCE_MONITOR_INTERVAL_MINUTES` -/
def keyPerformanceMonitorIntervalMinutes : List Char :=
  "PERFORMANCE_MONITOR_INTERVAL_MINUTES".toList

/-- `SQL_KEY_PERFORMANCE_LOG_MAX` -/
def keyPerformanceLogMax : List Char := "PERFORMANCE_LOG_MAX".toList

/-- `SQL_KEY_PERFORMANCE_LOG_TRIM_PERCENT` -/
def keyPerformanceLogTrimPercent : List Char := "PERFORMANCE_LOG_TRIM_PERCENT".toList

/-- `SQL_KEY_EVENT_LOG_TRIM_PERCENT` -/
def keyEventLogTrimPercent : List Char := "EVENT_LOG_TRIM_PERCENT".toList

/-- `SQL_KEY_EVENT_MONITOR_INTERVAL_MINUTES` -/
def keyEventMonitorIntervalMinutes : List Char := "EVENT_MONITOR_INTERVAL_MINUTES".toList

/-- `SQL_KEY_EVENT_LOG_MAX` -/
def keyEventLogMax : List Char := "EVENT_LOG_MAX".toList

/-- `SQL_KEY_PRINT_MASK` -/
def keyPrintMask : List Char := "PRINT_MASK".toList

/-- `SQL_KEY_LOG_LEVEL` -/
def keyLogLevel : List Char := "LOG_LEVEL".toList

/-! ### Bounds -/

/-- `apply_bound` -/
def applyBound (value lower upper : Int32) : Int32 :=
  let value := if value < lower then lower else value
  if upper < value then upper else value

/-- `INT_MAX` -/
def intMax : Int32 := 2147483647

/-- A branch of `apply_bound_to_config_value`: the key, a further test on the value, and the
bounds. -/
structure BoundRule where
  /-- The key that the key of the setting is compared with. -/
  key : List Char
  /-- The test on the value. -/
  applies : Int32 → Bool := fun _ => true
  /-- The lower bound. -/
  lower : Int32
  /-- The upper bound. -/
  upper : Int32

/-- The branches of `apply_bound_to_config_value`, in order. -/
def boundRules : List BoundRule :=
  [{ key := keyEventPollingIntervalMinutes, applies := (· < 1), lower := 1, upper := intMax },
    { key := keySupportSnapshotMax, lower := 0, upper := 100 },
    { key := keyLogMax, lower := 0, upper := 100000 },
    { key := keyPerformanceMonitorIntervalMinutes, applies := (· < 1), lower := 1,
      upper := intMax },
    { key := keyPerformanceLogMax, applies := (10000 < ·), lower := 0, upper := 10000 },
    { key := keyPerformanceLogTrimPercent, applies := (· < 10), lower := 10, upper := 100 },
    { key := keyEventLogTrimPercent, applies := (· < 10), lower := 10, upper := 100 },
    { key := keyEventMonitorIntervalMinutes, applies := (· < 1), lower := 1, upper := intMax },
    { key := keyEventLogMax, lower := 0, upper := 100000 }]

/-- `apply_bound_to_config_value` -/
def applyBoundToConfigValue (key : List Char) (value : Int32) : Int32 :=
  ((boundRules.find? fun rule =>
    decide (sStrncmp key rule.key key.length = 0) && rule.applies value).map fun rule =>
      applyBound value rule.lower rule.upper).getD value

/-- The branches whose key is that of the setting. -/
def rulesFor (key : List Char) : List BoundRule :=
  boundRules.filter fun rule => decide (sStrncmp key rule.key key.length = 0)

/-- Only the branches for the key of the setting matter. -/
theorem applyBoundToConfigValue_eq (key : List Char) (value : Int32) :
    applyBoundToConfigValue key value =
      (((rulesFor key).find? fun rule => rule.applies value).map fun rule =>
        applyBound value rule.lower rule.upper).getD value := by
  rw [applyBoundToConfigValue, rulesFor, List.find?_filter]
  simp only [Bool.decide_and, Bool.decide_eq_true]

/-- The size of the event log is at least zero and at most 100000. -/
theorem applyBoundToConfigValue_eventLogMax (value : Int32) :
    applyBoundToConfigValue keyEventLogMax value = applyBound value 0 100000 := by
  have hrules : rulesFor keyEventLogMax =
      [{ key := keyEventLogMax, lower := 0, upper := 100000 }] := rfl
  rw [applyBoundToConfigValue_eq, hrules]
  rfl

/-- The share that is trimmed is at least ten percent, and is bounded above only where it was
smaller. -/
theorem applyBoundToConfigValue_eventLogTrimPercent (value : Int32) :
    applyBoundToConfigValue keyEventLogTrimPercent value =
      if value < 10 then 10 else value := by
  have hrules : rulesFor keyEventLogTrimPercent =
      [{ key := keyEventLogTrimPercent, applies := (· < 10), lower := 10, upper := 100 }] := rfl
  rw [applyBoundToConfigValue_eq, hrules]
  by_cases hlt : value < 10
  · rw [if_pos hlt, List.find?_cons_of_pos (by simpa using hlt), Option.map_some, Option.getD_some,
      applyBound, if_pos hlt]
    rfl
  · rw [if_neg hlt, List.find?_cons_of_neg (by simpa using hlt)]
    rfl

/-- `get_bounded_config_value_int`, where `setting` is what `get_config_value_int` reads: the
variable keeps its value when there is no such setting. -/
def getBoundedConfigValueInt (key : List Char) (setting : Option Int32) (value : Int32) : Int32 :=
  match setting with
  | none => value
  | some read => applyBoundToConfigValue key read

/-- A setting that is there is brought into its bounds. -/
@[simp] theorem getBoundedConfigValueInt_some (key : List Char) (read value : Int32) :
    getBoundedConfigValueInt key (some read) value = applyBoundToConfigValue key read := rfl

end IxpDimm.Config
