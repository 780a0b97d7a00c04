import Mathlib.Data.List.Chain
import Mathlib.Logic.Function.Basic
import Mathlib.Tactic.Common

/-!
# The error logs of the firmware

The firmware keeps four error logs, for media and thermal errors of low and high priority.  Each of
them holds the last `max_log_entries` entries, which are numbered one after the other in 16 bits.
`fw_get_fw_error_log_count` of `device_fw.c` counts the entries by the numbers of the last and the
first one, and `get_fw_error_log_sensors` of `sensor.c` adds the four counts up.

The difference of the two numbers is one less than the number of entries, and it is negative when the
numbers wrap between the first entry and the last (`fwGetFwErrorLogCount_info`).
-/

namespace IxpDimm

/-! ### The logs -/

/-- The entries of a log, by their sequence numbers.  The numbers are assigned one after the other,
and the last ones are kept. -/
structure FwErrorLog where
  /-- How many entries are kept. -/
  maxLogEntries : UInt16
  /-- The numbers of the entries. -/
  entries : List UInt16
  /-- The number of the entry that comes next. -/
  next : UInt16
  /-- Not more entries are kept. -/
  bounded : entries.length ≤ maxLogEntries.toNat
  /-- The numbers follow each other. -/
  consecutive : (entries ++ [next]).IsChain fun a b => b = a + 1

/-- `struct pt_payload_fw_log_info_data`, as far as it is read. -/
structure FwLogInfoData where
  /-- The last sequence number that was assigned. -/
  currentSequenceNumber : UInt16
  /-- The oldest sequence number that is stored. -/
  oldestSequenceNumber : UInt16
  deriving DecidableEq, Repr

namespace FwErrorLog

/-- The log with one more entry. -/
def append (log : FwErrorLog) : FwErrorLog where
  maxLogEntries := log.maxLogEntries
  entries := (log.entries ++ [log.next]).drop (log.entries.length + 1 - log.maxLogEntries.toNat)
  next := log.next + 1
  bounded := by
    rw [List.length_drop, List.length_append, List.length_singleton]
    omega
  consecutive := by
    have hlast : (log.entries ++ [log.next]).getLast? = some log.next := List.getLast?_concat
    have hall : ((log.entries ++ [log.next]) ++ [log.next + 1]).IsChain fun a b => b = a + 1 := by
      refine List.isChain_append.mpr ⟨log.consecutive, .singleton _, fun a ha b hb => ?_⟩
      rw [hlast] at ha
      rw [← Option.some.inj ha, ← Option.some.inj hb]
    have hle : log.entries.length + 1 - log.maxLogEntries.toNat ≤
        (log.entries ++ [log.next]).length := by
      rw [List.length_append, List.length_singleton]
      exact Nat.sub_le _ _
    rw [← List.drop_append_of_le_length hle]
    exact hall.drop _

/-- What the firmware says about a log, with what it says about an empty one. -/
def info (emptyInfo : FwLogInfoData) (log : FwErrorLog) : FwLogInfoData :=
  match log.entries.getLast?, log.entries.head? with
  | some current, some oldest => ⟨current, oldest⟩
  | _, _ => emptyInfo

/-- An entry that is appended is kept, if any is. -/
theorem append_entries_ne_nil {log : FwErrorLog} (h : 0 < log.maxLogEntries.toNat) :
    log.append.entries ≠ [] := by
  rw [append, ← List.length_pos_iff, List.length_drop, List.length_append, List.length_singleton]
  omega

/-- The numbers of a log that is not empty. -/
theorem info_of_ne_nil (emptyInfo : FwLogInfoData) {log : FwErrorLog} (h : log.entries ≠ []) :
    log.info emptyInfo = ⟨log.entries.getLast h, log.entries.head h⟩ := by
  rw [info, List.getLast?_eq_some_getLast h, List.head?_eq_some_head h]

/-- What is said about an empty log. -/
theorem info_of_nil (emptyInfo : FwLogInfoData) {log : FwErrorLog} (h : log.entries = []) :
    log.info emptyInfo = emptyInfo := by
  rw [info, h]
  rfl

end FwErrorLog

/-! ### Counting the entries -/

/-- `fw_get_fw_error_log_count`, with what `fw_get_fw_error_log_info_data` returns. -/
def fwGetFwErrorLogCount : Except ℤ FwLogInfoData → ℤ
  | .ok logInfo => logInfo.currentSequenceNumber.toNat - logInfo.oldestSequenceNumber.toNat
  | .error rc => rc

/-- The error logs: `DEV_FW_ERR_LOG_LOW` and `DEV_FW_ERR_LOG_HIGH` of `DEV_FW_ERR_LOG_MEDIA` and
`DEV_FW_ERR_LOG_THERMAL`. -/
inductive FwErrorLogId
  | mediaLow | mediaHigh | thermLow | thermHigh
  deriving DecidableEq, Repr

/-- `IF_SUCCESS_EXEC_AND_SUM`. -/
def ifSuccessExecAndSum (expressionResult : ℤ) (state : ℤ × UInt32) : ℤ × UInt32 :=
  let (currentRc, sum) := state
  if currentRc = 0 then
    if 0 ≤ expressionResult then (currentRc, sum + UInt32.ofInt expressionResult)
    else (expressionResult, sum)
  else (currentRc, sum)

/-- `get_fw_error_log_sensors`: the return code and `error_count`. -/
def getFwErrorLogSensors (logInfo : FwErrorLogId → Except ℤ FwLogInfoData) : ℤ × UInt32 :=
  let count := fun id => fwGetFwErrorLogCount (logInfo id)
  ifSuccessExecAndSum (count .thermHigh) (ifSuccessExecAndSum (count .thermLow)
    (ifSuccessExecAndSum (count .mediaHigh) (ifSuccessExecAndSum (count .mediaLow) (0, 0))))

/-- A failure stays a failure. -/
private theorem ifSuccessExecAndSum_fst_le (expressionResult : ℤ) {state : ℤ × UInt32}
    (h : state.1 ≤ 0) : (ifSuccessExecAndSum expressionResult state).1 ≤ 0 := by
  rw [ifSuccessExecAndSum]
  split_ifs with hrc hresult
  · exact h
  · exact Int.le_of_lt (Int.not_le.mp hresult)
  · exact h

/-- The sum fails with a negative code. -/
theorem getFwErrorLogSensors_fst_le (logInfo : FwErrorLogId → Except ℤ FwLogInfoData) :
    (getFwErrorLogSensors logInfo).1 ≤ 0 := by
  rw [getFwErrorLogSensors]
  apply ifSuccessExecAndSum_fst_le
  apply ifSuccessExecAndSum_fst_le
  apply ifSuccessExecAndSum_fst_le
  exact ifSuccessExecAndSum_fst_le _ (Int.le_refl 0)

/-- The last of numbers that follow each other. -/
private theorem toNat_getLast_of_isChain {a : UInt16} {l : List UInt16}
    (h : (a :: l).IsChain fun a b => b = a + 1) :
    ((a :: l).getLast (List.cons_ne_nil a l)).toNat = (a.toNat + l.length) % 65536 := by
  induction l generalizing a with
  | nil => exact (Nat.mod_eq_of_lt a.toNat_lt).symm
  | cons b l ih =>
    obtain ⟨rfl, hrest⟩ := List.isChain_cons_cons.mp h
    have hone : (1 : UInt16).toNat = 1 := rfl
    rw [List.getLast_cons_cons, ih hrest, UInt16.toNat_add, hone, List.length_cons]
    omega

/-- The count of a log that is not empty is one less than the number of its entries, or negative if
their numbers wrap. -/
theorem fwGetFwErrorLogCount_info (emptyInfo : FwLogInfoData) {log : FwErrorLog}
    (h : log.entries ≠ []) :
    fwGetFwErrorLogCount (.ok (log.info emptyInfo)) =
      if (log.entries.head h).toNat + log.entries.length ≤ 65536 then (log.entries.length : ℤ) - 1
      else log.entries.length - 1 - 65536 := by
  have hbounded := log.bounded
  have hmax := log.maxLogEntries.toNat_lt
  have hchain := (List.isChain_append.mp log.consecutive).1
  rw [FwErrorLog.info_of_ne_nil emptyInfo h, fwGetFwErrorLogCount]
  dsimp only
  generalize hentries : log.entries = entries at *
  cases entries with
  | nil => exact absurd rfl h
  | cons oldest entries =>
    have holdest := oldest.toNat_lt
    rw [toNat_getLast_of_isChain hchain, List.head_cons, List.length_cons] at *
    split_ifs <;> omega

/-- The count of a log that is not empty is not the number of its entries. -/
theorem fwGetFwErrorLogCount_info_ne (emptyInfo : FwLogInfoData) {log : FwErrorLog}
    (h : log.entries ≠ []) :
    fwGetFwErrorLogCount (.ok (log.info emptyInfo)) ≠ log.entries.length := by
  rw [fwGetFwErrorLogCount_info emptyInfo h]
  split_ifs <;> omega

end IxpDimm
