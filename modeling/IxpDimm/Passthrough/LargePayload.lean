import IxpDimm.Common.ReturnCode
import IxpDimm.Foundation.ByteMemory
import IxpDimm.Foundation.Tiling
import IxpDimm.Foundation.WhileLoop

/-!
# Large payloads through the mailboxes of the BIOS

`bios_write_large_payload` and `bios_read_large_payload` of `lnx_adapter_passthrough.c`.  A payload is
moved in chunks of `rw_size` bytes, each with a command to the driver; the sizes come from the BIOS.

What the driver library does with the commands is a parameter.  A command that succeeds moves exactly
the bytes of its chunk.  `LargePayloadMoved` says of a call what its callers rely on, and
`ChunksFit` of which sizes it holds.
-/

namespace IxpDimm

open Foundation

/-! ### Errors of the driver -/

/-- `linux_err_to_nvm_lib_err`; only negative numbers are errors. -/
def linuxErrToNvmLibErr (crbdErr : Int) : ReturnCode :=
  if crbdErr < 0 then
    if crbdErr = -13 then .errInvalidPermissions
    else if crbdErr = -9 then .errBadDevice
    else if crbdErr = -16 then .errDeviceBusy
    else if crbdErr = -14 then .errUnknown
    else if crbdErr = -22 then .errDriverFailed
    else if crbdErr = -19 then .errBadDevice
    else if crbdErr = -12 then .errNoMemory
    else if crbdErr = -28 then .errBadSize
    else if crbdErr = -25 then .errUnknown
    else if crbdErr = -1 then .errBadSecurityState
    else .errDriverFailed
  else .success

/-- `fw_mb_err_to_nvm_lib_err`, on the code of the mailbox. -/
def fwMbErrToNvmLibErr (extendedError : ℕ) : ReturnCode :=
  match extendedError with
  | 0x00 => .errTimeout
  | 0x01 => .errInvalidParameter
  | 0x02 => .errDataTransferError
  | 0x04 => .errNotSupported
  | 0x05 => .errDeviceBusy
  | 0x06 => .errBadPassphrase
  | 0x07 => .errBadFirmware
  | 0x08 => .errBadSecurityState
  | 0x0D => .errBadFirmware
  | 0x0E => .errNotSupported
  | 0x0F => .errNotSupported
  | 0x11 => .errNotSupported
  | 0x12 => .errDeviceBusy
  | 0x15 => .errFwAlreadyStaged
  | _ => .errDeviceError

/-- `dsm_err_to_nvm_lib_err`. -/
def dsmErrToNvmLibErr (status : UInt32) : ReturnCode :=
  if status = 0 then .success
  else
    match status.toNat % 2 ^ 16 with
    | 1 => .errNotSupported
    | 2 => .errBadDevice
    | 3 => .errUnknown
    | 4 => .errDeviceError
    | 5 => .errTimeout
    | 6 => .errUnknown
    | 7 => fwMbErrToNvmLibErr (status.toNat / 2 ^ 16)
    | _ => .errDriverFailed

/-! ### Commands -/

/-- What the driver library does with the command for a chunk. -/
structure CommandOutcome where
  /-- There is memory for the input. -/
  allocated : Bool := true
  /-- `ndctl_dimm_cmd_new_vendor_specific` yields a command. -/
  created : Bool := true
  /-- `ndctl_cmd_vendor_set_input` takes the whole input. -/
  inputSet : Bool := true
  /-- What `ndctl_cmd_submit` returns. -/
  submitStatus : Int := 0
  /-- What `ndctl_cmd_get_firmware_status` returns. -/
  firmwareStatus : UInt32 := 0
  /-- `ndctl_cmd_vendor_get_output` returns the whole output. -/
  outputRead : Bool := true
  deriving DecidableEq, Repr

/-- The command for a chunk of `bios_write_large_payload`: the return code, and whether the offset is
moved on. -/
def submitWrite (outcome : CommandOutcome) : ReturnCode × Bool :=
  if ¬ outcome.allocated then (.errNoMemory, false)
  else if ¬ outcome.created then (.errDriverFailed, false)
  else if ¬ outcome.inputSet then (.errDriverFailed, false)
  else if outcome.submitStatus = 0 then
    if outcome.firmwareStatus ≠ 0 then (dsmErrToNvmLibErr outcome.firmwareStatus, false)
    else (.success, true)
  else (linuxErrToNvmLibErr outcome.submitStatus, false)

/-- The command for a chunk of `bios_read_large_payload`; it is submitted even if its input was not
taken. -/
def submitRead (outcome : CommandOutcome) : ReturnCode × Bool :=
  if ¬ outcome.allocated then (.errNoMemory, false)
  else if ¬ outcome.created then (.errDriverFailed, false)
  else if outcome.submitStatus = 0 then
    if outcome.firmwareStatus ≠ 0 then (dsmErrToNvmLibErr outcome.firmwareStatus, false)
    else if ¬ outcome.outputRead then (.errDriverFailed, false)
    else if outcome.inputSet then (.success, true)
    else (.errDriverFailed, true)
  else (linuxErrToNvmLibErr outcome.submitStatus, false)

/-! ### The loops -/

/-- A chunk, and whether it was moved. -/
structure Chunk where
  /-- The offset of the chunk. -/
  offset : UInt32
  /-- Its size. -/
  size : UInt32
  /-- Whether the command for it succeeded. -/
  moved : Bool
  deriving DecidableEq, Repr

/-- The local variables of the loops, the block that is written to, and the chunks so far. -/
structure ChunkState where
  /-- `current_offset`. -/
  currentOffset : UInt32
  /-- `transfer_size`. -/
  transferSize : UInt32
  /-- `rc`. -/
  rc : ReturnCode
  /-- The mailbox, or the buffer of the caller. -/
  target : Bytes
  /-- The chunks, first to last. -/
  chunks : List Chunk

/-- What a call returns, writes and submits. -/
structure PayloadResult where
  /-- The return code. -/
  rc : ReturnCode
  /-- The mailbox, or the buffer of the caller. -/
  target : Bytes
  /-- The chunks, first to last. -/
  chunks : List Chunk

/-- One pass of the loops.  The sum of the offset and `rw_size` is a 32-bit number. -/
def moveChunk (submit : CommandOutcome → ReturnCode × Bool) (driver : ℕ → CommandOutcome)
    (source : Bytes) (payloadSize rwSize : UInt32) (s : ChunkState) :
    ChunkState ⊕ PayloadResult :=
  if s.currentOffset < payloadSize ∧ s.rc = .success then
    let transferSize :=
      if s.currentOffset + rwSize > payloadSize then payloadSize - s.currentOffset
      else s.transferSize
    let (rc, moved) := submit (driver s.chunks.length)
    .inl {
      currentOffset := if moved then s.currentOffset + transferSize else s.currentOffset
      transferSize := transferSize
      rc := rc
      target := if moved then copy s.target s.currentOffset.toNat transferSize.toNat
          (view source s.currentOffset.toNat) else s.target
      chunks := s.chunks ++ [⟨s.currentOffset, transferSize, moved⟩] }
  else .inr ⟨if s.currentOffset ≠ payloadSize then .errUnknown else s.rc, s.target, s.chunks⟩

/-- The part that the calls share, from the size of their mailbox on. -/
def moveLargePayload (submit : CommandOutcome → ReturnCode × Bool) (fuel : ℕ)
    (driver : ℕ → CommandOutcome) (mailboxSize payloadSize rwSize : UInt32) (source target : Bytes) :
    Option PayloadResult :=
  if mailboxSize < payloadSize then some ⟨.errBadSize, target, []⟩
  else runLoop (moveChunk submit driver source payloadSize rwSize) fuel ⟨0, rwSize, .success, target, []⟩

/-- `struct pt_bios_get_size`. -/
structure PtBiosGetSize where
  /-- `large_input_payload_size`. -/
  largeInputPayloadSize : UInt32
  /-- `large_output_payload_size`. -/
  largeOutputPayloadSize : UInt32
  /-- `rw_size`. -/
  rwSize : UInt32
  deriving DecidableEq, Repr

/-- `bios_write_large_payload`, with what `bios_get_payload_size` returns. -/
def biosWriteLargePayload (fuel : ℕ) (driver : ℕ → CommandOutcome)
    (mbSize : Except ReturnCode PtBiosGetSize) (largeInputPayload : Bytes)
    (largeInputPayloadSize : UInt32) (mailbox : Bytes) : Option PayloadResult :=
  match mbSize with
  | .error rc => some ⟨rc, mailbox, []⟩
  | .ok mbSize =>
    moveLargePayload submitWrite fuel driver mbSize.largeInputPayloadSize largeInputPayloadSize
      mbSize.rwSize largeInputPayload mailbox

/-- `bios_read_large_payload`, with what `bios_get_payload_size` returns. -/
def biosReadLargePayload (fuel : ℕ) (driver : ℕ → CommandOutcome)
    (mbSize : Except ReturnCode PtBiosGetSize) (mailbox : Bytes)
    (largeOutputPayloadSize : UInt32) (largeOutputPayload : Bytes) : Option PayloadResult :=
  match mbSize with
  | .error rc => some ⟨rc, largeOutputPayload, []⟩
  | .ok mbSize =>
    moveLargePayload submitRead fuel driver mbSize.largeOutputPayloadSize largeOutputPayloadSize
      mbSize.rwSize mailbox largeOutputPayload

/-! ### What callers rely on -/

/-- The offset and the size of a chunk. -/
def Chunk.range (chunk : Chunk) : ℕ × ℕ := (chunk.offset.toNat, chunk.size.toNat)

/-- The chunks of a call tile the payload: they are contiguous from zero on, not empty, disjoint, no
larger than `rw_size`, and cover the payload, which has been moved byte for byte. -/
structure PayloadComplete (source : Bytes) (payloadSize rwSize : UInt32) (r : PayloadResult) :
    Prop where
  /-- The chunks are contiguous and not empty. -/
  tiles : Tiles 0 (r.chunks.map Chunk.range) payloadSize.toNat
  /-- They are disjoint. -/
  disjoint : (r.chunks.map Chunk.range).Pairwise fun c d => c.1 + c.2 ≤ d.1
  /-- They cover the payload and nothing else. -/
  covers : ∀ i, (∃ c ∈ r.chunks.map Chunk.range, c.1 ≤ i ∧ i < c.1 + c.2) ↔ i < payloadSize.toNat
  /-- None is larger than the BIOS allows. -/
  size_le : ∀ c ∈ r.chunks, c.size ≤ rwSize
  /-- The payload has been moved. -/
  bytes : SameBytes r.target source 0 payloadSize.toNat

/-- A call that succeeds has moved its payload, and one that has not moved some chunk fails. -/
structure LargePayloadMoved (source : Bytes) (payloadSize rwSize : UInt32) (r : PayloadResult) :
    Prop where
  /-- Success means that the payload has been moved. -/
  complete : r.rc = .success → PayloadComplete source payloadSize rwSize r
  /-- A chunk that was not moved means an error. -/
  error : (∃ c ∈ r.chunks, c.moved = false) → r.rc ≠ .success

/-- The driver library reports a submission that fails by a negative number. -/
def Reports (driver : ℕ → CommandOutcome) : Prop := ∀ i, (driver i).submitStatus ≤ 0

/-- The sizes for which the chunks fit: the payload is refused or empty, or `rw_size` is not zero and
no chunk of that size that starts within the payload reaches `2 ^ 32`. -/
def ChunksFit (mailboxSize payloadSize rwSize : UInt32) : Prop :=
  mailboxSize < payloadSize ∨ payloadSize = 0 ∨
    (rwSize ≠ 0 ∧ ∀ k, rwSize.toNat * k < payloadSize.toNat →
      rwSize.toNat * k + rwSize.toNat < 2 ^ 32)

/-! ### What a pass can do -/

/-- What the loops need of a command: one that does not move its chunk fails, and one that the driver
library carries out succeeds. -/
structure SubmitSound (submit : CommandOutcome → ReturnCode × Bool) : Prop where
  /-- A chunk that is not moved means an error. -/
  error : ∀ outcome, outcome.submitStatus ≤ 0 → (submit outcome).2 = false →
    (submit outcome).1 ≠ .success
  /-- A command that is carried out succeeds. -/
  success : submit {} = (.success, true)

/-- A choice between errors is an error. -/
private theorem ite_ne_success {p : Prop} [Decidable p] {rc rc' : ReturnCode}
    (h : rc ≠ .success) (h' : rc' ≠ .success) : (if p then rc else rc') ≠ .success := by
  split_ifs
  · exact h
  · exact h'

/-- Errors of the driver are errors. -/
private theorem linuxErr_ne_success {status : Int} (h : status < 0) :
    linuxErrToNvmLibErr status ≠ .success := by
  unfold linuxErrToNvmLibErr
  rw [if_pos h]
  repeat refine ite_ne_success (by decide) ?_
  decide

/-- Errors of the firmware are errors. -/
private theorem dsmErr_ne_success {status : UInt32} (h : status ≠ 0) :
    dsmErrToNvmLibErr status ≠ .success := by
  unfold dsmErrToNvmLibErr
  rw [if_neg h]
  split <;> first | decide | (unfold fwMbErrToNvmLibErr; split <;> decide)

/-- The commands of `bios_write_large_payload`. -/
theorem submitSound_submitWrite : SubmitSound submitWrite where
  error outcome hstatus := by
    unfold submitWrite
    split_ifs with halloc hcreated hinput hsubmit hfirmware
    · exact fun _ => dsmErr_ne_success hfirmware
    · intro hmoved
      cases hmoved
    · exact fun _ => linuxErr_ne_success (lt_of_le_of_ne hstatus hsubmit)
    -- no command is submitted
    all_goals exact fun _ => by decide
  success := rfl

/-- The commands of `bios_read_large_payload`. -/
theorem submitSound_submitRead : SubmitSound submitRead where
  error outcome hstatus := by
    unfold submitRead
    split_ifs with halloc hcreated hsubmit hfirmware houtput hinput
    · exact fun _ => dsmErr_ne_success hfirmware
    · intro hmoved
      cases hmoved
    · intro hmoved
      cases hmoved
    · exact fun _ => by decide
    · exact fun _ => linuxErr_ne_success (lt_of_le_of_ne hstatus hsubmit)
    -- no command is submitted
    all_goals exact fun _ => by decide
  success := rfl

section Passes

variable {submit : CommandOutcome → ReturnCode × Bool} {driver : ℕ → CommandOutcome}
  {source : Bytes} {payloadSize rwSize : UInt32} {s s' : ChunkState} {r : PayloadResult}

/-- The size of the next chunk. -/
def nextSize (payloadSize rwSize : UInt32) (s : ChunkState) : UInt32 :=
  if s.currentOffset + rwSize > payloadSize then payloadSize - s.currentOffset else s.transferSize

/-- The state after a chunk, with the return code of its command and whether it was moved. -/
def ChunkState.after (source : Bytes) (s : ChunkState) (size : UInt32) (rc : ReturnCode)
    (moved : Bool) : ChunkState where
  currentOffset := if moved then s.currentOffset + size else s.currentOffset
  transferSize := size
  rc := rc
  target := if moved then
    copy s.target s.currentOffset.toNat size.toNat (view source s.currentOffset.toNat) else s.target
  chunks := s.chunks ++ [⟨s.currentOffset, size, moved⟩]

/-- A pass that continues submits the next chunk. -/
theorem moveChunk_eq_inl (h : moveChunk submit driver source payloadSize rwSize s = .inl s') :
    s.currentOffset < payloadSize ∧ s.rc = .success ∧
      s' = s.after source (nextSize payloadSize rwSize s) (submit (driver s.chunks.length)).1
        (submit (driver s.chunks.length)).2 := by
  unfold moveChunk at h
  by_cases hgo : s.currentOffset < payloadSize ∧ s.rc = .success
  · rw [if_pos hgo] at h
    exact ⟨hgo.1, hgo.2, (Sum.inl.inj h).symm⟩
  · rw [if_neg hgo] at h
    cases h

/-- A pass that leaves has nothing more to move, or has failed. -/
theorem moveChunk_eq_inr (h : moveChunk submit driver source payloadSize rwSize s = .inr r) :
    ¬ (s.currentOffset < payloadSize ∧ s.rc = .success) ∧
      r = ⟨if s.currentOffset ≠ payloadSize then .errUnknown else s.rc, s.target, s.chunks⟩ := by
  unfold moveChunk at h
  by_cases hgo : s.currentOffset < payloadSize ∧ s.rc = .success
  · rw [if_pos hgo] at h
    cases h
  · rw [if_neg hgo] at h
    exact ⟨hgo, (Sum.inr.inj h).symm⟩

/-- A result that is a success comes from a state that has moved the payload. -/
private theorem success_of_exit
    (h : (if s.currentOffset ≠ payloadSize then ReturnCode.errUnknown else s.rc) = .success) :
    s.currentOffset = payloadSize ∧ s.rc = .success := by
  split_ifs at h with hoffset
  exact ⟨not_not.mp hoffset, h⟩

/-! ### Sizes that fit -/

/-- The state of a loop in which nothing has failed. -/
structure Moving (source : Bytes) (payloadSize rwSize : UInt32) (s : ChunkState) : Prop where
  /-- Every chunk has been moved. -/
  moved : ∀ c ∈ s.chunks, c.moved = true
  /-- The chunks tile what has been moved. -/
  tiles : Tiles 0 (s.chunks.map Chunk.range) s.currentOffset.toNat
  /-- No chunk is larger than the BIOS allows. -/
  size_le : ∀ c ∈ s.chunks, c.size ≤ rwSize
  /-- What the chunks cover has been moved. -/
  bytes : SameBytes s.target source 0 s.currentOffset.toNat
  /-- Either the payload has been moved, or whole chunks of it. -/
  whole : s.currentOffset = payloadSize ∨
    (s.currentOffset ≤ payloadSize ∧ s.transferSize = rwSize ∧
      ∃ k, s.currentOffset.toNat = rwSize.toNat * k)

/-- The size of the next chunk, when the chunks fit. -/
private theorem nextSize_spec (h : Moving source payloadSize rwSize s)
    (hlt : s.currentOffset < payloadSize) (hrw : rwSize ≠ 0)
    (hfit : ∀ k, rwSize.toNat * k < payloadSize.toNat →
      rwSize.toNat * k + rwSize.toNat < 2 ^ 32) {size : UInt32}
    (hsize : size = nextSize payloadSize rwSize s) :
    0 < size.toNat ∧ size ≤ rwSize ∧
      (s.currentOffset + size).toNat = s.currentOffset.toNat + size.toNat ∧
      (s.currentOffset + size = payloadSize ∨ (s.currentOffset + size ≤ payloadSize ∧
        size = rwSize ∧ ∃ k, (s.currentOffset + size).toNat = rwSize.toNat * k)) := by
  obtain heq | ⟨-, htransfer, k, hk⟩ := h.whole
  · rw [heq] at hlt
    exact absurd hlt (UInt32.lt_irrefl _)
  have hlt' := UInt32.lt_iff_toNat_lt.mp hlt
  have hbound := hfit k (hk ▸ hlt')
  have hpos : 0 < rwSize.toNat := Nat.pos_of_ne_zero fun hzero => hrw (UInt32.toNat_inj.mp hzero)
  have hsum : (s.currentOffset + rwSize).toNat = s.currentOffset.toNat + rwSize.toNat := by
    rw [UInt32.toNat_add]
    omega
  simp only [nextSize, gt_iff_lt, UInt32.lt_iff_toNat_lt, hsum, htransfer] at hsize
  have hlarge := payloadSize.toNat_lt
  split_ifs at hsize with hlast
  · have hrest : size.toNat = payloadSize.toNat - s.currentOffset.toNat := by
      rw [hsize, UInt32.toNat_sub_of_le _ _ (UInt32.le_of_lt hlt)]
    have hend : (s.currentOffset + size).toNat = s.currentOffset.toNat + size.toNat := by
      rw [UInt32.toNat_add]
      omega
    refine ⟨by omega, UInt32.le_iff_toNat_le.mpr (by omega), hend, Or.inl ?_⟩
    refine UInt32.toNat_inj.mp ?_
    omega
  · subst hsize
    refine ⟨hpos, UInt32.le_refl _, hsum, Or.inr ⟨UInt32.le_iff_toNat_le.mpr (by omega), rfl, k + 1, ?_⟩⟩
    rw [hsum, hk, Nat.mul_succ]

/-- A chunk that is moved keeps what has been moved. -/
private theorem moving_after (h : Moving source payloadSize rwSize s)
    (hlt : s.currentOffset < payloadSize) (hrw : rwSize ≠ 0)
    (hfit : ∀ k, rwSize.toNat * k < payloadSize.toNat →
      rwSize.toNat * k + rwSize.toNat < 2 ^ 32) (rc : ReturnCode) :
    Moving source payloadSize rwSize (s.after source (nextSize payloadSize rwSize s) rc true) := by
  obtain ⟨hpos, hle, hend, hwhole⟩ := nextSize_spec h hlt hrw hfit rfl
  refine ⟨?_, ?_, ?_, ?_, ?_⟩
  · intro c hc
    rcases List.mem_append.mp hc with hc | hc
    · exact h.moved c hc
    · rw [List.mem_singleton.mp hc]
  · have htiles := h.tiles.snoc hpos
    rw [← hend] at htiles
    simpa [ChunkState.after, Chunk.range] using htiles
  · intro c hc
    rcases List.mem_append.mp hc with hc | hc
    · exact h.size_le c hc
    · rw [List.mem_singleton.mp hc]
      exact hle
  · intro i _ hi
    simp only [ChunkState.after, if_true, hend, Nat.zero_add] at hi ⊢
    -- a byte is part of the new chunk or has been moved before
    rcases Nat.lt_or_ge i s.currentOffset.toNat with hbefore | hafter
    · rw [copy_apply_of_notMem (Or.inl hbefore)]
      exact h.bytes i (Nat.zero_le i) (by rwa [Nat.zero_add])
    · obtain ⟨j, rfl⟩ := Nat.exists_eq_add_of_le hafter
      rw [copy_apply_add (Nat.lt_of_add_lt_add_left hi), view_apply]
  · simpa [ChunkState.after] using hwhole

/-- A pass keeps what has been moved, or fails. -/
private theorem moveChunk_keeps (hsubmit : SubmitSound submit) (hreports : Reports driver)
    (hrw : rwSize ≠ 0) (hfit : ∀ k, rwSize.toNat * k < payloadSize.toNat →
      rwSize.toNat * k + rwSize.toNat < 2 ^ 32)
    (h : s.rc = .success → Moving source payloadSize rwSize s)
    (hstep : moveChunk submit driver source payloadSize rwSize s = .inl s') :
    s'.rc = .success → Moving source payloadSize rwSize s' := by
  obtain ⟨hlt, hrc, rfl⟩ := moveChunk_eq_inl hstep
  intro hrc'
  cases hmoved : (submit (driver s.chunks.length)).2 with
  | true => exact moving_after (h hrc) hlt hrw hfit _
  | false => exact absurd hrc' (hsubmit.error _ (hreports _) hmoved)

/-- What is left to move, when nothing has failed. -/
private def remaining (payloadSize : UInt32) (s : ChunkState) : ℕ :=
  if s.rc = .success then payloadSize.toNat - s.currentOffset.toNat + 1 else 0

/-- A pass lowers what is left to move. -/
private theorem moveChunk_remaining_lt (hsubmit : SubmitSound submit) (hreports : Reports driver)
    (hrw : rwSize ≠ 0) (hfit : ∀ k, rwSize.toNat * k < payloadSize.toNat →
      rwSize.toNat * k + rwSize.toNat < 2 ^ 32)
    (h : s.rc = .success → Moving source payloadSize rwSize s)
    (hstep : moveChunk submit driver source payloadSize rwSize s = .inl s') :
    remaining payloadSize s' < remaining payloadSize s := by
  obtain ⟨hlt, hrc, rfl⟩ := moveChunk_eq_inl hstep
  obtain ⟨hpos, -, hend, -⟩ := nextSize_spec (h hrc) hlt hrw hfit rfl
  have hlt' := UInt32.lt_iff_toNat_lt.mp hlt
  unfold remaining
  rw [if_pos hrc]
  split_ifs with hrc'
  · cases hmoved : (submit (driver s.chunks.length)).2 with
    | true =>
      simp only [ChunkState.after, if_true, hend]
      omega
    | false => exact absurd hrc' (hsubmit.error _ (hreports _) hmoved)
  · exact Nat.succ_pos _

/-- A state that has moved the payload gives a complete result. -/
private theorem payloadMoved_of_exit (h : s.rc = .success → Moving source payloadSize rwSize s)
    (hexit : moveChunk submit driver source payloadSize rwSize s = .inr r) :
    LargePayloadMoved source payloadSize rwSize r := by
  obtain ⟨-, rfl⟩ := moveChunk_eq_inr hexit
  refine ⟨fun hrc => ?_, ?_⟩
  · obtain ⟨hoffset, hrc⟩ := success_of_exit hrc
    have hmoving := h hrc
    have htiles := hmoving.tiles
    rw [hoffset] at htiles
    refine ⟨htiles, htiles.pairwise, fun i => ?_, hmoving.size_le, hoffset ▸ hmoving.bytes⟩
    rw [htiles.mem_iff i]
    exact and_iff_right (Nat.zero_le i)
  · rintro ⟨c, hc, hmoved⟩ hrc
    have hmoving := h (success_of_exit hrc).2
    rw [hmoving.moved c hc] at hmoved
    cases hmoved

/-- A call whose payload is larger than the mailbox is refused. -/
private theorem moved_of_refused {mailboxSize : UInt32} (h : mailboxSize < payloadSize)
    (target : Bytes) :
    ∃ r, Returns (fun fuel =>
        moveLargePayload submit fuel driver mailboxSize payloadSize rwSize source target) r ∧
      LargePayloadMoved source payloadSize rwSize r := by
  refine ⟨⟨.errBadSize, target, []⟩, ⟨0, if_pos h⟩, fun hrc => ?_, ?_⟩
  · cases hrc
  · rintro ⟨c, hc, -⟩
    cases hc

/-- The state in which the loops are entered. -/
private theorem moving_start (target : Bytes) :
    Moving source payloadSize rwSize ⟨0, rwSize, .success, target, []⟩ := by
  refine ⟨fun c hc => ?_, tiles_nil 0, fun c hc => ?_, fun i _ hi => ?_, Or.inr ⟨?_, rfl, 0, rfl⟩⟩
  · cases hc
  · cases hc
  · exact absurd hi (Nat.not_lt_zero i)
  · exact UInt32.le_iff_toNat_le.mpr (Nat.zero_le _)

/-- If the chunks fit, every call returns, and has moved the payload or fails. -/
theorem moveLargePayload_moved (hsubmit : SubmitSound submit) (hreports : Reports driver)
    {mailboxSize : UInt32} (hfit : ChunksFit mailboxSize payloadSize rwSize) (target : Bytes) :
    ∃ r, Returns (fun fuel =>
        moveLargePayload submit fuel driver mailboxSize payloadSize rwSize source target) r ∧
      LargePayloadMoved source payloadSize rwSize r := by
  by_cases hrefused : mailboxSize < payloadSize
  · exact moved_of_refused hrefused target
  unfold moveLargePayload
  simp only [if_neg hrefused]
  rcases hfit with h | rfl | ⟨hrw, hfit⟩
  · exact absurd h hrefused
  · -- an empty payload needs no chunk
    have hexit : moveChunk submit driver source 0 rwSize ⟨0, rwSize, .success, target, []⟩ =
        .inr ⟨.success, target, []⟩ := rfl
    exact ⟨_, ⟨1, runLoop_succ_of_inr hexit 0⟩,
      payloadMoved_of_exit (fun _ => moving_start target) hexit⟩
  · obtain ⟨r, hr⟩ := Option.isSome_iff_exists.mp <| runLoop_isSome_of_measure
      (fun s => s.rc = .success → Moving source payloadSize rwSize s) (remaining payloadSize)
      (fun s s' h hstep => ⟨moveChunk_keeps hsubmit hreports hrw hfit h hstep,
        moveChunk_remaining_lt hsubmit hreports hrw hfit h hstep⟩)
      (fun _ => moving_start target) (Nat.lt_succ_self _)
    refine ⟨r, ⟨_, hr⟩, ?_⟩
    exact runLoop_rule (fun s => s.rc = .success → Moving source payloadSize rwSize s) _
      (fun s s' h hstep => moveChunk_keeps hsubmit hreports hrw hfit h hstep)
      (fun s r h hexit => payloadMoved_of_exit h hexit) (fun _ => moving_start target) hr

/-! ### Sizes that do not fit -/

/-- Without a chunk size the loops do not return. -/
private theorem not_returns_of_rwSize_zero (hsubmit : SubmitSound submit) (hpayload : payloadSize ≠ 0)
    {target : Bytes} {fuel : ℕ} :
    runLoop (moveChunk submit (fun _ => {}) source payloadSize 0) fuel
      ⟨0, 0, .success, target, []⟩ ≠ some r := by
  intro hrun
  have hpos : (0 : UInt32) < payloadSize := UInt32.lt_iff_toNat_lt.mpr <|
    Nat.pos_of_ne_zero fun hzero => hpayload (UInt32.toNat_inj.mp hzero)
  refine runLoop_rule
    (fun s => s.currentOffset = 0 ∧ s.transferSize = 0 ∧ s.rc = .success) (fun _ => False)
    ?_ ?_ ⟨rfl, rfl, rfl⟩ hrun
  · rintro s s' ⟨hoffset, htransfer, -⟩ hstep
    obtain ⟨-, -, rfl⟩ := moveChunk_eq_inl hstep
    have hsize : nextSize payloadSize 0 s = 0 := by
      unfold nextSize
      rw [hoffset, UInt32.add_zero, if_neg (UInt32.not_lt.mpr (UInt32.le_of_lt hpos)), htransfer]
    rw [hsize, hsubmit.success]
    exact ⟨by simp [ChunkState.after, hoffset], rfl, rfl⟩
  · rintro s r ⟨hoffset, -, hrc⟩ hexit
    obtain ⟨hstop, -⟩ := moveChunk_eq_inr hexit
    exact hstop ⟨hoffset ▸ hpos, hrc⟩

/-- The state of a loop on the way to, or after, a chunk that starts within the payload and ends
beyond `2 ^ 32`. -/
private structure Overrunning (payloadSize rwSize : UInt32) (k : ℕ) (s : ChunkState) : Prop where
  /-- Nothing has failed. -/
  rc : s.rc = .success
  /-- The offset stays within the payload. -/
  offset_le : s.currentOffset ≤ payloadSize
  /-- Until the end of the payload, chunks are as large as the BIOS allows. -/
  transfer : s.currentOffset = payloadSize ∨ s.transferSize = rwSize
  /-- The chunk lies ahead or has been moved. -/
  ahead : (∃ j ≤ k, s.currentOffset.toNat = rwSize.toNat * j) ∨
    (rwSize.toNat * k, rwSize.toNat) ∈ s.chunks.map Chunk.range

/-- A pass moves on towards the chunk. -/
private theorem moveChunk_overrunning (hsubmit : SubmitSound submit) {k : ℕ}
    (hstart : rwSize.toNat * k < payloadSize.toNat)
    (hwrap : 2 ^ 32 ≤ rwSize.toNat * k + rwSize.toNat) (h : Overrunning payloadSize rwSize k s)
    (hstep : moveChunk submit (fun _ => {}) source payloadSize rwSize s = .inl s') :
    Overrunning payloadSize rwSize k s' := by
  obtain ⟨hlt, hrc, rfl⟩ := moveChunk_eq_inl hstep
  have hlt' := UInt32.lt_iff_toNat_lt.mp hlt
  have hlarge := payloadSize.toNat_lt
  have hrwLt := rwSize.toNat_lt
  have htransfer : s.transferSize = rwSize :=
    h.transfer.resolve_left fun heq => UInt32.lt_irrefl _ (heq ▸ hlt)
  rw [hsubmit.success]
  by_cases hlast : s.currentOffset + rwSize > payloadSize
  · have hsize : nextSize payloadSize rwSize s = payloadSize - s.currentOffset := if_pos hlast
    have hend : s.currentOffset + (payloadSize - s.currentOffset) = payloadSize := by
      rw [UInt32.add_comm, UInt32.sub_add_cancel]
    rw [hsize]
    refine ⟨rfl, ?_, Or.inl hend, ?_⟩
    · exact UInt32.le_of_eq hend
    · -- a last chunk is only taken once the chunk has been moved
      rcases h.ahead with ⟨j, hj, hoffset⟩ | hmem
      · exfalso
        have hlast' := UInt32.lt_iff_toNat_lt.mp hlast
        rw [UInt32.toNat_add, hoffset] at hlast'
        rcases Nat.lt_or_ge j k with hjk | hkj
        · have hle : rwSize.toNat * (j + 1) ≤ rwSize.toNat * k := Nat.mul_le_mul_left _ hjk
          rw [Nat.mul_succ] at hle
          omega
        · obtain rfl := Nat.le_antisymm hj hkj
          omega
      · right
        simp only [ChunkState.after, List.map_append]
        exact List.mem_append_left _ hmem
  · have hsize : nextSize payloadSize rwSize s = rwSize := (if_neg hlast).trans htransfer
    rw [hsize]
    refine ⟨rfl, UInt32.not_lt.mp hlast, Or.inr rfl, ?_⟩
    simp only [ChunkState.after, if_true, List.map_append]
    rcases h.ahead with ⟨j, hj, hoffset⟩ | hmem
    · rcases Nat.lt_or_ge j k with hjk | hkj
      · left
        refine ⟨j + 1, hjk, ?_⟩
        have hle : rwSize.toNat * (j + 1) ≤ rwSize.toNat * k := Nat.mul_le_mul_left _ hjk
        rw [Nat.mul_succ] at hle ⊢
        rw [UInt32.toNat_add, hoffset]
        omega
      · right
        obtain rfl := Nat.le_antisymm hj hkj
        refine List.mem_append_right _ (List.mem_singleton.mpr ?_)
        exact Prod.ext hoffset.symm rfl
    · exact Or.inr (List.mem_append_left _ hmem)

/-- A loop that passes over `2 ^ 32` does not move exactly its payload. -/
private theorem not_moved_of_wrap (hsubmit : SubmitSound submit) {k : ℕ}
    (hstart : rwSize.toNat * k < payloadSize.toNat)
    (hwrap : 2 ^ 32 ≤ rwSize.toNat * k + rwSize.toNat) {target : Bytes} {fuel : ℕ}
    (hrun : runLoop (moveChunk submit (fun _ => {}) source payloadSize rwSize) fuel
      ⟨0, rwSize, .success, target, []⟩ = some r) :
    ¬ LargePayloadMoved source payloadSize rwSize r := by
  refine runLoop_rule (Overrunning payloadSize rwSize k)
    (fun r => ¬ LargePayloadMoved source payloadSize rwSize r)
    (fun s s' h hstep => moveChunk_overrunning hsubmit hstart hwrap h hstep) ?_ ?_ hrun
  · intro s r h hexit hmoved
    obtain ⟨hstop, rfl⟩ := moveChunk_eq_inr hexit
    have hoffset : s.currentOffset = payloadSize := by
      refine UInt32.le_antisymm h.offset_le (UInt32.not_lt.mp fun hlt => ?_)
      exact hstop ⟨hlt, h.rc⟩
    have hcomplete := hmoved.complete (by simp [hoffset, h.rc])
    rcases h.ahead with ⟨j, hj, hend⟩ | hmem
    · have hle : rwSize.toNat * j ≤ rwSize.toNat * k := Nat.mul_le_mul_left _ hj
      rw [hoffset] at hend
      omega
    · have hlarge := payloadSize.toNat_lt
      have hbeyond := (hcomplete.covers (2 ^ 32 - 1)).mp ⟨_, hmem, by simp only; omega⟩
      omega
  · refine ⟨rfl, UInt32.le_iff_toNat_le.mpr (Nat.zero_le _), Or.inr rfl, Or.inl ⟨0, ?_, rfl⟩⟩
    exact Nat.zero_le k

/-- If the chunks do not fit, a driver without failures shows it. -/
private theorem chunksFit_of_moved (hsubmit : SubmitSound submit) {mailboxSize : UInt32}
    {target : Bytes}
    (h : ∃ r, Returns (fun fuel => moveLargePayload submit fuel (fun _ => {}) mailboxSize payloadSize
        rwSize source target) r ∧ LargePayloadMoved source payloadSize rwSize r) :
    ChunksFit mailboxSize payloadSize rwSize := by
  obtain ⟨r, ⟨fuel, hr⟩, hmoved⟩ := h
  by_cases hrefused : mailboxSize < payloadSize
  · exact Or.inl hrefused
  by_cases hpayload : payloadSize = 0
  · exact Or.inr (Or.inl hpayload)
  simp only [moveLargePayload, if_neg hrefused] at hr
  refine Or.inr (Or.inr ⟨?_, fun k hk => ?_⟩)
  · rintro rfl
    exact not_returns_of_rwSize_zero hsubmit hpayload hr
  · refine Nat.lt_of_not_le fun hwrap => ?_
    exact not_moved_of_wrap hsubmit hk hwrap hr hmoved

end Passes

/-! ### Exactly the sizes that fit -/

/-- The two directions at once, for either command. -/
private theorem moveLargePayload_iff {submit : CommandOutcome → ReturnCode × Bool}
    (hsubmit : SubmitSound submit) (mailboxSize payloadSize rwSize : UInt32) :
    (∀ driver, Reports driver → ∀ source target,
      ∃ r, Returns (fun fuel =>
          moveLargePayload submit fuel driver mailboxSize payloadSize rwSize source target) r ∧
        LargePayloadMoved source payloadSize rwSize r) ↔
      ChunksFit mailboxSize payloadSize rwSize := by
  constructor
  · intro h
    have hreports : Reports fun _ => {} := fun _ => Int.le_refl 0
    exact chunksFit_of_moved hsubmit (h _ hreports (fun _ => 0) (fun _ => 0))
  · intro hfit driver hreports source target
    exact moveLargePayload_moved hsubmit hreports hfit target

end IxpDimm
