import IxpDimm.Common.ReturnCode
import IxpDimm.Foundation.ByteMemory
import IxpDimm.Foundation.WhileLoop

/-!
# Sending a firmware image in small payloads

`send_new_firmware_to_device` of `update_firmware.c`, where firmware is not sent as a large payload.
The image goes to the device in packets of 64 bytes.  A 16-bit header in front of each packet holds
its type in the lower two bits and its number in the other fourteen.

`Reconstructs` says that a device can put the image together again from the packets that it got.  It
can for the images of more than one packet that have no more packets than there are numbers.
-/

namespace IxpDimm

open Foundation

/-! ### Packets -/

/-- `TRANSFER_TYPE_INITIATE`. -/
def transferTypeInitiate : UInt16 := 0

/-- `TRANSFER_TYPE_CONTINUE`. -/
def transferTypeContinue : UInt16 := 1

/-- `TRANSFER_TYPE_END`. -/
def transferTypeEnd : UInt16 := 2

/-- `TRANSFER_SIZE`. -/
def transferSize : ℕ := 64

/-- `TRANSFER_VIA_SMALL_PAYLOAD`. -/
def transferViaSmallPayload : UInt8 := 1

/-- `TRANSFER_HEADER`, as it is stored in 16 bits. -/
def transferHeader (type packet : UInt16) : UInt16 := packet <<< 2 ||| type

/-- `struct pt_update_fw_small_payload`. -/
structure UpdateFwSmallPayload where
  /-- `transfer_header`. -/
  transferHeader : UInt16
  /-- `payload_selector`. -/
  payloadSelector : UInt8 := transferViaSmallPayload
  /-- `data`. -/
  data : Bytes

/-- The bytes of `data`. -/
def UpdateFwSmallPayload.dataBytes (payload : UpdateFwSmallPayload) : List UInt8 :=
  (List.range transferSize).map payload.data

@[simp] theorem UpdateFwSmallPayload.length_dataBytes (payload : UpdateFwSmallPayload) :
    payload.dataBytes.length = 64 := by
  simp [dataBytes, transferSize]

/-- Bits 1:0 of the header, the transfer type. -/
def UpdateFwSmallPayload.transferType (payload : UpdateFwSmallPayload) : UInt16 :=
  payload.transferHeader &&& 3

/-- Bits 15:2 of the header, the packet number. -/
def UpdateFwSmallPayload.packetNumber (payload : UpdateFwSmallPayload) : ℕ :=
  (payload.transferHeader >>> 2).toNat

/-- The payload of a packet. -/
def smallPayload (type packet : UInt16) (data : Bytes) : UpdateFwSmallPayload where
  transferHeader := transferHeader type packet
  data := data

/-! ### The loop -/

/-- The local variables of `send_new_firmware_to_device`, and the packets that were sent. -/
structure TransferState where
  /-- `offset`. -/
  offset : UInt32 := 0
  /-- `packet_number`. -/
  packetNumber : UInt16 := 0
  /-- `input_payload.data`. -/
  data : Bytes := fun _ => 0
  /-- The packets so far, first to last. -/
  sent : List UpdateFwSmallPayload := []

/-- The type and the number of bytes of the next packet.  The sum of the offset and the size of a
packet is a 32-bit number. -/
def nextPacket (fwImageSize offset : UInt32) : UInt16 × UInt32 :=
  if offset = 0 then (transferTypeInitiate, 64)
  else if offset + 64 < fwImageSize then (transferTypeContinue, 64)
  else if offset + 64 = fwImageSize then (transferTypeEnd, 64)
  else (transferTypeEnd, fwImageSize - offset)

/-- One pass of the loop; `passthrough` is what `ioctl_passthrough_cmd` returns for the commands. -/
def sendPacket (passthrough : ℕ → ReturnCode) (fwImage : Bytes) (fwImageSize : UInt32)
    (s : TransferState) : TransferState ⊕ (ReturnCode × List UpdateFwSmallPayload) :=
  if s.offset < fwImageSize then
    let (type, size) := nextPacket fwImageSize s.offset
    let data := copy s.data 0 size.toNat (view fwImage s.offset.toNat)
    let sent := s.sent ++ [smallPayload type s.packetNumber data]
    match passthrough s.sent.length with
    | .success =>
      .inl { offset := s.offset + size, packetNumber := s.packetNumber + 1, data := data, sent := sent }
    | rc => .inr (rc, sent)
  else .inr (.success, s.sent)

/-- `send_new_firmware_to_device`: the return code and the packets. -/
def sendNewFirmwareToDevice (fuel : ℕ) (passthrough : ℕ → ReturnCode) (fwImage : Bytes)
    (fwImageSize : UInt32) : Option (ReturnCode × List UpdateFwSmallPayload) :=
  runLoop (sendPacket passthrough fwImage fwImageSize) fuel {}

/-! ### What a device needs -/

/-- A device can put an image of `n` bytes together from the packets: there is a first packet, a last
one and only continuing ones between them, their numbers can be read from their headers and count
from zero, and their data in this order is the image. -/
structure Reconstructs (fwImage : Bytes) (n : ℕ) (sent : List UpdateFwSmallPayload) : Prop where
  /-- The types of the packets. -/
  types : ∃ m, sent.map UpdateFwSmallPayload.transferType =
    transferTypeInitiate :: (List.replicate m transferTypeContinue ++ [transferTypeEnd])
  /-- The numbers of the packets. -/
  numbers : sent.map UpdateFwSmallPayload.packetNumber = List.range sent.length
  /-- The data of the packets. -/
  data : (sent.flatMap UpdateFwSmallPayload.dataBytes).take n = (List.range n).map fwImage

/-! ### Headers -/

/-- A header holds the number and the type of a packet side by side. -/
private theorem toNat_transferHeader {type packet : UInt16} (htype : type.toNat < 4)
    (hpacket : packet.toNat < 2 ^ 14) :
    (transferHeader type packet).toNat = 4 * packet.toNat + type.toNat := by
  have hshift : packet.toNat <<< 2 % 2 ^ 16 = packet.toNat <<< 2 := by
    rw [Nat.shiftLeft_eq]
    omega
  have hsum := Nat.shiftLeft_add_eq_or_of_lt (show type.toNat < 2 ^ 2 by omega) packet.toNat
  rw [transferHeader, UInt16.toNat_or, UInt16.toNat_shiftLeft]
  change packet.toNat <<< 2 % 2 ^ 16 ||| type.toNat = _
  rw [hshift, ← hsum, Nat.shiftLeft_eq]
  omega

section Header

variable {type packet : UInt16} (htype : type.toNat < 4) (hpacket : packet.toNat < 2 ^ 14) (data : Bytes)

include htype hpacket

/-- The type of a packet is read back from its header. -/
private theorem transferType_transferHeader :
    (smallPayload type packet data).transferType = type := by
  refine UInt16.toNat_inj.mp ?_
  have hmask : (4 * packet.toNat + type.toNat) &&& 3 = (4 * packet.toNat + type.toNat) % 4 :=
    Nat.and_two_pow_sub_one_eq_mod _ 2
  rw [UpdateFwSmallPayload.transferType, UInt16.toNat_and, smallPayload,
    toNat_transferHeader htype hpacket]
  change (4 * packet.toNat + type.toNat) &&& 3 = type.toNat
  omega

/-- The number of a packet is read back from its header. -/
private theorem packetNumber_transferHeader :
    (smallPayload type packet data).packetNumber = packet.toNat := by
  rw [UpdateFwSmallPayload.packetNumber, UInt16.toNat_shiftRight, smallPayload,
    toNat_transferHeader htype hpacket]
  change (4 * packet.toNat + type.toNat) >>> 2 = packet.toNat
  rw [Nat.shiftRight_eq_div_pow]
  omega

end Header

/-- The numbers that a header has room for. -/
theorem UpdateFwSmallPayload.packetNumber_lt (payload : UpdateFwSmallPayload) :
    payload.packetNumber < 2 ^ 14 := by
  have hlt := payload.transferHeader.toNat_lt
  rw [packetNumber, UInt16.toNat_shiftRight]
  change payload.transferHeader.toNat >>> 2 < 2 ^ 14
  rw [Nat.shiftRight_eq_div_pow]
  omega

/-! ### Passes of the loop -/

/-- Every command succeeds. -/
abbrev allSucceed : ℕ → ReturnCode := fun _ => .success

/-- The state after `k` whole packets. -/
structure Sending (fwImage : Bytes) (k : ℕ) (s : TransferState) : Prop where
  /-- Whole packets have been sent. -/
  offset : s.offset.toNat = 64 * k
  /-- They have been counted. -/
  packetNumber : s.packetNumber.toNat = k
  /-- The number of the packets. -/
  length : s.sent.length = k
  /-- The packets are the first one and continuing ones. -/
  types : s.sent.map UpdateFwSmallPayload.transferType =
    transferTypeInitiate :: List.replicate (k - 1) transferTypeContinue
  /-- Their numbers count from zero. -/
  numbers : s.sent.map UpdateFwSmallPayload.packetNumber = List.range k
  /-- Their data is the first part of the image. -/
  data : s.sent.flatMap UpdateFwSmallPayload.dataBytes = (List.range (64 * k)).map fwImage

/-- The state after a pass. -/
def TransferState.after (s : TransferState) (fwImage : Bytes) (type : UInt16) (size : UInt32) :
    TransferState where
  offset := s.offset + size
  packetNumber := s.packetNumber + 1
  data := copy s.data 0 size.toNat (view fwImage s.offset.toNat)
  sent := s.sent ++
    [smallPayload type s.packetNumber (copy s.data 0 size.toNat (view fwImage s.offset.toNat))]

section Passes

variable {fwImage : Bytes} {fwImageSize : UInt32} {s : TransferState} {k : ℕ}

/-- A pass sends the next packet. -/
theorem sendPacket_of_lt (h : s.offset < fwImageSize) :
    sendPacket allSucceed fwImage fwImageSize s =
      .inl (s.after fwImage (nextPacket fwImageSize s.offset).1
        (nextPacket fwImageSize s.offset).2) := by
  unfold sendPacket
  rw [if_pos h]
  cases nextPacket fwImageSize s.offset
  rfl

variable (fwImage) in
/-- The bytes of a packet that is filled to a size. -/
private theorem dataBytes_take (type packet : UInt16) (old : Bytes) (offset : ℕ) {size : ℕ}
    (hsize : size ≤ 64) :
    (smallPayload type packet (copy old 0 size (view fwImage offset))).dataBytes.take size =
      (List.range size).map fun j => fwImage (offset + j) := by
  rw [UpdateFwSmallPayload.dataBytes, ← List.map_take, List.take_range, transferSize,
    Nat.min_eq_left hsize]
  refine List.map_congr_left fun j hj => ?_
  have hbyte : copy old 0 size (view fwImage offset) (0 + j) = view fwImage offset j :=
    copy_apply_add (List.mem_range.mp hj)
  rwa [Nat.zero_add] at hbyte

/-- The image up to a packet and the bytes of the packet. -/
private theorem map_range_add (n m : ℕ) :
    (List.range n).map fwImage ++ (List.range m).map (fun j => fwImage (n + j)) =
      (List.range (n + m)).map fwImage := by
  rw [List.range_add, List.map_append, List.map_map]
  rfl

/-- The first packet of an image of more than one is a whole one. -/
theorem sending_first (hsize : 64 < fwImageSize.toNat) :
    ∃ s, sendPacket allSucceed fwImage fwImageSize {} = .inl s ∧ Sending fwImage 1 s := by
  have hlt : ({} : TransferState).offset < fwImageSize := by
    rw [UInt32.lt_iff_toNat_lt]
    exact lt_trans (by decide) hsize
  refine ⟨_, sendPacket_of_lt hlt, rfl, rfl, rfl, ?_, ?_, ?_⟩
  · change [(smallPayload transferTypeInitiate 0 _).transferType] = [transferTypeInitiate]
    rw [transferType_transferHeader (by decide) (by decide)]
  · change [(smallPayload transferTypeInitiate 0 _).packetNumber] = [0]
    rw [packetNumber_transferHeader (by decide) (by decide)]
    rfl
  · have hdata := dataBytes_take fwImage transferTypeInitiate 0 (fun _ => 0) 0
      (Nat.le_refl 64)
    rw [List.take_of_length_le (by simp)] at hdata
    have hsent : ∀ payload : UpdateFwSmallPayload,
        [payload].flatMap UpdateFwSmallPayload.dataBytes = payload.dataBytes := fun payload => by simp
    refine (hsent _).trans (hdata.trans ?_)
    simp

section After

variable {type : UInt16} {size : UInt32}

/-- The types of the packets after a pass. -/
private theorem Sending.types_after (h : Sending fwImage k s) (htype : type.toNat < 4)
    (hk : k < 2 ^ 14) :
    (s.after fwImage type size).sent.map UpdateFwSmallPayload.transferType =
      transferTypeInitiate :: (List.replicate (k - 1) transferTypeContinue ++ [type]) := by
  have hnumber : s.packetNumber.toNat < 2 ^ 14 := h.packetNumber.symm ▸ hk
  rw [TransferState.after, List.map_append, h.types, List.map_singleton,
    transferType_transferHeader htype hnumber, List.cons_append]

/-- The numbers of the packets after a pass. -/
private theorem Sending.numbers_after (h : Sending fwImage k s) (htype : type.toNat < 4)
    (hk : k < 2 ^ 14) :
    (s.after fwImage type size).sent.map UpdateFwSmallPayload.packetNumber = List.range (k + 1) := by
  have hnumber : s.packetNumber.toNat < 2 ^ 14 := h.packetNumber.symm ▸ hk
  rw [TransferState.after, List.map_append, h.numbers, List.map_singleton,
    packetNumber_transferHeader htype hnumber, h.packetNumber, List.range_succ]

/-- The data of the packets after a pass. -/
private theorem Sending.data_after (h : Sending fwImage k s) (hsize : size.toNat ≤ 64) :
    ((s.after fwImage type size).sent.flatMap UpdateFwSmallPayload.dataBytes).take
        (64 * k + size.toNat) = (List.range (64 * k + size.toNat)).map fwImage := by
  have hlength : (s.sent.flatMap UpdateFwSmallPayload.dataBytes).length = 64 * k := by
    rw [h.data, List.length_map, List.length_range]
  rw [TransferState.after, List.flatMap_append, List.flatMap_singleton, ← hlength,
    List.take_length_add_append, hlength, h.data, h.offset, dataBytes_take fwImage _ _ _ _ hsize,
    map_range_add]

end After

/-- A whole packet follows as long as more than one is left. -/
theorem Sending.next (h : Sending fwImage k s) (hk : 0 < k) (hsmall : k < 2 ^ 14)
    (hsize : 64 * k + 64 < fwImageSize.toNat) :
    ∃ s', sendPacket allSucceed fwImage fwImageSize s = .inl s' ∧ Sending fwImage (k + 1) s' := by
  have hoffset := h.offset
  have hlt : s.offset < fwImageSize := UInt32.lt_iff_toNat_lt.mpr (by omega)
  have hnext : (s.offset + 64).toNat = 64 * (k + 1) := by
    have hbound := fwImageSize.toNat_lt
    rw [UInt32.toNat_add, hoffset]
    change (64 * k + 64) % 2 ^ 32 = _
    omega
  have hpacket : nextPacket fwImageSize s.offset = (transferTypeContinue, 64) := by
    have hne : s.offset ≠ 0 := by
      rintro hzero
      rw [hzero] at hoffset
      have : 64 * k = 0 := hoffset.symm
      omega
    rw [nextPacket, if_neg hne, if_pos (UInt32.lt_iff_toNat_lt.mpr (by omega))]
  have hstep : sendPacket allSucceed fwImage fwImageSize s = _ := sendPacket_of_lt hlt
  rw [hpacket] at hstep
  refine ⟨_, hstep, hnext, ?_, ?_, ?_, h.numbers_after (by decide) hsmall, ?_⟩
  · have hnumber := h.packetNumber
    rw [TransferState.after, UInt16.toNat_add, hnumber]
    change (k + 1) % 2 ^ 16 = k + 1
    omega
  · rw [TransferState.after, List.length_append, h.length, List.length_singleton]
  · rw [h.types_after (by decide) hsmall, Nat.add_sub_cancel, ← List.replicate_succ',
      Nat.sub_add_cancel hk]
  · have hwhole : (64 : UInt32).toNat ≤ 64 := Nat.le_refl 64
    have hdata : ((s.after fwImage transferTypeContinue 64).sent.flatMap
        UpdateFwSmallPayload.dataBytes).take (64 * k + 64) = _ := h.data_after hwhole
    rwa [List.take_of_length_le] at hdata
    rw [TransferState.after, List.flatMap_append, List.length_append, h.data, List.length_map,
      List.length_range, List.flatMap_singleton, UpdateFwSmallPayload.length_dataBytes]

/-- The last packet completes the image. -/
theorem Sending.last (h : Sending fwImage k s) (hk : 0 < k) (hsmall : k < 2 ^ 14)
    (hlt : 64 * k < fwImageSize.toNat) (hsize : fwImageSize.toNat ≤ 64 * k + 64) :
    ∃ s', sendPacket allSucceed fwImage fwImageSize s = .inl s' ∧ s'.offset = fwImageSize ∧
      Reconstructs fwImage fwImageSize.toNat s'.sent := by
  have hoffset := h.offset
  have hlt' : s.offset < fwImageSize := UInt32.lt_iff_toNat_lt.mpr (by omega)
  have hnext : (s.offset + 64).toNat = 64 * k + 64 := by
    rw [UInt32.toNat_add, hoffset]
    change (64 * k + 64) % 2 ^ 32 = _
    omega
  -- the packet has what is left of the image, whether or not it is a whole one
  obtain ⟨size, hpacket, hleft⟩ : ∃ size : UInt32,
      nextPacket fwImageSize s.offset = (transferTypeEnd, size) ∧
        64 * k + size.toNat = fwImageSize.toNat := by
    have hne : s.offset ≠ 0 := by
      rintro hzero
      rw [hzero] at hoffset
      have : 64 * k = 0 := hoffset.symm
      omega
    have hnot : ¬ s.offset + 64 < fwImageSize := by
      rw [UInt32.lt_iff_toNat_lt]
      omega
    by_cases hwhole : s.offset + 64 = fwImageSize
    · refine ⟨64, by rw [nextPacket, if_neg hne, if_neg hnot, if_pos hwhole], ?_⟩
      rw [← hwhole, hnext]
      rfl
    · refine ⟨fwImageSize - s.offset, by rw [nextPacket, if_neg hne, if_neg hnot, if_neg hwhole], ?_⟩
      rw [UInt32.toNat_sub_of_le _ _ (UInt32.le_of_lt hlt'), hoffset]
      omega
  have hstep : sendPacket allSucceed fwImage fwImageSize s = _ := sendPacket_of_lt hlt'
  rw [hpacket] at hstep
  have htype : transferTypeEnd.toNat < 4 := by decide
  refine ⟨_, hstep, UInt32.toNat_inj.mp ?_, ⟨k - 1, h.types_after htype hsmall⟩, ?_, ?_⟩
  · rw [TransferState.after, UInt32.toNat_add, hoffset, hleft]
    exact Nat.mod_eq_of_lt fwImageSize.toNat_lt
  · rw [h.numbers_after htype hsmall, TransferState.after, List.length_append, h.length,
      List.length_singleton]
  · rw [← hleft]
    exact h.data_after (by omega)

/-- From a state after whole packets the loop sends the rest of the image. -/
theorem Sending.returns (h : Sending fwImage k s) (hk : 0 < k) (hlt : 64 * k < fwImageSize.toNat)
    (hsize : fwImageSize.toNat ≤ 2 ^ 20) :
    ∃ sent, Returns (fun fuel => runLoop (sendPacket allSucceed fwImage fwImageSize) fuel s)
      (.success, sent) ∧ Reconstructs fwImage fwImageSize.toNat sent := by
  induction hrest : fwImageSize.toNat - 64 * k using Nat.strong_induction_on generalizing k s with
  | _ rest ih =>
    by_cases hmore : 64 * k + 64 < fwImageSize.toNat
    · obtain ⟨s', hstep, hsending⟩ := h.next hk (by omega) hmore
      obtain ⟨sent, ⟨fuel, hfuel⟩, hreconstructs⟩ :=
        ih _ (by omega) hsending (Nat.succ_pos k) (by omega) rfl
      exact ⟨sent, ⟨fuel + 1, (runLoop_succ_of_inl hstep fuel).trans hfuel⟩, hreconstructs⟩
    · obtain ⟨s', hstep, hend, hreconstructs⟩ := h.last hk (by omega) hlt (by omega)
      have hexit : sendPacket allSucceed fwImage fwImageSize s' = .inr (.success, s'.sent) := by
        rw [sendPacket, hend, if_neg (UInt32.lt_irrefl _)]
      exact ⟨s'.sent, ⟨2, (runLoop_succ_of_inl hstep 1).trans (runLoop_succ_of_inr hexit 0)⟩,
        hreconstructs⟩

end Passes

/-! ### Images that are not sent -/

section Refused

variable {fwImage : Bytes} {fwImageSize : UInt32}

/-- An image of one packet is sent without a last packet. -/
theorem not_reconstructs_of_le (hpos : 0 < fwImageSize.toNat) (hsize : fwImageSize.toNat ≤ 64)
    {sent : List UpdateFwSmallPayload}
    (h : Returns (fun fuel => sendNewFirmwareToDevice fuel allSucceed fwImage fwImageSize)
      (.success, sent)) : ¬ Reconstructs fwImage fwImageSize.toNat sent := by
  have hlt : ({} : TransferState).offset < fwImageSize := UInt32.lt_iff_toNat_lt.mpr hpos
  have hstep : sendPacket allSucceed fwImage fwImageSize {} =
      .inl (TransferState.after {} fwImage transferTypeInitiate 64) := sendPacket_of_lt hlt
  have hexit : sendPacket allSucceed fwImage fwImageSize
      (TransferState.after {} fwImage transferTypeInitiate 64) =
        .inr (.success, (TransferState.after {} fwImage transferTypeInitiate 64).sent) := by
    rw [sendPacket, if_neg]
    rw [UInt32.lt_iff_toNat_lt]
    exact Nat.not_lt.mpr hsize
  have hrun : Returns (fun fuel => sendNewFirmwareToDevice fuel allSucceed fwImage fwImageSize)
      (.success, (TransferState.after {} fwImage transferTypeInitiate 64).sent) :=
    ⟨2, (runLoop_succ_of_inl hstep 1).trans (runLoop_succ_of_inr hexit 0)⟩
  obtain ⟨-, rfl⟩ := Prod.mk.inj (h.unique (fuelMono_runLoop _ _) hrun)
  rintro ⟨⟨m, htypes⟩, -, -⟩
  have hlength := congrArg List.length htypes
  simp [TransferState.after] at hlength

/-- No packet has more than 64 bytes of the image. -/
private theorem toNat_nextPacket_le {offset : UInt32} (h : offset < fwImageSize) :
    (nextPacket fwImageSize offset).2.toNat ≤ 64 := by
  unfold nextPacket
  split_ifs with hfirst hmore hwhole
  · exact Nat.le_refl 64
  · exact Nat.le_refl 64
  · exact Nat.le_refl 64
  · have hsum : (offset + 64).toNat = (offset.toNat + 64) % 2 ^ 32 := UInt32.toNat_add offset 64
    have hlt := UInt32.lt_iff_toNat_lt.mp h
    have hbound := fwImageSize.toNat_lt
    rw [UInt32.lt_iff_toNat_lt] at hmore
    dsimp only
    rw [UInt32.toNat_sub_of_le _ _ (UInt32.le_of_lt h)]
    omega

/-- The packets cover the image when the loop ends. -/
theorem size_le_of_returns {rc : ReturnCode} {sent : List UpdateFwSmallPayload}
    (h : Returns (fun fuel => sendNewFirmwareToDevice fuel allSucceed fwImage fwImageSize)
      (rc, sent)) : fwImageSize.toNat ≤ 64 * sent.length := by
  obtain ⟨fuel, hfuel⟩ := h
  refine runLoop_rule (fun s => s.offset.toNat ≤ 64 * s.sent.length)
    (fun r => fwImageSize.toNat ≤ 64 * r.2.length) ?_ ?_ (Nat.zero_le _) hfuel
  · intro s s' hinv hstep
    by_cases hlt : s.offset < fwImageSize
    · rw [sendPacket_of_lt hlt] at hstep
      obtain rfl := Sum.inl.inj hstep
      have hle := toNat_nextPacket_le hlt
      rw [TransferState.after, UInt32.toNat_add, List.length_append, List.length_singleton]
      have hmod := Nat.mod_le (s.offset.toNat + (nextPacket fwImageSize s.offset).2.toNat) (2 ^ 32)
      omega
    · rw [sendPacket, if_neg hlt] at hstep
      cases hstep
  · intro s r hinv hstep
    by_cases hlt : s.offset < fwImageSize
    · rw [sendPacket_of_lt hlt] at hstep
      cases hstep
    · rw [sendPacket, if_neg hlt] at hstep
      obtain rfl := Sum.inr.inj hstep
      rw [UInt32.lt_iff_toNat_lt] at hlt
      exact (Nat.not_lt.mp hlt).trans hinv

/-- More packets than there are numbers cannot be told apart. -/
theorem not_reconstructs_of_lt {sent : List UpdateFwSmallPayload} {n : ℕ}
    (hlength : 2 ^ 14 < sent.length) : ¬ Reconstructs fwImage n sent := by
  rintro ⟨-, hnumbers, -⟩
  have hmem : sent.length - 1 ∈ sent.map UpdateFwSmallPayload.packetNumber := by
    rw [hnumbers, List.mem_range]
    omega
  obtain ⟨payload, -, hnumber⟩ := List.mem_map.mp hmem
  have hroom := payload.packetNumber_lt
  omega

end Refused

end IxpDimm
