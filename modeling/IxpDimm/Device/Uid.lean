import IxpDimm.Foundation.ByteMemory
import IxpDimm.Common.Text
import Mathlib.Data.List.TakeWhile

/-!
# Devices and their unique ids

The part of `struct device_discovery` that the config goal functions read, and the unique id that
`calculate_device_uid` gives a device.  The id is a text of hexadecimal bytes and dashes; the platform
config data of revision 2 stores it as nine bytes, from which the text is made again.

The bytes keep the manufacturing location and date but not whether they are valid: the two texts are
told apart by these bytes being zero.  The text of a device whose manufacturing data is valid and zero
is therefore lost (`deviceUidBytesToString_ne_uid`), and that of every other device is made again.
-/

namespace IxpDimm

open Foundation

/-! ### Devices -/

/-- `enum manageability_state`. -/
inductive ManageabilityState
  | unknown | validConfig | invalidConfig
  deriving DecidableEq, Repr

/-- `struct device_capabilities`. -/
structure DeviceCapabilities where
  /-- Whether the device supports memory mode. -/
  memoryModeCapable : Bool := false
  /-- Whether the device supports App Direct mode. -/
  appDirectModeCapable : Bool := false
  deriving DecidableEq, Repr

/-- `struct device_discovery`, without the unique id, which is `DeviceDiscovery.uid`. -/
structure DeviceDiscovery where
  /-- The device handle. -/
  deviceHandle : UInt32 := 0
  /-- The vendor identifier. -/
  vendorId : UInt16 := 0
  /-- The memory channel number. -/
  channelId : UInt16 := 0
  /-- The memory controller of the device. -/
  memoryControllerId : UInt16 := 0
  /-- The processor socket of the device. -/
  socketId : UInt16 := 0
  /-- The manufacturer identifier, of `NVM_MANUFACTURER_LEN` bytes. -/
  manufacturer : Vector UInt8 2 := Vector.replicate 2 0
  /-- The serial number, of `NVM_SERIAL_LEN` bytes. -/
  serialNumber : Vector UInt8 4 := Vector.replicate 4 0
  /-- Whether the manufacturing location and date are valid. -/
  manufacturingInfoValid : Bool := false
  /-- The manufacturing location. -/
  manufacturingLocation : UInt8 := 0
  /-- The manufacturing date. -/
  manufacturingDate : UInt16 := 0
  /-- The part number, of `NVM_PART_NUM_LEN` bytes. -/
  partNumber : Vector UInt8 21 := Vector.replicate 21 0
  /-- The raw capacity in bytes. -/
  capacity : UInt64 := 0
  /-- The modes the device supports. -/
  deviceCapabilities : DeviceCapabilities := {}
  /-- Whether the device is manageable. -/
  manageability : ManageabilityState := .validConfig
  deriving DecidableEq, Repr

/-- `device_handle.parts.mem_channel_dimm_num`. -/
def handleDimmNum (handle : UInt32) : UInt32 := handle &&& 0xF
/-- `device_handle.parts.mem_channel_id`. -/
def handleChannelId (handle : UInt32) : UInt32 := handle >>> 4 &&& 0xF
/-- `device_handle.parts.memory_controller_id`. -/
def handleMemoryControllerId (handle : UInt32) : UInt32 := handle >>> 8 &&& 0xF
/-- `device_handle.parts.socket_id`. -/
def handleSocketId (handle : UInt32) : UInt32 := handle >>> 12 &&& 0xF

/-! ### Hexadecimal texts -/

/-- A digit of `%x`. -/
def hexDigit (v : ℕ) : Char := Char.ofNat (if v < 10 then 48 + v else 87 + v)

/-- The last digits of `%0nx`. -/
def hexDigits : ℕ → ℕ → List Char
  | 0, _ => []
  | n + 1, v => hexDigits n (v / 16) ++ [hexDigit (v % 16)]

/-- The value of a hexadecimal digit. -/
def hexValue (c : Char) : Option ℕ :=
  if '0' ≤ c ∧ c ≤ '9' then some (c.toNat - 48)
  else if 'a' ≤ c ∧ c ≤ 'f' then some (c.toNat - 87)
  else if 'A' ≤ c ∧ c ≤ 'F' then some (c.toNat - 55)
  else none

/-- `isspace`. -/
def isSpace (c : Char) : Bool := c = ' ' ∨ ('\t' ≤ c ∧ c ≤ '\r')

/-- The two characters of a sign or a prefix and a digit, or of two digits. -/
def scanPair (c d : Char) (text : List Char) : Option (UInt8 × List Char) :=
  match hexValue c, hexValue d with
  | some x, some y => some (UInt8.ofNat (16 * x + y), text)
  | some x, none => if c = '0' ∧ (d = 'x' ∨ d = 'X') then none else some (UInt8.ofNat x, d :: text)
  | none, some y =>
    if c = '+' then some (UInt8.ofNat y, text)
    else if c = '-' then some (0 - UInt8.ofNat y, text)
    else none
  | none, none => none

/-- The conversion `%02hhx` of `sscanf`: the byte and what is left of the text. -/
def scanByte (text : List Char) : Option (UInt8 × List Char) :=
  match text.dropWhile isSpace with
  | [] => none
  | [c] => (hexValue c).map fun x => (UInt8.ofNat x, [])
  | c :: d :: text => scanPair c d text

/-- A part of a format: `%02hhx` or a dash. -/
inductive UidDirective
  | byte | dash
  deriving DecidableEq, Repr

/-- `DEVICE_UID_FORMAT_WITH_MANUFACTURING`. -/
def deviceUidFormatWithManufacturing : List UidDirective :=
  [.byte, .byte, .dash, .byte, .dash, .byte, .byte, .dash, .byte, .byte, .byte, .byte]

/-- `DEVICE_UID_FORMAT_WITHOUT_MANUFACTURING`. -/
def deviceUidFormatWithoutManufacturing : List UidDirective :=
  [.byte, .byte, .dash, .byte, .byte, .byte, .byte]

/-- `sscanf` with a format: the bytes that are assigned before the first failure. -/
def scanUid : List UidDirective → List Char → List UInt8
  | [], _ => []
  | .byte :: format, text =>
    match scanByte text with
    | some (b, text) => b :: scanUid format text
    | none => []
  | .dash :: format, text =>
    match text with
    | '-' :: text => scanUid format text
    | _ => []

/-- `s_snprintf` with a format. -/
def printUid : List UidDirective → List UInt8 → List Char
  | .byte :: format, b :: bytes => hexDigits 2 b.toNat ++ printUid format bytes
  | .dash :: format, bytes => '-' :: printUid format bytes
  | _, _ => []

/-! ### The unique id of a device -/

/-- `swap_bytes` of a serial number. -/
def swapBytes (serial : Vector UInt8 4) : Vector UInt8 4 := serial.reverse

/-- The serial number whose first byte is given and whose other bytes are zero. -/
def smallSerial (first : UInt8) : Vector UInt8 4 := #v[first, 0, 0, 0]

/-- `calculate_uid_without_manufacturing_info`. -/
def calculateUidWithoutManufacturingInfo (vendorId : UInt16) (serial : Vector UInt8 4) : Uid :=
  hexDigits 4 vendorId.toNat ++ '-' :: hexDigits 2 serial[3].toNat ++ hexDigits 2 serial[2].toNat ++
    hexDigits 2 serial[1].toNat ++ hexDigits 2 serial[0].toNat

/-- `calculate_uid_with_valid_manufacturing_info`. -/
def calculateUidWithValidManufacturingInfo (vendorId : UInt16) (serial : Vector UInt8 4)
    (location : UInt8) (date : UInt16) : Uid :=
  hexDigits 4 vendorId.toNat ++ '-' :: hexDigits 2 location.toNat ++
    '-' :: hexDigits 4 date.toNat ++ '-' :: hexDigits 2 serial[3].toNat ++
    hexDigits 2 serial[2].toNat ++ hexDigits 2 serial[1].toNat ++ hexDigits 2 serial[0].toNat

/-- `calculate_device_uid`, which every device that is listed has gone through. -/
def DeviceDiscovery.uid (device : DeviceDiscovery) : Uid :=
  if device.manufacturingInfoValid then
    calculateUidWithValidManufacturingInfo device.vendorId (swapBytes device.serialNumber)
      device.manufacturingLocation device.manufacturingDate
  else calculateUidWithoutManufacturingInfo device.vendorId (swapBytes device.serialNumber)

/-! ### The bytes of a unique id -/

/-- `convert_uid_with_manufacturing_data_to_bytes`: the result and the bytes. -/
def convertUidWithManufacturingDataToBytes (uid : Uid) : Bool × List UInt8 :=
  let filled := scanUid deviceUidFormatWithManufacturing (cString uid)
  (filled.length == 9, filled ++ List.replicate (9 - filled.length) 0)

/-- `convert_uid_without_manufacturing_data_to_bytes`: the result and the bytes. -/
def convertUidWithoutManufacturingDataToBytes (uid : Uid) : Bool × List UInt8 :=
  let filled := scanUid deviceUidFormatWithoutManufacturing (cString uid)
  let b := ofList filled
  (filled.length == 6, [b 0, b 1, 0, 0, 0, b 2, b 3, b 4, b 5])

/-- `device_uid_string_to_bytes` into the nine bytes of a dimm identifier. -/
def deviceUidStringToBytes (uid : Uid) : List UInt8 :=
  if (convertUidWithManufacturingDataToBytes uid).1 then
    (convertUidWithManufacturingDataToBytes uid).2
  else (convertUidWithoutManufacturingDataToBytes uid).2

/-- `uid_manufacturing_bytes_empty`. -/
def uidManufacturingBytesEmpty (p : Bytes) : Bool := p 2 == 0 && p 3 == 0 && p 4 == 0

/-- `device_uid_bytes_to_string` from the nine bytes of a dimm identifier. -/
def deviceUidBytesToString (p : Bytes) : Uid :=
  if uidManufacturingBytesEmpty p then
    printUid deviceUidFormatWithoutManufacturing [p 0, p 1, p 5, p 6, p 7, p 8]
  else printUid deviceUidFormatWithManufacturing
    [p 0, p 1, p 2, p 3, p 4, p 5, p 6, p 7, p 8]

/-- The text depends on the nine bytes only. -/
theorem deviceUidBytesToString_congr {p q : Bytes} (h : SameBytes p q 0 9) :
    deviceUidBytesToString p = deviceUidBytesToString q := by
  have hbyte : ∀ i, i < 9 → p i = q i := fun i hi => h i (Nat.zero_le i) (by omega)
  unfold deviceUidBytesToString uidManufacturingBytesEmpty
  rw [hbyte 0 (by omega), hbyte 1 (by omega), hbyte 2 (by omega), hbyte 3 (by omega),
    hbyte 4 (by omega), hbyte 5 (by omega), hbyte 6 (by omega), hbyte 7 (by omega),
    hbyte 8 (by omega)]

/-! ### Texts read back -/

/-- A digit has its value, and is neither a blank, a dash nor the end of a text. -/
private theorem hexDigit_spec (v : Fin 16) :
    hexValue (hexDigit v) = some v.val ∧ isSpace (hexDigit v) = false ∧ hexDigit v ≠ '-' ∧
      hexDigit v ≠ '\x00' := by
  revert v
  decide

/-- The two digits of a byte. -/
private theorem hexDigits_byte (b : UInt8) :
    ∃ high low : Fin 16, hexDigits 2 b.toNat = [hexDigit high, hexDigit low] ∧
      16 * high.val + low.val = b.toNat := by
  have hlt := b.toNat_lt
  refine ⟨⟨b.toNat / 16, by omega⟩, ⟨b.toNat % 16, by omega⟩, ?_, by dsimp only; omega⟩
  have hmod : b.toNat / 16 % 16 = b.toNat / 16 := by omega
  simp [hexDigits, hmod]

/-- The digits of a 16-bit number are those of its two bytes. -/
private theorem hexDigits_four (v : UInt16) :
    hexDigits 4 v.toNat =
      hexDigits 2 (v >>> 8).toUInt8.toNat ++ hexDigits 2 v.toUInt8.toNat := by
  have hlt := v.toNat_lt
  have hhigh : (v >>> 8).toUInt8.toNat = v.toNat / 256 := by
    rw [UInt16.toNat_toUInt8, UInt16.toNat_shiftRight]
    show v.toNat >>> 8 % 256 = _
    rw [Nat.shiftRight_eq_div_pow]
    omega
  have hlow : v.toUInt8.toNat = v.toNat % 256 := UInt16.toNat_toUInt8 v
  have h₁ : v.toNat / 16 / 16 / 16 % 16 = v.toNat / 256 / 16 % 16 := by omega
  have h₂ : v.toNat / 16 / 16 % 16 = v.toNat / 256 % 16 := by omega
  have h₃ : v.toNat / 16 % 16 = v.toNat % 256 / 16 % 16 := by omega
  have h₄ : v.toNat % 16 = v.toNat % 256 % 16 := by omega
  rw [hhigh, hlow]
  simp only [hexDigits, List.nil_append, List.cons_append]
  rw [h₁, h₂, h₃, ← h₄]

/-- A byte that was printed is read back. -/
private theorem scanByte_hexDigits (b : UInt8) (text : List Char) :
    scanByte (hexDigits 2 b.toNat ++ text) = some (b, text) := by
  obtain ⟨high, low, hdigits, hvalue⟩ := hexDigits_byte b
  obtain ⟨hhigh, hspace, -, -⟩ := hexDigit_spec high
  obtain ⟨hlow, -, -, -⟩ := hexDigit_spec low
  have hdrop : (hexDigit high :: hexDigit low :: text).dropWhile isSpace =
      hexDigit high :: hexDigit low :: text := by
    rw [List.dropWhile_cons_of_neg (by rw [hspace]; decide)]
  rw [hdigits, List.cons_append, List.cons_append, List.nil_append, scanByte, hdrop]
  dsimp only
  rw [scanPair, hhigh, hlow]
  dsimp only
  rw [hvalue, UInt8.ofNat_toNat]

/-- The bytes that were printed are read back. -/
theorem scanUid_printUid (format : List UidDirective) (bytes : List UInt8)
    (h : bytes.length = format.count .byte) : scanUid format (printUid format bytes) = bytes := by
  induction format generalizing bytes with
  | nil =>
    obtain rfl := List.eq_nil_of_length_eq_zero h
    rfl
  | cons directive format ih =>
    cases directive with
    | byte =>
      obtain _ | ⟨b, bytes⟩ := bytes
      · simp at h
      · rw [List.count_cons_self, List.length_cons, Nat.add_right_cancel_iff] at h
        rw [printUid, scanUid, scanByte_hexDigits]
        dsimp only
        rw [ih bytes h]
    | dash =>
      rw [List.count_cons_of_ne (by decide)] at h
      rw [printUid, scanUid, ih bytes h]

/-- No printed text ends early. -/
private theorem cString_printUid (format : List UidDirective) (bytes : List UInt8) :
    cString (printUid format bytes) = printUid format bytes := by
  unfold cString
  refine List.takeWhile_eq_self_iff.mpr ?_
  induction format generalizing bytes with
  | nil => simp [printUid]
  | cons directive format ih =>
    cases directive with
    | byte =>
      cases bytes with
      | nil => simp [printUid]
      | cons b bytes =>
        obtain ⟨high, low, hdigits, -⟩ := hexDigits_byte b
        have hhigh := (hexDigit_spec high).2.2.2
        have hlow := (hexDigit_spec low).2.2.2
        rw [printUid, hdigits]
        simpa [hhigh, hlow] using ih bytes
    | dash =>
      rw [printUid]
      simpa using ih bytes

/-- A printed text has two characters for each byte of its format, and one for each dash. -/
private theorem length_printUid_le (format : List UidDirective) (bytes : List UInt8) :
    (printUid format bytes).length ≤ 2 * format.count .byte + format.count .dash := by
  induction format generalizing bytes with
  | nil => simp [printUid]
  | cons directive format ih =>
    cases directive with
    | byte =>
      cases bytes with
      | nil => simp [printUid]
      | cons b bytes =>
        obtain ⟨high, low, hdigits, -⟩ := hexDigits_byte b
        have hrest := ih bytes
        rw [printUid, hdigits, List.length_append, List.length_cons, List.length_cons,
          List.length_nil, List.count_cons_self, List.count_cons_of_ne (by decide)]
        omega
    | dash =>
      have hrest := ih bytes
      rw [printUid, List.length_cons, List.count_cons_self, List.count_cons_of_ne (by decide)]
      omega

/-- A text that is printed with one of the formats is compared as a whole. -/
theorem uidKey_printUid {format : List UidDirective}
    (h : 2 * format.count .byte + format.count .dash ≤ commonUidLen) (bytes : List UInt8) :
    (cString (printUid format bytes)).take commonUidLen = printUid format bytes := by
  have hlength := length_printUid_le format bytes
  rw [cString_printUid, List.take_of_length_le (hlength.trans h)]

/-- The text that is made from bytes is compared as a whole. -/
theorem uidKey_deviceUidBytesToString (p : Bytes) :
    (cString (deviceUidBytesToString p)).take commonUidLen = deviceUidBytesToString p := by
  unfold deviceUidBytesToString
  split_ifs <;> exact uidKey_printUid (by decide) _

/-! ### The text of a device -/

/-- The two bytes of a 16-bit number, most significant first. -/
def bigEndian (v : UInt16) : List UInt8 := [(v >>> 8).toUInt8, v.toUInt8]

namespace DeviceDiscovery

variable (device : DeviceDiscovery)

/-- The serial number in the order of the text. -/
def serialBytes : List UInt8 :=
  [device.serialNumber[0], device.serialNumber[1], device.serialNumber[2], device.serialNumber[3]]

/-- The manufacturing location and date in the order of the text. -/
def manufacturingBytes : List UInt8 :=
  device.manufacturingLocation :: bigEndian device.manufacturingDate

/-- The text of a device is not empty. -/
theorem uid_ne_nil : device.uid ≠ [] := by
  unfold uid calculateUidWithValidManufacturingInfo calculateUidWithoutManufacturingInfo
  split_ifs <;> simp

/-- The text of a device with valid manufacturing data. -/
private theorem uid_of_valid (h : device.manufacturingInfoValid = true) :
    device.uid = printUid deviceUidFormatWithManufacturing
      (bigEndian device.vendorId ++ device.manufacturingBytes ++ device.serialBytes) := by
  rw [uid, if_pos h, calculateUidWithValidManufacturingInfo, hexDigits_four, hexDigits_four]
  simp [deviceUidFormatWithManufacturing, printUid, bigEndian, manufacturingBytes, serialBytes,
    swapBytes]

/-- The text of a device without valid manufacturing data. -/
private theorem uid_of_not_valid (h : device.manufacturingInfoValid = false) :
    device.uid = printUid deviceUidFormatWithoutManufacturing
      (bigEndian device.vendorId ++ device.serialBytes) := by
  rw [uid, if_neg (by rw [h]; decide), calculateUidWithoutManufacturingInfo, hexDigits_four]
  simp [deviceUidFormatWithoutManufacturing, printUid, bigEndian, serialBytes, swapBytes]

end DeviceDiscovery

/-- A text without manufacturing data is not read with the format that has it: there is no dash
behind the third byte. -/
private theorem scanUid_without (b₀ b₁ b₂ b₃ b₄ b₅ : UInt8) :
    scanUid deviceUidFormatWithManufacturing
      (printUid deviceUidFormatWithoutManufacturing [b₀, b₁, b₂, b₃, b₄, b₅]) = [b₀, b₁, b₂] := by
  obtain ⟨high, low, hdigits, -⟩ := hexDigits_byte b₃
  have hdash := (hexDigit_spec high).2.2.1
  simp only [deviceUidFormatWithManufacturing, deviceUidFormatWithoutManufacturing, printUid, scanUid,
    scanByte_hexDigits]
  rw [hdigits, List.cons_append, List.cons_append]
  split
  · next heq => exact absurd (List.cons.inj heq).1 hdash
  · rfl

/-- The text without manufacturing data is read with the format that does not have it. -/
private theorem deviceUidStringToBytes_without (b₀ b₁ b₂ b₃ b₄ b₅ : UInt8) :
    deviceUidStringToBytes
      (printUid deviceUidFormatWithoutManufacturing [b₀, b₁, b₂, b₃, b₄, b₅]) =
      [b₀, b₁, 0, 0, 0, b₂, b₃, b₄, b₅] := by
  have hscan := scanUid_printUid deviceUidFormatWithoutManufacturing [b₀, b₁, b₂, b₃, b₄, b₅] rfl
  simp only [deviceUidStringToBytes, convertUidWithManufacturingDataToBytes,
    convertUidWithoutManufacturingDataToBytes, cString_printUid, scanUid_without, hscan]
  rfl

/-- The text with manufacturing data is read with the format that has it. -/
private theorem deviceUidStringToBytes_with {bytes : List UInt8} (h : bytes.length = 9) :
    deviceUidStringToBytes (printUid deviceUidFormatWithManufacturing bytes) = bytes := by
  have hscan := scanUid_printUid deviceUidFormatWithManufacturing bytes h
  simp [deviceUidStringToBytes, convertUidWithManufacturingDataToBytes, cString_printUid, hscan, h]

/-- The text that is made from nine bytes is read back as these bytes. -/
theorem deviceUidStringToBytes_deviceUidBytesToString (p : Bytes) :
    deviceUidStringToBytes (deviceUidBytesToString p) =
      [p 0, p 1, p 2, p 3, p 4, p 5, p 6, p 7, p 8] := by
  unfold deviceUidBytesToString
  split_ifs with hempty
  · rw [deviceUidStringToBytes_without]
    simp only [uidManufacturingBytesEmpty, Bool.and_eq_true, beq_iff_eq] at hempty
    obtain ⟨⟨h₂, h₃⟩, h₄⟩ := hempty
    rw [h₂, h₃, h₄]
  · exact deviceUidStringToBytes_with rfl

namespace DeviceDiscovery

variable (device : DeviceDiscovery)

/-- The nine bytes of the unique id of a device. -/
theorem deviceUidStringToBytes_uid :
    deviceUidStringToBytes device.uid = bigEndian device.vendorId ++
      (if device.manufacturingInfoValid then device.manufacturingBytes else [0, 0, 0]) ++
      device.serialBytes := by
  cases hvalid : device.manufacturingInfoValid with
  | true =>
    rw [device.uid_of_valid hvalid, deviceUidStringToBytes_with rfl, if_pos rfl]
  | false =>
    rw [device.uid_of_not_valid hvalid]
    exact deviceUidStringToBytes_without _ _ _ _ _ _

/-- The manufacturing data of a device is said to be valid and is zero. -/
def HasBlankManufacturingInfo : Prop :=
  device.manufacturingInfoValid = true ∧ device.manufacturingLocation = 0 ∧
    device.manufacturingDate = 0

instance : Decidable device.HasBlankManufacturingInfo :=
  inferInstanceAs (Decidable (_ ∧ _ ∧ _))

/-- The bytes of a 16-bit number are zero exactly when it is. -/
private theorem bigEndian_eq_zero_iff (v : UInt16) : bigEndian v = [0, 0] ↔ v = 0 := by
  constructor
  · intro h
    have hlt := v.toNat_lt
    have hhigh : (v >>> 8).toUInt8.toNat = 0 := by
      rw [(List.cons.inj h).1]
      rfl
    have hlow : v.toUInt8.toNat = 0 := by
      rw [(List.cons.inj (List.cons.inj h).2).1]
      rfl
    rw [UInt16.toNat_toUInt8] at hhigh hlow
    rw [UInt16.toNat_shiftRight] at hhigh
    change v.toNat >>> 8 % 256 = 0 at hhigh
    rw [Nat.shiftRight_eq_div_pow] at hhigh
    exact UInt16.toNat_inj.mp (by show v.toNat = 0; omega)
  · rintro rfl
    rfl

/-- The text of a device is compared as a whole. -/
theorem uidKey_uid : (cString device.uid).take commonUidLen = device.uid := by
  cases hvalid : device.manufacturingInfoValid with
  | true =>
    rw [device.uid_of_valid hvalid]
    exact uidKey_printUid (by decide) _
  | false =>
    rw [device.uid_of_not_valid hvalid]
    exact uidKey_printUid (by decide) _

/-- The text of a device does not end early. -/
theorem cString_uid : cString device.uid = device.uid := by
  cases hvalid : device.manufacturingInfoValid with
  | true =>
    rw [device.uid_of_valid hvalid]
    exact cString_printUid _ _
  | false =>
    rw [device.uid_of_not_valid hvalid]
    exact cString_printUid _ _

/-- The text of a device is shorter than the arrays it is copied to. -/
theorem length_uid_lt : device.uid.length < 36 := by
  rw [uid]
  split_ifs
  · simp [calculateUidWithValidManufacturingInfo, hexDigits]
  · simp [calculateUidWithoutManufacturingInfo, hexDigits]

/-- Unless the manufacturing data is blank, the text is made again from its bytes. -/
theorem deviceUidBytesToString_uid (h : ¬ device.HasBlankManufacturingInfo) {p : Bytes}
    (hp : SameBytes p (ofList (deviceUidStringToBytes device.uid)) 0 9) :
    deviceUidBytesToString p = device.uid := by
  rw [deviceUidBytesToString_congr hp, device.deviceUidStringToBytes_uid]
  unfold deviceUidBytesToString uidManufacturingBytesEmpty
  cases hvalid : device.manufacturingInfoValid with
  | true =>
    have hsome : ¬ (device.manufacturingLocation = 0 ∧ bigEndian device.manufacturingDate = [0, 0]) :=
      fun hblank => h ⟨hvalid, hblank.1, (bigEndian_eq_zero_iff _).mp hblank.2⟩
    rw [device.uid_of_valid hvalid, if_neg]
    · rfl
    · intro hzero
      refine hsome ?_
      simpa [ofList, bigEndian, manufacturingBytes, and_assoc] using hzero
  | false =>
    rw [device.uid_of_not_valid hvalid, if_pos]
    · rfl
    · simp [ofList, bigEndian]

/-- With blank manufacturing data, the text is not made from any bytes. -/
theorem deviceUidBytesToString_ne_uid (h : device.HasBlankManufacturingInfo) (p : Bytes) :
    deviceUidBytesToString p ≠ device.uid := by
  obtain ⟨hvalid, hlocation, hdate⟩ := h
  intro heq
  have hscan := scanUid_printUid deviceUidFormatWithManufacturing
    (bigEndian device.vendorId ++ device.manufacturingBytes ++ device.serialBytes) rfl
  rw [← device.uid_of_valid hvalid, ← heq, deviceUidBytesToString, manufacturingBytes, hlocation,
    hdate] at hscan
  split_ifs at hscan with hempty
  · rw [scanUid_without] at hscan
    simpa [bigEndian, serialBytes] using congrArg List.length hscan
  · rw [scanUid_printUid _ _ rfl] at hscan
    refine hempty ?_
    simp only [bigEndian, serialBytes, List.cons_append, List.nil_append, List.cons.injEq] at hscan
    simp [uidManufacturingBytesEmpty, hscan]

/-- A 16-bit number is read off its bytes. -/
private theorem bigEndian_inj {v w : UInt16} (h : bigEndian v = bigEndian w) : v = w := by
  have hbytes : ∀ u : UInt16, (u >>> 8).toUInt8.toNat = u.toNat / 256 ∧
      u.toUInt8.toNat = u.toNat % 256 := by
    intro u
    have hlt := u.toNat_lt
    refine ⟨?_, UInt16.toNat_toUInt8 u⟩
    rw [UInt16.toNat_toUInt8, UInt16.toNat_shiftRight]
    show u.toNat >>> 8 % 256 = _
    rw [Nat.shiftRight_eq_div_pow]
    omega
  have hhigh := congrArg UInt8.toNat (List.cons.inj h).1
  have hlow := congrArg UInt8.toNat (List.cons.inj (List.cons.inj h).2).1
  rw [(hbytes v).1, (hbytes w).1] at hhigh
  rw [(hbytes v).2, (hbytes w).2] at hlow
  apply UInt16.toNat_inj.mp
  omega

/-- A serial number is read off its bytes. -/
private theorem serialBytes_inj {device' : DeviceDiscovery}
    (h : device.serialBytes = device'.serialBytes) :
    device.serialNumber = device'.serialNumber := by
  simp only [serialBytes, List.cons.injEq, and_true] at h
  obtain ⟨h0, h1, h2, h3⟩ := h
  apply Vector.ext
  intro i hi
  obtain rfl | rfl | rfl | rfl : i = 0 ∨ i = 1 ∨ i = 2 ∨ i = 3 := by omega
  · exact h0
  · exact h1
  · exact h2
  · exact h3

/-- The number of bytes that the format with manufacturing data reads of the text of a device. -/
theorem length_scanUid_uid :
    (scanUid deviceUidFormatWithManufacturing device.uid).length =
      if device.manufacturingInfoValid then 9 else 3 := by
  cases hvalid : device.manufacturingInfoValid with
  | true =>
    rw [device.uid_of_valid hvalid, scanUid_printUid _ _ rfl]
    rfl
  | false =>
    rw [device.uid_of_not_valid hvalid]
    exact congrArg List.length (scanUid_without _ _ _ _ _ _)

/-- What is in the text of a device is read off it. -/
theorem uid_inj {device device' : DeviceDiscovery} (h : device.uid = device'.uid) :
    device.vendorId = device'.vendorId ∧
      device.manufacturingInfoValid = device'.manufacturingInfoValid ∧
      (device.manufacturingInfoValid = true →
        device.manufacturingLocation = device'.manufacturingLocation ∧
          device.manufacturingDate = device'.manufacturingDate) ∧
      device.serialNumber = device'.serialNumber := by
  have hlength := device.length_scanUid_uid
  rw [h, device'.length_scanUid_uid] at hlength
  cases hvalid : device.manufacturingInfoValid with
  | true =>
    cases hvalid' : device'.manufacturingInfoValid with
    | false =>
      rw [hvalid, hvalid'] at hlength
      cases hlength
    | true =>
      rw [device.uid_of_valid hvalid, device'.uid_of_valid hvalid'] at h
      have hbytes := congrArg (scanUid deviceUidFormatWithManufacturing) h
      rw [scanUid_printUid _ _ rfl, scanUid_printUid _ _ rfl] at hbytes
      obtain ⟨hfirst, hserial⟩ := List.append_inj hbytes rfl
      obtain ⟨hvendor, hmanufacturing⟩ := List.append_inj hfirst rfl
      obtain ⟨hlocation, hdate⟩ := List.cons.inj hmanufacturing
      exact ⟨bigEndian_inj hvendor, rfl, fun _ => ⟨hlocation, bigEndian_inj hdate⟩,
        device.serialBytes_inj hserial⟩
  | false =>
    cases hvalid' : device'.manufacturingInfoValid with
    | true =>
      rw [hvalid, hvalid'] at hlength
      cases hlength
    | false =>
      rw [device.uid_of_not_valid hvalid, device'.uid_of_not_valid hvalid'] at h
      have hbytes := congrArg (scanUid deviceUidFormatWithoutManufacturing) h
      rw [scanUid_printUid _ _ rfl, scanUid_printUid _ _ rfl] at hbytes
      obtain ⟨hvendor, hserial⟩ := List.append_inj hbytes rfl
      exact ⟨bigEndian_inj hvendor, rfl, nofun, device.serialBytes_inj hserial⟩


/-! ### The text of a device and its bytes -/

/-- `device_uid_string_to_bytes` succeeds for the text of a device. -/
private theorem isRead_uid :
    (convertUidWithManufacturingDataToBytes device.uid).1 = true ∨
      (convertUidWithoutManufacturingDataToBytes device.uid).1 = true := by
  cases hvalid : device.manufacturingInfoValid with
  | true =>
    have hlength := device.length_scanUid_uid
    rw [hvalid, if_pos rfl] at hlength
    left
    rw [convertUidWithManufacturingDataToBytes, cString_uid, hlength]
    rfl
  | false =>
    right
    rw [convertUidWithoutManufacturingDataToBytes, cString_uid, device.uid_of_not_valid hvalid,
      scanUid_printUid _ _ rfl]
    rfl

/-- The text of a device is parsed to its fields, and made again from the bytes. -/
structure UidReadsBack : Prop where
  /-- `device_uid_string_to_bytes` succeeds. -/
  isRead : (convertUidWithManufacturingDataToBytes device.uid).1 = true ∨
    (convertUidWithoutManufacturingDataToBytes device.uid).1 = true
  /-- The bytes are the vendor, the manufacturing data if it is valid, and the serial number. -/
  fields : deviceUidStringToBytes device.uid = bigEndian device.vendorId ++
    (if device.manufacturingInfoValid then device.manufacturingBytes else [0, 0, 0]) ++
    device.serialBytes
  /-- `device_uid_bytes_to_string` makes the same text from them. -/
  text : ∀ p, SameBytes p (ofList (deviceUidStringToBytes device.uid)) 0 9 →
    deviceUidBytesToString p = device.uid

end DeviceDiscovery

/-- The text of a device is read back exactly when its manufacturing data is not valid and zero at
the same time. -/
theorem uidReadsBack_iff (device : DeviceDiscovery) :
    device.UidReadsBack ↔ ¬ device.HasBlankManufacturingInfo := by
  constructor
  · intro h hblank
    have htext := h.text _ fun i _ _ => rfl
    exact device.deviceUidBytesToString_ne_uid hblank _ htext
  · intro h
    refine ⟨device.isRead_uid, device.deviceUidStringToBytes_uid, ?_⟩
    intro p hp
    exact device.deviceUidBytesToString_uid h hp

/-- A device with manufacturing data of location zero and date zero is not. -/
theorem not_uidReadsBack_blank : ¬ ∀ device : DeviceDiscovery, device.UidReadsBack := by
  intro h
  have hblank : ({ manufacturingInfoValid := true } : DeviceDiscovery).HasBlankManufacturingInfo :=
    ⟨rfl, rfl, rfl⟩
  have htext := (h { manufacturingInfoValid := true }).text _ fun i _ _ => rfl
  exact DeviceDiscovery.deviceUidBytesToString_ne_uid _ hblank _ htext

end IxpDimm
