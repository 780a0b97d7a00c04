import IxpDimm.Foundation.ByteMemory
import IxpDimm.Common.ReturnCode

/-!
# The platform config data of a DIMM

The packed structures of `platform_config_data.h`, as bytes from a base address with the places of
their fields.  A platform config data starts with a header of 36 bytes and the size and the offset
of its three sub-tables; a sub-table starts with the same kind of header and ends with a list of
extension tables.

The functions of `platform_config_data.c` for the three sub-tables are copies of each other, with
their own signature, structure size and header fields.  They are one definition here, with the kind
of table as a parameter.
-/

namespace IxpDimm

open Foundation

/-! ### Headers -/

/-- `sizeof (struct config_data_table_header)`. -/
def configDataTableHeaderSize : ℕ := 36

/-- `sizeof (struct platform_config_data)`. -/
def platformConfigDataSize : ℕ := 60

/-- `DEV_PLT_CFG_OEM_PARTITION_SIZE`. -/
def devPltCfgOemPartitionSize : ℕ := 65536

/-- `CHECKSUM_OFFSET`. -/
def checksumOffset : ℕ := 9

/-- `header.signature`. -/
def headerSignature (m : Bytes) : List UInt8 := [m 0, m 1, m 2, m 3]

/-- `header.length`. -/
def headerLength (m : Bytes) : ℕ := readLE m 4 4

/-- `header.revision`. -/
def headerRevision (m : Bytes) : UInt8 := m 8

/-- `PLATFORM_CONFIG_TABLE_SIGNATURE`, `"DMHD"`. -/
def platformConfigTableSignature : List UInt8 := [0x44, 0x4D, 0x48, 0x44]

/-- The length of a header is a 32-bit number. -/
theorem headerLength_lt (m : Bytes) : headerLength m < 2 ^ 32 := readLE_lt m 4 4

/-! ### Checksums -/

/-- `verify_checksum`. -/
def verifyChecksum (m : Bytes) (length : ℕ) : Bool := sumBytes m 0 length == 0

/-- The loop of `generate_checksum`: the sum of the first bytes without the one of the checksum. -/
def sumBytesExcept (m : Bytes) (skip : ℕ) : ℕ → UInt8
  | 0 => 0
  | n + 1 => if n ≠ skip then sumBytesExcept m skip n + m n else sumBytesExcept m skip n

/-- `generate_checksum`. -/
def generateChecksum (m : Bytes) (length checksumOffset : ℕ) : Bytes :=
  Function.update m checksumOffset (0xFF - sumBytesExcept m checksumOffset length + 1)

/-- Up to the checksum nothing is skipped. -/
private theorem sumBytesExcept_of_le (m : Bytes) {skip n : ℕ} (h : n ≤ skip) :
    sumBytesExcept m skip n = sumBytes m 0 n := by
  induction n with
  | zero => rfl
  | succ n ih =>
    rw [sumBytesExcept, if_pos (by omega), ih (by omega), sumBytes, Nat.zero_add]

/-- The sum without the checksum is that of the bytes before and after it. -/
private theorem sumBytesExcept_eq (m : Bytes) (skip k : ℕ) :
    sumBytesExcept m skip (skip + 1 + k) = sumBytes m 0 skip + sumBytes m (skip + 1) k := by
  induction k with
  | zero =>
    rw [Nat.add_zero, sumBytesExcept, if_neg (by omega), sumBytesExcept_of_le m le_rfl, sumBytes,
      UInt8.add_zero]
  | succ k ih =>
    rw [← Nat.add_assoc, sumBytesExcept, if_pos (by omega), ih, sumBytes, UInt8.add_assoc]

/-- After `generate_checksum` the bytes of the table sum to zero. -/
theorem sumBytes_generateChecksum (m : Bytes) {length : ℕ} (h : checksumOffset < length) :
    sumBytes (generateChecksum m length checksumOffset) 0 length = 0 := by
  have hneg : ∀ c : UInt8, 0xFF - c + 1 = 0 - c := by
    intro c
    grind
  have hsum := sumBytesExcept_eq m checksumOffset (length - checksumOffset - 1)
  have hlength : checksumOffset + 1 + (length - checksumOffset - 1) = length := by omega
  rw [hlength] at hsum
  rw [generateChecksum, hneg, hsum]
  have h0 := sumBytes_update_neg m (a := 0) h
  rwa [Nat.zero_add] at h0

/-- `generate_checksum` changes the checksum only. -/
theorem generateChecksum_apply_of_ne (m : Bytes) (length : ℕ) {i : ℕ} (h : i ≠ checksumOffset) :
    generateChecksum m length checksumOffset i = m i :=
  Function.update_of_ne h _ _

/-! ### Sub-tables -/

/-- `enum config_table_type`. -/
inductive TableKind
  | currentConfig | configInput | configOutput
  deriving DecidableEq, Repr

namespace TableKind

/-- `CURRENT_CONFIG_TABLE_SIGNATURE`, `CONFIG_INPUT_TABLE_SIGNATURE` and
`CONFIG_OUTPUT_TABLE_SIGNATURE`: `"CCUR"`, `"CIN_"` and `"COUT"`. -/
def signature : TableKind → List UInt8
  | currentConfig => [0x43, 0x43, 0x55, 0x52]
  | configInput => [0x43, 0x49, 0x4E, 0x5F]
  | configOutput => [0x43, 0x4F, 0x55, 0x54]

/-- `sizeof (struct current_config_table)`, `sizeof (struct config_input_table)` and
`sizeof (struct config_output_table)`. -/
def structSize : TableKind → ℕ
  | currentConfig => 56
  | configInput => 48
  | configOutput => 48

/-- The place of the size of the table in the platform config data. -/
def sizeField : TableKind → ℕ
  | currentConfig => 36
  | configInput => 44
  | configOutput => 52

/-- The place of the offset of the table in the platform config data. -/
def offsetField : TableKind → ℕ
  | currentConfig => 40
  | configInput => 48
  | configOutput => 56

/-- The three kinds, in the order of the platform config data. -/
def all : List TableKind := [currentConfig, configInput, configOutput]

theorem mem_all (kind : TableKind) : kind ∈ all := by cases kind <;> decide

/-- A table is larger than its header. -/
theorem header_lt_structSize (kind : TableKind) : configDataTableHeaderSize < kind.structSize := by
  cases kind <;> decide

/-- The size and the offset of a table are in the platform config data. -/
theorem fields_lt (kind : TableKind) :
    configDataTableHeaderSize ≤ kind.sizeField ∧ kind.sizeField + 4 = kind.offsetField ∧
      kind.offsetField + 4 ≤ platformConfigDataSize := by
  cases kind <;> decide

end TableKind

/-- `current_config_size`, `config_input_size` and `config_output_size`. -/
def tableSize (kind : TableKind) (m : Bytes) : ℕ := readLE m kind.sizeField 4

/-- `current_config_offset`, `config_input_offset` and `config_output_offset`. -/
def tableOffset (kind : TableKind) (m : Bytes) : ℕ := readLE m kind.offsetField 4

/-- The size of a table is a 32-bit number. -/
theorem tableSize_lt (kind : TableKind) (m : Bytes) : tableSize kind m < 2 ^ 32 :=
  readLE_lt m kind.sizeField 4

/-- The common body of the casts; `none` is the null pointer. -/
def castTable (kind : TableKind) (m : Bytes) : Option Bytes :=
  if tableSize kind m > 0 then some (view m (tableOffset kind m)) else none

/-- `cast_current_config`. -/
abbrev castCurrentConfig : Bytes → Option Bytes := castTable .currentConfig

/-- `cast_config_input`. -/
abbrev castConfigInput : Bytes → Option Bytes := castTable .configInput

/-- `cast_config_output`. -/
abbrev castConfigOutput : Bytes → Option Bytes := castTable .configOutput

/-- `sequence_number` of a config input or a config output table. -/
def sequenceNumber (table : Bytes) : ℕ := readLE table 36 4

/-- `validation_status` of a config output table. -/
def validationStatus (table : Bytes) : UInt8 := table 40

/-! ### Extension tables -/

/-- `sizeof (struct extension_table_header)`. -/
def extensionTableHeaderSize : ℕ := 4

/-- `PARTITION_CHANGE_TABLE`. -/
def partitionChangeTable : ℕ := 4

/-- `INTERLEAVE_TABLE`. -/
def interleaveTable : ℕ := 5

/-- `type` of the extension table at an address. -/
def extensionType (m : Bytes) (a : ℕ) : ℕ := readLE m a 2

/-- `length` of the extension table at an address. -/
def extensionLength (m : Bytes) (a : ℕ) : ℕ := readLE m (a + 2) 2

/-- The length of an extension table is a 16-bit number. -/
theorem extensionLength_lt (m : Bytes) (a : ℕ) : extensionLength m a < 2 ^ 16 :=
  readLE_lt m (a + 2) 2

end IxpDimm
