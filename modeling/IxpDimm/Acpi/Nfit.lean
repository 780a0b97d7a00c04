import IxpDimm.Foundation.WhileLoop
import IxpDimm.Foundation.Packed

/-!
# Parsing the NFIT

The NVDIMM firmware interface table is a header and, behind it, sub-tables ("extension tables") of
several types, each of which starts with its type and its length.  `nfitParseRawNfit` copies the
header and walks along the sub-tables; of a sub-table whose type it knows it copies the structure
the type has, and it skips the others.

The parser sees the buffer as memory from the buffer's address on, of which the table occupies the
first `bufferSize` bytes.  Every range it reads is recorded, so that a read outside of the table can
be told.
-/

namespace IxpDimm

open Foundation

/-- `enum nfit_error`, as far as the parser returns it. -/
inductive NfitError
  /-- `NFIT_SUCCESS`. -/
  | success
  /-- `NFIT_ERR_BADINPUT`. -/
  | badInput
  /-- `NFIT_ERR_BADNFIT`. -/
  | badNfit
  deriving DecidableEq, Repr

/-- The types of sub-tables the parser knows. -/
inductive SubTable
  | spa
  | regionMapping
  | interleave
  | smbiosManagementInfo
  | controlRegion
  | blockDataWindowRegion
  | flushHintAddress
  deriving DecidableEq, Repr

/-- The type a sub-table of a kind carries. -/
def SubTable.type : SubTable → ℕ
  | .spa => 0
  | .regionMapping => 1
  | .interleave => 2
  | .smbiosManagementInfo => 3
  | .controlRegion => 4
  | .blockDataWindowRegion => 5
  | .flushHintAddress => 6

/-- The size of the packed structure of a kind: `struct spa` and its siblings.  The structures end
with the last field of fixed size, that is before the line offsets of an `interleave` and before the
addresses of a `flush_hint_address`. -/
def SubTable.structSize : SubTable → ℕ
  | .spa => 56
  | .regionMapping => 48
  | .interleave => 16
  | .smbiosManagementInfo => 8
  | .controlRegion => 80
  | .blockDataWindowRegion => 40
  | .flushHintAddress => 16

/-- The size of `struct nfit`, the header. -/
def nfitHeaderSize : ℕ := 40

/-- `struct parsed_nfit`: the header and one list of structures for each kind of sub-table. -/
@[ext]
structure ParsedNfit where
  /-- The header. -/
  nfit : List UInt8
  /-- `spa_list` and its siblings; the counts are the lengths. -/
  list : SubTable → List (List UInt8)

/-- The state of the walk: where it is, what it has copied, and the ranges (address and size) it has
read so far. -/
structure NfitWalk where
  /-- `offset`. -/
  offset : ℕ
  /-- `*pp_parsed_nfit`. -/
  parsed : ParsedNfit
  /-- The ranges of the buffer that were read. -/
  reads : List (ℕ × ℕ)

/-- What the parser returns: its code, the parsed table unless it was freed, and the ranges of the
buffer it read. -/
structure NfitResult where
  /-- The return code. -/
  error : NfitError
  /-- `*pp_parsed_nfit`. -/
  parsed : Option ParsedNfit
  /-- The ranges of the buffer that were read. -/
  reads : List (ℕ × ℕ)

/-- `add_…_to_parsed_nfit`: one more structure of a kind, copied from the current offset. -/
def addToParsedNfit (t : SubTable) (buffer : Bytes) (w : NfitWalk) : NfitWalk :=
  { w with
    parsed :=
      { w.parsed with
        list := Function.update w.parsed.list t
          (w.parsed.list t ++ [bytesAt buffer w.offset t.structSize]) }
    reads := w.reads ++ [(w.offset, t.structSize)] }

/-- `add_spa_to_parsed_nfit`. -/
def addSpaToParsedNfit := addToParsedNfit .spa

/-- `add_region_mapping_to_parsed_nfit`. -/
def addRegionMappingToParsedNfit := addToParsedNfit .regionMapping

/-- `add_interleave_to_parsed_nfit`. -/
def addInterleaveToParsedNfit := addToParsedNfit .interleave

/-- `add_smbios_management_info_to_parsed_nfit`. -/
def addSmbiosManagementInfoToParsedNfit := addToParsedNfit .smbiosManagementInfo

/-- `add_control_region_to_parsed_nfit`. -/
def addControlRegionToParsedNfit := addToParsedNfit .controlRegion

/-- `add_block_data_window_region_to_parsed_nfit`. -/
def addBlockDataWindowRegionToParsedNfit := addToParsedNfit .blockDataWindowRegion

/-- `add_flush_hint_address_to_parsed_nfit`. -/
def addFlushHintAddressToParsedNfit := addToParsedNfit .flushHintAddress

/-- The `switch` on the type of a sub-table. -/
def createExtensionTable (type : ℕ) (buffer : Bytes) (w : NfitWalk) : NfitWalk :=
  match type with
  | 0 => addSpaToParsedNfit buffer w
  | 1 => addRegionMappingToParsedNfit buffer w
  | 2 => addInterleaveToParsedNfit buffer w
  | 3 => addSmbiosManagementInfoToParsedNfit buffer w
  | 4 => addControlRegionToParsedNfit buffer w
  | 5 => addBlockDataWindowRegionToParsedNfit buffer w
  | 6 => addFlushHintAddressToParsedNfit buffer w
  | _ => w

/-- `offset += length`. -/
def NfitWalk.advance (w : NfitWalk) (length : ℕ) : NfitWalk := { w with offset := w.offset + length }

/-- One pass of the loop over the sub-tables.  The variables `type` and `length` are 16 bits wide,
but each is loaded from the one byte its pointer points at. -/
def nfitPass (buffer : Bytes) (bufferSize : ℕ) (w : NfitWalk) : NfitWalk ⊕ NfitResult :=
  if w.offset < bufferSize then
    let type := (buffer w.offset).toNat
    let length := (buffer (w.offset + 2)).toNat
    let reads := w.reads ++ [(w.offset, 1), (w.offset + 2, 1)]
    if length = 0 ∨ bufferSize < length + w.offset then
      .inr ⟨.badNfit, none, reads⟩
    else
      .inl ((createExtensionTable type buffer { w with reads := reads }).advance length)
  else
    .inr ⟨.success, some w.parsed, w.reads⟩

/-- The walk after the header was copied. -/
def nfitStart (buffer : Bytes) : NfitWalk where
  offset := nfitHeaderSize
  parsed :=
    { nfit := bytesAt buffer 0 nfitHeaderSize
      list := fun _ => [] }
  reads := [(0, nfitHeaderSize)]

/-- `nfit_parse_raw_nfit`, with a bound on the passes of its loop; a buffer that is `none` is a null
pointer. -/
def nfitParseRawNfit (buffer : Option Bytes) (bufferSize : ℕ) (fuel : ℕ) : Option NfitResult :=
  if bufferSize = 0 then
    some ⟨.badInput, none, []⟩
  else
    match buffer with
    | none => some ⟨.badInput, none, []⟩
    | some buffer => runLoop (nfitPass buffer bufferSize) fuel (nfitStart buffer)

/-! ### Well-formed tables -/

/-- A sub-table: its type and what follows the type and the length; the length counts all of it and
has 16 bits. -/
structure ExtensionTable where
  /-- The type. -/
  type : UInt16
  /-- What follows the length. -/
  body : List UInt8
  /-- The length has 16 bits. -/
  length_lt : body.length + 4 < 2 ^ 16
  deriving DecidableEq

/-- The length of a sub-table. -/
def ExtensionTable.length (e : ExtensionTable) : ℕ := e.body.length + 4

/-- The bytes of a sub-table. -/
def ExtensionTable.bytes (e : ExtensionTable) : List UInt8 :=
  leList 2 e.type.toNat ++ (leList 2 e.length ++ e.body)

/-- A well-formed table: a header and the sub-tables that fill the rest. -/
structure Nfit where
  /-- The header. -/
  header : List UInt8
  /-- The size of the header. -/
  header_length : header.length = nfitHeaderSize
  /-- The sub-tables. -/
  tables : List ExtensionTable

/-- The bytes of a table. -/
def Nfit.bytes (n : Nfit) : List UInt8 := n.header ++ n.tables.flatMap ExtensionTable.bytes

/-- The sub-table is of a kind. -/
def ExtensionTable.IsKind (e : ExtensionTable) (t : SubTable) : Prop := e.type.toNat = t.type

instance (e : ExtensionTable) (t : SubTable) : Decidable (e.IsKind t) :=
  inferInstanceAs (Decidable (e.type.toNat = t.type))

/-- What the table says: its header and, for each kind, the sub-tables of that kind with all of
their bytes, in order. -/
def Nfit.contents (n : Nfit) : ParsedNfit where
  nfit := n.header
  list t := (n.tables.filter fun e => e.IsKind t).map ExtensionTable.bytes

/-- The sub-tables of a kind. -/
theorem Nfit.contents_list (n : Nfit) (t : SubTable) :
    n.contents.list t = (n.tables.filter fun e => e.IsKind t).map ExtensionTable.bytes := rfl

end IxpDimm
