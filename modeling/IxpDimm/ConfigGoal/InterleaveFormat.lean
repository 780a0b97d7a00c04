import IxpDimm.ConfigGoal.Types

/-!
# The interleave formats of the BIOS

`interleave_struct_to_format` and `interleave_format_to_struct` of `utility.h`.  The BIOS packs the
interleave sizes of the channel and of the memory controller, the number of ways and a flag into one
32-bit number, each of the first three as a bit of a bitmap.
-/

namespace IxpDimm

/-- The bitmap of an interleave size; no bit is set for none. -/
def InterleaveSize.bitmap : InterleaveSize → UInt32
  | none => 0
  | size64B => 1
  | size128B => 2
  | size256B => 4
  | size4KB => 0x40
  | size1GB => 0x80

/-- The bitmap of a number of ways; no bit is set for none. -/
def InterleaveWays.bitmap : InterleaveWays → UInt32
  | ways0 => 0
  | ways1 => 1
  | ways2 => 2
  | ways3 => 4
  | ways4 => 8
  | ways6 => 0x10
  | ways8 => 0x20
  | ways12 => 0x40
  | ways16 => 0x80
  | ways24 => 0x100

/-- `interleave_struct_to_format`. -/
def interleaveStructToFormat (interleave : InterleaveFormat) : UInt32 :=
  let ways : UInt32 := (interleave.ways.bitmap &&& 0x1ff) <<< (16 : UInt32)
  let recommended : UInt32 := if interleave.recommended then 0x80000000 else 0
  let channel : UInt32 := interleave.channel.bitmap &&& 0xff
  let imc : UInt32 := (interleave.imc.bitmap &&& 0xff) <<< (8 : UInt32)
  ways ||| recommended ||| channel ||| imc

/-- `interleave_way_to_enum`. -/
def interleaveWayToEnum (way : UInt32) : InterleaveWays :=
  if way = 1 then .ways1
  else if way = 2 then .ways2
  else if way = 4 then .ways3
  else if way = 8 then .ways4
  else if way = 0x10 then .ways6
  else if way = 0x20 then .ways8
  else if way = 0x40 then .ways12
  else if way = 0x80 then .ways16
  else if way = 0x100 then .ways24
  else .ways0

/-- The interleave size with a bitmap; with any other bitmap the old size stays. -/
def interleaveSizeOfBitmap (bitmap : UInt32) (old : InterleaveSize) : InterleaveSize :=
  if bitmap = 1 then .size64B
  else if bitmap = 2 then .size128B
  else if bitmap = 4 then .size256B
  else if bitmap = 0x40 then .size4KB
  else if bitmap = 0x80 then .size1GB
  else old

/-- `interleave_format_to_struct` into a structure. -/
def interleaveFormatToStruct (format : UInt32) (old : InterleaveFormat) : InterleaveFormat where
  recommended := (format >>> 31) &&& 1 = 1
  ways := interleaveWayToEnum ((format >>> 16) &&& 0x1ff)
  channel := interleaveSizeOfBitmap (format &&& 0xff) old.channel
  imc := interleaveSizeOfBitmap ((format >>> 8) &&& 0xff) old.imc

/-! ### Reading a format back -/

/-- The bits of one of two numbers. -/
private theorem or_and_mask (a b mask : UInt32) :
    (a ||| b) &&& mask = (a &&& mask) ||| (b &&& mask) :=
  UInt32.toBitVec_inj.mp BitVec.and_or_distrib_right

/-- The field of an interleave size, and what it leaves in the other fields. -/
private theorem InterleaveSize.bitmap_fields (size : InterleaveSize) :
    size.bitmap &&& 0xff &&& 0xff = size.bitmap ∧
      ((size.bitmap &&& 0xff) <<< (8 : UInt32) >>> 8) &&& 0xff = size.bitmap ∧
      (size.bitmap &&& 0xff) <<< (8 : UInt32) &&& 0xff = 0 ∧
      ((size.bitmap &&& 0xff) >>> 8) &&& 0xff = 0 ∧
      ((size.bitmap &&& 0xff) >>> 16) &&& 0x1ff = 0 ∧
      ((size.bitmap &&& 0xff) <<< (8 : UInt32) >>> 16) &&& 0x1ff = 0 ∧
      ((size.bitmap &&& 0xff) >>> 31) &&& 1 = 0 ∧
      ((size.bitmap &&& 0xff) <<< (8 : UInt32) >>> 31) &&& 1 = 0 := by
  cases size <;> decide

/-- The field of a number of ways, and what it leaves in the other fields. -/
private theorem InterleaveWays.bitmap_fields (ways : InterleaveWays) :
    ((ways.bitmap &&& 0x1ff) <<< (16 : UInt32) >>> 16) &&& 0x1ff = ways.bitmap ∧
      (ways.bitmap &&& 0x1ff) <<< (16 : UInt32) &&& 0xff = 0 ∧
      ((ways.bitmap &&& 0x1ff) <<< (16 : UInt32) >>> 8) &&& 0xff = 0 ∧
      ((ways.bitmap &&& 0x1ff) <<< (16 : UInt32) >>> 31) &&& 1 = 0 := by
  cases ways <;> decide

/-- The flag, and what it leaves in the other fields. -/
private theorem recommended_fields (recommended : Bool) :
    ((((if recommended then 0x80000000 else 0) : UInt32) >>> 31 &&& 1 = 1) ↔ recommended) ∧
      ((if recommended then 0x80000000 else 0) : UInt32) &&& 0xff = 0 ∧
      ((if recommended then 0x80000000 else 0) : UInt32) >>> 8 &&& 0xff = 0 ∧
      ((if recommended then 0x80000000 else 0) : UInt32) >>> 16 &&& 0x1ff = 0 := by
  cases recommended <;> decide

/-- The interleave size of a bitmap. -/
private theorem interleaveSizeOfBitmap_bitmap (size : InterleaveSize) :
    interleaveSizeOfBitmap size.bitmap .none = size := by
  cases size <;> rfl

/-- The number of ways of a bitmap. -/
private theorem interleaveWayToEnum_bitmap (ways : InterleaveWays) :
    interleaveWayToEnum ways.bitmap = ways := by
  cases ways <;> rfl

/-- A format that is read into a zeroed structure is the one that was packed. -/
theorem interleaveFormatToStruct_toFormat (interleave : InterleaveFormat) :
    interleaveFormatToStruct (interleaveStructToFormat interleave) {} = interleave := by
  obtain ⟨recommended, channel, imc, ways⟩ := interleave
  obtain ⟨w₁, w₂, w₃, w₄⟩ := ways.bitmap_fields
  obtain ⟨c₁, -, -, c₂, c₃, -, c₄, -⟩ := channel.bitmap_fields
  obtain ⟨-, i₁, i₂, -, -, i₃, -, i₄⟩ := imc.bitmap_fields
  obtain ⟨r₁, r₂, r₃, r₄⟩ := recommended_fields recommended
  simp only [interleaveFormatToStruct, interleaveStructToFormat, UInt32.shiftRight_or, or_and_mask,
    w₁, w₂, w₃, w₄, c₁, c₂, c₃, c₄, i₁, i₂, i₃, i₄, r₁, r₂, r₃, r₄, UInt32.or_zero, UInt32.zero_or,
    interleaveSizeOfBitmap_bitmap, interleaveWayToEnum_bitmap, Bool.decide_eq_true]

/-- The interleave sizes read into a structure: those of the format, or the old ones. -/
theorem interleaveSizeOfBitmap_old (bitmap : UInt32) (old : InterleaveSize) :
    interleaveSizeOfBitmap bitmap old = if interleaveSizeOfBitmap bitmap .none = .none then old
      else interleaveSizeOfBitmap bitmap .none := by
  unfold interleaveSizeOfBitmap
  split_ifs <;> first | rfl | contradiction

end IxpDimm
