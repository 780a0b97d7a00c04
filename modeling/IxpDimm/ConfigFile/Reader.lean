import IxpDimm.ConfigGoal.InterleaveFormat
import IxpDimm.Device.Uid

/-!
# The configuration file of a DIMM

`write_dimm_config` and `read_dimm_config` of `utility.h`: the configuration of a DIMM is dumped as a
line of twelve comma-separated decimal numbers and loaded from such a line.

The reader takes one token after the other off the line with `x_strtok`, which omits no token, and
gives each to one of the conversions of `s_str.c`.  A conversion skips what is not a digit, reads
digits and returns how many characters it has gone through; a token is bad when that is not all of
it.  Nothing is stored for an empty token, and all twelve tokens are read whether or not one of them
is bad.
-/

namespace IxpDimm

/-! ### Conversions -/

/-- The digit loop of `s_digitstrtouc`, `s_strtous` and `s_strtoui`: the value built so far and the
number of characters gone through.  It stops before the value exceeds the largest one. -/
def strtouDigits (max : ℕ) : List Char → ℕ → ℕ → ℕ × ℕ
  | [], result, consumed => (result, consumed)
  | c :: text, result, consumed =>
    if isDigit c then
      let tmpResult := result * 10 + (c.toNat - '0'.toNat)
      if tmpResult ≤ max then strtouDigits max text tmpResult (consumed + 1)
      else (result, consumed)
    else (result, consumed)

/-- `s_digitstrtouc`, `s_strtous` and `s_strtoui` on a text: the characters gone through and the
number stored.  Nothing is stored for the empty text. -/
def strtou (max : ℕ) (str : List Char) : ℕ × Option ℕ :=
  if str = [] then (0, none)
  else
    let skipped := (str.takeWhile fun c => !isDigit c).length
    let (result, consumed) := strtouDigits max (str.drop skipped) 0 skipped
    (consumed, some result)

/-- The conversions of the fields of a line. -/
inductive Conversion
  /-- `s_digitstrtouc`. -/
  | digitstrtouc
  /-- `s_strtous`. -/
  | strtous
  /-- `s_strtoui`. -/
  | strtoui
  /-- `s_strtoull`. -/
  | strtoull
  /-- `str_to_interleave_format_struct`. -/
  | interleaveFormat
  deriving DecidableEq, Repr

/-- The numbers that a conversion can store. -/
def Conversion.limit : Conversion → ℕ
  | digitstrtouc => 2 ^ 8
  | strtous => 2 ^ 16
  | strtoui | interleaveFormat => 2 ^ 32
  | strtoull => 2 ^ 64

/-- A conversion of a text without a zero character: the characters gone through and the number
stored.  A format is taken apart when the whole text was gone through, also the empty one. -/
def Conversion.apply : Conversion → List Char → ℕ × Option ℕ
  | digitstrtouc, str => strtou (2 ^ 8 - 1) str
  | strtous, str => strtou (2 ^ 16 - 1) str
  | strtoui, str => strtou (2 ^ 32 - 1) str
  | strtoull, str =>
    if str = [] then (0, none)
    else
      let (result, consumed) := sStrtoull str str.length
      (consumed, some result.toNat)
  | interleaveFormat, str =>
    let (consumed, format) := strtou (2 ^ 32 - 1) str
    (consumed, if consumed = str.length then some (format.getD 0) else none)

/-! ### The line -/

/-- What the reader writes: the socket, the handle and the capacity of the DIMM, and the fields of
the goal that the line has.  `NVM_BOOL` is a byte. -/
structure DimmConfig where
  /-- `*p_socket`. -/
  socketId : UInt16 := 0
  /-- `*p_dimm_handle`. -/
  dimmHandle : UInt32 := 0
  /-- `*p_dimm_size_gb`. -/
  dimmSizeGb : UInt64 := 0
  /-- `memory_size`. -/
  memorySize : UInt64 := 0
  /-- `app_direct_1_size`. -/
  appDirect1Size : UInt64 := 0
  /-- `app_direct_1_settings.interleave`. -/
  appDirect1Interleave : InterleaveFormat := {}
  /-- `app_direct_1_settings.mirrored`. -/
  appDirect1Mirrored : UInt8 := 0
  /-- `app_direct_1_set_id`. -/
  appDirect1SetId : UInt16 := 0
  /-- `app_direct_2_size`. -/
  appDirect2Size : UInt64 := 0
  /-- `app_direct_2_settings.interleave`. -/
  appDirect2Interleave : InterleaveFormat := {}
  /-- `app_direct_2_settings.mirrored`. -/
  appDirect2Mirrored : UInt8 := 0
  /-- `app_direct_2_set_id`. -/
  appDirect2SetId : UInt16 := 0
  deriving DecidableEq, Repr

/-- A field of the line: its conversion, and where the number goes. -/
structure ConfigField where
  /-- The conversion. -/
  conversion : Conversion
  /-- The store through the result pointer. -/
  store : ℕ → DimmConfig → DimmConfig

/-- The fields in the order of the calls of `READ_CONFIG_TOK`. -/
def configFields : List ConfigField :=
  [⟨.strtous, fun n c => { c with socketId := .ofNat n }⟩,
    ⟨.strtoui, fun n c => { c with dimmHandle := .ofNat n }⟩,
    ⟨.strtoull, fun n c => { c with dimmSizeGb := .ofNat n }⟩,
    ⟨.strtoull, fun n c => { c with memorySize := .ofNat n }⟩,
    ⟨.strtoull, fun n c => { c with appDirect1Size := .ofNat n }⟩,
    ⟨.interleaveFormat, fun n c => { c with
      appDirect1Interleave := interleaveFormatToStruct (.ofNat n) c.appDirect1Interleave }⟩,
    ⟨.digitstrtouc, fun n c => { c with appDirect1Mirrored := .ofNat n }⟩,
    ⟨.strtous, fun n c => { c with appDirect1SetId := .ofNat n }⟩,
    ⟨.strtoull, fun n c => { c with appDirect2Size := .ofNat n }⟩,
    ⟨.interleaveFormat, fun n c => { c with
      appDirect2Interleave := interleaveFormatToStruct (.ofNat n) c.appDirect2Interleave }⟩,
    ⟨.digitstrtouc, fun n c => { c with appDirect2Mirrored := .ofNat n }⟩,
    ⟨.strtous, fun n c => { c with appDirect2SetId := .ofNat n }⟩]

/-- `x_strtok`: the token and what the input pointer is left at. -/
def xStrtok (input : Option (List Char)) (delims : List Char) :
    Option (List Char) × Option (List Char) :=
  match input with
  | none => (none, none)
  | some text =>
    let token := text.takeWhile fun c => !delims.contains c
    match text.drop token.length with
    | [] => (some token, none)
    | _ :: remainder => (some token, some remainder)

/-- The reader in a line. -/
structure ReadState where
  /-- `pLine`. -/
  line : Option (List Char)
  /-- `bad_format`. -/
  badFormat : Bool
  /-- What has been written so far. -/
  config : DimmConfig

/-- `READ_CONFIG_TOK`. -/
def readConfigTok (state : ReadState) (field : ConfigField) : ReadState :=
  let (token, rest) := xStrtok state.line [',', '\n']
  match token with
  | none => { state with line := rest, badFormat := true }
  | some str =>
    let (consumed, stored) := field.conversion.apply str
    { line := rest
      badFormat := state.badFormat || consumed != str.length
      config := match stored with
        | some n => field.store n state.config
        | none => state.config }

/-- The loop that removes carriage returns.  It moves the other characters down and does not
terminate the text anew, so as many characters as were removed stay behind it. -/
def squeezeCarriageReturns (line : List Char) : List Char :=
  let kept := line.filter (· ≠ '\r')
  kept ++ line.drop kept.length

/-- What `read_dimm_config` does with a line that is not a comment. -/
def readConfigLine (line : List Char) (config : DimmConfig) : ReadState :=
  configFields.foldl readConfigTok ⟨some (squeezeCarriageReturns line), false, config⟩

/-! ### The file -/

/-- `NVM_MAX_CONFIG_LINE_LEN`. -/
def maxConfigLineLen : ℕ := 512

/-- `fgets` with a buffer of that size: the text it stores, up to a newline, and the rest of the
file. -/
def fgets (file : List Char) : Option (List Char × List Char) :=
  if file = [] then none
  else
    let text := (file.take (maxConfigLineLen - 1)).takeWhile (· ≠ '\n')
    let text := if file[text.length]? = some '\n' ∧ text.length < maxConfigLineLen - 1 then
      text ++ ['\n'] else text
    some (text, file.drop text.length)

/-- What `read_dimm_config` returns. -/
inductive ReadStatus
  /-- There is no further line, `0`. -/
  | endOfFile
  /-- The line is badly formatted, `NVM_ERR_BADFILE`. -/
  | badFile
  /-- A line has been read, `1`. -/
  | read
  deriving DecidableEq, Repr

/-- The next line that is not a comment, without leading white space, and the rest of the file.
Every call of `fgets` takes at least one character, which bounds the loop. -/
def nextConfigLine : ℕ → List Char → Option (List Char × List Char)
  | 0, _ => none
  | fuel + 1, file =>
    match fgets file with
    | none => none
    | some (text, rest) =>
      -- `s_strtrim_left`
      let line := (cString text).dropWhile isSpace
      if line.head? ≠ some '#' then some (line, rest) else nextConfigLine fuel rest

/-- `read_dimm_config`: the status, what has been written and the rest of the file. -/
def readDimmConfig (file : List Char) (config : DimmConfig) :
    ReadStatus × DimmConfig × List Char :=
  match nextConfigLine (file.length + 1) file with
  | none => (.endOfFile, config, [])
  | some (line, rest) =>
    let state := readConfigLine line config
    (if state.badFormat then .badFile else .read, state.config, rest)

/-- What the writer reads of `struct device_discovery`. -/
structure DumpedDevice where
  /-- `socket_id`. -/
  socketId : UInt16
  /-- `device_handle.handle`. -/
  deviceHandle : UInt32
  /-- `capacity`, in bytes. -/
  capacity : UInt64
  deriving DecidableEq, Repr

/-- The twelve numbers of `config_line_format`. -/
def configLineNumbers (discovery : DumpedDevice) (goal : ConfigGoal) : List ℕ :=
  [discovery.socketId.toNat, discovery.deviceHandle.toNat,
    (discovery.capacity / bytesPerGiB).toNat, goal.memorySize.toNat, goal.appDirect1Size.toNat,
    (interleaveStructToFormat goal.appDirect1Settings.interleave).toNat,
    goal.appDirect1Settings.mirrored.toNat, goal.appDirect1SetId.toNat,
    goal.appDirect2Size.toNat,
    (interleaveStructToFormat goal.appDirect2Settings.interleave).toNat,
    goal.appDirect2Settings.mirrored.toNat, goal.appDirect2SetId.toNat]

/-- The line of a DIMM: decimal numbers between commas, and a newline. -/
def configLine (discovery : DumpedDevice) (goal : ConfigGoal) : List Char :=
  List.intercalate [','] ((configLineNumbers discovery goal).map (Nat.toDigits 10)) ++ ['\n']

/-- The comment at the head of the file. -/
def configHeader : List Char :=
  "#SocketID,DimmHandle,Capacity,MemorySize,AppDirect1Size,AppDirect1Format,".toList ++
    "AppDirect1Mirrored,AppDirect1Index,AppDirect2Size,AppDirect2Format,".toList ++
    "AppDirect2Mirrored,AppDirect2Index\n".toList

/-- `write_dimm_config`: the file after it. -/
def writeDimmConfig (discovery : DumpedDevice) (goal : ConfigGoal) (append : Bool)
    (file : List Char) : List Char :=
  if append then file ++ configLine discovery goal
  else configHeader ++ configLine discovery goal

end IxpDimm
