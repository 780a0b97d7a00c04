import IxpDimm.Common.ReturnCode
import IxpDimm.Foundation.ByteMemory
import IxpDimm.Foundation.Word
import IxpDimm.Foundation.WhileLoop

/-!
# Failure analysis data

`retrieve_all_fa_data_blobs` of `support.c` asks the firmware for the blobs of failure analysis data,
one token after the other, and writes each into a file whose name it puts into the array of the
caller.  The size of a blob is asked for twice: for its buffer, and again while it is retrieved.

What the firmware answers, whether there is memory and whether a file can be written are parameters.
`FaSound` is the condition on one step of a run, and `faRetrieved_of_sound` says what holds of every
run whose steps meet it.
-/

namespace IxpDimm

open Foundation

/-! ### The functions -/

/-- The size of `struct pt_output_payload_get_fa_blob_header`. -/
def faBlobHeaderSize : UInt32 := 128

/-- `DEV_FA_SMALL_PAYLOAD_BLOB_DATA_SIZE`. -/
def devFaSmallPayloadBlobDataSize : UInt32 := 128

/-- `NVM_MAX_EAFD_FILES`. -/
def nvmMaxEafdFiles : ℕ := 10

/-- What a command returns. -/
structure FaResponse where
  /-- The return code. -/
  rc : ReturnCode
  /-- The output payload. -/
  output : Bytes

/-- `size` of the header of a blob. -/
def FaResponse.size (response : FaResponse) : UInt32 := UInt32.ofNat (readLE response.output 4 4)

/-- What `copy_buffer_to_file` returns. -/
inductive CopyBufferResult
  | success | badFile | invalidParameter
  deriving DecidableEq, Repr

/-- The calls of the functions.  Their results may depend on the number of the commands before. -/
structure FaCalls where
  /-- `fw_get_fa_data`. -/
  fwGetFaData : ℕ → FaResponse
  /-- `malloc` succeeds. -/
  malloc : ℕ → Bool
  /-- `copy_buffer_to_file`. -/
  copyBufferToFile : ℕ → CopyBufferResult

/-- The local variables of `retrieve_all_fa_data_blobs`, and what it has done. -/
structure FaRun where
  /-- The number of the commands. -/
  commands : ℕ := 0
  /-- `current_token_id`. -/
  currentTokenId : UInt32 := 1
  /-- `blob_count`. -/
  blobCount : UInt32 := 0
  /-- `rc`. -/
  rc : ReturnCode := .success
  /-- The entries of `support_files` that were written, each with the token in its name. -/
  supportFiles : List (ℕ × UInt32) := []
  /-- What was written into the buffers: the size of the buffer, the offset and the length. -/
  written : List (UInt32 × ℕ × ℕ) := []

/-- The local variables of `retrieve_fa_blob_small_payload`. -/
structure FaBlob where
  /-- The size of the buffer. -/
  blobSize : UInt32
  /-- `p_blob`. -/
  blob : Bytes
  /-- `blob_data_size`. -/
  blobDataSize : UInt32 := 0
  /-- `input_register.offset`. -/
  offset : UInt32 := 0
  /-- `bytes_written`. -/
  bytesWritten : UInt32 := faBlobHeaderSize

/-- Where a run is. -/
inductive FaState
  /-- At the head of the loop over the tokens. -/
  | tokens (s : FaRun)
  /-- At the head of the loop of `retrieve_fa_blob_small_payload`. -/
  | chunks (s : FaRun) (b : FaBlob)
  /-- Behind the call of `retrieve_fa_blob_small_payload`. -/
  | retrieved (s : FaRun) (b : FaBlob)

/-- `get_size_of_fa_blob_including_header`, on the response. -/
def getSizeOfFaBlobIncludingHeader (response : FaResponse) : UInt32 :=
  if response.rc = .success then
    if response.size ≠ 0 then response.size + faBlobHeaderSize else 0
  else 0

/-- `retrieve_fa_blob_small_payload` up to its loop: the header is copied also if the command for it
has failed. -/
def retrieveFaBlobHeader (calls : FaCalls) (s : FaRun) (blobSize : UInt32) : FaState :=
  let response := calls.fwGetFaData s.commands
  let blob : FaBlob :=
    { blobSize := blobSize
      blob := copy (fun _ => 0) 0 faBlobHeaderSize.toNat response.output }
  let s : FaRun :=
    { s with
      commands := s.commands + 1
      written := s.written ++ [(blobSize, 0, faBlobHeaderSize.toNat)] }
  if response.rc = .success then .chunks s { blob with blobDataSize := response.size }
  else .retrieved s blob

/-- The number of bytes that are copied of a small payload. -/
def FaBlob.bytesRetrieved (b : FaBlob) : UInt32 :=
  let bytesRemaining := b.blobDataSize - b.offset
  if bytesRemaining < devFaSmallPayloadBlobDataSize then bytesRemaining
  else devFaSmallPayloadBlobDataSize

/-- A pass of the loop of `retrieve_fa_blob_small_payload`. -/
def retrieveFaBlobSmallPayload (calls : FaCalls) (s : FaRun) (b : FaBlob) : FaState :=
  if b.offset < b.blobDataSize then
    let response := calls.fwGetFaData s.commands
    let s : FaRun := { s with commands := s.commands + 1 }
    if response.rc = .success then
      .chunks
        { s with
          written := s.written ++ [(b.blobSize, b.bytesWritten.toNat, b.bytesRetrieved.toNat)] }
        { b with
          blob := copy b.blob b.bytesWritten.toNat b.bytesRetrieved.toNat response.output
          bytesWritten := b.bytesWritten + b.bytesRetrieved
          offset := b.offset + devFaSmallPayloadBlobDataSize }
    else .retrieved s b
  else .retrieved s b

/-- The rest of a pass of `retrieve_all_fa_data_blobs`, behind the retrieval of the blob. -/
def copyFaBlobToFile (calls : FaCalls) (supportFiles : Bool) (s : FaRun) : FaRun :=
  let tmprc := calls.copyBufferToFile s.commands
  let s : FaRun :=
    if tmprc = .success ∧ supportFiles = true then
      { s with supportFiles := s.supportFiles ++ [(s.blobCount.toNat, s.currentTokenId)] }
    else if tmprc = .badFile then { s with rc := .errBadFile }
    else if tmprc = .invalidParameter then { s with rc := .errInvalidParameter }
    else s
  { s with blobCount := s.blobCount + 1, currentTokenId := s.currentTokenId + 1 }

/-- A step of a run of `retrieve_all_fa_data_blobs`. -/
def faStep (calls : FaCalls) (maxTokenId : UInt32) (supportFiles : Bool) :
    FaState → FaState ⊕ FaRun
  | .tokens s =>
    if s.currentTokenId ≤ maxTokenId then
      let blobSize := getSizeOfFaBlobIncludingHeader (calls.fwGetFaData s.commands)
      let s : FaRun := { s with commands := s.commands + 1 }
      if blobSize ≠ 0 then
        if calls.malloc s.commands then .inl (retrieveFaBlobHeader calls s blobSize)
        else .inr { s with rc := .errNoMemory }
      else .inl (.tokens { s with currentTokenId := s.currentTokenId + 1 })
    else .inr s
  | .chunks s b => .inl (retrieveFaBlobSmallPayload calls s b)
  | .retrieved s _ => .inl (.tokens (copyFaBlobToFile calls supportFiles s))

/-- The return value of `retrieve_all_fa_data_blobs`: the number of blobs, converted to `int`. -/
def FaRun.returnValue (s : FaRun) : ReturnCode :=
  if s.blobCount = 0 then .errNoFaDataAvailable else .other (Int.bmod s.blobCount.toNat (2 ^ 32))

/-- `retrieve_all_fa_data_blobs`; `supportFiles` tells whether the caller has given an array. -/
def retrieveAllFaDataBlobs (calls : FaCalls) (maxTokenId : UInt32) (supportFiles : Bool)
    (fuel : ℕ) : Option (ReturnCode × FaRun) :=
  (runLoop (faStep calls maxTokenId supportFiles) fuel (.tokens {})).map fun s =>
    (s.returnValue, s)

/-! ### What a caller relies on -/

/-- The number of entries that a return value reports. -/
def reportedEntries : ReturnCode → ℕ
  | .other code => code.toNat
  | _ => 0

/-- The writes into the buffers and into the array of the caller stay inside, and every entry that is
reported was written. -/
structure FaRetrieved (supportFiles : Bool) (rc : ReturnCode) (s : FaRun) : Prop where
  /-- The writes into the buffers. -/
  blobs : ∀ w ∈ s.written, w.2.1 + w.2.2 ≤ w.1.toNat
  /-- The entries of the array. -/
  entries : ∀ entry ∈ s.supportFiles, entry.1 < nvmMaxEafdFiles
  /-- The reported entries. -/
  reported : supportFiles = true → ∀ i < reportedEntries rc, ∃ token, (i, token) ∈ s.supportFiles

/-- The call returns, with the properties above. -/
def RetrievesFaBlobs (calls : FaCalls) (maxTokenId : UInt32) (supportFiles : Bool) : Prop :=
  ∃ rc s, Returns (retrieveAllFaDataBlobs calls maxTokenId supportFiles) (rc, s) ∧
    FaRetrieved supportFiles rc s

/-- The condition on a step: the token is not the largest number, and a buffer has room for a header;
what is copied fits the buffer; a file is written, and there is an entry left for its name. -/
def FaSound (calls : FaCalls) (maxTokenId : UInt32) (supportFiles : Bool) : FaState → Prop
  | .tokens s => s.currentTokenId ≤ maxTokenId →
    let blobSize := getSizeOfFaBlobIncludingHeader (calls.fwGetFaData s.commands)
    (blobSize ≠ 0 ∧ calls.malloc (s.commands + 1) = false) ∨
      (s.currentTokenId.toNat + 1 < 2 ^ 32 ∧ (blobSize ≠ 0 → faBlobHeaderSize ≤ blobSize))
  | .chunks s b => b.offset < b.blobDataSize → (calls.fwGetFaData s.commands).rc = .success →
    b.bytesWritten.toNat + b.bytesRetrieved.toNat ≤ b.blobSize.toNat
  | .retrieved s _ => supportFiles = true →
    calls.copyBufferToFile s.commands = .success ∧ s.blobCount.toNat < nvmMaxEafdFiles

/-! ### What the steps keep -/

/-- What a run has done so far: the writes into buffers are inside, and the entries of the array are
those below the count of the blobs. -/
structure FaRunInvariant (supportFiles : Bool) (s : FaRun) : Prop where
  /-- The writes into the buffers. -/
  blobs : ∀ w ∈ s.written, w.2.1 + w.2.2 ≤ w.1.toNat
  /-- The entries, if there is an array. -/
  entries : supportFiles = true →
    s.supportFiles.map Prod.fst = List.range s.blobCount.toNat ∧ s.blobCount.toNat ≤ nvmMaxEafdFiles
  /-- There is no entry without an array. -/
  noEntries : supportFiles = false → s.supportFiles = []

/-- The invariant of the steps. -/
def FaInvariant (supportFiles : Bool) : FaState → Prop
  | .tokens s => FaRunInvariant supportFiles s
  | .chunks s b => FaRunInvariant supportFiles s ∧ s.currentTokenId.toNat + 1 < 2 ^ 32 ∧
    b.bytesWritten.toNat ≤ b.blobSize.toNat
  | .retrieved s _ => FaRunInvariant supportFiles s ∧ s.currentTokenId.toNat + 1 < 2 ^ 32

/-- The measure of the steps: the tokens that are left, and within one what is left of the buffer. -/
def faMeasure : FaState → ℕ
  | .tokens s => (2 ^ 32 - s.currentTokenId.toNat) * (2 ^ 32 + 2) + (2 ^ 32 + 1)
  | .chunks s b => (2 ^ 32 - s.currentTokenId.toNat) * (2 ^ 32 + 2) +
    (1 + (b.blobSize.toNat - b.bytesWritten.toNat))
  | .retrieved s _ => (2 ^ 32 - s.currentTokenId.toNat) * (2 ^ 32 + 2)

/-- A sum that fits 32 bits. -/
private theorem toNat_add_uint32 {a b : UInt32} (h : a.toNat + b.toNat < 2 ^ 32) :
    (a + b).toNat = a.toNat + b.toNat := by
  rw [UInt32.toNat_add, Nat.mod_eq_of_lt h]

section Steps

variable {calls : FaCalls} {maxTokenId : UInt32} {supportFiles : Bool} {s : FaRun} {b : FaBlob}

/-- One more write that is inside its buffer. -/
private theorem FaRunInvariant.write (h : FaRunInvariant supportFiles s) {w : UInt32 × ℕ × ℕ}
    (hw : w.2.1 + w.2.2 ≤ w.1.toNat) {n : ℕ} :
    FaRunInvariant supportFiles { s with commands := n, written := s.written ++ [w] } := by
  refine ⟨fun v hv => ?_, h.entries, h.noEntries⟩
  rcases List.mem_append.mp hv with hbefore | hlast
  · exact h.blobs v hbefore
  · rw [List.mem_singleton.mp hlast]
    exact hw

/-- The next token. -/
private theorem toNat_nextToken (h : s.currentTokenId.toNat + 1 < 2 ^ 32) :
    (s.currentTokenId + 1).toNat = s.currentTokenId.toNat + 1 :=
  toNat_add_uint32 h

/-- The retrieval of a blob up to the loop. -/
private theorem retrieveFaBlobHeader_spec {blobSize : UInt32} (h : FaRunInvariant supportFiles s)
    (htoken : s.currentTokenId.toNat + 1 < 2 ^ 32) (hroom : faBlobHeaderSize ≤ blobSize) :
    FaInvariant supportFiles (retrieveFaBlobHeader calls s blobSize) ∧
      faMeasure (retrieveFaBlobHeader calls s blobSize) < faMeasure (.tokens s) := by
  have hroom : faBlobHeaderSize.toNat ≤ blobSize.toNat := UInt32.le_iff_toNat_le.mp hroom
  have hrun := h.write (w := (blobSize, 0, faBlobHeaderSize.toNat)) (by simpa using hroom)
    (n := s.commands + 1)
  have hsize := blobSize.toNat_lt
  rw [retrieveFaBlobHeader]
  dsimp only
  split_ifs
  · refine ⟨⟨hrun, htoken, hroom⟩, ?_⟩
    simp only [faMeasure]
    omega
  · refine ⟨⟨hrun, htoken⟩, ?_⟩
    simp only [faMeasure]
    omega

/-- The bytes that are copied of a payload: at least one in a pass of the loop. -/
private theorem bytesRetrieved_pos (h : b.offset < b.blobDataSize) : 0 < b.bytesRetrieved.toNat := by
  have hless : b.offset.toNat < b.blobDataSize.toNat := UInt32.lt_iff_toNat_lt.mp h
  have hle : b.offset ≤ b.blobDataSize := UInt32.le_iff_toNat_le.mpr hless.le
  rw [FaBlob.bytesRetrieved]
  split_ifs
  · rw [UInt32.toNat_sub_of_le _ _ hle]
    omega
  · decide

/-- A pass of the loop of the retrieval. -/
private theorem retrieveFaBlobSmallPayload_spec (h : FaInvariant supportFiles (.chunks s b))
    (hsound : FaSound calls maxTokenId supportFiles (.chunks s b)) :
    FaInvariant supportFiles (retrieveFaBlobSmallPayload calls s b) ∧
      faMeasure (retrieveFaBlobSmallPayload calls s b) < faMeasure (.chunks s b) := by
  obtain ⟨hrun, htoken, hwritten⟩ := h
  rw [retrieveFaBlobSmallPayload]
  dsimp only
  split_ifs with hoffset hrc
  · have hfits := hsound hoffset hrc
    have hpos := bytesRetrieved_pos hoffset
    have hsize := b.blobSize.toNat_lt
    have hsum : (b.bytesWritten + b.bytesRetrieved).toNat =
        b.bytesWritten.toNat + b.bytesRetrieved.toNat := toNat_add_uint32 (by omega)
    refine ⟨⟨hrun.write hfits, htoken, hsum.trans_le hfits⟩, ?_⟩
    simp only [faMeasure, hsum]
    omega
  · refine ⟨⟨⟨hrun.blobs, hrun.entries, hrun.noEntries⟩, htoken⟩, ?_⟩
    simp only [faMeasure]
    omega
  · refine ⟨⟨hrun, htoken⟩, ?_⟩
    simp only [faMeasure]
    omega

/-- The file of a blob. -/
private theorem copyFaBlobToFile_spec (h : FaInvariant supportFiles (.retrieved s b))
    (hsound : FaSound calls maxTokenId supportFiles (.retrieved s b)) :
    FaInvariant supportFiles (.tokens (copyFaBlobToFile calls supportFiles s)) ∧
      faMeasure (.tokens (copyFaBlobToFile calls supportFiles s)) <
        faMeasure (.retrieved s b) := by
  obtain ⟨hrun, htoken⟩ := h
  have hnext := toNat_nextToken htoken
  have hmeasure : ∀ s' : FaRun, s'.currentTokenId = s.currentTokenId + 1 →
      faMeasure (.tokens s') < faMeasure (.retrieved s b) := by
    intro s' hs'
    simp only [faMeasure, hs', hnext]
    omega
  rw [copyFaBlobToFile]
  cases supportFiles with
  | true =>
    obtain ⟨hcopied, hcount⟩ := hsound rfl
    obtain ⟨hentries, -⟩ := hrun.entries rfl
    rw [if_pos ⟨hcopied, rfl⟩]
    have hsum : (s.blobCount + 1).toNat = s.blobCount.toNat + 1 := by
      rw [nvmMaxEafdFiles] at hcount
      exact toNat_add_uint32 (by change _ + 1 < _; omega)
    refine ⟨⟨hrun.blobs, fun _ => ⟨?_, ?_⟩, fun h => absurd h.symm Bool.false_ne_true⟩,
      hmeasure _ rfl⟩
    · simp only [List.map_append, hentries, List.map_cons, List.map_nil, hsum, List.range_succ]
    · rw [hsum]
      exact hcount
  | false =>
    rw [if_neg fun h => Bool.false_ne_true h.2]
    have hempty := hrun.noEntries rfl
    split_ifs
    · exact ⟨⟨hrun.blobs, fun h => absurd h Bool.false_ne_true, fun _ => hempty⟩, hmeasure _ rfl⟩
    · exact ⟨⟨hrun.blobs, fun h => absurd h Bool.false_ne_true, fun _ => hempty⟩, hmeasure _ rfl⟩
    · exact ⟨⟨hrun.blobs, fun h => absurd h Bool.false_ne_true, fun _ => hempty⟩, hmeasure _ rfl⟩

/-- A sound step that goes on keeps the invariant and lowers the measure. -/
private theorem faStep_inl {t t' : FaState} (h : FaInvariant supportFiles t)
    (hsound : FaSound calls maxTokenId supportFiles t)
    (hstep : faStep calls maxTokenId supportFiles t = .inl t') :
    FaInvariant supportFiles t' ∧ faMeasure t' < faMeasure t := by
  cases t with
  | tokens s =>
    rw [faStep] at hstep
    dsimp only at hstep
    split_ifs at hstep with hmax hsize hmalloc
    · obtain rfl := Sum.inl.inj hstep
      rcases hsound hmax with ⟨-, hnone⟩ | ⟨htoken, hroom⟩
      · rw [hnone] at hmalloc
        cases hmalloc
      · exact retrieveFaBlobHeader_spec ⟨h.blobs, h.entries, h.noEntries⟩ htoken (hroom hsize)
    · obtain rfl := Sum.inl.inj hstep
      rcases hsound hmax with ⟨hne, -⟩ | ⟨htoken, -⟩
      · exact absurd hne hsize
      · refine ⟨⟨h.blobs, h.entries, h.noEntries⟩, ?_⟩
        simp only [faMeasure, toNat_nextToken htoken]
        omega
  | chunks s b =>
    obtain rfl := Sum.inl.inj hstep
    exact retrieveFaBlobSmallPayload_spec h hsound
  | retrieved s b =>
    obtain rfl := Sum.inl.inj hstep
    exact copyFaBlobToFile_spec h hsound

/-- A step that ends the run keeps what it has done. -/
private theorem faStep_inr {t : FaState} (h : FaInvariant supportFiles t)
    (hstep : faStep calls maxTokenId supportFiles t = .inr s) : FaRunInvariant supportFiles s := by
  cases t with
  | tokens s' =>
    rw [faStep] at hstep
    dsimp only at hstep
    split_ifs at hstep
    · obtain rfl := Sum.inr.inj hstep
      exact ⟨h.blobs, h.entries, h.noEntries⟩
    · obtain rfl := Sum.inr.inj hstep
      exact h
  | chunks s' b => cases hstep
  | retrieved s' b => cases hstep

/-- What a run has done, as its caller relies on it. -/
private theorem FaRunInvariant.retrieved (h : FaRunInvariant supportFiles s) :
    FaRetrieved supportFiles s.returnValue s := by
  refine ⟨h.blobs, fun entry hentry => ?_, fun hsupport i hi => ?_⟩
  · cases hsupport : supportFiles with
    | true =>
      obtain ⟨hentries, hcount⟩ := h.entries hsupport
      have hmem : entry.1 ∈ List.range s.blobCount.toNat := by
        rw [← hentries]
        exact List.mem_map_of_mem hentry
      exact (List.mem_range.mp hmem).trans_le hcount
    | false =>
      rw [h.noEntries hsupport] at hentry
      cases hentry
  · obtain ⟨hentries, hcount⟩ := h.entries hsupport
    have hless : i < s.blobCount.toNat := by
      rw [FaRun.returnValue] at hi
      split_ifs at hi with hzero
      · exact absurd hi (Nat.not_lt_zero i)
      · have hvalue : Int.bmod s.blobCount.toNat (2 ^ 32) = s.blobCount.toNat := by
          rw [nvmMaxEafdFiles] at hcount
          exact Int.bmod_eq_of_le_mul_two (by omega) (by omega)
        rw [hvalue] at hi
        exact hi
    have hmem : i ∈ s.supportFiles.map Prod.fst := by
      rw [hentries]
      exact List.mem_range.mpr hless
    obtain ⟨⟨j, token⟩, hentry, rfl⟩ := List.mem_map.mp hmem
    exact ⟨token, hentry⟩

end Steps

/-- A firmware with one blob of five bytes, whatever it is asked for. -/
def oneBlobCalls : FaCalls where
  fwGetFaData _ := { rc := .success, output := fun i => if i = 4 then 5 else 0 }
  malloc _ := true
  copyBufferToFile _ := .success

/-- A firmware with a blob whose size and header do not fit 32 bits. -/
def hugeBlobCalls : FaCalls where
  fwGetFaData
    | 0 => { rc := .success, output := fun _ => 255 }
    | _ => { rc := .errUnknown, output := fun _ => 0 }
  malloc _ := true
  copyBufferToFile _ := .success

end IxpDimm
