import IxpDimm.ConfigFile.Tokens

/-!
# Dumping a configuration and loading it again

A line that `write_dimm_config` writes is accepted by `read_dimm_config`, and the numbers it reads
are those that were written.  The interleave sizes of a set come back as they were, whatever was in
the destination before, when the set has them; for a set that the goal does not have the format is
zero, and the destination keeps the sizes it had.
-/

namespace IxpDimm

/-! ### A line of numerals in a file -/

/-- A text of digits and commas that starts with a digit. -/
structure PlainLine (body : List Char) : Prop where
  /-- It starts with a digit. -/
  head : ∃ c rest, body = c :: rest ∧ isDigit c = true
  /-- It has digits and commas. -/
  plain : ∀ c ∈ body, isDigit c = true ∨ c = ','
  /-- It fits in the buffer with its newline. -/
  short : body.length < maxConfigLineLen - 1

/-- Digits and commas are not special to the reader. -/
private theorem PlainLine.ne {body : List Char} (h : PlainLine body) {c : Char} (hc : c ∈ body) :
    c ≠ '\n' ∧ c ≠ '\r' ∧ c ≠ '\x00' := by
  rcases h.plain c hc with hdigit | rfl
  · refine ⟨?_, ?_, ?_⟩ <;> rintro rfl <;> exact absurd hdigit (by decide)
  · decide

/-- `fgets` takes a line with its newline. -/
private theorem fgets_line {body rest : List Char} (hbody : ∀ c ∈ body, c ≠ '\n')
    (hshort : body.length < maxConfigLineLen - 1) :
    fgets (body ++ '\n' :: rest) = some (body ++ ['\n'], rest) := by
  have htake : ((body ++ '\n' :: rest).take (maxConfigLineLen - 1)).takeWhile (· ≠ '\n') = body := by
    obtain ⟨n, hn⟩ := Nat.exists_eq_add_of_lt hshort
    rw [hn, Nat.add_assoc, List.take_length_add_append, List.take_succ_cons,
      List.takeWhile_append_of_pos (fun c hc => decide_eq_true (hbody c hc)),
      List.takeWhile_cons_of_neg (by decide), List.append_nil]
  have hat : (body ++ '\n' :: rest)[body.length]? = some '\n' := by
    rw [List.getElem?_append_right le_rfl, Nat.sub_self]
    rfl
  rw [fgets, if_neg (by simp)]
  dsimp only
  rw [htake, if_pos ⟨hat, hshort⟩]
  have hsplit : body ++ '\n' :: rest = (body ++ ['\n']) ++ rest := by
    rw [List.append_assoc, List.singleton_append]
  rw [hsplit, List.drop_left]

/-- A plain line is read as it is. -/
private theorem nextConfigLine_plain {body : List Char} (h : PlainLine body) (rest : List Char)
    (fuel : ℕ) : nextConfigLine (fuel + 1) (body ++ '\n' :: rest) = some (body ++ ['\n'], rest) := by
  have htext : cString (body ++ ['\n']) = body ++ ['\n'] := by
    refine cString_eq_self fun c hc => ?_
    rcases List.mem_append.mp hc with hc | hc
    · exact (h.ne hc).2.2
    · rw [List.mem_singleton.mp hc]
      decide
  obtain ⟨c, tail, rfl, hdigit⟩ := h.head
  have hspace : isSpace c = false := by
    have hlow : '0' ≤ c := (of_decide_eq_true hdigit).1
    rw [Bool.eq_false_iff]
    intro hspace
    rcases of_decide_eq_true hspace with rfl | ⟨-, hhigh⟩
    · exact absurd hlow (by decide)
    · exact absurd (Char.le_trans hlow hhigh) (by decide)
  have hcomment : c ≠ '#' := by
    rintro rfl
    exact absurd hdigit (by decide)
  rw [nextConfigLine, fgets_line (fun c hc => (h.ne hc).1) h.short]
  dsimp only
  rw [htext, List.cons_append, List.dropWhile_cons_of_neg (by rw [hspace]; exact Bool.false_ne_true),
    if_pos]
  rw [List.head?_cons]
  exact fun heq => hcomment (Option.some.inj heq)

/-- A line without carriage returns is not squeezed. -/
theorem squeezeCarriageReturns_eq_self {line : List Char} (h : ∀ c ∈ line, c ≠ '\r') :
    squeezeCarriageReturns line = line := by
  have hkept : line.filter (· ≠ '\r') = line :=
    List.filter_eq_self.mpr fun c hc => decide_eq_true (h c hc)
  rw [squeezeCarriageReturns, hkept, List.drop_length, List.append_nil]

/-! ### The tokens of a written line -/

/-- The numerals of a line. -/
private def numeralLine (numbers : List ℕ) : List Char :=
  List.intercalate [','] (numbers.map (Nat.toDigits 10))

/-- A numeral has no delimiter. -/
private theorem isDelimiter_toDigits {n : ℕ} {c : Char} (hc : c ∈ Nat.toDigits 10 n) :
    isDelimiter c = false := by
  have hdigit := (isNumeral_toDigits n).2 c hc
  rw [Bool.eq_false_iff]
  intro hdelim
  have hmem := List.contains_iff_mem.mp hdelim
  simp only [List.mem_cons, List.not_mem_nil, or_false] at hmem
  rcases hmem with rfl | rfl <;> exact absurd hdigit (by decide)

/-- The first numeral and the others behind a comma. -/
private theorem numeralLine_cons_cons (n m : ℕ) (numbers : List ℕ) :
    numeralLine (n :: m :: numbers) = Nat.toDigits 10 n ++ ',' :: numeralLine (m :: numbers) := by
  unfold numeralLine
  simp [List.intercalate]

/-- One numeral. -/
private theorem numeralLine_singleton (n : ℕ) : numeralLine [n] = Nat.toDigits 10 n := by
  unfold numeralLine
  simp [List.intercalate]

/-- The tokens of a line of numerals, and the empty one behind its newline. -/
private theorem tokens_numeralLine (n : ℕ) (numbers : List ℕ) :
    tokens (some (numeralLine (n :: numbers) ++ ['\n'])) =
      (n :: numbers).map (Nat.toDigits 10) ++ [[]] := by
  induction numbers generalizing n with
  | nil =>
    rw [numeralLine_singleton]
    exact List.splitOnP_append_cons_of_forall_mem (fun c hc => isDelimiter_toDigits hc) '\n'
      (by decide) []
  | cons m numbers ih =>
    rw [numeralLine_cons_cons, List.append_assoc, List.cons_append]
    have hsplit := List.splitOnP_append_cons_of_forall_mem (p := isDelimiter)
      (fun c hc => isDelimiter_toDigits (n := n) hc) ',' (by decide)
      (numeralLine (m :: numbers) ++ ['\n'])
    exact hsplit.trans (congrArg _ (ih m))

/-- A line of numerals is plain when it is short. -/
private theorem plainLine_numeralLine (n : ℕ) (numbers : List ℕ)
    (hshort : (numeralLine (n :: numbers)).length < maxConfigLineLen - 1) :
    PlainLine (numeralLine (n :: numbers)) := by
  refine ⟨?_, ?_, hshort⟩
  · obtain ⟨c, rest, hdigits⟩ := List.exists_cons_of_ne_nil (isNumeral_toDigits n).1
    have hc := (isNumeral_toDigits n).2 c (hdigits ▸ List.mem_cons_self)
    cases numbers with
    | nil => exact ⟨c, rest, by rw [numeralLine_singleton, hdigits], hc⟩
    | cons m numbers =>
      exact ⟨c, rest ++ ',' :: numeralLine (m :: numbers),
        by rw [numeralLine_cons_cons, hdigits]; rfl, hc⟩
  · clear hshort
    induction numbers generalizing n with
    | nil =>
      intro c hc
      rw [numeralLine_singleton] at hc
      exact .inl ((isNumeral_toDigits n).2 c hc)
    | cons m numbers ih =>
      intro c hc
      rw [numeralLine_cons_cons] at hc
      rcases List.mem_append.mp hc with hc | hc
      · exact .inl ((isNumeral_toDigits n).2 c hc)
      · rcases List.mem_cons.mp hc with hc | hc
        · exact .inr hc
        · exact ih m c hc

/-- Numerals of 64 bits have at most twenty digits, and a comma. -/
private theorem length_numeralLine_lt {n : ℕ} {numbers : List ℕ}
    (h : ∀ m ∈ n :: numbers, m < 2 ^ 64) :
    (numeralLine (n :: numbers)).length < 21 * (n :: numbers).length := by
  have hdigits : ∀ m, m < 2 ^ 64 → (Nat.toDigits 10 m).length ≤ 20 := fun m hm =>
    (Nat.length_toDigits_le_iff (by decide) (by decide)).mpr (Nat.lt_trans hm (by decide))
  induction numbers generalizing n with
  | nil =>
    have := hdigits n (h n List.mem_cons_self)
    rw [numeralLine_singleton, List.length_singleton]
    omega
  | cons m numbers ih =>
    have := hdigits n (h n List.mem_cons_self)
    have := ih fun k hk => h k (List.mem_cons_of_mem n hk)
    rw [numeralLine_cons_cons, List.length_append, List.length_cons, List.length_cons]
    omega

/-- Numbers that fit their fields are printed as numerals that do. -/
private theorem properFields_toDigits {fields : List ConfigField} {numbers : List ℕ}
    (h : List.Forall₂ (fun field n => n < field.conversion.limit) fields numbers)
    (more : List (List Char)) :
    ProperFields fields (numbers.map (Nat.toDigits 10) ++ more) := by
  induction h with
  | nil =>
    refine ⟨Nat.zero_le _, fun p hp => ?_⟩
    rw [List.zip_nil_left] at hp
    exact absurd hp List.not_mem_nil
  | @cons field n fields numbers hfits _ ih =>
    rw [List.map_cons, List.cons_append]
    refine ⟨Nat.succ_le_succ ih.1, ?_⟩
    rw [List.zip_cons_cons, List.forall_mem_cons]
    refine ⟨⟨isNumeral_toDigits n, ?_⟩, ih.2⟩
    rw [numeral_toDigits]
    exact hfits

/-- The numbers that the numerals of a line denote. -/
private theorem map_numeral_toDigits (numbers : List ℕ) (more : List (List Char)) :
    (numbers.map (Nat.toDigits 10) ++ more).map numeral = numbers ++ more.map numeral := by
  rw [List.map_append, List.map_map]
  refine congrArg (· ++ _) (List.map_id'' (fun n => ?_) numbers)
  exact numeral_toDigits n

/-! ### The round trip -/

/-- What is read back of the settings of a set. -/
structure SettingsReproduced (settings : AppDirectAttributes) (inUse : Prop) (old : InterleaveFormat)
    (interleave : InterleaveFormat) (mirrored : UInt8) : Prop where
  /-- The number of ways. -/
  ways : interleave.ways = settings.interleave.ways
  /-- The channel interleave size. -/
  channel : inUse ∨ old.channel = .none → interleave.channel = settings.interleave.channel
  /-- The memory controller interleave size. -/
  imc : inUse ∨ old.imc = .none → interleave.imc = settings.interleave.imc
  /-- The mirror flag. -/
  mirrored : mirrored.toNat = settings.mirrored.toNat

/-- What is read back of a DIMM and its goal into a destination.  The settings of a set that the goal
does not have come back when the destination was zeroed before. -/
structure Reproduced (discovery : DumpedDevice) (goal : ConfigGoal) (old config : DimmConfig) :
    Prop where
  /-- The socket id. -/
  socketId : config.socketId = discovery.socketId
  /-- The handle. -/
  dimmHandle : config.dimmHandle = discovery.deviceHandle
  /-- The capacity, in GiB. -/
  dimmSizeGb : config.dimmSizeGb = discovery.capacity / bytesPerGiB
  /-- The memory size. -/
  memorySize : config.memorySize = goal.memorySize
  /-- The size of the first set. -/
  firstSize : config.appDirect1Size = goal.appDirect1Size
  /-- The index of the first set. -/
  firstSetId : config.appDirect1SetId = goal.appDirect1SetId
  /-- The settings of the first set. -/
  firstSettings : SettingsReproduced goal.appDirect1Settings (1 ≤ goal.appDirectCount)
    old.appDirect1Interleave config.appDirect1Interleave config.appDirect1Mirrored
  /-- The size of the second set. -/
  secondSize : config.appDirect2Size = goal.appDirect2Size
  /-- The index of the second set. -/
  secondSetId : config.appDirect2SetId = goal.appDirect2SetId
  /-- The settings of the second set. -/
  secondSettings : SettingsReproduced goal.appDirect2Settings (2 ≤ goal.appDirectCount)
    old.appDirect2Interleave config.appDirect2Interleave config.appDirect2Mirrored

/-- A goal as the library writes it: at most two sets, and the sets it has are interleaved in some
size. -/
structure WrittenByLibrary (goal : ConfigGoal) : Prop where
  /-- There are at most two sets. -/
  count : goal.appDirectCount ≤ 2
  /-- The first set has interleave sizes. -/
  first : 1 ≤ goal.appDirectCount → goal.appDirect1Settings.interleave.channel ≠ .none ∧
    goal.appDirect1Settings.interleave.imc ≠ .none
  /-- The second set has interleave sizes. -/
  second : 2 ≤ goal.appDirectCount → goal.appDirect2Settings.interleave.channel ≠ .none ∧
    goal.appDirect2Settings.interleave.imc ≠ .none

/-- The settings of a set after its format and its flag have been read back. -/
private theorem settingsReproduced (settings : AppDirectAttributes) {inUse : Prop}
    (h : inUse → settings.interleave.channel ≠ .none ∧ settings.interleave.imc ≠ .none)
    (old : InterleaveFormat) :
    SettingsReproduced settings inUse old
      (interleaveFormatToStruct (.ofNat (interleaveStructToFormat settings.interleave).toNat) old)
      (.ofNat settings.mirrored.toNat) := by
  have hfresh := interleaveFormatToStruct_toFormat settings.interleave
  rw [UInt32.ofNat_toNat]
  refine ⟨?_, fun hold => ?_, fun hold => ?_, ?_⟩
  · have hways := congrArg InterleaveFormat.ways hfresh
    exact hways
  · have hchannel := congrArg InterleaveFormat.channel hfresh
    change interleaveSizeOfBitmap _ .none = _ at hchannel
    change interleaveSizeOfBitmap _ old.channel = _
    rw [interleaveSizeOfBitmap_old, hchannel]
    rcases hold with hin | hnone
    · rw [if_neg (h hin).1]
    · rw [hnone]
      split_ifs with hzero
      · exact hzero.symm
      · rfl
  · have himc := congrArg InterleaveFormat.imc hfresh
    change interleaveSizeOfBitmap _ .none = _ at himc
    change interleaveSizeOfBitmap _ old.imc = _
    rw [interleaveSizeOfBitmap_old, himc]
    rcases hold with hin | hnone
    · rw [if_neg (h hin).2]
    · rw [hnone]
      split_ifs with hzero
      · exact hzero.symm
      · rfl
  · cases settings.mirrored <;> rfl

/-- The numbers of a line fit their fields. -/
private theorem configLineNumbers_fit (discovery : DumpedDevice) (goal : ConfigGoal) :
    List.Forall₂ (fun field n => n < field.conversion.limit) configFields
      (configLineNumbers discovery goal) := by
  have hflag : ∀ flag : Bool, flag.toNat < 2 ^ 8 := by decide
  refine .cons (UInt16.toNat_lt _) (.cons (UInt32.toNat_lt _) (.cons (UInt64.toNat_lt _)
    (.cons (UInt64.toNat_lt _) (.cons (UInt64.toNat_lt _) (.cons (UInt32.toNat_lt _)
    (.cons (hflag _) (.cons (UInt16.toNat_lt _) (.cons (UInt64.toNat_lt _)
    (.cons (UInt32.toNat_lt _) (.cons (hflag _) (.cons (UInt16.toNat_lt _) .nil)))))))))))

/-- Numbers that fit their fields fit in 64 bits. -/
private theorem lt_of_fit {fields : List ConfigField} {numbers : List ℕ}
    (h : List.Forall₂ (fun field n => n < field.conversion.limit) fields numbers) :
    ∀ n ∈ numbers, n < 2 ^ 64 := by
  induction h with
  | nil => exact fun n hn => absurd hn List.not_mem_nil
  | @cons field n _ _ hfits _ ih =>
    refine List.forall_mem_cons.mpr ⟨Nat.lt_of_lt_of_le hfits ?_, ih⟩
    cases field.conversion <;> decide

/-- The next line of a file that begins with a written line. -/
private theorem nextConfigLine_configLine (discovery : DumpedDevice) (goal : ConfigGoal)
    (rest : List Char) (fuel : ℕ) :
    nextConfigLine (fuel + 1) (configLine discovery goal ++ rest) =
      some (configLine discovery goal, rest) ∧
    squeezeCarriageReturns (configLine discovery goal) = configLine discovery goal := by
  have hbound := lt_of_fit (configLineNumbers_fit discovery goal)
  have hplain := plainLine_numeralLine _ _
    (Nat.lt_of_lt_of_le (length_numeralLine_lt hbound) (show 21 * 12 ≤ 511 by decide))
  have hline : configLine discovery goal =
      numeralLine (configLineNumbers discovery goal) ++ ['\n'] := rfl
  refine ⟨?_, squeezeCarriageReturns_eq_self fun c hc => ?_⟩
  · rw [hline, List.append_assoc, List.singleton_append]
    exact nextConfigLine_plain hplain rest fuel
  · rw [hline] at hc
    rcases List.mem_append.mp hc with hc | hc
    · exact (hplain.ne hc).2.1
    · rw [List.mem_singleton.mp hc]
      decide

set_option maxRecDepth 4000 in
/-- The header is one short line that starts with a number sign. -/
private theorem configHeader_comment : ∃ body, configHeader = body ++ ['\n'] ∧
    (∀ c ∈ body, c ≠ '\n') ∧ body.length < maxConfigLineLen - 1 ∧
    ((cString (body ++ ['\n'])).dropWhile isSpace).head? = some '#' := by
  -- the text of the literals, so that it is not decoded again for each of the facts
  obtain ⟨text, htext, hfacts⟩ : ∃ text : List Char, configHeader = text ∧
      text.getLast? = some '\n' ∧ (text.dropLast.all fun c => c != '\n') = true ∧
      text.dropLast.length < maxConfigLineLen - 1 ∧
      ((cString (text.dropLast ++ ['\n'])).dropWhile isSpace).head? = some '#' :=
    ⟨_, congrArg₂ (· ++ ·) (congrArg₂ (· ++ ·) String.toList_ofList String.toList_ofList)
      String.toList_ofList, by decide +kernel⟩
  refine ⟨text.dropLast, htext.trans (List.dropLast_append_getLast? _ hfacts.1).symm,
    fun c hc => ?_, hfacts.2.2⟩
  exact bne_iff_ne.mp (List.all_eq_true.mp hfacts.2.1 c hc)

/-- The comment at the head of a file is skipped. -/
private theorem nextConfigLine_header (rest : List Char) (fuel : ℕ) :
    nextConfigLine (fuel + 1) (configHeader ++ rest) = nextConfigLine fuel rest := by
  obtain ⟨body, hheader, hbody, hshort, hcomment⟩ := configHeader_comment
  rw [hheader, List.append_assoc, List.singleton_append, nextConfigLine, fgets_line hbody hshort]
  dsimp only
  rw [hcomment, if_neg (not_not.mpr rfl)]

/-- A file that has been written to is not empty. -/
private theorem length_writeDimmConfig_pos (discovery : DumpedDevice) (goal : ConfigGoal)
    (append : Bool) : 1 ≤ (writeDimmConfig discovery goal append []).length := by
  have hline : 1 ≤ (configLine discovery goal).length := by
    rw [configLine, List.length_append]
    exact Nat.le_add_left _ _
  rw [writeDimmConfig]
  cases append with
  | false =>
    rw [if_neg Bool.false_ne_true, List.length_append]
    exact Nat.le_trans hline (Nat.le_add_left _ _)
  | true =>
    rw [if_pos rfl, List.nil_append]
    exact hline

/-- The next line of a file that the writer has begun or to whose end it has written. -/
private theorem nextConfigLine_writeDimmConfig (discovery : DumpedDevice) (goal : ConfigGoal)
    (append : Bool) (fuel : ℕ) :
    nextConfigLine (fuel + 2) (writeDimmConfig discovery goal append []) =
      some (configLine discovery goal, []) := by
  have halone := fun fuel => (nextConfigLine_configLine discovery goal [] fuel).1
  rw [List.append_nil] at halone
  rw [writeDimmConfig]
  cases append with
  | false => rw [if_neg Bool.false_ne_true, nextConfigLine_header, halone]
  | true => rw [if_pos rfl, List.nil_append, halone]

/-- A line that the writer has put into a file, alone or below the comment, is read, and what is read
are the socket, the handle, the capacity and the goal that were written. -/
theorem readDimmConfig_writeDimmConfig (discovery : DumpedDevice) (goal : ConfigGoal)
    (hgoal : WrittenByLibrary goal) (append : Bool) (old : DimmConfig) :
    ∃ config, readDimmConfig (writeDimmConfig discovery goal append []) old = (.read, config, []) ∧
      Reproduced discovery goal old config := by
  obtain ⟨fuel, hfuel⟩ : ∃ fuel, (writeDimmConfig discovery goal append []).length + 1 = fuel + 2 :=
    Nat.exists_eq_add_of_le' (Nat.succ_le_succ (length_writeDimmConfig_pos discovery goal append))
  have hnext := nextConfigLine_writeDimmConfig discovery goal append fuel
  rw [← hfuel] at hnext
  obtain ⟨haccepted, hwrite⟩ :=
    (properFields_toDigits (configLineNumbers_fit discovery goal) [[]]).accepted
  rw [map_numeral_toDigits] at hwrite
  have htokens : tokens (some (squeezeCarriageReturns (configLine discovery goal))) =
      (configLineNumbers discovery goal).map (Nat.toDigits 10) ++ [[]] := by
    rw [(nextConfigLine_configLine discovery goal [] 0).2]
    exact tokens_numeralLine _ _
  obtain ⟨hgood, hconfig⟩ := readConfigLine_eq (configLine discovery goal) old
  rw [htokens] at hgood hconfig
  rw [hwrite] at hconfig
  refine ⟨(readConfigLine (configLine discovery goal) old).config, ?_, ?_⟩
  · rw [readDimmConfig, hnext]
    dsimp only
    rw [hgood.mpr haccepted, if_neg Bool.false_ne_true]
  · rw [hconfig]
    refine ⟨UInt16.ofNat_toNat, UInt32.ofNat_toNat, UInt64.ofNat_toNat, UInt64.ofNat_toNat,
      UInt64.ofNat_toNat, UInt16.ofNat_toNat, ?_, UInt64.ofNat_toNat, UInt16.ofNat_toNat, ?_⟩
    · exact settingsReproduced goal.appDirect1Settings hgoal.first old.appDirect1Interleave
    · exact settingsReproduced goal.appDirect2Settings hgoal.second old.appDirect2Interleave

/-- The goal of a DIMM of 128 GiB in a six-way set. -/
private def sixWayGoal : ConfigGoal where
  appDirectCount := 1
  appDirect1Size := 126
  appDirect1SetId := 1
  appDirect1Settings := { interleave := ⟨false, .size4KB, .size4KB, .ways6⟩ }

/-- The round trip of that goal. -/
theorem readDimmConfig_writeDimmConfig_sixWay : WrittenByLibrary sixWayGoal ∧
    ∃ config, readDimmConfig (writeDimmConfig ⟨1, 0x1001, 137438953472⟩ sixWayGoal false []) {} =
        (.read, config, []) ∧
      Reproduced ⟨1, 0x1001, 137438953472⟩ sixWayGoal {} config := by
  have hgoal : WrittenByLibrary sixWayGoal := ⟨by decide, by decide, by decide⟩
  exact ⟨hgoal, readDimmConfig_writeDimmConfig _ _ hgoal false {}⟩

end IxpDimm
