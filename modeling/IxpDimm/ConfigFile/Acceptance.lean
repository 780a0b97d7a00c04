import Mathlib.Data.List.GetD
import IxpDimm.ConfigFile.Tokens

/-!
# Which lines of a configuration file are accepted

A line is accepted when each conversion goes through its whole token.  The conversions skip what
stands before the first digit, go through an empty token without storing anything, and the 64-bit
one tests for an overflow by comparing wrapped numbers; the loop that removes carriage returns does
not terminate the line anew.  So a line can be accepted although a field of it is missing, is empty,
is not a numeral or does not fit, and the configuration then keeps what was in the destination
before.  `soundlyRead_iff` says for which files this does not happen.
-/

namespace IxpDimm

/-! ### What a conversion rejects -/

/-- The digits of a token: what is behind the characters that a conversion skips. -/
def tokenDigits (token : List Char) : List Char := token.dropWhile fun c => !isDigit c

/-- A conversion sees that digits denote too large a number.  The 64-bit one compares the product
with ten and the sum with the next digit, both wrapped, with what they were made from. -/
def Conversion.SeesOverflow : Conversion → List Char → Prop
  | strtoull, digits => ∃ read c rest, digits = read ++ c :: rest ∧
      (numeral read % 2 ^ 64 * 10 % 2 ^ 64 < numeral read % 2 ^ 64 ∨
        2 ^ 64 ≤ numeral read % 2 ^ 64 * 10 % 2 ^ 64 + (c.toNat - '0'.toNat))
  | conversion, digits => conversion.limit ≤ numeral digits

/-- The tokens that a field rejects: those with something else behind their first digit, and the
numbers seen to be too large. -/
def ConfigField.Rejects (field : ConfigField) (token : List Char) : Prop :=
  (∃ c ∈ tokenDigits token, isDigit c = false) ∨ field.conversion.SeesOverflow (tokenDigits token)

/-- The digit loop of the bounded conversions goes to the end exactly when there are only digits and
the number fits. -/
private theorem strtouDigits_snd_eq_iff {max : ℕ} (text : List Char) {result : ℕ} (consumed : ℕ)
    (hresult : result ≤ max) :
    (strtouDigits max text result consumed).2 = consumed + text.length ↔
      (∀ c ∈ text, isDigit c = true) ∧ Nat.ofDigitChars 10 text result ≤ max := by
  induction text generalizing result consumed with
  | nil => simpa [strtouDigits] using hresult
  | cons c text ih =>
    have hshort : ¬ consumed = consumed + (c :: text).length :=
      Nat.ne_of_lt (Nat.lt_add_of_pos_right (Nat.succ_pos _))
    rw [strtouDigits, List.forall_mem_cons, Nat.ofDigitChars_cons, Nat.mul_comm 10]
    dsimp only
    by_cases hdigit : isDigit c = true
    · rw [if_pos hdigit]
      by_cases hle : result * 10 + (c.toNat - '0'.toNat) ≤ max
      · rw [if_pos hle, List.length_cons, Nat.add_comm text.length, ← Nat.add_assoc, ih _ hle]
        exact ⟨fun h => ⟨⟨hdigit, h.1⟩, h.2⟩, fun h => ⟨h.1.2, h.2⟩⟩
      · rw [if_neg hle]
        refine iff_of_false hshort fun h => hle ?_
        exact (le_ofDigitChars text _).trans h.2
    · rw [if_neg hdigit]
      exact iff_of_false hshort fun h => hdigit h.1.1

/-- One of the two tests of `s_strtoull` fails at a digit. -/
def TestFails (acc : ℕ) (c : Char) : Prop :=
  acc % 2 ^ 64 * 10 % 2 ^ 64 < acc % 2 ^ 64 ∨
    2 ^ 64 ≤ acc % 2 ^ 64 * 10 % 2 ^ 64 + (c.toNat - '0'.toNat)

/-- One of the two tests fails at some digit. -/
private def SomeTestFails (acc : ℕ) (digits : List Char) : Prop :=
  ∃ read c rest, digits = read ++ c :: rest ∧ TestFails (Nat.ofDigitChars 10 read acc) c

/-- A test fails at the first digit or later. -/
private theorem someTestFails_cons (acc : ℕ) (c : Char) (text : List Char) :
    SomeTestFails acc (c :: text) ↔
      TestFails acc c ∨ SomeTestFails (10 * acc + (c.toNat - '0'.toNat)) text := by
  constructor
  · rintro ⟨read, d, rest, htext, hfails⟩
    cases read with
    | nil =>
      obtain ⟨rfl, -⟩ := List.cons.inj htext
      exact .inl hfails
    | cons e read =>
      obtain ⟨rfl, rfl⟩ := List.cons.inj htext
      rw [Nat.ofDigitChars_cons] at hfails
      exact .inr ⟨read, d, rest, rfl, hfails⟩
  · rintro (hfails | ⟨read, d, rest, rfl, hfails⟩)
    · exact ⟨[], c, text, rfl, hfails⟩
    · refine ⟨c :: read, d, rest, rfl, ?_⟩
      rw [Nat.ofDigitChars_cons]
      exact hfails

/-- The tests of `s_strtoull` at a digit, and the next number when they pass. -/
theorem strtoull_tests {result : UInt64} {acc : ℕ} (hacc : result.toNat = acc % 2 ^ 64)
    {c : Char} (hdigit : isDigit c = true) :
    ((result * 10 ≥ result ∧ result * 10 + toDigit c ≥ result * 10) ↔ ¬ TestFails acc c) ∧
      (result * 10 + toDigit c).toNat = (10 * acc + (c.toNat - '0'.toNat)) % 2 ^ 64 := by
  obtain ⟨hvalue, hlt⟩ := toNat_toDigit hdigit
  have hmul : (result * 10).toNat = acc % 2 ^ 64 * 10 % 2 ^ 64 := by
    rw [UInt64.toNat_mul, hacc]
    rfl
  have hadd : (result * 10 + toDigit c).toNat =
      (acc % 2 ^ 64 * 10 % 2 ^ 64 + (c.toNat - '0'.toNat)) % 2 ^ 64 := by
    rw [UInt64.toNat_add, hmul, hvalue]
  refine ⟨?_, ?_⟩
  · unfold TestFails
    rw [ge_iff_le, ge_iff_le, UInt64.le_iff_toNat_le, UInt64.le_iff_toNat_le, hadd, hmul, hacc]
    generalize acc % 2 ^ 64 * 10 % 2 ^ 64 = product
    omega
  · rw [hadd]
    omega

/-- The digit loop of `s_strtoull` goes to the end exactly when there are only digits and no test
fails. -/
private theorem strtoullDigits_snd_eq_iff (text : List Char) {result : UInt64} (acc : ℕ)
    (hacc : result.toNat = acc % 2 ^ 64) (consumed : ℕ) :
    (strtoullDigits text result consumed).2 = consumed + text.length ↔
      (∀ c ∈ text, isDigit c = true) ∧ ¬ SomeTestFails acc text := by
  induction text generalizing result acc consumed with
  | nil =>
    refine iff_of_true rfl ⟨fun c hc => absurd hc List.not_mem_nil, ?_⟩
    rintro ⟨read, c, rest, htext, -⟩
    cases read <;> cases htext
  | cons c text ih =>
    have hshort : ¬ consumed = consumed + (c :: text).length :=
      Nat.ne_of_lt (Nat.lt_add_of_pos_right (Nat.succ_pos _))
    rw [strtoullDigits, List.forall_mem_cons, someTestFails_cons, not_or]
    by_cases hdigit : isDigit c = true
    · obtain ⟨htests, hnext⟩ := strtoull_tests hacc hdigit
      rw [if_pos hdigit, ← htests]
      by_cases hfirst : result * 10 ≥ result
      · rw [if_pos hfirst]
        by_cases hsecond : result * 10 + toDigit c ≥ result * 10
        · rw [if_pos hsecond, List.length_cons, Nat.add_comm text.length, ← Nat.add_assoc,
            ih _ hnext]
          exact ⟨fun h => ⟨⟨hdigit, h.1⟩, ⟨hfirst, hsecond⟩, h.2⟩, fun h => ⟨h.1.2, h.2.2⟩⟩
        · rw [if_neg hsecond]
          exact iff_of_false hshort fun h => hsecond h.2.1.2
      · rw [if_neg hfirst]
        exact iff_of_false hshort fun h => hfirst h.2.1.1
    · rw [if_neg hdigit]
      exact iff_of_false hshort fun h => hdigit h.1.1

/-- What is left when the skipped characters are dropped. -/
theorem drop_skipped (token : List Char) :
    token.drop (token.takeWhile fun c => !isDigit c).length = tokenDigits token ∧
      token.length = (token.takeWhile fun c => !isDigit c).length + (tokenDigits token).length := by
  have happend := List.takeWhile_append_dropWhile (p := fun c => !isDigit c) (l := token)
  have hdrop : ((token.takeWhile fun c => !isDigit c) ++ tokenDigits token).drop
      (token.takeWhile fun c => !isDigit c).length = tokenDigits token := List.drop_left
  have hlength := congrArg List.length happend
  rw [List.length_append] at hlength
  rw [tokenDigits, happend] at hdrop
  exact ⟨hdrop, hlength.symm⟩

/-- A bounded conversion goes through a token exactly when it has only digits behind the first and
the number fits. -/
private theorem strtou_fst_eq_iff (max : ℕ) (token : List Char) :
    (strtou max token).1 = token.length ↔
      (∀ c ∈ tokenDigits token, isDigit c = true) ∧ numeral (tokenDigits token) ≤ max := by
  rw [strtou]
  by_cases hempty : token = []
  · subst hempty
    rw [if_pos rfl]
    exact iff_of_true rfl ⟨fun c hc => absurd hc List.not_mem_nil, Nat.zero_le _⟩
  · obtain ⟨hdrop, hlength⟩ := drop_skipped token
    rw [if_neg hempty]
    dsimp only
    rw [hdrop, hlength]
    exact strtouDigits_snd_eq_iff _ _ (Nat.zero_le _)

/-- A conversion goes through a token exactly when it has only digits behind the first and no
overflow is seen. -/
private theorem Conversion.apply_fst_eq_iff (conversion : Conversion) {token : List Char}
    (hzero : ∀ c ∈ token, c ≠ '\x00') :
    (conversion.apply token).1 = token.length ↔
      (∀ c ∈ tokenDigits token, isDigit c = true) ∧
        ¬ conversion.SeesOverflow (tokenDigits token) := by
  have hbounded : ∀ limit, 0 < limit → ((strtou (limit - 1) token).1 = token.length ↔
      (∀ c ∈ tokenDigits token, isDigit c = true) ∧ ¬ limit ≤ numeral (tokenDigits token)) := by
    intro limit hpos
    rw [strtou_fst_eq_iff, not_le, Nat.le_sub_one_iff_lt hpos]
  cases conversion with
  | digitstrtouc => exact hbounded (2 ^ 8) (by decide)
  | strtous => exact hbounded (2 ^ 16) (by decide)
  | strtoui => exact hbounded (2 ^ 32) (by decide)
  | interleaveFormat => exact hbounded (2 ^ 32) (by decide)
  | strtoull =>
    rw [apply]
    by_cases hempty : token = []
    · subst hempty
      rw [if_pos rfl]
      refine iff_of_true rfl ⟨fun c hc => absurd hc List.not_mem_nil, ?_⟩
      rintro ⟨read, c, rest, htext, -⟩
      have hnil : ([] : List Char) = read ++ c :: rest := htext
      cases read <;> cases hnil
    · obtain ⟨hdrop, hlength⟩ := drop_skipped token
      rw [if_neg hempty, sStrtoull, cString_eq_self hzero, List.take_length]
      dsimp only
      rw [hdrop, hlength]
      exact strtoullDigits_snd_eq_iff _ 0 rfl _

/-- A field accepts the tokens that it does not reject. -/
theorem ConfigField.accepts_iff (field : ConfigField) {token : List Char}
    (hzero : ∀ c ∈ token, c ≠ '\x00') : field.accepts token = true ↔ ¬ field.Rejects token := by
  rw [accepts, beq_iff_eq, field.conversion.apply_fst_eq_iff hzero, Rejects, not_or]
  refine and_congr_left' ⟨?_, ?_⟩
  · rintro hdigits ⟨c, hc, hother⟩
    rw [hdigits c hc] at hother
    cases hother
  · intro hnone c hc
    exact Bool.of_not_eq_false fun hother => hnone ⟨c, hc, hother⟩

/-! ### Fields and tokens -/

/-- The fields of a line: what stands between the commas, up to the newline and without carriage
returns. -/
def lineFields (line : List Char) : List (List Char) :=
  ((line.filter (· ≠ '\r')).takeWhile (· ≠ '\n')).splitOnP (· == ',')

/-- The tokens of a line. -/
def lineTokens (line : List Char) : List (List Char) :=
  tokens (some (squeezeCarriageReturns line))

/-- Splitting looks at the characters of a text only. -/
private theorem splitOnP_congr {p q : Char → Bool} {text : List Char}
    (h : ∀ c ∈ text, p c = q c) : text.splitOnP p = text.splitOnP q := by
  induction text with
  | nil => rw [List.splitOnP_nil, List.splitOnP_nil]
  | cons c text ih =>
    rw [List.forall_mem_cons] at h
    rw [List.splitOnP_cons_eq_if_modifyHead, List.splitOnP_cons_eq_if_modifyHead, h.1, ih h.2]

/-- What follows a text is split off after the parts of the text, the last of which it extends. -/
private theorem splitOnP_append (p : Char → Bool) (text behind : List Char) :
    ∃ init last extra more, text.splitOnP p = init ++ [last] ∧
      (text ++ behind).splitOnP p = init ++ (last ++ extra) :: more := by
  induction text with
  | nil =>
    obtain ⟨extra, more, hsplit⟩ := List.exists_cons_of_ne_nil (List.splitOnP_ne_nil p behind)
    exact ⟨[], [], extra, more, List.splitOnP_nil, hsplit⟩
  | cons c text ih =>
    obtain ⟨init, last, extra, more, htext, happend⟩ := ih
    rw [List.cons_append, List.splitOnP_cons_eq_if_modifyHead, List.splitOnP_cons_eq_if_modifyHead,
      htext, happend]
    by_cases hc : p c = true
    · rw [if_pos hc, if_pos hc]
      exact ⟨[] :: init, last, extra, more, rfl, rfl⟩
    · rw [if_neg hc, if_neg hc]
      cases init with
      | nil => exact ⟨[], c :: last, extra, more, rfl, rfl⟩
      | cons part init => exact ⟨(c :: part) :: init, last, extra, more, rfl, rfl⟩

/-- The tokens of a line are its fields, of which the last can be extended, and what follows. -/
private theorem lineTokens_lineFields (line : List Char) :
    ∃ init last extra more, lineFields line = init ++ [last] ∧
      lineTokens line = init ++ (last ++ extra) :: more := by
  have hcomma : lineFields line =
      ((line.filter (· ≠ '\r')).takeWhile (· ≠ '\n')).splitOnP isDelimiter := by
    refine splitOnP_congr fun c hc => ?_
    have hkept := List.mem_takeWhile_imp hc
    have hc : c ≠ '\n' := of_decide_eq_true hkept
    rw [isDelimiter, List.contains_cons, List.contains_cons, List.contains_nil, beq_false_of_ne hc]
    simp
  have hline : squeezeCarriageReturns line = (line.filter (· ≠ '\r')).takeWhile (· ≠ '\n') ++
      ((line.filter (· ≠ '\r')).dropWhile (· ≠ '\n') ++
        line.drop (line.filter (· ≠ '\r')).length) := by
    rw [← List.append_assoc, List.takeWhile_append_dropWhile]
    rfl
  rw [hcomma, lineTokens, hline]
  exact splitOnP_append isDelimiter _ _

/-- A numeral that is extended to a text which its bounded conversion goes through. -/
private theorem isNumeral_extended {token extra : List Char} (htoken : IsNumeral token) {max : ℕ}
    (hthrough : (strtou max (token ++ extra)).1 = (token ++ extra).length) :
    IsNumeral (token ++ extra) ∧ numeral (token ++ extra) ≤ max := by
  obtain ⟨hdigits, hle⟩ := (strtou_fst_eq_iff _ _).mp hthrough
  have hall : tokenDigits (token ++ extra) = token ++ extra := by
    obtain ⟨c, rest, rfl⟩ := List.exists_cons_of_ne_nil htoken.1
    rw [tokenDigits, List.cons_append, List.dropWhile_cons_of_neg]
    rw [htoken.2 c List.mem_cons_self]
    decide
  rw [hall] at hdigits hle
  exact ⟨⟨List.append_ne_nil_of_left_ne_nil htoken.1 extra, hdigits⟩, hle⟩

/-- Fields and tokens of an accepted line agree up to the eleventh, and when the fields are numerals
that fit, the tokens are too. -/
private theorem properFields_lineTokens {line : List Char}
    (hfields : ProperFields configFields (lineFields line))
    (haccepted : AllAccepted configFields (lineTokens line)) :
    ProperFields configFields (lineTokens line) ∧
      ∀ i < 11, (lineTokens line)[i]? = (lineFields line)[i]? := by
  obtain ⟨init, last, extra, more, hinit, htokens⟩ := lineTokens_lineFields line
  rw [hinit] at hfields ⊢
  rw [htokens] at haccepted ⊢
  have hlong : 11 ≤ init.length := by
    have hlength := hfields.1
    rw [List.length_append] at hlength
    exact Nat.le_of_succ_le_succ hlength
  refine ⟨⟨haccepted.1, fun p hp => ?_⟩, fun i hi => ?_⟩
  · obtain ⟨i, hi, rfl⟩ := List.mem_iff_getElem.mp hp
    have hbounds := List.length_zip ▸ hi
    have hfield : i < configFields.length := Nat.lt_of_lt_of_le hbounds (Nat.min_le_left _ _)
    have hmem : ∀ token, (init ++ [last])[i]? = some token →
        IsNumeral token ∧ numeral token < configFields[i].conversion.limit := by
      intro token htoken
      refine hfields.2 (configFields[i], token) ?_
      refine List.mem_iff_getElem?.mpr ⟨i, ?_⟩
      rw [List.getElem?_zip_eq_some]
      exact ⟨List.getElem?_eq_getElem hfield, htoken⟩
    rw [List.getElem_zip]
    dsimp only
    rcases Nat.lt_or_ge i init.length with hinside | hbehind
    · rw [List.getElem_append_left hinside]
      refine hmem _ ?_
      rw [List.getElem?_append_left hinside, List.getElem?_eq_getElem hinside]
    · -- the twelfth token, whose conversion is bounded
      have hlast : i = 11 := Nat.le_antisymm (Nat.le_of_lt_succ hfield) (hlong.trans hbehind)
      have hexact : init.length = 11 := Nat.le_antisymm (hlast ▸ hbehind) hlong
      subst hlast
      have hnumeral := (hmem last (by
        rw [List.getElem?_append_right hbehind, hexact]
        rfl)).1
      have hthrough := haccepted.2 _ hp
      rw [List.getElem_zip] at hthrough
      have htoken : (init ++ (last ++ extra) :: more)[11] = last ++ extra := by
        rw [List.getElem_append_right hbehind]
        simp only [hexact, Nat.sub_self, List.getElem_cons_zero]
      rw [htoken] at hthrough ⊢
      obtain ⟨hproper, hle⟩ := isNumeral_extended hnumeral (beq_iff_eq.mp hthrough)
      exact ⟨hproper, Nat.lt_of_le_pred (show 0 < 2 ^ 16 by decide) hle⟩
  · rw [List.getElem?_append_left (Nat.lt_of_lt_of_le hi hlong),
      List.getElem?_append_left (Nat.lt_of_lt_of_le hi hlong)]

/-! ### The configuration -/

/-- The configuration that twelve numbers are stored to. -/
private def configOf (number : ℕ → ℕ) (first second : InterleaveFormat) : DimmConfig where
  socketId := .ofNat (number 0)
  dimmHandle := .ofNat (number 1)
  dimmSizeGb := .ofNat (number 2)
  memorySize := .ofNat (number 3)
  appDirect1Size := .ofNat (number 4)
  appDirect1Interleave := interleaveFormatToStruct (.ofNat (number 5)) first
  appDirect1Mirrored := .ofNat (number 6)
  appDirect1SetId := .ofNat (number 7)
  appDirect2Size := .ofNat (number 8)
  appDirect2Interleave := interleaveFormatToStruct (.ofNat (number 9)) second
  appDirect2Mirrored := .ofNat (number 10)
  appDirect2SetId := .ofNat (number 11)

/-- Twelve numbers replace everything but interleave sizes. -/
private theorem storeAll_configFields {numbers : List ℕ} (h : 12 ≤ numbers.length)
    (old : DimmConfig) : storeAll configFields numbers old =
      configOf (numbers.getD · 0) old.appDirect1Interleave old.appDirect2Interleave := by
  obtain ⟨first, hfirst, rest, rfl⟩ : ∃ first : List ℕ, first.length = 12 ∧ ∃ rest,
      numbers = first ++ rest :=
    ⟨numbers.take 12, List.length_take_of_le h, numbers.drop 12, (List.take_append_drop 12 _).symm⟩
  obtain ⟨n, rfl⟩ : ∃ n : Fin 12 → ℕ, first = List.ofFn n :=
    ⟨fun i => first.getD i 0, List.ext_getElem (hfirst.trans List.length_ofFn.symm)
      fun i hi _ => by rw [List.getElem_ofFn, List.getD_eq_getElem _ _ hi]⟩
  rfl

/-- The sizes of a format are known. -/
def KnownSizes (format : ℕ) : Prop :=
  interleaveSizeOfBitmap (UInt32.ofNat format &&& 0xff) .none ≠ .none ∧
    interleaveSizeOfBitmap ((UInt32.ofNat format >>> 8) &&& 0xff) .none ≠ .none

/-- A format replaces what was there before exactly when its sizes are known. -/
private theorem interleaveFormatToStruct_fresh_iff (format : ℕ) :
    (∀ old, interleaveFormatToStruct (.ofNat format) old =
      interleaveFormatToStruct (.ofNat format) {}) ↔ KnownSizes format := by
  constructor
  · intro h
    have hold := h ⟨false, .size64B, .size64B, .ways0⟩
    refine ⟨fun hnone => ?_, fun hnone => ?_⟩
    · have hchannel := congrArg InterleaveFormat.channel hold
      change interleaveSizeOfBitmap _ .size64B = interleaveSizeOfBitmap _ .none at hchannel
      rw [interleaveSizeOfBitmap_old, if_pos hnone, hnone] at hchannel
      cases hchannel
    · have himc := congrArg InterleaveFormat.imc hold
      change interleaveSizeOfBitmap _ .size64B = interleaveSizeOfBitmap _ .none at himc
      rw [interleaveSizeOfBitmap_old, if_pos hnone, hnone] at himc
      cases himc
  · rintro ⟨hchannel, himc⟩ old
    unfold interleaveFormatToStruct
    rw [interleaveSizeOfBitmap_old _ old.channel, if_neg hchannel,
      interleaveSizeOfBitmap_old _ old.imc, if_neg himc]

/-- The configuration that the fields of a line denote. -/
def denotedConfig (fields : List (List Char)) : DimmConfig :=
  storeAll configFields (fields.map numeral) {}

/-- No field is missing, and each is a numeral that fits; the last one is not extended to another
number, and the sizes of the formats are known. -/
structure FaithfulLine (line : List Char) : Prop where
  /-- The fields are numerals that fit. -/
  fields : ProperFields configFields (lineFields line)
  /-- The last token denotes the number of the last field. -/
  last : numeral ((lineTokens line).getD 11 []) = numeral ((lineFields line).getD 11 [])
  /-- The sizes of the first format are known. -/
  firstFormat : KnownSizes (numeral ((lineFields line).getD 5 []))
  /-- The sizes of the second format are known. -/
  secondFormat : KnownSizes (numeral ((lineFields line).getD 9 []))

/-- The number of an entry. -/
private theorem getD_map_numeral (texts : List (List Char)) (i : ℕ) :
    (texts.map numeral).getD i 0 = numeral (texts.getD i []) :=
  List.getD_map texts [] numeral

/-- An accepted line whose fields are numerals that fit is read as these numerals into every
destination exactly when the last token and the formats are as they should be. -/
private theorem writeAll_eq_denotedConfig_iff {line : List Char}
    (hfields : ProperFields configFields (lineFields line))
    (haccepted : AllAccepted configFields (lineTokens line)) :
    (∀ old, writeAll configFields (lineTokens line) old = denotedConfig (lineFields line)) ↔
      FaithfulLine line := by
  obtain ⟨htokens, hsame⟩ := properFields_lineTokens hfields haccepted
  have hnumber : ∀ i < 11, numeral ((lineTokens line).getD i []) =
      numeral ((lineFields line).getD i []) := by
    intro i hi
    rw [List.getD_eq_getElem?_getD, List.getD_eq_getElem?_getD, hsame i hi]
  have hstored : ∀ old, writeAll configFields (lineTokens line) old =
      configOf (fun i => numeral ((lineTokens line).getD i [])) old.appDirect1Interleave
        old.appDirect2Interleave := by
    intro old
    rw [htokens.accepted.2, storeAll_configFields (List.length_map numeral ▸ htokens.1)]
    simp only [getD_map_numeral]
  have hdenoted : denotedConfig (lineFields line) =
      configOf (fun i => numeral ((lineFields line).getD i [])) {} {} := by
    rw [denotedConfig, storeAll_configFields (List.length_map numeral ▸ hfields.1)]
    simp only [getD_map_numeral]
  have hconfig : ∀ old, writeAll configFields (lineTokens line) old =
      denotedConfig (lineFields line) ↔
      interleaveFormatToStruct (.ofNat (numeral ((lineFields line).getD 5 [])))
          old.appDirect1Interleave =
        interleaveFormatToStruct (.ofNat (numeral ((lineFields line).getD 5 []))) {} ∧
      interleaveFormatToStruct (.ofNat (numeral ((lineFields line).getD 9 [])))
          old.appDirect2Interleave =
        interleaveFormatToStruct (.ofNat (numeral ((lineFields line).getD 9 []))) {} ∧
      UInt16.ofNat (numeral ((lineTokens line).getD 11 [])) =
        UInt16.ofNat (numeral ((lineFields line).getD 11 [])) := by
    intro old
    rw [hstored, hdenoted, configOf, configOf, DimmConfig.mk.injEq]
    simp only [hnumber 0 (by decide), hnumber 1 (by decide), hnumber 2 (by decide),
      hnumber 3 (by decide), hnumber 4 (by decide), hnumber 5 (by decide), hnumber 6 (by decide),
      hnumber 7 (by decide), hnumber 8 (by decide), hnumber 9 (by decide), hnumber 10 (by decide),
      true_and]
  have hfit : ∀ {texts : List (List Char)}, ProperFields configFields texts →
      numeral (texts.getD 11 []) < 2 ^ 16 := by
    intro texts htexts
    have hlong : 11 < texts.length := Nat.lt_of_lt_of_le (by decide) htexts.1
    refine (htexts.2 (configFields[11], texts.getD 11 []) ?_).2
    refine List.mem_iff_getElem?.mpr ⟨11, ?_⟩
    rw [List.getElem?_zip_eq_some, List.getD_eq_getElem _ _ hlong]
    exact ⟨rfl, List.getElem?_eq_getElem hlong⟩
  constructor
  · intro hall
    refine ⟨hfields, ?_, ?_, ?_⟩
    · have hset := congrArg UInt16.toNat ((hconfig {}).mp (hall {})).2.2
      rwa [UInt16.toNat_ofNat', UInt16.toNat_ofNat', Nat.mod_eq_of_lt (hfit htokens),
        Nat.mod_eq_of_lt (hfit hfields)] at hset
    · refine (interleaveFormatToStruct_fresh_iff _).mp fun old => ?_
      exact ((hconfig { appDirect1Interleave := old }).mp (hall _)).1
    · refine (interleaveFormatToStruct_fresh_iff _).mp fun old => ?_
      exact ((hconfig { appDirect2Interleave := old }).mp (hall _)).2.1
  · rintro ⟨-, hlast, hfirst, hsecond⟩ old
    refine (hconfig old).mpr ⟨?_, ?_, congrArg UInt16.ofNat hlast⟩
    · exact (interleaveFormatToStruct_fresh_iff _).mpr hfirst _
    · exact (interleaveFormatToStruct_fresh_iff _).mpr hsecond _

/-! ### Files -/

/-- The line that is read of a file. -/
def fileLine (file : List Char) : Option (List Char) :=
  (nextConfigLine (file.length + 1) file).map Prod.fst

/-- A token is missing or rejected. -/
def RejectedLine (line : List Char) : Prop :=
  (lineTokens line).length < configFields.length ∨
    ∃ p ∈ configFields.zip (lineTokens line), p.1.Rejects p.2

/-- Whenever a configuration is read from the file, the line has all fields, each a numeral that
fits, and the configuration is the one that they denote, whatever was there before. -/
def SoundlyRead (file : List Char) : Prop :=
  ∀ old new rest, readDimmConfig file old = (.read, new, rest) → ∃ line,
    fileLine file = some line ∧ ProperFields configFields (lineFields line) ∧
      new = denotedConfig (lineFields line)

/-- A line that is read has no zero character. -/
private theorem ne_zero_of_nextConfigLine {fuel : ℕ} {file line rest : List Char}
    (h : nextConfigLine fuel file = some (line, rest)) : ∀ c ∈ line, c ≠ '\x00' := by
  induction fuel generalizing file with
  | zero => cases h
  | succ fuel ih =>
    rw [nextConfigLine] at h
    cases hgets : fgets file with
    | none =>
      rw [hgets] at h
      cases h
    | some got =>
      obtain ⟨text, behind⟩ := got
      rw [hgets] at h
      dsimp only at h
      by_cases hcomment : ((cString text).dropWhile isSpace).head? ≠ some '#'
      · rw [if_pos hcomment] at h
        obtain ⟨rfl, -⟩ := Prod.mk.inj (Option.some.inj h)
        intro c hc
        have hkept := List.mem_takeWhile_imp ((List.dropWhile_sublist isSpace).subset hc)
        exact of_decide_eq_true hkept
      · rw [if_neg hcomment] at h
        exact ih h

/-- The characters of the parts of a text are in the text. -/
private theorem mem_of_mem_splitOnP {p : Char → Bool} {text part : List Char}
    (hpart : part ∈ text.splitOnP p) {c : Char} (hc : c ∈ part) : c ∈ text := by
  induction text generalizing part with
  | nil =>
    rw [List.splitOnP_nil, List.mem_singleton] at hpart
    rw [hpart] at hc
    exact absurd hc List.not_mem_nil
  | cons d text ih =>
    obtain ⟨first, more, hfirst⟩ := List.exists_cons_of_ne_nil (List.splitOnP_ne_nil p text)
    rw [List.splitOnP_cons_eq_if_modifyHead] at hpart
    rw [hfirst] at hpart ih
    by_cases hd : p d = true
    · rw [if_pos hd] at hpart
      rcases List.mem_cons.mp hpart with rfl | hpart
      · exact absurd hc List.not_mem_nil
      · exact List.mem_cons_of_mem d (ih hpart hc)
    · rw [if_neg hd, List.modifyHead_cons] at hpart
      rcases List.mem_cons.mp hpart with rfl | hpart
      · rcases List.mem_cons.mp hc with rfl | hc
        · exact List.mem_cons_self
        · exact List.mem_cons_of_mem d (ih List.mem_cons_self hc)
      · exact List.mem_cons_of_mem d (ih (List.mem_cons_of_mem first hpart) hc)

/-- The characters of the tokens of a line are on the line. -/
private theorem mem_of_mem_lineTokens {line token : List Char} (htoken : token ∈ lineTokens line)
    {c : Char} (hc : c ∈ token) : c ∈ line := by
  rcases List.mem_append.mp (mem_of_mem_splitOnP htoken hc) with hkept | hleft
  · exact List.mem_of_mem_filter hkept
  · exact List.mem_of_mem_drop hleft

/-- The tokens of a line that is read are accepted unless it is a rejected line. -/
private theorem accepted_iff_not_rejectedLine {line : List Char}
    (hzero : ∀ c ∈ line, c ≠ '\x00') :
    AllAccepted configFields (lineTokens line) ↔ ¬ RejectedLine line := by
  rw [AllAccepted, RejectedLine, not_or, not_lt]
  refine and_congr_right' ⟨?_, ?_⟩
  · rintro hall ⟨p, hp, hrejects⟩
    refine (p.1.accepts_iff fun c hc => ?_).mp (hall p hp) hrejects
    exact hzero c (mem_of_mem_lineTokens (List.of_mem_zip hp).2 hc)
  · intro hnone p hp
    refine (p.1.accepts_iff fun c hc => ?_).mpr fun hrejects => hnone ⟨p, hp, hrejects⟩
    exact hzero c (mem_of_mem_lineTokens (List.of_mem_zip hp).2 hc)

/-- What is read from a file is sound exactly when a token of the line is missing or rejected, or
the line is faithful. -/
theorem soundlyRead_iff (file : List Char) :
    SoundlyRead file ↔ ∀ line, fileLine file = some line → RejectedLine line ∨ FaithfulLine line := by
  cases hnext : nextConfigLine (file.length + 1) file with
  | none =>
    have hline : fileLine file = none := by rw [fileLine, hnext, Option.map_none]
    refine iff_of_true (fun old new rest hread => ?_) fun line hsome => ?_
    · rw [readDimmConfig, hnext] at hread
      cases hread
    · rw [hline] at hsome
      cases hsome
  | some found =>
    obtain ⟨line, rest⟩ := found
    have hline : fileLine file = some line := by rw [fileLine, hnext, Option.map_some]
    have haccepted := accepted_iff_not_rejectedLine (ne_zero_of_nextConfigLine hnext)
    have hread : ∀ old new rest', readDimmConfig file old = (.read, new, rest') ↔
        AllAccepted configFields (lineTokens line) ∧
          writeAll configFields (lineTokens line) old = new ∧ rest = rest' := by
      intro old new rest'
      obtain ⟨hgood, hconfig⟩ := readConfigLine_eq line old
      rw [readDimmConfig, hnext]
      dsimp only
      rw [hconfig, Prod.mk.injEq, Prod.mk.injEq]
      refine and_congr_left' ?_
      rw [lineTokens, ← hgood]
      cases (readConfigLine line old).badFormat <;> simp
    have hsound : SoundlyRead file ↔ (AllAccepted configFields (lineTokens line) →
        ProperFields configFields (lineFields line) ∧
          ∀ old, writeAll configFields (lineTokens line) old = denotedConfig (lineFields line)) := by
      constructor
      · intro hsound haccepted
        have hfound : ∀ old, ProperFields configFields (lineFields line) ∧
            writeAll configFields (lineTokens line) old = denotedConfig (lineFields line) := by
          intro old
          have hsuccess := (hread old _ rest).mpr ⟨haccepted, rfl, rfl⟩
          obtain ⟨line', hsome, hfound⟩ := hsound old _ rest hsuccess
          rw [hline] at hsome
          obtain rfl := Option.some.inj hsome
          exact hfound
        exact ⟨(hfound {}).1, fun old => (hfound old).2⟩
      · intro hall old new rest' hnew
        obtain ⟨haccepted, rfl, -⟩ := (hread old new rest').mp hnew
        obtain ⟨hfields, hdenoted⟩ := hall haccepted
        exact ⟨line, hline, hfields, hdenoted old⟩
    rw [hsound, hline]
    constructor
    · rintro hall line' hsome
      obtain rfl := Option.some.inj hsome
      refine or_iff_not_imp_left.mpr fun hnot => ?_
      obtain ⟨hfields, hdenoted⟩ := hall (haccepted.mpr hnot)
      exact (writeAll_eq_denotedConfig_iff hfields (haccepted.mpr hnot)).mp hdenoted
    · intro hcond hacc
      have hfaithful := (hcond line rfl).resolve_left (haccepted.mp hacc)
      exact ⟨hfaithful.fields, (writeAll_eq_denotedConfig_iff hfaithful.fields hacc).mpr hfaithful⟩

/-- A line with eleven fields is accepted, and the destination of the twelfth keeps the set id that
was there before. -/
theorem not_soundlyRead_elevenFields : ¬ SoundlyRead "0,1,128,0,126,0,0,1,0,0,0\n".toList := by
  intro hsound
  obtain ⟨line, hline, hfields, -⟩ := hsound { appDirect2SetId := 77 }
    { dimmHandle := 1, dimmSizeGb := 128, appDirect1Size := 126, appDirect1SetId := 1,
      appDirect2SetId := 77 } [] (by decide +kernel)
  have hfile : fileLine "0,1,128,0,126,0,0,1,0,0,0\n".toList =
      some "0,1,128,0,126,0,0,1,0,0,0\n".toList := by decide +kernel
  rw [hfile] at hline
  obtain rfl := Option.some.inj hline
  exact absurd hfields (by decide +kernel)

end IxpDimm
