import Mathlib.Data.List.TakeWhile
import Mathlib.Tactic.Linarith
import IxpDimm.ConfigFile.Reader

/-!
# Tokens and numerals of a configuration line

What the conversions do on a decimal numeral that fits, and what the calls of `READ_CONFIG_TOK` do
on a line: the tokens are the parts of the line between commas and newlines, and each field has its
own token.
-/

namespace IxpDimm

/-! ### Numerals -/

/-- A decimal numeral. -/
def IsNumeral (text : List Char) : Prop := text ≠ [] ∧ ∀ c ∈ text, isDigit c = true

instance (text : List Char) : Decidable (IsNumeral text) :=
  inferInstanceAs (Decidable (_ ∧ _))

/-- The number that a numeral denotes. -/
def numeral (text : List Char) : ℕ := Nat.ofDigitChars 10 text 0

/-- The digits of `ctype.h` are those of the library. -/
theorem isDigit_eq (c : Char) : isDigit c = c.isDigit := by
  unfold isDigit Char.isDigit
  rw [Bool.eq_iff_iff, decide_eq_true_iff, Bool.and_eq_true, decide_eq_true_iff,
    decide_eq_true_iff]
  rfl

/-- A number is printed as a numeral that denotes it. -/
theorem isNumeral_toDigits (n : ℕ) : IsNumeral (Nat.toDigits 10 n) := by
  refine ⟨Nat.toDigits_ne_nil, fun c hc => ?_⟩
  rw [isDigit_eq]
  exact Nat.isDigit_of_mem_toDigits (by decide) (by decide) hc

/-- The numeral of a printed number. -/
@[simp] theorem numeral_toDigits (n : ℕ) : numeral (Nat.toDigits 10 n) = n :=
  Nat.ofDigitChars_toDigits (by decide) (by decide)

/-- Reading on makes a number no smaller. -/
theorem le_ofDigitChars (text : List Char) (init : ℕ) :
    init ≤ Nat.ofDigitChars 10 text init := by
  induction text generalizing init with
  | nil => rw [Nat.ofDigitChars_nil]
  | cons c text ih =>
    rw [Nat.ofDigitChars_cons]
    exact le_trans (by omega) (ih _)

/-- The digit loop of the bounded conversions on digits that fit. -/
private theorem strtouDigits_of_le {max : ℕ} {text : List Char}
    (hdigits : ∀ c ∈ text, isDigit c = true) {result : ℕ} (consumed : ℕ)
    (hle : Nat.ofDigitChars 10 text result ≤ max) :
    strtouDigits max text result consumed =
      (Nat.ofDigitChars 10 text result, consumed + text.length) := by
  induction text generalizing result consumed with
  | nil => rfl
  | cons c text ih =>
    rw [Nat.ofDigitChars_cons, Nat.mul_comm] at hle ⊢
    rw [strtouDigits, if_pos (hdigits c List.mem_cons_self)]
    dsimp only
    rw [if_pos ((le_ofDigitChars text _).trans hle),
      ih (fun d hd => hdigits d (List.mem_cons_of_mem c hd)) _ hle, List.length_cons,
      Nat.add_right_comm, Nat.add_assoc]

/-- The value of a digit. -/
theorem toNat_toDigit {c : Char} (h : isDigit c = true) :
    (toDigit c).toNat = c.toNat - '0'.toNat ∧ c.toNat - '0'.toNat < 10 := by
  have hle : c.toNat ≤ '9'.toNat := (of_decide_eq_true h).2
  change c.toNat ≤ 57 at hle
  have hlt : c.toNat - '0'.toNat < 10 := by
    change c.toNat - 48 < 10
    omega
  refine ⟨?_, hlt⟩
  rw [toDigit, Foundation.toNat_ofNat_of_lt (by omega)]

/-- The digit loop of `s_strtoull` goes through digits that fit. -/
theorem strtoullDigits_append_of_lt {digits : List Char}
    (hdigits : ∀ c ∈ digits, isDigit c = true) {result : UInt64} (consumed : ℕ)
    (hlt : Nat.ofDigitChars 10 digits result.toNat < 2 ^ 64) (rest : List Char) :
    strtoullDigits (digits ++ rest) result consumed =
      strtoullDigits rest (UInt64.ofNat (Nat.ofDigitChars 10 digits result.toNat))
        (consumed + digits.length) := by
  induction digits generalizing result consumed with
  | nil =>
    rw [Nat.ofDigitChars_nil, UInt64.ofNat_toNat]
    rfl
  | cons c digits ih =>
    obtain ⟨hdigit, -⟩ := toNat_toDigit (hdigits c List.mem_cons_self)
    rw [Nat.ofDigitChars_cons] at hlt ⊢
    have hnext := le_ofDigitChars digits (10 * result.toNat + (c.toNat - '0'.toNat))
    have hmul : (result * 10).toNat = 10 * result.toNat := by
      rw [Foundation.toNat_mul_of_lt]
      · exact Nat.mul_comm _ _
      · show result.toNat * 10 < 2 ^ 64
        omega
    have hadd : (result * 10 + toDigit c).toNat = 10 * result.toNat + (c.toNat - '0'.toNat) := by
      rw [Foundation.toNat_add_of_lt (by rw [hmul, hdigit]; omega), hmul, hdigit]
    have hfirst : result * 10 ≥ result := UInt64.le_iff_toNat_le.mpr (by rw [hmul]; omega)
    have hsecond : result * 10 + toDigit c ≥ result * 10 :=
      UInt64.le_iff_toNat_le.mpr (by rw [hadd, hmul]; omega)
    rw [← hadd] at hlt ⊢
    rw [List.cons_append, strtoullDigits, if_pos (hdigits c List.mem_cons_self), if_pos hfirst,
      if_pos hsecond, ih (fun d hd => hdigits d (List.mem_cons_of_mem c hd)) _ hlt,
      List.length_cons, Nat.add_right_comm, Nat.add_assoc]

/-- The digit loop of `s_strtoull` on digits that fit. -/
theorem strtoullDigits_of_lt {text : List Char}
    (hdigits : ∀ c ∈ text, isDigit c = true) {result : UInt64} (consumed : ℕ)
    (hlt : Nat.ofDigitChars 10 text result.toNat < 2 ^ 64) :
    strtoullDigits text result consumed =
      (UInt64.ofNat (Nat.ofDigitChars 10 text result.toNat), consumed + text.length) := by
  have happend := strtoullDigits_append_of_lt hdigits consumed hlt []
  rwa [List.append_nil] at happend

/-- The digit loop counts at most the characters of its text. -/
theorem strtoullDigits_snd_bounds (text : List Char) (result : UInt64) (consumed : ℕ) :
    consumed ≤ (strtoullDigits text result consumed).2 ∧
      (strtoullDigits text result consumed).2 ≤ consumed + text.length := by
  induction text generalizing result consumed with
  | nil => exact ⟨le_rfl, le_rfl⟩
  | cons c text ih =>
    have hstop : consumed ≤ consumed ∧ consumed ≤ consumed + (c :: text).length :=
      ⟨le_rfl, Nat.le_add_right _ _⟩
    rw [strtoullDigits]
    split_ifs
    · obtain ⟨hlower, hupper⟩ := ih (result * 10 + toDigit c) (consumed + 1)
      rw [List.length_cons]
      exact ⟨by omega, by omega⟩
    · exact hstop
    · exact hstop
    · exact hstop

/-- Nothing is skipped before a numeral. -/
private theorem takeWhile_notDigit {text : List Char} (h : IsNumeral text) :
    (text.takeWhile fun c => !isDigit c) = [] := by
  obtain ⟨c, rest, rfl⟩ := List.exists_cons_of_ne_nil h.1
  rw [List.takeWhile_cons, h.2 c List.mem_cons_self]
  rfl

/-- A bounded conversion of a numeral that fits, and what is before it has no digit. -/
theorem strtou_append {max : ℕ} {letters text : List Char}
    (hletters : ∀ c ∈ letters, isDigit c = false) (h : IsNumeral text) (hle : numeral text ≤ max) :
    strtou max (letters ++ text) = ((letters ++ text).length, some (numeral text)) := by
  have hskipped : ((letters ++ text).takeWhile fun c => !isDigit c) = letters := by
    rw [List.takeWhile_append_of_pos fun c hc => by rw [hletters c hc]; rfl, takeWhile_notDigit h,
      List.append_nil]
  rw [strtou, if_neg (List.append_ne_nil_of_right_ne_nil _ h.1), hskipped]
  dsimp only
  rw [List.drop_left, strtouDigits_of_le h.2 _ hle, List.length_append]
  rfl

/-- A bounded conversion of a numeral that fits. -/
private theorem strtou_numeral {max : ℕ} {text : List Char} (h : IsNumeral text)
    (hle : numeral text ≤ max) : strtou max text = (text.length, some (numeral text)) :=
  strtou_append (List.forall_mem_nil _) h hle

/-- A text without a zero character is its own C string. -/
theorem cString_eq_self {text : List Char} (h : ∀ c ∈ text, c ≠ '\x00') : cString text = text :=
  List.takeWhile_eq_self_iff.mpr fun c hc => decide_eq_true (h c hc)

/-- `s_strtoull` on a numeral within its buffer is the digit loop over all of it. -/
theorem sStrtoull_numeral {text : List Char} (h : IsNumeral text) {strLen : ℕ}
    (hle : text.length ≤ strLen) : sStrtoull text strLen = strtoullDigits text 0 0 := by
  have htext : cString text = text := by
    refine cString_eq_self fun c hc hzero => ?_
    have hdigit := h.2 c hc
    rw [hzero] at hdigit
    exact absurd hdigit (by decide)
  rw [sStrtoull, htext, List.take_of_length_le hle, takeWhile_notDigit h]
  rfl

/-- A conversion of a numeral that fits goes through all of it and stores what it denotes. -/
theorem Conversion.apply_numeral {conversion : Conversion} {text : List Char} (h : IsNumeral text)
    (hlt : numeral text < conversion.limit) :
    conversion.apply text = (text.length, some (numeral text)) := by
  cases conversion with
  | digitstrtouc => exact strtou_numeral h (Nat.le_pred_of_lt hlt)
  | strtous => exact strtou_numeral h (Nat.le_pred_of_lt hlt)
  | strtoui => exact strtou_numeral h (Nat.le_pred_of_lt hlt)
  | strtoull =>
    change Nat.ofDigitChars 10 text (0 : UInt64).toNat < 2 ^ 64 at hlt
    rw [apply, if_neg h.1, sStrtoull_numeral h le_rfl, strtoullDigits_of_lt h.2 0 hlt,
      Nat.zero_add]
    dsimp only
    rw [Foundation.toNat_ofNat_of_lt hlt]
    rfl
  | interleaveFormat =>
    have hle : numeral text ≤ 2 ^ 32 - 1 := Nat.le_pred_of_lt hlt
    rw [apply, strtou_numeral h hle]
    dsimp only
    rw [if_pos rfl, Option.getD_some]

/-! ### Tokens -/

/-- The characters between which the tokens of a line stand. -/
def isDelimiter (c : Char) : Bool := [',', '\n'].contains c

/-- The tokens that are left on a line. -/
def tokens : Option (List Char) → List (List Char)
  | none => []
  | some text => text.splitOnP isDelimiter

/-- The conversion of the field goes through the whole token. -/
def ConfigField.accepts (field : ConfigField) (token : List Char) : Bool :=
  (field.conversion.apply token).1 == token.length

/-- What reading the token writes. -/
def ConfigField.write (field : ConfigField) (token : List Char) (config : DimmConfig) :
    DimmConfig :=
  match (field.conversion.apply token).2 with
  | some n => field.store n config
  | none => config

/-- A text has no delimiter, or a first one. -/
private theorem first_delimiter (text : List Char) :
    (∀ c ∈ text, isDelimiter c = false) ∨ ∃ token sep rest, text = token ++ sep :: rest ∧
      (∀ c ∈ token, isDelimiter c = false) ∧ isDelimiter sep = true := by
  induction text with
  | nil => exact .inl fun c hc => absurd hc List.not_mem_nil
  | cons c text ih =>
    by_cases hc : isDelimiter c = true
    · exact .inr ⟨[], c, text, rfl, fun d hd => absurd hd List.not_mem_nil, hc⟩
    · have hfree : isDelimiter c = false := Bool.eq_false_iff.mpr hc
      rcases ih with hall | ⟨token, sep, rest, rfl, htoken, hsep⟩
      · exact .inl (List.forall_mem_cons.mpr ⟨hfree, hall⟩)
      · exact .inr ⟨c :: token, sep, rest, rfl, List.forall_mem_cons.mpr ⟨hfree, htoken⟩, hsep⟩

/-- The last token is taken off the line. -/
private theorem xStrtok_last {text : List Char} (h : ∀ c ∈ text, isDelimiter c = false) :
    xStrtok (some text) [',', '\n'] = (some text, none) := by
  have htoken : (text.takeWhile fun c => !([',', '\n'].contains c)) = text :=
    List.takeWhile_eq_self_iff.mpr fun c hc => by rw [Bool.not_eq_true_eq_eq_false]; exact h c hc
  rw [xStrtok, htoken, List.drop_length]

/-- A token with others behind it is taken off the line. -/
private theorem xStrtok_first {token rest : List Char} {sep : Char}
    (h : ∀ c ∈ token, isDelimiter c = false) (hsep : isDelimiter sep = true) :
    xStrtok (some (token ++ sep :: rest)) [',', '\n'] = (some token, some rest) := by
  have htoken : ((token ++ sep :: rest).takeWhile fun c => !([',', '\n'].contains c)) = token := by
    have hstop : (!([',', '\n'].contains sep)) = false := by
      rw [Bool.not_eq_false_eq_eq_true]
      exact hsep
    rw [List.takeWhile_append_of_pos, List.takeWhile_cons_of_neg, List.append_nil]
    · rw [hstop]
      exact Bool.false_ne_true
    · intro c hc
      rw [Bool.not_eq_true_eq_eq_false]
      exact h c hc
  rw [xStrtok, htoken, List.drop_left]

/-- A token is taken off the line. -/
theorem xStrtok_tokens (text : List Char) : ∃ token,
    (xStrtok (some text) [',', '\n']).1 = some token ∧
      tokens (some text) = token :: tokens (xStrtok (some text) [',', '\n']).2 := by
  rcases first_delimiter text with hfree | ⟨token, sep, rest, rfl, hfree, hsep⟩
  · rw [xStrtok_last hfree]
    exact ⟨text, rfl, List.splitOnP_eq_singleton hfree⟩
  · rw [xStrtok_first hfree hsep]
    exact ⟨token, rfl, List.splitOnP_append_cons_of_forall_mem hfree sep hsep rest⟩

/-- Every field has a token, which its conversion goes through. -/
def AllAccepted (fields : List ConfigField) (tokens : List (List Char)) : Prop :=
  fields.length ≤ tokens.length ∧ ∀ p ∈ fields.zip tokens, p.1.accepts p.2 = true

/-- What reading the tokens writes, one after the other. -/
def writeAll (fields : List ConfigField) (tokens : List (List Char)) (config : DimmConfig) :
    DimmConfig :=
  (fields.zip tokens).foldl (fun config p => p.1.write p.2 config) config

/-- Every field has a token that is a numeral and fits. -/
def ProperFields (fields : List ConfigField) (tokens : List (List Char)) : Prop :=
  fields.length ≤ tokens.length ∧
    ∀ p ∈ fields.zip tokens, IsNumeral p.2 ∧ numeral p.2 < p.1.conversion.limit

instance (fields : List ConfigField) (tokens : List (List Char)) :
    Decidable (ProperFields fields tokens) :=
  inferInstanceAs (Decidable (_ ∧ _))

/-- The numbers are stored to the fields, one after the other. -/
def storeAll (fields : List ConfigField) (numbers : List ℕ) (config : DimmConfig) : DimmConfig :=
  (fields.zip numbers).foldl (fun config p => p.1.store p.2 config) config

/-- Numerals that fit are accepted, and what they denote is stored. -/
theorem ProperFields.accepted {fields : List ConfigField} {tokens : List (List Char)}
    (h : ProperFields fields tokens) : AllAccepted fields tokens ∧
      ∀ config, writeAll fields tokens config = storeAll fields (tokens.map numeral) config := by
  obtain ⟨hlength, hall⟩ := h
  refine ⟨⟨hlength, fun p hp => ?_⟩, ?_⟩
  · obtain ⟨hnumeral, hfits⟩ := hall p hp
    rw [ConfigField.accepts, Conversion.apply_numeral hnumeral hfits]
    exact beq_self_eq_true _
  · induction fields generalizing tokens with
    | nil => exact fun config => rfl
    | cons field fields ih =>
      intro config
      obtain ⟨token, tokens, rfl⟩ :=
        List.exists_cons_of_length_pos (Nat.lt_of_lt_of_le (Nat.succ_pos _) hlength)
      rw [List.zip_cons_cons, List.forall_mem_cons] at hall
      have hfirst : field.write token config = field.store (numeral token) config := by
        rw [ConfigField.write, Conversion.apply_numeral hall.1.1 hall.1.2]
      rw [writeAll, List.zip_cons_cons, List.foldl_cons, hfirst]
      exact ih (Nat.le_of_succ_le_succ hlength) hall.2 _

/-- One token is read. -/
private theorem readConfigTok_some (field : ConfigField) (text : List Char) (bad : Bool)
    (config : DimmConfig) : ∃ token rest, tokens (some text) = token :: tokens rest ∧
      readConfigTok ⟨some text, bad, config⟩ field =
        ⟨rest, bad || !field.accepts token, field.write token config⟩ := by
  obtain ⟨token, htoken, htokens⟩ := xStrtok_tokens text
  refine ⟨token, (xStrtok (some text) [',', '\n']).2, htokens, ?_⟩
  have hpair : xStrtok (some text) [',', '\n'] =
      (some token, (xStrtok (some text) [',', '\n']).2) := Prod.ext htoken rfl
  rw [readConfigTok]
  dsimp only
  rw [hpair]
  rfl

/-- The calls of `READ_CONFIG_TOK` on a line: it is good when every field has a token that its
conversion goes through, and each token is written to its field. -/
theorem foldl_readConfigTok (fields : List ConfigField) (state : ReadState) :
    ((fields.foldl readConfigTok state).badFormat = false ↔
      state.badFormat = false ∧ AllAccepted fields (tokens state.line)) ∧
    (fields.foldl readConfigTok state).config =
      writeAll fields (tokens state.line) state.config := by
  induction fields generalizing state with
  | nil =>
    refine ⟨⟨fun h => ⟨h, Nat.zero_le _, fun p hp => ?_⟩, And.left⟩, ?_⟩
    · rw [List.zip_nil_left] at hp
      exact absurd hp List.not_mem_nil
    · rw [writeAll, List.zip_nil_left]
      rfl
  | cons field fields ih =>
    obtain ⟨line, bad, config⟩ := state
    rw [List.foldl_cons]
    cases line with
    | none =>
      have hnone : readConfigTok ⟨none, bad, config⟩ field = ⟨none, true, config⟩ := rfl
      rw [hnone]
      refine ⟨⟨fun h => absurd ((ih ⟨none, true, config⟩).1.mp h).1
        (show ¬ true = false by decide), ?_⟩, ?_⟩
      · rintro ⟨-, hlength, -⟩
        exact absurd hlength (Nat.not_succ_le_zero _)
      · rw [(ih ⟨none, true, config⟩).2, writeAll, writeAll, tokens, List.zip_nil_right,
          List.zip_nil_right]
    | some text =>
      obtain ⟨token, rest, htokens, hread⟩ := readConfigTok_some field text bad config
      obtain ⟨hbad, hconfig⟩ := ih ⟨rest, bad || !field.accepts token, field.write token config⟩
      rw [hread]
      dsimp only at hbad hconfig ⊢
      rw [htokens, hbad, hconfig]
      refine ⟨?_, ?_⟩
      · unfold AllAccepted
        rw [List.zip_cons_cons, List.forall_mem_cons, List.length_cons, List.length_cons,
          Nat.add_le_add_iff_right, Bool.or_eq_false_iff, Bool.not_eq_false']
        tauto
      · rw [writeAll, writeAll, List.zip_cons_cons, List.foldl_cons]

/-- A line that is not a comment: it is read when its tokens are accepted. -/
theorem readConfigLine_eq (line : List Char) (config : DimmConfig) :
    ((readConfigLine line config).badFormat = false ↔
      AllAccepted configFields (tokens (some (squeezeCarriageReturns line)))) ∧
    (readConfigLine line config).config =
      writeAll configFields (tokens (some (squeezeCarriageReturns line))) config := by
  obtain ⟨hbad, hconfig⟩ := foldl_readConfigTok configFields
    ⟨some (squeezeCarriageReturns line), false, config⟩
  refine ⟨hbad.trans ⟨And.right, fun h => ⟨rfl, h⟩⟩, hconfig⟩

end IxpDimm
