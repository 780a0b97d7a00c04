import IxpDimm.Common.Revision
import IxpDimm.ConfigFile.Tokens
import IxpDimm.Foundation.PaddedDecimal

/-!
# Revisions written and read

`build_revision` and `build_fw_revision` of `revision.c` write the parts of a revision as decimal
numbers with dots between them; `parse_main_revision` and `parse_fw_revision` read them back, if they
have not more digits than a part of a revision has.
-/

namespace IxpDimm

open Foundation

/-- `NVM_VERSION_LEN`. -/
def nvmVersionLen : ℕ := 25

/-- `build_revision`, into an array of `size` characters. -/
def buildRevision (size : ℕ) (revision : MainRevision) : List Char :=
  (paddedDecimal 2 revision.major ++ '.' :: paddedDecimal 2 revision.minor ++
    '.' :: paddedDecimal 2 revision.hotfix ++ '.' :: paddedDecimal 4 revision.build).take (size - 1)

/-- `build_fw_revision`, into an array of `size` characters. -/
def buildFwRevision (size : ℕ) (revision : ℕ × ℕ) : List Char :=
  (paddedDecimal 1 revision.1 ++ '.' :: paddedDecimal 1 revision.2).take (size - 1)

/-! ### Numbers in a text -/

/-- The digit loop of `s_strtous` on a numeral that fits. -/
private theorem strtousDigits_append {digits rest : List Char}
    (hdigits : ∀ c ∈ digits, isDigit c = true) (hrest : ∀ c ∈ rest.head?, isDigit c = false)
    {result : ℕ} (hfits : Nat.ofDigitChars 10 digits result ≤ 65535) :
    strtousDigits (digits ++ rest) result = (Nat.ofDigitChars 10 digits result, rest) := by
  induction digits generalizing result with
  | nil =>
    rw [List.nil_append, Nat.ofDigitChars_nil]
    cases rest with
    | nil => rfl
    | cons c rest =>
      rw [strtousDigits, if_neg]
      rw [hrest c rfl]
      exact fun h => Bool.false_ne_true h.1
  | cons c digits ih =>
    rw [Nat.ofDigitChars_cons] at hfits ⊢
    have hstep := le_ofDigitChars digits (10 * result + (c.toNat - '0'.toNat))
    rw [List.cons_append, strtousDigits, Nat.mul_comm result 10,
      if_pos ⟨hdigits c List.mem_cons_self, hstep.trans hfits⟩]
    exact ih (fun d hd => hdigits d (List.mem_cons_of_mem c hd)) hfits

/-- A number behind characters that are no digits. -/
private theorem sStrtous_paddedDecimal {before rest : List Char} {width n : ℕ} (hn : n ≤ 65535)
    (hbefore : ∀ c ∈ before, isDigit c = false) (hrest : ∀ c ∈ rest.head?, isDigit c = false) :
    sStrtous (before ++ (paddedDecimal width n ++ rest)) = (n, rest) := by
  have hdigits : ∀ c ∈ paddedDecimal width n, isDigit c = true := fun c hc => by
    rw [isDigit_eq]
    exact isDigit_of_mem_paddedDecimal hc
  have hskip : (before ++ (paddedDecimal width n ++ rest)).dropWhile (fun c => !isDigit c) =
      paddedDecimal width n ++ rest := by
    rw [List.dropWhile_append_of_pos fun c hc => by rw [hbefore c hc]; rfl]
    obtain ⟨c, digits, hcons⟩ := List.exists_cons_of_ne_nil (paddedDecimal_ne_nil width n)
    rw [hcons, List.cons_append, List.dropWhile_cons_of_neg]
    rw [hdigits c (by rw [hcons]; exact List.mem_cons_self)]
    decide
  rw [sStrtous, hskip, strtousDigits_append hdigits hrest (by rwa [ofDigitChars_paddedDecimal]),
    ofDigitChars_paddedDecimal]

/-- The next part of a revision. -/
private theorem parseRevision_paddedDecimal {before rest : List Char} {width n parts : ℕ}
    (hn : n ≤ 65535) (hbefore : ∀ c ∈ before, isDigit c = false)
    (hrest : ∀ c ∈ rest.head?, isDigit c = false) :
    parseRevision (parts + 1) (before ++ (paddedDecimal width n ++ rest)) =
      n :: parseRevision parts rest := by
  have hnumber := @sStrtous_paddedDecimal before rest width n hn hbefore hrest
  obtain ⟨c, text, hcons⟩ : ∃ c text, before ++ (paddedDecimal width n ++ rest) = c :: text := by
    refine List.exists_cons_of_ne_nil fun hnil => ?_
    obtain ⟨-, hnil⟩ := List.append_eq_nil_iff.mp hnil
    exact paddedDecimal_ne_nil width n (List.append_eq_nil_iff.mp hnil).1
  rw [hcons] at hnumber ⊢
  rw [parseRevision, hnumber]

/-- A dot ends a number. -/
private theorem isDigit_head_dot (rest : List Char) :
    ∀ c ∈ ('.' :: rest).head?, isDigit c = false := by
  intro c hc
  obtain rfl := Option.some.inj hc
  decide

/-- A dot is in front of a number. -/
private theorem isDigit_dot : ∀ c ∈ ['.'], isDigit c = false :=
  List.forall_mem_singleton.mpr (by decide)

/-- There is no terminator in a text of digits and dots. -/
private theorem cString_of_digits {text : List Char}
    (h : ∀ c ∈ text, isDigit c = true ∨ c = '.') : cString text = text := by
  refine List.takeWhile_eq_self_iff.mpr fun c hc => decide_eq_true ?_
  rintro rfl
  rcases h _ hc with hdigit | hdot
  · exact absurd hdigit (by decide)
  · exact absurd hdot (by decide)

/-- A number that has not too many digits is not truncated. -/
private theorem truncateUs_of_lt {value digits : ℕ} (h : value < 10 ^ digits) :
    truncateUs value digits = value := by
  have hrange : List.range 6 = 0 :: (List.range 5).map Nat.succ := rfl
  rw [truncateUs, hrange, List.map_cons, Nat.pow_zero, Nat.div_one,
    List.find?_cons, decide_eq_true h]
  rfl

/-! ### Round trips -/

/-- The digits and dots of a number. -/
private theorem digits_paddedDecimal {width n : ℕ} {c : Char} (h : c ∈ paddedDecimal width n) :
    isDigit c = true ∨ c = '.' := by
  rw [isDigit_eq]
  exact Or.inl (isDigit_of_mem_paddedDecimal h)

/-- The text of a revision has digits and dots only. -/
private theorem digits_buildRevision {revision : MainRevision} {size : ℕ} {c : Char}
    (h : c ∈ buildRevision size revision) : isDigit c = true ∨ c = '.' := by
  have hmem := List.mem_of_mem_take h
  simp only [List.mem_append, List.mem_cons, or_assoc] at hmem
  rcases hmem with hc | hc | hc | hc | hc | hc | hc
  · exact digits_paddedDecimal hc
  · exact Or.inr hc
  · exact digits_paddedDecimal hc
  · exact Or.inr hc
  · exact digits_paddedDecimal hc
  · exact Or.inr hc
  · exact digits_paddedDecimal hc

/-- The text of a revision ends with its array. -/
theorem cString_buildRevision (size : ℕ) (revision : MainRevision) :
    cString (buildRevision size revision) = buildRevision size revision :=
  cString_of_digits fun _ => digits_buildRevision

/-- A revision whose parts have two and four digits at most is read back. -/
theorem parseMainRevision_buildRevision {revision : MainRevision} {size : ℕ} (hsize : 14 ≤ size)
    (hmajor : revision.major < 10 ^ 2) (hminor : revision.minor < 10 ^ 2)
    (hhotfix : revision.hotfix < 10 ^ 2) (hbuild : revision.build < 10 ^ 4) :
    parseMainRevision (buildRevision size revision) = revision := by
  have hwhole : buildRevision size revision = paddedDecimal 2 revision.major ++
      ('.' :: (paddedDecimal 2 revision.minor ++ ('.' :: (paddedDecimal 2 revision.hotfix ++
        ('.' :: (paddedDecimal 4 revision.build ++ [])))))) := by
    rw [buildRevision, List.take_of_length_le]
    · simp only [List.append_assoc, List.cons_append, List.append_nil]
    · simp only [List.length_append, List.length_cons,
        length_paddedDecimal (by decide) hmajor, length_paddedDecimal (by decide) hminor,
        length_paddedDecimal (by decide) hhotfix, length_paddedDecimal (by decide) hbuild]
      omega
  have hparts : parseRevision 4 (buildRevision size revision) =
      [revision.major, revision.minor, revision.hotfix, revision.build] := by
    rw [hwhole]
    have hfirst := @parseRevision_paddedDecimal [] _ 2 revision.major 3 (by omega)
      (List.forall_mem_nil _) (isDigit_head_dot (paddedDecimal 2 revision.minor ++ ('.' ::
        (paddedDecimal 2 revision.hotfix ++ ('.' :: (paddedDecimal 4 revision.build ++ []))))))
    have hsecond := @parseRevision_paddedDecimal ['.'] _ 2 revision.minor 2 (by omega) isDigit_dot
      (isDigit_head_dot (paddedDecimal 2 revision.hotfix ++ ('.' ::
        (paddedDecimal 4 revision.build ++ []))))
    have hthird := @parseRevision_paddedDecimal ['.'] _ 2 revision.hotfix 1 (by omega) isDigit_dot
      (isDigit_head_dot (paddedDecimal 4 revision.build ++ []))
    have hfourth := @parseRevision_paddedDecimal ['.'] [] 4 revision.build 0 (by omega) isDigit_dot
      (fun c hc => by cases hc)
    rw [List.nil_append] at hfirst
    rw [List.singleton_append] at hsecond hthird hfourth
    rw [hfirst, hsecond, hthird, hfourth, parseRevision]
  rw [parseMainRevision, cString_buildRevision, hparts]
  simp only [List.getD_cons_zero, List.getD_cons_succ, truncateUs_of_lt hmajor,
    truncateUs_of_lt hminor, truncateUs_of_lt hhotfix, truncateUs_of_lt hbuild]

/-- A firmware API version whose parts are bytes is read back. -/
theorem parseFwRevision_buildFwRevision {version : ℕ × ℕ} {size : ℕ} (hsize : 8 ≤ size)
    (hmajor : version.1 < 10 ^ 3) (hminor : version.2 < 10 ^ 3) :
    parseFwRevision (buildFwRevision size version) = version := by
  have hlength : ∀ {n : ℕ}, n < 10 ^ 3 → (paddedDecimal 1 n).length ≤ 3 := by
    intro n hn
    have hdigits := (Nat.length_toDigits_le_iff (by decide) (by decide)).mpr hn
    rw [paddedDecimal, List.length_append, List.length_replicate]
    omega
  have hfst := hlength hmajor
  have hsnd := hlength hminor
  have hwhole : buildFwRevision size version =
      paddedDecimal 1 version.1 ++ ('.' :: (paddedDecimal 1 version.2 ++ [])) := by
    rw [buildFwRevision, List.append_nil, List.take_of_length_le]
    rw [List.length_append, List.length_cons]
    omega
  have hdigits : ∀ c ∈ buildFwRevision size version, isDigit c = true ∨ c = '.' := by
    intro c hc
    simp only [hwhole, List.mem_append, List.mem_cons, List.not_mem_nil, or_false] at hc
    rcases hc with hc | hc | hc
    · exact digits_paddedDecimal hc
    · exact Or.inr hc
    · exact digits_paddedDecimal hc
  have hfirst := @parseRevision_paddedDecimal [] _ 1 version.1 1 (by omega) (List.forall_mem_nil _)
    (isDigit_head_dot (paddedDecimal 1 version.2 ++ []))
  have hsecond := @parseRevision_paddedDecimal ['.'] [] 1 version.2 0 (by omega) isDigit_dot
    (fun c hc => by cases hc)
  rw [List.nil_append] at hfirst
  rw [List.singleton_append] at hsecond
  rw [parseFwRevision, cString_of_digits hdigits, hwhole, hfirst, hsecond, parseRevision]
  rfl

end IxpDimm
