import IxpDimm.ConfigFile.Tokens
import Mathlib.Order.Bounds.Defs

/-!
# The default name of a new namespace

`nvm_create_namespace` makes up a friendly name when it is given none: `NvDimmVol` and a number, one
more than the largest of the numbers in the names of that kind.  The number is an `unsigned int` when
it is read, an `int` when it is kept, and printed with a sign.

`defaultFriendlyName_fresh_iff` says when the name differs from all that exist.
-/

namespace IxpDimm

/-- `NVM_NAMESPACE_NAME_LEN`. -/
def nvmNamespaceNameLen : ℕ := 64

/-- `NVM_DEFAULT_NAMESPACE_NAME`. -/
def nvmDefaultNamespaceName : List Char := ['N', 'v', 'D', 'i', 'm', 'm', 'V', 'o', 'l']

/-- The text in a `friendly_name` array, as far as `s_strnlen` sees it. -/
def friendlyText (name : List Char) : List Char := cString (name.take nvmNamespaceNameLen)

/-- The test with `s_strncmp` for a name that begins like the default ones. -/
def isDefaultName (name : List Char) : Bool :=
  name.take nvmDefaultNamespaceName.length == nvmDefaultNamespaceName

/-- `id`: the number that `s_strtoui` reads in a name, zero when it stores none. -/
def nameId (name : List Char) : UInt32 :=
  .ofNat (((strtou (2 ^ 32 - 1) (friendlyText name)).2).getD 0)

/-- `max_unique_id` after the loop over the names.  The `int` is compared as an `unsigned int`. -/
def maxUniqueId (names : List (List Char)) : UInt32 :=
  names.foldl (fun maxId name => if isDefaultName name ∧ maxId < nameId name then nameId name
    else maxId) 0

/-- `%d`. -/
def formatInt : ℤ → List Char
  | .ofNat n => Nat.toDigits 10 n
  | .negSucc n => '-' :: Nat.toDigits 10 (n + 1)

/-- The name that `nvm_create_namespace` makes up beside the names that exist.  The sum of the
largest `int` and one is taken to be the smallest. -/
def defaultFriendlyName (names : List (List Char)) : List Char :=
  nvmDefaultNamespaceName ++ formatInt ((maxUniqueId names).toInt32 + 1).toInt

/-! ### The numbers of the names -/

/-- The numbers in the names that begin like the default ones, and zero. -/
def defaultIds (names : List (List Char)) : Set ℕ :=
  {n | n = 0 ∨ ∃ name ∈ names, isDefaultName name = true ∧ (nameId name).toNat = n}

/-- What the loop has kept is a number of the names or what it began with, and is not smaller than
any of them. -/
private theorem foldl_maxUniqueId (names : List (List Char)) (start : UInt32) :
    let last := names.foldl (fun maxId name =>
      if isDefaultName name ∧ maxId < nameId name then nameId name else maxId) start
    (last = start ∨ ∃ name ∈ names, isDefaultName name = true ∧ nameId name = last) ∧
      start.toNat ≤ last.toNat ∧
      ∀ name ∈ names, isDefaultName name = true → (nameId name).toNat ≤ last.toNat := by
  induction names generalizing start with
  | nil => exact ⟨.inl rfl, le_rfl, List.forall_mem_nil _⟩
  | cons name names ih =>
    rw [List.foldl_cons]
    by_cases hlarger : isDefaultName name = true ∧ start < nameId name
    · rw [if_pos hlarger]
      obtain ⟨hfrom, hstart, hall⟩ := ih (nameId name)
      have hlt := UInt32.lt_iff_toNat_lt.mp hlarger.2
      refine ⟨.inr ?_, hlt.le.trans hstart, List.forall_mem_cons.mpr ⟨fun _ => hstart, hall⟩⟩
      rcases hfrom with hfirst | ⟨name', hmem, hdefault, hid⟩
      · exact ⟨name, List.mem_cons_self, hlarger.1, hfirst.symm⟩
      · exact ⟨name', List.mem_cons_of_mem _ hmem, hdefault, hid⟩
    · rw [if_neg hlarger]
      obtain ⟨hfrom, hstart, hall⟩ := ih start
      refine ⟨?_, hstart, List.forall_mem_cons.mpr ⟨fun hdefault => ?_, hall⟩⟩
      · rcases hfrom with hfirst | ⟨name', hmem, hdefault, hid⟩
        · exact .inl hfirst
        · exact .inr ⟨name', List.mem_cons_of_mem _ hmem, hdefault, hid⟩
      · have hle := mt (fun hlt => ⟨hdefault, UInt32.lt_iff_toNat_lt.mpr hlt⟩) hlarger
        exact (Nat.not_lt.mp hle).trans hstart

/-- The number that the loop ends with is the largest. -/
theorem isGreatest_maxUniqueId (names : List (List Char)) :
    IsGreatest (defaultIds names) (maxUniqueId names).toNat := by
  obtain ⟨hfrom, -, hall⟩ := foldl_maxUniqueId names 0
  constructor
  · rcases hfrom with hnone | ⟨name, hmem, hdefault, hid⟩
    · exact .inl (congrArg UInt32.toNat hnone)
    · exact .inr ⟨name, hmem, hdefault, congrArg UInt32.toNat hid⟩
  · rintro n (rfl | ⟨name, hmem, hdefault, rfl⟩)
    · exact Nat.zero_le _
    · exact hall name hmem hdefault

/-! ### Freshness -/

/-- The next number as it is printed: with a sign when it is too large for an `int`. -/
private theorem toInt_next (n : UInt32) : (n.toInt32 + 1).toInt =
    if n.toNat < 2 ^ 31 - 1 then (n.toNat : ℤ) + 1 else n.toNat + 1 - 2 ^ 32 := by
  have hlt := n.toNat_lt
  have hn : n.toInt32.toInt = (n.toNat : ℤ).bmod (2 ^ 32) :=
    BitVec.toInt_eq_toNat_bmod n.toBitVec
  rw [Int32.toInt_add, hn, show (1 : Int32).toInt = 1 from rfl, Int.bmod_add_bmod, Int.bmod_def]
  split_ifs <;> omega

/-- The text of a name is the start of its array. -/
private theorem friendlyText_append (name : List Char) :
    ∃ rest, name = friendlyText name ++ rest := by
  obtain ⟨rest, htext⟩ := (List.takeWhile_prefix (l := name.take nvmNamespaceNameLen)
    (· ≠ '\x00')).trans (List.take_prefix _ _)
  exact ⟨rest, htext.symm⟩

/-- A name of the default kind, also one with a sign, counts with its number. -/
private theorem mem_defaultIds {names : List (List Char)} {name sign : List Char} {n : ℕ}
    (hmem : name ∈ names) (hsign : ∀ c ∈ sign, isDigit c = false) (hlt : n < 2 ^ 32)
    (htext : friendlyText name = nvmDefaultNamespaceName ++ (sign ++ Nat.toDigits 10 n)) :
    n ∈ defaultIds names := by
  refine .inr ⟨name, hmem, ?_, ?_⟩
  · obtain ⟨rest, hname⟩ := friendlyText_append name
    rw [isDefaultName, hname, htext, List.append_assoc, List.take_left]
    exact beq_self_eq_true _
  · have hletters : ∀ c ∈ nvmDefaultNamespaceName ++ sign, isDigit c = false := by
      intro c hc
      rcases List.mem_append.mp hc with hc | hc
      · have hall : nvmDefaultNamespaceName.all (fun c => !isDigit c) = true := rfl
        have hc := List.all_eq_true.mp hall c hc
        rwa [Bool.not_eq_true'] at hc
      · exact hsign c hc
    have hconv := @strtou_append (2 ^ 32 - 1) _ _ hletters (isNumeral_toDigits n)
      (by rw [numeral_toDigits]; omega)
    rw [nameId, htext, ← List.append_assoc, hconv, numeral_toDigits]
    exact Nat.mod_eq_of_lt hlt

/-- A number larger than those of the names is in none of them. -/
private theorem text_ne_of_lt {names : List (List Char)} {sign : List Char} {n : ℕ}
    (hsign : ∀ c ∈ sign, isDigit c = false) (hlt : n < 2 ^ 32)
    (hlarge : (maxUniqueId names).toNat < n) (name : List Char) (hmem : name ∈ names) :
    friendlyText name ≠ nvmDefaultNamespaceName ++ (sign ++ Nat.toDigits 10 n) := by
  intro htext
  have hle := (isGreatest_maxUniqueId names).2 (mem_defaultIds hmem hsign hlt htext)
  omega

/-- When the largest number does not fit an `int`, the negative number that is printed behind it is
in no name. -/
def WrappedNameFree (names : List (List Char)) : Prop :=
  ∀ greatest, IsGreatest (defaultIds names) greatest → 2 ^ 31 ≤ greatest → ∀ name ∈ names,
    friendlyText name ≠ nvmDefaultNamespaceName ++ formatInt ((greatest : ℤ) + 1 - 2 ^ 32)

/-- The default name differs from all existing names exactly when the one that is printed for a
number beyond the `int`s is free. -/
theorem defaultFriendlyName_fresh_iff (names : List (List Char)) :
    (∀ name ∈ names, friendlyText name ≠ defaultFriendlyName names) ↔ WrappedNameFree names := by
  have hgreatest := isGreatest_maxUniqueId names
  have hlt := (maxUniqueId names).toNat_lt
  have hnext := toInt_next (maxUniqueId names)
  rcases Nat.lt_or_ge (maxUniqueId names).toNat (2 ^ 31) with hfits | hlarge
  · refine iff_of_true ?_ fun greatest hg hge => ?_
    · unfold defaultFriendlyName
      rcases Nat.lt_or_ge (maxUniqueId names).toNat (2 ^ 31 - 1) with hless | hlast
      · -- the next number is printed as it is
        rw [hnext, if_pos hless]
        exact @text_ne_of_lt names [] ((maxUniqueId names).toNat + 1) (List.forall_mem_nil _)
          (by omega) (Nat.lt_succ_self _)
      · -- the next number is printed with a sign that the conversion skips
        have hvalue : ((maxUniqueId names).toNat : ℤ) + 1 - 2 ^ 32 = .negSucc (2 ^ 31 - 1) := by
          omega
        rw [hnext, if_neg (Nat.not_lt.mpr hlast), hvalue]
        exact @text_ne_of_lt names ['-'] (2 ^ 31) (List.forall_mem_singleton.mpr rfl) (by decide)
          (by omega)
    · exact absurd (hg.unique hgreatest) (by omega)
  · rw [defaultFriendlyName, hnext, if_neg (by omega)]
    constructor
    · intro h greatest hg _
      rw [hg.unique hgreatest]
      exact h
    · exact fun h => h _ hgreatest hlarge

/-- Behind `NvDimmVol4294967295` comes `NvDimmVol0`, whether it exists or not. -/
theorem not_defaultFriendlyName_fresh : ¬ ∀ names : List (List Char), ∀ name ∈ names,
    friendlyText name ≠ defaultFriendlyName names := by
  intro h
  refine h ["NvDimmVol4294967295".toList, "NvDimmVol0".toList] _
    (List.mem_cons_of_mem _ List.mem_cons_self) ?_
  decide

end IxpDimm
