import Dosm.Python.Regex

namespace Dosm.Recording

open Python

/-! What `redact` takes out of a line before it goes into the journal. -/

/-- A letter as a pattern that ignores case compares it. -/
def foldLetter (char : Char) : Char :=
  if char.toNat = 0x212A then 'k'
  else if char.toNat = 0x130 ∨ char.toNat = 0x131 then 'i'
  else if char.toNat = 0x17F then 's'
  else char.toLower

/-- What follows a word at the front, upper or lower case. -/
def afterLetters (letters : String) (chars : List Char) : Option (List Char) :=
  if (chars.take letters.toList.length).map foldLetter = letters.toList then some (chars.drop letters.toList.length)
  else none

def afterText (text : String) (chars : List Char) : Option (List Char) :=
  if text.toList.isPrefixOf chars then some (chars.drop text.toList.length) else none

/-- What follows a nonempty run at the front. -/
def afterRun (allowed : Char → Bool) (chars : List Char) : Option (List Char) :=
  if chars.head?.any allowed then some (chars.dropWhile allowed) else none

def isVisible (char : Char) : Bool := !isSpace char

/-- The alternatives of `_CLI_SECRET_FLAGS`, with the optional character written out. -/
def secretFlags : List String :=
  ["--password", "--passwd", "--token", "--secret", "--api-key", "--api_key", "--apikey", "--access-key",
    "--access_key", "--accesskey"]

/-- The flag, `=` or a blank, and the beginning of a word. -/
def flagAt (chars : List Char) (flag : String) : Bool :=
  match afterLetters flag chars with
  | some (separator :: first :: _) => (separator = '=' || separator = ' ') && isVisible first
  | _ => false

def cliSecretFlags : Pattern := fun chars =>
  (secretFlags.find? (flagAt chars)).map fun flag =>
    let group := flag.toList.length + 1
    (group, group + ((chars.drop group).takeWhile isVisible).length)

def bearer : Pattern := fun chars => do
  let afterName ← afterLetters "authorization:" chars
  let afterScheme ← afterLetters "bearer" (afterName.dropWhile isSpace)
  let token ← afterRun isSpace afterScheme
  let rest ← afterRun isVisible token
  return (chars.length - token.length, chars.length - rest.length)

def isTokenChar (char : Char) : Bool := isAsciiLetter char || isAsciiDigit char || char = '_' || char = '-'

def isUpper (char : Char) : Bool := 'A' ≤ char && char ≤ 'Z'

/-- `_JWT` matches here. -/
def jwtAt (chars : List Char) : Bool :=
  (do
    let header ← afterText "eyJ" chars
    let payload ← afterText ".eyJ" (← afterRun isTokenChar header)
    let signature ← afterText "." (← afterRun isTokenChar payload)
    afterRun isTokenChar signature).isSome

/-- `_PEM` matches here. -/
def pemAt (chars : List Char) : Bool :=
  (do
    let name ← afterText "-----BEGIN " chars
    afterText "-----" (← afterRun (fun char => isUpper char || char = ' ') name)).isSome

/-- `_AWS_KEY` matches here. -/
def awsKeyAt (word : Char → Bool) (before : Option Char) (chars : List Char) : Bool :=
  match afterText "AKIA" chars with
  | none => false
  | some rest =>
      16 ≤ rest.length && (rest.take 16).all (fun char => isAsciiDigit char || isUpper char) &&
        boundary word before (some 'A') && boundary word (rest.take 16).getLast? (rest.drop 16).head?

/-- `_looks_like_secret`, for what follows one character. -/
def looksLikeSecret (word : Char → Bool) : Option Char → List Char → Bool
  | _, [] => false
  | before, char :: rest =>
      jwtAt (char :: rest) || pemAt (char :: rest) || awsKeyAt word before (char :: rest) ||
        looksLikeSecret word (some char) rest

def stars : List Char := "******".toList

def redactFlags (chars : List Char) : List Char := subGroup cliSecretFlags stars 0 chars

def redact (word : Char → Bool) (afterPasswordPrompt : Bool) (line : String) : String :=
  if afterPasswordPrompt then "******"
  else
    let redacted := subGroup bearer stars 0 (redactFlags line.toList)
    if looksLikeSecret word none redacted then "[redacted - potential secret]" else String.ofList redacted

example : redact Char.isAlphanum false "mysql --PASSWORD=a%b --token t" =
    "mysql --PASSWORD=****** --token ******" := by decide

example : redact Char.isAlphanum false "eyJh.eyJi.c" = "[redacted - potential secret]" ∧
    redact Char.isAlphanum false "eyJh.eyJ.c" = "eyJh.eyJ.c" := by decide

def IsFlag (flag : List Char) : Prop := flag.map foldLetter ∈ secretFlags.map String.toList

instance (flag : List Char) : Decidable (IsFlag flag) :=
  inferInstanceAs (Decidable (flag.map foldLetter ∈ secretFlags.map String.toList))

def IsSeparator (char : Char) : Prop := char = '=' ∨ char = ' '

/-- A word as `\S+` takes it: not empty, without blanks. -/
def IsWord (word : List Char) : Prop := word ≠ [] ∧ ∀ char ∈ word, isVisible char = true

/-- The next character, if there is one, is a blank. -/
def Ends (rest : List Char) : Prop := ∀ char ∈ rest.head?, isVisible char = false

theorem token_isFlag : IsFlag "--token".toList := by decide

theorem blank_separates : IsSeparator ' ' := .inr rfl

theorem ends_nil : Ends [] := fun _ member => absurd member (Option.not_mem_none _)

/-- A command line with a place for the word after a secret flag. -/
structure SecretSlot where
  front : List Char
  flag : List Char
  separator : Char
  rest : List Char
  isFlag : IsFlag flag
  isSeparator : IsSeparator separator
  ends : Ends rest

namespace SecretSlot

def after (slot : SecretSlot) (word : List Char) : List Char := slot.flag ++ slot.separator :: (word ++ slot.rest)

def fill (slot : SecretSlot) (word : List Char) : String := String.ofList (slot.front ++ slot.after word)

/-- The flag belongs to the word after an earlier flag. -/
def Nested (slot : SecretSlot) : Prop :=
  ∃ before outer separator inside, slot.front = before ++ (outer ++ separator :: inside) ∧ IsFlag outer ∧
    IsSeparator separator ∧ ∀ char ∈ inside, isVisible char = true

end SecretSlot

section Flags

variable {flag chars tail word rest : List Char} {separator : Char} {group whole : Nat}

def notSeparator (char : Char) : Bool := char ≠ '=' && char ≠ ' '

theorem flag_notSeparator (isFlag : IsFlag flag) : ∀ char ∈ flag, notSeparator char = true := by
  obtain ⟨name, listed, same⟩ := List.mem_map.mp isFlag
  have plain : ∀ name ∈ secretFlags, '=' ∉ name.toList ∧ ' ' ∉ name.toList := by decide
  intro char member
  have folded : foldLetter char ∈ name.toList := same ▸ List.mem_map_of_mem member
  simp only [notSeparator, Bool.and_eq_true, decide_eq_true_eq]
  constructor
  · rintro rfl
    exact (plain name listed).1 folded
  · rintro rfl
    exact (plain name listed).2 folded

theorem flag_ne_nil (isFlag : IsFlag flag) : flag ≠ [] := by
  rintro rfl
  have named : ∀ name ∈ secretFlags, name.toList ≠ [] := by decide
  obtain ⟨name, listed, same⟩ := List.mem_map.mp isFlag
  exact named name listed same

theorem takeWhile_separator (plain : ∀ char ∈ flag, notSeparator char = true) (isSeparator : IsSeparator separator) :
    (flag ++ separator :: tail).takeWhile notSeparator = flag := by
  rw [List.takeWhile_append_of_pos plain, List.takeWhile_cons_of_neg, List.append_nil]
  rcases isSeparator with rfl | rfl <;> decide

theorem flag_suffix {before : List Char} (isFlag : IsFlag flag) (longer : IsFlag (before ++ flag)) :
    before = [] := by
  obtain ⟨name, listed, same⟩ := List.mem_map.mp isFlag
  obtain ⟨other, otherListed, otherSame⟩ := List.mem_map.mp longer
  have apart : ∀ name ∈ secretFlags, ∀ other ∈ secretFlags,
      name.toList.isSuffixOf other.toList = true → name.toList.length = other.toList.length := by decide
  rw [List.map_append, ← same] at otherSame
  have suffix : name.toList.isSuffixOf other.toList = true := by
    rw [List.isSuffixOf_iff_suffix, otherSame]
    exact List.suffix_append _ _
  have lengths := apart name listed other otherListed suffix
  rw [otherSame, List.length_append, List.length_map] at lengths
  exact List.length_eq_zero_iff.mp (by omega)

theorem flagAt_iff {name : String} : flagAt chars name = true ↔
    ∃ flag separator first tail, chars = flag ++ separator :: first :: tail ∧ flag.map foldLetter = name.toList ∧
      IsSeparator separator ∧ isVisible first = true := by
  unfold flagAt afterLetters
  constructor
  · intro holds
    split at holds
    · rename_i separator first tail cut
      split at cut
      · rename_i same
        have rest := Option.some.inj cut
        refine ⟨chars.take name.toList.length, separator, first, tail, ?_, same, ?_, ?_⟩
        · rw [← rest, List.take_append_drop]
        · simpa [IsSeparator] using (Bool.and_eq_true_iff.mp holds).1
        · exact (Bool.and_eq_true_iff.mp holds).2
      · cases cut
    · cases holds
  · rintro ⟨flag, separator, first, tail, rfl, same, isSeparator, visible⟩
    have size : name.toList.length = flag.length := by rw [← same, List.length_map]
    rw [size, List.take_left, List.drop_left, if_pos same]
    simpa [visible, IsSeparator] using isSeparator

theorem takeWhile_word (isWord : IsWord word) (ends : Ends rest) : (word ++ rest).takeWhile isVisible = word := by
  rw [List.takeWhile_append_of_pos isWord.2]
  cases rest with
  | nil => simp
  | cons char rest => rw [List.takeWhile_cons_of_neg (by simp [ends char rfl]), List.append_nil]

theorem cut_flag : (flag ++ separator :: tail).take (flag.length + 1) = flag ++ [separator] ∧
    (flag ++ separator :: tail).drop (flag.length + 1) = tail := by
  have split : flag ++ separator :: tail = (flag ++ [separator]) ++ tail := by simp
  have size : flag.length + 1 = (flag ++ [separator]).length := by simp
  rw [split, size]
  exact ⟨List.take_left, List.drop_left⟩

theorem cliSecretFlags_iff : cliSecretFlags chars = some (group, whole) ↔
    ∃ flag separator word rest, chars = flag ++ separator :: (word ++ rest) ∧ IsFlag flag ∧
      IsSeparator separator ∧ IsWord word ∧ Ends rest ∧ group = flag.length + 1 ∧
      whole = flag.length + 1 + word.length := by
  unfold cliSecretFlags
  rw [Option.map_eq_some_iff]
  constructor
  · rintro ⟨name, found, same⟩
    obtain ⟨flag, separator, first, tail, rfl, folded, isSeparator, visible⟩ :=
      flagAt_iff.mp (List.find?_some found)
    have size : name.toList.length = flag.length := by rw [← folded, List.length_map]
    have isFlag : IsFlag flag := by
      rw [IsFlag, folded]
      exact List.mem_map_of_mem (List.mem_of_find?_eq_some found)
    dsimp only at same
    rw [size, cut_flag.2] at same
    cases same
    refine ⟨flag, separator, (first :: tail).takeWhile isVisible, (first :: tail).dropWhile isVisible, ?_, isFlag,
      isSeparator, ⟨?_, fun char member => List.mem_takeWhile_imp member⟩, ?_, rfl, rfl⟩
    · rw [List.takeWhile_append_dropWhile]
    · rw [List.takeWhile_cons_of_pos visible]
      exact List.cons_ne_nil _ _
    · intro char next
      have hidden := List.head?_dropWhile_not isVisible (first :: tail)
      rw [Option.mem_def.mp next] at hidden
      simpa using hidden
  · rintro ⟨flag, separator, word, rest, rfl, isFlag, isSeparator, isWord, ends, rfl, rfl⟩
    obtain ⟨name, listed, folded⟩ := List.mem_map.mp isFlag
    have here : flagAt (flag ++ separator :: (word ++ rest)) name = true := by
      cases word with
      | nil => exact absurd rfl isWord.1
      | cons first more =>
          exact flagAt_iff.mpr ⟨flag, separator, first, more ++ rest, rfl, folded.symm, isSeparator,
            isWord.2 first List.mem_cons_self⟩
    cases found : secretFlags.find? (flagAt (flag ++ separator :: (word ++ rest))) with
    | none => exact absurd here (List.find?_eq_none.mp found name listed)
    | some other =>
        obtain ⟨otherFlag, otherSeparator, first, tail, same, otherFolded, otherIsSeparator, visible⟩ :=
          flagAt_iff.mp (List.find?_some found)
        have otherIsFlag : IsFlag otherFlag := by
          rw [IsFlag, otherFolded]
          exact List.mem_map_of_mem (List.mem_of_find?_eq_some found)
        have sameFlag : otherFlag = flag := by
          rw [← takeWhile_separator (flag_notSeparator otherIsFlag) otherIsSeparator, ← same,
            takeWhile_separator (flag_notSeparator isFlag) isSeparator]
        have size : other.toList.length = flag.length := by rw [← otherFolded, sameFlag, List.length_map]
        refine ⟨other, rfl, ?_⟩
        dsimp only
        rw [size, cut_flag.2, takeWhile_word isWord ends]

end Flags

namespace SecretSlot

variable {slot : SecretSlot} {word other start : List Char} {group whole : Nat}

theorem match_starts (nonempty : start ≠ []) {flag value rest : List Char} {separator : Char}
    (isFlag : IsFlag flag) (isSeparator : IsSeparator separator)
    (same : start ++ slot.after word = flag ++ separator :: (value ++ rest)) :
    ∃ inside, start = flag ++ separator :: inside ∧ value ++ rest = inside ++ slot.after word := by
  rcases List.append_eq_append_iff.mp same with ⟨inner, flagSplit, afterSplit⟩ | ⟨inside, startSplit, restSplit⟩
  · -- The flag at hand would be the end of a longer one.
    have innerPlain : ∀ char ∈ inner, notSeparator char = true := fun char member =>
      flag_notSeparator isFlag char (flagSplit ▸ List.mem_append_right _ member)
    have sameFlag : slot.flag = inner := by
      rw [← takeWhile_separator (flag_notSeparator slot.isFlag) slot.isSeparator,
        ← takeWhile_separator innerPlain isSeparator, ← afterSplit]
      rfl
    rw [flagSplit, ← sameFlag] at isFlag
    exact absurd (flag_suffix slot.isFlag isFlag) nonempty
  · cases inside with
    | nil =>
        cases head : slot.flag with
        | nil => exact absurd head (flag_ne_nil slot.isFlag)
        | cons char more =>
            rw [List.nil_append, after, head, List.cons_append] at restSplit
            have plain := flag_notSeparator slot.isFlag char (head ▸ List.mem_cons_self)
            rw [← (List.cons.inj restSplit).1] at plain
            rcases isSeparator with rfl | rfl <;> cases plain
    | cons char inside =>
        obtain ⟨rfl, valueSplit⟩ := List.cons.inj restSplit
        exact ⟨inside, startSplit, valueSplit⟩

theorem match_before (plain : ¬ slot.Nested) (suffix : start <:+ slot.front) (nonempty : start ≠ [])
    (matched : cliSecretFlags (start ++ slot.after word) = some (group, whole)) :
    whole ≤ start.length ∧ cliSecretFlags (start ++ slot.after other) = some (group, whole) := by
  obtain ⟨flag, separator, value, rest, same, isFlag, isSeparator, isWord, ends, rfl, rfl⟩ :=
    cliSecretFlags_iff.mp matched
  obtain ⟨inside, rfl, valueSplit⟩ := match_starts nonempty isFlag isSeparator same
  obtain ⟨before, frontSplit⟩ := suffix
  have hidden : ¬ ∀ char ∈ inside, isVisible char = true := fun visible =>
    plain ⟨before, flag, separator, inside, frontSplit.symm, isFlag, isSeparator, visible⟩
  rcases List.append_eq_append_iff.mp valueSplit with ⟨more, insideSplit, restSplit⟩ | ⟨more, valueMore, _⟩
  · cases more with
    | nil =>
        rw [List.append_nil] at insideSplit
        exact absurd (insideSplit ▸ isWord.2) hidden
    | cons blank more =>
        have blankHidden : isVisible blank = false := ends blank (by rw [restSplit]; rfl)
        subst insideSplit
        refine ⟨by simp only [List.length_append, List.length_cons]; omega, ?_⟩
        refine cliSecretFlags_iff.mpr ⟨flag, separator, value, blank :: more ++ slot.after other, ?_, isFlag,
          isSeparator, isWord, ?_, rfl, rfl⟩
        · simp only [List.append_assoc, List.cons_append]
        · rintro char ⟨⟩
          exact blankHidden
  · exact absurd (fun char member => isWord.2 char (valueMore ▸ List.mem_append_left _ member)) hidden

theorem redactFlags_fill (plain : ¬ slot.Nested) (isWord : IsWord word) (otherIsWord : IsWord other) :
    redactFlags (slot.front ++ slot.after word) = redactFlags (slot.front ++ slot.after other) := by
  have matched {value : List Char} (valueIsWord : IsWord value) : redactFlags (slot.after value) =
      slot.flag ++ slot.separator :: (stars ++ redactFlags slot.rest) := by
    have found : cliSecretFlags (slot.after value) =
        some (slot.flag.length + 1, slot.flag.length + 1 + value.length) :=
      cliSecretFlags_iff.mpr ⟨slot.flag, slot.separator, value, slot.rest, rfl, slot.isFlag, slot.isSeparator,
        valueIsWord, slot.ends, rfl, rfl⟩
    have nonempty : slot.after value ≠ [] := by simp [after]
    have taken : (slot.after value).take (slot.flag.length + 1) = slot.flag ++ [slot.separator] := cut_flag.1
    have dropped : (slot.after value).drop (slot.flag.length + 1 + value.length) = slot.rest := by
      rw [← List.drop_drop, after, cut_flag.2, List.drop_left]
    rw [redactFlags, subGroup_match found (by omega) nonempty, taken, dropped]
    simp [redactFlags]
  obtain ⟨replaced, first, second⟩ := @subGroup_front cliSecretFlags stars slot.front (slot.after word)
    (slot.after other) fun start suffix nonempty => by
      cases found : cliSecretFlags (start ++ slot.after word) with
      | none =>
          left
          refine ⟨rfl, ?_⟩
          cases otherFound : cliSecretFlags (start ++ slot.after other) with
          | none => rfl
          | some lengths =>
              have same : cliSecretFlags (start ++ slot.after word) = some lengths :=
                (match_before plain suffix nonempty otherFound).2
              cases found.symm.trans same
      | some lengths =>
          obtain ⟨group, whole⟩ := lengths
          obtain ⟨inside, same⟩ := match_before plain suffix nonempty found
          obtain ⟨_, _, _, _, _, _, _, _, _, rfl, rfl⟩ := cliSecretFlags_iff.mp found
          exact .inr ⟨_, _, by omega, by omega, inside, rfl, same⟩
  have wordSame := matched isWord
  have otherSame := matched otherIsWord
  unfold redactFlags at wordSame otherSame ⊢
  rw [first, second, wordSame, otherSame]

theorem redact_fill {table : Char → Bool} (plain : ¬ slot.Nested) (isWord : IsWord word)
    (otherIsWord : IsWord other) : redact table false (slot.fill word) = redact table false (slot.fill other) := by
  have same := redactFlags_fill plain isWord otherIsWord
  simp only [redact, fill, String.toList_ofList, same]

end SecretSlot

theorem redact_nested (word : Char → Bool) :
    redact word false "--token --password a" = "--token ****** a" ∧
      redact word false "--token --password b" = "--token ****** b" :=
  ⟨rfl, rfl⟩

end Dosm.Recording
