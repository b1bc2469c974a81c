import Dosm.Python.Text

namespace Dosm.Python

/-! `re.sub` where the replacement keeps group one, at the front of the match, and
puts a mark for the rest.

A pattern is given by what it matches at the front of a text. Matches are replaced from
left to right and do not overlap, so a text after a stretch of the scan is treated alone.
-/

/-- The length of group one and of the whole match, at the front of a text. -/
abbrev Pattern := List Char → Option (Nat × Nat)

/-- `skip` characters are part of the last match. -/
def subGroup (pattern : Pattern) (mark : List Char) : Nat → List Char → List Char
  | _, [] => []
  | skip + 1, _ :: rest => subGroup pattern mark skip rest
  | 0, char :: rest =>
      match pattern (char :: rest) with
      | some (group, whole) => (char :: rest).take group ++ mark ++ subGroup pattern mark (whole - 1) rest
      | none => char :: subGroup pattern mark 0 rest

variable {pattern : Pattern} {mark chars front first second : List Char} {skip group whole : Nat} {char : Char}

theorem subGroup_skip : subGroup pattern mark skip chars = subGroup pattern mark 0 (chars.drop skip) := by
  induction chars generalizing skip with
  | nil => cases skip <;> simp [subGroup]
  | cons char rest ih =>
      cases skip with
      | zero => rfl
      | succ skip => exact ih

theorem subGroup_miss (missed : pattern (char :: chars) = none) :
    subGroup pattern mark 0 (char :: chars) = char :: subGroup pattern mark 0 chars := by
  rw [subGroup, missed]

theorem subGroup_match (matched : pattern chars = some (group, whole)) (positive : 0 < whole)
    (nonempty : chars ≠ []) :
    subGroup pattern mark 0 chars = chars.take group ++ mark ++ subGroup pattern mark 0 (chars.drop whole) := by
  cases chars with
  | nil => exact absurd rfl nonempty
  | cons char rest =>
      obtain ⟨size, rfl⟩ := Nat.exists_eq_succ_of_ne_zero positive.ne'
      rw [subGroup, matched]
      dsimp only
      rw [subGroup_skip, Nat.succ_sub_one, List.drop_succ_cons]

theorem subGroup_front
    (alike : ∀ start, start <:+ front → start ≠ [] →
      (pattern (start ++ first) = none ∧ pattern (start ++ second) = none) ∨
      ∃ group whole, 0 < whole ∧ group ≤ whole ∧ whole ≤ start.length ∧
        pattern (start ++ first) = some (group, whole) ∧ pattern (start ++ second) = some (group, whole)) :
    ∃ replaced, subGroup pattern mark 0 (front ++ first) = replaced ++ subGroup pattern mark 0 first ∧
      subGroup pattern mark 0 (front ++ second) = replaced ++ subGroup pattern mark 0 second := by
  induction size : front.length using Nat.strongRecOn generalizing front with
  | _ size ih =>
      subst size
      cases front with
      | nil => exact ⟨[], rfl, rfl⟩
      | cons char rest =>
          rcases alike _ List.suffix_rfl (by simp) with ⟨firstMissed, secondMissed⟩ |
            ⟨group, whole, positive, inside, ends, firstMatched, secondMatched⟩
          · obtain ⟨replaced, firstSame, secondSame⟩ := ih rest.length (by simp)
              (fun start suffix => alike start (suffix.trans (List.suffix_cons _ _))) rfl
            rw [List.cons_append] at firstMissed secondMissed
            refine ⟨char :: replaced, ?_, ?_⟩
            · rw [List.cons_append, subGroup_miss firstMissed, firstSame]
              rfl
            · rw [List.cons_append, subGroup_miss secondMissed, secondSame]
              rfl
          · obtain ⟨replaced, firstSame, secondSame⟩ := ih ((char :: rest).drop whole).length
              (by rw [List.length_drop]; omega)
              (fun start suffix => alike start (suffix.trans (List.drop_suffix _ _))) rfl
            have taken (tail : List Char) : ((char :: rest) ++ tail).take group = (char :: rest).take group :=
              List.take_append_of_le_length (Nat.le_trans inside ends)
            have dropped (tail : List Char) :
                ((char :: rest) ++ tail).drop whole = (char :: rest).drop whole ++ tail :=
              List.drop_append_of_le_length ends
            refine ⟨(char :: rest).take group ++ mark ++ replaced, ?_, ?_⟩
            · rw [subGroup_match firstMatched positive (by simp), taken, dropped, firstSame]
              simp only [List.append_assoc]
            · rw [subGroup_match secondMatched positive (by simp), taken, dropped, secondSame]
              simp only [List.append_assoc]

end Dosm.Python

namespace Dosm.Python

/-! What the source does with regular expressions: the substitution of a literal
between word boundaries, and the template that replaces it. `word` is the
Unicode table behind `\w` and `\b`.
-/

section Substitution

variable (word : Char → Bool)

def isWordAt (char : Option Char) : Bool := char.any word

/-- `\b` between two characters, either of which may be missing. -/
def boundary (before after : Option Char) : Bool := isWordAt word before != isWordAt word after

/-- The literal is here, between word boundaries. -/
def wordHere (label : List Char) (before : Option Char) (chars : List Char) : Bool :=
  label.isPrefixOf chars && boundary word before label.head? &&
    boundary word label.getLast? (chars.drop label.length).head?

def occursAfter (label : List Char) (before : Option Char) : List Char → Bool
  | [] => false
  | char :: rest => wordHere word label before (char :: rest) || occursAfter label (some char) rest

def occursAsWord (label text : String) : Bool := occursAfter word label.toList none text.toList

/-- Replace every match from left to right; `skip` characters are part of the
last one. -/
def substitute (label replacement : List Char) : Nat → Option Char → List Char → List Char
  | _, _, [] => []
  | skip + 1, _, char :: rest => substitute label replacement skip (some char) rest
  | 0, before, char :: rest =>
      if wordHere word label before (char :: rest) then
        replacement ++ substitute label replacement (label.length - 1) (some char) rest
      else char :: substitute label replacement 0 (some char) rest

end Substitution

/-- A replacement template for a pattern without groups. -/
inductive TemplateItem where
  | literal (char : Char)
  | wholeMatch
  deriving DecidableEq

def isOctal (char : Char) : Bool := '0' ≤ char && char ≤ '7'

def isAsciiDigit (char : Char) : Bool := '0' ≤ char && char ≤ '9'

def isAsciiLetter (char : Char) : Bool := ('a' ≤ char && char ≤ 'z') || ('A' ≤ char && char ≤ 'Z')

def octalValue (digits : List Char) : Nat :=
  digits.foldl (fun value digit => value * 8 + (digit.toNat - '0'.toNat)) 0

def escapes : List (Char × Char) :=
  [('a', '\x07'), ('b', '\x08'), ('f', '\x0c'), ('n', '\n'), ('r', '\r'), ('t', '\t'), ('v', '\x0b'),
    ('\\', '\\')]

/-- After `\g`: only group zero, the whole match, exists. -/
def groupReference : List Char → Option (List Char)
  | '<' :: rest =>
      let name := rest.takeWhile (· ≠ '>')
      match rest.dropWhile (· ≠ '>') with
      | [] => none
      | _ :: after => if name ≠ [] ∧ name.all (· = '0') then some after else none
  | _ => none

/-- One item after a backslash, and what follows it; nothing for an error. -/
def templateEscape : List Char → Option (List TemplateItem × List Char)
  | [] => none
  | 'g' :: rest => (groupReference rest).map fun after => ([.wholeMatch], after)
  | '0' :: rest =>
      let digits := (rest.takeWhile isOctal).take 2
      some ([.literal (Char.ofNat (octalValue digits % 256))], rest.drop digits.length)
  | char :: rest =>
      if isAsciiDigit char then
        match rest with
        | second :: third :: after =>
            if isOctal char ∧ isOctal second ∧ isOctal third ∧ octalValue [char, second, third] ≤ 255 then
              some ([.literal (Char.ofNat (octalValue [char, second, third]))], after)
            else none
        | _ => none
      else
        match escapes.lookup char with
        | some escaped => some ([.literal escaped], rest)
        | none => if isAsciiLetter char then none else some ([.literal '\\', .literal char], rest)

/-- The items of a template; `fuel` is its length. -/
def parseTemplate : Nat → List Char → Option (List TemplateItem)
  | _, [] => some []
  | 0, _ :: _ => none
  | fuel + 1, '\\' :: rest => do
      let (items, after) ← templateEscape rest
      return items ++ (← parseTemplate fuel after)
  | fuel + 1, char :: rest => (parseTemplate fuel rest).map (.literal char :: ·)

def expand (label : List Char) (items : List TemplateItem) : List Char :=
  items.flatMap fun item =>
    match item with
    | .literal char => [char]
    | .wholeMatch => label

/-- `re.sub(r"\b" + re.escape(label) + r"\b", template, text)`; a bad template is
an error whether or not anything matches. -/
def subWord (word : Char → Bool) (label template text : String) : Option String :=
  (parseTemplate template.length template.toList).map fun items =>
    String.ofList (substitute word label.toList (expand label.toList items) 0 none text.toList)

example : subWord Char.isAlphanum "db" "10.0.0.7" "ping db; ping db2 -c db" =
    some "ping 10.0.0.7; ping db2 -c 10.0.0.7" := by decide

example : subWord Char.isAlphanum "db" "\\g<0>.local" "ping db" = some "ping db.local" ∧
    subWord Char.isAlphanum "db" "a\\1" "ls" = none := by decide

section Substitute

variable {word : Char → Bool} {label replacement chars : List Char} {before : Option Char}
  {mark : Char} {skip : Nat}

theorem substitute_same (absent : occursAfter word label before chars = false) :
    substitute word label replacement 0 before chars = chars := by
  induction chars generalizing before with
  | nil => rfl
  | cons char rest ih =>
      obtain ⟨here, later⟩ := Bool.or_eq_false_iff.mp absent
      rw [substitute, if_neg (by simp [here]), ih later]

theorem count_substitute (named : label ≠ []) (enough : label.length ≤ replacement.count mark) :
    (chars.drop skip).count mark ≤ (substitute word label replacement skip before chars).count mark := by
  induction chars generalizing skip before with
  | nil => simp
  | cons char rest ih =>
      cases skip with
      | succ skip => exact ih
      | zero =>
          rw [List.drop_zero, substitute]
          cases here : wordHere word label before (char :: rest) with
          | false =>
              rw [if_neg Bool.false_ne_true, List.count_cons, List.count_cons]
              have later : (rest.drop 0).count mark ≤
                  (substitute word label replacement 0 (some char) rest).count mark := ih
              rw [List.drop_zero] at later
              omega
          | true =>
              simp only [wordHere, Bool.and_eq_true, List.isPrefixOf_iff_prefix] at here
              obtain ⟨tail, split⟩ := here.1.1
              have remaining : rest.drop (label.length - 1) = tail := by
                cases label with
                | nil => exact absurd rfl named
                | cons head others =>
                    obtain ⟨_, inner⟩ := List.cons.inj split
                    rw [← inner]
                    exact List.drop_left
              have later : (rest.drop (label.length - 1)).count mark ≤
                  (substitute word label replacement (label.length - 1) (some char) rest).count mark := ih
              have most : label.count mark ≤ label.length := List.count_le_length
              rw [remaining] at later
              rw [if_pos rfl, ← split, List.count_append, List.count_append]
              omega

theorem count_replaced (occurs : occursAfter word label before chars = true) :
    replacement.count mark ≤ (substitute word label replacement 0 before chars).count mark := by
  induction chars generalizing before with
  | nil => cases occurs
  | cons char rest ih =>
      rw [substitute]
      cases here : wordHere word label before (char :: rest) with
      | true =>
          rw [if_pos rfl, List.count_append]
          exact Nat.le_add_right _ _
      | false =>
          rw [if_neg Bool.false_ne_true, List.count_cons]
          rw [occursAfter, here, Bool.false_or] at occurs
          exact Nat.le_add_right_of_le (ih occurs)

theorem occursAfter_length (occurs : occursAfter word label before chars = true) :
    label.length ≤ chars.length := by
  induction chars generalizing before with
  | nil => cases occurs
  | cons char rest ih =>
      rcases Bool.or_eq_true_iff.mp occurs with here | later
      · simp only [wordHere, Bool.and_eq_true, List.isPrefixOf_iff_prefix] at here
        exact here.1.1.length_le
      · exact Nat.le_succ_of_le (ih later)

theorem parseTemplate_plain {fuel : Nat} (enough : chars.length ≤ fuel) (plain : '\\' ∉ chars) :
    parseTemplate fuel chars = some (chars.map .literal) := by
  induction chars generalizing fuel with
  | nil => cases fuel <;> rfl
  | cons char rest ih =>
      cases fuel with
      | zero => exact absurd enough (Nat.not_succ_le_zero _)
      | succ fuel =>
          rw [List.mem_cons, not_or] at plain
          rw [parseTemplate, ih (Nat.le_of_succ_le_succ enough) plain.2]
          · rfl
          · exact fun same => absurd same.symm plain.1

theorem expand_plain : expand label (chars.map .literal) = chars := by
  induction chars with
  | nil => rfl
  | cons char rest ih =>
      rw [List.map_cons, expand, List.flatMap_cons]
      exact congrArg (char :: ·) ih

theorem subWord_plain {label template text : String} (plain : '\\' ∉ template.toList) :
    subWord word label template text =
      some (String.ofList (substitute word label.toList template.toList 0 none text.toList)) := by
  rw [subWord, parseTemplate_plain (Nat.le_of_eq String.length_toList) plain, Option.map_some, expand_plain]

theorem subWord_absent {label template text : String} (absent : occursAsWord word label text = false) :
    subWord word label template text = none ∨ subWord word label template text = some text := by
  unfold subWord
  cases parseTemplate template.length template.toList with
  | none => exact .inl rfl
  | some items =>
      right
      rw [Option.map_some, substitute_same absent, String.ofList_toList]

end Substitute

end Dosm.Python
