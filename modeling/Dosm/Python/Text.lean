import Mathlib.Data.List.DropRight

namespace Dosm.Python

/-! The string operations of the source language, on code points. -/

/-- `str.isspace` of one character. -/
def isSpace (char : Char) : Bool :=
  let code := char.toNat
  (9 ≤ code && code ≤ 13) || (28 ≤ code && code ≤ 32) || code == 0x85 || code == 0xA0 ||
    code == 0x1680 || (0x2000 ≤ code && code ≤ 0x200A) || code == 0x2028 || code == 0x2029 ||
    code == 0x202F || code == 0x205F || code == 0x3000

def strip (text : String) : String :=
  String.ofList ((text.toList.dropWhile isSpace).rdropWhile isSpace)

def rstrip (text : String) : String :=
  String.ofList (text.toList.rdropWhile isSpace)

/-- `str.lstrip` with a one-character set. -/
def lstripChar (char : Char) (text : String) : String :=
  String.ofList (text.toList.dropWhile (· = char))

/-- The index of the first occurrence of `needle` in a suffix that starts at
`index`. -/
def findIn (needle : List Char) (index : Nat) : List Char → Option Nat
  | [] => if needle.isEmpty then some index else none
  | char :: rest =>
      if needle.isPrefixOf (char :: rest) then some index else findIn needle (index + 1) rest

/-- `str.find` with a start index; `none` is the source's -1. -/
def find (needle text : String) (start : Nat) : Option Nat :=
  findIn needle.toList start (text.toList.drop start)

def slice (start stop : Nat) (text : String) : String :=
  String.ofList ((text.toList.take stop).drop start)

/-- `re.sub` of every maximal run of the chosen characters by one character. -/
def collapseRuns (chosen : Char → Bool) (replacement : Char) : List Char → List Char
  | [] => []
  | [char] => if chosen char then [replacement] else [char]
  | char :: next :: rest =>
      if chosen char then
        if chosen next then collapseRuns chosen replacement (next :: rest)
        else replacement :: collapseRuns chosen replacement (next :: rest)
      else char :: collapseRuns chosen replacement (next :: rest)

def replaceChar (old new : Char) (text : String) : String :=
  String.ofList (text.toList.map fun char => if char = old then new else char)

def startsWith (text start : String) : Bool := start.toList.isPrefixOf text.toList

def endsWith (text ending : String) : Bool := ending.toList.isSuffixOf text.toList

/-- `str.split` with a one-character separator. -/
def split (separator : Char) (text : String) : List String :=
  (text.toList.splitOn separator).map String.ofList

/-- Where `str.splitlines` ends a line. -/
def isLineBreak (char : Char) : Bool :=
  char ∈ ['\n', '\r', '\x0b', '\x0c', '\x1c', '\x1d', '\x1e', '\u0085', '\u2028', '\u2029']

/-- The lines of a text, after the reversed beginning of the first one. -/
def linesAfter (begun : List Char) : List Char → List (List Char)
  | [] => if begun.isEmpty then [] else [begun.reverse]
  | '\r' :: '\n' :: rest => begun.reverse :: linesAfter [] rest
  | char :: rest =>
      if isLineBreak char then begun.reverse :: linesAfter [] rest else linesAfter (char :: begun) rest

def splitLines (text : String) : List String := (linesAfter [] text.toList).map String.ofList

def partition (separator : Char) (text : String) : String × String :=
  (String.ofList (text.toList.takeWhile (· ≠ separator)),
    String.ofList ((text.toList.dropWhile (· ≠ separator)).drop 1))

/-- Lower case, exact on every character whose lower case has an ASCII letter in
it: besides the ASCII capitals these are the Kelvin sign and the dotted capital
I. The others are left as they are. -/
def lowerChar (char : Char) : List Char :=
  if char.toNat = 0x212A then ['k']
  else if char.toNat = 0x130 then ['i', Char.ofNat 0x307]
  else [char.toLower]

def lower (text : String) : String := String.ofList (text.toList.flatMap lowerChar)

def lowerEndsWith (text ending : String) : Bool := endsWith (lower text) ending

def stripChar (char : Char) (text : String) : String :=
  String.ofList ((text.toList.dropWhile (· = char)).rdropWhile (· = char))

def isSlugChar (char : Char) : Bool :=
  ('a' ≤ char && char ≤ 'z') || ('0' ≤ char && char ≤ '9')

/-- `re.sub(r"[^a-z0-9]+", "-", text).strip("-")`. -/
def slug (text : String) : String :=
  stripChar '-' (String.ofList (collapseRuns (fun char => !isSlugChar char) '-' text.toList))

def hexDigits (code : Nat) : List Char :=
  [Nat.digitChar (code / 16 % 16), Nat.digitChar (code % 16)]

def escapeChar (quote char : Char) : List Char :=
  if char = '\\' || char = quote then ['\\', char]
  else if char = '\n' then ['\\', 'n']
  else if char = '\r' then ['\\', 'r']
  else if char = '\t' then ['\\', 't']
  else if char.toNat < 32 || char.toNat = 127 then '\\' :: 'x' :: hexDigits char.toNat
  else [char]

/-- `repr` of a string whose characters outside ASCII are printable. -/
def repr (text : String) : String :=
  let chars := text.toList
  let quote := if '\'' ∈ chars ∧ '"' ∉ chars then '"' else '\''
  String.ofList ([quote] ++ chars.flatMap (escapeChar quote) ++ [quote])

/-- The `parts` of a relative `PurePosixPath`. -/
def pathParts (path : String) : List String :=
  (split '/' path).filter fun part => part ≠ "" ∧ part ≠ "."

def pathName (parts : List String) : String := parts.getLastD ""

def nameStem (name : String) : String :=
  let reversed := name.toList.reverse
  match reversed.dropWhile (· ≠ '.') with
  | [] | ['.'] => name
  | _ :: start => if reversed.head? = some '.' then name else String.ofList start.reverse

example : strip " \t_unfiled/a b.md\n" = "_unfiled/a b.md" := by decide
example : pathParts "./ops//./runbook.md" = ["ops", "runbook.md"] := by decide
example : repr "it's a \\ b" = "\"it's a \\\\ b\"" := by decide
example : nameStem "a.tar.md" = "a.tar" ∧ nameStem ".md" = ".md" ∧ nameStem "a." = "a." := by decide

example : slug (lower "Prod DB (EU)") = "prod-db-eu" := by decide
example : splitLines "a\r\n\nb|c\x0b" = ["a", "", "b|c"] ∧ partition '|' "b|c|d" = ("b", "c|d") := by decide

theorem strip_strip {text : String} : strip (strip text) = strip text := by
  have trimmed : ((text.toList.dropWhile isSpace).rdropWhile isSpace).dropWhile isSpace =
      (text.toList.dropWhile isSpace).rdropWhile isSpace := by
    cases kept : (text.toList.dropWhile isSpace).rdropWhile isSpace with
    | nil => rfl
    | cons char rest =>
        obtain ⟨tail, whole⟩ := List.rdropWhile_prefix isSpace (text.toList.dropWhile isSpace)
        rw [kept, List.cons_append] at whole
        have visible := List.head?_dropWhile_not isSpace text.toList
        rw [← whole] at visible
        rw [List.dropWhile_cons_of_neg (by simpa using visible)]
  rw [strip, strip, String.toList_ofList, trimmed, List.rdropWhile_idempotent]

theorem strip_visible {text : String} (visible : ∀ char ∈ text.toList, isSpace char = false) :
    strip text = text := by
  have front : text.toList.dropWhile isSpace = text.toList := by
    rw [List.dropWhile_eq_self_iff]
    intro nonempty
    simp [visible]
  have back : text.toList.rdropWhile isSpace = text.toList := by
    rw [List.rdropWhile_eq_self_iff]
    intro nonempty
    simp [visible]
  rw [strip, front, back, String.ofList_toList]

theorem isSpace_digit {char : Char} (digit : char.isDigit = true) : isSpace char = false := by
  have bounds : 48 ≤ char.toNat ∧ char.toNat ≤ 57 := by
    simpa [Char.isDigit, Char.le_def, UInt32.le_iff_toNat_le] using digit
  simp only [isSpace, Bool.or_eq_false_iff, Bool.and_eq_false_iff, decide_eq_false_iff_not, beq_eq_false_iff_ne]
  omega

theorem mem_collapseRuns {chosen : Char → Bool} {replacement char : Char} {chars : List Char}
    (member : char ∈ collapseRuns chosen replacement chars) :
    char = replacement ∨ (char ∈ chars ∧ chosen char = false) := by
  fun_induction collapseRuns chosen replacement chars with
  | case1 => cases member
  | case2 only picked => exact .inl (List.mem_singleton.mp member)
  | case3 only kept =>
      cases List.mem_singleton.mp member
      exact .inr ⟨List.mem_singleton.mpr rfl, by simpa using kept⟩
  | case4 first next rest picked nextPicked ih =>
      exact (ih member).imp_right fun found => ⟨List.mem_cons_of_mem _ found.1, found.2⟩
  | case5 first next rest picked nextKept ih =>
      rcases List.mem_cons.mp member with same | later
      · exact .inl same
      · exact (ih later).imp_right fun found => ⟨List.mem_cons_of_mem _ found.1, found.2⟩
  | case6 first next rest kept ih =>
      rcases List.mem_cons.mp member with same | later
      · subst same
        exact .inr ⟨List.mem_cons_self, by simpa using kept⟩
      · exact (ih later).imp_right fun found => ⟨List.mem_cons_of_mem _ found.1, found.2⟩

theorem mem_stripChar {stripped char : Char} {text : String}
    (member : char ∈ (stripChar stripped text).toList) : char ∈ text.toList := by
  rw [stripChar, String.toList_ofList] at member
  have kept := (List.rdropWhile_prefix _ _).sublist.mem member
  exact (List.dropWhile_sublist _).mem kept

theorem mem_slug {char : Char} {text : String} (member : char ∈ (slug text).toList) :
    char = '-' ∨ isSlugChar char = true := by
  have inner := mem_stripChar member
  rw [String.toList_ofList] at inner
  exact (mem_collapseRuns inner).imp_right fun kept => by simpa using kept.2

theorem slash_not_mem_slug {text : String} : '/' ∉ (slug text).toList := by
  intro member
  rcases mem_slug member with same | allowed
  · cases same
  · cases allowed

theorem slash_not_mem_toString {number : Nat} : '/' ∉ (toString number).toList := by
  intro member
  rw [Nat.toString_eq_ofList_toDigits, String.toList_ofList] at member
  have digit := Nat.isDigit_of_mem_toDigits (by decide) (by decide) member
  cases digit

theorem splitOn_plain {separator : Char} {chars piece : List Char}
    (member : piece ∈ chars.splitOn separator) : separator ∉ piece := by
  induction chars generalizing piece with
  | nil =>
      rw [List.splitOn_nil, List.mem_singleton] at member
      rw [member]
      exact List.not_mem_nil
  | cons char rest ih =>
      rw [List.splitOn_cons_eq_if_modifyHead] at member
      split at member
      · rcases List.mem_cons.mp member with rfl | later
        · exact List.not_mem_nil
        · exact ih later
      next other =>
        cases pieces : rest.splitOn separator with
        | nil => exact absurd pieces (List.splitOn_ne_nil separator rest)
        | cons first others =>
            rw [pieces, List.modifyHead_cons] at member
            rw [pieces] at ih
            rcases List.mem_cons.mp member with rfl | later
            · intro inside
              rcases List.mem_cons.mp inside with same | within
              · exact other (by simp [same])
              · exact ih List.mem_cons_self within
            · exact ih (List.mem_cons_of_mem first later)

theorem split_plain {separator : Char} {text part : String} (member : part ∈ split separator text) :
    separator ∉ part.toList := by
  obtain ⟨piece, listed, rfl⟩ := List.mem_map.mp member
  rw [String.toList_ofList]
  exact splitOn_plain listed

theorem append_separator_inj {separator : Char} {first second left right : List Char}
    (leftPlain : separator ∉ left) (rightPlain : separator ∉ right)
    (same : first ++ separator :: left = second ++ separator :: right) :
    first = second ∧ left = right := by
  rcases List.append_eq_append_iff.mp same with ⟨middle, secondSplit, tail⟩ | ⟨middle, firstSplit, tail⟩
  · cases middle with
    | nil =>
        rw [List.append_nil] at secondSplit
        exact ⟨secondSplit.symm, (List.cons.inj tail).2⟩
    | cons head rest =>
        have inner : left = rest ++ separator :: right := (List.cons.inj tail).2
        exact absurd (by simp [inner]) leftPlain
  · cases middle with
    | nil =>
        rw [List.append_nil] at firstSplit
        exact ⟨firstSplit, (List.cons.inj tail).2.symm⟩
    | cons head rest =>
        have inner : right = rest ++ separator :: left := (List.cons.inj tail).2
        exact absurd (by simp [inner]) rightPlain

section Letters

variable {char : Char}

theorem isUpper_iff : char.isUpper = true ↔ 65 ≤ char.toNat ∧ char.toNat ≤ 90 := by
  delta Char.isUpper
  simp [UInt32.le_iff_toNat_le]

theorem isLower_iff : char.isLower = true ↔ 97 ≤ char.toNat ∧ char.toNat ≤ 122 := by
  delta Char.isLower
  simp [UInt32.le_iff_toNat_le]

theorem alphanum_bounds (alphanum : char.isAlphanum = true) :
    (65 ≤ char.toNat ∧ char.toNat ≤ 90 ∨ 97 ≤ char.toNat ∧ char.toNat ≤ 122) ∨
      48 ≤ char.toNat ∧ char.toNat ≤ 57 := by
  rcases Bool.or_eq_true_iff.mp alphanum with alpha | digit
  · exact .inl ((Bool.or_eq_true_iff.mp alpha).imp isUpper_iff.mp isLower_iff.mp)
  · exact .inr (by simpa [Char.isDigit, UInt32.le_iff_toNat_le] using digit)

end Letters

end Dosm.Python
