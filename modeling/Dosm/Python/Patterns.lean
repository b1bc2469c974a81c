import Mathlib.Data.List.Basic

namespace Dosm.Python.Patterns

/-! Regular expressions of literal characters, dots, stars and anchors.

A text made of these is read into pieces, and a search tries the pieces at each place of
the subject. A glob is such an expression with anchors at both ends.
-/

inductive Atom where
  | char (char : Char)
  | any
  deriving DecidableEq

inductive Token where
  | atom (atom : Atom)
  | star
  | caret
  | dollar
  deriving DecidableEq

inductive Piece where
  | one (atom : Atom)
  | many (atom : Atom)
  | start
  | stop
  deriving DecidableEq

/-- A character that stands alone; the other constructs are not of this kind. -/
def token (char : Char) : Option Token :=
  if char ∈ ['+', '?', '{', '(', ')', '[', '|', '\\'] then none
  else if char = '*' then some .star
  else if char = '.' then some (.atom .any)
  else if char = '^' then some .caret
  else if char = '$' then some .dollar
  else some (.atom (.char char))

def tokens : List Char → Option (List Token)
  | [] => some []
  | '\\' :: char :: rest =>
      if char.isAlphanum then none else (tokens rest).map (.atom (.char char) :: ·)
  | char :: rest => (token char).bind fun first => (tokens rest).map (first :: ·)

/-- A star repeats the atom before it, and nothing else. -/
def pieces : List Token → Option (List Piece)
  | [] => some []
  | .atom atom :: .star :: rest => (pieces rest).map (.many atom :: ·)
  | .atom atom :: rest => (pieces rest).map (.one atom :: ·)
  | .caret :: rest => (pieces rest).map (.start :: ·)
  | .dollar :: rest => (pieces rest).map (.stop :: ·)
  | .star :: _ => none

def readPieces (text : List Char) : Option (List Piece) := (tokens text).bind pieces

section Matching

variable (alike : Char → Char → Bool)

/-- A dot does not stand for a line feed. -/
def Atom.accepts : Atom → Char → Bool
  | .char pattern, shown => alike pattern shown
  | .any, shown => shown ≠ '\n'

def repeated (accepts : Char → Bool) (next : Bool → List Char → Bool) : Bool → List Char → Bool
  | begins, [] => next begins []
  | begins, char :: rest => next begins (char :: rest) || (accepts char && repeated accepts next false rest)

/-- Some beginning of the text matches; `begins` tells whether it is the subject's own. -/
def matchesFrom : List Piece → Bool → List Char → Bool
  | [], _, _ => true
  | .one atom :: later, _, text =>
      match text with
      | [] => false
      | char :: rest => atom.accepts alike char && matchesFrom later false rest
  | .many atom :: later, begins, text => repeated (atom.accepts alike) (matchesFrom later) begins text
  | .start :: later, begins, text => begins && matchesFrom later begins text
  | .stop :: later, begins, text => (text = [] || text = ['\n']) && matchesFrom later begins text

def matchesAfter (expression : List Piece) : List Char → Bool
  | [] => false
  | _ :: rest => matchesFrom alike expression false rest || matchesAfter expression rest

def search (expression : List Piece) (subject : List Char) : Bool :=
  matchesFrom alike expression true subject || matchesAfter alike expression subject

end Matching

/-- The regular expressions of the language, ignoring case. A text that does not compile raises an error, and
a text of the kind above compiles to what it says. -/
structure Library where
  alike : Char → Char → Bool
  compile : String → Option (String → Bool)
  ascii : ∀ pattern shown, pattern.toNat < 128 → shown.toNat < 128 →
    alike pattern shown = (pattern.toLower == shown.toLower)
  simple : ∀ text expression, readPieces text.toList = some expression →
    compile text = some fun subject => search alike expression subject.toList

def simpleLibrary : Library where
  alike pattern shown := pattern.toLower == shown.toLower
  compile text := (readPieces text.toList).map fun expression subject =>
    search (fun pattern shown => pattern.toLower == shown.toLower) expression subject.toList
  ascii := fun _ _ _ _ => rfl
  simple := fun _ _ read => by rw [read]; rfl

/-- The characters `re.escape` puts a backslash before. -/
def escaped : List Char :=
  ['(', ')', '[', ']', '{', '}', '?', '*', '+', '-', '|', '^', '$', '\\', '.', '&', '~', '#', ' ', '\t', '\n', '\r',
    '\x0b', '\x0c']

def escape (text : List Char) : List Char :=
  text.flatMap fun char => if char ∈ escaped then ['\\', char] else [char]

/-- `str.replace` of two characters. -/
def replacePair (first second : Char) (new : List Char) : List Char → List Char
  | [] => []
  | [char] => [char]
  | char :: next :: rest =>
      if char = first ∧ next = second then new ++ replacePair first second new rest
      else char :: replacePair first second new (next :: rest)

/-- The text is what the glob stands for: a star for any text, a question mark for any character. -/
inductive Glob (alike : Char → Char → Bool) (wild : Char → Prop) : List Char → List Char → Prop
  | nil : Glob alike wild [] []
  | char {pattern char : Char} {patterns rest : List Char} (plain : pattern ≠ '*' ∧ pattern ≠ '?')
      (same : alike pattern char = true) (later : Glob alike wild patterns rest) :
      Glob alike wild (pattern :: patterns) (char :: rest)
  | any {char : Char} {patterns rest : List Char} (free : wild char) (later : Glob alike wild patterns rest) :
      Glob alike wild ('?' :: patterns) (char :: rest)
  | empty {patterns text : List Char} (later : Glob alike wild patterns text) : Glob alike wild ('*' :: patterns) text
  | more {char : Char} {patterns rest : List Char} (free : wild char) (later : Glob alike wild ('*' :: patterns) rest) :
      Glob alike wild ('*' :: patterns) (char :: rest)

section Reading

variable {char : Char} {pattern tail rest : List Char} {later : List Token} {expression : List Piece}

def globText (char : Char) : List Char :=
  if char = '*' then ['.', '*'] else if char = '?' then ['.'] else if char ∈ escaped then ['\\', char] else [char]

def globTokens (char : Char) : List Token :=
  if char = '*' then [.atom .any, .star] else if char = '?' then [.atom .any] else [.atom (.char char)]

def globPiece (char : Char) : Piece :=
  if char = '*' then .many .any else if char = '?' then .one .any else .one (.char char)

theorem replacePair_append {first second : Char} {new : List Char} (apart : char ≠ first ∨ rest.head? ≠ some second) :
    replacePair first second new (char :: rest) = char :: replacePair first second new rest := by
  cases rest with
  | nil => rfl
  | cons next others =>
      rw [replacePair, if_neg]
      rintro ⟨same, follows⟩
      rcases apart with other | missing
      · exact other same
      · exact missing (congrArg some follows)

theorem replacePair_flatMap {first second : Char} {new : List Char} {code final : Char → List Char}
    (heads : ∀ char, code char ≠ [] ∧ (code char).head? ≠ some second)
    (each : ∀ char rest, rest.head? ≠ some second →
      replacePair first second new (code char ++ rest) = final char ++ replacePair first second new rest) :
    replacePair first second new (pattern.flatMap code) = pattern.flatMap final := by
  induction pattern with
  | nil => rfl
  | cons char others ih =>
      have head : (others.flatMap code).head? ≠ some second := by
        cases others with
        | nil => nofun
        | cons next later =>
            rw [List.flatMap_cons, List.head?_append_of_ne_nil _ (heads next).1]
            exact (heads next).2
      rw [List.flatMap_cons, List.flatMap_cons, each char _ head, ih]

def starText (char : Char) : List Char :=
  if char = '*' then ['.', '*'] else if char ∈ escaped then ['\\', char] else [char]

theorem replace_star : replacePair '\\' '*' ['.', '*'] (escape pattern) = pattern.flatMap starText := by
  unfold escape
  apply replacePair_flatMap
  · intro char
    split
    · exact ⟨List.cons_ne_nil _ _, by simp⟩
    next plain =>
      refine ⟨List.cons_ne_nil _ _, ?_⟩
      rintro same
      obtain rfl : char = '*' := Option.some.inj same
      exact plain (by decide)
  · intro char rest head
    by_cases star : char = '*'
    · subst star
      rfl
    unfold starText
    rw [if_neg star]
    split
    · rw [List.cons_append, replacePair_append (.inr (by simpa using star)), List.singleton_append,
        replacePair_append (.inr head)]
      rfl
    next plain =>
      have apart : char ≠ '\\' := by
        rintro rfl
        exact plain (by decide)
      rw [List.singleton_append, replacePair_append (.inl apart)]
      rfl

theorem replace_question :
    replacePair '\\' '?' ['.'] (pattern.flatMap starText) = pattern.flatMap globText := by
  apply replacePair_flatMap
  · intro char
    unfold starText
    split
    · exact ⟨List.cons_ne_nil _ _, by simp⟩
    split
    · exact ⟨List.cons_ne_nil _ _, by simp⟩
    next plain =>
      refine ⟨List.cons_ne_nil _ _, ?_⟩
      rintro same
      obtain rfl : char = '?' := Option.some.inj same
      exact plain (by decide)
  · intro char rest head
    unfold starText globText
    by_cases star : char = '*'
    · rw [if_pos star, if_pos star, List.cons_append, replacePair_append (.inl (by decide)), List.singleton_append,
        replacePair_append (.inl (by decide))]
      rfl
    rw [if_neg star, if_neg star]
    by_cases question : char = '?'
    · subst question
      rfl
    rw [if_neg question]
    split
    · rw [List.cons_append, replacePair_append (.inr (by simpa using question)), List.singleton_append,
        replacePair_append (.inr head)]
      rfl
    next plain =>
      have apart : char ≠ '\\' := by
        rintro rfl
        exact plain (by decide)
      rw [List.singleton_append, replacePair_append (.inl apart)]
      rfl

theorem token_plain (plain : char ∉ escaped) : token char = some (.atom (.char char)) := by
  have apart : ∀ special ∈ escaped, char ≠ special := by
    rintro special listed rfl
    exact plain listed
  unfold token
  rw [if_neg, if_neg (apart '*' (by decide)), if_neg (apart '.' (by decide)), if_neg (apart '^' (by decide)),
    if_neg (apart '$' (by decide))]
  intro member
  have within : ['+', '?', '\x7b', '(', ')', '[', '|', '\\'] ⊆ escaped := by simp [escaped]
  exact plain (within member)

theorem tokens_plain (plain : char ∉ escaped) : tokens (char :: rest) = (tokens rest).map (.atom (.char char) :: ·) := by
  have apart : char ≠ '\\' := by
    rintro rfl
    exact plain (by decide)
  rw [tokens, token_plain plain]
  · rfl
  · rintro next later rfl
    exact fun _ => apart rfl

theorem tokens_dot : tokens ('.' :: rest) = (tokens rest).map (.atom .any :: ·) := by
  rw [tokens]
  · rfl
  · nofun

theorem tokens_star : tokens ('*' :: rest) = (tokens rest).map (.star :: ·) := by
  rw [tokens]
  · rfl
  · nofun

theorem tokens_escaped (special : char ∈ escaped) :
    tokens ('\\' :: char :: rest) = (tokens rest).map (.atom (.char char) :: ·) := by
  have punctuation : escaped.all fun special => special.isAlphanum = false := by decide
  rw [tokens, of_decide_eq_true (List.all_eq_true.mp punctuation char special), if_neg Bool.false_ne_true]

theorem tokens_globText : tokens (globText char ++ rest) = (tokens rest).map (globTokens char ++ ·) := by
  unfold globText globTokens
  by_cases star : char = '*'
  · rw [if_pos star, if_pos star]
    change tokens ('.' :: '*' :: rest) = _
    rw [tokens_dot, tokens_star, Option.map_map]
    rfl
  rw [if_neg star, if_neg star]
  by_cases question : char = '?'
  · rw [if_pos question, if_pos question]
    exact tokens_dot
  rw [if_neg question, if_neg question]
  split
  next special => exact tokens_escaped special
  next plain => exact tokens_plain plain

theorem tokens_glob : tokens (pattern.flatMap globText ++ tail) = (tokens tail).map (pattern.flatMap globTokens ++ ·) := by
  induction pattern with
  | nil => simp
  | cons char others ih =>
      rw [List.flatMap_cons, List.append_assoc, tokens_globText, ih, Option.map_map]
      congr 1
      funext read
      simp

theorem pieces_globTokens (read : pieces later = some expression) (head : later.head? ≠ some .star) :
    pieces (globTokens char ++ later) = some (globPiece char :: expression) := by
  have single : ∀ atom, pieces (.atom atom :: later) = some (.one atom :: expression) := by
    intro atom
    rw [pieces, read]
    · rfl
    · rintro others rfl
      exact head rfl
  unfold globTokens globPiece
  by_cases star : char = '*'
  · rw [if_pos star, if_pos star]
    change pieces (.atom .any :: .star :: later) = _
    rw [pieces, read]
    rfl
  rw [if_neg star, if_neg star]
  by_cases question : char = '?'
  · rw [if_pos question, if_pos question]
    exact single .any
  · rw [if_neg question, if_neg question]
    exact single (.char char)

theorem globTokens_head : ∃ atom later, globTokens char = .atom atom :: later := by
  unfold globTokens
  split
  · exact ⟨_, _, rfl⟩
  split
  · exact ⟨_, _, rfl⟩
  · exact ⟨_, _, rfl⟩

theorem pieces_glob :
    pieces (pattern.flatMap globTokens ++ [.dollar]) = some (pattern.map globPiece ++ [.stop]) := by
  induction pattern with
  | nil => rfl
  | cons char others ih =>
      rw [List.flatMap_cons, List.append_assoc, List.map_cons, List.cons_append]
      apply pieces_globTokens ih
      cases others with
      | nil => nofun
      | cons next later =>
          obtain ⟨atom, more, shape⟩ := @globTokens_head next
          rw [List.flatMap_cons, shape]
          nofun

theorem readPieces_glob :
    readPieces ('^' :: pattern.flatMap globText ++ ['$']) = some (.start :: pattern.map globPiece ++ [.stop]) := by
  have opening : tokens ('^' :: (pattern.flatMap globText ++ ['$'])) =
      some (.caret :: (pattern.flatMap globTokens ++ [.dollar])) := by
    rw [tokens, tokens_glob]
    · rfl
    · nofun
  change (tokens ('^' :: (pattern.flatMap globText ++ ['$']))).bind pieces = _
  rw [opening, Option.bind_some, pieces, pieces_glob]
  rfl

end Reading

section Globs

variable {alike : Char → Char → Bool} {char : Char} {pattern content text rest : List Char} {begins : Bool}

/-- An end anchor allows one line feed after the content. -/
def EndsAfter (content text : List Char) : Prop := text = content ∨ text = content ++ ['\n']

theorem endsAfter_nil : EndsAfter content [] ↔ content = [] := by
  unfold EndsAfter
  constructor
  · rintro (same | longer)
    · exact same.symm
    · simp at longer
  · rintro rfl
    exact .inl rfl

theorem endsAfter_cons {first : Char} :
    EndsAfter (first :: content) (char :: rest) ↔ char = first ∧ EndsAfter content rest := by
  unfold EndsAfter
  rw [List.cons_append, List.cons.injEq, List.cons.injEq, and_or_left]

/-- What a glob stands for at the end of a text, before an end anchor. -/
def GlobEnds (alike : Char → Char → Bool) (pattern text : List Char) : Prop :=
  ∃ content, EndsAfter content text ∧ Glob alike (· ≠ '\n') pattern content

theorem globEnds_nil : GlobEnds alike [] text ↔ text = [] ∨ text = ['\n'] := by
  constructor
  · rintro ⟨content, ends, glob⟩
    cases glob
    exact ends
  · intro ends
    exact ⟨[], ends, .nil⟩

theorem globEnds_plain (star : char ≠ '*') (question : char ≠ '?') :
    GlobEnds alike (char :: pattern) text ↔
      ∃ shown rest, text = shown :: rest ∧ alike char shown = true ∧ GlobEnds alike pattern rest := by
  constructor
  · rintro ⟨content, ends, glob⟩
    cases glob with
    | char plain same later =>
        cases text with
        | nil => exact absurd (endsAfter_nil.mp ends) (List.cons_ne_nil _ _)
        | cons shown rest =>
            obtain ⟨rfl, shorter⟩ := endsAfter_cons.mp ends
            exact ⟨shown, rest, rfl, same, _, shorter, later⟩
    | any => exact absurd rfl question
    | empty => exact absurd rfl star
    | more => exact absurd rfl star
  · rintro ⟨shown, rest, rfl, same, content, ends, glob⟩
    exact ⟨shown :: content, endsAfter_cons.mpr ⟨rfl, ends⟩, .char ⟨star, question⟩ same glob⟩

theorem globEnds_question :
    GlobEnds alike ('?' :: pattern) text ↔ ∃ shown rest, text = shown :: rest ∧ shown ≠ '\n' ∧ GlobEnds alike pattern rest := by
  constructor
  · rintro ⟨content, ends, glob⟩
    cases glob with
    | char plain => exact absurd rfl plain.2
    | any free later =>
        cases text with
        | nil => exact absurd (endsAfter_nil.mp ends) (List.cons_ne_nil _ _)
        | cons shown rest =>
            obtain ⟨rfl, shorter⟩ := endsAfter_cons.mp ends
            exact ⟨shown, rest, rfl, free, _, shorter, later⟩
  · rintro ⟨shown, rest, rfl, free, content, ends, glob⟩
    exact ⟨shown :: content, endsAfter_cons.mpr ⟨rfl, ends⟩, .any free glob⟩

theorem globEnds_star :
    GlobEnds alike ('*' :: pattern) text ↔ GlobEnds alike pattern text ∨
      ∃ shown rest, text = shown :: rest ∧ shown ≠ '\n' ∧ GlobEnds alike ('*' :: pattern) rest := by
  constructor
  · rintro ⟨content, ends, glob⟩
    cases glob with
    | char plain => exact absurd rfl plain.1
    | empty later => exact .inl ⟨content, ends, later⟩
    | more free later =>
        right
        cases text with
        | nil => exact absurd (endsAfter_nil.mp ends) (List.cons_ne_nil _ _)
        | cons shown rest =>
            obtain ⟨rfl, shorter⟩ := endsAfter_cons.mp ends
            exact ⟨shown, rest, rfl, free, _, shorter, later⟩
  · rintro (⟨content, ends, glob⟩ | ⟨shown, rest, rfl, free, content, ends, glob⟩)
    · exact ⟨content, ends, .empty glob⟩
    · exact ⟨shown :: content, endsAfter_cons.mpr ⟨rfl, ends⟩, .more free glob⟩

theorem repeated_any {next : Bool → List Char → Bool}
    (each : ∀ begins text, next begins text = true ↔ GlobEnds alike pattern text) :
    repeated (Atom.any.accepts alike) next begins text = true ↔ GlobEnds alike ('*' :: pattern) text := by
  induction text generalizing begins with
  | nil =>
      rw [globEnds_star, repeated, each]
      simp
  | cons shown rest ih =>
      rw [globEnds_star, repeated, Bool.or_eq_true, Bool.and_eq_true, each, ih]
      simp [Atom.accepts]

theorem matchesFrom_glob :
    matchesFrom alike (pattern.map globPiece ++ [.stop]) begins text = true ↔ GlobEnds alike pattern text := by
  induction pattern generalizing begins text with
  | nil => simp [matchesFrom, globEnds_nil]
  | cons char others ih =>
      have expression : matchesFrom alike ((char :: others).map globPiece ++ [.stop]) begins text =
          matchesFrom alike (globPiece char :: (others.map globPiece ++ [.stop])) begins text := rfl
      rw [expression]
      by_cases star : char = '*'
      · subst star
        exact repeated_any fun _ _ => ih
      by_cases question : char = '?'
      · subst question
        rw [globEnds_question]
        have shape : globPiece '?' = .one .any := rfl
        cases text with
        | nil => simp [shape, matchesFrom]
        | cons shown rest => simp [shape, matchesFrom, Atom.accepts, ih]
      · rw [globEnds_plain star question]
        have shape : globPiece char = .one (.char char) := by rw [globPiece, if_neg star, if_neg question]
        cases text with
        | nil => simp [shape, matchesFrom]
        | cons shown rest => simp [shape, matchesFrom, Atom.accepts, ih]

theorem search_start {expression : List Piece} :
    search alike (.start :: expression) text = matchesFrom alike expression true text := by
  have later : matchesAfter alike (.start :: expression) text = false := by
    induction text with
    | nil => rfl
    | cons shown rest ih => rw [matchesAfter, ih, matchesFrom, Bool.false_and, Bool.or_false]
  rw [search, later, Bool.or_false, matchesFrom, Bool.true_and]

theorem search_glob :
    search alike (.start :: pattern.map globPiece ++ [.stop]) text = true ↔ GlobEnds alike pattern text := by
  rw [List.cons_append, search_start]
  exact matchesFrom_glob

theorem Glob.mono {wild wilder : Char → Prop} (glob : Glob alike wild pattern text)
    (free : ∀ char ∈ text, wild char → wilder char) : Glob alike wilder pattern text := by
  induction glob with
  | nil => exact .nil
  | char plain same later ih => exact .char plain same (ih fun char inside => free char (List.mem_cons_of_mem _ inside))
  | any allowed later ih =>
      exact .any (free _ List.mem_cons_self allowed) (ih fun char inside => free char (List.mem_cons_of_mem _ inside))
  | empty later ih => exact .empty (ih free)
  | more allowed later ih =>
      exact .more (free _ List.mem_cons_self allowed) (ih fun char inside => free char (List.mem_cons_of_mem _ inside))

theorem globEnds_line (line : '\n' ∉ text) :
    GlobEnds alike pattern text ↔ Glob alike (fun _ => True) pattern text := by
  constructor
  · rintro ⟨content, ends, glob⟩
    rcases ends with rfl | rfl
    · exact glob.mono fun _ _ _ => trivial
    · exact absurd (List.mem_append_right _ List.mem_cons_self) line
  · intro glob
    refine ⟨text, .inl rfl, glob.mono ?_⟩
    rintro char inside - rfl
    exact line inside

end Globs

end Dosm.Python.Patterns
