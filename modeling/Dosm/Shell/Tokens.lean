import Mathlib.Data.List.Basic

namespace Dosm.Shell

/-! Token recognition of a POSIX shell.

A command line is one simple command when its tokens are all words: no operator
separates, groups, pipes or redirects, and no word holds a command substitution.
-/

inductive Mode where
  | plain
  | dollar
  | escaped
  | single
  | double
  | doubleDollar
  | doubleEscaped
  | comment
  deriving DecidableEq

/-- An operator of two characters is two marks, and a substitution is one of its
own, whatever it is embedded in. -/
inductive Mark where
  | operator (char : Char)
  | substitution
  deriving DecidableEq

/-- A word has its quotes removed. -/
inductive Token where
  | word (text : List Char)
  | mark (mark : Mark)
  deriving DecidableEq

def isOperator (char : Char) : Bool :=
  char ∈ [';', '&', '|', '<', '>', '(', ')', '\n']

def isBlank (char : Char) : Bool := char = ' ' || char = '\t'

inductive Action where
  /-- It adds to the word, or begins one. -/
  | add (text : List Char) (mode : Mode)
  /-- It is not part of any word. -/
  | skip (mode : Mode)
  | blank
  | cut (mark : Mark) (mode : Mode)
  deriving DecidableEq

def scanPlain (afterDollar inWord : Bool) (char : Char) : Action :=
  if char = '\\' then .skip .escaped
  else if char = '\'' then .add [] .single
  else if char = '"' then .add [] .double
  else if char = '`' || (afterDollar && char = '(') then .cut .substitution .plain
  else if char = '#' && !inWord then .skip .comment
  else if isOperator char then .cut (.operator char) .plain
  else if isBlank char then .blank
  else .add [char] (if char = '$' then .dollar else .plain)

def scanDouble (afterDollar : Bool) (char : Char) : Action :=
  if char = '\\' then .skip .doubleEscaped
  else if char = '"' then .add [] .plain
  else if char = '`' || (afterDollar && char = '(') then .cut .substitution .double
  else .add [char] (if char = '$' then .doubleDollar else .double)

def scan (mode : Mode) (inWord : Bool) (char : Char) : Action :=
  match mode with
  | .plain => scanPlain false inWord char
  | .dollar => scanPlain true inWord char
  | .escaped => if char = '\n' then .skip .plain else .add [char] .plain
  | .single => if char = '\'' then .add [] .plain else .add [char] .single
  | .double => scanDouble false char
  | .doubleDollar => scanDouble true char
  | .doubleEscaped =>
      if char = '\n' then .skip .double
      else if char ∈ ['$', '`', '"', '\\'] then .add [char] .double
      else .add ['\\', char] .double
  | .comment => if char = '\n' then .cut (.operator '\n') .plain else .skip .comment

def Mode.closed : Mode → Bool
  | .plain | .dollar | .escaped | .comment => true
  | .single | .double | .doubleDollar | .doubleEscaped => false

def flush (word : Option (List Char)) : List Token := (word.map Token.word).toList

/-- The tokens from here on; `word` is the one begun. Nothing when a quote stays
open: the shell then runs nothing. -/
def lex (mode : Mode) (word : Option (List Char)) : List Char → Option (List Token)
  | [] => if mode.closed then some (flush word) else none
  | char :: rest =>
      match scan mode word.isSome char with
      | .add text next => lex next (some (word.getD [] ++ text)) rest
      | .skip next => lex next word rest
      | .blank => (lex .plain none rest).map (flush word ++ ·)
      | .cut mark next => (lex next none rest).map (flush word ++ .mark mark :: ·)

/-- The shell runs one simple command, and this is its program. -/
def RunsOne (line program : List Char) : Prop :=
  ∃ arguments, lex .plain none line = some ((program :: arguments).map Token.word)

/-- No operator, no substitution and no quote left open. -/
def quiet (mode : Mode) (inWord : Bool) : List Char → Bool
  | [] => mode.closed
  | char :: rest =>
      match scan mode inWord char with
      | .add _ next => quiet next true rest
      | .skip next => quiet next inWord rest
      | .blank => quiet .plain false rest
      | .cut _ _ => false

def Quiet (line : List Char) : Prop := quiet .plain false line = true

instance (line : List Char) : Decidable (Quiet line) :=
  inferInstanceAs (Decidable (quiet .plain false line = true))

example : lex .plain none "df -h '/a b' # all".toList =
    some [.word "df".toList, .word "-h".toList, .word "/a b".toList] := by decide

example : Quiet "a\\;b \"x;$HOME\"".toList ∧ ¬ Quiet "a;b".toList ∧ ¬ Quiet "\"$(id)\"".toList ∧
    ¬ Quiet "it's".toList := by decide

section Words

variable {mode : Mode} {word : Option (List Char)} {line rest : List Char} {char : Char}

theorem map_flush_words {tokens : Option (List Token)} :
    (∃ words : List (List Char), tokens.map (flush word ++ ·) = some (words.map Token.word)) ↔
      ∃ words : List (List Char), tokens = some (words.map Token.word) := by
  constructor
  · rintro ⟨words, mapped⟩
    obtain ⟨inner, found, same⟩ := Option.map_eq_some_iff.mp mapped
    cases word with
    | none => exact ⟨words, found.trans (congrArg some same)⟩
    | some text =>
        cases words with
        | nil => cases same
        | cons first others => exact ⟨others, found.trans (congrArg some (List.cons.inj same).2)⟩
  · rintro ⟨words, rfl⟩
    exact ⟨word.toList ++ words, by simp [flush, Option.toList_map]⟩

theorem words_iff_quiet : (∃ words : List (List Char), lex mode word line = some (words.map Token.word)) ↔
    quiet mode word.isSome line = true := by
  induction line generalizing mode word with
  | nil =>
      cases closed : mode.closed with
      | true =>
          simp only [lex, quiet, closed, if_true, iff_true]
          exact ⟨word.toList, by simp [flush, Option.toList_map]⟩
      | false => simp [lex, quiet, closed]
  | cons char rest ih =>
      cases found : scan mode word.isSome char with
      | add text next =>
          simp only [lex, quiet, found]
          exact ih
      | skip next =>
          simp only [lex, quiet, found]
          exact ih
      | blank =>
          simp only [lex, quiet, found]
          exact map_flush_words.trans ih
      | cut mark next =>
          simp only [lex, quiet, found, Bool.false_eq_true, iff_false]
          rintro ⟨words, mapped⟩
          obtain ⟨inner, _, same⟩ := Option.map_eq_some_iff.mp mapped
          have marked : Token.mark mark ∈ words.map Token.word := by
            rw [← same]
            exact List.mem_append_right _ List.mem_cons_self
          obtain ⟨text, _, isWord⟩ := List.mem_map.mp marked
          cases isWord

end Words

section Heads

variable {line rest program text start : List Char} {char : Char} {inWord : Bool}

def isOrdinary (char : Char) : Bool :=
  char ∉ ['\\', '\'', '"', '`', '#', '$'] && !isOperator char && !isBlank char

theorem scanPlain_ordinary (ordinary : isOrdinary char = true) :
    scanPlain false inWord char = .add [char] .plain := by
  simp only [isOrdinary, List.mem_cons, List.not_mem_nil, or_false, not_or, Bool.and_eq_true,
    decide_eq_true_eq, Bool.not_eq_true'] at ordinary
  obtain ⟨⟨⟨backslash, single, double, backtick, comment, dollar⟩, operator⟩, blank⟩ := ordinary
  simp [scanPlain, backslash, single, double, backtick, comment, dollar, operator, blank]

theorem scanPlain_blank (blank : isBlank char = true) : scanPlain false inWord char = .blank := by
  simp only [isBlank, Bool.or_eq_true, decide_eq_true_eq] at blank
  rcases blank with rfl | rfl
  · rfl
  · rfl

theorem lex_ordinary (ordinary : ∀ char ∈ program, isOrdinary char = true) :
    lex .plain (some text) (program ++ rest) = lex .plain (some (text ++ program)) rest := by
  induction program generalizing text with
  | nil => rw [List.nil_append, List.append_nil]
  | cons char others ih =>
      simp only [List.cons_append, lex, scan, scanPlain_ordinary (ordinary char List.mem_cons_self)]
      rw [Option.getD_some, ih fun other member => ordinary other (List.mem_cons_of_mem _ member),
        List.append_assoc, List.singleton_append]

theorem lex_program (ordinary : ∀ char ∈ program, isOrdinary char = true) (named : program ≠ []) :
    lex .plain none (program ++ rest) = lex .plain (some program) rest := by
  cases program with
  | nil => exact absurd rfl named
  | cons char others =>
      simp only [List.cons_append, lex, scan, scanPlain_ordinary (ordinary char List.mem_cons_self)]
      exact lex_ordinary fun other member => ordinary other (List.mem_cons_of_mem _ member)

theorem quiet_start (plain : ∀ char ∈ start, isOrdinary char = true ∨ isBlank char = true) :
    quiet .plain inWord (start ++ ' ' :: rest) = quiet .plain false rest := by
  induction start generalizing inWord with
  | nil => rfl
  | cons char others ih =>
      have later : ∀ other ∈ others, isOrdinary other = true ∨ isBlank other = true :=
        fun other member => plain other (List.mem_cons_of_mem _ member)
      rcases plain char List.mem_cons_self with ordinary | blank
      · simp only [List.cons_append, quiet, scan, scanPlain_ordinary ordinary]
        exact ih later
      · simp only [List.cons_append, quiet, scan, scanPlain_blank blank]
        exact ih later

theorem quiet_plain (plain : ∀ char ∈ line, isOrdinary char = true ∨ isBlank char = true) :
    quiet .plain inWord line = true := by
  induction line generalizing inWord with
  | nil => rfl
  | cons char others ih =>
      have later : ∀ other ∈ others, isOrdinary other = true ∨ isBlank other = true :=
        fun other member => plain other (List.mem_cons_of_mem _ member)
      rcases plain char List.mem_cons_self with ordinary | blank
      · simp only [quiet, scan, scanPlain_ordinary ordinary]
        exact ih later
      · simp only [quiet, scan, scanPlain_blank blank]
        exact ih later

theorem quiet_of_runsOne (runs : RunsOne line program) : Quiet line := by
  obtain ⟨arguments, tokens⟩ := runs
  exact words_iff_quiet.mp ⟨program :: arguments, tokens⟩

theorem runsOne_of_quiet (ordinary : ∀ char ∈ program, isOrdinary char = true) (named : program ≠ [])
    (ends : rest = [] ∨ ∃ others, rest = ' ' :: others) (calm : Quiet (program ++ rest)) :
    RunsOne (program ++ rest) program := by
  have first : lex .plain none (program ++ rest) = lex .plain (some program) rest :=
    lex_program ordinary named
  have worded : ∃ words : List (List Char), lex .plain none (program ++ rest) = some (words.map Token.word) :=
    words_iff_quiet.mpr calm
  obtain ⟨words, tokens⟩ := worded
  rw [first] at tokens
  rcases ends with rfl | ⟨others, rfl⟩
  · exact ⟨[], first⟩
  · have cut : lex .plain (some program) (' ' :: others) =
        (lex .plain none others).map (flush (some program) ++ ·) := rfl
    rw [cut] at tokens first
    obtain ⟨arguments, found⟩ := map_flush_words.mp ⟨words, tokens⟩
    refine ⟨arguments, ?_⟩
    rw [first, found]
    rfl

end Heads

end Dosm.Shell
