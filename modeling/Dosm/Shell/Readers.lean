import Dosm.Base.Reader
import Dosm.Shell.Tokens

namespace Dosm.Shell

/-! How a POSIX shell and PowerShell read a text with values in it.

PowerShell ends a string in single quotes at any character it takes for one; two
of them stand for one. The texts read here have no comments, no here-strings and no
quotes inside a subexpression.
-/

/-- The state after a character, with whether a word has begun. -/
def posixNext (state : Mode × Bool) (char : Char) : Mode × Bool :=
  match scan state.1 state.2 char with
  | .add _ next => (next, true)
  | .skip next => (next, state.2)
  | .blank => (.plain, false)
  | .cut _ next => (next, false)

/-- The character is part of a word as it is. -/
def posixLiteral (state : Mode × Bool) (char : Char) : Bool :=
  state.2 && scan state.1 true char = .add [char] state.1

def posix : Reader (Mode × Bool) where
  next := posixNext
  literal := posixLiteral
  keeps := by
    rintro ⟨mode, inWord⟩ char literal
    obtain ⟨rfl, added⟩ : inWord = true ∧ scan mode true char = .add [char] mode := by
      simpa [posixLiteral] using literal
    simp [posixNext, added]

inductive PowerShellMode where
  | plain
  | escaped
  | single
  /-- After a quote in a string in single quotes: the end, or the first of two. -/
  | singleEnd
  | double
  | doubleEscaped
  | doubleEnd
  deriving DecidableEq

def isSingleQuote (char : Char) : Bool := char ∈ ['\'', '\u2018', '\u2019', '\u201A', '\u201B']

def isDoubleQuote (char : Char) : Bool := char ∈ ['"', '\u201C', '\u201D', '\u201E']

def powershellPlain (char : Char) : PowerShellMode :=
  if isSingleQuote char then .single
  else if isDoubleQuote char then .double
  else if char = '`' then .escaped
  else .plain

def powershellNext (mode : PowerShellMode) (char : Char) : PowerShellMode :=
  match mode with
  | .plain => powershellPlain char
  | .escaped => .plain
  | .single => if isSingleQuote char then .singleEnd else .single
  | .singleEnd => if isSingleQuote char then .single else powershellPlain char
  | .double =>
      if isDoubleQuote char then .doubleEnd
      else if char = '`' then .doubleEscaped
      else .double
  | .doubleEscaped => .double
  | .doubleEnd => if isDoubleQuote char then .double else powershellPlain char

def powershell : Reader PowerShellMode where
  next := powershellNext
  literal mode char := mode = .single && !isSingleQuote char
  keeps := by
    intro mode char literal
    obtain ⟨rfl, unquoted⟩ : mode = .single ∧ isSingleQuote char = false := by simpa using literal
    simp [powershellNext, unquoted]

section Readers

variable {text : List Char}

theorem posix_single : posix.Literal (.single, true) text ↔ '\'' ∉ text := by
  constructor
  · intro literal quoted
    exact absurd (literal '\'' quoted) (by decide)
  · intro unquoted char member
    have other : char ≠ '\'' := fun same => unquoted (same ▸ member)
    simp [posix, posixLiteral, scan, other]

/-- The characters that stand for themselves inside a word. -/
def isBare (char : Char) : Bool :=
  char ∉ ['\\', '\'', '"', '`', '$'] && !isOperator char && !isBlank char

theorem posix_plain : posix.Literal (.plain, true) text ↔ ∀ char ∈ text, isBare char = true := by
  have each (char : Char) : posixLiteral (.plain, true) char = isBare char := by
    unfold posixLiteral isBare scan scanPlain
    split_ifs <;> simp_all
  exact forall_congr' fun char => by simp [posix, each]

theorem powershell_single : powershell.Literal .single text ↔ ∀ char ∈ text, isSingleQuote char = false := by
  simp [Reader.Literal, powershell]

end Readers

end Dosm.Shell
