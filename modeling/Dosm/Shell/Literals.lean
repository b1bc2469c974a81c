import Dosm.Shell.Readers
import Mathlib.Algebra.GroupWithZero.Nat

namespace Dosm.Shell

/-! The value of a PowerShell string in single quotes.

The string ends at a quote with no quote after it, and two quotes stand for the second
of them. Doubling the ASCII quotes of a text therefore quotes the texts that have no
other ones. A quote weighs half as much as another character, so the weight of what is
read is the length of its value, wherever the reader takes a pair.
-/

/-- The value of a string after its opening quote, and what follows the closing one. -/
def singleLiteral : List Char → Option (List Char × List Char)
  | [] => none
  | [char] => if isSingleQuote char then some ([], []) else none
  | char :: next :: rest =>
      if isSingleQuote char then
        if isSingleQuote next then (singleLiteral rest).map fun read => (next :: read.1, read.2)
        else some ([], next :: rest)
      else (singleLiteral (next :: rest)).map fun read => (char :: read.1, read.2)

/-- `replace("'", "''")`. -/
def doubleQuotes (text : List Char) : List Char :=
  text.flatMap fun char => if char = '\'' then ['\'', '\''] else [char]

def quoteWeight (char : Char) : Nat := if isSingleQuote char then 1 else 2

def weight (text : List Char) : Nat := (text.map quoteWeight).sum

def isOtherQuote (char : Char) : Bool := isSingleQuote char && char ≠ '\''

section Literals

variable {chars value rest : List Char} {char : Char}

theorem isSingleQuote_ascii : isSingleQuote '\'' = true := by decide

@[simp] theorem weight_cons : weight (char :: chars) = quoteWeight char + weight chars := by
  simp [weight]

@[simp] theorem weight_append : weight (chars ++ rest) = weight chars + weight rest := by
  simp [weight]

theorem singleLiteral_weight (read : singleLiteral chars = some (value, rest)) :
    weight chars = 2 * value.length + 1 + weight rest := by
  fun_induction singleLiteral chars generalizing value with
  | case1 => cases read
  | case2 char quote =>
      cases read
      simp [weight, quoteWeight, quote]
  | case3 char plain => cases read
  | case4 char next tail quote doubled ih =>
      obtain ⟨⟨inner, following⟩, later, same⟩ := Option.map_eq_some_iff.mp read
      cases same
      have count := ih later
      have longer : (next :: inner).length = inner.length + 1 := rfl
      rw [weight_cons, weight_cons, quoteWeight, if_pos quote, quoteWeight, if_pos doubled, count, longer]
      omega
  | case5 char next tail quote single =>
      cases read
      simp only [weight_cons, quoteWeight, if_pos quote, List.length_nil]
  | case6 char next tail plain ih =>
      obtain ⟨⟨inner, following⟩, later, same⟩ := Option.map_eq_some_iff.mp read
      cases same
      have count := ih later
      have longer : (char :: inner).length = inner.length + 1 := rfl
      rw [weight_cons, count, quoteWeight, if_neg plain, longer]
      omega

theorem doubleQuotes_cons : doubleQuotes (char :: value) =
    (if char = '\'' then ['\'', '\''] else [char]) ++ doubleQuotes value := List.flatMap_cons

theorem doubleQuotes_weight : weight (doubleQuotes value) + value.countP isOtherQuote = 2 * value.length := by
  induction value with
  | nil => rfl
  | cons first tail ih =>
      rw [doubleQuotes_cons, weight_append, List.countP_cons, List.length_cons]
      by_cases ascii : first = '\''
      · have counted : isOtherQuote first = false := by simp [isOtherQuote, ascii]
        have pair : weight ['\'', '\''] = 2 := by decide
        simp only [if_pos ascii, counted, pair, Bool.false_eq_true, if_false]
        omega
      · by_cases quote : isSingleQuote first
        · have counted : isOtherQuote first = true := by simp [isOtherQuote, ascii, quote]
          simp only [if_neg ascii, counted, if_true, weight_cons, quoteWeight, if_pos quote]
          simp only [weight, List.map_nil, List.sum_nil] at *
          omega
        · have counted : isOtherQuote first = false := by simp [isOtherQuote, quote]
          simp only [if_neg ascii, counted, Bool.false_eq_true, if_false, weight_cons, quoteWeight, if_neg quote]
          simp only [weight, List.map_nil, List.sum_nil] at *
          omega

theorem singleLiteral_doubled (plain : ∀ char ∈ value, isOtherQuote char = false)
    (after : ∀ char ∈ rest.head?, isSingleQuote char = false) :
    singleLiteral (doubleQuotes value ++ '\'' :: rest) = some (value, rest) := by
  induction value with
  | nil =>
      cases rest with
      | nil => rfl
      | cons next rest =>
          have ends := after next rfl
          simp [doubleQuotes, singleLiteral, isSingleQuote_ascii, ends]
  | cons first tail ih =>
      have later := ih fun char member => plain char (List.mem_cons_of_mem _ member)
      rw [doubleQuotes_cons]
      by_cases quote : first = '\''
      · rw [if_pos quote, List.append_assoc]
        simp only [List.cons_append, List.nil_append, singleLiteral, isSingleQuote_ascii, if_true, later, quote,
          Option.map_some]
      · have other : isSingleQuote first = false := by
          simpa [isOtherQuote, quote] using plain first List.mem_cons_self
        rw [if_neg quote]
        cases chars : doubleQuotes tail ++ '\'' :: rest with
        | nil => simp at chars
        | cons next following =>
            rw [chars] at later
            simp [singleLiteral, other, chars, later]

end Literals

/-! Assignments of environment env in front of a script. -/

/-- `$env:KEY = '`. -/
def assignmentStart (key : String) : List Char := ("$env:" ++ key ++ " = '").toList

def assignment (key value : String) : List Char :=
  assignmentStart key ++ doubleQuotes value.toList ++ ['\'']

/-- The values that the assignments of the keys give, and the script after them. -/
def readAssignments : List String → List Char → Option (List (List Char) × List Char)
  | [], script => some ([], script)
  | key :: keys, text => do
      let quoted ← text.dropPrefix? (assignmentStart key)
      let (value, rest) ← singleLiteral quoted
      let following ← rest.dropPrefix? ['\n']
      let (values, script) ← readAssignments keys following
      return (value :: values, script)

def assignments (env : List (String × String)) : List Char :=
  env.flatMap fun entry => assignment entry.1 entry.2 ++ ['\n']

section Assignments

variable {env : List (String × String)} {keys : List String} {values : List (List Char)} {text script : List Char}

theorem dropPrefix?_some {chars start rest : List Char} (dropped : chars.dropPrefix? start = some rest) :
    chars = start ++ rest := by
  obtain ⟨found, split, same⟩ := List.dropPrefix?_eq_some_iff.mp dropped
  rw [split, eq_of_beq same]

theorem dropPrefix?_append {start rest : List Char} : (start ++ rest).dropPrefix? start = some rest :=
  List.dropPrefix?_append_of_beq rest (beq_self_eq_true start)

def lineWeight (key : String) : Nat := weight (assignmentStart key) + 3

theorem readAssignments_weight (read : readAssignments keys text = some (values, script)) :
    weight text = (keys.map lineWeight).sum + 2 * (values.map List.length).sum + weight script := by
  induction keys generalizing text values with
  | nil =>
      cases read
      simp
  | cons key keys ih =>
      simp only [readAssignments, Option.bind_eq_bind, Option.bind_eq_some_iff, Option.pure_def,
        Option.some.injEq, Prod.exists] at read
      obtain ⟨quoted, start, value, rest, literal, following, line, others, remaining, later, same⟩ := read
      cases same
      have literalWeight := singleLiteral_weight literal
      have laterWeight := ih later
      have lineEnd : weight ['\n'] = 2 := by decide
      rw [dropPrefix?_some line, weight_append, lineEnd] at literalWeight
      rw [dropPrefix?_some start, weight_append, literalWeight, laterWeight]
      simp only [List.map_cons, List.sum_cons, lineWeight]
      omega

theorem assignments_weight :
    weight (assignments env) + (env.map fun entry => entry.2.toList.countP isOtherQuote).sum =
      (env.map fun entry => lineWeight entry.1).sum +
        2 * (env.map fun entry => entry.2.toList.length).sum := by
  induction env with
  | nil => rfl
  | cons entry env ih =>
      have value := @doubleQuotes_weight entry.2.toList
      have ends : weight ['\''] = 1 := by decide
      have lineEnd : weight ['\n'] = 2 := by decide
      simp only [assignments, List.flatMap_cons, assignment, weight_append, List.map_cons, List.sum_cons, lineWeight,
        ends, lineEnd] at *
      omega

theorem readAssignments_plain (plain : ∀ entry ∈ env, ∀ char ∈ entry.2.toList, isOtherQuote char = false) :
    readAssignments (env.map Prod.fst) (assignments env ++ script) =
      some (env.map fun entry => entry.2.toList, script) := by
  induction env with
  | nil => rfl
  | cons entry env ih =>
      have later := ih fun other member => plain other (List.mem_cons_of_mem _ member)
      have line : isSingleQuote '\n' = false := by decide
      have literal := @singleLiteral_doubled entry.2.toList ('\n' :: (assignments env ++ script))
        (plain entry List.mem_cons_self) (by simp [line])
      have text : assignments (entry :: env) ++ script = assignmentStart entry.1 ++
          (doubleQuotes entry.2.toList ++ '\'' :: (['\n'] ++ (assignments env ++ script))) := by
        simp [assignments, assignment]
      have following := @dropPrefix?_append ['\n'] (assignments env ++ script)
      rw [List.map_cons, text, readAssignments, dropPrefix?_append]
      simp only [Option.bind_eq_bind, Option.bind_some, List.cons_append, List.nil_append] at following ⊢
      rw [literal]
      simp only [Option.bind_some, following, later]
      rfl

theorem readAssignments_iff :
    readAssignments (env.map Prod.fst) (assignments env ++ script) =
        some (env.map fun entry => entry.2.toList, script) ↔
      ∀ entry ∈ env, ∀ char ∈ entry.2.toList, isOtherQuote char = false := by
  constructor
  · intro read entry member char inside
    have readWeight := readAssignments_weight read
    have written := @assignments_weight env
    rw [weight_append] at readWeight
    simp only [List.map_map, Function.comp_def] at readWeight
    have none : (env.map fun entry => entry.2.toList.countP isOtherQuote).sum = 0 := by omega
    have counted := List.sum_eq_zero_iff_forall_eq_nat.mp none _ (List.mem_map.mpr ⟨entry, member, rfl⟩)
    simpa using List.countP_eq_zero.mp counted char inside
  · intro plain
    exact readAssignments_plain plain

end Assignments

end Dosm.Shell
