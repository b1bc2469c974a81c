import Mathlib.Data.List.Infix
import Mathlib.Data.List.Sort
import Dosm.Python.Fnmatch

namespace Dosm.Like

open Python

/-! The `LIKE` operator of SQLite: `%` matches anything, `_` one character, and
the case of ASCII letters is folded.
-/

def item : Char → Glob
  | '%' => .star
  | '_' => .any
  | char => .literal char

def asciiLower (text : String) : List Char := text.toList.map Char.toLower

def like (text pattern : String) : Bool :=
  matchGlob ((asciiLower pattern).map item) (asciiLower text)

example : like "Runbook for the DB" "%run%db%" := by decide
example : ¬ like "restore" "re_ore" := by decide

theorem matchGlob_items {chars rest : List Char} : matchGlob (chars.map item ++ [.star]) (chars ++ rest) = true := by
  induction chars with
  | nil =>
      simp only [List.map_nil, List.nil_append, matchGlob, List.any_eq_true]
      exact ⟨[], (List.mem_tails _ _).mpr List.nil_suffix, rfl⟩
  | cons char chars ih =>
      simp only [List.map_cons, List.cons_append, item]
      split
      · simp only [matchGlob, List.any_eq_true]
        exact ⟨chars ++ rest, (List.mem_tails _ _).mpr (List.suffix_cons _ _), ih⟩
      · simpa [matchGlob, Glob.admits] using ih
      · simpa [matchGlob, Glob.admits] using ih

theorem like_containing {text : String} : like text ("%" ++ text ++ "%") = true := by
  have spelled : (asciiLower ("%" ++ text ++ "%")).map item =
      .star :: ((asciiLower text).map item ++ [.star]) := by
    simp [asciiLower, item]
  simp only [like, spelled, matchGlob, List.any_eq_true]
  have matched : matchGlob ((asciiLower text).map item ++ [.star]) (asciiLower text ++ []) = true := matchGlob_items
  rw [List.append_nil] at matched
  exact ⟨asciiLower text, (List.mem_tails _ _).mpr List.suffix_rfl, matched⟩

theorem like_starting {start rest : String} : like (start ++ rest) (start ++ "%") = true := by
  have spelled : (asciiLower (start ++ "%")).map item = (asciiLower start).map item ++ [.star] := by
    simp [asciiLower, item]
  have text : asciiLower (start ++ rest) = asciiLower start ++ asciiLower rest := by simp [asciiLower]
  rw [like, spelled, text]
  exact matchGlob_items

end Dosm.Like

namespace Dosm.Sql

/-! Conditions of SQL over the rows of a table.

A comparison with NULL is neither true nor false. A row is selected when its condition is
true, so an unknown condition leaves it out.
-/

universe u v

/-- `none` is unknown. -/
abbrev Truth := Option Bool

def Truth.or : Truth → Truth → Truth
  | some true, _ => some true
  | some false, other => other
  | none, some true => some true
  | none, _ => none

def Truth.and : Truth → Truth → Truth
  | some false, _ => some false
  | some true, other => other
  | none, some false => some false
  | none, _ => none

abbrev Clause (Row : Type u) := Row → Truth

variable {Row : Type u} {Value : Type v} [DecidableEq Value]

section Clauses

variable (column : Row → Option Value)

def equals (value : Value) : Clause Row := fun row => (column row).map fun held => decide (held = value)

def differs (value : Value) : Clause Row := fun row => (column row).map fun held => decide (held ≠ value)

def isNull : Clause Row := fun row => some (column row).isNone

/-- A comparison that is written with a value or with none: the latter is a test for NULL. -/
def comparesTo : Option Value → Clause Row
  | some value => equals column value
  | none => isNull column

def either (first second : Clause Row) : Clause Row := fun row => (first row).or (second row)

def both (clauses : List (Clause Row)) : Clause Row := fun row => clauses.foldr (fun clause rest => (clause row).and rest) (some true)

end Clauses

def select (clauses : List (Clause Row)) (before : Row → Row → Bool) (rows : List Row) : List Row :=
  (rows.filter fun row => both clauses row = some true).mergeSort before

variable {column : Row → Option Value} {value : Value} {row : Row} {first second : Clause Row}
  {clauses : List (Clause Row)} {left right : Truth}

@[simp] theorem or_eq_true : left.or right = some true ↔ left = some true ∨ right = some true := by
  rcases left with _ | _ | _ <;> rcases right with _ | _ | _ <;> decide

@[simp] theorem and_eq_true : left.and right = some true ↔ left = some true ∧ right = some true := by
  rcases left with _ | _ | _ <;> rcases right with _ | _ | _ <;> decide

theorem equals_eq_true : equals column value row = some true ↔ column row = some value := by
  simp [equals]

theorem differs_eq_true : differs column value row = some true ↔ ∃ held, column row = some held ∧ held ≠ value := by
  simp [differs]

theorem isNull_eq_true : isNull column row = some true ↔ column row = none := by
  simp [isNull]

theorem either_eq_true : either first second row = some true ↔ first row = some true ∨ second row = some true :=
  or_eq_true

theorem both_eq_true : both clauses row = some true ↔ ∀ clause ∈ clauses, clause row = some true := by
  induction clauses with
  | nil => simp [both]
  | cons clause rest ih =>
      rw [List.forall_mem_cons, ← ih]
      exact and_eq_true

theorem mem_select {before : Row → Row → Bool} {rows : List Row} :
    row ∈ select clauses before rows ↔ row ∈ rows ∧ ∀ clause ∈ clauses, clause row = some true := by
  rw [select, List.mem_mergeSort, List.mem_filter, decide_eq_true_eq, both_eq_true]

end Dosm.Sql
