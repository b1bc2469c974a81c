import Mathlib.Data.List.Basic

namespace Dosm

/-! Values put into a text that an automaton reads character by character.

A value is confined when every character of it stands for itself where it is read.
Reading a character that stands for itself leaves the state as it is, so that
what follows the value is read as if the value were not there.
-/

structure Reader (State : Type) where
  next : State → Char → State
  literal : State → Char → Bool
  keeps : ∀ {state char}, literal state char = true → next state char = state

/-- A part of a text: fixed, or a value put in. -/
inductive Piece where
  | fixed (text : List Char)
  | value (text : List Char)
  deriving DecidableEq

def Piece.text : Piece → List Char
  | .fixed text | .value text => text

def render (pieces : List Piece) : List Char := pieces.flatMap Piece.text

namespace Reader

variable {State : Type} {reader : Reader State} {state : State} {pieces : List Piece}
  {text first second : List Char}

def advance (reader : Reader State) : State → List Char → State := List.foldl reader.next

def Literal (reader : Reader State) (state : State) (text : List Char) : Prop :=
  ∀ char ∈ text, reader.literal state char = true

/-- Every value is read as itself, in the text as a whole. -/
def Confined (reader : Reader State) (start : State) (pieces : List Piece) : Prop :=
  ∀ before value after, pieces = before ++ .value value :: after →
    reader.Literal (reader.advance start (render before)) value

theorem advance_append : reader.advance state (first ++ second) =
    reader.advance (reader.advance state first) second := List.foldl_append

theorem advance_literal (literal : reader.Literal state text) : reader.advance state text = state := by
  induction text with
  | nil => rfl
  | cons char rest ih =>
      have same : reader.next state char = state := reader.keeps (literal char List.mem_cons_self)
      have later : reader.Literal state rest :=
        fun other member => literal other (List.mem_cons_of_mem _ member)
      change reader.advance (reader.next state char) rest = state
      rw [same]
      exact ih later

@[simp] theorem confined_nil : reader.Confined state [] := by
  intro before value after split
  cases before <;> cases split

theorem confined_fixed : reader.Confined state (.fixed text :: pieces) ↔
    reader.Confined (reader.advance state text) pieces := by
  constructor
  · intro confined before value after split
    have read := confined (.fixed text :: before) value after (congrArg (List.cons _) split)
    rwa [render, List.flatMap_cons, advance_append] at read
  · intro confined before value after split
    cases before with
    | nil => cases split
    | cons piece before =>
        obtain ⟨rfl, rest⟩ := List.cons.inj split
        rw [render, List.flatMap_cons, advance_append]
        exact confined before value after rest

theorem confined_end : reader.Confined state [.fixed text] := confined_fixed.mpr confined_nil

theorem confined_value : reader.Confined state (.value text :: pieces) ↔
    reader.Literal state text ∧ reader.Confined state pieces := by
  constructor
  · intro confined
    have literal : reader.Literal state text := confined [] text pieces rfl
    refine ⟨literal, fun before value after split => ?_⟩
    have read := confined (.value text :: before) value after (congrArg (List.cons _) split)
    rwa [render, List.flatMap_cons, advance_append, Piece.text, advance_literal literal] at read
  · rintro ⟨literal, confined⟩ before value after split
    cases before with
    | nil =>
        obtain ⟨same, -⟩ := List.cons.inj split
        cases same
        exact literal
    | cons piece before =>
        obtain ⟨rfl, rest⟩ := List.cons.inj split
        rw [render, List.flatMap_cons, advance_append, Piece.text, advance_literal literal]
        exact confined before value after rest

end Reader

end Dosm
