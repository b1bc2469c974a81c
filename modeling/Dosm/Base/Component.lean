namespace Dosm.Base

universe u v w

/-! Components that answer calls, and when two of them cannot be told apart.

A relation between the states of two components that every call preserves, and under
which both answer alike, carries over to whole histories of calls. The condition on a
call may depend on the state that the first component is in.
-/

structure Component (State : Type u) (Call : Type v) (Answer : Type w) where
  respond : State → Call → State × Answer

namespace Component

variable {State : Type u} {Other : Type u} {Call : Type v} {Answer : Type w}

def answers (component : Component State Call Answer) : State → List Call → List Answer
  | _, [] => []
  | state, call :: rest =>
      (component.respond state call).2 :: component.answers (component.respond state call).1 rest

/-- Every call of a history satisfies `condition` in the state it is made in. -/
def Meets (component : Component State Call Answer) (condition : State → Call → Prop) :
    State → List Call → Prop
  | _, [] => True
  | state, call :: rest =>
      condition state call ∧ component.Meets condition (component.respond state call).1 rest

variable {first : Component State Call Answer} {second : Component Other Call Answer}
  {condition : State → Call → Prop} {related : State → Other → Prop} {state : State} {other : Other}

theorem answers_eq
    (simulates : ∀ state other call, related state other → condition state call →
      (first.respond state call).2 = (second.respond other call).2 ∧
        related (first.respond state call).1 (second.respond other call).1)
    {calls : List Call} (begins : related state other) (meets : first.Meets condition state calls) :
    first.answers state calls = second.answers other calls := by
  induction calls generalizing state other with
  | nil => rfl
  | cons call rest inductive_step =>
      obtain ⟨holds, later⟩ := meets
      obtain ⟨alike, onward⟩ := simulates state other call begins holds
      unfold answers
      rw [alike]
      exact congrArg _ (inductive_step onward later)

end Component

end Dosm.Base
