namespace Dosm.Transition

universe u v

/-! Systems that take one labelled step at a time.

A label carries every choice a step makes (which thread moves, what the
environment answers), so a step is a partial function and a run is a list of
labels. Properties of whole runs are reduced here, once, to properties of one
step.
-/

structure Machine (State : Type u) (Label : Type v) where
  initial : State → Prop
  step : State → Label → Option State

namespace Machine

variable {State : Type u} {Label : Type v} (machine : Machine State Label)
variable {state middle after : State} {label : Label} {labels first second : List Label}

/-- The state after a list of labels, when each of them is enabled in turn. -/
def run : State → List Label → Option State
  | state, [] => some state
  | state, label :: rest => (machine.step state label).bind fun next => run next rest

/-- Every step of a run satisfies `condition` in the state it is taken from. -/
def Meets (condition : State → Label → Prop) : State → List Label → Prop
  | _, [] => True
  | state, label :: rest =>
      condition state label ∧ ∀ next, machine.step state label = some next → Meets condition next rest

def Reachable (state : State) : Prop :=
  ∃ start labels, machine.initial start ∧ machine.run start labels = some state

/-- Reachable by a run whose steps all satisfy `condition`. -/
def ReachableUnder (condition : State → Label → Prop) (state : State) : Prop :=
  ∃ start labels, machine.initial start ∧ machine.run start labels = some state ∧
    machine.Meets condition start labels

variable {machine} {condition : State → Label → Prop}

@[simp] theorem run_nil : machine.run state [] = some state := rfl

theorem run_cons : machine.run state (label :: labels) =
    (machine.step state label).bind fun next => machine.run next labels := rfl

theorem run_cons_some (completed : machine.run state (label :: labels) = some after) :
    ∃ next, machine.step state label = some next ∧ machine.run next labels = some after := by
  simpa only [run_cons, Option.bind_eq_some_iff] using completed

theorem run_append : machine.run state (first ++ second) =
    (machine.run state first).bind fun middle => machine.run middle second := by
  induction first generalizing state with
  | nil => rfl
  | cons label rest ih =>
      simp only [List.cons_append, run_cons]
      cases machine.step state label with
      | none => rfl
      | some next => exact ih

theorem run_snoc (completed : machine.run state labels = some middle)
    (stepped : machine.step middle label = some after) :
    machine.run state (labels ++ [label]) = some after := by
  simp [run_append, completed, run_cons, stepped]

theorem meets_cons (stepped : machine.step state label = some after)
    (holds : condition state label) (rest : machine.Meets condition after labels) :
    machine.Meets condition state (label :: labels) := by
  refine ⟨holds, ?_⟩
  intro next nextStep
  cases Option.some.inj (stepped.symm.trans nextStep)
  exact rest

theorem meets_append (completed : machine.run state first = some middle)
    (firstMeets : machine.Meets condition state first)
    (secondMeets : machine.Meets condition middle second) :
    machine.Meets condition state (first ++ second) := by
  induction first generalizing state with
  | nil =>
      cases completed
      exact secondMeets
  | cons label rest ih =>
      obtain ⟨next, stepped, remaining⟩ := run_cons_some completed
      exact meets_cons stepped firstMeets.1 (ih remaining (firstMeets.2 next stepped))

theorem ReachableUnder.extend (reached : machine.ReachableUnder condition state)
    (meets : condition state label) (stepped : machine.step state label = some after) :
    machine.ReachableUnder condition after := by
  obtain ⟨start, labels, begins, completed, labelsMeet⟩ := reached
  refine ⟨start, labels ++ [label], begins, run_snoc completed stepped, ?_⟩
  exact meets_append completed labelsMeet ⟨meets, fun _ _ => trivial⟩

theorem run_preserves {invariant : State → Prop}
    (preserved : ∀ state label after, condition state label →
      machine.step state label = some after → invariant state → invariant after)
    (completed : machine.run state labels = some after)
    (meets : machine.Meets condition state labels) (holds : invariant state) :
    invariant after := by
  induction labels generalizing state with
  | nil =>
      cases completed
      exact holds
  | cons label rest ih =>
      obtain ⟨next, stepped, remaining⟩ := run_cons_some completed
      exact ih remaining (meets.2 next stepped) (preserved state label next meets.1 stepped holds)

theorem meets_of_forall (everywhere : ∀ state label, condition state label) :
    machine.Meets condition state labels := by
  induction labels generalizing state with
  | nil => trivial
  | cons label rest ih => exact ⟨everywhere state label, fun _ _ => ih⟩

theorem ReachableUnder.invariant {invariant : State → Prop}
    (reached : machine.ReachableUnder condition state)
    (starts : ∀ start, machine.initial start → invariant start)
    (preserved : ∀ state label after, condition state label →
      machine.step state label = some after → invariant state → invariant after) :
    invariant state := by
  obtain ⟨start, labels, begins, completed, meets⟩ := reached
  exact run_preserves preserved completed meets (starts start begins)

theorem run_invariant {invariant : State → Prop}
    (preserved : ∀ state label after,
      machine.step state label = some after → invariant state → invariant after)
    (completed : machine.run state labels = some after) (holds : invariant state) :
    invariant after := by
  have meets : machine.Meets (fun _ _ => True) state labels := meets_of_forall fun _ _ => trivial
  exact run_preserves (fun state label after _ => preserved state label after)
    completed meets holds

theorem Reachable.invariant {invariant : State → Prop}
    (reached : machine.Reachable state)
    (starts : ∀ start, machine.initial start → invariant start)
    (preserved : ∀ state label after,
      machine.step state label = some after → invariant state → invariant after) :
    invariant state := by
  obtain ⟨start, labels, begins, completed⟩ := reached
  exact run_invariant preserved completed (starts start begins)

end Machine

end Dosm.Transition
