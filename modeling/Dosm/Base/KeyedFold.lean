import Mathlib.Data.List.Nodup

namespace Dosm

universe u v

/-! Tasks that each concern one key, run one after the other.

A task may use what its own key holds and must leave every other key as it is.
Then each key ends with what its own task makes of the first state.
-/

section KeyedFold

variable {State : Type u} {Key : Type v} {invariant : State → Prop}
  {same : Key → State → State → Prop} {state : State}

/-- The task concerns the key and no other. -/
structure ConcernsOnly (invariant : State → Prop) (same : Key → State → State → Prop) (key : Key)
    (task : State → State) : Prop where
  keeps : ∀ state, invariant state → invariant (task state)
  others : ∀ state, invariant state → ∀ other ≠ key, same other (task state) state
  own : ∀ first second, same key first second → same key (task first) (task second)

def runTasks (state : State) (tasks : List (Key × (State → State))) : State :=
  tasks.foldl (fun current task => task.2 current) state

/-- What a run leaves of the keys it has a task for, and of those it has none for. -/
structure TasksRan (invariant : State → Prop) (same : Key → State → State → Prop) (before : State)
    (tasks : List (Key × (State → State))) (after : State) : Prop where
  kept : invariant after
  others : ∀ key ∉ tasks.map Prod.fst, same key after before
  each : ∀ task ∈ tasks, same task.1 after (task.2 before)

theorem runTasks_spec (refl : ∀ key state, same key state state)
    (trans : ∀ key first second third, same key first second → same key second third → same key first third)
    {tasks : List (Key × (State → State))} (distinct : (tasks.map Prod.fst).Nodup)
    (concerns : ∀ task ∈ tasks, ConcernsOnly invariant same task.1 task.2) (holds : invariant state) :
    TasksRan invariant same state tasks (runTasks state tasks) := by
  induction tasks generalizing state with
  | nil => exact ⟨holds, fun key _ => refl key state, fun _ member => by cases member⟩
  | cons task rest ih =>
      rw [List.map_cons, List.nodup_cons] at distinct
      have first := concerns task List.mem_cons_self
      have ran := ih distinct.2 (fun later member => concerns later (List.mem_cons_of_mem task member))
        (first.keeps state holds)
      refine ⟨ran.kept, fun key absent => ?_, fun later member => ?_⟩
      · rw [List.map_cons, List.mem_cons, not_or] at absent
        exact trans key _ _ _ (ran.others key absent.2) (first.others state holds key absent.1)
      · rcases List.mem_cons.mp member with rfl | member
        · exact ran.others later.1 distinct.1
        · have other : later.1 ≠ task.1 := by
            intro equal
            exact distinct.1 (equal ▸ List.mem_map_of_mem member)
          have begun := first.others state holds later.1 other
          have own := (concerns later (List.mem_cons_of_mem task member)).own _ _ begun
          exact trans later.1 _ _ _ (ran.each later member) own

end KeyedFold

end Dosm
