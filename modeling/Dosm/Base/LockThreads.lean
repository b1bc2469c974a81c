import Dosm.Base.Transition

namespace Dosm.LockThreads

open Transition

/-! Threads that share one value and one lock without re-entry.

A thread is the tree of what it does next. Its critical sections are well
bracketed when it never acquires the lock inside one and always leaves it
within a fixed number of its own instructions. A program may be bracketed only
on the readings some `excluded` predicate does not rule out; the results then
cover the runs that never take an excluded reading.
-/

inductive Code (Shared Result : Type) where
  | done (result : Result)
  | acquire (next : Code Shared Result)
  | release (next : Code Shared Result)
  | read (next : Shared → Code Shared Result)
  | write (update : Shared → Shared) (next : Code Shared Result)
  | spawn (child next : Code Shared Result)

structure Threads (Shared Result : Type) where
  shared : Shared
  holder : Option Nat
  threads : List (Code Shared Result)

inductive Label (Call : Type) where
  | start (call : Call)
  | step (thread : Nat)

def Label.isStepOf {Call : Type} (thread : Nat) : Label Call → Bool
  | .start _ => false
  | .step other => other == thread

variable {Shared Result Call : Type}

namespace Threads

def resume (state : Threads Shared Result) (thread : Nat) (code : Code Shared Result) :
    Threads Shared Result :=
  { state with threads := state.threads.set thread code }

/-- One instruction of one thread. Acquiring blocks while anyone, the thread
itself included, holds the lock. -/
def stepThread (state : Threads Shared Result) (thread : Nat) : Option (Threads Shared Result) :=
  match state.threads[thread]? with
  | none | some (.done _) => none
  | some (.acquire next) =>
      if state.holder = none then
        some { state.resume thread next with holder := some thread }
      else none
  | some (.release next) =>
      if state.holder = some thread then
        some { state.resume thread next with holder := none }
      else none
  | some (.read next) => some (state.resume thread (next state.shared))
  | some (.write update next) =>
      some { state.resume thread next with shared := update state.shared }
  | some (.spawn child next) =>
      some { state.resume thread next with
        threads := (state.resume thread next).threads ++ [child] }

end Threads

/-- Callers may arrive at any time, in any number. -/
def system (code : Call → Code Shared Result) (shared : Shared) :
    Machine (Threads Shared Result) (Label Call) where
  initial state := state = ⟨shared, none, []⟩
  step state
    | .start call => some { state with threads := state.threads ++ [code call] }
    | .step thread => state.stepThread thread

/-- A thread whose next instruction acquires the lock it already holds. -/
def SelfWaits (state : Threads Shared Result) : Prop :=
  ∃ thread next, state.holder = some thread ∧ state.threads[thread]? = some (.acquire next)

def spend : Option Nat → Option (Option Nat)
  | none => some none
  | some 0 => none
  | some (budget + 1) => some (some budget)

variable (excluded : Code Shared Result → Shared → Prop) (bound : Nat)

/-- `budget` is `none` outside the lock, and inside it the number of
instructions left before the release. -/
def Bracketed : Option Nat → Code Shared Result → Prop
  | budget, .done _ => budget = none
  | budget, .acquire next => budget = none ∧ Bracketed (some bound) next
  | budget, .release next => budget ≠ none ∧ Bracketed none next
  | budget, .read next => ∃ left, spend budget = some left ∧
      ∀ shared, ¬ excluded (.read next) shared → Bracketed left (next shared)
  | budget, .write _ next => ∃ left, spend budget = some left ∧ Bracketed left next
  | budget, .spawn child next =>
      Bracketed none child ∧ ∃ left, spend budget = some left ∧ Bracketed left next

/-- The step does not take a reading that `excluded` rules out. -/
def Avoids (state : Threads Shared Result) : Label Call → Prop
  | .start _ => True
  | .step thread =>
      ∀ code, state.threads[thread]? = some code → ¬ excluded code state.shared

def Inside (holder : Option Nat) (thread : Nat) : Option Nat → Prop
  | none => holder ≠ some thread
  | some left => holder = some thread ∧ left ≤ bound

/-- The holder is inside a critical section it will leave; everyone else is
outside. -/
structure Sound (state : Threads Shared Result) : Prop where
  present : ∀ thread, state.holder = some thread → thread < state.threads.length
  bracketed : ∀ thread code, state.threads[thread]? = some code →
    ∃ budget, Inside bound state.holder thread budget ∧ Bracketed excluded bound budget code

def HeldFor (state : Threads Shared Result) (thread left : Nat) : Prop :=
  state.holder = some thread ∧
    ∃ code, state.threads[thread]? = some code ∧ Bracketed excluded bound (some left) code

/-! What one instruction can do. -/

inductive Moved (state : Threads Shared Result) (thread : Nat) : Threads Shared Result → Prop
  | acquire (next) (found : state.threads[thread]? = some (.acquire next))
      (free : state.holder = none) :
      Moved state thread { state.resume thread next with holder := some thread }
  | release (next) (found : state.threads[thread]? = some (.release next))
      (held : state.holder = some thread) :
      Moved state thread { state.resume thread next with holder := none }
  | read (next) (found : state.threads[thread]? = some (.read next)) :
      Moved state thread (state.resume thread (next state.shared))
  | write (update next) (found : state.threads[thread]? = some (.write update next)) :
      Moved state thread { state.resume thread next with shared := update state.shared }
  | spawn (child next) (found : state.threads[thread]? = some (.spawn child next)) :
      Moved state thread { state.resume thread next with
        threads := (state.resume thread next).threads ++ [child] }

variable {excluded bound}
variable {state after middle : Threads Shared Result} {thread other left : Nat}
  {code next : Code Shared Result} {budget : Option Nat} {label : Label Call}

theorem stepThread_moved (stepped : state.stepThread thread = some after) :
    Moved state thread after := by
  unfold Threads.stepThread at stepped
  split at stepped
  · cases stepped
  · cases stepped
  · rename_i next found
    split at stepped
    · rename_i free
      cases stepped
      exact .acquire next found free
    · cases stepped
  · rename_i next found
    split at stepped
    · rename_i held
      cases stepped
      exact .release next found held
    · cases stepped
  · rename_i next found
    cases stepped
    exact .read next found
  · rename_i update next found
    cases stepped
    exact .write update next found
  · rename_i child next found
    cases stepped
    exact .spawn child next found

@[simp] theorem resume_length :
    (state.resume thread code).threads.length = state.threads.length := List.length_set

theorem resume_self (found : state.threads[thread]? = some code) :
    (state.resume thread next).threads[thread]? = some next :=
  List.getElem?_set_self (List.getElem?_eq_some_iff.mp found).1

theorem resume_other (different : thread ≠ other) :
    (state.resume thread next).threads[other]? = state.threads[other]? :=
  List.getElem?_set_ne different

theorem resume_found (found : (state.resume thread next).threads[other]? = some code) :
    (other = thread ∧ code = next) ∨ (thread ≠ other ∧ state.threads[other]? = some code) := by
  by_cases same : thread = other
  · subst same
    have bounded := (List.getElem?_eq_some_iff.mp found).1
    rw [resume_length] at bounded
    rw [resume_self (List.getElem?_eq_getElem bounded)] at found
    exact .inl ⟨rfl, (Option.some.inj found).symm⟩
  · rw [resume_other same] at found
    exact .inr ⟨same, found⟩

theorem spend_inside {holder : Option Nat} {leftover : Option Nat}
    (inside : Inside bound holder thread budget) (spent : spend budget = some leftover) :
    Inside bound holder thread leftover := by
  match budget, inside with
  | none, outside =>
      cases spent
      exact outside
  | some (budget + 1), ⟨held, bounded⟩ =>
      cases spent
      exact ⟨held, by omega⟩

theorem inside_held {holder : Option Nat} (held : holder = some thread)
    (inside : Inside bound holder thread budget) : ∃ left, budget = some left ∧ left ≤ bound := by
  match budget, inside with
  | none, outside => exact absurd held outside
  | some left, ⟨_, bounded⟩ => exact ⟨left, rfl, bounded⟩

theorem inside_free {holder : Option Nat} (free : holder ≠ some thread)
    (inside : Inside bound holder thread budget) : budget = none := by
  match budget, inside with
  | none, _ => rfl
  | some _, ⟨held, _⟩ => exact absurd held free

/-! Soundness is an invariant of the runs that avoid the excluded readings. -/

namespace Sound

theorem initial (shared : Shared) :
    Sound excluded bound (⟨shared, none, []⟩ : Threads Shared Result) where
  present thread held := by cases held
  bracketed thread code found := by simp at found

theorem append (sound : Sound excluded bound state) (outside : Bracketed excluded bound none code) :
    Sound excluded bound { state with threads := state.threads ++ [code] } where
  present thread held := by
    have bounded := sound.present thread held
    simp only [List.length_append, List.length_singleton]
    omega
  bracketed thread other found := by
    simp only [List.getElem?_append] at found
    split at found
    · exact sound.bracketed thread other found
    · rename_i beyond
      have fresh : state.holder ≠ some thread := fun held => beyond (sound.present thread held)
      have last : other = code := by
        have inside := (List.getElem?_eq_some_iff.mp found).1
        have zero : thread - state.threads.length = 0 := by simpa using inside
        rw [zero] at found
        exact (Option.some.inj found).symm
      exact ⟨none, fresh, last ▸ outside⟩

theorem resume (sound : Sound excluded bound state) (found : state.threads[thread]? = some code)
    (continues : ∀ budget, Inside bound state.holder thread budget →
      Bracketed excluded bound budget code →
      ∃ leftover, spend budget = some leftover ∧ Bracketed excluded bound leftover next) :
    Sound excluded bound (state.resume thread next) where
  present other held := by
    rw [resume_length]
    exact sound.present other held
  bracketed other current currentFound := by
    rcases resume_found currentFound with ⟨same, new⟩ | ⟨_, kept⟩
    · subst same new
      obtain ⟨budget, inside, bracketed⟩ := sound.bracketed other code found
      obtain ⟨leftover, spent, rest⟩ := continues budget inside bracketed
      exact ⟨leftover, spend_inside inside spent, rest⟩
    · exact sound.bracketed other current kept

theorem share (sound : Sound excluded bound state) (shared : Shared) :
    Sound excluded bound { state with shared := shared } where
  present := sound.present
  bracketed := sound.bracketed

theorem acquire (sound : Sound excluded bound state)
    (found : state.threads[thread]? = some (.acquire next)) (free : state.holder = none) :
    Sound excluded bound { state.resume thread next with holder := some thread } where
  present other held := by
    cases held
    rw [resume_length]
    exact (List.getElem?_eq_some_iff.mp found).1
  bracketed other current currentFound := by
    rcases resume_found currentFound with ⟨same, new⟩ | ⟨different, kept⟩
    · subst same new
      obtain ⟨_, _, bracketed⟩ := sound.bracketed other _ found
      exact ⟨some bound, ⟨rfl, Nat.le_refl bound⟩, bracketed.2⟩
    · obtain ⟨budget, inside, bracketed⟩ := sound.bracketed other current kept
      have outside : budget = none := inside_free (by simp [free]) inside
      subst outside
      exact ⟨none, fun held => different (Option.some.inj held), bracketed⟩

theorem release (sound : Sound excluded bound state)
    (found : state.threads[thread]? = some (.release next)) (held : state.holder = some thread) :
    Sound excluded bound { state.resume thread next with holder := none } where
  present other heldBy := by cases heldBy
  bracketed other current currentFound := by
    have freed : (none : Option Nat) ≠ some other := nofun
    rcases resume_found currentFound with ⟨same, new⟩ | ⟨different, kept⟩
    · subst same new
      obtain ⟨_, _, bracketed⟩ := sound.bracketed other _ found
      exact ⟨none, freed, bracketed.2⟩
    · obtain ⟨budget, inside, bracketed⟩ := sound.bracketed other current kept
      have outside : budget = none := by
        refine inside_free ?_ inside
        intro otherHeld
        exact different (Option.some.inj (held.symm.trans otherHeld))
      subst outside
      exact ⟨none, freed, bracketed⟩

theorem step (sound : Sound excluded bound state)
    (avoids : ∀ code, state.threads[thread]? = some code → ¬ excluded code state.shared)
    (stepped : state.stepThread thread = some after) : Sound excluded bound after := by
  cases stepThread_moved stepped with
  | acquire next found free => exact sound.acquire found free
  | release next found held => exact sound.release found held
  | read next found =>
      refine sound.resume found ?_
      rintro budget _ ⟨leftover, spent, rest⟩
      exact ⟨leftover, spent, rest state.shared (avoids _ found)⟩
  | write update next found =>
      refine (sound.resume found ?_).share (update state.shared)
      rintro budget _ bracketed
      exact bracketed
  | spawn child next found =>
      obtain ⟨_, _, childOutside, _⟩ := sound.bracketed thread _ found
      refine (sound.resume found ?_).append childOutside
      rintro budget _ ⟨_, bracketed⟩
      exact bracketed

theorem not_selfWaits (sound : Sound excluded bound state) : ¬ SelfWaits state := by
  rintro ⟨thread, next, held, found⟩
  obtain ⟨budget, inside, bracketed⟩ := sound.bracketed thread _ found
  obtain ⟨left, budgetLeft, _⟩ := inside_held held inside
  rw [bracketed.1] at budgetLeft
  cases budgetLeft

theorem heldFor (sound : Sound excluded bound state) (held : state.holder = some thread) :
    ∃ left, left ≤ bound ∧ HeldFor excluded bound state thread left := by
  have found := List.getElem?_eq_getElem (sound.present thread held)
  obtain ⟨budget, inside, bracketed⟩ := sound.bracketed thread _ found
  obtain ⟨left, budgetLeft, bounded⟩ := inside_held held inside
  subst budgetLeft
  exact ⟨left, bounded, held, _, found, bracketed⟩

end Sound

/-! The holder can always move, and leaves within its budget. -/

theorem heldFor_enabled (heldFor : HeldFor excluded bound state thread left) :
    (state.stepThread thread).isSome := by
  obtain ⟨held, code, found, bracketed⟩ := heldFor
  unfold Threads.stepThread
  cases code with
  | done result => cases bracketed
  | acquire next => cases bracketed.1
  | release next => simp [found, held]
  | read next => simp [found]
  | write update next => simp [found]
  | spawn child next => simp [found]

theorem heldFor_self (heldFor : HeldFor excluded bound state thread left)
    (avoids : ∀ code, state.threads[thread]? = some code → ¬ excluded code state.shared)
    (stepped : state.stepThread thread = some after) :
    after.holder = none ∨ ∃ fewer, left = fewer + 1 ∧ HeldFor excluded bound after thread fewer := by
  obtain ⟨held, code, found, bracketed⟩ := heldFor
  have spendOne : ∀ {leftover}, spend (some left) = some leftover →
      ∃ fewer, left = fewer + 1 ∧ leftover = some fewer := by
    intro leftover spent
    cases left with
    | zero => cases spent
    | succ fewer => exact ⟨fewer, rfl, (Option.some.inj spent).symm⟩
  cases stepThread_moved stepped with
  | acquire next _ free => cases held.symm.trans free
  | release next _ _ => exact .inl rfl
  | read next nextFound =>
      cases Option.some.inj (found.symm.trans nextFound)
      obtain ⟨leftover, spent, rest⟩ := bracketed
      obtain ⟨fewer, one, rfl⟩ := spendOne spent
      exact .inr ⟨fewer, one, held, _, resume_self found, rest _ (avoids _ found)⟩
  | write update next nextFound =>
      cases Option.some.inj (found.symm.trans nextFound)
      obtain ⟨leftover, spent, rest⟩ := bracketed
      obtain ⟨fewer, one, rfl⟩ := spendOne spent
      exact .inr ⟨fewer, one, held, _, resume_self found, rest⟩
  | spawn child next nextFound =>
      cases Option.some.inj (found.symm.trans nextFound)
      obtain ⟨_, leftover, spent, rest⟩ := bracketed
      obtain ⟨fewer, one, rfl⟩ := spendOne spent
      refine .inr ⟨fewer, one, held, next, ?_, rest⟩
      rw [List.getElem?_append_left (List.getElem?_eq_some_iff.mp (resume_self found)).1]
      exact resume_self found

theorem other_step (held : state.holder = some thread) (found : state.threads[thread]? = some code)
    (different : other ≠ thread) (stepped : state.stepThread other = some after) :
    after.holder = some thread ∧ after.threads[thread]? = some code := by
  have kept : ∀ next, (state.resume other next).threads[thread]? = some code := by
    intro next
    rw [resume_other different, found]
  cases stepThread_moved stepped with
  | acquire next _ free => cases held.symm.trans free
  | release next _ otherHeld => exact absurd (Option.some.inj (otherHeld.symm.trans held)) different
  | read next _ => exact ⟨held, kept _⟩
  | write update next _ => exact ⟨held, kept _⟩
  | spawn child next _ =>
      refine ⟨held, ?_⟩
      rw [List.getElem?_append_left (List.getElem?_eq_some_iff.mp (kept next)).1]
      exact kept next

theorem start_kept {added : Code Shared Result} (found : state.threads[thread]? = some code) :
    (state.threads ++ [added])[thread]? = some code := by
  rw [List.getElem?_append_left (List.getElem?_eq_some_iff.mp found).1, found]

theorem SelfWaits.step {program : Call → Code Shared Result} {shared : Shared}
    (waits : SelfWaits state) (stepped : (system program shared).step state label = some after) :
    SelfWaits after := by
  obtain ⟨thread, next, held, found⟩ := waits
  cases label with
  | start call =>
      cases stepped
      exact ⟨thread, next, held, start_kept found⟩
  | step other =>
      by_cases same : other = thread
      · subst same
        cases stepThread_moved stepped with
        | acquire _ _ free => cases held.symm.trans free
        | release _ nextFound _ => cases found.symm.trans nextFound
        | read _ nextFound => cases found.symm.trans nextFound
        | write _ _ nextFound => cases found.symm.trans nextFound
        | spawn _ _ nextFound => cases found.symm.trans nextFound
      · obtain ⟨stillHeld, stillFound⟩ := other_step held found same stepped
        exact ⟨thread, next, stillHeld, stillFound⟩

section Runs

variable (program : Call → Code Shared Result) (shared : Shared)

theorem sound_step (bracketed : ∀ call, Bracketed excluded bound none (program call))
    (avoids : Avoids excluded state label)
    (stepped : (system program shared).step state label = some after)
    (sound : Sound excluded bound state) : Sound excluded bound after := by
  cases label with
  | start call =>
      cases stepped
      exact sound.append (bracketed call)
  | step thread => exact sound.step avoids stepped

theorem sound_run {labels : List (Label Call)}
    (bracketed : ∀ call, Bracketed excluded bound none (program call))
    (completed : (system program shared).run state labels = some after)
    (avoids : (system program shared).Meets (Avoids excluded) state labels)
    (sound : Sound excluded bound state) : Sound excluded bound after :=
  Machine.run_preserves (fun _ _ _ meets stepped => sound_step program shared bracketed meets stepped)
    completed avoids sound

theorem not_selfWaits_iff {labels : List (Label Call)}
    (bracketed : ∀ call, Bracketed excluded bound none (program call))
    (traps : ∀ state thread after code, Sound excluded bound state →
      state.threads[thread]? = some code → excluded code state.shared →
      state.stepThread thread = some after → SelfWaits after)
    (completed : (system program shared).run state labels = some after)
    (sound : Sound excluded bound state) :
    ¬ SelfWaits after ↔ (system program shared).Meets (Avoids excluded) state labels := by
  constructor
  · intro free
    induction labels generalizing state with
    | nil => trivial
    | cons label rest ih =>
        obtain ⟨next, stepped, remaining⟩ := Machine.run_cons_some completed
        have stays : ¬ SelfWaits next := fun waits => free <|
          Machine.run_invariant (fun _ _ _ stepped waits => SelfWaits.step waits stepped)
            remaining waits
        have avoids : Avoids excluded state label := by
          cases label with
          | start call => trivial
          | step thread =>
              intro code found ruled
              exact stays (traps state thread next code sound found ruled stepped)
        exact Machine.meets_cons stepped avoids
          (ih remaining (sound_step program shared bracketed avoids stepped sound))
  · intro avoids
    exact (sound_run program shared bracketed completed avoids sound).not_selfWaits

/-- A run in which the holder takes more steps than its budget frees the lock. -/
theorem heldFor_released {labels : List (Label Call)}
    (heldFor : HeldFor excluded bound state thread left)
    (completed : (system program shared).run state labels = some after)
    (avoids : (system program shared).Meets (Avoids excluded) state labels)
    (enough : left < labels.countP (Label.isStepOf thread)) :
    ∃ first second middle, labels = first ++ second ∧
      (system program shared).run state first = some middle ∧ middle.holder = none := by
  induction labels generalizing state left with
  | nil => cases enough
  | cons label rest ih =>
      obtain ⟨next, stepped, remaining⟩ := Machine.run_cons_some completed
      have continued : ∀ fewer, HeldFor excluded bound next thread fewer →
          fewer < rest.countP (Label.isStepOf thread) →
          ∃ first second middle, label :: rest = first ++ second ∧
            (system program shared).run state first = some middle ∧ middle.holder = none := by
        intro fewer nextHeld nextEnough
        obtain ⟨first, second, middle, split, reached, free⟩ :=
          ih nextHeld remaining (avoids.2 next stepped) nextEnough
        refine ⟨label :: first, second, middle, by rw [split]; rfl, ?_, free⟩
        rw [Machine.run_cons, stepped]
        exact reached
      cases label with
      | start call =>
          obtain ⟨held, code, found, bracketed⟩ := heldFor
          cases stepped
          exact continued left ⟨held, code, start_kept found, bracketed⟩
            (by simpa [Label.isStepOf] using enough)
      | step other =>
          by_cases same : other = thread
          · subst same
            rcases heldFor_self heldFor avoids.1 stepped with free | ⟨fewer, one, nextHeld⟩
            · refine ⟨[.step other], rest, next, rfl, ?_, free⟩
              rw [Machine.run_cons, stepped]
              rfl
            · refine continued fewer nextHeld ?_
              have counted : (Label.step other :: rest).countP (Label.isStepOf other) =
                  rest.countP (Label.isStepOf other) + 1 := by
                simp [Label.isStepOf]
              omega
          · obtain ⟨held, code, found, bracketed⟩ := heldFor
            obtain ⟨stillHeld, stillFound⟩ := other_step held found same stepped
            exact continued left ⟨stillHeld, code, stillFound, bracketed⟩
              (by simpa [Label.isStepOf, same] using enough)

end Runs

end Dosm.LockThreads
