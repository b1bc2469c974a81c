import Dosm.Base.Transition
import Mathlib.Logic.Function.Basic

namespace Dosm.WriteLock

open Transition

universe u

/-! Tasks of one event loop over a database with a single writer.

A session only notes its writes until they are flushed; flushed writes hold the
database's one write lock until the session commits or rolls back. A task gives
the loop away when it suspends and gets it back when it resumes. While it is
suspended, a worker thread may go on for it, with sessions of its own or with
those of the task.
-/

inductive Session where
  | task (number : Nat)
  | worker (number : Nat)
  deriving DecidableEq

inductive Event where
  | write (session : Session)
  | flush (session : Session)
  | commit (session : Session)
  | rollback (session : Session)
  /-- A write that a second session makes and commits on the caller's behalf. -/
  | setSecret
  | suspend
  | resume
  deriving DecidableEq

/-- What a task knows of its own sessions: which of them holds the lock, and
which have writes that are not flushed. -/
structure Own where
  held : Option Session := none
  dirty : List Session := []
  suspended : Bool := true
  deriving DecidableEq

namespace Own

def clean (own : Own) (session : Session) : Own :=
  { own with dirty := own.dirty.filter (· ≠ session) }

/-- No session but this one of the task is in the way. -/
def Admits (own : Own) (session : Session) : Prop := own.held = none ∨ own.held = some session

instance (own : Own) (session : Session) : Decidable (own.Admits session) :=
  inferInstanceAs (Decidable (_ ∨ _))

def Wants (own : Own) : Event → Prop
  | .flush session | .commit session => session ∈ own.dirty
  | .setSecret => True
  | _ => False

instance (own : Own) : (event : Event) → Decidable (own.Wants event)
  | .flush session | .commit session => inferInstanceAs (Decidable (session ∈ own.dirty))
  | .setSecret => inferInstanceAs (Decidable True)
  | .write _ | .rollback _ | .suspend | .resume => inferInstanceAs (Decidable False)

def step (own : Own) : Event → Option Own
  | .write session => some { own with dirty := session :: own.dirty }
  | .flush session =>
      if session ∈ own.dirty then
        if own.Admits session then some { own.clean session with held := some session } else none
      else some own
  | .commit session =>
      if session ∈ own.dirty then
        if own.Admits session then some { own.clean session with held := none } else none
      else some { own with held := if own.held = some session then none else own.held }
  | .rollback session =>
      some { own.clean session with held := if own.held = some session then none else own.held }
  | .setSecret => if own.held = none then some own else none
  | .suspend => if own.suspended then none else some { own with suspended := true }
  | .resume => if own.suspended then some { own with suspended := false } else none

/-- The task is suspended and yet one of its own sessions holds the lock. -/
def Sleeps (own : Own) : Prop := own.suspended = true ∧ ∃ number, own.held = some (.task number)

def sleeps (own : Own) : Bool :=
  own.suspended && match own.held with
    | some (.task _) => true
    | _ => false

theorem sleeps_iff {own : Own} : own.sleeps = true ↔ own.Sleeps := by
  unfold sleeps Sleeps
  rw [Bool.and_eq_true]
  refine and_congr_right fun _ => ?_
  split
  · rename_i number held
    exact ⟨fun _ => ⟨number, held⟩, fun _ => rfl⟩
  · rename_i unlike
    refine ⟨nofun, ?_⟩
    rintro ⟨number, held⟩
    exact absurd held (unlike number)

/-- With these events ahead the task breaks the discipline now. -/
def Breaks (own : Own) (ahead : List Event) : Prop :=
  own.Sleeps ∨ own.held ≠ none ∧ ahead.head? = some .setSecret

def breaks (own : Own) (ahead : List Event) : Bool :=
  own.sleeps || own.held.isSome && ahead.head? == some .setSecret

theorem breaks_iff {own : Own} {ahead : List Event} : own.breaks ahead = true ↔ own.Breaks ahead := by
  simp only [breaks, Breaks, Bool.or_eq_true, sleeps_iff, Bool.and_eq_true, Option.isSome_iff_ne_none,
    beq_iff_eq]

/-- No event of the list finds the task breaking the discipline. A task that
waits for its own other session goes no further. -/
def disciplined (own : Own) : List Event → Bool
  | [] => !own.breaks []
  | event :: rest => !own.breaks (event :: rest) &&
      match own.step event with
      | none => true
      | some next => next.disciplined rest

def through (own : Own) : List Event → Option Own
  | [] => some own
  | event :: rest => if own.breaks (event :: rest) then none else
      (own.step event).bind fun next => next.through rest

variable {own next after : Own} {first second rest ahead : List Event} {event : Event}

@[simp] theorem through_nil : own.through [] = some own := rfl

theorem through_append : own.through (first ++ second) =
    (own.through first).bind fun middle => middle.through second := by
  induction first generalizing own with
  | nil => rfl
  | cons event rest ih =>
      have same : own.breaks (event :: (rest ++ second)) = own.breaks (event :: rest) := rfl
      simp only [List.cons_append, through, same]
      split
      · rfl
      · cases own.step event with
        | none => rfl
        | some next => exact ih

theorem disciplined_append (passed : own.through first = some after) :
    own.disciplined (first ++ second) = after.disciplined second := by
  induction first generalizing own with
  | nil =>
      cases passed
      rfl
  | cons event rest ih =>
      have same : own.breaks (event :: (rest ++ second)) = own.breaks (event :: rest) := rfl
      simp only [through] at passed
      split at passed
      · cases passed
      · rename_i sound
        obtain ⟨next, stepped, remaining⟩ := Option.bind_eq_some_iff.mp passed
        simp only [List.cons_append, disciplined, same, stepped, sound, ih remaining]
        rfl

theorem disciplined_sound (holds : own.disciplined ahead = true) : ¬ own.Breaks ahead := by
  rw [← breaks_iff, Bool.not_eq_true]
  cases ahead with
  | nil => simpa only [disciplined, Bool.not_eq_true'] using holds
  | cons event rest =>
      simp only [disciplined, Bool.and_eq_true, Bool.not_eq_true'] at holds
      exact holds.1

theorem disciplined_of_sleeps (sleeps : own.sleeps = true) : own.disciplined ahead = false := by
  cases ahead <;> simp [disciplined, breaks, sleeps]

theorem disciplined_step (holds : own.disciplined (event :: rest) = true)
    (stepped : own.step event = some next) : next.disciplined rest = true := by
  simp only [disciplined, stepped, Bool.and_eq_true] at holds
  exact holds.2

end Own

/-! The server: any number of tasks, one loop and one lock. -/

structure Server (Task : Type u) where
  ahead : Task → List Event
  own : Task → Own
  holder : Option Task
  running : Option Task

inductive Move where
  /-- The task's next event happens. -/
  | go
  /-- An exception ends the task: its sessions are rolled back and closed. This
  is how a cancelled wait, a refused commit and a lock that stays busy end. -/
  | unwind

namespace Server

variable {Task : Type u} [DecidableEq Task]

def put (server : Server Task) (task : Task) (rest : List Event) (own : Own) : Server Task where
  ahead := Function.update server.ahead task rest
  own := Function.update server.own task own
  holder := if own.held.isSome then some task else if server.holder = some task then none else server.holder
  running := if own.suspended then if server.running = some task then none else server.running else some task

/-- The lock is free for the task, unless it does not want it; and to resume it
needs the loop. -/
def Allows (server : Server Task) (task : Task) (event : Event) : Prop :=
  (server.holder = none ∨ server.holder = some task ∨ ¬ (server.own task).Wants event) ∧
    (event = .resume → server.running = none)

instance (server : Server Task) (task : Task) (event : Event) : Decidable (server.Allows task event) :=
  inferInstanceAs (Decidable (_ ∧ (_ → _)))

def step (server : Server Task) (task : Task) : Move → Option (Server Task)
  | .unwind => some (server.put task [] {})
  | .go => match server.ahead task with
    | [] => none
    | event :: rest =>
        if server.Allows task event then ((server.own task).step event).map (server.put task rest) else none

/-- No task is suspended or about to write a secret while it holds the lock. -/
def SingleWriter (server : Server Task) : Prop :=
  ∀ task, ¬ (server.own task).Breaks (server.ahead task)

end Server

/-- Each task starts suspended, with nothing held, whenever the loop gets to it. -/
def machine {Task : Type u} [DecidableEq Task] (events : Task → List Event) :
    Machine (Server Task) (Task × Move) where
  initial server := server = ⟨events, fun _ => {}, none, none⟩
  step server label := server.step label.1 label.2

variable {Task : Type u} [DecidableEq Task] {events : Task → List Event} {server after : Server Task}
  {task other : Task} {move : Move} {event : Event} {rest : List Event} {own next : Own}

namespace Server

@[simp] theorem put_ahead : (server.put task rest own).ahead task = rest := Function.update_self ..

@[simp] theorem put_own : (server.put task rest own).own task = own := Function.update_self ..

theorem put_ahead_of_ne (different : other ≠ task) :
    (server.put task rest own).ahead other = server.ahead other := Function.update_of_ne different ..

theorem put_own_of_ne (different : other ≠ task) :
    (server.put task rest own).own other = server.own other := Function.update_of_ne different ..

theorem step_go (coming : server.ahead task = event :: rest) (allowed : server.Allows task event)
    (stepped : (server.own task).step event = some next) :
    server.step task .go = some (server.put task rest next) := by
  simp only [step, coming, if_pos allowed, stepped, Option.map_some]

theorem step_cases (moved : server.step task move = some after) :
    after = server.put task [] {} ∨ ∃ event rest next, server.ahead task = event :: rest ∧
      (server.own task).step event = some next ∧ after = server.put task rest next := by
  cases move with
  | unwind => exact .inl (Option.some.inj moved).symm
  | go =>
      simp only [step] at moved
      cases coming : server.ahead task with
      | nil => simp [coming] at moved
      | cons event rest =>
          rw [coming] at moved
          split at moved
          · cases moved
          · rename_i first later same
            cases same
            split at moved
            · obtain ⟨next, stepped, rfl⟩ := Option.map_eq_some_iff.mp moved
              exact .inr ⟨event, rest, next, rfl, stepped, rfl⟩
            · cases moved

def Disciplined (server : Server Task) : Prop :=
  ∀ task, (server.own task).disciplined (server.ahead task) = true

theorem Disciplined.step (holds : server.Disciplined) (moved : server.step task move = some after) :
    after.Disciplined := by
  intro other
  by_cases same : other = task
  · subst same
    rcases step_cases moved with rfl | ⟨event, rest, next, coming, stepped, rfl⟩
    · rw [put_own, put_ahead]
      rfl
    · rw [put_own, put_ahead]
      have before := holds other
      rw [coming] at before
      exact Own.disciplined_step before stepped
  · rcases step_cases moved with rfl | ⟨event, rest, next, -, -, rfl⟩
    · rw [put_own_of_ne same, put_ahead_of_ne same]
      exact holds other
    · rw [put_own_of_ne same, put_ahead_of_ne same]
      exact holds other

def Waits (server : Server Task) (task other : Task) : Prop :=
  server.holder = some other ∧ other ≠ task ∧
    ∃ event rest, server.ahead task = event :: rest ∧ (server.own task).Wants event

/-- Somebody waits, until the busy timeout, for a task that sleeps. -/
def Stuck (server : Server Task) : Prop :=
  ∃ task other, server.Waits task other ∧ (server.own other).Sleeps

omit [DecidableEq Task] in
theorem SingleWriter.not_stuck (sound : server.SingleWriter) : ¬ server.Stuck := by
  rintro ⟨task, other, -, sleeps⟩
  exact sound other (.inl sleeps)

structure Alone (server : Server Task) (task : Task) : Prop where
  lock : server.holder = if (server.own task).held.isSome then some task else none
  loop : server.running = if (server.own task).suspended then none else some task

namespace Alone

variable (alone : server.Alone task)

include alone

omit [DecidableEq Task] in
theorem allows (stepped : (server.own task).step event = some next) : server.Allows task event := by
  refine ⟨?_, ?_⟩
  · rw [alone.lock]
    split
    · exact .inr (.inl rfl)
    · exact .inl rfl
  · rintro rfl
    simp only [Own.step] at stepped
    split at stepped
    · rename_i suspended
      rw [alone.loop, if_pos suspended]
    · cases stepped

theorem put : (server.put task rest next).Alone task := by
  refine ⟨?_, ?_⟩
  · have lock := alone.lock
    rw [put_own]
    simp only [Server.put]
    split
    · rfl
    · split
      · rfl
      · rename_i foreign
        rw [lock] at foreign ⊢
        split at foreign
        · exact absurd rfl foreign
        · rename_i unheld
          rw [if_neg unheld]
  · have loop := alone.loop
    rw [put_own]
    simp only [Server.put]
    split
    · split
      · rfl
      · rename_i foreign
        rw [loop] at foreign ⊢
        split at foreign
        · rename_i suspended
          rw [if_pos suspended]
        · exact absurd rfl foreign
    · rfl

theorem breaks (undisciplined : (server.own task).disciplined (server.ahead task) = false) :
    ∃ labels after, (machine events).run server labels = some after ∧ ¬ after.SingleWriter := by
  generalize coming : server.ahead task = ahead at undisciplined
  induction ahead generalizing server with
  | nil =>
      have breaks : (server.own task).breaks [] = true := by simpa only [Own.disciplined, Bool.not_eq_false'] using undisciplined
      refine ⟨[], server, rfl, fun sound => sound task ?_⟩
      rw [coming]
      exact Own.breaks_iff.mp breaks
  | cons event rest ih =>
      by_cases now : (server.own task).breaks (event :: rest) = true
      · refine ⟨[], server, rfl, fun sound => sound task ?_⟩
        rw [coming]
        exact Own.breaks_iff.mp now
      · rw [Bool.not_eq_true] at now
        simp only [Own.disciplined, now, Bool.not_false, Bool.true_and] at undisciplined
        cases stepped : (server.own task).step event with
        | none => simp [stepped] at undisciplined
        | some next =>
            rw [stepped] at undisciplined
            have moved : server.step task .go = some (server.put task rest next) :=
              step_go coming (alone.allows stepped) stepped
            have later : ((server.put task rest next).own task).disciplined rest = false := by
              rw [put_own]
              exact undisciplined
            obtain ⟨labels, after, completed, broken⟩ := ih alone.put put_ahead later
            refine ⟨(task, .go) :: labels, after, ?_, broken⟩
            rw [Machine.run_cons]
            exact Option.bind_eq_some_iff.mpr ⟨_, moved, completed⟩

end Alone

end Server

open Server

theorem singleWriter_iff :
    (∀ server, (machine events).Reachable server → server.SingleWriter) ↔
      ∀ task, ({} : Own).disciplined (events task) = true := by
  constructor
  · intro always task
    by_contra undisciplined
    have alone : Server.Alone ⟨events, fun _ => {}, none, none⟩ task := ⟨rfl, rfl⟩
    obtain ⟨labels, after, completed, broken⟩ := alone.breaks (Bool.not_eq_true _ |>.mp undisciplined)
    exact broken (always after ⟨_, labels, rfl, completed⟩)
  · intro each server reached
    have disciplined : server.Disciplined := by
      refine reached.invariant ?_ ?_
      · rintro start rfl
        exact each
      · rintro server ⟨task, move⟩ after moved holds
        exact holds.step moved
    intro task
    exact Own.disciplined_sound (disciplined task)

end Dosm.WriteLock
