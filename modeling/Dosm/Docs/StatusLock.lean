import Dosm.Base.LockThreads

namespace Dosm.Docs.StatusLock

open Transition LockThreads

/-! The progress record of the docs indexer and the lock that guards it.

`reindex`, `reindex_async` and `get_index_status` are written as programs over
the single lock. What a run finds outside the record (the embedder, the file
list, each file's outcome) is the environment's answer, fixed when the call
arrives.
-/

structure IndexStats where
  running : Bool := false
  totalFiles : Nat := 0
  processed : Nat := 0
  indexed : Nat := 0
  skippedUnchanged : Nat := 0
  errors : Nat := 0
  startedAt : Option Nat := none
  finishedAt : Option Nat := none
  lastError : Option String := none
  embedderName : String := "none"
  messages : List String := []
  deriving DecidableEq

inductive Outcome where
  | indexed
  | unchanged
  | error
  deriving DecidableEq

/-- What happens to one file: the lines `_index_one` logs, and how it ends. -/
structure FileWork where
  rel : String
  logs : List String
  outcome : Except String Outcome

structure ReindexWork where
  force : Bool
  startedAt : Nat
  finishedAt : Nat
  stamp : String
  embedder : Except String String
  fellBack : Option String
  storeLabel : String
  files : Except String (List FileWork)
  removed : Except String Nat

inductive Returned where
  | stats (stats : IndexStats)
  | nothing
  | raised (error : String)

abbrev Program := Code IndexStats Returned

namespace IndexStats

/-- The shallow copy handed to callers: only the last twenty messages. -/
def copy (status : IndexStats) : IndexStats :=
  { status with messages := status.messages.drop (status.messages.length - 20) }

def startRun (startedAt : Nat) (status : IndexStats) : IndexStats :=
  { status with
    running := true
    startedAt := some startedAt
    finishedAt := none
    totalFiles := 0
    processed := 0
    indexed := 0
    skippedUnchanged := 0
    errors := 0
    lastError := none
    messages := [] }

def finishRun (finishedAt : Nat) (status : IndexStats) : IndexStats :=
  { status with running := false, finishedAt := some finishedAt }

def count (outcome : Outcome) (status : IndexStats) : IndexStats :=
  let status := { status with processed := status.processed + 1 }
  match outcome with
  | .indexed => { status with indexed := status.indexed + 1 }
  | .unchanged => { status with skippedUnchanged := status.skippedUnchanged + 1 }
  | .error => { status with errors := status.errors + 1 }

end IndexStats

def getIndexStatus (next : IndexStats → Program) : Program :=
  .acquire (.read fun status => .release (next status.copy))

/-- One `with _status_lock:` block that only writes. -/
def update (change : IndexStats → IndexStats) (next : Program) : Program :=
  .acquire (.write change (.release next))

def log (stamp message : String) : Program → Program :=
  update fun status => { status with messages := status.messages ++ [stamp ++ " " ++ message] }

def logAll (stamp : String) (messages : List String) (next : Program) : Program :=
  messages.foldr (log stamp) next

def indexFile (work : ReindexWork) (file : FileWork) (next : Program) : Program :=
  logAll work.stamp file.logs <|
    match file.outcome with
    | .ok outcome => update (IndexStats.count outcome) next
    | .error error =>
        log work.stamp ("error " ++ file.rel ++ ": " ++ error) <|
        update (fun status => { status with lastError := some (file.rel ++ ": " ++ error) }) <|
        update (IndexStats.count .error) next

/-- The `finally` clause, then what follows the `try` statement. -/
def finish (work : ReindexWork) : Except String Unit → Program
  | .ok _ => update (IndexStats.finishRun work.finishedAt) <|
      getIndexStatus fun status => .done (.stats status)
  | .error error => update (IndexStats.finishRun work.finishedAt) (.done (.raised error))

def prune (work : ReindexWork) : Program :=
  match work.removed with
  | .error error => finish work (.error error)
  | .ok 0 => finish work (.ok ())
  | .ok (removed + 1) =>
      log work.stamp ("pruned " ++ toString (removed + 1) ++ " deleted files") <|
        finish work (.ok ())

def scan (work : ReindexWork) (embedder : String) : Program :=
  match work.files with
  | .error error => finish work (.error error)
  | .ok files =>
      update (fun status => { status with totalFiles := files.length }) <|
      log work.stamp ("scanning " ++ toString files.length ++ " docs from " ++ work.storeLabel ++
        " (embedder=" ++ embedder ++ ", force=" ++ (if work.force then "True" else "False") ++ ")") <|
      files.foldr (indexFile work) (prune work)

def reindexBody (work : ReindexWork) : Program :=
  match work.embedder with
  | .error error => finish work (.error error)
  | .ok name =>
      update (fun status => { status with embedderName := name }) <|
      match work.fellBack with
      | none => scan work name
      | some error =>
          let message := "SMB source unavailable, using local: " ++ error
          log work.stamp message <|
          update (fun status => { status with lastError := some message }) <|
          scan work name

/-- The entry check of `reindex`, inside the lock. The early return calls
`get_index_status`, which takes the lock on its own account. -/
def reindexEntry (work : ReindexWork) : Program :=
  .read fun status =>
    if status.running then
      getIndexStatus fun copied => .release (.done (.stats copied))
    else
      .write (IndexStats.startRun work.startedAt) (.release (reindexBody work))

def reindex (work : ReindexWork) : Program :=
  .acquire (reindexEntry work)

/-- The check and the run it starts are in different critical sections. -/
def reindexAsync (work : ReindexWork) : Program :=
  .acquire <| .read fun status =>
    if status.running then .release (.done .nothing)
    else .release (.spawn (reindex work) (.done .nothing))

inductive Call where
  | reindex (work : ReindexWork)
  | reindexAsync (work : ReindexWork)
  | getIndexStatus

def program : Call → Program
  | .reindex work => reindex work
  | .reindexAsync work => reindexAsync work
  | .getIndexStatus => getIndexStatus fun status => .done (.stats status)

abbrev statusSystem : Machine (Threads IndexStats Returned) (Label Call) :=
  system program {}

abbrev idle : Threads IndexStats Returned := ⟨{}, none, []⟩

/-- A thread is about to make the entry check of `reindex` while a run is
recorded as running. -/
def EntersRunning (code : Program) (status : IndexStats) : Prop :=
  (∃ work, code = reindexEntry work) ∧ status.running = true

/-! Every program is bracketed: two instructions at most between taking the
lock and leaving it. -/

section Brackets

variable {next : Program} {work : ReindexWork}

theorem getIndexStatus_bracketed {next : IndexStats → Program}
    (outside : ∀ status, Bracketed EntersRunning 2 none (next status)) :
    Bracketed EntersRunning 2 none (getIndexStatus next) :=
  ⟨rfl, some 1, rfl, fun status _ => ⟨nofun, outside status.copy⟩⟩

theorem update_bracketed {change : IndexStats → IndexStats}
    (outside : Bracketed EntersRunning 2 none next) :
    Bracketed EntersRunning 2 none (update change next) :=
  ⟨rfl, some 1, rfl, nofun, outside⟩

theorem log_bracketed {stamp message : String} (outside : Bracketed EntersRunning 2 none next) :
    Bracketed EntersRunning 2 none (log stamp message next) :=
  update_bracketed outside

theorem logAll_bracketed {stamp : String} {messages : List String}
    (outside : Bracketed EntersRunning 2 none next) :
    Bracketed EntersRunning 2 none (logAll stamp messages next) := by
  induction messages with
  | nil => exact outside
  | cons message rest ih => exact log_bracketed ih

theorem indexFile_bracketed {file : FileWork} (outside : Bracketed EntersRunning 2 none next) :
    Bracketed EntersRunning 2 none (indexFile work file next) := by
  refine logAll_bracketed ?_
  split
  · exact update_bracketed outside
  · exact log_bracketed (update_bracketed (update_bracketed outside))

theorem indexFiles_bracketed {files : List FileWork}
    (outside : Bracketed EntersRunning 2 none next) :
    Bracketed EntersRunning 2 none (files.foldr (indexFile work) next) := by
  induction files with
  | nil => exact outside
  | cons file rest ih => exact indexFile_bracketed ih

theorem finish_bracketed {ending : Except String Unit} :
    Bracketed EntersRunning 2 none (finish work ending) := by
  cases ending with
  | ok _ => exact update_bracketed (getIndexStatus_bracketed fun _ => rfl)
  | error error => exact update_bracketed rfl

theorem prune_bracketed : Bracketed EntersRunning 2 none (prune work) := by
  unfold prune
  split
  · exact finish_bracketed
  · exact finish_bracketed
  · exact log_bracketed finish_bracketed

theorem scan_bracketed {embedder : String} :
    Bracketed EntersRunning 2 none (scan work embedder) := by
  unfold scan
  split
  · exact finish_bracketed
  · exact update_bracketed (log_bracketed (indexFiles_bracketed prune_bracketed))

theorem reindexBody_bracketed : Bracketed EntersRunning 2 none (reindexBody work) := by
  unfold reindexBody
  split
  · exact finish_bracketed
  · refine update_bracketed ?_
    split
    · exact scan_bracketed
    · exact log_bracketed (update_bracketed scan_bracketed)

theorem reindexEntry_bracketed : Bracketed EntersRunning 2 (some 2) (reindexEntry work) := by
  refine ⟨some 1, rfl, ?_⟩
  intro status admitted
  have stopped : status.running = false := by
    cases running : status.running with
    | false => rfl
    | true => exact absurd ⟨⟨work, rfl⟩, running⟩ admitted
  simp only [stopped, Bool.false_eq_true, ↓reduceIte]
  exact ⟨some 0, rfl, nofun, reindexBody_bracketed⟩

theorem reindex_bracketed : Bracketed EntersRunning 2 none (reindex work) :=
  ⟨rfl, reindexEntry_bracketed⟩

theorem reindexAsync_bracketed : Bracketed EntersRunning 2 none (reindexAsync work) := by
  refine ⟨rfl, some 1, rfl, ?_⟩
  intro status _
  cases running : status.running with
  | true =>
      simp only [running, ↓reduceIte]
      exact ⟨nofun, rfl⟩
  | false =>
      simp only [running, Bool.false_eq_true, ↓reduceIte]
      exact ⟨nofun, reindex_bracketed, none, rfl, rfl⟩

theorem program_bracketed (call : Call) : Bracketed EntersRunning 2 none (program call) := by
  cases call with
  | reindex work => exact reindex_bracketed
  | reindexAsync work => exact reindexAsync_bracketed
  | getIndexStatus =>
      unfold program
      exact getIndexStatus_bracketed fun _ => rfl

theorem reindexEntry_not_outside : ¬ Bracketed EntersRunning 2 none (reindexEntry work) := by
  rintro ⟨left, spent, rest⟩
  cases spent
  have stopped : ¬ EntersRunning (reindexEntry work) {} := by
    rintro ⟨_, running⟩
    cases running
  obtain ⟨left, spent, outside, _⟩ := rest {} stopped
  cases spent
  exact outside rfl

end Brackets

theorem entersRunning_traps {state after : Threads IndexStats Returned} {thread : Nat}
    {code : Program} (sound : Sound EntersRunning 2 state)
    (found : state.threads[thread]? = some code) (enters : EntersRunning code state.shared)
    (stepped : state.stepThread thread = some after) : SelfWaits after := by
  obtain ⟨⟨work, rfl⟩, running⟩ := enters
  obtain ⟨budget, inside, bracketed⟩ := sound.bracketed thread _ found
  have held : state.holder = some thread := by
    cases budget with
    | none => exact absurd bracketed reindexEntry_not_outside
    | some left => exact inside.1
  cases stepThread_moved stepped with
  | read next nextFound =>
      cases Option.some.inj (found.symm.trans nextFound)
      simp only [running, ↓reduceIte]
      exact ⟨thread, _, held, resume_self found⟩
  | acquire next nextFound _ => cases found.symm.trans nextFound
  | release next nextFound _ => cases found.symm.trans nextFound
  | write update next nextFound => cases found.symm.trans nextFound
  | spawn child next nextFound => cases found.symm.trans nextFound

theorem idle_sound : Sound EntersRunning 2 idle := Sound.initial _

/-- A run ends without a self-deadlock exactly when none of its steps entered
`reindex` during a run; then whoever holds the lock can move, and three of its
steps free it. -/
theorem statusLock_released {labels : List (Label Call)} {state : Threads IndexStats Returned}
    (completed : statusSystem.run idle labels = some state) :
    (¬ SelfWaits state ↔ statusSystem.Meets (Avoids EntersRunning) idle labels) ∧
      (statusSystem.Meets (Avoids EntersRunning) idle labels →
        ∀ thread, state.holder = some thread →
          (state.stepThread thread).isSome ∧
          ∀ later after, statusSystem.run state later = some after →
            statusSystem.Meets (Avoids EntersRunning) state later →
            3 ≤ later.countP (Label.isStepOf thread) →
            ∃ first second middle, later = first ++ second ∧
              statusSystem.run state first = some middle ∧ middle.holder = none) := by
  constructor
  · exact not_selfWaits_iff program {} program_bracketed
      (fun _ _ _ _ sound found enters stepped => entersRunning_traps sound found enters stepped)
      completed idle_sound
  · intro avoids thread held
    have sound := sound_run program {} program_bracketed completed avoids idle_sound
    obtain ⟨left, bounded, heldFor⟩ := sound.heldFor held
    refine ⟨heldFor_enabled heldFor, ?_⟩
    intro later after continued laterAvoids enough
    exact heldFor_released program {} heldFor continued laterAvoids (by omega)

theorem avoids_of_stopped {state : Threads IndexStats Returned} {label : Label Call}
    (stopped : state.shared.running = false) : Avoids EntersRunning state label := by
  cases label with
  | start call => trivial
  | step thread =>
      rintro code _ ⟨_, running⟩
      rw [stopped] at running
      cases running

def quietWork : ReindexWork where
  force := false
  startedAt := 0
  finishedAt := 1
  stamp := "00:00:00"
  embedder := .ok "none"
  fellBack := none
  storeLabel := "local"
  files := .ok []
  removed := .ok 0

/-- The background thread of one trigger, stopped inside its entry check. -/
theorem statusLock_released_one_trigger :
    ∃ state, statusSystem.run idle
        [.start (.reindexAsync quietWork), .step 0, .step 0, .step 0, .step 0, .step 1, .step 1] =
          some state ∧
      ¬ SelfWaits state ∧ state.holder = some 1 ∧ (state.stepThread 1).isSome := by
  have stopped : ∀ {state : Threads IndexStats Returned} {label : Label Call},
      state.shared.running = false → Avoids EntersRunning state label := avoids_of_stopped
  have avoids : statusSystem.Meets (Avoids EntersRunning) idle
      [.start (.reindexAsync quietWork), .step 0, .step 0, .step 0, .step 0, .step 1, .step 1] :=
    Machine.meets_cons rfl (stopped rfl) <| Machine.meets_cons rfl (stopped rfl) <|
    Machine.meets_cons rfl (stopped rfl) <| Machine.meets_cons rfl (stopped rfl) <|
    Machine.meets_cons rfl (stopped rfl) <| Machine.meets_cons rfl (stopped rfl) <|
    Machine.meets_cons rfl (stopped rfl) trivial
  refine ⟨_, rfl, (statusLock_released rfl).1.mpr avoids, rfl, ?_⟩
  exact ((statusLock_released rfl).2 avoids 1 rfl).1

/-- Two triggers both find no run and both start a thread; the second thread
then finds the first one's run and waits for its own lock ever after. -/
theorem two_triggers_deadlock :
    ∃ state, statusSystem.run idle
        [.start (.reindexAsync quietWork), .start (.reindexAsync quietWork),
          .step 0, .step 0, .step 0, .step 0, .step 1, .step 1, .step 1, .step 1,
          .step 2, .step 2, .step 2, .step 2, .step 3, .step 3] = some state ∧
      SelfWaits state ∧
      ∀ later after, statusSystem.run state later = some after → SelfWaits after := by
  refine ⟨_, rfl, ?waits, ?forever⟩
  case waits => exact ⟨3, _, rfl, rfl⟩
  case forever =>
    intro later after continued
    exact Machine.run_invariant (fun _ _ _ stepped waits => waits.step stepped) continued
      ⟨3, _, rfl, rfl⟩

end Dosm.Docs.StatusLock
