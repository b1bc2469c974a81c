import Dosm.Base.Transition
import Dosm.Pipelines.Poller
import Dosm.Pipelines.Repo

namespace Dosm.Pipelines

open Models Web Transition

/-! Triggering a run and refreshing it from its provider.

A poll reads the row, awaits the provider and writes back the columns it has
changed, in a session of its own. Nothing compares the row with what was read, so
the steps of other sessions fall between the two.
-/

structure TriggerResult where
  externalId : Option String
  status : RunStatus
  htmlUrl : Option String

structure PollResult where
  status : RunStatus
  startedAt : Option Int
  completedAt : Option Int
  htmlUrl : Option String

def terminal (status : RunStatus) : Bool := status ∈ [.success, .failed, .cancelled, .skipped]

/-- The row a trigger commits; an `error` answer is a `PipelineProviderError`. -/
def triggeredRun (pipeline : Pipeline) (inputs : String) (userId : Option Nat) (triggeredAt now : Int)
    (answer : Except String TriggerResult) (id : Int) : PipelineRun :=
  let run : PipelineRun := {
    id
    pipelineId := pipeline.id
    externalId := none
    status := .queued
    inputs := some inputs
    htmlUrl := none
    triggeredByUserId := userId
    triggeredAt
    startedAt := none
    completedAt := none
    lastPolledAt := none
    error := none }
  match answer with
  | .error message => { run with status := .failed, error := some message, completedAt := some now }
  | .ok result =>
      { run with
        externalId := result.externalId
        status := result.status
        htmlUrl := result.htmlUrl
        lastPolledAt := some now }

def triggerPipeline (runs : Table PipelineRun) (pipeline : Pipeline) (inputs : String)
    (userId : Option Nat) (triggeredAt now : Int) (answer : Except String TriggerResult) :
    Table PipelineRun :=
  runs.insert (triggeredRun pipeline inputs userId triggeredAt now answer)
    fun _ => by cases answer <;> rfl

/-- The runs `refresh_run` no longer asks the provider about. -/
def settled (run : PipelineRun) : Bool := terminal run.status && run.completedAt.isSome

/-- What `refresh_run` makes of the object its session loaded. -/
def refreshRun (pipeline : Option Pipeline) (now : Int) (answer : Except String PollResult)
    (run : PipelineRun) : PipelineRun :=
  if settled run then run
  else
    match pipeline, answer with
    | none, _ => { run with status := .failed, error := some "pipeline deleted" }
    | some _, .error message => { run with error := some message, lastPolledAt := some now }
    | some _, .ok result =>
        { run with
          status := result.status
          lastPolledAt := some now
          startedAt := if run.startedAt.isNone then result.startedAt else run.startedAt
          completedAt :=
            if result.completedAt.isSome && terminal result.status then result.completedAt
            else run.completedAt
          htmlUrl := if result.htmlUrl.any (· ≠ "") then result.htmlUrl else run.htmlUrl
          error := if nonTerminal result.status then run.error else none }

/-- An update names a column only when its value is not the one that was loaded. -/
def flushColumn {Column : Type} [DecidableEq Column] (loaded refreshed committed : Column) : Column :=
  if refreshed = loaded then committed else refreshed

def flushRun (loaded refreshed committed : PipelineRun) : PipelineRun :=
  { committed with
    status := flushColumn loaded.status refreshed.status committed.status
    startedAt := flushColumn loaded.startedAt refreshed.startedAt committed.startedAt
    completedAt := flushColumn loaded.completedAt refreshed.completedAt committed.completedAt
    htmlUrl := flushColumn loaded.htmlUrl refreshed.htmlUrl committed.htmlUrl
    lastPolledAt := flushColumn loaded.lastPolledAt refreshed.lastPolledAt committed.lastPolledAt
    error := flushColumn loaded.error refreshed.error committed.error }

/-- A session that has read its run and awaits the provider. -/
structure PollSession where
  loaded : PipelineRun
  pipeline : Option Pipeline
  deriving DecidableEq

/-- The committed rows and the sessions in flight. -/
structure Polling where
  pipelines : Table Pipeline
  runs : Table PipelineRun
  sessions : List PollSession

inductive PollStep where
  | trigger (pipelineId : Int) (inputs : String) (userId : Option Nat) (triggeredAt now : Int)
      (answer : Except String TriggerResult)
  /-- `_poll_one` starts: it reads the row up to its await. -/
  | pollOne (id : Int)
  /-- A refresh request starts. -/
  | refresh (caller : Caller) (id : Int)
  /-- The abandonment branch of a tick, whenever the tick takes it. -/
  | abandon (id abandonAfter now : Int)
  /-- The provider answers a session, which writes and commits. -/
  | answer (session : Nat) (now : Int) (answer : Except String PollResult)
  /-- A session ends in any other exception and is rolled back. -/
  | fail (session : Nat)

/-- The run's pipeline, where the caller may refresh the run. -/
def refreshablePipeline (pipelines : Table Pipeline) (caller : Caller) (run : PipelineRun) :
    Option Pipeline :=
  if caller.role.atLeast .operator then
    (getScoped pipelines run.pipelineId caller.tid).filter (canSeePipeline caller)
  else none

namespace Polling

def openSession (state : Polling) (run : PipelineRun) (pipeline : Option Pipeline) : Polling :=
  { state with sessions := state.sessions ++ [{ loaded := run, pipeline }] }

def pollOne (state : Polling) (id : Int) : Polling :=
  match state.runs.get id with
  | none => state
  | some run =>
      if nonTerminal run.status then state.openSession run (state.pipelines.get run.pipelineId)
      else state

def pipelinesRunRefresh (state : Polling) (caller : Caller) (id : Int) : Polling :=
  match state.runs.get id with
  | none => state
  | some run =>
      match refreshablePipeline state.pipelines caller run with
      | none => state
      | some pipeline => if settled run then state else state.openSession run (some pipeline)

def abandonRun (state : Polling) (id abandonAfter now : Int) : Polling :=
  match state.runs.get id with
  | none => state
  | some run =>
      if selected run then { state with runs := state.runs.modify id (abandon abandonAfter now) (abandon_id abandonAfter now) }
      else state

def commit (state : Polling) (index : Nat) (session : PollSession) (now : Int)
    (answer : Except String PollResult) : Polling :=
  let refreshed := refreshRun session.pipeline now answer session.loaded
  { state with
    runs := state.runs.modify session.loaded.id (flushRun session.loaded refreshed)
    sessions := state.sessions.eraseIdx index }

def step (state : Polling) : PollStep → Option Polling
  | .trigger pipelineId inputs userId triggeredAt now answer =>
      (state.pipelines.get pipelineId).map fun pipeline =>
        { state with runs := triggerPipeline state.runs pipeline inputs userId triggeredAt now answer }
  | .pollOne id => some (state.pollOne id)
  | .refresh caller id => some (state.pipelinesRunRefresh caller id)
  | .abandon id abandonAfter now => some (state.abandonRun id abandonAfter now)
  | .answer index now answer =>
      state.sessions[index]?.map fun session => state.commit index session now answer
  | .fail index => some { state with sessions := state.sessions.eraseIdx index }

def Starts (state : Polling) : Prop := state.runs = .empty ∧ state.sessions = []

def machine : Machine Polling PollStep where
  initial := Starts
  step := step

end Polling

end Dosm.Pipelines
