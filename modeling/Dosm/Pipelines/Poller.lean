import Mathlib.Data.Int.Notation
import Dosm.Models

namespace Dosm.Python

/-! Points in time, in microseconds, with or without a time zone. -/

structure Datetime where
  micros : Int
  aware : Bool
  deriving DecidableEq

/-- Mixing the two kinds is a `TypeError`. -/
inductive ZoneMismatch where
  | subtraction
  | comparison
  deriving DecidableEq

namespace Datetime

def utc (micros : Int) : Datetime := { micros, aware := true }

/-- A stored time as the database driver gives it back. -/
def stored (micros : Int) : Datetime := { micros, aware := false }

def sub (later earlier : Datetime) : Except ZoneMismatch Int :=
  if later.aware = earlier.aware then .ok (later.micros - earlier.micros) else .error .subtraction

def before (first second : Datetime) : Except ZoneMismatch Bool :=
  if first.aware = second.aware then .ok (first.micros < second.micros) else .error .comparison

def minus (time : Datetime) (span : Int) : Datetime := { time with micros := time.micros - span }

end Datetime

end Dosm.Python

namespace Dosm.Pipelines

open Models Python

/-! The background poller's tick: abandon stale runs, then poll the due ones.

The selection runs in one session; an exception in it undoes the session and
ends the tick.
-/

def seconds : Int := 1000000

def hours : Int := 3600 * seconds

def nonTerminal (status : RunStatus) : Bool := status ∈ [.queued, .running, .unknown]

/-- How long to wait between polls of a run of a given age. -/
def pollCadence (age : Int) : Int :=
  if age < 60 * seconds then 5 * seconds
  else if age < 300 * seconds then 15 * seconds
  else if age < 1800 * seconds then 60 * seconds
  else if age < 14400 * seconds then 180 * seconds
  else 300 * seconds

def abandonedError (abandonAfter : Int) : String :=
  "abandoned: no provider response after " ++ toString abandonAfter ++ "h"

def abandon (abandonAfter now : Int) (run : PipelineRun) : PipelineRun :=
  { run with
    status := .failed
    error := some (abandonedError abandonAfter)
    completedAt := some now }

theorem abandon_id (abandonAfter now : Int) (run : PipelineRun) : key (abandon abandonAfter now run) = key run := rfl

structure Selection where
  runs : Table PipelineRun
  due : List Int
  abandoned : Nat

/-- The body of the loop over the selected runs. -/
def selectRun (abandonAfter now : Int) (selection : Selection) (run : PipelineRun) :
    Except ZoneMismatch Selection := do
  let age ← (Datetime.utc now).sub (.stored run.triggeredAt)
  if ← (Datetime.stored run.triggeredAt).before ((Datetime.utc now).minus (abandonAfter * hours)) then
    return { selection with
      runs := selection.runs.modify run.id (abandon abandonAfter now)
      abandoned := selection.abandoned + 1 }
  else
    match run.lastPolledAt with
    | none => return { selection with due := selection.due ++ [run.id] }
    | some polledAt =>
        let since ← (Datetime.utc now).sub (.stored polledAt)
        if since ≥ pollCadence age then return { selection with due := selection.due ++ [run.id] }
        else return selection

def selected (run : PipelineRun) : Bool := nonTerminal run.status && run.externalId.isSome

def select (abandonAfter now : Int) (runs : Table PipelineRun) : Except ZoneMismatch Selection :=
  (runs.rows.filter selected).foldlM (selectRun abandonAfter now) { runs, due := [], abandoned := 0 }

/-- What a tick leaves behind before the polls: the rows, whether the selection
got through, and the runs that are polled. -/
structure Tick where
  runs : Table PipelineRun
  completed : Bool
  polled : List Int
  abandoned : Nat

def pollTick (abandonAfter now : Int) (runs : Table PipelineRun) : Tick :=
  match select abandonAfter now runs with
  | .error _ => { runs, completed := false, polled := [], abandoned := 0 }
  | .ok selection =>
      { runs := selection.runs
        completed := true
        polled := selection.due
        abandoned := selection.abandoned }

/-! What a tick is for. -/

/-- Triggered more than `abandonAfter` hours ago and not finished. -/
def Overdue (abandonAfter now : Int) (run : PipelineRun) : Prop :=
  nonTerminal run.status = true ∧ run.triggeredAt < now - abandonAfter * hours

def Due (abandonAfter now : Int) (run : PipelineRun) : Prop :=
  nonTerminal run.status = true ∧ ¬ Overdue abandonAfter now run ∧ run.externalId.isSome = true ∧
    ∀ polledAt, run.lastPolledAt = some polledAt → now - polledAt ≥ pollCadence (now - run.triggeredAt)

/-- The selection gets through, the overdue runs and no others are marked failed,
and the due runs and no others are polled. -/
structure Progress (abandonAfter now : Int) (runs : Table PipelineRun) : Prop where
  completed : (pollTick abandonAfter now runs).completed = true
  marked : ∀ run ∈ runs.rows, Overdue abandonAfter now run →
    (pollTick abandonAfter now runs).runs.get run.id = some (abandon abandonAfter now run)
  kept : ∀ run ∈ runs.rows, ¬ Overdue abandonAfter now run →
    (pollTick abandonAfter now runs).runs.get run.id = some run
  polled : ∀ run ∈ runs.rows, run.id ∈ (pollTick abandonAfter now runs).polled ↔ Due abandonAfter now run

section Poller

variable {abandonAfter now : Int} {runs : Table PipelineRun} {selection : Selection} {run : PipelineRun}

theorem select_error (member : run ∈ runs.rows) (live : selected run = true) :
    select abandonAfter now runs = .error .subtraction := by
  have listed : run ∈ runs.rows.filter selected := List.mem_filter.mpr ⟨member, live⟩
  unfold select
  cases rows : runs.rows.filter selected with
  | nil =>
      rw [rows] at listed
      cases listed
  | cons first rest => rfl

theorem select_idle (idle : ∀ run ∈ runs.rows, selected run = false) :
    select abandonAfter now runs = .ok { runs, due := [], abandoned := 0 } := by
  have none : runs.rows.filter selected = [] :=
    List.filter_eq_nil_iff.mpr fun run member => by simp [idle run member]
  unfold select
  rw [none]
  rfl

theorem Progress.idle (progress : Progress abandonAfter now runs) :
    ∀ run ∈ runs.rows, selected run = false := by
  intro run member
  cases live : selected run with
  | false => rfl
  | true =>
      have completed := progress.completed
      simp [pollTick, select_error member live] at completed

theorem pollTick_idle (idle : ∀ run ∈ runs.rows, selected run = false) :
    pollTick abandonAfter now runs = { runs, completed := true, polled := [], abandoned := 0 } := by
  simp only [pollTick, select_idle idle]

theorem progress_idle_iff (idle : ∀ run ∈ runs.rows, selected run = false) :
    Progress abandonAfter now runs ↔ ∀ run ∈ runs.rows, ¬ Overdue abandonAfter now run := by
  constructor
  · intro progress run member overdue
    have marked := progress.marked run member overdue
    rw [pollTick_idle idle] at marked
    have present : runs.get run.id = some run := Table.get_key member
    have same : run = abandon abandonAfter now run := Option.some.inj (present.symm.trans marked)
    have failed : run.status = .failed := congrArg PipelineRun.status same
    have live := overdue.1
    rw [failed] at live
    cases live
  · intro none
    exact {
      completed := by rw [pollTick_idle idle]
      marked := fun run member overdue => absurd overdue (none run member)
      kept := by
        intro run member _
        rw [pollTick_idle idle]
        exact Table.get_key member
      polled := by
        intro run member
        rw [pollTick_idle idle]
        refine ⟨fun listed => absurd listed List.not_mem_nil, ?_⟩
        rintro ⟨live, _, external, _⟩
        have chosen : selected run = true := by simp [selected, live, external]
        exact absurd chosen (by simp [idle run member]) }

end Poller

/-- A tick does its work exactly when there is none: no unfinished run has an
external id, and none without one is overdue. -/
theorem poll_tick_progress_iff {abandonAfter now : Int} {runs : Table PipelineRun} :
    Progress abandonAfter now runs ↔
      ∀ run ∈ runs.rows, nonTerminal run.status = true →
        run.externalId = none ∧ ¬ run.triggeredAt < now - abandonAfter * hours := by
  constructor
  · intro progress run member live
    have external : run.externalId = none := by
      simpa [selected, live] using progress.idle run member
    have timely := (progress_idle_iff progress.idle).mp progress run member
    exact ⟨external, fun stale => timely ⟨live, stale⟩⟩
  · intro quiet
    have idle : ∀ run ∈ runs.rows, selected run = false := by
      intro run member
      cases live : nonTerminal run.status with
      | false => simp [selected, live]
      | true => simp [selected, (quiet run member live).1]
    refine (progress_idle_iff idle).mpr ?_
    rintro run member ⟨live, stale⟩
    exact (quiet run member live).2 stale

def freshRun : PipelineRun where
  id := 1
  pipelineId := 1
  externalId := some "4711"
  status := .queued
  inputs := some "\x7b\x7d"
  htmlUrl := none
  triggeredByUserId := none
  triggeredAt := 0
  startedAt := none
  completedAt := none
  lastPolledAt := none
  error := none

/-- The run is due, and the tick ends in the selection. -/
theorem fresh_run_not_polled :
    Due 24 (10 * seconds) freshRun ∧
      pollTick 24 (10 * seconds) ⟨[freshRun], List.nodup_singleton _⟩ =
        { runs := ⟨[freshRun], List.nodup_singleton _⟩, completed := false, polled := [], abandoned := 0 } ∧
      ¬ Progress 24 (10 * seconds) ⟨[freshRun], List.nodup_singleton _⟩ := by
  refine ⟨⟨rfl, ?_, rfl, nofun⟩, rfl, ?_⟩
  · rintro ⟨_, stale⟩
    exact absurd stale (by decide)
  · intro progress
    have idle := progress.idle freshRun (List.mem_singleton.mpr rfl)
    cases idle

end Dosm.Pipelines
