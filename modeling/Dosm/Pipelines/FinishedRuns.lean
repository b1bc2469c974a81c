import Dosm.Pipelines.Refresh

namespace Dosm.Pipelines

open Models Web Transition

/-! Runs that are finished, over every interleaving of polls, refreshes and
abandonments.

A provider's answer keeps them so when it fits the row it lands on, which need not
be the row its session read.
-/

/-- No run that was finished is queued, running or unknown again. -/
def StaysFinished (before after : Table PipelineRun) : Prop :=
  ∀ id earlier, before.get id = some earlier → terminal earlier.status = true →
    ∃ later, after.get id = some later ∧ terminal later.status = true

def Stamped (runs : Table PipelineRun) : Prop :=
  ∀ run ∈ runs.rows, terminal run.status = true → run.completedAt.isSome = true

/-- An answer for a run read as `loaded` fits the row it is written over: on an
unfinished row it finishes with a time, and on a finished one it finishes too or
has nothing new. -/
def Fits (loaded committed : PipelineRun) (result : PollResult) : Prop :=
  if terminal committed.status then terminal result.status = true ∨ result.status = loaded.status
  else terminal result.status = true → result.completedAt.isSome = true

/-- A trigger is answered with an unfinished run, and every poll's answer fits. -/
def Timely (state : Polling) : PollStep → Prop
  | .trigger _ _ _ _ _ (.ok result) => terminal result.status = false
  | .answer index _ (.ok result) => ∀ session ∈ state.sessions[index]?,
      ∀ committed ∈ state.runs.get session.loaded.id, Fits session.loaded committed result
  | _ => True

structure Settling (state : Polling) : Prop where
  registered : ∀ run ∈ state.runs.rows, (state.pipelines.get run.pipelineId).isSome = true
  stamped : ∀ run ∈ state.runs.rows, run.completedAt.isSome = terminal run.status
  awaited : ∀ session ∈ state.sessions, session.pipeline.isSome = true ∧
    terminal session.loaded.status = false ∧ session.loaded.completedAt = none

def SettlesFrom (runs : Table PipelineRun) (state : Polling) : Prop :=
  Settling state ∧ StaysFinished runs state.runs

section FinishedRuns

variable {state after : Polling} {labels : List PollStep} {run loaded committed : PipelineRun}
  {pipeline : Option Pipeline} {known : Pipeline} {result : PollResult} {session : PollSession} {label : PollStep}
  {id now abandonAfter : Int} {index : Nat} {caller : Caller}

theorem nonTerminal_eq_not_terminal (status : RunStatus) : nonTerminal status = !terminal status := by
  cases status <;> rfl

theorem StaysFinished.refl (runs : Table PipelineRun) : StaysFinished runs runs :=
  fun _ earlier found finished => ⟨earlier, found, finished⟩

theorem StaysFinished.trans {first second third : Table PipelineRun}
    (before : StaysFinished first second) (later : StaysFinished second third) :
    StaysFinished first third := by
  intro id earlier found finished
  obtain ⟨middle, middleFound, middleFinished⟩ := before id earlier found finished
  exact later id middle middleFound middleFinished

structure Advances (before after : PipelineRun) : Prop where
  pipeline : after.pipelineId = before.pipelineId
  stamped : after.completedAt.isSome = terminal after.status
  finished : terminal before.status = true → terminal after.status = true

theorem Settling.modify {change : PipelineRun → PipelineRun} (settling : Settling state)
    (keeps : ∀ row, key (change row) = key row) (advances : ∀ run ∈ state.runs.get id, Advances run (change run)) :
    Settling { state with runs := state.runs.modify id change keeps } ∧
      StaysFinished state.runs (state.runs.modify id change keeps) := by
  have changed : ∀ run ∈ (state.runs.modify id change keeps).rows,
      run ∈ state.runs.rows ∨ ∃ old ∈ state.runs.rows, run = change old ∧ Advances old run := by
    intro run member
    obtain ⟨old, oldMember, rfl⟩ := Table.mem_modify.mp member
    split
    case isTrue same =>
      exact .inr ⟨old, oldMember, rfl, advances old (Table.get_eq_some_iff.mpr ⟨oldMember, same⟩)⟩
    case isFalse => exact .inl oldMember
  refine ⟨⟨?_, ?_, settling.awaited⟩, ?_⟩
  · intro run member
    rcases changed run member with old | ⟨old, oldMember, _, advance⟩
    · exact settling.registered run old
    · rw [advance.pipeline]
      exact settling.registered old oldMember
  · intro run member
    rcases changed run member with old | ⟨_, _, _, advance⟩
    · exact settling.stamped run old
    · exact advance.stamped
  · intro other earlier found finished
    by_cases same : other = id
    · refine ⟨change earlier, Table.get_modify_of_eq same found, ?_⟩
      exact (advances earlier (same ▸ found)).finished finished
    · exact ⟨earlier, by rw [Table.get_modify_other same, found], finished⟩

theorem Settling.sessions {sessions : List PollSession} (settling : Settling state)
    (fewer : ∀ session ∈ sessions, session ∈ state.sessions) :
    Settling { state with sessions } :=
  ⟨settling.registered, settling.stamped, fun session member => settling.awaited session (fewer session member)⟩

theorem Settling.openSession (settling : Settling state) (present : pipeline.isSome = true)
    (member : run ∈ state.runs.rows) (unfinished : terminal run.status = false) :
    Settling (state.openSession run pipeline) := by
  refine ⟨settling.registered, settling.stamped, ?_⟩
  intro session listed
  rcases List.mem_append.mp listed with old | new
  · exact settling.awaited session old
  · cases List.mem_singleton.mp new
    have blank := settling.stamped run member
    rw [unfinished] at blank
    exact ⟨present, unfinished, Option.not_isSome_iff_eq_none.mp (by simp [blank])⟩

theorem pollOne_runs : (state.pollOne id).runs = state.runs := by
  unfold Polling.pollOne
  split
  · rfl
  · split <;> rfl

theorem refresh_runs : (state.pipelinesRunRefresh caller id).runs = state.runs := by
  unfold Polling.pipelinesRunRefresh
  split
  · rfl
  · split
    · rfl
    · split <;> rfl

theorem Settling.pollOne (settling : Settling state) : Settling (state.pollOne id) := by
  unfold Polling.pollOne
  cases found : state.runs.get id with
  | none => exact settling
  | some run =>
      have member := (Table.get_eq_some_iff.mp found).1
      dsimp only
      by_cases live : nonTerminal run.status
      · rw [if_pos live]
        refine settling.openSession (settling.registered run member) member ?_
        simpa [nonTerminal_eq_not_terminal] using live
      · rw [if_neg live]
        exact settling

theorem Settling.refresh (settling : Settling state) : Settling (state.pipelinesRunRefresh caller id) := by
  unfold Polling.pipelinesRunRefresh
  cases found : state.runs.get id with
  | none => exact settling
  | some run =>
      have member := (Table.get_eq_some_iff.mp found).1
      dsimp only
      cases visible : refreshablePipeline state.pipelines caller run with
      | none => exact settling
      | some pipeline =>
          dsimp only
          by_cases done : settled run
          · rw [if_pos done]
            exact settling
          · rw [if_neg done]
            refine settling.openSession rfl member ?_
            simpa [settled, settling.stamped run member] using done

theorem Settling.abandonRun (settling : Settling state) :
    Settling (state.abandonRun id abandonAfter now) ∧
      StaysFinished state.runs (state.abandonRun id abandonAfter now).runs := by
  unfold Polling.abandonRun
  cases found : state.runs.get id with
  | none => exact ⟨settling, .refl _⟩
  | some run =>
      by_cases chosen : selected run
      · simp only [if_pos chosen]
        have keyed : ∀ row, key (abandon abandonAfter now row) = key row := fun _ => rfl
        exact settling.modify keyed fun run _ => ⟨rfl, rfl, fun _ => rfl⟩
      · simp only [if_neg chosen]
        exact ⟨settling, .refl _⟩

theorem Settling.trigger {inputs : String} {userId : Option Nat} {triggeredAt : Int}
    {answer : Except String TriggerResult} {registered : Pipeline} (settling : Settling state)
    (found : state.pipelines.get registered.id = some registered)
    (timely : ∀ result, answer = .ok result → terminal result.status = false) :
    Settling { state with
      runs := triggerPipeline state.runs registered inputs userId triggeredAt now answer } ∧
      StaysFinished state.runs
        (triggerPipeline state.runs registered inputs userId triggeredAt now answer) := by
  have columns (id : Int) :
      let run := triggeredRun registered inputs userId triggeredAt now answer id
      run.pipelineId = registered.id ∧ run.completedAt.isSome = terminal run.status := by
    cases reply : answer with
    | error message => exact ⟨rfl, rfl⟩
    | ok result => exact ⟨rfl, (timely result reply).symm⟩
  have added (run : PipelineRun)
      (member : run ∈ (triggerPipeline state.runs registered inputs userId triggeredAt now answer).rows) :
      run ∈ state.runs.rows ∨ ∃ id, run = triggeredRun registered inputs userId triggeredAt now answer id :=
    (Table.mem_insert.mp member).imp_right fun same => ⟨_, same⟩
  refine ⟨⟨?_, ?_, settling.awaited⟩, ?_⟩
  · intro run member
    rcases added run member with old | ⟨id, rfl⟩
    · exact settling.registered run old
    · rw [(columns id).1, found]
      rfl
  · intro run member
    rcases added run member with old | ⟨id, rfl⟩
    · exact settling.stamped run old
    · exact (columns id).2
  · intro id earlier present finished
    exact ⟨earlier, Table.get_insert_of_get present, finished⟩

theorem flush_answer (known : Pipeline) (now : Int) (result : PollResult) (committed : PipelineRun)
    (unfinished : terminal loaded.status = false)
    (blank : loaded.completedAt = none) :
    let refreshed := refreshRun (some known) now (.ok result) loaded
    (flushRun loaded refreshed committed).status =
        (if result.status = loaded.status then committed.status else result.status) ∧
      (flushRun loaded refreshed committed).completedAt =
        (if result.completedAt.isSome && terminal result.status then result.completedAt
          else committed.completedAt) := by
  have open' : settled loaded = false := by simp [settled, unfinished]
  simp only [refreshRun, open', Bool.false_eq_true, if_false, flushRun, flushColumn, blank, true_and]
  cases result.completedAt with
  | none => simp
  | some time => cases terminal result.status <;> simp

theorem flush_refused (known : Pipeline) (now : Int) (message : String) (committed : PipelineRun)
    (unfinished : terminal loaded.status = false) :
    let refreshed := refreshRun (some known) now (.error message) loaded
    (flushRun loaded refreshed committed).status = committed.status ∧
      (flushRun loaded refreshed committed).completedAt = committed.completedAt := by
  have open' : settled loaded = false := by simp [settled, unfinished]
  simp [refreshRun, open', flushRun, flushColumn]

theorem advances_answer (unfinished : terminal loaded.status = false) (blank : loaded.completedAt = none)
    (stamped : committed.completedAt.isSome = terminal committed.status)
    (fits : Fits loaded committed result) :
    Advances committed (flushRun loaded (refreshRun (some known) now (.ok result) loaded) committed) := by
  obtain ⟨status, completedAt⟩ := flush_answer known now result committed unfinished blank
  unfold Fits at fits
  by_cases same : result.status = loaded.status
  · rw [if_pos same] at status
    rw [same, unfinished, Bool.and_false, if_neg Bool.false_ne_true] at completedAt
    exact ⟨rfl, by rw [status, completedAt, stamped], by rw [status]; exact id⟩
  · rw [if_neg same] at status
    by_cases done : terminal committed.status = true
    · rw [if_pos done] at fits
      have finishing := fits.resolve_right same
      rw [done] at stamped
      refine ⟨rfl, ?_, fun _ => by rw [status, finishing]⟩
      rw [status, completedAt, finishing, Bool.and_true]
      split
      · assumption
      · exact stamped
    · rw [if_neg done] at fits
      refine ⟨rfl, ?_, fun finished => absurd finished done⟩
      rw [status, completedAt]
      cases finishing : terminal result.status with
      | true => simp [fits finishing]
      | false => simpa [done] using stamped

theorem fits_of_advances (unfinished : terminal loaded.status = false) (blank : loaded.completedAt = none)
    (stamped : committed.completedAt.isSome = terminal committed.status)
    (advances :
      Advances committed (flushRun loaded (refreshRun (some known) now (.ok result) loaded) committed)) :
    Fits loaded committed result := by
  obtain ⟨status, completedAt⟩ := flush_answer known now result committed unfinished blank
  have finished := advances.finished
  have stampedAfter := advances.stamped
  rw [status] at finished stampedAfter
  rw [completedAt] at stampedAfter
  unfold Fits
  by_cases same : result.status = loaded.status
  · rw [same, unfinished]
    split
    · exact .inr rfl
    · simp
  · rw [if_neg same] at finished stampedAfter
    by_cases done : terminal committed.status = true
    · rw [if_pos done]
      exact .inl (finished done)
    · rw [if_neg done]
      intro finishing
      rw [finishing, Bool.and_true] at stampedAfter
      cases time : result.completedAt with
      | some _ => rfl
      | none =>
          rw [time] at stampedAfter
          exact absurd (stamped.symm.trans stampedAfter) done

theorem Settling.answer {answer : Except String PollResult} (settling : Settling state)
    (found : state.sessions[index]? = some session)
    (fits : ∀ result, answer = .ok result → ∀ committed ∈ state.runs.get session.loaded.id,
      Fits session.loaded committed result) :
    Settling (state.commit index session now answer) ∧
      StaysFinished state.runs (state.commit index session now answer).runs := by
  obtain ⟨present, unfinished, blank⟩ := settling.awaited session (List.mem_of_getElem? found)
  obtain ⟨known, registered⟩ := Option.isSome_iff_exists.mp present
  have advances : ∀ committed ∈ state.runs.get session.loaded.id, Advances committed
      (flushRun session.loaded (refreshRun session.pipeline now answer session.loaded) committed) := by
    intro committed member
    have stamped := settling.stamped committed (Table.get_eq_some_iff.mp member).1
    rw [registered]
    cases reply : answer with
    | error message =>
        obtain ⟨status, completedAt⟩ := flush_refused known now message committed unfinished
        exact ⟨rfl, by rw [status, completedAt, stamped], by rw [status]; exact id⟩
    | ok result => exact advances_answer unfinished blank stamped (fits result reply committed member)
  have keyed : ∀ row, key (flushRun session.loaded
      (refreshRun session.pipeline now answer session.loaded) row) = key row := fun _ => rfl
  have written := settling.modify keyed advances
  exact ⟨written.1.sessions fun _ => List.mem_of_mem_eraseIdx, written.2⟩

theorem Settling.step (settling : Settling state) (timely : Timely state label)
    (stepped : state.step label = some after) :
    Settling after ∧ StaysFinished state.runs after.runs := by
  cases label with
  | trigger pipelineId inputs userId triggeredAt now answer =>
      obtain ⟨pipeline, found, rfl⟩ := Option.map_eq_some_iff.mp stepped
      have known : pipeline.id = pipelineId := (Table.get_eq_some_iff.mp found).2
      subst known
      refine settling.trigger found ?_
      rintro result rfl
      exact timely
  | pollOne id =>
      cases stepped
      exact ⟨settling.pollOne, pollOne_runs ▸ .refl _⟩
  | refresh caller id =>
      cases stepped
      exact ⟨settling.refresh, refresh_runs ▸ .refl _⟩
  | abandon id abandonAfter now =>
      cases stepped
      exact settling.abandonRun
  | answer index now answer =>
      obtain ⟨session, found, rfl⟩ := Option.map_eq_some_iff.mp stepped
      refine settling.answer found ?_
      rintro result rfl committed member
      exact timely session found committed member
  | fail index =>
      cases stepped
      exact ⟨settling.sessions fun _ => List.mem_of_mem_eraseIdx, .refl _⟩

/-- The answers that fit are exactly those after which the rows still settle. -/
theorem Settling.timely_iff (settling : Settling state) (stepped : state.step label = some after) :
    Timely state label ↔ Settling after ∧ StaysFinished state.runs after.runs := by
  refine ⟨fun timely => settling.step timely stepped, ?_⟩
  rintro ⟨later, kept⟩
  cases label with
  | pollOne id | refresh caller id | abandon id abandonAfter now | fail index => trivial
  | trigger pipelineId inputs userId triggeredAt now answer =>
      obtain ⟨pipeline, found, rfl⟩ := Option.map_eq_some_iff.mp stepped
      cases answer with
      | error message => trivial
      | ok result =>
          have added : triggeredRun pipeline inputs userId triggeredAt now (.ok result) state.runs.fresh ∈
              (triggerPipeline state.runs pipeline inputs userId triggeredAt now (.ok result)).rows :=
            List.mem_append_right _ (List.mem_singleton.mpr rfl)
          exact (later.stamped _ added).symm
  | answer index now answer =>
      obtain ⟨session, found, rfl⟩ := Option.map_eq_some_iff.mp stepped
      cases answer with
      | error message => trivial
      | ok result =>
          intro other same committed present
          cases Option.some.inj (found.symm.trans same)
          obtain ⟨known, unfinished, blank⟩ := settling.awaited session (List.mem_of_getElem? found)
          obtain ⟨pipeline, registered⟩ := Option.isSome_iff_exists.mp known
          have stamped := settling.stamped committed (Table.get_eq_some_iff.mp present).1
          have keyed : ∀ row, key (flushRun session.loaded
              (refreshRun session.pipeline now (.ok result) session.loaded) row) = key row := fun _ => rfl
          have written : (state.runs.modify session.loaded.id _ keyed).get session.loaded.id = _ :=
            Table.get_modify_of_eq rfl present
          have advances : Advances committed (flushRun session.loaded
              (refreshRun session.pipeline now (.ok result) session.loaded) committed) := by
            refine ⟨rfl, ?_, ?_⟩
            · exact later.stamped _ (Table.get_eq_some_iff.mp written).1
            · intro finished
              obtain ⟨row, rowFound, rowFinished⟩ := kept session.loaded.id committed present finished
              cases Option.some.inj (written.symm.trans rowFound)
              exact rowFinished
          rw [registered] at advances
          exact fits_of_advances unfinished blank stamped advances

theorem Polling.Starts.settling (starts : state.Starts) : Settling state := by
  obtain ⟨runs, sessions⟩ := starts
  refine ⟨?_, ?_, ?_⟩
  · intro run member
    rw [runs] at member
    cases member
  · intro run member
    rw [runs] at member
    cases member
  · intro session member
    rw [sessions] at member
    cases member

theorem settling_reached (reached : Polling.machine.ReachableUnder Timely state) : Settling state :=
  reached.invariant (fun _ starts => starts.settling)
    fun _ _ _ timely stepped settling => (settling.step timely stepped).1

end FinishedRuns

/-- In every run whose answers are timely, a finished run stays finished and has
the time it finished at. -/
theorem finished_runs_stay_finished {state after : Polling} {labels : List PollStep}
    (reached : Polling.machine.ReachableUnder Timely state)
    (completed : Polling.machine.run state labels = some after)
    (timely : Polling.machine.Meets Timely state labels) :
    Stamped after.runs ∧ StaysFinished state.runs after.runs := by
  have start : SettlesFrom state.runs state := ⟨settling_reached reached, .refl _⟩
  have preserved (middle : Polling) (label : PollStep) (next : Polling) (answered : Timely middle label)
      (stepped : Polling.machine.step middle label = some next) (before : SettlesFrom state.runs middle) :
      SettlesFrom state.runs next := by
    obtain ⟨settling, kept⟩ := before.1.step answered stepped
    exact ⟨settling, before.2.trans kept⟩
  obtain ⟨settling, kept⟩ := Machine.run_preserves preserved completed timely start
  exact ⟨fun run member finished => (settling.stamped run member).trans finished, kept⟩

def deployPipeline : Pipeline where
  id := 1
  tenantId := 1
  name := "deploy"
  provider := "awx"
  description := none
  config := "\x7b\x7d"
  inputsSchema := none
  credentialId := none
  ownerId := none
  visibility := .shared
  orgUnitId := none

def operator : Caller where
  tid := some 1
  userId := 1
  role := .operator

def idlePolling : Polling where
  pipelines := ⟨[deployPipeline], List.nodup_singleton _⟩
  runs := .empty
  sessions := []

def accepted : PollStep :=
  .trigger 1 "\x7b\x7d" (some 1) 0 1 (.ok { externalId := some "7", status := .queued, htmlUrl := none })

def succeeded (completedAt : Option Int) : PollResult where
  status := .success
  startedAt := some 2
  completedAt
  htmlUrl := none

def stillRunning : PollResult where
  status := .running
  startedAt := some 2
  completedAt := none
  htmlUrl := none

def overtaken : List PollStep :=
  [accepted, .refresh operator 1, .refresh operator 1, .answer 1 5 (.ok (succeeded (some 4)))]

def unstamped : List PollStep :=
  [accepted, .refresh operator 1, .answer 0 5 (.ok (succeeded none))]


def Polling.columns (state : Polling) : List (RunStatus × Option Int) :=
  state.runs.rows.map fun run => (run.status, run.completedAt)

/-- The earlier refresh's answer puts the finished run back to running, and a
success that comes without a time is committed without one. -/
theorem late_answer_reopens_run :
    (∃ state after, Polling.machine.Reachable state ∧
      Polling.machine.run state [.answer 0 6 (.ok stillRunning)] = some after ∧
      ¬ StaysFinished state.runs after.runs) ∧
    ∃ state, Polling.machine.Reachable state ∧ ¬ Stamped state.runs := by
  constructor
  · have before : (Polling.machine.run idlePolling overtaken).map
        (fun state => (state.runs.get 1).map PipelineRun.status) = some (some .success) := by
      decide
    have behind : (Polling.machine.run idlePolling
        (overtaken ++ [.answer 0 6 (.ok stillRunning)])).map
        (fun state => (state.runs.get 1).map PipelineRun.status) = some (some .running) := by
      decide
    obtain ⟨state, completed, finished⟩ := Option.map_eq_some_iff.mp before
    rw [Machine.run_append, completed] at behind
    obtain ⟨after, continued, reopened⟩ := Option.map_eq_some_iff.mp behind
    refine ⟨state, after, ⟨idlePolling, overtaken, ⟨rfl, rfl⟩, completed⟩, continued, ?_⟩
    intro stays
    obtain ⟨earlier, earlierFound, success⟩ := Option.map_eq_some_iff.mp finished
    obtain ⟨later, laterFound, terminated⟩ := stays 1 earlier earlierFound (by rw [success]; rfl)
    rw [laterFound] at reopened
    have running : later.status = .running := Option.some.inj reopened
    rw [running] at terminated
    cases terminated
  · have behind : (Polling.machine.run idlePolling unstamped).map Polling.columns =
        some [(.success, none)] := by decide
    obtain ⟨state, completed, rows⟩ := Option.map_eq_some_iff.mp behind
    refine ⟨state, ⟨idlePolling, unstamped, ⟨rfl, rfl⟩, completed⟩, ?_⟩
    intro stamped
    have listed : (RunStatus.success, (none : Option Int)) ∈ state.columns := by
      rw [rows]
      exact List.mem_singleton.mpr rfl
    obtain ⟨run, member, same⟩ := List.mem_map.mp listed
    have status : run.status = .success := congrArg Prod.fst same
    have blank : run.completedAt = none := congrArg Prod.snd same
    have time := stamped run member (by rw [status]; rfl)
    rw [blank] at time
    cases time

def refreshed : List PollStep :=
  [accepted, .refresh operator 1, .answer 0 5 (.ok (succeeded (some 4)))]

/-- One refresh finishes the run, the next finds it settled and a poll finds it
finished. -/
theorem refreshed_run_stays_finished :
    ∃ state after, Polling.machine.run idlePolling refreshed = some state ∧
      Polling.machine.run state [.refresh operator 1, .pollOne 1] = some after ∧
      Stamped after.runs ∧ StaysFinished state.runs after.runs := by
  obtain ⟨state, completed⟩ : ∃ state, Polling.machine.run idlePolling refreshed = some state := ⟨_, rfl⟩
  have timely : Polling.machine.Meets Timely idlePolling refreshed := by
    refine Machine.meets_cons rfl rfl (Machine.meets_cons rfl trivial (Machine.meets_cons rfl ?_ trivial))
    rintro session ⟨⟩ committed ⟨⟩
    exact fun _ => rfl
  refine ⟨state, _, completed, rfl, ?_⟩
  have reached : Polling.machine.ReachableUnder Timely state :=
    ⟨idlePolling, refreshed, ⟨rfl, rfl⟩, completed, timely⟩
  have continued : Polling.machine.run state [.refresh operator 1, .pollOne 1] = some _ := rfl
  have meets : Polling.machine.Meets Timely state [.refresh operator 1, .pollOne 1] :=
    Machine.meets_cons rfl trivial (Machine.meets_cons rfl trivial trivial)
  exact finished_runs_stay_finished reached continued meets

end Dosm.Pipelines
