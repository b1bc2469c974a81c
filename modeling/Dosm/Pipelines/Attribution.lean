import Dosm.Pipelines.Refresh

namespace Dosm.Pipelines.GitHub

open Models Transition

/-! Triggers of a GitHub workflow, and the run list they share with every other
dispatcher.

A trigger reads the newest run, dispatches, and polls for a newer one. A run that
was created shows in the list at any later time. Which trigger's dispatch created a
run is on record here only; the list does not say it.
-/

structure WorkflowRun where
  id : Int
  origin : Option Nat
  visible : Bool
  status : Option String
  conclusion : Option String
  htmlUrl : Option String
  deriving DecidableEq

def mapStatus (status conclusion : Option String) : RunStatus :=
  if status = some "completed" then
    match conclusion.getD "" with
    | "success" | "neutral" => .success
    | "failure" | "timed_out" => .failed
    | "cancelled" => .cancelled
    | "skipped" => .skipped
    | "action_required" => .running
    | _ => .unknown
  else if status ∈ [some "in_progress", some "waiting", some "pending"] then .running
  else if status ∈ [some "queued", some "requested"] then .queued
  else .unknown

structure Ask where
  pipeline : Pipeline
  owner : String
  repo : String
  workflow : String
  inputs : String
  userId : Option Nat
  triggeredAt : Int

inductive Stage where
  | begun
  | noted (previous : Option Int)
  | polling (previous : Option Int) (tries : Nat)
  | recorded (rowId : Int)
  /-- An exception left `trigger_pipeline`. -/
  | escaped
  deriving DecidableEq

structure Attempt where
  ask : Ask
  stage : Stage

/-- The runs of the workflow, newest first, and the triggers with their rows. -/
structure Workflow where
  runs : List WorkflowRun
  attempts : List Attempt
  rows : Table PipelineRun

inductive PreAnswer where
  /-- Refused before a request is sent: no token, or a field of the config missing. -/
  | refused (message : String)
  | unreachable (text : String)
  | raised
  | status (code : Nat)
  | listed

inductive DispatchAnswer where
  /-- No answer within the time; the dispatch may have been accepted. -/
  | unreachable (text : String) (created : Option Int)
  | raised (created : Option Int)
  | accepted (created : Int)
  | refused (code : Nat) (body : String)

inductive PollAnswer where
  | raised
  | status (code : Nat)
  | listed

inductive Happening where
  | dispatchedOutside (id : Int)
  | appears (id : Int)
  | progresses (id : Int) (status conclusion htmlUrl : Option String)
  | begin (ask : Ask)
  | readNewest (attempt : Nat) (now : Int) (answer : PreAnswer)
  | dispatch (attempt : Nat) (now : Int) (answer : DispatchAnswer)
  | pollNewest (attempt : Nat) (now : Int) (answer : PollAnswer)

def pollTries : Nat := 8

def newRun (id : Int) (origin : Option Nat) : WorkflowRun where
  id
  origin
  visible := false
  status := some "queued"
  conclusion := none
  htmlUrl := none

def notVisible : TriggerResult where
  externalId := none
  status := .queued
  htmlUrl := none

def found (top : WorkflowRun) : TriggerResult where
  externalId := some (toString top.id)
  status := mapStatus top.status top.conclusion
  htmlUrl := top.htmlUrl

namespace Workflow

variable (state : Workflow)

/-- `workflow_runs[0]` of the list with one entry a page. -/
def newest : Option WorkflowRun := state.runs.find? WorkflowRun.visible

def create (id : Int) (origin : Option Nat) : Option Workflow :=
  if id ∈ state.runs.map WorkflowRun.id then none
  else some { state with runs := newRun id origin :: state.runs }

def createdBy (attempt : Nat) : Option Int → Option Workflow
  | none => some state
  | some id => state.create id (some attempt)

def moveOn (attempt : Nat) (stage : Stage) : Workflow :=
  { state with attempts := state.attempts.modify attempt fun entry => { entry with stage } }

def record (attempt : Nat) (ask : Ask) (now : Int) (answer : Except String TriggerResult) : Workflow :=
  { state.moveOn attempt (.recorded state.rows.fresh) with
    rows := triggerPipeline state.rows ask.pipeline ask.inputs ask.userId ask.triggeredAt now answer }

def readNewest (attempt : Nat) (ask : Ask) (now : Int) : PreAnswer → Workflow
  | .refused message => state.record attempt ask now (.error message)
  | .unreachable text => state.record attempt ask now (.error ("GitHub unreachable: " ++ text))
  | .raised => state.moveOn attempt .escaped
  | .status 401 => state.record attempt ask now (.error "GitHub rejected the token (401)")
  | .status 404 =>
      state.record attempt ask now (.error ("GitHub workflow not found: " ++ ask.owner ++ "/" ++ ask.repo ++
        " " ++ ask.workflow))
  | .status _ => state.moveOn attempt .escaped
  | .listed => state.moveOn attempt (.noted (state.newest.map WorkflowRun.id))

def dispatch (attempt : Nat) (ask : Ask) (previous : Option Int) (now : Int) : DispatchAnswer → Option Workflow
  | .unreachable text created =>
      (state.createdBy attempt created).map fun after =>
        after.record attempt ask now (.error ("GitHub unreachable: " ++ text))
  | .raised created => (state.createdBy attempt created).map fun after => after.moveOn attempt .escaped
  | .accepted created =>
      (state.createdBy attempt (some created)).map fun after => after.moveOn attempt (.polling previous pollTries)
  | .refused 422 body =>
      some (state.record attempt ask now (.error ("GitHub rejected dispatch (422): " ++ Python.slice 0 200 body)))
  | .refused code body =>
      some (state.record attempt ask now
        (.error ("GitHub dispatch failed: " ++ toString code ++ " " ++ Python.slice 0 200 body)))

/-- Nothing new in this poll. -/
def pollAgain (attempt : Nat) (ask : Ask) (previous : Option Int) (tries : Nat) (now : Int) : Workflow :=
  if tries ≤ 1 then state.record attempt ask now (.ok notVisible)
  else state.moveOn attempt (.polling previous (tries - 1))

def pollNewest (attempt : Nat) (ask : Ask) (previous : Option Int) (tries : Nat) (now : Int) :
    PollAnswer → Workflow
  | .raised => state.moveOn attempt .escaped
  | .status _ => state.pollAgain attempt ask previous tries now
  | .listed =>
      match state.newest with
      | none => state.pollAgain attempt ask previous tries now
      | some top =>
          if previous ≠ some top.id then state.record attempt ask now (.ok (found top))
          else state.pollAgain attempt ask previous tries now

def alter (id : Int) (change : WorkflowRun → WorkflowRun) : Workflow :=
  { state with runs := state.runs.map fun run => if run.id = id then change run else run }

def step : Happening → Option Workflow
  | .dispatchedOutside id => state.create id none
  | .appears id => some (state.alter id fun run => { run with visible := true })
  | .progresses id status conclusion htmlUrl =>
      some (state.alter id fun run => { run with status, conclusion, htmlUrl })
  | .begin ask => some { state with attempts := state.attempts ++ [{ ask, stage := .begun }] }
  | .readNewest attempt now answer =>
      match state.attempts[attempt]? with
      | some ⟨ask, .begun⟩ => some (state.readNewest attempt ask now answer)
      | _ => none
  | .dispatch attempt now answer =>
      match state.attempts[attempt]? with
      | some ⟨ask, .noted previous⟩ => state.dispatch attempt ask previous now answer
      | _ => none
  | .pollNewest attempt now answer =>
      match state.attempts[attempt]? with
      | some ⟨ask, .polling previous tries⟩ => some (state.pollNewest attempt ask previous tries now answer)
      | _ => none

end Workflow

/-- Nothing of this workflow has been triggered by DOSM; others may have dispatched. -/
def Workflow.Starts (state : Workflow) : Prop :=
  state.attempts = [] ∧ state.rows = .empty ∧ (state.runs.map WorkflowRun.id).Nodup ∧
    ∀ run ∈ state.runs, run.origin = none

def machine : Machine Workflow Happening where
  initial := Workflow.Starts
  step := Workflow.step

end Dosm.Pipelines.GitHub

namespace Dosm.Pipelines.GitHub

open Models Transition

/-! Which run a trigger's row names.

A row names the trigger's own run as long as no poll meets another dispatcher's run
on top of the list; an accepted dispatch is recorded as such as long as it and the
polls after it are answered.
-/

/-- The row is not recorded as a failed trigger. A row that names a run may show the
failure that the run itself has met. -/
def Accepted (row : PipelineRun) : Prop :=
  row.error = none ∧ (row.status = .failed → row.externalId.isSome)

structure Attributed (state : Workflow) : Prop where
  own : ∀ index attempt rowId row text, state.attempts[index]? = some attempt → attempt.stage = .recorded rowId →
    state.rows.get rowId = some row → row.externalId = some text →
    ∃ run ∈ state.runs, run.origin = some index ∧ toString run.id = text
  distinct : ∀ first ∈ state.rows.rows, ∀ second ∈ state.rows.rows, ∀ text,
    first.externalId = some text → second.externalId = some text → first = second
  accepted : ∀ run ∈ state.runs, ∀ index, run.origin = some index →
    ∃ attempt, state.attempts[index]? = some attempt ∧ attempt.stage ≠ .escaped ∧
      ∀ rowId row, attempt.stage = .recorded rowId → state.rows.get rowId = some row → Accepted row

/-- A poll finds on top the run that was there before, or the trigger's own. -/
def OwnOnTop (state : Workflow) (index : Nat) : Prop :=
  ∀ attempt previous tries top, state.attempts[index]? = some attempt → attempt.stage = .polling previous tries →
    state.newest = some top → previous = some top.id ∨ top.origin = some index

def Undisturbed (state : Workflow) : Happening → Prop
  | .dispatch _ _ (.unreachable _ created) | .dispatch _ _ (.raised created) => created = none
  | .pollNewest _ _ .raised => False
  | .pollNewest index _ .listed => OwnOnTop state index
  | _ => True

inductive Sent (rows : Table PipelineRun) : Stage → Prop
  | polling (previous : Option Int) (tries : Nat) : Sent rows (.polling previous tries)
  | recorded {rowId : Int} {row : PipelineRun} (found : rows.get rowId = some row) (accepted : Accepted row) :
      Sent rows (.recorded rowId)

structure Tracked (state : Workflow) : Prop where
  ids : (state.runs.map WorkflowRun.id).Nodup
  created : ∀ run ∈ state.runs, ∀ index, run.origin = some index →
    ∃ attempt, state.attempts[index]? = some attempt ∧ Sent state.rows attempt.stage
  polled : ∀ index attempt previous tries, state.attempts[index]? = some attempt →
    attempt.stage = .polling previous tries → ∃ run ∈ state.runs, run.origin = some index
  recordedBy : ∀ row ∈ state.rows.rows, ∃ index : Nat, ∃ attempt : Attempt,
    state.attempts[index]? = some attempt ∧ attempt.stage = .recorded row.id
  present : ∀ index attempt rowId, state.attempts[index]? = some attempt → attempt.stage = .recorded rowId →
    ∃ row, state.rows.get rowId = some row ∧
      ∀ text, row.externalId = some text → ∃ run ∈ state.runs, run.origin = some index ∧ toString run.id = text

section Effects

variable {state after : Workflow} {index other : Nat} {attempt : Attempt} {stage : Stage} {ask : Ask} {now : Int}
variable {answer : Except String TriggerResult} {id : Int} {origin : Option Nat}

theorem moveOn_self (found : state.attempts[index]? = some attempt) :
    (state.moveOn index stage).attempts[index]? = some { attempt with stage } := by
  simp [Workflow.moveOn, found]

theorem moveOn_other (different : other ≠ index) :
    (state.moveOn index stage).attempts[other]? = state.attempts[other]? := by
  simp [Workflow.moveOn, different.symm]

theorem create_some (created : state.create id origin = some after) :
    id ∉ state.runs.map WorkflowRun.id ∧ after = { state with runs := newRun id origin :: state.runs } := by
  unfold Workflow.create at created
  split at created
  · cases created
  next fresh => exact ⟨fresh, (Option.some.inj created).symm⟩

def recordedRow (rows : Table PipelineRun) (ask : Ask) (now : Int) (answer : Except String TriggerResult) :
    PipelineRun :=
  triggeredRun ask.pipeline ask.inputs ask.userId ask.triggeredAt now answer rows.fresh

theorem triggeredRun_key : key (triggeredRun ask.pipeline ask.inputs ask.userId ask.triggeredAt now answer id) = id := by
  cases answer <;> rfl

theorem record_rows {row : PipelineRun} : row ∈ (state.record index ask now answer).rows.rows ↔
    row ∈ state.rows.rows ∨ row = recordedRow state.rows ask now answer := by
  have inserted : row ∈ (state.rows.insert _ fun _ => triggeredRun_key).rows ↔
      row ∈ state.rows.rows ∨ row = recordedRow state.rows ask now answer := Table.mem_insert
  exact inserted

theorem record_row :
    (state.record index ask now answer).rows.get state.rows.fresh = some (recordedRow state.rows ask now answer) :=
  Table.get_eq_some_iff.mpr ⟨record_rows.mpr (.inr rfl), triggeredRun_key⟩

theorem record_kept {row : PipelineRun} {rowId : Int} (found : state.rows.get rowId = some row) :
    (state.record index ask now answer).rows.get rowId = some row := by
  obtain ⟨member, same⟩ := Table.get_eq_some_iff.mp found
  exact Table.get_eq_some_iff.mpr ⟨record_rows.mpr (.inl member), same⟩

theorem recordedRow_accepted {result : TriggerResult} :
    Accepted (recordedRow state.rows ask now (.ok result)) ↔ (result.status = .failed → result.externalId.isSome) :=
  ⟨fun accepted => accepted.2, fun named => ⟨rfl, named⟩⟩

end Effects

section Preserved

variable {state after : Workflow} {index : Nat} {attempt : Attempt} {stage : Stage} {now : Int}
variable {answer : Except String TriggerResult} {id : Int}

def Unsent (state : Workflow) (index : Nat) : Prop := ∀ run ∈ state.runs, run.origin ≠ some index

theorem Tracked.unsent (tracked : Tracked state) (found : state.attempts[index]? = some attempt)
    (unsent : ¬ Sent state.rows attempt.stage) : Unsent state index := by
  intro run member origin
  obtain ⟨other, same, sent⟩ := tracked.created run member index origin
  cases Option.some.inj (found.symm.trans same)
  exact unsent sent

theorem Tracked.start (starts : state.Starts) : Tracked state where
  ids := starts.2.2.1
  created run member index origin := nomatch (starts.2.2.2 run member).symm.trans origin
  polled index attempt previous tries found := by
    rw [starts.1] at found
    cases found
  recordedBy row member := by
    rw [starts.2.1] at member
    cases member
  present index attempt rowId found := by
    rw [starts.1] at found
    cases found

theorem Tracked.alter {change : WorkflowRun → WorkflowRun} (tracked : Tracked state)
    (same : ∀ run, (change run).id = run.id ∧ (change run).origin = run.origin) : Tracked (state.alter id change) := by
  have altered (run : WorkflowRun) : (if run.id = id then change run else run).id = run.id ∧
      (if run.id = id then change run else run).origin = run.origin := by
    split
    · exact same run
    · exact ⟨rfl, rfl⟩
  have stays {holds : WorkflowRun → Prop} (kept : ∀ run, holds run → holds (if run.id = id then change run else run))
      (some : ∃ run ∈ state.runs, holds run) : ∃ run ∈ (state.alter id change).runs, holds run := by
    obtain ⟨run, member, held⟩ := some
    exact ⟨_, List.mem_map_of_mem member, kept run held⟩
  constructor
  case ids =>
    have unchanged : (state.alter id change).runs.map WorkflowRun.id = state.runs.map WorkflowRun.id := by
      rw [Workflow.alter, List.map_map]
      exact List.map_congr_left fun run _ => (altered run).1
    rw [unchanged]
    exact tracked.ids
  case created =>
    intro run member index origin
    obtain ⟨before, listed, rfl⟩ := List.mem_map.mp member
    exact tracked.created before listed index ((altered before).2.symm.trans origin)
  case polled =>
    intro index attempt previous tries found polling
    exact stays (fun run origin => (altered run).2.trans origin) (tracked.polled index attempt previous tries found polling)
  case recordedBy => exact tracked.recordedBy
  case present =>
    intro index attempt rowId found recorded
    obtain ⟨row, present, named⟩ := tracked.present index attempt rowId found recorded
    refine ⟨row, present, fun text external => stays ?_ (named text external)⟩
    intro run ⟨origin, sameId⟩
    exact ⟨(altered run).2.trans origin, by rw [(altered run).1, sameId]⟩

theorem Tracked.dispatchedOutside (tracked : Tracked state) (created : state.create id none = some after) :
    Tracked after := by
  obtain ⟨fresh, rfl⟩ := create_some created
  constructor
  case ids => exact List.nodup_cons.mpr ⟨fresh, tracked.ids⟩
  case created =>
    intro run member index origin
    rcases List.mem_cons.mp member with rfl | listed
    · cases origin
    · exact tracked.created run listed index origin
  case polled =>
    intro index attempt previous tries found polling
    obtain ⟨run, member, origin⟩ := tracked.polled index attempt previous tries found polling
    exact ⟨run, List.mem_cons_of_mem _ member, origin⟩
  case recordedBy => exact tracked.recordedBy
  case present =>
    intro index attempt rowId found recorded
    obtain ⟨row, present, named⟩ := tracked.present index attempt rowId found recorded
    refine ⟨row, present, fun text external => ?_⟩
    obtain ⟨run, member, own⟩ := named text external
    exact ⟨run, List.mem_cons_of_mem _ member, own⟩

theorem Tracked.begin {ask : Ask} (tracked : Tracked state) :
    Tracked { state with attempts := state.attempts ++ [{ ask, stage := .begun }] } := by
  have earlier {index : Nat} {attempt : Attempt} (found : state.attempts[index]? = some attempt) :
      (state.attempts ++ [({ ask, stage := .begun } : Attempt)])[index]? = some attempt := by
    rw [List.getElem?_append_left (List.getElem?_eq_some_iff.mp found).1]
    exact found
  have before {index : Nat} {attempt : Attempt}
      (found : (state.attempts ++ [({ ask, stage := .begun } : Attempt)])[index]? = some attempt)
      (further : attempt.stage ≠ .begun) : state.attempts[index]? = some attempt := by
    rw [List.getElem?_append] at found
    split at found
    · exact found
    · cases List.mem_singleton.mp (List.mem_of_getElem? found)
      exact absurd rfl further
  constructor
  case ids => exact tracked.ids
  case created =>
    intro run member index origin
    obtain ⟨attempt, found, sent⟩ := tracked.created run member index origin
    exact ⟨attempt, earlier found, sent⟩
  case polled =>
    intro index attempt previous tries found polling
    exact tracked.polled index attempt previous tries (before found (by rw [polling]; nofun)) polling
  case recordedBy =>
    intro row member
    obtain ⟨index, attempt, found, recorded⟩ := tracked.recordedBy row member
    exact ⟨index, attempt, earlier found, recorded⟩
  case present =>
    intro index attempt rowId found recorded
    exact tracked.present index attempt rowId (before found (by rw [recorded]; nofun)) recorded

theorem Tracked.moveOn (tracked : Tracked state) (found : state.attempts[index]? = some attempt)
    (unrecorded : ∀ rowId, attempt.stage ≠ .recorded rowId) (open_ : ∀ rowId, stage ≠ .recorded rowId)
    (fits : (∃ run ∈ state.runs, run.origin = some index) ↔ ∃ previous tries, stage = .polling previous tries) :
    Tracked (state.moveOn index stage) := by
  constructor
  case ids => exact tracked.ids
  case created =>
    intro run member other origin
    by_cases same : other = index
    · cases same
      obtain ⟨previous, tries, rfl⟩ := fits.mp ⟨run, member, origin⟩
      exact ⟨_, moveOn_self found, .polling previous tries⟩
    · obtain ⟨entry, listed, sent⟩ := tracked.created run member other origin
      exact ⟨entry, (moveOn_other same).trans listed, sent⟩
  case polled =>
    intro other entry previous tries listed polling
    by_cases same : other = index
    · cases same
      cases Option.some.inj ((moveOn_self found).symm.trans listed)
      exact fits.mpr ⟨previous, tries, polling⟩
    · exact tracked.polled other entry previous tries ((moveOn_other same).symm.trans listed) polling
  case recordedBy =>
    intro row member
    obtain ⟨other, entry, listed, recorded⟩ := tracked.recordedBy row member
    have different : other ≠ index := by
      rintro rfl
      cases Option.some.inj (found.symm.trans listed)
      exact unrecorded row.id recorded
    exact ⟨other, entry, (moveOn_other different).trans listed, recorded⟩
  case present =>
    intro other entry rowId listed recorded
    by_cases same : other = index
    · cases same
      cases Option.some.inj ((moveOn_self found).symm.trans listed)
      exact absurd recorded (open_ rowId)
    · exact tracked.present other entry rowId ((moveOn_other same).symm.trans listed) recorded

theorem Tracked.record {ask : Ask} (tracked : Tracked state) (found : state.attempts[index]? = some attempt)
    (unrecorded : ∀ rowId, attempt.stage ≠ .recorded rowId)
    (accepted : (∃ run ∈ state.runs, run.origin = some index) → Accepted (recordedRow state.rows ask now answer))
    (named : ∀ text, (recordedRow state.rows ask now answer).externalId = some text →
      ∃ run ∈ state.runs, run.origin = some index ∧ toString run.id = text) :
    Tracked (state.record index ask now answer) := by
  have self : (state.record index ask now answer).attempts[index]? =
      some { attempt with stage := .recorded state.rows.fresh } := moveOn_self found
  have elsewhere {other : Nat} (different : other ≠ index) :
      (state.record index ask now answer).attempts[other]? = state.attempts[other]? := moveOn_other different
  constructor
  case ids => exact tracked.ids
  case created =>
    intro run member other origin
    by_cases same : other = index
    · cases same
      exact ⟨_, self, .recorded record_row (accepted ⟨run, member, origin⟩)⟩
    · obtain ⟨entry, listed, sent⟩ := tracked.created run member other origin
      refine ⟨entry, (elsewhere same).trans listed, ?_⟩
      generalize entry.stage = current at sent
      cases sent with
      | polling previous tries => exact .polling previous tries
      | recorded present fine => exact .recorded (record_kept present) fine
  case polled =>
    intro other entry previous tries listed polling
    by_cases same : other = index
    · cases same
      cases Option.some.inj (self.symm.trans listed)
      cases polling
    · exact tracked.polled other entry previous tries ((elsewhere same).symm.trans listed) polling
  case recordedBy =>
    intro row member
    rcases record_rows.mp member with earlier | rfl
    · obtain ⟨other, entry, listed, recorded⟩ := tracked.recordedBy row earlier
      have different : other ≠ index := by
        rintro rfl
        cases Option.some.inj (found.symm.trans listed)
        exact unrecorded row.id recorded
      exact ⟨other, entry, (elsewhere different).trans listed, recorded⟩
    · have fresh : (recordedRow state.rows ask now answer).id = state.rows.fresh := triggeredRun_key
      exact ⟨index, _, self, by rw [fresh]⟩
  case present =>
    intro other entry rowId listed recorded
    by_cases same : other = index
    · cases same
      cases Option.some.inj (self.symm.trans listed)
      cases recorded
      exact ⟨_, record_row, named⟩
    · obtain ⟨row, present, own⟩ :=
        tracked.present other entry rowId ((elsewhere same).symm.trans listed) recorded
      exact ⟨row, record_kept present, own⟩

theorem Tracked.accepted {previous : Option Int} {tries : Nat} (tracked : Tracked state)
    (found : state.attempts[index]? = some attempt) (noted : attempt.stage = .noted previous)
    (created : state.create id (some index) = some after) : Tracked (after.moveOn index (.polling previous tries)) := by
  obtain ⟨fresh, rfl⟩ := create_some created
  generalize grown : ({ state with runs := newRun id (some index) :: state.runs } : Workflow) = after at *
  have attempts : after.attempts = state.attempts := by rw [← grown]
  have rows : after.rows = state.rows := by rw [← grown]
  have runs : after.runs = newRun id (some index) :: state.runs := by rw [← grown]
  have self : (after.moveOn index (.polling previous tries)).attempts[index]? =
      some { attempt with stage := .polling previous tries } := moveOn_self (by rw [attempts]; exact found)
  have elsewhere {other : Nat} (different : other ≠ index) :
      (after.moveOn index (.polling previous tries)).attempts[other]? = state.attempts[other]? := by
    rw [moveOn_other different, attempts]
  have own : newRun id (some index) ∈ (after.moveOn index (.polling previous tries)).runs := by
    change _ ∈ after.runs
    rw [runs]
    exact List.mem_cons_self
  have kept {run : WorkflowRun} (member : run ∈ state.runs) :
      run ∈ (after.moveOn index (.polling previous tries)).runs := by
    change _ ∈ after.runs
    rw [runs]
    exact List.mem_cons_of_mem _ member
  constructor
  case ids =>
    change (after.runs.map WorkflowRun.id).Nodup
    rw [runs]
    exact List.nodup_cons.mpr ⟨fresh, tracked.ids⟩
  case created =>
    intro run member other origin
    by_cases same : other = index
    · cases same
      exact ⟨_, self, .polling previous tries⟩
    · have listed : run ∈ newRun id (some index) :: state.runs := by
        rw [← runs]
        exact member
      rcases List.mem_cons.mp listed with rfl | earlier
      · exact absurd (Option.some.inj origin).symm same
      · obtain ⟨entry, present, sent⟩ := tracked.created run earlier other origin
        refine ⟨entry, (elsewhere same).trans present, ?_⟩
        change Sent after.rows entry.stage
        rw [rows]
        exact sent
  case polled =>
    intro other entry before left listed polling
    by_cases same : other = index
    · cases same
      exact ⟨_, own, rfl⟩
    · obtain ⟨run, member, origin⟩ :=
        tracked.polled other entry before left ((elsewhere same).symm.trans listed) polling
      exact ⟨run, kept member, origin⟩
  case recordedBy =>
    intro row member
    have earlier : row ∈ state.rows.rows := by
      rw [← rows]
      exact member
    obtain ⟨other, entry, listed, recorded⟩ := tracked.recordedBy row earlier
    have different : other ≠ index := by
      rintro rfl
      cases Option.some.inj (found.symm.trans listed)
      exact nomatch noted.symm.trans recorded
    exact ⟨other, entry, (elsewhere different).trans listed, recorded⟩
  case present =>
    intro other entry rowId listed recorded
    by_cases same : other = index
    · cases same
      cases Option.some.inj (self.symm.trans listed)
      cases recorded
    · obtain ⟨row, present, named⟩ :=
        tracked.present other entry rowId ((elsewhere same).symm.trans listed) recorded
      refine ⟨row, ?_, fun text external => ?_⟩
      · change after.rows.get rowId = _
        rw [rows]
        exact present
      · obtain ⟨run, member, origin⟩ := named text external
        exact ⟨run, kept member, origin⟩

theorem Tracked.attributed (tracked : Tracked state) : Attributed state := by
  constructor
  case own =>
    intro index attempt rowId row text found recorded present external
    obtain ⟨same, listed, named⟩ := tracked.present index attempt rowId found recorded
    cases Option.some.inj (listed.symm.trans present)
    exact named text external
  case distinct =>
    intro first firstMember second secondMember text firstNamed secondNamed
    have creator (row : PipelineRun) (member : row ∈ state.rows.rows) (external : row.externalId = some text) :
        ∃ index, ∃ attempt : Attempt, state.attempts[index]? = some attempt ∧ attempt.stage = .recorded row.id ∧
          ∃ run ∈ state.runs, run.origin = some index ∧ toString run.id = text := by
      obtain ⟨index, attempt, found, recorded⟩ := tracked.recordedBy row member
      obtain ⟨same, listed, named⟩ := tracked.present index attempt row.id found recorded
      cases Option.some.inj (listed.symm.trans (Table.get_key member))
      exact ⟨index, attempt, found, recorded, named text external⟩
    obtain ⟨index, attempt, found, recorded, run, member, origin, sameText⟩ := creator first firstMember firstNamed
    obtain ⟨other, entry, listed, stored, twin, twinMember, twinOrigin, twinText⟩ :=
      creator second secondMember secondNamed
    have sameId : run.id = twin.id := by
      have parsed := congrArg Python.parseInt (sameText.trans twinText.symm)
      rw [Python.parseInt_toString, Python.parseInt_toString] at parsed
      exact Option.some.inj parsed
    cases List.inj_on_of_nodup_map tracked.ids member twinMember sameId
    cases Option.some.inj (origin.symm.trans twinOrigin)
    cases Option.some.inj (found.symm.trans listed)
    have sameRow : first.id = second.id := Stage.recorded.inj (recorded.symm.trans stored)
    exact Table.eq_of_key firstMember secondMember sameRow
  case accepted =>
    intro run member index origin
    obtain ⟨attempt, found, sent⟩ := tracked.created run member index origin
    refine ⟨attempt, found, ?_⟩
    generalize attempt.stage = stage at sent ⊢
    cases sent with
    | polling previous tries =>
        exact ⟨Stage.noConfusion, fun _ _ same => Stage.noConfusion same⟩
    | recorded present fine =>
        refine ⟨Stage.noConfusion, ?_⟩
        intro rowId row same listed
        cases Stage.recorded.inj same
        cases Option.some.inj (present.symm.trans listed)
        exact fine

end Preserved

section Step

variable {state after : Workflow} {index : Nat} {ask : Ask} {stage : Stage} {now : Int} {previous : Option Int}
variable {tries : Nat} {label : Happening}

theorem Tracked.refused {message : String} (tracked : Tracked state)
    (found : state.attempts[index]? = some ⟨ask, stage⟩) (unsent : ¬ Sent state.rows stage)
    (unrecorded : ∀ rowId, stage ≠ .recorded rowId) : Tracked (state.record index ask now (.error message)) := by
  refine tracked.record found unrecorded ?_ nofun
  rintro ⟨run, member, origin⟩
  exact absurd origin (tracked.unsent found unsent run member)

theorem Tracked.pass {next : Stage} (tracked : Tracked state)
    (found : state.attempts[index]? = some ⟨ask, stage⟩) (unsent : ¬ Sent state.rows stage)
    (unrecorded : ∀ rowId, stage ≠ .recorded rowId) (open_ : ∀ rowId, next ≠ .recorded rowId)
    (idle : ∀ previous tries, next ≠ .polling previous tries) : Tracked (state.moveOn index next) := by
  refine tracked.moveOn found unrecorded open_ (iff_of_false ?_ ?_)
  · rintro ⟨run, member, origin⟩
    exact tracked.unsent found unsent run member origin
  · rintro ⟨previous, tries, polling⟩
    exact idle previous tries polling

theorem Tracked.readNewest {answer : PreAnswer} (tracked : Tracked state)
    (found : state.attempts[index]? = some ⟨ask, .begun⟩) : Tracked (state.readNewest index ask now answer) := by
  unfold Workflow.readNewest
  split
  all_goals
    first
    | exact tracked.refused found nofun nofun
    | exact tracked.pass found nofun nofun nofun nofun

theorem Tracked.dispatch {answer : DispatchAnswer} (tracked : Tracked state)
    (found : state.attempts[index]? = some ⟨ask, .noted previous⟩)
    (undisturbed : Undisturbed state (.dispatch index now answer))
    (dispatched : state.dispatch index ask previous now answer = some after) : Tracked after := by
  unfold Workflow.dispatch at dispatched
  split at dispatched
  next text created =>
    cases (show created = none from undisturbed)
    cases dispatched
    exact tracked.refused found nofun nofun
  next created =>
    cases (show created = none from undisturbed)
    cases dispatched
    exact tracked.pass found nofun nofun nofun nofun
  next created =>
    obtain ⟨grown, made, rfl⟩ := Option.map_eq_some_iff.mp dispatched
    exact tracked.accepted found rfl made
  next body =>
    cases dispatched
    exact tracked.refused found nofun nofun
  next code body other =>
    cases dispatched
    exact tracked.refused found nofun nofun

theorem Tracked.pollAgain (tracked : Tracked state)
    (found : state.attempts[index]? = some ⟨ask, .polling previous tries⟩) :
    Tracked (state.pollAgain index ask previous tries now) := by
  unfold Workflow.pollAgain
  split
  · refine tracked.record found nofun (fun _ => recordedRow_accepted.mpr nofun) nofun
  · refine tracked.moveOn found nofun nofun (iff_of_true ?_ ⟨previous, tries - 1, rfl⟩)
    exact tracked.polled index _ previous tries found rfl

theorem Tracked.pollNewest {answer : PollAnswer} (tracked : Tracked state)
    (found : state.attempts[index]? = some ⟨ask, .polling previous tries⟩)
    (undisturbed : Undisturbed state (.pollNewest index now answer)) :
    Tracked (state.pollNewest index ask previous tries now answer) := by
  unfold Workflow.pollNewest
  split
  next => exact undisturbed.elim
  next => exact tracked.pollAgain found
  next =>
    split
    next => exact tracked.pollAgain found
    next top onTop =>
      split
      next differs =>
        have own : top.origin = some index :=
          (undisturbed _ previous tries top found rfl onTop).resolve_left differs
        refine tracked.record found nofun (fun _ => recordedRow_accepted.mpr fun _ => rfl) ?_
        intro text named
        cases Option.some.inj named
        exact ⟨top, List.mem_of_find?_eq_some onTop, own, rfl⟩
      next => exact tracked.pollAgain found

theorem Tracked.step (tracked : Tracked state) (undisturbed : Undisturbed state label)
    (stepped : state.step label = some after) : Tracked after := by
  cases label with
  | dispatchedOutside id => exact tracked.dispatchedOutside stepped
  | appears id =>
      cases stepped
      exact tracked.alter fun _ => ⟨rfl, rfl⟩
  | progresses id status conclusion htmlUrl =>
      cases stepped
      exact tracked.alter fun _ => ⟨rfl, rfl⟩
  | begin ask =>
      cases stepped
      exact tracked.begin
  | readNewest index now answer =>
      simp only [Workflow.step] at stepped
      split at stepped
      next ask found =>
        cases stepped
        exact tracked.readNewest found
      next => cases stepped
  | dispatch index now answer =>
      simp only [Workflow.step] at stepped
      split at stepped
      next ask previous found => exact tracked.dispatch found undisturbed stepped
      next => cases stepped
  | pollNewest index now answer =>
      simp only [Workflow.step] at stepped
      split at stepped
      next ask previous tries found =>
        cases stepped
        exact tracked.pollNewest found undisturbed
      next => cases stepped

theorem not_attributed {run : WorkflowRun} {attempt : Attempt} (member : run ∈ after.runs)
    (origin : run.origin = some index) (found : after.attempts[index]? = some attempt)
    (lost : attempt.stage = .escaped ∨ ∃ rowId row, attempt.stage = .recorded rowId ∧
      after.rows.get rowId = some row ∧ row.error ≠ none) : ¬ Attributed after := by
  intro attributed
  obtain ⟨same, listed, stays, fine⟩ := attributed.accepted run member index origin
  cases Option.some.inj (listed.symm.trans found)
  rcases lost with escaped | ⟨rowId, row, recorded, present, error⟩
  · exact stays escaped
  · exact error (fine rowId row recorded present).1

theorem disturbed_dispatch {answer : DispatchAnswer} (found : state.attempts[index]? = some ⟨ask, .noted previous⟩)
    (disturbed : ¬ Undisturbed state (.dispatch index now answer))
    (dispatched : state.dispatch index ask previous now answer = some after) : ¬ Attributed after := by
  cases answer with
  | accepted created => exact absurd trivial disturbed
  | refused code body => exact absurd trivial disturbed
  | unreachable text created =>
      obtain ⟨id, rfl⟩ := Option.ne_none_iff_exists'.mp disturbed
      obtain ⟨grown, made, rfl⟩ := Option.map_eq_some_iff.mp dispatched
      obtain ⟨-, rfl⟩ := create_some made
      exact not_attributed List.mem_cons_self rfl (moveOn_self found) (.inr ⟨_, _, rfl, record_row, nofun⟩)
  | raised created =>
      obtain ⟨id, rfl⟩ := Option.ne_none_iff_exists'.mp disturbed
      obtain ⟨grown, made, rfl⟩ := Option.map_eq_some_iff.mp dispatched
      obtain ⟨-, rfl⟩ := create_some made
      exact not_attributed List.mem_cons_self rfl (moveOn_self found) (.inl rfl)

theorem disturbed_poll {answer : PollAnswer} (tracked : Tracked state)
    (found : state.attempts[index]? = some ⟨ask, .polling previous tries⟩)
    (disturbed : ¬ Undisturbed state (.pollNewest index now answer)) :
    ¬ Attributed (state.pollNewest index ask previous tries now answer) := by
  cases answer with
  | status code => exact absurd trivial disturbed
  | raised =>
      obtain ⟨run, member, origin⟩ := tracked.polled index _ previous tries found rfl
      exact not_attributed member origin (moveOn_self found) (.inl rfl)
  | listed =>
      simp only [Undisturbed, OwnOnTop, not_forall, not_or] at disturbed
      obtain ⟨entry, before, left, top, listed, polling, onTop, differs, foreign⟩ := disturbed
      cases Option.some.inj (found.symm.trans listed)
      cases polling
      simp only [Workflow.pollNewest, onTop, if_pos differs]
      intro attributed
      obtain ⟨run, member, origin, same⟩ := attributed.own index _ _ _ _ (moveOn_self found) rfl record_row rfl
      have parsed := congrArg Python.parseInt same
      rw [Python.parseInt_toString, Python.parseInt_toString] at parsed
      cases List.inj_on_of_nodup_map tracked.ids member (List.mem_of_find?_eq_some onTop) (Option.some.inj parsed)
      exact foreign origin

theorem Tracked.undisturbed_iff (tracked : Tracked state) (stepped : state.step label = some after) :
    Attributed after ↔ Undisturbed state label := by
  refine ⟨fun attributed => ?_, fun undisturbed => (tracked.step undisturbed stepped).attributed⟩
  by_contra disturbed
  cases label with
  | dispatchedOutside id | appears id | progresses id status conclusion htmlUrl | begin ask
  | readNewest index now answer => exact disturbed trivial
  | dispatch index now answer =>
      simp only [Workflow.step] at stepped
      split at stepped
      next ask previous found => exact disturbed_dispatch found disturbed stepped attributed
      next => cases stepped
  | pollNewest index now answer =>
      simp only [Workflow.step] at stepped
      split at stepped
      next ask previous tries found =>
        cases stepped
        exact disturbed_poll tracked found disturbed attributed
      next => cases stepped

end Step

/-- In every interleaving that disturbs no trigger, a row names the run of its own
dispatch, no two rows name one run, and no accepted dispatch is lost or recorded as
failed; the first step that disturbs a trigger ends this. -/
theorem github_attribution {state : Workflow} (reached : machine.ReachableUnder Undisturbed state) :
    Attributed state ∧ ∀ label after, state.step label = some after →
      (Attributed after ↔ Undisturbed state label) := by
  have tracked : Tracked state := reached.invariant (fun _ starts => .start starts)
    fun _ _ _ undisturbed stepped before => before.step undisturbed stepped
  exact ⟨tracked.attributed, fun label after stepped => tracked.undisturbed_iff stepped⟩

def deployAsk : Ask where
  pipeline := {
    id := 1
    tenantId := 1
    name := "deploy"
    provider := "github_actions"
    description := none
    config := "\x7b\x7d"
    inputsSchema := none
    credentialId := none
    ownerId := none
    visibility := .shared
    orgUnitId := none }
  owner := "acme"
  repo := "site"
  workflow := "deploy.yml"
  inputs := "\x7b\x7d"
  userId := some 1
  triggeredAt := 0

def unused : Workflow where
  runs := []
  attempts := []
  rows := .empty

theorem unused_starts : unused.Starts := ⟨rfl, rfl, List.nodup_nil, nofun⟩

/-- The ids of the rows, and the runs they name. -/
def Workflow.named (state : Workflow) : List (Int × Option String) :=
  state.rows.rows.map fun row => (row.id, row.externalId)

def alone : List Happening :=
  [.begin deployAsk, .readNewest 0 1 .listed, .dispatch 0 2 (.accepted 11), .appears 11, .pollNewest 0 3 .listed]

/-- A trigger that nobody disturbs names its own run. -/
theorem github_attribution_alone :
    ∃ state, machine.run unused alone = some state ∧ state.named = [(1, some "11")] ∧ Attributed state := by
  have named : (machine.run unused alone).map Workflow.named = some [(1, some "11")] := by decide
  obtain ⟨state, completed, rows⟩ := Option.map_eq_some_iff.mp named
  refine ⟨state, completed, rows, ?_⟩
  have undisturbed : machine.Meets Undisturbed unused alone := by
    refine Machine.meets_cons rfl trivial (Machine.meets_cons rfl trivial (Machine.meets_cons rfl trivial
      (Machine.meets_cons rfl trivial (Machine.meets_cons rfl ?_ trivial))))
    intro attempt previous tries top listed polling onTop
    cases onTop
    exact .inr rfl
  exact (github_attribution ⟨unused, alone, unused_starts, completed, undisturbed⟩).1

def crossed : List Happening :=
  [.begin deployAsk, .begin deployAsk, .readNewest 0 1 .listed, .readNewest 1 1 .listed,
    .dispatch 0 2 (.accepted 11), .dispatch 1 2 (.accepted 12), .appears 11, .appears 12,
    .pollNewest 0 3 .listed, .pollNewest 1 3 .listed]

def cutOff : List Happening :=
  [.begin deployAsk, .readNewest 0 1 .listed, .dispatch 0 2 (.accepted 11), .pollNewest 0 3 .raised]

def Workflow.sentAndLeft (state : Workflow) : List (Option Nat) × List Stage :=
  (state.runs.map WorkflowRun.origin, state.attempts.map Attempt.stage)

/-- Both rows name the run of the second trigger; an exception after an accepted
dispatch leaves no row at all. -/
theorem triggers_name_one_run :
    (∃ state, machine.Reachable state ∧ state.named = [(1, some "12"), (2, some "12")] ∧ ¬ Attributed state) ∧
    ∃ state, machine.Reachable state ∧ state.sentAndLeft = ([some 0], [.escaped]) ∧ ¬ Attributed state := by
  constructor
  · have named : (machine.run unused crossed).map Workflow.named = some [(1, some "12"), (2, some "12")] := by
      decide
    obtain ⟨state, completed, rows⟩ := Option.map_eq_some_iff.mp named
    refine ⟨state, ⟨unused, crossed, unused_starts, completed⟩, rows, fun attributed => ?_⟩
    have listed (entry : Int × Option String) (inside : entry ∈ state.named) :
        ∃ row ∈ state.rows.rows, (row.id, row.externalId) = entry := List.mem_map.mp inside
    rw [rows] at listed
    obtain ⟨first, firstMember, firstNamed⟩ := listed (1, some "12") List.mem_cons_self
    obtain ⟨second, secondMember, secondNamed⟩ := listed (2, some "12") (List.mem_cons_of_mem _ List.mem_cons_self)
    have same := attributed.distinct first firstMember second secondMember "12"
      (congrArg Prod.snd firstNamed) (congrArg Prod.snd secondNamed)
    rw [same] at firstNamed
    cases firstNamed.symm.trans secondNamed
  · have left : (machine.run unused cutOff).map Workflow.sentAndLeft = some ([some 0], [.escaped]) := by
      decide
    obtain ⟨state, completed, stages⟩ := Option.map_eq_some_iff.mp left
    refine ⟨state, ⟨unused, cutOff, unused_starts, completed⟩, stages, ?_⟩
    have sent : some 0 ∈ state.runs.map WorkflowRun.origin := by
      rw [show state.runs.map WorkflowRun.origin = [some 0] from congrArg Prod.fst stages]
      exact List.mem_cons_self
    obtain ⟨run, member, origin⟩ := List.mem_map.mp sent
    have ended : (state.attempts[0]?).map Attempt.stage = some .escaped := by
      rw [← List.getElem?_map, show state.attempts.map Attempt.stage = [.escaped] from congrArg Prod.snd stages]
      rfl
    obtain ⟨attempt, found, escaped⟩ := Option.map_eq_some_iff.mp ended
    exact not_attributed member origin found (.inl escaped)

end Dosm.Pipelines.GitHub
