import Dosm.Base.KeyedFold
import Dosm.Recording.Starting

namespace Dosm.Recording

open Models Python Transition

/-! What a restart makes of the recordings that were going on.

The map in memory is gone, and the rows are still active. They are aborted one after the
other, each with its own temporary file, and a file that fails does not stop the loop.
-/

/-- How the journal of a row is finalised. A move that raises leaves the temporary file, and
anything at the final place. -/
inductive Aborting where
  | finalised (unlinked : Bool)
  | raised (left : Option String)
  | unwritten

structure Restart where
  time : String
  ends : String → Aborting
  commits : Bool

def abortNote (time : String) : String := "\n---\n\n*Recording aborted: server restarted at " ++ time ++ ".*\n"

def sessionPath (config : RecordingConfig) (slug : String) : String := config.sessionsDir ++ "/" ++ slug ++ ".md"

def RecordingSession.abortedAt (path : Option String) (row : RecordingSession) : RecordingSession :=
  { row with status := .aborted, journalPath := path.or row.journalPath }

namespace Restart

/-- What the temporary and the final file hold afterwards, and the path that is noted in the row. -/
def abortJournal (restart : Restart) (config : RecordingConfig) (slug : String) (journal final : Option String) :
    Option String × Option String × Option String :=
  match journal with
  | none => (none, final, none)
  | some text =>
      let noted := text ++ abortNote restart.time
      match restart.ends slug with
      | .finalised unlinked => (if unlinked then none else some noted, some noted, some (sessionPath config slug))
      | .raised left => (some noted, left, none)
      | .unwritten => (some text, final, none)

def abortRow (restart : Restart) (config : RecordingConfig) (state : Recorder) (row : RecordingSession) : Recorder :=
  let path := sessionPath config row.slug
  let ended := restart.abortJournal config row.slug (state.journals row.slug) (state.finished path)
  { state with
    journals := Function.update state.journals row.slug ended.1
    finished := Function.update state.finished path ended.2.1
    sessions := state.sessions.modify row.id (RecordingSession.abortedAt ended.2.2) }

def abortRows (restart : Restart) (config : RecordingConfig) (state : Recorder) : Recorder :=
  (state.sessions.rows.filter (·.status = .active)).foldl (restart.abortRow config)
    { state with active := fun _ => none }

/-- The rows change with the commit; the files have been moved by then. -/
def abortStaleRecordings (restart : Restart) (config : RecordingConfig) (state : Recorder) : Recorder :=
  let after := restart.abortRows config state
  if restart.commits then after else { after with sessions := state.sessions }

def endedAs (restart : Restart) (config : RecordingConfig) (state : Recorder) (row : RecordingSession) :
    RecordingSession :=
  if row.status = .active then row.abortedAt (restart.abortJournal config row.slug (state.journals row.slug)
    (state.finished (sessionPath config row.slug))).2.2
  else row

end Restart

inductive Event where
  | request (request : Request)
  | restart (restart : Restart)

/-- The recorder over any number of lives of the server. -/
def Recorder.lives (config : RecordingConfig) : Machine Recorder Event where
  initial := Recorder.Starts
  step state
    | .request request => some (state.serve config request).1
    | .restart restart => some (restart.abortStaleRecordings config state)

/-- Nothing is active, a row that was is aborted, and no journal has lost anything. -/
structure Recovered (config : RecordingConfig) (restart : Restart) (before after : Recorder) : Prop where
  starts : after.Starts
  rows : ∀ row, row ∈ after.sessions.rows ↔ ∃ old ∈ before.sessions.rows, row = restart.endedAs config before old
  texts : ∀ slug text, before.journals slug = some text → ∃ note,
    after.journals slug = some (text ++ note) ∨ after.finished (sessionPath config slug) = some (text ++ note)
  linked : ∀ row ∈ before.sessions.rows, row.status = .active → ∀ unlinked,
    restart.ends row.slug = .finalised unlinked → ∀ text, before.journals row.slug = some text →
      after.finished (sessionPath config row.slug) = some (text ++ abortNote restart.time)
  others : ∀ slug, (∀ row ∈ before.sessions.rows, row.status = .active → row.slug ≠ slug) →
    after.journals slug = before.journals slug ∧
      after.finished (sessionPath config slug) = before.finished (sessionPath config slug)

section Loop

variable {config : RecordingConfig} {restart : Restart} {before state : Recorder} {row : RecordingSession}

theorem sessionPath_injective {first second : String} (same : sessionPath config first = sessionPath config second) :
    first = second := by
  have files : config.sessionsDir ++ "/" ++ journalFile first = config.sessionsDir ++ "/" ++ journalFile second := by
    simpa only [sessionPath, journalFile, String.append_assoc] using same
  exact journalFile_injective (String.append_right_inj _ |>.mp files)

/-- Each row has the id and the slug of one from before the loop. -/
def Paired (before state : Recorder) : Prop :=
  ∀ row ∈ state.sessions.rows, ∃ old ∈ before.sessions.rows, old.id = row.id ∧ old.slug = row.slug

/-- The rows and the files of a slug are the same. -/
def SameAt (config : RecordingConfig) (slug : String) (first second : Recorder) : Prop :=
  first.journals slug = second.journals slug ∧
    first.finished (sessionPath config slug) = second.finished (sessionPath config slug) ∧
    first.sessions.rows.filter (·.slug = slug) = second.sessions.rows.filter (·.slug = slug)

theorem abortRow_rows {slug : String} :
    ((restart.abortRow config state row).sessions.rows.filter (·.slug = slug)) =
      (state.sessions.rows.filter (·.slug = slug)).map fun other => if other.id = row.id then
        other.abortedAt (restart.abortJournal config row.slug (state.journals row.slug)
          (state.finished (sessionPath config row.slug))).2.2
      else other := by
  change (List.map _ _).filter _ = _
  rw [List.filter_map]
  congr 1
  apply List.filter_congr
  intro other _
  simp only [Function.comp_apply]
  split <;> rfl

theorem abortRow_paired (paired : Paired before state) : Paired before (restart.abortRow config state row) := by
  intro now member
  obtain ⟨old, listed, rfl⟩ := List.mem_map.mp member
  obtain ⟨first, was, sameId, sameSlug⟩ := paired old listed
  refine ⟨first, was, ?_⟩
  split <;> exact ⟨sameId, sameSlug⟩

/-- A row concerns the files of its slug, and no other row. -/
theorem abortRow_concerns (member : row ∈ before.sessions.rows) :
    ConcernsOnly (Paired before) (SameAt config) row.slug fun state => restart.abortRow config state row where
  keeps state paired := abortRow_paired paired
  others state paired other different := by
    refine ⟨Function.update_of_ne different _ _, Function.update_of_ne ?_ _ _, ?_⟩
    · exact fun same => different (sessionPath_injective same)
    · rw [abortRow_rows]
      refine (List.map_congr_left fun now listed => ?_).trans (List.map_id _)
      obtain ⟨present, slug⟩ := List.mem_filter.mp listed
      obtain ⟨old, was, sameId, sameSlug⟩ := paired now present
      refine if_neg fun sameRow => ?_
      have origin : old = row := Table.eq_of_key was member (sameId.trans sameRow)
      exact different ((of_decide_eq_true slug).symm.trans (sameSlug.symm.trans (congrArg _ origin)))
  own first second same := by
    obtain ⟨journals, finished, rows⟩ := same
    refine ⟨?_, ?_, ?_⟩
    · simp [Restart.abortRow, journals, finished]
    · simp [Restart.abortRow, journals, finished]
    · rw [abortRow_rows, abortRow_rows, journals, finished, rows]

/-- What the loop leaves of each slug. -/
theorem loop_spec (distinct : state.sessions.Distinct RecordingSession.slug) :
    (∀ slug, (∀ row ∈ state.sessions.rows, row.status = .active → row.slug ≠ slug) →
      SameAt config slug (restart.abortRows config state) state) ∧
    ∀ row ∈ state.sessions.rows, row.status = .active →
      SameAt config row.slug (restart.abortRows config state) (restart.abortRow config state row) := by
  let begun : Recorder := { state with active := fun _ => none }
  let stale := state.sessions.rows.filter (·.status = .active)
  have members : ∀ row ∈ stale, row ∈ begun.sessions.rows := fun row listed => (List.mem_filter.mp listed).1
  have ids : (stale.map RecordingSession.id).Nodup := state.sessions.unique.sublist (List.filter_sublist.map _)
  have slugs : (stale.map RecordingSession.slug).Nodup := by
    refine List.Nodup.map_on (fun first listed second other same => ?_) (List.Nodup.of_map _ ids)
    exact Table.eq_of_key (members first listed) (members second other)
      (distinct first (members first listed) second (members second other) same)
  have ran := @runTasks_spec Recorder String (Paired begun) (SameAt config) begun (fun _ _ => ⟨rfl, rfl, rfl⟩)
    (fun _ _ _ _ one two => ⟨one.1.trans two.1, one.2.1.trans two.2.1, one.2.2.trans two.2.2⟩)
    (stale.map fun row => (row.slug, fun state => restart.abortRow config state row))
    (by rw [List.map_map]; exact slugs)
    (fun task listed => by
      obtain ⟨row, member, rfl⟩ := List.mem_map.mp listed
      exact abortRow_concerns (members row member))
    (fun row member => ⟨row, member, rfl, rfl⟩)
  have folded : runTasks begun (stale.map fun row => (row.slug, fun state => restart.abortRow config state row)) =
      restart.abortRows config state := by
    rw [runTasks, List.foldl_map]
    rfl
  rw [folded] at ran
  constructor
  · intro slug absent
    apply ran.others
    intro among
    obtain ⟨task, listed, same⟩ := List.mem_map.mp among
    obtain ⟨row, member, rfl⟩ := List.mem_map.mp listed
    obtain ⟨present, active⟩ := List.mem_filter.mp member
    exact absent row present (of_decide_eq_true active) same
  · intro row present active
    have listed : row ∈ stale := List.mem_filter.mpr ⟨present, decide_eq_true active⟩
    exact ran.each _ (List.mem_map_of_mem listed)

theorem mem_slug {rows : List RecordingSession} : row ∈ rows ↔ row ∈ rows.filter (·.slug = row.slug) := by
  simp

theorem loop_rows (distinct : state.sessions.Distinct RecordingSession.slug) :
    row ∈ (restart.abortRows config state).sessions.rows ↔
      ∃ old ∈ state.sessions.rows, row = restart.endedAs config state old := by
  obtain ⟨others, each⟩ := @loop_spec config restart state distinct
  have alone : ∀ first ∈ state.sessions.rows, ∀ second ∈ state.sessions.rows, first.slug = second.slug → first = second :=
    fun first one second two same => Table.eq_of_key one two (distinct first one second two same)
  constructor
  · intro member
    rw [mem_slug] at member
    by_cases stale : ∃ mine ∈ state.sessions.rows, mine.status = .active ∧ mine.slug = row.slug
    · obtain ⟨mine, present, active, slug⟩ := stale
      rw [← slug, (each mine present active).2.2, abortRow_rows] at member
      obtain ⟨old, inSlug, rfl⟩ := List.mem_map.mp member
      obtain ⟨was, sameSlug⟩ := List.mem_filter.mp inSlug
      obtain rfl := alone old was mine present (of_decide_eq_true sameSlug)
      exact ⟨old, was, by rw [if_pos rfl, Restart.endedAs, if_pos active]⟩
    · rw [(others row.slug fun mine present active same => stale ⟨mine, present, active, same⟩).2.2, ← mem_slug] at member
      exact ⟨row, member, (if_neg fun active => stale ⟨row, member, active, rfl⟩).symm⟩
  · rintro ⟨old, was, rfl⟩
    rw [mem_slug, Restart.endedAs]
    by_cases active : old.status = .active
    · rw [if_pos active]
      change _ ∈ List.filter (fun other : RecordingSession => other.slug = old.slug) _
      rw [(each old was active).2.2, abortRow_rows]
      exact List.mem_map.mpr ⟨old, mem_slug.mp was, if_pos rfl⟩
    · rw [if_neg active, (others old.slug fun mine present live same =>
        active (alone mine present old was same ▸ live)).2.2]
      exact mem_slug.mp was

theorem loop_active : (restart.abortRows config state).active = fun _ => none := by
  unfold Restart.abortRows
  have kept : ∀ (rows : List RecordingSession) (state : Recorder),
      (rows.foldl (restart.abortRow config) state).active = state.active := by
    intro rows
    induction rows with
    | nil => exact fun _ => rfl
    | cons row rest ih => exact fun state => ih _
  exact kept _ _

end Loop

theorem serve_distinct {config : RecordingConfig} {state : Recorder} {request : Request}
    (distinct : state.sessions.Distinct RecordingSession.slug) :
    (state.serve config request).1.sessions.Distinct RecordingSession.slug := by
  have carry {after : Recorder} (carried : Carried state after) : after.sessions.Distinct RecordingSession.slug :=
    distinct.of_origin fun row member => by
      obtain ⟨old, listed, same⟩ := carried.origin row member
      exact ⟨old, listed, same.id.symm, same.slug.symm⟩
  cases request with
  | start user options minute started opens =>
      rcases @start_cases config state user options minute started opens with ⟨-, same⟩ | ⟨tid, read, accepts, done⟩
      · exact (congrArg Recorder.sessions same).symm ▸ distinct
      · have inserted := Table.distinct_insert (newSession user tid (slugOf config minute user.username) read)
          (fun _ => rfl) distinct fun other listed same =>
            accepts.2.2.2.2 (List.mem_map.mpr ⟨other, listed, same⟩)
        change (state.recordingStart config user options minute started opens).1.sessions.Distinct _
        rw [done]
        split <;> exact inserted
  | stop user ended ends =>
      change (state.recordingStop config user ended ends).1.sessions.Distinct _
      rcases @stop_cases config state user ended ends with after | ⟨rec, after | after⟩
      · rw [after]
        exact distinct
      · rw [after, cleared_sessions]
        exact distinct
      · rw [after]
        dsimp only
        rw [cleared_sessions]
        refine distinct.of_origin fun row member => ?_
        obtain ⟨old, listed, rfl⟩ := finalized_origin member
        refine ⟨old, listed, ?_⟩
        split <;> exact ⟨rfl, rfl⟩
  | event user kind direction content host clock writes => exact carry event_carried
  | updateOptions user options => exact carry updateOptions_carried

theorem restart_distinct {config : RecordingConfig} {state : Recorder} {restart : Restart}
    (distinct : state.sessions.Distinct RecordingSession.slug) :
    (restart.abortStaleRecordings config state).sessions.Distinct RecordingSession.slug := by
  unfold Restart.abortStaleRecordings
  dsimp only
  split
  · refine distinct.of_origin fun row member => ?_
    obtain ⟨old, listed, rfl⟩ := (loop_rows distinct).mp member
    refine ⟨old, listed, ?_⟩
    unfold Restart.endedAs
    split <;> exact ⟨rfl, rfl⟩
  · exact distinct

theorem lives_distinct {config : RecordingConfig} {state : Recorder} (reached : (Recorder.lives config).Reachable state) :
    state.sessions.Distinct RecordingSession.slug := by
  refine reached.invariant (fun start starts => starts.2.2) fun before event after stepped distinct => ?_
  cases event with
  | request request =>
      cases stepped
      exact serve_distinct distinct
  | restart restart =>
      cases stepped
      exact restart_distinct distinct

/-- Whatever requests and failed restarts came before, a restart that commits leaves a recorder like a new one,
and it aborts exactly what was going on, with all that its journals held. -/
theorem restart_recovers (config : RecordingConfig) {state : Recorder} (reached : (Recorder.lives config).Reachable state)
    (restart : Restart) (commits : restart.commits = true) :
    Recovered config restart state (restart.abortStaleRecordings config state) := by
  have distinct := lives_distinct reached
  obtain ⟨others, each⟩ := @loop_spec config restart state distinct
  have rows : ∀ row, row ∈ (restart.abortRows config state).sessions.rows ↔
      ∃ old ∈ state.sessions.rows, row = restart.endedAs config state old := fun _ => loop_rows distinct
  have settled := @restart_distinct config state restart distinct
  rw [Restart.abortStaleRecordings, if_pos commits] at settled ⊢
  constructor
  case starts =>
    refine ⟨loop_active, fun row member active => ?_, settled⟩
    obtain ⟨old, -, rfl⟩ := (rows row).mp member
    unfold Restart.endedAs at active
    split at active
    · cases active
    next idle => exact idle active
  case rows => exact rows
  case texts =>
    intro slug text written
    by_cases stale : ∃ row ∈ state.sessions.rows, row.status = .active ∧ row.slug = slug
    · obtain ⟨row, present, active, rfl⟩ := stale
      obtain ⟨journals, finished, -⟩ := each row present active
      simp only [Restart.abortRow, Function.update_self, Restart.abortJournal, written] at journals finished
      rw [journals, finished]
      cases restart.ends row.slug with
      | finalised unlinked => exact ⟨_, .inr rfl⟩
      | raised left => exact ⟨_, .inl rfl⟩
      | unwritten => exact ⟨"", .inl (by simp)⟩
    · have untouched := others slug fun row present active same => stale ⟨row, present, active, same⟩
      exact ⟨"", .inl (by rw [untouched.1, written]; simp)⟩
  case linked =>
    intro row present active unlinked ends text written
    obtain ⟨-, finished, -⟩ := each row present active
    simp only [Restart.abortRow, Function.update_self, Restart.abortJournal, written, ends] at finished
    exact finished
  case others =>
    intro slug absent
    exact ⟨(others slug absent).1, (others slug absent).2.1⟩

def stranded : Recorder := (started.serve plainConfig (stopAnn (some 1) (.failed true false))).1

def plainRestart : Restart where
  time := "2026-01-02 08:00:00 UTC"
  ends _ := .finalised true
  commits := true

theorem stranded_recovers :
    (stranded.sessions.rows.map RecordingSession.status = [.active] ∧ stranded.active ann.id = none) ∧
      Recovered plainConfig plainRestart stranded (plainRestart.abortStaleRecordings plainConfig stranded) :=
  ⟨⟨rfl, rfl⟩, restart_recovers plainConfig ⟨idleRecorder, [.request (startAnn true),
    .request (stopAnn (some 1) (.failed true false))], idleRecorder_starts, rfl⟩ plainRestart rfl⟩

end Dosm.Recording
