import Dosm.Recording.LifeCycle

namespace Dosm.Recording

open Models Python Transition

/-! Which starts of a recording succeed.

The name of a recording is the minute and the first characters of the user's name, and no two
recordings have one name: of the recordings that were begun before, one may have it already.
-/

def Recorder.slugs (state : Recorder) : List String := state.sessions.rows.map RecordingSession.slug

/-- `tmp_dir / f"{slug}.md"`. -/
def journalFile (slug : String) : String := slug ++ ".md"

theorem journalFile_injective {first second : String} (same : journalFile first = journalFile second) : first = second := by
  have chars := congrArg String.toList same
  unfold journalFile at chars
  rw [String.toList_append, String.toList_append] at chars
  exact String.toList_injective (List.append_cancel_right chars)

/-- The start is answered, and its recording has a name and a journal of its own. -/
structure StartWorks (config : RecordingConfig) (state : Recorder) (visitor : Visitor) (body : Args)
    (minute started : String) (opens : Bool) : Prop where
  answered : (state.recordingStart config visitor body minute started opens).2 = .done
  created : ∃ row ∈ (state.recordingStart config visitor body minute started opens).1.sessions.rows,
    row ∉ state.sessions.rows ∧ row.userId = some visitor.id ∧ row.status = .active ∧
    (∀ other ∈ (state.recordingStart config visitor body minute started opens).1.sessions.rows, other ≠ row →
      other.slug ≠ row.slug ∧ journalFile other.slug ≠ journalFile row.slug) ∧
    (∀ user rec, user ≠ visitor.id →
      (state.recordingStart config visitor body minute started opens).1.active user = some rec →
      journalFile rec.slug ≠ journalFile row.slug) ∧
    (state.recordingStart config visitor body minute started opens).1.journals row.slug =
      some (opening row.slug visitor.username started)

instance {config : RecordingConfig} {state : Recorder} {user : Visitor} {options : Args} {minute : String} :
    Decidable (Accepts config state user options minute) := inferInstanceAs (Decidable (_ ∧ _ ∧ _ ∧ _ ∧ _))

def begunSlug (config : RecordingConfig) (state : Recorder) : Request → List String
  | .start user options minute _ _ =>
      if Accepts config state user options minute then [slugOf config minute user.username] else []
  | .stop .. | .event .. | .updateOptions .. => []

def begunSlugs (config : RecordingConfig) : Recorder → List Request → List String
  | _, [] => []
  | state, request :: rest =>
      begunSlug config state request ++ begunSlugs config (state.serve config request).1 rest

section Names

variable {config : RecordingConfig} {state after : Recorder} {visitor : Visitor} {request : Request} {slug : String}

theorem Carried.slugs (carried : Carried state after) : slug ∈ after.slugs ↔ slug ∈ state.slugs := by
  constructor
  · intro member
    obtain ⟨row, listed, rfl⟩ := List.mem_map.mp member
    obtain ⟨old, was, same⟩ := carried.origin row listed
    exact same.slug ▸ List.mem_map_of_mem was
  · intro member
    obtain ⟨row, listed, rfl⟩ := List.mem_map.mp member
    obtain ⟨now, found, same⟩ := carried.kept row.id row (Table.get_key listed)
    exact same.slug ▸ List.mem_map_of_mem (Table.get_eq_some_iff.mp found).1

theorem finalized_slugs {id : Int} {path : String} : slug ∈ (state.sessions.modify id
      (RecordingSession.finalizedAt path)).rows.map RecordingSession.slug ↔ slug ∈ state.slugs := by
  constructor
  · intro member
    obtain ⟨row, listed, rfl⟩ := List.mem_map.mp member
    obtain ⟨old, was, rfl⟩ := Table.mem_modify.mp listed
    refine List.mem_map.mpr ⟨old, was, ?_⟩
    split <;> rfl
  · intro member
    obtain ⟨old, was, rfl⟩ := List.mem_map.mp member
    refine List.mem_map.mpr ⟨_, Table.mem_modify.mpr ⟨old, was, rfl⟩, ?_⟩
    split <;> rfl

theorem stop_cases {ended : String} {ends : Finalising} :
    (state.recordingStop config visitor ended ends).1 = state ∨
    ∃ rec, (state.recordingStop config visitor ended ends).1 = cleared config state visitor.id rec ended ends ∨
      (state.recordingStop config visitor ended ends).1 =
        { cleared config state visitor.id rec ended ends with
          sessions := (cleared config state visitor.id rec ended ends).sessions.modify rec.recordingId
            (RecordingSession.finalizedAt (Recorder.journalPath config rec)) } := by
  unfold Recorder.recordingStop
  split
  · exact .inl rfl
  next rec mine =>
    refine .inr ⟨rec, ?_⟩
    dsimp only
    split
    · exact .inl rfl
    split
    · exact .inl rfl
    split
    · exact .inl rfl
    · exact .inr rfl

theorem stop_slugs {ended : String} {ends : Finalising} :
    slug ∈ (state.recordingStop config visitor ended ends).1.slugs ↔ slug ∈ state.slugs := by
  have same {rec : ActiveRecording} : (cleared config state visitor.id rec ended ends).slugs = state.slugs := by
    rw [Recorder.slugs, cleared_sessions]
    rfl
  rcases @stop_cases config state visitor ended ends with after | ⟨rec, after | after⟩
  · rw [after]
  · rw [after, same]
  · rw [after, ← @same rec]
    exact finalized_slugs

theorem start_slugs {body : Args} {minute started : String} {opens : Bool} :
    slug ∈ (state.recordingStart config visitor body minute started opens).1.slugs ↔
      slug ∈ state.slugs ∨ slug ∈ begunSlug config state (.start visitor body minute started opens) := by
  rcases @start_cases config state visitor body minute started opens with
    ⟨refused, same⟩ | ⟨tid, options, accepts, done⟩
  · rw [same, begunSlug, if_neg refused]
    simp
  · have rows : (state.recordingStart config visitor body minute started opens).1.slugs =
        (state.addRow visitor tid (slugOf config minute visitor.username) options).slugs := by
      rw [done]
      split <;> rfl
    rw [rows, begunSlug, if_pos accepts, List.mem_singleton]
    constructor
    · intro member
      obtain ⟨row, listed, rfl⟩ := List.mem_map.mp member
      rcases addRow_rows.mp listed with old | rfl
      · exact .inl (List.mem_map_of_mem old)
      · exact .inr rfl
    · rintro (member | rfl)
      · obtain ⟨row, listed, rfl⟩ := List.mem_map.mp member
        exact List.mem_map_of_mem (addRow_rows.mpr (.inl listed))
      · have added : newSession visitor tid (slugOf config minute visitor.username) options state.sessions.fresh ∈
            (state.addRow visitor tid (slugOf config minute visitor.username) options).sessions.rows :=
          addRow_rows.mpr (.inr rfl)
        exact List.mem_map_of_mem added

theorem serve_slugs : slug ∈ (state.serve config request).1.slugs ↔
    slug ∈ state.slugs ∨ slug ∈ begunSlug config state request := by
  cases request with
  | start user options minute started opens => exact start_slugs
  | stop user ended ends => exact stop_slugs.trans (by simp [begunSlug])
  | event user kind direction content host clock writes =>
      exact event_carried.slugs.trans (by simp [begunSlug])
  | updateOptions user options => exact updateOptions_carried.slugs.trans (by simp [begunSlug])

theorem run_slugs {requests : List Request} (ran : (Recorder.machine config).run state requests = some after) :
    slug ∈ after.slugs ↔ slug ∈ state.slugs ++ begunSlugs config state requests := by
  induction requests generalizing state with
  | nil =>
      cases ran
      simp [begunSlugs]
  | cons request rest ih =>
      obtain ⟨next, stepped, remaining⟩ := Machine.run_cons_some ran
      cases stepped
      rw [ih remaining, begunSlugs, List.mem_append, serve_slugs]
      simp [or_assoc]

theorem start_answer {body : Args} {minute started : String} {opens : Bool} :
    (state.recordingStart config visitor body minute started opens).2 = .done ↔
      Accepts config state visitor body minute ∧ opens = true := by
  unfold Recorder.recordingStart Accepts
  cases visitor.tid with
  | none => simp
  | some tid =>
      dsimp only
      cases config.enabled with
      | false => simp
      | true =>
          cases state.active visitor.id with
          | some rec => simp
          | none =>
              cases RecordingOptions.fromDict {} body with
              | none => simp
              | some options =>
                  by_cases taken : slugOf config minute visitor.username ∈ state.sessions.rows.map RecordingSession.slug
                  · simp only [taken, if_true]
                    simp
                  · simp only [taken, if_false]
                    cases opens <;> simp

def Listed (state : Recorder) : Prop := ∀ user rec, state.active user = some rec → rec.slug ∈ state.slugs

theorem Carried.listed (carried : Carried state after) (listed : Listed state) : Listed after := by
  intro user rec now
  obtain ⟨before, was, -, same⟩ := carried.was_listed now
  exact same ▸ carried.slugs.mpr (listed user before was)

theorem stop_listed {ended : String} {ends : Finalising} (listed : Listed state) :
    Listed (state.recordingStop config visitor ended ends).1 := by
  intro user rec now
  rw [stop_slugs]
  have kept {rest : Table RecordingSession} {mine : ActiveRecording}
      (cleared : { cleared config state visitor.id mine ended ends with sessions := rest }.active user = some rec) :
      rec.slug ∈ state.slugs := by
    change (Recording.cleared config state visitor.id mine ended ends).active user = some rec at cleared
    rw [cleared_active] at cleared
    by_cases own : user = visitor.id
    · rw [own, Function.update_self] at cleared
      cases cleared
    · rw [Function.update_of_ne own] at cleared
      exact listed user rec cleared
  rcases @stop_cases config state visitor ended ends with after | ⟨mine, after | after⟩
  · exact listed user rec (after ▸ now)
  · rw [after] at now
    exact @kept (cleared config state visitor.id mine ended ends).sessions mine now
  · rw [after] at now
    exact kept now

theorem start_listed {body : Args} {minute started : String} {opens : Bool} (listed : Listed state) :
    Listed (state.recordingStart config visitor body minute started opens).1 := by
  intro user rec now
  rw [start_slugs]
  rcases @start_cases config state visitor body minute started opens with
    ⟨refused, same⟩ | ⟨tid, options, accepts, done⟩
  · exact .inl (listed user rec (same ▸ now))
  · rw [done] at now
    split at now
    · by_cases own : user = visitor.id
      · dsimp only at now
        rw [own, Function.update_self] at now
        cases now
        rw [begunSlug, if_pos accepts]
        exact .inr (List.mem_singleton.mpr rfl)
      · exact .inl (listed user rec ((Function.update_of_ne own _ _).symm.trans now))
    · exact .inl (listed user rec now)

theorem run_listed {requests : List Request} (ran : (Recorder.machine config).run state requests = some after)
    (listed : Listed state) : Listed after := by
  refine Machine.run_invariant ?_ ran listed
  intro before request next stepped holds
  cases stepped
  cases request with
  | start user options minute started opens => exact start_listed holds
  | stop user ended ends => exact stop_listed holds
  | event user kind direction content host clock writes => exact event_carried.listed holds
  | updateOptions user options => exact updateOptions_carried.listed holds

end Names

/-- A start by a user without a recording works exactly when its options can be read, its journal can be
opened and no recording that was begun before it has its name. -/
theorem start_works_iff {config : RecordingConfig} {initial state : Recorder} {requests : List Request}
    (starts : initial.Starts) (ran : (Recorder.machine config).run initial requests = some state) (visitor : Visitor)
    (within : visitor.tid.isSome) (enabled : config.enabled = true) (idle : state.active visitor.id = none)
    (body : Args) (minute started : String) (opens : Bool) :
    StartWorks config state visitor body minute started opens ↔
      (RecordingOptions.fromDict {} body).isSome ∧ opens = true ∧
        slugOf config minute visitor.username ∉ initial.slugs ++ begunSlugs config initial requests := by
  have listed : Listed state := run_listed ran fun user rec now => by
    rw [starts.1] at now
    cases now
  rw [← run_slugs ran]
  constructor
  · intro works
    obtain ⟨accepts, opened⟩ := start_answer.mp works.answered
    exact ⟨accepts.2.2.2.1, opened, accepts.2.2.2.2⟩
  · rintro ⟨readable, opened, free⟩
    have accepts : Accepts config state visitor body minute := ⟨within, enabled, idle, readable, free⟩
    refine ⟨start_answer.mpr ⟨accepts, opened⟩, ?_⟩
    rcases @start_cases config state visitor body minute started opens with ⟨refused, -⟩ | ⟨tid, options, -, done⟩
    · exact absurd accepts refused
    rw [if_pos opened] at done
    rw [done]
    have apart : ∀ other ∈ state.slugs, other ≠ slugOf config minute visitor.username := by
      rintro other member rfl
      exact free member
    refine ⟨newSession visitor tid (slugOf config minute visitor.username) options state.sessions.fresh,
      addRow_rows.mpr (.inr rfl), fun member => free (List.mem_map_of_mem member), rfl, rfl, ?_, ?_,
      Function.update_self ..⟩
    · intro other member different
      have old := (addRow_rows.mp member).resolve_right different
      have ne := apart other.slug (List.mem_map_of_mem old)
      exact ⟨ne, fun same => ne (journalFile_injective same)⟩
    · intro user rec other now same
      have kept : state.active user = some rec := (Function.update_of_ne other _ _).symm.trans now
      exact apart rec.slug (listed user rec kept) (journalFile_injective same)

def startedAndStopped : List Request := [startAnn true, stopAnn (some 1) .done]

def stopped : Recorder := (started.serve plainConfig (stopAnn (some 1) .done)).1

theorem stopped_ran : (Recorder.machine plainConfig).run idleRecorder startedAndStopped = some stopped := rfl

def dotted : Visitor where
  id := 2
  username := "a.n.n"
  tid := some 1

/-- The next recording within the minute raises, and so does another user's of a like name. -/
theorem restart_raises : stopped.active ann.id = none ∧
    (stopped.recordingStart plainConfig ann [] "2026-01-01-0900" "2026-01-01 09:00:40 UTC" true).2 = .exception ∧
    ¬ StartWorks plainConfig stopped ann [] "2026-01-01-0900" "2026-01-01 09:00:40 UTC" true ∧
    ¬ StartWorks plainConfig started dotted [] "2026-01-01-0900" "2026-01-01 09:00:10 UTC" true := by
  have raises : (stopped.recordingStart plainConfig ann [] "2026-01-01-0900" "2026-01-01 09:00:40 UTC" true).2 =
    .exception := by decide
  have other : (started.recordingStart plainConfig dotted [] "2026-01-01-0900" "2026-01-01 09:00:10 UTC" true).2 =
    .exception := by decide
  refine ⟨rfl, raises, fun works => ?_, fun works => ?_⟩
  · cases raises.symm.trans works.answered
  · cases other.symm.trans works.answered

theorem restart_later_works :
    StartWorks plainConfig stopped ann [] "2026-01-01-0901" "2026-01-01 09:01:10 UTC" true := by
  refine (start_works_iff idleRecorder_starts stopped_ran ann rfl rfl rfl [] _ _ true).mpr ⟨rfl, rfl, ?_⟩
  decide

end Dosm.Recording
