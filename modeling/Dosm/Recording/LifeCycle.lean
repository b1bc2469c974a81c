import Dosm.Recording.Sessions

namespace Dosm.Recording

open Models Python Transition

/-! Rows, the map and the journals of recordings over any sequence of requests.

The invariant pairs each active row with its entry in the map and each entry with
its journal. A start whose journal does not open leaves a row behind, a stop that
fails after it has cleared the map leaves one too.
-/

/-- A row is active exactly when its user's entry is for it, and a user has one. -/
structure Consistent (state : Recorder) : Prop where
  paired : ∀ row ∈ state.sessions.rows, row.status = .active ↔
    ∃ user rec, row.userId = some user ∧ state.active user = some rec ∧ rec.recordingId = row.id
  single : ∀ first ∈ state.sessions.rows, ∀ second ∈ state.sessions.rows, first.status = .active →
    second.status = .active → first.userId = second.userId → first = second

/-- Some later stop of the user's is answered and finalises this journal whole. -/
def CanStop (config : RecordingConfig) (state : Recorder) (user : Nat) (journal : String) : Prop :=
  ∃ visitor ended path, visitor.id = user ∧ (state.recordingStop config visitor ended .done).2 = .done ∧
    (state.recordingStop config visitor ended .done).1.finished path = some (journal ++ footer "finalized" ended)

/-- A stop that raises leaves its recording to be stopped later. -/
def StaysStoppable (config : RecordingConfig) (state : Recorder) (request : Request) : Prop :=
  ∀ user ended ends, request = .stop user ended ends → (state.serve config request).2 ≠ .done →
    ∀ rec journal, state.active user.id = some rec → state.journals rec.slug = some journal →
      CanStop config (state.serve config request).1 user.id journal

/-- A recording goes on with all that is in its journal, or it has been stopped and
its final journal has all of it. -/
def KeepsEvents (config : RecordingConfig) (state after : Recorder) : Prop :=
  ∀ user rec journal, state.active user = some rec → state.journals rec.slug = some journal →
    (∃ now more, after.active user = some now ∧ now.recordingId = rec.recordingId ∧ now.slug = rec.slug ∧
      after.journals now.slug = some (journal ++ more)) ∨
    after.active user = none ∧ ∃ ended, after.finished (Recorder.journalPath config rec) =
      some (journal ++ footer "finalized" ended)

def Accepts (config : RecordingConfig) (state : Recorder) (user : Visitor) (options : Args) (minute : String) :
    Prop :=
  user.tid.isSome ∧ config.enabled = true ∧ state.active user.id = none ∧
    (RecordingOptions.fromDict {} options).isSome ∧
    slugOf config minute user.username ∉ state.sessions.rows.map RecordingSession.slug

/-- The journal of an accepted start opens, and a stop within the recording's tenant
finalises it. -/
def Orderly (config : RecordingConfig) (state : Recorder) : Request → Prop
  | .start user options minute _ opens => Accepts config state user options minute → opens = true
  | .stop user _ ends => ∀ rec, state.active user.id = some rec → ends = .done ∧
      ∀ row, state.sessions.get rec.recordingId = some row → user.tid = none ∨ user.tid = some row.tenantId
  | .event .. | .updateOptions .. => True

structure Recorded (state : Recorder) (user : Nat) (rec : ActiveRecording) (row : RecordingSession) : Prop where
  found : state.sessions.get rec.recordingId = some row
  user : row.userId = some user
  active : row.status = .active
  slug : row.slug = rec.slug
  journal : ∃ text, state.journals rec.slug = some text

structure Sound (state : Recorder) : Prop where
  entries : ∀ user rec, state.active user = some rec → ∃ row, Recorded state user rec row
  live : ∀ row ∈ state.sessions.rows, row.status = .active →
    ∃ user rec, row.userId = some user ∧ state.active user = some rec ∧ rec.recordingId = row.id
  slugs : state.sessions.Distinct RecordingSession.slug

section Sound

variable {config : RecordingConfig} {state after : Recorder} {user other : Nat} {rec entry : ActiveRecording}
variable {row : RecordingSession}

theorem Sound.consistent (sound : Sound state) : Consistent state where
  paired row member := by
    refine ⟨sound.live row member, ?_⟩
    rintro ⟨user, rec, owner, listed, same⟩
    obtain ⟨found, recorded⟩ := sound.entries user rec listed
    have present : state.sessions.get row.id = some row := Table.get_key member
    rw [← same, recorded.found] at present
    cases Option.some.inj present
    exact recorded.active
  single first firstMember second secondMember firstActive secondActive same := by
    obtain ⟨user, rec, owner, listed, firstId⟩ := sound.live first firstMember firstActive
    obtain ⟨other, entry, otherOwner, otherListed, secondId⟩ := sound.live second secondMember secondActive
    cases Option.some.inj (owner.symm.trans (same.trans otherOwner))
    cases Option.some.inj (listed.symm.trans otherListed)
    exact Table.eq_of_key firstMember secondMember (firstId.symm.trans secondId)

theorem Sound.apart (sound : Sound state) (mine : state.active user = some rec)
    (theirs : state.active other = some entry) (different : user ≠ other) : rec.slug ≠ entry.slug := by
  intro same
  obtain ⟨row, recorded⟩ := sound.entries user rec mine
  obtain ⟨twin, paired⟩ := sound.entries other entry theirs
  have slug : row.slug = twin.slug := recorded.slug.trans (same.trans paired.slug.symm)
  have rowMember := Table.get_eq_some_iff.mp recorded.found
  have twinMember := Table.get_eq_some_iff.mp paired.found
  have sameKey := sound.slugs row rowMember.1 twin twinMember.1 slug
  have sameRow : row = twin := Table.eq_of_key rowMember.1 twinMember.1 sameKey
  have owner := recorded.user
  rw [sameRow, paired.user] at owner
  exact different (Option.some.inj owner).symm

theorem Sound.start (starts : state.Starts) : Sound state where
  entries user rec listed := by
    rw [starts.1] at listed
    cases listed
  live row member active := absurd active (starts.2.1 row member)
  slugs := starts.2.2

structure SamePairing (before after : RecordingSession) : Prop where
  id : after.id = before.id
  user : after.userId = before.userId
  status : after.status = before.status
  slug : after.slug = before.slug

structure Carried (state after : Recorder) : Prop where
  origin : ∀ row ∈ after.sessions.rows, ∃ old ∈ state.sessions.rows, SamePairing old row
  kept : ∀ id row, state.sessions.get id = some row → ∃ now, after.sessions.get id = some now ∧ SamePairing row now
  entries : ∀ user, (after.active user).map (fun rec => (rec.recordingId, rec.slug)) =
    (state.active user).map fun rec => (rec.recordingId, rec.slug)
  journals : ∀ slug text, state.journals slug = some text → ∃ now, after.journals slug = some now

theorem Carried.was_listed (carried : Carried state after) (listed : after.active user = some rec) :
    ∃ before, state.active user = some before ∧ before.recordingId = rec.recordingId ∧ before.slug = rec.slug := by
  have same := carried.entries user
  rw [listed] at same
  obtain ⟨before, was, fields⟩ := Option.map_eq_some_iff.mp same.symm
  exact ⟨before, was, congrArg Prod.fst fields, congrArg Prod.snd fields⟩

theorem Sound.carry (sound : Sound state) (carried : Carried state after) : Sound after where
  entries user rec listed := by
    obtain ⟨before, was, sameId, sameSlug⟩ := carried.was_listed listed
    obtain ⟨row, recorded⟩ := sound.entries user before was
    obtain ⟨now, found, same⟩ := carried.kept before.recordingId row recorded.found
    obtain ⟨text, present⟩ := recorded.journal
    exact ⟨now, {
      found := sameId ▸ found
      user := same.user.trans recorded.user
      active := same.status.trans recorded.active
      slug := same.slug.trans (recorded.slug.trans sameSlug)
      journal := sameSlug ▸ carried.journals before.slug text present }⟩
  live row member active := by
    obtain ⟨old, listed, same⟩ := carried.origin row member
    obtain ⟨user, before, owner, was, sameId⟩ := sound.live old listed (same.status.symm.trans active)
    have entry := carried.entries user
    rw [was] at entry
    obtain ⟨rec, now, fields⟩ := Option.map_eq_some_iff.mp entry
    exact ⟨user, rec, same.user.trans owner, now, (congrArg Prod.fst fields).trans (sameId.trans same.id.symm)⟩
  slugs := sound.slugs.of_origin fun row member => by
    obtain ⟨old, listed, same⟩ := carried.origin row member
    exact ⟨old, listed, same.id.symm, same.slug.symm⟩

theorem SamePairing.refl : SamePairing row row := ⟨rfl, rfl, rfl, rfl⟩

theorem Carried.refl : Carried state state :=
  ⟨fun row member => ⟨row, member, .refl⟩, fun _ row found => ⟨row, found, .refl⟩, fun _ => rfl,
    fun _ text present => ⟨text, present⟩⟩

theorem write_carried {text : String} {writes : Bool} : Carried state (state.write rec text writes).1 := by
  unfold Recorder.write
  split
  · exact .refl
  split
  · refine { Carried.refl with journals := fun slug before present => ?_ }
    by_cases same : slug = rec.slug
    · cases same
      refine ⟨before ++ text, ?_⟩
      dsimp only
      rw [Function.update_self, present]
      rfl
    · exact ⟨before, (Function.update_of_ne same _ _).trans present⟩
  · exact .refl

theorem modify_pairing {id : Int} {change : RecordingSession → RecordingSession}
    (same : ∀ row, SamePairing row (change row)) :
    (∀ row ∈ (state.sessions.modify id change fun row => (same row).id).rows,
      ∃ old ∈ state.sessions.rows, SamePairing old row) ∧
    ∀ other row, state.sessions.get other = some row →
      ∃ now, (state.sessions.modify id change fun row => (same row).id).get other = some now ∧ SamePairing row now := by
  constructor
  · intro row member
    obtain ⟨old, listed, rfl⟩ := Table.mem_modify.mp member
    refine ⟨old, listed, ?_⟩
    split
    · exact same old
    · exact .refl
  · intro other row found
    rw [Table.get_modify, found]
    refine ⟨_, rfl, ?_⟩
    dsimp only
    split
    · exact same row
    · exact .refl

theorem updateOptions_carried {visitor : Visitor} {body : Args} :
    Carried state (state.recordingUpdateOptions visitor body).1 := by
  unfold Recorder.recordingUpdateOptions
  split
  · exact .refl
  next rec mine =>
    dsimp only
    split
    · exact .refl
    split
    · exact .refl
    next options read =>
      have rows := @modify_pairing state rec.recordingId (fun row => { row with options })
        fun row => ⟨rfl, rfl, rfl, rfl⟩
      refine ⟨rows.1, rows.2, fun user => ?_, fun _ text present => ⟨text, present⟩⟩
      by_cases same : user = visitor.id
      · cases same
        dsimp only
        rw [Function.update_self, mine]
        rfl
      · dsimp only
        rw [Function.update_of_ne same]

theorem event_carried {visitor : Visitor} {kind direction content host clock : String} {writes : Bool} :
    Carried state (state.recordingEvent config visitor kind direction content host clock writes).1 := by
  unfold Recorder.recordingEvent
  split
  · exact .refl
  split
  · exact write_carried
  split
  · exact write_carried
  · exact .refl

end Sound

section Start

variable {config : RecordingConfig} {state : Recorder} {visitor : Visitor} {body : Args} {minute started : String}
variable {opens : Bool} {tid : Int} {options : RecordingOptions}

theorem start_cases : (¬ Accepts config state visitor body minute ∧
      (state.recordingStart config visitor body minute started opens).1 = state) ∨
    ∃ tid options, Accepts config state visitor body minute ∧
      (state.recordingStart config visitor body minute started opens).1 =
        if opens then
          { state.addRow visitor tid (slugOf config minute visitor.username) options with
            active := Function.update state.active visitor.id (some {
              recordingId := state.sessions.fresh, userId := visitor.id,
              slug := slugOf config minute visitor.username, options })
            journals := Function.update state.journals (slugOf config minute visitor.username)
              (some (opening (slugOf config minute visitor.username) visitor.username started)) }
        else state.addRow visitor tid (slugOf config minute visitor.username) options := by
  unfold Recorder.recordingStart Accepts
  split
  next away => exact .inl ⟨fun accepts => by simp [away] at accepts, rfl⟩
  next tid within =>
    split
    next disabled => exact .inl ⟨fun accepts => by simp [accepts.2.1] at disabled, rfl⟩
    next enabled =>
      split
      next busy => exact .inl ⟨fun accepts => by simp [accepts.2.2.1] at busy, rfl⟩
      next idle =>
        split
        next unread => exact .inl ⟨fun accepts => by simp [unread] at accepts, rfl⟩
        next options read =>
          dsimp only
          split
          next taken => exact .inl ⟨fun accepts => accepts.2.2.2.2 taken, rfl⟩
          next free =>
            refine .inr ⟨tid, options, ⟨by rw [within]; rfl, by simpa using enabled, by simpa using idle,
              by rw [read]; rfl, free⟩, ?_⟩
            split <;> rfl

theorem addRow_rows {row : RecordingSession} {slug : String} :
    row ∈ (state.addRow visitor tid slug options).sessions.rows ↔
      row ∈ state.sessions.rows ∨ row = newSession visitor tid slug options state.sessions.fresh := by
  have inserted : row ∈ (state.sessions.insert (newSession visitor tid slug options) fun _ => rfl).rows ↔ _ :=
    Table.mem_insert
  exact inserted

theorem addRow_kept {row : RecordingSession} {slug : String} {id : Int} (found : state.sessions.get id = some row) :
    (state.addRow visitor tid slug options).sessions.get id = some row := by
  obtain ⟨member, same⟩ := Table.get_eq_some_iff.mp found
  exact Table.get_eq_some_iff.mpr ⟨addRow_rows.mpr (.inl member), same⟩

theorem Sound.startedRow {text : String} {slug : String} (sound : Sound state) (idle : state.active visitor.id = none)
    (free : slug ∉ state.sessions.rows.map RecordingSession.slug) :
    Sound { state.addRow visitor tid slug options with
      active := Function.update state.active visitor.id (some {
        recordingId := state.sessions.fresh, userId := visitor.id, slug, options })
      journals := Function.update state.journals slug (some text) } := by
  constructor
  case entries =>
    intro user rec listed
    by_cases same : user = visitor.id
    · cases same
      dsimp only at listed
      rw [Function.update_self] at listed
      cases listed
      refine ⟨newSession visitor tid slug options state.sessions.fresh, ?_, rfl, rfl, rfl, text, ?_⟩
      · exact Table.get_eq_some_iff.mpr ⟨addRow_rows.mpr (.inr rfl), rfl⟩
      · exact Function.update_self ..
    · dsimp only at listed
      rw [Function.update_of_ne same] at listed
      obtain ⟨row, recorded⟩ := sound.entries user rec listed
      obtain ⟨journal, present⟩ := recorded.journal
      have other : rec.slug ≠ slug := by
        intro taken
        refine free (taken ▸ recorded.slug ▸ List.mem_map_of_mem ?_)
        exact (Table.get_eq_some_iff.mp recorded.found).1
      exact ⟨row, {
        recorded with
        found := addRow_kept recorded.found
        journal := ⟨journal, (Function.update_of_ne other _ _).trans present⟩ }⟩
  case live =>
    intro row member active
    rcases addRow_rows.mp member with before | rfl
    · obtain ⟨user, rec, owner, listed, same⟩ := sound.live row before active
      have different : user ≠ visitor.id := by
        rintro rfl
        exact nomatch idle.symm.trans listed
      exact ⟨user, rec, owner, (Function.update_of_ne different _ _).trans listed, same⟩
    · exact ⟨visitor.id, _, rfl, Function.update_self .., rfl⟩
  case slugs =>
    refine Table.distinct_insert _ (fun _ => rfl) sound.slugs fun other member same => free ?_
    exact List.mem_map.mpr ⟨other, member, same⟩

theorem Sound.recordingStart (sound : Sound state)
    (orderly : Orderly config state (.start visitor body minute started opens)) :
    Sound (state.recordingStart config visitor body minute started opens).1 := by
  rcases start_cases with ⟨-, unchanged⟩ | ⟨tid, options, accepts, done⟩
  · rw [unchanged]
    exact sound
  · rw [done, if_pos (orderly accepts)]
    exact sound.startedRow accepts.2.2.1 accepts.2.2.2.2

theorem not_consistent_unopened (accepts : Accepts config state visitor body minute) :
    ¬ Consistent (state.recordingStart config visitor body minute started false).1 := by
  rcases start_cases with ⟨refused, -⟩ | ⟨tid, options, -, done⟩
  · exact absurd accepts refused
  · rw [done, if_neg Bool.false_ne_true]
    intro consistent
    obtain ⟨user, rec, owner, listed, -⟩ := (consistent.paired _ (addRow_rows.mpr (.inr rfl))).mp rfl
    cases owner
    exact nomatch accepts.2.2.1.symm.trans listed

end Start

section Stop

variable {config : RecordingConfig} {state : Recorder} {visitor : Visitor} {ended : String} {ends : Finalising}
variable {rec : ActiveRecording} {row : RecordingSession}

def cleared (config : RecordingConfig) (state : Recorder) (user : Nat) (rec : ActiveRecording) (ended : String)
    (ends : Finalising) : Recorder :=
  Recorder.finalize { state with active := Function.update state.active user none } rec ended
    (Recorder.journalPath config rec) ends

theorem cleared_sessions : (cleared config state visitor.id rec ended ends).sessions = state.sessions := by
  unfold cleared Recorder.finalize
  split
  · rfl
  · dsimp only
    split <;> rfl

theorem cleared_active :
    (cleared config state visitor.id rec ended ends).active = Function.update state.active visitor.id none := by
  unfold cleared Recorder.finalize
  split
  · rfl
  · dsimp only
    split <;> rfl

theorem stop_idle (idle : state.active visitor.id = none) : state.recordingStop config visitor ended ends =
    (state, .http 404 "no active recording for this user") := by
  rw [Recorder.recordingStop, idle]

theorem stop_done (mine : state.active visitor.id = some rec) (recorded : Recorded state visitor.id rec row)
    (within : visitor.tid = none ∨ visitor.tid = some row.tenantId) :
    state.recordingStop config visitor ended .done =
      ({ cleared config state visitor.id rec ended .done with
        sessions := state.sessions.modify rec.recordingId
          (RecordingSession.finalizedAt (Recorder.journalPath config rec)) }, .done) := by
  have allowed : ¬ (row.userId ≠ some visitor.id ∨ (visitor.tid.isSome ∧ visitor.tid ≠ some row.tenantId)) := by
    rintro (stranger | ⟨given, foreign⟩)
    · exact stranger recorded.user
    · rcases within with absent | same
      · rw [absent] at given
        cases given
      · exact foreign same
  unfold Recorder.recordingStop
  rw [mine]
  dsimp only [Recorder.finalize]
  rw [if_neg (not_not_intro rfl), recorded.found]
  dsimp only
  rw [if_neg allowed]
  rfl

theorem stop_failed (mine : state.active visitor.id = some rec) (recorded : Recorded state visitor.id rec row)
    (failed : ends ≠ .done ∨ ¬ (visitor.tid = none ∨ visitor.tid = some row.tenantId)) :
    (state.recordingStop config visitor ended ends).1 = cleared config state visitor.id rec ended ends ∧
      (state.recordingStop config visitor ended ends).2 ≠ .done := by
  unfold Recorder.recordingStop
  rw [mine]
  dsimp only
  by_cases broken : ends = .done
  · have elsewhere := failed.resolve_left (not_not_intro broken)
    have refused : row.userId ≠ some visitor.id ∨ (visitor.tid.isSome ∧ visitor.tid ≠ some row.tenantId) := by
      push Not at elsewhere
      exact .inr ⟨Option.isSome_iff_ne_none.mpr elsewhere.1, elsewhere.2⟩
    cases broken
    dsimp only [Recorder.finalize]
    rw [if_neg (not_not_intro rfl), recorded.found]
    dsimp only
    rw [if_pos refused]
    exact ⟨rfl, nofun⟩
  · rw [if_pos broken]
    exact ⟨rfl, nofun⟩

theorem finalized_other {id other : Int} {path : String} (different : other ≠ id) :
    (state.sessions.modify id (RecordingSession.finalizedAt path)).get other = state.sessions.get other := by
  have kept := @Table.get_modify_other _ _ state.sessions id other (RecordingSession.finalizedAt path) fun _ => rfl
  exact kept different

theorem finalized_origin {id : Int} {path : String} {now : RecordingSession}
    (member : now ∈ (state.sessions.modify id (RecordingSession.finalizedAt path)).rows) :
    ∃ old ∈ state.sessions.rows, now = if old.id = id then old.finalizedAt path else old := by
  have origin := @Table.mem_modify _ _ state.sessions now id (RecordingSession.finalizedAt path) fun _ => rfl
  exact origin.mp member

theorem Sound.stopped (sound : Sound state) (mine : state.active visitor.id = some rec)
    (recorded : Recorded state visitor.id rec row) :
    Sound { cleared config state visitor.id rec ended .done with
      sessions := state.sessions.modify rec.recordingId
        (RecordingSession.finalizedAt (Recorder.journalPath config rec)) } := by
  have others {user : Nat} {entry : ActiveRecording}
      (listed : Function.update state.active visitor.id none user = some entry) :
      user ≠ visitor.id ∧ state.active user = some entry := by
    by_cases same : user = visitor.id
    · cases same
      rw [Function.update_self] at listed
      cases listed
    · rw [Function.update_of_ne same] at listed
      exact ⟨same, listed⟩
  constructor
  case entries =>
    intro user entry listed
    obtain ⟨different, present⟩ := others listed
    obtain ⟨own, theirs⟩ := sound.entries user entry present
    obtain ⟨journal, written⟩ := theirs.journal
    have apart : entry.slug ≠ rec.slug := sound.apart present mine different
    have otherRow : entry.recordingId ≠ rec.recordingId := by
      intro same
      have found := theirs.found
      rw [same, recorded.found] at found
      cases Option.some.inj found
      exact different (Option.some.inj (theirs.user.symm.trans recorded.user))
    exact ⟨own, {
      theirs with
      found := (finalized_other otherRow).trans theirs.found
      journal := ⟨journal, (Function.update_of_ne apart _ _).trans written⟩ }⟩
  case live =>
    intro now member active
    obtain ⟨old, listed, rfl⟩ := finalized_origin member
    split at active
    · cases active
    next otherRow =>
      rw [if_neg otherRow]
      obtain ⟨user, entry, owner, present, same⟩ := sound.live old listed active
      have different : user ≠ visitor.id := by
        rintro rfl
        cases Option.some.inj (mine.symm.trans present)
        exact otherRow same.symm
      exact ⟨user, entry, owner, (Function.update_of_ne different _ _).trans present, same⟩
  case slugs =>
    refine sound.slugs.of_origin fun now member => ?_
    obtain ⟨old, listed, rfl⟩ := finalized_origin member
    refine ⟨old, listed, ?_⟩
    split <;> exact ⟨rfl, rfl⟩

theorem not_consistent_stop_failed (mine : state.active visitor.id = some rec)
    (recorded : Recorded state visitor.id rec row)
    (failed : ends ≠ .done ∨ ¬ (visitor.tid = none ∨ visitor.tid = some row.tenantId)) :
    ¬ Consistent (state.recordingStop config visitor ended ends).1 := by
  rw [(stop_failed mine recorded failed).1]
  intro consistent
  have member : row ∈ (cleared config state visitor.id rec ended ends).sessions.rows := by
    rw [cleared_sessions]
    exact (Table.get_eq_some_iff.mp recorded.found).1
  obtain ⟨user, entry, owner, listed, -⟩ := (consistent.paired row member).mp recorded.active
  cases Option.some.inj (owner.symm.trans recorded.user)
  rw [cleared_active, Function.update_self] at listed
  cases listed

theorem Sound.recordingStop (sound : Sound state) (orderly : Orderly config state (.stop visitor ended ends)) :
    Sound (state.recordingStop config visitor ended ends).1 := by
  cases mine : state.active visitor.id with
  | none =>
      rw [stop_idle mine]
      exact sound
  | some rec =>
      obtain ⟨row, recorded⟩ := sound.entries visitor.id rec mine
      obtain ⟨rfl, within⟩ := orderly rec mine
      rw [stop_done mine recorded (within row recorded.found)]
      exact sound.stopped mine recorded

theorem staysStoppable_orderly (sound : Sound state) (orderly : Orderly config state (.stop visitor ended ends)) :
    StaysStoppable config state (.stop visitor ended ends) := by
  rintro user time ending ⟨⟩ raised rec journal mine written
  obtain ⟨row, recorded⟩ := sound.entries visitor.id rec mine
  obtain ⟨rfl, within⟩ := orderly rec mine
  refine absurd ?_ raised
  rw [Recorder.serve, stop_done mine recorded (within row recorded.found)]

end Stop

section Events

variable {config : RecordingConfig} {state : Recorder} {user : Nat} {visitor : Visitor} {rec : ActiveRecording}

theorem goesOn {after : Recorder} {journal : String} (listed : after.active user = some rec)
    (written : after.journals rec.slug = some journal) :
    ∃ now more, after.active user = some now ∧ now.recordingId = rec.recordingId ∧ now.slug = rec.slug ∧
      after.journals now.slug = some (journal ++ more) :=
  ⟨rec, "", listed, rfl, rfl, by rw [written, String.append_empty]⟩

theorem keepsEvents_refl : KeepsEvents config state state := fun _ _ _ listed written => .inl (goesOn listed written)

theorem keepsEvents_write {text : String} {writes : Bool} (sound : Sound state)
    (mine : state.active visitor.id = some rec) : KeepsEvents config state (state.write rec text writes).1 := by
  unfold Recorder.write
  split
  · exact keepsEvents_refl
  split
  · intro user entry journal listed written
    by_cases same : user = visitor.id
    · cases same
      cases Option.some.inj (mine.symm.trans listed)
      refine .inl ⟨rec, text, listed, rfl, rfl, ?_⟩
      dsimp only
      rw [Function.update_self, written]
      rfl
    · have apart := sound.apart listed mine same
      exact .inl (goesOn listed ((Function.update_of_ne apart _ _).trans written))
  · exact keepsEvents_refl

theorem keepsEvents_event {kind direction content host clock : String} {writes : Bool} (sound : Sound state) :
    KeepsEvents config state (state.recordingEvent config visitor kind direction content host clock writes).1 := by
  unfold Recorder.recordingEvent
  split
  · exact keepsEvents_refl
  next rec mine =>
    split
    · exact keepsEvents_write sound mine
    split
    · exact keepsEvents_write sound mine
    · exact keepsEvents_refl

theorem keepsEvents_options {body : Args} :
    KeepsEvents config state (state.recordingUpdateOptions visitor body).1 := by
  unfold Recorder.recordingUpdateOptions
  split
  · exact keepsEvents_refl
  next rec mine =>
    dsimp only
    split
    · exact keepsEvents_refl
    split
    · exact keepsEvents_refl
    next options read =>
      intro user entry journal listed written
      by_cases same : user = visitor.id
      · cases same
        cases Option.some.inj (mine.symm.trans listed)
        exact .inl ⟨{ rec with options }, "", Function.update_self .., rfl, rfl, by
          rw [String.append_empty]
          exact written⟩
      · exact .inl (goesOn ((Function.update_of_ne same _ _).trans listed) written)

theorem keepsEvents_start {body : Args} {minute started : String} (sound : Sound state) :
    KeepsEvents config state (state.recordingStart config visitor body minute started true).1 := by
  rcases start_cases with ⟨-, unchanged⟩ | ⟨tid, options, accepts, done⟩
  · rw [unchanged]
    exact keepsEvents_refl
  · rw [done, if_pos rfl]
    intro user entry journal listed written
    have different : user ≠ visitor.id := by
      rintro rfl
      exact nomatch accepts.2.2.1.symm.trans listed
    obtain ⟨row, recorded⟩ := sound.entries user entry listed
    have other : entry.slug ≠ slugOf config minute visitor.username := by
      intro taken
      refine accepts.2.2.2.2 (taken ▸ recorded.slug ▸ List.mem_map_of_mem ?_)
      exact (Table.get_eq_some_iff.mp recorded.found).1
    exact .inl (goesOn ((Function.update_of_ne different _ _).trans listed)
      ((Function.update_of_ne other _ _).trans written))

theorem keepsEvents_stop {ended : String} {ends : Finalising} (sound : Sound state)
    (orderly : Orderly config state (.stop visitor ended ends)) :
    KeepsEvents config state (state.recordingStop config visitor ended ends).1 := by
  cases mine : state.active visitor.id with
  | none =>
      rw [stop_idle mine]
      exact keepsEvents_refl
  | some rec =>
      obtain ⟨row, recorded⟩ := sound.entries visitor.id rec mine
      obtain ⟨rfl, within⟩ := orderly rec mine
      rw [stop_done mine recorded (within row recorded.found)]
      intro user entry journal listed written
      by_cases same : user = visitor.id
      · cases same
        cases Option.some.inj (mine.symm.trans listed)
        refine .inr ⟨Function.update_self .., ended, ?_⟩
        refine (Function.update_self ..).trans ?_
        dsimp only
        rw [written]
        rfl
      · have apart := sound.apart listed mine same
        exact .inl (goesOn ((Function.update_of_ne same _ _).trans listed)
          ((Function.update_of_ne apart _ _).trans written))

end Events

section Run

variable {config : RecordingConfig} {state : Recorder} {request : Request}

theorem Sound.serve (sound : Sound state) (orderly : Orderly config state request) :
    Sound (state.serve config request).1 := by
  cases request with
  | start user options minute started opens => exact sound.recordingStart orderly
  | stop user ended ends => exact sound.recordingStop orderly
  | event user kind direction content host clock writes => exact sound.carry event_carried
  | updateOptions user options => exact sound.carry updateOptions_carried

theorem Sound.orderly_iff (sound : Sound state) : (Consistent (state.serve config request).1 ∧
    StaysStoppable config state request) ↔ Orderly config state request := by
  constructor
  · rintro ⟨consistent, -⟩
    cases request with
    | start user options minute started opens =>
        intro accepts
        cases opens with
        | true => rfl
        | false => exact absurd consistent (not_consistent_unopened accepts)
    | stop user ended ends =>
        intro rec mine
        obtain ⟨row, recorded⟩ := sound.entries user.id rec mine
        by_contra disorderly
        refine not_consistent_stop_failed mine recorded ?_ consistent
        by_contra succeeds
        push Not at succeeds
        refine disorderly ⟨succeeds.1, fun other found => ?_⟩
        cases Option.some.inj (recorded.found.symm.trans found)
        exact succeeds.2
    | event | updateOptions => trivial
  · intro orderly
    refine ⟨(sound.serve orderly).consistent, ?_⟩
    cases request with
    | stop user ended ends => exact staysStoppable_orderly sound orderly
    | start | event | updateOptions => nofun

end Run

theorem keepsEvents_serve {config : RecordingConfig} {state : Recorder} {request : Request} (sound : Sound state)
    (orderly : Orderly config state request) : KeepsEvents config state (state.serve config request).1 := by
  cases request with
  | start user options minute started opens =>
      cases opens with
      | true => exact keepsEvents_start sound
      | false =>
          rcases start_cases with ⟨-, unchanged⟩ | ⟨tid, read, accepts, -⟩
          · rw [Recorder.serve, unchanged]
            exact keepsEvents_refl
          · exact absurd (orderly accepts) Bool.false_ne_true
  | stop user ended ends => exact keepsEvents_stop sound orderly
  | event user kind direction content host clock writes => exact keepsEvents_event sound
  | updateOptions user options => exact keepsEvents_options

/-- In every run of orderly requests rows and map agree, every recording in memory
has its journal and no event is lost; a request keeps rows and map in agreement, and
leaves a recording it fails to stop to be stopped later, exactly when it is orderly. -/
theorem recording_life_cycle (config : RecordingConfig) {state : Recorder}
    (reached : (Recorder.machine config).ReachableUnder (Orderly config) state) :
    Consistent state ∧ (∀ user rec, state.active user = some rec → ∃ text, state.journals rec.slug = some text) ∧
      ∀ request, ((Consistent (state.serve config request).1 ∧ StaysStoppable config state request) ↔
        Orderly config state request) ∧
      (Orderly config state request → KeepsEvents config state (state.serve config request).1) := by
  have sound : Sound state := reached.invariant (fun _ starts => .start starts) fun before request after orderly
      stepped holds => by
    cases stepped
    exact holds.serve orderly
  refine ⟨sound.consistent, fun user rec listed => ?_, fun request => ⟨sound.orderly_iff, keepsEvents_serve sound⟩⟩
  obtain ⟨row, recorded⟩ := sound.entries user rec listed
  exact recorded.journal

def plainConfig : RecordingConfig where
  enabled := true
  sessionsDir := "docs/sessions"
  isAlnum := Char.isAlphanum
  upper := String.toUpper

def idleRecorder : Recorder where
  sessions := .empty
  active := fun _ => none
  journals := fun _ => none
  finished := fun _ => none

theorem idleRecorder_starts : idleRecorder.Starts :=
  ⟨rfl, fun _ member => absurd member List.not_mem_nil, fun _ member => absurd member List.not_mem_nil⟩

def ann : Visitor where
  id := 1
  username := "ann"
  tid := some 1

def startAnn (opens : Bool) : Request := .start ann [] "2026-01-01-0900" "2026-01-01 09:00:00 UTC" opens

def copyAnn : Request := .event ann "copy" "terminal copy" "uptime" "" "09:00:05" true

def stopAnn (tid : Option Int) (ends : Finalising) : Request :=
  .stop { ann with tid } "2026-01-01 09:01:00 UTC" ends

def started : Recorder := (idleRecorder.serve plainConfig (startAnn true)).1

theorem recording_life_cycle_ann : ∃ state, (Recorder.machine plainConfig).run idleRecorder
    [startAnn true, copyAnn, stopAnn none .done] = some state ∧ Consistent state := by
  refine ⟨_, rfl, ?_⟩
  have orderly : (Recorder.machine plainConfig).Meets (Orderly plainConfig) idleRecorder
      [startAnn true, copyAnn, stopAnn none .done] :=
    Machine.meets_cons rfl (fun _ => rfl) (Machine.meets_cons rfl trivial
      (Machine.meets_cons rfl (fun _ _ => ⟨rfl, fun _ _ => .inl rfl⟩) trivial))
  exact (recording_life_cycle plainConfig ⟨idleRecorder, _, idleRecorder_starts, rfl, orderly⟩).1

theorem annAccepted : Accepts plainConfig idleRecorder ann [] "2026-01-01-0900" :=
  ⟨rfl, rfl, rfl, rfl, nofun⟩

/-- A journal that does not open leaves an active row without a recording; a stop that
cannot finalise its journal, or comes from another tenant, leaves a recording that
nobody can stop. -/
theorem failed_requests_strand_recording :
    (∃ state, (Recorder.machine plainConfig).Reachable state ∧ ¬ Consistent state) ∧
    ∃ state, (Recorder.machine plainConfig).Reachable state ∧
      ¬ StaysStoppable plainConfig state (stopAnn (some 1) (.failed true false)) ∧
      ¬ StaysStoppable plainConfig state (stopAnn (some 2) .done) := by
  constructor
  · exact ⟨_, ⟨idleRecorder, [startAnn false], idleRecorder_starts, rfl⟩, not_consistent_unopened annAccepted⟩
  · have stranded (tid : Option Int) (ends : Finalising)
        (raised : (started.serve plainConfig (stopAnn tid ends)).2 ≠ .done)
        (gone : (started.serve plainConfig (stopAnn tid ends)).1.active 1 = none) :
        ¬ StaysStoppable plainConfig started (stopAnn tid ends) := by
      intro stays
      obtain ⟨visitor, ended, path, same, answered, -⟩ := stays _ _ _ rfl raised _ _ rfl rfl
      rw [stop_idle (by rw [same]; exact gone)] at answered
      cases answered
    exact ⟨started, ⟨idleRecorder, [startAnn true], idleRecorder_starts, rfl⟩,
      stranded _ _ nofun rfl, stranded _ _ (by decide) rfl⟩

end Dosm.Recording
