import Dosm.Sessions.Tasks

namespace Dosm.Sessions

open WriteLock

/-! Which handlers leave the lock alone while they wait. -/

variable {checked inserted found valid stored committed : Bool} {rows : HostRows} {flow save : Flow Unit}

/-- A handler that starts with nothing held, keeps the discipline, and leaves at
most the writes of its own session to the teardown. -/
def Keeps (flow : Flow Unit) : Prop := Spec (Idle false) flow (Writing false db) (Writing false db)

def KeepsClean (flow : Flow Unit) : Prop := Spec (Idle false) flow (Idle false) (Idle false)

theorem writing_of_idle (own : Own) (idle : Idle false own) : Writing false db own := idle.writing

theorem KeepsClean.keeps (clean : KeepsClean flow) : Keeps flow :=
  clean.to_weaker writing_of_idle writing_of_idle

theorem Keeps.getSession (keeps : Keeps flow) : KeepsClean (getSession flow) :=
  Spec.withSession fit_awake keeps

theorem KeepsClean.disciplined (clean : KeepsClean flow) : ({} : Own).disciplined (task flow) = true := by
  obtain ⟨after, passed, ends⟩ := clean { suspended := false } ⟨rfl, rfl⟩
  have idle : Idle false after := by
    split at ends <;> exact ends
  have resumed : ({} : Own).disciplined (task flow) =
      ({ suspended := false } : Own).disciplined (flow.events ++ [.suspend]) := rfl
  have asleep : Idle true { after with suspended := true } := ⟨idle.1, rfl⟩
  have suspends : after.step .suspend = some { after with suspended := true } := by simp [Own.step, idle.2]
  rw [resumed, Own.disciplined_append passed]
  simp only [Own.disciplined, idle.sound, suspends, asleep.sound]
  rfl

theorem disciplined_of_doomed (doomed : Doomed (Idle false) flow) : ({} : Own).disciplined (task flow) = false :=
  doomed { suspended := false } ⟨rfl, rfl⟩ [.suspend]

/-! Steps of the request's own session. -/

abbrev Db : Own → Prop := Writing false db

theorem write_db {raised : Own → Prop} : Spec Db (Flow.write db) Db raised := Spec.write fit_awake

theorem write_first {raised : Own → Prop} : Spec (Idle false) (Flow.write db) Db raised :=
  write_db.from_stronger writing_of_idle

theorem flush_db {raised : Own → Prop} : Spec Db (Flow.flush db) Db raised := Spec.flush fit_awake

theorem commit_db {raised : Own → Prop} : Spec Db (Flow.commit db) (Idle false) raised := Spec.commit fit_awake

theorem rollback_db {raised : Own → Prop} : Spec Db (Flow.rollback db) (Idle false) raised := Spec.rollback fit_awake

theorem refused_db {raised : Own → Prop} : Spec Db (Flow.refused db) (Idle false) raised := Spec.refused fit_awake

theorem saved {raised : Own → Prop} : Spec Db (do
    Flow.flush db
    Flow.write db
    Flow.commit db) (Idle false) raised :=
  flush_db.bind fun _ => write_db.bind fun _ => commit_db

theorem refusedRow {raised : Own → Prop} : Spec Db (do
    Flow.refused db
    Flow.rollback db) (Idle false) raised :=
  refused_db.bind fun _ => rollback_db.from_stronger writing_of_idle

theorem saveRow_clean : KeepsClean (saveRow checked) := by
  unfold saveRow
  split
  · exact write_first.bind fun _ => saved
  · exact Spec.raise fun _ idle => idle

theorem tryRow_clean : KeepsClean (tryRow checked inserted) := by
  unfold tryRow
  split
  · refine write_first.bind fun _ => ?_
    split
    · exact saved
    · exact refusedRow
  · exact Spec.raise fun _ idle => idle

theorem commitRows_clean : KeepsClean (commitRows checked) := by
  unfold commitRows
  split
  · exact write_first.bind fun _ => commit_db
  · exact Spec.raise fun _ idle => idle

theorem saveUnit_clean : KeepsClean (saveUnit found valid) := by
  unfold saveUnit
  split
  · split
    · exact write_first.bind fun _ => saved
    · exact rollback_db.from_stronger writing_of_idle
  · exact Spec.raise fun _ idle => idle

theorem assignOrg_clean : KeepsClean (assignOrg found valid) := by
  unfold assignOrg
  split
  · split
    · exact write_first.bind fun _ => saved
    · exact rollback_db.from_stronger writing_of_idle
  · exact Spec.raise fun _ idle => idle

theorem certSourceCreate_clean : KeepsClean (certSourceCreate checked) :=
  Spec.await.bind fun _ => saveRow_clean

theorem credentialsRename_clean {changed : Bool} : KeepsClean (credentialsRename found changed inserted) := by
  unfold credentialsRename
  split
  · split
    · exact tryRow_clean
    · exact Spec.pure fun _ idle => idle
  · exact Spec.raise fun _ idle => idle

theorem savePayload_clean : KeepsClean (savePayload found valid) := by
  unfold savePayload
  split
  · refine Spec.await.bind fun _ => ?_
    split
    · exact saveRow_clean
    · exact Spec.pure fun _ idle => idle
  · exact Spec.raise fun _ idle => idle

/-! Repositories whose refused rows are caught further up. -/

def Within (flow : Flow Unit) : Prop := Spec Db flow Db Db

theorem flushRow_within {accepted : Bool} : Within (flushRow accepted) := by
  unfold flushRow
  split
  · exact flush_db
  · exact refused_db.bind fun _ => Spec.raise writing_of_idle

theorem Within.getOrCreateTag {tag : Option Bool} : Within (getOrCreateTag tag) := by
  cases tag with
  | none => exact Spec.pure fun _ writing => writing
  | some accepted => exact write_db.bind fun _ => flushRow_within

theorem linkTags_within : Within (linkTags rows) := by
  refine Spec.bind (Spec.repeat' fun tag _ => ?_) fun _ => flushRow_within
  exact Within.getOrCreateTag.bind fun _ => write_db

theorem createHost_within : Within (createHost rows) := by
  unfold createHost
  split
  · exact write_db.bind fun _ => flushRow_within.bind fun _ => linkTags_within
  · exact Spec.raise fun _ writing => writing

theorem updateHost_within : Within (updateHost rows) := by
  unfold updateHost
  split
  · exact write_db.bind fun _ => flush_db.bind fun _ => write_db.bind fun _ => linkTags_within
  · exact Spec.raise fun _ writing => writing

theorem savePipeline_within {accepted : Bool} : Within (savePipeline valid accepted) := by
  unfold savePipeline
  split
  · exact write_db.bind fun _ => flushRow_within
  · exact Spec.raise fun _ writing => writing

theorem saveHost_clean (within : Within save) : KeepsClean (saveHost found save) := by
  unfold saveHost
  split
  · refine Spec.orElse (Spec.from_stronger ?_ writing_of_idle) rollback_db
    exact within.bind fun _ => write_db.bind fun _ => commit_db
  · exact Spec.raise fun _ idle => idle

theorem pipelinesCreate_keeps {accepted : Bool} : Keeps (pipelinesCreate valid accepted) := by
  refine Spec.bind (Spec.await.to_weaker (fun _ idle => idle) writing_of_idle) fun _ => ?_
  refine Spec.orElse (Spec.from_stronger ?_ writing_of_idle) (rollback_db.to_weaker writing_of_idle fun _ raised => raised)
  exact savePipeline_within.bind fun _ => write_db

theorem pipelinesUpdate_clean {accepted : Bool} : KeepsClean (pipelinesUpdate found valid accepted) := by
  unfold pipelinesUpdate
  split
  · refine Spec.await.bind fun _ => Spec.orElse (Spec.from_stronger ?_ writing_of_idle) rollback_db
    exact savePipeline_within.bind fun _ => write_db.bind fun _ => commit_db
  · exact Spec.raise fun _ idle => idle

/-! Flushes that are left to the teardown. -/

theorem flushed {raised : Own → Prop} : Spec (Idle false) (do
    Flow.write db
    Flow.flush db) Db raised :=
  write_first.bind fun _ => flush_db

theorem chatPostMessage_keeps {content : String} : Keeps (chatPostMessage found content) := by
  unfold chatPostMessage
  split
  · split
    · exact write_first.bind fun _ => flush_db.bind fun _ => write_db
    · exact Spec.pure writing_of_idle
  · exact Spec.raise writing_of_idle

theorem filesIndex_keeps {view : String} : Keeps (filesIndex view) := by
  unfold filesIndex
  split
  · exact flushed
  · exact Spec.pure writing_of_idle

theorem await_first {α : Type} {answer : Option α} : Spec (Idle false) (Flow.await answer) (Idle false) Db :=
  Spec.await.to_weaker (fun _ idle => idle) writing_of_idle

theorem oktaCallback_keeps {answers : Fin 3 → Option Unit} {granted active : Bool} :
    Keeps (oktaCallback answers granted active) := by
  refine await_first.bind fun _ => await_first.bind fun _ => await_first.bind fun _ => ?_
  split
  · refine write_first.bind fun _ => flush_db.bind fun _ => ?_
    split
    · exact write_db.bind fun _ => commit_db.to_weaker writing_of_idle fun _ raised => raised
    · exact Spec.raise fun _ writing => writing
  · exact write_first.bind fun _ => commit_db.to_weaker writing_of_idle fun _ raised => raised

theorem waitThenAdd_keeps {answers : List (Option Unit)} {count : Nat} :
    Keeps (waitThenAdd answers count committed) := by
  refine Spec.bind ((Spec.repeat' fun _ _ => Spec.await).to_weaker (fun _ idle => idle) writing_of_idle) fun _ => ?_
  refine Spec.bind ((Spec.repeat' fun _ _ => Spec.write fit_awake).from_stronger writing_of_idle) fun _ => ?_
  split
  · exact commit_db.to_weaker writing_of_idle fun _ raised => raised
  · exact Spec.pure fun _ writing => writing

/-! Secrets. -/

theorem setSecret_caught : KeepsClean ((Flow.setSecret stored).orElse (pure ())) :=
  Spec.orElse Spec.setSecret (Spec.pure fun _ idle => idle)

theorem credentialsCreate_clean {form : CredentialForm} : KeepsClean (credentialsCreate form inserted stored) := by
  unfold credentialsCreate
  split
  · refine write_first.bind fun _ => ?_
    split
    · refine flush_db.bind fun _ => write_db.bind fun _ => commit_db.bind fun _ => ?_
      split
      · exact Spec.orElse Spec.setSecret Spec.write_idle
      · exact Spec.pure fun _ idle => idle
    · exact refusedRow
  · exact Spec.pure fun _ idle => idle

theorem credentialsUpdate_clean {form : CredentialForm} :
    KeepsClean (credentialsUpdate found form inserted stored) := by
  unfold credentialsUpdate
  split
  · split
    · refine write_first.bind fun _ => ?_
      split
      · refine flush_db.bind fun _ => write_db.bind fun _ => commit_db.bind fun _ => ?_
        split
        · refine Spec.orElse Spec.setSecret (Spec.withSession fit_awake ?_)
          exact Spec.write_idle.to_weaker (fun _ idle => idle.writing) fun _ idle => Idle.writing idle
        · exact Spec.pure fun _ idle => idle
      · exact refusedRow
    · exact Spec.pure fun _ idle => idle
  · exact Spec.raise fun _ idle => idle

theorem setUserMaterial_clean : KeepsClean (setUserMaterial found stored) := by
  unfold setUserMaterial
  split
  · exact Spec.setSecret.bind fun _ => write_first.bind fun _ => commit_db
  · exact Spec.raise fun _ idle => idle

theorem storeTokens_clean {tokens : List (String × Bool)} : KeepsClean (storeTokens tokens) := by
  refine Spec.repeat' fun token _ => ?_
  split
  · exact Spec.setSecret.bind fun _ => Spec.write_idle
  · exact Spec.pure fun _ idle => idle

theorem saveSource_clean {tokens : List (String × Bool)} : KeepsClean (saveSource checked tokens) := by
  unfold saveSource
  split
  · refine write_first.bind fun _ => commit_db.bind fun _ => storeTokens_clean.bind fun _ => ?_
    exact write_first.bind fun _ => commit_db
  · exact Spec.raise fun _ idle => idle

theorem deleteSecrets_clean {paths : List Bool} : KeepsClean (deleteSecrets paths) :=
  Spec.repeat' fun _ _ => setSecret_caught

theorem deleteSource_clean {paths : List Bool} : KeepsClean (deleteSource found paths) := by
  unfold deleteSource
  split
  · exact deleteSecrets_clean.bind fun _ => write_first.bind fun _ => commit_db
  · exact Spec.raise fun _ idle => idle

theorem runChecks_clean {adapters : Nat} : KeepsClean (runChecks adapters) := by
  unfold runChecks
  split
  · refine Spec.await.bind fun _ => ?_
    refine Spec.bind ((Spec.repeat' fun _ _ => write_db).from_stronger writing_of_idle) fun _ => ?_
    exact commit_db
  · exact Spec.pure fun _ idle => idle

end Dosm.Sessions
