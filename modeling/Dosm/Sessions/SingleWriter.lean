import Dosm.Sessions.Discipline

namespace Dosm.Sessions

open WriteLock

/-! Every task of the server, and which of them break the single-writer rule. -/

variable {found changed : Bool} {body : Flow Unit}

/-! What waits for a provider, Confluence or the directory. -/

def ProviderCall.isSent : ProviderCall → Bool
  | .sent _ => true
  | _ => false

theorem triggerPipeline_within {number : Nat} {call : ProviderCall} (unsent : call.isSent = false) :
    Spec (Writing false (.task number)) (triggerPipeline (.task number) call)
      (Writing false (.task number)) (Writing false (.task number)) := by
  have writes : Spec (Writing false (.task number)) (do
      Flow.write (.task number)
      Flow.flush (.task number)) (Writing false (.task number)) (Writing false (.task number)) :=
    (Spec.write fit_awake).bind fun _ => Spec.flush fit_awake
  refine (Spec.write fit_awake).bind fun _ => (Spec.flush fit_awake).bind fun _ => ?_
  cases call with
  | refused => exact writes
  | failed => exact Spec.raise fun _ writing => writing
  | sent answer => cases unsent

theorem triggerPipeline_doomed {number : Nat} {call : ProviderCall} (sent : call.isSent = true) :
    Doomed (Idle false) (triggerPipeline (.task number) call) := by
  cases call with
  | refused | failed => cases sent
  | sent answer =>
      intro own idle rest
      obtain waits := @Doomed.flushed_await Unit number answer own idle
      cases answer with
      | none => exact waits rest
      | some value =>
          have order : (triggerPipeline (.task number) (.sent (some value))).events ++ rest =
              [.write (.task number), .flush (.task number), .suspend, .resume] ++
                ([.write (.task number), .flush (.task number)] ++ rest) := rfl
          rw [order]
          exact waits _

theorem refreshRun_keeps {run : RunState} : Keeps (refreshRun run) := by
  unfold refreshRun
  split
  · exact Spec.pure writing_of_idle
  · exact flushed
  · exact flushed
  · exact Spec.raise writing_of_idle
  · exact await_first.bind fun _ => flushed

theorem pipelinesRunRefresh_keeps {run : RunState} : Keeps (pipelinesRunRefresh found run) := by
  unfold pipelinesRunRefresh
  split
  · exact refreshRun_keeps.bind fun _ => write_db
  · exact Spec.raise writing_of_idle

theorem caught_clean (clean : KeepsClean body) : KeepsClean (body.orElse (pure ())) :=
  Spec.orElse clean (Spec.pure fun _ idle => idle)

theorem sessionScope_clean (keeps : Keeps body) : KeepsClean (sessionScope body) :=
  Spec.withSession fit_awake keeps

theorem pollOne_clean {run : Option RunState} : KeepsClean (pollOne run changed) := by
  refine caught_clean (sessionScope_clean ?_)
  cases run with
  | none => exact Spec.pure writing_of_idle
  | some run =>
      refine refreshRun_keeps.bind fun _ => ?_
      split
      · exact write_db
      · exact Spec.pure fun _ writing => writing

theorem pollTick_clean {abandoned : Nat} {due : Bool} : KeepsClean (pollTick abandoned due) := by
  have flushes : Within (Flow.repeat' (fun _ => do
      Flow.write db
      Flow.flush db) (List.range abandoned)) :=
    Spec.repeat' fun _ _ => write_db.bind fun _ => flush_db
  refine Spec.bind (sessionScope_clean (Spec.from_stronger flushes writing_of_idle)) fun _ => ?_
  split
  · exact Spec.await
  · exact Spec.pure fun _ idle => idle

theorem syncItem_clean {item : ItemRun} : KeepsClean (syncItem item) := by
  cases item with
  | unchanged => exact Spec.write_idle
  | fetched answer => exact caught_clean (Spec.await.bind fun _ => Spec.write_idle)

theorem syncPage_clean {page : PageRun} : KeepsClean (syncPage page) := by
  have body : KeepsClean (syncBody page.page) := by
    cases page.page with
    | none => exact Spec.pure fun _ idle => idle
    | some item => exact syncItem_clean
  refine Spec.bind body fun _ => ?_
  unfold syncAttachments
  split
  · exact Spec.pure fun _ idle => idle
  · exact (caught_clean Spec.await).bind fun _ => Spec.repeat' fun _ _ => syncItem_clean

theorem syncListener_keeps {run : ListenerRun} (settled : run.configured = true → run.folderExists = true) :
    Keeps (syncListener run) := by
  unfold syncListener
  split
  · rename_i configured
    have folder : KeepsClean (ensureFolder run.folderExists) := by
      rw [ensureFolder, if_pos (settled configured)]
      exact Spec.pure fun _ idle => idle
    have pages : KeepsClean (Flow.repeat' syncPage run.pages) := Spec.repeat' fun _ _ => syncPage_clean
    have gone : KeepsClean (Flow.repeat' (fun _ => Flow.write db) (List.range run.gone)) :=
      Spec.repeat' fun _ _ => Spec.write_idle
    refine Spec.bind (folder.to_weaker (fun _ idle => idle) writing_of_idle) fun _ => ?_
    refine await_first.bind fun _ => ?_
    refine Spec.bind (pages.to_weaker (fun _ idle => idle) writing_of_idle) fun _ => ?_
    refine Spec.bind (gone.to_weaker (fun _ idle => idle) writing_of_idle) fun _ => ?_
    exact flushed
  · exact Spec.raise writing_of_idle

theorem syncListener_doomed {run : ListenerRun} (configured : run.configured = true)
    (first : run.folderExists = false) : Doomed (Idle false) (syncListener run) := by
  intro own idle rest
  have waits := @Doomed.flushed_await Unit 0 run.listing own idle
  have order : ∃ later, (syncListener run).events = [.write db, .flush db, .suspend, .resume] ++ later := by
    simp only [syncListener, ensureFolder, configured, first]
    cases run.listing with
    | none => exact ⟨[], rfl⟩
    | some answer => exact ⟨_, rfl⟩
  obtain ⟨later, order⟩ := order
  rw [order, List.append_assoc]
  exact waits _

theorem orgUpdate_clean {resolved : Bool} : KeepsClean (orgUpdate found changed resolved) := by
  unfold orgUpdate
  split
  · have again : KeepsClean (resolveAgain changed) := by
      unfold resolveAgain
      split
      · exact Spec.await
      · exact Spec.pure fun _ idle => idle
    refine Spec.bind again fun _ => ?_
    split
    · exact write_first.bind fun _ => commit_db
    · exact Spec.pure fun _ idle => idle
  · exact Spec.raise fun _ idle => idle

theorem syncDepartment_doomed {call : DirectoryCall} :
    Doomed (Idle false) (Flow.offload (syncDepartment db call)) := Doomed.handed_over

theorem orgSync_clean {configured : Bool} {call : DirectoryCall} (idle : ¬ (found ∧ configured)) :
    KeepsClean (orgSync found configured call) := by
  rw [orgSync, if_neg idle]
  exact Spec.raise fun _ idle => idle

theorem orgCreate_clean {form : DepartmentForm} (idle : ¬ (form.configured ∧ form.resolved)) :
    KeepsClean (orgCreate form) := by
  unfold orgCreate
  split
  · rename_i configured
    refine Spec.await.bind fun _ => ?_
    rw [if_neg fun resolved => idle ⟨configured, resolved⟩]
    exact Spec.pure fun _ idle => idle
  · exact Spec.raise fun _ idle => idle

theorem orgCreate_doomed {form : DepartmentForm} (configured : form.configured = true)
    (resolved : form.resolved = true) : Doomed (Idle false) (orgCreate form) := by
  rw [orgCreate, if_pos configured]
  refine Doomed.bind_after Spec.await rfl ?_
  rw [if_pos resolved]
  refine Doomed.bind_after write_first rfl ?_
  refine Doomed.bind_after flush_db rfl ?_
  refine Doomed.bind_after write_db rfl ?_
  refine Doomed.bind_after commit_db rfl ?_
  exact syncDepartment_doomed.orElse

/-! The agent's runners. -/

abbrev S2 : Own → Prop := Writing false s2

theorem write_s2 {raised : Own → Prop} : Spec S2 (Flow.write s2) S2 raised := Spec.write fit_awake

theorem write_s2_first {raised : Own → Prop} : Spec (Idle false) (Flow.write s2) S2 raised :=
  write_s2.from_stronger fun _ idle => idle.writing

theorem runnerScope_clean (block : Spec (Idle false) body S2 S2) : KeepsClean (runnerScope body) :=
  Spec.withSession fit_awake block

theorem runnerRow_within {inserted : Bool} : Spec (Idle false) (runnerRow inserted) S2 S2 := by
  refine write_s2_first.bind fun _ => ?_
  split
  · exact (Spec.flush fit_awake).bind fun _ => write_s2
  · exact (Spec.refused fit_awake).to_weaker (fun _ idle => Idle.writing idle) fun _ raised => raised

theorem runnerWrite_clean : KeepsClean (runnerScope (if found then Flow.write s2 else pure ())) := by
  refine runnerScope_clean ?_
  split
  · exact write_s2_first
  · exact Spec.pure fun _ idle => idle.writing

theorem runnerTokens_clean {tokens : List Bool} : KeepsClean (runnerTokens tokens) := by
  refine caught_clean (Spec.repeat' fun _ _ => ?_)
  exact Spec.setSecret.bind fun _ => runnerScope_clean write_s2_first

theorem ownSession_clean {disappeared : Bool} {call : DirectoryCall} :
    KeepsClean (Flow.offload (Flow.withSession (.worker 0)
      (if disappeared then Flow.raise else syncDepartment (.worker 0) call))) := by
  have write {raised : Own → Prop} :
      Spec (Writing true (.worker 0)) (Flow.write (.worker 0)) (Writing true (.worker 0)) raised :=
    Spec.write fit_worker
  have commit {raised : Own → Prop} :
      Spec (Writing true (.worker 0)) (Flow.commit (.worker 0)) (Idle true) raised :=
    Spec.commit fit_worker
  have block : Spec (Writing true (.worker 0))
      (if disappeared then Flow.raise else syncDepartment (.worker 0) call)
      (Writing true (.worker 0)) (Writing true (.worker 0)) := by
    split
    · exact Spec.raise fun _ writing => writing
    · refine write.bind fun _ => (Spec.flush fit_worker).bind fun _ => ?_
      cases call with
      | misconfigured => exact Spec.raise fun _ writing => writing
      | failed =>
          exact write.bind fun _ => commit.bind fun _ => Spec.raise fun _ idle => idle.writing
      | answered changes =>
          refine Spec.bind (Spec.repeat' fun _ _ => write) fun _ => write.bind fun _ => ?_
          exact commit.to_weaker (fun _ idle => Idle.writing idle) fun _ raised => raised
  exact Spec.offload (Spec.withSession fit_worker block.from_idle)

/-- The runner triggers a pipeline and gets as far as the provider. -/
def Runner.Sends : Runner → Prop
  | .runPipeline argsValid found call => argsValid = true ∧ found = true ∧ call.isSent = true
  | _ => False

theorem Runner.flow_clean {runner : Runner} (unsent : ¬ runner.Sends) : KeepsClean runner.flow := by
  have nothing : KeepsClean (pure ()) := Spec.pure fun _ idle => idle
  cases runner with
  | command answers => exact Spec.repeat' fun _ _ => Spec.await
  | document => exact nothing
  | rows argsValid flushes =>
      cases argsValid with
      | false => exact nothing
      | true =>
          refine runnerScope_clean (Spec.from_stronger (Spec.repeat' fun accepted _ => ?_) fun _ idle => Idle.writing idle)
          refine write_s2.bind fun _ => ?_
          split
          · exact Spec.flush fit_awake
          · exact (Spec.refused fit_awake).bind fun _ => Spec.raise fun _ idle => idle.writing
  | runPipeline argsValid found call =>
      cases argsValid with
      | false => exact nothing
      | true =>
          refine runnerScope_clean ?_
          cases found with
          | false => exact Spec.pure fun _ idle => idle.writing
          | true =>
              have unsent : call.isSent = false := by
                rw [← Bool.not_eq_true]
                exact fun sent => unsent ⟨rfl, rfl, sent⟩
              have block : Spec S2 ((triggerPipeline s2 call).orElse (pure ())) S2 S2 :=
                Spec.orElse (triggerPipeline_within unsent) (Spec.pure fun _ writing => writing)
              exact block.from_idle
  | createCredential argsValid inserted stored =>
      cases argsValid with
      | false => exact nothing
      | true =>
          refine (runnerScope_clean runnerRow_within).bind fun _ => ?_
          split
          · exact setSecret_caught
          · exact nothing
  | updateCredential found secretGiven stored =>
      refine runnerWrite_clean.bind fun _ => ?_
      split
      · exact setSecret_caught
      · exact nothing
  | deleteCredential found deleted =>
      refine runnerWrite_clean.bind fun _ => ?_
      split
      · exact setSecret_caught
      · exact nothing
  | createMonitoringSource argsValid inserted tokens =>
      cases argsValid with
      | false => exact nothing
      | true =>
          refine (runnerScope_clean runnerRow_within).bind fun _ => ?_
          split
          · exact runnerTokens_clean
          · exact nothing
  | updateMonitoringSource found tokens =>
      refine runnerWrite_clean.bind fun _ => ?_
      split
      · exact runnerTokens_clean
      · exact nothing
  | deleteMonitoringSource found paths =>
      refine runnerWrite_clean.bind fun _ => ?_
      split
      · exact deleteSecrets_clean
      · exact nothing
  | syncOrgGroup found disappeared call =>
      cases found with
      | false => exact nothing
      | true => exact caught_clean ownSession_clean

theorem Runner.flow_doomed {runner : Runner} (sends : runner.Sends) : Doomed (Idle false) runner.flow := by
  cases runner with
  | runPipeline argsValid found call =>
      obtain ⟨rfl, rfl, sent⟩ := sends
      exact (triggerPipeline_doomed sent).orElse.withSession
  | _ => cases sends

theorem execute_clean {runner : Runner} (unsent : ¬ runner.Sends) : KeepsClean (execute runner) :=
  (caught_clean (Runner.flow_clean unsent)).bind fun _ => Spec.withSession fit_awake write_s2_first

theorem execute_doomed {runner : Runner} (sends : runner.Sends) : Doomed (Idle false) (execute runner) :=
  (Runner.flow_doomed sends).orElse.bind

theorem execute_returns {runner : Runner} : (execute runner).result = some () := by
  have caught : (runner.flow.orElse (pure ())).result = some () := by
    unfold Flow.orElse
    cases answer : runner.flow.result with
    | none => rfl
    | some value => exact answer
  simp only [execute, Bind.bind, caught]
  rfl

/-! Tasks. -/

inductive Task where
  | saveRow (checked : Bool)
  | tryRow (checked inserted : Bool)
  | commitRows (checked : Bool)
  | assignOrg (found unitFound : Bool)
  | saveUnit (found valid : Bool)
  | certSourceCreate (checked : Bool)
  | credentialsRename (found changed inserted : Bool)
  | hostsCreate (rows : HostRows)
  | hostsUpdate (found : Bool) (rows : HostRows)
  | pipelinesCreate (valid accepted : Bool)
  | pipelinesUpdate (found valid accepted : Bool)
  | savePayload (found valid : Bool)
  | chatNew
  | chatPostMessage (found : Bool) (content : String)
  | filesIndex (view : String)
  | oktaCallback (answers : Fin 3 → Option Unit) (granted active : Bool)
  | waitThenAdd (answers : List (Option Unit)) (rows : Nat) (committed : Bool)
  | credentialsCreate (form : CredentialForm) (inserted stored : Bool)
  | credentialsUpdate (found : Bool) (form : CredentialForm) (inserted stored : Bool)
  | setUserMaterial (found stored : Bool)
  | saveSource (checked : Bool) (tokens : List (String × Bool))
  | deleteSource (found : Bool) (paths : List Bool)
  | runChecks (adapters : Nat)
  | pipelinesTrigger (request : TriggerRequest)
  | pipelinesRunRefresh (found : Bool) (run : RunState)
  | pollOne (run : Option RunState) (changed : Bool)
  | pollTick (abandoned : Nat) (due : Bool)
  | syncOne (enabled : Bool) (run : ListenerRun)
  | confluenceSyncNow (found : Bool) (run : ListenerRun)
  | orgSync (found configured : Bool) (call : DirectoryCall)
  | orgCreate (form : DepartmentForm)
  | orgUpdate (found changed resolved : Bool)
  | planApprove (approval : Approval)
  | planApproveGroup (found : Bool) (cards : List (Option Runner))
  | planReject (found pending : Bool)
  | generateReply (waits cards : Nat)
  | scanRun (found : Bool) (checks : Option Unit)
  | checkSource (results missed : List Bool)
  | checkWindowsSource (results missed : List Bool)
  | markAll (results : List Bool)

/-- A handler runs inside the session of its request, a background task opens its own. -/
def Task.flow : Task → Flow Unit
  | .saveRow checked => getSession (Sessions.saveRow checked)
  | .tryRow checked inserted => getSession (Sessions.tryRow checked inserted)
  | .commitRows checked => getSession (Sessions.commitRows checked)
  | .assignOrg found unitFound => getSession (Sessions.assignOrg found unitFound)
  | .saveUnit found valid => getSession (Sessions.saveUnit found valid)
  | .certSourceCreate checked => getSession (Sessions.certSourceCreate checked)
  | .credentialsRename found changed inserted => getSession (Sessions.credentialsRename found changed inserted)
  | .hostsCreate rows => getSession (Sessions.hostsCreate rows)
  | .hostsUpdate found rows => getSession (Sessions.hostsUpdate found rows)
  | .pipelinesCreate valid accepted => getSession (Sessions.pipelinesCreate valid accepted)
  | .pipelinesUpdate found valid accepted => getSession (Sessions.pipelinesUpdate found valid accepted)
  | .savePayload found valid => getSession (Sessions.savePayload found valid)
  | .chatNew => getSession Sessions.chatNew
  | .chatPostMessage found content => getSession (Sessions.chatPostMessage found content)
  | .filesIndex view => getSession (Sessions.filesIndex view)
  | .oktaCallback answers granted active => getSession (Sessions.oktaCallback answers granted active)
  | .waitThenAdd answers rows committed => getSession (Sessions.waitThenAdd answers rows committed)
  | .credentialsCreate form inserted stored => getSession (Sessions.credentialsCreate form inserted stored)
  | .credentialsUpdate found form inserted stored =>
      getSession (Sessions.credentialsUpdate found form inserted stored)
  | .setUserMaterial found stored => getSession (Sessions.setUserMaterial found stored)
  | .saveSource checked tokens => getSession (Sessions.saveSource checked tokens)
  | .deleteSource found paths => getSession (Sessions.deleteSource found paths)
  | .runChecks adapters => getSession (Sessions.runChecks adapters)
  | .pipelinesTrigger request => getSession (Sessions.pipelinesTrigger request)
  | .pipelinesRunRefresh found run => getSession (Sessions.pipelinesRunRefresh found run)
  | .pollOne run changed => Sessions.pollOne run changed
  | .pollTick abandoned due => Sessions.pollTick abandoned due
  | .syncOne enabled run => Sessions.syncOne enabled run
  | .confluenceSyncNow found run => getSession (Sessions.confluenceSyncNow found run)
  | .orgSync found configured call => getSession (Sessions.orgSync found configured call)
  | .orgCreate form => getSession (Sessions.orgCreate form)
  | .orgUpdate found changed resolved => getSession (Sessions.orgUpdate found changed resolved)
  | .planApprove approval => getSession (Sessions.planApprove approval)
  | .planApproveGroup found cards => getSession (Sessions.planApproveGroup found cards)
  | .planReject found pending => getSession (Sessions.planReject found pending)
  | .generateReply waits cards => Sessions.generateReply waits cards
  | .scanRun found checks => Sessions.scanRun found checks
  | .checkSource results missed => Sessions.checkSource results missed
  | .checkWindowsSource results missed => Sessions.checkWindowsSource results missed
  | .markAll results => Sessions.markAll results

/-- The listener is synced for the first time: its folder is still missing. -/
def ListenerRun.First (run : ListenerRun) : Prop := run.configured = true ∧ run.folderExists = false

/-- The task never waits with a flushed row: it sends no pipeline trigger, does
not sync a listener for the first time, and hands its session to no worker. -/
def Task.Careful : Task → Prop
  | .pipelinesTrigger request =>
      ¬ (request.found = true ∧ request.inputsValid = true ∧ request.call.isSent = true)
  | .planApprove (.approved runner) => ¬ runner.Sends
  | .planApproveGroup found cards => ¬ (found = true ∧ ∃ runner ∈ cards.filterMap id, runner.Sends)
  | .syncOne enabled run => ¬ (enabled = true ∧ run.First)
  | .confluenceSyncNow found run => ¬ (found = true ∧ run.First)
  | .orgSync found configured _ => ¬ (found = true ∧ configured = true)
  | .orgCreate form => ¬ (form.configured = true ∧ form.resolved = true)
  | _ => True

theorem pipelinesTrigger_keeps {request : TriggerRequest}
    (careful : ¬ (request.found = true ∧ request.inputsValid = true ∧ request.call.isSent = true)) :
    Keeps (pipelinesTrigger request) := by
  unfold pipelinesTrigger
  split
  · rename_i found
    refine await_first.bind fun _ => ?_
    split
    · rename_i valid
      have unsent : request.call.isSent = false := by
        rw [← Bool.not_eq_true]
        exact fun sent => careful ⟨found, valid, sent⟩
      exact (triggerPipeline_within unsent).from_idle.bind fun _ => write_db
    · exact Spec.pure writing_of_idle
  · exact Spec.raise writing_of_idle

theorem pipelinesTrigger_doomed {request : TriggerRequest} (found : request.found = true)
    (valid : request.inputsValid = true) (sent : request.call.isSent = true) :
    Doomed (Idle false) (pipelinesTrigger request) := by
  rw [pipelinesTrigger, if_pos found]
  refine Doomed.bind_after Spec.await rfl ?_
  rw [if_pos valid]
  exact (triggerPipeline_doomed sent).bind

theorem planApprove_keeps {approval : Approval}
    (careful : ∀ runner, approval = .approved runner → ¬ runner.Sends) : Keeps (planApprove approval) := by
  refine await_first.bind fun _ => ?_
  have commits {raised : Own → Prop} : Spec Db (Flow.commit db) Db raised :=
    commit_db.to_weaker writing_of_idle fun _ raised => raised
  cases approval with
  | notFound => exact Spec.raise writing_of_idle
  | decided => exact Spec.pure writing_of_idle
  | unknownTool => exact write_first.bind fun _ => commits
  | unconfirmed => exact flushed
  | approved runner =>
      exact write_first.bind fun _ => commit_db.bind fun _ => (execute_clean (careful runner rfl)).keeps

theorem planApprove_doomed {runner : Runner} (sends : runner.Sends) :
    Doomed (Idle false) (planApprove (.approved runner)) := by
  refine Doomed.bind_after Spec.await rfl ?_
  refine Doomed.bind_after write_first rfl ?_
  exact Doomed.bind_after commit_db rfl (execute_doomed sends)

theorem writes_return {cards : List (Option Runner)} :
    (Flow.repeat' (fun _ => Flow.write db) cards).result = some () := by
  induction cards with
  | nil => rfl
  | cons card rest ih => exact ih

theorem planApproveGroup_clean {cards : List (Option Runner)}
    (careful : ¬ (found = true ∧ ∃ runner ∈ cards.filterMap id, runner.Sends)) :
    KeepsClean (planApproveGroup found cards) := by
  unfold planApproveGroup
  split
  · rename_i found
    split
    · have writes : KeepsClean (Flow.repeat' (fun _ => Flow.write db) cards) :=
        Spec.repeat' fun _ _ => Spec.write_idle
      refine Spec.bind writes fun _ => commit_db.from_idle.bind fun _ => Spec.repeat' fun runner listed => ?_
      exact execute_clean fun sends => careful ⟨found, runner, listed, sends⟩
    · exact Spec.pure fun _ idle => idle
  · exact Spec.raise fun _ idle => idle

theorem planApproveGroup_doomed {cards : List (Option Runner)} (owned : found = true)
    (sends : ∃ runner ∈ cards.filterMap id, runner.Sends) :
    Doomed (Idle false) (planApproveGroup found cards) := by
  obtain ⟨runner, listed, sends⟩ := sends
  have nonempty : cards ≠ [] := by
    rintro rfl
    cases listed
  rw [planApproveGroup, if_pos owned, if_pos nonempty]
  have writes : KeepsClean (Flow.repeat' (fun _ => Flow.write db) cards) :=
    Spec.repeat' fun _ _ => Spec.write_idle
  refine Doomed.bind_after writes writes_return ?_
  refine Doomed.bind_after commit_db.from_idle rfl ?_
  refine Doomed.repeat' ⟨runner, listed, execute_doomed sends⟩ fun other _ spared => ?_
  exact ⟨execute_clean fun sends => spared (execute_doomed sends), execute_returns⟩

theorem planReject_keeps {pending : Bool} : Keeps (planReject found pending) := by
  unfold planReject
  split
  · split
    · exact write_first
    · exact Spec.pure writing_of_idle
  · exact Spec.raise writing_of_idle

theorem generateReply_clean {waits cards : Nat} : KeepsClean (generateReply waits cards) := by
  refine Spec.bind (Spec.repeat' fun _ _ => Spec.await) fun _ => ?_
  have stored : Within (do
      Flow.write db
      Flow.flush db
      Flow.repeat' (fun _ => do
        Flow.write db
        Flow.flush db) (List.range cards)
      Flow.write db) := by
    refine write_db.bind fun _ => flush_db.bind fun _ => Spec.bind (Spec.repeat' fun _ _ => ?_) fun _ => write_db
    exact write_db.bind fun _ => flush_db
  exact Spec.bind (sessionScope_clean stored.from_idle) fun _ => Spec.await

theorem commitResult_clean : KeepsClean (commitResult db found) := by
  refine Spec.withSession fit_awake ?_
  split
  · exact write_first
  · exact Spec.pure writing_of_idle

theorem scanRun_clean {checks : Option Unit} : KeepsClean (scanRun found checks) := by
  refine Spec.bind commitResult_clean fun _ => ?_
  split
  · exact (caught_clean Spec.await).bind fun _ => sessionScope_clean write_first
  · exact Spec.pure fun _ idle => idle

theorem checkSource_clean {results missed : List Bool} : KeepsClean (checkSource results missed) := by
  refine Spec.bind (Spec.repeat' fun _ _ => Spec.await.bind fun _ => commitResult_clean) fun _ => ?_
  exact Spec.await.bind fun _ => Spec.repeat' fun _ _ => commitResult_clean

theorem checkWindowsSource_clean {results missed : List Bool} : KeepsClean (checkWindowsSource results missed) := by
  refine Spec.bind (Spec.offload (Spec.repeat' fun found _ => ?_)) fun _ => Spec.repeat' fun _ _ => commitResult_clean
  have block : Spec (Writing true (.worker 0)) (if found then Flow.write (.worker 0) else pure ())
      (Writing true (.worker 0)) (Writing true (.worker 0)) := by
    split
    · exact Spec.write fit_worker
    · exact Spec.pure fun _ writing => writing
  exact Spec.withSession fit_worker block.from_idle

namespace Task

def events (work : Task) : List Event := task work.flow

theorem clean {work : Task} (careful : work.Careful) : KeepsClean work.flow := by
  have requested {body : Flow Unit} (clean : KeepsClean body) : KeepsClean (getSession body) :=
    clean.keeps.getSession
  cases work with
  | saveRow => exact requested saveRow_clean
  | tryRow => exact requested tryRow_clean
  | commitRows => exact requested commitRows_clean
  | assignOrg => exact requested assignOrg_clean
  | saveUnit => exact requested saveUnit_clean
  | certSourceCreate => exact requested certSourceCreate_clean
  | credentialsRename => exact requested credentialsRename_clean
  | hostsCreate => exact requested (saveHost_clean createHost_within)
  | hostsUpdate => exact requested (saveHost_clean updateHost_within)
  | pipelinesCreate => exact pipelinesCreate_keeps.getSession
  | pipelinesUpdate => exact requested pipelinesUpdate_clean
  | savePayload => exact requested savePayload_clean
  | chatNew => exact Keeps.getSession flushed
  | chatPostMessage => exact chatPostMessage_keeps.getSession
  | filesIndex => exact filesIndex_keeps.getSession
  | oktaCallback => exact oktaCallback_keeps.getSession
  | waitThenAdd => exact waitThenAdd_keeps.getSession
  | credentialsCreate => exact requested credentialsCreate_clean
  | credentialsUpdate => exact requested credentialsUpdate_clean
  | setUserMaterial => exact requested setUserMaterial_clean
  | saveSource => exact requested saveSource_clean
  | deleteSource => exact requested deleteSource_clean
  | runChecks => exact requested runChecks_clean
  | pipelinesTrigger => exact (pipelinesTrigger_keeps careful).getSession
  | pipelinesRunRefresh => exact pipelinesRunRefresh_keeps.getSession
  | pollOne => exact pollOne_clean
  | pollTick => exact pollTick_clean
  | syncOne enabled run =>
      refine caught_clean (sessionScope_clean ?_)
      split
      · rename_i enabled
        refine syncListener_keeps fun configured => ?_
        rw [← Bool.not_eq_false]
        exact fun missing => careful ⟨enabled, configured, missing⟩
      · exact Spec.pure writing_of_idle
  | confluenceSyncNow found run =>
      refine Keeps.getSession ?_
      unfold Sessions.confluenceSyncNow
      split
      · rename_i found
        have settled : run.configured = true → run.folderExists = true := by
          intro configured
          rw [← Bool.not_eq_false]
          exact fun missing => careful ⟨found, configured, missing⟩
        have synced : Keeps (do
            syncListener run
            Flow.write db
            Flow.commit db) := by
          refine (syncListener_keeps settled).bind fun _ => write_db.bind fun _ => ?_
          exact commit_db.to_weaker writing_of_idle fun _ raised => raised
        exact Spec.orElse synced (Spec.pure fun _ writing => writing)
      · exact Spec.raise writing_of_idle
  | orgSync => exact requested (orgSync_clean careful)
  | orgCreate => exact requested (orgCreate_clean careful)
  | orgUpdate => exact requested orgUpdate_clean
  | planApprove approval =>
      refine Keeps.getSession (planApprove_keeps ?_)
      rintro runner rfl
      exact careful
  | planApproveGroup => exact requested (planApproveGroup_clean careful)
  | planReject => exact planReject_keeps.getSession
  | generateReply => exact generateReply_clean
  | scanRun => exact scanRun_clean
  | checkSource => exact checkSource_clean
  | checkWindowsSource => exact checkWindowsSource_clean
  | markAll => exact Spec.repeat' fun _ _ => commitResult_clean

theorem doomed {work : Task} (careless : ¬ work.Careful) : Doomed (Idle false) work.flow := by
  cases work with
  | pipelinesTrigger request =>
      obtain ⟨found, valid, sent⟩ := not_not.mp careless
      exact (pipelinesTrigger_doomed found valid sent).withSession
  | syncOne enabled run =>
      obtain ⟨rfl, configured, missing⟩ := not_not.mp careless
      exact (Doomed.withSession (syncListener_doomed configured missing)).orElse
  | confluenceSyncNow found run =>
      obtain ⟨rfl, configured, missing⟩ := not_not.mp careless
      exact (Doomed.orElse (syncListener_doomed configured missing).bind).withSession
  | orgSync found configured call =>
      have both := not_not.mp careless
      simp only [flow, Sessions.orgSync, if_pos both]
      exact syncDepartment_doomed.orElse.withSession
  | orgCreate form =>
      obtain ⟨configured, resolved⟩ := not_not.mp careless
      exact (orgCreate_doomed configured resolved).withSession
  | planApprove approval =>
      cases approval with
      | approved runner => exact (planApprove_doomed (not_not.mp careless)).withSession
      | _ => exact absurd trivial careless
  | planApproveGroup found cards =>
      obtain ⟨owned, sends⟩ := not_not.mp careless
      exact (planApproveGroup_doomed owned sends).withSession
  | _ => exact absurd trivial careless

theorem disciplined_iff {work : Task} : ({} : Own).disciplined work.events = true ↔ work.Careful := by
  constructor
  · intro disciplined
    by_contra careless
    have broken : ({} : Own).disciplined work.events = false := disciplined_of_doomed (doomed careless)
    rw [broken] at disciplined
    cases disciplined
  · exact fun careful => (clean careful).disciplined

end Task

/-- A pipeline is triggered, and while its provider takes its time a new chat is opened. -/
def slowProvider : Nat → Task
  | 0 => .pipelinesTrigger ⟨true, true, .sent (some ())⟩
  | _ => .chatNew

end Dosm.Sessions
