import Dosm.Agent.PlanRuns
import Dosm.Agent.Registry
import Dosm.Audit.Log
import Dosm.Org.Routes

namespace Dosm.Audit

open Agent Auth Models Org Python

/-! The audit rows of the agent's operations and of department syncs.

Every handler and runner builds its rows by hand. Those of plan decisions and syncs name
the actor and no tenant; those of the runners name a tenant, or not even that, and no
actor.
-/

/-! Plan decisions: the rows are those of the plan-card requests. -/

def ofLog (row : AuditLog) : Entry where
  tenantId := row.tenantId
  actorId := some row.actorId
  action := row.action
  target := some row.target
  details := row.details

/-- The rows that one segment of a request adds. -/
def decisionEntries (before after : Plans.State) : List Entry := (after.audit.drop before.audit.length).map ofLog

/-! The runners. -/

/-- The row a runner's session has committed a change of. -/
structure Written where
  id : Int
  tenantId : Int
  deriving DecidableEq

/-- What a runner has done by the time it returns. -/
inductive Deed where
  | nothing
  /-- A command was handed to a host or to the shell. -/
  | ranCommand
  /-- A file of the docs tree was written or deleted. -/
  | changedDoc
  /-- A pipeline run was started and recorded. -/
  | startedRun
  | wrote (row : Written)

/-- A text argument of a runner that got as far as writing its row. -/
def argText (args : Args) (name : String) (default : String := "") : String :=
  (args.text name default).toOption.getD ""

/-- The row that a runner adds to its session after the change; the runners that are not
named here add none. -/
def runnerEntry (tool : String) (tid : Option Int) (args : Args) (row : Written) : Option Entry :=
  let target (kind : String) : Option String := some (kind ++ ":" ++ toString row.id)
  let named : Option String := some ("agent name=" ++ argText args "name")
  match tool with
  | "create_pipeline" => some {
      tenantId := tid, action := "pipeline.create", target := target "pipeline"
      details := some ("agent provider=" ++ argText args "provider") }
  | "update_pipeline" => some { action := "pipeline.update", target := target "pipeline", details := named }
  | "delete_pipeline" => some { action := "pipeline.delete", target := target "pipeline", details := named }
  | "create_host" => some {
      tenantId := tid, action := "host.create", target := target "host", details := named }
  | "update_host" => some {
      tenantId := some row.tenantId, action := "host.update", target := target "host", details := named }
  | "delete_host" => some {
      tenantId := some row.tenantId, action := "host.delete", target := target "host", details := some "agent" }
  | "create_credential" => some {
      tenantId := tid, action := "credential.create", target := target "credential"
      details := some ("agent kind=" ++ argText args "kind" "login") }
  | "update_credential" => some {
      tenantId := some row.tenantId, action := "credential.update", target := target "credential"
      details := some "agent" }
  | "delete_credential" => some {
      tenantId := some row.tenantId, action := "credential.delete", target := target "credential"
      details := some "agent" }
  | "create_monitoring_source" => some {
      tenantId := tid, action := "monitoring_source.create", target := target "source"
      details := some ("agent tool=" ++ argText args "tool") }
  | "update_monitoring_source" => some {
      tenantId := some row.tenantId, action := "monitoring_source.update", target := target "source"
      details := named }
  | "delete_monitoring_source" => some {
      tenantId := some row.tenantId, action := "monitoring_source.delete", target := target "source"
      details := named }
  | "enable_monitoring_source" => some {
      tenantId := some row.tenantId, action := "monitoring.source.enable", target := target "source"
      details := some "agent" }
  | "disable_monitoring_source" => some {
      tenantId := some row.tenantId, action := "monitoring.source.disable", target := target "source"
      details := some "agent" }
  | _ => none

def runnerEntries (tool : String) (tid : Option Int) (args : Args) : Deed → List Entry
  | .nothing | .ranCommand | .changedDoc | .startedRun => []
  | .wrote row => (runnerEntry tool tid args row).toList

/-! Department syncs. -/

/-- The rows of `sync_department`, by what came of it; `dumps` writes the summary. A sync
that an error of the database ends is rolled back with its rows. -/
def syncEntries (dumps : Summary → String) (dept : Department) (actorId : Option Int)
    (outcome : Except SyncFailure Summary) : List Entry :=
  let started : Entry := { actorId, action := "org.sync.start", target := some ("dept:" ++ dept.slug) }
  match outcome with
  | .error .integrity => []
  | .error (.directory (.base _)) => [started]
  | .error (.directory error) =>
      [started, { actorId, action := "org.sync.fail", target := some ("dept:" ++ dept.slug)
                  details := some (slice 0 500 error.text) }]
  | .ok summary =>
      [started, { actorId, action := "org.sync.complete", target := some ("dept:" ++ dept.slug)
                  details := some (dumps summary) }]

/-! All of them. -/

/-- An operation within a tenant, on behalf of a user. -/
inductive Operation where
  /-- One segment of a rejection, an approval or a group approval. -/
  | decision (tools : Plans.Tools) (before after : Plans.State) (label : Plans.Label)
      (stepped : Plans.step tools before label = some after)
  /-- A runner, called for a conversation of a tenant. -/
  | runner (tool : String) (tid : Option Int) (args : Args) (deed : Deed)
  /-- A sync from the department page, for the signed-in user, or from a runner, for nobody. -/
  | sync (dumps : Summary → String) (directory : Directory) (state : OrgState) (dept : Department)
      (actorId : Option Int)

def Operation.entries : Operation → List Entry
  | .decision _ before after _ _ => decisionEntries before after
  | .runner tool tid args deed => runnerEntries tool tid args deed
  | .sync dumps directory state dept actorId =>
      syncEntries dumps dept actorId (syncDepartment directory state dept).2

section Decisions

variable {tools : Plans.Tools} {state after : Plans.State}

def AddsUnscoped (before after : Plans.State) : Prop :=
  ∃ rows, after.audit = before.audit ++ rows ∧ ∀ row ∈ rows, row.tenantId = none

theorem addsUnscoped_refl (same : after.audit = state.audit) : AddsUnscoped state after :=
  ⟨[], by rw [same, List.append_nil], fun row member => absurd member List.not_mem_nil⟩

theorem addsUnscoped_row {userId cardId : Int} {action details : String}
    (same : after.audit = state.audit ++ [Plans.auditRow userId action cardId details]) :
    AddsUnscoped state after := by
  refine ⟨_, same, ?_⟩
  intro row member
  rw [List.mem_singleton.mp member]
  rfl

theorem resume_audit {index : Nat} {cid userId : Int} {group : Bool} {queue : List Plans.Approved} :
    (Plans.resume tools state index cid userId group queue).audit = state.audit := by
  unfold Plans.resume
  split <;> rfl

theorem planApprove_adds {cid cardId userId : Int} {form : Plans.Form} :
    AddsUnscoped state (Plans.planApprove tools state cid cardId userId form).1 := by
  unfold Plans.planApprove
  split
  · exact addsUnscoped_refl rfl
  · split
    · exact addsUnscoped_refl rfl
    · split
      · exact addsUnscoped_refl rfl
      · exact addsUnscoped_row rfl
      · exact addsUnscoped_refl rfl
      · exact addsUnscoped_row rfl

theorem planApproveGroup_adds {cid messageId userId : Int} :
    AddsUnscoped state (Plans.planApproveGroup tools state cid messageId userId).1 := by
  unfold Plans.planApproveGroup
  split
  · exact addsUnscoped_refl rfl
  · split
    · exact addsUnscoped_refl rfl
    · refine ⟨_, resume_audit, ?_⟩
      intro row member
      obtain ⟨approved, _, rfl⟩ := List.mem_map.mp member
      rfl

theorem finishRunner_adds {index : Nat} {result : ActionResult} {cid userId : Int} {group : Bool}
    {current : Plans.Approved} {waiting : List Plans.Approved} :
    AddsUnscoped state (Plans.finishRunner tools state index result cid userId group current waiting) :=
  addsUnscoped_row resume_audit

theorem step_adds {label : Plans.Label} (stepped : Plans.step tools state label = some after) :
    AddsUnscoped state after := by
  cases label with
  | approve cid cardId userId form =>
      cases stepped
      exact planApprove_adds
  | reject cid cardId userId =>
      cases stepped
      refine addsUnscoped_refl ?_
      unfold Plans.planReject
      split
      · rfl
      · split <;> rfl
  | approveGroup cid messageId userId =>
      cases stepped
      exact planApproveGroup_adds
  | commit index =>
      simp only [Plans.step] at stepped
      split at stepped
      · cases stepped
        exact addsUnscoped_row rfl
      · cases stepped
        exact addsUnscoped_refl rfl
      · cases stepped
  | finish index result =>
      simp only [Plans.step] at stepped
      split at stepped
      · cases stepped
        exact finishRunner_adds
      · cases stepped
  | drop index =>
      obtain ⟨_, same⟩ := Option.ite_none_right_eq_some.mp stepped
      cases same
      exact addsUnscoped_refl rfl

end Decisions

theorem runnerEntry_actor {tool : String} {tid : Option Int} {args : Args} {row : Written} {entry : Entry}
    (added : runnerEntry tool tid args row = some entry) : entry.actorId = none := by
  unfold runnerEntry at added
  dsimp only at added
  split at added
  all_goals cases added
  all_goals rfl

theorem syncEntries_tenant {dumps : Summary → String} {dept : Department} {actorId : Option Int}
    {outcome : Except SyncFailure Summary} {entry : Entry} (added : entry ∈ syncEntries dumps dept actorId outcome) :
    entry.tenantId = none := by
  unfold syncEntries at added
  dsimp only at added
  split at added
  · cases added
  · rw [List.mem_singleton.mp added]
  · simp only [List.mem_cons, List.not_mem_nil, or_false] at added
    rcases added with rfl | rfl <;> rfl
  · simp only [List.mem_cons, List.not_mem_nil, or_false] at added
    rcases added with rfl | rfl <;> rfl

theorem entries_incomplete {operation : Operation} {entry : Entry} (added : entry ∈ operation.entries) :
    entry.tenantId = none ∨ entry.actorId = none := by
  cases operation with
  | decision tools before after label stepped =>
      obtain ⟨rows, same, unscoped⟩ := step_adds stepped
      left
      simp only [Operation.entries, decisionEntries, same, List.drop_left] at added
      obtain ⟨row, member, rfl⟩ := List.mem_map.mp added
      exact unscoped row member
  | runner tool tid args deed =>
      right
      cases deed with
      | nothing | ranCommand | changedDoc | startedRun => cases added
      | wrote row => exact runnerEntry_actor (Option.mem_toList.mp added)
  | sync dumps directory state dept actorId => exact .inl (syncEntries_tenant added)

/-- No operation leaves a row with its tenant and its user; and whatever an admin who is
confined to a tenant asks the audit page for, no row of the operation that it lists names
a user. -/
theorem operations_unattributed (operation : Operation) :
    (∀ tenant user : Int, ¬ ∃ entry ∈ operation.entries,
      entry.tenantId = some tenant ∧ entry.actorId = some user) ∧
    (∀ (admin : User) (query : AuditQuery) (shows : AuditRow → Bool), admin.role ≠ .platformAdmin →
      resolveAuditRequest admin query = .ok shows → ∀ entry ∈ operation.entries, ∀ id ts,
        shows { entry with id, ts } = true → entry.actorId = none) := by
  constructor
  · rintro tenant user ⟨entry, added, sameTenant, sameActor⟩
    rcases entries_incomplete added with unscoped | nobody
    · cases unscoped.symm.trans sameTenant
    · cases nobody.symm.trans sameActor
  · intro admin query shows confined resolved entry added id ts shown
    rcases entries_incomplete added with unscoped | nobody
    · have ofTenant : entry.tenantId.isSome = true := shown_tenant confined resolved shown
      rw [unscoped] at ofTenant
      cases ofTenant
    · exact nobody

/-- User 7 approves a card of a conversation of tenant 1, and it runs. -/
theorem approval_without_tenant :
    (Plans.twoCards.conversations.get 1).map (fun conv => (conv.tenantId, conv.userId)) = some (some 1, 7) ∧
    (Plans.planApprove Plans.registry Plans.twoCards 1 1 7 []).1.audit.map ofLog =
      [{ tenantId := none, actorId := some 7, action := "agent.plan.approve", target := some "plan_card:1"
         details := some "tool=run_pipeline tier=safe" }] := by
  decide

end Dosm.Audit
