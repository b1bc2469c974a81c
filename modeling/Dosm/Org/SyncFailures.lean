import Dosm.Audit.Trail
import Dosm.Org.Jumpbox

namespace Dosm.Org

open Python

/-! What a failed sync leaves behind.

A sync can fail before it asks the directory, while it asks, or while it decodes the
answer. One call is guarded, for three of the four classes of directory errors; the
errors of that kind are recorded on the department and in the audit log.
-/

/-! The sources of the directory. -/

/-- A credential profile; a missing secret is one that the backend does not have. -/
structure JumpCredential where
  name : String
  username : Option String
  secret : Option String

structure JumpHost where
  name : String
  credential : Option JumpCredential

structure DirectoryConfig where
  adapter : String := "winrm_jumpbox"
  adJumpboxHostId : Option Int := none

inductive DirectorySource where
  | mock
  | jumpbox (hostLabel : String)
  deriving DecidableEq

def jumpboxFromConfig (hosts : Int → Option JumpHost) (config : DirectoryConfig) :
    Except DirectoryError DirectorySource :=
  match config.adJumpboxHostId.filter fun id => id ≠ 0 with
  | none => .error (.base "AD jumpbox is not configured. Set one at /org/configure.")
  | some id =>
      match hosts id with
      | none => .error (.base ("AD jumpbox host id " ++ toString id ++ " no longer exists"))
      | some host =>
          match host.credential with
          | none =>
              .error (.base
                ("host " ++ Python.repr host.name ++ " has no credential profile; attach one before syncing"))
          | some credential =>
              if credential.secret = none then
                .error (.base ("credential " ++ Python.repr credential.name ++ " secret missing in backend"))
              else if truthy credential.username = none then
                .error (.base ("credential " ++ Python.repr credential.name ++ " has no username; WinRM needs one"))
              else .ok (.jumpbox host.name)

def getDirectorySource (hosts : Int → Option JumpHost) (config : DirectoryConfig) :
    Except DirectoryError DirectorySource :=
  if config.adapter = "mock" then .ok .mock
  else if config.adapter = "winrm_jumpbox" then jumpboxFromConfig hosts config
  else .error (.base ("unknown directory adapter: " ++ Python.repr config.adapter))

/-! The sync. -/

inductive SyncStop where
  | source (failure : SourceFailure)
  | integrity
  deriving DecidableEq

/-- The tables after a sync, the audit rows that its request commits, and its result. -/
structure SyncRun where
  state : OrgState
  entries : List Audit.Entry
  result : Except SyncStop Summary

def auditEntry (dept : Department) (actorId : Option Int) (action : String) (details : Option String) : Audit.Entry :=
  { actorId, action, target := some ("dept:" ++ dept.slug), details }

/-- The classes of errors that the guard of the call names. -/
def DirectoryError.Guarded : DirectoryError → Prop
  | .base _ => False
  | .unreachable _ | .groupNotFound _ | .userNotFound _ => True

instance {error : DirectoryError} : Decidable error.Guarded := by
  cases error <;> simp only [DirectoryError.Guarded] <;> infer_instance

section Sync

-- A source that may be built, and what it answers.
variable {Source : Type} (dumps : Summary → String) (built : Except DirectoryError Source)
  (syncGroup : Source → String → String → Except SourceFailure GroupSyncResult)

/-- `sync_department` from the choice of the source on. A request that an unexpected
exception ends is rolled back; the handlers expect the errors of the directory. -/
def runSync (state : OrgState) (dept : Department) (actorId : Option Int) : SyncRun :=
  let started := auditEntry dept actorId "org.sync.start" none
  match truthy dept.adGroupDn, truthy dept.managerDn with
  | some groupDn, some managerDn =>
      match built with
      | .error error => ⟨state, [started], .error (.source (.directory error))⟩
      | .ok source =>
          match syncGroup source groupDn managerDn with
          | .error (.other exn) => ⟨state, [], .error (.source (.other exn))⟩
          | .error (.directory error) =>
              if error.Guarded then
                ⟨{ state with departments := state.departments.modify dept.id (failedDept error) (failedDept_id error) },
                  [started, auditEntry dept actorId "org.sync.fail" (some (slice 0 500 error.text))],
                  .error (.source (.directory error))⟩
              else ⟨state, [started], .error (.source (.directory error))⟩
          | .ok answer =>
              match applySync state dept answer with
              | (after, .ok summary) =>
                  ⟨after, [started, auditEntry dept actorId "org.sync.complete" (some (dumps summary))], .ok summary⟩
              | (after, .error _) => ⟨after, [], .error .integrity⟩
  | _, _ =>
      ⟨state, [started], .error (.source (.directory (.base
        ("department " ++ Python.repr dept.slug ++ " is missing ad_group_dn or manager_dn"))))⟩

/-- The DNs are missing, no source is built, or it fails to answer. -/
def SyncFails (dept : Department) : Prop :=
  ∀ groupDn managerDn source answer, truthy dept.adGroupDn = some groupDn → truthy dept.managerDn = some managerDn →
    built = .ok source → syncGroup source groupDn managerDn ≠ .ok answer

/-- The failure is on the department and in the audit log, nothing else of the department
changes, and the caller gets an error of the directory. -/
structure FailureRecorded (before : OrgState) (dept : Department) (run : SyncRun) : Prop where
  department : ∃ text, text ≠ "" ∧ run.state.departments.get dept.id =
    some { dept with lastSyncError := some text, syncStatus := .error }
  others : ∀ id, id ≠ dept.id → run.state.departments.get id = before.departments.get id
  members : run.state.members = before.members
  audited : ∃ entry, run.entries.filter (fun entry => entry.action = "org.sync.fail") = [entry] ∧
    entry.target = some ("dept:" ++ dept.slug)
  raised : ∃ error, run.result = .error (.source (.directory error))

/-- The guarded call was made and raised one of the classes it is guarded for, with a text. -/
def GuardedFailure (dept : Department) : Prop :=
  ∃ groupDn managerDn source error, truthy dept.adGroupDn = some groupDn ∧ truthy dept.managerDn = some managerDn ∧
    built = .ok source ∧ syncGroup source groupDn managerDn = .error (.directory error) ∧ error.Guarded ∧
      error.text ≠ ""

end Sync

section Failures

variable {Source : Type} {dumps : Summary → String} {built : Except DirectoryError Source}
  {syncGroup : Source → String → String → Except SourceFailure GroupSyncResult}
  {state : OrgState} {dept : Department} {actorId : Option Int}

theorem guardedFailure_iff {groupDn managerDn : String} {source : Source} (group : truthy dept.adGroupDn = some groupDn)
    (manager : truthy dept.managerDn = some managerDn) (ready : built = .ok source) :
    GuardedFailure built syncGroup dept ↔
      ∃ error, syncGroup source groupDn managerDn = .error (.directory error) ∧ error.Guarded ∧ error.text ≠ "" := by
  constructor
  · rintro ⟨_, _, _, error, sameGroup, sameManager, sameSource, rest⟩
    cases group.symm.trans sameGroup
    cases manager.symm.trans sameManager
    cases ready.symm.trans sameSource
    exact ⟨error, rest⟩
  · rintro ⟨error, rest⟩
    exact ⟨groupDn, managerDn, source, error, group, manager, ready, rest⟩

/-- What a failed sync leaves: the guarded errors are recorded, the others add no such row. -/
theorem runSync_failed (failed : SyncFails built syncGroup dept) :
    (∃ groupDn managerDn source error, truthy dept.adGroupDn = some groupDn ∧
        truthy dept.managerDn = some managerDn ∧ built = .ok source ∧
        syncGroup source groupDn managerDn = .error (.directory error) ∧ error.Guarded ∧
        runSync dumps built syncGroup state dept actorId =
          ⟨{ state with departments := state.departments.modify dept.id (failedDept error) },
            [auditEntry dept actorId "org.sync.start" none,
              auditEntry dept actorId "org.sync.fail" (some (slice 0 500 error.text))],
            .error (.source (.directory error))⟩) ∨
      ¬ GuardedFailure built syncGroup dept ∧
        ∀ entry ∈ (runSync dumps built syncGroup state dept actorId).entries, entry.action ≠ "org.sync.fail" := by
  have started : ∀ entry ∈ [auditEntry dept actorId "org.sync.start" none], entry.action ≠ "org.sync.fail" := by
    intro entry member
    rw [List.mem_singleton.mp member, auditEntry]
    simp
  cases group : truthy dept.adGroupDn with
  | none =>
      right
      refine ⟨?_, by simpa only [runSync, group] using started⟩
      rintro ⟨groupDn, managerDn, source, error, present, _⟩
      rw [group] at present
      cases present
  | some groupDn =>
      cases manager : truthy dept.managerDn with
      | none =>
          right
          refine ⟨?_, by simpa only [runSync, group, manager] using started⟩
          rintro ⟨_, managerDn, source, error, _, present, _⟩
          rw [manager] at present
          cases present
      | some managerDn =>
          cases ready : built with
          | error error =>
              right
              refine ⟨?_, by simpa only [runSync, group, manager] using started⟩
              rintro ⟨_, _, _, _, _, _, available, _⟩
              cases available
          | ok source =>
              cases answer : syncGroup source groupDn managerDn with
              | ok result => exact absurd answer (failed groupDn managerDn source result group manager ready)
              | error failure =>
                  cases failure with
                  | other exn =>
                      right
                      rw [guardedFailure_iff group manager rfl]
                      constructor
                      · rintro ⟨error, raised, _⟩
                        rw [answer] at raised
                        cases raised
                      · simp only [runSync, group, manager, answer, List.not_mem_nil, false_imp_iff, implies_true]
                  | directory error =>
                      by_cases guarded : error.Guarded
                      · left
                        refine ⟨groupDn, managerDn, source, error, rfl, rfl, rfl, answer, guarded, ?_⟩
                        simp only [runSync, group, manager, answer, if_pos guarded]
                      · right
                        rw [guardedFailure_iff group manager rfl]
                        constructor
                        · rintro ⟨other, raised, named, _⟩
                          rw [answer] at raised
                          cases raised
                          exact guarded named
                        · simpa only [runSync, group, manager, answer, if_neg guarded] using started

theorem recorded_of_guarded {error : DirectoryError} (stored : state.departments.get dept.id = some dept)
    (told : error.text ≠ "") {entries : List Audit.Entry}
    (written : entries = [auditEntry dept actorId "org.sync.start" none,
      auditEntry dept actorId "org.sync.fail" (some (slice 0 500 error.text))]) :
    FailureRecorded state dept
      ⟨{ state with departments := state.departments.modify dept.id (failedDept error) }, entries,
        .error (.source (.directory error))⟩ where
  department := by
    have after := @Table.get_modify_of_eq _ _ state.departments dept dept.id dept.id (failedDept error) (fun _ => rfl)
      rfl stored
    exact ⟨error.text, told, after⟩
  others := by
    intro id other
    exact @Table.get_modify_other _ _ state.departments dept.id id (failedDept error) (fun _ => rfl) other
  members := rfl
  audited := by
    rw [written]
    exact ⟨_, rfl, rfl⟩
  raised := ⟨error, rfl⟩

/-- A failed sync is recorded exactly when the guarded call raised a class that the guard
names, with a text. -/
theorem failure_recorded_iff (stored : state.departments.get dept.id = some dept)
    (failed : SyncFails built syncGroup dept) :
    FailureRecorded state dept (runSync dumps built syncGroup state dept actorId) ↔
      GuardedFailure built syncGroup dept := by
  rcases @runSync_failed _ dumps built syncGroup state dept actorId failed with
    ⟨groupDn, managerDn, source, error, group, manager, ready, raised, guarded, ran⟩ | ⟨unguarded, unwritten⟩
  · rw [ran]
    constructor
    · intro recorded
      obtain ⟨text, told, row⟩ := recorded.department
      have after := @Table.get_modify_of_eq _ _ state.departments dept dept.id dept.id (failedDept error)
        (fun _ => rfl) rfl stored
      rw [after] at row
      have same : error.text = text := Option.some.inj (congrArg Department.lastSyncError (Option.some.inj row))
      exact ⟨groupDn, managerDn, source, error, group, manager, ready, raised, guarded, by rwa [same]⟩
    · rw [guardedFailure_iff group manager ready]
      rintro ⟨other, sameError, _, told⟩
      rw [raised] at sameError
      cases sameError
      exact recorded_of_guarded stored told rfl
  · constructor
    · intro recorded
      obtain ⟨entry, only, _⟩ := recorded.audited
      have member : entry ∈ [entry] := List.mem_singleton.mpr rfl
      rw [← only] at member
      obtain ⟨written, action⟩ := List.mem_filter.mp member
      exact absurd (of_decide_eq_true action) (unwritten entry written)
    · intro guarded
      exact absurd guarded unguarded

theorem applySync_error {answer : GroupSyncResult} {stop : SyncFailure}
    (stopped : (applySync state dept answer).2 = .error stop) : stop = .integrity := by
  simp only [applySync] at stopped
  split at stopped
  · exact (Except.error.inj stopped).symm
  · cases stopped

/-- With a source at hand, this is the sync of the other modules. -/
theorem runSync_refines {directory : Directory} :
    let run := runSync dumps (.ok ()) (fun _ groupDn managerDn => (directory.syncGroup groupDn managerDn).mapError .directory)
      state dept actorId
    run.state = (syncDepartment directory state dept).1 ∧
      run.entries = Audit.syncEntries dumps dept actorId (syncDepartment directory state dept).2 := by
  simp only [runSync, syncDepartment]
  cases group : truthy dept.adGroupDn with
  | none => exact ⟨rfl, rfl⟩
  | some groupDn =>
      cases manager : truthy dept.managerDn with
      | none => exact ⟨rfl, rfl⟩
      | some managerDn =>
          cases answer : directory.syncGroup groupDn managerDn with
          | error error =>
              cases error with
              | base text => simp [answer, Except.mapError, DirectoryError.Guarded, Audit.syncEntries, auditEntry]
              | unreachable text => simp [answer, Except.mapError, DirectoryError.Guarded, Audit.syncEntries, auditEntry]
              | groupNotFound text => simp [answer, Except.mapError, DirectoryError.Guarded, Audit.syncEntries, auditEntry]
              | userNotFound text => simp [answer, Except.mapError, DirectoryError.Guarded, Audit.syncEntries, auditEntry]
          | ok result =>
              cases applied : applySync state dept result with
              | mk after outcome =>
                  cases outcome with
                  | ok summary => simp [answer, applied, Except.mapError, Audit.syncEntries, auditEntry]
                  | error stop =>
                      cases applySync_error (congrArg Prod.snd applied)
                      simp [answer, applied, Except.mapError, Audit.syncEntries]

end Failures

def onlyDept : Department where
  id := 1
  tenantId := 1
  name := "Operations"
  slug := "operations"
  description := none
  adGroupName := "Ops"
  adGroupDn := some "CN=Ops"
  managerInput := "mia"
  managerDn := some "CN=Mia"
  managerName := some "Mia"
  managerEmail := none
  managerTitle := none
  parentId := none
  lastSyncError := none
  syncStatus := .ok

def onlyState : OrgState where
  departments := ⟨[onlyDept], by decide⟩

theorem unreachable_recorded :
    FailureRecorded onlyState onlyDept
      (runSync (fun _ => "") (.ok DirectorySource.mock)
        (fun _ _ _ => .error (.directory (.unreachable "jump01: WinRM call failed: timed out")))
        onlyState onlyDept none) := by
  have failed : SyncFails (Except.ok DirectorySource.mock)
      (fun _ _ _ => .error (.directory (.unreachable "jump01: WinRM call failed: timed out"))) onlyDept := by
    intro groupDn managerDn source answer _ _ _ same
    cases same
  apply (failure_recorded_iff rfl failed).mpr
  exact ⟨"CN=Ops", "CN=Mia", .mock, .unreachable "jump01: WinRM call failed: timed out", rfl, rfl, rfl, rfl, trivial,
    by decide⟩

/-- The host of the jumpbox was deleted: the department does not tell. -/
theorem deleted_jumpbox_unrecorded :
    ¬ FailureRecorded onlyState onlyDept
      (runSync (fun _ => "") (getDirectorySource (fun _ => none) { adJumpboxHostId := some 7 })
        (fun _ _ _ => .error (.other ⟨"KeyError", "'group'"⟩)) onlyState onlyDept none) := by
  intro recorded
  obtain ⟨text, told, row⟩ := recorded.department
  have unchanged : onlyState.departments.get 1 = some onlyDept := rfl
  cases unchanged.symm.trans row

end Dosm.Org
