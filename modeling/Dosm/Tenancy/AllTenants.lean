import Dosm.Tenancy.Workspace

namespace Dosm.Tenancy

open Models Python Web

/-! What requests do while no tenant is selected.

The overview of all tenants drops the tenant filters. It is read-only through the
routes that ask for an active tenant; the others change the rows they find.
-/

/-- A platform admin who has selected no tenant. -/
def allTenants (userId : Nat) : Caller where
  tid := none
  userId
  role := .platformAdmin

/-- The rows of the tenants and the files of the docs. Neither a secret of the
backend nor the port library, which all tenants share, is among them. -/
structure SameData (before after : Workspace) : Prop where
  db : after.world.db = before.world.db
  runs : after.runs = before.runs
  payloads : after.payloads = before.payloads
  org : after.org = before.org
  scans : after.scans = before.scans
  store : after.store = before.store
  index : after.index = before.index
  sources : after.sources = before.sources
  certSources : after.certSources = before.certSources

theorem SameData.refl (space : Workspace) : SameData space space :=
  ⟨rfl, rfl, rfl, rfl, rfl, rfl, rfl, rfl, rfl⟩

/-- The routes that depend on `require_active_tenant`, or make its check themselves. -/
def Route.requiresActiveTenant (route : Route) : Prop :=
  route ∈ [.hostsCreate, .credentialsCreate, .myCredentialsNew, .pipelinesCreate, .orgCreate, .mapCreate, .docsSave,
    .foldersCreate, .createSource, .certSourceCreate]

/-- The routes that write no row and no file, whoever asks. -/
def Route.answersOnly (route : Route) : Prop :=
  route ∈ [.hostsPing, .myCredentialsSet, .myCredentialsClear, .orgConfigureSave, .orgConfigureTest, .portCheckerRun,
    .docsConvert, .docsPreview, .docsImport, .certsRefresh, .certSourceTest]

instance : DecidablePred Route.requiresActiveTenant := fun route => inferInstanceAs (Decidable (route ∈ _))

instance : DecidablePred Route.answersOnly := fun route => inferInstanceAs (Decidable (route ∈ _))

def oneDept (space : Workspace) (slug : String) : Bool :=
  (space.org.departments.rows.filter fun dept => dept.slug = slug).length = 1

def onePayload (space : Workspace) (pid payloadId : Int) : Bool :=
  (space.world.db.pipelines.get pid).isSome &&
    (space.payloads.get payloadId).any fun payload => payload.pipelineId = pid

/-- The file that a spelling of its path leads to. -/
def oneFile (store : Docs.Store.DocsStore) (path : String) : Bool :=
  match store.safeRel path with
  | .error _ => false
  | .ok norm => store.isFile norm = .ok true

/-- Whether there is what the request names, in whichever tenant. -/
def Request.finds (space : Workspace) : Request → Bool
  | .hostsUpdate id _ | .hostsDelete id | .hostsAssignOrg id _ => (space.world.db.hosts.get id).isSome
  | .credentialsAssignOrg id _ | .credentialsRename id _ | .credentialsUpdate id _ _ | .credentialsDelete id =>
      (space.world.db.credentials.get id).isSome
  | .pipelinesAssignOrg id _ | .pipelinesUpdate id _ | .pipelinesDelete id | .pipelinesTrigger id _ _ _ _
  | .payloadCreate id _ => (space.world.db.pipelines.get id).isSome
  | .pipelinesRunRefresh id _ _ =>
      (space.runs.get id).any fun run => (space.world.db.pipelines.get run.pipelineId).isSome
  | .payloadUpdate pid payloadId _ | .payloadRename pid payloadId _ | .payloadCopy pid payloadId
  | .payloadDelete pid payloadId => onePayload space pid payloadId
  | .orgSync slug _ _ | .orgUpdate slug _ _ | .orgDelete slug => oneDept space slug
  | .mapRerun sid | .mapRename sid _ | .mapDelete sid => (space.scans.scans.get sid).isSome
  | .docsDelete path => oneFile space.store path
  | .folderDelete slug => space.index.folders.rows.any fun folder => folder.slug = slug
  | .updateSource id _ | .deleteSource id => (space.sources.get id).isSome
  | .certSourceToggle id | .certSourceDelete id => (space.certSources.get id).isSome
  | _ => true

@[simp] theorem requireRole_allTenants {userId : Nat} {minimum : Role} :
    requireRole (allTenants userId) minimum = .ok () := by
  cases minimum <;> rfl

@[simp] theorem requireActiveTenant_allTenants {userId : Nat} :
    requireActiveTenant (allTenants userId) =
      .error (.error 403 "select an active tenant before making changes") := rfl

@[simp] theorem getScoped_allTenants {Row : Type} [Owned Row] {table : Table Row} {id : Int} {userId : Nat} :
    getScoped table id (allTenants userId).tid = table.get id := rfl

section Lookups

variable {space : Workspace} {userId : Nat} {id : Int}

theorem hostOr404_missing (missing : space.world.db.hosts.get id = none) :
    Hosts.hostOr404 space.world.db (allTenants userId) id = .error notFound := by
  simp [Hosts.hostOr404, missing, bind, Except.bind, throw, throwThe, MonadExceptOf.throw]

theorem visibleCredential_missing (missing : space.world.db.credentials.get id = none) :
    Credentials.visibleCredential space.world.db (allTenants userId) id = .error notFound := by
  simp [Credentials.visibleCredential, missing]

theorem pipelineOr404_missing (missing : space.world.db.pipelines.get id = none) :
    Pipelines.pipelineOr404 space.world.db (allTenants userId) id = .error notFound := by
  simp [Pipelines.pipelineOr404, missing, bind, Except.bind, throw, throwThe, MonadExceptOf.throw]

theorem scanOr404_missing (missing : space.scans.scans.get id = none) :
    Network.scanOr404 space.scans (allTenants userId) id = .error notFound := by
  simp [Network.scanOr404, missing, bind, Except.bind, throw, throwThe, MonadExceptOf.throw]

theorem sourceOr404_missing (missing : space.sources.get id = none) :
    Monitoring.sourceOr404 space.monitoring (allTenants userId) id = .error notFound := by
  simp [Monitoring.sourceOr404, Workspace.monitoring, missing, bind, Except.bind, throw, throwThe,
    MonadExceptOf.throw]

theorem certSourceOr404_missing (missing : space.certSources.get id = none) :
    Certs.certSourceOr404 space.certSources (allTenants userId) id = .error notFound := by
  simp [Certs.certSourceOr404, missing, bind, Except.bind, throw, throwThe, MonadExceptOf.throw]

theorem payloadOr404_missing {pid : Int} (missing : onePayload space pid id = false) :
    ∃ reply, Pipelines.payloadOr404 space.world.db space.payloads (allTenants userId) pid id = .error reply := by
  simp only [onePayload, Bool.and_eq_false_iff, Option.isSome_eq_false_iff, Option.isNone_iff_eq_none] at missing
  simp only [Pipelines.payloadOr404]
  rcases missing with missing | missing
  · exact ⟨notFound, by rw [pipelineOr404_missing missing]; rfl⟩
  · cases Pipelines.pipelineOr404 space.world.db (allTenants userId) pid with
    | error reply => exact ⟨reply, rfl⟩
    | ok pipeline =>
        cases found : space.payloads.get id with
        | none => exact ⟨notFound, rfl⟩
        | some payload =>
            have elsewhere : payload.pipelineId ≠ pid := by simpa [found] using missing
            exact ⟨notFound, by simp [bind, Except.bind, elsewhere, throw, throwThe, MonadExceptOf.throw]⟩

theorem getDept_missing {slug : String} (missing : oneDept space slug = false) :
    ∀ dept, Org.getDept space.org.departments slug (allTenants userId).tid ≠ .ok (some dept) := by
  intro dept found
  simp only [oneDept, decide_eq_false_iff_not] at missing
  simp only [Org.getDept, allTenants, Org.inTenant, Bool.and_true] at found
  split at found
  · cases found
  · next one => exact missing (by rw [one]; rfl)
  · cases found

theorem getFolderBySlug_missing {slug : String}
    (missing : (space.index.folders.rows.any fun folder => folder.slug = slug) = false) :
    Docs.Folders.getFolderBySlug space.index slug (allTenants userId).tid = none := by
  simpa [Docs.Folders.getFolderBySlug, allTenants] using missing

theorem delete_missing {store : Docs.Store.DocsStore} {norm : String} (missing : store.isFile norm ≠ .ok true)
    (after : Docs.Store.DocsStore) : store.delete norm ≠ .ok after := by
  intro deleted
  obtain ⟨_, connected, deleted⟩ := Checks.bind_ok deleted
  simp only [Docs.Store.DocsStore.isFile, connected, bind, Except.bind] at missing
  split at deleted
  · cases deleted
  · next place =>
      split at deleted
      · cases deleted
      · cases deleted
      · next entry => exact missing (by simp [place, entry, Docs.Store.Node.isFile, pure, Except.pure])

theorem deleteDoc_missing {store : Docs.Store.DocsStore} {path : String} (missing : oneFile store path = false)
    (after : Docs.Store.DocsStore) : Docs.Vault.deleteDoc store path ≠ .ok after := by
  simp only [oneFile] at missing
  simp only [Docs.Vault.deleteDoc]
  cases place : store.safeRel path with
  | error error => simp
  | ok norm =>
      simp only [place, decide_eq_false_iff_not] at missing
      exact delete_missing missing after

theorem docsDelete_missing {env : Environment} {path : String} (missing : oneFile space.store path = false) :
    space.docsRequest env (allTenants userId) path .delete = space := by
  have refused : ∀ after, Docs.Vault.deleteDoc space.docsSite.store path ≠ .ok after := deleteDoc_missing missing
  simp only [Workspace.docsRequest, Docs.Routes.handle, Docs.Routes.docsDelete, Docs.Routes.requireDocAccess]
  cases answer : Docs.Vault.deleteDoc space.docsSite.store path with
  | ok after => exact absurd answer (refused after)
  | error error => cases error <;> rfl

end Lookups

section Requests

variable {env : Environment} {space : Workspace} {userId : Nat} {request : Request}

theorem guarded_unchanged (guarded : request.route.requiresActiveTenant) :
    space.handle env (allTenants userId) request = space := by
  cases request <;> first | rfl | simp [Route.requiresActiveTenant, Request.route] at guarded

theorem missing_unchanged (missing : request.finds space = false) :
    space.handle env (allTenants userId) request = space := by
  cases request with
  | hostsUpdate id | hostsDelete id | hostsAssignOrg id =>
      have absent : space.world.db.hosts.get id = none := by simpa [Request.finds] using missing
      simp [Workspace.handle, Workspace.withWorld, Workspace.hostsDelete, Hosts.hostsUpdate, Hosts.hostsDelete,
        Hosts.hostsAssignOrg, hostOr404_missing absent]
  | credentialsAssignOrg id | credentialsRename id | credentialsUpdate id =>
      have absent : space.world.db.credentials.get id = none := by simpa [Request.finds] using missing
      simp [Workspace.handle, Workspace.withWorld, Credentials.credentialsAssignOrg, Credentials.credentialsRename,
        Credentials.credentialsUpdate, visibleCredential_missing absent, bind, Except.bind]
  | credentialsDelete id =>
      have absent : space.world.db.credentials.get id = none := by simpa [Request.finds] using missing
      have kept : space.certSources.map (Workspace.loseCredential false id) = space.certSources :=
        Table.map_same (Workspace.loseCredential false id) (fun _ => rfl) fun source _ => by
          have whole : source.credentialId.filter (fun _ => true) = source.credentialId := by
            cases source.credentialId <;> rfl
          simp [Workspace.loseCredential, whole]
      simp [Workspace.handle, Workspace.withWorld, Workspace.credentialsDelete, Credentials.credentialsDelete,
        visibleCredential_missing absent, absent, bind, Except.bind, kept]
  | pipelinesAssignOrg id | pipelinesUpdate id | pipelinesDelete id | pipelinesTrigger id | payloadCreate id =>
      have absent : space.world.db.pipelines.get id = none := by simpa [Request.finds] using missing
      simp [Workspace.handle, Workspace.withWorld, Workspace.withRuns, Workspace.withPayloads,
        Workspace.pipelinesDelete, Pipelines.pipelinesAssignOrg, Pipelines.pipelinesUpdate,
        Pipelines.pipelinesDelete, Pipelines.pipelinesTrigger, Pipelines.payloadCreate,
        pipelineOr404_missing absent, bind, Except.bind, Except.toOption]
  | pipelinesRunRefresh id now answer =>
      simp only [Workspace.handle, Workspace.withRuns, Pipelines.pipelinesRunRefresh]
      cases found : space.runs.get id with
      | none => rfl
      | some run =>
          have absent : space.world.db.pipelines.get run.pipelineId = none := by
            simpa [Request.finds, found] using missing
          simp [Pipelines.refreshablePipeline, absent, Except.toOption]
  | payloadUpdate pid payloadId | payloadRename pid payloadId | payloadCopy pid payloadId
  | payloadDelete pid payloadId =>
      have gone : ∃ reply, Pipelines.payloadOr404 space.world.db space.payloads (allTenants userId) pid payloadId =
          .error reply := payloadOr404_missing missing
      obtain ⟨reply, refused⟩ := gone
      simp [Workspace.handle, Workspace.withPayloads, Pipelines.payloadUpdate, Pipelines.payloadRename,
        Pipelines.payloadCopy, Pipelines.payloadDelete, refused, bind, Except.bind, Except.toOption]
  | orgSync slug | orgUpdate slug | orgDelete slug =>
      have absent := @getDept_missing space userId slug missing
      simp only [Workspace.handle, Workspace.withOrg, Org.orgSync, Org.orgUpdate, Org.orgDelete]
      split
      · rfl
      · rfl
      · next dept found => exact absurd found (absent dept)
  | mapRerun sid | mapDelete sid =>
      have absent : space.scans.scans.get sid = none := by simpa [Request.finds] using missing
      simp [Workspace.handle, Workspace.withScans, Network.mapRerun, Network.mapDelete, scanOr404_missing absent,
        bind, Except.bind, Except.toOption]
  | mapRename sid title =>
      have absent : space.scans.scans.get sid = none := by simpa [Request.finds] using missing
      simp only [Workspace.handle, Workspace.withScans, Network.mapRename, requireRole_allTenants,
        scanOr404_missing absent, bind, Except.bind]
      split <;> rfl
  | docsDelete path => exact docsDelete_missing missing
  | folderDelete slug =>
      simp [Workspace.handle, Workspace.withIndex, Docs.Folders.folderDelete, getFolderBySlug_missing missing,
        bind, Except.bind, throw, throwThe, MonadExceptOf.throw, Except.toOption]
  | updateSource id | deleteSource id =>
      have absent : space.sources.get id = none := by simpa [Request.finds] using missing
      simp [Workspace.handle, Workspace.withSources, Monitoring.updateSource, Monitoring.deleteSource,
        sourceOr404_missing absent, bind, Except.bind]
  | certSourceToggle id | certSourceDelete id =>
      have absent : space.certSources.get id = none := by simpa [Request.finds] using missing
      simp [Workspace.handle, Workspace.withCertSources, Certs.certSourceToggle, Certs.certSourceDelete,
        certSourceOr404_missing absent, bind, Except.bind, Except.toOption]
  | _ => cases missing

theorem answersOnly_sameData (answers : request.route.answersOnly) :
    SameData space (space.handle env (allTenants userId) request) := by
  cases request with
  | probe asked => exact .refl space
  | myCredentialsSet id material =>
      simp only [Workspace.handle, Workspace.withWorld, Credentials.myCredentialsSet]
      split
      · exact .refl space
      · exact ⟨rfl, rfl, rfl, rfl, rfl, rfl, rfl, rfl, rfl⟩
  | myCredentialsClear id =>
      simp only [Workspace.handle, Workspace.withWorld, Credentials.myCredentialsClear]
      split
      · exact .refl space
      · exact ⟨rfl, rfl, rfl, rfl, rfl, rfl, rfl, rfl, rfl⟩
  | _ => simp [Route.answersOnly, Request.route] at answers

end Requests

/-! One tenant with a row of each kind, and for each route a request about its rows. -/

def only {Row : Type} [Keyed Row] (row : Row) : Table Row := ⟨[row], Table.nodup_one row⟩

def acmeHost : Host where
  id := 1
  tenantId := 1
  name := "web"
  hostname := "web.example"
  port := 22
  protocol := .ssh
  description := none
  credentialId := none
  jumpHostId := none
  isJumpbox := false
  ftMethod := none
  ftPort := none
  ftCredentialId := none
  orgUnitId := some 1

def acmeCredential : Credential where
  id := 1
  tenantId := 1
  name := "deploy"
  kind := .login
  username := some "deploy"
  domain := none
  secretRef := "acme/deploy"
  ownerId := none
  visibility := .shared
  orgUnitId := some 1

def acmePipeline : Pipeline where
  id := 1
  tenantId := 1
  name := "release"
  provider := "github_actions"
  description := none
  config := ""
  inputsSchema := none
  credentialId := none
  ownerId := none
  visibility := .shared
  orgUnitId := some 1

def acmeRun : PipelineRun where
  id := 1
  pipelineId := 1
  externalId := none
  status := .queued
  inputs := none
  htmlUrl := none
  triggeredByUserId := none
  triggeredAt := 0
  startedAt := none
  completedAt := none
  lastPolledAt := none
  error := none

def acmeDepartment : Org.Department where
  id := 1
  tenantId := 1
  name := "Ops"
  slug := "ops"
  description := none
  adGroupName := "ops"
  adGroupDn := some "CN=ops"
  managerInput := "ada"
  managerDn := some "CN=ada"
  managerName := none
  managerEmail := none
  managerTitle := none
  parentId := none
  lastSyncError := none
  syncStatus := .ok

def acmeDocument : Document where
  id := 1
  tenantId := 1
  relPath := "runbook.md"
  sha256 := ""
  sizeBytes := 0
  modifiedAt := 0
  indexedAt := none
  status := .indexed
  error := none
  chunkCount := 0
  title := none
  folderId := none
  frontmatterTitle := none

def acmeSource : Monitoring.MonitoringSource where
  id := 1
  tenantId := 1
  name := "metrics"
  tool := "prometheus"
  url := "https://metrics.example"
  username := none
  tokenSecret := none
  token2Secret := none
  enabled := true

def acmeCertSource : Certs.CertSource where
  id := 1
  tenantId := 1
  name := "vault"
  provider := "azure_kv"
  configJson := []
  authMode := "ambient"
  credentialId := none
  enabled := true

def acme : Workspace where
  world := {
    db := {
      tenants := only { id := 1, name := "Acme", slug := "acme" }
      orgUnits := only {
        id := 1, tenantId := 1, name := "App", slug := "app", tier := .application, parentId := none }
      credentials := only acmeCredential
      hosts := only acmeHost
      pipelines := only acmePipeline }
    secrets := ∅ }
  runs := only acmeRun
  payloads := only (Pipelines.newPayload 1 "nightly" none "" .shared none 1)
  org := { departments := only acmeDepartment }
  ports := .empty
  scans := {
    scans := only {
      id := 1
      tenantId := 1
      title := "perimeter"
      status := .completed
      config := { sources := [], destinations := [], portIds := [], localSource := false }
      createdById := none }
    results := .empty }
  store := {
    backend := .localRoot fun _ => true
    present := true
    tree := (∅ : Docs.Store.Tree).insert "runbook.md" (.file "restart it" 1000) }
  index := {
    defaultTenant := some 1
    documents := only acmeDocument
    folders := only { id := 1, tenantId := 1, name := "Runbooks", slug := "runbooks" } }
  sources := only acmeSource
  certSources := only acmeCertSource

def acmeEnvironment : Environment where
  adapters := { providers := [("github_actions", .ok)], decodeConfig := fun _ => .ok "", decodeInputs := fun _ => none }
  lower := id
  asciiFold := id
  docsTools := { yaml := ⟨fun _ => none, fun _ _ _ _ => ""⟩, renderMarkdown := id, asciiFold := id }
  docsClock := { now := 0, updatedAt := "" }
  username := "root"
  indexTools := {
    sha256 := id
    yaml := ⟨fun _ => none, fun _ _ _ _ => ""⟩
    parse := fun _ text => .ok (text, none)
    chunkText := fun _ => [] }
  indexConfig := { includeGlobs := [], excludeGlobs := [] }
  around := { embedder := fun _ _ => none, clock := fun _ => 0 }

def offline : Org.Directory where
  resolveGroup := fun _ => .error (.unreachable "timed out")
  resolveUser := fun _ => .error (.unreachable "timed out")
  syncGroup := fun _ _ => .error (.unreachable "timed out")

def weekly : Pipelines.PayloadForm where
  name := "weekly"
  description := ""
  visibility := "shared"
  values := .ok ""

def sampleRequest : Route → Request
  | .hostsUpdate => .hostsUpdate 1 {
      name := "web2", hostname := "web.example", port := 22, protocol := "ssh", description := none
      credentialId := none, jumpHostId := none, tagsCsv := "", isJumpbox := false }
  | .hostsDelete => .hostsDelete 1
  | .hostsAssignOrg => .hostsAssignOrg 1 none
  | .credentialsAssignOrg => .credentialsAssignOrg 1 none
  | .credentialsRename => .credentialsRename 1 "release"
  | .credentialsUpdate => .credentialsUpdate 1 { name := "release", kind := "login" } true
  | .credentialsDelete => .credentialsDelete 1
  | .pipelinesAssignOrg => .pipelinesAssignOrg 1 none
  | .pipelinesUpdate => .pipelinesUpdate 1 {
      name := "nightly", provider := "github_actions", description := none, config := "", inputsSchema := none
      credentialId := none }
  | .pipelinesDelete => .pipelinesDelete 1
  | .pipelinesTrigger => .pipelinesTrigger 1 (.ok "") 0 0 (.error "offline")
  | .pipelinesRunRefresh => .pipelinesRunRefresh 1 5 (.error "offline")
  | .payloadCreate => .payloadCreate 1 weekly
  | .payloadUpdate => .payloadUpdate 1 1 weekly
  | .payloadRename => .payloadRename 1 1 "weekly"
  | .payloadCopy => .payloadCopy 1 1
  | .payloadDelete => .payloadDelete 1 1
  | .orgSync => .orgSync "ops" true offline
  | .orgUpdate => .orgUpdate "ops" {
      name := "Operations", adGroup := "ops", manager := "ada", description := "" } offline
  | .orgDelete => .orgDelete "ops"
  | .mapRerun => .mapRerun 1
  | .mapRename => .mapRename 1 "inside"
  | .mapDelete => .mapDelete 1
  | .docsDelete => .docsDelete "runbook.md"
  | .folderDelete => .folderDelete "runbooks"
  | .updateSource => .updateSource 1 {
      name := "graphs", tool := "prometheus", url := "", username := "", token := "", token2 := "", enabled := false }
  | .deleteSource => .deleteSource 1
  | .certSourceToggle => .certSourceToggle 1
  | .certSourceDelete => .certSourceDelete 1
  | _ => .docsReindex true

structure Outline where
  hosts : List Host
  credentials : List Credential
  pipelines : List Pipeline
  runs : List PipelineRun
  payloads : List Pipelines.Payload
  departments : List Org.Department
  scans : List Network.NetworkScan
  files : List String
  documents : List Document
  folders : List Folder
  sources : List Monitoring.MonitoringSource
  certSources : List Certs.CertSource
  deriving DecidableEq

def outline (space : Workspace) : Outline where
  hosts := space.world.db.hosts.rows
  credentials := space.world.db.credentials.rows
  pipelines := space.world.db.pipelines.rows
  runs := space.runs.rows
  payloads := space.payloads.rows
  departments := space.org.departments.rows
  scans := space.scans.scans.rows
  files := space.store.tree.keys
  documents := space.index.documents.rows
  folders := space.index.folders.rows
  sources := space.sources.rows
  certSources := space.certSources.rows

theorem SameData.outline_eq {before after : Workspace} (same : SameData before after) :
    outline after = outline before := by
  simp only [outline, same.db, same.runs, same.payloads, same.org, same.scans, same.store, same.index, same.sources,
    same.certSources]

def sampleAnswer (route : Route) : Workspace := acme.handle acmeEnvironment (allTenants 1) (sampleRequest route)

theorem sampleRequest_changes (route : Route) (unguarded : ¬ route.requiresActiveTenant)
    (writes : ¬ route.answersOnly) :
    (sampleRequest route).route = route ∧ (sampleRequest route).finds acme = true ∧
      outline (sampleAnswer route) ≠ outline acme := by
  cases route
  all_goals first
    | exact absurd (by decide) unguarded
    | exact absurd (by decide) writes
    | decide +kernel

/-- In the overview the routes that ask for an active tenant and those that only answer
keep everything as it is; any other changes something that its request finds. -/
theorem readOnly_iff (route : Route) (found : Bool) :
    (∀ env space userId (request : Request), request.route = route → request.finds space = found →
      SameData space (space.handle env (allTenants userId) request)) ↔
      route.requiresActiveTenant ∨ route.answersOnly ∨ found = false := by
  constructor
  · intro readOnly
    by_contra excluded
    obtain ⟨unguarded, writes, present⟩ : ¬ route.requiresActiveTenant ∧ ¬ route.answersOnly ∧ found = true := by
      simpa using excluded
    obtain ⟨sameRoute, finds, changed⟩ := sampleRequest_changes route unguarded writes
    have same := readOnly acmeEnvironment acme 1 (sampleRequest route) sameRoute (finds.trans present.symm)
    exact changed same.outline_eq
  · intro allowed env space userId request sameRoute finds
    subst sameRoute
    rcases allowed with guarded | answers | missing
    · rw [guarded_unchanged guarded]
      exact .refl space
    · exact answersOnly_sameData answers
    · rw [missing_unchanged (finds.trans missing)]
      exact .refl space

/-- A department of a tenant is deleted from the overview of all tenants. -/
theorem overview_deletes_department :
    ¬ ∀ env space userId request, SameData space (space.handle env (allTenants userId) request) := by
  intro readOnly
  have same := readOnly acmeEnvironment acme 1 (.orgDelete "ops")
  exact absurd (congrArg Outline.departments same.outline_eq) (by decide)

end Dosm.Tenancy
