import Dosm.Agent.Action
import Dosm.Base.Checks
import Dosm.Web

namespace Dosm.Credentials

open Models Python Secrets Agent Web

/-! Credential profiles in the browser.

The row is committed before the secrets backend is touched, so a failing
backend leaves the row behind. `backendUp` is the backend's answer.
-/

def credKinds : List (String × CredKind) :=
  [("login", .login), ("ssh_key", .sshKey), ("pat", .pat), ("azure_sp", .azureSp),
    ("aws_keys", .awsKeys), ("gcp_sa", .gcpSa), ("dynamic", .dynamic)]

def visibilities : List (String × Visibility) := [("shared", .shared), ("private", .personal)]

def tenantSlug (db : Database) (tenant : Int) : String :=
  match db.tenants.get tenant with
  | some row => row.slug
  | none => toString tenant

/-- A stripped form field, absent when nothing is left of it. -/
def orNone (text : String) : Option String :=
  let stripped := strip text
  if stripped = "" then none else some stripped

/-- The constraint an insert or an update of the row breaks, if any. -/
def integrityError (db : Database) (cred : Credential) (self : Option Int) : Option String :=
  let taken := db.credentials.rows.any fun row =>
    row.tenantId = cred.tenantId && row.name = cred.name && self ≠ some row.id
  let dangling := match cred.orgUnitId with
    | none => false
    | some unit => (db.orgUnits.get unit).isNone
  if taken then some "UNIQUE constraint failed: credentials.tenant_id, credentials.name"
  else if dangling || (db.tenants.get cred.tenantId).isNone then some "FOREIGN KEY constraint failed"
  else none

def addCredential (db : Database) (draft : Credential) : Except String Database :=
  match integrityError db draft none with
  | some message => .error message
  | none => .ok { db with credentials := db.credentials.insert fun id => { draft with id } }

def dropCredential (db : Database) (id : Int) : Database :=
  let cleared := fun reference : Option Int => if reference = some id then none else reference
  { db with
    credentials := db.credentials.remove id
    hosts := db.hosts.map fun host => { host with
      credentialId := cleared host.credentialId
      ftCredentialId := cleared host.ftCredentialId }
    pipelines := db.pipelines.map fun pipeline => { pipeline with
      credentialId := cleared pipeline.credentialId } }

def canSeeCredential (caller : Caller) (cred : Credential) : Bool :=
  cred.visibility ≠ .personal || caller.role.atLeast .tenantAdmin || cred.ownerId = some caller.userId

def visibleCredential (db : Database) (caller : Caller) (credId : Int) : Except Reply Credential :=
  match getScoped db.credentials credId caller.tid with
  | none => .error notFound
  | some cred => if canSeeCredential caller cred then .ok cred else .error notFound

theorem visibleCredential_some {db : Database} {caller : Caller} {credId : Int} {cred : Credential}
    (visible : visibleCredential db caller credId = .ok cred) :
    cred ∈ db.credentials.rows ∧ cred.id = credId := by
  simp only [visibleCredential] at visible
  cases found : getScoped db.credentials credId caller.tid with
  | none => simp [found] at visible
  | some row =>
      simp only [found] at visible
      split at visible
      · cases visible
        exact getScoped_some found
      · cases visible

theorem checked_some {db : Database} {caller : Caller} {credId : Int} {cred : Credential}
    {minimum : Role}
    (checked : (do requireRole caller minimum; visibleCredential db caller credId) = .ok cred) :
    cred ∈ db.credentials.rows ∧ cred.id = credId := by
  obtain ⟨_, _, visible⟩ := Checks.bind_ok checked
  exact visibleCredential_some visible

def setSecret (world : World) (backendUp : Bool) (path value : String) : World :=
  if backendUp then { world with secrets := world.secrets.insert path value } else world

structure CredentialForm where
  name : String
  kind : String
  username : String := ""
  domain : String := ""
  secretRef : String := ""
  secretValue : String := ""
  orgUnitId : Option Int := none
  visibility : String := "shared"

/-- The row a create request asks for, once the form has passed its checks. -/
def createDraft (db : Database) (caller : Caller) (form : CredentialForm) : Except Reply Credential := do
  requireRole caller .operator
  let tenant ← requireActiveTenant caller
  let name := strip form.name
  let given := strip form.secretRef
  let secretRef := if given = "" then autoSecretRef name (tenantSlug db tenant) else given
  let visibility := (visibilities.lookup form.visibility).getD .shared
  match credKinds.lookup form.kind with
  | none => throw (.error 400 ("unknown kind " ++ Python.repr form.kind))
  | some kind =>
      if name = "" then throw (.error 400 "Profile name is required.")
      else
        return {
          id := 0
          tenantId := tenant
          name
          kind
          username := orNone form.username
          domain := orNone form.domain
          secretRef
          ownerId := some caller.userId
          visibility
          orgUnitId := form.orgUnitId }

def credentialsCreate (world : World) (caller : Caller) (form : CredentialForm) (backendUp : Bool) :
    World × Reply :=
  match createDraft world.db caller form with
  | .error reply => (world, reply)
  | .ok draft =>
      match addCredential world.db draft with
      | .error message => (world, .error 400 message)
      | .ok db =>
          let location := "/credentials/" ++ toString world.db.credentials.fresh
          if form.secretValue ≠ "" ∧ draft.kind ≠ .dynamic then
            (setSecret { world with db } backendUp draft.secretRef form.secretValue,
              .redirect (if backendUp then location else location ++ "?warn=secret-write-failed"))
          else ({ world with db }, .redirect location)

def dynamicDraft (db : Database) (caller : Caller) (name : String) : Except Reply Credential := do
  requireRole caller .tenantAdmin
  let tenant ← requireActiveTenant caller
  let name := strip name
  if name = "" then throw (.redirect "/credentials/mine?error=name-required")
  else
    return {
      id := 0
      tenantId := tenant
      name
      kind := .dynamic
      username := none
      domain := none
      secretRef := autoSecretRef name (tenantSlug db tenant)
      ownerId := some caller.userId
      visibility := .shared
      orgUnitId := none }

def myCredentialsNew (world : World) (caller : Caller) (name : String) : World × Reply :=
  match dynamicDraft world.db caller name with
  | .error reply => (world, reply)
  | .ok draft =>
      match addCredential world.db draft with
      | .error _ => (world, .redirect "/credentials/mine?error=name-taken")
      | .ok db => ({ world with db }, .redirect "/credentials/mine?created=1")

/-- The name changes, the secret path stays. -/
def credentialsRename (world : World) (caller : Caller) (credId : Int) (newName : String) :
    World × Reply :=
  let checked := do
    requireRole caller .tenantAdmin
    visibleCredential world.db caller credId
  match checked with
  | .error reply => (world, reply)
  | .ok cred =>
      let newName := strip newName
      if newName = "" then (world, .redirect "/credentials/mine?error=name-required")
      else if newName = cred.name then (world, .redirect "/credentials/mine?renamed=1")
      else
        match integrityError world.db { cred with name := newName } (some cred.id) with
        | some _ => (world, .redirect "/credentials/mine?error=name-taken")
        | none =>
            let credentials := world.db.credentials.modify cred.id fun row =>
              { row with name := newName }
            ({ world with db := { world.db with credentials } },
              .redirect "/credentials/mine?renamed=1")

def credentialsUpdate (world : World) (caller : Caller) (credId : Int) (form : CredentialForm)
    (backendUp : Bool) : World × Reply :=
  let checked := do
    requireRole caller .operator
    visibleCredential world.db caller credId
  match checked with
  | .error reply => (world, reply)
  | .ok cred =>
      match credKinds.lookup form.kind with
      | none => (world, .error 400 ("unknown kind " ++ Python.repr form.kind))
      | some kind =>
          let edit := fun row : Credential => { row with
            name := strip form.name
            kind
            username := orNone form.username
            domain := orNone form.domain
            orgUnitId := form.orgUnitId
            visibility := (visibilities.lookup form.visibility).getD row.visibility }
          match integrityError world.db (edit cred) (some cred.id) with
          | some message => (world, .error 400 message)
          | none =>
              let credentials := world.db.credentials.modify cred.id edit
              let edited := { world with db := { world.db with credentials } }
              let location := "/credentials/" ++ toString cred.id
              if form.secretValue ≠ "" then
                (setSecret edited backendUp cred.secretRef form.secretValue, .redirect location)
              else (edited, .redirect location)

def hostsUsing (db : Database) (credId : Int) : Nat :=
  db.hosts.rows.countP fun host => host.credentialId = some credId

/-- The row goes; its secret stays in the backend. -/
def credentialsDelete (world : World) (caller : Caller) (credId : Int) : World × Reply :=
  let checked := do
    requireRole caller .operator
    visibleCredential world.db caller credId
  match checked with
  | .error reply => (world, reply)
  | .ok cred =>
      if cred.kind = .dynamic ∧ ¬ caller.role.atLeast .tenantAdmin then
        (world, .error 403 "Only tenant admins can delete dynamic credential profiles.")
      else if hostsUsing world.db cred.id > 0 then
        (world, .error 409 "credential is in use by one or more hosts")
      else
        ({ world with db := dropCredential world.db cred.id },
          .redirect (if cred.kind = .dynamic then "/credentials/mine" else "/inventory"))

/-- The dynamic credential a user keeps material for, or 404. -/
def dynamicCredential (db : Database) (caller : Caller) (credId : Int) : Except Reply Credential := do
  let cred ← visibleCredential db caller credId
  if cred.kind = .dynamic then return cred else throw notFound

/-- `material` is the JSON text of the user's name and password. -/
def myCredentialsSet (world : World) (caller : Caller) (credId : Int) (material : String) :
    World × Reply :=
  match dynamicCredential world.db caller credId with
  | .error reply => (world, reply)
  | .ok cred =>
      ({ world with secrets := world.secrets.insert (userPath cred caller.userId) material },
        .redirect "/credentials/mine?saved=1")

def myCredentialsClear (world : World) (caller : Caller) (credId : Int) : World × Reply :=
  match dynamicCredential world.db caller credId with
  | .error reply => (world, reply)
  | .ok cred =>
      ({ world with secrets := world.secrets.erase (userPath cred caller.userId) },
        .redirect "/credentials/mine?cleared=1")

def credentialsAssignOrg (world : World) (caller : Caller) (credId : Int) (orgUnitId : Option Int) :
    World × Reply :=
  let checked := do
    requireRole caller .operator
    visibleCredential world.db caller credId
  match checked with
  | .error reply => (world, reply)
  | .ok cred =>
      if orgUnitId.all fun unit => (world.db.orgUnits.getOwned cred.tenantId unit).isSome then
        let credentials := world.db.credentials.modify cred.id fun row => { row with orgUnitId }
        ({ world with db := { world.db with credentials } }, .json true "")
      else (world, .json false "Org unit not found.")

end Dosm.Credentials
