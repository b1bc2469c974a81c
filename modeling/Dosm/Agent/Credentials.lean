import Dosm.Credentials.Routes

namespace Dosm.Agent

open Models Python Secrets Web Credentials

/-! The agent's credential tools. -/

def agentKinds : List (String × CredKind) := [("login", .login), ("ssh_key", .sshKey), ("pat", .pat)]

/-- The arguments of the two tools that write a profile, all stripped. -/
structure CredentialArgs where
  name : String
  kind : String
  username : String
  domain : String
  secretValue : String

def credentialArgs (args : Args) : Except Raised CredentialArgs := do
  return {
    name := ← args.text "name"
    kind := ← args.text "kind" "login"
    username := ← args.text "username"
    domain := ← args.text "domain"
    secretValue := ← args.text "secret_value" }

/-- The row the tool asks for, once its arguments have passed their checks. -/
def agentDraft (db : Database) (tid : Option Int) (args : CredentialArgs) :
    Except String Credential :=
  match tid with
  | none => .error "select an active tenant before creating a credential"
  | some tenant =>
      if args.name = "" then .error "name is required"
      else
        match agentKinds.lookup args.kind with
        | none => .error ("invalid kind " ++ Python.repr args.kind ++ "; use login, ssh_key, or pat")
        | some kind =>
            if args.secretValue = "" then
              .error "secret_value is required - enter it in the plan card form"
            else
              .ok {
                id := 0
                tenantId := tenant
                name := args.name
                kind
                username := if args.username = "" then none else some args.username
                domain := if args.domain = "" then none else some args.domain
                secretRef := autoSecretRef args.name (tenantSlug db tenant)
                ownerId := none
                visibility := .shared
                orgUnitId := none }

/-- A duplicate name fails the flush, and the commit that follows the early
return raises in turn. -/
def createCredentialRunner (world : World) (tid : Option Int) (args : Args) (backendUp : Bool) : Run :=
  if tid = none then
    .refuse world "select an active tenant before creating a credential"
  else
    match credentialArgs args with
    | .error raised => .raise world raised
    | .ok given =>
        match agentDraft world.db tid given with
        | .error summary => .refuse world summary
        | .ok draft =>
            match addCredential world.db draft with
            | .error _ => .raise world .pendingRollback
            | .ok db =>
                let id := world.db.credentials.fresh
                let created := setSecret { world with db } backendUp draft.secretRef given.secretValue
                if backendUp then
                  ⟨created, .ok {
                    ok := true
                    summary := "Created credential " ++ Python.repr given.name ++ " (id=" ++ toString id ++ ")"
                    extra := [("credential_id", .int id)] }⟩
                else
                  .refuse created ("Credential row created (id=" ++ toString id ++
                    ") but secret write failed")

def credentialNamed (db : Database) (tid : Option Int) (name : String) :
    Except Raised (Option Credential) :=
  scalarOneOrNone (db.credentials.rows.filter fun row => inTenant tid row.tenantId && row.name = name)

theorem credentialNamed_some {db : Database} {tid : Option Int} {name : String} {cred : Credential}
    (named : credentialNamed db tid name = .ok (some cred)) : cred ∈ db.credentials.rows :=
  (selected_member named).1

def replaced (value : Value) (current : Option String) : Except Raised (Option String) :=
  match value with
  | .none => .ok current
  | .str text => .ok (orNone text)
  | _ => .error .attributeError

def updateCredentialRunner (world : World) (tid : Option Int) (args : Args) (backendUp : Bool) : Run :=
  .withText world (args.text "name") fun name =>
  if name = "" then .refuse world "name is required"
  else
    .withText world (args.text "secret_value") fun secretValue =>
    match credentialNamed world.db tid name with
    | .error raised => .raise world raised
    | .ok none => .refuse world ("Credential " ++ Python.repr name ++ " not found")
    | .ok (some cred) =>
        match replaced (args.get "username") cred.username, replaced (args.get "domain") cred.domain with
        | .ok username, .ok domain =>
            let credentials := world.db.credentials.modify cred.id fun row =>
              { row with username, domain }
            let updated := { world with db := { world.db with credentials } }
            let reported := .ok {
              ok := true
              summary := "Updated credential " ++ Python.repr name
              extra := [("credential_id", .int cred.id)] }
            if secretValue = "" then ⟨updated, reported⟩
            else if backendUp then
              ⟨setSecret updated backendUp cred.secretRef secretValue, reported⟩
            else .refuse updated "Metadata updated but secret write failed"
        | .error raised, _ | _, .error raised => .raise world raised

/-- The secret goes by path, whoever else uses the path. -/
def deleteCredentialRunner (world : World) (tid : Option Int) (args : Args) (backendUp : Bool) : Run :=
  .withText world (args.text "name") fun name =>
  if name = "" then .refuse world "name is required"
  else
    match credentialNamed world.db tid name with
    | .error raised => .raise world raised
    | .ok none => .refuse world ("Credential " ++ Python.repr name ++ " not found")
    | .ok (some cred) =>
        let secrets := if backendUp then world.secrets.erase cred.secretRef else world.secrets
        ⟨{ db := dropCredential world.db cred.id, secrets },
          .ok { ok := true, summary := "Deleted credential " ++ Python.repr name }⟩

end Dosm.Agent
