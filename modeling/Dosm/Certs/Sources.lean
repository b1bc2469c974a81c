import Dosm.Web

namespace Dosm.Certs

open Models Python Web

/-! The cloud certificate sources of a tenant. A handler that answers with an error
has written nothing. -/

structure CertSource where
  id : Int
  tenantId : Int
  name : String
  provider : String
  configJson : List (String × String)
  authMode : String
  credentialId : Option Int
  enabled : Bool
  deriving DecidableEq

instance : Owned CertSource where
  key := CertSource.id
  owner := CertSource.tenantId

/-- The fields of the form, absent fields empty. -/
structure CertForm where
  name : String
  provider : String
  authMode : String
  credentialId : String
  vaultUrl : String := ""
  region : String := ""
  project : String := ""
  location : String := ""

def supportedProviders : List String := ["azure_kv", "aws_acm", "gcp_certmgr"]

def buildConfig (form : CertForm) : List (String × String) :=
  let fields := match form.provider with
    | "azure_kv" => [("vault_url", form.vaultUrl)]
    | "aws_acm" => [("region", form.region)]
    | "gcp_certmgr" => [("project", form.project), ("location", form.location)]
    | _ => []
  (fields.map fun (name, text) => (name, strip text)).filter fun field => field.2 ≠ ""

def newCertSource (tenant : Int) (form : CertForm) (credentialId : Option Int) (id : Int) : CertSource where
  id
  tenantId := tenant
  name := strip form.name
  provider := strip form.provider
  configJson := buildConfig { form with provider := strip form.provider }
  authMode :=
    let mode := strip (if form.authMode = "" then "profile" else form.authMode)
    if mode ∈ ["profile", "ambient"] then mode else "profile"
  credentialId
  enabled := true

/-- The credential of a form, which has to be the tenant's own. -/
def ownCredential (db : Database) (tenant : Int) (text : String) : Except Reply (Option Int) :=
  if text = "" then .ok none
  else
    match parseInt text with
    | none => .error (.error 500 "Internal Server Error")
    | some id =>
        if (db.credentials.getOwned tenant id).isSome then .ok (some id)
        else .error (.error 400 "credential not found")

def certSourceCreate (db : Database) (sources : Table CertSource) (caller : Caller) (form : CertForm) :
    Except Reply (Table CertSource) := do
  requireRole caller .tenantAdmin
  let tenant ← requireActiveTenant caller
  if strip form.name = "" ∨ strip form.provider ∉ supportedProviders then
    throw (.error 400 "name and a supported provider are required")
  else
    let credentialId ← ownCredential db tenant form.credentialId
    if sources.rows.any fun source => source.tenantId = tenant && source.name = strip form.name then
      throw (.error 500 "UNIQUE constraint failed: cert_sources.tenant_id, cert_sources.name")
    else return sources.insert (newCertSource tenant form credentialId)

def certSourceOr404 (sources : Table CertSource) (caller : Caller) (id : Int) : Except Reply CertSource := do
  requireRole caller .tenantAdmin
  match getScoped sources id caller.tid with
  | none => throw notFound
  | some source => return source

def certSourceToggle (sources : Table CertSource) (caller : Caller) (id : Int) :
    Except Reply (Table CertSource) := do
  let source ← certSourceOr404 sources caller id
  return sources.modify source.id fun row => { row with enabled := !row.enabled }

def certSourceDelete (sources : Table CertSource) (caller : Caller) (id : Int) :
    Except Reply (Table CertSource) := do
  let source ← certSourceOr404 sources caller id
  return sources.remove source.id

end Dosm.Certs
