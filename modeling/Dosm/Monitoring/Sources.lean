import Dosm.Credentials.Routes

namespace Dosm.Monitoring

open Models Python Secrets Web Credentials

/-! The monitoring sources of a tenant.

The row is committed before its tokens go to the secrets backend; a handler that
answers with an error before that has written nothing.
-/

structure MonitoringSource where
  id : Int
  tenantId : Int
  name : String
  tool : String
  url : String
  username : Option String
  tokenSecret : Option String
  token2Secret : Option String
  enabled : Bool
  deriving DecidableEq

instance : Owned MonitoringSource where
  key := MonitoringSource.id
  owner := MonitoringSource.tenantId

def toolChoices : List String := ["dynatrace", "datadog", "servicenow", "prometheus"]

structure SourceForm where
  name : String
  tool : String
  url : String
  username : String
  token : String
  token2 : String
  enabled : Bool

structure Sources where
  sources : Table MonitoringSource
  secrets : Backend

/-- The unique constraint of the table. -/
def nameTaken (sources : Table MonitoringSource) (tenant : Int) (name : String) (self : Option Int) : Bool :=
  sources.rows.any fun source => source.tenantId = tenant && source.name = name && self ≠ some source.id

def tokenPath (id : Int) (leaf : String) : String := "monitoring/" ++ toString id ++ "/" ++ leaf

def newSource (tenant : Int) (form : SourceForm) (id : Int) : MonitoringSource where
  id
  tenantId := tenant
  name := strip form.name
  tool := form.tool
  url := strip form.url
  username := orNone form.username
  tokenSecret := none
  token2Secret := none
  enabled := form.enabled

def editSource (form : SourceForm) (source : MonitoringSource) : MonitoringSource :=
  { source with
    name := strip form.name
    tool := form.tool
    url := strip form.url
    username := orNone form.username
    enabled := form.enabled }

def keepToken (path : String) (token : String) (secrets : Backend) : Backend :=
  if strip token = "" then secrets else secrets.insert path (strip token)

def withTokens (form : SourceForm) (source : MonitoringSource) : MonitoringSource :=
  { source with
    tokenSecret := if strip form.token = "" then source.tokenSecret else some (tokenPath source.id "token")
    token2Secret := if strip form.token2 = "" then source.token2Secret else some (tokenPath source.id "token2") }

/-- Store the tokens of a form and note their paths in the row. -/
def storeTokens (state : Sources) (id : Int) (form : SourceForm) : Sources where
  sources := state.sources.modify id (withTokens form)
  secrets := keepToken (tokenPath id "token2") form.token2 (keepToken (tokenPath id "token") form.token state.secrets)

def duplicateName : Reply := .error 500 "UNIQUE constraint failed: monitoring_sources.tenant_id, monitoring_sources.name"

def createSource (state : Sources) (caller : Caller) (form : SourceForm) : Except Reply Sources := do
  requireRole caller .viewer
  let tenant ← requireActiveTenant caller
  if form.tool ∉ toolChoices then throw (.error 400 ("Unknown tool: " ++ form.tool))
  else if nameTaken state.sources tenant (strip form.name) none then throw duplicateName
  else
    let created := { state with sources := state.sources.insert (newSource tenant form) }
    return storeTokens created state.sources.fresh form

def sourceOr404 (state : Sources) (caller : Caller) (id : Int) : Except Reply MonitoringSource := do
  requireRole caller .viewer
  match getScoped state.sources id caller.tid with
  | none => throw notFound
  | some source => return source

/-- The tool is taken as it comes. -/
def updateSource (state : Sources) (caller : Caller) (id : Int) (form : SourceForm) : Except Reply Sources := do
  let source ← sourceOr404 state caller id
  if nameTaken state.sources source.tenantId (strip form.name) (some source.id) then throw duplicateName
  else
    let edited := { state with sources := state.sources.modify source.id (editSource form) }
    return storeTokens edited source.id form

def deleteSource (state : Sources) (caller : Caller) (id : Int) : Except Reply Sources := do
  let source ← sourceOr404 state caller id
  let paths := (source.tokenSecret.toList ++ source.token2Secret.toList).filter fun path => path ≠ ""
  return {
    sources := state.sources.remove source.id
    secrets := paths.foldl (fun secrets path => secrets.erase path) state.secrets }

end Dosm.Monitoring
