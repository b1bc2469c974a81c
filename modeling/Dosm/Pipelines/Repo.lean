import Dosm.Credentials.Routes

namespace Dosm.Pipelines

open Models Python Agent Web Credentials

/-! Pipeline registrations: the repository and its browser routes.

What a provider's adapter makes of a configuration is a parameter, as are the
JSON decodings around it; no id is checked against a tenant here.
-/

structure Adapters where
  /-- Each provider's `validate_config`, on the JSON text of a configuration. -/
  providers : List (String × (String → Except String String))
  decodeConfig : Value → Except String String
  decodeInputs : Value → Option String

inductive PipelineError where
  | provider (message : String)
  | integrity (message : String)
  deriving DecidableEq

structure PipelineArgs where
  name : String
  provider : String
  description : Option String
  config : String
  inputsSchema : Option String
  credentialId : Option Int
  orgUnitId : Option Int := none
  ownerId : Option Nat := none
  visibility : Option String := none

def listProviders (adapters : Adapters) : List String := adapters.providers.map (·.1)

def validateConfig (adapters : Adapters) (provider config : String) : Except PipelineError String :=
  match adapters.providers.lookup provider with
  | none => .error (.provider ("unknown pipeline provider " ++ Python.repr provider))
  | some adapter => (adapter config).mapError .provider

def integrityError (db : Database) (pipeline : Pipeline) (self : Option Int) : Option String :=
  let taken := db.pipelines.rows.any fun row =>
    row.tenantId = pipeline.tenantId && row.name = pipeline.name && self ≠ some row.id
  let dangling := pipeline.credentialId.any fun id => (db.credentials.get id).isNone
  let misplaced := pipeline.orgUnitId.any fun id => (db.orgUnits.get id).isNone
  if taken then some "UNIQUE constraint failed: pipelines.tenant_id, pipelines.name"
  else if dangling || misplaced || (db.tenants.get pipeline.tenantId).isNone then
    some "FOREIGN KEY constraint failed"
  else none

def fill (row : Pipeline) (args : PipelineArgs) (config : String) : Pipeline :=
  { row with
    name := strip args.name
    provider := args.provider
    description := if args.description = some "" then none else args.description
    config
    inputsSchema := args.inputsSchema
    credentialId := args.credentialId
    orgUnitId := args.orgUnitId
    visibility := (args.visibility.bind fun visibility => visibilities.lookup visibility).getD row.visibility }

def blank (tenant : Int) (ownerId : Option Nat) : Pipeline where
  id := 0
  tenantId := tenant
  name := ""
  provider := ""
  description := none
  config := "{}"
  inputsSchema := none
  credentialId := none
  ownerId
  visibility := .shared
  orgUnitId := none

def createPipeline (adapters : Adapters) (db : Database) (tenant : Int) (args : PipelineArgs) :
    Except PipelineError (Database × Int) := do
  let config ← validateConfig adapters args.provider args.config
  let draft := fill (blank tenant args.ownerId) args config
  match integrityError db draft none with
  | some message => throw (.integrity message)
  | none =>
      return ({ db with pipelines := db.pipelines.insert fun id => { draft with id } },
        db.pipelines.fresh)

def updatePipeline (adapters : Adapters) (db : Database) (pipeline : Pipeline) (args : PipelineArgs) :
    Except PipelineError Database := do
  let config ← validateConfig adapters args.provider args.config
  match integrityError db (fill pipeline args config) (some pipeline.id) with
  | some message => throw (.integrity message)
  | none =>
      return { db with pipelines := db.pipelines.modify pipeline.id fun row => fill row args config }

def refusal : PipelineError → Reply
  | .provider message | .integrity message => .error 400 message

def pipelinesCreate (adapters : Adapters) (world : World) (caller : Caller) (form : PipelineArgs) :
    World × Reply :=
  let gate := do
    requireRole caller .operator
    requireActiveTenant caller
  match gate with
  | .error reply => (world, reply)
  | .ok tenant =>
      match createPipeline adapters world.db tenant { form with ownerId := some caller.userId } with
      | .error error => (world, refusal error)
      | .ok (db, id) => ({ world with db }, .redirect ("/pipelines/" ++ toString id))

def canSeePipeline (caller : Caller) (pipeline : Pipeline) : Bool :=
  pipeline.visibility ≠ .personal || caller.role.atLeast .tenantAdmin ||
    pipeline.ownerId = some caller.userId

def pipelineOr404 (db : Database) (caller : Caller) (id : Int) : Except Reply Pipeline := do
  requireRole caller .operator
  match getScoped db.pipelines id caller.tid with
  | none => throw notFound
  | some pipeline => if canSeePipeline caller pipeline then return pipeline else throw notFound

def pipelinesUpdate (adapters : Adapters) (world : World) (caller : Caller) (id : Int)
    (form : PipelineArgs) : World × Reply :=
  match pipelineOr404 world.db caller id with
  | .error reply => (world, reply)
  | .ok pipeline =>
      match updatePipeline adapters world.db pipeline form with
      | .error error => (world, refusal error)
      | .ok db => ({ world with db }, .redirect ("/pipelines/" ++ toString pipeline.id))

def pipelinesAssignOrg (world : World) (caller : Caller) (id : Int) (orgUnitId : Option Int) :
    World × Reply :=
  match pipelineOr404 world.db caller id with
  | .error reply => (world, reply)
  | .ok pipeline =>
      if orgUnitId.all fun unit => (world.db.orgUnits.getOwned pipeline.tenantId unit).isSome then
        let pipelines := world.db.pipelines.modify pipeline.id fun row => { row with orgUnitId }
        ({ world with db := { world.db with pipelines } }, .json true "")
      else (world, .json false "Org unit not found.")

end Dosm.Pipelines
