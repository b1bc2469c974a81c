import Dosm.Base.FreeName
import Dosm.Pipelines.Refresh

namespace Dosm.Pipelines

open Models Python Web Credentials

/-! The pages below one pipeline: its runs and its saved input values.

A handler that answers with an error has written nothing. What a submitted form
makes of the inputs of a pipeline is a parameter: their JSON text, or why they are
refused.
-/

structure Payload where
  id : Int
  pipelineId : Int
  name : String
  description : Option String
  valuesJson : String
  visibility : Visibility
  createdById : Option Nat
  deriving DecidableEq

instance : Keyed Payload := ⟨Payload.id⟩

structure PayloadForm where
  name : String
  description : String
  visibility : String
  values : Except String String

def canSeePayload (caller : Caller) (payload : Payload) : Bool :=
  payload.visibility ≠ .personal || caller.role.atLeast .tenantAdmin ||
    payload.createdById = some caller.userId

def payloadOr404 (db : Database) (payloads : Table Payload) (caller : Caller) (pid payloadId : Int) :
    Except Reply Payload := do
  let _ ← pipelineOr404 db caller pid
  match payloads.get payloadId with
  | none => throw notFound
  | some payload =>
      if payload.pipelineId = pid ∧ canSeePayload caller payload then return payload else throw notFound

/-! The repository. -/

def payloadNames (payloads : Table Payload) (pid : Int) : List String :=
  (payloads.rows.filter fun payload => payload.pipelineId = pid).map Payload.name

/-- The stripped name, when no other payload of the pipeline has it. -/
def freeName (payloads : Table Payload) (pid : Int) (name : String) (exclude : Option Int) :
    Except String String :=
  if strip name = "" then .error "payload name is required"
  else if payloads.rows.any fun payload =>
      payload.pipelineId = pid && payload.name = strip name && some payload.id ≠ exclude then
    .error ("a payload named " ++ Python.repr (strip name) ++ " already exists")
  else .ok (strip name)

def newPayload (pid : Int) (name : String) (description : Option String) (valuesJson : String)
    (visibility : Visibility) (createdById : Option Nat) (id : Int) : Payload where
  id
  pipelineId := pid
  name
  description
  valuesJson
  visibility
  createdById

def noneIfEmpty (text : String) : Option String := if text = "" then none else some text

structure PayloadEdit where
  name : Option String := none
  values : Option String := none
  description : Option String := none
  visibility : Option String := none

def PayloadEdit.apply (edit : PayloadEdit) (name : String) (payload : Payload) : Payload :=
  { payload with
    name
    valuesJson := edit.values.getD payload.valuesJson
    description := (edit.description.map noneIfEmpty).getD payload.description
    visibility := (edit.visibility.bind fun visibility => visibilities.lookup visibility).getD payload.visibility }

def updatePayload (payloads : Table Payload) (payload : Payload) (edit : PayloadEdit) :
    Except String (Table Payload) := do
  let name ← match edit.name with
    | none => pure payload.name
    | some name => freeName payloads payload.pipelineId name (some payload.id)
  return payloads.modify payload.id (edit.apply name)

/-- `X (copy)`, `X (copy 2)`, `X (copy 3)`, … -/
def copyName (name : String) (number : Nat) : String := name ++ " (copy " ++ toString number ++ ")"

def copyPayload (payloads : Table Payload) (payload : Payload) (createdById : Option Nat) :
    Except String (Table Payload) := do
  let taken := payloadNames payloads payload.pipelineId
  let base := payload.name ++ " (copy)"
  let derived := if base ∉ taken then base else firstFree (copyName payload.name) taken taken.length 2
  let name ← freeName payloads payload.pipelineId derived none
  return payloads.insert
    (newPayload payload.pipelineId name payload.description payload.valuesJson payload.visibility createdById)

/-! The routes. -/

def badRequest {Value : Type} : Except String Value → Except Reply Value := Except.mapError (.error 400)

def payloadCreate (db : Database) (payloads : Table Payload) (caller : Caller) (pid : Int) (form : PayloadForm) :
    Except Reply (Table Payload) := do
  let _ ← pipelineOr404 db caller pid
  let values ← badRequest form.values
  let name ← badRequest (freeName payloads pid form.name none)
  return payloads.insert (newPayload pid name (noneIfEmpty form.description) values
    ((visibilities.lookup form.visibility).getD .shared) (some caller.userId))

def payloadUpdate (db : Database) (payloads : Table Payload) (caller : Caller) (pid payloadId : Int)
    (form : PayloadForm) : Except Reply (Table Payload) := do
  let payload ← payloadOr404 db payloads caller pid payloadId
  let values ← badRequest form.values
  badRequest (updatePayload payloads payload
    { name := some form.name, values := some values, description := some form.description,
      visibility := some form.visibility })

def payloadRename (db : Database) (payloads : Table Payload) (caller : Caller) (pid payloadId : Int)
    (name : String) : Except Reply (Table Payload) := do
  let payload ← payloadOr404 db payloads caller pid payloadId
  badRequest (updatePayload payloads payload { name := some name })

/-- A name conflict is not caught here. -/
def payloadCopy (db : Database) (payloads : Table Payload) (caller : Caller) (pid payloadId : Int) :
    Except Reply (Table Payload) := do
  let payload ← payloadOr404 db payloads caller pid payloadId
  (copyPayload payloads payload (some caller.userId)).mapError (.error 500)

def payloadDelete (db : Database) (payloads : Table Payload) (caller : Caller) (pid payloadId : Int) :
    Except Reply (Table Payload) := do
  let payload ← payloadOr404 db payloads caller pid payloadId
  return payloads.remove payload.id

/-- The runs and the payloads of a pipeline go with it. -/
def pipelinesDelete (db : Database) (runs : Table PipelineRun) (payloads : Table Payload) (caller : Caller)
    (id : Int) : Except Reply (Database × Table PipelineRun × Table Payload) := do
  let pipeline ← pipelineOr404 db caller id
  return ({ db with pipelines := db.pipelines.remove pipeline.id },
    runs.filter fun run => run.pipelineId ≠ pipeline.id,
    payloads.filter fun payload => payload.pipelineId ≠ pipeline.id)

def pipelinesTrigger (db : Database) (runs : Table PipelineRun) (caller : Caller) (id : Int)
    (inputs : Except String String) (triggeredAt now : Int) (answer : Except String TriggerResult) :
    Except Reply (Table PipelineRun) := do
  let pipeline ← pipelineOr404 db caller id
  let inputs ← badRequest inputs
  return triggerPipeline runs pipeline inputs (some caller.userId) triggeredAt now answer

/-- A refresh whose provider answers before anything else happens. -/
def pipelinesRunRefresh (db : Database) (runs : Table PipelineRun) (caller : Caller) (id now : Int)
    (answer : Except String PollResult) : Except Reply (Table PipelineRun) :=
  match runs.get id with
  | none => .error notFound
  | some run =>
      match refreshablePipeline db.pipelines caller run with
      | none => .error notFound
      | some pipeline => .ok (runs.modify id (flushRun run (refreshRun (some pipeline) now answer run)))

end Dosm.Pipelines
