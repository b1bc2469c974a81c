import Dosm.Agent.Commands

namespace Dosm.Agent

open Models Python Plans

/-! The tools an agent may propose, as registered. -/

inductive FieldType where
  | string
  | number
  | boolean
  | textarea
  | secret
  | object
  deriving DecidableEq

structure Field where
  name : String
  type : FieldType
  deriving DecidableEq

structure Action where
  name : String
  argsSchema : List Field
  classify : Args → CardTier := fun _ => .safe
  elevatedConfirmField : Option String := none

def sshExecClassify (args : Args) : CardTier :=
  if args.get "_pre_classified" = .str "safe" then .safe else .elevated

def elevated : Args → CardTier := fun _ => .elevated

def actions : List Action := [
  { name := "ssh_exec"
    argsSchema := [⟨"host", .string⟩, ⟨"command", .string⟩, ⟨"timeout", .number⟩]
    classify := sshExecClassify
    elevatedConfirmField := some "host" },
  { name := "local_exec"
    argsSchema := [⟨"command", .string⟩, ⟨"timeout", .number⟩]
    classify := elevated },
  { name := "winrm_exec"
    argsSchema := [⟨"host", .string⟩, ⟨"command", .string⟩, ⟨"timeout", .number⟩]
    classify := elevated
    elevatedConfirmField := some "host" },
  { name := "run_pipeline"
    argsSchema := [⟨"name", .string⟩, ⟨"inputs", .object⟩] },
  { name := "create_pipeline"
    argsSchema := [⟨"name", .string⟩, ⟨"provider", .string⟩, ⟨"config", .string⟩,
      ⟨"description", .string⟩, ⟨"inputs_schema", .string⟩, ⟨"credential_id", .number⟩]
    classify := elevated
    elevatedConfirmField := some "name" },
  { name := "update_pipeline"
    argsSchema := [⟨"name", .string⟩, ⟨"provider", .string⟩, ⟨"config", .string⟩,
      ⟨"description", .string⟩, ⟨"inputs_schema", .string⟩, ⟨"credential_id", .number⟩]
    classify := elevated
    elevatedConfirmField := some "name" },
  { name := "delete_pipeline"
    argsSchema := [⟨"name", .string⟩]
    classify := elevated
    elevatedConfirmField := some "name" },
  { name := "upsert_doc"
    argsSchema := [⟨"path", .string⟩, ⟨"title", .string⟩, ⟨"folder_slug", .string⟩, ⟨"body_md", .textarea⟩] },
  { name := "delete_doc"
    argsSchema := [⟨"path", .string⟩]
    classify := elevated
    elevatedConfirmField := some "path" },
  { name := "sync_org_group"
    argsSchema := [⟨"group_name", .string⟩] },
  { name := "create_host"
    argsSchema := [⟨"name", .string⟩, ⟨"hostname", .string⟩, ⟨"port", .number⟩, ⟨"protocol", .string⟩,
      ⟨"description", .string⟩, ⟨"credential_id", .number⟩, ⟨"is_jumpbox", .boolean⟩, ⟨"tags", .string⟩] },
  { name := "update_host"
    argsSchema := [⟨"name", .string⟩, ⟨"hostname", .string⟩, ⟨"port", .number⟩, ⟨"protocol", .string⟩,
      ⟨"description", .string⟩, ⟨"credential_id", .number⟩, ⟨"tags", .string⟩]
    classify := elevated
    elevatedConfirmField := some "name" },
  { name := "create_credential"
    argsSchema := [⟨"name", .string⟩, ⟨"kind", .string⟩, ⟨"username", .string⟩, ⟨"domain", .string⟩,
      ⟨"secret_value", .secret⟩]
    classify := elevated
    elevatedConfirmField := some "name" },
  { name := "update_credential"
    argsSchema := [⟨"name", .string⟩, ⟨"username", .string⟩, ⟨"domain", .string⟩, ⟨"secret_value", .secret⟩]
    classify := elevated
    elevatedConfirmField := some "name" },
  { name := "delete_credential"
    argsSchema := [⟨"name", .string⟩]
    classify := elevated
    elevatedConfirmField := some "name" },
  { name := "delete_host"
    argsSchema := [⟨"name", .string⟩]
    classify := elevated
    elevatedConfirmField := some "name" },
  { name := "create_monitoring_source"
    argsSchema := [⟨"name", .string⟩, ⟨"tool", .string⟩, ⟨"url", .string⟩, ⟨"username", .string⟩,
      ⟨"token", .secret⟩, ⟨"token2", .secret⟩, ⟨"enabled", .boolean⟩]
    classify := elevated
    elevatedConfirmField := some "name" },
  { name := "update_monitoring_source"
    argsSchema := [⟨"name", .string⟩, ⟨"tool", .string⟩, ⟨"url", .string⟩, ⟨"username", .string⟩,
      ⟨"token", .secret⟩, ⟨"token2", .secret⟩, ⟨"enabled", .boolean⟩]
    classify := elevated
    elevatedConfirmField := some "name" },
  { name := "delete_monitoring_source"
    argsSchema := [⟨"name", .string⟩]
    classify := elevated
    elevatedConfirmField := some "name" },
  { name := "enable_monitoring_source"
    argsSchema := [⟨"name", .string⟩] },
  { name := "disable_monitoring_source"
    argsSchema := [⟨"name", .string⟩] }]

def getAction (name : String) : Option Action := actions.find? fun action => action.name = name

def Action.spec (action : Action) : ActionSpec where
  argsSchema := action.argsSchema.map Field.name
  classify args := .ok (action.classify args)
  elevatedConfirmField := action.elevatedConfirmField

/-- The conversions between values and text; the text of a string is the string. -/
structure Conversions where
  loads : String → Decoded
  dumps : Args → String
  str : Value → String
  /-- `float` accepts the value. -/
  isFloat : Value → Bool
  str_text : ∀ text, str (.str text) = text

/-- `classify_command` strips its argument, which only text allows. -/
def classifyValue (allowList : List String) : Value → Except Raised CardTier
  | .str text => .ok (classifyCommand allowList text)
  | _ => .error .attributeError

def agentTools (conversions : Conversions) (allowList : List String) : Tools where
  getAction name := (getAction name).map Action.spec
  classifyCommand := classifyValue allowList
  loads := conversions.loads
  dumps := conversions.dumps
  str := conversions.str

theorem confirm_fields : ∀ action ∈ actions,
    (∀ field ∈ action.elevatedConfirmField, field ≠ "" ∧ field ∈ action.argsSchema.map Field.name) ∧
      (action.elevatedConfirmField = none → action.name ∈ commandClassifyTools →
        action.name = "local_exec") := by
  decide

end Dosm.Agent
