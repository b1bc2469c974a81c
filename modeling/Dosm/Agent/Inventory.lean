import Dosm.Hosts.Routes
import Dosm.Pipelines.Repo

namespace Dosm.Agent

open Models Python Web Credentials

/-! The agent's host and pipeline tools. Ids arrive as whatever the model put
into the arguments. -/

/-- `int(value) if value else None`, where a value that is no integer counts as
absent. -/
def idOrNone (value : Value) : Option Int := if value.truthy then value.toInt else none

/-- `int(value)` when given and an integer, else the current value. -/
def idOr (current : Option Int) (value : Value) : Option Int :=
  match value with
  | .none => current
  | given =>
      match given.toInt with
      | some id => some id
      | none => current

/-- `int(args.get("port") or default)`, with a fallback for what is no integer. -/
def portOr (default fallback : Int) (value : Value) : Int :=
  if value.truthy then value.toInt.getD fallback else default

/-- The description an edit writes: the row's own when none is given, stripped
when it is text, and nothing when what is left is falsy. -/
def describe (current : Option String) (args : Args) : Except Raised (Option String) :=
  match args.lookup "description" with
  | none => .ok (current.bind orNone)
  | some (.str text) => .ok (orNone text)
  | some value => if value.truthy then value.columnText else .ok none

def createHostRunner (world : World) (tid : Option Int) (args : Args) : Run :=
  match tid with
  | none => .refuse world "select an active tenant before creating a host"
  | some tenant =>
      .withText world (args.text "name") fun name =>
      .withText world (args.text "hostname") fun hostname =>
      if name = "" ∨ hostname = "" then .refuse world "name and hostname are required"
      else
        .withText world (args.text "protocol" "ssh") fun protocol =>
        .withText world (args.text "description") fun description =>
        .withText world (args.text "tags") fun tagsCsv =>
        let default := if protocol = "ssh" then 22 else if protocol = "rdp" then 3389 else 5900
        match Hosts.createHost world.db tenant {
            name
            hostname
            port := portOr default 22 (args.get "port")
            protocol
            description := if description = "" then none else some description
            credentialId := idOrNone (args.get "credential_id")
            jumpHostId := idOrNone (args.get "jump_host_id")
            tagsCsv
            isJumpbox := (args.get "is_jumpbox").truthy } with
        | .error (.validation message) => .refuse world ("Validation error: " ++ message) message
        | .error (.integrity message) =>
            .refuse world ("Create failed: IntegrityError: " ++ message) message
        | .ok (db, hostId) =>
            ⟨{ world with db }, .ok {
              ok := true
              summary := "Created host " ++ Python.repr name ++ " (id=" ++ toString hostId ++ ")"
              extra := [("host_id", .int hostId), ("host", .str name)] }⟩

def hostNamed (db : Database) (tid : Option Int) (name : String) : Except Raised (Option Host) :=
  scalarOneOrNone (db.hosts.rows.filter fun row => inTenant tid row.tenantId && row.name = name)

/-- A conflict caught inside the session makes its commit raise. -/
def updateHostRunner (world : World) (tid : Option Int) (args : Args) : Run :=
  .withText world (args.text "name") fun name =>
  if name = "" then .refuse world "name is required"
  else
    match hostNamed world.db tid name with
    | .error raised => .raise world raised
    | .ok none => .refuse world ("Host " ++ Python.repr name ++ " not found")
    | .ok (some host) =>
        let protocolName := match host.protocol with
          | .ssh => "ssh"
          | .rdp => "rdp"
          | .vnc => "vnc"
        .withText world (args.text "protocol" protocolName) fun protocol =>
        .withText world (args.text "hostname" host.hostname) fun hostname =>
        .withText world (args.text "tags") fun tagsCsv =>
        match describe host.description args with
        | .error raised => .raise world raised
        | .ok description =>
            match Hosts.updateHost world.db host {
                name
                hostname
                port := portOr host.port host.port (args.get "port")
                protocol
                description
                credentialId := idOr host.credentialId (args.get "credential_id")
                jumpHostId := idOr host.jumpHostId (args.get "jump_host_id")
                tagsCsv
                isJumpbox := match args.lookup "is_jumpbox" with
                  | some value => value.truthy
                  | none => host.isJumpbox } with
            | .error (.validation message) => .refuse world ("Validation error: " ++ message) message
            | .error (.integrity _) => .raise world .pendingRollback
            | .ok db =>
                ⟨{ world with db }, .ok {
                  ok := true
                  summary := "Updated host " ++ Python.repr name
                  extra := [("host", .str name)] }⟩

def pipelineNamed (db : Database) (tid : Option Int) (name : String) :
    Except Raised (Option Pipeline) :=
  scalarOneOrNone (db.pipelines.rows.filter fun row => inTenant tid row.tenantId && row.name = name)

def createPipelineRunner (adapters : Pipelines.Adapters) (world : World) (tid : Option Int)
    (args : Args) : Run :=
  match tid with
  | none => .refuse world "select an active tenant before creating a pipeline"
  | some tenant =>
      .withText world (args.text "name") fun name =>
      .withText world (args.text "provider") fun provider =>
      if name = "" then .refuse world "name is required"
      else if provider = "" then .refuse world "provider is required"
      else if provider ∉ Pipelines.listProviders adapters then
        .refuse world ("unknown provider " ++ Python.repr provider ++ "; valid: " ++
          ", ".intercalate (Pipelines.listProviders adapters))
      else
        match adapters.decodeConfig (args.get "config") with
        | .error message => .refuse world ("config is not valid JSON: " ++ message)
        | .ok config =>
            .withText world (args.text "description") fun description =>
            match Pipelines.createPipeline adapters world.db tenant {
                name
                provider
                description := if description = "" then none else some description
                config
                inputsSchema := adapters.decodeInputs (args.get "inputs_schema")
                credentialId := idOrNone (args.get "credential_id") } with
            | .error (.provider message) => .refuse world ("Provider config error: " ++ message) message
            | .error (.integrity message) =>
                .refuse world ("Duplicate pipeline name: " ++ message) message
            | .ok (db, id) =>
                ⟨{ world with db }, .ok {
                  ok := true
                  summary := "Created pipeline " ++ Python.repr name ++ " (id=" ++ toString id ++ ")"
                  extra := [("pipeline_id", .int id), ("pipeline", .str name)] }⟩

/-- The edit passes no org unit on, which clears the one the row had. -/
def updatePipelineRunner (adapters : Pipelines.Adapters) (world : World) (tid : Option Int)
    (args : Args) : Run :=
  .withText world (args.text "name") fun name =>
  if name = "" then .refuse world "name is required"
  else
    match pipelineNamed world.db tid name with
    | .error _ => .refuse world "Update failed: MultipleResultsFound"
    | .ok none => .refuse world ("Pipeline " ++ Python.repr name ++ " not found")
    | .ok (some pipeline) =>
        match args.text "provider" pipeline.provider with
        | .error _ => .refuse world "Update failed: AttributeError"
        | .ok provider =>
            if provider ∉ Pipelines.listProviders adapters then
              .refuse world ("unknown provider " ++ Python.repr provider)
            else
              let decoded : Except String String := match args.get "config" with
                | .none => .ok pipeline.config
                | given => adapters.decodeConfig given
              match decoded with
              | .error message => .refuse world ("config is not valid JSON: " ++ message)
              | .ok config =>
                  let inputsSchema := match args.get "inputs_schema" with
                    | .none => pipeline.inputsSchema
                    | given => adapters.decodeInputs given
                  match describe pipeline.description args with
                  | .error _ => .refuse world "Update failed: InterfaceError"
                  | .ok description =>
                      match Pipelines.updatePipeline adapters world.db pipeline {
                          name
                          provider
                          description
                          config
                          inputsSchema
                          credentialId := idOr pipeline.credentialId (args.get "credential_id") } with
                      | .error (.provider message) =>
                          .refuse world ("Provider config error: " ++ message) message
                      | .error (.integrity message) =>
                          .refuse world ("Update failed: IntegrityError: " ++ message) message
                      | .ok db =>
                          ⟨{ world with db }, .ok {
                            ok := true
                            summary := "Updated pipeline " ++ Python.repr name
                            extra := [("pipeline", .str name)] }⟩

end Dosm.Agent
