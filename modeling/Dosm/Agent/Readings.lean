import Dosm.Agent.Credentials
import Dosm.Agent.SshExec

namespace Dosm.Agent

open Models Python Credentials

/-! What the runners take from their arguments.

A runner looks an argument up once and coerces it on the spot: two argument maps
with the same readings give the same run.
-/

/-- How a runner reads an argument `value`, of the given name. -/
inductive Reader where
  /-- As it is. -/
  | raw
  /-- `(value or default).strip()`. -/
  | text
  /-- `(value or "").strip()`, if the name is there. -/
  | presentText
  /-- `value.strip()`, if not null. -/
  | givenText
  /-- The row's own if the name is not there, stripped if it is text. -/
  | description
  /-- `value or ""`. -/
  | body
  /-- `float(value or 30.0)`. -/
  | seconds
  /-- `int(value) if value else None`, or a fallback for what is no integer. -/
  | id
  /-- `int(value) if value is not None`, else the row's own. -/
  | idGiven
  /-- `int(value or default)`, with 22 for what is no integer. -/
  | port
  /-- `value or {}`, refused unless an object. -/
  | inputs
  | config
  /-- The row's own if null. -/
  | configGiven
  | schema
  /-- The row's own if null. -/
  | schemaGiven
  /-- `bool(value)`. -/
  | flag
  /-- `bool(value)`, true if the name is not there. -/
  | flagDefault
  /-- `bool(value)`, if the name is there. -/
  | flagGiven
  deriving DecidableEq

def Reader.isFlag : Reader → Bool
  | .flag | .flagDefault | .flagGiven => true
  | _ => false

/-- What is read. The default or the row's own value stands in for what is absent. -/
inductive Reading (Seconds : Type) where
  | absent
  | text (value : String)
  | value (value : Value)
  | id (value : Option Int)
  | flag (value : Bool)
  | seconds (value : Seconds)
  | config (decoded : Except String String)
  | inputsSchema (decoded : Option String)
  | refused

/-- `float` and the JSON decodings. The text of a number is read as the number,
white space around it ignored; neither a list nor the word for true is one. -/
structure Coercions (Seconds : Type) where
  float : Value → Option Seconds
  decodeConfig : Value → Except String String
  decodeInputs : Value → Option String
  float_strip : ∀ text, float (.str (strip text)) = float (.str text)
  float_int : ∀ number seconds, float (.int number) = some seconds →
    float (.str (toString number)) = some seconds
  float_float : ∀ text truncated zero, float (.float text truncated zero) = float (.str text)
  float_true : float (.str "True") = none
  float_container : ∀ text mapping empty, float (.container text mapping empty) = none

section Read

variable {Seconds : Type} (coercions : Coercions Seconds)

def stripped : Value → Reading Seconds
  | .str text => .text (strip text)
  | _ => .refused

def ifGiven (read : Value → Reading Seconds) : Value → Reading Seconds
  | .none => .absent
  | value => read value

def isObject : Value → Bool
  | .container _ mapping _ => mapping
  | _ => false

def readAs (reader : Reader) (given : Option Value) : Reading Seconds :=
  let value := given.getD .none
  match reader with
  | .raw => .value value
  | .text => if value.truthy then stripped value else .absent
  | .presentText =>
      match given with
      | none => .absent
      | some value => if value.truthy then stripped value else .text ""
  | .givenText => ifGiven stripped value
  | .description =>
      match given with
      | none => .absent
      | some (.str text) => .text (strip text)
      | some value => .value value
  | .body =>
      if value.truthy then
        match value with
        | .str text => .text text
        | _ => .refused
      else .text ""
  | .seconds =>
      if value.truthy then
        match coercions.float value with
        | some seconds => .seconds seconds
        | none => .value value
      else .absent
  | .id => .id (idOrNone value)
  | .idGiven => .id (idOr none value)
  | .port => if value.truthy then .id value.toInt else .absent
  | .inputs => if value.truthy then (if isObject value then .value value else .refused) else .absent
  | .config => .config (coercions.decodeConfig value)
  | .configGiven => ifGiven (.config ∘ coercions.decodeConfig) value
  | .schema => .inputsSchema (coercions.decodeInputs value)
  | .schemaGiven => ifGiven (.inputsSchema ∘ coercions.decodeInputs) value
  | .flag => .flag value.truthy
  | .flagDefault => .flag (given.elim true Value.truthy)
  | .flagGiven => given.elim .absent fun value => .flag value.truthy

end Read

/-- The arguments each runner reads, also those that no form shows. -/
def runnerReads : String → List (String × Reader)
  | "ssh_exec" => [("host_id", .raw), ("host", .raw), ("command", .text), ("timeout", .seconds)]
  | "local_exec" => [("command", .text), ("timeout", .seconds)]
  | "winrm_exec" => [("host", .text), ("command", .text), ("timeout", .seconds)]
  | "run_pipeline" => [("name", .text), ("inputs", .inputs)]
  | "create_pipeline" => [("name", .text), ("provider", .text), ("config", .config),
      ("inputs_schema", .schema), ("credential_id", .id), ("description", .text)]
  | "update_pipeline" => [("name", .text), ("provider", .text), ("config", .configGiven),
      ("inputs_schema", .schemaGiven), ("credential_id", .idGiven), ("description", .description)]
  | "delete_pipeline" => [("name", .text)]
  | "upsert_doc" => [("path", .text), ("title", .text), ("folder_slug", .text), ("body_md", .body),
      ("_author", .raw)]
  | "delete_doc" => [("path", .text)]
  | "sync_org_group" => [("group_name", .text)]
  | "create_host" => [("name", .text), ("hostname", .text), ("protocol", .text), ("port", .port),
      ("description", .text), ("credential_id", .id), ("jump_host_id", .id), ("is_jumpbox", .flag),
      ("tags", .text)]
  | "update_host" => [("name", .text), ("protocol", .text), ("port", .id), ("hostname", .text),
      ("description", .description), ("credential_id", .idGiven), ("jump_host_id", .idGiven),
      ("is_jumpbox", .flagGiven), ("tags", .text)]
  | "create_credential" => [("name", .text), ("kind", .text), ("username", .text), ("domain", .text),
      ("secret_value", .text)]
  | "update_credential" => [("name", .text), ("username", .givenText), ("domain", .givenText),
      ("secret_value", .text)]
  | "delete_credential" => [("name", .text)]
  | "delete_host" => [("name", .text)]
  | "create_monitoring_source" => [("name", .text), ("tool", .text), ("url", .text), ("username", .text),
      ("token", .text), ("token2", .text), ("enabled", .flagDefault)]
  | "update_monitoring_source" => [("name", .text), ("tool", .presentText), ("url", .presentText),
      ("username", .presentText), ("enabled", .flagGiven), ("token", .text), ("token2", .text)]
  | "delete_monitoring_source" => [("name", .text)]
  | "enable_monitoring_source" => [("name", .text)]
  | "disable_monitoring_source" => [("name", .text)]
  | _ => []

theorem rendered_read : ∀ action ∈ actions, (action.argsSchema.map Field.name).Nodup ∧
    ∀ field ∈ action.argsSchema, field.name ∈ (runnerReads action.name).map (·.1) ∧
      ∀ entry ∈ runnerReads action.name, entry.1 = field.name →
        (entry.2.isFlag = true ↔ field.type = .boolean) := by
  decide

def Coercions.adapters {Seconds : Type} (coercions : Coercions Seconds)
    (providers : List (String × (String → Except String String))) : Pipelines.Adapters where
  providers
  decodeConfig := coercions.decodeConfig
  decodeInputs := coercions.decodeInputs

def readings {Seconds : Type} (coercions : Coercions Seconds) (tool : String) (args : Args) :
    List (String × Reading Seconds) :=
  (runnerReads tool).map fun entry => (entry.1, readAs coercions entry.2 (args.lookup entry.1))

section Runners

variable {Seconds : Type} {coercions : Coercions Seconds} {args other : Args} {tool key : String}
  {world : World} {tid : Option Int}

theorem read_of_readings (key : String) (reader : Reader)
    (same : readings coercions tool args = readings coercions tool other)
    (listed : (key, reader) ∈ runnerReads tool) :
    readAs coercions reader (args.lookup key) = readAs coercions reader (other.lookup key) :=
  (Prod.mk.inj (List.map_inj_left.mp same _ listed)).2

theorem text_of_read {default : String}
    (same : readAs coercions .text (args.lookup key) = readAs coercions .text (other.lookup key)) :
    args.text key default = other.text key default := by
  have read : ∀ args : Args, args.text key default =
      match readAs coercions .text (args.lookup key) with
      | .absent => .ok (strip default)
      | .text value => .ok value
      | _ => .error .attributeError := by
    intro args
    unfold Args.text Args.get readAs
    cases args.lookup key with
    | none => rfl
    | some value =>
        cases given : value.truthy with
        | false => simp [given]
        | true => cases value <;> simp [given, stripped]
  rw [read, read, same]

theorem port_of_read {default : Int}
    (same : readAs coercions .port (args.lookup key) = readAs coercions .port (other.lookup key)) :
    portOr default 22 (args.get key) = portOr default 22 (other.get key) := by
  have read : ∀ args : Args, portOr default 22 (args.get key) =
      match readAs coercions .port (args.lookup key) with
      | .id value => value.getD 22
      | _ => default := by
    intro args
    unfold portOr Args.get readAs
    by_cases given : ((args.lookup key).getD .none).truthy = true <;> simp [given]
  rw [read, read, same]

theorem text_of_readings (same : readings coercions tool args = readings coercions tool other) (key : String)
    (listed : (key, .text) ∈ runnerReads tool) (default : String) :
    args.text key default = other.text key default :=
  text_of_read (read_of_readings key .text same listed)

theorem replaced_of_read {current : Option String}
    (same : readAs coercions .givenText (args.lookup key) = readAs coercions .givenText (other.lookup key)) :
    replaced (args.get key) current = replaced (other.get key) current := by
  have read : ∀ value : Value, replaced value current =
      match ifGiven (stripped : Value → Reading Seconds) value with
      | .text value => .ok (if value = "" then none else some value)
      | .absent => .ok current
      | _ => .error .attributeError := by
    intro value
    cases value <;> rfl
  have shown : ifGiven (stripped : Value → Reading Seconds) (args.get key) =
      ifGiven stripped (other.get key) := same
  rw [read, read (other.get key), shown]

theorem seconds_of_read
    (same : readAs coercions .seconds (args.lookup key) = readAs coercions .seconds (other.lookup key)) :
    ((args.get key).truthy && !(coercions.float (args.get key)).isSome) =
      ((other.get key).truthy && !(coercions.float (other.get key)).isSome) := by
  have read : ∀ args : Args, ((args.get key).truthy && !(coercions.float (args.get key)).isSome) =
      match readAs coercions .seconds (args.lookup key) with
      | .value _ => true
      | _ => false := by
    intro args
    unfold Args.get readAs
    cases args.lookup key with
    | none => rfl
    | some value =>
        cases given : value.truthy with
        | false => simp [given]
        | true => cases parsed : coercions.float value <;> simp [given, parsed]
  rw [read, read, same]

theorem createHostRunner_reads
    (same : readings coercions "create_host" args = readings coercions "create_host" other) :
    createHostRunner world tid args = createHostRunner world tid other := by
  have text := text_of_readings same
  have port : ∀ default, portOr default 22 (args.get "port") = portOr default 22 (other.get "port") :=
    fun default => port_of_read (read_of_readings "port" .port same (by decide))
  have credential : idOrNone (args.get "credential_id") = idOrNone (other.get "credential_id") :=
    Reading.id.inj (read_of_readings "credential_id" .id same (by decide))
  have jump : idOrNone (args.get "jump_host_id") = idOrNone (other.get "jump_host_id") :=
    Reading.id.inj (read_of_readings "jump_host_id" .id same (by decide))
  have box : (args.get "is_jumpbox").truthy = (other.get "is_jumpbox").truthy :=
    Reading.flag.inj (read_of_readings "is_jumpbox" .flag same (by decide))
  unfold createHostRunner
  rw [text "name" (by decide), text "hostname" (by decide), text "protocol" (by decide),
    text "description" (by decide), text "tags" (by decide), credential, jump, box]
  simp only [port]

theorem describe_of_read {current : Option String}
    (same : readAs coercions .description (args.lookup "description") =
      readAs coercions .description (other.lookup "description")) :
    describe current args = describe current other := by
  have read : ∀ args : Args, describe current args =
      match readAs coercions .description (args.lookup "description") with
      | .text value => .ok (if value = "" then none else some value)
      | .value value => if value.truthy then value.columnText else .ok none
      | _ => .ok (current.bind orNone) := by
    intro args
    unfold describe readAs
    cases args.lookup "description" with
    | none => rfl
    | some value => cases value <;> rfl
  rw [read, read, same]

theorem idOr_of_read {current : Option Int}
    (same : readAs coercions .idGiven (args.lookup key) = readAs coercions .idGiven (other.lookup key)) :
    idOr current (args.get key) = idOr current (other.get key) := by
  have read : ∀ value : Value, idOr current value = (idOr none value).or current := by
    intro value
    cases value with
    | none => rfl
    | bool _ | int _ | float _ _ _ | str _ | container _ _ _ =>
        simp only [idOr]
        split <;> rfl
  rw [read, read (other.get key)]
  exact congrArg (Option.or · current) (Reading.id.inj same)

theorem flag_of_read
    (same : readAs coercions .flagGiven (args.lookup key) = readAs coercions .flagGiven (other.lookup key)) :
    (args.lookup key = none ∧ other.lookup key = none) ∨
      ∃ left right, args.lookup key = some left ∧ other.lookup key = some right ∧
        left.truthy = right.truthy := by
  unfold readAs at same
  cases here : args.lookup key with
  | none =>
      cases there : other.lookup key with
      | none => exact .inl ⟨rfl, rfl⟩
      | some right => simp [here, there] at same
  | some left =>
      cases there : other.lookup key with
      | none => simp [here, there] at same
      | some right =>
          simp only [here, there, Option.elim_some, Reading.flag.injEq] at same
          exact .inr ⟨left, right, rfl, rfl, same⟩

theorem updateHostRunner_reads
    (same : readings coercions "update_host" args = readings coercions "update_host" other) :
    updateHostRunner world tid args = updateHostRunner world tid other := by
  have text := text_of_readings same
  have port : ∀ current, portOr current current (args.get "port") =
      portOr current current (other.get "port") := by
    intro current
    have read : ∀ value : Value, portOr current current value = (idOrNone value).getD current := by
      intro value
      unfold portOr idOrNone
      split <;> rfl
    rw [read, read (other.get "port")]
    exact congrArg (Option.getD · current)
      (Reading.id.inj (read_of_readings "port" .id same (by decide)))
  have described : ∀ current, describe current args = describe current other :=
    fun current => describe_of_read (read_of_readings "description" .description same (by decide))
  have credential : ∀ current, idOr current (args.get "credential_id") =
      idOr current (other.get "credential_id") :=
    fun current => idOr_of_read (read_of_readings "credential_id" .idGiven same (by decide))
  have jump : ∀ current, idOr current (args.get "jump_host_id") = idOr current (other.get "jump_host_id") :=
    fun current => idOr_of_read (read_of_readings "jump_host_id" .idGiven same (by decide))
  have shown : readAs coercions .flagGiven (args.lookup "is_jumpbox") =
      readAs coercions .flagGiven (other.lookup "is_jumpbox") := read_of_readings _ _ same (by decide)
  unfold updateHostRunner
  rw [text "name" (by decide)]
  simp only [text "protocol" (by decide), text "hostname" (by decide), text "tags" (by decide),
    port, described, credential, jump]
  rcases flag_of_read shown with ⟨here, there⟩ | ⟨left, right, here, there, equal⟩
  · simp only [here, there]
  · simp only [here, there, equal]

def givenOr {α : Type} (current : α) (decode : Value → α) : Value → α
  | .none => current
  | value => decode value

theorem given_of_read {α : Type} {current : α} {decode : Value → α} {wrap : α → Reading Seconds}
    {left right : Value} (injective : Function.Injective wrap) (present : ∀ decoded, wrap decoded ≠ .absent)
    (same : ifGiven (wrap ∘ decode) left = ifGiven (wrap ∘ decode) right) :
    givenOr current decode left = givenOr current decode right := by
  cases left with
  | none =>
      cases right with
      | none => rfl
      | bool _ | int _ | float _ _ _ | str _ | container _ _ _ => exact absurd same.symm (present _)
  | bool _ | int _ | float _ _ _ | str _ | container _ _ _ =>
      cases right with
      | none => exact absurd same (present _)
      | bool _ | int _ | float _ _ _ | str _ | container _ _ _ => exact injective same

theorem createPipelineRunner_reads {providers : List (String × (String → Except String String))}
    (same : readings coercions "create_pipeline" args = readings coercions "create_pipeline" other) :
    createPipelineRunner (coercions.adapters providers) world tid args =
      createPipelineRunner (coercions.adapters providers) world tid other := by
  have text := text_of_readings same
  have config : coercions.decodeConfig (args.get "config") = coercions.decodeConfig (other.get "config") :=
    Reading.config.inj (read_of_readings "config" .config same (by decide))
  have inputs : coercions.decodeInputs (args.get "inputs_schema") =
      coercions.decodeInputs (other.get "inputs_schema") :=
    Reading.inputsSchema.inj (read_of_readings "inputs_schema" .schema same (by decide))
  have credential : idOrNone (args.get "credential_id") = idOrNone (other.get "credential_id") :=
    Reading.id.inj (read_of_readings "credential_id" .id same (by decide))
  unfold createPipelineRunner Coercions.adapters
  simp only [text "name" (by decide), text "provider" (by decide), text "description" (by decide),
    config, inputs, credential]

theorem updatePipelineRunner_reads {providers : List (String × (String → Except String String))}
    (same : readings coercions "update_pipeline" args = readings coercions "update_pipeline" other) :
    updatePipelineRunner (coercions.adapters providers) world tid args =
      updatePipelineRunner (coercions.adapters providers) world tid other := by
  have text := text_of_readings same
  have shownConfig : readAs coercions .configGiven (args.lookup "config") =
      readAs coercions .configGiven (other.lookup "config") := read_of_readings _ _ same (by decide)
  have shownInputs : readAs coercions .schemaGiven (args.lookup "inputs_schema") =
      readAs coercions .schemaGiven (other.lookup "inputs_schema") := read_of_readings _ _ same (by decide)
  have config : ∀ current, givenOr current coercions.decodeConfig (args.get "config") =
      givenOr current coercions.decodeConfig (other.get "config") :=
    fun current => given_of_read (fun _ _ => Reading.config.inj) (by simp) shownConfig
  have inputs : ∀ current, givenOr current coercions.decodeInputs (args.get "inputs_schema") =
      givenOr current coercions.decodeInputs (other.get "inputs_schema") :=
    fun current => given_of_read (fun _ _ => Reading.inputsSchema.inj) (by simp) shownInputs
  have credential : ∀ current, idOr current (args.get "credential_id") =
      idOr current (other.get "credential_id") :=
    fun current => idOr_of_read (read_of_readings "credential_id" .idGiven same (by decide))
  have described : ∀ current, describe current args = describe current other :=
    fun current => describe_of_read (read_of_readings "description" .description same (by decide))
  unfold updatePipelineRunner
  rw [text "name" (by decide)]
  refine congrArg (Run.withText world _) (funext fun name => ?_)
  by_cases blank : name = ""
  · rw [if_pos blank, if_pos blank]
  rw [if_neg blank, if_neg blank]
  cases pipelineNamed world.db tid name with
  | error raised => rfl
  | ok found =>
      cases found with
      | none => rfl
      | some pipeline =>
          simp only [text "provider" (by decide)]
          cases other.text "provider" pipeline.provider with
          | error raised => rfl
          | ok provider =>
              simp only [described, credential]
              by_cases registered : provider ∉ Pipelines.listProviders (coercions.adapters providers)
              · rw [if_pos registered, if_pos registered]
              rw [if_neg registered, if_neg registered]
              congr 1
              · exact config (.ok pipeline.config)
              · funext decoded
                cases describe pipeline.description other with
                | error raised => rfl
                | ok description =>
                    dsimp only
                    congr 1
                    exact congrArg (fun inputsSchema => Pipelines.updatePipeline (coercions.adapters providers)
                      world.db pipeline { name, provider, description, config := decoded, inputsSchema,
                                          credentialId := idOr pipeline.credentialId (other.get "credential_id") })
                      (inputs pipeline.inputsSchema)

theorem createCredentialRunner_reads {backendUp : Bool}
    (same : readings coercions "create_credential" args = readings coercions "create_credential" other) :
    createCredentialRunner world tid args backendUp = createCredentialRunner world tid other backendUp := by
  have text := text_of_readings same
  have given : credentialArgs args = credentialArgs other := by
    unfold credentialArgs
    simp only [text "name" (by decide), text "kind" (by decide), text "username" (by decide),
      text "domain" (by decide), text "secret_value" (by decide)]
  rw [createCredentialRunner, given, createCredentialRunner]

theorem updateCredentialRunner_reads {backendUp : Bool}
    (same : readings coercions "update_credential" args = readings coercions "update_credential" other) :
    updateCredentialRunner world tid args backendUp = updateCredentialRunner world tid other backendUp := by
  have text := text_of_readings same
  have column : ∀ key, (key, Reader.givenText) ∈ runnerReads "update_credential" →
      ∀ current, replaced (args.get key) current = replaced (other.get key) current :=
    fun key listed current => replaced_of_read (read_of_readings key .givenText same listed)
  unfold updateCredentialRunner
  simp only [text "name" (by decide), text "secret_value" (by decide), column "username" (by decide),
    column "domain" (by decide)]

theorem deleteCredentialRunner_reads {backendUp : Bool}
    (same : readings coercions "delete_credential" args = readings coercions "delete_credential" other) :
    deleteCredentialRunner world tid args backendUp = deleteCredentialRunner world tid other backendUp := by
  unfold deleteCredentialRunner
  rw [text_of_readings same "name" (by decide)]

theorem sshExecHost_reads {conversions : Conversions} {db : Database}
    (floats : ∀ value, conversions.isFloat value = (coercions.float value).isSome)
    (same : readings coercions "ssh_exec" args = readings coercions "ssh_exec" other) :
    sshExecHost conversions db tid args = sshExecHost conversions db tid other := by
  have raw : ∀ key, (key, Reader.raw) ∈ runnerReads "ssh_exec" → args.get key = other.get key :=
    fun key listed => Reading.value.inj (read_of_readings key .raw same listed)
  have bad : ((args.get "timeout").truthy && !conversions.isFloat (args.get "timeout")) =
      ((other.get "timeout").truthy && !conversions.isFloat (other.get "timeout")) := by
    rw [floats, floats]
    exact seconds_of_read (read_of_readings "timeout" .seconds same (by decide))
  have timeout : readsTimeout conversions args = readsTimeout conversions other := by
    have flipped := congrArg Bool.not bad
    simpa only [readsTimeout, Bool.not_and, Bool.not_not] using flipped
  have target : sshTarget db tid args = sshTarget db tid other := by
    unfold sshTarget findHost
    rw [raw "host_id" (by decide), raw "host" (by decide)]
  unfold sshExecHost
  simp only [text_of_readings same "command" (by decide), timeout, target]

end Runners

end Dosm.Agent
