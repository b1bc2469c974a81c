import Dosm.Agent.Credentials
import Dosm.Agent.Inventory
import Dosm.Agent.MonitoringSources
import Dosm.Hosts.Names
import Mathlib.Data.List.Dedup

namespace Dosm.Agent

open Models Python Web Credentials Monitoring Checks

/-! What an update of the agent does to the columns that its arguments do not mention.

A credential and a monitoring source are changed column by column. A host and a pipeline
are written anew, and what the agent does not pass on is cleared.
-/

def Unmentioned (args : Args) (key : String) : Prop := args.lookup key = none

def Accepted (reported : Except Raised ActionResult) : Prop := ∃ result, reported = .ok result ∧ result.ok = true

def tagsOf (db : Database) (host : Int) : List HostTag := db.hostTags.filter (·.hostId = host)

/-- Each column of the row after is the one before, unless the arguments have a key for it. -/
structure HostKept (args : Args) (before after : Database) (host row : Host) : Prop where
  place : row.id = host.id ∧ row.tenantId = host.tenantId
  name : Unmentioned args "name" → row.name = host.name
  hostname : Unmentioned args "hostname" → row.hostname = host.hostname
  port : Unmentioned args "port" → row.port = host.port
  protocol : Unmentioned args "protocol" → row.protocol = host.protocol
  description : Unmentioned args "description" → row.description = host.description
  credential : Unmentioned args "credential_id" → row.credentialId = host.credentialId
  jump : Unmentioned args "jump_host_id" → row.jumpHostId = host.jumpHostId
  jumpbox : Unmentioned args "is_jumpbox" → row.isJumpbox = host.isJumpbox
  ftMethod : Unmentioned args "ft_method" → row.ftMethod = host.ftMethod
  ftPort : Unmentioned args "ft_port" → row.ftPort = host.ftPort
  ftCredential : Unmentioned args "ft_credential_id" → row.ftCredentialId = host.ftCredentialId
  orgUnit : Unmentioned args "org_unit_id" → row.orgUnitId = host.orgUnitId
  tags : Unmentioned args "tags" → tagsOf after host.id = tagsOf before host.id

structure PipelineKept (args : Args) (pipeline row : Pipeline) : Prop where
  place : row.id = pipeline.id ∧ row.tenantId = pipeline.tenantId
  name : Unmentioned args "name" → row.name = pipeline.name
  provider : Unmentioned args "provider" → row.provider = pipeline.provider
  description : Unmentioned args "description" → row.description = pipeline.description
  config : Unmentioned args "config" → row.config = pipeline.config
  inputsSchema : Unmentioned args "inputs_schema" → row.inputsSchema = pipeline.inputsSchema
  credential : Unmentioned args "credential_id" → row.credentialId = pipeline.credentialId
  owner : Unmentioned args "owner_id" → row.ownerId = pipeline.ownerId
  visibility : Unmentioned args "visibility" → row.visibility = pipeline.visibility
  orgUnit : Unmentioned args "org_unit_id" → row.orgUnitId = pipeline.orgUnitId

structure CredentialKept (args : Args) (cred row : Credential) : Prop where
  place : row.id = cred.id ∧ row.tenantId = cred.tenantId
  name : Unmentioned args "name" → row.name = cred.name
  kind : Unmentioned args "kind" → row.kind = cred.kind
  username : Unmentioned args "username" → row.username = cred.username
  domain : Unmentioned args "domain" → row.domain = cred.domain
  secretRef : row.secretRef = cred.secretRef
  owner : Unmentioned args "owner_id" → row.ownerId = cred.ownerId
  visibility : Unmentioned args "visibility" → row.visibility = cred.visibility
  orgUnit : Unmentioned args "org_unit_id" → row.orgUnitId = cred.orgUnitId

structure SourceKept (args : Args) (source row : MonitoringSource) : Prop where
  place : row.id = source.id ∧ row.tenantId = source.tenantId
  name : Unmentioned args "name" → row.name = source.name
  tool : Unmentioned args "tool" → row.tool = source.tool
  url : Unmentioned args "url" → row.url = source.url
  username : Unmentioned args "username" → row.username = source.username
  token : Unmentioned args "token" → row.tokenSecret = source.tokenSecret
  token2 : Unmentioned args "token2" → row.token2Secret = source.token2Secret
  enabled : Unmentioned args "enabled" → row.enabled = source.enabled

/-- Whether the host is a jump box after the update. -/
def flagged (args : Args) (host : Host) : Bool :=
  match args.lookup "is_jumpbox" with
  | some value => value.truthy
  | none => host.isJumpbox

/-- What is not mentioned and not passed on is empty before; texts have no blanks around them, and a jump box jumps over
no other. -/
structure HostSettled (args : Args) (db : Database) (host : Host) : Prop where
  hostname : Unmentioned args "hostname" → strip host.hostname = host.hostname
  description : Unmentioned args "description" → host.description.bind orNone = host.description
  jump : Unmentioned args "jump_host_id" → flagged args host = true → host.jumpHostId = none
  ftMethod : Unmentioned args "ft_method" → host.ftMethod = none
  ftPort : Unmentioned args "ft_port" → host.ftPort = none
  ftCredential : Unmentioned args "ft_credential_id" → host.ftCredentialId = none
  orgUnit : Unmentioned args "org_unit_id" → host.orgUnitId = none
  tags : Unmentioned args "tags" → tagsOf db host.id = []

/-- The provider that an update settles on. -/
def providerAfter (args : Args) (pipeline : Pipeline) : String :=
  match args.text "provider" pipeline.provider with
  | .ok provider => provider
  | .error _ => pipeline.provider

/-- The pipeline is in no unit, and the adapter takes the configuration as it is. -/
structure PipelineSettled (adapters : Pipelines.Adapters) (args : Args) (pipeline : Pipeline) : Prop where
  provider : Unmentioned args "provider" → strip pipeline.provider = pipeline.provider
  description : Unmentioned args "description" → pipeline.description.bind orNone = pipeline.description
  config : Unmentioned args "config" →
    Pipelines.validateConfig adapters (providerAfter args pipeline) pipeline.config = .ok pipeline.config
  orgUnit : Unmentioned args "org_unit_id" → pipeline.orgUnitId = none

section Reading

variable {args : Args} {key text : String}

theorem get_unmentioned (absent : Unmentioned args key) : args.get key = .none := by
  rw [Args.get, absent]
  rfl

theorem text_unmentioned (absent : Unmentioned args key) : args.text key text = .ok (strip text) := by
  rw [Args.text, get_unmentioned absent]
  rfl

theorem text_nonempty (named : args.text key = .ok text) (filled : text ≠ "") : ¬Unmentioned args key := by
  intro absent
  rw [text_unmentioned absent] at named
  exact filled (Except.ok.inj named).symm

theorem describe_unmentioned {current : Option String} (absent : Unmentioned args "description") :
    describe current args = .ok (current.bind orNone) := by
  rw [describe, absent]

theorem not_accepted_raised {raised : Raised} : ¬Accepted (.error raised) := fun ⟨_, same, _⟩ => by cases same

theorem not_accepted_refused {summary stderr : String} {world : World} :
    ¬Accepted (Run.refuse world summary stderr).reported := by
  rintro ⟨result, ⟨⟩, taken⟩
  cases taken

end Reading

/-! Hosts. -/

section HostUpdates

variable {world : World} {tid : Option Int} {args : Args} {name : String} {host : Host} {db after : Database}
  {given : Hosts.HostArgs} {draft : Host} {self : Option Int} {tenant : Int} {unflag : Except Hosts.HostError Unit}

theorem validateOrgUnit_same {reference found : Option Int} (valid : Hosts.validateOrgUnit db reference tenant = .ok found) :
    found = reference := by
  unfold Hosts.validateOrgUnit at valid
  split at valid
  · cases valid
    rfl
  · split at valid
    · cases valid
      rfl
    · cases valid

theorem validateCredential_same {reference found : Option Int}
    (valid : Hosts.validateCredential db reference tenant = .ok found) : found = reference := by
  unfold Hosts.validateCredential at valid
  split at valid
  · cases valid
    rfl
  · split at valid
    · cases valid
      rfl
    · cases valid

def plainRow (given : Hosts.HostArgs) (id tenantId : Int) (protocol : Protocol) : Host where
  id
  tenantId
  name := given.name
  hostname := given.hostname
  port := given.port
  protocol
  description := if given.description = some "" then none else given.description
  credentialId := given.credentialId
  jumpHostId := if given.isJumpbox then none else given.jumpHostId
  isJumpbox := given.isJumpbox
  ftMethod := none
  ftPort := none
  ftCredentialId := none
  orgUnitId := given.orgUnitId

theorem validateHost_plain (plain : given.ftMethod = none)
    (valid : Hosts.validateHost db tenant self given unflag = .ok draft) :
    ∃ protocol, Hosts.validateProtocol given.protocol = .ok protocol ∧ draft = plainRow given (self.getD 0) tenant protocol := by
  obtain ⟨protocol, known, valid⟩ := bind_ok valid
  obtain ⟨ftMethod, transfer, valid⟩ := bind_ok valid
  obtain ⟨orgUnitId, placed, valid⟩ := bind_ok valid
  obtain ⟨credentialId, owned, valid⟩ := bind_ok valid
  obtain ⟨ftCredentialId, ftOwned, valid⟩ := bind_ok valid
  obtain ⟨_, _, valid⟩ := bind_ok valid
  obtain ⟨_, _, built⟩ := bind_ok valid
  have absent : ftMethod = none := by
    rw [plain, show Hosts.validateFt none = .ok none by decide] at transfer
    exact (Except.ok.inj transfer).symm
  subst absent
  rw [if_pos rfl] at ftOwned
  cases validateOrgUnit_same placed
  cases validateCredential_same owned
  cases validateCredential_same ftOwned
  cases built
  exact ⟨protocol, known, rfl⟩

theorem updateHost_plain (member : host ∈ db.hosts.rows) (plain : given.ftMethod = none)
    (updated : Hosts.updateHost db host given = .ok after) :
    ∃ protocol, Hosts.validateProtocol given.protocol = .ok protocol ∧
      after.hosts.get host.id = some (plainRow given host.id host.tenantId protocol) ∧
      (Hosts.normalizeTags given.tagsCsv = [] → tagsOf after host.id = []) := by
  obtain ⟨draft, valid, updated⟩ := bind_ok updated
  obtain ⟨protocol, known, rfl⟩ := validateHost_plain plain valid
  split at updated
  · cases updated
  · cases updated
    refine ⟨protocol, known, ?_, fun none => ?_⟩
    · have found : db.hosts.get host.id = some host := Table.get_key member
      rw [Hosts.tags_hosts, Table.get_modify_self, found]
      rfl
    · rw [none]
      exact List.filter_eq_nil_iff.mpr fun tag member => by simpa using (List.mem_filter.mp member).2

def hostSaved (world : World) (name : String) (saved : Except Hosts.HostError Database) : Run :=
  match saved with
  | .error (.validation message) => .refuse world ("Validation error: " ++ message) message
  | .error (.integrity _) => .raise world .pendingRollback
  | .ok db =>
      ⟨{ world with db }, .ok {
        ok := true
        summary := "Updated host " ++ Python.repr name
        extra := [("host", .str name)] }⟩

def passedOn (args : Args) (host : Host) (name protocol hostname tagsCsv : String) (description : Option String) :
    Hosts.HostArgs where
  name
  hostname
  port := portOr host.port host.port (args.get "port")
  protocol
  description
  credentialId := idOr host.credentialId (args.get "credential_id")
  jumpHostId := idOr host.jumpHostId (args.get "jump_host_id")
  tagsCsv
  isJumpbox := flagged args host

theorem updateHostRunner_found (named : args.text "name" = .ok name) (filled : name ≠ "")
    (found : hostNamed world.db tid name = .ok (some host)) :
    updateHostRunner world tid args =
      .withText world (args.text "protocol" host.protocol.name) fun protocol =>
      .withText world (args.text "hostname" host.hostname) fun hostname =>
      .withText world (args.text "tags") fun tagsCsv =>
      match describe host.description args with
      | .error raised => .raise world raised
      | .ok description =>
          hostSaved world name (Hosts.updateHost world.db host (passedOn args host name protocol hostname tagsCsv description)) := by
  unfold updateHostRunner
  rw [named]
  change (if name = "" then _ else _) = _
  rw [if_neg filled, found]
  obtain ⟨id, tenantId, name, hostname, port, protocol, description⟩ := host
  cases protocol <;> rfl

theorem updateHostRunner_cases (named : args.text "name" = .ok name) (filled : name ≠ "")
    (found : hostNamed world.db tid name = .ok (some host)) :
    (¬Accepted (updateHostRunner world tid args).reported ∧ (updateHostRunner world tid args).world = world) ∨
      ∃ protocol hostname tagsCsv description db,
        args.text "protocol" host.protocol.name = .ok protocol ∧ args.text "hostname" host.hostname = .ok hostname ∧
        args.text "tags" = .ok tagsCsv ∧ describe host.description args = .ok description ∧
        Hosts.updateHost world.db host (passedOn args host name protocol hostname tagsCsv description) = .ok db ∧
        (updateHostRunner world tid args).world = { world with db } ∧ Accepted (updateHostRunner world tid args).reported := by
  rw [updateHostRunner_found named filled found]
  cases args.text "protocol" host.protocol.name with
  | error raised => exact .inl ⟨not_accepted_raised, rfl⟩
  | ok protocol =>
      cases args.text "hostname" host.hostname with
      | error raised => exact .inl ⟨not_accepted_raised, rfl⟩
      | ok hostname =>
          cases args.text "tags" with
          | error raised => exact .inl ⟨not_accepted_raised, rfl⟩
          | ok tagsCsv =>
              cases describe host.description args with
              | error raised => exact .inl ⟨not_accepted_raised, rfl⟩
              | ok description =>
                  dsimp only [Run.withText]
                  cases saved : Hosts.updateHost world.db host
                    (passedOn args host name protocol hostname tagsCsv description) with
                  | error error =>
                      cases error with
                      | validation message => exact .inl ⟨not_accepted_refused, rfl⟩
                      | integrity message => exact .inl ⟨not_accepted_raised, rfl⟩
                  | ok db => exact .inr ⟨protocol, hostname, tagsCsv, description, db, rfl, rfl, rfl, rfl, saved, rfl, _, rfl, rfl⟩

theorem validateProtocol_name {protocol : Protocol} : Hosts.validateProtocol (strip protocol.name) = .ok protocol := by
  cases protocol <;> decide

theorem orNone_ne_empty {text : String} : orNone text ≠ some "" := by
  unfold orNone
  dsimp only
  split
  next => nofun
  next filled =>
    intro same
    exact filled (Option.some.inj same)

/-- An accepted update keeps the columns that are not mentioned exactly when those that are not passed on are empty. -/
theorem updateHostRunner_kept (named : args.text "name" = .ok name) (found : hostNamed world.db tid name = .ok (some host))
    (filled : name ≠ "") (accepted : Accepted (updateHostRunner world tid args).reported) :
    (∃ row, (updateHostRunner world tid args).world.db.hosts.get host.id = some row ∧
      HostKept args world.db (updateHostRunner world tid args).world.db host row) ↔ HostSettled args world.db host := by
  obtain ⟨member, chosen⟩ := selected_member found
  have sameName : host.name = name := by
    simp only [Bool.and_eq_true, decide_eq_true_eq] at chosen
    exact chosen.2
  rcases updateHostRunner_cases named filled found with ⟨refused, -⟩ | ⟨protocol, hostname, tagsCsv, description, db, protocolRead,
    hostnameRead, tagsRead, described, updated, after, -⟩
  · exact absurd accepted refused
  obtain ⟨kind, known, stored, cleared⟩ := updateHost_plain member rfl updated
  rw [after]
  dsimp only
  rw [stored]
  simp only [Option.some.injEq, exists_eq_left']
  have sameKind : Unmentioned args "protocol" → kind = host.protocol := by
    intro absent
    rw [text_unmentioned absent] at protocolRead
    rw [show (passedOn args host name protocol hostname tagsCsv description).protocol = strip host.protocol.name from
      (Except.ok.inj protocolRead).symm, validateProtocol_name] at known
    exact (Except.ok.inj known).symm
  have noTags : Unmentioned args "tags" → tagsOf db host.id = [] := by
    intro absent
    rw [text_unmentioned absent] at tagsRead
    apply cleared
    rw [show (passedOn args host name protocol hostname tagsCsv description).tagsCsv = strip "" from
      (Except.ok.inj tagsRead).symm]
    have blank : ((split ',' (strip "")).map strip).filter (· ≠ "") = [] := by decide
    rw [Hosts.normalizeTags, blank, List.dedup_nil, List.mergeSort_nil]
  have describes : Unmentioned args "description" →
      (if description = some "" then none else description) = host.description.bind orNone := by
    intro absent
    rw [describe_unmentioned absent] at described
    rw [← Except.ok.inj described, if_neg]
    cases host.description with
    | none => nofun
    | some text => exact orNone_ne_empty
  have hostnames : Unmentioned args "hostname" → hostname = strip host.hostname := by
    intro absent
    rw [text_unmentioned absent] at hostnameRead
    exact (Except.ok.inj hostnameRead).symm
  have jumps : Unmentioned args "jump_host_id" → idOr host.jumpHostId (args.get "jump_host_id") = host.jumpHostId := by
    intro absent
    rw [get_unmentioned absent]
    rfl
  constructor
  · intro kept
    exact {
      hostname := fun absent => (hostnames absent).symm.trans (kept.hostname absent)
      description := fun absent => (describes absent).symm.trans (kept.description absent)
      jump := fun absent jumpbox => by
        have same := kept.jump absent
        rw [← same]
        exact if_pos jumpbox
      ftMethod := fun absent => (kept.ftMethod absent).symm
      ftPort := fun absent => (kept.ftPort absent).symm
      ftCredential := fun absent => (kept.ftCredential absent).symm
      orgUnit := fun absent => (kept.orgUnit absent).symm
      tags := fun absent => (kept.tags absent).symm.trans (noTags absent) }
  · intro settled
    exact {
      place := ⟨rfl, rfl⟩
      name := fun _ => sameName.symm
      hostname := fun absent => (hostnames absent).trans (settled.hostname absent)
      port := fun absent => by
        change portOr host.port host.port (args.get "port") = host.port
        rw [get_unmentioned absent]
        rfl
      protocol := sameKind
      description := fun absent => (describes absent).trans (settled.description absent)
      credential := fun absent => by
        change idOr host.credentialId (args.get "credential_id") = host.credentialId
        rw [get_unmentioned absent]
        rfl
      jump := fun absent => by
        change (if flagged args host then none else idOr host.jumpHostId (args.get "jump_host_id")) = host.jumpHostId
        by_cases jumpbox : flagged args host = true
        · rw [if_pos jumpbox, settled.jump absent jumpbox]
        · rw [if_neg jumpbox, jumps absent]
      jumpbox := fun absent => by
        change flagged args host = host.isJumpbox
        rw [flagged, absent]
      ftMethod := fun absent => (settled.ftMethod absent).symm
      ftPort := fun absent => (settled.ftPort absent).symm
      ftCredential := fun absent => (settled.ftCredential absent).symm
      orgUnit := fun absent => (settled.orgUnit absent).symm
      tags := fun absent => (noTags absent).trans (settled.tags absent).symm }

end HostUpdates

/-! Pipelines. -/

section PipelineUpdates

variable {adapters : Pipelines.Adapters} {world : World} {tid : Option Int} {args : Args} {name : String} {pipeline : Pipeline}
  {db after : Database} {given : Pipelines.PipelineArgs}

theorem updatePipeline_fill (member : pipeline ∈ db.pipelines.rows)
    (updated : Pipelines.updatePipeline adapters db pipeline given = .ok after) :
    ∃ config, Pipelines.validateConfig adapters given.provider given.config = .ok config ∧
      after.pipelines.get pipeline.id = some (Pipelines.fill pipeline given config) := by
  obtain ⟨config, valid, updated⟩ := bind_ok updated
  split at updated
  · cases updated
  · cases updated
    have found : db.pipelines.get pipeline.id = some pipeline := Table.get_key member
    have stored := @Table.get_modify_self Pipeline _ db.pipelines pipeline.id (fun row => Pipelines.fill row given config) fun _ => rfl
    refine ⟨config, valid, stored.trans ?_⟩
    rw [found]
    rfl

theorem updatePipelineRunner_cases (named : args.text "name" = .ok name)
    (found : pipelineNamed world.db tid name = .ok (some pipeline)) :
    (¬Accepted (updatePipelineRunner adapters world tid args).reported ∧
        (updatePipelineRunner adapters world tid args).world = world) ∨
      ∃ provider config inputsSchema description db, args.text "provider" pipeline.provider = .ok provider ∧
        (Unmentioned args "config" → config = pipeline.config) ∧
        (Unmentioned args "inputs_schema" → inputsSchema = pipeline.inputsSchema) ∧
        describe pipeline.description args = .ok description ∧
        Pipelines.updatePipeline adapters world.db pipeline {
          name, provider, description, config, inputsSchema
          credentialId := idOr pipeline.credentialId (args.get "credential_id") } = .ok db ∧
        (updatePipelineRunner adapters world tid args).world = { world with db } ∧
        Accepted (updatePipelineRunner adapters world tid args).reported := by
  unfold updatePipelineRunner
  rw [named]
  dsimp only [Run.withText]
  split
  next => exact .inl ⟨not_accepted_refused, rfl⟩
  rw [found]
  dsimp only
  split
  next => exact .inl ⟨not_accepted_refused, rfl⟩
  next provider read =>
    split
    next => exact .inl ⟨not_accepted_refused, rfl⟩
    split
    next => exact .inl ⟨not_accepted_refused, rfl⟩
    next config decoded =>
      split
      next => exact .inl ⟨not_accepted_refused, rfl⟩
      next description described =>
        split
        next => exact .inl ⟨not_accepted_refused, rfl⟩
        next => exact .inl ⟨not_accepted_refused, rfl⟩
        next db updated =>
          refine .inr ⟨provider, config, _, description, db, read, fun absent => ?_, fun absent => ?_, described, updated, rfl,
            _, rfl, rfl⟩
          · rw [get_unmentioned absent] at decoded
            exact (Except.ok.inj decoded).symm
          · rw [get_unmentioned absent]

theorem updatePipelineRunner_kept (named : args.text "name" = .ok name)
    (found : pipelineNamed world.db tid name = .ok (some pipeline)) (filled : name ≠ "")
    (accepted : Accepted (updatePipelineRunner adapters world tid args).reported) :
    (∃ row, (updatePipelineRunner adapters world tid args).world.db.pipelines.get pipeline.id = some row ∧
      PipelineKept args pipeline row) ↔ PipelineSettled adapters args pipeline := by
  have member := (selected_member found).1
  rcases updatePipelineRunner_cases named found with ⟨refused, -⟩ | ⟨provider, config, inputsSchema, description, db, read,
    sameConfig, sameInputs, described, updated, after, -⟩
  · exact absurd accepted refused
  obtain ⟨stored, valid, row⟩ := updatePipeline_fill member updated
  rw [after]
  dsimp only at valid ⊢
  rw [row]
  simp only [Option.some.injEq, exists_eq_left']
  have settledProvider : providerAfter args pipeline = provider := by rw [providerAfter, read]
  have describes : Unmentioned args "description" →
      (if description = some "" then none else description) = pipeline.description.bind orNone := by
    intro absent
    rw [describe_unmentioned absent] at described
    rw [← Except.ok.inj described, if_neg]
    cases pipeline.description with
    | none => nofun
    | some text => exact orNone_ne_empty
  have providers : Unmentioned args "provider" → provider = strip pipeline.provider := by
    intro absent
    rw [text_unmentioned absent] at read
    exact (Except.ok.inj read).symm
  constructor
  · intro kept
    exact {
      provider := fun absent => (providers absent).symm.trans (kept.provider absent)
      description := fun absent => (describes absent).symm.trans (kept.description absent)
      config := fun absent => by
        have same : stored = pipeline.config := kept.config absent
        rw [sameConfig absent] at valid
        rw [settledProvider, valid, same]
      orgUnit := fun absent => (kept.orgUnit absent).symm }
  · intro settled
    exact {
      place := ⟨rfl, rfl⟩
      name := fun absent => absurd absent (text_nonempty named filled)
      provider := fun absent => (providers absent).trans (settled.provider absent)
      description := fun absent => (describes absent).trans (settled.description absent)
      config := fun absent => by
        have same := settled.config absent
        rw [sameConfig absent] at valid
        rw [settledProvider, valid] at same
        exact Except.ok.inj same
      inputsSchema := sameInputs
      credential := fun absent => by
        change idOr pipeline.credentialId (args.get "credential_id") = pipeline.credentialId
        rw [get_unmentioned absent]
        rfl
      owner := fun _ => rfl
      visibility := fun _ => rfl
      orgUnit := fun absent => (settled.orgUnit absent).symm }

end PipelineUpdates

/-! Credentials and monitoring sources. -/

section ColumnUpdates

variable {world : World} {tid : Option Int} {args : Args} {name : String} {cred : Credential} {source : MonitoringSource}
  {state : Sources} {backendUp : Bool} {failure : Option String}

theorem replaced_unmentioned {key : String} {current after : Option String} (absent : Unmentioned args key)
    (read : replaced (args.get key) current = .ok after) : after = current := by
  rw [get_unmentioned absent] at read
  exact (Except.ok.inj read).symm

theorem setSecret_db {path value : String} : (setSecret world backendUp path value).db = world.db := by
  cases backendUp <;> rfl

theorem updateCredentialRunner_kept (found : credentialNamed world.db tid name = .ok (some cred))
    (named : args.text "name" = .ok name) :
    ∃ row, (updateCredentialRunner world tid args backendUp).world.db.credentials.get cred.id = some row ∧
      CredentialKept args cred row := by
  have stored : world.db.credentials.get cred.id = some cred := Table.get_key (credentialNamed_some found)
  have same : CredentialKept args cred cred :=
    ⟨⟨rfl, rfl⟩, fun _ => rfl, fun _ => rfl, fun _ => rfl, fun _ => rfl, rfl, fun _ => rfl, fun _ => rfl, fun _ => rfl⟩
  unfold updateCredentialRunner
  rw [named]
  dsimp only [Run.withText]
  split
  next => exact ⟨cred, stored, same⟩
  split
  next =>
    rw [found]
    dsimp only
    split
    next username domain usernameRead domainRead =>
      have changed := @Table.get_modify_self Credential _ world.db.credentials cred.id
        (fun row => { row with username, domain }) fun _ => rfl
      rw [stored] at changed
      have kept : CredentialKept args cred { cred with username, domain } :=
        { same with
          username := fun absent => replaced_unmentioned absent usernameRead
          domain := fun absent => replaced_unmentioned absent domainRead }
      split
      next => exact ⟨_, changed, kept⟩
      split
      next =>
        refine ⟨_, ?_, kept⟩
        dsimp only
        rw [setSecret_db]
        exact changed
      next => exact ⟨_, changed, kept⟩
    next => exact ⟨cred, stored, same⟩
    next => exact ⟨cred, stored, same⟩
  next => exact ⟨cred, stored, same⟩

theorem SourceKept.note {row : MonitoringSource} {slot : TokenSlot} {path : String} (kept : SourceKept args source row)
    (mentioned : ¬Unmentioned args slot.leaf) : SourceKept args source (slot.note path row) := by
  cases slot with
  | token => exact { kept with token := fun absent => absurd absent mentioned }
  | token2 => exact { kept with token2 := fun absent => absurd absent mentioned }

theorem putToken_kept (slot : TokenSlot) {row : MonitoringSource} {token : String} {after : Sources}
    (stored : state.sources.get source.id = some row) (kept : SourceKept args source row)
    (read : args.text slot.leaf = .ok token) (put : putToken failure slot source token state = .ok after) :
    ∃ row, after.sources.get source.id = some row ∧ SourceKept args source row := by
  unfold putToken at put
  split at put
  next =>
    cases put
    exact ⟨row, stored, kept⟩
  next filled =>
    split at put
    next => cases put
    next =>
      cases put
      dsimp only
      generalize (if (slot.current source).getD "" = "" then tokenPath source.id slot.leaf
        else (slot.current source).getD "") = path
      split
      next => exact ⟨row, stored, kept⟩
      next =>
        have changed := @Table.get_modify_self MonitoringSource _ state.sources source.id (slot.note path) fun _ => rfl
        rw [stored] at changed
        exact ⟨_, changed, kept.note (text_nonempty read filled)⟩

theorem putTokens_kept {row : MonitoringSource} {token token2 : String} (stored : state.sources.get source.id = some row)
    (kept : SourceKept args source row) (read : args.text "token" = .ok token) (read2 : args.text "token2" = .ok token2) :
    ∃ row, (putTokens failure source token token2 state).1.sources.get source.id = some row ∧ SourceKept args source row := by
  unfold putTokens
  cases put : putToken failure .token source token state with
  | error text => exact ⟨row, stored, kept⟩
  | ok first =>
      obtain ⟨row, stored, kept⟩ := putToken_kept .token stored kept read put
      dsimp only
      cases put2 : putToken failure .token2 source token2 first with
      | error text => exact ⟨row, stored, kept⟩
      | ok second => exact putToken_kept .token2 stored kept read2 put2

theorem ifPresent_unmentioned {key : String} {current : Option String} (absent : Unmentioned args key) :
    ifPresent args key current = .ok current := by
  rw [ifPresent, absent]
  rfl

theorem editedSource_kept {edited : MonitoringSource} (read : editedSource args source = .ok (.ok edited)) :
    SourceKept args source (columns edited source) := by
  obtain ⟨tool, toolRead, read⟩ := bind_ok read
  split at read
  · cases read
  obtain ⟨url, urlRead, read⟩ := bind_ok read
  obtain ⟨username, usernameRead, read⟩ := bind_ok read
  cases read
  exact {
    place := ⟨rfl, rfl⟩
    name := fun _ => rfl
    tool := fun absent => by
      rw [ifPresent_unmentioned absent] at toolRead
      cases toolRead
      rfl
    url := fun absent => by
      rw [ifPresent_unmentioned absent] at urlRead
      cases urlRead
      rfl
    username := fun absent => by
      rw [ifPresent_unmentioned absent] at usernameRead
      cases usernameRead
      change (if (args.lookup "username").isSome = true then _ else _) = _
      rw [absent]
      rfl
    token := fun _ => rfl
    token2 := fun _ => rfl
    enabled := fun absent => by
      change ((args.lookup "enabled").map Value.truthy).getD source.enabled = _
      rw [absent]
      rfl }

theorem updateMonitoringSourceRunner_kept (named : args.text "name" = .ok name)
    (found : scalarOneOrNone (state.sources.rows.filter fun row => inTenant tid row.tenantId && row.name = name) =
      .ok (some source)) :
    ∃ row, (updateMonitoringSourceRunner state tid args failure).state.sources.get source.id = some row ∧
      SourceKept args source row := by
  have stored : state.sources.get source.id = some source := Table.get_key (selected_member found).1
  have same : SourceKept args source source :=
    ⟨⟨rfl, rfl⟩, fun _ => rfl, fun _ => rfl, fun _ => rfl, fun _ => rfl, fun _ => rfl, fun _ => rfl, fun _ => rfl⟩
  unfold updateMonitoringSourceRunner
  rw [named]
  dsimp only [SourcesRun.withText]
  split
  next => exact ⟨source, stored, same⟩
  rw [found]
  dsimp only
  split
  next => exact ⟨source, stored, same⟩
  next => exact ⟨source, stored, same⟩
  next edited read =>
    have changed := @Table.get_modify_self MonitoringSource _ state.sources source.id (columns edited) fun _ => rfl
    rw [stored] at changed
    have kept := editedSource_kept read
    split
    next token token2 tokenRead token2Read => exact putTokens_kept changed kept tokenRead token2Read
    next => exact ⟨_, changed, kept⟩
    next => exact ⟨_, changed, kept⟩

end ColumnUpdates

/-- A refused update of a host or a pipeline changes nothing, and an accepted one keeps what is not mentioned exactly when
the row is settled. A credential and a monitoring source are kept always. -/
theorem updates_keep_iff (adapters : Pipelines.Adapters) (world : World) (state : Sources) (tid : Option Int) (args : Args)
    (backendUp : Bool) (failure : Option String) (name : String) (named : args.text "name" = .ok name) (filled : name ≠ "") :
    (∀ host, hostNamed world.db tid name = .ok (some host) →
      (¬Accepted (updateHostRunner world tid args).reported → (updateHostRunner world tid args).world = world) ∧
      (Accepted (updateHostRunner world tid args).reported →
        ((∃ row, (updateHostRunner world tid args).world.db.hosts.get host.id = some row ∧
          HostKept args world.db (updateHostRunner world tid args).world.db host row) ↔ HostSettled args world.db host))) ∧
    (∀ pipeline, pipelineNamed world.db tid name = .ok (some pipeline) →
      (¬Accepted (updatePipelineRunner adapters world tid args).reported →
        (updatePipelineRunner adapters world tid args).world = world) ∧
      (Accepted (updatePipelineRunner adapters world tid args).reported →
        ((∃ row, (updatePipelineRunner adapters world tid args).world.db.pipelines.get pipeline.id = some row ∧
          PipelineKept args pipeline row) ↔ PipelineSettled adapters args pipeline))) ∧
    (∀ cred, credentialNamed world.db tid name = .ok (some cred) →
      ∃ row, (updateCredentialRunner world tid args backendUp).world.db.credentials.get cred.id = some row ∧
        CredentialKept args cred row) ∧
    ∀ source, scalarOneOrNone (state.sources.rows.filter fun row => inTenant tid row.tenantId && row.name = name) =
        .ok (some source) →
      ∃ row, (updateMonitoringSourceRunner state tid args failure).state.sources.get source.id = some row ∧
        SourceKept args source row := by
  refine ⟨fun host found => ⟨fun refused => ?_, updateHostRunner_kept named found filled⟩,
    fun pipeline found => ⟨fun refused => ?_, updatePipelineRunner_kept named found filled⟩,
    fun cred found => updateCredentialRunner_kept found named, fun source found => updateMonitoringSourceRunner_kept named found⟩
  · rcases updateHostRunner_cases named filled found with ⟨-, same⟩ | ⟨_, _, _, _, _, _, _, _, _, _, _, accepted⟩
    · exact same
    · exact absurd accepted refused
  · rcases updatePipelineRunner_cases named found with ⟨-, same⟩ | ⟨_, _, _, _, _, _, _, _, _, _, _, accepted⟩
    · exact same
    · exact absurd accepted refused

def acmeOffice : Database where
  tenants := Table.empty.insert (fun id => { id, name := "Acme", slug := "acme" }) (Tenant.keyed _ _)

def bareHost : Host where
  id := 1
  tenantId := 1
  name := "web"
  hostname := "10.0.0.1"
  port := 22
  protocol := .ssh
  description := none
  credentialId := none
  jumpHostId := none
  isJumpbox := false
  ftMethod := none
  ftPort := none
  ftCredentialId := none
  orgUnitId := none

def bareWorld : World where
  db := { acmeOffice with hosts := Table.empty.insert fun id => { bareHost with id } }
  secrets := ∅

def portArgs : Args := [("name", .str "web"), ("port", .int 2222)]

theorem bare_host_kept :
    ∃ row, (updateHostRunner bareWorld (some 1) portArgs).world.db.hosts.get 1 = some row ∧
      HostKept portArgs bareWorld.db (updateHostRunner bareWorld (some 1) portArgs).world.db bareHost row := by
  have accepted : Accepted (updateHostRunner bareWorld (some 1) portArgs).reported := ⟨_, rfl, rfl⟩
  have settled : HostSettled portArgs bareWorld.db bareHost :=
    ⟨fun _ => by decide, fun _ => rfl, fun _ _ => rfl, fun _ => rfl, fun _ => rfl, fun _ => rfl, fun _ => rfl, fun _ => rfl⟩
  exact (((updates_keep_iff ⟨[], fun _ => .ok "", fun _ => none⟩ bareWorld ⟨.empty, ∅⟩ (some 1) portArgs true none "web"
    (by decide) (by decide)).1 bareHost (by decide)).2 accepted).mpr settled

def placedHost : Host := { bareHost with ftMethod := some .sftp, ftPort := some 22, orgUnitId := some 1 }

def placedWorld : World where
  db := { acmeOffice with
    orgUnits := Table.empty.insert fun id => { id, tenantId := 1, name := "Shop", slug := "shop", tier := .application, parentId := none }
    hosts := Table.empty.insert fun id => { placedHost with id }
    tags := Table.empty.insert fun id => { id, tenantId := 1, name := "prod" }
    hostTags := [⟨1, 1⟩] }
  secrets := ∅

/-- A new port takes the host out of its unit, and its tags and its file transfer go with it. -/
theorem port_change_clears_host :
    Accepted (updateHostRunner placedWorld (some 1) portArgs).reported ∧
      ((updateHostRunner placedWorld (some 1) portArgs).world.db.hosts.get 1).map
        (fun row => (row.port, row.orgUnitId, row.ftMethod)) = some (2222, none, none) ∧
      ¬∃ row, (updateHostRunner placedWorld (some 1) portArgs).world.db.hosts.get 1 = some row ∧
        HostKept portArgs placedWorld.db (updateHostRunner placedWorld (some 1) portArgs).world.db placedHost row := by
  have accepted : Accepted (updateHostRunner placedWorld (some 1) portArgs).reported := ⟨_, rfl, rfl⟩
  refine ⟨accepted, by decide +kernel, ?_⟩
  rintro ⟨row, stored, kept⟩
  have settled := (@updateHostRunner_kept placedWorld (some 1) portArgs "web" placedHost (by decide) (by decide) (by decide)
    accepted).mp ⟨row, stored, kept⟩
  cases settled.orgUnit rfl

end Dosm.Agent
