import Dosm.Agent.SshExec
import Dosm.Ftp.Backends
import Dosm.Guacamole.Connect
import Dosm.Network.Routes

namespace Dosm.Credentials

open Models Python Web Jumps

/-! The paths, besides the browser session and file transfer, that open a
connection with a host's credentials: metrics, the port checker, a network scan and
the agent's tools. They are followed up to the call that opens the connection.
-/

inductive MetricsSource where
  | dosm
  | ssh (username password privateKey : Option String)
  | winrm (username password : String)

/-- The metrics read the shared secret, also of a per-user credential. -/
def metricsSecret (env : Environment) (cred : Credential) : Except ConnectFailure String :=
  match getStr env cred.secretRef with
  | .error (.secretNotFound _) =>
      .error (.metrics ("credential " ++ Python.repr cred.name ++ " secret_ref " ++
        Python.repr cred.secretRef ++ " missing"))
  | outcome => outcome

def winrmSource (cred : Credential) (secret : String) : Except ConnectFailure MetricsSource :=
  if cred.username.getD "" = "" then
    .error (.metrics ("credential " ++ Python.repr cred.name ++ " has no username; WinRM needs one"))
  else .ok (.winrm (cred.username.getD "") secret)

def makeSourceForHost (env : Environment) (host : Host) : Connecting MetricsSource :=
  match host.protocol, env.credentialOf host with
  | .ssh, none => return .ssh none none none
  | .ssh, some cred => do
      let secret ← onRecord (some cred) (metricsSecret env cred)
      return .ssh cred.username (if cred.kind = .sshKey then none else some secret)
        (if cred.kind = .sshKey then some secret else none)
  | .rdp, none =>
      Logged.raise (.metrics ("host " ++ Python.repr host.name ++
        " (RDP) has no bound credential for WinRM"))
  | .rdp, some cred => do
      let secret ← onRecord (some cred) (metricsSecret env cred)
      Logged.call (winrmSource cred secret)
  | .vnc, _ => Logged.raise (.metrics "no metrics source for protocol 'vnc'")

/-- The websocket still answers, from DOSM itself, when a source cannot be made. -/
def sourceFailed : ConnectFailure → Option (Connecting MetricsSource)
  | .metrics _ => some (return .dosm)
  | _ => none

def metricsHost (env : Environment) (tid : Option Int) (hostId : Int) : Except ConnectFailure Host :=
  match getScoped env.db.hosts hostId tid with
  | none => .error (.closed 4404)
  | some host => .ok host

def metricsWs (env : Environment) (user : User) (switched : Option Int) :
    Option Int → Connecting MetricsSource
  | none => return .dosm
  | some hostId => do
      let host ← Logged.call (metricsHost env (activeTenantId user switched) hostId)
      Logged.handle (makeSourceForHost env host) sourceFailed

/-- The source of a port check, once its address has been taken. -/
def checkerSource (env : Environment) (tid : Option Int) (sourceHostId : Int) (dstAddress : String) :
    Except ConnectFailure Host :=
  match getScoped env.db.hosts sourceHostId tid with
  | none => .error (.http 404 "Source host not found.")
  | some source =>
      match Network.validateAddress (strip dstAddress) with
      | some message => .error (.refused message)
      | none => .ok source

def portCheckerRun (env : Environment) (user : User) (switched : Option Int) (sourceHostId : Int)
    (dstAddress : String) (checked : Except ConnectFailure Unit) : Connecting Unit := do
  let source ← Logged.call (checkerSource env (activeTenantId user switched) sourceHostId dstAddress)
  let _ ← buildChain (env.connectingAs none) source
  Logged.call checked

/-- A tunnel to a Windows source builds the chain a second time. -/
def scanConnect (env : Environment) (opened : Except ConnectFailure Unit) (source : Host) :
    Connecting Unit := do
  let (jumpHops, target) ← buildChain env source
  if Network.route true jumpHops target = some .winrm ∧ jumpHops ≠ [] then do
    let _ ← buildChain env source
    Logged.call opened
  else return ()

/-- The scan goes on after whatever a source raises; a loop over its jump hosts
that does not end holds it up. -/
def checkSource (env : Environment) (opened : Except ConnectFailure Unit) (srcHostId : Int) :
    Connecting Unit :=
  match env.db.hosts.get srcHostId with
  | none => return ()
  | some source =>
      match jumpChain env source with
      | none => Logged.raise .endless
      | some _ => Logged.handle (scanConnect env opened source) fun _ => some (return ())

/-- The sources of a scan that its rows were stored for. -/
def scanSources (env : Environment) (ports : Table Network.NetworkPort) (tid : Option Int)
    (form : Network.ScanForm) : Except ConnectFailure (List Int) :=
  match tid with
  | none => .error (.http 403 "select an active tenant before making changes")
  | some tenant =>
      match Network.mapCreate env.db ports tenant form with
      | .error message => .error (.http 400 message)
      | .ok rows => .ok (rows.filterMap Network.NewResult.srcHostId).dedup

def networkScan (env : Environment) (ports : Table Network.NetworkPort) (user : User)
    (switched : Option Int) (form : Network.ScanForm) (opened : Except ConnectFailure Unit) :
    Connecting Unit := do
  let sources ← Logged.call (scanSources env ports (activeTenantId user switched) form)
  let _ ← Logged.forEach (checkSource (env.connectingAs none) opened) sources
  return ()

def ofRaised : Raised → ConnectFailure
  | .attributeError => .other "AttributeError" ""
  | .interfaceError => .other "InterfaceError" ""
  | .multipleResultsFound => .other "MultipleResultsFound" ""
  | .pendingRollback => .other "PendingRollbackError" ""

def argText (args : Args) (name : String) : Except ConnectFailure String :=
  (args.text name).mapError ofRaised

def checkTimeout (conversions : Agent.Conversions) (args : Args) : Except ConnectFailure Unit :=
  if Agent.readsTimeout conversions args then .ok ()
  else .error (.other "ValueError" "could not convert the timeout to float")

/-- The host that `ssh_exec` would build a chain for. -/
def sshExecHost (conversions : Agent.Conversions) (env : Environment) (tid : Option Int) (args : Args) :
    Except ConnectFailure Host := do
  let command ← argText args "command"
  checkTimeout conversions args
  if command = "" then throw (.refused "empty command")
  else
    match Agent.sshTarget env.db tid args with
    | none => throw (.refused "host not found")
    | some host =>
        if host.protocol ≠ .ssh then
          throw (.refused ("host " ++ Python.repr host.name ++ " protocol is " ++ host.protocol.name ++
            ", not ssh"))
        else return host

/-- The module of `ssh_exec` has no name for the builder of its chain. -/
def sshExec (conversions : Agent.Conversions) (env : Environment) (tid : Option Int) (args : Args) :
    Connecting Unit := do
  let _ ← Logged.call (sshExecHost conversions env tid args)
  Logged.raise (.other "NameError" "name 'build_jump_chain' is not defined")

def kindName : CredKind → String
  | .login => "login"
  | .sshKey => "ssh_key"
  | .pat => "pat"
  | .azureSp => "azure_sp"
  | .awsKeys => "aws_keys"
  | .gcpSa => "gcp_sa"
  | .dynamic => "dynamic"

/-- The host and the credential that `winrm_exec` logs in with. -/
def winrmTarget (conversions : Agent.Conversions) (env : Environment) (tid : Option Int) (args : Args) :
    Except ConnectFailure (Host × Credential) := do
  let hostName ← argText args "host"
  let command ← argText args "command"
  checkTimeout conversions args
  if hostName = "" then throw (.refused "host is required")
  else if command = "" then throw (.refused "empty command")
  else
    match ← (Agent.hostNamed env.db tid hostName).mapError ofRaised with
    | none => throw (.refused ("host " ++ Python.repr hostName ++ " not found"))
    | some host =>
        match env.credentialOf host with
        | none =>
            throw (.refused ("host " ++ Python.repr hostName ++
              " has no credential profile; WinRM needs username + password"))
        | some cred =>
            if cred.username.getD "" = "" then
              throw (.refused ("credential " ++ Python.repr cred.name ++
                " has no username; WinRM needs one"))
            else if cred.kind ≠ .login then
              throw (.refused ("credential " ++ Python.repr cred.name ++ " kind is " ++
                Python.repr (kindName cred.kind) ++ "; WinRM requires a 'login' credential"))
            else return (host, cred)

def winrmSecret (env : Environment) (cred : Credential) : Except ConnectFailure String :=
  match getStr env cred.secretRef with
  | .error (.secretNotFound _) =>
      .error (.refused ("credential " ++ Python.repr cred.name ++ " secret not found in backend"))
  | outcome => outcome

def winrmExec (conversions : Agent.Conversions) (env : Environment) (tid : Option Int) (args : Args)
    (ran : Except ConnectFailure Unit) : Connecting Unit := do
  let (host, cred) ← Logged.call (winrmTarget conversions env tid args)
  let _ ← onRecord (some cred) (winrmSecret env cred)
  let _ ← buildChain (env.connectingAs none) host
  Logged.call ran

/-- The `inputs` argument is left out, falsy or a mapping. -/
def isInputs (value : Value) : Bool :=
  !value.truthy || match value with
    | .container _ mapping _ => mapping
    | _ => false

/-- The pipeline that `run_pipeline` triggers; `decodes` says that a stored
configuration is JSON. -/
def triggeredPipeline (adapters : Pipelines.Adapters) (decodes : String → Bool) (env : Environment)
    (tid : Option Int) (args : Args) : Except ConnectFailure Pipeline := do
  let name ← argText args "name"
  if name = "" then throw (.refused "run_pipeline requires `name`")
  else if !isInputs (args.get "inputs") then throw (.refused "`inputs` must be an object")
  else
    match ← (Agent.pipelineNamed env.db tid name).mapError ofRaised with
    | none => throw (.refused ("pipeline " ++ Python.repr name ++ " not found"))
    | some pipeline =>
        if pipeline.provider ∉ Pipelines.listProviders adapters then
          throw (.refused ("trigger crashed: PipelineProviderError: unknown pipeline provider " ++
            Python.repr pipeline.provider))
        else if !decodes (if pipeline.config = "" then "\x7b\x7d" else pipeline.config) then
          throw (.refused "trigger crashed: JSONDecodeError")
        else return pipeline

def pipelineCredential (env : Environment) (pipeline : Pipeline) : Option Credential :=
  pipeline.credentialId.bind env.db.credentials.get

def pipelineSecret (env : Environment) (pipeline : Pipeline) : Except ConnectFailure (Option String) :=
  match pipelineCredential env pipeline with
  | none => .ok none
  | some cred =>
      match getStr env cred.secretRef with
      | .error (.secretNotFound _) =>
          .error (.refused ("credential " ++ Python.repr cred.name ++ " secret_ref " ++
            Python.repr cred.secretRef ++ " missing"))
      | outcome => outcome.map some

def runPipeline (adapters : Pipelines.Adapters) (decodes : String → Bool) (env : Environment)
    (tid : Option Int) (args : Args) (triggered : Except ConnectFailure Unit) : Connecting Unit := do
  let pipeline ← Logged.call (triggeredPipeline adapters decodes env tid args)
  let _ ← onRecord (pipelineCredential env pipeline) (pipelineSecret env pipeline)
  Logged.call triggered

end Dosm.Credentials
