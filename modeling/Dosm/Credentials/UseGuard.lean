import Dosm.Credentials.ConnectPaths

namespace Dosm.Credentials

open Models Python Web Jumps Ftp

/-! Which credentials the connecting paths resolve for a user.

The browser session is guarded. On every other path the credentials that come up
are resolved for whoever asks.
-/

def loginOk (env : Environment) (target : FtTarget) : Bool :=
  match target.method with
  | .sftp => (materialOutcome env target.credential).toOption.isSome
  | .ftp | .ftps => (ftpLoginOutcome env target.credential).toOption.isSome

/-- The credentials of one file operation: the chain's and the one that replaces
the target's own. -/
def fileReads (env : Environment) (host : Host) (target : FtTarget) : List Credential :=
  match target.method with
  | .sftp =>
      chainCredentials env host ++
        if chainReadable env host then readOf target.credential (materialOutcome env target.credential) else []
  | .ftp | .ftps =>
      readOf target.credential (ftpLoginOutcome env target.credential) ++
        if loginOk env target then chainCredentials env host else []

def operationSucceeds (env : Environment) (host : Host) (target : FtTarget)
    (outcome : Except ConnectFailure Unit) : Bool :=
  chainReadable env host && loginOk env target && outcome.toOption.isSome

def copyReads (env : Environment) (src dst : Host × FtTarget) (steps : CopySteps) : List Credential :=
  fileReads env src.1 src.2 ++
    if operationSucceeds env src.1 src.2 steps.retrieved then fileReads env dst.1 dst.2 else []

def metricsReads (env : Environment) (host : Host) : List Credential :=
  match host.protocol with
  | .ssh | .rdp =>
      (env.credentialOf host).toList.filter fun cred => (metricsSecret env cred).toOption.isSome
  | .vnc => []

/-- The jump hosts of a source, when it is there, do not loop. -/
def leavesLoop (env : Environment) (srcHostId : Int) : Bool :=
  (env.db.hosts.get srcHostId).all fun source => (jumpChain env source).isSome

def sourceReads (env : Environment) (srcHostId : Int) : List Credential :=
  ((env.db.hosts.get srcHostId).map (chainCredentials env)).getD []

/-- The sources of a scan up to one whose jump hosts loop. -/
def scanReads (env : Environment) (sources : List Int) : List Credential :=
  (sources.takeWhile (leavesLoop env)).flatMap (sourceReads env)

def winrmReads (env : Environment) (host : Host) (cred : Credential) : List Credential :=
  readOf (some cred) (winrmSecret env cred) ++
    if (winrmSecret env cred).toOption.isSome then chainCredentials (env.connectingAs none) host else []

section Reads

variable {env : Environment} {host : Host} {target : FtTarget} {outcome : Except ConnectFailure Unit}
  {Value Next : Type}

theorem call_succeeds {outcome : Except ConnectFailure Value} :
    (Logged.call outcome : Connecting Value).succeeds = outcome.toOption.isSome := rfl

theorem onRecord_succeeds {holder : Option Credential} {outcome : Except ConnectFailure Value} :
    (onRecord holder outcome).succeeds = outcome.toOption.isSome := by
  rw [Logged.succeeds, onRecord_result]

theorem succeeds_bind {walk : Connecting Value} {next : Value → Connecting Next} {after : Bool}
    (then_ : ∀ value, walk.result = .ok value → (next value).succeeds = after) :
    (walk >>= next).succeeds = (walk.succeeds && after) := by
  cases done : walk.succeeds with
  | false => rw [Logged.bind_succeeds_of_fails done, Bool.false_and]
  | true =>
      obtain ⟨value, returned⟩ := Logged.succeeds_iff.mp done
      rw [Logged.bind_succeeds_of_ok returned, then_ value returned, Bool.true_and]

theorem sftpConnect_succeeds : (sftpConnect env host target).succeeds =
    (chainReadable env host && (materialOutcome env target.credential).toOption.isSome) := by
  unfold sftpConnect
  rw [← buildChain_succeeds]
  refine succeeds_bind fun chain _ => ?_
  exact Logged.bind_pure_succeeds.trans onRecord_succeeds

theorem ftpConnect_succeeds : (ftpConnect env host target).succeeds =
    ((ftpLoginOutcome env target.credential).toOption.isSome && chainReadable env host) := by
  unfold ftpConnect
  rw [← buildChain_succeeds, resolveFtpLogin, ← onRecord_succeeds]
  exact succeeds_bind fun login _ => Logged.bind_pure_succeeds

theorem operation_succeeds :
    (operation env host target outcome).succeeds = operationSucceeds env host target outcome := by
  unfold operation operationSucceeds loginOk
  cases target.method with
  | sftp => exact (succeeds_bind fun _ _ => call_succeeds).trans (by rw [sftpConnect_succeeds])
  | ftp | ftps =>
      exact (succeeds_bind fun _ _ => call_succeeds).trans (by rw [ftpConnect_succeeds, Bool.and_comm (Option.isSome _)])

theorem reads_sftpConnect : Reads (sftpConnect env host target) (chainCredentials env host ++
    if chainReadable env host then readOf target.credential (materialOutcome env target.credential)
    else []) := by
  refine reads_buildChain.bind buildChain_succeeds fun chain _ => ?_
  exact reads_onRecord.bind_quiet fun _ _ => rfl

theorem reads_ftpConnect : Reads (ftpConnect env host target)
    (readOf target.credential (ftpLoginOutcome env target.credential) ++
      if (ftpLoginOutcome env target.credential).toOption.isSome then chainCredentials env host else []) := by
  refine reads_onRecord.bind onRecord_succeeds fun login _ => ?_
  exact reads_buildChain.bind_quiet fun _ _ => rfl

theorem reads_operation : Reads (operation env host target outcome) (fileReads env host target) := by
  unfold operation fileReads loginOk
  cases target.method with
  | sftp => exact reads_sftpConnect.bind_quiet fun _ _ => rfl
  | ftp | ftps => exact reads_ftpConnect.bind_quiet fun _ _ => rfl

theorem reads_transfer {src dst : Host × FtTarget} {steps : CopySteps} {move : Bool} :
    Reads (transferBetweenHosts env src dst steps move) (copyReads env src dst steps) := by
  have removed : Reads (if move then operation env src.1 src.2 steps.deleted else pure ())
      (if move then fileReads env src.1 src.2 else []) := by
    cases move with
    | true => exact reads_operation
    | false => exact reads_of_quiet rfl
  have stored := (reads_operation : Reads (operation env dst.1 dst.2 steps.stored) _).bind
    operation_succeeds fun _ _ => removed
  have retrieved := (reads_operation : Reads (operation env src.1 src.2 steps.retrieved) _).bind
    operation_succeeds fun _ _ => stored
  intro cred
  rw [transferBetweenHosts, retrieved cred, copyReads]
  simp only [List.mem_append]
  split_ifs <;> simp
  tauto

theorem reads_makeSource : Reads (makeSourceForHost env host) (metricsReads env host) := by
  unfold makeSourceForHost metricsReads
  have secretRead (cred : Credential) : Reads (onRecord (some cred) (metricsSecret env cred))
      ([cred].filter fun cred => (metricsSecret env cred).toOption.isSome) := by
    have reads : Reads (onRecord (some cred) (metricsSecret env cred)) _ := reads_onRecord
    rw [readOf] at reads
    rw [List.filter_cons]
    exact reads
  cases host.protocol with
  | ssh =>
      cases env.credentialOf host with
      | none => exact reads_of_quiet rfl
      | some cred => exact (secretRead cred).bind_quiet fun _ _ => rfl
  | rdp =>
      cases env.credentialOf host with
      | none => exact reads_of_quiet rfl
      | some cred => exact (secretRead cred).bind_quiet fun _ _ => rfl
  | vnc => exact reads_of_quiet rfl

theorem reads_scanConnect {opened : Except ConnectFailure Unit} :
    Reads (scanConnect env opened host) (chainCredentials env host) := by
  refine reads_buildChain.bind_within fun chain _ cred listed => ?_
  obtain ⟨jumpHops, target⟩ := chain
  dsimp only at listed
  split at listed
  · have again : Reads (buildChain env host >>= fun _ => Logged.call opened) (chainCredentials env host) :=
      reads_buildChain.bind_quiet fun _ _ => rfl
    exact (again cred).mp listed
  · cases listed

section Scan

variable {opened : Except ConnectFailure Unit} {srcHostId : Int} {sources : List Int}

theorem checkSource_succeeds : (checkSource env opened srcHostId).succeeds = leavesLoop env srcHostId := by
  unfold checkSource leavesLoop
  cases env.db.hosts.get srcHostId with
  | none => rfl
  | some source =>
      dsimp only
      rw [Option.all_some]
      cases jumpChain env source with
      | none => rfl
      | some chain =>
          cases outcome : (scanConnect env opened source).result with
          | ok value =>
              dsimp only
              rw [Logged.handle_of_ok outcome]
              exact Logged.succeeds_iff.mpr ⟨value, outcome⟩
          | error failure =>
              dsimp only
              rw [Logged.handle_of_some outcome rfl]
              rfl

theorem checkSource_quiet (failed : (checkSource env opened srcHostId).succeeds = false) :
    (checkSource env opened srcHostId).log = [] := by
  rw [checkSource_succeeds] at failed
  unfold checkSource
  unfold leavesLoop at failed
  cases found : env.db.hosts.get srcHostId with
  | none => rfl
  | some source =>
      rw [found, Option.all_some] at failed
      cases hops : jumpChain env source with
      | none => dsimp only; rw [hops]; rfl
      | some chain => rw [hops] at failed; cases failed

theorem reads_checkSource : Reads (checkSource env opened srcHostId) (sourceReads env srcHostId) := by
  unfold checkSource sourceReads
  cases env.db.hosts.get srcHostId with
  | none => exact reads_of_quiet rfl
  | some source =>
      dsimp only
      rw [Option.map_some, Option.getD_some]
      cases hops : jumpChain env source with
      | none =>
          rw [chainCredentials, hops]
          exact reads_of_quiet rfl
      | some chain =>
          refine reads_scanConnect.handle fun failure recovery handling => ?_
          cases handling
          rfl

theorem reads_sources : Reads (Logged.forEach (checkSource env opened) sources) (scanReads env sources) := by
  intro cred
  rw [Logged.forEach_log fun _ => checkSource_quiet]
  simp only [checkSource_succeeds, scanReads, List.mem_flatMap]
  exact exists_congr fun source => and_congr_right fun _ => reads_checkSource cred

end Scan

theorem reads_winrm {cred : Credential} {ran : Except ConnectFailure Unit} :
    Reads (do
      let _ ← onRecord (some cred) (winrmSecret env cred)
      let _ ← buildChain (env.connectingAs none) host
      Logged.call ran) (winrmReads env host cred) := by
  refine reads_onRecord.bind onRecord_succeeds fun _ _ => ?_
  exact reads_buildChain.bind_quiet fun _ _ => rfl

end Reads

theorem transferFailed_quiet (failure : ConnectFailure) (recovery : Connecting Unit)
    (handling : transferFailed failure = some recovery) : recovery.log = [] := by
  cases failure <;> cases handling
  rfl

theorem sourceFailed_quiet (failure : ConnectFailure) (recovery : Connecting MetricsSource)
    (handling : sourceFailed failure = some recovery) : recovery.log = [] := by
  cases failure <;> cases handling
  rfl

/-- A request that connects with stored credentials, with what its calls outside do. -/
inductive ConnectRequest where
  | hostConnect (config : Guacamole.GuacamoleConfig) (steps : Guacamole.Steps) (hostId : Int)
  | fileOperation (hostId : Int) (outcome : Except ConnectFailure Unit)
  | fileCopy (hostId dstHostId : Int) (basename : String) (steps : CopySteps) (move : Bool)
  | metricsWs (hostId : Option Int)
  | portCheck (sourceHostId : Int) (dstAddress : String) (checked : Except ConnectFailure Unit)
  | networkScan (ports : Table Network.NetworkPort) (form : Network.ScanForm)
      (opened : Except ConnectFailure Unit)
  | sshExec (conversions : Agent.Conversions) (args : Args)
  | winrmExec (conversions : Agent.Conversions) (args : Args) (ran : Except ConnectFailure Unit)
  | runPipeline (adapters : Pipelines.Adapters) (decodes : String → Bool) (args : Args)
      (triggered : Except ConnectFailure Unit)

namespace ConnectRequest

/-- What happens on a request of a user, with the tenant their session is in. -/
def run (env : Environment) (user : User) (switched : Option Int) : ConnectRequest → List ConnectEvent
  | .hostConnect config steps hostId => (Guacamole.hostConnect env config steps user switched hostId).log
  | .fileOperation hostId outcome => (operate env user switched hostId outcome).log
  | .fileCopy hostId dstHostId basename steps move =>
      (copyToHost env user switched hostId dstHostId basename steps move).log
  | .metricsWs hostId => (Credentials.metricsWs env user switched hostId).log
  | .portCheck sourceHostId dstAddress checked =>
      (portCheckerRun env user switched sourceHostId dstAddress checked).log
  | .networkScan ports form opened => (Credentials.networkScan env ports user switched form opened).log
  | .sshExec conversions args => (Credentials.sshExec conversions env (activeTenantId user switched) args).log
  | .winrmExec conversions args ran =>
      (Credentials.winrmExec conversions env (activeTenantId user switched) args ran).log
  | .runPipeline adapters decodes args triggered =>
      (Credentials.runPipeline adapters decodes env (activeTenantId user switched) args triggered).log

/-- The credentials that come up on the paths without a guard. -/
def reads (env : Environment) (user : User) (switched : Option Int) : ConnectRequest → List Credential
  | .hostConnect .. => []
  | .fileOperation hostId _ =>
      readsOf (operateHost env user switched hostId) fun (host, target) =>
        fileReads (env.connectingAs (some user.id)) host target
  | .fileCopy hostId dstHostId basename steps _ =>
      readsOf (copyHosts env user switched hostId dstHostId basename) fun (src, dst) =>
        copyReads (env.connectingAs (some user.id)) src dst steps
  | .metricsWs none => []
  | .metricsWs (some hostId) =>
      readsOf (metricsHost env (activeTenantId user switched) hostId) (metricsReads env)
  | .portCheck sourceHostId dstAddress _ =>
      readsOf (checkerSource env (activeTenantId user switched) sourceHostId dstAddress)
        (chainCredentials (env.connectingAs none))
  | .networkScan ports form _ =>
      readsOf (scanSources env ports (activeTenantId user switched) form) (scanReads (env.connectingAs none))
  | .sshExec .. => []
  | .winrmExec conversions args _ =>
      readsOf (winrmTarget conversions env (activeTenantId user switched) args) fun (host, cred) =>
        winrmReads env host cred
  | .runPipeline adapters decodes args _ =>
      readsOf (triggeredPipeline adapters decodes env (activeTenantId user switched) args) fun pipeline =>
        readOf (pipelineCredential env pipeline) (pipelineSecret env pipeline)

def guarded : ConnectRequest → Bool
  | .hostConnect .. => true
  | _ => false

theorem resolved_iff {env : Environment} {user : User} {switched : Option Int} {request : ConnectRequest}
    {cred : Credential} (unguarded : request.guarded = false) :
    .resolved cred ∈ request.run env user switched ↔ cred ∈ request.reads env user switched := by
  cases request with
  | hostConnect config steps hostId => cases unguarded
  | fileOperation hostId outcome =>
      exact reads_start (fun value => reads_operation.handle transferFailed_quiet) cred
  | fileCopy hostId dstHostId basename steps move =>
      exact reads_start (fun value => reads_transfer.handle transferFailed_quiet) cred
  | metricsWs hostId =>
      cases hostId with
      | none => exact reads_of_quiet rfl cred
      | some hostId => exact reads_start (fun host => reads_makeSource.handle sourceFailed_quiet) cred
  | portCheck sourceHostId dstAddress checked =>
      exact reads_start (fun source => reads_buildChain.bind_quiet fun _ _ => rfl) cred
  | networkScan ports form opened =>
      exact reads_start (fun sources => reads_sources.bind_quiet fun _ _ => rfl) cred
  | sshExec conversions args =>
      have quiet : Reads (Credentials.sshExec conversions env (activeTenantId user switched) args)
          (readsOf (sshExecHost conversions env (activeTenantId user switched) args) fun _ => []) :=
        reads_start fun _ => reads_of_quiet rfl
      refine (quiet cred).trans ?_
      unfold readsOf
      split <;> rfl
  | winrmExec conversions args ran => exact reads_start (fun target => reads_winrm) cred
  | runPipeline adapters decodes args triggered =>
      exact reads_start (fun pipeline => reads_onRecord.bind_quiet fun _ _ => rfl) cred

def Usable (user : User) : ConnectEvent → Prop
  | .resolved cred => canUseCredential user cred = true
  | .acquired | .released | .registered _ => True

theorem hostConnect_usable {env : Environment} {user : User} {switched : Option Int}
    {config : Guacamole.GuacamoleConfig} {steps : Guacamole.Steps} {hostId : Int} {cred : Credential}
    (listed : .resolved cred ∈ (Guacamole.hostConnect env config steps user switched hostId).log) :
    canUseCredential user cred = true := by
  have recorded : (Guacamole.hostConnect env config steps user switched hostId).log = [] ∨ _ :=
    Guacamole.hostConnect_log
  rcases recorded with quiet | ⟨host, chain, _, hops, clear, ends⟩
  · rw [quiet] at listed
    cases listed
  have asked (resolved : .resolved cred ∈
      (Guacamole.firstUnprovisionedDynamic env user (Guacamole.connectCredentials env host chain)).log) :
      canUseCredential user cred = true := by
    obtain ⟨other, isResolved, member⟩ := Guacamole.firstUnprovisioned_only_resolves _ resolved
    cases isResolved
    exact firstUnusable_none clear member
  rcases ends with stopped | connected
  · rw [stopped] at listed
    exact asked listed
  · rw [connected] at listed
    have usable : Guacamole.Allows (Usable user) (env.connectingAs (some user.id)) host chain := {
      released := trivial
      registered := fun _ => trivial
      resolved := fun _ member => firstUnusable_none clear member }
    rcases List.mem_append.mp listed with before | after
    · exact asked before
    · exact usable.connect trivial hops (.resolved cred) after

end ConnectRequest

/-- A request resolves only credentials its user may use exactly when it is a
browser session or the user may use every credential that comes up. -/
theorem use_guard_iff {env : Environment} {user : User} {switched : Option Int}
    {request : ConnectRequest} :
    (∀ cred, .resolved cred ∈ request.run env user switched → canUseCredential user cred = true) ↔
      request.guarded = true ∨
        ∀ cred ∈ request.reads env user switched, canUseCredential user cred = true := by
  cases guard : request.guarded with
  | false =>
      simp only [ConnectRequest.resolved_iff guard, Bool.false_eq_true, false_or]
  | true =>
      refine iff_of_true (fun cred listed => ?_) (.inl rfl)
      cases request with
      | hostConnect config steps hostId => exact ConnectRequest.hostConnect_usable listed
      | _ => cases guard

/-! A viewer checks a port from a host that is pinned to somebody else's personal
credential. -/

def annsLogin : Credential where
  id := 1
  tenantId := 1
  name := "ann"
  kind := .login
  username := some "ann"
  domain := none
  secretRef := "t/acme/credentials/ann"
  ownerId := some 7
  visibility := .personal
  orgUnitId := none

def annsHost : Host where
  id := 1
  tenantId := 1
  name := "web"
  hostname := "10.0.0.2"
  port := 22
  protocol := .ssh
  description := none
  credentialId := some 1
  jumpHostId := none
  isJumpbox := false
  ftMethod := none
  ftPort := none
  ftCredentialId := none
  orgUnitId := none

def annsEnvironment : Environment where
  world := {
    db := {
      credentials := Table.empty.insert fun id => { annsLogin with id }
      hosts := Table.empty.insert fun id => { annsHost with id } }
    secrets := (∅ : Secrets.Backend).insert "t/acme/credentials/ann" "hunter2"
    connectingUser := none }
  decode := fun _ => none

def viewer : User where
  id := 8
  role := .viewer
  tenantId := some 1

theorem port_check_reads_private_credential :
    .resolved annsLogin ∈ (ConnectRequest.portCheck 1 "10.0.0.9" (.ok ())).run annsEnvironment viewer none ∧
      canUseCredential viewer annsLogin = false := by
  constructor
  · decide
  · decide

end Dosm.Credentials
