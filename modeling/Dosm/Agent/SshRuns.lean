import Dosm.Agent.LocalExec
import Dosm.Agent.SshExec
import Dosm.Jumps.OpenConnections

namespace Dosm.Agent

open Models Python Network Jumps OpenConnections

/-! What `ssh_exec` does with an approved command.

The runner names two functions of another module that its own module does not import. A name
is looked up when the line with it runs, in what the module binds, so the model carries those
bindings along.
-/

/-- What `agent/actions.py` binds at its top level. -/
def actionsGlobals : List String :=
  ["annotations", "fnmatch", "Awaitable", "Callable", "asdict", "dataclass", "field", "UTC", "agent_tenant_id",
    "Config", "_require_agent_tenant", "_tenant_slug", "ActionResult", "_OPENAI_TYPE", "ActionSpec", "_REGISTRY",
    "register_action", "list_actions", "get_action", "action_tools", "classify_command", "_ssh_exec_runner",
    "_ssh_exec_classify", "SSH_EXEC", "_local_exec_runner", "LOCAL_EXEC", "_winrm_exec_runner", "WINRM_EXEC",
    "_run_pipeline_runner", "_run_pipeline_classify", "RUN_PIPELINE", "_create_pipeline_runner", "CREATE_PIPELINE",
    "_update_pipeline_runner", "UPDATE_PIPELINE", "_delete_pipeline_runner", "DELETE_PIPELINE", "_upsert_doc_runner",
    "UPSERT_DOC", "_delete_doc_runner", "DELETE_DOC", "_sync_org_group_runner", "SYNC_ORG_GROUP",
    "_create_host_runner", "CREATE_HOST", "_update_host_runner", "UPDATE_HOST", "_auto_secret_ref",
    "_create_credential_runner", "CREATE_CREDENTIAL", "_update_credential_runner", "UPDATE_CREDENTIAL",
    "_delete_credential_runner", "DELETE_CREDENTIAL", "_toggle_monitoring_runner", "_delete_host_runner",
    "DELETE_HOST", "_MONITORING_TOOL_CHOICES", "_create_monitoring_source_runner", "CREATE_MONITORING_SOURCE",
    "_update_monitoring_source_runner", "UPDATE_MONITORING_SOURCE", "_delete_monitoring_source_runner",
    "DELETE_MONITORING_SOURCE", "ENABLE_MONITORING_SOURCE", "DISABLE_MONITORING_SOURCE"]

/-- What `conn.run` returns. -/
structure Completed where
  exitStatus : Option Int
  stdout : String
  stderr : String

/-- How the attempts to connect and the command end, and how long that takes. -/
structure Surroundings where
  dial : Dial
  ran : Except Exc Completed
  durationMs : Nat
  /-- `float` of a timeout, as text. -/
  seconds : Value → String

/-- The connections, the commands with the connection each ran on, and the report. -/
structure SshRun where
  ledger : Ledger := {}
  commands : List (Nat × String) := []
  reported : Except RunnerFailure ActionResult

namespace SshRun

def refuse (summary : String) : SshRun := { reported := .ok { ok := false, summary } }

def raise (failure : RunnerFailure) : SshRun := { reported := .error failure }

end SshRun

/-- `repr` of the value that named a host. -/
def reprValue : Value → String
  | .str text => Python.repr text
  | value => value.asText

def nonSshHops (jumpHops : List HopCreds) : List HopCreds := jumpHops.filter fun hop => hop.protocol ≠ .ssh

def nonSshSummary (hops : List HopCreds) : String :=
  "jump chain has non-SSH hops (" ++ ", ".intercalate (hops.map fun hop => Python.repr hop.name) ++
    "); ssh_exec needs an all-SSH chain."

def timeoutText (surroundings : Surroundings) (args : Args) : String :=
  if (args.get "timeout").truthy then surroundings.seconds (args.get "timeout") else "30.0"

section Runner

variable (globals : List String) (surroundings : Surroundings)

def runExtra (hostLabel command : String) (jumpCount : Nat) : List (String × Value) :=
  [("host", .str hostLabel), ("command", .str command), ("jumps", .int jumpCount)]

def completedResult (hostLabel command : String) (jumpCount : Nat) (completed : Completed) : ActionResult :=
  let (ok, summary) := report (hostLabel ++ ": " ++ command) (chainNote jumpCount)
    (.exited completed.exitStatus surroundings.durationMs)
  { ok
    summary
    stdout := completed.stdout
    stderr := completed.stderr
    exitCode := completed.exitStatus
    durationMs := some surroundings.durationMs
    extra := runExtra hostLabel command jumpCount }

def exceptionResult (args : Args) (username hostLabel command : String) (jumpCount : Nat) (exc : Exc) : ActionResult :=
  let late := exc.kind = .timeout
  { ok := false
    summary :=
      if late then hostLabel ++ ": " ++ command ++ " timed out after " ++ timeoutText surroundings args ++ "s"
      else if exc.name = "PermissionDenied" then
        hostLabel ++ ": SSH authentication rejected for user " ++ Python.repr username ++
          " - check the credential profile"
      else hostLabel ++ ": " ++ exc.name ++ ": " ++ exc.text
    stderr := if late then "" else exc.text
    durationMs := some surroundings.durationMs
    extra := runExtra hostLabel command jumpCount }

def runOverSsh (args : Args) (hostLabel command : String) (jumpHops : List HopCreds) (target : HopCreds) : SshRun :=
  let failed := exceptionResult surroundings args target.username hostLabel command jumpHops.length
  if "connect_through_chain" ∉ globals then
    { reported := .ok (failed { name := "NameError", text := "name 'connect_through_chain' is not defined" }) }
  else
    match connectThroughChain surroundings.dial jumpHops target with
    | (ledger, .error exc) => { ledger, reported := .ok (failed exc) }
    | (ledger, .ok conn) =>
        { ledger := ledger.close conn
          commands := [(conn, command)]
          reported := .ok (match surroundings.ran with
            | .ok completed => completedResult surroundings hostLabel command jumpHops.length completed
            | .error exc => failed exc) }

variable (conversions : Conversions) (decode : String → Option (String × String)) (world : Jumps.World)
variable (tid : Option Int) (args : Args)

def runOnHost (host : Host) (command : String) : SshRun :=
  if host.protocol ≠ .ssh then
    .refuse ("host " ++ Python.repr host.name ++ " protocol is " ++ host.protocol.name ++ ", not ssh")
  else if "build_jump_chain" ∉ globals then .raise (.nameError "build_jump_chain")
  else
    match buildJumpChain decode world host with
    | .error .endless => .raise .endless
    | .error (.runtime message) | .error (.dynamicCredential message) => .refuse message
    | .ok (jumpHops, target) =>
        if nonSshHops jumpHops ≠ [] then .refuse (nonSshSummary (nonSshHops jumpHops))
        else runOverSsh globals surroundings args host.name command jumpHops target

/-- `_ssh_exec_runner` in a module that binds `globals`. -/
def sshExecRunner : SshRun :=
  match args.text "command" with
  | .error raised => .raise (.raised raised)
  | .ok command =>
      if !readsTimeout conversions args then .raise .conversion
      else if command = "" then .refuse "empty command"
      else
        match findHost world.db tid args with
        | .error failure => .raise failure
        | .ok none =>
            let given := if (args.get "host_id").truthy then args.get "host_id" else args.get "host"
            .refuse ("host not found: " ++ reprValue given)
        | .ok (some host) => runOnHost globals surroundings decode world args host (guardPing command)

/-- The connections of a chain, each through the one before. -/
def chained : Option Nat → Nat → List HopCreds → List Dialed
  | _, _, [] => []
  | tunnel, number, hop :: rest => ⟨hop, tunnel⟩ :: chained (some number) (number + 1) rest

/-- The arguments lead to a host of the tenant, over hosts that all speak SSH and can be logged in to. -/
structure Runnable (command : String) (jumpHops : List HopCreds) (target : HopCreds) : Prop where
  command : args.text "command" = .ok command ∧ command ≠ ""
  timeout : readsTimeout conversions args = true
  host : ∃ host, findHost world.db tid args = .ok (some host) ∧ host.protocol = .ssh ∧
    buildJumpChain decode world host = .ok (jumpHops, target)
  allSsh : nonSshHops jumpHops = []

/-- The command runs once, on the target behind exactly these hops, and its status decides. -/
structure RunsOnce (run : SshRun) (command : String) (jumpHops : List HopCreds) (target : HopCreds)
    (completed : Completed) : Prop where
  opened : run.ledger.opened = chained none 0 (jumpHops ++ [target])
  commands : run.commands = [(jumpHops.length, guardPing command)]
  reported : ∃ result, run.reported = .ok result ∧ (result.ok = true ↔ completed.exitStatus = some 0)

/-- Where everything connects, the approved command is run; and there always is a result. -/
structure RunsApproved : Prop where
  runs : ∀ command jumpHops target completed, Runnable conversions decode world tid args command jumpHops target →
    (∀ number ≤ jumpHops.length, surroundings.dial number = .ok ()) → surroundings.ran = .ok completed →
    RunsOnce (sshExecRunner globals surroundings conversions decode world tid args) command jumpHops target completed
  returns : ∃ result, (sshExecRunner globals surroundings conversions decode world tid args).reported = .ok result

/-- The runner turns the arguments away: no command, no such host, or one that is not for SSH. -/
def TurnedAway (db : Database) : Prop :=
  ∃ command, args.text "command" = .ok command ∧ readsTimeout conversions args = true ∧
    (command = "" ∨ ∃ found, findHost db tid args = .ok found ∧ ∀ host, found = some host → host.protocol ≠ .ssh)

end Runner

section Chain

variable {dial : Dial} {jumpHops : List HopCreds} {target : HopCreds}

theorem chained_append {tunnel : Option Nat} {number : Nat} {last : HopCreds} :
    ∃ before, chained tunnel number (jumpHops ++ [last]) = chained tunnel number jumpHops ++ [⟨last, before⟩] ∧
      before = if jumpHops = [] then tunnel else some (number + jumpHops.length - 1) := by
  induction jumpHops generalizing tunnel number with
  | nil => exact ⟨tunnel, rfl, rfl⟩
  | cons hop rest ih =>
      obtain ⟨before, same, place⟩ := @ih (some number) (number + 1)
      refine ⟨before, ?_, ?_⟩
      · rw [List.cons_append, chained, same, chained, List.cons_append]
      · rw [place, if_neg (List.cons_ne_nil hop rest), List.length_cons]
        split
        next empty => simp [empty]
        next => congr 1; omega

theorem openHops_chained {ledger : Ledger} {prev : Option Nat} {prevHop : Option HopCreds}
    (dials : ∀ number < jumpHops.length, dial (ledger.opened.length + number) = .ok ()) :
    ∃ after last lastHop, openHops (fun _ _ => none) (fun _ _ exc => exc) dial ledger prev prevHop jumpHops =
        (after, .ok (last, lastHop)) ∧
      after.opened = ledger.opened ++ chained prev ledger.opened.length jumpHops ∧
      after.opened.length = ledger.opened.length + jumpHops.length ∧
      last = if jumpHops = [] then prev else some (ledger.opened.length + jumpHops.length - 1) := by
  induction jumpHops generalizing ledger prev prevHop with
  | nil => exact ⟨ledger, prev, prevHop, rfl, (List.append_nil _).symm, rfl, rfl⟩
  | cons hop rest ih =>
      have first := dials 0 (by simp)
      rw [Nat.add_zero] at first
      have grown : (ledger.add hop prev).opened.length = ledger.opened.length + 1 := by simp [Ledger.add]
      obtain ⟨after, last, lastHop, opens, opened, length, place⟩ :=
        @ih (ledger.add hop prev) (some ledger.opened.length) (some hop) fun number below => by
          have next := dials (number + 1) (by simpa using below)
          rw [grown]
          rwa [Nat.add_assoc, Nat.add_comm 1]
      refine ⟨after, last, lastHop, ?_, ?_, ?_, ?_⟩
      · rw [openHops]
        simp only [first]
        exact opens
      · rw [opened, grown]
        simp [Ledger.add, chained]
      · rw [length, grown, List.length_cons]
        omega
      · rw [place, grown, if_neg (List.cons_ne_nil hop rest), List.length_cons]
        split
        next empty => simp [empty]
        next => congr 1; omega

theorem connectThroughChain_chained (dials : ∀ number ≤ jumpHops.length, dial number = .ok ()) :
    ∃ ledger, connectThroughChain dial jumpHops target = (ledger, .ok jumpHops.length) ∧
      ledger.opened = chained none 0 (jumpHops ++ [target]) := by
  have hops : ∀ number < jumpHops.length, dial (({} : Ledger).opened.length + number) = .ok () := by
    intro number below
    simpa using dials number (Nat.le_of_lt below)
  obtain ⟨after, last, lastHop, opens, opened, length, place⟩ :=
    @openHops_chained dial jumpHops {} none none hops
  have size : after.opened.length = jumpHops.length := by simpa using length
  refine ⟨after.add target last, ?_, ?_⟩
  · rw [connectThroughChain, opens, openTarget]
    simp only [size, dials jumpHops.length (Nat.le_refl _)]
  · obtain ⟨before, appended, previous⟩ := @chained_append jumpHops none 0 target
    rw [appended, previous, Ledger.add, opened, place]
    simp

end Chain

section Claim

variable {globals : List String} {surroundings : Surroundings} {conversions : Conversions}
variable {decode : String → Option (String × String)} {world : Jumps.World} {tid : Option Int} {args : Args}

/-- A module that bound the two names would run the command as approved. -/
theorem imported_runs (builder : "build_jump_chain" ∈ globals) (connector : "connect_through_chain" ∈ globals)
    {command : String} {jumpHops : List HopCreds} {target : HopCreds} {completed : Completed}
    (runnable : Runnable conversions decode world tid args command jumpHops target)
    (dials : ∀ number ≤ jumpHops.length, surroundings.dial number = .ok ())
    (ran : surroundings.ran = .ok completed) :
    RunsOnce (sshExecRunner globals surroundings conversions decode world tid args) command jumpHops target
      completed := by
  obtain ⟨host, found, protocol, chain⟩ := runnable.host
  obtain ⟨ledger, connects, opened⟩ := @connectThroughChain_chained surroundings.dial jumpHops target dials
  have reaches : sshExecRunner globals surroundings conversions decode world tid args =
      { ledger := ledger.close jumpHops.length
        commands := [(jumpHops.length, guardPing command)]
        reported := .ok (completedResult surroundings host.name (guardPing command) jumpHops.length completed) } := by
    unfold sshExecRunner
    simp only [runnable.command.1, runnable.timeout, Bool.not_true, Bool.false_eq_true, if_false,
      if_neg runnable.command.2, found]
    unfold runOnHost
    simp only [protocol, ne_eq, not_true_eq_false, if_false, builder, chain, runnable.allSsh]
    unfold runOverSsh
    simp only [connector, not_true_eq_false, if_false, connects, ran]
  rw [reaches]
  refine ⟨opened, rfl, _, rfl, ?_⟩
  unfold completedResult report
  by_cases succeeded : completed.exitStatus = some 0 <;> simp [succeeded]

theorem raise_returns_nothing {failure : RunnerFailure} : ¬ ∃ result, (SshRun.raise failure).reported = .ok result := by
  rintro ⟨_, ⟨⟩⟩

theorem unbound_raises (unbound : "build_jump_chain" ∉ globals) {host : Host} (protocol : host.protocol = .ssh)
    {command : String} : runOnHost globals surroundings decode world args host command =
      .raise (.nameError "build_jump_chain") := by
  unfold runOnHost
  rw [if_neg (not_not_intro protocol), if_pos unbound]

theorem returns_iff (unbound : "build_jump_chain" ∉ globals) :
    (∃ result, (sshExecRunner globals surroundings conversions decode world tid args).reported = .ok result) ↔
      TurnedAway conversions tid args world.db := by
  unfold sshExecRunner TurnedAway
  cases read : args.text "command" with
  | error raised => exact iff_of_false raise_returns_nothing (by simp)
  | ok command =>
      cases timeout : readsTimeout conversions args with
      | false => exact iff_of_false raise_returns_nothing (by simp)
      | true =>
          by_cases blank : command = ""
          · rw [blank]
            exact iff_of_true ⟨_, rfl⟩ ⟨"", rfl, rfl, .inl rfl⟩
          simp only [Bool.not_true, Bool.false_eq_true, if_false, if_neg blank]
          cases found : findHost world.db tid args with
          | error failure =>
              refine iff_of_false raise_returns_nothing ?_
              rintro ⟨_, same, _, empty | ⟨_, finds, _⟩⟩
              · exact blank ((Except.ok.inj same).trans empty)
              · cases finds
          | ok host =>
              cases host with
              | none =>
                  have nobody (host : Host) (same : none = some host) : host.protocol ≠ .ssh :=
                    (Option.some_ne_none host same.symm).elim
                  exact iff_of_true ⟨_, rfl⟩ ⟨command, rfl, trivial, .inr ⟨none, rfl, nobody⟩⟩
              | some host =>
                  by_cases protocol : host.protocol = .ssh
                  · dsimp only
                    rw [unbound_raises unbound protocol]
                    refine iff_of_false raise_returns_nothing ?_
                    rintro ⟨_, same, _, empty | ⟨_, finds, other⟩⟩
                    · exact blank ((Except.ok.inj same).trans empty)
                    · cases finds
                      exact other host rfl protocol
                  · refine iff_of_true ?_ ⟨command, rfl, trivial, .inr ⟨some host, rfl, ?_⟩⟩
                    · dsimp only
                      rw [runOnHost, if_pos protocol]
                      exact ⟨_, rfl⟩
                    · rintro _ ⟨rfl⟩
                      exact protocol

theorem turnedAway_not_runnable (turned : TurnedAway conversions tid args world.db) {command : String}
    {jumpHops : List HopCreds} {target : HopCreds} :
    ¬ Runnable conversions decode world tid args command jumpHops target := by
  rintro ⟨⟨read, nonempty⟩, _, ⟨host, found, protocol, _⟩, _⟩
  obtain ⟨other, same, _, empty | ⟨_, finds, others⟩⟩ := turned
  · exact nonempty ((Except.ok.inj (read.symm.trans same)).trans empty)
  · cases found.symm.trans finds
    exact others host rfl protocol

theorem builder_unbound : "build_jump_chain" ∉ actionsGlobals := by decide

/-- `ssh_exec` does what was approved and returns exactly when it turns its arguments away. -/
theorem ssh_exec_approved_iff : RunsApproved actionsGlobals surroundings conversions decode world tid args ↔
    TurnedAway conversions tid args world.db := by
  constructor
  · exact fun approved => (returns_iff builder_unbound).mp approved.returns
  · intro turned
    exact ⟨fun _ _ _ _ runnable => (turnedAway_not_runnable turned runnable).elim,
      (returns_iff builder_unbound).mpr turned⟩

end Claim

def webHost (id : Int) : Host where
  id
  tenantId := 1
  name := "web"
  hostname := "10.0.0.2"
  port := 22
  protocol := .ssh
  description := none
  credentialId := none
  jumpHostId := none
  isJumpbox := false
  ftMethod := none
  ftPort := none
  ftCredentialId := none
  orgUnitId := none

def oneWeb : Jumps.World where
  db := { hosts := Table.empty.insert webHost }
  secrets := ∅
  connectingUser := none

def webHop : HopCreds := ⟨1, "web", "10.0.0.2", 22, .ssh, "root", none, none⟩

def diskArgs : Args := [("host", .str "web"), ("command", .str "df -h")]

def wordConversions : Conversions where
  loads := .other
  dumps _ := ""
  str := Value.asText
  isFloat _ := true
  str_text := Value.asText_str

def quietNetwork : Surroundings where
  dial _ := .ok ()
  ran := .ok ⟨some 0, "", ""⟩
  durationMs := 40
  seconds := Value.asText

/-- An approved `df -h` on a host that would answer raises, and nothing is connected to. -/
theorem disk_usage_raises :
    Runnable wordConversions (fun _ => none) oneWeb (some 1) diskArgs "df -h" [] webHop ∧
      (sshExecRunner actionsGlobals quietNetwork wordConversions (fun _ => none) oneWeb (some 1) diskArgs).reported =
        .error (.nameError "build_jump_chain") ∧
      ¬ RunsApproved actionsGlobals quietNetwork wordConversions (fun _ => none) oneWeb (some 1) diskArgs := by
  have raises : (sshExecRunner actionsGlobals quietNetwork wordConversions (fun _ => none) oneWeb (some 1)
      diskArgs).reported = .error (.nameError "build_jump_chain") := by decide
  refine ⟨⟨⟨by decide, by decide⟩, rfl, ⟨_, rfl, rfl, by decide⟩, rfl⟩, raises, fun approved => ?_⟩
  obtain ⟨result, reported⟩ := approved.returns
  cases raises.symm.trans reported

end Dosm.Agent
