import Dosm.Guacamole.Connect

namespace Dosm.Guacamole

open Models Python Web Jumps Credentials

/-! What becomes of the lease of a connect request.

After the lease the request walks through its calls up to the first that raises.
The walk is described as a list of calls with the exceptions that are handled at
each, and the request is proved to follow it.
-/

/-- The lease was given back or handed to the session registry. -/
def Given (log : List ConnectEvent) : Prop :=
  .released ∈ log ∨ ∃ ttlSeconds, .registered ttlSeconds ∈ log

structure LeasedCall where
  raised : Option ConnectFailure
  /-- The exceptions after which the request still gives the lease back. -/
  caught : ConnectFailure → Bool

def failureOf {Value : Type} : Except ConnectFailure Value → Option ConnectFailure
  | .ok _ => none
  | .error failure => some failure

def buildCaught : ConnectFailure → Bool
  | .guacamoleBuild _ => true
  | _ => false

def probeCaught : ConnectFailure → Bool
  | .targetUnreachable _ | .guacamoleBuild _ => true
  | _ => false

def verifyCaught : ConnectFailure → Bool
  | .targetUnreachable _ | .targetAuth _ | .guacamoleBuild _ => true
  | _ => false

def tokenCaught : ConnectFailure → Bool
  | .guacamoleClient _ | .guacamoleBuild _ => true
  | _ => false

/-- Whether the first exception of the calls is handled; nothing when none raises. -/
def firstRaise : List LeasedCall → Option Bool
  | [] => none
  | call :: rest =>
      match call.raised with
      | none => firstRaise rest
      | some failure => some (call.caught failure)

def targetCalls (env : Environment) (steps : Steps) (host : Host) : List LeasedCall :=
  let login := failureOf (loginOutcome env (env.credentialOf host))
  ⟨failureOf steps.probe, probeCaught⟩ ::
    if host.protocol = .ssh then [⟨login, buildCaught⟩, ⟨failureOf steps.verify, verifyCaught⟩] else []

/-- The calls between the lease and its registration, in order. -/
def leasedCalls (env : Environment) (steps : Steps) (host : Host) : List LeasedCall :=
  targetCalls env steps host ++
    [⟨failureOf (loginOutcome env (env.credentialOf host)), buildCaught⟩,
      ⟨failureOf steps.loadKey, buildCaught⟩, ⟨failureOf steps.encode, buildCaught⟩,
      ⟨failureOf steps.token, tokenCaught⟩]

/-- The first exception after the lease, if there is one, is handled where it is
raised; otherwise the registration goes through. -/
def handled (env : Environment) (steps : Steps) (host : Host) : Bool :=
  (firstRaise (leasedCalls env steps host)).getD steps.register.toOption.isSome

/-- A computation goes through calls and keeps the lease on the way: a handled
exception leaves it as a build error or in a value that stands for it, another
leaves it as it is. -/
def WalksTo {Value : Type} (standsIn : Value → Prop) (walk : Connecting Value) (calls : List LeasedCall) :
    Prop :=
  match firstRaise calls with
  | none => (∃ value, walk.result = .ok value ∧ ¬ standsIn value) ∧ ¬ Given walk.log
  | some true => (∃ text, walk.result = .error (.guacamoleBuild text)) ∨
      ∃ value, walk.result = .ok value ∧ standsIn value
  | some false => (∃ failure, walk.result = .error failure ∧ buildCaught failure = false) ∧
      ¬ Given walk.log

def Walks {Value : Type} : Connecting Value → List LeasedCall → Prop := WalksTo fun _ => False

section Leases

variable {Value Next : Type} {env : Environment} {steps : Steps} {host : Host} {config : GuacamoleConfig}
  {first second : List LeasedCall} {walk : Connecting Value} {next : Value → Connecting Next}
  {outcome : Except ConnectFailure Unit} {log more : List ConnectEvent} {chain : List Host}

theorem given_append : Given (log ++ more) ↔ Given log ∨ Given more := by
  simp only [Given, List.mem_append, exists_or]
  tauto

theorem not_given_nil : ¬ Given [] := by simp [Given]

theorem not_given_resolved {creds : List Credential} : ¬ Given (creds.map .resolved) := by
  simp [Given]

theorem firstRaise_append : firstRaise (first ++ second) =
    match firstRaise first with
    | none => firstRaise second
    | some caught => some caught := by
  induction first with
  | nil => rfl
  | cons call rest ih =>
      simp only [List.cons_append, firstRaise]
      cases call.raised with
      | none => exact ih
      | some failure => rfl

theorem walks_pure {value : Value} : Walks (pure value) [] :=
  ⟨⟨value, rfl, id⟩, not_given_nil⟩

theorem Walks.bind {standsIn : Next → Prop} (before : Walks walk first)
    (after : ∀ value, walk.result = .ok value → WalksTo standsIn (next value) second) :
    WalksTo standsIn (walk >>= next) (first ++ second) := by
  unfold Walks WalksTo at before
  unfold WalksTo
  rw [firstRaise_append]
  cases raised : firstRaise first with
  | some caught =>
      cases caught with
      | true =>
          simp only [raised, and_false, exists_false, or_false] at before ⊢
          obtain ⟨text, failed⟩ := before
          exact .inl ⟨text, by rw [Logged.bind_of_error failed]⟩
      | false =>
          simp only [raised] at before ⊢
          obtain ⟨⟨failure, failed, uncaught⟩, kept⟩ := before
          rw [Logged.bind_of_error failed]
          exact ⟨⟨failure, rfl, uncaught⟩, kept⟩
  | none =>
      simp only [raised] at before ⊢
      obtain ⟨⟨value, returned, _⟩, kept⟩ := before
      have rest := after value returned
      unfold WalksTo at rest
      rw [Logged.bind_of_ok returned]
      cases later : firstRaise second with
      | none =>
          simp only [later] at rest ⊢
          exact ⟨rest.1, by simp [given_append, kept, rest.2]⟩
      | some caught =>
          cases caught with
          | true =>
              simp only [later] at rest ⊢
              exact rest
          | false =>
              simp only [later] at rest ⊢
              exact ⟨rest.1, by simp [given_append, kept, rest.2]⟩

theorem Walks.cons {standsIn : Next → Prop} {call : LeasedCall} (before : Walks walk [call])
    (after : ∀ value, walk.result = .ok value → WalksTo standsIn (next value) second) :
    WalksTo standsIn (walk >>= next) (call :: second) := before.bind after

theorem buildCaught_iff {failure : ConnectFailure} :
    buildCaught failure = true ↔ ∃ text, failure = .guacamoleBuild text := by
  cases failure <;> simp [buildCaught]

theorem walks_of_kept (kept : ¬ Given walk.log) : Walks walk [⟨failureOf walk.result, buildCaught⟩] := by
  unfold Walks WalksTo
  cases outcome : walk.result with
  | ok value => exact ⟨⟨value, rfl, id⟩, kept⟩
  | error failure =>
      simp only [firstRaise, failureOf]
      cases caught : buildCaught failure with
      | true =>
          obtain ⟨text, rfl⟩ := buildCaught_iff.mp caught
          exact .inl ⟨text, rfl⟩
      | false => exact ⟨⟨failure, rfl, caught⟩, kept⟩

theorem walks_call {outcome : Except ConnectFailure Value} :
    Walks (Logged.call outcome) [⟨failureOf outcome, buildCaught⟩] := by
  have kept : ¬ Given (Logged.call outcome : Connecting Value).log := not_given_nil
  exact walks_of_kept kept

theorem walks_resolve {cred : Option Credential} :
    Walks (resolveCredential env cred) [⟨failureOf (loginOutcome env cred), buildCaught⟩] := by
  have kept : ¬ Given (resolveCredential env cred).log := by
    rw [resolveCredential, onRecord_log]
    split
    · cases cred <;> simp [Given]
    · simp [Given]
  have walked := walks_of_kept kept
  rwa [resolveCredential, onRecord_result] at walked

theorem walks_handled {handler : ConnectFailure → Option (Connecting Value)}
    {outcome : Except ConnectFailure Value} {caught : ConnectFailure → Bool}
    (turned : ∀ failure recovery, handler failure = some recovery → caught failure = true ∧
      ∃ text, recovery.result = .error (.guacamoleBuild text))
    (rest : ∀ failure, handler failure = none → caught failure = buildCaught failure) :
    Walks (Logged.handle (Logged.call outcome) handler) [⟨failureOf outcome, caught⟩] := by
  cases outcome with
  | ok value => exact ⟨⟨value, rfl, id⟩, not_given_nil⟩
  | error failure =>
      unfold Logged.handle
      simp only [Logged.call]
      cases handling : handler failure with
      | some recovery =>
          obtain ⟨isCaught, text, failed⟩ := turned failure recovery handling
          simp only [Walks, WalksTo, firstRaise, failureOf, isCaught]
          exact .inl ⟨text, failed⟩
      | none =>
          have walked : Walks (Logged.call (.error failure) : Connecting Value)
              [⟨some failure, buildCaught⟩] := walks_call
          simp only [Walks, WalksTo, firstRaise, ← rest failure handling] at walked
          exact walked

theorem walks_probe : Walks (Logged.handle (Logged.call steps.probe) probeFailed)
    [⟨failureOf steps.probe, probeCaught⟩] := by
  refine walks_handled ?_ ?_
  · intro failure recovery handling
    cases failure with
    | targetUnreachable text =>
        cases handling
        exact ⟨rfl, text, rfl⟩
    | _ => cases handling
  · intro failure unhandled
    cases failure with
    | targetUnreachable text => cases unhandled
    | _ => rfl

theorem walks_verify : Walks (Logged.handle (Logged.call steps.verify) verifyFailed)
    [⟨failureOf steps.verify, verifyCaught⟩] := by
  refine walks_handled ?_ ?_
  · intro failure recovery handling
    cases failure with
    | targetUnreachable text | targetAuth text =>
        cases handling
        exact ⟨rfl, text, rfl⟩
    | _ => cases handling
  · intro failure unhandled
    cases failure with
    | targetUnreachable text | targetAuth text => cases unhandled
    | _ => rfl

theorem walks_checkTarget : Walks (checkTarget env steps host) (targetCalls env steps host) := by
  unfold checkTarget targetCalls
  refine walks_probe.cons fun _ _ => ?_
  by_cases shell : host.protocol = .ssh
  · rw [if_pos shell, if_pos shell]
    exact walks_resolve.cons fun _ _ => walks_verify
  · rw [if_neg shell, if_neg shell]
    exact walks_pure

def refusedToken : Except String String → Prop
  | .error _ => True
  | .ok _ => False

theorem walks_token {built : BuiltConnection} :
    WalksTo refusedToken (Logged.handle (do
      let token ← Logged.call steps.token
      return .ok (clientUrl config built.name token)) tokenFailed)
      [⟨failureOf steps.token, tokenCaught⟩] := by
  cases outcome : steps.token with
  | ok token => exact ⟨⟨_, rfl, id⟩, not_given_nil⟩
  | error failure =>
      cases failure with
      | guacamoleClient text => exact .inr ⟨_, rfl, trivial⟩
      | guacamoleBuild text => exact .inl ⟨text, rfl⟩
      | _ => exact ⟨⟨_, rfl, rfl⟩, not_given_nil⟩

theorem walks_connected (config : GuacamoleConfig) (chain : List Host) (jumped : host.jumpHostId ≠ none) :
    WalksTo refusedToken (connection env steps host chain true >>= exchange config steps)
      (leasedCalls env steps host) := by
  unfold leasedCalls
  have connected : Walks (connection env steps host chain true)
      (targetCalls env steps host ++
        [⟨failureOf (loginOutcome env (env.credentialOf host)), buildCaught⟩]) := by
    unfold connection
    rw [if_neg jumped, if_pos rfl]
    refine walks_checkTarget.bind fun _ _ => ?_
    exact walks_resolve.cons fun _ _ => walks_pure
  have exchanged (built : BuiltConnection) : WalksTo refusedToken (exchange config steps built)
      [⟨failureOf steps.loadKey, buildCaught⟩, ⟨failureOf steps.encode, buildCaught⟩,
        ⟨failureOf steps.token, tokenCaught⟩] := by
    unfold exchange
    exact walks_call.cons fun _ _ => walks_call.cons fun _ _ => walks_token
  have walked := connected.bind fun built _ => exchanged built
  rwa [List.append_assoc] at walked

theorem settle_refused {text : String} : Given (settle config steps true (.error text)).log :=
  .inl List.mem_cons_self

theorem settle_connected {url : String} :
    Given (settle config steps true (.ok url)).log ↔ steps.register.toOption.isSome = true := by
  cases registered : steps.register with
  | ok _ =>
      have kept : (settle config steps true (.ok url)).log = [.registered config.sessionTtlSeconds] := by
        simp [settle, registerSession, registered, Logged.call, Logged.bind_of_ok]
      rw [kept]
      exact iff_of_true (.inr ⟨_, List.mem_cons_self⟩) rfl
  | error failure =>
      have lost : (settle config steps true (.ok url)).log = [] := by
        simp [settle, registerSession, registered, Logged.call, Logged.bind_of_error]
      rw [lost]
      exact iff_of_false not_given_nil Bool.false_ne_true

theorem buildFailed_none {failure : ConnectFailure} (uncaught : buildCaught failure = false) :
    (buildFailed failure : Option (Connecting (Except String Value))) = none := by
  cases failure with
  | guacamoleBuild text => cases uncaught
  | _ => rfl

theorem tryConnect_ok {outcome : Except String String}
    (returned : (connection env steps host chain true >>= exchange config steps).result = .ok outcome) :
    tryConnect env config steps host chain true =
      (connection env steps host chain true >>= exchange config steps) :=
  Logged.handle_of_ok returned

/-- After the lease, the request gives it back or registers it exactly when the
first exception is handled. -/
theorem leased_given_iff (jumped : host.jumpHostId ≠ none) :
    Given (tryConnect env config steps host chain true >>= settle config steps true).log ↔
      handled env steps host = true := by
  have walked : WalksTo refusedToken (connection env steps host chain true >>= exchange config steps)
      (leasedCalls env steps host) := walks_connected config chain jumped
  have refused (text : String)
      (ended : (tryConnect env config steps host chain true).result = .ok (.error text)) :
      Given (tryConnect env config steps host chain true >>= settle config steps true).log := by
    rw [Logged.bind_of_ok ended]
    exact given_append.mpr (.inr settle_refused)
  unfold WalksTo at walked
  unfold handled
  cases raised : firstRaise (leasedCalls env steps host) with
  | none =>
      simp only [raised] at walked
      obtain ⟨⟨value, returned, connected⟩, kept⟩ := walked
      cases value with
      | error text => exact absurd trivial connected
      | ok url =>
          rw [tryConnect_ok returned, Logged.bind_of_ok returned, given_append, settle_connected]
          simp [kept]
  | some caught =>
      cases caught with
      | true =>
          simp only [raised] at walked
          refine iff_of_true ?_ rfl
          rcases walked with ⟨text, failed⟩ | ⟨value, returned, standsIn⟩
          · refine refused text ?_
            have handling : buildFailed (.guacamoleBuild text) =
                some (pure (.error text) : Connecting (Except String String)) := rfl
            exact congrArg Logged.result (Logged.handle_of_some failed handling)
          · cases value with
            | error text => exact refused text (by rw [tryConnect_ok returned, returned])
            | ok url => exact absurd standsIn id
      | false =>
          simp only [raised] at walked
          obtain ⟨⟨failure, failed, uncaught⟩, kept⟩ := walked
          have lost : tryConnect env config steps host chain true =
              (connection env steps host chain true >>= exchange config steps) :=
            Logged.handle_of_none failed (buildFailed_none uncaught)
          rw [lost, Logged.bind_of_error failed]
          exact iff_of_false kept nofun

structure Acquires (walk : Connecting Bool) : Prop where
  kept : ¬ Given walk.log
  leased : .acquired ∈ walk.log → walk.result = .ok true

theorem Acquires.quiet {walk : Connecting Bool} (quiet : walk.log = []) : Acquires walk := by
  constructor
  · rw [quiet]
    exact not_given_nil
  · rw [quiet]
    exact fun listed => absurd listed List.not_mem_nil

theorem acquire_acquires : Acquires (acquire env steps host) := by
  have resolving : ¬ Given (buildChain env host).log ∧ .acquired ∉ (buildChain env host).log := by
    rw [buildChain_log]
    exact ⟨not_given_resolved, by simp⟩
  unfold acquire
  cases built : (buildChain env host).result with
  | error failure =>
      rw [Logged.bind_of_error built]
      exact ⟨resolving.1, fun listed => absurd listed resolving.2⟩
  | ok hops =>
      rw [Logged.bind_of_ok built]
      by_cases direct : hops.1.isEmpty = true
      · simp only [if_pos direct]
        constructor
        · exact fun given => (given_append.mp given).elim resolving.1 not_given_nil
        · exact fun listed => absurd ((List.mem_append.mp listed).resolve_right List.not_mem_nil) resolving.2
      · simp only [if_neg direct]
        cases opened : steps.opened with
        | error failure =>
            constructor
            · exact fun given => (given_append.mp given).elim resolving.1 not_given_nil
            · exact fun listed =>
                absurd ((List.mem_append.mp listed).resolve_right List.not_mem_nil) resolving.2
        | ok _ =>
            refine ⟨?_, fun _ => rfl⟩
            have granted : ¬ Given [.acquired] := by simp [Given]
            exact fun given => (given_append.mp given).elim resolving.1 granted

theorem acquireFailed_raises {Value : Type} {failure : ConnectFailure} {recovery : Connecting Value}
    (handling : acquireFailed failure = some recovery) : recovery.log = [] := by
  cases failure <;> cases handling <;> rfl

theorem openTunnel_acquires : Acquires (openTunnel env steps host chain) := by
  unfold openTunnel
  split
  · exact .quiet rfl
  split
  · exact .quiet rfl
  split
  · exact .quiet rfl
  split
  · exact .quiet rfl
  have acquires : Acquires (acquire env steps host) := acquire_acquires
  cases outcome : (acquire env steps host).result with
  | ok leased => rwa [Logged.handle_of_ok outcome]
  | error failure =>
      cases handling : (acquireFailed failure : Option (Connecting Bool)) with
      | none => rwa [Logged.handle_of_none outcome handling]
      | some recovery =>
          rw [Logged.handle_of_some outcome handling, acquireFailed_raises handling, List.append_nil]
          refine ⟨acquires.kept, fun listed => ?_⟩
          exact absurd (outcome.symm.trans (acquires.leased listed)) nofun

theorem openTunnel_jumped {leased : Bool} (opened : (openTunnel env steps host chain).result = .ok leased) :
    leased = true → host.jumpHostId ≠ none := by
  rintro rfl direct
  rw [openTunnel, if_pos direct] at opened
  cases opened

theorem connect_unopened {failure : ConnectFailure}
    (raised : (openTunnel env steps host chain).result = .error failure) :
    (connect env config steps host chain).log = (openTunnel env steps host chain).log := by
  have failed : (openTunnel env steps host chain >>= fun leased =>
      (pure (.ok leased) : Connecting (Except String Bool))) =
      ⟨(openTunnel env steps host chain).log, .error failure⟩ := Logged.bind_of_error raised
  rw [connect, failed]
  cases handling : (buildFailed failure : Option (Connecting (Except String Bool))) with
  | none => rw [Logged.handle_of_none rfl handling, Logged.bind_of_error rfl]
  | some recovery =>
      obtain ⟨text, rfl⟩ : ∃ text, recovery = pure (.error text) := by
        cases failure <;> cases handling
        exact ⟨_, rfl⟩
      rw [Logged.handle_of_some rfl handling, Logged.bind_of_ok rfl]
      exact (List.append_nil _).trans (List.append_nil _)

theorem connect_opened {leased : Bool} (opened : (openTunnel env steps host chain).result = .ok leased) :
    (connect env config steps host chain).log = (openTunnel env steps host chain).log ++
      (tryConnect env config steps host chain leased >>= settle config steps leased).log := by
  have returned : (openTunnel env steps host chain >>= fun leased =>
      (pure (.ok leased) : Connecting (Except String Bool))) =
      ⟨(openTunnel env steps host chain).log ++ [], .ok (.ok leased)⟩ := Logged.bind_of_ok opened
  rw [connect, returned, Logged.handle_of_ok rfl, Logged.bind_of_ok rfl, List.append_nil]

theorem rest_acquires_nothing {leased : Bool} :
    .acquired ∉ (tryConnect env config steps host chain leased >>= settle config steps leased).log := by
  have allows : Allows (· ≠ .acquired) env host chain := ⟨nofun, nofun, fun _ _ => nofun⟩
  have only : Logged.Only (· ≠ .acquired)
      (tryConnect env config steps host chain leased >>= settle config steps leased) :=
    allows.tryConnect.bind fun _ _ => allows.settle
  exact fun listed => only .acquired listed rfl

theorem connect_given_iff (leased : .acquired ∈ (connect env config steps host chain).log) :
    Given (connect env config steps host chain).log ↔ handled env steps host = true := by
  have acquires : Acquires (openTunnel env steps host chain) := openTunnel_acquires
  cases outcome : (openTunnel env steps host chain).result with
  | error failure =>
      rw [connect_unopened outcome] at leased
      exact absurd (outcome.symm.trans (acquires.leased leased)) nofun
  | ok opened =>
      rw [connect_opened outcome] at leased ⊢
      have listed := (List.mem_append.mp leased).resolve_right rest_acquires_nothing
      obtain rfl : opened = true := Except.ok.inj (outcome.symm.trans (acquires.leased listed))
      have jumped : host.jumpHostId ≠ none := openTunnel_jumped outcome rfl
      have rest : Given (tryConnect env config steps host chain true >>= settle config steps true).log ↔
          handled env steps host = true := leased_given_iff jumped
      rw [given_append, ← rest]
      exact or_iff_right acquires.kept

theorem unprovisioned_leaseless {user : User} {creds : List (Option Credential)} :
    .acquired ∉ (firstUnprovisionedDynamic env user creds).log ∧
      ¬ Given (firstUnprovisionedDynamic env user creds).log := by
  have resolves {event : ConnectEvent} (listed : event ∈ (firstUnprovisionedDynamic env user creds).log) :
      ∃ cred, event = .resolved cred := by
    obtain ⟨cred, isResolved, _⟩ := firstUnprovisioned_only_resolves event listed
    exact ⟨cred, isResolved⟩
  refine ⟨fun listed => ?_, ?_⟩
  · obtain ⟨cred, isResolved⟩ := resolves listed
    cases isResolved
  · rintro (listed | ⟨ttlSeconds, listed⟩)
    · obtain ⟨cred, isResolved⟩ := resolves listed
      cases isResolved
    · obtain ⟨cred, isResolved⟩ := resolves listed
      cases isResolved

end Leases

/-- A request that got a lease gives it back or registers it exactly when the first
exception after the lease, if there is one, is handled where it is raised. -/
theorem lease_given_iff_handled {env : Environment} {config : GuacamoleConfig} {steps : Steps} {user : User}
    {switched : Option Int} {hostId : Int} {host : Host}
    (found : getScoped env.db.hosts hostId (activeTenantId user switched) = some host)
    (leased : .acquired ∈ (hostConnect env config steps user switched hostId).log) :
    Given (hostConnect env config steps user switched hostId).log ↔
      handled (env.connectingAs (some user.id)) steps host = true := by
  have recorded : (hostConnect env config steps user switched hostId).log = [] ∨ _ := hostConnect_log
  rcases recorded with quiet | ⟨target, chain, targeted, _, _, stopped | connected⟩
  · rw [quiet] at leased
    exact absurd leased List.not_mem_nil
  · rw [stopped] at leased
    exact absurd leased unprovisioned_leaseless.1
  · obtain rfl : host = target := Option.some.inj (found.symm.trans targeted)
    rw [connected] at leased ⊢
    have listed := (List.mem_append.mp leased).resolve_left unprovisioned_leaseless.1
    rw [given_append, connect_given_iff listed]
    exact or_iff_right unprovisioned_leaseless.2


/-! A request for a host behind a jumpbox, by its steps after the lease. -/

def sharedLogin : Credential where
  id := 1
  tenantId := 1
  name := "ops"
  kind := .login
  username := some "ops"
  domain := none
  secretRef := "t/acme/credentials/ops"
  ownerId := none
  visibility := .shared
  orgUnitId := none

def jumpbox : Host where
  id := 1
  tenantId := 1
  name := "box"
  hostname := "10.0.0.1"
  port := 22
  protocol := .ssh
  description := none
  credentialId := some 1
  jumpHostId := none
  isJumpbox := true
  ftMethod := none
  ftPort := none
  ftCredentialId := none
  orgUnitId := none

def behindBox : Host :=
  { jumpbox with id := 2, name := "web", hostname := "10.0.0.2", jumpHostId := some 1, isJumpbox := false }

def acmeEnvironment : Environment where
  world := {
    db := {
      credentials := Table.empty.insert fun id => { sharedLogin with id }
      hosts := (Table.empty.insert fun id => { jumpbox with id }).insert fun id => { behindBox with id } }
    secrets := (∅ : Secrets.Backend).insert "t/acme/credentials/ops" "hunter2"
    connectingUser := none }
  decode := fun _ => none

def acmeConfig : GuacamoleConfig where
  enabled := true
  baseUrl := "http://127.0.0.1:8080/guacamole"
  publicUrl := none
  sessionTtlSeconds := 1800

def acmeOperator : User where
  id := 5
  role := .operator
  tenantId := some 1

def smooth : Steps where
  opened := .ok ()
  probe := .ok ()
  verify := .ok ()
  preflight := .ok ()
  loadKey := .ok ()
  encode := .ok ()
  token := .ok "0f3a"
  register := .ok ()

theorem smooth_lease_registered :
    Given (hostConnect acmeEnvironment acmeConfig smooth acmeOperator none 2).log ↔
      handled (acmeEnvironment.connectingAs (some 5)) smooth behindBox = true :=
  lease_given_iff_handled (by decide) (by decide)

def spoiledKey : Steps :=
  { smooth with loadKey := .error (.authJson ("key file /srv/dosm/config/guacamole.key is not valid hex: " ++
      "non-hexadecimal number found in fromhex() arg at position 0")) }

/-- With a spoiled key file the request ends in an exception and the lease stays
where nobody can give it back. -/
theorem spoiled_key_leaks_lease :
    (hostConnect acmeEnvironment acmeConfig spoiledKey acmeOperator none 2).log =
        [.resolved sharedLogin, .resolved sharedLogin, .acquired, .resolved sharedLogin,
          .resolved sharedLogin] ∧
      ¬ Given (hostConnect acmeEnvironment acmeConfig spoiledKey acmeOperator none 2).log := by
  have recorded : (hostConnect acmeEnvironment acmeConfig spoiledKey acmeOperator none 2).log =
      [.resolved sharedLogin, .resolved sharedLogin, .acquired, .resolved sharedLogin,
        .resolved sharedLogin] := by decide
  refine ⟨recorded, ?_⟩
  rw [recorded]
  simp [Given]

end Dosm.Guacamole
