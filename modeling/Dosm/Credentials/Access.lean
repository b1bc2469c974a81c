import Dosm.Base.Logged
import Dosm.Credentials.Routes
import Dosm.Jumps.Connections

namespace Dosm.Credentials

open Models Python Web Jumps

/-! Who may use a credential, and what opening a connection reads.

Resolving a credential is on record when a secret comes out of the backend. The
backend raises for a path it does not have and, as the environment decides, for
other reasons.
-/

/-- A signed-in user; a platform administrator has no tenant. -/
structure User where
  id : Nat
  role : Role
  tenantId : Option Int
  deriving DecidableEq

/-- `resolve_tenant_id`, with the tenant the session has switched to. -/
def activeTenantId (user : User) (switched : Option Int) : Option Int :=
  if user.role.atLeast .platformAdmin then switched else user.tenantId

def User.caller (user : User) (tid : Option Int) : Caller where
  tid
  userId := user.id
  role := user.role

def canUseCredential (user : User) (cred : Credential) : Bool :=
  if user.tenantId.any (· ≠ cred.tenantId) then false
  else canSeeCredential (user.caller user.tenantId) cred

def firstUnusableCredential (user : User) (creds : List (Option Credential)) : Option Credential :=
  (creds.filterMap id).find? fun cred => !canUseCredential user cred

inductive ConnectFailure where
  | http (status : Nat) (detail : String)
  | secretNotFound (path : String)
  | dynamicCredential (message : String)
  | runtime (message : String)
  | guacamoleBuild (message : String)
  | guacamoleClient (message : String)
  | jumpUnreachable (message : String)
  | jumpAuth (message : String)
  | targetUnreachable (message : String)
  | targetAuth (message : String)
  | authJson (message : String)
  | fileTransfer (message : String)
  | metrics (message : String)
  | refused (summary : String)
  /-- A websocket is closed with a code. -/
  | closed (code : Nat)
  /-- Any other exception, by its class. -/
  | other (name message : String)
  /-- What `except Exception` lets through. -/
  | cancelled
  /-- The loop over the jump hosts does not end. -/
  | endless
  deriving DecidableEq

inductive ConnectEvent where
  | resolved (cred : Credential)
  | acquired
  | released
  | registered (ttlSeconds : Nat)
  deriving DecidableEq

abbrev Connecting := Logged ConnectEvent ConnectFailure

structure Environment where
  world : World
  decode : String → Option (String × String)
  /-- What the backend raises for a path, other than that it has nothing there. -/
  faults : String → Option ConnectFailure := fun _ => none

namespace Environment

def db (env : Environment) : Database := env.world.db

def credentialOf (env : Environment) (host : Host) : Option Credential :=
  host.credentialId.bind env.db.credentials.get

def connectingAs (env : Environment) (user : Option Nat) : Environment :=
  { env with world := { env.world with connectingUser := user } }

end Environment

def ofJumpError : JumpError → ConnectFailure
  | .dynamicCredential message => .dynamicCredential message
  | .runtime message => .runtime message
  | .endless => .endless

def getStr (env : Environment) (path : String) : Except ConnectFailure String :=
  match env.faults path with
  | some failure => .error failure
  | none =>
      match env.world.secrets.lookup path with
      | none => .error (.secretNotFound path)
      | some secret => .ok secret

def secretPath (env : Environment) (cred : Credential) : Option String :=
  if cred.kind = .dynamic then env.world.connectingUser.map (Secrets.userPath cred)
  else some cred.secretRef

def faulted (env : Environment) (cred : Credential) : Option ConnectFailure :=
  (secretPath env cred).bind env.faults

/-- A secret handed out for a credential, or the failure instead. -/
def onRecord {Secret : Type} (cred : Option Credential) (outcome : Except ConnectFailure Secret) :
    Connecting Secret :=
  match outcome, cred with
  | .error failure, _ => Logged.raise failure
  | .ok secret, none => return secret
  | .ok secret, some cred => do
      Logged.record (.resolved cred)
      return secret

/-- `_resolve_creds`: a host's login from its own credential. -/
def hopOutcome (env : Environment) (host : Host) : Except ConnectFailure HopCreds :=
  match (env.credentialOf host).bind (faulted env) with
  | some failure => .error failure
  | none => (resolveCreds env.decode env.world host).mapError ofJumpError

def hopCreds (env : Environment) (host : Host) : Connecting HopCreds :=
  onRecord (env.credentialOf host) (hopOutcome env host)

def jumpChain (env : Environment) (host : Host) : Option (List Host) :=
  Hosts.resolveJumpChain env.db (env.db.hosts.rows.length + 1) host

/-- `build_jump_chain`: the hops, outermost first, and the target. -/
def buildChain (env : Environment) (host : Host) : Connecting (List HopCreds × HopCreds) :=
  match jumpChain env host with
  | none => Logged.raise .endless
  | some chain => do
      let jumpHops ← Logged.forEach (hopCreds env) chain
      let target ← hopCreds env host
      return (jumpHops, target)

/-- Whether a credential, where there is one, gives its secret. -/
def readable (env : Environment) (host : Host) : Bool := (hopOutcome env host).toOption.isSome

/-- The credentials of hosts that are resolved in turn, up to the first that gives
no secret. -/
def resolvedInTurn (env : Environment) (hosts : List Host) : List Credential :=
  (hosts.takeWhile (readable env)).filterMap env.credentialOf

def chainCredentials (env : Environment) (host : Host) : List Credential :=
  match jumpChain env host with
  | none => []
  | some chain => resolvedInTurn env (chain ++ [host])

def chainReadable (env : Environment) (host : Host) : Bool :=
  match jumpChain env host with
  | none => false
  | some chain => (chain ++ [host]).all (readable env)

def Reads {Value : Type} (attempt : Connecting Value) (creds : List Credential) : Prop :=
  ∀ cred, .resolved cred ∈ attempt.log ↔ cred ∈ creds

def readOf {Secret : Type} (holder : Option Credential) (outcome : Except ConnectFailure Secret) :
    List Credential :=
  if outcome.toOption.isSome then holder.toList else []

/-- What is read after the checks at the start, if they pass. -/
def readsOf {Value : Type} (start : Except ConnectFailure Value) (reads : Value → List Credential) :
    List Credential :=
  match start with
  | .error _ => []
  | .ok value => reads value

section Access

variable {env : Environment} {host : Host} {hosts : List Host} {cred : Credential} {user : User}
  {creds : List (Option Credential)} {Secret : Type} {outcome : Except ConnectFailure Secret}

theorem firstUnusable_none (clear : firstUnusableCredential user creds = none)
    (listed : some cred ∈ creds) : canUseCredential user cred = true := by
  have member : cred ∈ creds.filterMap id := List.mem_filterMap.mpr ⟨some cred, listed, rfl⟩
  simpa using List.find?_eq_none.mp clear cred member

@[simp] theorem onRecord_result {holder : Option Credential} : (onRecord holder outcome).result = outcome := by
  cases outcome with
  | error failure => rfl
  | ok secret => cases holder <;> rfl

theorem onRecord_log {holder : Option Credential} : (onRecord holder outcome).log =
    if outcome.toOption.isSome then (holder.map ConnectEvent.resolved).toList else [] := by
  cases outcome with
  | error failure => rfl
  | ok secret => cases holder <;> rfl

theorem hopCreds_succeeds : (hopCreds env host).succeeds = readable env host := by
  rw [Logged.succeeds, hopCreds, onRecord_result, readable]

theorem hopCreds_log : (hopCreds env host).log =
    if readable env host then ((env.credentialOf host).map ConnectEvent.resolved).toList else [] :=
  onRecord_log

theorem forEach_hopCreds_log : (Logged.forEach (hopCreds env) hosts).log =
    (resolvedInTurn env hosts).map .resolved := by
  have quiet (host : Host) (failed : (hopCreds env host).succeeds = false) :
      (hopCreds env host).log = [] := by
    rw [hopCreds_succeeds] at failed
    rw [hopCreds_log, failed]
    rfl
  rw [Logged.forEach_log quiet]
  simp only [hopCreds_succeeds, resolvedInTurn]
  induction hosts with
  | nil => rfl
  | cons host rest ih =>
      cases ready : readable env host with
      | false => rw [List.takeWhile_cons_of_neg (by simp [ready])]; rfl
      | true =>
          rw [List.takeWhile_cons_of_pos ready, List.flatMap_cons, ih, hopCreds_log, if_pos ready]
          cases holder : env.credentialOf host with
          | none => rw [List.filterMap_cons_none holder]; rfl
          | some cred => rw [List.filterMap_cons_some holder]; rfl

theorem resolvedInTurn_append {more : List Host} : resolvedInTurn env (hosts ++ more) =
    resolvedInTurn env hosts ++ if hosts.all (readable env) then resolvedInTurn env more else [] := by
  induction hosts with
  | nil => rfl
  | cons host rest ih =>
      unfold resolvedInTurn at ih ⊢
      rw [List.cons_append, List.takeWhile_cons, List.takeWhile_cons, List.all_cons]
      cases ready : readable env host with
      | false => rfl
      | true =>
          rw [Bool.true_and, if_pos rfl, if_pos rfl]
          cases holder : env.credentialOf host with
          | none => rw [List.filterMap_cons_none holder, List.filterMap_cons_none holder, ih]
          | some cred =>
              rw [List.filterMap_cons_some holder, List.filterMap_cons_some holder, ih, List.cons_append]

theorem forEach_hopCreds_succeeds :
    (Logged.forEach (hopCreds env) hosts).succeeds = hosts.all (readable env) := by
  simp only [Logged.forEach_succeeds, hopCreds_succeeds]

theorem buildChain_succeeds : (buildChain env host).succeeds = chainReadable env host := by
  unfold buildChain chainReadable
  cases hops : jumpChain env host with
  | none => rfl
  | some chain =>
      dsimp only
      rw [List.all_append, List.all_cons, List.all_nil, Bool.and_true, ← forEach_hopCreds_succeeds]
      cases done : (Logged.forEach (hopCreds env) chain).succeeds with
      | false => exact Logged.bind_succeeds_of_fails done
      | true =>
          obtain ⟨jumpHops, collected⟩ := Logged.succeeds_iff.mp done
          rw [Logged.bind_succeeds_of_ok collected, Logged.bind_pure_succeeds, hopCreds_succeeds,
            Bool.true_and]

theorem buildChain_log : (buildChain env host).log = (chainCredentials env host).map .resolved := by
  unfold buildChain chainCredentials
  cases hops : jumpChain env host with
  | none => rfl
  | some chain =>
      dsimp only
      rw [resolvedInTurn_append, List.map_append, ← forEach_hopCreds_log, ← forEach_hopCreds_succeeds]
      cases done : (Logged.forEach (hopCreds env) chain).succeeds with
      | false =>
          rw [Logged.bind_log_of_fails done]
          exact (List.append_nil _).symm
      | true =>
          obtain ⟨jumpHops, collected⟩ := Logged.succeeds_iff.mp done
          have last : (Logged.forEach (hopCreds env) [host]).log = (hopCreds env host).log :=
            (Logged.bind_pure_log : (hopCreds env host >>= fun hop => pure [hop]).log = _)
          rw [Logged.bind_of_ok collected, Logged.bind_pure_log, if_pos rfl, ← forEach_hopCreds_log, last]

end Access

section Reads

variable {Value Next : Type} {walk : Connecting Value} {next : Value → Connecting Next}
  {creds more : List Credential} {env : Environment} {host : Host}

theorem reads_of_quiet (quiet : walk.log = []) : Reads walk [] := by
  intro cred
  rw [quiet]
  simp

theorem reads_onRecord {holder : Option Credential} {outcome : Except ConnectFailure Value} :
    Reads (onRecord holder outcome) (readOf holder outcome) := by
  intro cred
  rw [onRecord_log, readOf]
  split
  · cases holder <;> simp
  · simp

theorem reads_buildChain : Reads (buildChain env host) (chainCredentials env host) := by
  intro cred
  rw [buildChain_log]
  simp

theorem Reads.bind {goesOn : Bool} (before : Reads walk creds) (same : walk.succeeds = goesOn)
    (after : ∀ value, walk.result = .ok value → Reads (next value) more) :
    Reads (walk >>= next) (creds ++ if goesOn then more else []) := by
  subst same
  intro cred
  cases outcome : walk.result with
  | error failure =>
      have failed : walk.succeeds = false := by rw [Logged.succeeds, outcome]; rfl
      rw [Logged.bind_of_error outcome, failed]
      simpa using before cred
  | ok value =>
      rw [Logged.bind_of_ok outcome, Logged.succeeds_iff.mpr ⟨value, outcome⟩, if_pos rfl, List.mem_append,
        List.mem_append, before cred, after value outcome cred]

theorem Reads.bind_within (before : Reads walk creds)
    (after : ∀ value, walk.result = .ok value → ∀ cred, .resolved cred ∈ (next value).log → cred ∈ creds) :
    Reads (walk >>= next) creds := by
  intro cred
  cases outcome : walk.result with
  | error failure =>
      rw [Logged.bind_of_error outcome]
      exact before cred
  | ok value =>
      rw [Logged.bind_of_ok outcome, List.mem_append, before cred]
      exact or_iff_left_of_imp (after value outcome cred)

theorem Reads.bind_quiet (before : Reads walk creds)
    (quiet : ∀ value, walk.result = .ok value → (next value).log = []) : Reads (walk >>= next) creds :=
  before.bind_within fun value returned cred listed => by
    rw [quiet value returned] at listed
    cases listed

theorem Reads.handle {handler : ConnectFailure → Option (Connecting Value)} (reads : Reads walk creds)
    (quiet : ∀ failure recovery, handler failure = some recovery → recovery.log = []) :
    Reads (Logged.handle walk handler) creds := by
  cases outcome : walk.result with
  | ok value => rwa [Logged.handle_of_ok outcome]
  | error failure =>
      cases handling : handler failure with
      | none => rwa [Logged.handle_of_none outcome handling]
      | some recovery =>
          rw [Logged.handle_of_some outcome handling, quiet failure recovery handling, List.append_nil]
          exact reads

theorem reads_start {start : Except ConnectFailure Value} {reads : Value → List Credential}
    (after : ∀ value, Reads (next value) (reads value)) :
    Reads (Logged.call start >>= next) (readsOf start reads) := by
  cases start with
  | error failure => exact reads_of_quiet rfl
  | ok value => exact fun cred => after value cred

end Reads

end Dosm.Credentials
