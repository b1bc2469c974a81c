import Dosm.Credentials.Access

namespace Dosm.Guacamole

open Models Python Web Jumps Credentials

/-! Opening a host in the browser: `host_connect` with its callees.

What the network, the key file and the Guacamole server do is an outcome given in
advance, one for each call. The parameters of a built connection are left out.
-/

/-- What each call of a connect request returns or raises. -/
structure Steps where
  /-- Opening the jump chain and the forward. -/
  opened : Except ConnectFailure Unit
  probe : Except ConnectFailure Unit
  verify : Except ConnectFailure Unit
  /-- The probe of a host without jumps. -/
  preflight : Except ConnectFailure Unit
  loadKey : Except ConnectFailure Unit
  encode : Except ConnectFailure Unit
  token : Except ConnectFailure String
  register : Except ConnectFailure Unit

structure GuacamoleConfig where
  enabled : Bool
  baseUrl : String
  publicUrl : Option String
  sessionTtlSeconds : Nat

structure Login where
  username : Option String
  password : Option String
  sshKey : Option String
  domain : Option String

structure BuiltConnection where
  name : String
  protocol : Protocol

structure Page where
  iframeUrl : Option String
  error : Option String
  deriving DecidableEq

/-- `str` of a caught exception. -/
def message : ConnectFailure → String
  | .http _ text | .secretNotFound text | .dynamicCredential text | .runtime text
  | .guacamoleBuild text | .guacamoleClient text | .jumpUnreachable text | .jumpAuth text
  | .targetUnreachable text | .targetAuth text | .authJson text | .fileTransfer text
  | .metrics text | .refused text | .other _ text => text
  | .closed _ | .cancelled | .endless => ""

/-- `isinstance(e, RuntimeError)`. -/
def isRuntimeError : ConnectFailure → Bool
  | .runtime _ | .dynamicCredential _ | .guacamoleBuild _ | .guacamoleClient _ | .authJson _
  | .metrics _ => true
  | _ => false

def loginOutcome (env : Environment) : Option Credential → Except ConnectFailure Login
  | none => .ok { username := none, password := none, sshKey := none, domain := none }
  | some cred =>
      match faulted env cred with
      | some failure => .error failure
      | none =>
          if cred.kind = .dynamic then
            match resolveDynamic env.decode env.world cred with
            | .error failure => .error (.guacamoleBuild (message (ofJumpError failure)))
            | .ok (username, password) =>
                .ok { username := some username, password := some password, sshKey := none, domain := none }
          else
            match env.world.secrets.lookup cred.secretRef with
            | none =>
                .error (.guacamoleBuild ("credential " ++ Python.repr cred.name ++ " secret_ref " ++
                  Python.repr cred.secretRef ++ " missing"))
            | some secret =>
                if cred.kind = .sshKey then
                  .ok { username := cred.username, password := none, sshKey := some secret, domain := none }
                else
                  .ok {
                    username := cred.username
                    password := some secret
                    sshKey := none
                    domain := cred.domain }

/-- The builder's `_resolve_credential`. -/
def resolveCredential (env : Environment) (cred : Option Credential) : Connecting Login :=
  onRecord cred (loginOutcome env cred)

def buildConnection (env : Environment) (host : Host) (gateway : Option Host) :
    Connecting BuiltConnection := do
  let _ ← resolveCredential env (env.credentialOf host)
  match gateway with
  | none => return { name := host.name, protocol := host.protocol }
  | some gateway => do
      let _ ← resolveCredential env (env.credentialOf gateway)
      return { name := host.name, protocol := host.protocol }

/-- The lease manager's `acquire`: whether there is a lease. -/
def acquire (env : Environment) (steps : Steps) (host : Host) : Connecting Bool := do
  let (jumpHops, _) ← buildChain env host
  if jumpHops.isEmpty then return false
  else do
    Logged.call steps.opened
    Logged.record .acquired
    return true

/-- `except JumpUnreachableError`, `except JumpAuthError`, `except Exception`. -/
def acquireFailed {Value : Type} : ConnectFailure → Option (Connecting Value)
  | .cancelled | .endless => none
  | .jumpUnreachable text | .jumpAuth text => some (Logged.raise (.guacamoleBuild text))
  | failure => some (Logged.raise (.guacamoleBuild ("failed to open jump tunnel: " ++ message failure)))

def throughGateway (host : Host) (chain : List Host) : Option Host :=
  chain.getLast?.filter fun jump => host.protocol = .rdp && jump.protocol = .rdp

def nonSshNames (chain : List Host) : String :=
  String.intercalate ", " <| (chain.filter fun hop => hop.protocol ≠ .ssh).map fun hop =>
    Python.repr hop.name ++ " (" ++ hop.protocol.name ++ ")"

def openTunnel (env : Environment) (steps : Steps) (host : Host) (chain : List Host) : Connecting Bool :=
  if host.jumpHostId = none then return false
  else if chain.isEmpty then Logged.raise (.other "IndexError" "list index out of range")
  else if (throughGateway host chain).isSome then return false
  else if chain.any fun hop => hop.protocol ≠ .ssh then
    Logged.raise (.guacamoleBuild ("jump chain has non-SSH hops: " ++ nonSshNames chain ++
      ". DOSM tunnels via SSH local-port-forward; RDP-gateway-style chaining requires an " ++
      "RDP jumpbox and an RDP target."))
  else Logged.handle (acquire env steps host) acquireFailed

def releaseAndRaise (text : String) : Connecting Unit := do
  Logged.record .released
  Logged.raise (.guacamoleBuild text)

def probeFailed : ConnectFailure → Option (Connecting Unit)
  | .targetUnreachable text => some (releaseAndRaise text)
  | _ => none

def verifyFailed : ConnectFailure → Option (Connecting Unit)
  | .targetUnreachable text | .targetAuth text => some (releaseAndRaise text)
  | _ => none

def preflightFailed : ConnectFailure → Option (Connecting Unit)
  | .targetUnreachable text | .targetAuth text => some (Logged.raise (.guacamoleBuild text))
  | failure =>
      if isRuntimeError failure then some (Logged.raise (.guacamoleBuild (message failure))) else none

def preflightDirect (env : Environment) (steps : Steps) (host : Host) : Connecting Unit := do
  let _ ← hopCreds env host
  Logged.call steps.preflight

/-- The checks of a target that is reached through a lease. -/
def checkTarget (env : Environment) (steps : Steps) (host : Host) : Connecting Unit := do
  Logged.handle (Logged.call steps.probe) probeFailed
  if host.protocol = .ssh then do
    let _ ← resolveCredential env (env.credentialOf host)
    Logged.handle (Logged.call steps.verify) verifyFailed
  else return ()

def connection (env : Environment) (steps : Steps) (host : Host) (chain : List Host) (leased : Bool) :
    Connecting BuiltConnection :=
  if host.jumpHostId = none then do
    Logged.handle (preflightDirect env steps host) preflightFailed
    buildConnection env host none
  else if leased then do
    checkTarget env steps host
    buildConnection env host none
  else buildConnection env host (throughGateway host chain)

def tokenFailed : ConnectFailure → Option (Connecting (Except String String))
  | .guacamoleClient text => some (return .error text)
  | _ => none

def base64Digit (sextet : Nat) : Char :=
  ("ABCDEFGHIJKLMNOPQRSTUVWXYZabcdefghijklmnopqrstuvwxyz0123456789+/".toList)[sextet % 64]?.getD '='

/-- `base64.b64encode`. -/
def b64encode : List UInt8 → List Char
  | first :: second :: third :: rest =>
      let group := first.toNat * 65536 + second.toNat * 256 + third.toNat
      base64Digit (group / 262144) :: base64Digit (group / 4096) :: base64Digit (group / 64) ::
        base64Digit group :: b64encode rest
  | [first, second] =>
      let group := first.toNat * 1024 + second.toNat * 4
      [base64Digit (group / 4096), base64Digit (group / 64), base64Digit group, '=']
  | [first] =>
      let group := first.toNat * 16
      [base64Digit (group / 64), base64Digit group, '=', '=']
  | [] => []

def buildConnectionId (connectionName source : String) : String :=
  String.ofList (b64encode (connectionName.toUTF8.toList ++ [0, 99, 0] ++ source.toUTF8.toList))

example : String.ofList (b64encode [119, 101, 98, 0, 99]) = "d2ViAGM=" := by decide

def clientUrl (config : GuacamoleConfig) (name token : String) : String :=
  let chosen := match config.publicUrl with
    | none | some "" => config.baseUrl
    | some url => url
  String.ofList (chosen.toList.rdropWhile (· = '/')) ++ "/#/client/" ++ buildConnectionId name "json" ++
    "?token=" ++ token

/-- The blob is encoded and exchanged for a session of the browser. -/
def exchange (config : GuacamoleConfig) (steps : Steps) (built : BuiltConnection) :
    Connecting (Except String String) := do
  Logged.call steps.loadKey
  Logged.call steps.encode
  Logged.handle (do
    let token ← Logged.call steps.token
    return .ok (clientUrl config built.name token)) tokenFailed

def buildFailed {Value : Type} : ConnectFailure → Option (Connecting (Except String Value))
  | .guacamoleBuild text => some (return .error text)
  | _ => none

def tryConnect (env : Environment) (config : GuacamoleConfig) (steps : Steps) (host : Host)
    (chain : List Host) (leased : Bool) : Connecting (Except String String) :=
  Logged.handle (do
    let built ← connection env steps host chain leased
    exchange config steps built) buildFailed

def giveBack (leased : Bool) : Connecting Unit :=
  if leased then Logged.record .released else return ()

def registerSession (config : GuacamoleConfig) (steps : Steps) (leased : Bool) : Connecting Unit :=
  if leased then do
    Logged.call steps.register
    Logged.record (.registered config.sessionTtlSeconds)
  else return ()

def settle (config : GuacamoleConfig) (steps : Steps) (leased : Bool) : Except String String → Connecting Page
  | .error text => do
      giveBack leased
      return { iframeUrl := none, error := some text }
  | .ok url => do
      registerSession config steps leased
      return { iframeUrl := some url, error := none }

def connect (env : Environment) (config : GuacamoleConfig) (steps : Steps) (host : Host)
    (chain : List Host) : Connecting Page := do
  let opened ← Logged.handle (do
    let leased ← openTunnel env steps host chain
    return .ok leased) buildFailed
  match opened with
  | .error text => settle config steps false (.error text)
  | .ok leased => do
      let outcome ← tryConnect env config steps host chain leased
      settle config steps leased outcome

/-- The first per-user credential for which the user has stored nothing. -/
def firstUnprovisionedDynamic (env : Environment) (user : User) :
    List (Option Credential) → Connecting (Option Credential)
  | [] => return none
  | none :: rest => firstUnprovisionedDynamic env user rest
  | some cred :: rest =>
      if cred.kind = .dynamic then
        match env.faults (Secrets.userPath cred user.id), getUserMaterial env.decode env.world cred user.id with
        | some failure, _ => Logged.raise failure
        | none, none => return some cred
        | none, some _ => do
            Logged.record (.resolved cred)
            firstUnprovisionedDynamic env user rest
      else firstUnprovisionedDynamic env user rest

def connectCredentials (env : Environment) (host : Host) (chain : List Host) : List (Option Credential) :=
  env.credentialOf host :: chain.map env.credentialOf

def disabledError : String :=
  "Guacamole is not enabled. Set guacamole.enabled: true in config.yaml and point " ++
    "guacamole.base_url at your Guacamole instance."

def hostConnect (env : Environment) (config : GuacamoleConfig) (steps : Steps) (user : User)
    (switched : Option Int) (hostId : Int) : Connecting Page :=
  if !user.role.atLeast .operator then Logged.raise (.http 403 "requires operator role")
  else
    match getScoped env.db.hosts hostId (activeTenantId user switched) with
    | none => Logged.raise (.http 404 "Not Found")
    | some host =>
        if !config.enabled then return { iframeUrl := none, error := some disabledError }
        else
          match jumpChain env host with
          | none => Logged.raise .endless
          | some chain =>
              match firstUnusableCredential user (connectCredentials env host chain) with
              | some blocked =>
                  Logged.raise (.http 403 ("host uses a private credential (" ++ Python.repr blocked.name ++
                    ") owned by another user; ask them to share it or use your own"))
              | none => do
                  match ← firstUnprovisionedDynamic env user (connectCredentials env host chain) with
                  | some missing =>
                      Logged.raise (.http 400 ("This host uses per-user (PIM) credentials (" ++
                        Python.repr missing.name ++ "). Open 'My Credentials' (/credentials/mine) " ++
                        "and add your username + password to connect."))
                  | none => connect (env.connectingAs (some user.id)) config steps host chain

theorem hostConnect_log {env : Environment} {config : GuacamoleConfig} {steps : Steps} {user : User}
    {switched : Option Int} {hostId : Int} : (hostConnect env config steps user switched hostId).log = [] ∨
    ∃ host chain, getScoped env.db.hosts hostId (activeTenantId user switched) = some host ∧
      jumpChain env host = some chain ∧ firstUnusableCredential user (connectCredentials env host chain) = none ∧
      ((hostConnect env config steps user switched hostId).log =
          (firstUnprovisionedDynamic env user (connectCredentials env host chain)).log ∨
        (hostConnect env config steps user switched hostId).log =
          (firstUnprovisionedDynamic env user (connectCredentials env host chain)).log ++
            (connect (env.connectingAs (some user.id)) config steps host chain).log) := by
  unfold hostConnect
  split
  · exact .inl rfl
  split
  · exact .inl rfl
  next host found =>
  split
  · exact .inl rfl
  split
  · exact .inl rfl
  next chain hops =>
  split
  · exact .inl rfl
  next clear =>
  refine .inr ⟨host, chain, found, hops, clear, ?_⟩
  cases outcome : (firstUnprovisionedDynamic env user (connectCredentials env host chain)).result with
  | error failure =>
      rw [Logged.bind_of_error outcome]
      exact .inl rfl
  | ok unprovisioned =>
      rw [Logged.bind_of_ok outcome]
      cases unprovisioned with
      | some missing => exact .inl (List.append_nil _)
      | none => exact .inr rfl

theorem firstUnprovisioned_only_resolves {env : Environment} {user : User}
    {creds : List (Option Credential)} :
    Logged.Only (fun event => ∃ cred, event = .resolved cred ∧ some cred ∈ creds)
      (firstUnprovisionedDynamic env user creds) := by
  induction creds with
  | nil => exact Logged.only_pure
  | cons held rest ih =>
      have later : Logged.Only (fun event => ∃ cred, event = .resolved cred ∧ some cred ∈ held :: rest)
          (firstUnprovisionedDynamic env user rest) := by
        intro event listed
        obtain ⟨cred, isResolved, member⟩ := ih event listed
        exact ⟨cred, isResolved, List.mem_cons_of_mem _ member⟩
      cases held with
      | none => exact later
      | some cred =>
          unfold firstUnprovisionedDynamic
          split
          · split
            · exact Logged.only_raise
            · exact Logged.only_pure
            · exact (Logged.only_record.mpr ⟨cred, rfl, List.mem_cons_self⟩).bind fun _ _ => later
          · exact later

/-! What a request leaves on record after the lease. -/

structure Allows (allowed : ConnectEvent → Prop) (env : Environment) (host : Host) (chain : List Host) :
    Prop where
  released : allowed .released
  registered : ∀ ttlSeconds, allowed (.registered ttlSeconds)
  resolved : ∀ cred, some cred ∈ connectCredentials env host chain → allowed (.resolved cred)

section Allows

variable {allowed : ConnectEvent → Prop} {env : Environment} {host gateway : Host} {chain : List Host}
  {steps : Steps} {config : GuacamoleConfig} {holder : Option Credential}

theorem only_onRecord {Secret : Type} {outcome : Except ConnectFailure Secret}
    (resolved : ∀ cred, holder = some cred → allowed (.resolved cred)) :
    Logged.Only allowed (onRecord holder outcome) := by
  unfold Logged.Only
  rw [onRecord_log]
  split
  · cases holder with
    | none => exact fun event listed => absurd listed List.not_mem_nil
    | some cred =>
        intro event listed
        obtain rfl : event = .resolved cred := List.mem_singleton.mp listed
        exact resolved cred rfl
  · exact fun event listed => absurd listed List.not_mem_nil

theorem Allows.target (allows : Allows allowed env host chain) :
    ∀ cred, env.credentialOf host = some cred → allowed (.resolved cred) :=
  fun cred held => allows.resolved cred (held ▸ List.mem_cons_self)

theorem Allows.hop (allows : Allows allowed env host chain) (member : gateway ∈ chain) :
    ∀ cred, env.credentialOf gateway = some cred → allowed (.resolved cred) :=
  fun cred held => allows.resolved cred
    (List.mem_cons_of_mem _ (List.mem_map.mpr ⟨gateway, member, held⟩))

theorem throughGateway_mem (through : throughGateway host chain = some gateway) : gateway ∈ chain :=
  List.mem_of_getLast? (Option.filter_eq_some_iff.mp through).1

theorem Allows.buildConnection (allows : Allows allowed env host chain) {through : Option Host}
    (listed : ∀ gateway, through = some gateway → gateway ∈ chain) :
    Logged.Only allowed (buildConnection env host through) := by
  refine (only_onRecord allows.target).bind fun _ _ => ?_
  cases through with
  | none => exact Logged.only_pure
  | some gateway =>
      exact (only_onRecord (allows.hop (listed gateway rfl))).bind fun _ _ => Logged.only_pure

theorem Allows.releaseAndRaise (allows : Allows allowed env host chain) {text : String} :
    Logged.Only allowed (releaseAndRaise text) :=
  (Logged.only_record.mpr allows.released).bind fun _ _ => Logged.only_raise

theorem Allows.checkTarget (allows : Allows allowed env host chain) :
    Logged.Only allowed (checkTarget env steps host) := by
  refine Logged.Only.bind (Logged.only_call.handle ?_) fun _ _ => ?_
  · intro failure recovery _ handling
    cases failure with
    | targetUnreachable text =>
        cases handling
        exact allows.releaseAndRaise
    | _ => cases handling
  · split
    · refine (only_onRecord allows.target).bind fun _ _ => Logged.only_call.handle ?_
      intro failure recovery _ handling
      cases failure with
      | targetUnreachable text | targetAuth text =>
          cases handling
          exact allows.releaseAndRaise
      | _ => cases handling
    · exact Logged.only_pure

theorem preflightFailed_raises {failure : ConnectFailure} {recovery : Connecting Unit}
    (handling : preflightFailed failure = some recovery) :
    ∃ text, recovery = Logged.raise (.guacamoleBuild text) := by
  unfold preflightFailed at handling
  split at handling
  · exact ⟨_, (Option.some.inj handling).symm⟩
  · exact ⟨_, (Option.some.inj handling).symm⟩
  · split at handling
    · exact ⟨_, (Option.some.inj handling).symm⟩
    · cases handling

theorem Allows.preflight (allows : Allows allowed env host chain) :
    Logged.Only allowed (Logged.handle (preflightDirect env steps host) preflightFailed) := by
  have read : Logged.Only allowed (hopCreds env host) := only_onRecord allows.target
  have probed : Logged.Only allowed (preflightDirect env steps host) := by
    unfold preflightDirect
    exact read.bind fun _ _ => Logged.only_call
  refine probed.handle ?_
  intro failure recovery _ handling
  obtain ⟨text, rfl⟩ := preflightFailed_raises handling
  exact Logged.only_raise

theorem Allows.connection (allows : Allows allowed env host chain) {leased : Bool} :
    Logged.Only allowed (connection env steps host chain leased) := by
  have direct : Logged.Only allowed (Guacamole.buildConnection env host none) :=
    allows.buildConnection fun _ absent => by cases absent
  unfold Guacamole.connection
  split
  · exact allows.preflight.bind fun _ _ => direct
  · split
    · exact allows.checkTarget.bind fun _ _ => direct
    · exact allows.buildConnection fun _ => throughGateway_mem

theorem only_exchange {built : BuiltConnection} : Logged.Only allowed (exchange config steps built) := by
  refine Logged.only_call.bind fun _ _ => Logged.only_call.bind fun _ _ => ?_
  refine (Logged.only_call.bind fun _ _ => Logged.only_pure).handle ?_
  intro failure recovery _ handling
  cases failure <;> cases handling
  exact Logged.only_pure

theorem only_buildFailed {Value : Type} {failure : ConnectFailure}
    {recovery : Connecting (Except String Value)} (handling : buildFailed failure = some recovery) :
    Logged.Only allowed recovery := by
  cases failure <;> cases handling
  exact Logged.only_pure

theorem Allows.tryConnect (allows : Allows allowed env host chain) {leased : Bool} :
    Logged.Only allowed (tryConnect env config steps host chain leased) :=
  (allows.connection.bind fun _ _ => only_exchange).handle fun _ _ _ => only_buildFailed

theorem Allows.settle (allows : Allows allowed env host chain) {leased : Bool}
    {outcome : Except String String} : Logged.Only allowed (settle config steps leased outcome) := by
  cases outcome with
  | error text =>
      refine Logged.Only.bind ?_ fun _ _ => Logged.only_pure
      unfold giveBack
      split
      · exact Logged.only_record.mpr allows.released
      · exact Logged.only_pure
  | ok url =>
      refine Logged.Only.bind ?_ fun _ _ => Logged.only_pure
      unfold registerSession
      split
      · exact Logged.only_call.bind fun _ _ => Logged.only_record.mpr (allows.registered _)
      · exact Logged.only_pure

theorem chainCredentials_listed (hops : jumpChain env host = some chain) {cred : Credential}
    (member : cred ∈ chainCredentials env host) : some cred ∈ connectCredentials env host chain := by
  unfold chainCredentials at member
  rw [hops] at member
  obtain ⟨holder, inTurn, held⟩ := List.mem_filterMap.mp member
  rcases List.mem_append.mp ((List.takeWhile_prefix _).subset inTurn) with hop | last
  · exact List.mem_cons_of_mem _ (List.mem_map.mpr ⟨holder, hop, held⟩)
  · obtain rfl := List.mem_singleton.mp last
    exact held ▸ List.mem_cons_self

theorem Allows.openTunnel (allows : Allows allowed env host chain) (acquired : allowed .acquired)
    (hops : jumpChain env host = some chain) :
    Logged.Only allowed (Guacamole.openTunnel env steps host chain) := by
  have built : Logged.Only allowed (buildChain env host) := by
    intro event listed
    rw [buildChain_log] at listed
    obtain ⟨cred, member, rfl⟩ := List.mem_map.mp listed
    exact allows.resolved cred (chainCredentials_listed hops member)
  have leased : Logged.Only allowed (acquire env steps host) := by
    refine built.bind fun built _ => ?_
    obtain ⟨jumpHops, target⟩ := built
    dsimp only
    split
    · exact Logged.only_pure
    · exact Logged.only_call.bind fun _ _ => (Logged.only_record.mpr acquired).bind fun _ _ => Logged.only_pure
  unfold Guacamole.openTunnel
  split
  · exact Logged.only_pure
  split
  · exact Logged.only_raise
  split
  · exact Logged.only_pure
  split
  · exact Logged.only_raise
  refine leased.handle fun failure recovery _ handling => ?_
  cases failure <;> cases handling <;> exact Logged.only_raise

theorem Allows.connect (allows : Allows allowed env host chain) (acquired : allowed .acquired)
    (hops : jumpChain env host = some chain) :
    Logged.Only allowed (Guacamole.connect env config steps host chain) := by
  have opened : Logged.Only allowed (Guacamole.openTunnel env steps host chain) := allows.openTunnel acquired hops
  refine Logged.Only.bind ((opened.bind fun _ _ => Logged.only_pure).handle fun _ _ _ => only_buildFailed) ?_
  intro opened _
  cases opened with
  | error text => exact allows.settle
  | ok leased => exact allows.tryConnect.bind fun _ _ => allows.settle

end Allows

end Dosm.Guacamole
