import Dosm.Hosts.Repo

namespace Dosm.Jumps

open Models Python Hosts

/-! The jump hosts on the way to a host, with what is needed to log in to each.

A hop's login comes from the credential on the host row. Only a per-user
credential depends on who connects: that user's own name and password are stored
as text under a path of their own, and `decode` reads them back.
-/

/-- Connection material of one hop, detached from the database. -/
structure HopCreds where
  hostId : Int
  name : String
  hostname : String
  port : Int
  protocol : Protocol
  username : String
  password : Option String
  privateKey : Option String
  deriving DecidableEq

/-- What resolving a chain reads: the tables, the secrets and the connecting user. -/
structure World where
  db : Database
  secrets : Secrets.Backend
  connectingUser : Option Nat

inductive JumpError where
  | dynamicCredential (message : String)
  | runtime (message : String)
  /-- The loop over the jump hosts does not end. -/
  | endless
  deriving DecidableEq

def getUserMaterial (decode : String → Option (String × String)) (world : World) (cred : Credential)
    (userId : Nat) : Option (String × String) :=
  (world.secrets.lookup (Secrets.userPath cred userId)).bind decode

def resolveDynamic (decode : String → Option (String × String)) (world : World) (cred : Credential) :
    Except JumpError (String × String) :=
  match world.connectingUser with
  | none =>
      .error (.dynamicCredential (Python.repr cred.name ++
        " is a per-user (PIM) credential and can't be used without a signed-in user."))
  | some userId =>
      match getUserMaterial decode world cred userId with
      | none =>
          .error (.dynamicCredential ("You haven't set up your credentials for " ++
            Python.repr cred.name ++ ". Open My Credentials to add your username and password."))
      | some material => .ok material

/-- Username, password and private key from a host's credential. -/
def resolveLogin (decode : String → Option (String × String)) (world : World) :
    Option Credential → Except JumpError (String × Option String × Option String)
  | none => .ok ("root", none, none)
  | some cred =>
      if cred.kind = .dynamic then
        (resolveDynamic decode world cred).map fun (username, password) => (username, some password, none)
      else
        let username := if cred.username.getD "" = "" then "root" else cred.username.getD ""
        match world.secrets.lookup cred.secretRef with
        | none =>
            .error (.runtime ("credential " ++ Python.repr cred.name ++ " secret_ref " ++
              Python.repr cred.secretRef ++ " missing"))
        | some secret =>
            if cred.kind = .sshKey then .ok (username, none, some secret)
            else .ok (username, some secret, none)

def resolveCreds (decode : String → Option (String × String)) (world : World) (host : Host) :
    Except JumpError HopCreds := do
  let (username, password, privateKey) ←
    resolveLogin decode world (host.credentialId.bind world.db.credentials.get)
  return {
    hostId := host.id
    name := host.name
    hostname := host.hostname
    port := host.port
    protocol := host.protocol
    username
    password
    privateKey }

/-- The hops, outermost first, and the target. A chain that ends has no more
hosts than the table. -/
def buildJumpChain (decode : String → Option (String × String)) (world : World) (host : Host) :
    Except JumpError (List HopCreds × HopCreds) :=
  match resolveJumpChain world.db (world.db.hosts.rows.length + 1) host with
  | none => .error .endless
  | some chain => do
      let jumpHops ← chain.mapM (resolveCreds decode world)
      let target ← resolveCreds decode world host
      return (jumpHops, target)

/-- What a hop is opened with: address, port, username, password and key. -/
structure Material where
  hostname : String
  port : Int
  username : String
  password : Option String
  privateKey : Option String
  deriving DecidableEq

def HopCreds.material (hop : HopCreds) : Material where
  hostname := hop.hostname
  port := hop.port
  username := hop.username
  password := hop.password
  privateKey := hop.privateKey

end Dosm.Jumps
