import Dosm.Credentials.Access

namespace Dosm.Ftp

open Models Python Web Jumps Credentials

/-! File transfer with a host, by the credentials its backends resolve.

What the network and the remote side do is the outcome of an operation, given in
advance.
-/

def FtMethod.defaultPort : FtMethod → Int
  | .sftp => 22
  | .ftp | .ftps => 21

structure FtTarget where
  method : FtMethod
  port : Int
  credential : Option Credential

def ftCredential (env : Environment) (host : Host) : Option Credential :=
  (host.ftCredentialId.bind env.db.credentials.get).or (env.credentialOf host)

def resolveFtTarget (env : Environment) (host : Host) : Except ConnectFailure FtTarget :=
  match host.ftMethod with
  | none => .error (.fileTransfer ("file transfer is not configured on host " ++ Python.repr host.name))
  | some method =>
      .ok {
        method
        port := if host.ftPort.getD 0 = 0 then FtMethod.defaultPort method else host.ftPort.getD 0
        credential := ftCredential env host }

structure Material where
  username : String
  password : Option String
  privateKey : Option String

def usernameOr (default : String) (cred : Credential) : String :=
  if cred.username.getD "" = "" then default else cred.username.getD ""

def materialOutcome (env : Environment) : Option Credential → Except ConnectFailure Material
  | none => .ok { username := "anonymous", password := none, privateKey := none }
  | some cred =>
      match faulted env cred with
      | some failure => .error failure
      | none =>
          if cred.kind = .dynamic then
            match resolveDynamic env.decode env.world cred with
            | .error (.dynamicCredential text) => .error (.fileTransfer text)
            | .error failure => .error (ofJumpError failure)
            | .ok (username, password) => .ok { username, password := some password, privateKey := none }
          else
            match env.world.secrets.lookup cred.secretRef with
            | none =>
                .error (.fileTransfer ("credential " ++ Python.repr cred.name ++
                  " secret is missing from the secrets backend"))
            | some secret =>
                if cred.kind = .sshKey then
                  .ok { username := usernameOr "root" cred, password := none, privateKey := some secret }
                else
                  .ok {
                    username := usernameOr "anonymous" cred
                    password := some secret
                    privateKey := none }

def credentialMaterial (env : Environment) (cred : Option Credential) : Connecting Material :=
  onRecord cred (materialOutcome env cred)

/-- The endpoint takes the port and the credential of the file transfer; the hops
keep their own. -/
def sftpConnect (env : Environment) (host : Host) (target : FtTarget) :
    Connecting (List HopCreds × HopCreds) := do
  let (jumpHops, endpoint) ← buildChain env host
  let material ← credentialMaterial env target.credential
  return (jumpHops, {
    endpoint with
    port := target.port
    username := material.username
    password := material.password
    privateKey := material.privateKey })

/-- FTP has no use for a private key. -/
def ftpLoginOutcome (env : Environment) : Option Credential → Except ConnectFailure (String × String)
  | none => .ok ("anonymous", "anonymous@dosm")
  | some cred =>
      if cred.kind = .sshKey then
        .error (.fileTransfer ("credential " ++ Python.repr cred.name ++
          " is an SSH key; FTP/FTPS needs a username/password credential"))
      else (materialOutcome env (some cred)).map fun material =>
        (material.username, material.password.getD "")

def resolveFtpLogin (env : Environment) (cred : Option Credential) : Connecting (String × String) :=
  onRecord cred (ftpLoginOutcome env cred)

/-- The login, then the chain that a proxy through the hops is opened with. -/
def ftpConnect (env : Environment) (host : Host) (target : FtTarget) :
    Connecting ((String × String) × List HopCreds) := do
  let login ← resolveFtpLogin env target.credential
  let (jumpHops, _) ← buildChain env host
  return (login, jumpHops)

def operation (env : Environment) (host : Host) (target : FtTarget) (outcome : Except ConnectFailure Unit) :
    Connecting Unit :=
  match target.method with
  | .sftp => do
      let _ ← sftpConnect env host target
      Logged.call outcome
  | .ftp | .ftps => do
      let _ ← ftpConnect env host target
      Logged.call outcome

structure CopySteps where
  retrieved : Except ConnectFailure Unit
  stored : Except ConnectFailure Unit
  deleted : Except ConnectFailure Unit

def transferBetweenHosts (env : Environment) (src dst : Host × FtTarget) (steps : CopySteps) (move : Bool) :
    Connecting Unit := do
  operation env src.1 src.2 steps.retrieved
  operation env dst.1 dst.2 steps.stored
  if move then operation env src.1 src.2 steps.deleted else return ()

/-- A failed transfer is an answer of its own. -/
def transferFailed : ConnectFailure → Option (Connecting Unit)
  | .fileTransfer text => some (Logged.raise (.http 502 text))
  | _ => none

def loadHost (env : Environment) (tid : Option Int) (hostId : Int) :
    Except ConnectFailure (Host × FtTarget) :=
  match getScoped env.db.hosts hostId tid with
  | none => .error (.http 404 "host not found")
  | some host =>
      match resolveFtTarget env host with
      | .error _ =>
          .error (.http 400 ("file transfer is not configured on host " ++ Python.repr host.name))
      | .ok target => .ok (host, target)

def requireAdmin (user : User) : Except ConnectFailure Unit :=
  if user.role.atLeast .tenantAdmin then .ok () else .error (.http 403 "requires tenant_admin role")

def copyHosts (env : Environment) (user : User) (switched : Option Int) (hostId dstHostId : Int)
    (basename : String) : Except ConnectFailure ((Host × FtTarget) × (Host × FtTarget)) := do
  requireAdmin user
  let src ← loadHost env (activeTenantId user switched) hostId
  let dst ← loadHost env (activeTenantId user switched) dstHostId
  if basename = "" then throw (.http 400 "source is not a file") else return (src, dst)

def operateHost (env : Environment) (user : User) (switched : Option Int) (hostId : Int) :
    Except ConnectFailure (Host × FtTarget) := do
  requireAdmin user
  loadHost env (activeTenantId user switched) hostId

/-- A listing, a download, an upload, a removal or a rename. -/
def operate (env : Environment) (user : User) (switched : Option Int) (hostId : Int)
    (outcome : Except ConnectFailure Unit) : Connecting Unit := do
  let (host, target) ← Logged.call (operateHost env user switched hostId)
  Logged.handle (operation (env.connectingAs (some user.id)) host target outcome) transferFailed

def copyToHost (env : Environment) (user : User) (switched : Option Int) (hostId dstHostId : Int)
    (basename : String) (steps : CopySteps) (move : Bool) : Connecting Unit := do
  let (src, dst) ← Logged.call (copyHosts env user switched hostId dstHostId basename)
  Logged.handle (transferBetweenHosts (env.connectingAs (some user.id)) src dst steps move) transferFailed

end Dosm.Ftp
