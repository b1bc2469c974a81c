import Dosm.Jumps.Connections

namespace Dosm.Network

open Models Python Jumps

/-! What a check of a port finds, from what the source host answers.

A check ends with an outcome also when its command fails; only a check from DOSM
itself lets some exceptions through.
-/

structure Outcome where
  reachable : Bool
  latencyMs : Option Int
  errorMsg : Option String
  deriving DecidableEq

def Outcome.failed (message : String) : Outcome := ⟨false, none, some message⟩

/-- What the classifiers ask of an exception besides its name and its text. -/
inductive ExcKind where
  | connectionRefused
  | noRoute
  | connectionReset
  | timeout
  | other
  deriving DecidableEq

structure Exc where
  name : String
  text : String
  /-- The reason that a server states, empty when there is none. -/
  reason : String := ""
  kind : ExcKind := .other
  deriving DecidableEq

def contains (text part : String) : Bool := (find part text 0).isSome

def sshRawDetail (exc : Exc) : String :=
  let text := if exc.reason = "" then strip exc.text else strip exc.reason
  if text = "" then "" else " - " ++ slice 0 160 text

def classifySshError (exc : Exc) (hostname : String) : String :=
  let name := lower exc.name
  let msg := lower exc.text
  let detail := sshRawDetail exc
  if contains name "permissiondenied" || contains msg "permission denied" then
    "SSH authentication failed on " ++ Python.repr hostname ++ " - check credentials" ++ detail
  else if exc.kind = .connectionRefused || contains msg "connection refused" then
    "SSH not enabled on " ++ Python.repr hostname ++ " - port refused the connection" ++ detail
  else if exc.kind = .noRoute then
    "Host " ++ Python.repr hostname ++ " is unreachable - no route to host" ++ detail
  else if exc.kind = .connectionReset then "SSH connection reset by " ++ Python.repr hostname ++ detail
  else if contains name "disconnecterror" || contains name "connection lost" then
    "SSH connection to " ++ Python.repr hostname ++ " was dropped unexpectedly" ++ detail
  else if contains name "timeout" || contains msg "timed out" || exc.kind = .timeout then
    "SSH connection to " ++ Python.repr hostname ++
      " timed out - the host may be unreachable or SSH may not be enabled"
  else if contains name "hostkey" then
    "SSH host-key verification failed for " ++ Python.repr hostname ++ detail
  else "SSH error on " ++ Python.repr hostname ++ ": " ++ exc.name ++ ": " ++ slice 0 120 exc.text

def classifyWinrmError (exc : Exc) (hostname : String) : String :=
  let name := lower exc.name
  let msg := lower exc.text
  if contains name "connectionerror" || contains msg "max retries" || contains msg "connection refused" then
    "WinRM not reachable on " ++ Python.repr hostname ++
      ":5985 - WinRM may not be enabled (run: winrm quickconfig)"
  else if contains name "timeout" || contains msg "timed out" then
    "WinRM connection to " ++ Python.repr hostname ++
      " timed out - the host may be unreachable or WinRM may not be enabled"
  else if contains name "invalidcredentials" || contains msg "401" || contains msg "unauthorized" ||
      contains msg "access denied" || contains msg "logon failure" then
    "WinRM authentication failed on " ++ Python.repr hostname ++ " - check username/password"
  else if contains name "transport" && contains name "error" then
    "WinRM transport error on " ++ Python.repr hostname ++ ": " ++ slice 0 120 exc.text
  else "WinRM error on " ++ Python.repr hostname ++ ": " ++ exc.name ++ ": " ++ slice 0 120 exc.text

example : classifySshError ⟨"OperationalError", "database is locked", "", .other⟩ "10.0.0.9" =
    "SSH error on '10.0.0.9': OperationalError: database is locked" := by
  decide

/-! The connection to a source over its jump hosts. -/

def windowsHop (prev : Option HopCreds) (hop : HopCreds) : String :=
  let context := match prev with
    | some prev => "via jump box " ++ Python.repr prev.name
    | none => "directly from DOSM"
  "Jump box " ++ Python.repr hop.name ++ " (" ++ hop.hostname ++ ") is a Windows host (protocol=rdp). " ++
    "SSH tunnel traversal requires OpenSSH to be enabled on this jump box - connect " ++ context ++
    " and run: Add-WindowsCapability -Online -Name OpenSSH.Server~~~~0.0.1.0. " ++
    "Then set this host's protocol to 'ssh' in the inventory."

def hopFailure (prev : Option HopCreds) (hop : HopCreds) (role : String) (exc : Exc) : String :=
  match prev with
  | none => classifySshError exc hop.hostname
  | some prev =>
      "Connected to jump box " ++ Python.repr prev.name ++ " but it could not reach " ++ role ++ " " ++
        Python.repr hop.name ++ " (" ++ hop.hostname ++ "): " ++ classifySshError exc hop.hostname

/-- The message of the hop that fails; `connect` says how a hop is opened from the one before. -/
def connectTracked (connect : Option HopCreds → HopCreds → Option Exc) (prev : Option HopCreds) :
    List HopCreds → HopCreds → Option String
  | [], target => (connect prev target).map (hopFailure prev target "target")
  | hop :: rest, target =>
      if hop.protocol = .rdp then some (windowsHop prev hop)
      else
        match connect prev hop with
        | some exc => some (hopFailure prev hop "next hop" exc)
        | none => connectTracked connect (some hop) rest target

/-! The checks. -/

/-- `str.split` without a separator. -/
def words (text : String) : List String :=
  ((text.toList.splitOnP isSpace).filter fun word => word ≠ []).map String.ofList

/-- The number after `OK`, unless it is missing or no number. -/
def statedLatency (stdout : String) : Option Int := (words stdout)[1]?.bind parseInt

inductive SshReply where
  | output (stdout : String) (wallMs : Int)
  | timedOut
  | raised (name text : String)

def sshOutcome (dstAddress : String) (port : Int) : SshReply → Outcome
  | .output stdout wallMs =>
      if startsWith (strip stdout) "OK" then
        let latency := match statedLatency (strip stdout) with
          | none => wallMs
          | some latency => if latency ≤ 0 ∨ latency > 30000 then wallMs else latency
        ⟨true, some latency, none⟩
      else ⟨false, none, none⟩
  | .timedOut =>
      .failed (if port = 0 then "ping timed out reaching " ++ dstAddress
        else "check timed out reaching " ++ dstAddress ++ ":" ++ toString port)
  | .raised name text =>
      .failed ((if port = 0 then "ping error" else "check error") ++ ": " ++ name ++ ": " ++ slice 0 120 text)

inductive ScriptReply where
  | output (stdout : String)
  | raised (exc : Exc)

def winrmOutcome (hostname : String) : ScriptReply → Outcome
  | .output stdout =>
      if startsWith (strip stdout) "OK" then ⟨true, statedLatency (strip stdout), none⟩
      else ⟨false, none, none⟩
  | .raised exc => .failed (classifyWinrmError exc hostname)

def invokeOutcome (jumpHostname targetHostname : String) : ScriptReply → Outcome
  | .output output =>
      let stdout := strip output
      if startsWith stdout "OK" then ⟨true, statedLatency stdout, none⟩
      else if stdout = "FAIL" then ⟨false, none, none⟩
      else if stdout = "CREDSSP_NOT_CONFIGURED" then
        .failed ("Windows jump box " ++ Python.repr jumpHostname ++ " cannot reach target " ++
          Python.repr targetHostname ++ " via Invoke-Command: CredSSP is not configured. " ++
          "On the jump box run: Enable-WSManCredSSP -Role Server -Force")
      else if startsWith stdout "INVOKE_FAILED:" then
        .failed ("Windows jump box " ++ Python.repr jumpHostname ++ ": Invoke-Command to " ++
          Python.repr targetHostname ++ " failed - " ++ strip (slice 14 stdout.length stdout))
      else
        .failed ("Unexpected output from Windows jump box " ++ Python.repr jumpHostname ++ ": " ++
          Python.repr (slice 0 120 stdout))
  | .raised exc =>
      .failed ("Windows jump box " ++ Python.repr jumpHostname ++ ": " ++ classifyWinrmError exc jumpHostname)

inductive TcpReply where
  | connected (latencyMs : Int)
  | timedOut
  | refused
  | osError (text : String)
  /-- An exception of another kind, such as `UnicodeError` for a name with an empty label. -/
  | raised (exc : Exc)
  deriving DecidableEq

def localTcpOutcome (dstAddress : String) (port : Int) : TcpReply → Except Exc Outcome
  | .connected latencyMs => .ok ⟨true, some latencyMs, none⟩
  | .timedOut => .ok (.failed ("connection to " ++ dstAddress ++ ":" ++ toString port ++ " timed out"))
  | .refused => .ok ⟨false, none, none⟩
  | .osError text =>
      .ok (.failed ("socket error reaching " ++ dstAddress ++ ":" ++ toString port ++ ": " ++ text))
  | .raised exc => .error exc

inductive PingReply where
  | ran (returnCode : Int) (latencyMs : Int)
  | expired
  | missing
  | raised (name text : String)
  deriving DecidableEq

def localPingOutcome (dstAddress : String) : PingReply → Outcome
  | .ran returnCode latencyMs => if returnCode = 0 then ⟨true, some latencyMs, none⟩ else ⟨false, none, none⟩
  | .expired => .failed ("ping timed out reaching " ++ dstAddress)
  | .missing => .failed "ping not available in this environment"
  | .raised name text => .failed ("ping error: " ++ name ++ ": " ++ slice 0 120 text)

end Dosm.Network
