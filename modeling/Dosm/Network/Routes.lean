import Dosm.Jumps.Connections
import Dosm.Shell.Readers

namespace Dosm.Network

open Models Python Jumps Shell

/-! The commands and scripts that check a port from a source host. -/

def isSafeAddressChar (char : Char) : Bool :=
  ('a' ≤ char && char ≤ 'z') || ('A' ≤ char && char ≤ 'Z') || ('0' ≤ char && char ≤ '9') ||
    char ∈ ['.', '-', '_', ':']

/-- `^[a-zA-Z0-9.\-_:]+$`, whose end may come before a last line feed. -/
def matchesSafeAddress (chars : List Char) : Bool :=
  let line := if chars.getLast? = some '\n' then chars.dropLast else chars
  !line.isEmpty && line.all isSafeAddressChar

/-- Nothing for an address the validator takes, else its message. -/
def validateAddress (address : String) : Option String :=
  if matchesSafeAddress address.toList then none
  else some ("unsafe destination address: " ++ Python.repr address)

example : validateAddress "10.0.0.1\n" = none ∧ (validateAddress "a;b").isSome ∧ (validateAddress "").isSome := by
  decide

inductive Script where
  | shell (pieces : List Piece)
  | powershell (pieces : List Piece)
  deriving DecidableEq

/-- Every value is literal text of one string or word. -/
def Script.Confined : Script → Prop
  | .shell pieces => posix.Confined (.plain, false) pieces
  | .powershell pieces => Shell.powershell.Confined .plain pieces

def fixed (text : String) : Piece := .fixed text.toList

def value (text : String) : Piece := .value text.toList

/-- The argument of `bash -c`, which is a command of its own. -/
def bashCommand (dstAddress : String) (port : Int) : List Piece :=
  [fixed "</dev/tcp/", value dstAddress, fixed ("/" ++ toString port)]

def clock : String := "S=$(date +%s%3N 2>/dev/null || echo 0); "

def elapsed : String :=
  "E=$(date +%s%3N 2>/dev/null || echo 0) && echo \"OK $((E-S))\" || echo FAIL"

/-- The command of `_ssh_check_one`, and the command inside it. -/
def sshCheckOne (dstAddress : String) (port : Int) : List Script :=
  if port = 0 then
    [.shell [fixed (clock ++ "ping -c 1 -W 3 '"), value dstAddress,
      fixed ("' >/dev/null 2>&1 && " ++ elapsed)]]
  else
    [.shell ([fixed (clock ++ "(bash -c '")] ++ bashCommand dstAddress port ++
        [fixed "' 2>/dev/null || nc -zw5 '", value dstAddress,
          fixed ("' " ++ toString port ++ " 2>/dev/null) && " ++ elapsed)]),
      .shell (bashCommand dstAddress port)]

def winrmGroupCheck (dstAddress : String) (port : Int) : List Script :=
  if port = 0 then
    [.powershell [fixed ("$sw=[System.Diagnostics.Stopwatch]::StartNew();" ++
        "$r=Test-Connection -ComputerName '"), value dstAddress,
      fixed ("' -Count 1 -Quiet;$sw.Stop();" ++
        "if($r)\x7b\"OK $([int]$sw.ElapsedMilliseconds)\"\x7delse\x7b\"FAIL\"\x7d")]]
  else
    [.powershell [fixed ("$sw=[System.Diagnostics.Stopwatch]::StartNew();" ++
        "$r=Test-NetConnection -ComputerName '"), value dstAddress,
      fixed ("' -Port " ++ toString port ++ " -WarningAction SilentlyContinue;$sw.Stop();" ++
        "if($r.TcpTestSucceeded)\x7b\"OK $([int]$sw.ElapsedMilliseconds)\"\x7delse\x7b\"FAIL\"\x7d")]]

def innerCheck (dstAddress : String) (port : Int) : List Piece :=
  if port = 0 then
    [fixed ("$sw=[System.Diagnostics.Stopwatch]::StartNew(); $r=Test-Connection -ComputerName '"),
      value dstAddress,
      fixed ("' -Count 1 -Quiet; $sw.Stop(); " ++
        "if($r)\x7b\"OK $([int]$sw.ElapsedMilliseconds)\"\x7delse\x7b\"FAIL\"\x7d")]
  else
    [fixed ("$sw=[System.Diagnostics.Stopwatch]::StartNew(); $r=Test-NetConnection -ComputerName '"),
      value dstAddress,
      fixed ("' -Port " ++ toString port ++ " -WarningAction SilentlyContinue; $sw.Stop(); " ++
        "if($r.TcpTestSucceeded)\x7b\"OK $([int]$sw.ElapsedMilliseconds)\"\x7delse\x7b\"FAIL\"\x7d")]

def invokeFailures : String :=
  "    \x7d; " ++
  "  $res " ++
  "\x7d catch [System.Management.Automation.Remoting.PSRemotingTransportException] \x7b " ++
  "  if($_.Exception.Message -match 'CredSSP') \x7b " ++
  "    'CREDSSP_NOT_CONFIGURED' " ++
  "  \x7d else \x7b " ++
  "    'INVOKE_FAILED: ' + $_.Exception.Message.Substring(0, [Math]::Min(120, $_.Exception.Message.Length)) " ++
  "  \x7d " ++
  "\x7d"

/-- The script sent to a Windows jump box, which passes the check on to the source. -/
def winrmInvokeGroupCheck (targetHostname targetUsername targetPassword dstAddress : String) (port : Int) :
    List Script :=
  [.powershell ([fixed "$secpwd = ConvertTo-SecureString '", value targetPassword,
      fixed ("' -AsPlainText -Force; " ++
        "$cred = New-Object System.Management.Automation.PSCredential('"), value targetUsername,
      fixed ("', $secpwd); try \x7b   $res = Invoke-Command -ComputerName '"), value targetHostname,
      fixed ("' -Credential $cred     -Authentication CredSSP -ScriptBlock \x7b       ")] ++
    innerCheck dstAddress port ++ [fixed (" " ++ invokeFailures)])]

/-- How a source is checked, by its protocol and its hops; nothing when a check
ends before anything is sent. -/
inductive Route where
  | ssh
  | winrm
  | invoke (password : String)
  deriving DecidableEq

/-- The rules that the scanner and the port checker share; the scanner opens a
tunnel where the port checker gives up. -/
def route (tunnels : Bool) (jumpHops : List HopCreds) (target : HopCreds) : Option Route :=
  if target.protocol = .rdp then
    match target.password, jumpHops.getLast? with
    | none, _ => none
    | some _, none => some .winrm
    | some password, some lastHop =>
        if lastHop.protocol = .rdp then lastHop.password.map fun _ => .invoke password
        else if jumpHops.any fun hop => hop.protocol = .rdp then none
        else if tunnels then some .winrm
        else none
  else if jumpHops.any fun hop => hop.protocol = .rdp then none
  else some .ssh

def Route.scripts (target : HopCreds) (dstAddress : String) (port : Int) : Route → List Script
  | .ssh => sshCheckOne dstAddress port
  | .winrm => winrmGroupCheck dstAddress port
  | .invoke password => winrmInvokeGroupCheck target.hostname target.username password dstAddress port

end Dosm.Network

namespace Dosm.Network

open Models Python Web Jumps

/-! The network pages: what a new scan stores and what the port checker accepts. -/

structure NetworkPort where
  id : Int
  portNumber : Int
  protocol : String
  deriving DecidableEq

instance : Keyed NetworkPort := ⟨NetworkPort.id⟩

structure Destination where
  hostId : Option Int
  address : String
  label : String
  deriving DecidableEq

structure ScanForm where
  includeLocal : Bool
  sourceIds : List Int
  destHostIds : List Int
  adhocDestinations : String
  portIds : List Int

/-- A result row as it is stored, with the outcome of its check still open. -/
structure NewResult where
  srcHostId : Option Int
  srcLabel : String
  dstLabel : String
  dstAddress : String
  port : Int
  protocol : String
  deriving DecidableEq

/-- One line of the form: an address, or a label and an address. -/
def adhocDestination (rawLine : String) : Option Destination :=
  let line := strip rawLine
  let (label, address) :=
    if '|' ∈ line.toList then
      let (label, address) := partition '|' line
      (strip label, strip address)
    else (line, line)
  if address = "" then none else some { hostId := none, address, label }

def inventoryDestination (db : Database) (tid : Int) (hostId : Int) : Option Destination :=
  (getScoped db.hosts hostId (some tid)).map fun host =>
    { hostId := some host.id, address := host.hostname, label := host.name }

def destinations (db : Database) (tid : Int) (form : ScanForm) : List Destination :=
  form.destHostIds.filterMap (inventoryDestination db tid) ++
    (splitLines (strip form.adhocDestinations)).filterMap adhocDestination

def resultRows (ports : Table NetworkPort) (portIds : List Int) (srcHostId : Option Int) (srcLabel : String)
    (destinations : List Destination) : List NewResult :=
  destinations.flatMap fun dst =>
    (portIds.filterMap ports.get).map fun port => {
      srcHostId
      srcLabel
      dstLabel := dst.label
      dstAddress := dst.address
      port := port.portNumber
      protocol := port.protocol }

def createResultRows (db : Database) (ports : Table NetworkPort) (tid : Int) (sourceIds : List Int)
    (destinations : List Destination) (portIds : List Int) (includeLocal : Bool) : List NewResult :=
  (if includeLocal then resultRows ports portIds none "DOSM Server" destinations else []) ++
    sourceIds.flatMap fun srcId =>
      match getScoped db.hosts srcId (some tid) with
      | none => []
      | some src => resultRows ports portIds (some srcId) src.name destinations

/-- The rows that a new scan stores, or what the form is refused with. -/
def mapCreate (db : Database) (ports : Table NetworkPort) (tid : Int) (form : ScanForm) :
    Except String (List NewResult) :=
  if form.sourceIds.isEmpty && !form.includeLocal then .error "Select at least one source host."
  else if form.portIds.isEmpty then .error "Select at least one port."
  else if (destinations db tid form).isEmpty then .error "Add at least one destination."
  else .ok (createResultRows db ports tid form.sourceIds (destinations db tid form) form.portIds
    form.includeLocal)

example : adhocDestination " db | 10.0.0.5 " = some ⟨none, "10.0.0.5", "db"⟩ := by decide

inductive Request where
  | mapCreate (form : ScanForm)
  | portChecker (dstAddress : String) (port : Int)

/-- The addresses and ports of a request that go on to be checked. -/
def Request.checks (db : Database) (ports : Table NetworkPort) (tid : Int) : Request → List (String × Int)
  | .mapCreate form =>
      match Network.mapCreate db ports tid form with
      | .error _ => []
      | .ok rows => rows.map fun row => (row.dstAddress, row.port)
  | .portChecker dstAddress port =>
      match validateAddress (strip dstAddress) with
      | some _ => []
      | none => [(strip dstAddress, port)]

/-- How a request goes to a source. -/
def Request.route (jumpHops : List HopCreds) (target : HopCreds) : Request → Option Route
  | .mapCreate _ => Network.route true jumpHops target
  | .portChecker _ _ => Network.route false jumpHops target

end Dosm.Network
