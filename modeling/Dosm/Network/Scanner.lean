import Dosm.Base.Interleaving
import Dosm.Base.Logged
import Dosm.Network.Outcomes
import Dosm.Network.Routes

namespace Dosm.Network

open Models Python Jumps

/-! One run of a scan: the rows grouped by their source, the checks of each group and
the writes of their outcomes.

The groups run at the same time and share the table only. What a group meets (the
hosts, the connections and the database) is given from outside, and what it does is
left on record; the exceptions that end groups are collected and dropped.
-/

structure NetworkScanResult where
  id : Int
  scanId : Int
  srcHostId : Option Int
  srcLabel : String
  dstLabel : String
  dstAddress : String
  port : Int
  protocol : String
  reachable : Option Bool
  latencyMs : Option Int
  errorMsg : Option String
  checkedAt : Option Int
  deriving DecidableEq

instance : Keyed NetworkScanResult := ⟨NetworkScanResult.id⟩

def newResultRow (scanId : Int) (new : NewResult) (id : Int) : NetworkScanResult where
  id := id
  scanId := scanId
  srcHostId := new.srcHostId
  srcLabel := new.srcLabel
  dstLabel := new.dstLabel
  dstAddress := new.dstAddress
  port := new.port
  protocol := new.protocol
  reachable := none
  latencyMs := none
  errorMsg := none
  checkedAt := none

def storeResults (results : Table NetworkScanResult) (scanId : Int) (rows : List NewResult) :
    Table NetworkScanResult :=
  rows.foldl (fun stored new => stored.insert (newResultRow scanId new)) results

inductive Source where
  | dosmServer
  | host (id : Int)
  deriving DecidableEq

structure Question where
  source : Source
  dstAddress : String
  port : Int
  deriving DecidableEq

inductive RowWrite where
  | outcome (rid : Int) (found : Outcome) (now : Int)
  /-- A row of `_mark_all`, whose latency is left alone. -/
  | mark (rid : Int) (error : String) (now : Int)
  deriving DecidableEq

def RowWrite.rid : RowWrite → Int
  | .outcome rid _ _ | .mark rid _ _ => rid

def RowWrite.change : RowWrite → NetworkScanResult → NetworkScanResult
  | .outcome _ found now, row =>
      { row with
        reachable := some found.reachable
        latencyMs := found.latencyMs
        errorMsg := found.errorMsg
        checkedAt := some now }
  | .mark _ error now, row =>
      { row with reachable := some false, errorMsg := some error, checkedAt := some now }

inductive Event where
  /-- A check that was made, with what it found. -/
  | made (question : Question) (outcome : Outcome)
  /-- No check can be made from the source, which is the outcome of all of them. -/
  | refused (source : Source) (error : String)
  /-- `committed.add(i)` -/
  | committed (index : Nat)
  | write (change : RowWrite)
  | hostDeleted (id : Int)
  deriving DecidableEq

/-- The exceptions that leave a function of the scanner. -/
inductive Raised where
  | exception (exc : Exc)
  /-- The loop over the jump hosts of the source does not end. -/
  | endless
  deriving DecidableEq

abbrev Checking := Logged Event Raised

inductive Tunnel where
  | hostGone
  | raised (text : String)
  /-- The manager finds no jump hosts. -/
  | none
  | lease

structure GroupWorld where
  decode : String → Option (String × String)
  jumps : Jumps.World
  /-- The host is the one that the migrations add to a tenant, with the protocol `local`. -/
  isLocal : Bool
  connect : Option HopCreds → HopCreds → Option Exc
  tcp : Nat → TcpReply
  ping : Nat → PingReply
  ssh : Nat → SshReply
  pywinrm : Bool
  session : Option Exc
  powershell : Nat → ScriptReply
  tunnel : Tunnel
  release : Option Exc
  /-- The write of the callback for a check: the time, or what it raises. -/
  commit : Nat → Except Exc Int
  catchUpNow : Int
  catchUp : Nat → Option Exc
  markNow : Int
  mark : Nat → Option Exc

structure CheckParam where
  rid : Int
  dstAddress : String
  port : Int
  deriving DecidableEq

def CheckParam.check (param : CheckParam) : String × Int := (param.dstAddress, param.port)

/-! The group checks. -/

/-- How the checks of a group go: no check can be made, or one after the other. -/
inductive Plan where
  | refuse (error : String)
  | check (answer : Nat → String → Int → Except Exc Outcome)

abbrev Callback := Nat → Outcome → Checking Unit

def checkOne (source : Source) (answer : Nat → String → Int → Except Exc Outcome) (onResult : Callback)
    (item : (String × Int) × Nat) : Checking Outcome := do
  let outcome ← Logged.call ((answer item.2 item.1.1 item.1.2).mapError .exception)
  Logged.record (.made ⟨source, item.1.1, item.1.2⟩ outcome)
  onResult item.2 outcome
  return outcome

def Plan.run (source : Source) (checks : List (String × Int)) (onResult : Callback) :
    Plan → Checking (List Outcome)
  | .refuse error => do
      Logged.record (.refused source error)
      return List.replicate checks.length (.failed error)
  | .check answer => Logged.forEach (checkOne source answer onResult) checks.zipIdx

def localPlan (world : GroupWorld) : Plan :=
  .check fun i dstAddress port =>
    if port = 0 then .ok (localPingOutcome dstAddress (world.ping i))
    else localTcpOutcome dstAddress port (world.tcp i)

def sshPlan (world : GroupWorld) (jumpHops : List HopCreds) (target : HopCreds) : Plan :=
  match connectTracked world.connect none jumpHops target with
  | some error => .refuse error
  | none => .check fun i dstAddress port => .ok (sshOutcome dstAddress port (world.ssh i))

def pywinrmMissing : String := "pywinrm not installed - cannot check Windows hosts via WinRM"

def winrmPlan (world : GroupWorld) (hostname : String) : Plan :=
  if !world.pywinrm then .refuse pywinrmMissing
  else
    match world.session with
    | some exc => .refuse (classifyWinrmError exc hostname)
    | none => .check fun i _ _ => .ok (winrmOutcome hostname (world.powershell i))

def winrmInvokePlan (world : GroupWorld) (jumpHostname targetHostname : String) : Plan :=
  if !world.pywinrm then .refuse pywinrmMissing
  else
    match world.session with
    | some exc =>
        .refuse ("Windows jump box " ++ Python.repr jumpHostname ++ ": " ++ classifyWinrmError exc jumpHostname)
    | none => .check fun i _ _ => .ok (invokeOutcome jumpHostname targetHostname (world.powershell i))

/-- The path to a Windows source, and whether it holds a lease of a tunnel. -/
def windowsPlan (world : GroupWorld) (jumpHops : List HopCreds) (target : HopCreds) : Plan × Bool :=
  if target.password = none then
    (.refuse "WinRM requires a password credential (SSH key not supported for Windows)", false)
  else
    match jumpHops.getLast? with
    | none => (winrmPlan world target.hostname, false)
    | some lastHop =>
        if lastHop.protocol = .rdp then
          if lastHop.password = none then
            (.refuse ("Windows jump box " ++ Python.repr lastHop.name ++
              " requires a password credential for WinRM"), false)
          else (winrmInvokePlan world lastHop.hostname target.hostname, false)
        else if jumpHops.any fun hop => hop.protocol = .rdp then
          (.refuse ("Mixed jump chain with a Windows jump box before a Linux one is not supported. " ++
            "Reorder so Linux jump boxes precede Windows ones, or enable OpenSSH on the " ++
            "Windows jump box and set its protocol to 'ssh'."), false)
        else
          match world.tunnel with
          | .hostGone => (.refuse "source host not found during tunnel setup", false)
          | .raised text =>
              (.refuse ("Failed to establish SSH tunnel to Windows source " ++ Python.repr target.name ++
                ": " ++ text), false)
          | .none => (winrmPlan world target.hostname, false)
          | .lease => (winrmPlan world target.hostname, true)

/-- A failed write is taken for a failure of the connection. -/
def sshGroupCheck (world : GroupWorld) (source : Source) (jumpHops : List HopCreds) (target : HopCreds)
    (checks : List (String × Int)) (onResult : Callback) : Checking (List Outcome) :=
  Logged.handle ((sshPlan world jumpHops target).run source checks onResult) fun
    | .exception exc => some (return List.replicate checks.length (.failed (classifySshError exc target.hostname)))
    | .endless => none

/-- `finally: await lease.release()` -/
def releasing (release : Option Exc) (attempt : Checking (List Outcome)) : Checking (List Outcome) :=
  match release with
  | none => attempt
  | some exc => ⟨attempt.log, .error (.exception exc)⟩

def checkWindowsSource (world : GroupWorld) (source : Source) (jumpHops : List HopCreds) (target : HopCreds)
    (checks : List (String × Int)) (onResult : Callback) : Checking (List Outcome) :=
  let (plan, leased) := windowsPlan world jumpHops target
  releasing (if leased then world.release else none) (plan.run source checks onResult)

/-! The writes. -/

def commitResult (world : GroupWorld) (params : List CheckParam) : Callback := fun i outcome => do
  Logged.record (.committed i)
  match params[i]? with
  | none => Logged.raise (.exception ⟨"IndexError", "list index out of range", "", .other⟩)
  | some param =>
      let now ← Logged.call ((world.commit i).mapError .exception)
      Logged.record (.write (.outcome param.rid outcome now))

def catchUpOne (world : GroupWorld) (committed : List Nat) (item : (CheckParam × Outcome) × Nat) : Checking Unit :=
  if item.2 ∈ committed then pure ()
  else
    match world.catchUp item.2 with
    | some exc => Logged.raise (.exception exc)
    | none => Logged.record (.write (.outcome item.1.1.rid item.1.2 world.catchUpNow))

def committedIndex : Event → Option Nat
  | .committed index => some index
  | _ => none

/-- The results that the callbacks did not see are written after the group check. -/
def settle (world : GroupWorld) (params : List CheckParam) (attempt : Checking (List Outcome)) : Checking Unit := do
  let rawResults ← attempt
  let committed := attempt.log.filterMap committedIndex
  let _ ← Logged.forEach (catchUpOne world committed) (params.zip rawResults).zipIdx
  return ()

def markOne (world : GroupWorld) (error : String) (item : Int × Nat) : Checking Unit :=
  match world.mark item.2 with
  | some exc => Logged.raise (.exception exc)
  | none => Logged.record (.write (.mark item.1 error world.markNow))

def markAll (world : GroupWorld) (source : Source) (resultIds : List Int) (error : String) : Checking Unit := do
  Logged.record (.refused source error)
  let _ ← Logged.forEach (markOne world error) resultIds.zipIdx
  return ()

/-! The groups. -/

def checkParams (results : Table NetworkScanResult) (resultIds : List Int) : List CheckParam :=
  resultIds.filterMap fun rid => (results.get rid).map fun row => ⟨row.id, row.dstAddress, row.port⟩

def localGroup (world : GroupWorld) (source : Source) (params : List CheckParam) : Checking Unit :=
  settle world params
    ((localPlan world).run source (params.map CheckParam.check) (commitResult world params))

def checkLocalSource (world : GroupWorld) (results : Table NetworkScanResult) (resultIds : List Int) :
    Checking Unit :=
  localGroup world .dosmServer (checkParams results resultIds)

def jumpErrorText : JumpError → String
  | .dynamicCredential message | .runtime message => message
  | .endless => ""

def checkSource (world : GroupWorld) (results : Table NetworkScanResult) (srcHostId : Int) (resultIds : List Int) :
    Checking Unit :=
  let params := checkParams results resultIds
  let checks := params.map CheckParam.check
  let source := Source.host srcHostId
  match world.jumps.db.hosts.get srcHostId with
  | none => markAll world source resultIds "source host not found"
  | some host =>
      if world.isLocal then localGroup world source params
      else
        match buildJumpChain world.decode world.jumps host with
        | .error .endless => Logged.raise .endless
        | .error error => markAll world source resultIds ("credential error: " ++ jumpErrorText error)
        | .ok (jumpHops, target) =>
            settle world params <|
              if host.protocol = .rdp then
                checkWindowsSource world source jumpHops target checks (commitResult world params)
              else sshGroupCheck world source jumpHops target checks (commitResult world params)

/-! The scan. -/

inductive ScanStatus where
  | pending
  | running
  | completed
  | failed
  deriving DecidableEq

/-- What a scan meets in one run, from the moment its rows are stored. -/
structure ScanWorld where
  /-- The hosts that are deleted before the rows are grouped, and after. -/
  deletedBefore : List Int
  deletedAfter : List Int
  groups : Source → GroupWorld
  /-- The scan cannot be set to running; reading the rows raises; writing the final status does. -/
  startRaises : Bool
  readRaises : Bool
  finishRaises : Bool

/-- Deleting a host takes it out of the rows that name it as their source. -/
def deleteHost (results : Table NetworkScanResult) (id : Int) : Table NetworkScanResult :=
  results.map fun row => { row with srcHostId := row.srcHostId.filter fun src => src ≠ id }

def Event.apply (results : Table NetworkScanResult) : Event → Table NetworkScanResult
  | .write change => results.modify change.rid change.change fun row => by cases change <;> rfl
  | .hostDeleted id => deleteHost results id
  | .made .. | .refused .. | .committed .. => results

/-- The group of a row; a row without a source that is not of DOSM itself has none. -/
def sourceKey (row : NetworkScanResult) : Option Source :=
  match row.srcHostId with
  | some id => some (.host id)
  | none => if row.srcLabel = "DOSM Server" then some .dosmServer else none

def scanRows (results : Table NetworkScanResult) (scanId : Int) : List NetworkScanResult :=
  results.rows.filter fun row => row.scanId = scanId

def groupIds (results : Table NetworkScanResult) (scanId : Int) (source : Source) : List Int :=
  ((scanRows results scanId).filter fun row => sourceKey row = some source).map NetworkScanResult.id

def srcGroups (results : Table NetworkScanResult) (scanId : Int) : List (Source × List Int) :=
  (((scanRows results scanId).filterMap sourceKey).dedup).map fun source =>
    (source, groupIds results scanId source)

def runGroup (world : ScanWorld) (results : Table NetworkScanResult) (group : Source × List Int) : Checking Unit :=
  match group.1 with
  | .dosmServer => checkLocalSource (world.groups group.1) results group.2
  | .host id => checkSource (world.groups group.1) results id group.2

def startResults (world : ScanWorld) (results : Table NetworkScanResult) : Table NetworkScanResult :=
  world.deletedBefore.foldl deleteHost results

/-- What the groups do, and the deletions meanwhile. -/
def threads (world : ScanWorld) (results : Table NetworkScanResult) (scanId : Int) : List (List Event) :=
  let start := startResults world results
  world.deletedAfter.map .hostDeleted ::
    (srcGroups start scanId).map fun group => (runGroup world start group).log

/-- The status after `_run`; an endless group keeps the scan running. -/
def finalStatus (world : ScanWorld) (results : Table NetworkScanResult) (scanId : Int) : ScanStatus :=
  let start := startResults world results
  if world.startRaises then .pending
  else if world.readRaises then .failed
  else if (srcGroups start scanId).any fun group => (runGroup world start group).result = .error .endless then
    .running
  else if world.finishRaises then .failed
  else .completed

def finalResults (world : ScanWorld) (results : Table NetworkScanResult) (trace : List Event) :
    Table NetworkScanResult :=
  trace.foldl Event.apply (startResults world results)

end Dosm.Network

namespace Dosm.Network

open Models Python Web

/-! The saved scans: created from a form, run again, renamed and deleted.

A handler that answers with an error has written nothing. The background job that a
new scan starts is not part of the request.
-/

structure ScanConfig where
  sources : List Int
  destinations : List Destination
  portIds : List Int
  localSource : Bool
  deriving DecidableEq

structure NetworkScan where
  id : Int
  tenantId : Int
  title : String
  status : ScanStatus
  config : ScanConfig
  createdById : Option Nat
  deriving DecidableEq

instance : Owned NetworkScan where
  key := NetworkScan.id
  owner := NetworkScan.tenantId

structure Scans where
  scans : Table NetworkScan
  results : Table NetworkScanResult

def newScan (tenant : Int) (title : String) (config : ScanConfig) (createdById : Option Nat) (id : Int) :
    NetworkScan where
  id
  tenantId := tenant
  title
  status := .pending
  config
  createdById

def addScan (state : Scans) (tenant : Int) (title : String) (config : ScanConfig) (createdById : Option Nat)
    (rows : List NewResult) : Scans where
  scans := state.scans.insert (newScan tenant title config createdById)
  results := storeResults state.results state.scans.fresh rows

/-- `defaultTitle` is made from the time of the request. -/
def mapNew (db : Database) (ports : Table NetworkPort) (state : Scans) (caller : Caller)
    (title defaultTitle : String) (form : ScanForm) : Except Reply Scans := do
  requireRole caller .viewer
  let tenant ← requireActiveTenant caller
  let rows ← (mapCreate db ports tenant form).mapError (.error 400)
  let config : ScanConfig := {
    sources := form.sourceIds
    destinations := destinations db tenant form
    portIds := form.portIds
    localSource := form.includeLocal }
  return addScan state tenant (if strip title = "" then defaultTitle else strip title) config
    (some caller.userId) rows

def scanOr404 (state : Scans) (caller : Caller) (sid : Int) : Except Reply NetworkScan := do
  requireRole caller .viewer
  match getScoped state.scans sid caller.tid with
  | none => throw notFound
  | some scan => return scan

/-- The copy belongs to the tenant of the original. -/
def mapRerun (db : Database) (ports : Table NetworkPort) (state : Scans) (caller : Caller) (sid : Int) :
    Except Reply Scans := do
  let original ← scanOr404 state caller sid
  let { sources, destinations, portIds, localSource } := original.config
  return addScan state original.tenantId original.title original.config (some caller.userId)
    (createResultRows db ports original.tenantId sources destinations portIds localSource)

def mapRename (state : Scans) (caller : Caller) (sid : Int) (title : String) : Except Reply Scans := do
  requireRole caller .viewer
  if strip title = "" then throw (.error 422 "Title cannot be empty")
  else
    let scan ← scanOr404 state caller sid
    return { state with scans := state.scans.modify scan.id fun row => { row with title := strip title } }

def mapDelete (state : Scans) (caller : Caller) (sid : Int) : Except Reply Scans := do
  let scan ← scanOr404 state caller sid
  return {
    scans := state.scans.remove scan.id
    results := state.results.filter fun row => row.scanId ≠ scan.id }

end Dosm.Network
