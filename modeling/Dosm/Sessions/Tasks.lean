import Dosm.Sessions.Forms

namespace Dosm.Sessions

open WriteLock Flow

/-! The database sessions of the handlers and background tasks that wait for
somebody else: a provider, Confluence, the directory, a host or the model.

Coroutines that are gathered, and replies that are generated on the side, are
tasks of their own.
-/

/-! Pipelines. -/

/-- How the call of a provider's adapter goes. -/
inductive ProviderCall where
  /-- The secret is missing, or the adapter refuses before it sends anything. -/
  | refused
  /-- Any other exception before the request is sent. -/
  | failed
  /-- The request is sent. An answer and a provider's error are both put on the
  run; no other exception is caught. -/
  | sent (answer : Option Unit)

def triggerPipeline (session : Session) (call : ProviderCall) : Flow Unit := do
  write session
  flush session
  match call with
  | .refused =>
      write session
      flush session
  | .failed => raise
  | .sent answer =>
      await answer
      write session
      flush session

inductive RunState where
  | finished
  | orphaned
  | polled (call : ProviderCall)

def refreshRun (run : RunState) : Flow Unit := do
  match run with
  | .finished => pure ()
  | .orphaned | .polled .refused =>
      write db
      flush db
  | .polled .failed => raise
  | .polled (.sent answer) =>
      await answer
      write db
      flush db

structure TriggerRequest where
  found : Bool
  inputsValid : Bool
  call : ProviderCall

def pipelinesTrigger (request : TriggerRequest) : Flow Unit := do
  if request.found then
    await (some ())
    if request.inputsValid then
      triggerPipeline db request.call
      write db
  else raise

def pipelinesRunRefresh (found : Bool) (run : RunState) : Flow Unit := do
  if found then
    refreshRun run
    write db
  else raise

/-- `_poll_one`, in a session of its own. -/
def pollOne (run : Option RunState) (changed : Bool) : Flow Unit :=
  orElse (sessionScope do
    match run with
    | none => pure ()
    | some run => do
        refreshRun run
        if changed then write db) (pure ())

/-- `poll_tick`: abandoned runs are flushed one by one, then the due ones are awaited. -/
def pollTick (abandoned : Nat) (due : Bool) : Flow Unit := do
  sessionScope (repeat' (fun _ => do
    write db
    flush db) (List.range abandoned))
  if due then await (some ())

/-! Confluence. -/

/-- What a run does with a page or an attachment; a fetch that raises is put on record. -/
inductive ItemRun where
  | unchanged
  | fetched (answer : Option Unit)

def syncItem : ItemRun → Flow Unit
  | .unchanged => write db
  | .fetched answer => orElse (do
      await answer
      write db) (pure ())

structure PageRun where
  /-- None when the listener leaves pages alone. -/
  page : Option ItemRun
  /-- None when it leaves attachments alone, else how their listing goes. -/
  listing : Option (Option Unit)
  attachments : List ItemRun

def syncBody : Option ItemRun → Flow Unit
  | none => pure ()
  | some page => syncItem page

def syncAttachments (run : PageRun) : Flow Unit := do
  match run.listing with
  | none => pure ()
  | some listing =>
      orElse (await listing) (pure ())
      repeat' syncItem run.attachments

def syncPage (run : PageRun) : Flow Unit := do
  syncBody run.page
  syncAttachments run

structure ListenerRun where
  configured : Bool
  /-- The listener's slug names a folder of the default tenant. -/
  folderExists : Bool
  listing : Option Unit
  pages : List PageRun
  gone : Nat

def ensureFolder (folderExists : Bool) : Flow Unit := do
  if folderExists then pure ()
  else
    write db
    flush db

def syncListener (run : ListenerRun) : Flow Unit := do
  if run.configured then
    ensureFolder run.folderExists
    await run.listing
    repeat' syncPage run.pages
    repeat' (fun _ => write db) (List.range run.gone)
    write db
    flush db
  else raise

/-- The confluence poller's `_sync_one`. -/
def syncOne (enabled : Bool) (run : ListenerRun) : Flow Unit :=
  orElse (sessionScope do
    if enabled then syncListener run) (pure ())

def confluenceSyncNow (found : Bool) (run : ListenerRun) : Flow Unit := do
  if found then
    orElse (do
      syncListener run
      write db
      commit db) (pure ())
  else raise

/-! Departments, whose members a worker thread reads from the directory. -/

inductive DirectoryCall where
  /-- A distinguished name is missing, or the directory is not configured. -/
  | misconfigured
  | failed
  | answered (changes : Nat)

def syncDepartment (session : Session) (call : DirectoryCall) : Flow Unit := do
  write session
  flush session
  match call with
  | .misconfigured => raise
  | .failed =>
      write session
      commit session
      raise
  | .answered changes =>
      repeat' (fun _ => write session) (List.range changes)
      write session
      commit session

/-- The request's own session is handed to the worker. -/
def orgSync (found configured : Bool) (call : DirectoryCall) : Flow Unit := do
  if found ∧ configured then orElse (offload (syncDepartment db call)) (pure ())
  else raise

structure DepartmentForm where
  configured : Bool
  /-- Group and manager are found in the directory. -/
  resolved : Bool
  call : DirectoryCall

def orgCreate (form : DepartmentForm) : Flow Unit := do
  if form.configured then
    await (some ())
    if form.resolved then
      write db
      flush db
      write db
      commit db
      orElse (offload (syncDepartment db form.call)) (pure ())
  else raise

/-- Group and manager are only looked up again when they changed. -/
def resolveAgain (changed : Bool) : Flow Unit := if changed then await (some ()) else pure ()

def orgUpdate (found changed resolved : Bool) : Flow Unit := do
  if found then
    resolveAgain changed
    if !changed || resolved then
      write db
      commit db
  else raise

/-! What the agent runs when a plan is approved. A runner's `session_scope` is a
second session beside the one of the approving request. -/

inductive Runner where
  /-- `ssh_exec`, `local_exec` and `winrm_exec` read, then wait for the command. -/
  | command (answers : List (Option Unit))
  /-- `upsert_doc` and `delete_doc` touch no session. -/
  | document
  /-- The runners that write through one `session_scope`; `flushes` of their rows. -/
  | rows (argsValid : Bool) (flushes : List Bool)
  | runPipeline (argsValid found : Bool) (call : ProviderCall)
  | createCredential (argsValid inserted stored : Bool)
  | updateCredential (found : Bool) (secretGiven stored : Bool)
  | deleteCredential (found : Bool) (deleted : Bool)
  | createMonitoringSource (argsValid inserted : Bool) (tokens : List Bool)
  | updateMonitoringSource (found : Bool) (tokens : List Bool)
  | deleteMonitoringSource (found : Bool) (paths : List Bool)
  | syncOrgGroup (found : Bool) (disappeared : Bool) (call : DirectoryCall)

def runnerScope (body : Flow Unit) : Flow Unit := withSession s2 body

/-- The row is flushed for its id; a refused one ends the block. -/
def runnerRow (inserted : Bool) : Flow Unit := do
  write s2
  if inserted then
    flush s2
    write s2
  else refused s2

/-- A stored token is noted on its source in a block of its own. -/
def runnerTokens (tokens : List Bool) : Flow Unit :=
  orElse (repeat' (fun stored => do
    setSecret stored
    runnerScope (write s2)) tokens) (pure ())

def Runner.flow : Runner → Flow Unit
  | .command answers => repeat' (fun answer => await answer) answers
  | .document => pure ()
  | .rows argsValid flushes => do
      if argsValid then
        runnerScope (repeat' (fun accepted => do
          write s2
          if accepted then flush s2
          else
            refused s2
            raise) flushes)
  | .runPipeline argsValid found call => do
      if argsValid then
        runnerScope do
          if found then orElse (triggerPipeline s2 call) (pure ())
  | .createCredential argsValid inserted stored => do
      if argsValid then
        runnerScope (runnerRow inserted)
        if inserted then orElse (setSecret stored) (pure ())
  | .updateCredential found secretGiven stored => do
      runnerScope (if found then write s2 else pure ())
      if found && secretGiven then orElse (setSecret stored) (pure ())
  | .deleteCredential found deleted => do
      runnerScope (if found then write s2 else pure ())
      if found then orElse (setSecret deleted) (pure ())
  | .createMonitoringSource argsValid inserted tokens => do
      if argsValid then
        runnerScope (runnerRow inserted)
        if inserted then runnerTokens tokens
  | .updateMonitoringSource found tokens => do
      runnerScope (if found then write s2 else pure ())
      if found then runnerTokens tokens
  | .deleteMonitoringSource found paths => do
      runnerScope (if found then write s2 else pure ())
      if found then deleteSecrets paths
  | .syncOrgGroup found disappeared call => do
      if found then
        orElse (offload (withSession (.worker 0)
          (if disappeared then raise else syncDepartment (.worker 0) call))) (pure ())

/-- The outcome of a runner, or its exception, is written down in a new session. -/
def execute (runner : Runner) : Flow Unit := do
  orElse runner.flow (pure ())
  withSession s2 (write s2)

inductive Approval where
  | notFound
  | decided
  | unknownTool
  | unconfirmed
  | approved (runner : Runner)

def planApprove (approval : Approval) : Flow Unit := do
  await (some ())
  match approval with
  | .notFound => raise
  | .decided => pure ()
  | .unknownTool =>
      write db
      commit db
  | .unconfirmed =>
      write db
      flush db
  | .approved runner =>
      write db
      commit db
      execute runner

/-- The pending cards of a message, with the runner of each known tool. -/
def planApproveGroup (found : Bool) (cards : List (Option Runner)) : Flow Unit := do
  if found then
    if cards ≠ [] then
      repeat' (fun _ => write db) cards
      commit db
      repeat' execute (cards.filterMap id)
  else raise

def planReject (found pending : Bool) : Flow Unit := do
  if found then
    if pending then write db
  else raise

/-- The model and the tools it asks for are awaited before the reply is stored. -/
def generateReply (waits cards : Nat) : Flow Unit := do
  repeat' (fun _ => await (some ())) (List.range waits)
  sessionScope do
    write db
    flush db
    repeat' (fun _ => do
      write db
      flush db) (List.range cards)
    write db
  await (some ())

/-! Network scans. -/

/-- One result row, when it is still there. -/
def commitResult (session : Session) (found : Bool) : Flow Unit :=
  withSession session (if found then write session else pure ())

/-- `_run`: the checks of all sources are awaited between two short blocks. -/
def scanRun (found : Bool) (checks : Option Unit) : Flow Unit := do
  sessionScope (if found then write db else pure ())
  if found then
    orElse (await checks) (pure ())
    sessionScope (write db)

/-- `_check_local_source`, and `_check_source` for hosts that are reached over
SSH: each result is stored as it comes in, then those that never came. -/
def checkSource (results missed : List Bool) : Flow Unit := do
  repeat' (fun found => do
    await (some ())
    commitResult db found) results
  await (some ())
  repeat' (commitResult db) missed

/-- A Windows source is checked by a worker, which stores the results itself. -/
def checkWindowsSource (results missed : List Bool) : Flow Unit := do
  offload (repeat' (commitResult (.worker 0)) results)
  repeat' (commitResult db) missed

def markAll (results : List Bool) : Flow Unit := repeat' (commitResult db) results

end Dosm.Sessions
