import Dosm.Base.SessionFlow
import Dosm.Credentials.Routes

namespace Dosm.Sessions

open WriteLock Flow Credentials

/-! The database sessions of the request handlers that save a form.

Autoflush is off, so `add` and `delete` and every change of a row are writes
that wait for the next flush or commit. What a handler is answered on its way is
its argument: a check it makes (`checked`), whether the database takes a row
(`inserted`), whether the backend stores a secret (`stored`). An exception that a
handler does not catch ends its task and is no case here.
-/

/-- The session of a request, or of the `session_scope` block a task is in. -/
abbrev db : Session := .task 0

/-- The session of a block inside another one. -/
abbrev s2 : Session := .task 1

def sessionScope (body : Flow Unit) : Flow Unit := withSession db body

/-- `get_session`: the handler runs between the two halves of the dependency. -/
def getSession (handler : Flow Unit) : Flow Unit := withSession db handler

/-- A task gets the loop, and gives it back when it is over. -/
def task (flow : Flow Unit) : List Event := .resume :: (flow.events ++ [.suspend])

/-! Rows with their audit row. -/

/-- A row goes in, its audit row joins it, and both are committed. -/
def saveRow (checked : Bool) : Flow Unit := do
  if checked then
    write db
    flush db
    write db
    commit db
  else raise

/-- The same, where a row that the database refuses is answered with the form. -/
def tryRow (checked inserted : Bool) : Flow Unit := do
  if checked then
    write db
    if inserted then
      flush db
      write db
      commit db
    else
      refused db
      rollback db
  else raise

/-- Rows that need no id before the commit. -/
def commitRows (checked : Bool) : Flow Unit := do
  if checked then
    write db
    commit db
  else raise

def tenantCreate := saveRow

def mapCreate := saveRow

def mapRerun := saveRow

def recordingStart := saveRow

def rbacMappingSave := saveRow

def rbacMappingDelete := saveRow

def pipelinesDelete := saveRow

def payloadRename := saveRow

def payloadCopy := saveRow

def payloadDelete := saveRow

def hostsDelete := saveRow

def folderDelete := saveRow

def deleteUnit := saveRow

def myCredentialsNew := tryRow

def confluenceCreate := tryRow

def portCreate := tryRow

def foldersCreate := tryRow

/-- `assign-org` of a host or a pipeline rolls back when the unit is not the tenant's. -/
def assignOrg (found unitFound : Bool) : Flow Unit := do
  if found then
    if unitFound then
      write db
      flush db
      write db
      commit db
    else rollback db
  else raise

/-- An org unit is created, renamed, unless its name or its place is wrong. -/
def saveUnit (found valid : Bool) : Flow Unit := do
  if found then
    if valid then
      write db
      flush db
      write db
      commit db
    else rollback db
  else raise

def createUnit := saveUnit true

def editUnit := saveUnit

def certSourceCreate (checked : Bool) : Flow Unit := do
  await (some ())
  saveRow checked

def credentialsDelete := commitRows

def portEdit := commitRows

def portDelete := commitRows

def confluenceToggle := commitRows

def confluenceDelete := commitRows

def orgDelete := commitRows

def tenantRename := commitRows

def tenantToggle := commitRows

def rbacDefaultSave := commitRows

def docsDelete := commitRows

def credentialsRename (found changed inserted : Bool) : Flow Unit := do
  if found then
    if changed then tryRow true inserted
  else raise

/-! Hosts and pipelines, through their repositories. -/

/-- A flush whose refusal is caught further up. -/
def flushRow (accepted : Bool) : Flow Unit := do
  if accepted then flush db
  else
    refused db
    raise

/-- A tag that is new is flushed. -/
def getOrCreateTag : Option Bool → Flow Unit
  | none => pure ()
  | some accepted => do
      write db
      flushRow accepted

/-- What the database says to the rows of a host: to its own, to the tags that
are new, and to the links to its tags. -/
structure HostRows where
  valid : Bool
  inserted : Bool
  tags : List (Option Bool)
  linked : Bool

def linkTags (rows : HostRows) : Flow Unit := do
  repeat' (fun tag => do
    getOrCreateTag tag
    write db) rows.tags
  flushRow rows.linked

def createHost (rows : HostRows) : Flow Unit := do
  if rows.valid then
    write db
    flushRow rows.inserted
    linkTags rows
  else raise

/-- The former tags are deleted by a statement of its own, ahead of the host's row. -/
def updateHost (rows : HostRows) : Flow Unit := do
  if rows.valid then
    write db
    flush db
    write db
    linkTags rows
  else raise

def saveHost (found : Bool) (save : Flow Unit) : Flow Unit := do
  if found then
    orElse (do
      save
      write db
      commit db) (rollback db)
  else raise

def hostsCreate (rows : HostRows) : Flow Unit := saveHost true (createHost rows)

def hostsUpdate (found : Bool) (rows : HostRows) : Flow Unit := saveHost found (updateHost rows)

/-- `create_pipeline` and `update_pipeline`: the adapter checks, then the database. -/
def savePipeline (valid accepted : Bool) : Flow Unit := do
  if valid then
    write db
    flushRow accepted
  else raise

/-- The audit row of a new pipeline is left to the teardown. -/
def pipelinesCreate (valid accepted : Bool) : Flow Unit := do
  await (some ())
  orElse (do
    savePipeline valid accepted
    write db) (rollback db)

def pipelinesUpdate (found valid accepted : Bool) : Flow Unit := do
  if found then
    await (some ())
    orElse (do
      savePipeline valid accepted
      write db
      commit db) (rollback db)
  else raise

/-- `payload_create` and `payload_update` answer a bad value with the form. -/
def savePayload (found valid : Bool) : Flow Unit := do
  if found then
    await (some ())
    if valid then saveRow true
  else raise

def payloadCreate := savePayload

def payloadUpdate := savePayload

/-! Handlers that flush and leave the commit to the teardown. -/

def chatNew : Flow Unit := do
  write db
  flush db

def chatPostMessage (found : Bool) (content : String) : Flow Unit := do
  if found then
    if content ≠ "" then
      write db
      flush db
      write db
  else raise

/-- `set_pref`, by which the file page remembers its view. -/
def setPref : Flow Unit := do
  write db
  flush db

def filesIndex (view : String) : Flow Unit := do
  if view = "explorer" || view = "table" then setPref

/-- The browser comes back from Okta. Each of the three calls may raise. -/
def oktaCallback (answers : Fin 3 → Option Unit) (granted active : Bool) : Flow Unit := do
  await (answers 0)
  await (answers 1)
  await (answers 2)
  if granted then
    write db
    flush db
    if active then
      write db
      commit db
    else raise
  else
    write db
    commit db

/-- Handlers that wait first and then leave rows to be committed: file transfers,
remote desktops, detected settings, signed-in users. -/
def waitThenAdd (answers : List (Option Unit)) (rows : Nat) (committed : Bool) : Flow Unit := do
  repeat' await answers
  repeat' (fun _ => write db) (List.range rows)
  if committed then commit db

/-! Secrets, which the backend stores through a session of its own. -/

structure CredentialForm where
  kind : String
  name : String
  secretValue : String

/-- `credentials_create`: the row is committed before the second session opens. -/
def credentialsCreate (form : CredentialForm) (inserted stored : Bool) : Flow Unit := do
  if (credKinds.lookup form.kind).isSome ∧ form.name ≠ "" then
    write db
    if inserted then
      flush db
      write db
      commit db
      if form.secretValue ≠ "" ∧ form.kind ≠ "dynamic" then
        (setSecret stored).orElse (write db)
    else
      refused db
      rollback db

def credentialsUpdate (found : Bool) (form : CredentialForm) (inserted stored : Bool) : Flow Unit := do
  if found then
    if (credKinds.lookup form.kind).isSome then
      write db
      if inserted then
        flush db
        write db
        commit db
        if form.secretValue ≠ "" then
          (setSecret stored).orElse (withSession s2 (write s2))
      else
        refused db
        rollback db
  else raise

/-- `my_credentials_set` and, where a secret that is missing is no error,
`my_credentials_clear`. -/
def setUserMaterial (found stored : Bool) : Flow Unit := do
  if found then
    setSecret stored
    write db
    commit db
  else raise

def myCredentialsSet := setUserMaterial

def myCredentialsClear := setUserMaterial

/-- The tokens that are given are stored one after the other; each notes its path
on the source. -/
def storeTokens (tokens : List (String × Bool)) : Flow Unit :=
  repeat' (fun token => do
    if token.1 ≠ "" then
      setSecret token.2
      write db) tokens

/-- `create_source` and `update_source` commit the source before its tokens. -/
def saveSource (checked : Bool) (tokens : List (String × Bool)) : Flow Unit := do
  if checked then
    write db
    commit db
    storeTokens tokens
    write db
    commit db
  else raise

def createSource := saveSource

def updateSource := saveSource

/-- Secrets that cannot be deleted are passed over. -/
def deleteSecrets (deleted : List Bool) : Flow Unit :=
  repeat' (fun stored => (setSecret stored).orElse (pure ())) deleted

def deleteSource (found : Bool) (paths : List Bool) : Flow Unit := do
  if found then
    deleteSecrets paths
    write db
    commit db
  else raise

/-- `_run_checks` and `_run_checks_fleet`: the answers of all adapters are there
before the first of them is stored. -/
def runChecks (adapters : Nat) : Flow Unit := do
  if adapters ≠ 0 then
    await (some ())
    repeat' (fun _ => write db) (List.range adapters)
    commit db

end Dosm.Sessions
