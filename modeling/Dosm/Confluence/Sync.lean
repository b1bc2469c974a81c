import Dosm.Base.Table
import Dosm.Python.Value
import Dosm.Docs.Vault

namespace Dosm.Confluence

open Python Docs.Store Docs.Vault

/-! One run of a listener: its space is reconciled into the docs store.

Every call of the run may raise. A call is named by the item it is for, since an
item that is listed once is fetched, written and deleted at most once.
-/

inductive Kind where
  | page
  | attachment
  deriving DecidableEq

abbrev Key := Kind × String

instance : LawfulBEq Key := inferInstance

structure AttachMeta where
  id : String
  filename : String
  version : String
  data : String
  deriving DecidableEq

structure RemotePage where
  id : String
  title : String
  version : String
  html : String
  attachments : List AttachMeta
  deriving DecidableEq

structure Listener where
  slug : String
  spaceKey : String
  syncPages : Bool
  syncAttachments : Bool

structure SyncRow where
  relPath : String
  version : Option String
  title : Option String
  deriving DecidableEq

/-- A file with the item and the version that its text was fetched for. -/
structure SyncedFile where
  key : Key
  version : String
  text : String
  deriving DecidableEq

inductive StoreCall where
  | write (rel : String)
  | delete (rel : String)
  deriving DecidableEq

abbrev Rows := AList fun _ : Key => SyncRow

abbrev Files := AList fun _ : String => SyncedFile

/-- The rows of the listener, the files of the store and the calls that changed it. -/
structure SyncState where
  rows : Rows := ∅
  files : Files := ∅
  calls : List StoreCall := []

structure Faults where
  pageBody : String → Bool := fun _ => false
  listing : String → Bool := fun _ => false
  download : String → Bool := fun _ => false
  write : Key → Bool := fun _ => false
  /-- Deleting the file under the former path of an item. -/
  deleteOld : Key → Bool := fun _ => false
  /-- Deleting the file of an item that is gone. -/
  deleteGone : Key → Bool := fun _ => false

structure Tools where
  asciiFold : String → String
  htmlToMarkdown : String → String
  yaml : Yaml
  /-- The clock's rendering of `updated_at`. -/
  updatedAt : String

structure Item where
  key : Key
  rel : Except PathError String
  version : String
  title : String
  text : String

def pageRel (tools : Tools) (ns title id : String) : Except PathError String :=
  normalizeRel ("confluence/" ++ ns ++ "/" ++ slugify tools.asciiFold title ++ "-" ++ id ++ ".md")

def attachmentRel (ns id filename : String) : Except PathError String :=
  normalizeRel ("confluence/" ++ ns ++ "/attachments/" ++ id ++ "-" ++ filename)

def pageItem (tools : Tools) (listener : Listener) (page : RemotePage) : Item where
  key := (.page, page.id)
  rel := pageRel tools listener.slug page.title page.id
  version := page.version
  title := page.title
  text := serializeDoc tools.yaml (if page.title = "" then page.id else page.title) listener.slug
    (tools.htmlToMarkdown page.html) ("confluence:" ++ listener.spaceKey) tools.updatedAt

def attachmentItem (listener : Listener) (att : AttachMeta) : Item where
  key := (.attachment, att.id)
  rel := attachmentRel listener.slug att.id att.filename
  version := att.version
  title := att.filename
  text := att.data

/-- The attachments that the run gets to see of a page. -/
def listAttachments (faults : Faults) (page : RemotePage) : List AttachMeta :=
  if faults.listing page.id then [] else page.attachments

def items (tools : Tools) (listener : Listener) (faults : Faults) (pages : List RemotePage) : List Item :=
  pages.flatMap fun page =>
    (if listener.syncPages then [pageItem tools listener page] else []) ++
      if listener.syncAttachments then (listAttachments faults page).map (attachmentItem listener) else []

def Faults.fetch (faults : Faults) : Key → Bool
  | (.page, id) => faults.pageBody id
  | (.attachment, id) => faults.download id

/-- `_safe_delete`: a file that is missing is no error, any other is put on record. -/
def safeDelete (state : SyncState) (rel : String) (raises : Bool) : SyncState :=
  if raises then state
  else { state with files := state.files.erase rel, calls := state.calls ++ [.delete rel] }

def writeItem (state : SyncState) (item : Item) (rel : String) : SyncState :=
  { state with
    rows := state.rows.insert item.key ⟨rel, some item.version, some item.title⟩
    files := state.files.insert rel ⟨item.key, item.version, item.text⟩
    calls := state.calls ++ [.write rel] }

/-- A retitled item loses its former file before the new one is written. -/
def dropOld (faults : Faults) (state : SyncState) (key : Key) (row : SyncRow) (rel : String) : SyncState :=
  if row.relPath ≠ rel then safeDelete state row.relPath (faults.deleteOld key) else state

def syncItem (faults : Faults) (state : SyncState) (item : Item) (rel : String) : SyncState :=
  match state.rows.lookup item.key with
  | some row =>
      if row.version = some item.version ∧ row.relPath = rel then state
      else if faults.fetch item.key then state
      else if faults.write item.key then dropOld faults state item.key row rel
      else writeItem (dropOld faults state item.key row rel) item rel
  | none =>
      if faults.fetch item.key || faults.write item.key then state else writeItem state item rel

/-- The run would add a row that it has added already. -/
def addedTwice (existing : Rows) (faults : Faults) (state : SyncState) (key : Key) : Bool :=
  (existing.lookup key).isNone && (state.rows.lookup key).isSome && !faults.fetch key && !faults.write key

/-- The items one by one; nothing when the run ends with an exception, on an invalid
path or on a row that is there twice. -/
def syncItems (existing : Rows) (faults : Faults) : SyncState → List Item → Option SyncState
  | state, [] => some state
  | state, item :: rest =>
      match item.rel with
      | .error _ => none
      | .ok rel =>
          if addedTwice existing faults state item.key then none
          else syncItems existing faults (syncItem faults state item rel) rest

/-- A row that the run did not see is deleted, and its file if that can be. -/
def forgetItem (faults : Faults) (state : SyncState) (key : Key) (row : SyncRow) : SyncState :=
  let deleted := safeDelete state row.relPath (faults.deleteGone key)
  { deleted with rows := deleted.rows.erase key }

def mirrorDelete (faults : Faults) (seen : List Key) :
    SyncState → List (Sigma fun _ : Key => SyncRow) → SyncState
  | state, [] => state
  | state, entry :: rest =>
      mirrorDelete faults seen
        (if entry.1 ∈ seen then state else forgetItem faults state entry.1 entry.2) rest

/-- `sync_listener`, when `list_pages` returns. -/
def syncListener (tools : Tools) (listener : Listener) (faults : Faults) (pages : List RemotePage)
    (before : SyncState) : Option SyncState :=
  let listed := items tools listener faults pages
  (syncItems before.rows faults before listed).map fun state =>
    mirrorDelete faults (listed.map Item.key) state before.rows.entries

/-! The listeners of a tenant: creation, deletion and a sync on demand. -/

structure ListenerRow where
  id : Int
  tenantId : Int
  name : String
  deployment : String
  baseUrl : String
  spaceKey : String
  slug : String
  credentialId : Option Int
  syncPages : Bool
  syncAttachments : Bool
  enabled : Bool
  /-- The rows that its syncs keep; they go with it. -/
  rows : Rows

instance : Owned ListenerRow where
  key := ListenerRow.id
  owner := ListenerRow.tenantId

def deployments : List String := ["cloud", "server"]

inductive Failure where
  | http (status : Nat) (detail : String)
  /-- `int()` of a text that is no number. -/
  | valueError
  deriving DecidableEq

structure ListenerForm where
  name : String
  deployment : String
  baseUrl : String
  spaceKey : String
  credentialId : String
  syncPages : Bool
  syncAttachments : Bool

def listenerOf (row : ListenerRow) : Listener :=
  ⟨row.slug, row.spaceKey, row.syncPages, row.syncAttachments⟩

/-- The unique constraints of the table, both within a tenant. -/
def listenerTaken (listeners : Table ListenerRow) (tid : Int) (name baseUrl spaceKey : String) : Bool :=
  listeners.rows.any fun row => row.tenantId = tid &&
    (row.name = name || (row.baseUrl = baseUrl && row.spaceKey = spaceKey))

def newListener (asciiFold : String → String) (tid : Int) (form : ListenerForm) (credentialId id : Int) :
    ListenerRow where
  id := id
  tenantId := tid
  name := strip form.name
  deployment := strip form.deployment
  baseUrl := strip form.baseUrl
  spaceKey := strip form.spaceKey
  slug := slugify asciiFold (strip form.name)
  credentialId := some credentialId
  syncPages := form.syncPages
  syncAttachments := form.syncAttachments
  enabled := true
  rows := ∅

/-- The credentials are given by their tenants. -/
def confluenceCreate (asciiFold : String → String) (credentialTenant : Int → Option Int)
    (listeners : Table ListenerRow) (tid : Int) (form : ListenerForm) : Except Failure (Table ListenerRow) :=
  if strip form.name = "" ∨ strip form.deployment ∉ deployments ∨ strip form.baseUrl = "" ∨
      strip form.spaceKey = "" then
    .error (.http 400 "name, deployment, base URL and space key are required")
  else if strip form.credentialId = "" then .error (.http 400 "a credential is required")
  else
    match parseInt form.credentialId with
    | none => .error .valueError
    | some credentialId =>
        if credentialTenant credentialId ≠ some tid then .error (.http 400 "credential not found")
        else if listenerTaken listeners tid (strip form.name) (strip form.baseUrl) (strip form.spaceKey) then
          .error (.http 400 "a listener with that name or space already exists")
        else .ok (listeners.insert (newListener asciiFold tid form credentialId))

def getListener (listeners : Table ListenerRow) (id : Int) (tid : Option Int) : Option ListenerRow :=
  (listeners.get id).filter fun row => tid.all fun tenant => row.tenantId = tenant

def confluenceToggle (listeners : Table ListenerRow) (id : Int) (tid : Option Int) :
    Except Failure (Table ListenerRow) :=
  match getListener listeners id tid with
  | none => .error (.http 404 "Not Found")
  | some row => .ok (listeners.modify row.id fun row => { row with enabled := !row.enabled })

def confluenceDelete (listeners : Table ListenerRow) (id : Int) (tid : Option Int) :
    Except Failure (Table ListenerRow) :=
  match getListener listeners id tid with
  | none => .error (.http 404 "Not Found")
  | some row => .ok (listeners.remove row.id)

/-- One sync of a listener over the files that are there. -/
def syncRow (tools : Tools) (faults : Faults) (pages : List RemotePage) (files : Files) (row : ListenerRow) :
    Option SyncState :=
  syncListener tools (listenerOf row) faults pages { rows := row.rows, files := files }

/-- How far the items get before a path ends the run. That an item without a row is added
twice is found when the run ends; until then it is written each time. -/
def itemsReached (existing : Rows) (faults : Faults) : SyncState → List Item → SyncState
  | state, [] => state
  | state, item :: rest =>
      match item.rel with
      | .error _ => state
      | .ok rel =>
          let unadded : SyncState :=
            if addedTwice existing faults state item.key then { state with rows := state.rows.erase item.key }
            else state
          itemsReached existing faults (syncItem faults unadded item rel) rest

/-- The calls of a sync, also of one that ends with an exception. -/
def syncCalls (tools : Tools) (faults : Faults) (pages : List RemotePage) (files : Files) (row : ListenerRow) :
    List StoreCall :=
  match syncRow tools faults pages files row with
  | some after => after.calls
  | none =>
      let listed := items tools (listenerOf row) faults pages
      let reached := itemsReached row.rows faults { rows := row.rows, files := files } listed
      if listed.all fun item => item.rel.isOk then
        (mirrorDelete faults (listed.map Item.key) reached row.rows.entries).calls
      else reached.calls

end Dosm.Confluence
