import Dosm.Models
import Dosm.Docs.Vault

namespace Dosm.Docs.Routes

open Models Python Store Vault

/-! The by-path routes of the docs vault.

The vault is one tree shared by all tenants; ownership is what the document
rows say. Each route checks the rows for the submitted spelling of the path and
then hands its normal form to the store.
-/

/-- What a request finds: the source, the rows and the folders. -/
structure Site where
  store : DocsStore
  documents : List Document
  folders : List Folder

structure Caller where
  tid : Option Int
  userId : Int
  username : String

structure Tools where
  yaml : Yaml
  renderMarkdown : String → String
  asciiFold : String → String

structure Clock where
  now : Int
  updatedAt : String

inductive Detail where
  | standard
  | text (detail : String)
  | readFailed (cause : StoreError)
  deriving DecidableEq

structure EditorPage where
  folders : List Folder
  path : String
  title : String
  appSlug : String
  body : String
  originalMtime : String
  error : Option String
  conflict : Bool
  deriving DecidableEq

inductive Response where
  | httpError (status : Nat) (detail : Detail)
  | crashed (cause : StoreError)
  | plain (text : String)
  | viewPage (path title renderedHtml : String) (doc : Option Document)
  | editorPage (status : Nat) (page : EditorPage)
  | redirect (location : String)
  deriving DecidableEq

structure Outcome where
  response : Response
  store : DocsStore
  audit : List AuditLog := []
  reindexTriggered : Bool := false

/-- A handler that raises has written nothing. -/
def settle (site : Site) : Except Response Outcome → Outcome
  | .ok outcome => outcome
  | .error response => { response, store := site.store }

/-- A store error the handler does not catch. -/
def uncaught {α : Type} : Except StoreError α → Except Response α :=
  Except.mapError .crashed

def notFound : Response := .httpError 404 .standard

def tenantClause {Row : Type} (tenantId : Row → Int) (tid : Option Int) (row : Row) : Bool :=
  match tid with
  | none => true
  | some tenant => tenantId row = tenant

def listFolders (site : Site) (tid : Option Int) : List Folder :=
  (site.folders.filter (tenantClause Folder.tenantId tid)).mergeSort fun left right =>
    left.name ≤ right.name

/-- The guard of every by-path route: the first row whose path is spelled like
the submitted one decides. -/
def requireDocAccess (documents : List Document) (path : String) (tid : Option Int) :
    Except Response Unit :=
  match tid with
  | none => .ok ()
  | some tenant =>
      match documents.find? fun doc => doc.relPath = path with
      | some doc => if doc.tenantId ≠ tenant then .error notFound else .ok ()
      | none => .ok ()

def validPath (store : DocsStore) (path : String) : Except Response String :=
  (store.safeRel path).mapError fun _ => .httpError 400 (.text "invalid path")

/-- What viewing, editing and saving check before they open the file. -/
def requireFile (site : Site) (caller : Caller) (path : String) : Except Response String := do
  let rel ← validPath site.store path
  requireDocAccess site.documents path caller.tid
  if ← uncaught (site.store.isFile rel) then return rel else throw notFound

def isMarkdown (rel : String) : Bool :=
  lowerEndsWith rel ".md" || lowerEndsWith rel ".markdown"

/-- Python's `first or second` on strings. -/
def orElse (first : Option String) (second : String) : String :=
  match first with
  | some text => if text = "" then second else text
  | none => second

def stem (rel : String) : String := nameStem (pathName (pathParts rel))

def docsView (tools : Tools) (site : Site) (caller : Caller) (path : String) (raw : Bool) :
    Except Response Outcome := do
  let rel ← requireFile site caller path
  match site.store.readText rel with
  | .error error => throw (.httpError 500 (.readFailed error))
  | .ok text =>
      if raw || !isMarkdown rel then return { response := .plain text, store := site.store }
      else
        let doc := site.documents.find? fun doc =>
          doc.relPath = path && tenantClause Document.tenantId caller.tid doc
        let rendered := tools.renderMarkdown (parseFrontmatter tools.yaml text).2
        return {
          response := .viewPage path (orElse (doc.bind Document.title) (stem rel)) rendered doc
          store := site.store }

def docsEdit (tools : Tools) (site : Site) (caller : Caller) (path : String) :
    Except Response Outcome := do
  let rel ← requireFile site caller path
  let text ← uncaught (site.store.readText rel)
  let mtimeMs ← uncaught (fileMtimeMs site.store rel)
  let (frontmatter, body) := parseFrontmatter tools.yaml text
  return {
    response := .editorPage 200 {
      folders := listFolders site caller.tid
      path
      title := orElse frontmatter.title (stem rel)
      appSlug := frontmatter.folder.getD unfiledSlug
      body
      originalMtime := toString mtimeMs
      error := none
      conflict := false }
    store := site.store }

structure SaveForm where
  title : String
  appSlug : String
  body : String
  originalMtime : String

def conflictMessage : String :=
  "This file was modified externally. Reload to see the latest version, or save anyway to overwrite."

def docsSave (tools : Tools) (clock : Clock) (site : Site) (caller : Caller) (path : String)
    (form : SaveForm) : Except Response Outcome := do
  let some tenant := caller.tid
    | throw (.httpError 403 (.text "select an active tenant before making changes"))
  let title := orElse (some (strip form.title)) "Untitled"
  let appSlug := orElse (some (strip form.appSlug)) unfiledSlug
  let save := fun folderSlug docSlug => saveDoc tools.yaml site.store
    { folderSlug, docSlug, title, bodyMd := form.body, author := caller.username }
    clock.updatedAt clock.now
  let saved := fun action (written : String × DocsStore) => {
    response := .redirect ("/docs/view?path=" ++ written.1)
    store := written.2
    audit := [{
      tenantId := some tenant
      actorId := caller.userId
      action
      target := "doc:" ++ written.1
      details := some ("title=" ++ Python.repr title) }]
    reindexTriggered := true }
  if path ≠ "" then
    let rel ← requireFile site caller path
    let mtimeMs ← if form.originalMtime = "" then pure "" else
      toString <$> uncaught (fileMtimeMs site.store rel)
    if mtimeMs ≠ form.originalMtime then
      return {
        response := .editorPage 409 {
          folders := listFolders site caller.tid
          path
          title
          appSlug
          body := form.body
          originalMtime := form.originalMtime
          error := some conflictMessage
          conflict := true }
        store := site.store }
    let parent := pathName (pathParts rel).dropLast
    let written ← uncaught (save (orElse (some parent) unfiledSlug) (stem rel))
    return saved "docs.update" written
  else
    let docSlug ← uncaught (findUniqueSlug site.store appSlug (slugify tools.asciiFold title))
    let written ← uncaught (save appSlug docSlug)
    return saved "docs.create" written

/-- The access check comes before any validation of the path. -/
def docsDelete (site : Site) (caller : Caller) (path : String) : Except Response Outcome := do
  requireDocAccess site.documents path caller.tid
  match deleteDoc site.store path with
  | .error (.invalid _) => throw (.httpError 400 (.text "invalid path"))
  | .error (.notFound _) => throw notFound
  | .error error => throw (.crashed error)
  | .ok after =>
      return {
        response := .redirect "/docs"
        store := after
        audit := [{
          tenantId := caller.tid
          actorId := caller.userId
          action := "docs.delete"
          target := "doc:" ++ path
          details := none }]
        reindexTriggered := true }

inductive Route where
  | view (raw : Bool)
  | edit
  | save (form : SaveForm)
  | delete

def handle (tools : Tools) (clock : Clock) (site : Site) (caller : Caller) (path : String)
    (route : Route) : Outcome :=
  settle site <|
    match route with
    | .view raw => docsView tools site caller path raw
    | .edit => docsEdit tools site caller path
    | .save form => docsSave tools clock site caller path form
    | .delete => docsDelete site caller path

end Dosm.Docs.Routes
