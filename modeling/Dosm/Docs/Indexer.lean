import Dosm.Docs.Vault
import Dosm.Models
import Dosm.Python.Fnmatch
import Mathlib.Data.List.Sort

namespace Dosm.Docs.Indexer

open Models Python Store Vault

/-! The docs indexer: one pass over the source, file by file, then the prune.

What to do about a file is decided from its stat, its content and the row it
has; carrying the decision out is a separate step. Hashing, parsing and
chunking are parameters, and so is the embedder a run gets.
-/

structure Chunk where
  ord : Nat
  text : String
  startChar : Nat
  endChar : Nat
  deriving DecidableEq

/-- A `ParseError`, which marks the row, or any other exception, which does not. -/
inductive ParseFailure where
  | parseError (message : String)
  | crash (message : String)
  deriving DecidableEq

structure Tools where
  sha256 : String → String
  yaml : Yaml
  parse : (rel content : String) → Except ParseFailure (String × Option String)
  chunkText : String → List Chunk

/-- One vector for each text, or nothing: the embedder is absent or fails. -/
abbrev Embedder := List String → Option (List (List UInt8))

structure SmbDocsConfig where
  server : String := ""
  share : String := ""
  basePath : String := ""
  port : Nat := 445
  encrypt : Bool := true
  credentialId : Option Int := none
  deriving DecidableEq

structure DocsIndexConfig where
  source : String := "local"
  smb : SmbDocsConfig := {}
  includeGlobs : List String := ["**/*.md", "**/*.markdown", "**/*.txt", "**/*.pdf"]
  excludeGlobs : List String := ["drafts/**"]

/-- The tables the indexer reads and writes, and the Default tenant's id. -/
structure IndexDb where
  defaultTenant : Option Int
  documents : Table Document := .empty
  chunks : List DocChunk := []
  folders : Table Folder := .empty

/-- An exception out of `_index_one`; its session is rolled back. -/
inductive Failure where
  | store (error : StoreError)
  | raised (raised : Raised)
  | parse (message : String)
  | noDefaultTenant
  deriving DecidableEq

inductive Outcome where
  | indexed
  | unchanged
  | error
  deriving DecidableEq

/-! The file list. -/

/-- A leading `**/` also stands for no directory at all. -/
def matchesAny (rel : String) (patterns : List String) : Bool :=
  patterns.any fun pattern =>
    fnmatch rel pattern || (startsWith pattern "**/" && fnmatch rel (slice 3 pattern.length pattern))

def selected (config : DocsIndexConfig) (rel : String) : Bool :=
  matchesAny rel config.includeGlobs && !matchesAny rel config.excludeGlobs

def iterDocFiles (config : DocsIndexConfig) (store : DocsStore) : Except StoreError (List String) :=
  match store.exists with
  | .error error => .error error
  | .ok false => .ok []
  | .ok true =>
      match store.iterFiles with
      | .error error => .error error
      | .ok found => .ok ((found.filter (selected config)).insertionSort (· ≤ ·))

/-! What to do about one file. -/

/-- What a row keeps of the file it was made from. -/
structure FileFacts where
  sha256 : String
  sizeBytes : Nat
  modifiedAt : Int
  folderId : Option Int
  frontmatterTitle : Option String
  deriving DecidableEq

inductive Plan where
  | unchanged
  | touch (sizeBytes : Nat) (modifiedAt : Int)
  | fail (facts : FileFacts) (message : String)
  | index (facts : FileFacts) (title : Option String) (chunks : List (Chunk × Option (List UInt8)))

def isMarkdown (rel : String) : Bool :=
  let name := lower rel
  [".md", ".markdown"].any fun suffix => suffix.toList.isSuffixOf name.toList

def truthy (text : Option String) : Option String := text.filter fun text => text ≠ ""

/-- The front matter's title, cut to its column, and its folder slug. -/
def frontmatterOf (tools : Tools) (rel content : String) : Option String × Option String :=
  if isMarkdown rel then
    let (fields, _) := parseFrontmatter tools.yaml content
    ((truthy fields.title).map (slice 0 255), truthy fields.folder)
  else (none, none)

/-- The folder of a slug, whichever tenant has it; an unknown slug is logged. -/
def resolveFolder (folders : Table Folder) (slug : Option String) : Except Raised (Option Int) :=
  match slug with
  | none => .ok none
  | some slug =>
      match scalarOneOrNone (folders.rows.filter fun folder => folder.slug = slug) with
      | .error raised => .error raised
      | .ok found => .ok (found.map (·.id))

def vectors (embedder : Embedder) (chunks : List Chunk) : List (Option (List UInt8)) :=
  match embedder (chunks.map (·.text)) with
  | some embedded =>
      if chunks.length ≤ embedded.length then (embedded.take chunks.length).map some
      else chunks.map fun _ => none
  | none => chunks.map fun _ => none

/-- The part of the work that needs the content only. -/
def contentPlan (tools : Tools) (folders : Table Folder) (embedder : Embedder)
    (rel content : String) (stat : FileStat) : Except Failure Plan :=
  let (frontmatterTitle, folderSlug) := frontmatterOf tools rel content
  match resolveFolder folders folderSlug with
  | .error raised => .error (.raised raised)
  | .ok folderId =>
      let facts := {
        sha256 := tools.sha256 content
        sizeBytes := stat.size
        modifiedAt := stat.mtimeMs
        folderId
        frontmatterTitle }
      match tools.parse rel content with
      | .error (.crash message) => .error (.parse message)
      | .error (.parseError message) => .ok (.fail facts message)
      | .ok (text, title) =>
          let chunks := tools.chunkText text
          .ok (.index facts ((truthy title).orElse fun _ => frontmatterTitle)
            (chunks.zip (vectors embedder chunks)))

def settled (stat : FileStat) (doc : Document) : Bool :=
  doc.status = .indexed && doc.sizeBytes = stat.size && doc.modifiedAt = stat.mtimeMs

def sameContent (digest : String) (doc : Document) : Bool :=
  doc.sha256 = digest && doc.status = .indexed

def plan (tools : Tools) (folders : Table Folder) (embedder : Embedder) (store : DocsStore)
    (rel : String) (force : Bool) (stat : FileStat) (found : Option Document) :
    Except Failure Plan :=
  if !force && found.any (settled stat) then .ok .unchanged
  else
    match store.readText rel with
    | .error error => .error (.store error)
    | .ok content =>
        if !force && found.any (sameContent (tools.sha256 content)) then
          .ok (.touch stat.size stat.mtimeMs)
        else contentPlan tools folders embedder rel content stat

/-! Carrying it out. -/

def writeFacts (facts : FileFacts) (now : Int) (doc : Document) : Document :=
  { doc with
    sha256 := facts.sha256
    sizeBytes := facts.sizeBytes
    modifiedAt := facts.modifiedAt
    folderId := facts.folderId
    frontmatterTitle := facts.frontmatterTitle
    indexedAt := some now }

/-- The row afterwards; a parse error leaves the title as it was. -/
def Plan.row (now : Int) : Plan → Document → Document
  | .unchanged, doc => doc
  | .touch sizeBytes modifiedAt, doc => { doc with sizeBytes, modifiedAt }
  | .fail facts message, doc =>
      { writeFacts facts now doc with status := .error, error := some message, chunkCount := 0 }
  | .index facts title chunks, doc =>
      { writeFacts facts now doc with
        title, status := .indexed, error := none, chunkCount := chunks.length }

/-- The chunks afterwards, when they are replaced. -/
def Plan.chunks (docId : Int) : Plan → Option (List DocChunk)
  | .unchanged | .touch _ _ => none
  | .fail _ _ => some []
  | .index _ _ chunks => some <| chunks.map fun (chunk, embedding) =>
      { docId, ord := chunk.ord, text := chunk.text, startChar := chunk.startChar,
        endChar := chunk.endChar, embedding }

def Plan.outcome : Plan → Outcome
  | .unchanged | .touch _ _ => .unchanged
  | .fail _ _ => .error
  | .index _ _ _ => .indexed

theorem Plan.row_key {now : Int} {plan : Plan} {doc : Document} : key (plan.row now doc) = key doc := by
  cases plan <;> rfl

def blankDocument (tenantId : Int) (relPath : String) : Document where
  id := 0
  tenantId
  relPath
  sha256 := ""
  sizeBytes := 0
  modifiedAt := 0
  indexedAt := none
  status := .pending
  error := none
  chunkCount := 0
  title := none
  folderId := none
  frontmatterTitle := none

def replaceChunks (chunks : List DocChunk) (docId : Int) (replacement : Option (List DocChunk)) :
    List DocChunk :=
  match replacement with
  | none => chunks
  | some replacement => (chunks.filter fun chunk => chunk.docId ≠ docId) ++ replacement

def applyPlan (db : IndexDb) (rel : String) (now : Int) (found : Option Document) (plan : Plan) :
    Except Failure IndexDb :=
  match found with
  | some doc =>
      .ok { db with
        documents := db.documents.modify doc.id (plan.row now) fun _ => Plan.row_key
        chunks := replaceChunks db.chunks doc.id (plan.chunks doc.id) }
  | none =>
      match db.defaultTenant with
      | none => .error .noDefaultTenant
      | some tenant =>
          let id := db.documents.fresh
          .ok { db with
            documents := db.documents.insert
              (fun id => plan.row now { blankDocument tenant rel with id }) fun _ => Plan.row_key
            chunks := replaceChunks db.chunks id (plan.chunks id) }

/-- What a run of the indexer finds around it, for each file it comes to. -/
structure Surroundings where
  embedder : String → Embedder
  clock : String → Int

def indexOne (tools : Tools) (around : Surroundings) (store : DocsStore) (force : Bool)
    (db : IndexDb) (rel : String) : Except Failure (IndexDb × Outcome) :=
  match store.stat rel with
  | .error error => .error (.store error)
  | .ok stat =>
      match scalarOneOrNone (db.documents.rows.filter fun doc => doc.relPath = rel) with
      | .error raised => .error (.raised raised)
      | .ok found =>
          match plan tools db.folders (around.embedder rel) store rel force stat found with
          | .error failure => .error failure
          | .ok plan =>
              match applyPlan db rel (around.clock rel) found plan with
              | .error failure => .error failure
              | .ok after => .ok (after, plan.outcome)

/-! The whole run. -/

/-- A failing file is logged and left as it was. -/
def scanStep (tools : Tools) (around : Surroundings) (store : DocsStore) (force : Bool)
    (db : IndexDb) (rel : String) : IndexDb :=
  match indexOne tools around store force db rel with
  | .error _ => db
  | .ok (after, _) => after

def removeDeleted (db : IndexDb) (onDisk : List String) : IndexDb :=
  let stale := (db.documents.rows.filter fun doc => doc.relPath ∉ onDisk).map (·.id)
  { db with
    documents := db.documents.filter fun doc => doc.relPath ∈ onDisk
    chunks := db.chunks.filter fun chunk => chunk.docId ∉ stale }

/-- An error while listing the source ends the run before anything is pruned. -/
def reindex (tools : Tools) (config : DocsIndexConfig) (around : Surroundings) (store : DocsStore)
    (force : Bool) (db : IndexDb) : Except StoreError IndexDb :=
  match iterDocFiles config store with
  | .error error => .error error
  | .ok files => .ok (removeDeleted (files.foldl (scanStep tools around store force) db) files)

end Dosm.Docs.Indexer
