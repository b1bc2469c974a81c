import Dosm.Docs.Indexer
import Dosm.Web

namespace Dosm.Docs.Folders

open Models Python Store Indexer Web

/-! The folders of the docs pages and the request for a new index. A handler that
answers with an error has written nothing. -/

structure FolderForm where
  name : String
  slug : String

def newFolder (tenant : Int) (name slug : String) (id : Int) : Folder := { id, tenantId := tenant, name, slug }

/-- The unique constraints of the table, both within a tenant. -/
def folderTaken (folders : Table Folder) (tenant : Int) (name slug : String) : Bool :=
  folders.rows.any fun folder => folder.tenantId = tenant && (folder.name = name || folder.slug = slug)

def foldersCreate (asciiFold : String → String) (db : IndexDb) (caller : Caller) (form : FolderForm) :
    Except Reply IndexDb := do
  requireRole caller .viewer
  let tenant ← requireActiveTenant caller
  let slug := if strip form.slug = "" then Vault.slugify asciiFold (strip form.name) else strip form.slug
  if folderTaken db.folders tenant (strip form.name) slug then
    throw (.error 400 "Could not create folder: UNIQUE constraint failed")
  else return { db with folders := db.folders.insert (newFolder tenant (strip form.name) slug) }

/-- The first folder of the slug; without a tenant it may be any tenant's. -/
def getFolderBySlug (db : IndexDb) (slug : String) (tid : Option Int) : Option Folder :=
  db.folders.rows.find? fun folder => folder.slug = slug && tid.all fun tenant => folder.tenantId = tenant

def folderDelete (db : IndexDb) (caller : Caller) (slug : String) : Except Reply IndexDb := do
  requireRole caller .viewer
  match getFolderBySlug db slug caller.tid with
  | none => throw notFound
  | some folder =>
      return { db with
        folders := db.folders.remove folder.id
        documents := db.documents.map fun doc =>
          { doc with folderId := doc.folderId.filter fun id => id ≠ folder.id } }

/-- The run of the indexer that the request starts; a failing one leaves the rows. -/
def docsReindex (tools : Tools) (config : DocsIndexConfig) (around : Surroundings) (store : DocsStore)
    (db : IndexDb) (caller : Caller) (force : Bool) : Except Reply IndexDb := do
  requireRole caller .viewer
  return (reindex tools config around store force db).toOption.getD db

end Dosm.Docs.Folders
