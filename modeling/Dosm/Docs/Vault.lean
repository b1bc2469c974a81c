import Dosm.Docs.Store

namespace Dosm.Docs.Vault

open Python Store

/-! Authoring of vault documents on top of a docs store. -/

def unfiledSlug : String := "_unfiled"

/-- `asciiFold` is the compatibility decomposition with everything outside ASCII
dropped. -/
def slugify (asciiFold : String → String) (text : String) : String :=
  let kept := (asciiFold text).toList.filter fun char =>
    char.isAlphanum || char = '_' || isSpace char || char = '-'
  let slug := String.ofList <|
    collapseRuns (fun char => char = '-' || isSpace char) '-'
      ((strip (String.ofList kept)).toList.map Char.toLower)
  if slug = "" then "doc" else slug

/-- The two frontmatter values the code reads, absent when the block is not a
mapping. -/
structure Frontmatter where
  title : Option String := none
  folder : Option String := none
  deriving DecidableEq

/-- The YAML library and the clock's rendering of `updated_at`. -/
structure Yaml where
  load : String → Option Frontmatter
  dump : (title folder author updatedAt : String) → String

def parseFrontmatter (yaml : Yaml) (text : String) : Frontmatter × String :=
  if !startsWith text "---" then ({}, text)
  else
    match find "\n---" text 3 with
    | none => ({}, text)
    | some stop =>
        let body := lstripChar '\n' (slice (stop + 4) text.length text)
        ((yaml.load (strip (slice 3 stop text))).getD {}, body)

def serializeDoc (yaml : Yaml) (title folderSlug bodyMd author updatedAt : String) : String :=
  "---\n" ++ yaml.dump title folderSlug author updatedAt ++ "---\n\n" ++ rstrip bodyMd ++ "\n"

/-- `base_slug`, or the first of `base_slug-2`, `base_slug-3`, … that no file
of the folder has. -/
def findUniqueSlug (store : DocsStore) (folderSlug baseSlug : String) :
    Except StoreError String := do
  let existing ← store.childNames folderSlug
  if baseSlug ++ ".md" ∉ existing then return baseSlug
  else
    let numbered := (List.range (existing.length + 1)).map fun count =>
      baseSlug ++ "-" ++ toString (count + 2)
    return (numbered.find? fun slug => slug ++ ".md" ∉ existing).getD baseSlug

structure Save where
  folderSlug : String
  docSlug : String
  title : String
  bodyMd : String
  author : String

def saveDoc (yaml : Yaml) (store : DocsStore) (save : Save) (updatedAt : String) (now : Int) :
    Except StoreError (String × DocsStore) := do
  match store.safeRel (save.folderSlug ++ "/" ++ save.docSlug ++ ".md") with
  | .error error => throw (.invalid error)
  | .ok rel =>
      let content := serializeDoc yaml save.title save.folderSlug save.bodyMd save.author updatedAt
      let after ← store.writeBytes rel content now
      return (rel, after)

def deleteDoc (store : DocsStore) (rel : String) : Except StoreError DocsStore :=
  match store.safeRel rel with
  | .error error => .error (.invalid error)
  | .ok norm => store.delete norm

def fileMtimeMs (store : DocsStore) (rel : String) : Except StoreError Int := do
  return (← store.stat rel).mtimeMs

end Dosm.Docs.Vault
