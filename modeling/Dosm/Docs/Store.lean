import Mathlib.Data.List.AList
import Dosm.Python.Text

namespace Dosm.Docs.Store

open Python

/-! The docs source: one tree of files behind a local or a network backend.

Every operation takes a relative path, validates and normalises it, and then
acts on the entry the normal form names.
-/

/-- The `ValueError`s of path validation, with the path they report. -/
inductive PathError where
  | absolute (rel : String)
  | traversal (rel : String)
  | empty (rel : String)
  deriving DecidableEq

inductive StoreError where
  | invalid (error : PathError)
  | notFound (rel : String)
  | osError (reason : String)
  | unreachable (reason : String)
  | wrapped (what : String) (cause : StoreError)
  deriving DecidableEq

inductive Node where
  | file (content : String) (mtimeMs : Int)
  | directory
  deriving DecidableEq

abbrev Tree := AList fun _ : String => Node

/-- A local root decides by resolving the path whether it stays inside; a share
may be unreachable. -/
inductive Backend where
  | localRoot (contained : String → Bool)
  | smb (fault : Option String)

structure DocsStore where
  backend : Backend
  present : Bool
  tree : Tree

structure FileStat where
  size : Nat
  mtimeMs : Int
  deriving DecidableEq

def normalizeRel (rel : String) : Except PathError String :=
  let trimmed := strip (replaceChar '\\' '/' rel)
  if startsWith trimmed "/" then .error (.absolute rel)
  else
    let parts := pathParts trimmed
    if ".." ∈ parts then .error (.traversal rel)
    else if parts = [] then .error (.empty rel)
    else .ok ("/".intercalate parts)

namespace Node

def isFile : Option Node → Bool
  | some (.file _ _) => true
  | _ => false

end Node

def ancestors (rel : String) : List String :=
  let parts := pathParts rel
  (List.range (parts.length - 1)).map fun count => "/".intercalate (parts.take (count + 1))

namespace DocsStore

def safeRel (store : DocsStore) (rel : String) : Except PathError String :=
  match store.backend with
  | .smb _ => normalizeRel rel
  | .localRoot contained =>
      match normalizeRel rel with
      | .error error => .error error
      | .ok norm => if contained norm then .ok norm else .error (.traversal rel)

/-- The session with the share; nothing to do for a local root. -/
def client (store : DocsStore) : Except StoreError Unit :=
  match store.backend with
  | .smb (some reason) => .error (.unreachable reason)
  | _ => .ok ()

/-- The network backend reports every failure as one of its own. -/
def wrap (store : DocsStore) (what : String) (error : StoreError) : StoreError :=
  match store.backend with
  | .smb _ => .wrapped what error
  | .localRoot _ => error

def «exists» (store : DocsStore) : Except StoreError Bool := do
  store.client
  return store.present

def iterFiles (store : DocsStore) : Except StoreError (List String) := do
  store.client
  return (store.tree.entries.filter fun entry => Node.isFile (some entry.2)).map (·.1)

def isFile (store : DocsStore) (rel : String) : Except StoreError Bool := do
  store.client
  match store.safeRel rel with
  | .error _ => return false
  | .ok norm => return Node.isFile (store.tree.lookup norm)

def fileAt (store : DocsStore) (rel : String) : Except StoreError (String × Int) :=
  match store.safeRel rel with
  | .error error => .error (.invalid error)
  | .ok norm =>
      match store.tree.lookup norm with
      | some (.file content mtimeMs) => .ok (content, mtimeMs)
      | some .directory => .error (.osError "is a directory")
      | none => .error (.notFound norm)

def stat (store : DocsStore) (rel : String) : Except StoreError FileStat := do
  store.client
  match store.fileAt rel with
  | .ok (content, mtimeMs) => return { size := content.utf8ByteSize, mtimeMs }
  | .error error => throw (store.wrap ("stat " ++ rel) error)

def readText (store : DocsStore) (rel : String) : Except StoreError String := do
  store.client
  match store.fileAt rel with
  | .ok (content, _) => return content
  | .error error => throw (store.wrap ("open " ++ rel) error)

def childNames (store : DocsStore) (relDir : String) : Except StoreError (List String) := do
  store.client
  let isRoot := match store.backend with
    | .localRoot _ => relDir.toList.all (· = '/')
    | .smb _ => relDir.isEmpty
  if isRoot then return names []
  else
    match normalizeRel relDir with
    | .ok norm => return names (pathParts norm)
    | .error error => throw (store.wrap ("listing " ++ relDir) (.invalid error))
where
  names (directory : List String) : List String :=
    store.tree.entries.filterMap fun entry =>
      let parts := pathParts entry.1
      if parts.length = directory.length + 1 ∧ directory.isPrefixOf parts then parts.getLast?
      else none

/-- Creates the missing parents, the root too, and replaces the file in one move. -/
def writeBytes (store : DocsStore) (rel content : String) (now : Int) :
    Except StoreError DocsStore := do
  store.client
  match store.safeRel rel with
  | .error error => throw (.invalid error)
  | .ok norm =>
      if (ancestors norm).any fun parent => Node.isFile (store.tree.lookup parent) then
        throw (store.wrap ("write " ++ norm) (.osError "not a directory"))
      else if store.tree.lookup norm = some .directory then
        throw (store.wrap ("write " ++ norm) (.osError "is a directory"))
      else
        let parents := (ancestors norm).foldl (fun tree parent => tree.insert parent .directory)
          store.tree
        return { store with present := true, tree := parents.insert norm (.file content now) }

def delete (store : DocsStore) (rel : String) : Except StoreError DocsStore := do
  store.client
  match store.safeRel rel with
  | .error error => throw (store.wrap ("delete " ++ rel) (.invalid error))
  | .ok norm =>
      match store.tree.lookup norm with
      | none => throw (.notFound rel)
      | some .directory => throw (store.wrap ("delete " ++ rel) (.osError "is a directory"))
      | some (.file _ _) => return { store with tree := store.tree.erase norm }

theorem wrap_ne_notFound {store : DocsStore} {what missing : String} {error : StoreError}
    (other : error ≠ .notFound missing) : store.wrap what error ≠ .notFound missing := by
  unfold wrap
  cases store.backend with
  | localRoot contained => exact other
  | smb fault => nofun

theorem delete_notFound_iff {store : DocsStore} {rel : String} :
    (∃ missing, store.delete rel = .error (.notFound missing)) ↔
      store.client = .ok () ∧
        ∃ norm, store.safeRel rel = .ok norm ∧ store.tree.lookup norm = none := by
  cases client : store.client with
  | error cause =>
      have fault : ∀ missing, cause ≠ .notFound missing := by
        rintro missing rfl
        unfold DocsStore.client at client
        split at client <;> cases client
      simp [delete, client, bind, Except.bind, fault]
  | ok _ =>
      cases safe : store.safeRel rel with
      | error error =>
          have other : ∀ missing, store.wrap ("delete " ++ rel) (.invalid error) ≠ .notFound missing :=
            fun missing => wrap_ne_notFound nofun
          simp [delete, client, safe, bind, Except.bind, throw, throwThe, MonadExceptOf.throw, other]
      | ok norm =>
          cases found : store.tree.lookup norm with
          | none => simp [delete, client, safe, found, bind, Except.bind, throw, throwThe,
              MonadExceptOf.throw]
          | some node =>
              cases node with
              | file content mtimeMs =>
                  simp [delete, client, safe, found, bind, Except.bind, pure, Except.pure]
              | directory =>
                  have other : ∀ missing, store.wrap ("delete " ++ rel) (.osError "is a directory") ≠
                      .notFound missing := fun missing => wrap_ne_notFound nofun
                  simp [delete, client, safe, found, bind, Except.bind, throw, throwThe,
                    MonadExceptOf.throw, other]

end DocsStore

/-! The files of a tree, and what a write does to them.

Directories come and go with the files below them; a file stays until a call names
it.
-/

/-- The file of a name, with its content and time. -/
def held (tree : Tree) (name : String) : Option (String × Int) :=
  match tree.lookup name with
  | some (.file content mtimeMs) => some (content, mtimeMs)
  | _ => none

/-- The tree with the directories a file of this name needs. -/
def withParents (tree : Tree) (norm : String) : Tree :=
  (ancestors norm).foldl (fun tree parent => tree.insert parent .directory) tree

section Trees

variable {tree : Tree} {name other norm rel content : String} {node : Node} {now mtimeMs : Int}

theorem isFile_iff_held : Node.isFile (tree.lookup name) = (held tree name).isSome := by
  unfold held Node.isFile
  cases tree.lookup name with
  | none => rfl
  | some node => cases node <;> rfl

theorem lookup_of_held (isHeld : held tree name = some (content, mtimeMs)) :
    tree.lookup name = some (.file content mtimeMs) := by
  unfold held at isHeld
  split at isHeld
  · rename_i found
    cases isHeld
    exact found
  · cases isHeld

theorem held_insert_file : held (tree.insert name (.file content now)) name = some (content, now) := by
  rw [held, AList.lookup_insert]

theorem held_insert_ne (apart : other ≠ name) : held (tree.insert name node) other = held tree other := by
  rw [held, held, AList.lookup_insert_ne apart]

theorem held_erase : held (tree.erase name) name = none := by
  rw [held, AList.lookup_erase]

theorem held_erase_ne (apart : other ≠ name) : held (tree.erase name) other = held tree other := by
  rw [held, held, AList.lookup_erase_ne apart]

theorem held_insert_directory (free : held tree name = none) :
    held (tree.insert name .directory) other = held tree other := by
  by_cases same : other = name
  · subst same
    rw [free, held, AList.lookup_insert]
  · exact held_insert_ne same

theorem held_directories {parents : List String} (free : ∀ parent ∈ parents, held tree parent = none) :
    held (parents.foldl (fun tree parent => tree.insert parent .directory) tree) other = held tree other := by
  induction parents generalizing tree with
  | nil => rfl
  | cons parent rest ih =>
      have first := free parent List.mem_cons_self
      rw [List.foldl_cons, ih, held_insert_directory first]
      intro later member
      rw [held_insert_directory first]
      exact free later (List.mem_cons_of_mem _ member)

theorem held_withParents (free : ¬ (ancestors norm).any fun parent => Node.isFile (tree.lookup parent)) :
    held (withParents tree norm) other = held tree other := by
  apply held_directories
  intro parent member
  cases isHeld : held tree parent with
  | none => rfl
  | some found =>
      refine absurd (List.any_eq_true.mpr ⟨parent, member, ?_⟩) free
      rw [isFile_iff_held, isHeld]
      rfl

theorem lookup_withParents_directory (directory : tree.lookup name = some .directory) :
    (withParents tree norm).lookup name = some .directory := by
  unfold withParents
  generalize ancestors norm = parents
  induction parents generalizing tree with
  | nil => exact directory
  | cons parent rest ih =>
      rw [List.foldl_cons]
      apply ih
      by_cases same : name = parent
      · rw [same, AList.lookup_insert]
      · rw [AList.lookup_insert_ne same]
        exact directory

end Trees

namespace DocsStore

variable {store after : DocsStore} {rel content : String} {now : Int}

theorem isFile_true_iff : store.isFile rel = .ok true ↔
    store.client = .ok () ∧ ∃ norm, store.safeRel rel = .ok norm ∧ (held store.tree norm).isSome := by
  unfold isFile
  cases store.client with
  | error reason => simp [bind, Except.bind]
  | ok _ =>
      cases store.safeRel rel with
      | error reason => simp [bind, Except.bind, pure, Except.pure]
      | ok norm => simp [bind, Except.bind, pure, Except.pure, isFile_iff_held]

theorem writeBytes_spec (written : store.writeBytes rel content now = .ok after) :
    ∃ norm, store.safeRel rel = .ok norm ∧ after.backend = store.backend ∧
      held after.tree norm = some (content, now) ∧ ∀ name ≠ norm, held after.tree name = held store.tree name := by
  unfold writeBytes at written
  cases reached : store.client with
  | error reason => simp [reached, bind, Except.bind] at written
  | ok _ =>
      cases safe : store.safeRel rel with
      | error reason => simp [reached, safe, bind, Except.bind, throw, throwThe, MonadExceptOf.throw] at written
      | ok norm =>
          simp only [reached, safe, bind, Except.bind] at written
          split at written
          · cases written
          · rename_i free
            split at written
            · cases written
            · cases written
              refine ⟨norm, rfl, rfl, held_insert_file, fun name apart => ?_⟩
              exact (held_insert_ne apart).trans (held_withParents free)

end DocsStore

end Dosm.Docs.Store
