import Mathlib.Data.List.Sort
import Dosm.Base.FreeName
import Dosm.Base.Table
import Dosm.Python.Text

namespace Dosm.Org

open Python

/-! Departments, their members and their place in the hierarchy.

A department is bound to a group of the directory; a sync takes over the members
of the group and puts the department under the first department that the chain of
managers leads to. Every save writes a card of the department into the docs tree.
-/

inductive SyncStatus where
  | never
  | pending
  | ok
  | error
  deriving DecidableEq

structure Department where
  id : Int
  tenantId : Int
  name : String
  slug : String
  description : Option String
  adGroupName : String
  adGroupDn : Option String
  managerInput : String
  managerDn : Option String
  managerName : Option String
  managerEmail : Option String
  managerTitle : Option String
  parentId : Option Int
  lastSyncError : Option String
  syncStatus : SyncStatus
  deriving DecidableEq

instance : Owned Department where
  key := Department.id
  owner := Department.tenantId

structure DepartmentMember where
  departmentId : Int
  userDn : String
  displayName : String
  email : Option String
  title : Option String
  phone : Option String
  enabled : Bool
  managerDn : Option String
  managerName : Option String
  deriving DecidableEq

structure UserRecord where
  distinguishedName : String
  displayName : String
  email : Option String
  title : Option String

structure GroupRecord where
  distinguishedName : String
  name : String

structure MemberRecord where
  userDn : String
  displayName : String
  email : Option String
  title : Option String
  phone : Option String
  enabled : Bool
  managerDn : Option String
  managerName : Option String

structure GroupSyncResult where
  group : GroupRecord
  manager : Option UserRecord
  members : List MemberRecord
  managerChain : List String

inductive DirectoryError where
  | base (text : String)
  | unreachable (text : String)
  | groupNotFound (text : String)
  | userNotFound (text : String)
  deriving DecidableEq

def DirectoryError.text : DirectoryError → String
  | .base text | .unreachable text | .groupNotFound text | .userNotFound text => text

/-- What the directory answers during one request. -/
structure Directory where
  resolveGroup : String → Except DirectoryError GroupRecord
  resolveUser : String → Except DirectoryError UserRecord
  syncGroup : String → String → Except DirectoryError GroupSyncResult

inductive DocCall where
  | write (rel content : String)
  | delete (rel : String)
  deriving DecidableEq

structure OrgState where
  departments : Table Department
  members : List DepartmentMember := []
  calls : List DocCall := []

inductive Failure where
  | http (status : Nat) (detail : String)
  | form (status : Nat) (error : String)
  | integrity
  | multipleResults
  deriving DecidableEq

inductive SyncFailure where
  | directory (error : DirectoryError)
  | integrity
  deriving DecidableEq

structure DeptForm where
  name : String
  adGroup : String
  manager : String
  description : String

/-- The value of a nullable text that is neither absent nor empty. -/
def truthy (value : Option String) : Option String := value.filter fun text => text ≠ ""

def slugify (lower : String → String) (name : String) : String := slug (lower name)

def inTenant (tid : Option Int) (dept : Department) : Bool :=
  match tid with
  | none => true
  | some tenant => dept.tenantId = tenant

def findUniqueSlug (departments : Table Department) (base : String) (tid : Int) : String :=
  uniqueName ((departments.rows.filter (inTenant (some tid))).map Department.slug) base

/-- One row or none; more than one is an error of the query. -/
def getDept (departments : Table Department) (slug : String) (tid : Option Int) :
    Except Failure (Option Department) :=
  match departments.rows.filter fun dept => dept.slug = slug && inTenant tid dept with
  | [] => .ok none
  | [dept] => .ok (some dept)
  | _ => .error .multipleResults

/-! The contact card in the docs tree. -/

def managerLine (dept : Department) (name : String) : String :=
  "**Manager:** " ++ name ++ ((truthy dept.managerEmail).map (" - " ++ ·)).getD "" ++
    ((truthy dept.managerTitle).map (" (" ++ · ++ ")")).getD ""

def memberLine (member : DepartmentMember) : String :=
  "- " ++ member.displayName ++ ((truthy member.title).map (" - " ++ ·)).getD "" ++
    ((truthy member.email).map (" - " ++ ·)).getD "" ++ (if member.enabled then "" else " *(disabled)*")

def docText (dept : Department) (members : List DepartmentMember) : String :=
  "\n".intercalate <|
    ["---", "title: " ++ dept.name, "folder: _unfiled", "---", "", "# " ++ dept.name, ""] ++
    ((truthy dept.description).map fun text => [text, ""]).getD [] ++
    ((truthy dept.managerName).map fun name => [managerLine dept name, ""]).getD [] ++
    (if members = [] then [] else ["## Members", ""] ++ members.map memberLine ++ [""])

def docPath (dept : Department) : String := "org/" ++ dept.slug ++ ".md"

def syncDoc (state : OrgState) (dept : Department) (members : List DepartmentMember) : OrgState :=
  { state with calls := state.calls ++ [.write (docPath dept) (docText dept members)] }

def deleteDoc (state : OrgState) (dept : Department) : OrgState :=
  { state with calls := state.calls ++ [.delete (docPath dept)] }

def membersOf (state : OrgState) (id : Int) : List DepartmentMember :=
  state.members.filter fun member => member.departmentId = id

/-- The members in the order of the relationship. -/
def sortedMembers (state : OrgState) (id : Int) : List DepartmentMember :=
  (membersOf state id).insertionSort fun first second => first.displayName ≤ second.displayName

/-! One sync of a department. -/

def resolveInputs (directory : Directory) (groupName managerInput : String) :
    Except DirectoryError (String × UserRecord) := do
  let group ← directory.resolveGroup groupName
  let manager ← directory.resolveUser managerInput
  return (group.distinguishedName, manager)

/-- The department that a name of the chain manages; of several the last one read. -/
def managedBy (departments : Table Department) (dn : String) : Option Int :=
  if dn = "" then none
  else ((departments.rows.filter fun dept => dept.managerDn = some dn).getLast?).map Department.id

/-- The departments of all tenants are looked up. -/
def inferParentId (departments : Table Department) (current : Int) (managerChain : List String) : Option Int :=
  managerChain.findSome? fun dn => (managedBy departments dn).filter fun id => id ≠ current

def memberRow (departmentId : Int) (record : MemberRecord) : DepartmentMember where
  departmentId := departmentId
  userDn := record.userDn
  displayName := record.displayName
  email := record.email
  title := record.title
  phone := record.phone
  enabled := record.enabled
  managerDn := record.managerDn
  managerName := record.managerName

def newRecords (existing : List DepartmentMember) (records : List MemberRecord) : List MemberRecord :=
  records.filter fun record => record.userDn ∉ existing.map DepartmentMember.userDn

/-- Rows are updated from the last record of their name, or deleted. -/
def keptMembers (id : Int) (rows : List DepartmentMember) (records : List MemberRecord) : List DepartmentMember :=
  rows.filterMap fun row =>
    if row.departmentId ≠ id then some row
    else (records.reverse.find? fun record => record.userDn = row.userDn).map (memberRow id)

def syncedDept (result : GroupSyncResult) (parentId : Option Int) (dept : Department) : Department :=
  { dept with
    adGroupName := result.group.name
    adGroupDn := some result.group.distinguishedName
    managerDn := (result.manager.map fun manager => some manager.distinguishedName).getD dept.managerDn
    managerName := (result.manager.map fun manager => some manager.displayName).getD dept.managerName
    managerEmail := (result.manager.map UserRecord.email).getD dept.managerEmail
    managerTitle := (result.manager.map UserRecord.title).getD dept.managerTitle
    parentId := parentId
    lastSyncError := none
    syncStatus := .ok }

def failedDept (error : DirectoryError) (dept : Department) : Department :=
  { dept with lastSyncError := some error.text, syncStatus := .error }

theorem failedDept_id (error : DirectoryError) (dept : Department) : key (failedDept error dept) = key dept := rfl

structure Summary where
  added : Nat
  removed : Nat
  kept : Nat
  parentChanged : Bool
  parentId : Option Int
  managerChainDepth : Nat
  deriving DecidableEq

def applySync (state : OrgState) (dept : Department) (result : GroupSyncResult) :
    OrgState × Except SyncFailure Summary :=
  let existing := membersOf state dept.id
  let added := newRecords existing result.members
  let incoming := (result.members.map MemberRecord.userDn).dedup
  -- The session does not flush before the query, which reads the rows as they were.
  let parentId := inferParentId state.departments dept.id result.managerChain
  if ¬ (added.map MemberRecord.userDn).Nodup then (state, .error .integrity)
  else
    ({ state with
        departments := state.departments.modify dept.id (syncedDept result parentId)
        members := keptMembers dept.id state.members result.members ++ added.map (memberRow dept.id) },
      .ok {
        added := added.length
        removed := (existing.filter fun row => row.userDn ∉ incoming).length
        kept := incoming.length - added.length
        parentChanged := parentId ≠ dept.parentId
        parentId := parentId
        managerChainDepth := result.managerChain.length })

def syncDepartment (directory : Directory) (state : OrgState) (dept : Department) :
    OrgState × Except SyncFailure Summary :=
  match truthy dept.adGroupDn, truthy dept.managerDn with
  | some groupDn, some managerDn =>
      match directory.syncGroup groupDn managerDn with
      | .error (.base text) => (state, .error (.directory (.base text)))
      | .error error =>
          ({ state with departments := state.departments.modify dept.id (failedDept error) },
            .error (.directory error))
      | .ok result => applySync state dept result
  | _, _ =>
      (state, .error (.directory (.base
        ("department " ++ Python.repr dept.slug ++ " is missing ad_group_dn or manager_dn"))))

/-! The requests. -/

def resolveFailure (adGroup manager : String) : DirectoryError → Failure
  | .groupNotFound _ => .form 400 ("AD group " ++ Python.repr adGroup ++ " was not found.")
  | .userNotFound _ => .form 400 ("Manager " ++ Python.repr manager ++ " was not found in AD.")
  | error => .form 502 ("AD lookup failed: " ++ error.text)

def nameTaken (departments : Table Department) (tenant : Int) (name : String) (exclude : Option Int) : Bool :=
  departments.rows.any fun dept => dept.tenantId = tenant && dept.name = name && some dept.id ≠ exclude

def newDept (tid : Int) (form : DeptForm) (slug groupDn : String) (manager : UserRecord) (id : Int) : Department where
  id := id
  tenantId := tid
  name := strip form.name
  slug := slug
  description := truthy (some (strip form.description))
  adGroupName := strip form.adGroup
  adGroupDn := some groupDn
  managerInput := strip form.manager
  managerDn := some manager.distinguishedName
  managerName := some manager.displayName
  managerEmail := manager.email
  managerTitle := manager.title
  parentId := none
  lastSyncError := none
  syncStatus := .pending

def createSlug (lower : String → String) (departments : Table Department) (tid : Int) (form : DeptForm) : String :=
  let base := slugify lower (strip form.name)
  findUniqueSlug departments (if base = "" then "department" else base) tid

/-- The row of a new department, committed before its first sync. -/
def createRow (lower : String → String) (state : OrgState) (tid : Int) (form : DeptForm) (configured : Bool)
    (directory : Directory) : Except Failure (OrgState × Department) :=
  if !configured then .error (.http 400 "AD jumpbox not configured")
  else
    match resolveInputs directory (strip form.adGroup) (strip form.manager) with
    | .error error => .error (resolveFailure (strip form.adGroup) (strip form.manager) error)
    | .ok (groupDn, manager) =>
        if nameTaken state.departments tid (strip form.name) none then .error .integrity
        else
          let make := newDept tid form (createSlug lower state.departments tid form) groupDn manager
          .ok ({ state with departments := state.departments.insert make }, make state.departments.fresh)

def refreshed (state : OrgState) (dept : Department) : Department :=
  (state.departments.get dept.id).getD dept

def orgCreate (lower : String → String) (state : OrgState) (tid : Int) (form : DeptForm) (configured : Bool)
    (directory : Directory) : OrgState × Except Failure String :=
  match createRow lower state tid form configured directory with
  | .error failure => (state, .error failure)
  | .ok (created, dept) =>
      match syncDepartment directory created dept with
      | (after, .error .integrity) => (after, .error .integrity)
      | (after, _) =>
          (syncDoc after (refreshed after dept) (sortedMembers after dept.id), .ok ("/org/" ++ dept.slug))

def orgSync (state : OrgState) (slug : String) (tid : Option Int) (configured : Bool) (directory : Directory) :
    OrgState × Except Failure String :=
  match getDept state.departments slug tid with
  | .error failure => (state, .error failure)
  | .ok none => (state, .error (.http 404 "Not Found"))
  | .ok (some dept) =>
      if !configured then (state, .error (.http 400 "AD jumpbox not configured"))
      else
        match syncDepartment directory state dept with
        | (after, .error .integrity) => (after, .error .integrity)
        | (after, .error (.directory error)) => (after, .ok ("/org/" ++ slug ++ "?err=" ++ slice 0 200 error.text))
        | (after, .ok _) =>
            (syncDoc after (refreshed after dept) (membersOf after dept.id), .ok ("/org/" ++ slug ++ "?synced=1"))

/-- The directory is asked again only for another group or manager. -/
def rebound (directory : Directory) (form : DeptForm) (dept : Department) : Except DirectoryError Department :=
  if strip form.adGroup ≠ dept.adGroupName ∨ strip form.manager ≠ dept.managerInput then do
    let (groupDn, manager) ← resolveInputs directory (strip form.adGroup) (strip form.manager)
    return { dept with
      adGroupName := strip form.adGroup
      adGroupDn := some groupDn
      managerInput := strip form.manager
      managerDn := some manager.distinguishedName
      managerName := some manager.displayName
      managerEmail := manager.email
      managerTitle := manager.title
      syncStatus := .pending }
  else return dept

def edited (form : DeptForm) (dept : Department) : Department :=
  { dept with name := strip form.name, description := truthy (some (strip form.description)) }

def orgUpdate (state : OrgState) (slug : String) (tid : Option Int) (form : DeptForm) (directory : Directory) :
    OrgState × Except Failure String :=
  match getDept state.departments slug tid with
  | .error failure => (state, .error failure)
  | .ok none => (state, .error (.http 404 "Not Found"))
  | .ok (some dept) =>
      match rebound directory form dept with
      | .error error => (state, .error (resolveFailure (strip form.adGroup) (strip form.manager) error))
      | .ok bound =>
          if nameTaken state.departments dept.tenantId (strip form.name) (some dept.id) then
            (state, .error .integrity)
          else
            let saved := edited form bound
            let after := { state with
              departments := state.departments.modify dept.id fun row =>
                { saved with id := row.id, tenantId := row.tenantId } }
            (syncDoc after saved (sortedMembers after dept.id), .ok ("/org/" ++ dept.slug ++ "?saved=1"))

/-- The rows below the deleted one become roots. -/
def orphaned (id : Int) (dept : Department) : Department :=
  { dept with parentId := dept.parentId.filter fun parent => parent ≠ id }

def orgDelete (state : OrgState) (slug : String) (tid : Option Int) : OrgState × Except Failure String :=
  match getDept state.departments slug tid with
  | .error failure => (state, .error failure)
  | .ok none => (state, .error (.http 404 "Not Found"))
  | .ok (some dept) =>
      let deleted := deleteDoc state dept
      ({ deleted with
          departments := (deleted.departments.remove dept.id).map (orphaned dept.id)
          members := deleted.members.filter fun member => member.departmentId ≠ dept.id },
        .ok "/org")

/-! The tree of a tenant. -/

inductive OrgNode where
  | node (id : Int) (name slug manager : String) (members : Nat) (children : List OrgNode)

inductive TreeJson where
  | root (node : OrgNode)
  | organisation (children : List OrgNode)

def listAll (departments : Table Department) (tid : Option Int) : List Department :=
  (departments.rows.filter (inTenant tid)).insertionSort fun first second => first.name ≤ second.name

def nodeParent (depts : List Department) (dept : Department) : Option Int :=
  dept.parentId.filter fun id => id ≠ 0 ∧ id ∈ depts.map Department.id

/-- A node with the children that the loop appends to it. -/
def subtree (state : OrgState) (depts : List Department) : Nat → Department → OrgNode
  | 0, dept =>
      .node dept.id dept.name dept.slug ((truthy dept.managerName).getD "") (membersOf state dept.id).length []
  | rounds + 1, dept =>
      .node dept.id dept.name dept.slug ((truthy dept.managerName).getD "") (membersOf state dept.id).length
        ((depts.filter fun child => nodeParent depts child = some dept.id).map (subtree state depts rounds))

def orgTree (state : OrgState) (tid : Option Int) : TreeJson :=
  let depts := listAll state.departments tid
  let roots := (depts.filter fun dept => nodeParent depts dept = none).map (subtree state depts depts.length)
  match roots with
  | [root] => .root root
  | _ => .organisation roots

end Dosm.Org
