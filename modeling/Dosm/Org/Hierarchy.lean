import Dosm.Org.Routes
import Dosm.Base.Forest
import Dosm.Base.Transition

namespace Dosm.Org

open Python

/-! What a request does to the departments, and the card it writes. -/

section Steps

variable {departments : Table Department} {state created : OrgState} {dept bound : Department} {slug : String}
  {directory : Directory} {form : DeptForm} {configured : Bool} {tid : Option Int} {tenant : Int}
  {lower : String → String}

theorem getDept_mem (found : getDept departments slug tid = .ok (some dept)) :
    dept ∈ departments.rows ∧ dept.slug = slug ∧ inTenant tid dept = true := by
  unfold getDept at found
  split at found
  · cases found
  · next listed =>
      cases found
      have member : dept ∈ departments.rows.filter fun dept => dept.slug = slug && inTenant tid dept := by
        rw [listed]
        exact List.mem_singleton.mpr rfl
      simpa using List.mem_filter.mp member
  · cases found

theorem syncDepartment_cases :
    (syncDepartment directory state dept).1.departments = state.departments ∨
    (∃ error, (syncDepartment directory state dept).1.departments =
      state.departments.modify dept.id (failedDept error)) ∨
    ∃ groupDn managerDn result, dept.adGroupDn = some groupDn ∧ dept.managerDn = some managerDn ∧
      directory.syncGroup groupDn managerDn = .ok result ∧
      (syncDepartment directory state dept).1.departments = state.departments.modify dept.id
        (syncedDept result (inferParentId state.departments dept.id result.managerChain)) := by
  unfold syncDepartment
  split
  next groupDn managerDn group manager =>
    split
    · exact .inl rfl
    next error _ _ => exact .inr (.inl ⟨error, rfl⟩)
    next result answered =>
      unfold applySync
      dsimp only
      split
      · exact .inl rfl
      · exact .inr (.inr ⟨groupDn, managerDn, result, (Option.filter_eq_some_iff.mp group).1,
          (Option.filter_eq_some_iff.mp manager).1, answered, rfl⟩)
  · exact .inl rfl

theorem syncDepartment_calls : (syncDepartment directory state dept).1.calls = state.calls := by
  unfold syncDepartment
  split
  · split
    · rfl
    · rfl
    · unfold applySync
      dsimp only
      split
      · rfl
      · rfl
  · rfl

theorem createRow_spec (made : createRow lower state tenant form configured directory = .ok (created, dept)) :
    ∃ make : Int → Department, ∃ keyed : ∀ id, key (make id) = id,
      created.departments = state.departments.insert make keyed ∧ dept = make state.departments.fresh ∧
      dept.parentId = none ∧ dept.tenantId = tenant ∧
      dept.slug = createSlug lower state.departments tenant form ∧ created.calls = state.calls := by
  unfold createRow at made
  split at made
  · cases made
  split at made
  · cases made
  split at made
  · cases made
  next groupDn manager _ free =>
    cases made
    exact ⟨newDept tenant form (createSlug lower state.departments tenant form) groupDn manager, fun _ => rfl,
      rfl, rfl, rfl, rfl, rfl, rfl⟩

theorem createRow_get (made : createRow lower state tenant form configured directory = .ok (created, dept)) :
    created.departments.get dept.id = some dept := by
  obtain ⟨make, keyed, inserted, rfl, -⟩ := createRow_spec made
  rw [inserted]
  exact Table.get_eq_some_iff.mpr ⟨Table.mem_insert.mpr (.inr rfl), rfl⟩

theorem orgCreate_cases :
    (orgCreate lower state tenant form configured directory).1 = state ∨
    ∃ created dept, createRow lower state tenant form configured directory = .ok (created, dept) ∧
      ∃ after, after = (syncDepartment directory created dept).1 ∧
        ((orgCreate lower state tenant form configured directory).1 = after ∨
          (orgCreate lower state tenant form configured directory).1 =
            syncDoc after (refreshed after dept) (sortedMembers after dept.id)) := by
  unfold orgCreate
  split
  · exact .inl rfl
  next created dept made =>
    refine .inr ⟨created, dept, made, _, rfl, ?_⟩
    split
    next after ran =>
      rw [ran]
      exact .inl rfl
    next after outcome other ran =>
      rw [ran]
      exact .inr rfl

theorem orgSync_cases :
    (orgSync state slug tid configured directory).1 = state ∨
    ∃ dept, getDept state.departments slug tid = .ok (some dept) ∧
      ∃ after, after = (syncDepartment directory state dept).1 ∧
        ((orgSync state slug tid configured directory).1 = after ∨
          (orgSync state slug tid configured directory).1 =
            syncDoc after (refreshed after dept) (membersOf after dept.id)) := by
  unfold orgSync
  split
  · exact .inl rfl
  · exact .inl rfl
  next dept found =>
    split
    · exact .inl rfl
    refine .inr ⟨dept, found, _, rfl, ?_⟩
    split
    next after ran =>
      rw [ran]
      exact .inl rfl
    next after error ran =>
      rw [ran]
      exact .inl rfl
    next after summary ran =>
      rw [ran]
      exact .inr rfl

theorem rebound_keeps (kept : rebound directory form dept = .ok bound) :
    bound.slug = dept.slug ∧ bound.parentId = dept.parentId := by
  unfold rebound at kept
  split at kept
  · cases resolved : resolveInputs directory (strip form.adGroup) (strip form.manager) with
    | error reason =>
        rw [resolved] at kept
        cases kept
    | ok inputs =>
        rw [resolved] at kept
        cases kept
        exact ⟨rfl, rfl⟩
  · cases kept
    exact ⟨rfl, rfl⟩

def savedDept (form : DeptForm) (bound row : Department) : Department :=
  { edited form bound with id := row.id, tenantId := row.tenantId }

theorem orgUpdate_cases :
    (orgUpdate state slug tid form directory).1 = state ∨
    ∃ dept bound, getDept state.departments slug tid = .ok (some dept) ∧ rebound directory form dept = .ok bound ∧
      ∃ after : OrgState, after.departments = state.departments.modify dept.id (savedDept form bound) ∧
        after.calls = state.calls ∧
        (orgUpdate state slug tid form directory).1 =
          syncDoc after (edited form bound) (sortedMembers after dept.id) := by
  unfold orgUpdate
  split
  · exact .inl rfl
  · exact .inl rfl
  next dept found =>
    split
    · exact .inl rfl
    next bound kept =>
      split
      · exact .inl rfl
      · have keeps : ∀ row, key (savedDept form bound row) = key row := fun _ => rfl
        let after := { state with departments := state.departments.modify dept.id (savedDept form bound) keeps }
        exact .inr ⟨dept, bound, found, kept, after, rfl, rfl, rfl⟩

theorem orgDelete_cases :
    (orgDelete state slug tid).1 = state ∨
    ∃ dept, getDept state.departments slug tid = .ok (some dept) ∧
      (orgDelete state slug tid).1.departments =
        (state.departments.remove dept.id).map (orphaned dept.id) (fun _ => rfl) ∧
      (orgDelete state slug tid).1.calls = state.calls ++ [.delete (docPath dept)] := by
  unfold orgDelete
  split
  · exact .inl rfl
  · exact .inl rfl
  next dept found => exact .inr ⟨dept, found, rfl, rfl⟩

end Steps

open Transition

/-! The hierarchy of departments over every history of requests and syncs.

A sync looks at the chain of managers of one department. What it reads may lead to
a department of another tenant, or to one that is below the synced one since an
earlier sync; the condition says that it leads to neither.
-/

inductive OrgCall where
  | create (tid : Int) (form : DeptForm) (configured : Bool) (directory : Directory)
  | update (slug : String) (tid : Option Int) (form : DeptForm) (directory : Directory)
  | delete (slug : String) (tid : Option Int)
  | sync (slug : String) (tid : Option Int) (configured : Bool) (directory : Directory)
  /-- A sync from the command line or by the agent. -/
  | syncDepartment (id : Int) (directory : Directory)

def perform (lower : String → String) (state : OrgState) : OrgCall → OrgState
  | .create tid form configured directory => (orgCreate lower state tid form configured directory).1
  | .update slug tid form directory => (orgUpdate state slug tid form directory).1
  | .delete slug tid => (orgDelete state slug tid).1
  | .sync slug tid configured directory => (orgSync state slug tid configured directory).1
  | .syncDepartment id directory =>
      match state.departments.get id with
      | none => state
      | some dept => (Org.syncDepartment directory state dept).1

def orgSystem (lower : String → String) : Machine OrgState OrgCall where
  initial state := state.departments = .empty
  step state call := some (perform lower state call)

def parentOf (departments : Table Department) (id : Int) : Option Int :=
  (departments.get id).bind Department.parentId

mutual

def OrgNode.ids : OrgNode → List Int
  | .node id _ _ _ _ children => id :: idsOfAll children

def idsOfAll : List OrgNode → List Int
  | [] => []
  | node :: rest => node.ids ++ idsOfAll rest

end

def TreeJson.ids : TreeJson → List Int
  | .root node => node.ids
  | .organisation children => idsOfAll children

structure Hierarchy (state : OrgState) : Prop where
  parents : ∀ dept ∈ state.departments.rows, ∀ id, dept.parentId = some id →
    ∃ parent, state.departments.get id = some parent ∧ parent.tenantId = dept.tenantId
  acyclic : Acyclic (parentOf state.departments)
  tree : ∀ tenant, (orgTree state (some tenant)).ids.Perm
    ((state.departments.rows.filter fun dept => dept.tenantId = tenant).map Department.id)

/-- The first name of the chain that leads to another department leads to this one. -/
def Leads (departments : Table Department) (current : Int) (managerChain : List String) (parent : Int) : Prop :=
  ∃ before dn after, managerChain = before ++ dn :: after ∧
    (∀ earlier ∈ before, ∀ id, managedBy departments earlier = some id → id = current) ∧
    managedBy departments dn = some parent ∧ parent ≠ current

/-- The department that the chain leads to is of the same tenant and not below. -/
def SyncFits (departments : Table Department) (directory : Directory) (dept : Department) : Prop :=
  ∀ groupDn managerDn result, dept.adGroupDn = some groupDn → dept.managerDn = some managerDn →
    directory.syncGroup groupDn managerDn = .ok result →
    ∀ parent, Leads departments dept.id result.managerChain parent →
      (∃ row, departments.get parent = some row ∧ row.tenantId = dept.tenantId) ∧
      ∀ steps, ancestor (parentOf departments) steps parent ≠ some dept.id

/-- Every sync that the call makes fits. -/
def Fits (lower : String → String) (state : OrgState) : OrgCall → Prop
  | .create tid form configured directory => ∀ created dept,
      createRow lower state tid form configured directory = .ok (created, dept) →
      SyncFits created.departments directory dept
  | .sync slug tid _ directory => ∀ dept, getDept state.departments slug tid = .ok (some dept) →
      SyncFits state.departments directory dept
  | .syncDepartment id directory => ∀ dept, state.departments.get id = some dept →
      SyncFits state.departments directory dept
  | .update .. | .delete .. => True

section Tables

variable {departments : Table Department} {id other : Int} {dept row : Department} {slug : String}
  {tid : Option Int} {managerChain : List String} {current parent : Int}

theorem inferParentId_iff : inferParentId departments current managerChain = some parent ↔
    Leads departments current managerChain parent := by
  unfold inferParentId Leads
  rw [List.findSome?_eq_some_iff]
  refine exists_congr fun before => exists_congr fun dn => exists_congr fun after => ?_
  rw [Option.filter_eq_some_iff, decide_eq_true_iff]
  constructor
  · rintro ⟨split, found, passed⟩
    refine ⟨split, fun earlier member id managed => ?_, found⟩
    have skipped := passed earlier member
    rw [managed, Option.filter_eq_none_iff] at skipped
    by_contra different
    exact skipped id rfl (decide_eq_true different)
  · rintro ⟨split, passed, found⟩
    refine ⟨split, found, fun earlier member => ?_⟩
    rw [Option.filter_eq_none_iff]
    intro id managed different
    exact of_decide_eq_true different (passed earlier member id managed)

structure Placed (departments : Table Department) : Prop where
  positive : ∀ dept ∈ departments.rows, 0 < dept.id
  parents : ∀ dept ∈ departments.rows, departments.Refers dept.tenantId dept.parentId
  acyclic : Acyclic (parentOf departments)

theorem parentOf_insert {make : Int → Department} {keyed : ∀ id, key (make id) = id}
    (root : (make departments.fresh).parentId = none) :
    parentOf (departments.insert make keyed) = parentOf departments := by
  funext id
  unfold parentOf
  cases found : departments.get id with
  | some dept => rw [Table.get_insert_of_get found]
  | none =>
      cases later : (departments.insert make keyed).get id with
      | none => rfl
      | some dept =>
          obtain ⟨member, same⟩ := Table.get_eq_some_iff.mp later
          rcases Table.mem_insert.mp member with old | rfl
          · exact absurd same (Table.get_eq_none_iff.mp found dept old)
          · exact root

theorem parentOf_modify {change : Department → Department} {keeps : ∀ row, key (change row) = key row}
    (found : departments.get id = some dept) :
    parentOf (departments.modify id change keeps) =
      Function.update (parentOf departments) id (change dept).parentId := by
  funext other
  by_cases same : other = id
  · subst same
    rw [Function.update_self, parentOf, Table.get_modify_self, found]
    rfl
  · rw [Function.update_of_ne same, parentOf, Table.get_modify_other same]
    rfl

theorem Placed.insert {make : Int → Department} {keyed : ∀ id, key (make id) = id} (placed : Placed departments)
    (root : (make departments.fresh).parentId = none) : Placed (departments.insert make keyed) where
  positive := by
    intro dept member
    rcases Table.mem_insert.mp member with old | rfl
    · exact placed.positive dept old
    · have fresh : (make departments.fresh).id = departments.fresh := keyed departments.fresh
      rw [fresh]
      exact Table.fresh_pos
  parents := by
    intro dept member
    rcases Table.mem_insert.mp member with old | rfl
    · exact (placed.parents dept old).keep Table.keeps_insert
    · rw [root]
      exact Table.refers_none
  acyclic := by
    rw [parentOf_insert root]
    exact placed.acyclic

theorem Placed.modify (placed : Placed departments) (change : Department → Department)
    (keeps : ∀ row, key (change row) = key row) (sameOwner : ∀ row, owner (change row) = owner row)
    (found : departments.get id = some dept)
    (refers : departments.Refers dept.tenantId (change dept).parentId)
    (above : ∀ parent, (change dept).parentId = some parent → dept.parentId = some parent ∨
      ∀ steps, ancestor (parentOf departments) steps parent ≠ some id) :
    Placed (departments.modify id change keeps) where
  positive := by
    intro row member
    obtain ⟨old, oldMember, rfl⟩ := Table.mem_modify.mp member
    split
    · have same : (change old).id = old.id := keeps old
      rw [same]
      exact placed.positive old oldMember
    · exact placed.positive old oldMember
  parents := by
    intro row member
    obtain ⟨old, oldMember, rfl⟩ := Table.mem_modify.mp member
    split
    next changed =>
      obtain ⟨deptMember, deptKey⟩ := Table.get_eq_some_iff.mp found
      obtain rfl : old = dept := Table.eq_of_key oldMember deptMember (changed.trans deptKey.symm)
      have tenant : (change old).tenantId = old.tenantId := sameOwner old
      rw [tenant]
      exact refers.keep (Table.keeps_modify keeps sameOwner)
    next kept => exact (placed.parents old oldMember).keep (Table.keeps_modify keeps sameOwner)
  acyclic := by
    rw [parentOf_modify found]
    have known : parentOf departments id = dept.parentId := by
      rw [parentOf, found]
      rfl
    cases moved : (change dept).parentId with
    | none => exact placed.acyclic.update nofun
    | some parent =>
        rcases above parent moved with same | apart
        · rw [← same, ← known, Function.update_eq_self]
          exact placed.acyclic
        · refine placed.acyclic.update fun target equal => ?_
          obtain rfl := Option.some.inj equal
          exact apart

theorem Placed.delete {keeps : ∀ row, key (orphaned id row) = key row} (placed : Placed departments) :
    Placed ((departments.remove id).map (orphaned id) keeps) where
  positive := by
    intro row member
    obtain ⟨old, oldMember, rfl⟩ := Table.mem_map.mp member
    exact placed.positive old (Table.mem_remove.mp oldMember).1
  parents := by
    intro row member parent reference
    obtain ⟨old, oldMember, rfl⟩ := Table.mem_map.mp member
    obtain ⟨kept, different⟩ := Option.filter_eq_some_iff.mp reference
    obtain ⟨above, found, owned⟩ := placed.parents old (Table.mem_remove.mp oldMember).1 parent kept
    refine ⟨orphaned id above, ?_, owned⟩
    rw [Table.get_map, Table.get_remove_other (of_decide_eq_true different), found]
    rfl
  acyclic := by
    refine placed.acyclic.mono fun node above reference => ?_
    unfold parentOf at reference ⊢
    rw [Table.get_map] at reference
    obtain ⟨row, found, above'⟩ := Option.bind_eq_some_iff.mp reference
    obtain ⟨old, oldFound, rfl⟩ := Option.map_eq_some_iff.mp found
    obtain ⟨kept, -⟩ := Option.filter_eq_some_iff.mp above'
    obtain ⟨oldMember, oldKey⟩ := Table.get_eq_some_iff.mp oldFound
    have listed := (Table.mem_remove.mp oldMember).1
    rw [Table.get_eq_some_iff.mpr ⟨listed, oldKey⟩]
    exact kept

section Calls

variable {lower : String → String} {state created : OrgState} {dept : Department} {directory : Directory}
  {form : DeptForm} {configured : Bool} {tid : Option Int} {tenant : Int} {slug : String} {call : OrgCall}

theorem syncDepartment_placed (placed : Placed state.departments)
    (found : state.departments.get dept.id = some dept) (fits : SyncFits state.departments directory dept) :
    Placed (syncDepartment directory state dept).1.departments := by
  have member := (Table.get_eq_some_iff.mp found).1
  obtain same | ⟨error, failed⟩ | ⟨groupDn, managerDn, result, group, manager, answered, synced⟩ :=
    @syncDepartment_cases state dept directory
  · rw [same]
    exact placed
  · rw [failed]
    exact placed.modify (failedDept error) (fun _ => rfl) (fun _ => rfl) found (placed.parents dept member)
      fun _ above => .inl above
  · rw [synced]
    have fit := fits groupDn managerDn result group manager answered
    refine placed.modify (syncedDept result _) (fun _ => rfl) (fun _ => rfl) found ?_ ?_
    · intro parent inferred
      obtain ⟨⟨row, present, owned⟩, -⟩ := fit parent (inferParentId_iff.mp inferred)
      exact ⟨row, present, owned⟩
    · intro parent inferred
      exact .inr (fit parent (inferParentId_iff.mp inferred)).2

theorem createRow_placed (placed : Placed state.departments)
    (made : createRow lower state tenant form configured directory = .ok (created, dept)) :
    Placed created.departments := by
  obtain ⟨make, keyed, inserted, rfl, root, -⟩ := createRow_spec made
  rw [inserted]
  exact placed.insert root

theorem orgCreate_placed (placed : Placed state.departments)
    (fits : Fits lower state (.create tenant form configured directory)) :
    Placed (orgCreate lower state tenant form configured directory).1.departments := by
  obtain same | ⟨created, dept, made, after, rfl, saved | saved⟩ :=
    @orgCreate_cases state directory form configured tenant lower
  · rw [same]
    exact placed
  all_goals
    rw [saved]
    exact syncDepartment_placed (createRow_placed placed made) (createRow_get made) (fits created dept made)

theorem orgSync_placed (placed : Placed state.departments)
    (fits : Fits lower state (.sync slug tid configured directory)) :
    Placed (orgSync state slug tid configured directory).1.departments := by
  obtain same | ⟨dept, found, after, rfl, saved | saved⟩ := @orgSync_cases state slug directory configured tid
  · rw [same]
    exact placed
  all_goals
    rw [saved]
    exact syncDepartment_placed placed (Table.get_key (getDept_mem found).1) (fits dept found)

theorem orgUpdate_placed (placed : Placed state.departments) :
    Placed (orgUpdate state slug tid form directory).1.departments := by
  obtain same | ⟨dept, bound, found, kept, after, changed, -, saved⟩ :=
    @orgUpdate_cases state slug directory form tid
  · rw [same]
    exact placed
  · have member := (getDept_mem found).1
    have parent : (edited form bound).parentId = dept.parentId := (rebound_keeps kept).2
    have kept : Placed (state.departments.modify dept.id (savedDept form bound) fun _ => rfl) := by
      refine placed.modify (savedDept form bound) (fun _ => rfl) (fun _ => rfl) (Table.get_key member) ?_
        fun above reference => .inl ?_
      · exact parent.symm ▸ placed.parents dept member
      · exact parent.symm.trans reference
    rw [saved, syncDoc, changed]
    exact kept

theorem orgDelete_placed (placed : Placed state.departments) :
    Placed (orgDelete state slug tid).1.departments := by
  obtain same | ⟨dept, found, deleted, -⟩ := @orgDelete_cases state slug tid
  · rw [same]
    exact placed
  · rw [deleted]
    exact placed.delete

theorem perform_placed (placed : Placed state.departments) (fits : Fits lower state call) :
    Placed (perform lower state call).departments := by
  cases call with
  | create tid form configured directory => exact orgCreate_placed placed fits
  | update slug tid form directory => exact orgUpdate_placed placed
  | delete slug tid => exact orgDelete_placed placed
  | sync slug tid configured directory => exact orgSync_placed placed fits
  | syncDepartment id directory =>
      dsimp only [perform]
      split
      · exact placed
      next dept found =>
        have same : dept.id = id := (Table.get_eq_some_iff.mp found).2
        exact syncDepartment_placed placed (same.symm ▸ found) (fits dept found)

end Calls

end Tables

section Tree

variable {state : OrgState} {depts : List Department} {dept : Department} {tenant id parent : Int} {rounds : Nat}

def nodeParentOf (depts : List Department) (id : Int) : Option Int :=
  (depts.find? fun dept => dept.id = id).bind (nodeParent depts)

theorem nodeParentOf_id (distinct : (depts.map Department.id).Nodup) (member : dept ∈ depts) :
    nodeParentOf depts dept.id = nodeParent depts dept := by
  have found : depts.find? (fun other => other.id = dept.id) = some dept := by
    cases first : depts.find? fun other => other.id = dept.id with
    | none => exact absurd (List.find?_eq_none.mp first dept member) (by simp)
    | some other =>
        have same : other.id = dept.id := by simpa using List.find?_some first
        rw [List.inj_on_of_nodup_map distinct (List.mem_of_find?_eq_some first) member same]
  rw [nodeParentOf, found]
  rfl

theorem idsOfAll_eq (nodes : List OrgNode) : idsOfAll nodes = nodes.flatMap OrgNode.ids := by
  induction nodes with
  | nil => rfl
  | cons node rest ih => rw [idsOfAll, ih, List.flatMap_cons]

theorem filter_ids (distinct : (depts.map Department.id).Nodup) (wanted : Option Int) :
    (depts.filter fun dept => nodeParent depts dept = wanted).map Department.id =
      (depts.map Department.id).filter fun id => nodeParentOf depts id = wanted := by
  rw [List.filter_map]
  refine congrArg (List.map Department.id) (List.filter_congr fun dept member => ?_)
  simp only [Function.comp_apply, nodeParentOf_id distinct member]

theorem subtree_ids (distinct : (depts.map Department.id).Nodup) :
    (subtree state depts rounds dept).ids =
      preorder (depts.map Department.id) (nodeParentOf depts) (rounds + 1) dept.id := by
  induction rounds generalizing dept with
  | zero => simp [subtree, OrgNode.ids, idsOfAll, preorder]
  | succ rounds ih =>
      rw [subtree, OrgNode.ids, idsOfAll_eq, preorder, List.flatMap_map]
      congr 1
      rw [childrenIn, ← filter_ids distinct, List.flatMap_map]
      exact List.flatMap_congr fun child _ => ih

theorem orgTree_ids (listed : listAll state.departments (some tenant) = depts)
    (distinct : (depts.map Department.id).Nodup) :
    (orgTree state (some tenant)).ids = (rootsIn (depts.map Department.id) (nodeParentOf depts)).flatMap
      (preorder (depts.map Department.id) (nodeParentOf depts) (depts.length + 1)) := by
  have whole : (orgTree state (some tenant)).ids =
      idsOfAll ((depts.filter fun dept => nodeParent depts dept = none).map (subtree state depts depts.length)) := by
    unfold orgTree
    dsimp only
    rw [listed]
    split
    next root only =>
      rw [only]
      simp [TreeJson.ids, idsOfAll]
    · rfl
  rw [whole, idsOfAll_eq, List.flatMap_map, rootsIn, ← filter_ids distinct, List.flatMap_map]
  exact List.flatMap_congr fun child _ => subtree_ids distinct

theorem mem_listAll : dept ∈ listAll state.departments (some tenant) ↔
    dept ∈ state.departments.rows ∧ dept.tenantId = tenant := by
  unfold listAll
  rw [List.mem_insertionSort, List.mem_filter]
  simp [inTenant]

theorem listAll_perm : ((listAll state.departments (some tenant)).map Department.id).Perm
    ((state.departments.rows.filter fun dept => dept.tenantId = tenant).map Department.id) :=
  (List.perm_insertionSort _ _).map Department.id

theorem orgTree_perm (placed : Placed state.departments) (tenant : Int) :
    (orgTree state (some tenant)).ids.Perm
      ((state.departments.rows.filter fun dept => dept.tenantId = tenant).map Department.id) := by
  refine List.Perm.trans ?_ listAll_perm
  generalize listed : listAll state.departments (some tenant) = depts
  have distinct : (depts.map Department.id).Nodup := by
    rw [← listed]
    refine (listAll_perm.nodup_iff).mpr ?_
    exact List.Nodup.sublist (List.filter_sublist.map _) state.departments.unique
  have parents : ∀ id parent, nodeParentOf depts id = some parent →
      parent ∈ depts.map Department.id ∧ parentOf state.departments id = some parent := by
    intro id parent above
    obtain ⟨dept, found, chosen⟩ := Option.bind_eq_some_iff.mp above
    obtain ⟨reference, within⟩ := Option.filter_eq_some_iff.mp chosen
    have member := List.mem_of_find?_eq_some found
    have same : dept.id = id := by simpa using List.find?_some found
    rw [← listed, mem_listAll] at member
    refine ⟨(of_decide_eq_true within).2, ?_⟩
    rw [parentOf, Table.get_eq_some_iff.mpr ⟨member.1, same⟩]
    exact reference
  rw [orgTree_ids listed distinct]
  refine forest_perm ?_ ?_ distinct ?_
  · exact placed.acyclic.mono fun id parent above => (parents id parent above).2
  · exact fun id _ parent above => (parents id parent above).1
  · rw [List.length_map]
    omega

theorem hierarchy_of_placed (placed : Placed state.departments) : Hierarchy state where
  parents := placed.parents
  acyclic := placed.acyclic
  tree := orgTree_perm placed

end Tree

theorem fitting_syncs_keep_hierarchy (lower : String → String) (state : OrgState)
    (reached : (orgSystem lower).ReachableUnder (Fits lower) state) : Hierarchy state := by
  let invariant : OrgState → Prop := fun state => Placed state.departments
  have preserved : ∀ start call after, Fits lower start call → (orgSystem lower).step start call = some after →
      invariant start → invariant after := by
    intro start call after fits stepped placed
    cases stepped
    exact perform_placed placed fits
  obtain ⟨start, calls, begins, completed, meets⟩ := reached
  refine hierarchy_of_placed ?_
  have kept : invariant start → invariant state := Machine.run_preserves preserved completed meets
  apply kept
  have rows : start.departments.rows = [] := congrArg Table.rows begins
  refine ⟨fun dept member => ?_, fun dept member => ?_, fun id steps cycle => ?_⟩
  · rw [rows] at member
    cases member
  · rw [rows] at member
    cases member
  · obtain ⟨above, reference, -⟩ := Option.bind_eq_some_iff.mp cycle
    obtain ⟨dept, found, -⟩ := Option.bind_eq_some_iff.mp reference
    have member := (Table.get_eq_some_iff.mp found).1
    rw [rows] at member
    cases member

/-- A directory that answers every question, with this chain of managers. -/
def answering (managerChain : List String) : Directory where
  resolveGroup name := .ok ⟨"CN=" ++ name, name⟩
  resolveUser input := .ok ⟨"CN=" ++ input, input, none, none⟩
  syncGroup groupDn managerDn := .ok ⟨⟨groupDn, "staff"⟩, some ⟨managerDn, "Manager", none, none⟩, [], managerChain⟩

def deptForm (name manager : String) : DeptForm := ⟨name, name, manager, ""⟩

def createSupport : OrgCall := .create 1 (deptForm "Support" "ann") true (answering [])

def createNetwork : OrgCall := .create 1 (deptForm "Network" "bob") true (answering ["CN=ann"])

def noDepartments : OrgState := ⟨.empty, [], []⟩

theorem createSupport_fits : Fits Python.lower noDepartments createSupport := by
  intro created dept _ groupDn managerDn result _ _ answered parent leads
  cases answered
  obtain ⟨before, dn, after, split, -⟩ := leads
  simp at split

theorem createNetwork_fits : Fits Python.lower (perform Python.lower noDepartments createSupport) createNetwork := by
  intro created dept made groupDn managerDn result _ _ answered parent leads
  have facts : (createRow Python.lower (perform Python.lower noDepartments createSupport) 1
      (deptForm "Network" "bob") true (answering ["CN=ann"])).toOption.map (fun row =>
        (managedBy row.1.departments "CN=ann", row.2.id, row.2.tenantId,
          (row.1.departments.get 1).map Department.tenantId, parentOf row.1.departments 1)) =
      some (some 1, 2, 1, some 1, none) := by decide
  rw [made] at facts
  simp only [Except.toOption, Option.map_some, Option.some.injEq, Prod.mk.injEq] at facts
  obtain ⟨manages, deptId, tenant, present, root⟩ := facts
  cases answered
  obtain ⟨before, dn, after, split, -, managed, -⟩ := leads
  have only : dn = "CN=ann" := by
    cases before with
    | nil => exact (List.cons.inj split).1.symm
    | cons earlier rest => simp at split
  rw [only, manages] at managed
  obtain rfl := Option.some.inj managed
  obtain ⟨row, found, owned⟩ := Option.map_eq_some_iff.mp present
  refine ⟨⟨row, found, owned.trans tenant.symm⟩, fun steps reached => ?_⟩
  cases steps with
  | zero =>
      rw [deptId] at reached
      cases reached
  | succ steps =>
      rw [ancestor, root] at reached
      cases reached

/-- Two departments of a tenant, the second below the first. -/
theorem support_and_network_form_tree : ∃ state,
    (orgSystem Python.lower).run noDepartments [createSupport, createNetwork] = some state ∧
      Hierarchy state := by
  refine ⟨_, rfl, fitting_syncs_keep_hierarchy Python.lower _
    ⟨noDepartments, [createSupport, createNetwork], rfl, rfl, createSupport_fits, ?_⟩⟩
  rintro next ⟨⟩
  exact ⟨createNetwork_fits, fun _ _ => trivial⟩

def reorganisation : List OrgCall :=
  [createSupport, createNetwork, .create 2 (deptForm "Sales" "eve") true (answering ["CN=ann"]),
    .sync "support" (some 1) true (answering ["CN=bob"])]

theorem reorganisation_breaks_hierarchy : ∃ state,
    (orgSystem Python.lower).run noDepartments reorganisation = some state ∧
      (orgTree state (some 1)).ids = [] ∧ ¬ Hierarchy state := by
  have facts : ((orgSystem Python.lower).run noDepartments reorganisation).map (fun state =>
      ((orgTree state (some 1)).ids, state.departments.rows.map fun dept =>
        (dept.id, dept.tenantId, dept.parentId))) =
      some ([], [(1, 1, some 2), (2, 1, some 1), (3, 2, some 1)]) := by decide
  obtain ⟨state, completed, seen⟩ := Option.map_eq_some_iff.mp facts
  simp only [Prod.mk.injEq] at seen
  refine ⟨state, completed, seen.1, fun hierarchy => ?_⟩
  have size := (hierarchy.tree 1).length_eq
  have members : ((state.departments.rows.filter fun dept => dept.tenantId = 1).map Department.id).length = 2 := by
    have counted := congrArg (fun rows => (rows.filter fun row : Int × Int × Option Int => row.2.1 = 1).length) seen.2
    rw [List.filter_map, List.length_map] at counted
    rw [List.length_map]
    exact counted
  rw [seen.1, members] at size
  cases size

end Dosm.Org
