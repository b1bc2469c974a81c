import Mathlib.Data.List.Dedup
import Dosm.Org.Hierarchy

namespace Dosm.Org

open Python

/-! What a sync takes over from the directory's answer.

The members of the department are compared with the returned ones by name. The parent is
looked up in a map that keeps one department of each manager, the last one read, of
whatever tenant; it may be the synced department itself.
-/

def manages (dn : String) (dept : Department) : Bool := truthy dept.managerDn = some dn

/-- The name manages a department of the tenant besides this one. -/
def ManagesOther (departments : Table Department) (dept : Department) (dn : String) : Prop :=
  ∃ row ∈ departments.rows, manages dn row = true ∧ row.tenantId = dept.tenantId ∧ row.id ≠ dept.id

/-- A department of the tenant under the first name that manages one besides this, or none. -/
def ParentFits (departments : Table Department) (dept : Department) : List String → Option Int → Prop
  | [], parent => parent = none
  | dn :: rest, parent =>
      (ManagesOther departments dept dn ∧ ∃ row ∈ departments.rows, manages dn row = true ∧
        row.tenantId = dept.tenantId ∧ row.id ≠ dept.id ∧ parent = some row.id) ∨
      (¬ ManagesOther departments dept dn ∧ ParentFits departments dept rest parent)

/-- What a sync with this answer is to leave. -/
structure AnswerApplied (state : OrgState) (dept : Department) (answer : GroupSyncResult)
    (after : OrgState) (outcome : Except SyncFailure Summary) : Prop where
  summary : ∃ summary, outcome = .ok summary ∧
    summary.added + summary.kept = (answer.members.map MemberRecord.userDn).dedup.length ∧
    summary.removed = ((membersOf state dept.id).filter fun row =>
      row.userDn ∉ answer.members.map MemberRecord.userDn).length
  distinct : ((membersOf after dept.id).map DepartmentMember.userDn).Nodup
  returned : ∀ dn, dn ∈ (membersOf after dept.id).map DepartmentMember.userDn ↔
    dn ∈ answer.members.map MemberRecord.userDn
  attributes : ∀ row ∈ membersOf after dept.id, ∃ record ∈ answer.members, row = memberRow dept.id record
  otherMembers : (after.members.filter fun row => row.departmentId ≠ dept.id) =
    state.members.filter fun row => row.departmentId ≠ dept.id
  otherDepartments : ∀ id, id ≠ dept.id → after.departments.get id = state.departments.get id
  parent : ∃ row, after.departments.get dept.id = some row ∧
    ParentFits state.departments dept answer.managerChain row.parentId

/-- A name without a row is returned once. -/
def NewOnce (existing : List DepartmentMember) (records : List MemberRecord) : Prop :=
  ∀ dn, dn ∉ existing.map DepartmentMember.userDn → (records.map MemberRecord.userDn).count dn ≤ 1

/-- Up to the first name that manages another department of the tenant, the last
department read of each name is one of the tenant, and the synced one only if the name
manages no other of them. -/
def LastTells (departments : Table Department) (dept : Department) (managerChain : List String) : Prop :=
  ∀ before dn after, managerChain = before ++ dn :: after →
    (∀ earlier ∈ before, ¬ ManagesOther departments dept earlier) →
    ∀ last, (departments.rows.filter (manages dn)).getLast? = some last →
      (last.id = dept.id ∧ ¬ ManagesOther departments dept dn) ∨
        (last.id ≠ dept.id ∧ last.tenantId = dept.tenantId)

section Parents

variable {departments : Table Department} {dept row : Department} {dn : String} {managerChain rest : List String}

theorem managedBy_eq : managedBy departments dn =
    ((departments.rows.filter (manages dn)).getLast?).map Department.id := by
  by_cases empty : dn = ""
  · have unmanaged : departments.rows.filter (manages dn) = [] := by
      rw [List.filter_eq_nil_iff]
      intro row _ managed
      have named := of_decide_eq_true managed
      rw [truthy, Option.filter_eq_some_iff] at named
      simp [empty] at named
    rw [managedBy, if_pos empty, unmanaged]
    rfl
  · have same : (fun row : Department => decide (row.managerDn = some dn)) = manages dn := by
      funext row
      apply decide_eq_decide.mpr
      rw [truthy, Option.filter_eq_some_iff]
      simp [empty]
    rw [managedBy, if_neg empty, same]

theorem lastManaged_mem {last : Department} (found : (departments.rows.filter (manages dn)).getLast? = some last) :
    last ∈ departments.rows ∧ manages dn last = true :=
  List.mem_filter.mp (List.mem_of_getLast? found)

theorem manages_unique {other : String} (first : manages dn row = true) (second : manages other row = true) :
    dn = other :=
  Option.some.inj ((of_decide_eq_true first).symm.trans (of_decide_eq_true second))

theorem inferParentId_cons : inferParentId departments dept.id (dn :: rest) =
    match (departments.rows.filter (manages dn)).getLast? with
    | some last => if last.id ≠ dept.id then some last.id else inferParentId departments dept.id rest
    | none => inferParentId departments dept.id rest := by
  rw [inferParentId, List.findSome?_cons, managedBy_eq]
  cases found : (departments.rows.filter (manages dn)).getLast? with
  | none => rfl
  | some last =>
      by_cases other : last.id ≠ dept.id
      · simp [Option.filter, other]
      · simp [Option.filter, other, inferParentId]

theorem lastTells_cons : LastTells departments dept (dn :: rest) ↔
    (∀ last, (departments.rows.filter (manages dn)).getLast? = some last →
      (last.id = dept.id ∧ ¬ ManagesOther departments dept dn) ∨
        (last.id ≠ dept.id ∧ last.tenantId = dept.tenantId)) ∧
    (¬ ManagesOther departments dept dn → LastTells departments dept rest) := by
  constructor
  · intro tells
    constructor
    · exact tells [] dn rest rfl nofun
    · intro passed before later after split earlier
      refine tells (dn :: before) later after (by rw [split]; rfl) ?_
      intro name member
      rcases List.mem_cons.mp member with rfl | inside
      · exact passed
      · exact earlier name inside
  · rintro ⟨head, tail⟩ before later after split earlier
    cases before with
    | nil =>
        obtain ⟨rfl, _⟩ := List.cons.inj split
        exact head
    | cons first before =>
        obtain ⟨rfl, inside⟩ := List.cons.inj split
        exact tail (earlier dn List.mem_cons_self) before later after inside fun name member =>
          earlier name (List.mem_cons_of_mem _ member)

theorem inferParentId_last {parent : Int} (inferred : inferParentId departments dept.id managerChain = some parent) :
    ∃ dn ∈ managerChain, ∃ last, (departments.rows.filter (manages dn)).getLast? = some last ∧
      last.id = parent ∧ last.id ≠ dept.id := by
  induction managerChain with
  | nil => cases inferred
  | cons dn rest ih =>
      have later (found : inferParentId departments dept.id rest = some parent) :
          ∃ name ∈ dn :: rest, ∃ last, (departments.rows.filter (manages name)).getLast? = some last ∧
            last.id = parent ∧ last.id ≠ dept.id := by
        obtain ⟨name, member, facts⟩ := ih found
        exact ⟨name, List.mem_cons_of_mem _ member, facts⟩
      rw [inferParentId_cons] at inferred
      cases found : (departments.rows.filter (manages dn)).getLast? with
      | none =>
          rw [found] at inferred
          exact later inferred
      | some last =>
          simp only [found] at inferred
          split at inferred
          next other => exact ⟨dn, List.mem_cons_self, last, found, Option.some.inj inferred, other⟩
          next => exact later inferred

theorem parentFits_owned {parent : Int} (fits : ParentFits departments dept managerChain (some parent)) :
    ∃ row ∈ departments.rows, row.id = parent ∧ row.tenantId = dept.tenantId ∧ row.id ≠ dept.id := by
  induction managerChain with
  | nil => cases fits
  | cons dn rest ih =>
      rcases fits with ⟨_, row, member, _, tenant, other, same⟩ | ⟨_, later⟩
      · exact ⟨row, member, (Option.some.inj same).symm, tenant, other⟩
      · exact ih later

theorem parentFits_own (own : ManagesOther departments dept dn) :
    ParentFits departments dept (dn :: rest) (inferParentId departments dept.id (dn :: rest)) ↔
      ∀ last, (departments.rows.filter (manages dn)).getLast? = some last →
        last.id ≠ dept.id ∧ last.tenantId = dept.tenantId := by
  rw [inferParentId_cons]
  constructor
  · rintro (⟨_, row, member, managed, tenant, _, same⟩ | ⟨passed, _⟩) last found
    · simp only [found] at same
      by_cases other : last.id ≠ dept.id
      · rw [if_pos other] at same
        obtain rfl := Table.eq_of_key (lastManaged_mem found).1 member (Option.some.inj same)
        exact ⟨other, tenant⟩
      · rw [if_neg other] at same
        obtain ⟨name, _, later, foundLater, sameId, otherLater⟩ := inferParentId_last same
        obtain rfl := Table.eq_of_key (lastManaged_mem foundLater).1 member sameId
        obtain rfl := manages_unique managed (lastManaged_mem foundLater).2
        cases found.symm.trans foundLater
        exact absurd otherLater other
    · exact absurd own passed
  · intro tells
    have listed : departments.rows.filter (manages dn) ≠ [] := by
      obtain ⟨row, member, managed, _⟩ := own
      exact List.ne_nil_of_mem (List.mem_filter.mpr ⟨member, managed⟩)
    have found := List.getLast?_eq_some_getLast listed
    obtain ⟨other, tenant⟩ := tells _ found
    have facts := lastManaged_mem found
    left
    refine ⟨own, _, facts.1, facts.2, tenant, other, ?_⟩
    simp only [found, if_pos other]

theorem parentFits_passed (passed : ¬ ManagesOther departments dept dn) :
    ParentFits departments dept (dn :: rest) (inferParentId departments dept.id (dn :: rest)) ↔
      (∀ last, (departments.rows.filter (manages dn)).getLast? = some last → last.id = dept.id) ∧
        ParentFits departments dept rest (inferParentId departments dept.id rest) := by
  rw [inferParentId_cons, ParentFits]
  simp only [passed, false_and, false_or, not_false_eq_true, true_and]
  cases found : (departments.rows.filter (manages dn)).getLast? with
  | none => simp
  | some last =>
      simp only [Option.some.injEq, forall_eq']
      by_cases other : last.id ≠ dept.id
      · simp only [if_pos other, other, false_and, iff_false]
        intro fits
        obtain ⟨row, member, same, tenant, different⟩ := parentFits_owned fits
        have facts := lastManaged_mem found
        obtain rfl := Table.eq_of_key member facts.1 same
        exact passed ⟨row, member, facts.2, tenant, different⟩
      · rw [if_neg other]
        simp [not_not.mp other]

theorem parentFits_iff : ParentFits departments dept managerChain (inferParentId departments dept.id managerChain) ↔
    LastTells departments dept managerChain := by
  induction managerChain with
  | nil =>
      constructor
      · intro _ before dn after split
        simp at split
      · intro _
        rfl
  | cons dn rest ih =>
      rw [lastTells_cons]
      by_cases own : ManagesOther departments dept dn
      · rw [parentFits_own own]
        simp [own]
      · rw [parentFits_passed own, ih]
        simp only [own, not_false_eq_true, and_true, forall_const]
        constructor
        · rintro ⟨self, later⟩
          exact ⟨fun last found => .inl (self last found), later⟩
        · rintro ⟨tells, later⟩
          refine ⟨fun last found => ?_, later⟩
          rcases tells last found with self | ⟨other, tenant⟩
          · exact self
          · have facts := lastManaged_mem found
            exact absurd ⟨last, facts.1, facts.2, tenant, other⟩ own

end Parents

section Members

variable {existing rows : List DepartmentMember} {records : List MemberRecord} {id : Int} {dn : String}

def lastRecord (records : List MemberRecord) (dn : String) : Option MemberRecord :=
  records.reverse.find? fun record => record.userDn = dn

theorem lastRecord_some {record : MemberRecord} (found : lastRecord records dn = some record) :
    record ∈ records ∧ record.userDn = dn := by
  have named := List.find?_some found
  exact ⟨List.mem_reverse.mp (List.mem_of_find?_eq_some found), of_decide_eq_true named⟩

theorem lastRecord_isSome : (lastRecord records dn).isSome ↔ dn ∈ records.map MemberRecord.userDn := by
  simp [lastRecord, List.find?_isSome]

def updatedRows (id : Int) (existing : List DepartmentMember) (records : List MemberRecord) : List DepartmentMember :=
  existing.filterMap fun row => (lastRecord records row.userDn).map (memberRow id)

theorem keptMembers_own : (keptMembers id rows records).filter (fun row => row.departmentId = id) =
    updatedRows id (rows.filter fun row => row.departmentId = id) records := by
  induction rows with
  | nil => rfl
  | cons row rows ih =>
      by_cases own : row.departmentId = id
      · cases found : lastRecord records row.userDn with
        | none =>
            rw [lastRecord] at found
            simpa [keptMembers, updatedRows, List.filterMap_cons, own, lastRecord, found] using ih
        | some record =>
            rw [lastRecord] at found
            have placed : (memberRow id record).departmentId = id := rfl
            simpa [keptMembers, updatedRows, List.filterMap_cons, own, lastRecord, found, placed] using ih
      · simpa [keptMembers, updatedRows, List.filterMap_cons, own] using ih

theorem keptMembers_other : (keptMembers id rows records).filter (fun row => row.departmentId ≠ id) =
    rows.filter fun row => row.departmentId ≠ id := by
  induction rows with
  | nil => rfl
  | cons row rows ih =>
      by_cases own : row.departmentId = id
      · cases found : records.reverse.find? fun record => record.userDn = row.userDn with
        | none => simpa [keptMembers, List.filterMap_cons, own, found] using ih
        | some record =>
            have placed : (memberRow id record).departmentId = id := rfl
            simpa [keptMembers, List.filterMap_cons, own, found, placed] using ih
      · simpa [keptMembers, List.filterMap_cons, own] using ih

theorem updatedRows_names : (updatedRows id existing records).map DepartmentMember.userDn =
    (existing.map DepartmentMember.userDn).filter fun dn => dn ∈ records.map MemberRecord.userDn := by
  induction existing with
  | nil => rfl
  | cons row existing ih =>
      rw [List.map_cons, List.filter_cons, ← ih]
      cases found : lastRecord records row.userDn with
      | none =>
          have absent : row.userDn ∉ records.map MemberRecord.userDn := by
            rw [← lastRecord_isSome, found]
            exact Bool.false_ne_true
          simp [updatedRows, found, absent]
      | some record =>
          have present : row.userDn ∈ records.map MemberRecord.userDn := by
            rw [← lastRecord_isSome, found]
            rfl
          have name := (lastRecord_some found).2
          simp only [updatedRows, List.filterMap_cons, found, Option.map_some, List.map_cons, present, decide_true,
            if_true]
          rw [show (memberRow id record).userDn = row.userDn from name]

theorem newRecords_names : (newRecords existing records).map MemberRecord.userDn =
    (records.map MemberRecord.userDn).filter fun dn => dn ∉ existing.map DepartmentMember.userDn := by
  rw [List.filter_map]
  rfl

theorem newOnce_iff : NewOnce existing records ↔ ((newRecords existing records).map MemberRecord.userDn).Nodup := by
  rw [newRecords_names, List.nodup_iff_count_le_one, NewOnce]
  refine forall_congr' fun dn => ?_
  by_cases new : dn ∉ existing.map DepartmentMember.userDn
  · have kept : ((records.map MemberRecord.userDn).filter fun dn => dn ∉ existing.map DepartmentMember.userDn).count dn =
        (records.map MemberRecord.userDn).count dn := List.count_filter (decide_eq_true new)
    rw [kept]
    exact forall_prop_of_true new
  · have absent : dn ∉ (records.map MemberRecord.userDn).filter fun dn =>
        dn ∉ existing.map DepartmentMember.userDn := fun member =>
      new (of_decide_eq_true (List.mem_filter.mp member).2)
    rw [List.count_eq_zero.mpr absent]
    simp only [new, false_imp_iff, Nat.zero_le]

theorem added_distinct (unique : (existing.map DepartmentMember.userDn).Nodup)
    (once : NewOnce existing records) :
    ((updatedRows id existing records ++ (newRecords existing records).map (memberRow id)).map
      DepartmentMember.userDn).Nodup := by
  have names : ((newRecords existing records).map (memberRow id)).map DepartmentMember.userDn =
      (newRecords existing records).map MemberRecord.userDn := by
    rw [List.map_map]
    rfl
  rw [List.map_append, updatedRows_names, names]
  apply List.nodup_append.mpr
  refine ⟨unique.filter _, newOnce_iff.mp once, ?_⟩
  intro first kept second added same
  rw [newRecords_names] at added
  have new := of_decide_eq_true (List.mem_filter.mp added).2
  exact new (same ▸ (List.mem_filter.mp kept).1)

theorem mem_after_iff : dn ∈ (updatedRows id existing records ++ (newRecords existing records).map (memberRow id)).map
      DepartmentMember.userDn ↔ dn ∈ records.map MemberRecord.userDn := by
  have names : ((newRecords existing records).map (memberRow id)).map DepartmentMember.userDn =
      (newRecords existing records).map MemberRecord.userDn := by
    rw [List.map_map]
    rfl
  rw [List.map_append, updatedRows_names, names, newRecords_names, List.mem_append, List.mem_filter, List.mem_filter]
  simp only [decide_eq_true_eq]
  by_cases present : dn ∈ existing.map DepartmentMember.userDn
  · simp only [present, true_and, not_true_eq_false, and_false, or_false]
  · simp only [present, false_and, not_false_eq_true, and_true, false_or]

theorem after_attributes {row : DepartmentMember}
    (member : row ∈ updatedRows id existing records ++ (newRecords existing records).map (memberRow id)) :
    ∃ record ∈ records, row = memberRow id record := by
  rcases List.mem_append.mp member with kept | added
  · obtain ⟨old, _, found⟩ := List.mem_filterMap.mp kept
    obtain ⟨record, last, same⟩ := Option.map_eq_some_iff.mp found
    exact ⟨record, (lastRecord_some last).1, same.symm⟩
  · obtain ⟨record, new, same⟩ := List.mem_map.mp added
    exact ⟨record, (List.mem_filter.mp new).1, same.symm⟩

theorem added_le (once : NewOnce existing records) :
    (newRecords existing records).length ≤ (records.map MemberRecord.userDn).dedup.length := by
  have distinct := newOnce_iff.mp once
  have inside : (newRecords existing records).map MemberRecord.userDn ⊆ (records.map MemberRecord.userDn).dedup := by
    intro dn member
    rw [newRecords_names] at member
    exact List.mem_dedup.mpr (List.mem_filter.mp member).1
  have bounded := (List.subperm_of_subset distinct inside).length_le
  rwa [List.length_map] at bounded

end Members


section Answers

variable {state : OrgState} {dept : Department} {answer : GroupSyncResult} {directory : Directory}
  {groupDn managerDn : String}

theorem syncDepartment_answered (group : truthy dept.adGroupDn = some groupDn)
    (manager : truthy dept.managerDn = some managerDn)
    (answered : directory.syncGroup groupDn managerDn = .ok answer) :
    syncDepartment directory state dept = applySync state dept answer := by
  simp only [syncDepartment, group, manager, answered]

theorem membersOf_applied {parentId : Option Int} :
    membersOf { state with
        departments := state.departments.modify dept.id (syncedDept answer parentId)
        members := keptMembers dept.id state.members answer.members ++
          (newRecords (membersOf state dept.id) answer.members).map (memberRow dept.id) } dept.id =
      updatedRows dept.id (membersOf state dept.id) answer.members ++
        (newRecords (membersOf state dept.id) answer.members).map (memberRow dept.id) := by
  have added : ((newRecords (membersOf state dept.id) answer.members).map (memberRow dept.id)).filter
      (fun row => row.departmentId = dept.id) =
      (newRecords (membersOf state dept.id) answer.members).map (memberRow dept.id) := by
    rw [List.filter_eq_self]
    intro row member
    obtain ⟨record, _, same⟩ := List.mem_map.mp member
    exact decide_eq_true (by rw [← same]; rfl)
  simp only [membersOf] at added ⊢
  rw [List.filter_append, keptMembers_own, added]

theorem synced_get {parentId : Option Int} (stored : state.departments.get dept.id = some dept) :
    (state.departments.modify dept.id (syncedDept answer parentId)).get dept.id =
      some (syncedDept answer parentId dept) :=
  @Table.get_modify_of_eq _ _ state.departments dept dept.id dept.id (syncedDept answer parentId) (fun _ => rfl) rfl
    stored

theorem applied_of_conditions (stored : state.departments.get dept.id = some dept)
    (unique : ((membersOf state dept.id).map DepartmentMember.userDn).Nodup)
    (once : NewOnce (membersOf state dept.id) answer.members)
    (tells : LastTells state.departments dept answer.managerChain) :
    AnswerApplied state dept answer (applySync state dept answer).1 (applySync state dept answer).2 := by
  have distinct := newOnce_iff.mp once
  simp only [applySync, if_neg (not_not.mpr distinct)]
  refine ⟨⟨_, rfl, ?_, ?_⟩, ?_, fun dn => ?_, fun row member => ?_, ?_, fun id other => ?_, ?_⟩
  · have bounded := added_le once
    dsimp only
    omega
  · simp only [List.mem_dedup]
  · rw [membersOf_applied]
    exact added_distinct unique once
  · rw [membersOf_applied]
    exact mem_after_iff
  · rw [membersOf_applied] at member
    exact after_attributes member
  · have added : ((newRecords (membersOf state dept.id) answer.members).map (memberRow dept.id)).filter
        (fun row => row.departmentId ≠ dept.id) = [] := by
      rw [List.filter_eq_nil_iff]
      intro row member
      obtain ⟨record, _, same⟩ := List.mem_map.mp member
      rw [← same]
      simp [memberRow]
    rw [List.filter_append, keptMembers_other, added, List.append_nil]
  · exact @Table.get_modify_other _ _ state.departments dept.id id (syncedDept answer _) (fun _ => rfl) other
  · exact ⟨_, synced_get stored, parentFits_iff.mpr tells⟩

/-- The answer is applied exactly when no new name is repeated and the last department of
each manager tells the parent. -/
theorem answer_applied_iff (stored : state.departments.get dept.id = some dept)
    (unique : ((membersOf state dept.id).map DepartmentMember.userDn).Nodup)
    (group : truthy dept.adGroupDn = some groupDn) (manager : truthy dept.managerDn = some managerDn)
    (answered : directory.syncGroup groupDn managerDn = .ok answer) :
    AnswerApplied state dept answer (syncDepartment directory state dept).1
        (syncDepartment directory state dept).2 ↔
      NewOnce (membersOf state dept.id) answer.members ∧
        LastTells state.departments dept answer.managerChain := by
  rw [syncDepartment_answered group manager answered]
  constructor
  · intro applied
    by_cases distinct : ((newRecords (membersOf state dept.id) answer.members).map MemberRecord.userDn).Nodup
    · obtain ⟨row, found, fits⟩ := applied.parent
      simp only [applySync, if_neg (not_not.mpr distinct)] at found
      cases (synced_get stored).symm.trans found
      exact ⟨newOnce_iff.mpr distinct, parentFits_iff.mp fits⟩
    · obtain ⟨summary, succeeded, _⟩ := applied.summary
      simp only [applySync, if_pos distinct] at succeeded
      cases succeeded
  · rintro ⟨once, tells⟩
    exact applied_of_conditions stored unique once tells

end Answers

def managedDept (id tenantId : Int) (name managerDn : String) : Department where
  id := id
  tenantId := tenantId
  name := name
  slug := name
  description := none
  adGroupName := name
  adGroupDn := some ("CN=" ++ name)
  managerInput := managerDn
  managerDn := some managerDn
  managerName := none
  managerEmail := none
  managerTitle := none
  parentId := none
  lastSyncError := none
  syncStatus := .ok

def record (dn title : String) : MemberRecord := ⟨dn, dn, none, some title, none, true, none, none⟩

def opsAnswer : GroupSyncResult where
  group := ⟨"CN=ops", "ops"⟩
  manager := none
  members := [record "CN=Al" "Clerk", record "CN=Cy" "Clerk", record "CN=Al" "Lead"]
  managerChain := ["CN=Zoe"]

def opsDirectory : Directory where
  resolveGroup name := .ok ⟨name, name⟩
  resolveUser name := .ok ⟨name, name, none, none⟩
  syncGroup _ _ := .ok opsAnswer

def ops : Department := managedDept 3 1 "ops" "CN=Mia"

def headState : OrgState where
  departments := ⟨[managedDept 1 1 "head" "CN=Zoe", ops], by decide⟩
  members := [memberRow 3 (record "CN=Al" "Clerk"), memberRow 3 (record "CN=Bo" "Clerk")]

theorem ops_answer_applied :
    AnswerApplied headState ops opsAnswer (syncDepartment opsDirectory headState ops).1
      (syncDepartment opsDirectory headState ops).2 := by
  have last : (headState.departments.rows.filter (manages "CN=Zoe")).getLast? =
      some (managedDept 1 1 "head" "CN=Zoe") := by decide
  have once : NewOnce (membersOf headState ops.id) opsAnswer.members := newOnce_iff.mpr (by decide)
  have tells : LastTells headState.departments ops opsAnswer.managerChain := by
    apply lastTells_cons.mpr
    constructor
    · intro found read
      obtain rfl := Option.some.inj (last.symm.trans read)
      right
      decide
    · intro _ before dn after split
      simp at split
  exact (answer_applied_iff (by decide) (by decide) rfl rfl rfl).mpr ⟨once, tells⟩

def sharedState : OrgState where
  departments := ⟨[managedDept 1 1 "head" "CN=Zoe", managedDept 2 2 "sales" "CN=Zoe", ops], by decide⟩
  members := [memberRow 3 (record "CN=Al" "Clerk"), memberRow 3 (record "CN=Bo" "Clerk")]

theorem other_tenants_parent :
    ¬ AnswerApplied sharedState ops opsAnswer (syncDepartment opsDirectory sharedState ops).1
      (syncDepartment opsDirectory sharedState ops).2 := by
  intro applied
  obtain ⟨row, found, fits⟩ := applied.parent
  have parent : ((syncDepartment opsDirectory sharedState ops).1.departments.get ops.id).map Department.parentId =
      some (some 2) := by decide
  rw [found] at parent
  have second : row.parentId = some 2 := Option.some.inj parent
  rw [second] at fits
  obtain ⟨sales, member, same, tenant, _⟩ := parentFits_owned fits
  have all : ∀ dept ∈ sharedState.departments.rows, dept.id = 2 → dept.tenantId ≠ ops.tenantId := by decide
  exact all sales member same tenant

end Dosm.Org
