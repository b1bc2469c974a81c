import Dosm.Hosts.Repo
import Mathlib.Algebra.BigOperators.Group.List.Basic
import Mathlib.Data.List.Dedup

namespace Dosm.Applications

open Models Agent Transition

/-! The counts in the tree of units beside the host list filtered by a unit.

The tree adds up direct counts on the way back from a recursion over children; the
list selects by ids found level by level. Both are bounded by a number of rounds.
-/

/-- The rows assigned to each unit directly; what a unit is missing from counts none. -/
def directCounts {Row : Type} (orgUnitId : Row → Option Int) (tenantId : Row → Int) (extra : Row → Bool)
    (rows : List Row) (tid : Option Int) : List (Int × Nat) :=
  let ids := (rows.filter fun row => inTenant tid (tenantId row) && extra row).filterMap orgUnitId
  ids.dedup.map fun id => (id, ids.count id)

def directHostCounts (db : Database) (tid : Option Int) : List (Int × Nat) :=
  directCounts Host.orgUnitId Host.tenantId (fun _ => true) db.hosts.rows tid

inductive TreeNode where
  | node (unit : OrgUnit) (direct total : Nat) (children : List TreeNode)

namespace TreeNode

def unit : TreeNode → OrgUnit
  | .node unit _ _ _ => unit

def direct : TreeNode → Nat
  | .node _ direct _ _ => direct

def total : TreeNode → Nat
  | .node _ _ total _ => total

def children : TreeNode → List TreeNode
  | .node _ _ _ children => children

end TreeNode

def byName (units : List OrgUnit) : List OrgUnit :=
  units.insertionSort fun first second => first.name ≤ second.name

/-- `OrgUnit.children`, sorted again without regard to case. -/
def sortedChildren (lower : String → String) (units : Table OrgUnit) (unit : OrgUnit) : List OrgUnit :=
  (byName (units.rows.filter fun row => row.parentId = some unit.id)).insertionSort
    fun first second => lower first.name ≤ lower second.name

def listApplications (units : Table OrgUnit) (tid : Option Int) : List OrgUnit :=
  byName (units.rows.filter fun row => row.parentId = none && inTenant tid row.tenantId)

def buildNode (lower : String → String) (units : Table OrgUnit) (counts : List (Int × Nat)) :
    Nat → OrgUnit → Option TreeNode
  | 0, _ => none
  | rounds + 1, unit => do
      let kids ← (sortedChildren lower units unit).mapM (buildNode lower units counts rounds)
      let direct := (counts.lookup unit.id).getD 0
      return .node unit direct (direct + (kids.map TreeNode.total).sum) kids

def buildTree (lower : String → String) (db : Database) (rounds : Nat) (tid : Option Int)
    (counts : Option (List (Int × Nat))) : Option (List TreeNode) :=
  (listApplications db.orgUnits tid).mapM <|
    buildNode lower db.orgUnits (counts.getD (directHostCounts db tid)) rounds

mutual

def TreeNode.nodes : TreeNode → List TreeNode
  | .node unit direct total children => .node unit direct total children :: nodesOf children

def nodesOf : List TreeNode → List TreeNode
  | [] => []
  | node :: rest => node.nodes ++ nodesOf rest

end

theorem nodesOf_eq {forest : List TreeNode} : nodesOf forest = forest.flatMap TreeNode.nodes := by
  induction forest with
  | nil => rfl
  | cons node rest ih => rw [nodesOf, ih, List.flatMap_cons]

/-! Sums of counts. -/

section Counts

variable {Row : Type} {orgUnitId : Row → Option Int} {tenantId : Row → Int} {extra : Row → Bool}
  {rows : List Row} {tid : Option Int} {id : Int} {ids keys : List Int}

theorem lookup_map {value : Int → Nat} :
    (keys.map fun key => (key, value key)).lookup id = if id ∈ keys then some (value id) else none := by
  induction keys with
  | nil => rfl
  | cons key rest ih =>
      rw [List.map_cons, List.lookup_cons]
      by_cases same : id = key
      · subst same
        simp
      · have other : (id == key) = false := by simpa using same
        simp only [other, ih, List.mem_cons, same, false_or]

theorem directCounts_get : ((directCounts orgUnitId tenantId extra rows tid).lookup id).getD 0 =
    ((rows.filter fun row => inTenant tid (tenantId row) && extra row).filterMap orgUnitId).count id := by
  simp only [directCounts, lookup_map, List.mem_dedup]
  split
  · rfl
  · exact (List.count_eq_zero.mpr ‹_›).symm

theorem sum_count (distinct : keys.Nodup) :
    (keys.map fun key => ids.count key).sum = ids.countP fun id => id ∈ keys := by
  induction keys with
  | nil => simp
  | cons key rest ih =>
      obtain ⟨fresh, distinctRest⟩ := List.nodup_cons.mp distinct
      rw [List.map_cons, List.sum_cons, ih distinctRest]
      clear ih
      induction ids with
      | nil => rfl
      | cons id more ih =>
          rw [List.count_cons, List.countP_cons, List.countP_cons]
          simp only [List.mem_cons, Bool.decide_or] at ih ⊢
          by_cases same : id = key
          · subst same
            simp only [fresh, beq_self_eq_true, decide_true, decide_false, Bool.true_or, Bool.false_eq_true,
              if_true, if_false]
            omega
          · have other : (id == key) = false := by simpa using same
            simp only [same, other, decide_false, Bool.false_or, Bool.false_eq_true, if_false]
            omega

end Counts

/-! Lists built item by item. -/

section Lists

variable {First Second : Type}

theorem mapM_some_iff {build : First → Option Second} {firsts : List First} {seconds : List Second} :
    firsts.mapM build = some seconds ↔
      List.Forall₂ (fun first second => build first = some second) firsts seconds := by
  induction firsts generalizing seconds with
  | nil => simp [eq_comm]
  | cons first rest ih =>
      rw [List.mapM_cons]
      cases built : build first with
      | none =>
          refine iff_of_false (by simp) fun matched => ?_
          cases matched with
          | cons same _ => cases built.symm.trans same
      | some second =>
          cases more : rest.mapM build with
          | none =>
              refine iff_of_false (by simp) fun matched => ?_
              cases matched with
              | cons _ others => cases more.symm.trans (ih.mpr others)
          | some others =>
              simp only [Option.bind_eq_bind, Option.bind_some, Option.pure_def, Option.some.injEq]
              constructor
              · rintro rfl
                exact .cons built (ih.mp more)
              · rintro (_ | ⟨same, matched⟩)
                cases built.symm.trans same
                cases more.symm.trans (ih.mpr matched)
                rfl

theorem mapM_exists {build : First → Option Second} {firsts : List First}
    (each : ∀ first ∈ firsts, ∃ second, build first = some second) :
    ∃ seconds, firsts.mapM build = some seconds := by
  induction firsts with
  | nil => exact ⟨[], rfl⟩
  | cons first rest ih =>
      obtain ⟨second, built⟩ := each first List.mem_cons_self
      obtain ⟨others, more⟩ := ih fun other listed => each other (List.mem_cons_of_mem first listed)
      exact ⟨second :: others, mapM_some_iff.mpr (.cons built (mapM_some_iff.mp more))⟩

theorem forall₂_left {relation : First → Second → Prop} {firsts : List First} {seconds : List Second}
    {first : First} (matched : List.Forall₂ relation firsts seconds) (listed : first ∈ firsts) :
    ∃ second ∈ seconds, relation first second := by
  induction matched with
  | nil => cases listed
  | cons related _ ih =>
      rcases List.mem_cons.mp listed with rfl | later
      · exact ⟨_, List.mem_cons_self, related⟩
      · obtain ⟨second, secondListed, found⟩ := ih later
        exact ⟨second, List.mem_cons_of_mem _ secondListed, found⟩

theorem forall₂_right {relation : First → Second → Prop} {firsts : List First} {seconds : List Second}
    {second : Second} (matched : List.Forall₂ relation firsts seconds) (listed : second ∈ seconds) :
    ∃ first ∈ firsts, relation first second :=
  forall₂_left matched.flip listed

end Lists

/-! A built tree. -/

section Trees

variable {lower : String → String} {units : Table OrgUnit} {counts : List (Int × Nat)} {rounds : Nat}
  {unit row : OrgUnit} {tree node : TreeNode} {kids : List TreeNode} {tid : Option Int}

theorem buildNode_succ (built : buildNode lower units counts (rounds + 1) unit = some tree) :
    ∃ kids, List.Forall₂ (fun child kid => buildNode lower units counts rounds child = some kid)
        (sortedChildren lower units unit) kids ∧
      tree = .node unit ((counts.lookup unit.id).getD 0)
        ((counts.lookup unit.id).getD 0 + (kids.map TreeNode.total).sum) kids := by
  obtain ⟨kids, below, same⟩ := Option.bind_eq_some_iff.mp built
  exact ⟨kids, mapM_some_iff.mp below, (Option.some.inj same).symm⟩

theorem mem_sortedChildren : row ∈ sortedChildren lower units unit ↔
    row ∈ units.rows ∧ row.parentId = some unit.id := by
  rw [sortedChildren, (List.perm_insertionSort _ _).mem_iff, byName, (List.perm_insertionSort _ _).mem_iff,
    List.mem_filter, decide_eq_true_iff]

theorem built_within {steps : Nat} {id : Int} (built : buildNode lower units counts rounds unit = some tree)
    (reached : ancestor (parentIdOf units) steps id = some unit.id) : steps < rounds := by
  induction rounds generalizing unit tree steps with
  | zero => cases built
  | succ rounds ih =>
      cases steps with
      | zero => omega
      | succ steps =>
          obtain ⟨kids, below, _⟩ := buildNode_succ built
          rw [ancestor_succ] at reached
          obtain ⟨middle, above, isParent⟩ := Option.bind_eq_some_iff.mp reached
          obtain ⟨child, found, childParent⟩ := Option.bind_eq_some_iff.mp isParent
          obtain ⟨member, isMiddle⟩ := Table.get_eq_some_iff.mp found
          obtain ⟨kid, _, kidBuilt⟩ := forall₂_left below (mem_sortedChildren.mpr ⟨member, childParent⟩)
          rw [← isMiddle] at above
          exact Nat.succ_lt_succ (ih kidBuilt above)

theorem built_nodes (member : unit ∈ units.rows) (built : buildNode lower units counts rounds unit = some tree)
    (listed : node ∈ tree.nodes) :
    node.unit ∈ units.rows ∧ ∃ fewer, buildNode lower units counts fewer node.unit = some node := by
  induction rounds generalizing unit tree with
  | zero => cases built
  | succ rounds ih =>
      obtain ⟨kids, below, rfl⟩ := buildNode_succ built
      rw [TreeNode.nodes, List.mem_cons, nodesOf_eq, List.mem_flatMap] at listed
      rcases listed with rfl | ⟨kid, kidListed, under⟩
      · exact ⟨member, rounds + 1, built⟩
      · obtain ⟨child, childListed, kidBuilt⟩ := forall₂_right below kidListed
        exact ih (mem_sortedChildren.mp childListed).1 kidBuilt under

theorem built_direct (built : buildNode lower units counts rounds unit = some tree) :
    tree.unit = unit ∧ tree.direct = (counts.lookup unit.id).getD 0 ∧
      tree.total = tree.direct + (tree.children.map TreeNode.total).sum := by
  cases rounds with
  | zero => cases built
  | succ rounds =>
      obtain ⟨kids, _, rfl⟩ := buildNode_succ built
      exact ⟨rfl, rfl, rfl⟩

theorem built_total (built : buildNode lower units counts rounds unit = some tree) :
    tree.total = (tree.nodes.map TreeNode.direct).sum := by
  induction rounds generalizing unit tree with
  | zero => cases built
  | succ rounds ih =>
      obtain ⟨kids, below, rfl⟩ := buildNode_succ built
      have each : kids.map TreeNode.total = kids.map fun kid => (kid.nodes.map TreeNode.direct).sum := by
        refine List.map_congr_left fun kid listed => ?_
        obtain ⟨child, _, kidBuilt⟩ := forall₂_right below listed
        exact ih kidBuilt
      rw [TreeNode.nodes, List.map_cons, List.sum_cons, nodesOf_eq, TreeNode.total, TreeNode.direct, each,
        List.map_flatMap, List.flatMap_def, List.sum_flatten, List.map_map]
      rfl

def idsIn (units : Table OrgUnit) (tid : Option Int) : List Int :=
  (units.rows.filter fun row => inTenant tid row.tenantId).map (·.id)

theorem nodup_idsIn : (idsIn units tid).Nodup := units.unique.sublist (List.filter_sublist.map _)

theorem mem_idsIn (member : row ∈ units.rows) : row.id ∈ idsIn units tid ↔ inTenant tid row.tenantId = true := by
  constructor
  · intro listed
    obtain ⟨other, otherListed, same⟩ := List.mem_map.mp listed
    obtain ⟨otherMember, admitted⟩ := List.mem_filter.mp otherListed
    rwa [← Table.eq_of_key otherMember member same]
  · exact fun admitted => List.mem_map_of_mem (List.mem_filter.mpr ⟨member, admitted⟩)

theorem closed_idsIn (grown : Grown lower units) : ClosedIn (idsIn units tid) (parentIdOf units) := by
  intro id listed above isParent
  obtain ⟨row, rowListed, rfl⟩ := List.mem_map.mp listed
  obtain ⟨member, admitted⟩ := List.mem_filter.mp rowListed
  have found : units.get row.id = some row := Table.get_key member
  have reached : ancestor (parentIdOf units) 1 row.id = some above := by
    rw [ancestor_succ]
    exact isParent
  obtain ⟨parent, present, _, owned⟩ := grown.ancestor_row found reached
  obtain ⟨parentMember, rfl⟩ := Table.get_eq_some_iff.mp present
  refine (mem_idsIn parentMember).mpr ?_
  rwa [owned]

theorem children_perm (grown : Grown lower units) (member : unit ∈ units.rows)
    (admitted : inTenant tid unit.tenantId = true) : ((sortedChildren lower units unit).map (·.id)).Perm
      (childrenIn (idsIn units tid) (parentIdOf units) unit.id) := by
  have sorted : (sortedChildren lower units unit).Perm
      (units.rows.filter fun row => row.parentId = some unit.id) :=
    (List.perm_insertionSort _ _).trans (List.perm_insertionSort _ _)
  have below : childrenIn (idsIn units tid) (parentIdOf units) unit.id =
      (units.rows.filter fun row => row.parentId = some unit.id).map (·.id) := by
    rw [childrenIn, idsIn, List.filter_map, List.filter_filter]
    refine congrArg (List.map _) (List.filter_congr fun row rowMember => ?_)
    rw [Function.comp_apply, parentIdOf_row rowMember]
    by_cases isChild : row.parentId = some unit.id
    · have found : units.get row.id = some row := Table.get_key rowMember
      have reached : ancestor (parentIdOf units) 1 row.id = some unit.id := by
        rw [ancestor_succ]
        exact (parentIdOf_row rowMember).trans isChild
      obtain ⟨parent, present, _, owned⟩ := grown.ancestor_row found reached
      have isUnit : units.get unit.id = some unit := Table.get_key member
      cases Option.some.inj (present.symm.trans isUnit)
      rw [owned] at admitted
      simp [isChild, admitted]
    · simp [isChild]
  rw [below]
  exact sorted.map _

theorem flatMap_perm {walk : Int → List Int} {children : List OrgUnit}
    (matched : List.Forall₂ (fun child kid => (kid.nodes.map fun node => node.unit.id).Perm (walk child.id))
      children kids) :
    ((nodesOf kids).map fun node => node.unit.id).Perm ((children.map (·.id)).flatMap walk) := by
  induction matched with
  | nil => exact .refl _
  | cons related _ ih =>
      rw [nodesOf, List.map_append, List.map_cons, List.flatMap_cons]
      exact related.append ih

theorem built_ids (grown : Grown lower units) (member : unit ∈ units.rows)
    (admitted : inTenant tid unit.tenantId = true)
    (built : buildNode lower units counts rounds unit = some tree) :
    (tree.nodes.map fun node => node.unit.id).Perm
      (preorder (idsIn units tid) (parentIdOf units) rounds unit.id) := by
  induction rounds generalizing unit tree with
  | zero => cases built
  | succ rounds ih =>
      obtain ⟨kids, below, rfl⟩ := buildNode_succ built
      have order := children_perm grown member admitted
      rw [TreeNode.nodes, List.map_cons, preorder]
      refine .cons _ (.trans (flatMap_perm ?_) (order.flatMap_right _))
      refine List.Forall₂.imp ?_ (List.forall₂_and_left _ _ |>.mpr ⟨fun child listed => listed, below⟩)
      rintro child kid ⟨listed, kidBuilt⟩
      have childAdmitted : inTenant tid child.tenantId = true := by
        have inIds : child.id ∈ childrenIn (idsIn units tid) (parentIdOf units) unit.id :=
          order.mem_iff.mp (List.mem_map_of_mem listed)
        exact (mem_idsIn (mem_sortedChildren.mp listed).1).mp (mem_childrenIn.mp inIds).1
      exact ih (mem_sortedChildren.mp listed).1 childAdmitted kidBuilt

theorem buildNode_some
    (short : ∀ id steps, ancestor (parentIdOf units) steps id = some unit.id → steps < rounds) :
    ∃ tree, buildNode lower units counts rounds unit = some tree := by
  induction rounds generalizing unit with
  | zero => exact absurd (short unit.id 0 rfl) (Nat.not_lt_zero 0)
  | succ rounds ih =>
      have each : ∀ child ∈ sortedChildren lower units unit,
          ∃ kid, buildNode lower units counts rounds child = some kid := by
        intro child listed
        obtain ⟨member, isChild⟩ := mem_sortedChildren.mp listed
        refine ih fun id steps reached => Nat.lt_of_succ_lt_succ (short id (steps + 1) ?_)
        rw [ancestor_succ, reached, Option.bind_some, parentIdOf_row member]
        exact isChild
      obtain ⟨kids, below⟩ := mapM_exists each
      exact ⟨_, by rw [buildNode, below]; rfl⟩

theorem buildNode_mono {more : Nat} (built : buildNode lower units counts rounds unit = some tree)
    (atLeast : rounds ≤ more) : buildNode lower units counts more unit = some tree := by
  induction rounds generalizing unit tree more with
  | zero => cases built
  | succ rounds ih =>
      obtain ⟨more, rfl⟩ : ∃ fewer, more = fewer + 1 := ⟨more - 1, by omega⟩
      obtain ⟨kids, below, rfl⟩ := buildNode_succ built
      have again : (sortedChildren lower units unit).mapM (buildNode lower units counts more) = some kids :=
        mapM_some_iff.mpr (below.imp fun child kid kidBuilt => ih kidBuilt (by omega))
      rw [buildNode, again]
      rfl

end Trees

section Agreement

variable {lower : String → String} {units : Table OrgUnit} {unit : OrgUnit} {db : Database} {tid : Option Int}
  {rounds fewer : Nat} {node : TreeNode} {id : Int} {ids : List Int}

def assigned (db : Database) (tid : Option Int) : List Int :=
  (db.hosts.rows.filter fun host => inTenant tid host.tenantId).filterMap Host.orgUnitId

theorem directHostCounts_get : ((directHostCounts db tid).lookup id).getD 0 = (assigned db tid).count id := by
  simp only [directHostCounts, directCounts_get, Bool.and_true, assigned]

theorem mem_built (grown : Grown lower units) (member : unit ∈ units.rows) {counts : List (Int × Nat)}
    (built : buildNode lower units counts fewer unit = some node) :
    id ∈ node.nodes.map (fun node => node.unit.id) ↔
      id ∈ unitIds units ∧ ∃ steps, ancestor (parentIdOf units) steps id = some unit.id := by
  have all : idsIn units none = unitIds units := by simp [idsIn, unitIds, inTenant]
  have listed : unit.id ∈ unitIds units := List.mem_map_of_mem member
  have walk : (node.nodes.map fun node => node.unit.id).Perm
      (preorder (idsIn units none) (parentIdOf units) fewer unit.id) := built_ids grown member rfl built
  rw [all] at walk
  rw [walk.mem_iff, mem_preorder grown.closed listed]
  refine and_congr_right fun _ => exists_congr fun steps => ?_
  exact ⟨fun within => within.2, fun reached => ⟨built_within built reached, reached⟩⟩

theorem nodup_built (grown : Grown lower units) (member : unit ∈ units.rows) {counts : List (Int × Nat)}
    (built : buildNode lower units counts fewer unit = some node) :
    (node.nodes.map fun node => node.unit.id).Nodup := by
  have walk : (node.nodes.map fun node => node.unit.id).Perm
      (preorder (idsIn units none) (parentIdOf units) fewer unit.id) := built_ids grown member rfl built
  refine walk.nodup_iff.mpr (nodup_preorder grown.acyclic (closed_idsIn grown) nodup_idsIn ?_)
  exact (mem_idsIn member).mpr rfl

theorem length_listHosts (found : Hosts.orgSubtreeIds db.orgUnits rounds unit.id = some ids) :
    (Hosts.listHosts db rounds tid none none (some unit.id)).map List.length =
      some ((assigned db tid).countP fun id => id ∈ ids) := by
  have wanted : (db.hosts.rows.filter fun host => inTenant tid host.tenantId && Hosts.ofKind none host &&
      Hosts.tagged db none host) = db.hosts.rows.filter fun host => inTenant tid host.tenantId := by
    refine List.filter_congr fun host _ => ?_
    simp [Hosts.ofKind, Hosts.tagged]
  have counted : ∀ rows : List Host, (rows.filter fun host => host.orgUnitId.any (· ∈ ids)).length =
      (rows.filterMap Host.orgUnitId).countP fun id => id ∈ ids := by
    intro rows
    rw [List.countP_filterMap, ← List.countP_eq_length_filter]
    refine List.countP_congr fun host _ => ?_
    cases host.orgUnitId <;> simp
  simp only [Hosts.listHosts, found, Option.map_some, List.length_insertionSort, wanted, counted, assigned]

theorem total_agrees (grown : Grown lower db.orgUnits) (member : unit ∈ db.orgUnits.rows)
    (built : buildNode lower db.orgUnits (directHostCounts db tid) fewer unit = some node)
    (enough : 3 ≤ rounds) :
    (Hosts.listHosts db rounds tid none none (some unit.id)).map List.length = some node.total := by
  have ends : ∃ ids, Hosts.orgSubtreeIds db.orgUnits rounds unit.id = some ids :=
    Hosts.orgSubtreeIds_some grown enough
  obtain ⟨ids, found⟩ := ends
  have counted : node.nodes.map TreeNode.direct =
      (node.nodes.map fun node => node.unit.id).map fun id => (assigned db tid).count id := by
    rw [List.map_map]
    refine List.map_congr_left fun below listed => ?_
    obtain ⟨_, deep, belowBuilt⟩ := built_nodes member built listed
    rw [(built_direct belowBuilt).2.1, directHostCounts_get, Function.comp_apply]
  have same : ∀ id, id ∈ ids ↔ id ∈ node.nodes.map fun node => node.unit.id := fun id =>
    (Hosts.mem_orgSubtreeIds grown member found).trans (mem_built grown member built).symm
  rw [length_listHosts found, built_total built, counted, sum_count (nodup_built grown member built)]
  simp only [same]

theorem roots_perm : ((listApplications units tid).map (·.id)).Perm
    (rootsIn (idsIn units tid) (parentIdOf units)) := by
  have sorted : (listApplications units tid).Perm
      (units.rows.filter fun row => row.parentId = none && inTenant tid row.tenantId) :=
    List.perm_insertionSort _ _
  have roots : rootsIn (idsIn units tid) (parentIdOf units) =
      (units.rows.filter fun row => row.parentId = none && inTenant tid row.tenantId).map (·.id) := by
    rw [rootsIn, idsIn, List.filter_map, List.filter_filter]
    refine congrArg (List.map _) (List.filter_congr fun row member => ?_)
    rw [Function.comp_apply, parentIdOf_row member]
  rw [roots]
  exact sorted.map _

theorem forest_units (grown : Grown lower units) {counts : List (Int × Nat)} {forest : List TreeNode}
    (enough : 3 ≤ rounds)
    (built : (listApplications units tid).mapM (buildNode lower units counts rounds) = some forest) :
    ((nodesOf forest).map fun node => node.unit.id).Perm (idsIn units tid) := by
  have matched := mapM_some_iff.mp built
  have each : List.Forall₂ (fun root tree => (tree.nodes.map fun node => node.unit.id).Perm
      (preorder (idsIn units tid) (parentIdOf units) rounds root.id)) (listApplications units tid) forest := by
    refine List.Forall₂.imp ?_ (List.forall₂_and_left _ _ |>.mpr ⟨fun root listed => listed, matched⟩)
    rintro root tree ⟨listed, treeBuilt⟩
    have isRow := (List.perm_insertionSort _ _).mem_iff.mp listed
    simp only [List.mem_filter, Bool.and_eq_true] at isRow
    exact built_ids grown isRow.1 isRow.2.2 treeBuilt
  have reaches : ∀ id ∈ idsIn units tid, ∃ steps < rounds,
      ∃ root ∈ rootsIn (idsIn units tid) (parentIdOf units),
        ancestor (parentIdOf units) steps id = some root := by
    intro id listed
    obtain ⟨steps, _, root, isRoot, reached⟩ := root_above grown.acyclic (closed_idsIn grown) listed
    exact ⟨steps, Nat.lt_of_lt_of_le (grown.shallow reached) enough, root, isRoot, reached⟩
  exact (flatMap_perm each).trans <| (roots_perm.flatMap_right _).trans <|
    forest_perm_of_reached grown.acyclic (closed_idsIn grown) nodup_idsIn reaches

theorem units_perm {found : List OrgUnit} (inside : ∀ unit ∈ found, unit ∈ units.rows)
    (same : (found.map (·.id)).Perm (idsIn units tid)) :
    found.Perm (units.rows.filter fun unit => inTenant tid unit.tenantId) := by
  have distinct : found.Nodup := (same.nodup_iff.mpr nodup_idsIn).of_map
  have rows : units.rows.Nodup := units.unique.of_map
  refine (List.perm_ext_iff_of_nodup distinct (rows.filter _)).mpr fun unit => ?_
  rw [List.mem_filter]
  constructor
  · intro listed
    refine ⟨inside unit listed, ?_⟩
    exact (mem_idsIn (inside unit listed)).mp (same.mem_iff.mp (List.mem_map_of_mem listed))
  · rintro ⟨member, admitted⟩
    obtain ⟨other, listed, sameId⟩ := List.mem_map.mp (same.mem_iff.mpr ((mem_idsIn member).mpr admitted))
    rwa [← Table.eq_of_key (inside other listed) member sameId]

theorem forest_some (grown : Grown lower units) {counts : List (Int × Nat)} :
    ∃ forest, ∀ rounds ≥ 3,
      (listApplications units tid).mapM (buildNode lower units counts rounds) = some forest := by
  have each : ∀ root ∈ listApplications units tid, ∃ tree, buildNode lower units counts 3 root = some tree :=
    fun root _ => buildNode_some fun id steps reached => grown.shallow reached
  obtain ⟨forest, built⟩ := mapM_exists each
  refine ⟨forest, fun rounds enough => mapM_some_iff.mpr ?_⟩
  exact (mapM_some_iff.mp built).imp fun root tree treeBuilt => buildNode_mono treeBuilt enough

end Agreement

/-- A node of the tree that `build_tree` makes for a tenant agrees with the host list
filtered by its unit, and adds up. -/
def Agrees (db : Database) (tid : Option Int) (node : TreeNode) : Prop :=
  (∀ rounds ≥ 3, (Hosts.listHosts db rounds tid none none (some node.unit.id)).map List.length =
    some node.total) ∧
  node.total = node.direct + (node.children.map TreeNode.total).sum

/-- For every reachable organisation and whatever hosts: the tree gets built, each
unit of the tenant is in it once, and the totals are what the host list shows. -/
theorem tree_totals_agree (lower : String → String) {org : Database} (reached : (orgSystem lower).Reachable org)
    (hosts : Table Host) (tid : Option Int) :
    ∃ forest, (∀ rounds ≥ 3, buildTree lower { org with hosts } rounds tid none = some forest) ∧
      (∀ node ∈ nodesOf forest, Agrees { org with hosts } tid node) ∧
      ((nodesOf forest).map TreeNode.unit).Perm
        (org.orgUnits.rows.filter fun unit => inTenant tid unit.tenantId) := by
  have grown := grown_reachable reached
  have ends : ∃ forest, ∀ rounds ≥ 3, (listApplications org.orgUnits tid).mapM
      (buildNode lower org.orgUnits (directHostCounts { org with hosts } tid) rounds) = some forest :=
    forest_some grown
  obtain ⟨forest, built⟩ := ends
  have matched := mapM_some_iff.mp (built 3 (Nat.le_refl 3))
  have each : ∀ node ∈ nodesOf forest, node.unit ∈ org.orgUnits.rows ∧
      ∃ fewer, buildNode lower org.orgUnits (directHostCounts { org with hosts } tid) fewer node.unit =
        some node := by
    intro node listed
    rw [nodesOf_eq, List.mem_flatMap] at listed
    obtain ⟨tree, treeListed, under⟩ := listed
    obtain ⟨root, rootListed, treeBuilt⟩ := forall₂_right matched treeListed
    have isRow := (List.perm_insertionSort _ _).mem_iff.mp rootListed
    exact built_nodes (List.mem_filter.mp isRow).1 treeBuilt under
  refine ⟨forest, built, ?agrees, ?once⟩
  case agrees =>
    intro node listed
    obtain ⟨member, fewer, nodeBuilt⟩ := each node listed
    refine ⟨fun rounds enough => ?_, (built_direct nodeBuilt).2.2⟩
    have here : Grown lower ({ org with hosts } : Database).orgUnits := grown
    exact total_agrees here member nodeBuilt enough
  case once =>
    refine units_perm ?_ ?_
    · intro unit listed
      obtain ⟨node, nodeListed, rfl⟩ := List.mem_map.mp listed
      exact (each node nodeListed).1
    · rw [List.map_map]
      exact forest_units grown (Nat.le_refl 3) (built 3 (Nat.le_refl 3))

def shopUnits : List OrgOperation :=
  [.create 1 "Shop" "application" none, .create 1 "Prod" "environment" (some 1), .create 1 "EU" "unit" (some 2)]

def shop : Database := shopUnits.foldl (perform Python.lower) oneTenant

def shopHosts : Table Host :=
  let host := fun id name unit => {
    id, tenantId := 1, name, hostname := name, port := 22, protocol := .ssh, description := none
    credentialId := none, jumpHostId := none, isJumpbox := false, ftMethod := none, ftPort := none
    ftCredentialId := none, orgUnitId := some unit }
  ⟨[host 1 "eu-1" 3, host 2 "gate" 1], by decide⟩

theorem tree_totals_agree_shop : ∃ forest,
    buildTree Python.lower { shop with hosts := shopHosts } 3 (some 1) none = some forest ∧
      ((nodesOf forest).map fun node => (node.unit.name, node.direct, node.total)) =
        [("Shop", 1, 2), ("Prod", 0, 1), ("EU", 1, 1)] ∧
      ((nodesOf forest).map TreeNode.unit).Perm
        (shop.orgUnits.rows.filter fun unit => inTenant (some 1) unit.tenantId) := by
  have reached : (orgSystem Python.lower).Reachable shop := ⟨oneTenant, shopUnits, rfl, rfl⟩
  obtain ⟨forest, built, _, once⟩ := tree_totals_agree Python.lower reached shopHosts (some 1)
  have summary : (buildTree Python.lower { shop with hosts := shopHosts } 3 (some 1) none).map
      (fun forest => (nodesOf forest).map fun node => (node.unit.name, node.direct, node.total)) =
        some [("Shop", 1, 2), ("Prod", 0, 1), ("EU", 1, 1)] := by decide
  rw [built 3 (Nat.le_refl 3), Option.map_some, Option.some.injEq] at summary
  exact ⟨forest, built 3 (Nat.le_refl 3), summary, once⟩

end Dosm.Applications
