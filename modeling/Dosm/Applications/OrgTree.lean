import Dosm.Base.FreeName
import Dosm.Models
import Dosm.Base.Checks
import Dosm.Base.Forest
import Dosm.Base.Transition

namespace Dosm.Applications

open Models Python

/-! The organisation tree: applications, their environments, and the units below.

Names are compared and slugged in lower case. The case tables of Unicode are a
parameter, `lower`; no result depends on them.
-/

inductive OrgError where
  | validation (message : String)
  | integrity (message : String)
  deriving DecidableEq

def tierName : Tier → String
  | .application => "application"
  | .environment => "environment"
  | .unit => "unit"

def parseTier (text : String) : Option Tier :=
  [Tier.application, .environment, .unit].find? fun tier => tierName tier = text

/-- The tier a parent must have; none for a top-level node. -/
def parentTier : Tier → Option Tier
  | .application => none
  | .environment => some .application
  | .unit => some .environment

def slugify (lower : String → String) (name : String) : String :=
  let text := slug (lower (strip name))
  if text = "" then "item" else text

def getUnit (units : Table OrgUnit) (id tenant : Int) : Option OrgUnit := units.getOwned tenant id

def childrenOf (units : Table OrgUnit) (parentId : Option Int) (tenant : Int) : List OrgUnit :=
  units.rows.filter fun row => row.parentId = parentId && row.tenantId = tenant

def siblingsOf (units : Table OrgUnit) (parentId : Option Int) (tenant : Int) (excludeId : Option Int) :
    List OrgUnit :=
  (childrenOf units parentId tenant).filter fun row => excludeId ≠ some row.id

def uniqueSlug (units : Table OrgUnit) (parentId : Option Int) (base : String) (tenant : Int)
    (excludeId : Option Int) : String :=
  uniqueName ((siblingsOf units parentId tenant excludeId).map OrgUnit.slug) base

def checkNameFree (lower : String → String) (units : Table OrgUnit) (parentId : Option Int)
    (name : String) (tenant : Int) (excludeId : Option Int) : Except OrgError Unit :=
  if (siblingsOf units parentId tenant excludeId).any fun row => lower row.name = lower name then
    .error (.validation ("A sibling named " ++ Python.repr name ++ " already exists at this level."))
  else .ok ()

def indefinite (noun : String) : String :=
  if noun.toList.head?.any (· ∈ "aeiou".toList) then "an " ++ noun else "a " ++ noun

def placement (tier required : Tier) : String :=
  "A " ++ tierName tier ++ " must be placed under " ++ indefinite (tierName required)

def checkParent (units : Table OrgUnit) (tier : Tier) (parentId : Option Int) (tenant : Int) :
    Except OrgError Unit :=
  match parentTier tier, parentId with
  | none, none => .ok ()
  | none, some _ => .error (.validation "An application is a top-level node and has no parent.")
  | some required, none => .error (.validation (placement tier required ++ "."))
  | some required, some id =>
      match getUnit units id tenant with
      | none => .error (.validation "Parent not found.")
      | some parent =>
          if parent.tier = required then .ok ()
          else
            .error (.validation
              (placement tier required ++ ", not under a " ++ tierName parent.tier ++ "."))

def createUnit (lower : String → String) (db : Database) (tenant : Int) (name tier : String)
    (parentId : Option Int) : Except OrgError Database :=
  let name := strip name
  if name = "" then throw (.validation "Name is required.")
  else
    match parseTier tier with
    | none => throw (.validation ("Unknown tier: " ++ Python.repr tier))
    | some tier => do
        checkParent db.orgUnits tier parentId tenant
        checkNameFree lower db.orgUnits parentId name tenant none
        let slug := uniqueSlug db.orgUnits parentId (slugify lower name) tenant none
        if (db.tenants.get tenant).isNone then throw (.integrity "FOREIGN KEY constraint failed")
        else
          return { db with
            orgUnits := db.orgUnits.insert fun id =>
              { id, tenantId := tenant, name, slug, tier, parentId } }

/-- The slug stays when only the case of the name changes. -/
def renamedSlug (lower : String → String) (units : Table OrgUnit) (unit : OrgUnit) (name : String) :
    String :=
  if lower name = lower unit.name then unit.slug
  else uniqueSlug units unit.parentId (slugify lower name) unit.tenantId (some unit.id)

def updateUnit (lower : String → String) (db : Database) (unit : OrgUnit) (name : String) :
    Except OrgError Database :=
  let name := strip name
  if name = "" then throw (.validation "Name is required.")
  else do
    checkNameFree lower db.orgUnits unit.parentId name unit.tenantId (some unit.id)
    let slug := renamedSlug lower db.orgUnits unit name
    return { db with orgUnits := db.orgUnits.modify unit.id fun row => { row with name, slug } }

def attached (units : Table OrgUnit) (row : OrgUnit) : Bool :=
  row.parentId.all fun id => (units.get id).isSome

/-- The cascade of a deletion: rows whose parent is gone go too. -/
def dropOrphans : Nat → Table OrgUnit → Table OrgUnit
  | 0, units => units
  | rounds + 1, units => dropOrphans rounds (units.filter (attached units))

def deleteUnit (db : Database) (unit : OrgUnit) : Database :=
  { db with orgUnits := dropOrphans db.orgUnits.rows.length (db.orgUnits.remove unit.id) }

def parentOf (units : Table OrgUnit) (unit : OrgUnit) : Option OrgUnit := unit.parentId.bind units.get

/-- `OrgUnit.path` within a number of rounds of its loop. -/
def path (units : Table OrgUnit) : Nat → OrgUnit → Option (List OrgUnit)
  | 0, _ => none
  | rounds + 1, unit =>
      match parentOf units unit with
      | none => some [unit]
      | some parent => (path units rounds parent).map (· ++ [unit])

example : slugify lower "  Prod (EU) " = "prod-eu" ∧ slugify lower "***" = "item" := by decide

open Transition

/-! The organisation tree over every history of creations, renames and deletions. -/

inductive OrgOperation where
  | create (tenant : Int) (name tier : String) (parentId : Option Int)
  | update (id : Int) (name : String)
  | delete (id : Int)

/-- A refused operation is rolled back. -/
def perform (lower : String → String) (db : Database) : OrgOperation → Database
  | .create tenant name tier parentId =>
      (createUnit lower db tenant name tier parentId).toOption.getD db
  | .update id name =>
      match db.orgUnits.get id with
      | none => db
      | some unit => (updateUnit lower db unit name).toOption.getD db
  | .delete id =>
      match db.orgUnits.get id with
      | none => db
      | some unit => deleteUnit db unit

def orgSystem (lower : String → String) : Machine Database OrgOperation where
  initial db := db.orgUnits = .empty
  step db operation := some (perform lower db operation)

def Siblings (first second : OrgUnit) : Prop :=
  first.parentId = second.parentId ∧ first.tenantId = second.tenantId

def DistinctBy (label : OrgUnit → String) (units : Table OrgUnit) : Prop :=
  ∀ first ∈ units.rows, ∀ second ∈ units.rows, Siblings first second →
    label first = label second → first = second

def Placed (units : Table OrgUnit) (row : OrgUnit) : Prop :=
  match parentTier row.tier with
  | none => row.parentId = none
  | some required => ∃ parent, parentOf units row = some parent ∧ parent.tier = required ∧
      parent.tenantId = row.tenantId

structure OrgTree (lower : String → String) (units : Table OrgUnit) : Prop where
  application : ∀ row ∈ units.rows, row.tier = .application → row.parentId = none
  environment : ∀ row ∈ units.rows, row.tier = .environment → ∃ parent,
    parentOf units row = some parent ∧ parent.tier = .application ∧ parent.tenantId = row.tenantId
  unit : ∀ row ∈ units.rows, row.tier = .unit → ∃ parent,
    parentOf units row = some parent ∧ parent.tier = .environment ∧ parent.tenantId = row.tenantId
  paths : ∀ row ∈ units.rows, ∃ chain, chain.length ≤ 3 ∧
    ∀ rounds ≥ 3, path units rounds row = some chain
  names : DistinctBy (fun row => lower row.name) units
  slugs : DistinctBy OrgUnit.slug units

structure Grown (lower : String → String) (units : Table OrgUnit) : Prop where
  placed : ∀ row ∈ units.rows, Placed units row
  names : DistinctBy (fun row => lower row.name) units
  slugs : DistinctBy OrgUnit.slug units

section OrgTree

variable {lower : String → String} {units kept : Table OrgUnit} {row unit parent : OrgUnit}
  {label : OrgUnit → String} {db after : Database} {operation : OrgOperation}
  {parentId excludeId : Option Int} {id tenant : Int} {name tier base : String} {rounds : Nat}

theorem mem_siblingsOf : row ∈ siblingsOf units parentId tenant excludeId ↔
    row ∈ units.rows ∧ row.parentId = parentId ∧ row.tenantId = tenant ∧ excludeId ≠ some row.id := by
  simp only [siblingsOf, childrenOf, List.mem_filter, Bool.and_eq_true, decide_eq_true_eq]
  tauto

theorem uniqueSlug_free (member : row ∈ siblingsOf units parentId tenant excludeId) :
    row.slug ≠ uniqueSlug units parentId base tenant excludeId := by
  intro same
  have taken : row.slug ∈ (siblingsOf units parentId tenant excludeId).map OrgUnit.slug :=
    List.mem_map_of_mem member
  rw [same] at taken
  exact uniqueName_not_mem taken

theorem checkNameFree_ok (free : checkNameFree lower units parentId name tenant excludeId = .ok ())
    (member : row ∈ siblingsOf units parentId tenant excludeId) : lower row.name ≠ lower name := by
  intro same
  have clash : (siblingsOf units parentId tenant excludeId).any
      fun row => lower row.name = lower name := List.any_eq_true.mpr ⟨row, member, by simpa using same⟩
  simp [checkNameFree, clash] at free

theorem DistinctBy.insert {make : Int → OrgUnit} (keyed : ∀ id, key (make id) = id)
    (distinct : DistinctBy label units)
    (fresh : ∀ row ∈ units.rows, Siblings row (make units.fresh) → label row ≠ label (make units.fresh)) :
    DistinctBy label (units.insert make keyed) := by
  intro first firstMember second secondMember siblings same
  rcases Table.mem_insert.mp firstMember with firstOld | rfl <;>
    rcases Table.mem_insert.mp secondMember with secondOld | rfl
  · exact distinct first firstOld second secondOld siblings same
  · exact absurd same (fresh first firstOld siblings)
  · exact absurd same.symm (fresh second secondOld ⟨siblings.1.symm, siblings.2.symm⟩)
  · rfl

theorem DistinctBy.subset (distinct : DistinctBy label units)
    (within : ∀ row ∈ kept.rows, row ∈ units.rows) : DistinctBy label kept :=
  fun first firstMember second secondMember =>
    distinct first (within first firstMember) second (within second secondMember)

theorem DistinctBy.modify {change : OrgUnit → OrgUnit} (keyed : ∀ row, key (change row) = key row)
    (stays : ∀ row, Siblings (change row) row) (distinct : DistinctBy label units)
    (fresh : ∀ row ∈ units.rows, row.id = id → ∀ other ∈ units.rows, other.id ≠ id →
      Siblings other row → label other ≠ label (change row)) :
    DistinctBy label (units.modify id change keyed) := by
  intro first firstMember second secondMember siblings same
  obtain ⟨firstOld, firstListed, rfl⟩ := Table.mem_modify.mp firstMember
  obtain ⟨secondOld, secondListed, rfl⟩ := Table.mem_modify.mp secondMember
  by_cases firstChanged : key firstOld = id <;> by_cases secondChanged : key secondOld = id
  · have one : firstOld = secondOld :=
      Table.eq_of_key firstListed secondListed (firstChanged.trans secondChanged.symm)
    rw [one]
  · rw [if_pos firstChanged, if_neg secondChanged] at siblings same ⊢
    have moved := stays firstOld
    refine absurd same.symm (fresh firstOld firstListed firstChanged secondOld secondListed secondChanged ?_)
    exact ⟨siblings.1.symm.trans moved.1, siblings.2.symm.trans moved.2⟩
  · rw [if_neg firstChanged, if_pos secondChanged] at siblings same ⊢
    have moved := stays secondOld
    refine absurd same (fresh secondOld secondListed secondChanged firstOld firstListed firstChanged ?_)
    exact ⟨siblings.1.trans moved.1, siblings.2.trans moved.2⟩
  · rw [if_neg firstChanged, if_neg secondChanged] at siblings same ⊢
    exact distinct firstOld firstListed secondOld secondListed siblings same

theorem Placed.congr {table later : Table OrgUnit} {moved : OrgUnit} (placed : Placed table row)
    (tier : moved.tier = row.tier) (stays : Siblings moved row)
    (kept : ∀ id parent, row.parentId = some id → table.get id = some parent → ∃ same,
      later.get id = some same ∧ same.tier = parent.tier ∧ same.tenantId = parent.tenantId) :
    Placed later moved := by
  unfold Placed at placed ⊢
  rw [tier]
  cases required : parentTier row.tier with
  | none =>
      simp only [required] at placed ⊢
      exact stays.1.trans placed
  | some above =>
      simp only [required] at placed ⊢
      obtain ⟨parent, found, parentTier, owned⟩ := placed
      obtain ⟨id, reference, present⟩ := Option.bind_eq_some_iff.mp found
      obtain ⟨same, sameFound, sameTier, sameOwner⟩ := kept id parent reference present
      refine ⟨same, ?_, sameTier.trans parentTier, ?_⟩
      · rw [parentOf, stays.1, reference]
        exact sameFound
      · rw [sameOwner, owned, stays.2]

theorem checkParent_ok {wanted : Tier} (valid : checkParent units wanted parentId tenant = .ok ()) :
    match parentTier wanted with
    | none => parentId = none
    | some required => ∃ id parent, parentId = some id ∧ units.get id = some parent ∧
        parent.tier = required ∧ parent.tenantId = tenant := by
  unfold checkParent at valid
  cases required : parentTier wanted with
  | none =>
      cases parentId with
      | none => rfl
      | some id => simp [required] at valid
  | some above =>
      cases parentId with
      | none => simp [required] at valid
      | some id =>
          simp only [required] at valid ⊢
          cases found : getUnit units id tenant with
          | none => simp [found] at valid
          | some parent =>
              obtain ⟨present, owned⟩ := Option.filter_eq_some_iff.mp found
              by_cases fits : parent.tier = above
              · exact ⟨id, parent, rfl, present, fits, of_decide_eq_true owned⟩
              · simp [found, fits] at valid

theorem createUnit_ok (created : createUnit lower db tenant name tier parentId = .ok after) :
    ∃ wanted, checkParent db.orgUnits wanted parentId tenant = .ok () ∧
      checkNameFree lower db.orgUnits parentId (strip name) tenant none = .ok () ∧
      after.orgUnits = db.orgUnits.insert fun id => {
        id, tenantId := tenant, name := strip name
        slug := uniqueSlug db.orgUnits parentId (slugify lower (strip name)) tenant none
        tier := wanted, parentId } := by
  obtain ⟨_, checked⟩ := Checks.guard_ok created
  cases parsed : parseTier tier with
  | none =>
      simp only [parsed] at checked
      cases checked
  | some wanted =>
      simp only [parsed] at checked
      obtain ⟨_, placed, checked⟩ := Checks.bind_ok checked
      obtain ⟨_, free, checked⟩ := Checks.bind_ok checked
      obtain ⟨_, added⟩ := Checks.guard_ok checked
      cases added
      exact ⟨wanted, placed, free, rfl⟩

theorem updateUnit_ok (updated : updateUnit lower db unit name = .ok after) :
    checkNameFree lower db.orgUnits unit.parentId (strip name) unit.tenantId (some unit.id) = .ok () ∧
      after.orgUnits = db.orgUnits.modify unit.id fun row =>
        { row with
          name := strip name
          slug := renamedSlug lower db.orgUnits unit (strip name) } := by
  obtain ⟨_, checked⟩ := Checks.guard_ok updated
  obtain ⟨_, free, written⟩ := Checks.bind_ok checked
  cases written
  exact ⟨free, rfl⟩

theorem Grown.create (grown : Grown lower db.orgUnits)
    (created : createUnit lower db tenant name tier parentId = .ok after) :
    Grown lower after.orgUnits := by
  obtain ⟨wanted, valid, free, added⟩ := createUnit_ok created
  rw [added]
  refine ⟨?_, ?_, ?_⟩
  · intro row member
    rcases Table.mem_insert.mp member with old | rfl
    · refine (grown.placed row old).congr rfl ⟨rfl, rfl⟩ ?_
      intro id parent _ found
      exact ⟨parent, Table.get_insert_of_get found, rfl, rfl⟩
    · have place := checkParent_ok valid
      unfold Placed
      dsimp only
      cases required : parentTier wanted with
      | none =>
          rw [required] at place
          exact place
      | some above =>
          rw [required] at place
          obtain ⟨id, parent, rfl, found, fits, owned⟩ := place
          exact ⟨parent, Table.get_insert_of_get found, fits, owned⟩
  · refine grown.names.insert _ fun row member siblings => ?_
    exact checkNameFree_ok free (mem_siblingsOf.mpr ⟨member, siblings.1, siblings.2, nofun⟩)
  · refine grown.slugs.insert _ fun row member siblings => ?_
    exact uniqueSlug_free (mem_siblingsOf.mpr ⟨member, siblings.1, siblings.2, nofun⟩)

theorem Grown.update (grown : Grown lower db.orgUnits) (found : db.orgUnits.get id = some unit)
    (updated : updateUnit lower db unit name = .ok after) : Grown lower after.orgUnits := by
  obtain ⟨free, written⟩ := updateUnit_ok updated
  obtain ⟨unitMember, _⟩ := Table.get_eq_some_iff.mp found
  have sibling (row : OrgUnit) (member : row ∈ db.orgUnits.rows) (renamed : row.id = unit.id)
      (other : OrgUnit) (listed : other ∈ db.orgUnits.rows) (different : other.id ≠ unit.id)
      (siblings : Siblings other row) :
      other ∈ siblingsOf db.orgUnits unit.parentId unit.tenantId (some unit.id) ∧ row = unit := by
    obtain rfl : row = unit := Table.eq_of_key member unitMember renamed
    refine ⟨mem_siblingsOf.mpr ⟨listed, siblings.1, siblings.2, ?_⟩, rfl⟩
    exact fun same => different (Option.some.inj same).symm
  rw [written]
  refine ⟨?_, ?_, ?_⟩
  · intro row member
    obtain ⟨old, oldMember, rfl⟩ := Table.mem_modify.mp member
    have parents (reference : Int) (parent : OrgUnit) (present : db.orgUnits.get reference = some parent) :
        ∃ same, (db.orgUnits.modify unit.id fun row =>
            { row with
              name := strip name
              slug := renamedSlug lower db.orgUnits unit (strip name) }).get reference = some same ∧
          same.tier = parent.tier ∧ same.tenantId = parent.tenantId := by
      refine ⟨_, by rw [Table.get_modify, present, Option.map_some], ?_⟩
      split
      · exact ⟨rfl, rfl⟩
      · exact ⟨rfl, rfl⟩
    split
    · exact (grown.placed old oldMember).congr rfl ⟨rfl, rfl⟩ fun id parent _ => parents id parent
    · exact (grown.placed old oldMember).congr rfl ⟨rfl, rfl⟩ fun id parent _ => parents id parent
  · refine grown.names.modify _ (fun _ => ⟨rfl, rfl⟩) ?_
    intro row member renamed other listed different siblings
    exact checkNameFree_ok free (sibling row member renamed other listed different siblings).1
  · refine grown.slugs.modify _ (fun _ => ⟨rfl, rfl⟩) ?_
    intro row member renamed other listed different siblings
    obtain ⟨among, rfl⟩ := sibling row member renamed other listed different siblings
    dsimp only
    unfold renamedSlug
    split
    · intro same
      exact different (congrArg OrgUnit.id (grown.slugs other listed row member siblings same))
    · exact uniqueSlug_free among

theorem mem_dropOrphans (member : row ∈ (dropOrphans rounds units).rows) : row ∈ units.rows := by
  induction rounds generalizing units with
  | zero => exact member
  | succ rounds ih => exact (Table.mem_filter.mp (ih member)).1

theorem dropOrphans_stable (whole : ∀ row ∈ units.rows, attached units row = true) :
    dropOrphans rounds units = units := by
  have same : units.filter (attached units) = units := by
    have rows : units.rows.filter (attached units) = units.rows := List.filter_eq_self.mpr whole
    cases units
    simpa only [Table.filter, Table.mk.injEq] using rows
  induction rounds with
  | zero => rfl
  | succ rounds ih => rw [dropOrphans, same, ih]

theorem dropOrphans_attached (enough : units.rows.length ≤ rounds) :
    ∀ row ∈ (dropOrphans rounds units).rows, attached (dropOrphans rounds units) row = true := by
  induction rounds generalizing units with
  | zero =>
      have none : units.rows = [] := List.length_eq_zero_iff.mp (by omega)
      intro row member
      have listed := mem_dropOrphans member
      rw [none] at listed
      cases listed
  | succ rounds ih =>
      by_cases whole : ∀ row ∈ units.rows, attached units row = true
      · rw [dropOrphans_stable whole]
        exact whole
      · have fewer : (units.filter (attached units)).rows.length < units.rows.length := by
          rw [Table.filter, List.length_filter_lt_length_iff_exists]
          push Not at whole
          exact whole
        rw [dropOrphans]
        exact ih (by omega)

theorem Grown.delete (grown : Grown lower db.orgUnits) : Grown lower (deleteUnit db unit).orgUnits := by
  have within : ∀ row ∈ (deleteUnit db unit).orgUnits.rows, row ∈ db.orgUnits.rows :=
    fun row member => (Table.mem_remove.mp (mem_dropOrphans member)).1
  have enough : (db.orgUnits.remove unit.id).rows.length ≤ db.orgUnits.rows.length :=
    List.length_filter_le ..
  refine ⟨?_, grown.names.subset within, grown.slugs.subset within⟩
  intro row member
  refine (grown.placed row (within row member)).congr rfl ⟨rfl, rfl⟩ ?_
  intro id parent reference found
  have stays : attached (deleteUnit db unit).orgUnits row = true := dropOrphans_attached enough row member
  rw [attached, reference, Option.all_some] at stays
  obtain ⟨same, kept⟩ := Option.isSome_iff_exists.mp stays
  obtain ⟨keptMember, keptKey⟩ := Table.get_eq_some_iff.mp kept
  obtain ⟨foundMember, foundKey⟩ := Table.get_eq_some_iff.mp found
  obtain rfl : same = parent :=
    Table.eq_of_key (within same keptMember) foundMember (keptKey.trans foundKey.symm)
  exact ⟨same, kept, rfl, rfl⟩

theorem Grown.perform (grown : Grown lower db.orgUnits) :
    Grown lower (perform lower db operation).orgUnits := by
  cases operation with
  | create tenant name tier parentId =>
      dsimp only [Applications.perform]
      cases created : createUnit lower db tenant name tier parentId with
      | error refused => exact grown
      | ok after => exact grown.create created
  | update id name =>
      dsimp only [Applications.perform]
      cases found : db.orgUnits.get id with
      | none => exact grown
      | some unit =>
          dsimp only
          cases updated : updateUnit lower db unit name with
          | error refused => exact grown
          | ok after => exact grown.update found updated
  | delete id =>
      dsimp only [Applications.perform]
      cases found : db.orgUnits.get id with
      | none => exact grown
      | some unit => exact grown.delete

def depth : Tier → Nat
  | .application => 1
  | .environment => 2
  | .unit => 3

theorem depth_root {tier : Tier} (top : parentTier tier = none) : depth tier = 1 := by
  cases tier <;> simp_all [parentTier, depth]

theorem depth_below {tier above : Tier} (under : parentTier tier = some above) :
    depth tier = depth above + 1 := by
  cases tier <;> simp_all [parentTier, depth] <;> subst under <;> rfl

theorem Grown.path {level : Nat} (grown : Grown lower units) (member : row ∈ units.rows)
    (tall : depth row.tier = level) :
    ∃ chain, chain.length = level ∧ ∀ rounds ≥ level, path units rounds row = some chain := by
  induction level generalizing row with
  | zero => cases tier : row.tier <;> simp [tier, depth] at tall
  | succ level ih =>
      have placed := grown.placed row member
      unfold Placed at placed
      cases required : parentTier row.tier with
      | none =>
          simp only [required] at placed
          have top := depth_root required
          have root : parentOf units row = none := by rw [parentOf, placed, Option.bind_none]
          refine ⟨[row], by rw [List.length_singleton]; omega, ?_⟩
          intro rounds enough
          obtain ⟨more, rfl⟩ : ∃ more, rounds = more + 1 := ⟨rounds - 1, by omega⟩
          rw [Applications.path, root]
      | some above =>
          simp only [required] at placed
          obtain ⟨parent, found, fits, _⟩ := placed
          have under := depth_below required
          obtain ⟨reference, _, present⟩ := Option.bind_eq_some_iff.mp found
          have parentMember := (Table.get_eq_some_iff.mp present).1
          obtain ⟨chain, length, walked⟩ := ih parentMember (by rw [fits]; omega)
          refine ⟨chain ++ [row], by rw [List.length_append, length, List.length_singleton], ?_⟩
          intro rounds enough
          obtain ⟨more, rfl⟩ : ∃ more, rounds = more + 1 := ⟨rounds - 1, by omega⟩
          rw [Applications.path, found]
          dsimp only
          rw [walked more (by omega), Option.map_some]

/-! The tree as a forest of ids. -/

def unitIds (units : Table OrgUnit) : List Int := units.rows.map (·.id)

def parentIdOf (units : Table OrgUnit) (id : Int) : Option Int := (units.get id).bind (·.parentId)

theorem parentIdOf_row (member : row ∈ units.rows) : parentIdOf units row.id = row.parentId := by
  have found : units.get row.id = some row := Table.get_key member
  rw [parentIdOf, found, Option.bind_some]

theorem Grown.ancestor_row {steps : Nat} {top : Int} (grown : Grown lower units)
    (found : units.get id = some row) (reached : ancestor (parentIdOf units) steps id = some top) :
    ∃ above, units.get top = some above ∧ depth above.tier + steps = depth row.tier ∧
      above.tenantId = row.tenantId := by
  induction steps generalizing id row with
  | zero =>
      cases reached
      exact ⟨row, found, rfl, rfl⟩
  | succ steps ih =>
      obtain ⟨parentId, isParent, rest⟩ := Option.bind_eq_some_iff.mp reached
      rw [parentIdOf, found, Option.bind_some] at isParent
      have placed := grown.placed row (Table.get_eq_some_iff.mp found).1
      unfold Placed at placed
      cases required : parentTier row.tier with
      | none =>
          simp only [required, isParent] at placed
          cases placed
      | some tierAbove =>
          simp only [required, parentOf, isParent, Option.bind_some] at placed
          obtain ⟨parent, present, fits, owned⟩ := placed
          obtain ⟨above, aboveFound, deep, sameOwner⟩ := ih present rest
          have under := depth_below required
          rw [fits] at deep
          exact ⟨above, aboveFound, by omega, sameOwner.trans owned⟩

theorem parentIdOf_found {top : Int} (isParent : parentIdOf units id = some top) :
    ∃ row, units.get id = some row := by
  obtain ⟨row, found, _⟩ := Option.bind_eq_some_iff.mp isParent
  exact ⟨row, found⟩

theorem Grown.acyclic (grown : Grown lower units) : Acyclic (parentIdOf units) := by
  intro node steps cycle
  obtain ⟨_, isParent, _⟩ := Option.bind_eq_some_iff.mp cycle
  obtain ⟨row, found⟩ := parentIdOf_found isParent
  obtain ⟨above, aboveFound, deep, _⟩ := grown.ancestor_row found cycle
  cases Option.some.inj (aboveFound.symm.trans found)
  omega

theorem Grown.closed (grown : Grown lower units) : ClosedIn (unitIds units) (parentIdOf units) := by
  intro node _ above isParent
  obtain ⟨row, found⟩ := parentIdOf_found isParent
  have reached : ancestor (parentIdOf units) 1 node = some above := by
    rw [ancestor_succ]
    exact isParent
  obtain ⟨parent, present, _⟩ := grown.ancestor_row found reached
  obtain ⟨parentMember, rfl⟩ := Table.get_eq_some_iff.mp present
  exact List.mem_map_of_mem parentMember

theorem Grown.shallow {steps : Nat} {node top : Int} (grown : Grown lower units)
    (reached : ancestor (parentIdOf units) steps node = some top) : steps < 3 := by
  cases steps with
  | zero => omega
  | succ steps =>
      obtain ⟨_, isParent, _⟩ := Option.bind_eq_some_iff.mp reached
      obtain ⟨row, found⟩ := parentIdOf_found isParent
      obtain ⟨above, _, deep, _⟩ := grown.ancestor_row found reached
      have low : depth row.tier ≤ 3 := by cases row.tier <;> decide
      have high : 0 < depth above.tier := by cases above.tier <;> decide
      omega

theorem Grown.tree (grown : Grown lower units) : OrgTree lower units where
  application row member tier := by
    simpa [Placed, tier, parentTier] using grown.placed row member
  environment row member tier := by
    simpa [Placed, tier, parentTier] using grown.placed row member
  unit row member tier := by
    simpa [Placed, tier, parentTier] using grown.placed row member
  paths row member := by
    have shallow : depth row.tier ≤ 3 := by cases row.tier <;> simp [depth]
    obtain ⟨chain, length, walked⟩ := grown.path member rfl
    exact ⟨chain, by omega, fun rounds enough => walked rounds (by omega)⟩
  names := grown.names
  slugs := grown.slugs

end OrgTree

theorem grown_reachable {lower : String → String} {db : Database}
    (reached : (orgSystem lower).Reachable db) : Grown lower db.orgUnits := by
  have starts (start : Database) (begins : (orgSystem lower).initial start) :
      Grown lower start.orgUnits := by
    have none : start.orgUnits.rows = [] := congrArg Table.rows begins
    exact ⟨by simp [none], by simp [DistinctBy, none], by simp [DistinctBy, none]⟩
  have preserved (state : Database) (operation : OrgOperation) (after : Database)
      (stepped : (orgSystem lower).step state operation = some after)
      (before : Grown lower state.orgUnits) : Grown lower after.orgUnits := by
    cases stepped
    exact before.perform
  exact reached.invariant starts preserved

/-- The tree is well formed after every sequence of operations. -/
theorem org_tree_reachable {lower : String → String} {db : Database}
    (reached : (orgSystem lower).Reachable db) : OrgTree lower db.orgUnits :=
  (grown_reachable reached).tree

def oneTenant : Database := { tenants := ⟨[⟨1, "acme", "acme"⟩], List.nodup_singleton _⟩ }

def renames : List OrgOperation :=
  [.create 1 "Web" "application" none, .create 1 "web!" "application" none,
    .create 1 "Prod" "environment" (some 1), .create 1 "EU" "unit" (some 3), .update 1 "Shop",
    .update 2 "WEB", .delete 3]

theorem renamed_tree : ∃ db, (orgSystem lower).run oneTenant renames = some db ∧
    db.orgUnits.rows.map OrgUnit.slug = ["shop", "web"] ∧ OrgTree lower db.orgUnits := by
  have summary : ((orgSystem lower).run oneTenant renames).map
      (fun db => db.orgUnits.rows.map OrgUnit.slug) = some ["shop", "web"] := by decide +kernel
  obtain ⟨db, completed, slugs⟩ := Option.map_eq_some_iff.mp summary
  exact ⟨db, completed, slugs, org_tree_reachable ⟨oneTenant, renames, rfl, completed⟩⟩

end Dosm.Applications
