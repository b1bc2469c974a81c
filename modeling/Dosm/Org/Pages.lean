import Dosm.Docs.Writers

namespace Dosm.Org

open Python Transition

/-! The pages of the departments, and which request reaches them.

A request goes to the first route that matches it. The page of a department is under its
slug, in one space of paths with the fixed pages: some are declared before it, the search
of people after it.
-/

inductive HttpMethod where
  | get
  | post
  deriving DecidableEq

inductive OrgHandler where
  | orgTree
  | orgList
  | orgConfigure
  | orgConfigureSave
  | orgConfigureTest
  | orgNew
  | orgCreate
  | orgDetail
  | orgSync
  | orgEdit
  | orgUpdate
  | orgDelete
  | orgPeople
  deriving DecidableEq

inductive Segment where
  | fixed (text : String)
  | slug

structure OrgRoute where
  method : HttpMethod
  /-- Below the prefix `/org`. -/
  path : List Segment
  handler : OrgHandler

/-- The router's routes in the order of their declarations. -/
def orgRoutes : List OrgRoute := [
  ⟨.get, [.fixed "tree.json"], .orgTree⟩,
  ⟨.get, [], .orgList⟩,
  ⟨.get, [.fixed "configure"], .orgConfigure⟩,
  ⟨.post, [.fixed "configure"], .orgConfigureSave⟩,
  ⟨.post, [.fixed "configure", .fixed "test"], .orgConfigureTest⟩,
  ⟨.get, [.fixed "new"], .orgNew⟩,
  ⟨.post, [.fixed "new"], .orgCreate⟩,
  ⟨.get, [.slug], .orgDetail⟩,
  ⟨.post, [.slug, .fixed "sync"], .orgSync⟩,
  ⟨.get, [.slug, .fixed "edit"], .orgEdit⟩,
  ⟨.post, [.slug, .fixed "edit"], .orgUpdate⟩,
  ⟨.post, [.slug, .fixed "delete"], .orgDelete⟩,
  ⟨.get, [.fixed "people"], .orgPeople⟩]

/-- The slug in the path, when the path matches; a parameter takes one part, not empty. -/
def matchPath : List Segment → List String → Option (Option String)
  | [], [] => some none
  | .fixed text :: pattern, part :: parts => if part = text then matchPath pattern parts else none
  | .slug :: pattern, part :: parts =>
      if part = "" then none else (matchPath pattern parts).map fun _ => some part
  | _, _ => none

def dispatch (method : HttpMethod) (path : String) : Option (OrgHandler × Option String) :=
  orgRoutes.findSome? fun route =>
    if route.method = method then
      (matchPath (.fixed "" :: .fixed "org" :: route.path) (split '/' path)).map fun slug => (route.handler, slug)
    else none

def orgDetail (state : OrgState) (slug : String) (tid : Option Int) :
    Except Failure (Department × List DepartmentMember) :=
  match getDept state.departments slug tid with
  | .error failure => .error failure
  | .ok none => .error (.http 404 "Not Found")
  | .ok (some dept) => .ok (dept, sortedMembers state dept.id)

/-- The address of the department leads to its page, for a viewer of these tenants. -/
def PageReached (state : OrgState) (viewer : Option Int) (dept : Department) : Prop :=
  dispatch .get ("/org/" ++ dept.slug) = some (.orgDetail, some dept.slug) ∧
    orgDetail state dept.slug viewer = .ok (dept, sortedMembers state dept.id)

section Dispatch

variable {slug : String}

theorem split_org (plain : '/' ∉ slug.toList) : split '/' ("/org/" ++ slug) = ["", "org", slug] := by
  have chars : ("/org/" ++ slug).toList = [] ++ '/' :: ("org".toList ++ '/' :: slug.toList) := by
    rw [String.toList_append]
    rfl
  have org : "org".toList.splitOn '/' = ["org".toList] := List.splitOn_eq_singleton (by decide)
  rw [split, chars, List.splitOn_append_cons_self, List.splitOn_append_cons_self, org,
    List.splitOn_eq_singleton plain, List.splitOn_nil]
  simp

theorem dispatch_slug (plain : '/' ∉ slug.toList) (nonempty : slug ≠ "") :
    dispatch .get ("/org/" ++ slug) = some
      (if slug = "tree.json" then (.orgTree, none)
      else if slug = "configure" then (.orgConfigure, none)
      else if slug = "new" then (.orgNew, none)
      else (.orgDetail, some slug)) := by
  rw [dispatch, split_org plain]
  by_cases tree : slug = "tree.json"
  · simp [orgRoutes, matchPath, tree]
  by_cases configure : slug = "configure"
  · simp [orgRoutes, matchPath, configure]
  by_cases new : slug = "new"
  · simp [orgRoutes, matchPath, new]
  simp [orgRoutes, matchPath, tree, configure, new, nonempty]

theorem dispatch_people : dispatch .get "/org/people" = some (.orgDetail, some "people") := by
  have people := @dispatch_slug "people" (by decide) (by decide)
  simpa using people

end Dispatch

structure Slugged (departments : Table Department) : Prop where
  plain : ∀ dept ∈ departments.rows, '/' ∉ dept.slug.toList ∧ '.' ∉ dept.slug.toList ∧ dept.slug ≠ ""
  apart : ∀ first ∈ departments.rows, ∀ second ∈ departments.rows,
    first.tenantId = second.tenantId → first.slug = second.slug → first.id = second.id

section Slugs

variable {departments before later : Table Department} {state created : OrgState} {dept : Department}
  {directory : Directory} {form : DeptForm} {configured : Bool} {tenant : Int} {lower : String → String}
  {call : OrgCall}

theorem Slugged.same (slugged : Slugged before) (slugs : Docs.Writers.SameSlugs before later) : Slugged later where
  plain := by
    intro dept member
    obtain ⟨old, listed, _, _, sameSlug⟩ := slugs dept member
    rw [← sameSlug]
    exact slugged.plain old listed
  apart := by
    intro first firstMember second secondMember tenant slug
    obtain ⟨firstOld, firstListed, firstId, firstTenant, firstSlug⟩ := slugs first firstMember
    obtain ⟨secondOld, secondListed, secondId, secondTenant, secondSlug⟩ := slugs second secondMember
    rw [← firstId, ← secondId]
    apply slugged.apart firstOld firstListed secondOld secondListed
    · rw [firstTenant, secondTenant, tenant]
    · rw [firstSlug, secondSlug, slug]

theorem slugChar_plain {text : String} (chars : ∀ char ∈ text.toList, Docs.Store.SlugChar char) :
    '/' ∉ text.toList ∧ '.' ∉ text.toList :=
  ⟨fun slash => absurd (chars '/' slash) (by decide), fun dot => absurd (chars '.' dot) (by decide)⟩

theorem uniqueName_nonempty {taken : List String} {base : String} (nonempty : base ≠ "") :
    uniqueName taken base ≠ "" := by
  unfold uniqueName
  split
  · exact nonempty
  · have candidate : ∃ number, firstFree (numbered base) taken taken.length 2 = numbered base number :=
      firstFree_candidate
    obtain ⟨number, found⟩ := candidate
    rw [found]
    intro empty
    have chars := congrArg String.toList empty
    rw [numbered, String.toList_append, String.toList_append] at chars
    simp at chars

theorem createSlug_nonempty : createSlug lower departments tenant form ≠ "" := by
  apply uniqueName_nonempty
  split
  · decide
  · assumption

theorem createRow_slugged (slugged : Slugged state.departments)
    (made : createRow lower state tenant form configured directory = .ok (created, dept)) :
    Slugged created.departments := by
  obtain ⟨make, keyed, inserted, rfl, _, owned, named, _⟩ := createRow_spec made
  rw [inserted]
  have fresh : ∀ other ∈ state.departments.rows, other.tenantId = tenant →
      other.slug ≠ (make state.departments.fresh).slug := by
    intro other member same
    rw [named]
    exact Docs.Writers.createSlug_fresh member same
  constructor
  · intro dept member
    rcases Table.mem_insert.mp member with old | rfl
    · exact slugged.plain dept old
    · rw [named]
      have chars := slugChar_plain (@Docs.Writers.createSlug_chars state.departments form tenant lower)
      exact ⟨chars.1, chars.2, createSlug_nonempty⟩
  · intro first firstMember second secondMember sameTenant sameSlug
    rcases Table.mem_insert.mp firstMember with firstOld | rfl
    · rcases Table.mem_insert.mp secondMember with secondOld | rfl
      · exact slugged.apart first firstOld second secondOld sameTenant sameSlug
      · exact absurd sameSlug (fresh first firstOld (sameTenant.trans owned))
    · rcases Table.mem_insert.mp secondMember with secondOld | rfl
      · exact absurd sameSlug.symm (fresh second secondOld (sameTenant.symm.trans owned))
      · rfl

theorem perform_slugged (slugged : Slugged state.departments) :
    Slugged (perform lower state call).departments := by
  cases call with
  | create tid form configured directory =>
      obtain same | ⟨created, dept, made, after, rfl, saved | saved⟩ :=
        @orgCreate_cases state directory form configured tid lower
      · rw [perform, same]
        exact slugged
      · rw [perform, saved]
        exact (createRow_slugged slugged made).same Docs.Writers.syncDepartment_slugs
      · rw [perform, saved]
        exact (createRow_slugged slugged made).same Docs.Writers.syncDepartment_slugs
  | update slug tid form directory => exact slugged.same Docs.Writers.orgUpdate_slugs
  | delete slug tid => exact slugged.same Docs.Writers.orgDelete_slugs
  | sync slug tid configured directory => exact slugged.same Docs.Writers.orgSync_slugs
  | syncDepartment id directory =>
      dsimp only [perform]
      split
      · exact slugged
      · exact slugged.same Docs.Writers.syncDepartment_slugs

theorem reachable_slugged (reached : (orgSystem lower).Reachable state) : Slugged state.departments := by
  have invariant : Slugged state.departments := by
    refine @Machine.Reachable.invariant _ _ _ _ (fun state => Slugged state.departments) reached ?_ ?_
    · intro start empty
      have rows : start.departments.rows = [] := congrArg Table.rows empty
      constructor
      · intro dept member
        rw [rows] at member
        cases member
      · intro dept member
        rw [rows] at member
        cases member
    · intro state call after stepped slugged
      cases stepped
      exact perform_slugged slugged
  exact invariant

end Slugs

section Pages

variable {departments : Table Department} {state : OrgState} {dept : Department} {viewer : Option Int}
  {lower : String → String} {slug : String}

theorem getDept_iff (member : dept ∈ departments.rows) (seen : inTenant viewer dept = true) :
    getDept departments dept.slug viewer = .ok (some dept) ↔
      ∀ other ∈ departments.rows, inTenant viewer other = true → other.slug = dept.slug → other = dept := by
  have listed : dept ∈ departments.rows.filter fun row => row.slug = dept.slug && inTenant viewer row :=
    List.mem_filter.mpr ⟨member, by simp [seen]⟩
  have distinct : departments.rows.Nodup := List.Nodup.of_map _ departments.unique
  have filtered := distinct.filter fun row => row.slug = dept.slug && inTenant viewer row
  have inside : ∀ other, other ∈ (departments.rows.filter fun row => row.slug = dept.slug && inTenant viewer row) ↔
      other ∈ departments.rows ∧ other.slug = dept.slug ∧ inTenant viewer other = true := by
    intro other
    simp [List.mem_filter]
  rw [getDept]
  generalize departments.rows.filter (fun row => row.slug = dept.slug && inTenant viewer row) = found at *
  match found, listed, filtered, inside with
  | [first], listed, _, inside =>
      obtain rfl := List.mem_singleton.mp listed
      simp only [true_iff]
      intro other present visible same
      exact List.mem_singleton.mp ((inside other).mpr ⟨present, same, visible⟩)
  | first :: second :: rest, listed, filtered, inside =>
      simp only [reduceCtorEq, false_iff]
      intro only
      obtain ⟨firstPresent, firstSlug, firstSeen⟩ := (inside first).mp List.mem_cons_self
      obtain ⟨secondPresent, secondSlug, secondSeen⟩ := (inside second).mp (by simp)
      have same : first = second :=
        (only first firstPresent firstSeen firstSlug).trans (only second secondPresent secondSeen secondSlug).symm
      exact (List.nodup_cons.mp filtered).1 (by simp [same])

theorem orgDetail_iff : orgDetail state slug viewer = .ok (dept, sortedMembers state dept.id) ↔
    getDept state.departments slug viewer = .ok (some dept) := by
  unfold orgDetail
  split
  next failure failed => simp [failed]
  next failed => simp [failed]
  next other found =>
    simp only [found, Except.ok.injEq, Prod.mk.injEq, Option.some.injEq]
    constructor
    · intro same
      exact same.1
    · rintro rfl
      exact ⟨rfl, rfl⟩

theorem dispatched_iff (slash : '/' ∉ slug.toList) (dot : '.' ∉ slug.toList) (nonempty : slug ≠ "") :
    dispatch .get ("/org/" ++ slug) = some (.orgDetail, some slug) ↔ slug ∉ ["configure", "new"] := by
  have tree : slug ≠ "tree.json" := by
    rintro rfl
    exact dot (by decide)
  rw [dispatch_slug slash nonempty, if_neg tree]
  by_cases configure : slug = "configure"
  · simp [configure]
  · by_cases new : slug = "new"
    · simp [new]
    · simp [configure, new]

/-- A page is reached unless its slug is a path that is declared earlier or, for a viewer
of all tenants, the slug of another department. The search of people is never reached. -/
theorem pages_reached_iff (reached : (orgSystem lower).Reachable state) (member : dept ∈ state.departments.rows)
    (seen : inTenant viewer dept = true) :
    (PageReached state viewer dept ↔ dept.slug ∉ ["configure", "new"] ∧
      (viewer = none → ∀ other ∈ state.departments.rows, other.slug = dept.slug → other = dept)) ∧
    dispatch .get "/org/people" ≠ some (.orgPeople, none) := by
  have slugged := reachable_slugged reached
  obtain ⟨slash, dot, nonempty⟩ := slugged.plain dept member
  constructor
  · rw [PageReached, orgDetail_iff, getDept_iff member seen, dispatched_iff slash dot nonempty]
    apply and_congr_right
    intro _
    constructor
    · rintro only rfl other present same
      exact only other present rfl same
    · intro all other present visible same
      cases viewer with
      | none => exact all rfl other present same
      | some tenant =>
          have tenants : other.tenantId = dept.tenantId :=
            (of_decide_eq_true visible).trans (of_decide_eq_true seen).symm
          exact Table.eq_of_key present member (slugged.apart other present dept member tenants same)
  · rw [dispatch_people]
    decide

end Pages

def firstCreated (name : String) : OrgState :=
  perform Python.lower noDepartments (.create 1 (deptForm name "ann") true (answering []))

theorem firstCreated_reachable (name : String) : (orgSystem Python.lower).Reachable (firstCreated name) :=
  ⟨noDepartments, [.create 1 (deptForm name "ann") true (answering [])], rfl, rfl⟩

theorem support_page_reached : ∃ dept ∈ (firstCreated "Support").departments.rows,
    dept.slug = "support" ∧ PageReached (firstCreated "Support") (some 1) dept := by
  have rows : (firstCreated "Support").departments.rows.map (fun dept => (dept.slug, dept.tenantId)) =
      [("support", 1)] := by decide
  obtain ⟨dept, member, named⟩ := List.mem_map.mp (by rw [rows]; exact List.mem_singleton.mpr rfl)
  have slug : dept.slug = "support" := congrArg Prod.fst named
  have seen : inTenant (some 1) dept = true := decide_eq_true (congrArg Prod.snd named)
  refine ⟨dept, member, slug, (pages_reached_iff (firstCreated_reachable "Support") member seen).1.mpr ⟨?_, nofun⟩⟩
  rw [slug]
  decide

/-- The page of a department with the name New is the form of a new department. -/
theorem new_page_hidden : ∃ dept, dept ∈ (firstCreated "New").departments.rows ∧
    dispatch .get ("/org/" ++ dept.slug) = some (.orgNew, none) ∧ ¬ PageReached (firstCreated "New") (some 1) dept ∧
    dispatch .get "/org/people" = some (.orgDetail, some "people") := by
  have rows : (firstCreated "New").departments.rows.map Department.slug = ["new"] := by decide
  obtain ⟨dept, member, slug⟩ := List.mem_map.mp (by rw [rows]; exact List.mem_singleton.mpr rfl)
  have dispatched : dispatch .get ("/org/" ++ dept.slug) = some (.orgNew, none) := by
    rw [slug, dispatch_slug (by decide) (by decide)]
    decide
  refine ⟨dept, member, dispatched, ?_, dispatch_people⟩
  intro reached
  cases dispatched.symm.trans reached.1

end Dosm.Org
