import Dosm.Confluence.Reconcile
import Dosm.Docs.Paths
import Dosm.Org.Hierarchy

namespace Dosm.Docs.Writers

open Python Transition Docs.Store Docs.Vault Org Confluence

/-! The writers of the shared docs tree, over every history of all tenants.

A department writes its card under its slug, a listener its files below its own. The
slugs of departments are made unique within a tenant, those of listeners not at all;
the condition says that a new slug is not in use.
-/

structure Site where
  org : OrgState
  listeners : Table ListenerRow

inductive Writer where
  | department (id : Int)
  | listener (id : Int)
  deriving DecidableEq

inductive WriterCall where
  | org (call : OrgCall)
  | createListener (tid : Int) (form : ListenerForm) (credentialTenant : Int → Option Int)
  | toggleListener (id : Int) (tid : Option Int)
  | deleteListener (id : Int) (tid : Option Int)
  | syncListener (id : Int) (tools : Tools) (faults : Faults) (pages : List RemotePage) (files : Files)

/-- The two libraries that fold text to the characters of slugs. -/
structure Folding where
  lower : String → String
  asciiFold : String → String

/-- The listeners after a request; a refused one leaves them as they were. -/
def listenersAfter (folding : Folding) (listeners : Table ListenerRow) : WriterCall → Table ListenerRow
  | .org _ => listeners
  | .createListener tid form credentialTenant =>
      (confluenceCreate folding.asciiFold credentialTenant listeners tid form).toOption.getD listeners
  | .toggleListener id tid => (confluenceToggle listeners id tid).toOption.getD listeners
  | .deleteListener id tid => (confluenceDelete listeners id tid).toOption.getD listeners
  | .syncListener id tools faults pages files =>
      match (listeners.get id).bind (syncRow tools faults pages files) with
      | none => listeners
      | some after => listeners.modify id fun row => { row with rows := after.rows }

def performWriter (folding : Folding) (site : Site) (call : WriterCall) : Site where
  org := match call with
    | .org call => perform folding.lower site.org call
    | _ => site.org
  listeners := listenersAfter folding site.listeners call

def writerSystem (folding : Folding) : Machine Site WriterCall where
  initial site := site.org.departments = .empty ∧ site.listeners = .empty
  step site call := some (performWriter folding site call)

/-- The writer writes or deletes the path in one of its runs. -/
def Touches (site : Site) : Writer → String → Prop
  | .department id, path => ∃ dept, site.org.departments.get id = some dept ∧
      normalizeRel (docPath dept) = .ok path
  | .listener id, path => ∃ row tools faults pages files, site.listeners.get id = some row ∧
      (.write path ∈ syncCalls tools faults pages files row ∨ .delete path ∈ syncCalls tools faults pages files row)

def Separate (site : Site) : Prop :=
  ∀ path first second, Touches site first path → Touches site second path → first = second

def FreshSlug (folding : Folding) (site : Site) : WriterCall → Prop
  | .org (.create tid form configured directory) => ∀ made,
      createRow folding.lower site.org tid form configured directory = .ok made →
      ∀ other ∈ site.org.departments.rows, other.tenantId ≠ tid →
        other.slug ≠ createSlug folding.lower site.org.departments tid form
  | .createListener tid form credentialTenant => ∀ after,
      confluenceCreate folding.asciiFold credentialTenant site.listeners tid form = .ok after →
      ∀ other ∈ site.listeners.rows, other.slug ≠ Vault.slugify folding.asciiFold (strip form.name)
  | _ => True

def Within (ns path : String) : Prop := ∃ more, components path = "confluence" :: ns :: more

section Runs

variable {tools : Tools} {listener : Listener} {faults : Faults} {pages : List RemotePage} {ns path rel : String}
  {state after : SyncState} {item : Item} {existing : Rows} {listed : List Item} {key : Key} {row : SyncRow}
  {raises : Bool}

structure Inside (ns : String) (state : SyncState) : Prop where
  rows : ∀ key row, state.rows.lookup key = some row → Within ns row.relPath
  written : ∀ rel, .write rel ∈ state.calls → Within ns rel
  deleted : ∀ rel, .delete rel ∈ state.calls → Within ns rel

theorem clean_confluence : Clean "confluence" := ⟨by decide, List.all_iff_forall_prop.mp (by decide)⟩

theorem within_of_normal (rest : String) (clean : Clean ns)
    (valid : normalizeRel ("confluence" ++ "/" ++ (ns ++ "/" ++ rest)) = .ok path) : Within ns path := by
  refine ⟨tailParts rest, ?_⟩
  rw [normalizeRel_components valid, headParts_slash clean_confluence, tailParts_slash clean]

theorem items_within (clean : Clean listener.slug) (member : item ∈ items tools listener faults pages)
    (valid : item.rel = .ok path) : Within listener.slug path := by
  obtain ⟨page, -, ⟨-, rfl⟩ | ⟨-, att, -, rfl⟩⟩ := items_mem.mp member
  · refine within_of_normal (Vault.slugify tools.asciiFold page.title ++ "-" ++ page.id ++ ".md") clean ?_
    rw [← valid]
    have folder : "confluence/" = "confluence" ++ "/" := by decide
    simp only [pageItem, pageRel, folder, String.append_assoc]
  · refine within_of_normal ("attachments/" ++ att.id ++ "-" ++ att.filename) clean ?_
    rw [← valid]
    have folder : "confluence/" = "confluence" ++ "/" := by decide
    have attachments : "/attachments/" = "/" ++ "attachments/" := by decide
    simp only [attachmentItem, attachmentRel, folder, attachments, String.append_assoc]

theorem safeDelete_inside (inside : Inside ns state) (within : Within ns rel) :
    Inside ns (safeDelete state rel raises) := by
  unfold safeDelete
  split
  · exact inside
  · refine ⟨inside.rows, fun path called => ?_, fun path called => ?_⟩
    · rcases List.mem_append.mp called with before | now
      · exact inside.written path before
      · cases List.mem_singleton.mp now
    · rcases List.mem_append.mp called with before | now
      · exact inside.deleted path before
      · cases List.mem_singleton.mp now
        exact within

theorem dropFormer_inside (inside : Inside ns state) : Inside ns (dropFormer faults state item rel) := by
  unfold dropFormer dropOld
  split
  next row found =>
    split
    · exact safeDelete_inside inside (inside.rows item.key row found)
    · exact inside
  · exact inside

theorem writeItem_inside (inside : Inside ns state) (within : Within ns rel) :
    Inside ns (writeItem state item rel) := by
  refine ⟨fun key row found => ?_, fun path called => ?_, fun path called => ?_⟩
  · by_cases same : key = item.key
    · rw [same, writeItem_row] at found
      cases found
      exact within
    · have before : state.rows.lookup key = some row := (AList.lookup_insert_ne same).symm.trans found
      exact inside.rows key row before
  · rcases List.mem_append.mp called with before | now
    · exact inside.written path before
    · cases List.mem_singleton.mp now
      exact within
  · rcases List.mem_append.mp called with before | now
    · exact inside.deleted path before
    · cases List.mem_singleton.mp now

theorem syncItem_inside (inside : Inside ns state) (within : Within ns rel) :
    Inside ns (syncItem faults state item rel) := by
  rw [syncItem_eq]
  split
  · exact inside
  split
  · exact dropFormer_inside inside
  · exact writeItem_inside (dropFormer_inside inside) within

theorem erase_inside (inside : Inside ns state) : Inside ns { state with rows := state.rows.erase key } := by
  refine ⟨fun other kept found => ?_, inside.written, inside.deleted⟩
  by_cases same : other = key
  · rw [same, AList.lookup_erase] at found
    cases found
  · rw [AList.lookup_erase_ne same] at found
    exact inside.rows other kept found

theorem forgetItem_inside (inside : Inside ns state) (within : Within ns row.relPath) :
    Inside ns (forgetItem faults state key row) := by
  have deleted : Inside ns (safeDelete state row.relPath (faults.deleteGone key)) := safeDelete_inside inside within
  refine ⟨fun other kept found => ?_, deleted.written, deleted.deleted⟩
  rw [forgetItem_rows] at found
  exact (erase_inside inside).rows other kept found

theorem syncItems_inside (within : ∀ item ∈ listed, ∀ rel, item.rel = .ok rel → Within ns rel)
    (inside : Inside ns state) (ran : syncItems existing faults state listed = some after) : Inside ns after := by
  induction listed generalizing state with
  | nil =>
      cases ran
      exact inside
  | cons item rest ih =>
      cases valid : item.rel with
      | error reason => simp [syncItems, valid] at ran
      | ok rel =>
          rw [syncItems, valid] at ran
          dsimp only at ran
          split at ran
          · cases ran
          · have first := within item List.mem_cons_self rel valid
            exact ih (fun later member => within later (List.mem_cons_of_mem item member))
              (syncItem_inside inside first) ran

theorem itemsReached_inside (within : ∀ item ∈ listed, ∀ rel, item.rel = .ok rel → Within ns rel)
    (inside : Inside ns state) : Inside ns (itemsReached existing faults state listed) := by
  induction listed generalizing state with
  | nil => exact inside
  | cons item rest ih =>
      cases valid : item.rel with
      | error reason =>
          rw [itemsReached, valid]
          exact inside
      | ok rel =>
          rw [itemsReached, valid]
          have first := within item List.mem_cons_self rel valid
          apply ih (fun later member => within later (List.mem_cons_of_mem item member))
          apply syncItem_inside _ first
          split
          · exact erase_inside inside
          · exact inside

theorem mirrorDelete_inside {seen : List Key} {entries : List (Sigma fun _ : Key => SyncRow)}
    (within : ∀ entry ∈ entries, Within ns entry.2.relPath) (inside : Inside ns state) :
    Inside ns (mirrorDelete faults seen state entries) := by
  induction entries generalizing state with
  | nil => exact inside
  | cons entry rest ih =>
      refine ih (fun later member => within later (List.mem_cons_of_mem entry member)) ?_
      split
      · exact inside
      · exact forgetItem_inside inside (within entry List.mem_cons_self)

theorem syncListener_inside (clean : Clean listener.slug) (inside : Inside listener.slug state)
    (ran : syncListener tools listener faults pages state = some after) : Inside listener.slug after := by
  obtain ⟨mid, treated, rfl⟩ := Option.map_eq_some_iff.mp ran
  refine mirrorDelete_inside (fun entry member => inside.rows entry.1 entry.2 (entries_lookup member)) ?_
  exact syncItems_inside (fun item member rel valid => items_within clean member valid) inside treated

theorem syncRow_inside {row : ListenerRow} {files : Files} (clean : Clean row.slug)
    (inside : Inside row.slug { rows := row.rows, files := files })
    (ran : syncRow tools faults pages files row = some after) : Inside row.slug after :=
  syncListener_inside clean inside ran

theorem syncCalls_within {row : ListenerRow} {files : Files} (clean : Clean row.slug)
    (rows : ∀ key item, row.rows.lookup key = some item → Within row.slug item.relPath)
    (called : .write path ∈ syncCalls tools faults pages files row ∨
      .delete path ∈ syncCalls tools faults pages files row) : Within row.slug path := by
  have start : Inside row.slug { rows := row.rows, files := files } := ⟨rows, nofun, nofun⟩
  have within : ∀ item ∈ items tools (listenerOf row) faults pages, ∀ rel, item.rel = .ok rel →
      Within row.slug rel := fun item member rel valid => items_within clean member valid
  have inside : ∃ state : SyncState, Inside row.slug state ∧ syncCalls tools faults pages files row = state.calls := by
    unfold syncCalls
    cases ran : syncRow tools faults pages files row with
    | some after => exact ⟨after, syncRow_inside clean start ran, rfl⟩
    | none =>
        have reached : Inside row.slug (itemsReached row.rows faults { rows := row.rows, files := files }
            (items tools (listenerOf row) faults pages)) := itemsReached_inside within start
        dsimp only
        split
        · exact ⟨_, mirrorDelete_inside (fun entry member => rows entry.1 entry.2 (entries_lookup member)) reached, rfl⟩
        · exact ⟨_, reached, rfl⟩
  obtain ⟨state, all, same⟩ := inside
  rw [same] at called
  exact called.elim (all.written path) (all.deleted path)

end Runs

def SameSlugs (before after : Table Department) : Prop :=
  ∀ dept ∈ after.rows, ∃ old ∈ before.rows, old.id = dept.id ∧ old.tenantId = dept.tenantId ∧ old.slug = dept.slug

section Departments

variable {departments before later : Table Department} {state created after : OrgState} {dept : Department}
  {directory : Directory} {form : DeptForm} {configured : Bool} {tid : Option Int} {tenant id : Int} {slug : String}
  {lower : String → String}

theorem SameSlugs.refl : SameSlugs before before := fun dept member => ⟨dept, member, rfl, rfl, rfl⟩

theorem sameSlugs_modify (change : Department → Department) (keeps : ∀ row, key (change row) = key row)
    (tenants : ∀ row, (change row).tenantId = row.tenantId)
    (slugs : ∀ row ∈ departments.rows, row.id = id → (change row).slug = row.slug) :
    SameSlugs departments (departments.modify id change keeps) := by
  intro row member
  obtain ⟨old, oldMember, rfl⟩ := Table.mem_modify.mp member
  split
  next changed => exact ⟨old, oldMember, (keeps old).symm, (tenants old).symm, (slugs old oldMember changed).symm⟩
  · exact ⟨old, oldMember, rfl, rfl, rfl⟩

theorem syncDepartment_slugs : SameSlugs state.departments (Org.syncDepartment directory state dept).1.departments := by
  obtain same | ⟨error, failed⟩ | ⟨_, _, result, -, -, -, synced⟩ := @syncDepartment_cases state dept directory
  · rw [same]
    exact .refl
  · rw [failed]
    exact sameSlugs_modify (failedDept error) (fun _ => rfl) (fun _ => rfl) fun _ _ _ => rfl
  · rw [synced]
    exact sameSlugs_modify (syncedDept result _) (fun _ => rfl) (fun _ => rfl) fun _ _ _ => rfl

theorem orgSync_slugs : SameSlugs state.departments (orgSync state slug tid configured directory).1.departments := by
  obtain same | ⟨dept, found, after, rfl, saved | saved⟩ := @orgSync_cases state slug directory configured tid
  · rw [same]
    exact .refl
  all_goals
    rw [saved]
    exact syncDepartment_slugs

theorem orgUpdate_slugs : SameSlugs state.departments (orgUpdate state slug tid form directory).1.departments := by
  obtain same | ⟨dept, bound, found, kept, after, changed, -, saved⟩ :=
    @orgUpdate_cases state slug directory form tid
  · rw [same]
    exact .refl
  · rw [saved, syncDoc, changed]
    refine sameSlugs_modify (savedDept form bound) (fun _ => rfl) (fun _ => rfl) fun row member rowId => ?_
    have isDept : row = dept := Table.eq_of_key member (getDept_mem found).1 rowId
    have sameSlug : bound.slug = dept.slug := (rebound_keeps kept).1
    rw [isDept]
    exact sameSlug

theorem orgDelete_slugs : SameSlugs state.departments (orgDelete state slug tid).1.departments := by
  obtain same | ⟨dept, found, deleted, -⟩ := @orgDelete_cases state slug tid
  · rw [same]
    exact .refl
  · rw [deleted]
    intro row member
    obtain ⟨old, listed, rfl⟩ := Table.mem_map.mp member
    exact ⟨old, (Table.mem_remove.mp listed).1, rfl, rfl, rfl⟩

theorem createSlug_fresh (member : dept ∈ departments.rows) (owned : dept.tenantId = tenant) :
    dept.slug ≠ createSlug lower departments tenant form := by
  intro same
  have taken : dept.slug ∈ (departments.rows.filter (inTenant (some tenant))).map Department.slug := by
    refine List.mem_map_of_mem (List.mem_filter.mpr ⟨member, ?_⟩)
    simpa [inTenant] using owned
  rw [same] at taken
  exact uniqueName_not_mem taken

theorem uniqueName_chars {taken : List String} {base : String} (chars : ∀ char ∈ base.toList, SlugChar char) :
    ∀ char ∈ (uniqueName taken base).toList, SlugChar char := by
  unfold uniqueName
  split
  · exact chars
  · have candidate : ∃ number, firstFree (numbered base) taken taken.length 2 = numbered base number :=
      firstFree_candidate
    obtain ⟨number, found⟩ := candidate
    rw [found]
    intro char member
    rw [numbered, String.toList_append, String.toList_append, List.mem_append, List.mem_append] at member
    rcases member with (inside | dash) | digits
    · exact chars char inside
    · have dashes : ∀ char ∈ "-".toList, SlugChar char := List.all_iff_forall_prop.mp (by decide)
      exact dashes char dash
    · exact slugChar_toString digits

theorem createSlug_chars : ∀ char ∈ (createSlug lower departments tenant form).toList, SlugChar char := by
  refine uniqueName_chars ?_
  split
  · exact List.all_iff_forall_prop.mp (by decide)
  · exact fun char member => slugChar_slug member

structure DeptsApart (departments : Table Department) : Prop where
  chars : ∀ dept ∈ departments.rows, ∀ char ∈ dept.slug.toList, SlugChar char
  distinct : departments.Distinct Department.slug

theorem DeptsApart.same (apart : DeptsApart before) (slugs : SameSlugs before later) : DeptsApart later := by
  refine ⟨fun dept member => ?_, apart.distinct.of_origin fun dept member => ?_⟩
  · obtain ⟨old, listed, -, -, sameSlug⟩ := slugs dept member
    rw [← sameSlug]
    exact apart.chars old listed
  · obtain ⟨old, listed, sameId, -, sameSlug⟩ := slugs dept member
    exact ⟨old, listed, sameId, sameSlug⟩

theorem DeptsApart.insert (make : Int → Department) (keyed : ∀ id, key (make id) = id) (apart : DeptsApart departments)
    (chars : ∀ char ∈ (make departments.fresh).slug.toList, SlugChar char)
    (free : ∀ other ∈ departments.rows, other.slug ≠ (make departments.fresh).slug) :
    DeptsApart (departments.insert make keyed) := by
  refine ⟨fun dept member => ?_, Table.distinct_insert make keyed apart.distinct free⟩
  rcases Table.mem_insert.mp member with before | rfl
  · exact apart.chars dept before
  · exact chars

theorem createRow_apart (apart : DeptsApart state.departments)
    (made : createRow lower state tenant form configured directory = .ok (created, dept))
    (fresh : ∀ other ∈ state.departments.rows, other.tenantId ≠ tenant →
      other.slug ≠ createSlug lower state.departments tenant form) : DeptsApart created.departments := by
  obtain ⟨make, keyed, inserted, rfl, -, -, named, -⟩ := createRow_spec made
  rw [inserted]
  refine apart.insert make keyed ?_ fun other member => ?_
  · rw [named]
    exact createSlug_chars
  · rw [named]
    by_cases owned : other.tenantId = tenant
    · exact createSlug_fresh member owned
    · exact fresh other member owned

theorem perform_apart {call : OrgCall} (apart : DeptsApart state.departments)
    (fresh : ∀ tid form configured directory, call = .create tid form configured directory →
      ∀ made, createRow lower state tid form configured directory = .ok made →
      ∀ other ∈ state.departments.rows, other.tenantId ≠ tid →
        other.slug ≠ createSlug lower state.departments tid form) :
    DeptsApart (perform lower state call).departments := by
  cases call with
  | create tid form configured directory =>
      obtain same | ⟨created, dept, made, after, rfl, saved | saved⟩ :=
        @orgCreate_cases state directory form configured tid lower
      · rw [perform, same]
        exact apart
      all_goals
        rw [perform, saved]
        have first : DeptsApart created.departments :=
          createRow_apart apart made (fresh tid form configured directory rfl (created, dept) made)
        exact first.same syncDepartment_slugs
  | update slug tid form directory => exact apart.same orgUpdate_slugs
  | delete slug tid => exact apart.same orgDelete_slugs
  | sync slug tid configured directory => exact apart.same orgSync_slugs
  | syncDepartment id directory =>
      dsimp only [perform]
      split
      · exact apart
      · exact apart.same syncDepartment_slugs

def callPath : DocCall → String
  | .write rel _ => rel
  | .delete rel => rel

def NamesCards (state after : OrgState) : Prop :=
  ∃ made, after.calls = state.calls ++ made ∧ ∀ call ∈ made, ∃ dept,
    (dept ∈ state.departments.rows ∨ dept ∈ after.departments.rows) ∧ callPath call = docPath dept

theorem namesCards_none (same : after.calls = state.calls) : NamesCards state after :=
  ⟨[], same.trans (List.append_nil _).symm, nofun⟩

theorem namesCards_one {call : DocCall} (added : after.calls = state.calls ++ [call])
    (member : dept ∈ state.departments.rows ∨ dept ∈ after.departments.rows) (path : callPath call = docPath dept) :
    NamesCards state after := by
  refine ⟨[call], added, fun other listed => ⟨dept, member, ?_⟩⟩
  rw [List.mem_singleton.mp listed]
  exact path

theorem refreshed_mem (found : state.departments.get dept.id = some dept) :
    refreshed (Org.syncDepartment directory state dept).1 dept ∈
      (Org.syncDepartment directory state dept).1.departments.rows := by
  have present : ∃ row, (Org.syncDepartment directory state dept).1.departments.get dept.id = some row := by
    obtain same | ⟨error, failed⟩ | ⟨_, _, result, -, -, -, synced⟩ := @syncDepartment_cases state dept directory
    · exact ⟨dept, same ▸ found⟩
    · exact ⟨failedDept error dept, failed ▸ Table.get_modify_of_eq rfl found⟩
    · exact ⟨syncedDept result _ dept, synced ▸ Table.get_modify_of_eq rfl found⟩
  obtain ⟨row, get⟩ := present
  rw [refreshed, get]
  exact (Table.get_eq_some_iff.mp get).1

theorem perform_namesCards {call : OrgCall} : NamesCards state (perform lower state call) := by
  cases call with
  | create tid form configured directory =>
      obtain same | ⟨created, dept, made, after, rfl, saved | saved⟩ :=
        @orgCreate_cases state directory form configured tid lower
      · exact namesCards_none (congrArg OrgState.calls same)
      all_goals
        obtain ⟨-, -, -, -, -, -, -, calls⟩ := createRow_spec made
        have synced : (Org.syncDepartment directory created dept).1.calls = state.calls :=
          syncDepartment_calls.trans calls
      · exact namesCards_none ((congrArg OrgState.calls saved).trans synced)
      · rw [perform, saved]
        exact namesCards_one (congrArg (· ++ [_]) synced) (.inr (refreshed_mem (createRow_get made))) rfl
  | update slug tid form directory =>
      obtain same | ⟨dept, bound, found, kept, after, -, calls, saved⟩ :=
        @orgUpdate_cases state slug directory form tid
      · exact namesCards_none (congrArg OrgState.calls same)
      · have sameSlug : bound.slug = dept.slug := (rebound_keeps kept).1
        have path : docPath (edited form bound) = docPath dept := by
          rw [docPath, docPath, ← sameSlug]
          rfl
        rw [perform, saved]
        exact namesCards_one (congrArg (· ++ [_]) calls) (.inl (getDept_mem found).1) path
  | delete slug tid =>
      obtain same | ⟨dept, found, -, calls⟩ := @orgDelete_cases state slug tid
      · exact namesCards_none (congrArg OrgState.calls same)
      · exact namesCards_one calls (.inl (getDept_mem found).1) rfl
  | sync slug tid configured directory =>
      obtain same | ⟨dept, found, after, rfl, saved | saved⟩ := @orgSync_cases state slug directory configured tid
      · exact namesCards_none (congrArg OrgState.calls same)
      · exact namesCards_none ((congrArg OrgState.calls saved).trans syncDepartment_calls)
      · rw [perform, saved]
        have get := Table.get_key (getDept_mem found).1
        exact namesCards_one (congrArg (· ++ [_]) syncDepartment_calls) (.inr (refreshed_mem get)) rfl
  | syncDepartment id directory =>
      dsimp only [perform]
      split
      · exact namesCards_none rfl
      · exact namesCards_none syncDepartment_calls

theorem docPath_components {path : String} (chars : ∀ char ∈ dept.slug.toList, SlugChar char)
    (valid : normalizeRel (docPath dept) = .ok path) : components path = ["org", dept.slug ++ ".md"] := by
  have org : Clean "org" := ⟨by decide, List.all_iff_forall_prop.mp (by decide)⟩
  have folder : docPath dept = "org" ++ "/" ++ (dept.slug ++ ".md") := by
    have named : "org/" = "org" ++ "/" := by decide
    rw [docPath, named, String.append_assoc]
  rw [normalizeRel_components valid, folder, headParts_slash org, tailParts_clean (clean_markdown chars)]

end Departments

section Listeners

variable {folding : Folding} {listeners : Table ListenerRow} {call : WriterCall} {site : Site}

structure ListenersApart (listeners : Table ListenerRow) : Prop where
  clean : ∀ row ∈ listeners.rows, Clean row.slug
  distinct : listeners.Distinct ListenerRow.slug
  within : ∀ row ∈ listeners.rows, ∀ key item, row.rows.lookup key = some item → Within row.slug item.relPath

theorem ListenersApart.insert (make : Int → ListenerRow) (keyed : ∀ id, key (make id) = id)
    (apart : ListenersApart listeners) (clean : Clean (make listeners.fresh).slug)
    (free : ∀ other ∈ listeners.rows, other.slug ≠ (make listeners.fresh).slug)
    (empty : (make listeners.fresh).rows = ∅) : ListenersApart (listeners.insert make keyed) := by
  refine ⟨fun row member => ?_, Table.distinct_insert make keyed apart.distinct free, fun row member => ?_⟩
  · rcases Table.mem_insert.mp member with before | rfl
    · exact apart.clean row before
    · exact clean
  · rcases Table.mem_insert.mp member with before | rfl
    · exact apart.within row before
    · intro key item found
      rw [empty] at found
      cases found

theorem confluenceCreate_apart {asciiFold : String → String} {credentialTenant : Int → Option Int} {tid : Int}
    {form : ListenerForm} {after : Table ListenerRow} (apart : ListenersApart listeners)
    (made : confluenceCreate asciiFold credentialTenant listeners tid form = .ok after)
    (free : ∀ other ∈ listeners.rows, other.slug ≠ Vault.slugify asciiFold (strip form.name)) :
    ListenersApart after := by
  unfold confluenceCreate at made
  split at made
  · cases made
  split at made
  · cases made
  split at made
  · cases made
  next credentialId _ =>
    split at made
    · cases made
    split at made
    · cases made
    · cases made
      refine apart.insert (newListener asciiFold tid form credentialId) (fun _ => rfl) ?_ ?_ rfl
      · dsimp only [newListener]
        exact clean_slugify
      · dsimp only [newListener]
        exact free

theorem ListenersApart.modify {id : Int} (change : ListenerRow → ListenerRow)
    (keeps : ∀ row, key (change row) = key row) (slugs : ∀ row, (change row).slug = row.slug)
    (apart : ListenersApart listeners)
    (within : ∀ row ∈ listeners.rows, row.id = id →
      ∀ key item, (change row).rows.lookup key = some item → Within row.slug item.relPath) :
    ListenersApart (listeners.modify id change keeps) := by
  have origin : ∀ row ∈ (listeners.modify id change keeps).rows, ∃ old ∈ listeners.rows,
      old.id = row.id ∧ old.slug = row.slug ∧
        ∀ key item, row.rows.lookup key = some item → Within row.slug item.relPath := by
    intro row member
    obtain ⟨old, listed, rfl⟩ := Table.mem_modify.mp member
    split
    next changed =>
      refine ⟨old, listed, (keeps old).symm, (slugs old).symm, fun key item found => ?_⟩
      rw [slugs old]
      exact within old listed changed key item found
    · exact ⟨old, listed, rfl, rfl, apart.within old listed⟩
  refine ⟨fun row member => ?_, apart.distinct.of_origin fun row member => ?_, fun row member => ?_⟩
  · obtain ⟨old, listed, -, sameSlug, -⟩ := origin row member
    rw [← sameSlug]
    exact apart.clean old listed
  · obtain ⟨old, listed, sameId, sameSlug, -⟩ := origin row member
    exact ⟨old, listed, sameId, sameSlug⟩
  · obtain ⟨-, -, -, -, rows⟩ := origin row member
    exact rows

theorem ListenersApart.remove {id : Int} (apart : ListenersApart listeners) :
    ListenersApart (listeners.remove id) where
  clean row member := apart.clean row (Table.mem_remove.mp member).1
  distinct := apart.distinct.of_origin fun row member => ⟨row, (Table.mem_remove.mp member).1, rfl, rfl⟩
  within row member := apart.within row (Table.mem_remove.mp member).1

theorem confluenceToggle_apart {id : Int} {tid : Option Int} (apart : ListenersApart listeners) :
    ListenersApart ((confluenceToggle listeners id tid).toOption.getD listeners) := by
  unfold confluenceToggle
  split
  · exact apart
  next row found =>
    exact apart.modify (fun row => { row with enabled := !row.enabled }) (fun _ => rfl) (fun _ => rfl)
      fun row member _ => apart.within row member

theorem confluenceDelete_apart {id : Int} {tid : Option Int} (apart : ListenersApart listeners) :
    ListenersApart ((confluenceDelete listeners id tid).toOption.getD listeners) := by
  unfold confluenceDelete
  split
  · exact apart
  · exact apart.remove

theorem listenersAfter_apart (apart : ListenersApart site.listeners) (fresh : FreshSlug folding site call) :
    ListenersApart (listenersAfter folding site.listeners call) := by
  cases call with
  | org call => exact apart
  | createListener tid form credentialTenant =>
      cases made : confluenceCreate folding.asciiFold credentialTenant site.listeners tid form with
      | error failure =>
          rw [listenersAfter, made]
          exact apart
      | ok after =>
          rw [listenersAfter, made]
          exact confluenceCreate_apart apart made (fresh after made)
  | toggleListener id tid => exact confluenceToggle_apart apart
  | deleteListener id tid => exact confluenceDelete_apart apart
  | syncListener id tools faults pages files =>
      cases ran : (site.listeners.get id).bind (syncRow tools faults pages files) with
      | none =>
          simp only [listenersAfter, ran]
          exact apart
      | some after =>
          simp only [listenersAfter, ran]
          obtain ⟨row, found, synced⟩ := Option.bind_eq_some_iff.mp ran
          obtain ⟨member, same⟩ := Table.get_eq_some_iff.mp found
          have start : Inside row.slug { rows := row.rows, files := files } :=
            ⟨apart.within row member, by simp, by simp⟩
          have inside : Inside row.slug after := syncRow_inside (apart.clean row member) start synced
          refine apart.modify (fun row => { row with rows := after.rows }) (fun _ => rfl) (fun _ => rfl)
            fun other listed changed => ?_
          have isRow : other = row := Table.eq_of_key listed member (changed.trans same.symm)
          rw [isRow]
          exact inside.rows

end Listeners

structure Apart (site : Site) : Prop where
  departments : DeptsApart site.org.departments
  listeners : ListenersApart site.listeners

section Separation

variable {folding : Folding} {site : Site} {call : WriterCall} {id : Int} {path : String}

theorem performWriter_apart (apart : Apart site) (fresh : FreshSlug folding site call) :
    Apart (performWriter folding site call) where
  departments := by
    cases call with
    | org call =>
        refine perform_apart apart.departments ?_
        rintro tid form configured directory rfl
        exact fresh
    | _ => exact apart.departments
  listeners := listenersAfter_apart apart.listeners fresh

def Writer.names (site : Site) : Writer → List String → Prop
  | .department id, parts => ∃ dept, site.org.departments.get id = some dept ∧ parts = ["org", dept.slug ++ ".md"]
  | .listener id, parts => ∃ row more, site.listeners.get id = some row ∧ parts = "confluence" :: row.slug :: more

theorem touches_names {writer : Writer} (apart : Apart site) (touches : Touches site writer path) :
    writer.names site (components path) := by
  cases writer with
  | department id =>
      obtain ⟨dept, found, valid⟩ := touches
      have member := (Table.get_eq_some_iff.mp found).1
      exact ⟨dept, found, docPath_components (apart.departments.chars dept member) valid⟩
  | listener id =>
      obtain ⟨row, tools, faults, pages, files, found, called⟩ := touches
      have member := (Table.get_eq_some_iff.mp found).1
      obtain ⟨more, parts⟩ :=
        syncCalls_within (apart.listeners.clean row member) (apart.listeners.within row member) called
      exact ⟨row, more, found, parts⟩

theorem names_unique {first second : Writer} {parts : List String} (apart : Apart site)
    (firstNames : first.names site parts) (secondNames : second.names site parts) : first = second := by
  cases first with
  | department firstId =>
      obtain ⟨firstDept, firstFound, rfl⟩ := firstNames
      cases second with
      | department secondId =>
          obtain ⟨secondDept, secondFound, same⟩ := secondNames
          obtain ⟨firstMember, firstKey⟩ := Table.get_eq_some_iff.mp firstFound
          obtain ⟨secondMember, secondKey⟩ := Table.get_eq_some_iff.mp secondFound
          have files : firstDept.slug ++ ".md" = secondDept.slug ++ ".md" := by
            simpa only [List.cons.injEq, true_and, and_true] using same
          have slugs : firstDept.slug = secondDept.slug := by
            have chars := congrArg String.toList files
            rw [String.toList_append, String.toList_append] at chars
            exact String.toList_injective (List.append_cancel_right chars)
          have ids := apart.departments.distinct firstDept firstMember secondDept secondMember slugs
          rw [← firstKey, ← secondKey, ids]
      | listener secondId =>
          obtain ⟨row, more, -, same⟩ := secondNames
          simp at same
  | listener firstId =>
      obtain ⟨firstRow, firstMore, firstFound, rfl⟩ := firstNames
      cases second with
      | department secondId =>
          obtain ⟨dept, -, same⟩ := secondNames
          simp at same
      | listener secondId =>
          obtain ⟨secondRow, secondMore, secondFound, same⟩ := secondNames
          obtain ⟨firstMember, firstKey⟩ := Table.get_eq_some_iff.mp firstFound
          obtain ⟨secondMember, secondKey⟩ := Table.get_eq_some_iff.mp secondFound
          have slugs : firstRow.slug = secondRow.slug := by
            simp only [List.cons.injEq, true_and] at same
            exact same.1
          have ids := apart.listeners.distinct firstRow firstMember secondRow secondMember slugs
          rw [← firstKey, ← secondKey, ids]

theorem separate_of_apart (apart : Apart site) : Separate site :=
  fun _ _ _ first second => names_unique apart (touches_names apart first) (touches_names apart second)

end Separation

theorem apart_empty {site : Site} (departments : site.org.departments = .empty) (listeners : site.listeners = .empty) :
    Apart site := by
  have noDept : ∀ dept, dept ∉ site.org.departments.rows := by
    rw [departments]
    exact fun _ => List.not_mem_nil
  have noListener : ∀ row, row ∉ site.listeners.rows := by
    rw [listeners]
    exact fun _ => List.not_mem_nil
  refine ⟨⟨fun dept member => ?_, fun dept member => ?_⟩,
    ⟨fun row member => ?_, fun row member => ?_, fun row member => ?_⟩⟩
  · exact absurd member (noDept dept)
  · exact absurd member (noDept dept)
  · exact absurd member (noListener row)
  · exact absurd member (noListener row)
  · exact absurd member (noListener row)

theorem fresh_slugs_keep_writers_apart (folding : Folding) (site : Site)
    (reached : (writerSystem folding).ReachableUnder (FreshSlug folding) site) : Separate site := by
  refine separate_of_apart (reached.invariant (fun start begins => ?_) fun start call after fresh stepped apart => ?_)
  · exact apart_empty begins.1 begins.2
  · cases stepped
    exact performWriter_apart apart fresh

def asciiFolding : Folding := ⟨Python.lower, id⟩

def noWriters : Site := ⟨noDepartments, .empty⟩

def listenerForm (name spaceKey : String) : ListenerForm :=
  ⟨name, "cloud", "https://wiki.example", spaceKey, "1", true, true⟩

def createTeamDocs : WriterCall := .createListener 1 (listenerForm "Team Docs" "ENG") fun _ => some 1

def supportAndDocs : List WriterCall :=
  [.org createSupport, createTeamDocs, .org (.create 2 (deptForm "Sales" "eve") true (answering []))]

theorem supportAndDocs_fresh : (writerSystem asciiFolding).Meets (FreshSlug asciiFolding) noWriters supportAndDocs := by
  refine ⟨fun _ _ => ?_, ?_⟩
  · decide
  rintro _ ⟨⟩
  refine ⟨fun _ _ => ?_, ?_⟩
  · decide
  rintro _ ⟨⟩
  refine ⟨fun _ _ => ?_, fun _ _ => trivial⟩
  decide

theorem support_and_docs_separate : ∃ site,
    (writerSystem asciiFolding).run noWriters supportAndDocs = some site ∧ Separate site := by
  refine ⟨_, rfl, fresh_slugs_keep_writers_apart asciiFolding _
    ⟨noWriters, supportAndDocs, ⟨rfl, rfl⟩, rfl, supportAndDocs_fresh⟩⟩

def sameFolder : List WriterCall :=
  [createTeamDocs, .createListener 1 (listenerForm "team docs" "OPS") fun _ => some 1]

def homeOf (row : ListenerRow) : List StoreCall :=
  syncCalls engTools {} [⟨"7", "Home", "1", "", []⟩] ∅ row

theorem listeners_share_folder : ∃ site,
    (writerSystem asciiFolding).run noWriters sameFolder = some site ∧ ¬ Separate site := by
  have facts : ((writerSystem asciiFolding).run noWriters sameFolder).map (fun site =>
      ((site.listeners.get 1).map homeOf, (site.listeners.get 2).map homeOf)) =
      some (some [.write "confluence/team-docs/home-7.md"], some [.write "confluence/team-docs/home-7.md"]) := by
    decide
  obtain ⟨site, completed, seen⟩ := Option.map_eq_some_iff.mp facts
  rw [Prod.mk.injEq] at seen
  refine ⟨site, completed, fun separate => ?_⟩
  have touches : ∀ id, (site.listeners.get id).map homeOf = some [.write "confluence/team-docs/home-7.md"] →
      Touches site (.listener id) "confluence/team-docs/home-7.md" := by
    intro id calls
    obtain ⟨row, found, written⟩ := Option.map_eq_some_iff.mp calls
    refine ⟨row, engTools, {}, [⟨"7", "Home", "1", "", []⟩], ∅, found, .inl ?_⟩
    have called : .write "confluence/team-docs/home-7.md" ∈ homeOf row := by
      rw [written]
      exact List.mem_singleton.mpr rfl
    exact called
  have same := separate _ _ _ (touches 1 seen.1) (touches 2 seen.2)
  cases same

end Dosm.Docs.Writers
