import Dosm.Docs.Folders
import Dosm.Docs.Incremental
import Dosm.Docs.LostReindex
import Dosm.Docs.PathAccess
import Dosm.Docs.Search
import Mathlib.Data.List.Find

namespace Dosm.Docs.Ownership

open Models Store Vault Folders Routes PathAccess Search Transition
open Indexer hiding Outcome Tools

/-! Whose a document is, over every history of folders, saves and index runs.

A save writes a file and no row. The row is the indexer's, and its tenant is the
Default one whoever saved the file; so that tenant reads and finds every indexed
document and no other tenant does. A run of the indexer is taken apart at its
transactions, and requests may come in between.
-/

/-- The libraries behind the routes and behind the indexer. -/
structure Libraries where
  routes : Routes.Tools
  indexer : Indexer.Tools

structure State where
  store : DocsStore
  db : IndexDb

inductive Label where
  | createFolder (caller : Web.Caller) (form : FolderForm)
  | deleteFolder (caller : Web.Caller) (slug : String)
  | request (clock : Clock) (caller : Routes.Caller) (path : String) (route : Route)
  | index (force : Bool) (around : Surroundings) (rel : String)
  | prune (onDisk : List String)

namespace State

def site (state : State) : Site where
  store := state.store
  documents := state.db.documents.rows
  folders := state.db.folders.rows

def indexed (state : State) : IndexedDocs where
  documents := state.db.documents
  chunks := state.db.chunks

end State

def step (libraries : Libraries) (state : State) : Label → State
  | .createFolder caller form =>
      { state with
        db := (foldersCreate libraries.routes.asciiFold state.db caller form).toOption.getD state.db }
  | .deleteFolder caller slug =>
      { state with db := (folderDelete state.db caller slug).toOption.getD state.db }
  | .request clock caller path route =>
      { state with store := (handle libraries.routes clock state.site caller path route).store }
  | .index force around rel =>
      { state with db := scanStep libraries.indexer around state.store force state.db rel }
  | .prune onDisk => { state with db := removeDeleted state.db onDisk }

def history (libraries : Libraries) : Machine State Label where
  initial state := state.db.documents.rows = []
  step state label := some (step libraries state label)

/-- The answers are those of the view over all tenants, with the tenant's folders in
the editor. -/
structure Sees (tools : Routes.Tools) (state : State) (tenant : Int) : Prop where
  view : ∀ userId username path raw,
    docsView tools state.site ⟨some tenant, userId, username⟩ path raw =
      docsView tools state.site ⟨none, userId, username⟩ path raw
  edit : ∀ userId username path,
    docsEdit tools state.site ⟨some tenant, userId, username⟩ path =
      docsEdit tools
        { state.site with folders := state.db.folders.rows.filter fun folder => folder.tenantId = tenant }
        ⟨none, userId, username⟩ path
  search : ∀ (Score : Type) (engine : Engine Score) query limit excludeOrg,
    search engine state.indexed query limit excludeOrg (some tenant) =
      search engine state.indexed query limit excludeOrg none

/-- The document is not found by its path, and a search has no hit. -/
structure Misses (tools : Routes.Tools) (state : State) (tenant : Int) (doc : Document) : Prop where
  view : ∀ userId username raw,
    Refused state.site
      (settle state.site (docsView tools state.site ⟨some tenant, userId, username⟩ doc.relPath raw))
  edit : ∀ userId username,
    Refused state.site
      (settle state.site (docsEdit tools state.site ⟨some tenant, userId, username⟩ doc.relPath))
  search : ∀ (Score : Type) (engine : Engine Score) query limit excludeOrg,
    search engine state.indexed query limit excludeOrg (some tenant) = []

section Requests

variable {tools : Routes.Tools} {clock : Clock} {site : Site} {caller : Routes.Caller} {path : String}
  {route : Route} {tenant userId : Int} {username : String}

def StaysPut (site : Site) (handler : Except Response Outcome) : Prop :=
  (settle site handler).store.backend = site.store.backend

theorem staysPut_bind {Value : Type} {operation : Except Response Value}
    {rest : Value → Except Response Outcome}
    (stays : ∀ value, operation = .ok value → StaysPut site (rest value)) :
    StaysPut site (operation >>= rest) := by
  cases operation with
  | error response => rfl
  | ok value => exact stays value rfl

theorem staysPut_ite {condition : Prop} [Decidable condition] {first second : Except Response Outcome}
    (firstStays : StaysPut site first) (secondStays : StaysPut site second) :
    StaysPut site (if condition then first else second) := by
  split
  · exact firstStays
  · exact secondStays

theorem staysPut_save {yaml : Yaml} {save : Save} {updatedAt : String} {now : Int}
    {answer : String × DocsStore → Outcome} (stores : ∀ written, (answer written).store = written.2) :
    StaysPut site (uncaught (saveDoc yaml site.store save updatedAt now) >>= fun written =>
      pure (answer written)) := by
  refine staysPut_bind fun written saved => ?_
  have wrote : saveDoc yaml site.store save updatedAt now = .ok (written.1, written.2) := by
    cases outcome : saveDoc yaml site.store save updatedAt now with
    | error cause =>
        rw [outcome] at saved
        cases saved
    | ok result =>
        rw [outcome] at saved
        cases saved
        rfl
  simp only [StaysPut, settle, pure, Except.pure, stores]
  exact (LostReindex.saveDoc_keeps wrote).1

theorem staysPut_view {raw : Bool} : StaysPut site (docsView tools site caller path raw) := by
  refine staysPut_bind fun rel _ => ?_
  cases site.store.readText rel with
  | error error => rfl
  | ok text => exact staysPut_ite rfl rfl

theorem staysPut_edit : StaysPut site (docsEdit tools site caller path) := by
  refine staysPut_bind fun rel _ => ?_
  refine staysPut_bind fun text _ => ?_
  exact staysPut_bind fun mtimeMs _ => rfl

theorem staysPut_docsSave {form : SaveForm} : StaysPut site (docsSave tools clock site caller path form) := by
  cases within : caller.tid with
  | none =>
      simp only [docsSave, within]
      rfl
  | some tenant =>
      simp only [docsSave, within]
      refine staysPut_ite ?existing ?new
      case existing =>
        refine staysPut_bind fun rel _ => ?_
        refine staysPut_ite ?unchecked ?checked
        case unchecked =>
          exact staysPut_ite rfl (staysPut_save fun _ => rfl)
        case checked =>
          refine staysPut_bind fun mtimeMs _ => ?_
          exact staysPut_ite rfl (staysPut_save fun _ => rfl)
      case new =>
        exact staysPut_bind fun docSlug _ => staysPut_save fun _ => rfl

theorem staysPut_delete : StaysPut site (docsDelete site caller path) := by
  refine staysPut_bind fun _ _ => ?_
  cases deleted : deleteDoc site.store path with
  | error error => cases error <;> rfl
  | ok after => exact (LostReindex.deleteDoc_keeps deleted).1

theorem handle_backend :
    (handle tools clock site caller path route).store.backend = site.store.backend := by
  cases route with
  | view raw => exact staysPut_view
  | edit => exact staysPut_edit
  | save form => exact staysPut_docsSave
  | delete => exact staysPut_delete

end Requests

section Rows

variable {tools : Indexer.Tools} {around : Surroundings} {store : DocsStore} {force : Bool}
  {db after : IndexDb} {folders : Table Folder} {embedder : Embedder} {rel content : String}
  {stat : FileStat} {found : Option Document} {decision : Plan} {doc : Document} {now : Int}
  {rows : List Row} {row : Row} {defaultTenant : Option Int} {fresh : Int}

theorem row_tenantId : (decision.row now doc).tenantId = doc.tenantId := by
  cases decision <;> rfl

theorem row_folderId (planned : plan tools folders embedder store rel force stat found = .ok decision) :
    (decision.row now doc).folderId = doc.folderId ∨
      ∃ slug, resolveFolder folders slug = .ok (decision.row now doc).folderId := by
  rcases plan_cases planned with ⟨isUnchanged, _⟩ | ⟨content, _, ⟨isTouch, _⟩ | fromContent⟩
  · subst isUnchanged
    exact .inl rfl
  · subst isTouch
    exact .inl rfl
  · right
    refine ⟨(frontmatterOf tools rel content).2, ?_⟩
    simp only [contentPlan] at fromContent
    split at fromContent
    · cases fromContent
    · rename_i resolved
      split at fromContent
      · cases fromContent
      · cases fromContent
        exact resolved
      · cases fromContent
        exact resolved

structure Filed (store : DocsStore) (folders : Table Folder) (defaultTenant : Option Int) (doc : Document) :
    Prop where
  tenant : defaultTenant = some doc.tenantId
  folder : ∀ id, doc.folderId = some id → ∃ folder, folders.get id = some folder
  path : ∃ rel, store.safeRel doc.relPath = .ok rel

theorem filed_plan (filed : Filed store folders defaultTenant doc)
    (planned : plan tools folders embedder store rel force stat found = .ok decision) :
    Filed store folders defaultTenant (decision.row now doc) where
  tenant := by rw [row_tenantId]; exact filed.tenant
  folder id named := by
    have filedAs : (decision.row now doc).folderId = doc.folderId ∨
        ∃ slug, resolveFolder folders slug = .ok (decision.row now doc).folderId := row_folderId planned
    rcases filedAs with kept | ⟨slug, resolved⟩
    · exact filed.folder id (kept.symm.trans named)
    · rw [named] at resolved
      obtain ⟨folder, present, _⟩ := Incremental.resolveFolder_member resolved
      exact ⟨folder, present⟩
  path := by rw [Plan.row_relPath]; exact filed.path

theorem filed_indexRows (filed : ∀ row ∈ rows, Filed store folders defaultTenant row.1)
    {after : List Row}
    (indexed : indexRows tools around store force folders defaultTenant fresh rel rows = .ok after) :
    ∀ row ∈ after, Filed store folders defaultTenant row.1 := by
  simp only [indexRows] at indexed
  cases statted : store.stat rel with
  | error error => simp [statted] at indexed
  | ok stat =>
      simp only [statted] at indexed
      cases only : scalarOneOrNone rows with
      | error raised => simp [only] at indexed
      | ok found =>
          simp only [only] at indexed
          cases planned : plan tools folders (around.embedder rel) store rel force stat
              (found.map (·.1)) with
          | error failure => simp [planned] at indexed
          | ok decision =>
              simp only [planned] at indexed
              cases found with
              | some old =>
                  cases indexed
                  intro row member
                  cases List.mem_singleton.mp member
                  exact filed_plan (filed old (by simp [scalarOneOrNone_some only])) planned
              | none =>
                  cases isDefault : defaultTenant with
                  | none => simp [isDefault] at indexed
                  | some tenant =>
                      simp only [isDefault] at indexed
                      cases indexed
                      intro row member
                      cases List.mem_singleton.mp member
                      have named : ∃ norm, store.safeRel rel = .ok norm := by
                        obtain ⟨content, file, _⟩ := fileAt_of_stat statted
                        simp only [DocsStore.fileAt] at file
                        split at file
                        · cases file
                        · exact ⟨_, ‹_›⟩
                      have blank : Filed store folders (some tenant)
                          { blankDocument tenant rel with id := fresh } := ⟨rfl, by simp [blankDocument], named⟩
                      exact filed_plan blank planned

end Rows

section Steps

variable {libraries : Libraries} {state : State} {label : Label} {doc : Document}

/-- Every row belongs to the Default tenant, lies in a folder that exists, if in any, and
has a path the vault accepts. -/
def Kept (state : State) : Prop :=
  ∀ doc ∈ state.db.documents.rows, Filed state.store state.db.folders state.db.defaultTenant doc

theorem kept_createFolder {caller : Web.Caller} {form : FolderForm} (kept : Kept state) :
    Kept (step libraries state (.createFolder caller form)) := by
  simp only [step, Kept]
  cases answered : foldersCreate libraries.routes.asciiFold state.db caller form with
  | error reply => exact kept
  | ok after =>
      obtain ⟨_, _, answered⟩ := Checks.bind_ok answered
      obtain ⟨tenant, _, answered⟩ := Checks.bind_ok answered
      obtain ⟨_, answered⟩ := Checks.guard_ok answered
      cases answered
      intro doc member
      refine ⟨(kept doc member).tenant, ?_, (kept doc member).path⟩
      intro id named
      obtain ⟨folder, present⟩ := (kept doc member).folder id named
      exact ⟨folder, @Table.get_insert_of_get _ _ _ _ _ _ (fun _ => rfl) present⟩

theorem kept_deleteFolder {caller : Web.Caller} {slug : String} (kept : Kept state) :
    Kept (step libraries state (.deleteFolder caller slug)) := by
  simp only [step, Kept]
  cases answered : folderDelete state.db caller slug with
  | error reply => exact kept
  | ok after =>
      obtain ⟨_, _, answered⟩ := Checks.bind_ok answered
      split at answered
      · cases answered
      · rename_i folder found
        cases answered
        intro doc member
        obtain ⟨old, oldMember, rfl⟩ := List.mem_map.mp member
        refine ⟨(kept old oldMember).tenant, ?_, (kept old oldMember).path⟩
        intro id named
        obtain ⟨named, other⟩ := Option.filter_eq_some_iff.mp named
        obtain ⟨target, present⟩ := (kept old oldMember).folder id named
        exact ⟨target, (Table.get_remove_other (by simpa using other)).trans present⟩

theorem kept_request {clock : Clock} {caller : Routes.Caller} {path : String} {route : Route}
    (kept : Kept state) : Kept (step libraries state (.request clock caller path route)) := by
  intro doc member
  have before := kept doc member
  refine ⟨before.tenant, before.folder, ?_⟩
  obtain ⟨rel, accepted⟩ := before.path
  exact ⟨rel, (LostReindex.safeRel_congr handle_backend).trans accepted⟩

theorem kept_index {force : Bool} {around : Surroundings} {rel : String} (kept : Kept state) :
    Kept (step libraries state (.index force around rel)) := by
  have scanned : rowsAt (scanStep libraries.indexer around state.store force state.db rel) rel = _ ∧ _ ∧ _ :=
    rowsAt_scanStep
  obtain ⟨here, elsewhere, sameFolders, sameTenant⟩ := scanned
  intro doc member
  simp only [step] at member ⊢
  rw [sameFolders, sameTenant]
  have listed : (doc, chunksOf (scanStep libraries.indexer around state.store force state.db rel) doc.id) ∈
      rowsAt (scanStep libraries.indexer around state.store force state.db rel) doc.relPath :=
    mem_rowsAt.mpr ⟨member, rfl, rfl⟩
  have before : ∀ row ∈ rowsAt state.db rel,
      Filed state.store state.db.folders state.db.defaultTenant row.1 :=
    fun row rowListed => kept row.1 (mem_rowsAt.mp rowListed).1
  by_cases same : doc.relPath = rel
  · rw [same, here] at listed
    simp only [scanRows] at listed
    split at listed
    · exact before _ listed
    · exact filed_indexRows before ‹_› _ listed
  · rw [elsewhere doc.relPath same] at listed
    exact kept doc (mem_rowsAt.mp listed).1

theorem kept_prune {onDisk : List String} (kept : Kept state) :
    Kept (step libraries state (.prune onDisk)) :=
  fun doc member => kept doc (Table.mem_filter.mp member).1

theorem kept_step (kept : Kept state) : Kept (step libraries state label) := by
  cases label with
  | createFolder caller form => exact kept_createFolder kept
  | deleteFolder caller slug => exact kept_deleteFolder kept
  | request clock caller path route => exact kept_request kept
  | index force around rel => exact kept_index kept
  | prune onDisk => exact kept_prune kept

theorem reindex_run {config : DocsIndexConfig} {around : Surroundings} {force : Bool} {after : IndexDb}
    (completed : reindex libraries.indexer config around state.store force state.db = .ok after) :
    ∃ labels, (history libraries).run state labels = some { state with db := after } := by
  have scanned : ∀ (files : List String) (state : State),
      (history libraries).run state (files.map (.index force around)) =
        some { state with
          db := files.foldl (scanStep libraries.indexer around state.store force) state.db } := by
    intro files
    induction files with
    | nil => exact fun state => rfl
    | cons file rest ih => exact fun state => ih _
  simp only [reindex] at completed
  split at completed
  · cases completed
  · rename_i files listed
    cases completed
    exact ⟨files.map (.index force around) ++ [.prune files], Machine.run_snoc (scanned files state) rfl⟩

theorem reindex_reachable {config : DocsIndexConfig} {around : Surroundings} {force : Bool}
    {after : IndexDb} (reached : (history libraries).Reachable state)
    (completed : reindex libraries.indexer config around state.store force state.db = .ok after) :
    (history libraries).Reachable { state with db := after } := by
  obtain ⟨start, labels, begins, ran⟩ := reached
  obtain ⟨more, continued⟩ := reindex_run completed
  refine ⟨start, labels ++ more, begins, ?_⟩
  rw [Machine.run_append, ran]
  exact continued

theorem kept_reachable (reached : (history libraries).Reachable state) : Kept state := by
  refine reached.invariant ?_ ?_
  · intro start blank doc member
    rw [blank] at member
    cases member
  · intro before label after stepped kept
    cases stepped
    exact kept_step kept

end Steps

/-! What one tenant's rows mean for the readers. -/

section Readers

variable {tools : Routes.Tools} {state : State} {tenant other userId : Int} {username path : String}
  {doc : Document} {excludeOrg : Bool}

def Holds (state : State) (tenant : Int) : Prop :=
  ∀ doc ∈ state.db.documents.rows, doc.tenantId = tenant

theorem joined_member {row : DocChunk × Document} (listed : row ∈ joined state.indexed) :
    row.2 ∈ state.db.documents.rows := by
  obtain ⟨chunk, _, found⟩ := List.mem_filterMap.mp listed
  obtain ⟨doc, present, rfl⟩ := Option.map_eq_some_iff.mp found
  exact (Table.get_eq_some_iff.mp present).1

theorem filter_holder (holds : Holds state tenant) (wanted : DocChunk × Document → Bool) :
    ((joined state.indexed).filter fun row => wanted row && inScope excludeOrg (some tenant) row.2) =
      (joined state.indexed).filter fun row => wanted row && inScope excludeOrg none row.2 := by
  refine List.filter_congr fun row listed => ?_
  simp [inScope, holds row.2 (joined_member listed)]

theorem filter_other (holds : Holds state tenant) (differ : other ≠ tenant)
    (wanted : DocChunk × Document → Bool) :
    ((joined state.indexed).filter fun row => wanted row && inScope excludeOrg (some other) row.2) = [] := by
  refine List.filter_eq_nil_iff.mpr fun row listed => ?_
  simp [inScope, holds row.2 (joined_member listed), differ.symm]

theorem guard_passes (holds : Holds state tenant) :
    requireDocAccess state.site.documents path (some tenant) =
      requireDocAccess state.site.documents path none := by
  have admits : ¬ RowRefuses state.site.documents path tenant := by
    rintro ⟨doc, first, differ⟩
    exact differ (holds doc (List.mem_of_find?_eq_some first))
  exact access_granted admits

theorem own_folders :
    listFolders { state.site with
      folders := state.db.folders.rows.filter fun folder => folder.tenantId = tenant } none =
      listFolders state.site (some tenant) := by
  have all : ∀ folders : List Folder, folders.filter (tenantClause Folder.tenantId none) = folders :=
    fun folders => List.filter_eq_self.mpr fun _ _ => rfl
  simp only [listFolders, all]
  rfl

theorem sees_of_holds (holds : Holds state tenant) : Sees tools state tenant where
  view userId username path raw := by
    have sameRow : (state.site.documents.find? fun doc =>
        doc.relPath = path && tenantClause Document.tenantId (some tenant) doc) =
        state.site.documents.find? fun doc =>
          doc.relPath = path && tenantClause Document.tenantId none doc :=
      List.find?_congr fun doc member => by simp [tenantClause, holds doc member]
    simp only [docsView, requireFile, guard_passes holds, sameRow]
  edit userId username path := by
    simp only [docsEdit, requireFile, guard_passes holds, own_folders]
  search Score engine query limit excludeOrg := by
    simp only [Search.search, likeSearch, vectorSearch, filter_holder holds]

theorem refuses_other (holds : Holds state tenant) (differ : other ≠ tenant)
    (member : doc ∈ state.db.documents.rows) : RowRefuses state.site.documents doc.relPath other := by
  have present : (state.site.documents.find? fun row => row.relPath = doc.relPath).isSome :=
    List.find?_isSome.mpr ⟨doc, member, by simp⟩
  obtain ⟨first, found⟩ := Option.isSome_iff_exists.mp present
  refine ⟨first, found, ?_⟩
  rw [holds first (List.mem_of_find?_eq_some found)]
  exact differ.symm

theorem search_other {Score : Type} {engine : Engine Score} {query : String} {limit : Nat}
    (holds : Holds state tenant) (differ : other ≠ tenant) :
    search engine state.indexed query limit excludeOrg (some other) = [] := by
  have scanned : engine.scan.order [] = [] := List.perm_nil.mp (engine.scan.perm [])
  have like : ∀ query, likeSearch engine state.indexed query limit excludeOrg (some other) = [] := by
    intro query
    simp only [likeSearch, filter_other holds differ, scanned, List.take_nil, List.map_nil]
  simp only [search, vectorSearch, filter_other holds differ, scanned, like, ↓reduceIte]
  split
  · rfl
  · split
    · rfl
    · split
      · rename_i embedder _ first rest found
        split at found <;> cases found
      · rfl
      · rfl

theorem misses_of_holds (holds : Holds state tenant) (differ : other ≠ tenant)
    (member : doc ∈ state.db.documents.rows) (named : ∃ rel, state.store.safeRel doc.relPath = .ok rel) :
    Misses tools state other doc where
  view userId username raw := by
    obtain ⟨rel, named⟩ := named
    exact (view_refused_iff named rfl).mpr (.inl (refuses_other holds differ member))
  edit userId username := by
    obtain ⟨rel, named⟩ := named
    exact (edit_refused_iff named rfl).mpr (.inl (refuses_other holds differ member))
  search Score engine query limit excludeOrg := search_other holds differ

end Readers

/-- Every indexed document is the Default tenant's, whoever saved it: that tenant sees
it and no other does. -/
theorem indexed_for_default (libraries : Libraries) {state : State} {doc : Document}
    (reached : (history libraries).Reachable state) (member : doc ∈ state.db.documents.rows) :
    state.db.defaultTenant = some doc.tenantId ∧
      (∀ id, doc.folderId = some id → ∃ folder, state.db.folders.get id = some folder) ∧
      Sees libraries.routes state doc.tenantId ∧
      ∀ other, other ≠ doc.tenantId → Misses libraries.routes state other doc := by
  have kept := kept_reachable reached
  have filed := kept doc member
  have holds : Holds state doc.tenantId := by
    intro row rowMember
    exact Option.some.inj ((kept row rowMember).tenant.symm.trans filed.tenant)
  refine ⟨filed.tenant, filed.folder, sees_of_holds holds, ?_⟩
  intro other differ
  exact misses_of_holds holds differ member filed.path

/-! One tenant's first document. -/

def fieldsOf : Yaml where
  load block :=
    if Python.startsWith block "title: Deploy\nfolder: ops\n" then
      some { title := some "Deploy", folder := some "ops" }
    else none
  dump title folder author updatedAt :=
    "title: " ++ title ++ "\nfolder: " ++ folder ++ "\nauthor: " ++ author ++
      "\nupdated_at: '" ++ updatedAt ++ "'\n"

def plainLibraries : Libraries where
  routes := { yaml := fieldsOf, renderMarkdown := id, asciiFold := id }
  indexer := {
    sha256 := fun _ => "9868291fd2ed9fefefc3535df1f3d8459520075324490c1b2b51e5e7bccfb8d7"
    yaml := fieldsOf
    parse := fun _ _ => .ok ("steps", none)
    chunkText := fun _ => [{ ord := 0, text := "steps", startChar := 0, endChar := 5 }] }

def emptyVault : State where
  store := { backend := .localRoot fun _ => true, present := true, tree := ∅ }
  db := { defaultTenant := some 1 }

def betaLabels : List Label :=
  [.createFolder ⟨some 2, 7, .operator⟩ ⟨"Operations", "ops"⟩,
    .request ⟨3000, "2024-05-01T08:00:00Z"⟩ ⟨some 2, 7, "bea"⟩ "" (.save ⟨"Deploy", "ops", "steps", ""⟩)]

def savedByBeta : State := betaLabels.foldl (step plainLibraries) emptyVault

def indexedForDefault : State :=
  { savedByBeta with
    db := (reindex plainLibraries.indexer {} Incremental.quiet savedByBeta.store false savedByBeta.db)
      |>.toOption.getD savedByBeta.db }

def deployRow : Document where
  id := 1
  tenantId := 1
  relPath := "ops/deploy.md"
  sha256 := "9868291fd2ed9fefefc3535df1f3d8459520075324490c1b2b51e5e7bccfb8d7"
  sizeBytes := 88
  modifiedAt := 3000
  indexedAt := some 2000
  status := .indexed
  error := none
  chunkCount := 1
  title := some "Deploy"
  folderId := some 1
  frontmatterTitle := some "Deploy"

theorem indexedForDefault_rows : indexedForDefault.db.documents.rows = [deployRow] := by decide +kernel

theorem deployRow_indexed : deployRow ∈ indexedForDefault.db.documents.rows := by
  rw [indexedForDefault_rows]
  exact List.mem_singleton_self deployRow

/-- The row of the document tenant 2 has just saved is tenant 1's, in a folder of
tenant 2; its author does not get it back and the other tenant does. -/
theorem saver_loses_document :
    (history plainLibraries).run emptyVault betaLabels = some savedByBeta ∧
      (reindex plainLibraries.indexer {} Incremental.quiet savedByBeta.store false savedByBeta.db).toOption =
        some indexedForDefault.db ∧
      deployRow ∈ indexedForDefault.db.documents.rows ∧ deployRow.tenantId = 1 ∧
      Refused indexedForDefault.site (settle indexedForDefault.site
        (docsView plainLibraries.routes indexedForDefault.site ⟨some 2, 7, "bea"⟩ "ops/deploy.md" true)) ∧
      (settle indexedForDefault.site
        (docsView plainLibraries.routes indexedForDefault.site ⟨some 1, 8, "ann"⟩ "ops/deploy.md" true)).response =
        .plain ("---\ntitle: Deploy\nfolder: ops\nauthor: bea\n" ++
          "updated_at: '2024-05-01T08:00:00Z'\n---\n\nsteps\n") := by
  have named : indexedForDefault.site.store.safeRel "ops/deploy.md" = .ok "ops/deploy.md" := by
    decide
  have refuses : RowRefuses indexedForDefault.site.documents "ops/deploy.md" 2 :=
    ⟨deployRow, by rw [State.site, indexedForDefault_rows]; rfl, by decide⟩
  refine ⟨rfl, rfl, deployRow_indexed, rfl, (view_refused_iff named rfl).mpr (.inl refuses), ?_⟩
  rw [State.site, indexedForDefault_rows]
  rfl

theorem indexedForDefault_reached : (history plainLibraries).Reachable indexedForDefault := by
  have saved : (history plainLibraries).Reachable savedByBeta := ⟨emptyVault, betaLabels, rfl, rfl⟩
  exact reindex_reachable saved rfl

theorem indexed_for_default_deploy :
    indexedForDefault.db.defaultTenant = some 1 ∧ (indexedForDefault.db.folders.get 1).isSome ∧
      Sees plainLibraries.routes indexedForDefault 1 ∧
      Misses plainLibraries.routes indexedForDefault 2 deployRow := by
  obtain ⟨isDefault, filed, sees, misses⟩ :=
    indexed_for_default plainLibraries indexedForDefault_reached deployRow_indexed
  obtain ⟨folder, present⟩ := filed 1 rfl
  exact ⟨isDefault, Option.isSome_iff_exists.mpr ⟨folder, present⟩, sees, misses 2 (by decide)⟩

end Dosm.Docs.Ownership
