import Dosm.Base.Checks
import Dosm.Docs.Indexer

namespace Dosm.Docs.Indexer

open Models Store

/-! The index as a map from paths to rows.

A row is a document with the chunks that belong to it. Indexing a file concerns
the rows of its path only, so a whole run can be read off path by path.
-/

abbrev Row := Document × List DocChunk

def chunksOf (db : IndexDb) (docId : Int) : List DocChunk :=
  db.chunks.filter fun chunk => chunk.docId = docId

def rowOf (db : IndexDb) (doc : Document) : Row := (doc, chunksOf db doc.id)

def rowsAt (db : IndexDb) (rel : String) : List Row :=
  (db.documents.rows.filter fun doc => doc.relPath = rel).map (rowOf db)

def Plan.apply (now : Int) (plan : Plan) (row : Row) : Row :=
  (plan.row now row.1, (plan.chunks row.1.id).getD row.2)

def indexRows (tools : Tools) (around : Surroundings) (store : DocsStore) (force : Bool)
    (folders : Table Folder) (defaultTenant : Option Int) (fresh : Int) (rel : String)
    (rows : List Row) : Except Failure (List Row) :=
  match store.stat rel with
  | .error error => .error (.store error)
  | .ok stat =>
      match scalarOneOrNone rows with
      | .error raised => .error (.raised raised)
      | .ok found =>
          match plan tools folders (around.embedder rel) store rel force stat (found.map (·.1)) with
          | .error failure => .error failure
          | .ok plan =>
              match found with
              | some row => .ok [plan.apply (around.clock rel) row]
              | none =>
                  match defaultTenant with
                  | none => .error .noDefaultTenant
                  | some tenant =>
                      .ok [plan.apply (around.clock rel) ({ blankDocument tenant rel with id := fresh }, [])]

section Rows

variable {db after : IndexDb} {rel other : String} {now : Int} {decision : Plan} {doc : Document}
  {row : Row}

theorem mem_rowsAt : row ∈ rowsAt db rel ↔
    row.1 ∈ db.documents.rows ∧ row.1.relPath = rel ∧ row.2 = chunksOf db row.1.id := by
  simp only [rowsAt, List.mem_map, List.mem_filter, decide_eq_true_eq]
  constructor
  · intro listed
    obtain ⟨doc, ⟨member, path⟩, isRow⟩ := listed
    rw [← isRow]
    exact ⟨member, path, rfl⟩
  · intro parts
    obtain ⟨member, path, chunks⟩ := parts
    exact ⟨row.1, ⟨member, path⟩, Prod.ext rfl chunks.symm⟩

theorem Plan.row_relPath : (decision.row now doc).relPath = doc.relPath := by
  cases decision <;> rfl

theorem Plan.row_id : (decision.row now doc).id = doc.id := by
  cases decision <;> rfl

theorem Plan.chunks_docId {docId : Int} {replacement : List DocChunk}
    (replaces : decision.chunks docId = some replacement) :
    ∀ chunk ∈ replacement, chunk.docId = docId := by
  cases decision with
  | unchanged => cases replaces
  | touch sizeBytes modifiedAt => cases replaces
  | fail facts message =>
      cases replaces
      exact fun chunk member => absurd member List.not_mem_nil
  | index facts title chunks =>
      cases replaces
      intro chunk member
      obtain ⟨piece, _, isChunk⟩ := List.mem_map.mp member
      rw [← isChunk]

theorem filter_replaceChunks_self {chunks : List DocChunk} {docId : Int} :
    ((replaceChunks chunks docId (decision.chunks docId)).filter fun chunk => chunk.docId = docId) =
      (decision.chunks docId).getD (chunks.filter fun chunk => chunk.docId = docId) := by
  cases replaces : decision.chunks docId with
  | none => rfl
  | some replacement =>
      have own := Plan.chunks_docId replaces
      have gone : ((chunks.filter fun chunk => chunk.docId ≠ docId).filter fun chunk =>
          chunk.docId = docId) = [] := by
        simp [List.filter_filter]
      simp only [replaceChunks, List.filter_append, gone, List.nil_append, Option.getD_some]
      exact List.filter_eq_self.mpr fun chunk member => by simp [own chunk member]

theorem filter_replaceChunks_other {chunks : List DocChunk} {docId otherId : Int}
    (different : otherId ≠ docId) :
    ((replaceChunks chunks docId (decision.chunks docId)).filter fun chunk => chunk.docId = otherId) =
      chunks.filter fun chunk => chunk.docId = otherId := by
  cases replaces : decision.chunks docId with
  | none => rfl
  | some replacement =>
      have own := Plan.chunks_docId replaces
      have none : (replacement.filter fun chunk => chunk.docId = otherId) = [] := by
        refine List.filter_eq_nil_iff.mpr fun chunk member => ?_
        simp [own chunk member, different.symm]
      simp only [replaceChunks, List.filter_append, none, List.append_nil, List.filter_filter]
      refine List.filter_congr fun chunk _ => ?_
      by_cases same : chunk.docId = otherId
      · simp [same, different]
      · simp [same]

theorem rowsAt_modify (after : IndexDb) {keeps : ∀ row, key (decision.row now row) = key row}
    (only : (db.documents.rows.filter fun row => row.relPath = rel) = [doc])
    (documents : after.documents = db.documents.modify doc.id (decision.row now) keeps)
    (chunks : after.chunks = replaceChunks db.chunks doc.id (decision.chunks doc.id)) :
    rowsAt after rel = [decision.apply now (rowOf db doc)] ∧
      ∀ other, other ≠ rel → rowsAt after other = rowsAt db other := by
  have listed : doc ∈ db.documents.rows.filter fun row => row.relPath = rel := by simp [only]
  obtain ⟨member, path⟩ := List.mem_filter.mp listed
  have path : doc.relPath = rel := by simpa using path
  have rows : ∀ name, (after.documents.rows.filter fun row => row.relPath = name) =
      (db.documents.rows.filter fun row => row.relPath = name).map fun row =>
        if row.id = doc.id then decision.row now row else row := by
    intro name
    rw [documents]
    change ((db.documents.rows.map _).filter _) = _
    rw [List.filter_map]
    congr 1
    refine List.filter_congr fun row _ => ?_
    simp only [Function.comp_apply]
    split
    · rw [Plan.row_relPath]
    · rfl
  constructor
  · simp only [rowsAt, rows, only, List.map_cons, List.map_nil, if_true, rowOf, chunksOf, chunks,
      Plan.row_id, filter_replaceChunks_self, Plan.apply]
  · intro other different
    simp only [rowsAt, rows, List.map_map]
    refine List.map_congr_left fun row rowListed => ?_
    obtain ⟨rowMember, rowPath⟩ := List.mem_filter.mp rowListed
    have apart : row.id ≠ doc.id := by
      intro same
      have isDoc : row = doc := Table.eq_of_key rowMember member same
      have isOther : row.relPath = other := by simpa using rowPath
      rw [isDoc, path] at isOther
      exact different isOther.symm
    simp only [Function.comp_apply, if_neg apart, rowOf, chunksOf, chunks,
      filter_replaceChunks_other apart]

theorem rowsAt_insert (after : IndexDb) {make : Int → Document} {keyed : ∀ id, key (make id) = id}
    (none : (db.documents.rows.filter fun row => row.relPath = rel) = [])
    (path : ∀ id, (make id).relPath = rel)
    (documents : after.documents = db.documents.insert make keyed)
    (chunks : after.chunks =
      replaceChunks db.chunks db.documents.fresh (decision.chunks db.documents.fresh)) :
    rowsAt after rel = [(make db.documents.fresh,
        (decision.chunks db.documents.fresh).getD (chunksOf db db.documents.fresh))] ∧
      ∀ other, other ≠ rel → rowsAt after other = rowsAt db other := by
  have rows : ∀ name, (after.documents.rows.filter fun row => row.relPath = name) =
      (db.documents.rows.filter fun row => row.relPath = name) ++
        [make db.documents.fresh].filter fun row => row.relPath = name := by
    intro name
    rw [documents]
    exact List.filter_append ..
  have sameId : (make db.documents.fresh).id = db.documents.fresh := keyed _
  constructor
  · simp only [rowsAt, rows, none, List.nil_append, List.filter_cons, path, decide_true, if_true,
      List.filter_nil, List.map_cons, List.map_nil, rowOf, sameId, chunksOf, chunks,
      filter_replaceChunks_self]
  · intro other different
    have elsewhere : ([make db.documents.fresh].filter fun row => row.relPath = other) = [] := by
      simp [path, different.symm]
    simp only [rowsAt, rows, elsewhere, List.append_nil]
    refine List.map_congr_left fun row rowListed => ?_
    have bounded := Table.key_lt_fresh (List.mem_filter.mp rowListed).1
    have apart : row.id ≠ db.documents.fresh := Int.ne_of_lt bounded
    simp only [rowOf, chunksOf, chunks, filter_replaceChunks_other apart]

theorem rowsAt_applyPlan {found : Option Document}
    (unique : scalarOneOrNone (db.documents.rows.filter fun doc => doc.relPath = rel) = .ok found)
    (replaces : found = none → ∃ chunks, decision.chunks db.documents.fresh = some chunks)
    (applied : applyPlan db rel now found decision = .ok after) :
    (∃ start : Row, (∀ doc, found = some doc → start = rowOf db doc) ∧
        (∀ tenant, found = none → db.defaultTenant = some tenant →
          start = ({ blankDocument tenant rel with id := db.documents.fresh }, [])) ∧
        rowsAt after rel = [decision.apply now start]) ∧
      (∀ other, other ≠ rel → rowsAt after other = rowsAt db other) ∧
      after.folders = db.folders ∧ after.defaultTenant = db.defaultTenant := by
  cases found with
  | some doc =>
      simp only [applyPlan, Except.ok.injEq] at applied
      obtain ⟨here, elsewhere⟩ := rowsAt_modify after (scalarOneOrNone_some unique) (by rw [← applied]) (by rw [← applied])
      refine ⟨⟨rowOf db doc, ?_, ?_, here⟩, elsewhere, by rw [← applied], by rw [← applied]⟩
      · rintro _ ⟨rfl⟩
        rfl
      · intro _ missing
        cases missing
  | none =>
      simp only [applyPlan] at applied
      cases tenant : db.defaultTenant with
      | none => simp [tenant] at applied
      | some tenantId =>
          simp only [tenant, Except.ok.injEq] at applied
          obtain ⟨here, elsewhere⟩ := rowsAt_insert after (scalarOneOrNone_none unique)
            (fun _ => Plan.row_relPath) (by rw [← applied]) (by rw [← applied])
          obtain ⟨chunks, writes⟩ := replaces rfl
          refine ⟨⟨({ blankDocument tenantId rel with id := db.documents.fresh }, []), ?_, ?_, ?_⟩, elsewhere,
            by rw [← applied], by rw [← applied]⟩
          · intro _ missing
            cases missing
          · rintro _ _ ⟨rfl⟩
            rfl
          · rw [here, Plan.apply]
            simp only [writes, Option.getD_some]

theorem scalarOneOrNone_map {First Second : Type} {change : First → Second} {rows : List First} :
    scalarOneOrNone (rows.map change) = (scalarOneOrNone rows).map (Option.map change) := by
  cases rows with
  | nil => rfl
  | cons head tail =>
      cases tail with
      | nil => rfl
      | cons second rest => rfl

end Rows

section Runs

variable {tools : Tools} {config : DocsIndexConfig} {around : Surroundings} {store : DocsStore}
  {force : Bool} {db after : IndexDb} {rel other : String} {outcome : Outcome} {failure : Failure}
  {files : List String} {folders : Table Folder} {embedder : Embedder} {stat : FileStat}
  {decision : Plan} {content : String}

def SameAround (db after : IndexDb) : Prop :=
  after.folders = db.folders ∧ after.defaultTenant = db.defaultTenant

theorem contentPlan_writes (planned : contentPlan tools folders embedder rel content stat = .ok decision)
    (docId : Int) : ∃ chunks, decision.chunks docId = some chunks := by
  simp only [contentPlan] at planned
  split at planned
  · cases planned
  · split at planned
    · cases planned
    · cases planned
      exact ⟨_, rfl⟩
    · cases planned
      exact ⟨_, rfl⟩

theorem vectors_length {chunks : List Chunk} : (vectors embedder chunks).length = chunks.length := by
  simp only [vectors]
  split
  · split
    · simpa using ‹chunks.length ≤ _›
    · simp
  · simp

theorem contentPlan_index {facts : FileFacts} {title : Option String}
    {pieces : List (Chunk × Option (List UInt8))}
    (planned : contentPlan tools folders embedder rel content stat = .ok (.index facts title pieces)) :
    ∃ folderId text parsed, resolveFolder folders (frontmatterOf tools rel content).2 = .ok folderId ∧
      tools.parse rel content = .ok (text, parsed) ∧
      facts = { sha256 := tools.sha256 content, sizeBytes := stat.size, modifiedAt := stat.mtimeMs,
                folderId, frontmatterTitle := (frontmatterOf tools rel content).1 } ∧
      title = (truthy parsed).orElse (fun _ => (frontmatterOf tools rel content).1) ∧
      pieces = (tools.chunkText text).zip (vectors embedder (tools.chunkText text)) := by
  simp only [contentPlan] at planned
  split at planned
  · cases planned
  · rename_i folderId resolved
    split at planned
    · cases planned
    · cases planned
    · rename_i text parsed parses
      cases planned
      exact ⟨folderId, text, parsed, resolved, parses, rfl, rfl, rfl⟩

theorem plan_cases {found : Option Document}
    (planned : plan tools folders embedder store rel force stat found = .ok decision) :
    (decision = .unchanged ∧ force = false ∧ ∃ doc, found = some doc ∧ settled stat doc) ∨
      ∃ content, store.readText rel = .ok content ∧
        ((decision = .touch stat.size stat.mtimeMs ∧ force = false ∧
            ∃ doc, found = some doc ∧ sameContent (tools.sha256 content) doc) ∨
          contentPlan tools folders embedder rel content stat = .ok decision) := by
  simp only [plan] at planned
  split at planned
  · rename_i quick
    simp only [Bool.and_eq_true, Bool.not_eq_true', Option.any_eq_true] at quick
    cases planned
    exact .inl ⟨rfl, quick.1, quick.2⟩
  · split at planned
    · cases planned
    · rename_i content read
      refine .inr ⟨content, read, ?_⟩
      split at planned
      · rename_i touched
        simp only [Bool.and_eq_true, Bool.not_eq_true', Option.any_eq_true] at touched
        cases planned
        exact .inl ⟨rfl, touched.1, touched.2⟩
      · exact .inr planned

theorem plan_none_writes (planned : plan tools folders embedder store rel force stat none = .ok decision)
    (docId : Int) : ∃ chunks, decision.chunks docId = some chunks := by
  simp only [plan, Option.any_none, Bool.and_false, Bool.false_eq_true, if_false] at planned
  split at planned
  · cases planned
  · exact contentPlan_writes planned docId

/-- A store's files are among the versions, given as path, content and time. -/
def Holds (version : String → String → Int → Prop) (store : DocsStore) : Prop :=
  ∀ rel content mtimeMs, store.fileAt rel = .ok (content, mtimeMs) → version rel content mtimeMs

/-- Size and time tell the versions of a path apart. -/
def StatIdentifies (version : String → String → Int → Prop) : Prop :=
  ∀ rel content other mtimeMs, version rel content mtimeMs → version rel other mtimeMs →
    content.utf8ByteSize = other.utf8ByteSize → content = other

theorem fileAt_of_stat (statted : store.stat rel = .ok stat) :
    ∃ content, store.fileAt rel = .ok (content, stat.mtimeMs) ∧ stat.size = content.utf8ByteSize ∧
      store.readText rel = .ok content := by
  obtain ⟨_, client, statted⟩ := Checks.bind_ok statted
  cases file : store.fileAt rel with
  | error error => simp [file, throw, throwThe, MonadExceptOf.throw] at statted
  | ok entry =>
      simp only [file, pure, Except.pure, Except.ok.injEq] at statted
      subst statted
      refine ⟨entry.1, rfl, rfl, ?_⟩
      simp [DocsStore.readText, client, file, bind, Except.bind, pure, Except.pure]

theorem rowsAt_indexOne (indexed : indexOne tools around store force db rel = .ok (after, outcome)) :
    indexRows tools around store force db.folders db.defaultTenant db.documents.fresh rel
        (rowsAt db rel) = .ok (rowsAt after rel) ∧
      (∀ other, other ≠ rel → rowsAt after other = rowsAt db other) ∧ SameAround db after := by
  simp only [indexOne] at indexed
  simp only [indexRows, rowsAt, scalarOneOrNone_map]
  cases statted : store.stat rel with
  | error error => simp [statted] at indexed
  | ok stat =>
      simp only [statted] at indexed ⊢
      cases found : scalarOneOrNone (db.documents.rows.filter fun doc => doc.relPath = rel) with
      | error raised => simp [found] at indexed
      | ok row =>
          simp only [found] at indexed
          cases planned : plan tools db.folders (around.embedder rel) store rel force stat row with
          | error failure => simp [planned] at indexed
          | ok decision =>
              simp only [planned] at indexed
              cases row with
              | some doc =>
                  simp only [applyPlan, Except.ok.injEq, Prod.mk.injEq] at indexed
                  have only := scalarOneOrNone_some found
                  obtain ⟨isAfter, _⟩ := indexed
                  obtain ⟨here, elsewhere⟩ := rowsAt_modify after only
                    (by rw [← isAfter]) (by rw [← isAfter])
                  refine ⟨?_, elsewhere, by rw [← isAfter], by rw [← isAfter]⟩
                  have plannedRow : plan tools db.folders (around.embedder rel) store rel force stat
                      (some (rowOf db doc).1) = .ok decision := planned
                  simp only [Except.map, Option.map_some, plannedRow]
                  exact congrArg Except.ok here.symm
              | none =>
                  have none := scalarOneOrNone_none found
                  simp only [applyPlan] at indexed
                  cases tenant : db.defaultTenant with
                  | none => simp [tenant] at indexed
                  | some tenantId =>
                      simp only [tenant, Except.ok.injEq, Prod.mk.injEq] at indexed
                      obtain ⟨isAfter, _⟩ := indexed
                      obtain ⟨here, elsewhere⟩ := rowsAt_insert after none
                        (fun _ => Plan.row_relPath) (by rw [← isAfter]) (by rw [← isAfter])
                      refine ⟨?_, elsewhere, by rw [← isAfter], by rw [← isAfter, tenant]⟩
                      obtain ⟨chunks, replaces⟩ := plan_none_writes planned db.documents.fresh
                      simp only [Except.map, Option.map_none, planned, Plan.apply, replaces]
                      simp only [rowsAt, replaces] at here
                      exact congrArg Except.ok here.symm

theorem indexRows_error (failed : indexOne tools around store force db rel = .error failure) :
    indexRows tools around store force db.folders db.defaultTenant db.documents.fresh rel
      (rowsAt db rel) = .error failure := by
  simp only [indexOne] at failed
  simp only [indexRows, rowsAt, scalarOneOrNone_map]
  cases statted : store.stat rel with
  | error error => simpa [statted] using failed
  | ok stat =>
      simp only [statted] at failed ⊢
      cases found : scalarOneOrNone (db.documents.rows.filter fun doc => doc.relPath = rel) with
      | error raised => simpa [found, Except.map] using failed
      | ok row =>
          simp only [found] at failed
          have sameDoc : (row.map (rowOf db)).map (·.1) = row := by
            cases row with
            | none => rfl
            | some doc => rfl
          simp only [Except.map, sameDoc]
          cases planned : plan tools db.folders (around.embedder rel) store rel force stat row with
          | error failure => simpa [planned] using failed
          | ok decision =>
              simp only [planned] at failed ⊢
              cases row with
              | some doc => simp [applyPlan] at failed
              | none =>
                  cases tenant : db.defaultTenant with
                  | none => simpa [applyPlan, tenant] using failed
                  | some tenantId => simp [applyPlan, tenant] at failed

def scanRows (tools : Tools) (around : Surroundings) (store : DocsStore) (force : Bool)
    (folders : Table Folder) (defaultTenant : Option Int) (fresh : Int) (rel : String)
    (rows : List Row) : List Row :=
  match indexRows tools around store force folders defaultTenant fresh rel rows with
  | .error _ => rows
  | .ok rows => rows

theorem rowsAt_scanStep :
    rowsAt (scanStep tools around store force db rel) rel =
        scanRows tools around store force db.folders db.defaultTenant db.documents.fresh rel
          (rowsAt db rel) ∧
      (∀ other, other ≠ rel →
        rowsAt (scanStep tools around store force db rel) other = rowsAt db other) ∧
      SameAround db (scanStep tools around store force db rel) := by
  simp only [scanStep, scanRows]
  cases indexed : indexOne tools around store force db rel with
  | error failure =>
      rw [indexRows_error indexed]
      exact ⟨rfl, fun _ _ => rfl, rfl, rfl⟩
  | ok result =>
      obtain ⟨after, outcome⟩ := result
      obtain ⟨here, elsewhere, sameAround⟩ := rowsAt_indexOne indexed
      rw [here]
      exact ⟨rfl, elsewhere, sameAround⟩

theorem rowsAt_scan (rel : String) (distinct : files.Nodup) :
    (rel ∈ files → ∃ fresh, rowsAt (files.foldl (scanStep tools around store force) db) rel =
        scanRows tools around store force db.folders db.defaultTenant fresh rel (rowsAt db rel)) ∧
      (rel ∉ files →
        rowsAt (files.foldl (scanStep tools around store force) db) rel = rowsAt db rel) ∧
      SameAround db (files.foldl (scanStep tools around store force) db) := by
  induction files generalizing db with
  | nil => exact ⟨fun listed => absurd listed List.not_mem_nil, fun _ => rfl, rfl, rfl⟩
  | cons file rest ih =>
      obtain ⟨fresh, distinctRest⟩ := List.nodup_cons.mp distinct
      have step : rowsAt (scanStep tools around store force db file) file = _ ∧ _ ∧ _ := rowsAt_scanStep
      obtain ⟨here, elsewhere, folders, tenant⟩ := step
      obtain ⟨listed, unlisted, restFolders, restTenant⟩ :=
        @ih (scanStep tools around store force db file) distinctRest
      simp only [List.foldl_cons]
      refine ⟨?_, ?_, restFolders.trans folders, restTenant.trans tenant⟩
      · intro member
        by_cases same : rel = file
        · subst same
          exact ⟨db.documents.fresh, (unlisted fresh).trans here⟩
        · obtain ⟨key, scanned⟩ := listed ((List.mem_cons.mp member).resolve_left same)
          refine ⟨key, ?_⟩
          rw [scanned, folders, tenant, elsewhere rel same]
      · intro absent
        simp only [List.mem_cons, not_or] at absent
        exact (unlisted absent.2).trans (elsewhere rel absent.1)

theorem rowsAt_removeDeleted : rowsAt (removeDeleted db files) rel =
    if rel ∈ files then rowsAt db rel else [] := by
  have rows : ((removeDeleted db files).documents.rows.filter fun doc => doc.relPath = rel) =
      if rel ∈ files then db.documents.rows.filter fun doc => doc.relPath = rel else [] := by
    change ((db.documents.rows.filter fun doc => doc.relPath ∈ files).filter _) = _
    rw [List.filter_filter]
    split
    · refine List.filter_congr fun doc _ => ?_
      by_cases same : doc.relPath = rel
      · simp [same, ‹rel ∈ files›]
      · simp [same]
    · refine List.filter_eq_nil_iff.mpr fun doc _ => ?_
      by_cases same : doc.relPath = rel
      · simp [same, ‹rel ∉ files›]
      · simp [same]
  simp only [rowsAt, rows]
  split
  · rename_i listed
    refine List.map_congr_left fun doc docListed => ?_
    obtain ⟨member, path⟩ := List.mem_filter.mp docListed
    have isRel : doc.relPath = rel := by simpa using path
    have kept : doc.id ∉ (db.documents.rows.filter fun doc => doc.relPath ∉ files).map (·.id) := by
      intro stale
      obtain ⟨old, oldListed, same⟩ := List.mem_map.mp stale
      obtain ⟨oldMember, gone⟩ := List.mem_filter.mp oldListed
      have isDoc : old = doc := Table.eq_of_key oldMember member same
      rw [isDoc, isRel] at gone
      simp [listed] at gone
    simp only [rowOf, chunksOf, removeDeleted, List.filter_filter]
    congr 1
    refine List.filter_congr fun chunk _ => ?_
    by_cases own : chunk.docId = doc.id
    · simpa [own] using kept
    · simp [own]
  · rfl

theorem iterDocFiles_nodup (listed : iterDocFiles config store = .ok files) : files.Nodup := by
  simp only [iterDocFiles] at listed
  split at listed
  · cases listed
  · cases listed
    exact List.nodup_nil
  · split at listed
    · cases listed
    · rename_i found iterated
      cases listed
      have keys : (store.tree.entries.map Sigma.fst).Nodup := store.tree.nodupKeys
      have names : found.Nodup := by
        obtain ⟨_, _, isFound⟩ := Checks.bind_ok iterated
        cases isFound
        exact keys.sublist (List.filter_sublist.map _)
      exact (List.perm_insertionSort _ _).nodup_iff.mpr (names.sublist List.filter_sublist)

theorem rowsAt_reindex (completed : reindex tools config around store force db = .ok after) :
    ∃ files, iterDocFiles config store = .ok files ∧
      (∀ rel, rel ∈ files → ∃ fresh, rowsAt after rel =
        scanRows tools around store force db.folders db.defaultTenant fresh rel (rowsAt db rel)) ∧
      (∀ rel, rel ∉ files → rowsAt after rel = []) ∧ SameAround db after := by
  simp only [reindex] at completed
  split at completed
  · cases completed
  · rename_i files iterated
    cases completed
    have distinct := iterDocFiles_nodup iterated
    refine ⟨files, iterated, ?listed, ?unlisted, ?around⟩
    case listed =>
      intro rel member
      obtain ⟨fresh, scanned⟩ := (rowsAt_scan rel distinct).1 member
      exact ⟨fresh, by rw [rowsAt_removeDeleted, if_pos member, scanned]⟩
    case unlisted =>
      intro rel absent
      rw [rowsAt_removeDeleted, if_neg absent]
    case around => exact (rowsAt_scan "" distinct).2.2

end Runs

end Dosm.Docs.Indexer
