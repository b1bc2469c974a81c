import Dosm.Base.Transition
import Dosm.Docs.IndexedRows

namespace Dosm.Docs.Incremental

open Models Python Store Indexer Transition

/-! Incremental runs against a full rebuild.

Whether a file is worked on again is decided from the file alone, while a row
also keeps what the folder table and the embedder answered at the time. So the
two agree on everything that comes from the file, and on the rest as far as
those answers are still the same.
-/

def createFolder (db : IndexDb) (tenantId : Int) (name slug : String) : IndexDb :=
  let taken := db.folders.rows.any fun folder =>
    folder.tenantId = tenantId && (folder.name = name || folder.slug = slug)
  if taken then db
  else { db with folders := db.folders.insert fun id => { id, tenantId, name, slug } }

/-- Deleting a folder sets the references to it to null. -/
def deleteFolder (db : IndexDb) (id : Int) : IndexDb :=
  { db with
    folders := db.folders.remove id
    documents := db.documents.map fun doc =>
      { doc with folderId := if doc.folderId = some id then none else doc.folderId } }

/-- What a row was last written with: the embedder, and the slug its front
matter named. The folder is kept until one of that slug is created or deleted. -/
structure Written where
  embedder : Embedder
  folderSlug : Option String
  folderKept : Bool

/-- `written` remembers this for each path. -/
structure State where
  store : DocsStore
  db : IndexDb
  written : String → Option Written := fun _ => none

inductive Label where
  | files (tree : Tree)
  | createFolder (tenantId : Int) (name slug : String)
  | deleteFolder (id : Int)
  | reindex (force : Bool) (around : Surroundings)

def planAt (tools : Tools) (around : Surroundings) (store : DocsStore) (force : Bool)
    (folders : Table Folder) (rel : String) (rows : List Row) : Except Failure Plan :=
  match store.stat rel with
  | .error error => .error (.store error)
  | .ok stat =>
      match scalarOneOrNone rows with
      | .error raised => .error (.raised raised)
      | .ok found => plan tools folders (around.embedder rel) store rel force stat (found.map (·.1))

/-- The row is left alone, or only its stat is refreshed. -/
def skips : Plan → Bool
  | .unchanged | .touch _ _ => true
  | .fail _ _ | .index _ _ _ => false

def remember (tools : Tools) (around : Surroundings) (store : DocsStore) (force : Bool)
    (folders : Table Folder) (rel : String) (rows : List Row) (before : Option Written) :
    Option Written :=
  match planAt tools around store force folders rel rows, store.readText rel with
  | .ok plan, .ok content =>
      if skips plan then before
      else some ⟨around.embedder rel, (frontmatterOf tools rel content).2, true⟩
  | _, _ => before

def Written.keep (written : Written) (other : Bool) : Written :=
  { written with folderKept := written.folderKept && other }

def step (tools : Tools) (config : DocsIndexConfig) (state : State) : Label → State
  | .files tree => { state with store := { state.store with tree } }
  | .createFolder tenantId name slug =>
      { state with
        db := createFolder state.db tenantId name slug
        written := fun rel => (state.written rel).map fun last => last.keep (last.folderSlug ≠ some slug) }
  | .deleteFolder id =>
      let slug := (state.db.folders.get id).map (·.slug)
      { state with
        db := deleteFolder state.db id
        written := fun rel =>
          (state.written rel).map fun last =>
            last.keep (last.folderSlug = none || last.folderSlug ≠ slug) }
  | .reindex force around =>
      match reindex tools config around state.store force state.db with
      | .error _ => state
      | .ok db =>
          { state with
            db
            written := fun rel =>
              remember tools around state.store force state.db.folders rel (rowsAt state.db rel)
                (state.written rel) }

def indexHistory (tools : Tools) (config : DocsIndexConfig) : Machine State Label where
  initial state := state.db.documents.rows = [] ∧ ∀ rel, state.written rel = none
  step state label := some (step tools config state label)

/-- Neither size and time nor the digest confuses two versions of a path. -/
structure Distinguished (tools : Tools) (version : String → String → Int → Prop) : Prop where
  byStat : StatIdentifies version
  byDigest : ∀ rel content other mtimeMs otherMs, version rel content mtimeMs →
    version rel other otherMs → tools.sha256 content = tools.sha256 other → content = other

/-- What a run finds are versions of the history. -/
def Versioned (version : String → String → Int → Prop) (state : State) : Label → Prop
  | .reindex _ _ => Holds version state.store
  | _ => True

structure Derived (tools : Tools) (version : String → String → Int → Prop) (rel content : String)
    (folders : Table Folder) (embedder : Embedder) (facts : FileFacts) (title : Option String)
    (pieces : List (Chunk × Option (List UInt8))) (row : Row) : Prop where
  isVersion : version rel content row.1.modifiedAt
  size : row.1.sizeBytes = content.utf8ByteSize
  digest : row.1.sha256 = tools.sha256 content
  planned : ∃ stat, contentPlan tools folders embedder rel content stat = .ok (.index facts title pieces)
  rowTitle : row.1.title = title
  rowFrontmatter : row.1.frontmatterTitle = facts.frontmatterTitle
  noError : row.1.error = none
  count : row.1.chunkCount = pieces.length
  chunks : some row.2 = (Plan.index facts title pieces).chunks row.1.id

/-- What is remembered of a row is true of it, and a kept folder is still the one
its slug names. -/
def Current (folders : Table Folder) (last : Option Written) (folderSlug : Option String)
    (embedder : Embedder) (row : Row) : Prop :=
  ∀ written, last = some written → written.embedder = embedder ∧ written.folderSlug = folderSlug ∧
    (written.folderKept = true → resolveFolder folders folderSlug = .ok row.1.folderId)

def RowsSound (tools : Tools) (version : String → String → Int → Prop) (folders : Table Folder)
    (last : Option Written) (rel : String) (rows : List Row) : Prop :=
  ∀ row ∈ rows, row.1.status = .indexed → ∃ content past embedder facts title pieces,
    Derived tools version rel content past embedder facts title pieces row ∧
      Current folders last (frontmatterOf tools rel content).2 embedder row

def Sound (tools : Tools) (version : String → String → Int → Prop) (state : State) : Prop :=
  ∀ rel, RowsSound tools version state.db.folders (state.written rel) rel (rowsAt state.db rel)

section Rows

variable {tools : Tools} {version : String → String → Int → Prop} {folders past : Table Folder}
  {around : Surroundings} {store : DocsStore} {force : Bool} {rel content : String} {stat : FileStat}
  {embedder : Embedder} {last : Option Written} {row : Row} {rows : List Row} {now : Int}
  {tenant : Option Int} {fresh : Int} {facts : FileFacts} {title : Option String}
  {pieces : List (Chunk × Option (List UInt8))}

theorem derived_index (holds : Holds version store) (statted : store.stat rel = .ok stat)
    (read : store.readText rel = .ok content)
    (planned : contentPlan tools folders embedder rel content stat = .ok (.index facts title pieces)) :
    Derived tools version rel content folders embedder facts title pieces
      ((Plan.index facts title pieces).apply now row) := by
  obtain ⟨other, file, size, otherRead⟩ := fileAt_of_stat statted
  cases Except.ok.inj (read.symm.trans otherRead)
  obtain ⟨folderId, text, parsed, _, _, isFacts, _, _⟩ := contentPlan_index planned
  exact {
    isVersion := by
      rw [isFacts]
      exact holds rel content stat.mtimeMs file
    size := by
      rw [isFacts]
      exact size
    digest := by
      rw [isFacts]
      rfl
    planned := ⟨stat, planned⟩
    rowTitle := rfl
    rowFrontmatter := rfl
    noError := rfl
    count := rfl
    chunks := rfl }

theorem current_index
    (planned : contentPlan tools folders embedder rel content stat = .ok (.index facts title pieces)) :
    Current folders (some ⟨embedder, (frontmatterOf tools rel content).2, true⟩)
      (frontmatterOf tools rel content).2 embedder ((Plan.index facts title pieces).apply now row) := by
  intro written same
  obtain ⟨folderId, text, parsed, resolved, _, isFacts, _, _⟩ := contentPlan_index planned
  cases same
  have filed : ((Plan.index facts title pieces).apply now row).1.folderId = folderId := by
    rw [isFacts]
    rfl
  rw [filed]
  generalize (frontmatterOf tools rel content).2 = folderSlug at resolved ⊢
  exact ⟨rfl, rfl, fun _ => resolved⟩

theorem Current.of_folderId {folderSlug : Option String} {other : Row}
    (current : Current folders last folderSlug embedder row)
    (same : other.1.folderId = row.1.folderId) : Current folders last folderSlug embedder other := by
  intro written isLast
  rw [same]
  exact current written isLast

theorem Derived.same_content {other : String} {mtimeMs : Int} (distinguished : Distinguished tools version)
    (derived : Derived tools version rel content past embedder facts title pieces row)
    (isVersion : version rel other mtimeMs) (same : row.1.sha256 = tools.sha256 other) :
    content = other :=
  distinguished.byDigest rel content other _ _ derived.isVersion isVersion (derived.digest.symm.trans same)

theorem Derived.touch {key : Int}
    (derived : Derived tools version rel content past embedder facts title pieces row)
    (isVersion : version rel content now) :
    Derived tools version rel content past embedder facts title pieces
      ((Plan.touch content.utf8ByteSize now).apply key row) where
  isVersion := isVersion
  size := rfl
  digest := derived.digest
  planned := derived.planned
  rowTitle := derived.rowTitle
  rowFrontmatter := derived.rowFrontmatter
  noError := derived.noError
  count := derived.count
  chunks := derived.chunks

theorem remember_skipped {decision : Plan}
    (decided : planAt tools around store force folders rel rows = .ok decision)
    (skipped : skips decision = true) :
    remember tools around store force folders rel rows last = last := by
  simp only [remember, decided]
  cases store.readText rel with
  | error error => rfl
  | ok content => simp [skipped]

theorem remember_written {decision : Plan}
    (decided : planAt tools around store force folders rel rows = .ok decision)
    (read : store.readText rel = .ok content) (acted : skips decision = false) :
    remember tools around store force folders rel rows last =
      some ⟨around.embedder rel, (frontmatterOf tools rel content).2, true⟩ := by
  simp [remember, decided, read, acted]

theorem plan_sound {decision : Plan} {found : Option Row} {start : Row} {key : Int}
    (distinguished : Distinguished tools version) (holds : Holds version store)
    (statted : store.stat rel = .ok stat) (only : scalarOneOrNone rows = .ok found)
    (planned : plan tools folders (around.embedder rel) store rel force stat (found.map (·.1)) =
      .ok decision)
    (starts : ∀ old, found = some old → start = old)
    (sound : RowsSound tools version folders last rel rows) :
    RowsSound tools version folders (remember tools around store force folders rel rows last) rel
      [decision.apply key start] := by
  have decided : planAt tools around store force folders rel rows = .ok decision := by
    simp only [planAt, statted, only, planned]
  intro row member indexed
  cases List.mem_singleton.mp member
  rcases plan_cases planned with quick | ⟨content, read, touched | rewritten⟩
  · obtain ⟨isUnchanged, _, doc, isDoc, _⟩ := quick
    obtain ⟨old, isFound, _⟩ := Option.map_eq_some_iff.mp isDoc
    subst isFound
    have isOld : old ∈ rows := by simp [scalarOneOrNone_some only]
    cases starts old rfl
    cases isUnchanged
    have same : Plan.unchanged.apply key start = start := rfl
    rw [remember_skipped decided rfl]
    rw [same] at indexed ⊢
    exact sound start isOld indexed
  · obtain ⟨isTouch, _, doc, isDoc, sameContents⟩ := touched
    obtain ⟨old, isFound, sameDoc⟩ := Option.map_eq_some_iff.mp isDoc
    subst isFound
    have isOld : old ∈ rows := by simp [scalarOneOrNone_some only]
    cases starts old rfl
    cases isTouch
    cases sameDoc
    rw [remember_skipped decided rfl]
    obtain ⟨text, file, isSize, textRead⟩ := fileAt_of_stat statted
    cases Except.ok.inj (read.symm.trans textRead)
    obtain ⟨known, past, embedder, facts, title, pieces, derived, current⟩ := sound start isOld indexed
    have now := holds rel content stat.mtimeMs file
    simp only [sameContent, Bool.and_eq_true, decide_eq_true_eq] at sameContents
    cases derived.same_content distinguished now sameContents.1
    rw [isSize]
    exact ⟨content, past, embedder, facts, title, pieces, derived.touch now, current.of_folderId rfl⟩
  · cases decision with
    | unchanged =>
        obtain ⟨replacement, replaces⟩ := contentPlan_writes rewritten 0
        cases replaces
    | touch size time =>
        obtain ⟨replacement, replaces⟩ := contentPlan_writes rewritten 0
        cases replaces
    | fail facts message => cases indexed
    | index facts title pieces =>
        rw [remember_written decided read rfl]
        exact ⟨content, folders, around.embedder rel, facts, title, pieces,
          derived_index holds statted read rewritten, current_index rewritten⟩

theorem scanRows_sound (distinguished : Distinguished tools version) (holds : Holds version store)
    (sound : RowsSound tools version folders last rel rows) :
    RowsSound tools version folders (remember tools around store force folders rel rows last) rel
      (scanRows tools around store force folders tenant fresh rel rows) := by
  have alone {failure : Failure} (failed : planAt tools around store force folders rel rows = .error failure) :
      RowsSound tools version folders (remember tools around store force folders rel rows last) rel
        rows := by
    simpa only [remember, failed] using sound
  simp only [scanRows, indexRows]
  cases statted : store.stat rel with
  | error error =>
      have failed : planAt tools around store force folders rel rows = .error (.store error) := by
        simp only [planAt, statted]
      exact alone failed
  | ok stat =>
      cases only : scalarOneOrNone rows with
      | error raised =>
          have failed : planAt tools around store force folders rel rows = .error (.raised raised) := by
            simp only [planAt, statted, only]
          exact alone failed
      | ok found =>
          cases planned : plan tools folders (around.embedder rel) store rel force stat
              (found.map (·.1)) with
          | error failure =>
              have failed : planAt tools around store force folders rel rows = .error failure := by
                simp only [planAt, statted, only, planned]
              simpa only [planned] using alone failed
          | ok decision =>
              simp only [planned]
              cases found with
              | some old =>
                  have starts : ∀ other, some old = some other → old = other := fun _ => Option.some.inj
                  exact plan_sound distinguished holds statted only planned starts sound
              | none =>
                  cases tenant with
                  | none =>
                      intro row member
                      simp [scalarOneOrNone_none only] at member
                  | some tenantId =>
                      have starts (blank : Row) : ∀ other, none = some other → blank = other :=
                        fun other impossible => absurd impossible (Option.some_ne_none other).symm
                      exact plan_sound distinguished holds statted only planned (starts _) sound

end Rows

section Folders

variable {tools : Tools} {version : String → String → Int → Prop} {db : IndexDb} {rel : String}
  {tenantId id : Int} {name slug : String} {last : Option Written} {folderId : Option Int}
  {folders : Table Folder} {folderSlug : Option String}

theorem rowsAt_createFolder : rowsAt (createFolder db tenantId name slug) rel = rowsAt db rel := by
  simp only [createFolder]
  split
  · rfl
  · rfl

def detach (id : Int) (row : Row) : Row :=
  ({ row.1 with folderId := if row.1.folderId = some id then none else row.1.folderId }, row.2)

theorem rowsAt_deleteFolder :
    rowsAt (deleteFolder db id) rel = (rowsAt db rel).map (detach id) := by
  simp only [rowsAt, deleteFolder, Table.map, List.filter_map, List.map_map]
  rfl

theorem resolveFolder_createFolder (other : folderSlug ≠ some slug) :
    resolveFolder (createFolder db tenantId name slug).folders folderSlug =
      resolveFolder db.folders folderSlug := by
  cases folderSlug with
  | none => rfl
  | some wanted =>
      have different : slug ≠ wanted := fun same => other (congrArg some same.symm)
      simp only [createFolder]
      split
      · rfl
      · simp [resolveFolder, Table.insert, different]

theorem resolveFolder_member (resolved : resolveFolder folders folderSlug = .ok (some id)) :
    ∃ folder, folders.get id = some folder ∧ folderSlug = some folder.slug := by
  cases folderSlug with
  | none => cases resolved
  | some wanted =>
      simp only [resolveFolder] at resolved
      split at resolved
      · cases resolved
      · rename_i found only
        simp only [Except.ok.injEq, Option.map_eq_some_iff] at resolved
        obtain ⟨folder, isFound, isId⟩ := resolved
        subst isFound
        obtain ⟨member, named⟩ := selected_member only
        have isSlug : folder.slug = wanted := by simpa using named
        exact ⟨folder, Table.get_eq_some_iff.mpr ⟨member, isId⟩, congrArg some isSlug.symm⟩

theorem resolveFolder_deleteFolder
    (other : folderSlug = none ∨ folderSlug ≠ (db.folders.get id).map (·.slug)) :
    resolveFolder (deleteFolder db id).folders folderSlug = resolveFolder db.folders folderSlug := by
  cases folderSlug with
  | none => rfl
  | some wanted =>
      have different := other.resolve_left (Option.some_ne_none wanted)
      have same : ((db.folders.remove id).rows.filter fun folder => folder.slug = wanted) =
          db.folders.rows.filter fun folder => folder.slug = wanted := by
        change ((db.folders.rows.filter _).filter _) = _
        rw [List.filter_filter]
        refine List.filter_congr fun folder member => ?_
        by_cases named : folder.slug = wanted
        · have kept : key folder ≠ id := by
            intro isId
            rw [← isId, Table.get_key member] at different
            exact different (congrArg some named.symm)
          simp [kept]
        · simp [named]
      simp only [deleteFolder, resolveFolder, same]

theorem detach_folderId {row : Row} (resolved : resolveFolder db.folders folderSlug = .ok row.1.folderId)
    (other : folderSlug = none ∨ folderSlug ≠ (db.folders.get id).map (·.slug)) :
    (detach id row).1.folderId = row.1.folderId := by
  simp only [detach]
  split
  · rename_i isId
    rw [isId] at resolved
    obtain ⟨folder, found, named⟩ := resolveFolder_member resolved
    rw [found] at other
    rcases other with without | different
    · rw [without] at resolved
      cases resolved
    · exact absurd named different
  · rfl

theorem Derived.detach {content : String} {past : Table Folder} {embedder : Embedder} {facts : FileFacts}
    {title : Option String} {pieces : List (Chunk × Option (List UInt8))} {row : Row}
    (derived : Derived tools version rel content past embedder facts title pieces row) :
    Derived tools version rel content past embedder facts title pieces (detach id row) where
  isVersion := derived.isVersion
  size := derived.size
  digest := derived.digest
  planned := derived.planned
  rowTitle := derived.rowTitle
  rowFrontmatter := derived.rowFrontmatter
  noError := derived.noError
  count := derived.count
  chunks := derived.chunks

end Folders

section Runs

variable {tools : Tools} {version : String → String → Int → Prop} {config : DocsIndexConfig}
  {state : State} {label : Label} {around : Surroundings} {force : Bool} {rel : String}

theorem sound_createFolder {tenantId : Int} {name slug : String} (sound : Sound tools version state) :
    Sound tools version (step tools config state (.createFolder tenantId name slug)) := by
  intro rel row member indexed
  simp only [step, rowsAt_createFolder] at member
  obtain ⟨content, past, embedder, facts, title, pieces, derived, current⟩ := sound rel row member indexed
  refine ⟨content, past, embedder, facts, title, pieces, derived, ?_⟩
  intro written isLast
  obtain ⟨before, remembered, isWritten⟩ := Option.map_eq_some_iff.mp isLast
  obtain ⟨sameEmbedder, sameSlug, resolved⟩ := current before remembered
  subst isWritten
  refine ⟨sameEmbedder, sameSlug, ?_⟩
  intro kept
  simp only [Written.keep, sameSlug, Bool.and_eq_true, decide_eq_true_eq] at kept
  exact (resolveFolder_createFolder kept.2).trans (resolved kept.1)

theorem sound_deleteFolder {id : Int} (sound : Sound tools version state) :
    Sound tools version (step tools config state (.deleteFolder id)) := by
  intro rel row member indexed
  simp only [step, rowsAt_deleteFolder] at member
  obtain ⟨old, oldMember, isRow⟩ := List.mem_map.mp member
  subst isRow
  obtain ⟨content, past, embedder, facts, title, pieces, derived, current⟩ :=
    sound rel old oldMember indexed
  refine ⟨content, past, embedder, facts, title, pieces, derived.detach, ?_⟩
  intro written isLast
  obtain ⟨before, remembered, isWritten⟩ := Option.map_eq_some_iff.mp isLast
  obtain ⟨sameEmbedder, sameSlug, resolved⟩ := current before remembered
  subst isWritten
  refine ⟨sameEmbedder, sameSlug, ?_⟩
  intro kept
  simp only [Written.keep, sameSlug, Bool.and_eq_true, Bool.or_eq_true, decide_eq_true_eq] at kept
  rw [detach_folderId (resolved kept.1) kept.2]
  exact (resolveFolder_deleteFolder kept.2).trans (resolved kept.1)

theorem sound_reindex (distinguished : Distinguished tools version) (holds : Holds version state.store)
    (sound : Sound tools version state) :
    Sound tools version (step tools config state (.reindex force around)) := by
  intro rel
  simp only [step]
  cases completed : reindex tools config around state.store force state.db with
  | error error => exact sound rel
  | ok after =>
      obtain ⟨files, _, listed, unlisted, folders, _⟩ := rowsAt_reindex completed
      simp only [folders]
      by_cases member : rel ∈ files
      · obtain ⟨fresh, scanned⟩ := listed rel member
        rw [scanned]
        exact scanRows_sound distinguished holds (sound rel)
      · rw [unlisted rel member]
        intro row rowMember
        exact absurd rowMember List.not_mem_nil

theorem sound_step (distinguished : Distinguished tools version) (meets : Versioned version state label)
    (sound : Sound tools version state) : Sound tools version (step tools config state label) := by
  cases label with
  | files tree => exact sound
  | createFolder tenantId name slug => exact sound_createFolder sound
  | deleteFolder id => exact sound_deleteFolder sound
  | reindex force around => exact sound_reindex distinguished meets sound

theorem sound_reached (distinguished : Distinguished tools version)
    (reached : (indexHistory tools config).ReachableUnder (Versioned version) state) :
    Sound tools version state := by
  have starts : ∀ start, (indexHistory tools config).initial start → Sound tools version start := by
    intro start empty rel row member
    have nothing := (mem_rowsAt.mp member).1
    rw [empty.1] at nothing
    exact absurd nothing List.not_mem_nil
  have preserved : ∀ before label after, Versioned version before label →
      (indexHistory tools config).step before label = some after →
      Sound tools version before → Sound tools version after := by
    intro before label after meets stepped sound
    cases stepped
    exact sound_step distinguished meets sound
  exact reached.invariant starts preserved

end Runs

/-! Comparing what two runs leave. -/

/-- A row without its keys and the time it was indexed at. -/
def unkeyed (row : Row) : Row :=
  ({ row.1 with id := 0, indexedAt := none }, row.2.map fun chunk => { chunk with docId := 0 })

/-- What a row has from the text of its file. -/
def fromText (row : Row) : Row :=
  ({ row.1 with
      id := 0, indexedAt := none, sha256 := "", sizeBytes := 0, modifiedAt := 0, folderId := none },
    row.2.map fun chunk => { chunk with docId := 0, embedding := none })

def embeddings (row : Row) : List (Option (List UInt8)) := row.2.map (·.embedding)

/-- No folder of the row's slug was created or deleted since it was written. -/
def FolderKept (last : Option Written) : Prop := ∃ written, last = some written ∧ written.folderKept = true

/-- The embedder answers for the file as it did when the row was written. -/
def VectorsKept (tools : Tools) (around : Surroundings) (store : DocsStore) (rel : String)
    (last : Option Written) : Prop :=
  ∃ written, last = some written ∧ ∀ content text title, store.readText rel = .ok content →
    tools.parse rel content = .ok (text, title) →
    vectors written.embedder (tools.chunkText text) =
      vectors (around.embedder rel) (tools.chunkText text)

/-- The rows of an incremental run against those of a full one. -/
structure Agree (folderKept vectorsKept : Prop) (quick full : List Row) : Prop where
  text : quick.map fromText = full.map fromText
  folder : folderKept → (quick.map fun row => row.1.folderId) = full.map fun row => row.1.folderId
  vectors : vectorsKept → quick.map embeddings = full.map embeddings
  whole : folderKept → vectorsKept → quick.map unkeyed = full.map unkeyed

def Skipped (tools : Tools) (around : Surroundings) (store : DocsStore) (folders : Table Folder)
    (rel : String) (rows : List Row) : Prop :=
  ∃ decision, planAt tools around store false folders rel rows = .ok decision ∧ skips decision = true

section Agreement

variable {tools : Tools} {version : String → String → Int → Prop} {folders past : Table Folder}
  {around : Surroundings} {store : DocsStore} {rel content : String} {stat : FileStat}
  {embedder known : Embedder} {last : Option Written} {row : Row} {rows : List Row} {now : Int}
  {found : Option Document} {later : FileStat} {tenant : Option Int} {folderId : Option Int} {fresh other : Int} {facts : FileFacts} {title : Option String}
  {pieces : List (Chunk × Option (List UInt8))}

theorem fromText_unkeyed : fromText (unkeyed row) = fromText row := by
  simp only [fromText, unkeyed, List.map_map]
  rfl

theorem unkeyed_apply {decision : Plan} {doc : Document} {replacement : List DocChunk}
    (replaces : ∃ chunks, decision.chunks 0 = some chunks) :
    unkeyed (decision.apply now ({ doc with id := fresh }, replacement)) =
      unkeyed (decision.apply now ({ doc with id := other }, replacement)) := by
  cases decision with
  | unchanged =>
      obtain ⟨chunks, impossible⟩ := replaces
      cases impossible
  | touch size time =>
      obtain ⟨chunks, impossible⟩ := replaces
      cases impossible
  | fail facts message => rfl
  | index facts title pieces =>
      simp only [unkeyed, Plan.apply, Plan.row, Plan.chunks, writeFacts, Option.getD_some, List.map_map]
      rfl

theorem contentPlan_again (embedder : Embedder) (later : FileStat)
    (planned : contentPlan tools past known rel content stat = .ok (.index facts title pieces))
    (resolved : resolveFolder folders (frontmatterOf tools rel content).2 = .ok folderId) :
    ∃ text parsed, tools.parse rel content = .ok (text, parsed) ∧
      pieces = (tools.chunkText text).zip (vectors known (tools.chunkText text)) ∧
      contentPlan tools folders embedder rel content later =
        .ok (.index
          { sha256 := tools.sha256 content, sizeBytes := later.size, modifiedAt := later.mtimeMs,
            folderId, frontmatterTitle := facts.frontmatterTitle }
          title ((tools.chunkText text).zip (vectors embedder (tools.chunkText text)))) := by
  obtain ⟨_, text, parsed, _, parses, isFacts, isTitle, isPieces⟩ := contentPlan_index planned
  refine ⟨text, parsed, parses, isPieces, ?_⟩
  rw [isFacts, isTitle]
  simp only [contentPlan, resolved, parses]

theorem texts_of_zip (facts : FileFacts) (title : Option String) {chunks : List Chunk} {docId : Int}
    {replacement : List DocChunk}
    (replaces : some replacement =
      (Plan.index facts title (chunks.zip (vectors embedder chunks))).chunks docId) :
    (replacement.map fun chunk => { chunk with docId := 0, embedding := none }) =
      chunks.map fun chunk =>
        ({ docId := 0, ord := chunk.ord, text := chunk.text, startChar := chunk.startChar,
           endChar := chunk.endChar, embedding := none } : DocChunk) := by
  have texts : (chunks.zip (vectors embedder chunks)).map Prod.fst = chunks :=
    List.map_fst_zip (Nat.le_of_eq vectors_length.symm)
  cases replaces
  simp only [List.map_map]
  conv =>
    rhs
    rw [← texts]
  simp only [List.map_map]
  rfl

/-- A run that skips a row leaves it with the stat of the file, which still has
the content the row was made from. -/
theorem skipped_row {decision : Plan} (distinguished : Distinguished tools version)
    (holds : Holds version store) (statted : store.stat rel = .ok stat)
    (planned : plan tools folders embedder store rel false stat (some row.1) = .ok decision)
    (skipped : skips decision = true)
    (sound : RowsSound tools version folders last rel [row]) :
    decision.apply now row = (Plan.touch stat.size stat.mtimeMs).apply now row ∧
      row.1.status = .indexed ∧
      ∃ content past known facts title pieces, store.readText rel = .ok content ∧
        Derived tools version rel content past known facts title pieces row ∧
        Current folders last (frontmatterOf tools rel content).2 known row := by
  obtain ⟨content, file, isSize, read⟩ := fileAt_of_stat statted
  have now := holds rel content stat.mtimeMs file
  have own : row ∈ [row] := List.mem_singleton.mpr rfl
  rcases plan_cases planned with quick | ⟨text, textRead, touched | rewritten⟩
  · obtain ⟨isUnchanged, _, doc, isDoc, isSettled⟩ := quick
    cases isDoc
    simp only [settled, Bool.and_eq_true, decide_eq_true_eq] at isSettled
    obtain ⟨⟨indexed, sameSize⟩, sameTime⟩ := isSettled
    obtain ⟨known, past, embedder, facts, title, pieces, derived, current⟩ := sound row own indexed
    have same : known = content := by
      have isVersion := derived.isVersion
      rw [sameTime] at isVersion
      exact distinguished.byStat rel known content _ isVersion now
        (derived.size.symm.trans (sameSize.trans isSize))
    subst same
    refine ⟨?_, indexed, known, past, embedder, facts, title, pieces, read, derived, current⟩
    rw [isUnchanged, ← sameSize, ← sameTime]
    rfl
  · obtain ⟨isTouch, _, doc, isDoc, sameContents⟩ := touched
    cases isDoc
    cases Except.ok.inj (read.symm.trans textRead)
    simp only [sameContent, Bool.and_eq_true, decide_eq_true_eq] at sameContents
    obtain ⟨known, past, embedder, facts, title, pieces, derived, current⟩ :=
      sound row own sameContents.2
    cases derived.same_content distinguished now sameContents.1
    exact ⟨by rw [isTouch], sameContents.2, content, past, embedder, facts, title, pieces, read, derived,
      current⟩
  · obtain ⟨replacement, replaces⟩ := contentPlan_writes rewritten 0
    cases decision with
    | unchanged => cases replaces
    | touch size time => cases replaces
    | fail facts message => cases skipped
    | index facts title pieces => cases skipped

theorem again_agrees (embedder : Embedder) (now : Int)
    (derived : Derived tools version rel content past known facts title pieces row)
    (indexed : row.1.status = .indexed)
    (resolved : resolveFolder folders (frontmatterOf tools rel content).2 = .ok folderId) :
    ∃ decision, contentPlan tools folders embedder rel content later = .ok decision ∧
      Agree (folderId = row.1.folderId)
        (∀ text parsed, tools.parse rel content = .ok (text, parsed) →
          vectors known (tools.chunkText text) = vectors embedder (tools.chunkText text))
        [(Plan.touch later.size later.mtimeMs).apply now row] [decision.apply now row] := by
  obtain ⟨stat, planned⟩ := derived.planned
  obtain ⟨text, parsed, parses, isPieces, again⟩ := contentPlan_again embedder later planned resolved
  have chunks := derived.chunks
  have count := derived.count
  rw [isPieces] at chunks count
  have isChunks := Option.some.inj chunks
  refine ⟨_, again, ?text, ?folder, ?vectors, ?whole⟩
  case text =>
    refine congrArg (fun row => [row]) (Prod.ext ?_ ?_)
    · simp only [fromText, Plan.apply, Plan.row, writeFacts, indexed, derived.noError, derived.rowTitle,
        derived.rowFrontmatter, count, List.length_zip, vectors_length]
    · exact (texts_of_zip facts title chunks).trans (texts_of_zip facts title rfl).symm
  case folder =>
    intro sameFolder
    exact congrArg (fun folderId => [folderId]) sameFolder.symm
  case vectors =>
    intro sameVectors
    rw [sameVectors text parsed parses] at isChunks
    simp only [List.map_cons, List.map_nil, embeddings, Plan.apply, Plan.chunks, Option.getD_none,
      Option.getD_some, isChunks]
  case whole =>
    intro sameFolder sameVectors
    rw [sameVectors text parsed parses] at isChunks
    refine congrArg (fun row => [row]) (Prod.ext ?_ ?_)
    · simp only [unkeyed, Plan.apply, Plan.row, writeFacts, indexed, derived.noError, derived.rowTitle,
        derived.rowFrontmatter, derived.digest, count, List.length_zip, vectors_length, sameFolder]
    · simp only [unkeyed, Plan.apply, Plan.chunks, Option.getD_none, Option.getD_some, isChunks]

theorem plan_of_force (acts : ∀ decision, plan tools folders embedder store rel false stat found =
      .ok decision → skips decision = false) :
    plan tools folders embedder store rel true stat found =
      plan tools folders embedder store rel false stat found := by
  cases quick : found.any (settled stat) with
  | true =>
      have skipped := acts .unchanged (by simp [plan, quick])
      cases skipped
  | false =>
      cases read : store.readText rel with
      | error error => simp [plan, quick, read]
      | ok content =>
          cases touched : found.any (sameContent (tools.sha256 content)) with
          | true =>
              have skipped := acts (.touch stat.size stat.mtimeMs) (by simp [plan, quick, read, touched])
              cases skipped
          | false => simp [plan, quick, read, touched]

variable {folderKept vectorsKept : Prop} {first second : List Row}

theorem Agree.of_unkeyed (same : first.map unkeyed = second.map unkeyed) :
    Agree folderKept vectorsKept first second := by
  have erased {Part : Type} (part : Row → Part) (unaffected : ∀ row, part (unkeyed row) = part row) :
      first.map part = second.map part := by
    have through (rows : List Row) : rows.map part = (rows.map unkeyed).map part := by
      rw [List.map_map]
      exact List.map_congr_left fun row _ => (unaffected row).symm
    rw [through first, through second, same]
  have sameEmbeddings (row : Row) : embeddings (unkeyed row) = embeddings row := by
    simp only [embeddings, unkeyed, List.map_map]
    rfl
  exact {
    text := erased fromText fun _ => fromText_unkeyed
    folder := fun _ => erased (fun row => row.1.folderId) fun _ => rfl
    vectors := fun _ => erased embeddings sameEmbeddings
    whole := fun _ _ => same }

theorem Agree.mono {folder vectors : Prop} (agree : Agree folderKept vectorsKept first second)
    (keepsFolder : folder → folderKept) (keepsVectors : vectors → vectorsKept) :
    Agree folder vectors first second where
  text := agree.text
  folder kept := agree.folder (keepsFolder kept)
  vectors kept := agree.vectors (keepsVectors kept)
  whole folder vectors := agree.whole (keepsFolder folder) (keepsVectors vectors)

theorem scanRows_skipped {decision : Plan} (distinguished : Distinguished tools version)
    (holds : Holds version store) (statted : store.stat rel = .ok stat)
    (planned : plan tools folders (around.embedder rel) store rel false stat (some row.1) = .ok decision)
    (skipped : skips decision = true) (sound : RowsSound tools version folders last rel [row]) :
    Agree (FolderKept last) (VectorsKept tools around store rel last)
      [decision.apply (around.clock rel) row]
      (scanRows tools around store true folders tenant other rel [row]) := by
  obtain ⟨isTouch, indexed, content, past, known, facts, title, pieces, read, derived, current⟩ :=
    skipped_row distinguished holds statted planned skipped sound
  have forced : plan tools folders (around.embedder rel) store rel true stat (some row.1) =
      contentPlan tools folders (around.embedder rel) rel content stat := by
    simp [plan, read]
  have keptFolder : FolderKept last →
      resolveFolder folders (frontmatterOf tools rel content).2 = .ok row.1.folderId := by
    intro kept
    obtain ⟨written, remembered, isKept⟩ := kept
    exact (current written remembered).2.2 isKept
  rw [isTouch]
  simp only [scanRows, indexRows, statted, scalarOneOrNone, Option.map_some, forced]
  cases resolved : resolveFolder folders (frontmatterOf tools rel content).2 with
  | error raised =>
      have failed : contentPlan tools folders (around.embedder rel) rel content stat =
          .error (.raised raised) := by
        simp only [contentPlan, resolved]
      rw [failed]
      have impossible (kept : FolderKept last) : False := by
        cases resolved.symm.trans (keptFolder kept)
      exact {
        text := rfl
        folder := fun _ => rfl
        vectors := fun _ => rfl
        whole := fun kept => absurd kept impossible }
  | ok folderId =>
      obtain ⟨again, planned, agree⟩ :=
        again_agrees (around.embedder rel) (around.clock rel) derived indexed resolved
      rw [planned]
      refine agree.mono (fun kept => Except.ok.inj (resolved.symm.trans (keptFolder kept))) ?_
      intro kept text parsed parses
      obtain ⟨written, remembered, sameVectors⟩ := kept
      rw [← (current written remembered).1]
      exact sameVectors content text parsed read parses

theorem scanRows_agree (distinguished : Distinguished tools version) (holds : Holds version store)
    (sound : RowsSound tools version folders last rel rows) :
    Agree (Skipped tools around store folders rel rows → FolderKept last)
      (Skipped tools around store folders rel rows → VectorsKept tools around store rel last)
      (scanRows tools around store false folders tenant fresh rel rows)
      (scanRows tools around store true folders tenant other rel rows) := by
  cases statted : store.stat rel with
  | error error =>
      apply Agree.of_unkeyed
      simp only [scanRows, indexRows, statted]
  | ok stat =>
      cases only : scalarOneOrNone rows with
      | error raised =>
          apply Agree.of_unkeyed
          simp only [scanRows, indexRows, statted, only]
      | ok found =>
          by_cases acts : ∀ decision,
              plan tools folders (around.embedder rel) store rel false stat (found.map (·.1)) =
                .ok decision → skips decision = false
          · apply Agree.of_unkeyed
            have forced := plan_of_force acts
            cases planned : plan tools folders (around.embedder rel) store rel false stat
                (found.map (·.1)) with
            | error failure => simp only [scanRows, indexRows, statted, only, forced, planned]
            | ok decision =>
                rw [planned] at forced
                simp only [scanRows, indexRows, statted, only, forced, planned]
                cases found with
                | some row => rfl
                | none =>
                    cases tenant with
                    | none => rfl
                    | some tenantId =>
                        have writes := plan_none_writes planned 0
                        exact congrArg (fun row => [row]) (unkeyed_apply writes)
          · simp only [not_forall, Bool.not_eq_false] at acts
            obtain ⟨decision, planned, skipped⟩ := acts
            cases found with
            | none =>
                obtain ⟨replacement, replaces⟩ := plan_none_writes planned 0
                cases decision with
                | unchanged => cases replaces
                | touch size time => cases replaces
                | fail facts message => cases skipped
                | index facts title pieces => cases skipped
            | some row =>
                cases scalarOneOrNone_some only
                have quick : scanRows tools around store false folders tenant fresh rel [row] =
                    [decision.apply (around.clock rel) row] := by
                  simp only [Option.map_some] at planned
                  simp only [scanRows, indexRows, statted, only, Option.map_some, planned]
                have decided : Skipped tools around store folders rel [row] := by
                  refine ⟨decision, ?_, skipped⟩
                  simp only [planAt, statted, only, planned]
                rw [quick]
                have agree : Agree _ _ _ (scanRows tools around store true folders tenant other rel [row]) :=
                  scanRows_skipped distinguished holds statted planned skipped sound
                exact agree.mono (fun kept => kept decided) fun kept => kept decided

end Agreement

/-- After a history of edits, folder changes and runs, an incremental run leaves
for every path what a full one leaves: always the same text, and the same folder
and embeddings unless the path is skipped and these have changed meanwhile. -/
theorem incremental_agrees {tools : Tools} {config : DocsIndexConfig}
    {version : String → String → Int → Prop} {state : State} {around : Surroundings}
    {quick : IndexDb} (distinguished : Distinguished tools version)
    (reached : (indexHistory tools config).ReachableUnder (Versioned version) state)
    (holds : Holds version state.store)
    (completed : reindex tools config around state.store false state.db = .ok quick) :
    ∃ full, reindex tools config around state.store true state.db = .ok full ∧ ∀ rel,
      let skipped := Skipped tools around state.store state.db.folders rel (rowsAt state.db rel)
      Agree (skipped → FolderKept (state.written rel))
        (skipped → VectorsKept tools around state.store rel (state.written rel))
        (rowsAt quick rel) (rowsAt full rel) := by
  have sound := sound_reached distinguished reached
  obtain ⟨files, iterated, listed, unlisted, _⟩ := rowsAt_reindex completed
  have finished : ∃ full, reindex tools config around state.store true state.db = .ok full := by
    simp only [reindex, iterated]
    exact ⟨_, rfl⟩
  obtain ⟨full, fullCompleted⟩ := finished
  obtain ⟨again, iteratedAgain, fullListed, fullUnlisted, _⟩ := rowsAt_reindex fullCompleted
  cases Except.ok.inj (iterated.symm.trans iteratedAgain)
  refine ⟨full, fullCompleted, fun rel => ?_⟩
  by_cases member : rel ∈ files
  · obtain ⟨fresh, scanned⟩ := listed rel member
    obtain ⟨other, fullScanned⟩ := fullListed rel member
    rw [scanned, fullScanned]
    exact scanRows_agree distinguished holds (sound rel)
  · rw [unlisted rel member, fullUnlisted rel member]
    exact Agree.of_unkeyed rfl

/-! A file that names a folder. -/

def runbook : String := "---\nfolder: ops\n---\nrun"

def runbookTools : Tools where
  sha256 _ := "2f350aa94c5010891584b6df5114486fbdd88fdd98475c19de76f26177e404a8"
  yaml := {
    load := fun block => if block = "folder: ops" then some { folder := some "ops" } else none
    dump := fun title folder _ _ => "title: " ++ title ++ "\nfolder: " ++ folder ++ "\n" }
  parse _ _ := .ok ("run", some "run")
  chunkText _ := [{ ord := 0, text := "run", startChar := 0, endChar := 3 }]

def runbookStore : DocsStore where
  backend := .localRoot fun _ => true
  present := true
  tree := (∅ : Tree).insert "runbook.md" (.file runbook 1000)

def unindexed : State := { store := runbookStore, db := { defaultTenant := some 1 } }

def quiet : Surroundings := { embedder := fun _ _ => none, clock := fun _ => 2000 }

def indexedOnce : State := step runbookTools {} unindexed (.reindex false quiet)

def OneVersion (_ content : String) (mtimeMs : Int) : Prop := content = runbook ∧ mtimeMs = 1000

theorem oneVersion_distinguished : Distinguished runbookTools OneVersion where
  byStat _ _ _ _ first second _ := first.1.trans second.1.symm
  byDigest _ _ _ _ _ first second _ := first.1.trans second.1.symm

theorem runbookStore_holds : Holds OneVersion runbookStore := by
  intro rel content mtimeMs file
  simp only [DocsStore.fileAt] at file
  split at file
  · cases file
  · rename_i norm _
    by_cases same : norm = "runbook.md"
    · subst same
      simp only [runbookStore, AList.lookup_insert, Except.ok.injEq, Prod.mk.injEq] at file
      exact ⟨file.1.symm, file.2.symm⟩
    · have absent : runbookStore.tree.lookup norm = none :=
        (AList.lookup_insert_ne same).trans (AList.lookup_empty norm)
      rw [absent] at file
      cases file

theorem indexedOnce_reached :
    (indexHistory runbookTools {}).ReachableUnder (Versioned OneVersion) indexedOnce :=
  ⟨unindexed, [.reindex false quiet], ⟨rfl, fun _ => rfl⟩, rfl, runbookStore_holds, fun _ _ => trivial⟩

theorem incremental_agrees_runbook :
    ∃ quick full, reindex runbookTools {} quiet runbookStore false indexedOnce.db = .ok quick ∧
      reindex runbookTools {} quiet runbookStore true indexedOnce.db = .ok full ∧
      (rowsAt quick "runbook.md").map unkeyed = (rowsAt full "runbook.md").map unkeyed := by
  have finished : ∃ quick, reindex runbookTools {} quiet runbookStore false indexedOnce.db = .ok quick :=
    ⟨_, rfl⟩
  obtain ⟨quick, completed⟩ := finished
  obtain ⟨full, fullCompleted, agree⟩ :=
    incremental_agrees oneVersion_distinguished indexedOnce_reached runbookStore_holds completed
  refine ⟨quick, full, completed, fullCompleted, (agree "runbook.md").whole ?folder ?vectors⟩
  case folder =>
    intro _
    have kept : (indexedOnce.written "runbook.md").map (·.folderKept) = some true := by decide
    exact Option.map_eq_some_iff.mp kept
  case vectors =>
    intro _
    have kept : ((indexedOnce.written "runbook.md").map fun written =>
        vectors written.embedder (runbookTools.chunkText "run")) = some [none] := by decide
    obtain ⟨written, remembered, same⟩ := Option.map_eq_some_iff.mp kept
    exact ⟨written, remembered, fun _ _ _ _ _ => same⟩

def folderAdded : State := step runbookTools {} indexedOnce (.createFolder 1 "Operations" "ops")

/-- A folder created after the file was indexed is found by a full run only. -/
theorem new_folder_unseen :
    ∃ quick full,
      Distinguished runbookTools OneVersion ∧ Holds OneVersion folderAdded.store ∧
      (indexHistory runbookTools {}).ReachableUnder (Versioned OneVersion) folderAdded ∧
      reindex runbookTools {} quiet folderAdded.store false folderAdded.db = .ok quick ∧
      reindex runbookTools {} quiet folderAdded.store true folderAdded.db = .ok full ∧
      (rowsAt quick "runbook.md").map (·.1.folderId) ≠ (rowsAt full "runbook.md").map (·.1.folderId) := by
  have meets : Versioned OneVersion indexedOnce (.createFolder 1 "Operations" "ops") := trivial
  have reached := indexedOnce_reached.extend meets rfl
  refine ⟨_, _, oneVersion_distinguished, runbookStore_holds, reached, rfl, rfl, ?_⟩
  decide

end Dosm.Docs.Incremental
