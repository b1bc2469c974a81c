import Dosm.Agent.Action
import Dosm.Docs.IndexedRows

namespace Dosm.Docs.Source

open Models Python Store Indexer Agent

/-! Which store the configuration leads to. A share that cannot be built gives
way to the local directory; one that cannot be reached is found out later, by
its first use.
-/

structure Connection where
  server : String
  share : String
  basePath : String
  port : Nat
  encrypt : Bool
  username : String
  domain : String
  password : String
  deriving DecidableEq

/-- A share as it answers now, if it answers at all. -/
structure Share where
  fault : Option String
  present : Bool
  tree : Tree

def Share.store (share : Share) : DocsStore where
  backend := .smb share.fault
  present := share.present
  tree := share.tree

/-- The docs directory, and which paths resolve to somewhere inside it. -/
structure DocsDir where
  contained : String → Bool
  present : Bool
  tree : Tree

def DocsDir.store (docsDir : DocsDir) : DocsStore where
  backend := .localRoot docsDir.contained
  present := docsDir.present
  tree := docsDir.tree

/-- The store built last, under the settings it was built from, and why the
last attempt failed. -/
structure StoreCache where
  built : Option (SmbDocsConfig × Connection) := none
  lastError : Option String := none
  deriving DecidableEq

/-- User name, domain and password of a login profile. -/
def resolveLoginCredential (world : World) (cred : Credential) : Except String (String × String × String) :=
  match world.secrets.lookup cred.secretRef with
  | none => .error ("secret not found: " ++ cred.secretRef)
  | some password => .ok (cred.username.getD "", cred.domain.getD "", password)

def buildSmbStore (world : World) (smb : SmbDocsConfig) : Except String Connection :=
  if smb.server = "" ∨ smb.share = "" then .error "SMB source requires server and share"
  else
    match smb.credentialId with
    | none => .error "SMB source requires a login credential"
    | some id =>
        match world.db.credentials.get id with
        | none => .error ("credential id " ++ toString id ++ " not found")
        | some cred =>
            if cred.kind ≠ .login then
              .error ("credential " ++ Python.repr cred.name ++ " is not a login credential")
            else
              match resolveLoginCredential world cred with
              | .error error => .error error
              | .ok (username, domain, password) =>
                  .ok {
                    server := smb.server
                    share := smb.share
                    basePath := smb.basePath
                    port := smb.port
                    encrypt := smb.encrypt
                    username
                    domain
                    password }

/-- Never fails: what cannot be built is replaced by the local directory. -/
def makeDocsStore (config : DocsIndexConfig) (world : World) (network : Connection → Share)
    (docsDir : DocsDir) (cache : StoreCache) : DocsStore × StoreCache :=
  if config.source ≠ "smb" then (docsDir.store, cache)
  else
    match cache.built.filter fun entry => entry.1 = config.smb with
    | some (_, connection) => ((network connection).store, cache)
    | none =>
        match buildSmbStore world config.smb with
        | .ok connection =>
            ((network connection).store, { built := some (config.smb, connection), lastError := none })
        | .error error => (docsDir.store, { cache with lastError := some error })

def isLocal (store : DocsStore) : Bool :=
  match store.backend with
  | .localRoot _ => true
  | .smb _ => false

def storeFellBack (config : DocsIndexConfig) (store : DocsStore) : Bool :=
  config.source = "smb" && isLocal store

end Dosm.Docs.Source

namespace Dosm.Docs.SourceLoss

open Models Store Indexer Source Agent

/-! What a reindex does to the index while the configured share cannot be used.

The local directory is scanned in its place, and the prune takes every row whose
path that directory does not have. A share that is found absent lists nothing,
so nothing is left.
-/

/-- A file of this stat and content has nothing new for the row, or cannot be
indexed. -/
def NothingNew (tools : Tools) (around : Surroundings) (force : Bool) (db : IndexDb) (doc : Document)
    (stat : FileStat) (content : String) : Prop :=
  (force = false ∧ settled stat doc) ∨
    ((force = true ∨ ¬ sameContent (tools.sha256 content) doc) ∧
      ∃ failure, contentPlan tools db.folders (around.embedder doc.relPath) doc.relPath content stat =
        .error failure)

/-- The file of the row's path leaves the row alone; so does a file that cannot
be read and a path with several rows. -/
def LeftAlone (tools : Tools) (around : Surroundings) (store : DocsStore) (force : Bool)
    (db : IndexDb) (doc : Document) : Prop :=
  ∀ stat content, store.stat doc.relPath = .ok stat → store.readText doc.relPath = .ok content →
    (db.documents.rows.filter fun row => row.relPath = doc.relPath) = [doc] →
    NothingNew tools around force db doc stat content

/-- The row is spared: the fallback directory has a file of its path, and that
file leaves it alone. -/
structure Spared (tools : Tools) (config : DocsIndexConfig) (around : Surroundings)
    (store : DocsStore) (force : Bool) (db : IndexDb) (doc : Document) : Prop where
  fellBack : storeFellBack config store
  listed : ∃ files, iterDocFiles config store = .ok files ∧ doc.relPath ∈ files
  leftAlone : LeftAlone tools around store force db doc

/-- The document and its chunks are still there, as they were. -/
def Unchanged (db after : IndexDb) (doc : Document) : Prop :=
  doc ∈ after.documents.rows ∧ chunksOf after doc.id = chunksOf db doc.id

section Rows

variable {tools : Tools} {config : DocsIndexConfig} {around : Surroundings} {store : DocsStore}
  {force : Bool} {db after : IndexDb} {doc : Document} {row : Row} {rel : String} {now : Int}
  {decision : Plan} {stat : FileStat} {content : String} {fresh : Int}

theorem unchanged_iff : Unchanged db after doc ↔ rowOf db doc ∈ rowsAt after doc.relPath := by
  rw [mem_rowsAt]
  constructor
  · intro unchanged
    exact ⟨unchanged.1, rfl, unchanged.2.symm⟩
  · intro parts
    exact ⟨parts.1, parts.2.2.symm⟩

theorem apply_eq_iff (ticks : doc.indexedAt ≠ some now) (chunks : List DocChunk) :
    decision.apply now (doc, chunks) = (doc, chunks) ↔
      decision = .unchanged ∨ decision = .touch doc.sizeBytes doc.modifiedAt := by
  cases decision with
  | unchanged => simp [Plan.apply, Plan.row, Plan.chunks]
  | touch sizeBytes modifiedAt =>
      simp only [Plan.apply, Plan.row, Plan.chunks, Option.getD_none, Prod.mk.injEq, and_true,
        reduceCtorEq, Plan.touch.injEq, false_or]
      constructor
      · intro same
        have sameSize := congrArg Document.sizeBytes same
        have sameTime := congrArg Document.modifiedAt same
        exact ⟨sameSize, sameTime⟩
      · intro same
        obtain ⟨sameSize, sameTime⟩ := same
        rw [sameSize, sameTime]
  | fail facts message =>
      constructor
      · intro same
        have stamped := congrArg (fun row : Row => row.1.indexedAt) same
        exact absurd stamped.symm ticks
      · rintro (same | same) <;> cases same
  | index facts title pieces =>
      constructor
      · intro same
        have stamped := congrArg (fun row : Row => row.1.indexedAt) same
        exact absurd stamped.symm ticks
      · rintro (same | same) <;> cases same

theorem contentPlan_changes (planned : contentPlan tools db.folders (around.embedder rel) rel content stat =
    .ok decision) (ticks : doc.indexedAt ≠ some now) (chunks : List DocChunk) :
    decision.apply now (doc, chunks) ≠ (doc, chunks) := by
  intro same
  obtain ⟨replacement, replaces⟩ := contentPlan_writes planned doc.id
  rcases (apply_eq_iff ticks chunks).mp same with isUnchanged | isTouch
  · simp [isUnchanged, Plan.chunks] at replaces
  · simp [isTouch, Plan.chunks] at replaces

theorem leftAlone_iff (statted : store.stat doc.relPath = .ok stat)
    (read : store.readText doc.relPath = .ok content)
    (only : (db.documents.rows.filter fun row => row.relPath = doc.relPath) = [doc]) :
    LeftAlone tools around store force db doc ↔ NothingNew tools around force db doc stat content := by
  constructor
  · intro alone
    exact alone stat content statted read only
  · intro nothing other text otherStat otherRead _
    cases Except.ok.inj (statted.symm.trans otherStat)
    cases Except.ok.inj (read.symm.trans otherRead)
    exact nothing

theorem leftAlone_of_error {error : StoreError} (failed : store.stat doc.relPath = .error error) :
    LeftAlone tools around store force db doc := by
  intro stat content statted _ _
  simp [failed] at statted

theorem plan_keeps_iff (read : store.readText doc.relPath = .ok content)
    (ticks : doc.indexedAt ≠ some (around.clock doc.relPath)) :
    (∀ decision, plan tools db.folders (around.embedder doc.relPath) store doc.relPath force stat (some doc) =
        .ok decision → decision.apply (around.clock doc.relPath) (rowOf db doc) = rowOf db doc) ↔
      NothingNew tools around force db doc stat content := by
  simp only [plan, NothingNew, read, Option.any_some]
  by_cases quick : force = false ∧ settled stat doc
  · simp [quick.1, quick.2, Plan.apply, Plan.row, Plan.chunks, rowOf]
  · have slow : (!force && settled stat doc) = false := by
      cases force with
      | false => simpa using quick
      | true => rfl
    simp only [slow, Bool.false_eq_true, if_false, quick, false_or]
    by_cases touched : force = false ∧ sameContent (tools.sha256 content) doc
    · have notRewritten : ¬ (force = true ∨ ¬ sameContent (tools.sha256 content) doc) := by
        simp [touched.1, touched.2]
      simp only [touched.1, touched.2, Bool.not_false, Bool.and_self, if_true, Except.ok.injEq, forall_eq']
      constructor
      · intro same
        rcases (apply_eq_iff ticks _).mp same with isUnchanged | isTouch
        · cases isUnchanged
        · have sameContents := touched.2
          simp only [Plan.touch.injEq] at isTouch
          simp only [sameContent, Bool.and_eq_true, decide_eq_true_eq] at sameContents
          exact absurd ⟨touched.1, by simp [settled, sameContents.2, isTouch.1, isTouch.2]⟩ quick
      · intro rewritten
        simp at rewritten
    · have rewritten : (!force && sameContent (tools.sha256 content) doc) = false := by
        cases force with
        | false => simpa using touched
        | true => rfl
      have either : force = true ∨ ¬ sameContent (tools.sha256 content) doc := by
        cases force with
        | false => exact .inr (by simpa using touched)
        | true => exact .inl rfl
      simp only [rewritten, Bool.false_eq_true, if_false, either, true_and]
      cases planned : contentPlan tools db.folders (around.embedder doc.relPath) doc.relPath content
          stat with
      | error failure => simp
      | ok decision =>
          have changes := contentPlan_changes planned ticks (chunksOf db doc.id)
          simpa [rowOf] using changes

theorem scanRows_keeps_iff (member : doc ∈ db.documents.rows)
    (ticks : doc.indexedAt ≠ some (around.clock doc.relPath)) :
    rowOf db doc ∈ scanRows tools around store force db.folders db.defaultTenant fresh doc.relPath
        (rowsAt db doc.relPath) ↔ LeftAlone tools around store force db doc := by
  have here : rowOf db doc ∈ rowsAt db doc.relPath := mem_rowsAt.mpr ⟨member, rfl, rfl⟩
  by_cases only : (db.documents.rows.filter fun row => row.relPath = doc.relPath) = [doc]
  · have rows : rowsAt db doc.relPath = [rowOf db doc] := by simp [rowsAt, only]
    cases statted : store.stat doc.relPath with
    | error error =>
        have alone : LeftAlone tools around store force db doc := leftAlone_of_error statted
        simp [scanRows, indexRows, statted, rows, alone]
    | ok stat =>
        obtain ⟨content, _, _, read⟩ := fileAt_of_stat statted
        rw [leftAlone_iff statted read only, ← plan_keeps_iff read ticks]
        simp only [scanRows, indexRows, statted, rows, scalarOneOrNone, Option.map_some, rowOf]
        cases plan tools db.folders (around.embedder doc.relPath) store doc.relPath force stat
            (some doc) with
        | error failure => simp
        | ok decision => simp [eq_comm]
  · have several : scalarOneOrNone (rowsAt db doc.relPath) = .error .multipleResultsFound := by
      have listed : doc ∈ db.documents.rows.filter fun row => row.relPath = doc.relPath := by
        simp [member]
      simp only [rowsAt, scalarOneOrNone_map]
      cases rows : db.documents.rows.filter fun row => row.relPath = doc.relPath with
      | nil => simp [rows] at listed
      | cons head tail =>
          cases tail with
          | nil =>
              have isHead : doc = head := by simpa [rows] using listed
              exact absurd (by rw [rows, isHead]) only
          | cons second rest => rfl
    constructor
    · intro _ stat content _ _ isOnly
      exact absurd isOnly only
    · intro _
      simp only [scanRows, indexRows, several]
      cases store.stat doc.relPath with
      | error error => exact here
      | ok stat => exact here

end Rows

/-- While the share cannot be used, exactly the spared rows survive a completed
run unchanged. -/
theorem row_unchanged_iff (tools : Tools) (config : DocsIndexConfig) (world : World)
    (network : Connection → Share) (docsDir : DocsDir) (cache : StoreCache) (around : Surroundings)
    (force : Bool) (db after : IndexDb) (doc : Document)
    (unusable : storeFellBack config (makeDocsStore config world network docsDir cache).1 ∨
      (makeDocsStore config world network docsDir cache).1.exists = .ok false)
    (completed : reindex tools config around (makeDocsStore config world network docsDir cache).1 force db =
      .ok after)
    (member : doc ∈ db.documents.rows)
    (ticks : doc.indexedAt ≠ some (around.clock doc.relPath)) :
    Unchanged db after doc ↔
      Spared tools config around (makeDocsStore config world network docsDir cache).1 force db doc := by
  obtain ⟨files, iterated, listed, unlisted, _⟩ := rowsAt_reindex completed
  rw [unchanged_iff]
  constructor
  · intro kept
    have isListed : doc.relPath ∈ files := by
      by_contra absent
      simp [unlisted _ absent] at kept
    have fellBack : storeFellBack config (makeDocsStore config world network docsDir cache).1 := by
      refine unusable.resolve_right fun missing => ?_
      simp only [iterDocFiles, missing, Except.ok.injEq] at iterated
      simp [← iterated] at isListed
    obtain ⟨fresh, scanned⟩ := listed _ isListed
    rw [scanned] at kept
    exact ⟨fellBack, ⟨files, iterated, isListed⟩, (scanRows_keeps_iff member ticks).mp kept⟩
  · intro spared
    obtain ⟨others, sameFiles, isListed⟩ := spared.listed
    cases Except.ok.inj (iterated.symm.trans sameFiles)
    obtain ⟨fresh, scanned⟩ := listed _ isListed
    rw [scanned]
    exact (scanRows_keeps_iff member ticks).mpr spared.leftAlone

def helloTools : Tools where
  sha256 _ := "2cf24dba5fb0a30e26e83b2ac5b9e29e1b161e5c1fa7425e73043362938b9824"
  yaml := { load := fun _ => none, dump := fun _ _ _ _ => "" }
  parse _ content := .ok (content, some content)
  chunkText text := [{ ord := 0, text, startChar := 0, endChar := text.length }]

def hello (id : Int) (relPath : String) : Document where
  id
  tenantId := 1
  relPath
  sha256 := "2cf24dba5fb0a30e26e83b2ac5b9e29e1b161e5c1fa7425e73043362938b9824"
  sizeBytes := 5
  modifiedAt := 1000
  indexedAt := some 1001
  status := .indexed
  error := none
  chunkCount := 1
  title := some "hello"
  folderId := none
  frontmatterTitle := none

def shareIndex : IndexDb where
  defaultTenant := some 1
  documents := ⟨[hello 1 "guides/a.txt", hello 2 "guides/b.txt"], by decide⟩
  chunks := [1, 2].map fun docId =>
    { docId, ord := 0, text := "hello", startChar := 0, endChar := 5, embedding := none }

def shareConfig : DocsIndexConfig where
  source := "smb"
  smb := { server := "files", share := "docs", credentialId := some 3 }

def localCopy : DocsDir where
  contained _ := true
  present := true
  tree := (∅ : Tree).insert "guides/a.txt" (.file "hello" 1000)

def absentShare (_ : Connection) : Share := { fault := some "timed out", present := false, tree := ∅ }

def fallbackStore : DocsStore :=
  (makeDocsStore shareConfig { db := {}, secrets := ∅ } absentShare localCopy {}).1

def later : Surroundings := { embedder := fun _ _ => none, clock := fun _ => 2000 }

theorem row_unchanged_iff_copied :
    ∃ after, reindex helloTools shareConfig later fallbackStore false shareIndex = .ok after ∧
      Unchanged shareIndex after (hello 1 "guides/a.txt") := by
  refine ⟨_, rfl, (row_unchanged_iff helloTools shareConfig { db := {}, secrets := ∅ } absentShare
    localCopy {} later false shareIndex _ (hello 1 "guides/a.txt") (.inl (by decide)) rfl (by decide)
    (by decide)).mpr ⟨by decide, ⟨_, rfl, by decide⟩, ?_⟩⟩
  intro stat content statted _ _
  cases statted
  exact .inl (by decide)

/-- The other file of the share loses its row and its chunk. -/
theorem fallback_prunes_share_rows :
    ∃ after, storeFellBack shareConfig fallbackStore ∧
      reindex helloTools shareConfig later fallbackStore false shareIndex = .ok after ∧
      hello 2 "guides/b.txt" ∈ shareIndex.documents.rows ∧
      hello 2 "guides/b.txt" ∉ after.documents.rows ∧
      chunksOf shareIndex 2 ≠ [] ∧ chunksOf after 2 = [] := by
  refine ⟨_, by decide, rfl, ?_⟩
  decide

end Dosm.Docs.SourceLoss
