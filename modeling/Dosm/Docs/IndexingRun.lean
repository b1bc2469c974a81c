import Dosm.Docs.RawFiles
import Dosm.Docs.StatusLock

namespace Dosm.Docs.IndexingRun

open Models Store Indexer RawFiles LockThreads

/-! A whole run of the indexer over any tree: the rows that it leaves and what it counts.

The counts come from the program that keeps the progress record, run by a thread that nobody
interferes with. It is told how each file ended, as the scan of the files finds out.
-/

/-- A thread on its own, from its first instruction to its end. -/
def alone {Shared Result : Type} : Code Shared Result → Shared → Shared × Result
  | .done result, shared => (shared, result)
  | .acquire next, shared | .release next, shared => alone next shared
  | .read next, shared => alone (next shared) shared
  | .write update next, shared => alone next (update shared)
  | .spawn _ next, shared => alone next shared

abbrev Ended := String × Except FileFailure Outcome

/-- What a run finds around it and writes into the record. -/
structure Circumstances where
  around : Surroundings
  logs : String → List String
  explain : FileFailure → String
  startedAt : Nat
  finishedAt : Nat
  stamp : String
  embedder : String
  fellBack : Option String
  storeLabel : String

def recorded : Outcome → StatusLock.Outcome
  | .indexed => .indexed
  | .unchanged => .unchanged
  | .error => .error

section Run

variable (readers : Readers) (config : DocsIndexConfig) (source : Source) (circumstances : Circumstances)
variable (force : Bool)

def fileWork (ended : Ended) : StatusLock.FileWork where
  rel := ended.1
  logs := circumstances.logs ended.1
  outcome := (ended.2.map recorded).mapError circumstances.explain

/-- The files in turn; one that raises leaves the rows as they were. -/
def scanFiles (db : IndexDb) : List String → IndexDb × List Ended
  | [] => (db, [])
  | rel :: rest =>
      match indexFile readers circumstances.around source force db rel with
      | .error failure => ((scanFiles db rest).1, (rel, .error failure) :: (scanFiles db rest).2)
      | .ok (after, outcome) => ((scanFiles after rest).1, (rel, .ok outcome) :: (scanFiles after rest).2)

def work (files : Except FileFailure (List Ended)) (removed : Nat) : StatusLock.ReindexWork where
  force
  startedAt := circumstances.startedAt
  finishedAt := circumstances.finishedAt
  stamp := circumstances.stamp
  embedder := .ok circumstances.embedder
  fellBack := circumstances.fellBack
  storeLabel := circumstances.storeLabel
  files := (files.map fun ended => ended.map (fileWork circumstances)).mapError circumstances.explain
  removed := .ok removed

structure Finished where
  db : IndexDb
  outcomes : List Ended
  status : StatusLock.IndexStats

def statusAfter (status : StatusLock.IndexStats) (work : StatusLock.ReindexWork) : StatusLock.IndexStats :=
  (alone (StatusLock.reindexBody work) (status.startRun work.startedAt)).1

def staleCount (db : IndexDb) (files : List String) : Nat :=
  ((db.documents.rows.map Document.relPath).filter fun rel => rel ∉ files).dedup.length

def reindex (db : IndexDb) (status : StatusLock.IndexStats) : Finished :=
  match source.iterDocFiles config with
  | .error error =>
      ⟨db, [], statusAfter status (work circumstances force (.error (.indexer (.store error))) 0)⟩
  | .ok files =>
      let (scanned, outcomes) := scanFiles readers source circumstances force db files
      ⟨removeDeleted scanned files, outcomes,
        statusAfter status (work circumstances force (.ok outcomes) (staleCount scanned files))⟩

/-- The files that the globs match; none where the source cannot be listed. -/
def matched : List String := (source.iterDocFiles config).toOption.getD []

def isError : Except FileFailure Outcome → Bool
  | .ok .error | .error _ => true
  | .ok _ => false

/-- A file that was not skipped is indexed with the chunks of its text if it is readable, and an error if not. -/
def FileRight (rows : List Row) (rel : String) : Except FileFailure Outcome → Prop
  | .ok .unchanged => ∃ row, rows = [row] ∧ row.1.status = .indexed
  | .ok .indexed => ∃ text, Readable readers source rel text ∧
      ∃ row, rows = [row] ∧ row.1.status = .indexed ∧ row.2.map piece = readers.chunkText text
  | .ok .error | .error _ => ∀ text, ¬ Readable readers source rel text

/-- A bad file is one error, and no concern of the other files. -/
structure Contained (finished : Finished) : Prop where
  all : finished.outcomes.map Prod.fst = matched config source
  files : ∀ rel result, (rel, result) ∈ finished.outcomes →
    FileRight readers source (rowsAt finished.db rel) rel result
  stopped : finished.status.running = false
  errors : finished.status.errors = finished.outcomes.countP fun ended => isError ended.2
  counted : finished.status.processed =
    finished.status.indexed + finished.status.skippedUnchanged + finished.status.errors
  total : finished.status.processed = finished.status.totalFiles ∧
    finished.status.totalFiles = (matched config source).length

/-- A file that is not skipped and can be read has a name, a time, metadata and texts that go through to the text that
lies there; one that cannot be read has no other file in its place. -/
def FileSound (db : IndexDb) (rel : String) : Prop :=
  Skipped readers source force rel (rowsOf db rel) ∨
    (∃ text reached, Readable readers source rel text ∧
      Indexable readers source db.folders db.defaultTenant rel (rowsOf db rel) reached ∧
      readers.chunkText reached = readers.chunkText text) ∨
    ((∀ text, ¬ Readable readers source rel text) ∧
      ∀ reached, ¬ Indexable readers source db.folders db.defaultTenant rel (rowsOf db rel) reached)

end Run

/-! The record. -/

section Record

variable {circumstances : Circumstances} {work : StatusLock.ReindexWork} {next : StatusLock.Program}
variable {status : StatusLock.IndexStats} {ended : List Ended}

def numbers (status : StatusLock.IndexStats) : Nat × Nat × Nat × Nat × Nat :=
  (status.totalFiles, status.processed, status.indexed, status.skippedUnchanged, status.errors)

theorem alone_logAll {stamp : String} {messages : List String} :
    ∃ after, alone (StatusLock.logAll stamp messages next) status = alone next after ∧
      numbers after = numbers status := by
  induction messages generalizing status with
  | nil => exact ⟨status, rfl, rfl⟩
  | cons message rest ih =>
      obtain ⟨after, runs, same⟩ := @ih { status with messages := status.messages ++ [stamp ++ " " ++ message] }
      exact ⟨after, runs, same⟩

def isOutcome (outcome : StatusLock.Outcome) (file : StatusLock.FileWork) : Bool :=
  match file.outcome with
  | .ok other => other = outcome
  | .error _ => outcome = .error

theorem alone_indexFile {file : StatusLock.FileWork} :
    ∃ after, alone (StatusLock.indexFile work file next) status = alone next after ∧
      numbers after = (status.totalFiles, status.processed + 1, status.indexed + (isOutcome .indexed file).toNat,
        status.skippedUnchanged + (isOutcome .unchanged file).toNat, status.errors + (isOutcome .error file).toNat) := by
  -- Whatever follows the logged lines sees the numbers as they were.
  have counts (tail : StatusLock.Program) (last : StatusLock.Outcome)
      (ends : ∀ logged, ∃ after, alone tail logged = alone next after ∧
        numbers after = numbers (StatusLock.IndexStats.count last logged)) :
      ∃ after, alone (StatusLock.logAll work.stamp file.logs tail) status = alone next after ∧
        numbers after = numbers (StatusLock.IndexStats.count last status) := by
    obtain ⟨logged, runs, same⟩ := @alone_logAll tail status work.stamp file.logs
    obtain ⟨after, finishes, counted⟩ := ends logged
    refine ⟨after, runs.trans finishes, counted.trans ?_⟩
    simp only [numbers, Prod.mk.injEq] at same
    obtain ⟨total, processed, indexed, skipped, errors⟩ := same
    cases last <;> simp [numbers, StatusLock.IndexStats.count, total, processed, indexed, skipped, errors]
  unfold StatusLock.indexFile isOutcome
  cases file.outcome with
  | error error => exact counts _ .error fun logged => ⟨_, rfl, rfl⟩
  | ok outcome =>
      obtain ⟨after, runs, counted⟩ :=
        counts (StatusLock.update (StatusLock.IndexStats.count outcome) next) outcome fun logged => ⟨_, rfl, rfl⟩
      refine ⟨after, runs, counted.trans ?_⟩
      cases outcome <;> rfl

theorem alone_files (files : List StatusLock.FileWork) :
    ∃ after, alone (files.foldr (StatusLock.indexFile work) next) status = alone next after ∧
      numbers after = (status.totalFiles, status.processed + files.length,
        status.indexed + files.countP (isOutcome .indexed), status.skippedUnchanged + files.countP (isOutcome .unchanged),
        status.errors + files.countP (isOutcome .error)) := by
  induction files generalizing status with
  | nil => exact ⟨status, rfl, rfl⟩
  | cons file rest ih =>
      obtain ⟨middle, first, counted⟩ := @alone_indexFile work (rest.foldr (StatusLock.indexFile work) next) status file
      obtain ⟨after, others, later⟩ := @ih middle
      refine ⟨after, first.trans others, ?_⟩
      simp only [numbers, Prod.mk.injEq] at counted later ⊢
      simp only [List.length_cons, List.countP_cons]
      obtain ⟨total, processed, indexed, skipped, errors⟩ := counted
      obtain ⟨laterTotal, laterProcessed, laterIndexed, laterSkipped, laterErrors⟩ := later
      rw [laterTotal, laterProcessed, laterIndexed, laterSkipped, laterErrors, total, processed, indexed, skipped, errors]
      refine ⟨rfl, by omega, ?_, ?_, ?_⟩ <;> split <;> simp_all <;> omega

theorem alone_finish {ending : Except String Unit} :
    (alone (StatusLock.finish work ending) status).1.running = false ∧
      numbers (alone (StatusLock.finish work ending) status).1 = numbers status := by
  cases ending with
  | ok _ => exact ⟨rfl, rfl⟩
  | error error => exact ⟨rfl, rfl⟩

theorem alone_prune : (alone (StatusLock.prune work) status).1.running = false ∧
    numbers (alone (StatusLock.prune work) status).1 = numbers status := by
  unfold StatusLock.prune
  split
  · exact alone_finish
  · exact alone_finish
  · exact @alone_finish work { status with messages := _ } (.ok ())

theorem statusAfter_scanned {files : List StatusLock.FileWork} (listed : work.files = .ok files)
    (embedder : ∃ name, work.embedder = .ok name) :
    (statusAfter status work).running = false ∧
      numbers (statusAfter status work) = (files.length, files.length, files.countP (isOutcome .indexed),
        files.countP (isOutcome .unchanged), files.countP (isOutcome .error)) := by
  obtain ⟨name, embeds⟩ := embedder
  -- The numbers are at zero when the scan begins.
  have scans (begun : StatusLock.IndexStats) (zero : numbers begun = (0, 0, 0, 0, 0)) :
      (alone (StatusLock.scan work name) begun).1.running = false ∧
        numbers (alone (StatusLock.scan work name) begun).1 = (files.length, files.length,
          files.countP (isOutcome .indexed), files.countP (isOutcome .unchanged), files.countP (isOutcome .error)) := by
    simp only [numbers, Prod.mk.injEq] at zero
    unfold StatusLock.scan
    rw [listed]
    dsimp only [StatusLock.update, StatusLock.log, alone]
    obtain ⟨after, runs, counted⟩ := @alone_files work (StatusLock.prune work) _ files
    rw [runs]
    refine ⟨alone_prune.1, alone_prune.2.trans (counted.trans ?_)⟩
    simp [zero]
  unfold statusAfter StatusLock.reindexBody
  rw [embeds]
  dsimp only [StatusLock.update, alone]
  split
  · exact scans _ rfl
  · exact scans _ rfl

theorem statusAfter_unlisted {error : String} (unlisted : work.files = .error error)
    (embedder : ∃ name, work.embedder = .ok name) :
    (statusAfter status work).running = false ∧ numbers (statusAfter status work) = (0, 0, 0, 0, 0) := by
  obtain ⟨name, embeds⟩ := embedder
  have scans (begun : StatusLock.IndexStats) : (alone (StatusLock.scan work name) begun).1.running = false ∧
      numbers (alone (StatusLock.scan work name) begun).1 = numbers begun := by
    unfold StatusLock.scan
    rw [unlisted]
    exact alone_finish
  unfold statusAfter StatusLock.reindexBody
  rw [embeds]
  dsimp only [StatusLock.update, alone]
  split
  · exact scans _
  · exact scans _

end Record

section Scan

variable {readers : Readers} {source : Source} {circumstances : Circumstances} {force : Bool} {db : IndexDb}
variable {files : List String} {rel : String} {result : Except FileFailure Outcome}

theorem rowsOf_rowsAt : rowsOf db rel = (rowsAt db rel).map Prod.fst := by
  rw [rowsAt, List.map_map]
  exact (List.map_id _).symm

theorem scanFiles_names : (scanFiles readers source circumstances force db files).2.map Prod.fst = files := by
  induction files generalizing db with
  | nil => rfl
  | cons file rest ih =>
      unfold scanFiles
      split
      · exact congrArg (file :: ·) ih
      · exact congrArg (file :: ·) ih

theorem scanFiles_elsewhere (absent : rel ∉ files) :
    rowsAt (scanFiles readers source circumstances force db files).1 rel = rowsAt db rel := by
  induction files generalizing db with
  | nil => rfl
  | cons file rest ih =>
      simp only [List.mem_cons, not_or] at absent
      unfold scanFiles
      split
      · exact ih absent.2
      next after outcome indexed =>
        exact (ih absent.2).trans ((indexFile_rows indexed).1 rel absent.1)

theorem scanFiles_each (distinct : files.Nodup)
    (listed : (rel, result) ∈ (scanFiles readers source circumstances force db files).2) :
    ∃ before, rowsAt before rel = rowsAt db rel ∧ SameAround db before ∧
      ((∃ failure, indexFile readers circumstances.around source force before rel = .error failure ∧
          result = .error failure) ∨
        ∃ after outcome, indexFile readers circumstances.around source force before rel = .ok (after, outcome) ∧
          result = .ok outcome ∧
          rowsAt (scanFiles readers source circumstances force db files).1 rel = rowsAt after rel) := by
  induction files generalizing db with
  | nil => cases listed
  | cons file rest ih =>
      obtain ⟨fresh, distinctRest⟩ := List.nodup_cons.mp distinct
      have listedRest {start : IndexDb} (member : (rel, result) ∈ (scanFiles readers source circumstances force start rest).2) :
          rel ∈ rest := by
        have named := List.mem_map_of_mem (f := Prod.fst) member
        rwa [scanFiles_names] at named
      unfold scanFiles at listed ⊢
      cases indexed : indexFile readers circumstances.around source force db file with
      | error failure =>
          rw [indexed] at listed
          rcases List.mem_cons.mp listed with same | later
          · cases same
            exact ⟨db, rfl, ⟨rfl, rfl⟩, .inl ⟨failure, indexed, rfl⟩⟩
          · exact ih distinctRest later
      | ok ended =>
          obtain ⟨after, outcome⟩ := ended
          rw [indexed] at listed
          rcases List.mem_cons.mp listed with same | later
          · cases same
            exact ⟨db, rfl, ⟨rfl, rfl⟩, .inr ⟨after, outcome, indexed, rfl, scanFiles_elsewhere fresh⟩⟩
          · have apart : rel ≠ file := by
              rintro rfl
              exact fresh (listedRest later)
            obtain ⟨elsewhere, around, _⟩ := indexFile_rows indexed
            obtain ⟨before, rows, sameAround, ends⟩ := ih distinctRest later
            exact ⟨before, rows.trans (elsewhere rel apart),
              ⟨sameAround.1.trans around.1, sameAround.2.trans around.2⟩, ends⟩

/-- A file ends right exactly when it is sound, by the rows that the run began with. -/
theorem fileRight_iff {before final : IndexDb} (rows : rowsAt before rel = rowsAt db rel) (around : SameAround db before)
    (ends : (∃ failure, indexFile readers circumstances.around source force before rel = .error failure ∧
        result = .error failure) ∨
      ∃ after outcome, indexFile readers circumstances.around source force before rel = .ok (after, outcome) ∧
        result = .ok outcome ∧ rowsAt final rel = rowsAt after rel) :
    FileRight readers source (rowsAt final rel) rel result ↔ FileSound readers source force db rel := by
  have docs : rowsOf before rel = rowsOf db rel := by rw [rowsOf_rowsAt, rowsOf_rowsAt, rows]
  have skips := @unchanged_iff readers source rel force circumstances.around before
  have indexes := @indexed_iff readers source rel force circumstances.around before
  rw [docs] at skips indexes
  rw [around.1, around.2] at indexes
  -- What neither is skipped nor indexed is right exactly where nothing can be read.
  have failed (unskipped : ¬ Skipped readers source force rel (rowsOf db rel))
      (unindexed : ¬ ∃ text, Indexable readers source db.folders db.defaultTenant rel (rowsOf db rel) text) :
      (∀ text, ¬ Readable readers source rel text) ↔ FileSound readers source force db rel := by
    constructor
    · exact fun unreadable => .inr (.inr ⟨unreadable, fun reached indexable => unindexed ⟨reached, indexable⟩⟩)
    · rintro (skipped | ⟨_, reached, _, indexable, _⟩ | ⟨unreadable, _⟩)
      · exact absurd skipped unskipped
      · exact absurd ⟨reached, indexable⟩ unindexed
      · exact unreadable
  rcases ends with ⟨failure, raised, rfl⟩ | ⟨after, outcome, indexed, rfl, settled⟩
  · refine failed (fun skipped => ?_) fun indexable => ?_
    · obtain ⟨after, unchanged⟩ := skips.mpr skipped
      cases raised.symm.trans unchanged
    · by_cases skipped : Skipped readers source force rel (rowsOf db rel)
      · obtain ⟨after, unchanged⟩ := skips.mpr skipped
        cases raised.symm.trans unchanged
      · obtain ⟨after, written⟩ := indexes.mpr ⟨skipped, indexable⟩
        cases raised.symm.trans written
  · have left := indexFile_rows indexed
    rw [around.1, around.2, docs] at left
    cases outcome with
    | unchanged =>
        obtain ⟨row, only, status, _⟩ := left.2.2.1 rfl
        exact iff_of_true ⟨row, settled.trans only, status⟩ (.inl (skips.mp ⟨after, indexed⟩))
    | indexed =>
        obtain ⟨unskipped, reached, indexable⟩ := indexes.mp ⟨after, indexed⟩
        obtain ⟨row, only, status, pieces⟩ := left.2.2.2 rfl reached indexable
        constructor
        · rintro ⟨text, readable, other, onlyOther, _, same⟩
          cases (settled.trans only).symm.trans onlyOther
          exact .inr (.inl ⟨text, reached, readable, indexable, (pieces rfl).symm.trans same⟩)
        · rintro (skipped | ⟨text, other, readable, indexableOther, same⟩ | ⟨_, none⟩)
          · exact absurd skipped unskipped
          · cases indexable.text_unique indexableOther
            exact ⟨text, readable, row, settled.trans only, status, (pieces rfl).trans same⟩
          · exact absurd indexable (none reached)
    | error =>
        refine failed (fun skipped => ?_) fun indexable => ?_
        · obtain ⟨other, unchanged⟩ := skips.mpr skipped
          cases indexed.symm.trans unchanged
        · by_cases skipped : Skipped readers source force rel (rowsOf db rel)
          · obtain ⟨other, unchanged⟩ := skips.mpr skipped
            cases indexed.symm.trans unchanged
          · obtain ⟨other, written⟩ := indexes.mpr ⟨skipped, indexable⟩
            cases indexed.symm.trans written

end Scan

section Claim

variable {readers : Readers} {config : DocsIndexConfig} {source : Source} {circumstances : Circumstances}
variable {force : Bool} {db : IndexDb} {status : StatusLock.IndexStats} {files : List String}

theorem iterDocFiles_nodup (listed : source.iterDocFiles config = .ok files) : files.Nodup := by
  unfold Source.iterDocFiles at listed
  split at listed
  · cases listed
  · cases listed
    exact List.nodup_nil
  · split at listed
    · cases listed
    next found iterated =>
      cases listed
      have keys : (source.entries.entries.map Sigma.fst).Nodup := source.entries.nodupKeys
      have names : found.Nodup := by
        obtain ⟨_, _, isFound⟩ := Checks.bind_ok iterated
        cases isFound
        exact keys.sublist (List.filter_sublist.map _)
      exact (List.perm_insertionSort _ _).nodup_iff.mpr (names.sublist List.filter_sublist)

theorem countP_outcomes (files : List StatusLock.FileWork) :
    files.countP (isOutcome .indexed) + files.countP (isOutcome .unchanged) + files.countP (isOutcome .error) =
      files.length := by
  induction files with
  | nil => rfl
  | cons file rest ih =>
      have once : (isOutcome .indexed file).toNat + (isOutcome .unchanged file).toNat +
          (isOutcome .error file).toNat = 1 := by
        unfold isOutcome
        cases file.outcome with
        | error error => rfl
        | ok outcome => cases outcome <;> rfl
      simp only [List.countP_cons, List.length_cons]
      simp only [Bool.toNat, Bool.cond_eq_ite] at once
      omega

theorem isError_fileWork (ended : Ended) : isOutcome .error (fileWork circumstances ended) = isError ended.2 := by
  obtain ⟨rel, failure | outcome⟩ := ended
  · rfl
  · cases outcome <;> rfl

/-- A run takes every matched file for itself exactly when every matched file is sound. -/
theorem bad_documents_contained_iff : Contained readers config source
      (reindex readers config source circumstances force db status) ↔
    ∀ rel ∈ matched config source, FileSound readers source force db rel := by
  cases listing : source.iterDocFiles config with
  | error error =>
      have none : matched config source = [] := by
        rw [matched, listing]
        rfl
      have quiet := @statusAfter_unlisted (work circumstances force (.error (.indexer (.store error))) 0) status _ rfl
        ⟨_, rfl⟩
      refine iff_of_true ?_ ?_
      · rw [reindex, listing]
        simp only [numbers, Prod.mk.injEq] at quiet
        obtain ⟨stopped, total, processed, indexed, skipped, errors⟩ := quiet
        exact ⟨none.symm, nofun, stopped, errors, by rw [processed, indexed, skipped, errors],
          processed.trans total.symm, by rw [total, none]; rfl⟩
      · rw [none]
        exact nofun
  | ok files =>
      have all : matched config source = files := by
        rw [matched, listing]
        rfl
      have distinct : files.Nodup := iterDocFiles_nodup listing
      let scanned := scanFiles readers source circumstances force db files
      have names : scanned.2.map Prod.fst = files := scanFiles_names
      have each (rel : String) (result : Except FileFailure Outcome) (member : (rel, result) ∈ scanned.2) :
          FileRight readers source (rowsAt (removeDeleted scanned.1 files) rel) rel result ↔
            FileSound readers source force db rel := by
        have listed : rel ∈ files := names ▸ List.mem_map_of_mem (f := Prod.fst) member
        obtain ⟨before, rows, around, ends⟩ := scanFiles_each distinct member
        have kept : rowsAt (removeDeleted scanned.1 files) rel = rowsAt scanned.1 rel := by
          rw [rowsAt_removeDeleted, if_pos listed]
        rw [kept]
        exact fileRight_iff rows around ends
      have counts := @statusAfter_scanned (work circumstances force (.ok scanned.2) (staleCount scanned.1 files)) status
        (scanned.2.map (fileWork circumstances)) rfl ⟨_, rfl⟩
      simp only [numbers, Prod.mk.injEq] at counts
      obtain ⟨stopped, total, processed, indexed, skipped, errors⟩ := counts
      have size : (scanned.2.map (fileWork circumstances)).length = files.length := by
        rw [List.length_map, ← names, List.length_map]
      have sum := countP_outcomes (scanned.2.map (fileWork circumstances))
      rw [reindex, listing, all]
      constructor
      · intro contained rel listed
        rw [← names] at listed
        obtain ⟨⟨_, result⟩, member, rfl⟩ := List.mem_map.mp listed
        exact (each _ result member).mp (contained.files _ result member)
      · intro sound
        refine ⟨names.trans all.symm, ?_, stopped, ?_, ?_, processed.trans total.symm, ?_⟩
        · intro rel result member
          have listed : rel ∈ files := names ▸ List.mem_map_of_mem (f := Prod.fst) member
          exact (each rel result member).mpr (sound rel listed)
        · refine errors.trans ?_
          rw [List.countP_map]
          exact List.countP_congr fun ended _ => by rw [Function.comp_apply, isError_fileWork]
        · change StatusLock.IndexStats.processed (statusAfter ..) = _
          rw [processed, ← sum, ← indexed, ← skipped, ← errors]
        · rw [all]
          exact total.trans size

end Claim

def opsRunbook : String := "---\nfolder: ops\n---\nrun"

def opsReaders : Readers where
  sha256 _ := ""
  load _ := some (.plain .none, .plain (.str "ops"))
  stripMarkdown := id
  pdf _ := .error (.parseError "no PDF")
  chunkText text := [⟨0, text, 0, text.length⟩]
  storable _ := true

def opsSource : Source where
  backend := .localRoot fun _ => true
  present := true
  entries := (∅ : AList fun _ : String => Entry).insert "run.md" (.file opsRunbook.toByteArray.data.toList 1000 none)

def twoTenants : IndexDb where
  defaultTenant := some 1
  folders := (Table.empty.insert fun id => { id, tenantId := 1, name := "Operations", slug := "ops" }).insert fun id =>
    { id, tenantId := 2, name := "Operations", slug := "ops" }

def quietly : Circumstances where
  around := { embedder := fun _ _ => none, clock := fun _ => 2000 }
  logs _ := []
  explain _ := ""
  startedAt := 0
  finishedAt := 1
  stamp := "00:00:00"
  embedder := "none"
  fellBack := none
  storeLabel := "local"

/-- A readable file whose folder two tenants have is an error. -/
theorem shared_slug_not_indexed :
    Readable opsReaders opsSource "run.md" "run" ∧
      (reindex opsReaders {} opsSource quietly false twoTenants {}).outcomes =
        [("run.md", .error (.indexer (.raised .multipleResultsFound)))] ∧
      ¬ Contained opsReaders {} opsSource (reindex opsReaders {} opsSource quietly false twoTenants {}) := by
  have parses : parse opsReaders "run.md" opsRunbook.toByteArray.data.toList = .ok ("run", some "run") := by
    have markdown : Python.lower (suffixOf "run.md") = ".md" := by decide
    unfold parse
    rw [decodeText_utf8, markdown]
    decide
  have readable : Readable opsReaders opsSource "run.md" "run" := ⟨_, 1000, _, rfl, parses⟩
  have fields : metadataOf opsReaders "run.md" opsRunbook.toByteArray.data.toList =
      (.plain .none, .plain (.str "ops")) := by
    unfold metadataOf
    rw [decodeText_utf8]
    rfl
  have planned (embedder : Embedder) (stat : FileStat) :
      RawFiles.contentPlan opsReaders twoTenants.folders embedder "run.md" opsRunbook.toByteArray.data.toList stat =
        .error (.indexer (.raised .multipleResultsFound)) := by
    unfold RawFiles.contentPlan
    rw [fields]
    rfl
  have files : opsSource.iterDocFiles {} = .ok ["run.md"] := by decide
  have outcomes : (reindex opsReaders {} opsSource quietly false twoTenants {}).outcomes =
      [("run.md", .error (.indexer (.raised .multipleResultsFound)))] := by
    have stored : opsSource.stat "run.md" = .ok ⟨opsRunbook.toByteArray.data.toList.length, 1000⟩ := rfl
    have read : opsSource.readBytes "run.md" = .ok opsRunbook.toByteArray.data.toList := rfl
    have decided (embedder : Embedder) (stat : FileStat) :
        RawFiles.decideFile opsReaders twoTenants.folders embedder opsSource "run.md" false stat none =
          .error (.indexer (.raised .multipleResultsFound)) := by
      unfold RawFiles.decideFile
      rw [read]
      exact planned embedder stat
    have raised : RawFiles.indexFile opsReaders quietly.around opsSource false twoTenants "run.md" =
        .error (.indexer (.raised .multipleResultsFound)) := by
      have absent : scalarOneOrNone (rowsOf twoTenants "run.md") = .ok none := rfl
      have dated : isDate 1000 = true := rfl
      unfold RawFiles.indexFile
      rw [stored]
      dsimp only
      rw [dated, absent]
      dsimp only
      rw [decided]
      rfl
    rw [reindex, files]
    dsimp only [scanFiles]
    rw [raised]
  refine ⟨readable, outcomes, fun contained => ?_⟩
  have failed : FileRight opsReaders opsSource _ "run.md" (.error (.indexer (.raised .multipleResultsFound))) :=
    contained.files "run.md" _ (by rw [outcomes]; exact List.mem_cons_self)
  exact failed "run" readable

end Dosm.Docs.IndexingRun
