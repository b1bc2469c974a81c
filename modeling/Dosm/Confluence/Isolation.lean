import Dosm.Confluence.Reconcile

namespace Dosm.Confluence

open Python Docs.Store Docs.Vault

/-! A run with what it reports, and what one bad item does to the others.

The calls belong to a listing of an item, so that an item that is listed twice can fail
once. New rows are added as they come; that no item has two is checked when the run ends.
-/

inductive SyncError where
  | item (key : Key) (cause : String)
  | attachments (pageId cause : String)
  | delete (rel cause : String)

def SyncError.text : SyncError → String
  | .item (.page, id) cause => "page " ++ id ++ ": " ++ cause
  | .item (.attachment, id) cause => "attachment " ++ id ++ ": " ++ cause
  | .attachments pageId cause => "attachments of " ++ pageId ++ ": " ++ cause
  | .delete rel cause => "delete " ++ rel ++ ": " ++ cause

structure SyncResult where
  pagesWritten : Nat := 0
  attachmentsWritten : Nat := 0
  deleted : Nat := 0
  unchanged : Nat := 0
  errors : List SyncError := []

namespace SyncResult

def changed (result : SyncResult) : Nat := result.pagesWritten + result.attachmentsWritten + result.deleted

def record (result : SyncResult) (error : SyncError) : SyncResult :=
  { result with errors := result.errors ++ [error] }

def wrote (result : SyncResult) : Kind → SyncResult
  | .page => { result with pagesWritten := result.pagesWritten + 1 }
  | .attachment => { result with attachmentsWritten := result.attachmentsWritten + 1 }

end SyncResult

/-- What the calls for one listed item raise. -/
structure Calls where
  /-- Fetching the page and rendering it, or downloading the attachment. -/
  fetch : Option String := none
  write : Option String := none
  /-- Deleting the file under the former path of the item. -/
  deleteOld : Option String := none

structure Attempt where
  item : Item
  calls : Calls

inductive Step where
  | item (attempt : Attempt)
  /-- The attachments of a page cannot be listed. -/
  | unlisted (pageId cause : String)

/-- A page of the listing, with its attachments as far as they can be listed. -/
structure PageListing where
  page : RemotePage
  calls : Calls
  attachments : Except String (List (AttachMeta × Calls))

def pageStep (store : DocsStore) (tools : Tools) (listener : Listener) (listing : PageListing) : Step :=
  let rel := "confluence/" ++ listener.slug ++ "/" ++ slugify tools.asciiFold listing.page.title ++ "-" ++
    listing.page.id ++ ".md"
  .item ⟨{ pageItem tools listener listing.page with rel := store.safeRel rel }, listing.calls⟩

def attachmentStep (store : DocsStore) (listener : Listener) (att : AttachMeta × Calls) : Step :=
  let rel := "confluence/" ++ listener.slug ++ "/attachments/" ++ att.1.id ++ "-" ++ att.1.filename
  .item ⟨{ attachmentItem listener att.1 with rel := store.safeRel rel }, att.2⟩

def stepsOf (store : DocsStore) (tools : Tools) (listener : Listener) (pages : List PageListing) : List Step :=
  pages.flatMap fun listing =>
    (if listener.syncPages then [pageStep store tools listener listing] else []) ++
      if listener.syncAttachments then
        match listing.attachments with
        | .error cause => [.unlisted listing.page.id cause]
        | .ok attachments => attachments.map (attachmentStep store listener)
      else []

/-- The rows found at the start are updated in place; the others are added. -/
structure SyncRun where
  existing : Rows
  added : List (Key × SyncRow) := []
  files : Files
  calls : List (Key × StoreCall) := []
  result : SyncResult := {}

namespace SyncRun

def fail (run : SyncRun) (key : Key) (cause : String) : SyncRun :=
  { run with result := run.result.record (.item key cause) }

/-- `_safe_delete` -/
def delete (run : SyncRun) (key : Key) (rel : String) : Option String → SyncRun
  | some cause => { run with result := run.result.record (.delete rel cause) }
  | none => { run with files := run.files.erase rel, calls := run.calls ++ [(key, .delete rel)] }

/-- A retitled item loses its former file. -/
def dropFormer (run : SyncRun) (attempt : Attempt) (rel : String) : SyncRun :=
  match run.existing.lookup attempt.item.key with
  | some row =>
      if row.relPath ≠ rel then run.delete attempt.item.key row.relPath attempt.calls.deleteOld else run
  | none => run

/-- The file is written, then the row is updated or added. -/
def write (run : SyncRun) (item : Item) (rel : String) : SyncRun :=
  let row : SyncRow := ⟨rel, some item.version, some item.title⟩
  let tracked := (run.existing.lookup item.key).isSome
  { run with
    existing := if tracked then run.existing.insert item.key row else run.existing
    added := if tracked then run.added else run.added ++ [(item.key, row)]
    files := run.files.insert rel ⟨item.key, item.version, item.text⟩
    calls := run.calls ++ [(item.key, .write rel)]
    result := run.result.wrote item.key.1 }

def forget (run : SyncRun) (key : Key) (rel : String) (raises : Option String) : SyncRun :=
  let run := run.delete key rel raises
  { run with
    existing := run.existing.erase key
    result := { run.result with deleted := run.result.deleted + 1 } }

end SyncRun

def syncAttempt (run : SyncRun) (attempt : Attempt) (rel : String) : SyncRun :=
  if upToDate attempt.item rel (run.existing.lookup attempt.item.key) then
    { run with result := { run.result with unchanged := run.result.unchanged + 1 } }
  else
    match attempt.calls.fetch with
    | some cause => run.fail attempt.item.key cause
    | none =>
        match attempt.calls.write with
        | some cause => (run.dropFormer attempt rel).fail attempt.item.key cause
        | none => (run.dropFormer attempt rel).write attempt.item rel

def syncSteps : SyncRun → List Step → Option SyncRun
  | run, [] => some run
  | run, .unlisted pageId cause :: rest =>
      syncSteps { run with result := run.result.record (.attachments pageId cause) } rest
  | run, .item attempt :: rest =>
      match attempt.item.rel with
      | .error _ => none
      | .ok rel => syncSteps (syncAttempt run attempt rel) rest

def stepKey : Step → Option Key
  | .item attempt => some attempt.item.key
  | .unlisted _ _ => none

def deleteUnseen (deleteGone : Key → Option String) (seen : List Key) :
    SyncRun → List (Sigma fun _ : Key => SyncRow) → SyncRun
  | run, [] => run
  | run, entry :: rest =>
      deleteUnseen deleteGone seen
        (if entry.1 ∈ seen then run else run.forget entry.1 entry.2.relPath (deleteGone entry.1)) rest

structure SyncOutcome where
  rows : Rows
  files : Files
  calls : List (Key × StoreCall)
  result : SyncResult
  lastStatus : String
  lastError : Option String
  reindexed : Bool

/-- The rows of a tenant's table once the added ones are in it. -/
def withAdded (rows : Rows) (added : List (Key × SyncRow)) : Rows :=
  added.foldl (fun rows entry => rows.insert entry.1 entry.2) rows

/-- The last flush; no item may have two rows. -/
def flush (run : SyncRun) : Option SyncOutcome :=
  if (run.added.map Prod.fst).Nodup then
    some {
      rows := withAdded run.existing run.added
      files := run.files
      calls := run.calls
      result := run.result
      lastStatus := if run.result.errors.isEmpty then "ok" else "error"
      lastError := if run.result.errors.isEmpty then none
        else some ("; ".intercalate ((run.result.errors.take 5).map SyncError.text))
      reindexed := run.result.changed ≠ 0 }
  else none

/-- `sync_listener` over the steps of its listing. -/
def reconcile (deleteGone : Key → Option String) (before : SyncState) (steps : List Step) : Option SyncOutcome :=
  (syncSteps { existing := before.rows, files := before.files } steps).bind fun run =>
    flush (deleteUnseen deleteGone (steps.filterMap stepKey) run before.rows.entries)

/-! The items that fail, each judged by itself. -/

namespace Attempt

variable (attempt : Attempt) (row : Option SyncRow) (rel : String)

/-- What an attempt raises; an item that is up to date is not attempted. -/
def failure : Option String :=
  if upToDate attempt.item rel row then none else attempt.calls.fetch.or attempt.calls.write

def rowAfter : Option SyncRow :=
  if upToDate attempt.item rel row || (attempt.failure row rel).isSome then row
  else row.map fun _ => ⟨rel, some attempt.item.version, some attempt.item.title⟩

end Attempt

/-- The failures of a listing, by the rows that were there. -/
def failures (rows : Key → Option SyncRow) : List Step → List (Key × String)
  | [] => []
  | .unlisted _ _ :: rest => failures rows rest
  | .item attempt :: rest =>
      match attempt.item.rel with
      | .error _ => failures rows rest
      | .ok rel =>
          let key := attempt.item.key
          ((attempt.failure (rows key) rel).map fun cause => (key, cause)).toList ++
            failures (Function.update rows key (attempt.rowAfter (rows key) rel)) rest

def failingKeys (before : SyncState) (steps : List Step) : List Key :=
  (failures before.rows.lookup steps).map Prod.fst

def without (gone : List Key) (steps : List Step) : List Step :=
  steps.filter fun step => (stepKey step).all fun key => key ∉ gone

def itemError : SyncError → Option (Key × String)
  | .item key cause => some (key, cause)
  | _ => none

/-- A path of an item: the one of its row or one that it is listed with. -/
def PathOf (before : SyncState) (steps : List Step) (key : Key) (path : String) : Prop :=
  (∃ row, before.rows.lookup key = some row ∧ row.relPath = path) ∨
    ∃ attempt, .item attempt ∈ steps ∧ attempt.item.key = key ∧ attempt.item.rel = .ok path

/-- Rows, calls and files are the same but for those of some items. -/
structure SameApart (gone : List Key) (touched : String → Prop) (first second : SyncOutcome) : Prop where
  rows : ∀ key ∉ gone, first.rows.lookup key = second.rows.lookup key
  calls : ∀ key ∉ gone, first.calls.filter (·.1 = key) = second.calls.filter (·.1 = key)
  files : ∀ path, ¬ touched path → first.files.lookup path = second.files.lookup path

/-- The run returns, its errors name the items that fail, and all others are treated as in
a run without those. -/
def FailuresIsolated (deleteGone : Key → Option String) (before : SyncState) (steps : List Step) : Prop :=
  ∃ after others, reconcile deleteGone before steps = some after ∧
    after.result.errors.filterMap itemError = failures before.rows.lookup steps ∧
    reconcile deleteGone before (without (failingKeys before steps) steps) = some others ∧
    SameApart (failingKeys before steps)
      (fun path => ∃ key ∈ failingKeys before steps, PathOf before steps key path) after others

/-- The items that get a new row, once for each time. -/
def storedAnew (rows : Key → Option SyncRow) (steps : List Step) : List Key :=
  steps.filterMap fun
    | .item attempt =>
        if (rows attempt.item.key).isNone && attempt.calls.fetch.isNone && attempt.calls.write.isNone then
          some attempt.item.key
        else none
    | .unlisted _ _ => none

/-- The store takes the path of every item. -/
def PathsTaken (steps : List Step) : Prop :=
  ∀ attempt, .item attempt ∈ steps → ∃ rel, attempt.item.rel = .ok rel

section Steps

variable {run after : SyncRun} {attempt : Attempt} {rel path : String} {key : Key} {raises : Option String}
  {steps : List Step} {item : Item} {deleteGone : Key → Option String}

@[simp] theorem delete_existing : (run.delete key rel raises).existing = run.existing := by
  cases raises <;> rfl

@[simp] theorem delete_added : (run.delete key rel raises).added = run.added := by
  cases raises <;> rfl

theorem delete_errors :
    (run.delete key rel raises).result.errors.filterMap itemError = run.result.errors.filterMap itemError := by
  cases raises <;> simp [SyncRun.delete, SyncResult.record, itemError]

@[simp] theorem dropFormer_existing : (run.dropFormer attempt rel).existing = run.existing := by
  unfold SyncRun.dropFormer
  split
  · split <;> simp
  · rfl

@[simp] theorem dropFormer_added : (run.dropFormer attempt rel).added = run.added := by
  unfold SyncRun.dropFormer
  split
  · split <;> simp
  · rfl

theorem dropFormer_errors : (run.dropFormer attempt rel).result.errors.filterMap itemError =
    run.result.errors.filterMap itemError := by
  unfold SyncRun.dropFormer
  split
  · split
    · exact delete_errors
    · rfl
  · rfl

theorem write_errors : (run.write item rel).result.errors = run.result.errors := by
  unfold SyncRun.write SyncResult.wrote
  split <;> rfl

theorem syncAttempt_errors : (syncAttempt run attempt rel).result.errors.filterMap itemError =
    run.result.errors.filterMap itemError ++
      ((attempt.failure (run.existing.lookup attempt.item.key) rel).map fun cause =>
        (attempt.item.key, cause)).toList := by
  unfold syncAttempt Attempt.failure
  split
  next current => simp
  next stale =>
    cases fetched : attempt.calls.fetch with
    | some cause => simp [SyncRun.fail, SyncResult.record, itemError]
    | none =>
        cases written : attempt.calls.write with
        | some cause =>
            simp only [SyncRun.fail, SyncResult.record, List.filterMap_append, dropFormer_errors]
            rfl
        | none =>
            rw [write_errors, dropFormer_errors]
            simp

theorem write_existing : (run.write item rel).existing.lookup = Function.update run.existing.lookup item.key
    ((run.existing.lookup item.key).map fun _ => ⟨rel, some item.version, some item.title⟩) := by
  funext other
  cases tracked : run.existing.lookup item.key with
  | none =>
      rw [Option.map_none, ← tracked, Function.update_eq_self]
      simp [SyncRun.write, tracked]
  | some row =>
      by_cases same : other = item.key
      · rw [same]
        simp [SyncRun.write, tracked]
      · simp [SyncRun.write, tracked, AList.lookup_insert_ne same, Function.update_of_ne same]

theorem syncAttempt_existing : (syncAttempt run attempt rel).existing.lookup =
    Function.update run.existing.lookup attempt.item.key
      (attempt.rowAfter (run.existing.lookup attempt.item.key) rel) := by
  unfold syncAttempt Attempt.rowAfter Attempt.failure
  split
  next current => simp [current]
  next stale =>
    cases fetched : attempt.calls.fetch with
    | some cause => simp [SyncRun.fail]
    | none =>
        cases written : attempt.calls.write with
        | some cause => simp [SyncRun.fail]
        | none =>
            rw [write_existing, dropFormer_existing]
            simp [stale]

theorem write_added : (run.write item rel).added.map Prod.fst =
    run.added.map Prod.fst ++ if (run.existing.lookup item.key).isNone then [item.key] else [] := by
  cases tracked : run.existing.lookup item.key with
  | none => simp [SyncRun.write, tracked]
  | some row => simp [SyncRun.write, tracked]

theorem syncAttempt_added : (syncAttempt run attempt rel).added.map Prod.fst =
    run.added.map Prod.fst ++ storedAnew run.existing.lookup [.item attempt] := by
  unfold syncAttempt
  split
  next current =>
    cases tracked : run.existing.lookup attempt.item.key with
    | none => simp [upToDate, tracked] at current
    | some row => simp [storedAnew, tracked]
  next stale =>
    cases fetched : attempt.calls.fetch with
    | some cause => simp [SyncRun.fail, storedAnew, fetched]
    | none =>
        cases written : attempt.calls.write with
        | some cause => simp [SyncRun.fail, storedAnew, written]
        | none =>
            rw [write_added, dropFormer_existing, dropFormer_added]
            cases tracked : run.existing.lookup attempt.item.key with
            | none => simp [storedAnew, fetched, written, tracked]
            | some row => simp [storedAnew, tracked]

theorem syncAttempt_tracked : ((syncAttempt run attempt rel).existing.lookup key).isNone =
    (run.existing.lookup key).isNone := by
  rw [congrFun syncAttempt_existing key]
  by_cases same : key = attempt.item.key
  · rw [same, Function.update_self, Attempt.rowAfter]
    split
    · rfl
    · simp
  · rw [Function.update_of_ne same]

theorem storedAnew_congr {first second : Key → Option SyncRow}
    (same : ∀ key, (first key).isNone = (second key).isNone) : storedAnew first steps = storedAnew second steps := by
  unfold storedAnew
  congr 1
  funext step
  cases step with
  | item attempt => simp only [same]
  | unlisted pageId cause => rfl

theorem storedAnew_cons {rows : Key → Option SyncRow} {step : Step} :
    storedAnew rows (step :: steps) = storedAnew rows [step] ++ storedAnew rows steps := by
  unfold storedAnew
  rw [← List.singleton_append, List.filterMap_append]

theorem syncSteps_isSome_iff : (syncSteps run steps).isSome ↔ PathsTaken steps := by
  induction steps generalizing run with
  | nil => simp [syncSteps, PathsTaken]
  | cons step rest ih =>
      cases step with
      | unlisted pageId cause =>
          rw [syncSteps, ih]
          simp [PathsTaken]
      | item attempt =>
          cases valid : attempt.item.rel with
          | error reason => simp [syncSteps, PathsTaken, valid]
          | ok rel => simp [syncSteps, valid, ih, PathsTaken]

structure StepsRan (run : SyncRun) (steps : List Step) (after : SyncRun) : Prop where
  errors : after.result.errors.filterMap itemError =
    run.result.errors.filterMap itemError ++ failures run.existing.lookup steps
  added : after.added.map Prod.fst = run.added.map Prod.fst ++ storedAnew run.existing.lookup steps

theorem syncSteps_ran (ran : syncSteps run steps = some after) : StepsRan run steps after := by
  induction steps generalizing run with
  | nil =>
      cases ran
      constructor <;> simp [failures, storedAnew]
  | cons step rest ih =>
      cases step with
      | unlisted pageId cause =>
          rw [syncSteps] at ran
          have later := ih ran
          constructor
          · rw [later.errors]
            simp [SyncResult.record, itemError, failures]
          · rw [later.added, storedAnew_cons]
            simp [storedAnew]
      | item attempt =>
          cases valid : attempt.item.rel with
          | error reason => simp [syncSteps, valid] at ran
          | ok rel =>
              rw [syncSteps, valid] at ran
              have later := ih ran
              constructor
              · rw [later.errors, syncAttempt_errors, syncAttempt_existing]
                simp [failures, valid]
              · rw [later.added, syncAttempt_added, storedAnew_congr fun _ => syncAttempt_tracked,
                  @storedAnew_cons rest _ (.item attempt), List.append_assoc]

end Steps

/-! The same steps without some items. -/

structure AgreeApart (gone : List Key) (touched : String → Prop) (first second : SyncRun) : Prop where
  rows : ∀ key ∉ gone, first.existing.lookup key = second.existing.lookup key
  added : ∀ key ∉ gone, first.added.filter (·.1 = key) = second.added.filter (·.1 = key)
  calls : ∀ key ∉ gone, first.calls.filter (·.1 = key) = second.calls.filter (·.1 = key)
  files : ∀ path, ¬ touched path → first.files.lookup path = second.files.lookup path

def RowsAt (gone : List Key) (touched : String → Prop) (run : SyncRun) : Prop :=
  ∀ key ∈ gone, ∀ row, run.existing.lookup key = some row → touched row.relPath

section Agreement

variable {gone : List Key} {touched : String → Prop} {first second third run after other : SyncRun}
  {attempt : Attempt} {rel : String} {key : Key} {raises : Option String} {steps : List Step} {item : Item}
  {deleteGone : Key → Option String} {entries : List (Sigma fun _ : Key => SyncRow)}

theorem AgreeApart.refl : AgreeApart gone touched run run :=
  ⟨fun _ _ => rfl, fun _ _ => rfl, fun _ _ => rfl, fun _ _ => rfl⟩

theorem AgreeApart.symm (agree : AgreeApart gone touched first second) : AgreeApart gone touched second first :=
  ⟨fun key other => (agree.rows key other).symm, fun key other => (agree.added key other).symm,
    fun key other => (agree.calls key other).symm, fun path other => (agree.files path other).symm⟩

theorem AgreeApart.trans (agree : AgreeApart gone touched first second)
    (next : AgreeApart gone touched second third) : AgreeApart gone touched first third :=
  ⟨fun key other => (agree.rows key other).trans (next.rows key other),
    fun key other => (agree.added key other).trans (next.added key other),
    fun key other => (agree.calls key other).trans (next.calls key other),
    fun path other => (agree.files path other).trans (next.files path other)⟩

theorem insert_agrees {files others : Files} {path : String} {file : SyncedFile}
    (same : files.lookup path = others.lookup path) :
    (files.insert rel file).lookup path = (others.insert rel file).lookup path := by
  by_cases here : path = rel
  · rw [here, AList.lookup_insert, AList.lookup_insert]
  · rw [AList.lookup_insert_ne here, AList.lookup_insert_ne here, same]

theorem erase_agrees {files others : Files} {path : String} (same : files.lookup path = others.lookup path) :
    (files.erase rel).lookup path = (others.erase rel).lookup path := by
  by_cases here : path = rel
  · rw [here, AList.lookup_erase, AList.lookup_erase]
  · rw [AList.lookup_erase_ne here, AList.lookup_erase_ne here, same]

theorem AgreeApart.delete (agree : AgreeApart gone touched first second) :
    AgreeApart gone touched (first.delete key rel raises) (second.delete key rel raises) := by
  cases raises with
  | some cause => exact ⟨agree.rows, agree.added, agree.calls, agree.files⟩
  | none =>
      refine ⟨agree.rows, agree.added, fun other apart => ?_, fun path apart => ?_⟩
      · simp only [SyncRun.delete, List.filter_append, agree.calls other apart]
      · exact erase_agrees (agree.files path apart)

theorem AgreeApart.write (agree : AgreeApart gone touched first second) (kept : item.key ∉ gone) :
    AgreeApart gone touched (first.write item rel) (second.write item rel) := by
  have former := agree.rows item.key kept
  refine ⟨fun other apart => ?_, fun other apart => ?_, fun other apart => ?_, fun path apart => ?_⟩
  · rw [congrFun write_existing other, congrFun write_existing other, former]
    by_cases same : other = item.key
    · rw [same, Function.update_self, Function.update_self]
    · rw [Function.update_of_ne same, Function.update_of_ne same, agree.rows other apart]
  · simp only [SyncRun.write, former]
    split
    · exact agree.added other apart
    · rw [List.filter_append, List.filter_append, agree.added other apart]
  · simp only [SyncRun.write, List.filter_append, agree.calls other apart]
  · exact insert_agrees (agree.files path apart)

theorem AgreeApart.attempted (agree : AgreeApart gone touched first second) (kept : attempt.item.key ∉ gone) :
    AgreeApart gone touched (syncAttempt first attempt rel) (syncAttempt second attempt rel) := by
  have former := agree.rows attempt.item.key kept
  have dropped : AgreeApart gone touched (first.dropFormer attempt rel) (second.dropFormer attempt rel) := by
    unfold SyncRun.dropFormer
    rw [former]
    split
    · split
      · exact agree.delete
      · exact agree
    · exact agree
  unfold syncAttempt
  rw [former]
  split
  · exact ⟨agree.rows, agree.added, agree.calls, agree.files⟩
  · split
    · exact ⟨agree.rows, agree.added, agree.calls, agree.files⟩
    · split
      · exact ⟨dropped.rows, dropped.added, dropped.calls, dropped.files⟩
      · exact dropped.write kept

theorem AgreeApart.forget (agree : AgreeApart gone touched first second) :
    AgreeApart gone touched (first.forget key rel raises) (second.forget key rel raises) := by
  have deleted := @AgreeApart.delete _ _ _ _ rel key raises agree
  refine ⟨fun other apart => ?_, deleted.added, deleted.calls, deleted.files⟩
  simp only [SyncRun.forget, delete_existing]
  by_cases same : other = key
  · rw [same, AList.lookup_erase, AList.lookup_erase]
  · rw [AList.lookup_erase_ne same, AList.lookup_erase_ne same, agree.rows other apart]

/-! What is done for one of the items that are left out. -/

theorem ne_of_gone {other : Key} (left : key ∈ gone) (apart : other ∉ gone) : ¬ key = other := by
  rintro rfl
  exact apart left

theorem delete_agrees (left : key ∈ gone) (own : touched rel) :
    AgreeApart gone touched (run.delete key rel raises) run := by
  cases raises with
  | some cause => exact ⟨fun _ _ => rfl, fun _ _ => rfl, fun _ _ => rfl, fun _ _ => rfl⟩
  | none =>
      refine ⟨fun _ _ => rfl, fun _ _ => rfl, fun other apart => ?_, fun path apart => ?_⟩
      · simp [SyncRun.delete, ne_of_gone left apart]
      · have elsewhere : path ≠ rel := by
          rintro rfl
          exact apart own
        exact AList.lookup_erase_ne elsewhere

theorem write_agrees (left : item.key ∈ gone) (own : touched rel) :
    AgreeApart gone touched (run.write item rel) run := by
  refine ⟨fun other apart => ?_, fun other apart => ?_, fun other apart => ?_, fun path apart => ?_⟩
  · rw [congrFun write_existing other, Function.update_of_ne (Ne.symm (ne_of_gone left apart))]
  · simp only [SyncRun.write]
    split
    · rfl
    · simp [ne_of_gone left apart]
  · simp [SyncRun.write, ne_of_gone left apart]
  · have elsewhere : path ≠ rel := by
      rintro rfl
      exact apart own
    exact AList.lookup_insert_ne elsewhere

theorem attempt_agrees (left : attempt.item.key ∈ gone) (own : touched rel) (rows : RowsAt gone touched run) :
    AgreeApart gone touched (syncAttempt run attempt rel) run := by
  have dropped : AgreeApart gone touched (run.dropFormer attempt rel) run := by
    unfold SyncRun.dropFormer
    cases former : run.existing.lookup attempt.item.key with
    | none => exact .refl
    | some row =>
        dsimp only
        split
        · exact delete_agrees left (rows _ left row former)
        · exact .refl
  unfold syncAttempt
  split
  · exact ⟨fun _ _ => rfl, fun _ _ => rfl, fun _ _ => rfl, fun _ _ => rfl⟩
  · split
    · exact ⟨fun _ _ => rfl, fun _ _ => rfl, fun _ _ => rfl, fun _ _ => rfl⟩
    · split
      · exact ⟨dropped.rows, dropped.added, dropped.calls, dropped.files⟩
      · exact (write_agrees left own).trans dropped

theorem forget_agrees (left : key ∈ gone) (own : touched rel) :
    AgreeApart gone touched (run.forget key rel raises) run := by
  have deleted := @delete_agrees _ _ run rel key raises left own
  refine ⟨fun other apart => ?_, deleted.added, deleted.calls, deleted.files⟩
  simp only [SyncRun.forget, delete_existing]
  exact AList.lookup_erase_ne (Ne.symm (ne_of_gone left apart))

theorem RowsAt.attempted (rows : RowsAt gone touched run) (own : attempt.item.key ∈ gone → touched rel) :
    RowsAt gone touched (syncAttempt run attempt rel) := by
  intro key left row found
  rw [congrFun syncAttempt_existing key] at found
  by_cases same : key = attempt.item.key
  · rw [same] at found left
    rw [Function.update_self, Attempt.rowAfter] at found
    split at found
    · exact rows _ left row found
    · obtain ⟨former, -, rfl⟩ := Option.map_eq_some_iff.mp found
      exact own left
  · rw [Function.update_of_ne same] at found
    exact rows key left row found

theorem syncSteps_agree (agree : AgreeApart gone touched first second) (rows : RowsAt gone touched first)
    (listed : ∀ attempt, .item attempt ∈ steps → attempt.item.key ∈ gone → ∀ rel, attempt.item.rel = .ok rel →
      touched rel)
    (ran : syncSteps first steps = some after) (ranOther : syncSteps second (without gone steps) = some other) :
    AgreeApart gone touched after other := by
  induction steps generalizing first second with
  | nil =>
      cases ran
      cases ranOther
      exact agree
  | cons step rest ih =>
      have later : ∀ attempt, .item attempt ∈ rest → attempt.item.key ∈ gone → ∀ rel,
          attempt.item.rel = .ok rel → touched rel :=
        fun attempt member => listed attempt (List.mem_cons_of_mem _ member)
      cases step with
      | unlisted pageId cause =>
          rw [syncSteps] at ran
          simp only [without, List.filter_cons, stepKey, Option.all_none, if_true, syncSteps] at ranOther
          have reported : AgreeApart gone touched
              { first with result := first.result.record (.attachments pageId cause) }
              { second with result := second.result.record (.attachments pageId cause) } :=
            ⟨agree.rows, agree.added, agree.calls, agree.files⟩
          exact ih reported rows later ran ranOther
      | item attempt =>
          cases valid : attempt.item.rel with
          | error reason => simp [syncSteps, valid] at ran
          | ok rel =>
              have own : attempt.item.key ∈ gone → touched rel :=
                fun left => listed attempt List.mem_cons_self left rel valid
              simp only [syncSteps, valid] at ran
              by_cases left : attempt.item.key ∈ gone
              · have skipped : without gone (.item attempt :: rest) = without gone rest := by
                  simp [without, stepKey, left]
                rw [skipped] at ranOther
                exact ih ((attempt_agrees left (own left) rows).trans agree) (rows.attempted own) later ran ranOther
              · have kept : without gone (.item attempt :: rest) = .item attempt :: without gone rest := by
                  simp [without, stepKey, left]
                simp only [kept, syncSteps, valid] at ranOther
                exact ih (agree.attempted left) (rows.attempted own) later ran ranOther

theorem deleteUnseen_agree {seen seenOther : List Key} (agree : AgreeApart gone touched first second)
    (same : ∀ key ∉ gone, (key ∈ seen ↔ key ∈ seenOther))
    (own : ∀ entry ∈ entries, entry.1 ∈ gone → touched entry.2.relPath) :
    AgreeApart gone touched (deleteUnseen deleteGone seen first entries)
      (deleteUnseen deleteGone seenOther second entries) := by
  induction entries generalizing first second with
  | nil => exact agree
  | cons entry rest ih =>
      have later := fun listed member => own listed (List.mem_cons_of_mem entry member)
      have here : AgreeApart gone touched
          (if entry.1 ∈ seen then first else first.forget entry.1 entry.2.relPath (deleteGone entry.1))
          (if entry.1 ∈ seenOther then second else second.forget entry.1 entry.2.relPath (deleteGone entry.1)) := by
        by_cases left : entry.1 ∈ gone
        · have touches := own entry List.mem_cons_self left
          have firstKept : AgreeApart gone touched
              (if entry.1 ∈ seen then first else first.forget entry.1 entry.2.relPath (deleteGone entry.1)) first := by
            split
            · exact .refl
            · exact forget_agrees left touches
          have secondKept : AgreeApart gone touched
              (if entry.1 ∈ seenOther then second else second.forget entry.1 entry.2.relPath (deleteGone entry.1))
              second := by
            split
            · exact .refl
            · exact forget_agrees left touches
          exact (firstKept.trans agree).trans secondKept.symm
        · by_cases member : entry.1 ∈ seen
          · rw [if_pos member, if_pos ((same _ left).mp member)]
            exact agree
          · rw [if_neg member, if_neg fun found => member ((same _ left).mpr found)]
            exact agree.forget
      exact ih here later

theorem withAdded_lookup {rows : Rows} {added : List (Key × SyncRow)} :
    (withAdded rows added).lookup key = (withAdded rows (added.filter (·.1 = key))).lookup key := by
  unfold withAdded
  induction added using List.reverseRecOn generalizing rows with
  | nil => rfl
  | append_singleton added entry ih =>
      rw [List.foldl_append, List.filter_append]
      by_cases same : entry.1 = key
      · simp [same]
      · have other : key ≠ entry.1 := Ne.symm same
        simp [same, AList.lookup_insert_ne other, ih]

theorem withAdded_agrees {rows others : Rows} {added : List (Key × SyncRow)}
    (same : rows.lookup key = others.lookup key) :
    (withAdded rows added).lookup key = (withAdded others added).lookup key := by
  induction added generalizing rows others with
  | nil => exact same
  | cons entry added ih =>
      apply ih
      by_cases here : key = entry.1
      · rw [here, AList.lookup_insert, AList.lookup_insert]
      · rw [AList.lookup_insert_ne here, AList.lookup_insert_ne here, same]

theorem flush_some {outcome : SyncOutcome} (flushed : flush run = some outcome) :
    outcome.rows = withAdded run.existing run.added ∧ outcome.calls = run.calls ∧ outcome.files = run.files ∧
      outcome.result = run.result := by
  unfold flush at flushed
  split at flushed
  · cases flushed
    exact ⟨rfl, rfl, rfl, rfl⟩
  · cases flushed

theorem AgreeApart.flushed {outcome others : SyncOutcome} (agree : AgreeApart gone touched first second)
    (flushed : flush first = some outcome) (flushedOther : flush second = some others) :
    SameApart gone touched outcome others := by
  obtain ⟨rows, calls, files, -⟩ := flush_some flushed
  obtain ⟨rowsOther, callsOther, filesOther, -⟩ := flush_some flushedOther
  constructor
  · intro key apart
    rw [rows, rowsOther, withAdded_lookup, agree.added key apart, ← withAdded_lookup]
    exact withAdded_agrees (agree.rows key apart)
  · intro key apart
    rw [calls, callsOther, agree.calls key apart]
  · intro path apart
    rw [files, filesOther, agree.files path apart]

theorem deleteUnseen_added {seen : List Key} :
    (deleteUnseen deleteGone seen run entries).added = run.added ∧
      (deleteUnseen deleteGone seen run entries).result.errors.filterMap itemError =
        run.result.errors.filterMap itemError := by
  induction entries generalizing run with
  | nil => exact ⟨rfl, rfl⟩
  | cons entry rest ih =>
      rw [deleteUnseen, ih.1, ih.2]
      split
      · exact ⟨rfl, rfl⟩
      · exact ⟨delete_added, delete_errors⟩

theorem pathsTaken_without (taken : PathsTaken steps) : PathsTaken (without gone steps) :=
  fun attempt member => taken attempt (List.mem_of_mem_filter member)

theorem storedAnew_without {rows : Key → Option SyncRow} :
    (storedAnew rows (without gone steps)).Sublist (storedAnew rows steps) :=
  List.Sublist.filterMap _ List.filter_sublist

theorem seen_without (apart : key ∉ gone) :
    key ∈ steps.filterMap stepKey ↔ key ∈ (without gone steps).filterMap stepKey := by
  simp only [List.mem_filterMap, without, List.mem_filter]
  constructor
  · rintro ⟨step, member, named⟩
    exact ⟨step, ⟨member, by simp [named, apart]⟩, named⟩
  · rintro ⟨step, ⟨member, -⟩, named⟩
    exact ⟨step, member, named⟩

theorem reconcile_isSome_iff {before : SyncState} : (reconcile deleteGone before steps).isSome ↔
    PathsTaken steps ∧ (storedAnew before.rows.lookup steps).Nodup := by
  unfold reconcile
  cases ran : syncSteps { existing := before.rows, files := before.files } steps with
  | none =>
      have refused : ¬ PathsTaken steps := by
        rw [← syncSteps_isSome_iff, ran]
        exact Bool.false_ne_true
      simp [refused]
  | some run =>
      have taken : PathsTaken steps := syncSteps_isSome_iff.mp (by rw [ran]; rfl)
      have stored : run.added.map Prod.fst = storedAnew before.rows.lookup steps := (syncSteps_ran ran).added
      rw [Option.bind_some, flush, deleteUnseen_added.1, stored]
      by_cases once : (storedAnew before.rows.lookup steps).Nodup
      · simp [once, taken]
      · simp [once]

end Agreement

/-- Failures are isolated exactly when the store takes the path of every item, of those that
fail as well, and no item that has no row is written twice. -/
theorem failures_isolated_iff (store : DocsStore) (tools : Tools) (listener : Listener) (pages : List PageListing)
    (deleteGone : Key → Option String) (before : SyncState) :
    FailuresIsolated deleteGone before (stepsOf store tools listener pages) ↔
      PathsTaken (stepsOf store tools listener pages) ∧
        (storedAnew before.rows.lookup (stepsOf store tools listener pages)).Nodup := by
  generalize stepsOf store tools listener pages = steps
  constructor
  · rintro ⟨after, others, ran, -⟩
    exact reconcile_isSome_iff.mp (by rw [ran]; rfl)
  · rintro ⟨taken, once⟩
    obtain ⟨after, ran⟩ := Option.isSome_iff_exists.mp (reconcile_isSome_iff.mpr ⟨taken, once⟩)
    obtain ⟨others, ranOther⟩ := Option.isSome_iff_exists.mp
      (reconcile_isSome_iff.mpr ⟨pathsTaken_without taken, once.sublist storedAnew_without⟩)
    refine ⟨after, others, ran, ?_, ranOther, ?_⟩
    · obtain ⟨run, ranSteps, flushed⟩ := Option.bind_eq_some_iff.mp ran
      rw [(flush_some flushed).2.2.2, deleteUnseen_added.2]
      exact (syncSteps_ran ranSteps).errors
    · obtain ⟨run, ranSteps, flushed⟩ := Option.bind_eq_some_iff.mp ran
      obtain ⟨run', ranSteps', flushed'⟩ := Option.bind_eq_some_iff.mp ranOther
      have agree : AgreeApart (failingKeys before steps)
          (fun path => ∃ key ∈ failingKeys before steps, PathOf before steps key path) run run' :=
        syncSteps_agree .refl (fun key left row found => ⟨key, left, .inl ⟨row, found, rfl⟩⟩)
          (fun attempt member left rel valid => ⟨_, left, .inr ⟨attempt, member, rfl, valid⟩⟩) ranSteps ranSteps'
      refine AgreeApart.flushed (deleteUnseen_agree agree (fun key apart => seen_without apart) ?_) flushed flushed'
      intro entry member left
      exact ⟨_, left, .inl ⟨entry.2, AList.mem_lookup_iff.mpr member, rfl⟩⟩

/-- A store that takes every path which can be normalised. -/
def plainStore : DocsStore := ⟨.localRoot fun _ => true, true, ∅⟩

def dottedMap : AttachMeta × Calls := (⟨"att9", "../../map.png", "1", "PNG"⟩, {})

/-- A file name with dots ends the run, and so does a new page that is listed twice. -/
theorem bad_name_sinks_run :
    ¬ FailuresIsolated (fun _ => none) {}
        (stepsOf plainStore engTools engListener [⟨homePage, {}, .ok [dottedMap]⟩]) ∧
      ¬ FailuresIsolated (fun _ => none) {}
        (stepsOf plainStore engTools engListener [⟨homePage, {}, .ok []⟩, ⟨homePage, {}, .ok []⟩]) := by
  constructor
  · rintro ⟨after, others, ran, -⟩
    have taken := (reconcile_isSome_iff.mp (by rw [ran]; rfl)).1
    have listed : attachmentStep plainStore engListener dottedMap ∈
        stepsOf plainStore engTools engListener [⟨homePage, {}, .ok [dottedMap]⟩] :=
      List.mem_cons_of_mem _ List.mem_cons_self
    obtain ⟨rel, valid⟩ := taken _ listed
    have refused : plainStore.safeRel "confluence/eng/attachments/att9-../../map.png" =
        .error (.traversal "confluence/eng/attachments/att9-../../map.png") := by
      decide
    have same := refused.symm.trans valid
    cases same
  · rintro ⟨after, others, ran, -⟩
    have once := (reconcile_isSome_iff.mp (by rw [ran]; rfl)).2
    exact (List.nodup_cons.mp once).1 List.mem_cons_self

end Dosm.Confluence
