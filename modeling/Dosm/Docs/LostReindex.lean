import Dosm.Base.Transition
import Dosm.Docs.IndexedRows

namespace Dosm.Docs.LostReindex

open Models Python Store Vault Indexer Transition

/-! Vault operations interleaved with background runs.

A run works from the file list it took; a trigger that finds a run in progress
is dropped. So a change is sure to be in the index only when a run that took
its list afterwards, or came to the file afterwards, has completed.

The steps between two acquisitions of the status lock are atomic here. A thread
that enters while another one runs waits for itself with the lock in its hands,
and nothing that needs the lock moves again.
-/

/-- Where the run that holds `running` is. -/
inductive Phase where
  | idle
  | entered
  | scanning (files remaining : List String)
  | closing
  deriving DecidableEq

/-- How much of the last change of a path the index has taken in: nothing, what
the run in progress will make of it, or all of it. -/
inductive Freshness where
  | dirty
  | scanned
  | synced
  deriving DecidableEq

/-- `untriggered` operations have still to call `reindex_async`; `pending`
threads have still to enter `reindex`. A path is `answered` when a call since its
last change has started a thread, and no run has failed at it meanwhile. -/
structure State where
  store : DocsStore
  db : IndexDb
  phase : Phase := .idle
  untriggered : Nat := 0
  pending : Nat := 0
  stuck : Bool := false
  freshness : String → Freshness := fun _ => .dirty
  answered : String → Bool := fun _ => false

inductive Label where
  | save (save : Save) (updatedAt : String) (now : Int)
  | delete (rel : String)
  | trigger
  | enter
  | list
  | index (around : Surroundings)
  | prune
  | finish

/-- The file a path names, under its very name. -/
def fileOf (store : DocsStore) (rel : String) : Option (String × Int) :=
  match store.tree.lookup rel with
  | some (.file content mtimeMs) => some (content, mtimeMs)
  | _ => none

/-- A change is in time for the run in progress if that run still comes to the
file, or will prune the row of a file that is gone. -/
def inTime (after : DocsStore) (rel : String) : Phase → Bool
  | .scanning files remaining =>
      if (fileOf after rel).isSome then rel ∈ remaining else rel ∉ files
  | _ => false

def changed (before after : DocsStore) (phase : Phase) (freshness : String → Freshness)
    (rel : String) : Freshness :=
  if fileOf after rel = fileOf before rel then freshness rel
  else if inTime after rel phase then .scanned
  else .dirty

def vaultStep (state : State) (after : DocsStore) : State :=
  { state with
    store := after
    untriggered := state.untriggered + 1
    freshness := changed state.store after state.phase state.freshness
    answered := fun rel => state.answered rel && fileOf after rel = fileOf state.store rel }

def step (tools : Tools) (config : DocsIndexConfig) (state : State) : Label → Option State
  | .save save updatedAt now =>
      match saveDoc tools.yaml state.store save updatedAt now with
      | .error _ => none
      | .ok (_, after) => some (vaultStep state after)
  | .delete rel =>
      match deleteDoc state.store rel with
      | .error _ => none
      | .ok after => some (vaultStep state after)
  | .trigger =>
      if state.stuck || state.untriggered = 0 then none
      else
        let called := { state with untriggered := state.untriggered - 1 }
        -- `reindex_async` returns at once while a run is in progress.
        if state.phase = .idle then
          some { called with pending := state.pending + 1, answered := fun _ => true }
        else some called
  | .enter =>
      if state.stuck || state.pending = 0 then none
      else if state.phase = .idle then
        some { state with pending := state.pending - 1, phase := .entered }
      else some { state with stuck := true }
  | .list =>
      match state.stuck, state.phase with
      | false, .entered =>
          match iterDocFiles config state.store with
          | .error _ => some { state with phase := .closing, answered := fun _ => false }
          | .ok files =>
              some { state with
                phase := .scanning files files
                freshness := fun rel =>
                  if state.freshness rel = .dirty then .scanned else state.freshness rel }
      | _, _ => none
  | .index around =>
      match state.stuck, state.phase with
      | false, .scanning files (rel :: remaining) =>
          let after := { state with phase := .scanning files remaining }
          match indexOne tools around state.store false state.db rel with
          | .ok (db, _) => some { after with db }
          | .error _ =>
              some { after with
                freshness := fun other =>
                  if other = rel && state.freshness other = .scanned then .dirty
                  else state.freshness other
                answered := fun other => state.answered other && other ≠ rel }
      | _, _ => none
  | .prune =>
      match state.stuck, state.phase with
      | false, .scanning files [] =>
          some { state with phase := .closing, db := removeDeleted state.db files }
      | _, _ => none
  | .finish =>
      match state.stuck, state.phase with
      | false, .closing =>
          some { state with
            phase := .idle
            freshness := fun rel =>
              if state.freshness rel = .scanned then .synced else state.freshness rel }
      | _, _ => none

/-- No run in progress and no thread on its way into one. -/
def Quiescent (state : State) : Prop :=
  state.phase = .idle ∧ state.pending = 0 ∧ state.stuck = false

/-- The index has the file's current content, or no row if there is no file. -/
def InSync (tools : Tools) (state : State) (rel : String) : Prop :=
  match fileOf state.store rel with
  | some (content, _) => ∃ row ∈ rowsAt state.db rel, row.1.sha256 = tools.sha256 content
  | none => rowsAt state.db rel = []

/-- An indexed row has the digest of the version its size and time name. -/
def Stamped (tools : Tools) (version : String → String → Int → Prop) (rel : String)
    (rows : List Row) : Prop :=
  ∀ row ∈ rows, row.1.status = .indexed → ∃ content, version rel content row.1.modifiedAt ∧
    row.1.sizeBytes = content.utf8ByteSize ∧ row.1.sha256 = tools.sha256 content

/-- The process starts over a vault and an index that earlier runs have left. -/
def indexing (tools : Tools) (config : DocsIndexConfig) (version : String → String → Int → Prop) :
    Machine State Label where
  initial state :=
    state.phase = .idle ∧ state.store.present = true ∧
      (∀ rel, state.freshness rel = .dirty ∧ state.answered rel = false) ∧
      ∀ rel, Stamped tools version rel (rowsAt state.db rel)
  step := step tools config

/-- What the runs find are versions of the history. -/
def Versioned (version : String → String → Int → Prop) (state : State) : Label → Prop
  | .index _ => Holds version state.store
  | _ => True

section Files

variable {config : DocsIndexConfig} {store : DocsStore} {rel content : String} {mtimeMs : Int}
  {files : List String}

theorem fileAt_of_normal (normal : store.safeRel rel = .ok rel)
    (file : fileOf store rel = some (content, mtimeMs)) : store.fileAt rel = .ok (content, mtimeMs) := by
  simp only [fileOf] at file
  split at file
  · rename_i found
    cases file
    simp only [DocsStore.fileAt, normal, found]
  · cases file

theorem mem_iterFiles {found : List String} (iterated : store.iterFiles = .ok found) :
    rel ∈ found ↔ (fileOf store rel).isSome := by
  obtain ⟨_, _, isFound⟩ := Checks.bind_ok iterated
  cases isFound
  simp only [List.mem_map, List.mem_filter, fileOf]
  constructor
  · intro listed
    obtain ⟨⟨name, node⟩, ⟨member, isFile⟩, isName⟩ := listed
    cases isName
    have looked : store.tree.lookup name = some node := AList.mem_lookup_iff.mpr member
    cases node with
    | file content mtimeMs => simp [looked]
    | directory => cases isFile
  · intro isFile
    cases looked : store.tree.lookup rel with
    | none => simp [looked] at isFile
    | some node =>
        cases node with
        | directory => simp [looked] at isFile
        | file content mtimeMs =>
            exact ⟨⟨rel, .file content mtimeMs⟩, ⟨AList.mem_lookup_iff.mp looked, rfl⟩, rfl⟩

theorem mem_iterDocFiles (present : store.present = true) (listed : iterDocFiles config store = .ok files) :
    rel ∈ files ↔ (fileOf store rel).isSome ∧ selected config rel := by
  simp only [iterDocFiles] at listed
  split at listed
  · cases listed
  · rename_i absent
    obtain ⟨_, _, isPresent⟩ := Checks.bind_ok absent
    simp only [pure, Except.pure, present] at isPresent
    cases isPresent
  · split at listed
    · cases listed
    · rename_i found iterated
      cases listed
      rw [(List.perm_insertionSort _ _).mem_iff, List.mem_filter, mem_iterFiles iterated]

theorem saveDoc_keeps {yaml : Yaml} {save : Save} {updatedAt : String} {now : Int} {after : DocsStore}
    (saved : saveDoc yaml store save updatedAt now = .ok (rel, after)) :
    after.backend = store.backend ∧ (store.present = true → after.present = true) := by
  simp only [saveDoc] at saved
  split at saved
  · cases saved
  · obtain ⟨written, wrote, isAfter⟩ := Checks.bind_ok saved
    cases isAfter
    obtain ⟨_, _, wrote⟩ := Checks.bind_ok wrote
    split at wrote
    · cases wrote
    · obtain ⟨_, wrote⟩ := Checks.guard_ok wrote
      obtain ⟨_, wrote⟩ := Checks.guard_ok wrote
      cases wrote
      exact ⟨rfl, fun _ => rfl⟩

theorem deleteDoc_keeps {after : DocsStore} (deleted : deleteDoc store rel = .ok after) :
    after.backend = store.backend ∧ (store.present = true → after.present = true) := by
  simp only [deleteDoc] at deleted
  split at deleted
  · cases deleted
  · obtain ⟨_, _, deleted⟩ := Checks.bind_ok deleted
    split at deleted
    · cases deleted
    · split at deleted
      · cases deleted
      · cases deleted
      · cases deleted
        exact ⟨rfl, id⟩

end Files

section Rows

variable {tools : Tools} {version : String → String → Int → Prop} {folders : Table Folder}
  {around : Surroundings} {store : DocsStore} {rel content : String} {rows after : List Row}
  {tenant : Option Int} {fresh : Int} {stat : FileStat} {embedder : Embedder} {decision : Plan}

theorem contentPlan_digest {now : Int} {row : Row}
    (planned : contentPlan tools folders embedder rel content stat = .ok decision) :
    (decision.apply now row).1.sha256 = tools.sha256 content ∧
      (decision.apply now row).1.sizeBytes = stat.size ∧
      (decision.apply now row).1.modifiedAt = stat.mtimeMs := by
  simp only [contentPlan] at planned
  split at planned
  · cases planned
  · split at planned
    · cases planned
    · cases planned
      exact ⟨rfl, rfl, rfl⟩
    · cases planned
      exact ⟨rfl, rfl, rfl⟩

theorem plan_digest {found : Option Row} {start : Row} {now : Int}
    (identifies : StatIdentifies version) (stamped : Stamped tools version rel rows)
    (isVersion : version rel content stat.mtimeMs) (isSize : stat.size = content.utf8ByteSize)
    (read : store.readText rel = .ok content)
    (planned : plan tools folders embedder store rel false stat (found.map (·.1)) = .ok decision)
    (starts : ∀ old, found = some old → start = old ∧ old ∈ rows) :
    (decision.apply now start).1.sha256 = tools.sha256 content ∧
      (decision.apply now start).1.sizeBytes = stat.size ∧
      (decision.apply now start).1.modifiedAt = stat.mtimeMs := by
  rcases plan_cases planned with quick | ⟨text, textRead, touched | rewritten⟩
  · obtain ⟨isUnchanged, _, doc, isDoc, isSettled⟩ := quick
    obtain ⟨old, isFound, sameDoc⟩ := Option.map_eq_some_iff.mp isDoc
    obtain ⟨isStart, member⟩ := starts old isFound
    subst isUnchanged isStart sameDoc
    simp only [settled, Bool.and_eq_true, decide_eq_true_eq] at isSettled
    obtain ⟨⟨indexed, sameSize⟩, sameTime⟩ := isSettled
    obtain ⟨known, wasVersion, wasSize, wasDigest⟩ := stamped start member indexed
    rw [sameTime] at wasVersion
    have same : known = content :=
      identifies rel known content _ wasVersion isVersion (wasSize.symm.trans (sameSize.trans isSize))
    rw [same] at wasDigest
    exact ⟨wasDigest, sameSize, sameTime⟩
  · obtain ⟨isTouch, _, doc, isDoc, sameContents⟩ := touched
    obtain ⟨old, isFound, sameDoc⟩ := Option.map_eq_some_iff.mp isDoc
    obtain ⟨isStart, _⟩ := starts old isFound
    subst isTouch isStart sameDoc
    cases Except.ok.inj (read.symm.trans textRead)
    simp only [sameContent, Bool.and_eq_true, decide_eq_true_eq] at sameContents
    exact ⟨sameContents.1, rfl, rfl⟩
  · cases Except.ok.inj (read.symm.trans textRead)
    exact contentPlan_digest rewritten

theorem indexRows_digest (identifies : StatIdentifies version) (holds : Holds version store)
    (stamped : Stamped tools version rel rows)
    (indexed : indexRows tools around store false folders tenant fresh rel rows = .ok after) :
    ∃ content row, store.readText rel = .ok content ∧ after = [row] ∧
      row.1.sha256 = tools.sha256 content ∧ Stamped tools version rel after := by
  simp only [indexRows] at indexed
  cases statted : store.stat rel with
  | error error => simp [statted] at indexed
  | ok stat =>
      obtain ⟨content, file, isSize, read⟩ := fileAt_of_stat statted
      have isVersion := holds rel content stat.mtimeMs file
      have finish (row : Row) (now : Int) (decision : Plan) (isAfter : after = [decision.apply now row])
          (digest : (decision.apply now row).1.sha256 = tools.sha256 content ∧
            (decision.apply now row).1.sizeBytes = stat.size ∧
            (decision.apply now row).1.modifiedAt = stat.mtimeMs) :
          ∃ content row, store.readText rel = .ok content ∧ after = [row] ∧
            row.1.sha256 = tools.sha256 content ∧ Stamped tools version rel after := by
        refine ⟨content, _, read, isAfter, digest.1, ?_⟩
        intro row member _
        rw [isAfter] at member
        cases List.mem_singleton.mp member
        exact ⟨content, by rw [digest.2.2]; exact isVersion, digest.2.1.trans isSize, digest.1⟩
      simp only [statted] at indexed
      cases only : scalarOneOrNone rows with
      | error raised => simp [only] at indexed
      | ok found =>
          cases planned : plan tools folders (around.embedder rel) store rel false stat
              (found.map (·.1)) with
          | error failure => simp [only, planned] at indexed
          | ok decision =>
              simp only [only, planned] at indexed
              cases found with
              | some old =>
                  have starts : ∀ other, some old = some other → old = other ∧ other ∈ rows := by
                    intro other same
                    cases same
                    exact ⟨rfl, by simp [scalarOneOrNone_some only]⟩
                  exact finish old _ decision (Except.ok.inj indexed).symm
                    (plan_digest identifies stamped isVersion isSize read planned starts)
              | none =>
                  cases tenant with
                  | none => cases indexed
                  | some tenantId =>
                      have starts (blank : Row) : ∀ other, none = some other → blank = other ∧ other ∈ rows :=
                        fun other impossible => absurd impossible (Option.some_ne_none other).symm
                      exact finish _ _ decision (Except.ok.inj indexed).symm
                        (plan_digest identifies stamped isVersion isSize read planned (starts _))

end Rows

section Steps

variable {tools : Tools} {config : DocsIndexConfig} {version : String → String → Int → Prop}
  {state after : State} {label : Label} {rel : String}

def PathInv (tools : Tools) (state : State) (rel : String) : Prop :=
  match state.phase with
  | .idle | .entered =>
      state.freshness rel ≠ .scanned ∧ (state.freshness rel = .synced → InSync tools state rel)
  | .scanning files remaining =>
      state.freshness rel ≠ .dirty → ((fileOf state.store rel).isSome ↔ rel ∈ files) ∧
        (state.freshness rel = .synced ∨ rel ∈ files ∧ rel ∉ remaining → InSync tools state rel)
  | .closing => state.freshness rel ≠ .dirty → InSync tools state rel

def RunInv (state : State) : Prop :=
  ∀ files remaining, state.phase = .scanning files remaining →
    remaining.Nodup ∧ ∀ rel ∈ remaining, rel ∈ files

structure Inv (tools : Tools) (config : DocsIndexConfig) (version : String → String → Int → Prop)
    (state : State) : Prop where
  present : state.store.present = true
  stamped : ∀ rel, Stamped tools version rel (rowsAt state.db rel)
  run : RunInv state
  path : ∀ rel, state.store.safeRel rel = .ok rel → selected config rel → PathInv tools state rel

theorem InSync.congr (sync : InSync tools state rel)
    (sameFile : fileOf after.store rel = fileOf state.store rel)
    (sameRows : rowsAt after.db rel = rowsAt state.db rel) : InSync tools after rel := by
  simpa only [InSync, sameFile, sameRows] using sync

theorem safeRel_congr {first second : DocsStore} (same : first.backend = second.backend) :
    first.safeRel rel = second.safeRel rel := by
  simp only [DocsStore.safeRel, same]

theorem pathInv_vault {store : DocsStore} (run : RunInv state) (path : PathInv tools state rel) :
    PathInv tools (vaultStep state store) rel := by
  by_cases same : fileOf store rel = fileOf state.store rel
  · have unchanged : (vaultStep state store).freshness rel = state.freshness rel := if_pos same
    have sync (before : InSync tools state rel) : InSync tools (vaultStep state store) rel :=
      before.congr same rfl
    have samePhase : (vaultStep state store).phase = state.phase := rfl
    have sameFile : fileOf (vaultStep state store).store rel = fileOf state.store rel := same
    simp only [PathInv, samePhase, unchanged, sameFile] at path ⊢
    cases phase : state.phase with
    | idle =>
        rw [phase] at path
        exact ⟨path.1, fun synced => sync (path.2 synced)⟩
    | entered =>
        rw [phase] at path
        exact ⟨path.1, fun synced => sync (path.2 synced)⟩
    | scanning files remaining =>
        rw [phase] at path
        exact fun known => ⟨(path known).1, fun taken => sync ((path known).2 taken)⟩
    | closing =>
        rw [phase] at path
        exact fun known => sync (path known)
  · have isFreshness : (vaultStep state store).freshness rel =
        if inTime store rel state.phase then .scanned else .dirty := if_neg same
    have samePhase : (vaultStep state store).phase = state.phase := rfl
    have sameStore : (vaultStep state store).store = store := rfl
    simp only [PathInv, samePhase, isFreshness, sameStore]
    cases phase : state.phase with
    | idle => simp [inTime]
    | entered => simp [inTime]
    | closing => simp [inTime]
    | scanning files remaining =>
        have listed := (run files remaining phase).2 rel
        simp only [inTime]
        by_cases present : (fileOf store rel).isSome
        · by_cases waiting : rel ∈ remaining
          · simp [present, waiting, listed waiting]
          · simp [present, waiting]
        · by_cases absent : rel ∈ files
          · simp [present, absent]
          · simp [present, absent]

theorem inv_vault {store : DocsStore} (sameBackend : store.backend = state.store.backend)
    (present : state.store.present = true → store.present = true)
    (inv : Inv tools config version state) : Inv tools config version (vaultStep state store) where
  present := present inv.present
  stamped := inv.stamped
  run := inv.run
  path rel normal chosen := by
    have wasNormal := (safeRel_congr sameBackend).symm.trans normal
    exact pathInv_vault inv.run (inv.path rel wasNormal chosen)

theorem inv_list (stepped : step tools config state .list = some after)
    (inv : Inv tools config version state) : Inv tools config version after := by
  simp only [step] at stepped
  split at stepped
  · rename_i entered
    split at stepped
    · rename_i failed
      cases stepped
      refine ⟨inv.present, inv.stamped, nofun, ?_⟩
      intro rel normal chosen
      have path := inv.path rel normal chosen
      simp only [PathInv, entered] at path ⊢
      intro known
      cases fresh : state.freshness rel with
      | dirty => exact absurd fresh known
      | scanned => exact absurd fresh path.1
      | synced => exact path.2 fresh
    · rename_i files listed
      cases stepped
      refine ⟨inv.present, inv.stamped, ?run, ?path⟩
      case run =>
        intro all remaining same
        cases same
        exact ⟨iterDocFiles_nodup listed, fun _ member => member⟩
      case path =>
        intro rel normal chosen
        have path := inv.path rel normal chosen
        have isListed : rel ∈ files ↔ (fileOf state.store rel).isSome ∧ selected config rel :=
          mem_iterDocFiles inv.present listed
        simp only [PathInv, entered] at path ⊢
        intro _
        constructor
        · rw [isListed]
          exact ⟨fun isFile => ⟨isFile, chosen⟩, fun both => both.1⟩
        · intro taken
          rcases taken with synced | ⟨member, gone⟩
          · cases fresh : state.freshness rel with
            | dirty => simp [fresh] at synced
            | scanned => exact absurd fresh path.1
            | synced => exact path.2 fresh
          · exact absurd member gone
  · cases stepped

theorem inv_prune (stepped : step tools config state .prune = some after)
    (inv : Inv tools config version state) : Inv tools config version after := by
  simp only [step] at stepped
  split at stepped
  · rename_i files _ phase
    cases stepped
    refine ⟨inv.present, ?stamped, nofun, ?path⟩
    case stamped =>
      intro rel
      simp only [rowsAt_removeDeleted]
      split
      · exact inv.stamped rel
      · exact fun row member => absurd member List.not_mem_nil
    case path =>
      intro rel normal chosen
      have path := inv.path rel normal chosen
      simp only [PathInv, phase] at path ⊢
      intro known
      obtain ⟨listed, sync⟩ := path known
      by_cases member : rel ∈ files
      · have same : rowsAt (removeDeleted state.db files) rel = rowsAt state.db rel := by
          rw [rowsAt_removeDeleted, if_pos member]
        have before : InSync tools state rel := sync (.inr ⟨member, List.not_mem_nil⟩)
        exact before.congr rfl same
      · have absent : fileOf state.store rel = none := by
          simpa using mt listed.mp member
        have pruned : rowsAt (removeDeleted state.db files) rel = [] := by
          rw [rowsAt_removeDeleted, if_neg member]
        simp only [InSync, absent, pruned]
  · cases stepped

theorem inv_finish (stepped : step tools config state .finish = some after)
    (inv : Inv tools config version state) : Inv tools config version after := by
  simp only [step] at stepped
  split at stepped
  · rename_i phase
    cases stepped
    refine ⟨inv.present, inv.stamped, nofun, ?_⟩
    intro rel normal chosen
    have path := inv.path rel normal chosen
    simp only [PathInv, phase] at path ⊢
    cases fresh : state.freshness rel with
    | dirty => simp
    | scanned => exact ⟨by simp, fun _ => path (by simp [fresh])⟩
    | synced => exact ⟨by simp, fun _ => path (by simp [fresh])⟩
  · cases stepped

theorem inSync_indexed {around : Surroundings} {db : IndexDb} {outcome : Outcome}
    (identifies : StatIdentifies version) (holds : Holds version state.store)
    (inv : Inv tools config version state) (normal : state.store.safeRel rel = .ok rel)
    (isFile : (fileOf state.store rel).isSome)
    (indexed : indexOne tools around state.store false state.db rel = .ok (db, outcome))
    (sameStore : after.store = state.store) (sameDb : after.db = db) : InSync tools after rel := by
  obtain ⟨here, _, _⟩ := rowsAt_indexOne indexed
  obtain ⟨content, row, read, only, digest, _⟩ :=
    indexRows_digest identifies holds (inv.stamped rel) here
  obtain ⟨⟨known, mtimeMs⟩, file⟩ := Option.isSome_iff_exists.mp isFile
  have same : known = content := by
    obtain ⟨_, _, opened⟩ := Checks.bind_ok read
    rw [fileAt_of_normal normal file] at opened
    exact Except.ok.inj opened
  simp only [InSync, sameStore, file, sameDb, only]
  exact ⟨row, List.mem_singleton.mpr rfl, same ▸ digest⟩

theorem inv_index {around : Surroundings} (identifies : StatIdentifies version)
    (holds : Holds version state.store) (stepped : step tools config state (.index around) = some after)
    (inv : Inv tools config version state) : Inv tools config version after := by
  simp only [step] at stepped
  split at stepped
  · rename_i files current remaining _ phase
    obtain ⟨distinct, listed⟩ := inv.run files _ phase
    have run (state : State) (samePhase : state.phase = .scanning files remaining) : RunInv state := by
      intro all left same
      cases samePhase.symm.trans same
      exact ⟨(List.nodup_cons.mp distinct).2, fun rel member => listed rel (List.mem_cons_of_mem _ member)⟩
    split at stepped
    · rename_i db outcome indexed
      cases stepped
      obtain ⟨here, elsewhere, _⟩ := rowsAt_indexOne indexed
      refine ⟨inv.present, ?stamped, run _ rfl, ?path⟩
      case stamped =>
        intro rel
        by_cases same : rel = current
        · obtain ⟨_, _, _, _, _, stamped⟩ := indexRows_digest identifies holds (inv.stamped current) here
          rw [same]
          exact stamped
        · rw [elsewhere rel same]
          exact inv.stamped rel
      case path =>
        intro rel normal chosen
        have path := inv.path rel normal chosen
        simp only [PathInv, phase] at path ⊢
        intro known
        obtain ⟨isListed, sync⟩ := path known
        refine ⟨isListed, ?_⟩
        intro taken
        by_cases same : rel = current
        · subst same
          have isFile := isListed.mpr (listed rel List.mem_cons_self)
          exact inSync_indexed identifies holds inv normal isFile indexed rfl rfl
        · have before : InSync tools state rel := by
            apply sync
            rcases taken with synced | ⟨member, gone⟩
            · exact .inl synced
            · exact .inr ⟨member, fun left => gone ((List.mem_cons.mp left).resolve_left same)⟩
          exact before.congr rfl (elsewhere rel same)
    · cases stepped
      refine ⟨inv.present, inv.stamped, run _ rfl, ?_⟩
      intro rel normal chosen
      have path := inv.path rel normal chosen
      simp only [PathInv, phase] at path ⊢
      by_cases same : rel = current
      · subst same
        cases fresh : state.freshness rel with
        | dirty => simp
        | scanned => simp
        | synced =>
            obtain ⟨isListed, sync⟩ := path (by simp [fresh])
            have before := sync (.inl fresh)
            exact fun _ => ⟨isListed, fun _ => before⟩
      · simp only [same, decide_false, Bool.false_and, Bool.false_eq_true, if_false]
        intro known
        obtain ⟨isListed, sync⟩ := path known
        refine ⟨isListed, ?_⟩
        intro taken
        apply sync
        rcases taken with synced | ⟨member, gone⟩
        · exact .inl synced
        · exact .inr ⟨member, fun left => gone ((List.mem_cons.mp left).resolve_left same)⟩
  · cases stepped

theorem inv_step (identifies : StatIdentifies version) (meets : Versioned version state label)
    (stepped : step tools config state label = some after) (inv : Inv tools config version state) :
    Inv tools config version after := by
  cases label with
  | save save updatedAt now =>
      simp only [step] at stepped
      split at stepped
      · cases stepped
      · rename_i written saved
        cases stepped
        obtain ⟨sameBackend, present⟩ := saveDoc_keeps saved
        exact inv_vault sameBackend present inv
  | delete rel =>
      simp only [step] at stepped
      split at stepped
      · cases stepped
      · rename_i left deleted
        cases stepped
        obtain ⟨sameBackend, present⟩ := deleteDoc_keeps deleted
        exact inv_vault sameBackend present inv
  | trigger =>
      simp only [step] at stepped
      split at stepped
      · cases stepped
      · split at stepped
        · cases stepped
          exact ⟨inv.present, inv.stamped, inv.run, inv.path⟩
        · cases stepped
          exact ⟨inv.present, inv.stamped, inv.run, inv.path⟩
  | enter =>
      simp only [step] at stepped
      split at stepped
      · cases stepped
      · split at stepped
        · rename_i idle
          cases stepped
          refine ⟨inv.present, inv.stamped, nofun, ?_⟩
          intro rel normal chosen
          have path := inv.path rel normal chosen
          simp only [PathInv, idle] at path ⊢
          exact path
        · cases stepped
          exact ⟨inv.present, inv.stamped, inv.run, inv.path⟩
  | list => exact inv_list stepped inv
  | index around => exact inv_index identifies meets stepped inv
  | prune => exact inv_prune stepped inv
  | finish => exact inv_finish stepped inv

theorem inv_reached (identifies : StatIdentifies version)
    (reached : (indexing tools config version).ReachableUnder (Versioned version) state) :
    Inv tools config version state := by
  have starts : ∀ start, (indexing tools config version).initial start →
      Inv tools config version start := by
    intro start begins
    obtain ⟨idle, present, dirty, stamped⟩ := begins
    refine ⟨present, stamped, ?_, ?_⟩
    · intro files remaining scanning
      cases idle.symm.trans scanning
    · intro rel _ _
      simp [PathInv, idle, (dirty rel).1]
  have preserved : ∀ before label after, Versioned version before label →
      (indexing tools config version).step before label = some after →
      Inv tools config version before → Inv tools config version after :=
    fun _ _ _ meets stepped => inv_step identifies meets stepped
  exact reached.invariant starts preserved

def Awaited (state : State) : Prop :=
  ∀ rel, state.answered rel = true → state.freshness rel = .dirty →
    0 < state.pending ∨ state.phase = .entered

theorem awaited_vault {store : DocsStore} (awaited : Awaited state) : Awaited (vaultStep state store) := by
  intro rel answered dirty
  simp only [vaultStep, Bool.and_eq_true, decide_eq_true_eq] at answered
  have unchanged : (vaultStep state store).freshness rel = state.freshness rel := if_pos answered.2
  rw [unchanged] at dirty
  exact awaited rel answered.1 dirty

theorem awaited_step (stepped : step tools config state label = some after) (awaited : Awaited state) :
    Awaited after := by
  cases label with
  | save save updatedAt now =>
      simp only [step] at stepped
      split at stepped
      · cases stepped
      · cases stepped
        exact awaited_vault awaited
  | delete rel =>
      simp only [step] at stepped
      split at stepped
      · cases stepped
      · cases stepped
        exact awaited_vault awaited
  | trigger =>
      simp only [step] at stepped
      split at stepped
      · cases stepped
      · split at stepped
        · cases stepped
          exact fun _ _ _ => .inl (Nat.succ_pos _)
        · cases stepped
          exact awaited
  | enter =>
      simp only [step] at stepped
      split at stepped
      · cases stepped
      · split at stepped
        · cases stepped
          exact fun _ _ _ => .inr rfl
        · cases stepped
          exact awaited
  | list =>
      simp only [step] at stepped
      split at stepped
      · split at stepped
        · cases stepped
          intro rel answered
          cases answered
        · cases stepped
          intro rel _ dirty
          simp only at dirty
          split at dirty
          · cases dirty
          · exact absurd dirty ‹_›
      · cases stepped
  | index around =>
      simp only [step] at stepped
      split at stepped
      · rename_i files current remaining _ phase
        split at stepped
        · cases stepped
          intro rel answered dirty
          exact .inl ((awaited rel answered dirty).resolve_right (by simp [phase]))
        · cases stepped
          intro rel answered dirty
          simp only [Bool.and_eq_true, decide_eq_true_eq] at answered
          simp only [answered.2, decide_false, Bool.false_and, Bool.false_eq_true, if_false] at dirty
          exact .inl ((awaited rel answered.1 dirty).resolve_right (by simp [phase]))
      · cases stepped
  | prune =>
      simp only [step] at stepped
      split at stepped
      · rename_i phase
        cases stepped
        intro rel answered dirty
        exact .inl ((awaited rel answered dirty).resolve_right (by simp [phase]))
      · cases stepped
  | finish =>
      simp only [step] at stepped
      split at stepped
      · rename_i phase
        cases stepped
        intro rel answered dirty
        simp only at dirty
        split at dirty
        · cases dirty
        · exact .inl ((awaited rel answered dirty).resolve_right (by simp [phase]))
      · cases stepped

theorem awaited_reached
    (reached : (indexing tools config version).ReachableUnder (Versioned version) state) :
    Awaited state := by
  have starts : ∀ start, (indexing tools config version).initial start → Awaited start := by
    intro start begins rel answered
    simp [(begins.2.2.1 rel).2] at answered
  have preserved : ∀ before label after, Versioned version before label →
      (indexing tools config version).step before label = some after → Awaited before → Awaited after :=
    fun _ _ _ _ stepped => awaited_step stepped
  exact reached.invariant starts preserved

end Steps

/-- When nothing runs and nothing is about to, the index is in step with every
path whose last change was answered, or in time for the run it found in progress. -/
theorem in_sync_when_quiescent {tools : Tools} {config : DocsIndexConfig}
    {version : String → String → Int → Prop} {state : State} {rel : String}
    (identifies : StatIdentifies version)
    (reached : (indexing tools config version).ReachableUnder (Versioned version) state)
    (quiescent : Quiescent state) (normal : state.store.safeRel rel = .ok rel)
    (chosen : selected config rel)
    (taken : state.answered rel = true ∨ state.freshness rel ≠ .dirty) : InSync tools state rel := by
  obtain ⟨idle, noneLeft, _⟩ := quiescent
  have path := (inv_reached identifies reached).path rel normal chosen
  simp only [PathInv, idle] at path
  cases fresh : state.freshness rel with
  | dirty =>
      rcases taken with answered | clean
      · rcases awaited_reached reached rel answered fresh with left | entered
        · omega
        · cases idle.symm.trans entered
      · exact absurd fresh clean
  | scanned => exact absurd fresh path.1
  | synced => exact path.2 fresh

/-! A file saved while a run is going through its list. -/

def plainTools : Tools where
  sha256 content := content
  yaml := { load := fun _ => none, dump := fun title _ _ _ => "title: " ++ title ++ "\n" }
  parse _ content := .ok (content, none)
  chunkText text := [{ ord := 0, text, startChar := 0, endChar := text.length }]

def note (slug body : String) : Save where
  folderSlug := "ops"
  docSlug := slug
  title := slug
  bodyMd := body
  author := "ann"

def emptyVault : State where
  store := { backend := .localRoot fun _ => true, present := true, tree := ∅ }
  db := { defaultTenant := some 1 }

def quiet : Surroundings := { embedder := fun _ _ => none, clock := fun _ => 9 }

def saveFirst : Label := .save (note "first" "one") "today" 1

def saveSecond : Label := .save (note "second" "two") "today" 2

def savedVault : State := (step plainTools {} emptyVault saveFirst).getD emptyVault

def SavedVersion (rel content : String) (mtimeMs : Int) : Prop :=
  savedVault.store.fileAt rel = .ok (content, mtimeMs)

theorem savedVersion_identified : StatIdentifies SavedVersion := by
  intro rel content other mtimeMs first second _
  cases first.symm.trans second
  rfl

theorem emptyVault_initial : (indexing plainTools {} SavedVersion).initial emptyVault :=
  ⟨rfl, rfl, fun _ => ⟨rfl, rfl⟩, fun _ _ member => absurd member List.not_mem_nil⟩

def isVaultOperation : Label → Bool
  | .save _ _ _ | .delete _ => true
  | _ => false

theorem store_of_step {tools : Tools} {config : DocsIndexConfig}
    {version : String → String → Int → Prop} {state after : State} {label : Label}
    (stepped : (indexing tools config version).step state label = some after)
    (other : isVaultOperation label = false) : after.store = state.store := by
  cases label with
  | save save updatedAt now => cases other
  | delete rel => cases other
  | trigger | enter | list | index around | prune | finish =>
      simp only [indexing, step] at stepped
      repeat' split at stepped
      all_goals first
        | cases stepped
          rfl
        | cases stepped

theorem in_sync_when_quiescent_one_save :
    ∃ state, Quiescent state ∧ fileOf state.store "ops/first.md" ≠ none ∧
      InSync plainTools state "ops/first.md" := by
  have ran : ((indexing plainTools {} SavedVersion).run emptyVault
      [saveFirst, .trigger, .enter, .list, .index quiet, .prune, .finish]).any (fun state =>
        (state.phase = .idle ∧ state.pending = 0 ∧ state.stuck = false) ∧
        state.answered "ops/first.md" = true ∧
        state.store.safeRel "ops/first.md" = .ok "ops/first.md" ∧ fileOf state.store "ops/first.md" ≠ none) = true := by
    decide
  obtain ⟨state, completed, facts⟩ := (Option.any_eq_true _ _).mp ran
  simp only [decide_eq_true_eq] at facts
  obtain ⟨quiescent, answered, normal, isFile⟩ := facts
  have meets : (indexing plainTools {} SavedVersion).Meets (Versioned SavedVersion) emptyVault
      [saveFirst, .trigger, .enter, .list, .index quiet, .prune, .finish] := by
    refine ⟨trivial, fun saved save => ⟨trivial, fun triggered trigger => ⟨trivial, fun entered enter =>
      ⟨trivial, fun listed list => ⟨?_, fun _ _ => ⟨trivial, fun _ _ => ⟨trivial, fun _ _ => trivial⟩⟩⟩⟩⟩⟩⟩
    have isSaved : savedVault = saved := congrArg (·.getD emptyVault) save
    have same : listed.store = savedVault.store := by
      rw [store_of_step list rfl, store_of_step enter rfl, store_of_step trigger rfl, isSaved]
    simp only [Versioned, same]
    exact fun _ _ _ file => file
  refine ⟨state, quiescent, isFile, ?_⟩
  exact in_sync_when_quiescent savedVersion_identified ⟨_, _, emptyVault_initial, completed, meets⟩ quiescent
    normal (by decide) (.inl answered)

/-- The second save comes after the run took its list: its trigger is dropped, and
no run has its file. -/
theorem dropped_trigger_loses_file :
    ∃ state, (indexing plainTools {} SavedVersion).Reachable state ∧ Quiescent state ∧
      state.untriggered = 0 ∧ fileOf state.store "ops/second.md" ≠ none ∧
      rowsAt state.db "ops/second.md" = [] := by
  have ran : ((indexing plainTools {} SavedVersion).run emptyVault
      [saveFirst, .trigger, .enter, .list, saveSecond, .trigger, .index quiet, .prune, .finish]).any
      (fun state => (state.phase = .idle ∧ state.pending = 0 ∧ state.stuck = false) ∧
        state.untriggered = 0 ∧ fileOf state.store "ops/second.md" ≠ none ∧
        rowsAt state.db "ops/second.md" = []) = true := by decide +kernel
  obtain ⟨state, completed, facts⟩ := (Option.any_eq_true _ _).mp ran
  simp only [decide_eq_true_eq] at facts
  exact ⟨state, ⟨_, _, emptyVault_initial, completed⟩, facts⟩

end Dosm.Docs.LostReindex
