import Dosm.Confluence.Reported
import Dosm.Docs.Writers

namespace Dosm.Confluence.Leftovers

open Python Transition Docs.Store Docs.Vault Docs.Writers

/-! The files of the listeners, over every history of listeners and syncs.

Only the rows of a listener tell which files are its own. A sync writes a file and then
its row, and takes both away again; the rows go with the listener, the files do not. The
files that no row names any longer are kept on record with what has left them.
-/

/-- What leaves a file in place. -/
inductive Cause where
  | listenerDeleted
  /-- A call to the store failed, and the sync has reported it. -/
  | reported (error : SyncError)
  /-- The sync ended with an exception. -/
  | syncEnded

structure State where
  listeners : Table ListenerRow
  /-- The files that the listeners have put into the store. -/
  tree : List String
  left : List (String × Cause)

structure Answers where
  tools : Tools
  pages : List PageListing
  deleteGone : Key → Option String
  /-- The temporary files that a failed write of an item has left. What such a write has lost is not at issue. -/
  temporary : Key → String → List String
  /-- Whether what an exception leaves of the rows is committed. -/
  commits : Bool

inductive Event where
  | create (tid : Int) (form : ListenerForm) (credentialTenant : Int → Option Int)
  | toggle (id : Int) (tid : Option Int)
  | delete (id : Int) (tid : Option Int)
  | sync (id : Int) (answers : Answers)

def callRel : StoreCall → String
  | .write rel => rel
  | .delete rel => rel

section Files

variable (store : DocsStore)

/-- The file that a call with this path is about: the store normalises it again. -/
def pathOf (rel : String) : Option String := (store.safeRel rel).toOption

def carryOut (tree : List String) : StoreCall → List String
  | .write rel => (pathOf store rel).toList ++ tree.filter fun path => pathOf store rel ≠ some path
  | .delete rel => tree.filter fun path => pathOf store rel ≠ some path

def touched (calls : List StoreCall) : List String := calls.filterMap fun call => pathOf store (callRel call)

def written (calls : List StoreCall) : List String :=
  calls.filterMap fun
    | .write rel => pathOf store rel
    | .delete _ => none

def refused (errors : List SyncError) : List (String × SyncError) :=
  errors.filterMap fun
    | .delete rel cause => (pathOf store rel).map fun path => (path, .delete rel cause)
    | _ => none

end Files

def unfinished (temporary : Key → String → List String) (errors : List SyncError) : List (String × SyncError) :=
  errors.flatMap fun
    | .item key cause => (temporary key cause).map fun path => (path, .item key cause)
    | _ => []

/-- How far the steps get when a path is refused. -/
def stepsReached : SyncRun → List Step → SyncRun
  | run, [] => run
  | run, .unlisted pageId cause :: rest =>
      stepsReached { run with result := run.result.record (.attachments pageId cause) } rest
  | run, .item attempt :: rest =>
      match attempt.item.rel with
      | .error _ => run
      | .ok rel => stepsReached (syncAttempt run attempt rel) rest

/-- A sync by its end; the rows are there when they are committed. -/
structure Ended where
  calls : List StoreCall
  errors : List SyncError
  rows : Option Rows
  returned : Bool

/-- What was flushed when a path was refused can be committed; a failed flush is rolled back. -/
def runSync (store : DocsStore) (answers : Answers) (row : ListenerRow) : Ended :=
  let steps := stepsOf store answers.tools (listenerOf row) answers.pages
  match syncSteps { existing := row.rows, files := ∅ } steps with
  | none =>
      let run := stepsReached { existing := row.rows, files := ∅ } steps
      let committed := answers.commits && (run.added.map Prod.fst).Nodup
      { calls := run.calls.map Prod.snd
        errors := run.result.errors
        rows := if committed then some (withAdded run.existing run.added) else none
        returned := false }
  | some run =>
      let run := deleteUnseen answers.deleteGone (steps.filterMap stepKey) run row.rows.entries
      { calls := run.calls.map Prod.snd
        errors := run.result.errors
        rows := (flush run).map SyncOutcome.rows
        returned := (flush run).isSome }

def leaves (store : DocsStore) (temporary : Key → String → List String) (ended : Ended) : List (String × Cause) :=
  let failed := refused store ended.errors ++ unfinished temporary ended.errors
  if ended.returned then failed.map fun entry => (entry.1, .reported entry.2)
  else (failed.map Prod.fst ++ written store ended.calls).map fun path => (path, .syncEnded)

def syncState (store : DocsStore) (state : State) (id : Int) (answers : Answers) : State :=
  match state.listeners.get id with
  | none => state
  | some row =>
      let ended := runSync store answers row
      { listeners := match ended.rows with
          | some rows => state.listeners.modify id (fun row => { row with rows := rows }) (fun _ => rfl)
          | none => state.listeners
        tree := ended.calls.foldl (carryOut store) state.tree ++
          (unfinished answers.temporary ended.errors).map Prod.fst
        left := (state.left.filter fun entry => entry.1 ∉ touched store ended.calls) ++
          leaves store answers.temporary ended }

def deleteState (store : DocsStore) (state : State) (id : Int) (tid : Option Int) : State :=
  match getListener state.listeners id tid, confluenceDelete state.listeners id tid with
  | some row, .ok listeners =>
      { state with
        listeners
        left := state.left ++ row.rows.entries.filterMap fun entry =>
          (pathOf store entry.2.relPath).map fun path => (path, .listenerDeleted) }
  | _, _ => state

def perform (store : DocsStore) (asciiFold : String → String) (state : State) : Event → State
  | .create tid form credentialTenant =>
      { state with
        listeners := (confluenceCreate asciiFold credentialTenant state.listeners tid form).toOption.getD
          state.listeners }
  | .toggle id tid =>
      { state with listeners := (confluenceToggle state.listeners id tid).toOption.getD state.listeners }
  | .delete id tid => deleteState store state id tid
  | .sync id answers => syncState store state id answers

def noListeners : State := ⟨.empty, [], []⟩

def listenerSystem (store : DocsStore) (asciiFold : String → String) : Machine State Event where
  initial state := state = noListeners
  step state event := some (perform store asciiFold state event)

def Named (store : DocsStore) (rows : Rows) (path : String) : Prop :=
  ∃ key row, rows.lookup key = some row ∧ pathOf store row.relPath = some path

/-- The file is below the folder of a listener that exists, and one of its rows is for it. -/
def Tracked (store : DocsStore) (state : State) (path : String) : Prop :=
  ∃ listener ∈ state.listeners.rows, Within listener.slug path ∧ Named store listener.rows path

/-! What one run leaves. -/

def treeOf (store : DocsStore) (tree : List String) (run : SyncRun) : List String :=
  (run.calls.map Prod.snd).foldl (carryOut store) tree

def Covered (store : DocsStore) (run : SyncRun) (path : String) : Prop :=
  Named store run.existing path ∨ (∃ entry ∈ run.added, pathOf store entry.2.relPath = some path) ∨
    ∃ rel cause, .delete rel cause ∈ run.result.errors ∧ pathOf store rel = some path

/-- Every file is accounted for by the run, or is none of its files, or is on record and untouched. -/
structure Accounts (store : DocsStore) (ns : String) (tree : List String) (elsewhere kept : String → Prop)
    (run : SyncRun) : Prop where
  apart : ∀ entry ∈ run.added, run.existing.lookup entry.1 = none
  existing : ∀ key row, run.existing.lookup key = some row → Within ns row.relPath
  added : ∀ entry ∈ run.added, Within ns entry.2.relPath
  files : ∀ path ∈ treeOf store tree run, Covered store run path ∨ elsewhere path ∨
    (kept path ∧ path ∉ touched store (run.calls.map Prod.snd))

section Runs

variable {store : DocsStore} {ns : String} {tree : List String} {elsewhere kept : String → Prop} {run after : SyncRun}
  {key : Key} {rel path : String} {raises : Option String} {item : Item} {attempt : Attempt} {steps : List Step}
  {deleteGone : Key → Option String} {entries : List (Sigma fun _ : Key => SyncRow)} {seen : List Key}
  {calls : List StoreCall}

theorem mem_write (member : path ∈ carryOut store tree (.write rel)) :
    pathOf store rel = some path ∨ (path ∈ tree ∧ pathOf store rel ≠ some path) := by
  rcases List.mem_append.mp member with now | before
  · exact .inl (Option.mem_toList.mp now)
  · obtain ⟨inside, other⟩ := List.mem_filter.mp before
    exact .inr ⟨inside, of_decide_eq_true other⟩

theorem mem_delete (member : path ∈ carryOut store tree (.delete rel)) : path ∈ tree ∧ pathOf store rel ≠ some path := by
  obtain ⟨inside, other⟩ := List.mem_filter.mp member
  exact ⟨inside, of_decide_eq_true other⟩

theorem touched_concat {call : StoreCall} (untouched : path ∉ touched store calls)
    (other : pathOf store (callRel call) ≠ some path) : path ∉ touched store (calls ++ [call]) := by
  intro member
  rw [touched, List.filterMap_append, List.mem_append] at member
  rcases member with before | now
  · exact untouched before
  · obtain ⟨called, listed, same⟩ := List.mem_filterMap.mp now
    rw [List.mem_singleton.mp listed] at same
    exact other same

theorem mem_carriedOut (member : path ∈ calls.foldl (carryOut store) tree) :
    path ∈ written store calls ∨ (path ∈ tree ∧ path ∉ touched store calls) := by
  induction calls using List.reverseRecOn with
  | nil => exact .inr ⟨member, List.not_mem_nil⟩
  | append_singleton calls call ih =>
      rw [List.foldl_append, List.foldl_cons, List.foldl_nil] at member
      have earlier : path ∈ calls.foldl (carryOut store) tree → pathOf store (callRel call) ≠ some path →
          path ∈ written store (calls ++ [call]) ∨ (path ∈ tree ∧ path ∉ touched store (calls ++ [call])) := by
        intro inside other
        rcases ih inside with wrote | ⟨there, untouched⟩
        · refine .inl ?_
          rw [written, List.filterMap_append]
          exact List.mem_append_left _ wrote
        · exact .inr ⟨there, touched_concat untouched other⟩
      cases call with
      | write rel =>
          rcases mem_write member with now | ⟨inside, other⟩
          · refine .inl ?_
            rw [written, List.filterMap_append]
            exact List.mem_append_right _ (List.mem_filterMap.mpr ⟨.write rel, List.mem_singleton_self _, now⟩)
          · exact earlier inside other
      | delete rel =>
          obtain ⟨inside, other⟩ := mem_delete member
          exact earlier inside other

theorem treeOf_delete : treeOf store tree (run.delete key rel none) = carryOut store (treeOf store tree run) (.delete rel) := by
  simp [treeOf, SyncRun.delete]

theorem treeOf_write : treeOf store tree (run.write item rel) = carryOut store (treeOf store tree run) (.write rel) := by
  simp [treeOf, SyncRun.write]

theorem Covered.mono (covered : Covered store run path)
    (existing : Named store run.existing path → Covered store after path)
    (added : ∀ entry ∈ run.added, entry ∈ after.added)
    (errors : ∀ error ∈ run.result.errors, error ∈ after.result.errors) : Covered store after path := by
  rcases covered with named | ⟨entry, listed, same⟩ | ⟨rel, cause, reported, same⟩
  · exact existing named
  · exact .inr (.inl ⟨entry, added entry listed, same⟩)
  · exact .inr (.inr ⟨rel, cause, errors _ reported, same⟩)

namespace Accounts

theorem reported (accounts : Accounts store ns tree elsewhere kept run) (result : SyncResult)
    (more : ∀ error ∈ run.result.errors, error ∈ result.errors) :
    Accounts store ns tree elsewhere kept { run with result := result } := by
  refine ⟨accounts.apart, accounts.existing, accounts.added, fun path member => ?_⟩
  rcases accounts.files path member with covered | other
  · exact .inl (covered.mono .inl (fun _ listed => listed) more)
  · exact .inr other

theorem delete (accounts : Accounts store ns tree elsewhere kept run) :
    Accounts store ns tree elsewhere kept (run.delete key rel raises) := by
  cases raises with
  | some cause => exact accounts.reported _ fun _ member => List.mem_append_left _ member
  | none =>
      refine ⟨accounts.apart, accounts.existing, accounts.added, fun path member => ?_⟩
      rw [treeOf_delete] at member
      obtain ⟨inside, other⟩ := mem_delete member
      rcases accounts.files path inside with covered | owned | ⟨known, untouched⟩
      · exact .inl (covered.mono .inl (fun _ listed => listed) fun _ member => member)
      · exact .inr (.inl owned)
      · refine .inr (.inr ⟨known, ?_⟩)
        simp only [SyncRun.delete, List.map_append, List.map_cons, List.map_nil]
        exact touched_concat untouched other

end Accounts

/-- The former file of an item is gone or its deletion was refused, unless it is the one that is written. -/
def Released (store : DocsStore) (tree : List String) (run : SyncRun) (key : Key) (rel : String) : Prop :=
  ∀ row, run.existing.lookup key = some row → row.relPath = rel ∨
    ∀ path ∈ treeOf store tree run, pathOf store row.relPath = some path →
      ∃ cause, .delete row.relPath cause ∈ run.result.errors

theorem dropFormer_released : Released store tree (run.dropFormer attempt rel) attempt.item.key rel := by
  intro row found
  rw [dropFormer_existing] at found
  by_cases same : row.relPath = rel
  · exact .inl same
  right
  intro path member named
  have dropped : run.dropFormer attempt rel = run.delete attempt.item.key row.relPath attempt.calls.deleteOld := by
    simp only [SyncRun.dropFormer, found]
    rw [if_pos same]
  rw [dropped] at member ⊢
  cases raises : attempt.calls.deleteOld with
  | some cause => exact ⟨cause, List.mem_append_right _ (List.mem_singleton_self _)⟩
  | none =>
      rw [raises, treeOf_delete] at member
      exact absurd named (mem_delete member).2

theorem write_isNone : ((run.write item rel).existing.lookup key).isNone = (run.existing.lookup key).isNone := by
  rw [congrFun write_existing key]
  by_cases same : key = item.key
  · rw [same, Function.update_self, Option.isNone_map]
  · rw [Function.update_of_ne same]

theorem added_write {entry : Key × SyncRow} (listed : entry ∈ (run.write item rel).added) : entry ∈ run.added ∨
    (run.existing.lookup item.key = none ∧ entry = (item.key, ⟨rel, some item.version, some item.title⟩)) := by
  cases former : run.existing.lookup item.key with
  | some row =>
      left
      simpa [SyncRun.write, former] using listed
  | none =>
      have longer : (run.write item rel).added = run.added ++ [(item.key, ⟨rel, some item.version, some item.title⟩)] := by
        simp [SyncRun.write, former]
      rw [longer] at listed
      rcases List.mem_append.mp listed with before | now
      · exact .inl before
      · exact .inr ⟨rfl, List.mem_singleton.mp now⟩

theorem write_covers : Covered store (run.write item rel) path ∨ pathOf store rel ≠ some path := by
  by_cases same : pathOf store rel = some path
  · left
    cases former : run.existing.lookup item.key with
    | some row =>
        refine .inl ⟨item.key, ⟨rel, some item.version, some item.title⟩, ?_, same⟩
        rw [congrFun write_existing, Function.update_self, former]
        rfl
    | none =>
        refine .inr (.inl ⟨(item.key, ⟨rel, some item.version, some item.title⟩), ?_, same⟩)
        simp [SyncRun.write, former]
  · exact .inr same

namespace Accounts

theorem write (accounts : Accounts store ns tree elsewhere kept run) (released : Released store tree run item.key rel)
    (within : Within ns rel) : Accounts store ns tree elsewhere kept (run.write item rel) := by
  have older : ∀ entry ∈ run.added, entry ∈ (run.write item rel).added := by
    intro entry listed
    simp only [SyncRun.write]
    split
    · exact listed
    · exact List.mem_append_left _ listed
  refine ⟨fun entry listed => ?_, fun key row found => ?_, fun entry listed => ?_, fun path member => ?_⟩
  · rw [← Option.isNone_iff_eq_none, write_isNone, Option.isNone_iff_eq_none]
    rcases added_write listed with before | ⟨untracked, rfl⟩
    · exact accounts.apart entry before
    · exact untracked
  · rw [congrFun write_existing key] at found
    by_cases same : key = item.key
    · rw [same, Function.update_self] at found
      obtain ⟨former, -, rfl⟩ := Option.map_eq_some_iff.mp found
      exact within
    · rw [Function.update_of_ne same] at found
      exact accounts.existing key row found
  · rcases added_write listed with before | ⟨-, rfl⟩
    · exact accounts.added entry before
    · exact within
  · rw [treeOf_write] at member
    rcases @write_covers store run rel path item with covered | other
    · exact .inl covered
    have inside : path ∈ treeOf store tree run := ((mem_write member).resolve_left other).1
    rcases accounts.files path inside with covered | owned | ⟨known, untouched⟩
    · refine .inl (covered.mono ?_ older fun error reported => by rwa [write_errors])
      rintro ⟨key, row, found, named⟩
      by_cases same : key = item.key
      · subst same
        rcases released row found with again | gone
        · rw [again] at named
          exact absurd named other
        · obtain ⟨cause, reported⟩ := gone path inside named
          exact .inr (.inr ⟨row.relPath, cause, by rwa [write_errors], named⟩)
      · refine .inl ⟨key, row, ?_, named⟩
        rw [congrFun write_existing key, Function.update_of_ne same]
        exact found
    · exact .inr (.inl owned)
    · refine .inr (.inr ⟨known, ?_⟩)
      simp only [SyncRun.write, List.map_append, List.map_cons, List.map_nil]
      exact touched_concat untouched other

theorem dropFormer (accounts : Accounts store ns tree elsewhere kept run) :
    Accounts store ns tree elsewhere kept (run.dropFormer attempt rel) := by
  unfold SyncRun.dropFormer
  split
  · split
    · exact accounts.delete
    · exact accounts
  · exact accounts

theorem fail {cause : String} (accounts : Accounts store ns tree elsewhere kept run) :
    Accounts store ns tree elsewhere kept (run.fail key cause) :=
  accounts.reported _ fun _ member => List.mem_append_left _ member

theorem attempted (accounts : Accounts store ns tree elsewhere kept run) (within : Within ns rel) :
    Accounts store ns tree elsewhere kept (syncAttempt run attempt rel) := by
  unfold syncAttempt
  split
  · exact accounts.reported _ fun _ member => member
  split
  · exact accounts.fail
  split
  · exact accounts.dropFormer.fail
  · exact accounts.dropFormer.write dropFormer_released within

theorem stepsReached (accounts : Accounts store ns tree elsewhere kept run)
    (within : ∀ attempt, .item attempt ∈ steps → ∀ rel, attempt.item.rel = .ok rel → Within ns rel) :
    Accounts store ns tree elsewhere kept (stepsReached run steps) := by
  induction steps generalizing run with
  | nil => exact accounts
  | cons step rest ih =>
      have later : ∀ attempt, .item attempt ∈ rest → ∀ rel, attempt.item.rel = .ok rel → Within ns rel :=
        fun attempt listed => within attempt (List.mem_cons_of_mem _ listed)
      cases step with
      | unlisted pageId cause => exact ih (accounts.reported _ fun _ member => List.mem_append_left _ member) later
      | item attempt =>
          rw [Leftovers.stepsReached]
          cases valid : attempt.item.rel with
          | error reason => exact accounts
          | ok rel => exact ih (accounts.attempted (within attempt List.mem_cons_self rel valid)) later

theorem forget (accounts : Accounts store ns tree elsewhere kept run)
    (own : ∀ row, run.existing.lookup key = some row → row.relPath = rel) :
    Accounts store ns tree elsewhere kept (run.forget key rel raises) := by
  have deleted := @Accounts.delete _ _ _ _ _ _ key rel raises accounts
  have kept : ∀ other, other ≠ key → (run.forget key rel raises).existing.lookup other = run.existing.lookup other := by
    intro other apart
    simp only [SyncRun.forget, delete_existing]
    exact AList.lookup_erase_ne apart
  have gone : (run.forget key rel raises).existing.lookup key = none := by
    simp [SyncRun.forget]
  have smaller : ∀ other row, (run.forget key rel raises).existing.lookup other = some row →
      run.existing.lookup other = some row := by
    intro other row found
    by_cases same : other = key
    · rw [same, gone] at found
      cases found
    · rwa [kept other same] at found
  have entries : (run.forget key rel raises).added = run.added := delete_added
  refine ⟨fun entry listed => ?_, fun other row found => accounts.existing other row (smaller other row found),
    fun entry listed => accounts.added entry (entries ▸ listed), fun path member => ?_⟩
  · rw [entries] at listed
    by_cases same : entry.1 = key
    · rw [same, gone]
    · rw [kept _ same]
      exact accounts.apart entry listed
  · rcases deleted.files path member with covered | other
    · refine .inl (covered.mono ?_ (fun _ listed => listed) fun _ reported => reported)
      rintro ⟨other, row, found, named⟩
      rw [delete_existing] at found
      by_cases same : other = key
      · subst same
        rw [own row found] at named
        cases raises with
        | none =>
            have there : path ∈ treeOf store tree (run.delete other rel none) := member
            rw [treeOf_delete] at there
            exact absurd named (mem_delete there).2
        | some cause =>
            exact .inr (.inr ⟨rel, cause, List.mem_append_right _ (List.mem_singleton_self _), named⟩)
      · exact .inl ⟨other, row, (kept other same).trans found, named⟩
    · exact .inr other

theorem deleteUnseen (accounts : Accounts store ns tree elsewhere kept run)
    (own : ∀ entry ∈ entries, entry.1 ∉ seen → ∀ row, run.existing.lookup entry.1 = some row → row = entry.2) :
    Accounts store ns tree elsewhere kept (deleteUnseen deleteGone seen run entries) := by
  induction entries generalizing run with
  | nil => exact accounts
  | cons entry rest ih =>
      rw [Confluence.deleteUnseen]
      by_cases listed : entry.1 ∈ seen
      · rw [if_pos listed]
        exact ih accounts fun other member => own other (List.mem_cons_of_mem _ member)
      rw [if_neg listed]
      refine ih (accounts.forget fun row found => ?_) fun other member unseen row found => ?_
      · rw [own entry List.mem_cons_self listed row found]
      · refine own other (List.mem_cons_of_mem _ member) unseen row ?_
        simp only [SyncRun.forget, delete_existing] at found
        by_cases same : other.1 = entry.1
        · rw [same, AList.lookup_erase] at found
          cases found
        · rwa [AList.lookup_erase_ne same] at found

end Accounts

theorem stepsReached_of_some (ran : syncSteps run steps = some after) : stepsReached run steps = after := by
  induction steps generalizing run with
  | nil => exact Option.some.inj ran
  | cons step rest ih =>
      cases step with
      | unlisted pageId cause => exact ih ran
      | item attempt =>
          rw [syncSteps] at ran
          rw [stepsReached]
          cases valid : attempt.item.rel with
          | error reason =>
              rw [valid] at ran
              cases ran
          | ok rel =>
              rw [valid] at ran
              exact ih ran

theorem stepsReached_unseen (unseen : key ∉ steps.filterMap stepKey) :
    (stepsReached run steps).existing.lookup key = run.existing.lookup key := by
  induction steps generalizing run with
  | nil => rfl
  | cons step rest ih =>
      cases step with
      | unlisted pageId cause => exact ih unseen
      | item attempt =>
          obtain ⟨other, later⟩ : key ≠ attempt.item.key ∧ key ∉ rest.filterMap stepKey := by
            simpa [stepKey] using unseen
          rw [stepsReached]
          cases attempt.item.rel with
          | error reason => rfl
          | ok rel =>
              dsimp only
              rw [ih later, congrFun syncAttempt_existing key, Function.update_of_ne other]

end Runs

section Syncs

variable {store : DocsStore} {ns rel path : String} {tree : List String} {elsewhere kept : String → Prop}
  {rows : Rows} {added : List (Key × SyncRow)} {key : Key} {row : SyncRow} {listener : ListenerRow} {answers : Answers}
  {run : SyncRun}

theorem mem_withAdded (found : (withAdded rows added).lookup key = some row) :
    rows.lookup key = some row ∨ (key, row) ∈ added := by
  induction added using List.reverseRecOn with
  | nil => exact .inl found
  | append_singleton added entry ih =>
      rw [withAdded, List.foldl_append, List.foldl_cons, List.foldl_nil] at found
      by_cases same : key = entry.1
      · rw [same, AList.lookup_insert] at found
        refine .inr (List.mem_append_right _ ?_)
        rw [← Option.some.inj found, same]
        exact List.mem_singleton_self _
      · rw [AList.lookup_insert_ne same] at found
        rcases ih found with before | listed
        · exact .inl before
        · exact .inr (List.mem_append_left _ listed)

theorem withAdded_mem (once : (added.map Prod.fst).Nodup) (listed : (key, row) ∈ added) :
    (withAdded rows added).lookup key = some row := by
  induction added using List.reverseRecOn with
  | nil => cases listed
  | append_singleton added entry ih =>
      rw [List.map_append, List.nodup_append] at once
      obtain ⟨earlier, -, apart⟩ := once
      rw [withAdded, List.foldl_append, List.foldl_cons, List.foldl_nil]
      rcases List.mem_append.mp listed with before | now
      · have other : key ≠ entry.1 := apart key (List.mem_map_of_mem before) entry.1 (by simp)
        rw [AList.lookup_insert_ne other]
        exact ih earlier before
      · rw [← List.mem_singleton.mp now]
        exact AList.lookup_insert _

theorem Accounts.named (accounts : Accounts store ns tree elsewhere kept run) (once : (run.added.map Prod.fst).Nodup)
    (covered : Covered store run path) : Named store (withAdded run.existing run.added) path ∨
      ∃ rel cause, .delete rel cause ∈ run.result.errors ∧ pathOf store rel = some path := by
  rcases covered with ⟨key, row, found, named⟩ | ⟨entry, listed, named⟩ | reported
  · refine .inl ⟨key, row, ?_, named⟩
    rw [withAdded_absent, found]
    intro member
    obtain ⟨entry, listed, rfl⟩ := List.mem_map.mp member
    rw [accounts.apart entry listed] at found
    cases found
  · exact .inl ⟨entry.1, entry.2, withAdded_mem once listed, named⟩
  · exact .inr reported

theorem Accounts.within (accounts : Accounts store ns tree elsewhere kept run)
    (found : (withAdded run.existing run.added).lookup key = some row) : Within ns row.relPath := by
  rcases mem_withAdded found with before | listed
  · exact accounts.existing key row before
  · exact accounts.added _ listed

def stepRel : Step → Option (Except PathError String)
  | .item attempt => some attempt.item.rel
  | .unlisted _ _ => none

theorem stepsOf_within (clean : Clean listener.slug) {attempt : Attempt}
    (listed : .item attempt ∈ stepsOf store answers.tools (listenerOf listener) answers.pages)
    (valid : attempt.item.rel = .ok rel) : Within listener.slug rel := by
  have folder : "confluence/" = "confluence" ++ "/" := by decide
  have attachments : "/attachments/" = "/" ++ "attachments/" := by decide
  have shape : ∀ rest, attempt.item.rel = store.safeRel ("confluence" ++ "/" ++ (listener.slug ++ "/" ++ rest)) →
      Within listener.slug rel := fun rest made =>
    within_of_normal rest clean (safeRel_normal (made.symm.trans valid))
  obtain ⟨listing, -, inside⟩ := List.mem_flatMap.mp listed
  rcases List.mem_append.mp inside with page | attachment
  · split at page
    · have made := congrArg stepRel (List.mem_singleton.mp page)
      simp only [stepRel, pageStep, folder, String.append_assoc, listenerOf, Option.some.injEq] at made
      refine shape (slugify answers.tools.asciiFold listing.page.title ++ "-" ++ listing.page.id ++ ".md") ?_
      simp only [String.append_assoc]
      exact made
    · cases page
  · split at attachment
    · split at attachment
      · cases List.mem_singleton.mp attachment
      next known =>
        obtain ⟨att, -, same⟩ := List.mem_map.mp attachment
        have made := congrArg stepRel same.symm
        simp only [stepRel, attachmentStep, folder, attachments, String.append_assoc, listenerOf, Option.some.injEq] at made
        refine shape ("attachments/" ++ att.1.id ++ "-" ++ att.1.filename) ?_
        simp only [String.append_assoc]
        exact made
    · cases attachment

theorem within_pathOf (clean : Clean ns) (within : Within ns rel) (named : pathOf store rel = some path) :
    Within ns path := by
  have valid : normalizeRel rel = .ok path := by
    cases safe : store.safeRel rel with
    | error error =>
        rw [pathOf, safe] at named
        cases named
    | ok norm =>
        rw [pathOf, safe] at named
        cases named
        exact safeRel_normal safe
  obtain ⟨more, parts⟩ := within
  cases more with
  | nil =>
      have shape : rel = "confluence" ++ "/" ++ ns := by
        rw [← join_components rel, parts, String.intercalate_cons_cons, String.intercalate_singleton]
      refine ⟨[], ?_⟩
      rw [normalizeRel_components valid, shape, headParts_slash clean_confluence, tailParts_clean clean]
  | cons next more =>
      have shape : rel = "confluence" ++ "/" ++ (ns ++ "/" ++ "/".intercalate (next :: more)) := by
        rw [← join_components rel, parts, String.intercalate_cons_cons, String.intercalate_cons_cons,
          String.append_assoc, String.append_assoc]
      rw [shape] at valid
      exact within_of_normal _ clean valid

structure SyncLeaves (store : DocsStore) (ns : String) (tree : List String) (elsewhere kept : String → Prop)
    (temporary : Key → String → List String) (ended : Ended) : Prop where
  within : ∀ rows, ended.rows = some rows → ∀ key row, rows.lookup key = some row → Within ns row.relPath
  files : ∀ rows, ended.rows = some rows → ∀ path ∈ ended.calls.foldl (carryOut store) tree,
    Named store rows path ∨ (∃ cause, (path, cause) ∈ leaves store temporary ended) ∨ elsewhere path ∨
      (kept path ∧ path ∉ touched store ended.calls)
  undone : ended.rows = none → ∀ path ∈ ended.calls.foldl (carryOut store) tree,
    (∃ cause, (path, cause) ∈ leaves store temporary ended) ∨ (path ∈ tree ∧ path ∉ touched store ended.calls)

theorem leaves_refused {temporary : Key → String → List String} {ended : Ended} {cause : String}
    (reported : .delete rel cause ∈ ended.errors) (named : pathOf store rel = some path) :
    ∃ cause, (path, cause) ∈ leaves store temporary ended := by
  have listed : (path, SyncError.delete rel cause) ∈ refused store ended.errors ++ unfinished temporary ended.errors := by
    refine List.mem_append_left _ (List.mem_filterMap.mpr ⟨.delete rel cause, reported, ?_⟩)
    simp [named]
  unfold leaves
  dsimp only
  split
  · exact ⟨_, List.mem_map.mpr ⟨_, listed, rfl⟩⟩
  · refine ⟨_, List.mem_map.mpr ⟨path, List.mem_append_left _ ?_, rfl⟩⟩
    exact List.mem_map.mpr ⟨_, listed, rfl⟩

theorem leaves_unfinished {temporary : Key → String → List String} {ended : Ended} {entry : String × SyncError}
    (reported : entry ∈ unfinished temporary ended.errors) :
    ∃ cause, (entry.1, cause) ∈ leaves store temporary ended := by
  unfold leaves
  dsimp only
  split
  · exact ⟨_, List.mem_map.mpr ⟨entry, List.mem_append_right _ reported, rfl⟩⟩
  · refine ⟨_, List.mem_map.mpr ⟨entry.1, List.mem_append_left _ ?_, rfl⟩⟩
    exact List.mem_map.mpr ⟨entry, List.mem_append_right _ reported, rfl⟩

theorem leaves_written {temporary : Key → String → List String} {ended : Ended} (stopped : ended.returned = false)
    (wrote : path ∈ written store ended.calls) : ∃ cause, (path, cause) ∈ leaves store temporary ended := by
  unfold leaves
  dsimp only
  rw [stopped, if_neg Bool.false_ne_true]
  exact ⟨_, List.mem_map.mpr ⟨path, List.mem_append_right _ wrote, rfl⟩⟩

theorem flush_isSome : (flush run).isSome ↔ (run.added.map Prod.fst).Nodup := by
  unfold flush
  split <;> simp_all

theorem Accounts.leaves {temporary : Key → String → List String} {returned : Bool}
    (accounts : Accounts store ns tree elsewhere kept run) (once : (run.added.map Prod.fst).Nodup) :
    SyncLeaves store ns tree elsewhere kept temporary {
      calls := run.calls.map Prod.snd
      errors := run.result.errors
      rows := some (withAdded run.existing run.added)
      returned } where
  within rows committed key row found := by
    obtain rfl := Option.some.inj committed
    exact accounts.within found
  files rows committed path member := by
    obtain rfl := Option.some.inj committed
    rcases accounts.files path member with covered | other
    · rcases accounts.named once covered with named | ⟨rel, cause, reported, named⟩
      · exact .inl named
      · exact .inr (.inl (leaves_refused reported named))
    · exact .inr (.inr other)
  undone rolledBack := by cases rolledBack

theorem leaves_rolledBack {temporary : Key → String → List String} :
    SyncLeaves store ns tree elsewhere kept temporary {
      calls := run.calls.map Prod.snd
      errors := run.result.errors
      rows := none
      returned := false } where
  within rows committed := by cases committed
  files rows committed := by cases committed
  undone _ path member := by
    rcases mem_carriedOut member with wrote | there
    · exact .inl (leaves_written rfl wrote)
    · exact .inr there

theorem runSync_leaves (clean : Clean listener.slug)
    (within : ∀ key row, listener.rows.lookup key = some row → Within listener.slug row.relPath)
    (known : ∀ path ∈ tree, Named store listener.rows path ∨ elsewhere path ∨ kept path) :
    SyncLeaves store listener.slug tree elsewhere kept answers.temporary (runSync store answers listener) := by
  have start : Accounts store listener.slug tree elsewhere kept { existing := listener.rows, files := ∅ } := by
    refine ⟨nofun, within, nofun, fun path member => ?_⟩
    rcases known path member with named | owned | onRecord
    · exact .inl (.inl named)
    · exact .inr (.inl owned)
    · exact .inr (.inr ⟨onRecord, List.not_mem_nil⟩)
  have reached := start.stepsReached fun attempt listed rel valid => @stepsOf_within store rel listener answers clean attempt listed valid
  cases ran : syncSteps { existing := listener.rows, files := ∅ }
      (stepsOf store answers.tools (listenerOf listener) answers.pages) with
  | none =>
      unfold runSync
      dsimp only
      rw [ran]
      dsimp only
      split
      next committed =>
        rw [Bool.and_eq_true, decide_eq_true_eq] at committed
        exact reached.leaves committed.2
      next => exact leaves_rolledBack
  | some run =>
      rw [stepsReached_of_some ran] at reached
      have own : ∀ entry ∈ listener.rows.entries,
          entry.1 ∉ (stepsOf store answers.tools (listenerOf listener) answers.pages).filterMap stepKey →
          ∀ row, run.existing.lookup entry.1 = some row → row = entry.2 := by
        intro entry listed unseen row found
        rw [← stepsReached_of_some ran, stepsReached_unseen unseen] at found
        exact Option.some.inj (found.symm.trans (entries_lookup listed))
      have mirrored := @Accounts.deleteUnseen _ _ _ _ _ _ answers.deleteGone _ _ reached own
      unfold runSync
      dsimp only
      rw [ran]
      dsimp only
      cases flushed : flush (Confluence.deleteUnseen answers.deleteGone
          ((stepsOf store answers.tools (listenerOf listener) answers.pages).filterMap stepKey) run
          listener.rows.entries) with
      | none => exact leaves_rolledBack
      | some after =>
          rw [Option.map_some, (flush_some flushed).1]
          exact mirrored.leaves (flush_isSome.mp (by rw [flushed]; rfl))

end Syncs

structure Tidy (store : DocsStore) (state : State) : Prop where
  clean : ∀ listener ∈ state.listeners.rows, Clean listener.slug
  within : ∀ listener ∈ state.listeners.rows, ∀ key row, listener.rows.lookup key = some row →
    Within listener.slug row.relPath
  files : ∀ path ∈ state.tree, Tracked store state path ∨ ∃ cause, (path, cause) ∈ state.left

structure Carries (before after : Table ListenerRow) : Prop where
  known : ∀ listener ∈ after.rows, (∃ old ∈ before.rows, old.slug = listener.slug ∧ old.rows = listener.rows) ∨
    (Clean listener.slug ∧ listener.rows = ∅)
  kept : ∀ old ∈ before.rows, ∃ listener ∈ after.rows, listener.slug = old.slug ∧ listener.rows = old.rows

section Histories

variable {store : DocsStore} {asciiFold : String → String} {state : State} {before after : Table ListenerRow}
  {listener : ListenerRow} {path : String} {id : Int} {tid : Option Int} {answers : Answers}

theorem Carries.refl : Carries before before :=
  ⟨fun listener member => .inl ⟨listener, member, rfl, rfl⟩, fun old member => ⟨old, member, rfl, rfl⟩⟩

theorem Carries.insert (make : Int → ListenerRow) (keyed : ∀ id, key (make id) = id)
    (clean : Clean (make before.fresh).slug) (empty : (make before.fresh).rows = ∅) :
    Carries before (before.insert make keyed) := by
  refine ⟨fun listener member => ?_, fun old member => ⟨old, Table.mem_insert.mpr (.inl member), rfl, rfl⟩⟩
  rcases Table.mem_insert.mp member with earlier | rfl
  · exact .inl ⟨listener, earlier, rfl, rfl⟩
  · exact .inr ⟨clean, empty⟩

theorem Carries.modify (change : ListenerRow → ListenerRow) (keeps : ∀ row, key (change row) = key row)
    (slugs : ∀ row, (change row).slug = row.slug) (rows : ∀ row, (change row).rows = row.rows) :
    Carries before (before.modify id change keeps) := by
  refine ⟨fun listener member => ?_, fun old member => ?_⟩
  · obtain ⟨old, listed, rfl⟩ := Table.mem_modify.mp member
    refine .inl ⟨old, listed, ?_⟩
    split
    · exact ⟨(slugs old).symm, (rows old).symm⟩
    · exact ⟨rfl, rfl⟩
  · refine ⟨_, Table.mem_modify.mpr ⟨old, member, rfl⟩, ?_⟩
    split
    · exact ⟨slugs old, rows old⟩
    · exact ⟨rfl, rfl⟩

theorem confluenceCreate_carries {tenant : Int} {form : ListenerForm} {credentialTenant : Int → Option Int} :
    Carries before ((confluenceCreate asciiFold credentialTenant before tenant form).toOption.getD before) := by
  unfold confluenceCreate
  split
  · exact .refl
  split
  · exact .refl
  split
  · exact .refl
  next credentialId _ =>
    split
    · exact .refl
    split
    · exact .refl
    · refine Carries.insert (newListener asciiFold tenant form credentialId) (fun _ => rfl) ?_ rfl
      dsimp only [newListener]
      exact clean_slugify

theorem confluenceToggle_carries : Carries before ((confluenceToggle before id tid).toOption.getD before) := by
  unfold confluenceToggle
  split
  · exact .refl
  · exact Carries.modify (fun row => { row with enabled := !row.enabled }) (fun _ => rfl) (fun _ => rfl) fun _ => rfl

theorem Tidy.carries (tidy : Tidy store state) (carries : Carries state.listeners after) :
    Tidy store { state with listeners := after } := by
  refine ⟨fun listener member => ?_, fun listener member key row found => ?_, fun path member => ?_⟩
  · rcases carries.known listener member with ⟨old, earlier, slug, -⟩ | ⟨clean, -⟩
    · rw [← slug]
      exact tidy.clean old earlier
    · exact clean
  · rcases carries.known listener member with ⟨old, earlier, slug, rows⟩ | ⟨-, empty⟩
    · rw [← slug]
      rw [← rows] at found
      exact tidy.within old earlier key row found
    · rw [empty] at found
      cases found
  · rcases tidy.files path member with ⟨old, earlier, within, named⟩ | onRecord
    · obtain ⟨listener, there, slug, rows⟩ := carries.kept old earlier
      exact .inl ⟨listener, there, slug.symm ▸ within, rows.symm ▸ named⟩
    · exact .inr onRecord

theorem deleteState_tidy (tidy : Tidy store state) : Tidy store (deleteState store state id tid) := by
  unfold deleteState confluenceDelete
  cases found : getListener state.listeners id tid with
  | none => exact tidy
  | some row =>
      obtain ⟨there, -⟩ := Option.filter_eq_some_iff.mp found
      obtain ⟨listed, -⟩ := Table.get_eq_some_iff.mp there
      dsimp only
      refine ⟨fun listener member => tidy.clean listener (Table.mem_remove.mp member).1,
        fun listener member => tidy.within listener (Table.mem_remove.mp member).1, fun path member => ?_⟩
      rcases tidy.files path member with ⟨listener, earlier, within, named⟩ | ⟨cause, onRecord⟩
      · by_cases same : key listener = row.id
        · right
          obtain rfl : listener = row := Table.eq_of_key earlier listed same
          obtain ⟨key, item, lookup, path⟩ := named
          refine ⟨.listenerDeleted, List.mem_append_right _ (List.mem_filterMap.mpr ⟨⟨key, item⟩, ?_, ?_⟩)⟩
          · exact AList.mem_lookup_iff.mp lookup
          · simp [path]
        · exact .inl ⟨listener, Table.mem_remove.mpr ⟨earlier, same⟩, within, named⟩
      · exact .inr ⟨cause, List.mem_append_left _ onRecord⟩

theorem synced_listener {rows : Rows} (listed : listener ∈ before.rows) (rowId : key listener = id)
    {other : ListenerRow}
    (member : other ∈ (before.modify id (fun row => { row with rows := rows }) (fun _ => rfl)).rows) :
    (other = { listener with rows := rows }) ∨ (other ∈ before.rows ∧ key other ≠ id) := by
  obtain ⟨old, earlier, rfl⟩ := Table.mem_modify.mp member
  by_cases same : key old = id
  · rw [if_pos same, Table.eq_of_key earlier listed (same.trans rowId.symm)]
    exact .inl rfl
  · rw [if_neg same]
    exact .inr ⟨earlier, same⟩

theorem mem_synced {rows : Rows} (listed : listener ∈ before.rows) : (if key listener = id then
      { listener with rows := rows } else listener) ∈
        (before.modify id (fun row => { row with rows := rows }) (fun _ => rfl)).rows :=
  Table.mem_modify.mpr ⟨listener, listed, rfl⟩

theorem syncState_tidy (tidy : Tidy store state) : Tidy store (syncState store state id answers) := by
  unfold syncState
  cases found : state.listeners.get id with
  | none => exact tidy
  | some row =>
      obtain ⟨listed, rowId⟩ := Table.get_eq_some_iff.mp found
      have clean := tidy.clean row listed
      have known : ∀ path ∈ state.tree, Named store row.rows path ∨
          (∃ other ∈ state.listeners.rows, key other ≠ id ∧ Within other.slug path ∧ Named store other.rows path) ∨
          ∃ cause, (path, cause) ∈ state.left := by
        intro path member
        rcases tidy.files path member with ⟨listener, there, within, named⟩ | onRecord
        · by_cases same : key listener = id
          · obtain rfl : listener = row := Table.eq_of_key there listed (same.trans rowId.symm)
            exact .inl named
          · exact .inr (.inl ⟨listener, there, same, within, named⟩)
        · exact .inr (.inr onRecord)
      have leaves := @runSync_leaves store _ _ _ row answers clean (tidy.within row listed) known
      dsimp only
      generalize runSync store answers row = ended at leaves ⊢
      have files : ∀ path ∈ ended.calls.foldl (carryOut store) state.tree ++
          (unfinished answers.temporary ended.errors).map Prod.fst,
          path ∈ ended.calls.foldl (carryOut store) state.tree ∨
            ∃ cause, (path, cause) ∈ Leftovers.leaves store answers.temporary ended := by
        intro path member
        rcases List.mem_append.mp member with stored | unfinished
        · exact .inl stored
        · obtain ⟨entry, reported, rfl⟩ := List.mem_map.mp unfinished
          exact .inr (leaves_unfinished reported)
      cases committed : ended.rows with
      | none =>
          refine ⟨tidy.clean, tidy.within, fun path member => ?_⟩
          rcases files path member with stored | ⟨cause, now⟩
          · rcases leaves.undone committed path stored with ⟨cause, now⟩ | ⟨before, untouched⟩
            · exact .inr ⟨cause, List.mem_append_right _ now⟩
            · rcases tidy.files path before with tracked | ⟨cause, onRecord⟩
              · exact .inl tracked
              · exact .inr ⟨cause, List.mem_append_left _ (List.mem_filter.mpr ⟨onRecord, decide_eq_true untouched⟩)⟩
          · exact .inr ⟨cause, List.mem_append_right _ now⟩
      | some rows =>
          have below := leaves.within rows committed
          refine ⟨fun other member => ?_, fun other member => ?_, fun path member => ?_⟩
          · rcases synced_listener listed rowId member with rfl | ⟨earlier, -⟩
            · exact clean
            · exact tidy.clean other earlier
          · rcases synced_listener listed rowId member with rfl | ⟨earlier, -⟩
            · exact below
            · exact tidy.within other earlier
          rcases files path member with stored | ⟨cause, now⟩
          · rcases leaves.files rows committed path stored with named | ⟨cause, now⟩ | other | ⟨⟨cause, onRecord⟩, untouched⟩
            · have there := @mem_synced _ row id rows listed
              rw [if_pos rowId] at there
              obtain ⟨key, item, lookup, own⟩ := named
              exact .inl ⟨_, there, within_pathOf clean (below key item lookup) own, key, item, lookup, own⟩
            · exact .inr ⟨cause, List.mem_append_right _ now⟩
            · obtain ⟨listener, earlier, different, within, named⟩ := other
              have there := @mem_synced _ listener id rows earlier
              rw [if_neg different] at there
              exact .inl ⟨listener, there, within, named⟩
            · exact .inr ⟨cause, List.mem_append_left _ (List.mem_filter.mpr ⟨onRecord, decide_eq_true untouched⟩)⟩
          · exact .inr ⟨cause, List.mem_append_right _ now⟩

theorem perform_tidy {event : Event} (tidy : Tidy store state) : Tidy store (perform store asciiFold state event) := by
  cases event with
  | create tenant form credentialTenant => exact tidy.carries confluenceCreate_carries
  | toggle id tid => exact tidy.carries confluenceToggle_carries
  | delete id tid => exact deleteState_tidy tidy
  | sync id answers => exact syncState_tidy tidy

end Histories

/-- Over every history a file of a listener is named by a row of a listener that exists, below the folder of that
listener, or it has been left in place by a deletion of its listener, by a call to the store that failed and was
reported, or by a sync that ended with an exception. -/
theorem files_named_or_left (store : DocsStore) (asciiFold : String → String) (events : List Event) :
    ∃ state, (listenerSystem store asciiFold).run noListeners events = some state ∧
      ∀ path ∈ state.tree, Tracked store state path ∨ ∃ cause, (path, cause) ∈ state.left := by
  have ran : ∀ state, Tidy store state → ∃ after, (listenerSystem store asciiFold).run state events = some after ∧
      Tidy store after := by
    induction events with
    | nil => exact fun state tidy => ⟨state, rfl, tidy⟩
    | cons event events ih => exact fun state tidy => ih _ (perform_tidy tidy)
  obtain ⟨state, completed, tidy⟩ := ran noListeners ⟨nofun, nofun, nofun⟩
  exact ⟨state, completed, tidy.files⟩

def createTeamListener : Event := .create 1 (listenerForm "Team Docs" "ENG") fun _ => some 1

/-- A sync that sees these pages; no call fails. -/
def syncSeeing (pages : List PageListing) : Answers := ⟨engTools, pages, fun _ => none, fun _ _ => [], false⟩

def syncHome : Event := .sync 1 (syncSeeing [⟨homePage, {}, .ok []⟩])

def syncRefused : Event := .sync 1 { syncSeeing [] with deleteGone := fun _ => some "locked" }

def syncBroken : Event := .sync 1 (syncSeeing [⟨homePage, {}, .ok [(⟨"9", "../../../plan.png", "1", ""⟩, {})]⟩])

def tracksAfter (events : List Event) : Option (List String × List (List String)) :=
  ((listenerSystem shareStore id).run noListeners events).map fun state =>
    (state.tree, state.listeners.rows.map fun listener => listener.rows.entries.map fun entry => entry.2.relPath)

/-- The page of the listener is there and no row of a listener is for it. -/
def LeavesPage (events : List Event) : Prop :=
  ∃ state, (listenerSystem shareStore id).run noListeners events = some state ∧
    "confluence/team-docs/home-7.md" ∈ state.tree ∧ ¬ Tracked shareStore state "confluence/team-docs/home-7.md"

theorem leavesPage_of_tracks {events : List Event} {rows : List (List String)}
    (after : tracksAfter events = some (["confluence/team-docs/home-7.md"], rows)) (none : ∀ paths ∈ rows, paths = []) :
    LeavesPage events := by
  obtain ⟨state, completed, seen⟩ := Option.map_eq_some_iff.mp after
  rw [Prod.mk.injEq] at seen
  refine ⟨state, completed, by simp [seen.1], ?_⟩
  rintro ⟨listener, member, -, key, row, found, -⟩
  have empty := none _ (seen.2 ▸ List.mem_map_of_mem member)
  rw [List.map_eq_nil_iff] at empty
  have listed : (⟨key, row⟩ : Sigma fun _ : Key => SyncRow) ∈ listener.rows.entries := AList.mem_lookup_iff.mp found
  rw [empty] at listed
  cases listed

theorem page_outlives_its_row : LeavesPage [createTeamListener, syncHome, .delete 1 (some 1)] ∧
    LeavesPage [createTeamListener, syncHome, syncRefused] ∧ LeavesPage [createTeamListener, syncBroken] := by
  refine ⟨@leavesPage_of_tracks _ [] ?_ nofun, @leavesPage_of_tracks _ [[]] ?_ (by simp),
    @leavesPage_of_tracks _ [[]] ?_ (by simp)⟩
  · decide
  · decide
  · decide

end Dosm.Confluence.Leftovers
