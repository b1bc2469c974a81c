import Dosm.Confluence.Isolation

namespace Dosm.Confluence

open Python Docs.Store Docs.Vault

/-! A run whose calls raise by item is the run without its report.

The rows that are added at the end are those that the other run has at once, and an item
that is added twice ends both.
-/

def callsOf (faults : Faults) (cause : String) (key : Key) : Calls where
  fetch := if faults.fetch key then some cause else none
  write := if faults.write key then some cause else none
  deleteOld := if faults.deleteOld key then some cause else none

def listingOf (faults : Faults) (cause : String) (page : RemotePage) : PageListing where
  page := page
  calls := callsOf faults cause (.page, page.id)
  attachments :=
    if faults.listing page.id then .error cause
    else .ok (page.attachments.map fun att => (att, callsOf faults cause (.attachment, att.id)))

def attemptOf : Step → Option Attempt
  | .item attempt => some attempt
  | .unlisted _ _ => none

def shareStore : DocsStore := ⟨.smb none, true, ∅⟩

structure Matches (earlier : List StoreCall) (run : SyncRun) (state : SyncState) : Prop where
  rows : ∀ key, state.rows.lookup key = (withAdded run.existing run.added).lookup key
  files : state.files = run.files
  calls : state.calls = earlier ++ run.calls.map Prod.snd

structure Tracks (faults : Faults) (before : Rows) (earlier : List StoreCall) (run : SyncRun) (state : SyncState) :
    Prop extends Matches earlier run state where
  tracked : ∀ key, (run.existing.lookup key).isNone = (before.lookup key).isNone
  fresh : ∀ key ∈ run.added.map Prod.fst, before.lookup key = none ∧ faults.fetch key = false ∧ faults.write key = false
  once : (run.added.map Prod.fst).Nodup

section Refinement

variable {faults : Faults} {cause : String} {before rows : Rows} {earlier : List StoreCall} {run after : SyncRun}
  {state : SyncState} {item : Item} {rel : String} {key : Key} {steps : List Step} {listed : List Item}
  {added : List (Key × SyncRow)} {tools : Tools} {listener : Listener} {pages : List RemotePage}

theorem attempts_of_listing : (stepsOf shareStore tools listener (pages.map (listingOf faults cause))).filterMap attemptOf =
    (items tools listener faults pages).map fun item => ⟨item, callsOf faults cause item.key⟩ := by
  unfold stepsOf items
  induction pages with
  | nil => rfl
  | cons page rest ih =>
      rw [List.map_cons, List.flatMap_cons, List.flatMap_cons, List.filterMap_append, ih, List.map_append]
      congr 1
      rw [List.filterMap_append, List.map_append]
      congr 1
      · split <;> rfl
      · split
        · cases failed : faults.listing page.id with
          | true => simp [listingOf, failed, listAttachments, attemptOf]
          | false =>
              simp only [listingOf, failed, listAttachments, if_false, Bool.false_eq_true, List.map_map,
                List.filterMap_map]
              rw [← List.filterMap_eq_map]
              rfl
        · rfl

theorem withAdded_absent (absent : key ∉ added.map Prod.fst) : (withAdded rows added).lookup key = rows.lookup key := by
  rw [withAdded_lookup]
  have none : added.filter (·.1 = key) = [] := by
    rw [List.filter_eq_nil_iff]
    intro entry member same
    exact absent (of_decide_eq_true same ▸ List.mem_map_of_mem member)
  rw [none]
  rfl

theorem withAdded_some (found : (withAdded rows added).lookup key ≠ rows.lookup key) : key ∈ added.map Prod.fst := by
  by_contra absent
  exact found (withAdded_absent absent)

theorem withAdded_isSome (member : key ∈ added.map Prod.fst) : ((withAdded rows added).lookup key).isSome := by
  unfold withAdded
  induction added using List.reverseRecOn with
  | nil => cases member
  | append_singleton added entry ih =>
      rw [List.foldl_append]
      by_cases here : key = entry.1
      · rw [here]
        simp
      · have inside : key ∈ added.map Prod.fst := by simpa [here] using member
        simp only [List.foldl_cons, List.foldl_nil, AList.lookup_insert_ne here]
        exact ih inside

theorem Matches.delete (same : Matches earlier run state) (raises : Bool) :
    Matches earlier (run.delete key rel (if raises then some cause else none)) (safeDelete state rel raises) := by
  cases raises with
  | true => exact ⟨same.rows, same.files, same.calls⟩
  | false =>
      refine ⟨same.rows, ?_, ?_⟩
      · simp [safeDelete, SyncRun.delete, same.files]
      · simp [safeDelete, SyncRun.delete, same.calls]

namespace Tracks

theorem existing (tracks : Tracks faults before earlier run state) (there : (before.lookup key).isSome) :
    state.rows.lookup key = run.existing.lookup key := by
  rw [tracks.rows]
  apply withAdded_absent
  intro added
  rw [(tracks.fresh key added).1] at there
  cases there

theorem untracked (tracks : Tracks faults before earlier run state) (gone : before.lookup key = none) :
    run.existing.lookup key = none := by
  rw [← Option.isNone_iff_eq_none, tracks.tracked, gone]
  rfl

theorem was_added (tracks : Tracks faults before earlier run state) (gone : before.lookup key = none)
    (there : (state.rows.lookup key).isSome) : key ∈ run.added.map Prod.fst := by
  apply @withAdded_some run.existing
  intro same
  rw [tracks.rows, same, tracks.untracked gone] at there
  cases there

theorem reported (tracks : Tracks faults before earlier run state) (result : SyncResult) :
    Tracks faults before earlier { run with result := result } state :=
  ⟨⟨tracks.rows, tracks.files, tracks.calls⟩, tracks.tracked, tracks.fresh, tracks.once⟩

theorem delete (tracks : Tracks faults before earlier run state) (raises : Bool) :
    Tracks faults before earlier (run.delete key rel (if raises then some cause else none))
      (safeDelete state rel raises) := by
  have same := @Matches.delete cause _ _ _ rel key tracks.toMatches raises
  refine ⟨same, ?_, ?_, ?_⟩
  · rw [delete_existing]
    exact tracks.tracked
  · rw [delete_added]
    exact tracks.fresh
  · rw [delete_added]
    exact tracks.once

theorem write (tracks : Tracks faults before earlier run state)
    (calm : faults.fetch item.key = false ∧ faults.write item.key = false)
    (known : state.rows.lookup item.key = run.existing.lookup item.key) :
    Tracks faults before earlier (run.write item rel) (writeItem state item rel) := by
  have files : (writeItem state item rel).files = (run.write item rel).files := by
    simp [writeItem, SyncRun.write, tracks.files]
  have calls : (writeItem state item rel).calls = earlier ++ (run.write item rel).calls.map Prod.snd := by
    simp [writeItem, SyncRun.write, tracks.calls]
  cases former : run.existing.lookup item.key with
  | some row =>
      have there : (before.lookup item.key).isSome := by
        rw [← Option.not_isNone, ← tracks.tracked, former]
        rfl
      have unadded : item.key ∉ run.added.map Prod.fst := by
        intro added
        rw [(tracks.fresh _ added).1] at there
        cases there
      have same : (run.write item rel).added = run.added := by simp [SyncRun.write, former]
      refine ⟨⟨fun key => ?_, files, calls⟩, fun key => ?_, by rw [same]; exact tracks.fresh,
        by rw [same]; exact tracks.once⟩
      · rw [same]
        by_cases here : key = item.key
        · rw [here, withAdded_absent unadded, congrFun write_existing]
          simp [writeItem, former]
        · have others : (run.write item rel).existing.lookup key = run.existing.lookup key := by
            rw [congrFun write_existing, Function.update_of_ne here]
          rw [withAdded_agrees others, ← tracks.rows]
          exact AList.lookup_insert_ne here
      · rw [congrFun write_existing, ← tracks.tracked]
        by_cases here : key = item.key
        · rw [here, Function.update_self, former]
          rfl
        · rw [Function.update_of_ne here]
  | none =>
      have gone : before.lookup item.key = none := by
        rw [← Option.isNone_iff_eq_none, ← tracks.tracked, former]
        rfl
      have same : (run.write item rel).existing = run.existing := by simp [SyncRun.write, former]
      have longer : (run.write item rel).added =
          run.added ++ [(item.key, ⟨rel, some item.version, some item.title⟩)] := by
        simp [SyncRun.write, former]
      refine ⟨⟨fun key => ?_, files, calls⟩, by rw [same]; exact tracks.tracked, ?_, ?_⟩
      · rw [same, longer, withAdded, List.foldl_append]
        by_cases here : key = item.key
        · rw [here]
          simp [writeItem]
        · have kept := tracks.rows key
          simp only [writeItem, List.foldl_cons, List.foldl_nil, AList.lookup_insert_ne here]
          exact kept
      · intro key member
        rw [longer, List.map_append, List.mem_append] at member
        rcases member with earlier | now
        · exact tracks.fresh key earlier
        · rw [List.map_singleton, List.mem_singleton] at now
          rw [now]
          exact ⟨gone, calm⟩
      · have unadded : item.key ∉ run.added.map Prod.fst := by
          intro added
          have there := @withAdded_isSome run.existing _ _ added
          rw [← tracks.rows, known, former] at there
          cases there
        rw [longer, List.map_append]
        refine List.nodup_append.mpr ⟨tracks.once, List.nodup_singleton _, ?_⟩
        intro key member other now
        rw [List.map_singleton, List.mem_singleton] at now
        rintro rfl
        rw [now] at member
        exact unadded member

theorem attempted (tracks : Tracks faults before earlier run state)
    (same : state.rows.lookup item.key = run.existing.lookup item.key) :
    Tracks faults before earlier (syncAttempt run ⟨item, callsOf faults cause item.key⟩ rel)
      (syncItem faults state item rel) := by
  have dropped : Tracks faults before earlier (run.dropFormer ⟨item, callsOf faults cause item.key⟩ rel)
      (dropFormer faults state item rel) := by
    unfold SyncRun.dropFormer dropFormer dropOld
    rw [same]
    cases run.existing.lookup item.key with
    | none => exact tracks
    | some row =>
        dsimp only
        split
        · exact tracks.delete (faults.deleteOld item.key)
        · exact tracks
  rw [syncItem_eq, same, syncAttempt]
  cases upToDate item rel (run.existing.lookup item.key) with
  | true => exact tracks.reported _
  | false =>
      cases fetched : faults.fetch item.key with
      | true =>
          simp only [callsOf, fetched, if_true, Bool.or_true, Bool.false_eq_true, if_false]
          exact tracks.reported _
      | false =>
          cases written : faults.write item.key with
          | true =>
              simp only [callsOf, fetched, written, if_true, Bool.or_false, Bool.false_eq_true, if_false]
              rw [callsOf, fetched, written] at dropped
              exact dropped.reported _
          | false =>
              simp only [callsOf, fetched, written, Bool.or_false, Bool.false_eq_true, if_false]
              rw [callsOf, fetched, written] at dropped
              refine dropped.write ⟨fetched, written⟩ ?_
              rw [dropFormer_rows, dropFormer_existing, same]

end Tracks

theorem twice_not_nodup (tracks : Tracks faults before earlier run state)
    (twice : addedTwice before faults state item.key = true)
    (ran : syncSteps run (.item ⟨item, callsOf faults cause item.key⟩ :: steps) = some after) :
    ¬ (after.added.map Prod.fst).Nodup := by
  simp only [addedTwice, Bool.and_eq_true, Option.isNone_iff_eq_none, Bool.not_eq_true'] at twice
  obtain ⟨⟨⟨gone, there⟩, fetched⟩, written⟩ := twice
  have again : item.key ∈ storedAnew run.existing.lookup [.item ⟨item, callsOf faults cause item.key⟩] := by
    simp [storedAnew, callsOf, tracks.untracked gone, fetched, written]
  have was := tracks.was_added gone there
  rw [(syncSteps_ran ran).added, storedAnew_cons, List.nodup_append]
  rintro ⟨-, -, apart⟩
  exact apart _ was _ (List.mem_append_left _ again) rfl

theorem same_row (tracks : Tracks faults before earlier run state)
    (once : addedTwice before faults state item.key = false) :
    state.rows.lookup item.key = run.existing.lookup item.key := by
  cases former : before.lookup item.key with
  | some row => exact tracks.existing (by rw [former]; rfl)
  | none =>
      cases there : state.rows.lookup item.key with
      | none => rw [tracks.untracked former]
      | some row =>
          have calm := (tracks.fresh _ (tracks.was_added former (by rw [there]; rfl))).2
          simp [addedTwice, former, there, calm.1, calm.2] at once

theorem syncSteps_tracks (tracks : Tracks faults before earlier run state)
    (same : steps.filterMap attemptOf = listed.map fun item => ⟨item, callsOf faults cause item.key⟩) :
    match syncItems before faults state listed with
    | some last => ∃ after, syncSteps run steps = some after ∧ Tracks faults before earlier after last
    | none => ∀ after, syncSteps run steps = some after → ¬ (after.added.map Prod.fst).Nodup := by
  induction steps generalizing run state listed with
  | nil =>
      cases listed with
      | nil => exact ⟨run, rfl, tracks⟩
      | cons item rest => cases same
  | cons step rest ih =>
      cases step with
      | unlisted pageId cause => exact ih (tracks.reported _) same
      | item attempt =>
          cases listed with
          | nil => cases same
          | cons item others =>
              obtain ⟨rfl, later⟩ := List.cons.inj same
              cases valid : item.rel with
              | error reason => simp [syncItems, syncSteps, valid]
              | ok rel =>
                  rw [syncItems, valid]
                  dsimp only
                  cases twice : addedTwice before faults state item.key with
                  | true =>
                      rw [if_pos rfl]
                      intro after ran
                      exact twice_not_nodup tracks twice ran
                  | false =>
                      rw [if_neg Bool.false_ne_true]
                      have next := @ih _ _ others (@Tracks.attempted _ cause _ _ _ _ item rel tracks
                        (same_row tracks twice)) later
                      simp only [syncSteps, valid]
                      exact next

theorem Matches.forget {row : SyncRow} (same : Matches earlier run state) (apart : key ∉ run.added.map Prod.fst) :
    Matches earlier (run.forget key row.relPath (if faults.deleteGone key then some cause else none))
      (forgetItem faults state key row) := by
  have deleted := @Matches.delete cause _ _ _ row.relPath key same (faults.deleteGone key)
  refine ⟨fun other => ?_, deleted.files, deleted.calls⟩
  rw [forgetItem_rows]
  simp only [SyncRun.forget, delete_existing, delete_added]
  by_cases here : other = key
  · rw [here, withAdded_absent apart, AList.lookup_erase, AList.lookup_erase]
  · rw [AList.lookup_erase_ne here, same.rows]
    exact (withAdded_agrees (AList.lookup_erase_ne here)).symm

theorem deleteUnseen_matches {seen : List Key} {entries : List (Sigma fun _ : Key => SyncRow)}
    (same : Matches earlier run state) (apart : ∀ entry ∈ entries, entry.1 ∉ run.added.map Prod.fst) :
    Matches earlier (deleteUnseen (fun key => if faults.deleteGone key then some cause else none) seen run entries)
      (mirrorDelete faults seen state entries) := by
  induction entries generalizing run state with
  | nil => exact same
  | cons entry rest ih =>
      have here := apart entry List.mem_cons_self
      have later := fun other member => apart other (List.mem_cons_of_mem entry member)
      rw [deleteUnseen, mirrorDelete]
      by_cases known : entry.1 ∈ seen
      · rw [if_pos known, if_pos known]
        exact ih same later
      · rw [if_neg known, if_neg known]
        refine ih (same.forget here) ?_
        simp only [SyncRun.forget, delete_added]
        exact later

theorem seen_of_listing : (stepsOf shareStore tools listener (pages.map (listingOf faults cause))).filterMap stepKey =
    (items tools listener faults pages).map Item.key := by
  have keys : stepKey = fun step => (attemptOf step).map fun attempt => attempt.item.key := by
    funext step
    cases step <;> rfl
  rw [keys, ← List.map_filterMap, attempts_of_listing, List.map_map]
  rfl

theorem flush_nodup {deleteGone : Key → Option String} {seen : List Key} {outcome : SyncOutcome}
    {entries : List (Sigma fun _ : Key => SyncRow)} (flushed : flush (deleteUnseen deleteGone seen run entries) = some outcome) :
    (run.added.map Prod.fst).Nodup := by
  unfold flush at flushed
  rw [deleteUnseen_added.1] at flushed
  split at flushed
  next once => exact once
  next => cases flushed

theorem flush_of_nodup {deleteGone : Key → Option String} {entries : List (Sigma fun _ : Key => SyncRow)}
    {seen : List Key} (once : (run.added.map Prod.fst).Nodup) :
    ∃ outcome, flush (deleteUnseen deleteGone seen run entries) = some outcome := by
  rw [← @deleteUnseen_added run deleteGone entries seen |>.1] at once
  exact ⟨_, if_pos once⟩

end Refinement

/-- The run without its report returns when this one does, with the same rows, files and calls. -/
theorem syncListener_reported (tools : Tools) (listener : Listener) (faults : Faults) (cause : String)
    (pages : List RemotePage) (before : SyncState) :
    let outcome := reconcile (fun key => if faults.deleteGone key then some cause else none) before
      (stepsOf shareStore tools listener (pages.map (listingOf faults cause)))
    match syncListener tools listener faults pages before with
    | some after => ∃ reported, outcome = some reported ∧ after.files = reported.files ∧
        (∀ key, after.rows.lookup key = reported.rows.lookup key) ∧
        after.calls = before.calls ++ reported.calls.map Prod.snd
    | none => outcome = none := by
  intro outcome
  have start : Tracks faults before.rows before.calls { existing := before.rows, files := before.files } before :=
    ⟨⟨fun _ => rfl, rfl, by simp⟩, fun _ => rfl, nofun, List.nodup_nil⟩
  have ran := syncSteps_tracks start (@attempts_of_listing faults cause tools listener pages)
  rw [syncListener]
  cases treated : syncItems before.rows faults before (items tools listener faults pages) with
  | none =>
      rw [treated] at ran
      rw [Option.map_none]
      dsimp only
      rw [← Option.not_isSome_iff_eq_none]
      intro returned
      obtain ⟨reported, closed⟩ := Option.isSome_iff_exists.mp returned
      obtain ⟨mid, steps, flushed⟩ := Option.bind_eq_some_iff.mp closed
      exact ran mid steps (flush_nodup flushed)
  | some last =>
      rw [treated] at ran
      obtain ⟨mid, steps, tracks⟩ := ran
      have apart : ∀ entry ∈ before.rows.entries, entry.1 ∉ mid.added.map Prod.fst := by
        intro entry member added
        have there := AList.mem_lookup_iff.mpr member
        rw [(tracks.fresh _ added).1] at there
        cases there
      have same := @deleteUnseen_matches faults cause _ _ _
        ((items tools listener faults pages).map Item.key) _ tracks.toMatches apart
      obtain ⟨reported, flushed⟩ := @flush_of_nodup _ (fun key => if faults.deleteGone key then some cause else none)
        before.rows.entries ((items tools listener faults pages).map Item.key) tracks.once
      obtain ⟨rows, calls, files, -⟩ := flush_some flushed
      refine ⟨reported, ?_, same.files.trans files.symm, fun key => ?_, ?_⟩
      · rw [← flushed, ← @seen_of_listing faults cause]
        exact congrArg (Option.bind · _) steps
      · rw [rows]
        exact same.rows key
      · rw [calls]
        exact same.calls

end Dosm.Confluence
