import Dosm.Confluence.Mirror

namespace Dosm.Confluence

open Python Docs.Store Docs.Vault

/-! When a run mirrors its space.

The mirror is kept, named by the rows and exact up to the calls that fail. What
breaks it is found in the state before and in the calls that fail: a listing of
attachments that fails, a retitled item whose old file is not deleted or whose new
file is not written, and a state that is broken already.
-/

def Remote (pages : List RemotePage) : Key → Prop
  | (.page, id) => ∃ page ∈ pages, page.id = id
  | (.attachment, id) => ∃ page ∈ pages, ∃ att ∈ page.attachments, att.id = id

def InSpace (ns path : String) : Prop := ∃ rest, path = "confluence/" ++ ns ++ "/" ++ rest

/-- Every call that the run makes returns. -/
structure NoCallFails (tools : Tools) (listener : Listener) (faults : Faults) (pages : List RemotePage)
    (before : SyncState) : Prop where
  listing : listener.syncAttachments = true → ∀ page ∈ pages, faults.listing page.id = false
  stored : ∀ item ∈ items tools listener faults pages, ∀ rel, item.rel = .ok rel →
    upToDate item rel (before.rows.lookup item.key) = false →
    faults.fetch item.key = false ∧ faults.write item.key = false ∧
      ∀ row, before.rows.lookup item.key = some row → row.relPath ≠ rel → faults.deleteOld item.key = false
  gone : ∀ key row, before.rows.lookup key = some row →
    key ∉ (items tools listener faults pages).map Item.key → faults.deleteGone key = false

/-- Rows and files are those of the enabled items at their versions. -/
structure Exact (tools : Tools) (listener : Listener) (pages : List RemotePage) (after : SyncState) : Prop where
  rows : ∀ key row, after.rows.lookup key = some row → ∃ item ∈ items tools listener {} pages,
    item.key = key ∧ item.rel = .ok row.relPath ∧ row.version = some item.version
  stored : ∀ item ∈ items tools listener {} pages, ∃ row file, after.rows.lookup item.key = some row ∧
    item.rel = .ok row.relPath ∧ row.version = some item.version ∧
    after.files.lookup row.relPath = some file ∧ file.key = item.key ∧ file.version = item.version
  files : ∀ path file, InSpace listener.slug path → after.files.lookup path = some file →
    ∃ item ∈ items tools listener {} pages, item.rel = .ok path

/-- A run whose listings return changes nothing. -/
def Settled (tools : Tools) (listener : Listener) (pages : List RemotePage) (after : SyncState) : Prop :=
  ∀ (updatedAt : String) (later : Faults), (∀ page ∈ pages, later.listing page.id = false) →
    syncListener { tools with updatedAt := updatedAt } listener later pages after = some after

/-- What a run is to leave of the state it found. -/
structure Mirrored (tools : Tools) (listener : Listener) (faults : Faults) (pages : List RemotePage)
    (before after : SyncState) : Prop where
  keeps : ∀ key row, Remote pages key → before.rows.lookup key = some row →
    ∃ row', after.rows.lookup key = some row' ∧
      ((before.files.lookup row.relPath).isSome → (after.files.lookup row'.relPath).isSome)
  named : ∀ path, InSpace listener.slug path → (after.files.lookup path).isSome →
    ∃! key, ∃ row, after.rows.lookup key = some row ∧ row.relPath = path
  exact : NoCallFails tools listener faults pages before →
    Exact tools listener pages after ∧ Settled tools listener pages after

/-- What must hold of the state before and of the calls that fail. -/
structure Undisturbed (tools : Tools) (listener : Listener) (faults : Faults) (pages : List RemotePage)
    (before : SyncState) : Prop where
  /-- A tracked item that exists is listed. -/
  seen : ∀ key row, Remote pages key → before.rows.lookup key = some row →
    key ∈ (items tools listener faults pages).map Item.key
  /-- The old file of a moved item is not deleted when the new one cannot be written. -/
  unlost : ∀ item ∈ items tools listener faults pages, ∀ rel row, item.rel = .ok rel →
    before.rows.lookup item.key = some row → row.relPath ≠ rel → (before.files.lookup row.relPath).isSome →
    faults.fetch item.key = false → faults.write item.key = true → faults.deleteOld item.key = true
  /-- It is deleted when the new one is written. -/
  replaced : ∀ item ∈ items tools listener faults pages, ∀ rel row, item.rel = .ok rel →
    before.rows.lookup item.key = some row → row.relPath ≠ rel → InSpace listener.slug row.relPath →
    (before.files.lookup row.relPath).isSome →
    faults.fetch item.key = false → faults.write item.key = false → faults.deleteOld item.key = false
  /-- The file of an item that is gone is deleted. -/
  cleared : ∀ key row, before.rows.lookup key = some row →
    key ∉ (items tools listener faults pages).map Item.key → InSpace listener.slug row.relPath →
    (before.files.lookup row.relPath).isSome → faults.deleteGone key = false
  /-- The files are those of the rows and of the listed items. -/
  known : ∀ path, InSpace listener.slug path → (before.files.lookup path).isSome →
    ∃ key, Concerns before (items tools listener faults pages) key path
  /-- A file that no row names is overwritten. -/
  taken : ∀ item ∈ items tools listener faults pages, ∀ rel, item.rel = .ok rel → InSpace listener.slug rel →
    (before.files.lookup rel).isSome →
    (∀ row, before.rows.lookup item.key = some row → row.relPath ≠ rel) →
    faults.fetch item.key = false ∧ faults.write item.key = false
  /-- The file of an item that is up to date is in place. -/
  current : NoCallFails tools listener faults pages before →
    ∀ item ∈ items tools listener faults pages, ∀ rel, item.rel = .ok rel →
    upToDate item rel (before.rows.lookup item.key) = true →
    ∃ file, before.files.lookup rel = some file ∧ file.key = item.key ∧ file.version = item.version

section Listed

variable {tools : Tools} {listener : Listener} {faults : Faults} {pages : List RemotePage}
  {before after state : SyncState} {listed : List Item} {item other : Item} {rel path : String} {key : Key}
  {row : SyncRow}

theorem item_unique (plain : Plain before listed) (first : item ∈ listed) (second : other ∈ listed)
    (same : other.key = item.key) : other = item :=
  List.inj_on_of_nodup_map plain.distinct second first same

theorem concerns_listed (plain : Plain before listed) (member : item ∈ listed) (valid : item.rel = .ok rel)
    (concerned : Concerns before listed item.key path) :
    path = rel ∨ ∃ row, before.rows.lookup item.key = some row ∧ row.relPath = path := by
  rcases concerned with former | ⟨other, listedOther, same, path'⟩
  · exact .inr former
  · rw [item_unique plain member listedOther same, valid] at path'
    exact .inl (Except.ok.inj path').symm

theorem concerns_gone (unlisted : key ∉ listed.map Item.key) (concerned : Concerns before listed key path) :
    ∃ row, before.rows.lookup key = some row ∧ row.relPath = path := by
  rcases concerned with former | ⟨other, listedOther, same, -⟩
  · exact former
  · exact absurd (same ▸ List.mem_map_of_mem listedOther) unlisted

theorem upToDate_iff : upToDate item rel (before.rows.lookup item.key) = true ↔
    ∃ row, before.rows.lookup item.key = some row ∧ row.version = some item.version ∧ row.relPath = rel := by
  cases found : before.rows.lookup item.key with
  | none => simp [upToDate]
  | some row => simp [upToDate]

theorem syncItem_cases (faults : Faults) (state : SyncState) (item : Item) (rel : String) :
    ((upToDate item rel (state.rows.lookup item.key) = true ∨ faults.fetch item.key = true) ∧
        syncItem faults state item rel = state) ∨
      (upToDate item rel (state.rows.lookup item.key) = false ∧ faults.fetch item.key = false ∧
        faults.write item.key = true ∧ syncItem faults state item rel = dropFormer faults state item rel) ∨
      (upToDate item rel (state.rows.lookup item.key) = false ∧ faults.fetch item.key = false ∧
        faults.write item.key = false ∧
        syncItem faults state item rel = writeItem (dropFormer faults state item rel) item rel) := by
  rw [syncItem_eq]
  cases upToDate item rel (state.rows.lookup item.key) <;> cases faults.fetch item.key <;>
    cases faults.write item.key <;> simp

theorem items_mem : item ∈ items tools listener faults pages ↔
    ∃ page ∈ pages, (listener.syncPages = true ∧ item = pageItem tools listener page) ∨
      (listener.syncAttachments = true ∧ ∃ att ∈ listAttachments faults page, item = attachmentItem listener att) := by
  unfold items
  rw [List.mem_flatMap]
  refine exists_congr fun page => and_congr_right fun _ => ?_
  rw [List.mem_append]
  cases listener.syncPages <;> cases listener.syncAttachments <;> simp [eq_comm]

end Listed

section Mirror

variable {tools : Tools} {listener : Listener} {faults : Faults} {pages : List RemotePage}
  {before after : SyncState} {path : String} {key : Key} {row : SyncRow}

theorem keeps_of_undisturbed (plain : Plain before (items tools listener faults pages))
    (reconciled : Reconciled faults before (items tools listener faults pages) after)
    (undisturbed : Undisturbed tools listener faults pages before) (remote : Remote pages key)
    (found : before.rows.lookup key = some row) :
    ∃ row', after.rows.lookup key = some row' ∧
      ((before.files.lookup row.relPath).isSome → (after.files.lookup row'.relPath).isSome) := by
  obtain ⟨item, member, rfl⟩ := List.mem_map.mp (undisturbed.seen key row remote found)
  obtain ⟨rel, valid⟩ := plain.valid item member
  have same := reconciled.item item member rel valid
  have concerned : Concerns before (items tools listener faults pages) item.key row.relPath :=
    .inl ⟨row, found, rfl⟩
  rcases syncItem_cases faults before item rel with ⟨-, treated⟩ | ⟨-, fetched, failed, treated⟩ |
    ⟨-, -, -, treated⟩
  · rw [treated] at same
    refine ⟨row, same.row.trans found, fun there => ?_⟩
    rw [same.file _ concerned]
    exact there
  · rw [treated] at same
    refine ⟨row, same.row.trans (by rw [dropFormer_rows, found]), fun there => ?_⟩
    rw [same.file _ concerned]
    by_cases moved : row.relPath = rel
    · rw [moved, dropFormer_listed, ← moved]
      exact there
    · have undeleted := undisturbed.unlost item member rel row valid found moved there fetched failed
      rw [dropFormer_moved found moved, undeleted, if_neg (by decide)]
      exact there
  · rw [treated] at same
    refine ⟨_, same.row.trans writeItem_row, fun _ => ?_⟩
    rw [same.file rel (.inr ⟨item, member, rfl, valid⟩), writeItem_files, if_pos rfl]
    rfl

/-- A file under the path of a listed item is the one that the item's row names. -/
theorem named_of_listed (plain : Plain before (items tools listener faults pages))
    (reconciled : Reconciled faults before (items tools listener faults pages) after)
    (undisturbed : Undisturbed tools listener faults pages before) {item : Item}
    (member : item ∈ items tools listener faults pages) (inSpace : InSpace listener.slug path)
    (concerned : Concerns before (items tools listener faults pages) item.key path)
    (there : (after.files.lookup path).isSome) :
    ∃ row, after.rows.lookup item.key = some row ∧ row.relPath = path := by
  obtain ⟨rel, valid⟩ := plain.valid item member
  have same := reconciled.item item member rel valid
  rw [same.file path concerned] at there
  rw [same.row]
  by_cases owned : ∃ row, before.rows.lookup item.key = some row ∧ row.relPath = path
  · rcases syncItem_cases faults before item rel with ⟨-, treated⟩ | ⟨-, -, -, treated⟩ |
      ⟨-, fetched, stored, treated⟩
    · rw [treated]
      exact owned
    · rw [treated, dropFormer_rows]
      exact owned
    · rw [treated] at there ⊢
      refine ⟨_, writeItem_row, ?_⟩
      obtain ⟨row, found, rfl⟩ := owned
      by_contra moved
      rw [writeItem_files, if_neg (Ne.symm moved), dropFormer_moved found (Ne.symm moved)] at there
      split at there
      · cases there
      next undeleted =>
        exact undeleted (undisturbed.replaced item member rel row valid found (Ne.symm moved) inSpace there
          fetched stored)
  · obtain rfl : path = rel := (concerns_listed plain member valid concerned).resolve_right owned
    have unnamed : ∀ row, before.rows.lookup item.key = some row → row.relPath ≠ path :=
      fun row found named => owned ⟨row, found, named⟩
    have taken := undisturbed.taken item member path valid inSpace
    rcases syncItem_cases faults before item path with ⟨skipped, treated⟩ | ⟨-, -, failed, treated⟩ |
      ⟨-, -, -, treated⟩
    · rw [treated] at there
      rcases skipped with current | unfetched
      · obtain ⟨row, found, -, named⟩ := upToDate_iff.mp current
        exact absurd ⟨row, found, named⟩ owned
      · rw [(taken there unnamed).1] at unfetched
        cases unfetched
    · rw [treated, dropFormer_listed] at there
      rw [(taken there unnamed).2] at failed
      cases failed
    · rw [treated]
      exact ⟨_, writeItem_row, rfl⟩

theorem named_of_undisturbed (plain : Plain before (items tools listener faults pages))
    (reconciled : Reconciled faults before (items tools listener faults pages) after)
    (undisturbed : Undisturbed tools listener faults pages before) (inSpace : InSpace listener.slug path)
    (there : (after.files.lookup path).isSome) :
    ∃! key, ∃ row, after.rows.lookup key = some row ∧ row.relPath = path := by
  have owner : ∃ key, Concerns before (items tools listener faults pages) key path := by
    by_contra strange
    have strange' := not_exists.mp strange
    rw [reconciled.strange path strange'] at there
    exact strange (undisturbed.known path inSpace there)
  obtain ⟨key, concerned⟩ := owner
  refine ⟨key, ?_, ?_⟩
  · by_cases listed : key ∈ (items tools listener faults pages).map Item.key
    · obtain ⟨item, member, rfl⟩ := List.mem_map.mp listed
      exact named_of_listed plain reconciled undisturbed member inSpace concerned there
    · obtain ⟨row, found, rfl⟩ := concerns_gone listed concerned
      rw [(reconciled.gone key row found listed).file _ concerned, forgetItem_files] at there
      split at there
      · cases there
      next undeleted =>
        exact absurd ⟨rfl, undisturbed.cleared key row found listed inSpace there⟩ undeleted
  · rintro other ⟨row, found, rfl⟩
    exact plain.apart _ _ _ (reconciled.own other row found) concerned

end Mirror

section Exactness

variable {tools : Tools} {listener : Listener} {faults later : Faults} {pages : List RemotePage}
  {before after : SyncState} {path updatedAt : String} {key : Key} {row : SyncRow}

def Item.core (item : Item) : Key × Except PathError String × String := (item.key, item.rel, item.version)

theorem items_core (returned : listener.syncAttachments = true → ∀ page ∈ pages, later.listing page.id = false) :
    (items { tools with updatedAt := updatedAt } listener later pages).map Item.core =
      (items tools listener {} pages).map Item.core := by
  unfold items
  rw [List.map_flatMap, List.map_flatMap]
  refine List.flatMap_congr fun page member => ?_
  cases pagesToo : listener.syncPages <;> cases attachmentsToo : listener.syncAttachments <;>
    simp [listAttachments, Item.core, pageItem, pageRel, *]

theorem items_quiet (returned : listener.syncAttachments = true → ∀ page ∈ pages, faults.listing page.id = false) :
    items tools listener faults pages = items tools listener {} pages := by
  unfold items
  refine List.flatMap_congr fun page member => ?_
  cases attachmentsToo : listener.syncAttachments with
  | false => rfl
  | true => rw [listAttachments, returned attachmentsToo page member]; rfl

theorem syncItems_quiet {existing : Rows} {listed : List Item}
    (current : ∀ item ∈ listed, ∃ rel, item.rel = .ok rel ∧
      upToDate item rel (after.rows.lookup item.key) = true ∧ (existing.lookup item.key).isSome) :
    syncItems existing faults after listed = some after := by
  induction listed with
  | nil => rfl
  | cons item rest ih =>
      obtain ⟨rel, valid, fresh, known⟩ := current item List.mem_cons_self
      have once : addedTwice existing faults after item.key = false := by
        unfold addedTwice
        rw [Option.isNone_eq_false_iff.mpr known]
        rfl
      rw [syncItems, valid]
      dsimp only
      rw [once, if_neg Bool.false_ne_true, syncItem_eq, fresh, Bool.true_or, if_pos rfl]
      exact ih fun other member => current other (List.mem_cons_of_mem item member)

theorem mirrorDelete_quiet {seen : List Key} {entries : List (Sigma fun _ : Key => SyncRow)}
    (all : ∀ entry ∈ entries, entry.1 ∈ seen) : mirrorDelete faults seen after entries = after := by
  induction entries with
  | nil => rfl
  | cons entry rest ih =>
      rw [mirrorDelete, if_pos (all entry List.mem_cons_self)]
      exact ih fun other member => all other (List.mem_cons_of_mem entry member)

theorem settled_of_exact (exact : Exact tools listener pages after) : Settled tools listener pages after := by
  intro updatedAt later returned
  have cores : (items { tools with updatedAt := updatedAt } listener later pages).map Item.core =
      (items tools listener {} pages).map Item.core := items_core fun _ => returned
  have same : ∀ item ∈ items { tools with updatedAt := updatedAt } listener later pages,
      ∃ known ∈ items tools listener {} pages, known.core = item.core := by
    intro item member
    have core := List.mem_map_of_mem (f := Item.core) member
    rw [cores] at core
    exact List.mem_map.mp core
  unfold syncListener
  dsimp only
  rw [syncItems_quiet, Option.map_some, mirrorDelete_quiet]
  · intro entry member
    obtain ⟨item, listed, same, -⟩ := exact.rows entry.1 entry.2 (entries_lookup member)
    have core := List.mem_map_of_mem (f := Item.core) listed
    rw [← cores] at core
    obtain ⟨again, relisted, equal⟩ := List.mem_map.mp core
    exact List.mem_map.mpr ⟨again, relisted, (congrArg Prod.fst equal).trans same⟩
  · intro item member
    obtain ⟨known, listed, equal⟩ := same item member
    obtain ⟨row, file, found, rel, version, -⟩ := exact.stored known listed
    simp only [Item.core, Prod.mk.injEq] at equal
    obtain ⟨keys, rels, versions⟩ := equal
    rw [keys] at found
    refine ⟨row.relPath, rels.symm.trans rel, ?_, by rw [found]; rfl⟩
    exact upToDate_iff.mpr ⟨row, found, by rw [version, versions], rfl⟩

theorem stored_of_undisturbed (plain : Plain before (items tools listener faults pages))
    (reconciled : Reconciled faults before (items tools listener faults pages) after)
    (undisturbed : Undisturbed tools listener faults pages before)
    (calm : NoCallFails tools listener faults pages before) {item : Item}
    (member : item ∈ items tools listener faults pages) :
    ∃ row file, after.rows.lookup item.key = some row ∧ item.rel = .ok row.relPath ∧
      row.version = some item.version ∧ after.files.lookup row.relPath = some file ∧
      file.key = item.key ∧ file.version = item.version := by
  obtain ⟨rel, valid⟩ := plain.valid item member
  have concerned : Concerns before (items tools listener faults pages) item.key rel :=
    .inr ⟨item, member, rfl, valid⟩
  have same := reconciled.item item member rel valid
  cases fresh : upToDate item rel (before.rows.lookup item.key) with
  | true =>
      obtain ⟨row, found, version, rfl⟩ := upToDate_iff.mp fresh
      obtain ⟨file, stored, ofKey, ofVersion⟩ := undisturbed.current calm item member row.relPath valid fresh
      rw [syncItem_eq, fresh, Bool.true_or, if_pos rfl] at same
      exact ⟨row, file, same.row.trans found, valid, version, (same.file _ concerned).trans stored, ofKey,
        ofVersion⟩
  | false =>
      obtain ⟨fetched, written, -⟩ := calm.stored item member rel valid fresh
      rw [syncItem_eq, fresh, fetched, written, Bool.false_or, if_neg Bool.false_ne_true,
        if_neg Bool.false_ne_true] at same
      have stored : after.files.lookup rel = some ⟨item.key, item.version, item.text⟩ := by
        rw [same.file _ concerned, writeItem_files, if_pos rfl]
      exact ⟨_, _, same.row.trans writeItem_row, valid, rfl, stored, rfl, rfl⟩

theorem exact_of_undisturbed (plain : Plain before (items tools listener faults pages))
    (reconciled : Reconciled faults before (items tools listener faults pages) after)
    (undisturbed : Undisturbed tools listener faults pages before)
    (calm : NoCallFails tools listener faults pages before) : Exact tools listener pages after := by
  have stored : ∀ item ∈ items tools listener faults pages, ∃ row file,
      after.rows.lookup item.key = some row ∧ item.rel = .ok row.relPath ∧ row.version = some item.version ∧
      after.files.lookup row.relPath = some file ∧ file.key = item.key ∧ file.version = item.version :=
    fun item member => stored_of_undisturbed plain reconciled undisturbed calm member
  have rows : ∀ key row, after.rows.lookup key = some row → ∃ item ∈ items tools listener faults pages,
      item.key = key ∧ item.rel = .ok row.relPath ∧ row.version = some item.version := by
    intro key row found
    by_cases listed : key ∈ (items tools listener faults pages).map Item.key
    · obtain ⟨item, member, rfl⟩ := List.mem_map.mp listed
      obtain ⟨row', file, found', rel, version, -⟩ := stored item member
      obtain rfl := Option.some.inj (found.symm.trans found')
      exact ⟨item, member, rfl, rel, version⟩
    · cases former : before.rows.lookup key with
      | none =>
          rw [reconciled.never key former listed] at found
          cases found
      | some old =>
          rw [(reconciled.gone key old former listed).row, forgetItem_rows, AList.lookup_erase] at found
          cases found
  rw [items_quiet calm.listing] at stored rows
  refine ⟨rows, stored, fun path file inSpace there => ?_⟩
  have present : (after.files.lookup path).isSome := by
    rw [there]
    rfl
  obtain ⟨key, ⟨row, found, rfl⟩, -⟩ := named_of_undisturbed plain reconciled undisturbed inSpace present
  obtain ⟨item, member, -, rel, -⟩ := rows key row found
  exact ⟨item, member, rel⟩

end Exactness

section Converse

variable {tools : Tools} {listener : Listener} {faults : Faults} {pages : List RemotePage}
  {before after : SyncState} {path : String} {key : Key} {row : SyncRow}

theorem items_remote {item : Item} (member : item ∈ items tools listener faults pages) :
    Remote pages item.key := by
  obtain ⟨page, listed, ⟨-, rfl⟩ | ⟨-, att, attached, rfl⟩⟩ := items_mem.mp member
  · exact ⟨page, listed, rfl⟩
  · unfold listAttachments at attached
    split at attached
    · cases attached
    · exact ⟨page, listed, att, attached, rfl⟩

theorem owner_named (plain : Plain before (items tools listener faults pages))
    (reconciled : Reconciled faults before (items tools listener faults pages) after)
    (mirrored : Mirrored tools listener faults pages before after) (inSpace : InSpace listener.slug path)
    (concerned : Concerns before (items tools listener faults pages) key path)
    (there : (after.files.lookup path).isSome) :
    ∃ row, after.rows.lookup key = some row ∧ row.relPath = path := by
  obtain ⟨owner, ⟨row, found, rfl⟩, -⟩ := mirrored.named path inSpace there
  obtain rfl := plain.apart _ _ _ (reconciled.own owner row found) concerned
  exact ⟨row, found, rfl⟩

theorem undisturbed_of_mirrored (plain : Plain before (items tools listener faults pages))
    (reconciled : Reconciled faults before (items tools listener faults pages) after)
    (mirrored : Mirrored tools listener faults pages before after) :
    Undisturbed tools listener faults pages before where
  seen := by
    intro key row remote found
    by_contra unlisted
    obtain ⟨row', kept, -⟩ := mirrored.keeps key row remote found
    rw [(reconciled.gone key row found unlisted).row, forgetItem_rows, AList.lookup_erase] at kept
    cases kept
  unlost := by
    intro item member rel row valid found moved there fetched failed
    by_contra deleted
    have same := reconciled.item item member rel valid
    have stale : upToDate item rel (before.rows.lookup item.key) = false := by
      rw [found]
      simp [upToDate, moved]
    rw [syncItem_eq, stale, fetched, failed, Bool.or_false, if_neg Bool.false_ne_true, if_pos rfl] at same
    obtain ⟨row', kept, file⟩ := mirrored.keeps item.key row (items_remote member) found
    rw [same.row, dropFormer_rows, found] at kept
    cases kept
    have left := file there
    rw [same.file _ (.inl ⟨row, found, rfl⟩), dropFormer_moved found moved,
      if_pos (Bool.eq_false_iff.mpr deleted)] at left
    cases left
  replaced := by
    intro item member rel row valid found moved inSpace there fetched stored
    by_contra kept
    have same := reconciled.item item member rel valid
    have stale : upToDate item rel (before.rows.lookup item.key) = false := by
      rw [found]
      simp [upToDate, moved]
    rw [syncItem_eq, stale, fetched, stored, Bool.or_false, if_neg Bool.false_ne_true,
      if_neg Bool.false_ne_true] at same
    have concerned : Concerns before (items tools listener faults pages) item.key row.relPath :=
      .inl ⟨row, found, rfl⟩
    have left : (after.files.lookup row.relPath).isSome := by
      rw [same.file _ concerned, writeItem_files, if_neg moved, dropFormer_moved found moved, if_neg kept]
      exact there
    obtain ⟨row', found', named⟩ := owner_named plain reconciled mirrored inSpace concerned left
    rw [same.row, writeItem_row] at found'
    cases found'
    exact moved named.symm
  cleared := by
    intro key row found unlisted inSpace there
    by_contra undeleted
    have same := reconciled.gone key row found unlisted
    have concerned : Concerns before (items tools listener faults pages) key row.relPath :=
      .inl ⟨row, found, rfl⟩
    have left : (after.files.lookup row.relPath).isSome := by
      rw [same.file _ concerned, forgetItem_files, if_neg fun both => undeleted both.2]
      exact there
    obtain ⟨row', found', -⟩ := owner_named plain reconciled mirrored inSpace concerned left
    rw [same.row, forgetItem_rows, AList.lookup_erase] at found'
    cases found'
  known := by
    intro path inSpace there
    by_contra strange
    have left := reconciled.strange path (not_exists.mp strange)
    obtain ⟨key, ⟨row, found, rfl⟩, -⟩ := mirrored.named path inSpace (by rw [left]; exact there)
    exact strange ⟨key, reconciled.own key row found⟩
  taken := by
    intro item member rel valid inSpace there unnamed
    by_contra failing
    have same := reconciled.item item member rel valid
    have concerned : Concerns before (items tools listener faults pages) item.key rel :=
      .inr ⟨item, member, rfl, valid⟩
    have unwritten : (syncItem faults before item rel).rows = before.rows ∧
        (syncItem faults before item rel).files.lookup rel = before.files.lookup rel := by
      rcases syncItem_cases faults before item rel with ⟨-, treated⟩ | ⟨-, -, -, treated⟩ |
        ⟨-, fetched, stored, -⟩
      · rw [treated]
        exact ⟨rfl, rfl⟩
      · rw [treated]
        exact ⟨dropFormer_rows, dropFormer_listed⟩
      · exact absurd ⟨fetched, stored⟩ failing
    have left : (after.files.lookup rel).isSome := by
      rw [same.file _ concerned, unwritten.2]
      exact there
    obtain ⟨row, found, named⟩ := owner_named plain reconciled mirrored inSpace concerned left
    rw [same.row, unwritten.1] at found
    exact unnamed row found named
  current := by
    intro calm item member rel valid fresh
    have same := reconciled.item item member rel valid
    rw [syncItem_eq, fresh, Bool.true_or, if_pos rfl] at same
    have listed := member
    rw [items_quiet calm.listing] at listed
    obtain ⟨row, file, -, path, -, stored, ofKey, ofVersion⟩ := (mirrored.exact calm).1.stored item listed
    rw [valid] at path
    cases path
    rw [same.file _ (.inr ⟨item, member, rfl, valid⟩)] at stored
    exact ⟨file, stored, ofKey, ofVersion⟩

end Converse

def engTools : Tools where
  asciiFold := id
  htmlToMarkdown := id
  yaml := ⟨fun _ => none, fun title folder author updatedAt => "title: " ++ title ++ "\nfolder: " ++ folder ++
    "\nauthor: " ++ author ++ "\nupdated_at: " ++ updatedAt ++ "\n"⟩
  updatedAt := "2024-05-01T10:00:00+00:00"

def engListener : Listener := ⟨"eng", "ENG", true, true⟩

def homePage : RemotePage := ⟨"7", "Home", "3", "Welcome", []⟩

def startSynced : SyncState where
  rows := AList.singleton (.page, "7") ⟨"confluence/eng/start-7.md", some "2", some "Start"⟩
  files := AList.singleton "confluence/eng/start-7.md" ⟨(.page, "7"), "2", "Hello"⟩

theorem fetch_calm (key : Key) : Faults.fetch {} key = false := by
  rcases key with ⟨kind, id⟩
  cases kind <;> rfl

theorem homePage_listed : items engTools engListener {} [homePage] = [pageItem engTools engListener homePage] :=
  rfl

theorem homePage_rel : (pageItem engTools engListener homePage).rel = .ok "confluence/eng/home-7.md" := by
  decide

theorem startSynced_rows {key : Key} {row : SyncRow} (found : startSynced.rows.lookup key = some row) :
    key = (.page, "7") ∧ row = ⟨"confluence/eng/start-7.md", some "2", some "Start"⟩ := by
  have member := AList.mem_lookup_iff.mp found
  simpa [startSynced] using List.mem_singleton.mp member

theorem homePage_plain : Plain startSynced (items engTools engListener {} [homePage]) := by
  rw [homePage_listed]
  have only : ∀ key rel, Concerns startSynced [pageItem engTools engListener homePage] key rel →
      key = (.page, "7") := by
    rintro key rel (⟨row, found, -⟩ | ⟨item, member, rfl, -⟩)
    · exact (startSynced_rows found).1
    · rw [List.mem_singleton.mp member]
      rfl
  refine ⟨fun item member => ?_, List.nodup_singleton _, fun rel first second one two => ?_⟩
  · rw [List.mem_singleton.mp member]
    exact ⟨_, homePage_rel⟩
  · rw [only first rel one, only second rel two]

def mapSynced : SyncState where
  rows := AList.singleton (.attachment, "att9")
    ⟨"confluence/eng/attachments/att9-map.png", some "1", some "map.png"⟩
  files := AList.singleton "confluence/eng/attachments/att9-map.png" ⟨(.attachment, "att9"), "1", "PNG"⟩

end Dosm.Confluence
