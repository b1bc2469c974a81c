import Dosm.Base.KeyedFold
import Dosm.Confluence.Sync

namespace Dosm.Confluence

open Python Docs.Store

/-! What a run leaves of each item.

An item concerns its row and the files under its former and its listed path. When
no path concerns two items, the run treats every item as if it were the only one.
-/

/-- The path is that of the item's row or the one it is listed with. -/
def Concerns (before : SyncState) (listed : List Item) (key : Key) (rel : String) : Prop :=
  (∃ row, before.rows.lookup key = some row ∧ row.relPath = rel) ∨
    ∃ item ∈ listed, item.key = key ∧ item.rel = .ok rel

/-- The items can be told apart, by their keys and by their paths. -/
structure Plain (before : SyncState) (listed : List Item) : Prop where
  valid : ∀ item ∈ listed, ∃ rel, item.rel = .ok rel
  distinct : (listed.map Item.key).Nodup
  apart : ∀ rel first second, Concerns before listed first rel → Concerns before listed second rel →
    first = second

structure SameFor (rels : String → Prop) (key : Key) (first second : SyncState) : Prop where
  row : first.rows.lookup key = second.rows.lookup key
  file : ∀ rel, rels rel → first.files.lookup rel = second.files.lookup rel

abbrev Alike (before : SyncState) (listed : List Item) (key : Key) : SyncState → SyncState → Prop :=
  SameFor (Concerns before listed key) key

def RowsOwn (concerns : Key → String → Prop) (state : SyncState) : Prop :=
  ∀ key row, state.rows.lookup key = some row → concerns key row.relPath

/-- The row names the path and the version that the item is listed with. -/
def upToDate (item : Item) (rel : String) : Option SyncRow → Bool
  | some row => row.version = some item.version ∧ row.relPath = rel
  | none => false

def dropFormer (faults : Faults) (state : SyncState) (item : Item) (rel : String) : SyncState :=
  match state.rows.lookup item.key with
  | some row => dropOld faults state item.key row rel
  | none => state

theorem syncItem_eq (faults : Faults) (state : SyncState) (item : Item) (rel : String) :
    syncItem faults state item rel =
      if upToDate item rel (state.rows.lookup item.key) || faults.fetch item.key then state
      else if faults.write item.key then dropFormer faults state item rel
      else writeItem (dropFormer faults state item rel) item rel := by
  unfold syncItem dropFormer upToDate
  cases state.rows.lookup item.key with
  | some row =>
      by_cases current : row.version = some item.version ∧ row.relPath = rel
      · simp [current]
      · simp [current]
  | none => cases faults.fetch item.key <;> cases faults.write item.key <;> rfl

section Steps

variable {faults : Faults} {state first second third : SyncState} {item : Item} {rel path : String}
  {key : Key} {row : SyncRow} {raises : Bool} {rels : String → Prop} {concerns : Key → String → Prop}

theorem SameFor.refl : SameFor rels key state state := ⟨rfl, fun _ _ => rfl⟩

theorem SameFor.trans (same : SameFor rels key first second) (next : SameFor rels key second third) :
    SameFor rels key first third :=
  ⟨same.row.trans next.row, fun rel member => (same.file rel member).trans (next.file rel member)⟩

@[simp] theorem safeDelete_rows : (safeDelete state rel raises).rows = state.rows := by
  unfold safeDelete
  split <;> rfl

theorem safeDelete_files : (safeDelete state rel raises).files.lookup path =
    if path = rel ∧ raises = false then none else state.files.lookup path := by
  cases raises with
  | true => simp [safeDelete]
  | false =>
      by_cases same : path = rel
      · rw [if_pos ⟨same, rfl⟩, same]
        exact AList.lookup_erase rel state.files
      · rw [if_neg fun both => same both.1]
        exact AList.lookup_erase_ne same

@[simp] theorem dropFormer_rows : (dropFormer faults state item rel).rows = state.rows := by
  unfold dropFormer dropOld
  split
  · split
    · exact safeDelete_rows
    · rfl
  · rfl

theorem dropFormer_files : (dropFormer faults state item rel).files.lookup path =
    if state.rows.lookup item.key = none then state.files.lookup path
    else if path ≠ rel ∧ (state.rows.lookup item.key).map SyncRow.relPath = some path ∧
        faults.deleteOld item.key = false then none
    else state.files.lookup path := by
  unfold dropFormer dropOld
  cases found : state.rows.lookup item.key with
  | none => rfl
  | some row =>
      by_cases moved : row.relPath = rel
      · simp only [moved, ne_eq, not_true_eq_false, if_false, Option.map_some, Option.some.injEq,
          reduceCtorEq]
        rw [if_neg fun both => both.1 both.2.1.symm]
      · simp only [moved, ne_eq, not_false_eq_true, if_true, safeDelete_files, reduceCtorEq, if_false,
          Option.map_some, Option.some.injEq]
        by_cases same : row.relPath = path
        · subst same
          simp [moved]
        · simp [same, Ne.symm same]

theorem dropFormer_listed : (dropFormer faults state item rel).files.lookup rel = state.files.lookup rel := by
  rw [dropFormer_files]
  simp

theorem dropFormer_moved (found : state.rows.lookup item.key = some row) (moved : row.relPath ≠ rel) :
    (dropFormer faults state item rel).files.lookup row.relPath =
      if faults.deleteOld item.key = false then none else state.files.lookup row.relPath := by
  rw [dropFormer_files, found, if_neg (Option.some_ne_none row)]
  simp [moved]

theorem writeItem_row : (writeItem state item rel).rows.lookup item.key =
    some ⟨rel, some item.version, some item.title⟩ :=
  AList.lookup_insert state.rows

theorem writeItem_files : (writeItem state item rel).files.lookup path =
    if path = rel then some ⟨item.key, item.version, item.text⟩ else state.files.lookup path := by
  by_cases same : path = rel
  · rw [if_pos same, same]
    exact AList.lookup_insert state.files
  · rw [if_neg same]
    exact AList.lookup_insert_ne same

theorem syncItem_row (other : key ≠ item.key) :
    (syncItem faults state item rel).rows.lookup key = state.rows.lookup key := by
  rw [syncItem_eq]
  split
  · rfl
  split
  · rw [dropFormer_rows]
  · exact (AList.lookup_insert_ne other).trans (by rw [dropFormer_rows])

theorem syncItem_file (fresh : path ≠ rel)
    (other : ∀ row, state.rows.lookup item.key = some row → path ≠ row.relPath) :
    (syncItem faults state item rel).files.lookup path = state.files.lookup path := by
  have kept : (dropFormer faults state item rel).files.lookup path = state.files.lookup path := by
    rw [dropFormer_files]
    split
    · rfl
    · rw [if_neg]
      rintro ⟨-, former, -⟩
      obtain ⟨row, found, named⟩ := Option.map_eq_some_iff.mp former
      exact other row found named.symm
  rw [syncItem_eq]
  split
  · rfl
  split
  · exact kept
  · rw [writeItem_files, if_neg fresh, kept]

theorem syncItem_same (same : SameFor rels item.key first second) :
    SameFor rels item.key (syncItem faults first item rel) (syncItem faults second item rel) := by
  have dropped : ∀ path, rels path → (dropFormer faults first item rel).files.lookup path =
      (dropFormer faults second item rel).files.lookup path := by
    intro path member
    rw [dropFormer_files, dropFormer_files, same.row, same.file path member]
  rw [syncItem_eq, syncItem_eq, same.row]
  split
  · exact same
  split
  · exact ⟨by rw [dropFormer_rows, dropFormer_rows, same.row], dropped⟩
  · refine ⟨?_, fun path member => ?_⟩
    · rw [writeItem_row, writeItem_row]
    · rw [writeItem_files, writeItem_files, dropped path member]

theorem syncItem_rowsOwn (concerned : concerns item.key rel) (own : RowsOwn concerns state) :
    RowsOwn concerns (syncItem faults state item rel) := by
  intro key row found
  by_cases same : key = item.key
  · subst same
    rw [syncItem_eq] at found
    split at found
    · exact own _ _ found
    split at found
    · rw [dropFormer_rows] at found
      exact own _ _ found
    · rw [writeItem_row] at found
      cases found
      exact concerned
  · rw [syncItem_row same] at found
    exact own key row found

theorem syncItem_other (apart : ∀ rel first second, concerns first rel → concerns second rel → first = second)
    (concerned : concerns item.key rel) (own : RowsOwn concerns state) (other : key ≠ item.key) :
    SameFor (concerns key) key (syncItem faults state item rel) state := by
  refine ⟨syncItem_row other, fun path member => syncItem_file ?_ fun row found => ?_⟩
  · rintro rfl
    exact other (apart _ _ _ member concerned)
  · rintro rfl
    exact other (apart _ _ _ member (own _ _ found))

@[simp] theorem forgetItem_rows : (forgetItem faults state key row).rows = state.rows.erase key :=
  congrArg (AList.erase key) safeDelete_rows

theorem forgetItem_files : (forgetItem faults state key row).files.lookup path =
    if path = row.relPath ∧ faults.deleteGone key = false then none else state.files.lookup path :=
  safeDelete_files

end Steps

section Runs

variable {faults : Faults} {before state : SyncState} {listed : List Item} {item : Item} {rel : String}
  {key : Key} {row : SyncRow} {seen : List Key}

structure Orderly (before : SyncState) (listed : List Item) (state : SyncState) : Prop where
  own : RowsOwn (Concerns before listed) state
  strange : ∀ path, (∀ key, ¬ Concerns before listed key path) →
    state.files.lookup path = before.files.lookup path

def itemTask (faults : Faults) (item : Item) : Key × (SyncState → SyncState) :=
  (item.key, fun state => match item.rel with
    | .ok rel => syncItem faults state item rel
    | .error _ => state)

def goneTask (faults : Faults) (seen : List Key) (entry : Sigma fun _ : Key => SyncRow) :
    Key × (SyncState → SyncState) :=
  (entry.1, fun state => if entry.1 ∈ seen then state else forgetItem faults state entry.1 entry.2)

theorem orderly_start : Orderly before listed before :=
  ⟨fun _ row found => .inl ⟨row, found, rfl⟩, fun _ _ => rfl⟩

theorem itemTask_concernsOnly (plain : Plain before listed) (member : item ∈ listed) :
    ConcernsOnly (Orderly before listed) (Alike before listed)
      (itemTask faults item).1 (itemTask faults item).2 := by
  obtain ⟨rel, valid⟩ := plain.valid item member
  have concerned : Concerns before listed item.key rel := .inr ⟨item, member, rfl, valid⟩
  have step : (itemTask faults item).2 = fun state => syncItem faults state item rel := by
    unfold itemTask
    rw [valid]
  rw [step]
  refine ⟨fun state orderly => ⟨syncItem_rowsOwn concerned orderly.own, fun path strange => ?_⟩,
    fun state orderly other differs => syncItem_other plain.apart concerned orderly.own differs,
    fun _ _ same => syncItem_same same⟩
  rw [syncItem_file, orderly.strange path strange]
  · rintro rfl
    exact strange _ concerned
  · rintro row found rfl
    exact strange _ (orderly.own _ _ found)

theorem goneTask_concernsOnly (plain : Plain before listed) (found : before.rows.lookup key = some row) :
    ConcernsOnly (Orderly before listed) (Alike before listed)
      (goneTask faults seen ⟨key, row⟩).1 (goneTask faults seen ⟨key, row⟩).2 := by
  have concerned : Concerns before listed key row.relPath := .inl ⟨row, found, rfl⟩
  by_cases known : key ∈ seen
  · have step : (goneTask faults seen ⟨key, row⟩).2 = id := funext fun _ => if_pos known
    rw [step]
    exact ⟨fun _ orderly => orderly, fun _ _ _ _ => SameFor.refl, fun _ _ same => same⟩
  have step : (goneTask faults seen ⟨key, row⟩).2 = fun state => forgetItem faults state key row :=
    funext fun _ => if_neg known
  rw [step]
  refine ⟨fun state orderly => ⟨fun other row' found' => ?_, fun path strange => ?_⟩,
    fun state _ other differs => ⟨?_, fun path member => ?_⟩, fun first second same => ⟨?_, fun path member => ?_⟩⟩
  · rw [forgetItem_rows] at found'
    by_cases equal : other = key
    · rw [equal, AList.lookup_erase] at found'
      cases found'
    · rw [AList.lookup_erase_ne equal] at found'
      exact orderly.own other row' found'
  · rw [forgetItem_files, if_neg, orderly.strange path strange]
    rintro ⟨rfl, -⟩
    exact strange _ concerned
  · rw [forgetItem_rows]
    exact AList.lookup_erase_ne differs
  · rw [forgetItem_files, if_neg]
    rintro ⟨rfl, -⟩
    exact differs (plain.apart _ _ _ member concerned)
  · exact (congrArg (AList.lookup key) forgetItem_rows).trans ((AList.lookup_erase key first.rows).trans
      ((congrArg (AList.lookup key) forgetItem_rows).trans (AList.lookup_erase key second.rows)).symm)
  · rw [forgetItem_files, forgetItem_files, same.file path member]

theorem mirrorDelete_eq (entries : List (Sigma fun _ : Key => SyncRow)) :
    mirrorDelete faults seen state entries = runTasks state (entries.map (goneTask faults seen)) := by
  induction entries generalizing state with
  | nil => rfl
  | cons entry rest ih => exact ih

theorem syncItems_eq {existing : Rows} {rest : List Item} (distinct : (rest.map Item.key).Nodup)
    (valid : ∀ item ∈ rest, ∃ rel, item.rel = .ok rel)
    (known : ∀ item ∈ rest, state.rows.lookup item.key = existing.lookup item.key) :
    syncItems existing faults state rest = some (runTasks state (rest.map (itemTask faults))) := by
  induction rest generalizing state with
  | nil => rfl
  | cons item rest ih =>
      obtain ⟨rel, path⟩ := valid item List.mem_cons_self
      rw [List.map_cons, List.nodup_cons] at distinct
      have once : addedTwice existing faults state item.key = false := by
        unfold addedTwice
        rw [known item List.mem_cons_self]
        cases existing.lookup item.key <;> rfl
      have step : (itemTask faults item).2 state = syncItem faults state item rel := by
        unfold itemTask
        rw [path]
      have later : ∀ other ∈ rest, (syncItem faults state item rel).rows.lookup other.key =
          existing.lookup other.key := by
        intro other member
        rw [syncItem_row, known other (List.mem_cons_of_mem item member)]
        intro equal
        exact distinct.1 (equal ▸ List.mem_map_of_mem member)
      have remaining := ih distinct.2 (fun other member => valid other (List.mem_cons_of_mem item member)) later
      rw [syncItems, path]
      dsimp only
      rw [once, if_neg Bool.false_ne_true, remaining, ← step]
      rfl

structure Reconciled (faults : Faults) (before : SyncState) (listed : List Item) (after : SyncState) :
    Prop where
  own : RowsOwn (Concerns before listed) after
  item : ∀ item ∈ listed, ∀ rel, item.rel = .ok rel →
    Alike before listed item.key after (syncItem faults before item rel)
  gone : ∀ key row, before.rows.lookup key = some row → key ∉ listed.map Item.key →
    Alike before listed key after (forgetItem faults before key row)
  never : ∀ key, before.rows.lookup key = none → key ∉ listed.map Item.key → after.rows.lookup key = none
  strange : ∀ path, (∀ key, ¬ Concerns before listed key path) →
    after.files.lookup path = before.files.lookup path

theorem entries_lookup {rows : Rows} {entry : Sigma fun _ : Key => SyncRow} (member : entry ∈ rows.entries) :
    rows.lookup entry.1 = some entry.2 :=
  AList.mem_lookup_iff.mpr member

theorem alike_refl (key : Key) (state : SyncState) : Alike before listed key state state := SameFor.refl

theorem alike_trans (key : Key) (first second third : SyncState) (same : Alike before listed key first second)
    (next : Alike before listed key second third) : Alike before listed key first third := same.trans next

theorem itemTask_keys : (listed.map (itemTask faults)).map Prod.fst = listed.map Item.key := by
  rw [List.map_map]
  rfl

theorem goneTask_keys : (before.rows.entries.map (goneTask faults seen)).map Prod.fst = before.rows.keys := by
  rw [List.map_map]
  rfl

theorem itemTasks_ran (plain : Plain before listed) :
    TasksRan (Orderly before listed) (Alike before listed) before (listed.map (itemTask faults))
      (runTasks before (listed.map (itemTask faults))) := by
  refine runTasks_spec alike_refl alike_trans ?_ ?_ orderly_start
  · rw [itemTask_keys]
    exact plain.distinct
  · intro task member
    obtain ⟨item, listedItem, rfl⟩ := List.mem_map.mp member
    exact itemTask_concernsOnly plain listedItem

theorem goneTasks_ran (plain : Plain before listed) (orderly : Orderly before listed state) :
    TasksRan (Orderly before listed) (Alike before listed) state (before.rows.entries.map (goneTask faults seen))
      (runTasks state (before.rows.entries.map (goneTask faults seen))) := by
  refine runTasks_spec alike_refl alike_trans ?_ ?_ orderly
  · rw [goneTask_keys]
    exact before.rows.keys_nodup
  · intro task member
    obtain ⟨entry, tracked, rfl⟩ := List.mem_map.mp member
    exact goneTask_concernsOnly plain (entries_lookup tracked)

theorem syncListener_spec {tools : Tools} {listener : Listener} {pages : List RemotePage}
    (plain : Plain before (items tools listener faults pages)) :
    ∃ after, syncListener tools listener faults pages before = some after ∧
      Reconciled faults before (items tools listener faults pages) after := by
  generalize listedAs : items tools listener faults pages = listed at plain ⊢
  have first : TasksRan (Orderly before listed) (Alike before listed) before (listed.map (itemTask faults))
      (runTasks before (listed.map (itemTask faults))) := itemTasks_ran plain
  obtain ⟨mid, treated⟩ : ∃ mid, runTasks before (listed.map (itemTask faults)) = mid := ⟨_, rfl⟩
  rw [treated] at first
  have second : TasksRan (Orderly before listed) (Alike before listed) mid
      (before.rows.entries.map (goneTask faults (listed.map Item.key)))
      (runTasks mid (before.rows.entries.map (goneTask faults (listed.map Item.key)))) :=
    goneTasks_ran plain first.kept
  obtain ⟨after, reached⟩ : ∃ after,
    runTasks mid (before.rows.entries.map (goneTask faults (listed.map Item.key))) = after := ⟨_, rfl⟩
  rw [reached] at second
  have same : ∀ key row, before.rows.lookup key = some row →
      Alike before listed key after
        ((goneTask faults (listed.map Item.key) ⟨key, row⟩).2 mid) := by
    intro key row found
    exact second.each _ (List.mem_map_of_mem (AList.mem_lookup_iff.mp found))
  have absent : ∀ key, before.rows.lookup key = none → Alike before listed key after mid := by
    intro key missing
    refine second.others key ?_
    rw [goneTask_keys]
    exact AList.lookup_eq_none.mp missing
  refine ⟨after, ?_, second.kept.own, fun item member rel valid => ?_, fun key row found unlisted => ?_,
    fun key missing unlisted => ?_, second.kept.strange⟩
  · unfold syncListener
    dsimp only
    rw [listedAs, syncItems_eq plain.distinct plain.valid fun _ _ => rfl, treated, Option.map_some,
      mirrorDelete_eq, reached]
  · have own := first.each _ (List.mem_map_of_mem member)
    have treat : (itemTask faults item).2 before = syncItem faults before item rel := by
      unfold itemTask
      rw [valid]
    rw [treat] at own
    refine SameFor.trans ?_ own
    cases found : before.rows.lookup item.key with
    | none => exact absent item.key found
    | some row =>
        have kept := same item.key row found
        have seen : (goneTask faults (listed.map Item.key) ⟨item.key, row⟩).2 mid = mid :=
          if_pos (List.mem_map_of_mem member)
        rwa [seen] at kept
  · have lost := same key row found
    have untreated : Alike before listed key mid before := by
      refine first.others key ?_
      rw [itemTask_keys]
      exact unlisted
    have concerns : ConcernsOnly (Orderly before listed) (Alike before listed)
        (goneTask faults (listed.map Item.key) ⟨key, row⟩).1
        (goneTask faults (listed.map Item.key) ⟨key, row⟩).2 :=
      goneTask_concernsOnly plain found
    have forgotten := concerns.own _ _ untreated
    have forget : ∀ state, (goneTask faults (listed.map Item.key) ⟨key, row⟩).2 state =
        forgetItem faults state key row := fun _ => if_neg unlisted
    rw [forget] at lost forgotten
    rw [forget] at forgotten
    exact lost.trans forgotten
  · have untreated := first.others key (by rw [itemTask_keys]; exact unlisted)
    exact (absent key missing).row.trans (untreated.row.trans missing)

end Runs

end Dosm.Confluence
