import Mathlib.Data.List.Nodup

namespace Dosm

universe u v

/-! Tables of rows with a primary key.

A table carries the proof that its keys are distinct, so a lookup by key finds
the only row there is. Rows may have an owner; a reference between owned rows
is closed when it leads to a row of the same owner.
-/

class Keyed (Row : Type u) where
  key : Row → Int

class Owned (Row : Type u) extends Keyed Row where
  owner : Row → Int

export Keyed (key)
export Owned (owner)

structure Table (Row : Type u) [Keyed Row] where
  rows : List Row
  unique : (rows.map key).Nodup

namespace Table

section Keyed

variable {Row : Type u} [Keyed Row] {table : Table Row} {row : Row} {id other : Int}

instance [DecidableEq Row] : DecidableEq (Table Row) := fun first second =>
  decidable_of_iff (first.rows = second.rows) <| by
    cases first
    cases second
    simp

def empty : Table Row := ⟨[], List.nodup_nil⟩

def get (table : Table Row) (id : Int) : Option Row :=
  table.rows.find? fun row => key row = id

theorem get_eq_some_iff : table.get id = some row ↔ row ∈ table.rows ∧ key row = id := by
  constructor
  · intro found
    exact ⟨List.mem_of_find?_eq_some found, by simpa using List.find?_some found⟩
  · rintro ⟨member, same⟩
    cases found : table.get id with
    | none =>
        have unmatched := List.find?_eq_none.mp found row member
        simp [same] at unmatched
    | some first =>
        have firstKey : key first = id := by simpa using List.find?_some found
        have firstMember := List.mem_of_find?_eq_some found
        rw [List.inj_on_of_nodup_map table.unique firstMember member (firstKey.trans same.symm)]

theorem get_key (member : row ∈ table.rows) : table.get (key row) = some row :=
  get_eq_some_iff.mpr ⟨member, rfl⟩

theorem eq_of_key {first second : Row} (firstMember : first ∈ table.rows)
    (secondMember : second ∈ table.rows) (same : key first = key second) : first = second :=
  List.inj_on_of_nodup_map table.unique firstMember secondMember same

theorem get_eq_none_iff : table.get id = none ↔ ∀ row ∈ table.rows, key row ≠ id := by
  simp [get]

/-- One more than the largest key in use, from 1. -/
def fresh (table : Table Row) : Int := (table.rows.map key).foldr max 0 + 1

theorem key_lt_fresh (member : row ∈ table.rows) : key row < table.fresh := by
  have bounded : ∀ keys : List Int, ∀ id ∈ keys, id ≤ keys.foldr max 0 := by
    intro keys
    induction keys with
    | nil => nofun
    | cons head tail ih =>
        intro id listed
        simp only [List.foldr_cons]
        rcases List.mem_cons.mp listed with rfl | later
        · exact Int.le_max_left _ _
        · exact Int.le_trans (ih id later) (Int.le_max_right _ _)
  have bound := bounded _ _ (List.mem_map_of_mem (f := key) member)
  unfold fresh
  omega

theorem fresh_pos : 0 < table.fresh := by
  have bounded : ∀ keys : List Int, 0 ≤ keys.foldr max 0 := by
    intro keys
    induction keys with
    | nil => exact Int.le_refl 0
    | cons head tail ih => exact Int.le_trans ih (Int.le_max_right _ _)
  have bound := bounded (table.rows.map key)
  unfold fresh
  omega

theorem nodup_one (row : Row) : ([row].map key).Nodup := List.nodup_singleton _

def insert (table : Table Row) (make : Int → Row) (keyed : ∀ id, key (make id) = id := by
    intro; rfl) : Table Row where
  rows := table.rows ++ [make table.fresh]
  unique := by
    rw [List.map_append, List.nodup_append]
    refine ⟨table.unique, List.nodup_singleton _, ?_⟩
    intro first firstListed second secondListed same
    obtain ⟨row, member, rfl⟩ := List.mem_map.mp firstListed
    rw [List.map_singleton, List.mem_singleton, keyed] at secondListed
    exact absurd (same.trans secondListed) (Int.ne_of_lt (key_lt_fresh member))

variable {make : Int → Row} {keyed : ∀ id, key (make id) = id}

theorem mem_insert : row ∈ (table.insert make keyed).rows ↔
    row ∈ table.rows ∨ row = make table.fresh := by
  simp [insert]

theorem get_insert_of_get (found : table.get id = some row) :
    (table.insert make keyed).get id = some row := by
  rw [get_eq_some_iff] at found ⊢
  exact ⟨mem_insert.mpr (.inl found.1), found.2⟩

def modify (table : Table Row) (id : Int) (change : Row → Row)
    (keeps : ∀ row, key (change row) = key row := by intro; rfl) : Table Row where
  rows := table.rows.map fun row => if key row = id then change row else row
  unique := by
    have same : (table.rows.map fun row => if key row = id then change row else row).map key =
        table.rows.map key := by
      rw [List.map_map]
      refine List.map_congr_left fun row _ => ?_
      simp only [Function.comp_apply]
      split
      · exact keeps row
      · rfl
    rw [same]
    exact table.unique

variable {change : Row → Row} {keeps : ∀ row, key (change row) = key row}

theorem mem_modify : row ∈ (table.modify id change keeps).rows ↔
    ∃ old ∈ table.rows, row = if key old = id then change old else old := by
  simp [modify, eq_comm]

theorem get_modify : (table.modify id change keeps).get other =
    (table.get other).map fun row => if key row = id then change row else row := by
  unfold get modify
  simp only [List.find?_map]
  congr 1
  congr 1
  funext row
  simp only [Function.comp_apply]
  split
  · rw [keeps]
  · rfl

theorem get_modify_other (different : other ≠ id) :
    (table.modify id change keeps).get other = table.get other := by
  rw [get_modify]
  cases found : table.get other with
  | none => rfl
  | some row =>
      have rowKey := (get_eq_some_iff.mp found).2
      simp [rowKey, different]

theorem get_modify_self : (table.modify id change keeps).get id = (table.get id).map change := by
  rw [get_modify]
  cases found : table.get id with
  | none => rfl
  | some row => simp [(get_eq_some_iff.mp found).2]

theorem get_modify_of_eq (same : other = id) (found : table.get other = some row) :
    (table.modify id change keeps).get other = some (change row) := by
  subst same
  rw [get_modify_self, found]
  rfl

def map (table : Table Row) (change : Row → Row)
    (keeps : ∀ row, key (change row) = key row := by intro; rfl) : Table Row where
  rows := table.rows.map change
  unique := by
    have same : (table.rows.map change).map key = table.rows.map key := by
      rw [List.map_map]
      exact List.map_congr_left fun row _ => keeps row
    rw [same]
    exact table.unique

theorem mem_map : row ∈ (table.map change keeps).rows ↔ ∃ old ∈ table.rows, change old = row :=
  List.mem_map

theorem get_map : (table.map change keeps).get id = (table.get id).map change := by
  simp only [get, map, List.find?_map]
  congr 2
  funext row
  simp [keeps]

theorem map_same (change : Row → Row) (keeps : ∀ row, key (change row) = key row)
    (same : ∀ row ∈ table.rows, change row = row) : table.map change keeps = table := by
  have rows : table.rows.map change = table.rows.map fun row => row := List.map_congr_left same
  rw [List.map_id'] at rows
  cases table
  simpa [map] using rows

def filter (table : Table Row) (kept : Row → Bool) : Table Row where
  rows := table.rows.filter kept
  unique := List.Nodup.sublist (List.filter_sublist.map _) table.unique

theorem mem_filter {kept : Row → Bool} :
    row ∈ (table.filter kept).rows ↔ row ∈ table.rows ∧ kept row :=
  List.mem_filter

theorem filter_same {kept : Row → Bool} (same : ∀ row ∈ table.rows, kept row = true) :
    table.filter kept = table := by
  have rows : table.rows.filter kept = table.rows := List.filter_eq_self.mpr same
  cases table
  simpa [filter] using rows

def remove (table : Table Row) (id : Int) : Table Row :=
  table.filter fun row => key row ≠ id

theorem mem_remove : row ∈ (table.remove id).rows ↔ row ∈ table.rows ∧ key row ≠ id := by
  simp [remove, mem_filter]

theorem get_remove_other (different : other ≠ id) : (table.remove id).get other = table.get other := by
  cases found : table.get other with
  | none =>
      rw [get_eq_none_iff] at found ⊢
      exact fun row member => found row (mem_remove.mp member).1
  | some row =>
      rw [get_eq_some_iff] at found ⊢
      exact ⟨mem_remove.mpr ⟨found.1, found.2 ▸ different⟩, found.2⟩

/-- No two rows have the same value of the column. -/
def Distinct {Column : Type v} (column : Row → Column) (table : Table Row) : Prop :=
  ∀ first ∈ table.rows, ∀ second ∈ table.rows, column first = column second → key first = key second

section Distinct

variable {Column : Type v} {column : Row → Column} {later : Table Row}

theorem distinct_insert (make : Int → Row) (keyed : ∀ id, key (make id) = id) (distinct : table.Distinct column)
    (free : ∀ other ∈ table.rows, column other ≠ column (make table.fresh)) :
    (table.insert make keyed).Distinct column := by
  intro first firstMember second secondMember same
  rcases mem_insert.mp firstMember with firstBefore | rfl
  · rcases mem_insert.mp secondMember with secondBefore | rfl
    · exact distinct first firstBefore second secondBefore same
    · exact absurd same (free first firstBefore)
  · rcases mem_insert.mp secondMember with secondBefore | rfl
    · exact absurd same.symm (free second secondBefore)
    · rfl

theorem Distinct.of_origin (distinct : table.Distinct column)
    (origin : ∀ row ∈ later.rows, ∃ old ∈ table.rows, key old = key row ∧ column old = column row) :
    later.Distinct column := by
  intro first firstMember second secondMember same
  obtain ⟨firstOld, firstListed, firstKey, firstColumn⟩ := origin first firstMember
  obtain ⟨secondOld, secondListed, secondKey, secondColumn⟩ := origin second secondMember
  rw [← firstColumn, ← secondColumn] at same
  calc
    key first = key firstOld := firstKey.symm
    _ = key secondOld := distinct firstOld firstListed secondOld secondListed same
    _ = key second := secondKey

end Distinct

end Keyed

section Owned

variable {Row Other : Type u} [Owned Row] [Owned Other] {table later : Table Row} {row : Row}
  {id tenant : Int} {reference : Option Int}

/-- The row of a key, when the owner has it. -/
def getOwned (table : Table Row) (tenant id : Int) : Option Row :=
  (table.get id).filter fun row => owner row = tenant

/-- A nullable reference leads to a row of the same owner. -/
def Refers (table : Table Row) (tenant : Int) (reference : Option Int) : Prop :=
  ∀ id, reference = some id → ∃ row, table.get id = some row ∧ owner row = tenant

instance (table : Table Row) (tenant : Int) (reference : Option Int) :
    Decidable (table.Refers tenant reference) :=
  match reference with
  | none => isTrue nofun
  | some id =>
      match found : table.get id with
      | none => isFalse fun refers => by
          obtain ⟨row, same, _⟩ := refers id rfl
          cases found.symm.trans same
      | some row =>
          decidable_of_iff (owner row = tenant) <| by
            constructor
            · intro owned other same
              cases same
              exact ⟨row, found, owned⟩
            · intro refers
              obtain ⟨target, same, owned⟩ := refers id rfl
              cases Option.some.inj (found.symm.trans same)
              exact owned

def Keeps (table later : Table Row) : Prop :=
  ∀ id row, table.get id = some row → ∃ target, later.get id = some target ∧ owner target = owner row

theorem refers_none : table.Refers tenant none := nofun

theorem Refers.keep (refers : table.Refers tenant reference) (kept : table.Keeps later) :
    later.Refers tenant reference := by
  intro id same
  obtain ⟨row, found, owned⟩ := refers id same
  obtain ⟨target, targetFound, targetOwner⟩ := kept id row found
  exact ⟨target, targetFound, targetOwner.trans owned⟩

theorem Keeps.refl : table.Keeps table := fun _ row found => ⟨row, found, rfl⟩

theorem keeps_insert {make : Int → Row} {keyed : ∀ id, key (make id) = id} :
    table.Keeps (table.insert make keyed) :=
  fun _ row found => ⟨row, get_insert_of_get found, rfl⟩

theorem keeps_modify {change : Row → Row} (keeps : ∀ row, key (change row) = key row)
    (sameOwner : ∀ row, owner (change row) = owner row) :
    table.Keeps (table.modify id change keeps) := by
  intro other row found
  refine ⟨if key row = id then change row else row, by rw [get_modify, found]; rfl, ?_⟩
  split
  · exact sameOwner row
  · rfl

theorem refers_of_getOwned (found : table.getOwned tenant id = some row) :
    table.Refers tenant (some id) := by
  rintro _ ⟨⟩
  obtain ⟨present, owned⟩ := Option.filter_eq_some_iff.mp found
  exact ⟨row, present, by simpa using owned⟩

theorem getOwned_insert_other {make : Int → Row} {keyed : ∀ id, key (make id) = id}
    (elsewhere : owner (make table.fresh) ≠ tenant) :
    (table.insert make keyed).getOwned tenant id = table.getOwned tenant id := by
  unfold getOwned get insert
  rw [List.find?_append]
  cases table.rows.find? fun row => key row = id with
  | some row => rfl
  | none =>
      rw [Option.none_or, List.find?_singleton]
      split
      · simp [Option.filter, elsewhere]
      · rfl

end Owned

end Table

end Dosm
