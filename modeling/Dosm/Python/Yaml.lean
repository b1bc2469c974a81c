import Mathlib.Data.List.Basic

namespace Dosm.Python

/-! YAML documents as they are loaded, and the values at paths of keys in them. -/

inductive Scalar where
  | null
  | bool (value : Bool)
  | int (value : Int)
  | float (text : String)
  | str (value : String)
  /-- Dates and the like. -/
  | other (tag text : String)
  deriving DecidableEq

/-- The keys of a mapping are distinct. -/
inductive Yaml where
  | scalar (value : Scalar)
  | sequence (items : List Yaml)
  | mapping (entries : List (Scalar × Yaml))

abbrev Entries := List (Scalar × Yaml)

namespace Entries

def lookup (key : Scalar) : Entries → Option Yaml
  | [] => none
  | (other, value) :: rest => if other = key then some value else lookup key rest

/-- An assignment to a key: in its place when it is there, at the end otherwise. -/
def put (key : Scalar) (value : Yaml) : Entries → Entries
  | [] => [(key, value)]
  | (other, old) :: rest => if other = key then (key, value) :: rest else (other, old) :: put key value rest

def update (entries updates : Entries) : Entries :=
  updates.foldl (fun merged entry => put entry.1 entry.2 merged) entries

variable {key other : Scalar} {value : Yaml} {entries updates : Entries}

@[simp] theorem lookup_put_same : lookup key (put key value entries) = some value := by
  induction entries with
  | nil => simp [put, lookup]
  | cons entry rest inductive_step =>
      obtain ⟨first, old⟩ := entry
      by_cases same : first = key
      · simp [put, lookup, same]
      · simpa [put, lookup, same] using inductive_step

theorem lookup_put_other (different : other ≠ key) : lookup other (put key value entries) = lookup other entries := by
  induction entries with
  | nil => simp [put, lookup, different.symm]
  | cons entry rest inductive_step =>
      obtain ⟨first, old⟩ := entry
      by_cases same : first = key
      · subst same
        simp [put, lookup, different.symm]
      · by_cases found : first = other
        · simp [put, lookup, found, different]
        · simpa [put, lookup, same, found] using inductive_step

theorem lookup_update_other (absent : other ∉ updates.map Prod.fst) :
    lookup other (update entries updates) = lookup other entries := by
  unfold update
  induction updates generalizing entries with
  | nil => rfl
  | cons entry rest inductive_step =>
      rw [List.map_cons, List.mem_cons, not_or] at absent
      exact (inductive_step absent.2).trans (lookup_put_other absent.1)

theorem lookup_absent (absent : key ∉ entries.map Prod.fst) : lookup key entries = none := by
  induction entries with
  | nil => rfl
  | cons entry rest inductive_step =>
      rw [List.map_cons, List.mem_cons, not_or] at absent
      rw [lookup, if_neg (Ne.symm absent.1)]
      exact inductive_step absent.2

end Entries

namespace Yaml

def str (value : String) : Yaml := .scalar (.str value)
def bool (value : Bool) : Yaml := .scalar (.bool value)
def int (value : Int) : Yaml := .scalar (.int value)
def optional {α : Type} (encode : α → Yaml) : Option α → Yaml
  | none => .scalar .null
  | some value => encode value

def entries : Yaml → Entries
  | .mapping entries => entries
  | .scalar _ | .sequence _ => []

def get (node : Yaml) : List Scalar → Option Yaml
  | [] => some node
  | key :: rest => (node.entries.lookup key).bind fun child => child.get rest

@[simp] theorem get_nil (node : Yaml) : node.get [] = some node := rfl

@[simp] theorem get_cons (node : Yaml) (key : Scalar) (rest : List Scalar) :
    node.get (key :: rest) = (node.entries.lookup key).bind fun child => child.get rest := rfl

end Yaml

end Dosm.Python
