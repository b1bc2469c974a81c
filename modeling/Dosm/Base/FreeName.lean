import Mathlib.Data.List.Nodup
import Mathlib.Data.List.Perm.Subperm
import Mathlib.Data.Nat.Digits.Defs

namespace Dosm

universe u

/-! The first candidate of a numbered sequence that is not taken.

The loop that counts up until a candidate is free ends within as many rounds as
names are taken, when no two numbers give the same candidate.
-/

section FirstFree

variable {Name : Type u} [DecidableEq Name] {candidate : Nat → Name} {taken : List Name}
  {rounds number : Nat}

def firstFree (candidate : Nat → Name) (taken : List Name) : Nat → Nat → Name
  | 0, number => candidate number
  | rounds + 1, number =>
      if candidate number ∈ taken then firstFree candidate taken rounds (number + 1)
      else candidate number

theorem firstFree_candidate : ∃ found, firstFree candidate taken rounds number = candidate found := by
  induction rounds generalizing number with
  | zero => exact ⟨number, rfl⟩
  | succ rounds ih =>
      rw [firstFree]
      split
      · exact ih
      · exact ⟨number, rfl⟩

theorem firstFree_mem (ended : firstFree candidate taken rounds number ∈ taken) :
    ∀ offset ≤ rounds, candidate (number + offset) ∈ taken := by
  induction rounds generalizing number with
  | zero =>
      intro offset within
      obtain rfl : offset = 0 := by omega
      exact ended
  | succ rounds ih =>
      by_cases here : candidate number ∈ taken
      · rw [firstFree, if_pos here] at ended
        intro offset within
        cases offset with
        | zero => exact here
        | succ offset =>
            have later := ih ended offset (by omega)
            rwa [Nat.add_assoc, Nat.add_comm 1] at later
      · rw [firstFree, if_neg here] at ended
        exact absurd ended here

theorem exists_free (distinct : Function.Injective candidate) :
    ∃ offset ≤ taken.length, candidate (number + offset) ∉ taken := by
  by_contra none
  let tried := (List.range (taken.length + 1)).map fun offset => candidate (number + offset)
  have unique : tried.Nodup := by
    refine List.Nodup.map ?_ List.nodup_range
    intro first second same
    have := distinct same
    omega
  have within : tried ⊆ taken := by
    intro name listed
    obtain ⟨offset, bound, rfl⟩ := List.mem_map.mp listed
    by_contra free
    exact none ⟨offset, by have := List.mem_range.mp bound; omega, free⟩
  have short : tried.length ≤ taken.length := (List.subperm_of_subset unique within).length_le
  have long : tried.length = taken.length + 1 := by simp [tried]
  omega

theorem firstFree_not_mem (distinct : Function.Injective candidate) :
    firstFree candidate taken taken.length number ∉ taken := by
  intro ended
  obtain ⟨offset, bound, free⟩ : ∃ offset ≤ taken.length, candidate (number + offset) ∉ taken :=
    exists_free distinct
  exact free (firstFree_mem ended offset bound)

end FirstFree

/-- A base with a number appended: `f"{base}-{number}"`. -/
def numbered (base : String) (number : Nat) : String := base ++ "-" ++ toString number

theorem toString_nat_injective : Function.Injective (toString : Nat → String) := by
  intro first second same
  have digits : Nat.toDigits 10 first = Nat.toDigits 10 second := by
    have chars : (Nat.repr first).toList = (Nat.repr second).toList := congrArg String.toList same
    simpa [Nat.repr] using chars
  calc
    first = Nat.ofDigitChars 10 (Nat.toDigits 10 first) 0 := by rw [Nat.ofDigitChars_ten_toDigits]
    _ = Nat.ofDigitChars 10 (Nat.toDigits 10 second) 0 := by rw [digits]
    _ = second := by rw [Nat.ofDigitChars_ten_toDigits]

theorem numbered_injective (base : String) : Function.Injective (numbered base) := by
  intro first second same
  have chars : (base ++ "-").toList ++ (toString first).toList =
      (base ++ "-").toList ++ (toString second).toList := by
    simpa only [numbered, String.toList_append] using congrArg String.toList same
  exact toString_nat_injective (String.toList_injective (List.append_cancel_left chars))

/-- The base, or the first of `base-2`, `base-3`, … that is free. -/
def uniqueName (taken : List String) (base : String) : String :=
  if base ∉ taken then base else firstFree (numbered base) taken taken.length 2

theorem uniqueName_not_mem {taken : List String} {base : String} : uniqueName taken base ∉ taken := by
  unfold uniqueName
  split
  · assumption
  · exact firstFree_not_mem (numbered_injective base)

end Dosm
