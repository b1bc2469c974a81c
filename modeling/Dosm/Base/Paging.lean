import Mathlib.Data.List.Infix
import Mathlib.Data.List.Perm.Basic

namespace Dosm

universe u v

/-! Reading a sequence from a server that answers an offset with a part of it.

The reader asks for `limit` entries at the offsets `0`, `limit`, `2 * limit`, …
and stops at the first answer that is shorter. It reads all of the sequence
exactly when no answer is shorter than what is asked for and what remains.
-/

section Paging

variable {Entry : Type u} {Read : Type v} {all : List Entry} {answer : Nat → List Entry}
  {limit rounds start round : Nat}

/-- The entries read in at most so many rounds; nothing when the reader is not done. -/
def pageLoop (limit : Nat) (answer : Nat → List Entry) : Nat → Nat → Option (List Entry)
  | 0, _ => none
  | rounds + 1, start =>
      let results := answer start
      if results.length < limit then some results
      else (pageLoop limit answer rounds (start + limit)).map (results ++ ·)

/-- The answer at an offset is a part of what remains there, empty only at the end. -/
structure Answers (limit : Nat) (all : List Entry) (answer : Nat → List Entry) : Prop where
  part : ∀ start, answer start <+: all.drop start
  most : ∀ start, (answer start).length ≤ limit
  some : ∀ start < all.length, answer start ≠ []

/-- No answer is shorter than it has to be. -/
def FullAnswers (limit : Nat) (all : List Entry) (answer : Nat → List Entry) : Prop :=
  ∀ round, round * limit < all.length →
    (answer (round * limit)).length = min limit (all.length - round * limit)

theorem pageLoop_map (read : Entry → Read) :
    pageLoop limit (fun start => (answer start).map read) rounds start =
      (pageLoop limit answer rounds start).map (List.map read) := by
  induction rounds generalizing start with
  | zero => rfl
  | succ rounds ih =>
      unfold pageLoop
      dsimp only
      rw [List.length_map, ih]
      split
      · rfl
      · cases pageLoop limit answer rounds (start + limit) <;> simp

theorem pageLoop_unique {more : Nat} {first second : List Entry}
    (one : pageLoop limit answer rounds start = some first)
    (two : pageLoop limit answer more start = some second) : first = second := by
  induction rounds generalizing start more first second with
  | zero => cases one
  | succ rounds ih =>
      cases more with
      | zero => cases two
      | succ more =>
          unfold pageLoop at one two
          dsimp only at one two
          split at one
          next short =>
            rw [if_pos short] at two
            exact Option.some.inj (one.symm.trans two)
          next long =>
            rw [if_neg long] at two
            obtain ⟨rest, read, rfl⟩ := Option.map_eq_some_iff.mp one
            obtain ⟨rest', read', rfl⟩ := Option.map_eq_some_iff.mp two
            rw [ih read read']

theorem Answers.map (answers : Answers limit all answer) (read : Entry → Read) :
    Answers limit (all.map read) fun start => (answer start).map read where
  part := fun start => by
    rw [← List.map_drop]
    exact (answers.part start).map read
  most := fun start => by
    rw [List.length_map]
    exact answers.most start
  some := fun start remains => by
    rw [List.length_map] at remains
    rw [ne_eq, List.map_eq_nil_iff]
    exact answers.some start remains

theorem fullAnswers_map (read : Entry → Read) :
    FullAnswers limit (all.map read) (fun start => (answer start).map read) ↔ FullAnswers limit all answer := by
  simp only [FullAnswers, List.length_map]

theorem Answers.length_le (answers : Answers limit all answer) :
    (answer start).length ≤ all.length - start := by
  have part := (answers.part start).length_le
  rwa [List.length_drop] at part

theorem FullAnswers.length (full : FullAnswers limit all answer) (answers : Answers limit all answer) :
    (answer (round * limit)).length = min limit (all.length - round * limit) := by
  by_cases remains : round * limit < all.length
  · exact full round remains
  · have size : (answer (round * limit)).length ≤ all.length - round * limit := answers.length_le
    omega

theorem pageLoop_full (positive : 0 < limit) (answers : Answers limit all answer)
    (full : FullAnswers limit all answer) (enough : all.length < (round + rounds) * limit)
    (begun : 0 < rounds) :
    pageLoop limit answer rounds (round * limit) = some (all.drop (round * limit)) := by
  induction rounds generalizing round with
  | zero => omega
  | succ rounds ih =>
      have size : (answer (round * limit)).length = min limit (all.length - round * limit) := full.length answers
      have part := answers.part (round * limit)
      unfold pageLoop
      dsimp only
      split
      next short =>
        have whole : (answer (round * limit)).length = (all.drop (round * limit)).length := by
          rw [List.length_drop]
          omega
        rw [part.eq_of_length whole]
      next long =>
        have next : round * limit + limit = (round + 1) * limit := by
          rw [Nat.add_mul, Nat.one_mul]
        have more : 0 < rounds := by
          rcases Nat.eq_zero_or_pos rounds with rfl | more
          · have last : all.length < (round + 1) * limit := enough
            rw [← next] at last
            omega
          · exact more
        have onward : all.length < (round + 1 + rounds) * limit := by
          rwa [Nat.add_assoc, Nat.add_comm 1 rounds]
        obtain ⟨rest, split⟩ := part
        rw [next, ih onward more, Option.map_some, ← next, ← List.drop_drop, ← split]
        have exactly : (answer (round * limit)).length = limit := by omega
        rw [List.drop_left' exactly]

theorem full_of_length {listed : List Entry} (answers : Answers limit all answer)
    (read : pageLoop limit answer rounds (round * limit) = some listed)
    (whole : listed.length = all.length - round * limit) :
    ∀ later ≥ round, later * limit < all.length →
      (answer (later * limit)).length = min limit (all.length - later * limit) := by
  induction rounds generalizing round listed with
  | zero => cases read
  | succ rounds ih =>
      intro later onward remains
      have size : (answer (round * limit)).length ≤ all.length - round * limit := answers.length_le
      have most := answers.most (round * limit)
      have next : (round + 1) * limit = round * limit + limit := by
        rw [Nat.add_mul, Nat.one_mul]
      unfold pageLoop at read
      dsimp only at read
      rcases Nat.eq_or_lt_of_le onward with rfl | beyond
      · split at read
        · obtain rfl := Option.some.inj read
          omega
        · omega
      · have reached : (round + 1) * limit ≤ later * limit := Nat.mul_le_mul_right limit beyond
        split at read
        · obtain rfl := Option.some.inj read
          omega
        · obtain ⟨rest, read', rfl⟩ := Option.map_eq_some_iff.mp read
          rw [← next] at read'
          rw [List.length_append] at whole
          refine ih read' ?_ later beyond remains
          omega

theorem pageLoop_complete_iff (positive : 0 < limit) (answers : Answers limit all answer) :
    (∃ rounds listed, pageLoop limit answer rounds 0 = some listed ∧ listed.Perm all) ↔
      FullAnswers limit all answer := by
  have zero : 0 * limit = 0 := Nat.zero_mul limit
  constructor
  · rintro ⟨rounds, listed, read, same⟩ round remains
    rw [← zero] at read
    refine full_of_length answers read ?_ round (Nat.zero_le round) remains
    rw [zero, same.length_eq]
    rfl
  · intro full
    have enough : all.length < (0 + (all.length + 1)) * limit := by
      rw [Nat.zero_add]
      exact Nat.lt_of_lt_of_le (Nat.lt_succ_self _) (Nat.le_mul_of_pos_right _ positive)
    have read := pageLoop_full positive answers full enough (Nat.succ_pos _)
    rw [zero] at read
    exact ⟨_, _, read, List.Perm.refl _⟩

end Paging

end Dosm
