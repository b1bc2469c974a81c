import Dosm.Base.Sql

namespace Dosm.Python

open Like

/-! `str.lower` beside the `lower` of SQLite.

The one folds every letter, a capital sigma by what stands around it; the other
folds the letters of ASCII.
-/

/-- The case tables of Unicode. The letters of ASCII fold as they do in ASCII, and
nothing else folds to a slash. -/
structure CaseTables where
  lower : Char → List Char
  cased : Char → Bool
  caseIgnorable : Char → Bool
  letter : ∀ char, char.isAlpha = true →
    lower char = [char.toLower] ∧ cased char = true ∧ caseIgnorable char = false
  slash : ∀ char, '/' ∈ lower char ↔ char = '/'

namespace CaseTables

variable (tables : CaseTables)

/-- A cased letter in front and none behind, passing over what case ignores. -/
def finalSigma (reversed rest : List Char) : Bool :=
  (reversed.find? fun char => !tables.caseIgnorable char).any tables.cased &&
    !(rest.find? fun char => !tables.caseIgnorable char).any tables.cased

/-- The characters after a reversed beginning. -/
def lowerAfter : (reversed rest : List Char) → List Char
  | _, [] => []
  | reversed, char :: rest =>
      (if char = 'Σ' then [if tables.finalSigma reversed rest then 'ς' else 'σ'] else tables.lower char) ++
        lowerAfter (char :: reversed) rest

def lowerText (text : String) : String := String.ofList (tables.lowerAfter [] text.toList)

end CaseTables

section Ascii

variable {char : Char}

theorem toLower_of_not_capital (plain : char.isUpper = false) : char.toLower = char := by
  unfold Char.toLower
  rw [dif_neg (of_decide_eq_false plain)]

theorem isLower_toLower (capital : char.isUpper = true) : char.toLower.isLower = true := by
  have range : char.val ≥ 'A'.val ∧ char.val ≤ 'Z'.val := of_decide_eq_true capital
  have bounds : 65 ≤ char.val.toNat ∧ char.val.toNat ≤ 90 := isUpper_iff.mp capital
  have moved : (char.val + ('a'.val - 'A'.val)).toNat = (char.val.toNat + 32) % 2 ^ 32 :=
    UInt32.toNat_add _ _
  unfold Char.toLower
  rw [dif_pos range]
  have within : 97 ≤ (char.val.toNat + 32) % 2 ^ 32 ∧ (char.val.toNat + 32) % 2 ^ 32 ≤ 122 := by omega
  rw [← moved] at within
  exact isLower_iff.mpr within

theorem isUpper_toLower : char.toLower.isUpper = false := by
  cases capital : char.isUpper with
  | false => rw [toLower_of_not_capital capital, capital]
  | true =>
      have lower := isLower_iff.mp (isLower_toLower capital)
      by_contra upper
      have range := isUpper_iff.mp (Bool.of_not_eq_false upper)
      omega

theorem toLower_toLower : char.toLower.toLower = char.toLower :=
  toLower_of_not_capital isUpper_toLower

end Ascii

namespace CaseTables

variable {tables : CaseTables} {text : String} {char : Char} {reversed rest : List Char}

theorem fold_letter : tables.lower char.toLower = tables.lower char ∧
    tables.cased char.toLower = tables.cased char ∧
    tables.caseIgnorable char.toLower = tables.caseIgnorable char := by
  cases capital : char.isUpper with
  | false =>
      rw [toLower_of_not_capital capital]
      exact ⟨rfl, rfl, rfl⟩
  | true =>
      have alpha : char.isAlpha = true := Bool.or_eq_true_iff.mpr (.inl capital)
      have lowerAlpha : char.toLower.isAlpha = true := Bool.or_eq_true_iff.mpr (.inr (isLower_toLower capital))
      obtain ⟨folds, cased, ignorable⟩ := tables.letter char alpha
      obtain ⟨lowerFolds, lowerCased, lowerIgnorable⟩ := tables.letter char.toLower lowerAlpha
      rw [folds, cased, ignorable, lowerFolds, lowerCased, lowerIgnorable, toLower_toLower]
      exact ⟨rfl, rfl, rfl⟩

theorem found_fold {chars : List Char} :
    (((chars.map Char.toLower).find? fun char => !tables.caseIgnorable char).any tables.cased) =
      ((chars.find? fun char => !tables.caseIgnorable char).any tables.cased) := by
  induction chars with
  | nil => rfl
  | cons char rest ih =>
      simp only [List.map_cons, List.find?_cons, fold_letter.2.2]
      cases tables.caseIgnorable char with
      | true => exact ih
      | false => exact fold_letter.2.1

theorem finalSigma_fold :
    tables.finalSigma (reversed.map Char.toLower) (rest.map Char.toLower) = tables.finalSigma reversed rest := by
  simp only [finalSigma, found_fold]

theorem sigma_fold : char.toLower = 'Σ' ↔ char = 'Σ' := by
  cases capital : char.isUpper with
  | false => rw [toLower_of_not_capital capital]
  | true =>
      have lower := isLower_toLower capital
      constructor
      · intro same
        rw [same] at lower
        cases lower
      · intro same
        rw [same] at capital
        cases capital

theorem lowerAfter_fold : tables.lowerAfter (reversed.map Char.toLower) (rest.map Char.toLower) =
    tables.lowerAfter reversed rest := by
  induction rest generalizing reversed with
  | nil => rfl
  | cons char rest ih =>
      have tail := @ih (char :: reversed)
      simp only [List.map_cons] at tail
      rw [List.map_cons, lowerAfter, lowerAfter, tail, finalSigma_fold]
      by_cases sigma : char = 'Σ'
      · rw [if_pos (sigma_fold.mpr sigma), if_pos sigma]
      · rw [if_neg (mt sigma_fold.mp sigma), if_neg sigma, fold_letter.1]

theorem lowerText_asciiLower : tables.lowerText (String.ofList (asciiLower text)) = tables.lowerText text := by
  have folded := @lowerAfter_fold tables [] text.toList
  rw [List.map_nil] at folded
  simp only [lowerText, asciiLower, String.toList_ofList, folded]

theorem slash_lowerAfter (plain : '/' ∉ rest) : '/' ∉ tables.lowerAfter reversed rest := by
  induction rest generalizing reversed with
  | nil => exact List.not_mem_nil
  | cons char rest ih =>
      simp only [List.mem_cons, not_or] at plain
      simp only [lowerAfter, List.mem_append, not_or]
      refine ⟨?_, ih plain.2⟩
      split
      · split <;> decide
      · exact fun member => plain.1 ((tables.slash char).mp member).symm

theorem slash_lowerText (plain : '/' ∉ text.toList) : '/' ∉ (tables.lowerText text).toList := by
  rw [lowerText, String.toList_ofList]
  exact slash_lowerAfter plain

theorem slash_asciiLower (slashed : '/' ∈ text.toList) : '/' ∈ asciiLower text := by
  have folds : Char.toLower '/' = '/' := by decide
  have member := List.mem_map_of_mem (f := Char.toLower) slashed
  rwa [folds] at member

end CaseTables

end Dosm.Python
