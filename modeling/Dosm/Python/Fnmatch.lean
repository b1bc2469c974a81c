import Dosm.Python.Text

namespace Dosm.Python

/-! Shell patterns: `*` matches anything, slashes included, `?` one character
and `[…]` one of a set.
-/

inductive Glob where
  | star
  | any
  | literal (char : Char)
  | set (negated : Bool) (ranges : List (Char × Char))
  deriving DecidableEq

/-- The characters up to the closing bracket, and what follows it. -/
def splitClose : List Char → Option (List Char × List Char)
  | [] => none
  | ']' :: rest => some ([], rest)
  | char :: rest => (splitClose rest).map fun (body, after) => (char :: body, after)

def setRanges : List Char → List (Char × Char)
  | first :: '-' :: last :: rest => (first, last) :: setRanges rest
  | char :: rest => (char, char) :: setRanges rest
  | [] => []

/-- A set after its opening bracket: a leading `]` is a member. -/
def parseSet (rest : List Char) : Option (Glob × List Char) :=
  let (negated, rest) := match rest with
    | '!' :: rest => (true, rest)
    | rest => (false, rest)
  let (lead, rest) := match rest with
    | ']' :: rest => ([']'], rest)
    | rest => ([], rest)
  (splitClose rest).map fun (body, after) => (.set negated (setRanges (lead ++ body)), after)

/-- The items of a pattern; `fuel` is its length. -/
def parseGlob : Nat → List Char → List Glob
  | 0, _ | _, [] => []
  | fuel + 1, '*' :: rest => .star :: parseGlob fuel rest
  | fuel + 1, '?' :: rest => .any :: parseGlob fuel rest
  | fuel + 1, '[' :: rest =>
      match parseSet rest with
      | some (item, after) => item :: parseGlob fuel after
      | none => .literal '[' :: parseGlob fuel rest
  | fuel + 1, char :: rest => .literal char :: parseGlob fuel rest

def Glob.admits : Glob → Char → Bool
  | .star, _ | .any, _ => true
  | .literal expected, char => char = expected
  | .set negated ranges, char =>
      (ranges.any fun range => range.1 ≤ char && char ≤ range.2) != negated

def matchGlob : List Glob → List Char → Bool
  | [], text => text.isEmpty
  | .star :: items, text => text.tails.any (matchGlob items)
  | _ :: _, [] => false
  | item :: items, char :: text => item.admits char && matchGlob items text

def fnmatch (name pattern : String) : Bool :=
  matchGlob (parseGlob pattern.length pattern.toList) name.toList

example : fnmatch "guides/a.md" "**/*.md" ∧ ¬ fnmatch "a.md" "**/*.md" ∧ fnmatch "x1" "x[!a-z]" := by
  decide

def isWild (char : Char) : Bool := char = '*' || char = '?' || char = '['

/-- What a pattern spells out before its first special character. -/
def literalStart (pattern : String) : List Char := pattern.toList.takeWhile (!isWild ·)

section Start

variable {fuel : Nat} {chars text : List Char} {char : Char} {name pattern : String}

theorem parseGlob_plain (plain : isWild char = false) :
    parseGlob (fuel + 1) (char :: chars) = .literal char :: parseGlob fuel chars := by
  simp only [isWild, Bool.or_eq_false_iff, decide_eq_false_iff_not] at plain
  obtain ⟨⟨star, question⟩, bracket⟩ := plain
  rw [parseGlob]
  · exact star
  · exact question
  · exact bracket

theorem matchGlob_start (enough : chars.length ≤ fuel)
    (matched : matchGlob (parseGlob fuel chars) text = true) :
    ∃ rest, text = chars.takeWhile (!isWild ·) ++ rest ∧
      ((∀ char ∈ chars, isWild char = false) → rest = []) := by
  induction chars generalizing fuel text with
  | nil =>
      cases fuel with
      | zero =>
          refine ⟨text, rfl, fun _ => ?_⟩
          simpa [parseGlob, matchGlob] using matched
      | succ fuel =>
          refine ⟨text, rfl, fun _ => ?_⟩
          simpa [parseGlob, matchGlob] using matched
  | cons char others ih =>
      cases wild : isWild char with
      | true =>
          refine ⟨text, by simp [wild], fun plain => ?_⟩
          rw [plain char List.mem_cons_self] at wild
          cases wild
      | false =>
          cases fuel with
          | zero => exact absurd enough (Nat.not_succ_le_zero _)
          | succ fuel =>
              rw [parseGlob_plain wild] at matched
              cases text with
              | nil => cases matched
              | cons head tail =>
                  simp only [matchGlob, Glob.admits, Bool.and_eq_true, decide_eq_true_eq] at matched
                  obtain ⟨rest, split, plain⟩ := ih (Nat.le_of_succ_le_succ enough) matched.2
                  refine ⟨rest, ?_, fun all => plain fun other member => all other (List.mem_cons_of_mem _ member)⟩
                  rw [List.takeWhile_cons_of_pos (by simp [wild]), split, matched.1]
                  rfl

theorem fnmatch_start (matched : fnmatch name pattern = true) :
    ∃ rest, name.toList = literalStart pattern ++ rest ∧
      ((∀ char ∈ pattern.toList, isWild char = false) → rest = []) :=
  matchGlob_start (Nat.le_of_eq String.length_toList) matched

end Start

def escapeWild (char : Char) : List Char := if isWild char then ['[', char, ']'] else [char]

def escape (text : String) : String := String.ofList (text.toList.flatMap escapeWild)

section Escape

variable {fuel : Nat} {chars text : List Char} {char : Char} {name pattern : String}

def Glob.exactly (char : Char) : Glob :=
  if isWild char then .set false [(char, char)] else .literal char

theorem parseGlob_escaped (enough : (escapeWild char ++ chars).length ≤ fuel) :
    ∃ less, chars.length ≤ less ∧
      parseGlob fuel (escapeWild char ++ chars) = Glob.exactly char :: parseGlob less chars := by
  cases fuel with
  | zero =>
      unfold escapeWild at enough
      split at enough
      · exact absurd enough (Nat.not_succ_le_zero _)
      · exact absurd enough (Nat.not_succ_le_zero _)
  | succ fuel =>
      cases wild : isWild char with
      | false =>
          simp only [escapeWild, wild, Glob.exactly] at enough ⊢
          exact ⟨fuel, Nat.le_of_succ_le_succ enough, parseGlob_plain wild⟩
      | true =>
          simp only [escapeWild, wild, Glob.exactly, if_true, List.cons_append, List.nil_append,
            List.length_cons] at enough ⊢
          refine ⟨fuel, by omega, ?_⟩
          simp only [isWild, Bool.or_eq_true, decide_eq_true_eq] at wild
          rcases wild with (rfl | rfl) | rfl
          · rfl
          · rfl
          · rfl

theorem exactly_admits {other : Char} : (Glob.exactly char).admits other = true ↔ other = char := by
  unfold Glob.exactly
  split
  · have within : Glob.admits (.set false [(char, char)]) other = true ↔ char ≤ other ∧ other ≤ char := by
      simp [Glob.admits]
    rw [within]
    exact ⟨fun between => Char.le_antisymm between.2 between.1, fun same => by simp [same]⟩
  · simp [Glob.admits]

theorem matchGlob_exactly {items : List Glob} {head : Char} :
    matchGlob (Glob.exactly char :: items) (head :: text) = true ↔
      head = char ∧ matchGlob items text = true := by
  rw [← exactly_admits]
  unfold Glob.exactly
  split
  · simp [matchGlob]
  · simp [matchGlob]

theorem matchGlob_escaped (enough : (chars.flatMap escapeWild).length ≤ fuel) :
    matchGlob (parseGlob fuel (chars.flatMap escapeWild)) text = true ↔ text = chars := by
  induction chars generalizing fuel text with
  | nil => cases fuel <;> simp [parseGlob, matchGlob]
  | cons char others ih =>
      rw [List.flatMap_cons] at enough ⊢
      obtain ⟨less, fits, parsed⟩ := parseGlob_escaped enough
      rw [parsed]
      cases text with
      | nil =>
          unfold Glob.exactly
          split
          · simp [matchGlob]
          · simp [matchGlob]
      | cons head tail => rw [matchGlob_exactly, ih fits, List.cons.injEq]

theorem fnmatch_escape {text : String} : fnmatch name (escape text) = true ↔ name = text := by
  unfold fnmatch escape
  rw [String.toList_ofList, matchGlob_escaped (Nat.le_of_eq (by simp)), String.toList_inj]

end Escape

end Dosm.Python
