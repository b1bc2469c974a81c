import Dosm.Python.Slices
import Mathlib.Data.List.Forall2

namespace Dosm.Docs.MarkdownText

open Python

/-! The text of a markdown document without its markup.

Each line outside the code blocks goes through four rewrites. They are stated for spots
that show a character, so that a word of the line can be followed through them.
-/

section Rewrites

variable {Spot : Type} (char : Spot → Char)

/-- `^#{1,6}\s+` taken away. -/
def withoutHeading (spots : List Spot) : List Spot :=
  let hashes := spots.takeWhile fun spot => char spot = '#'
  let rest := spots.dropWhile fun spot => char spot = '#'
  if 1 ≤ hashes.length ∧ hashes.length ≤ 6 ∧ (rest.head?.any fun spot => isSpace (char spot)) then
    rest.dropWhile fun spot => isSpace (char spot)
  else spots

/-- A match of `\[([^\]]+)\]\(([^)]+)\)`: the groups with the parentheses, and what follows. -/
structure Link (Spot : Type) where
  label : List Spot
  opening : Spot
  url : List Spot
  closing : Spot
  after : List Spot

def linkAt : List Spot → Option (Link Spot)
  | [] => none
  | bracket :: rest =>
      match rest.dropWhile fun spot => char spot ≠ ']' with
      | _ :: opening :: tail =>
          match tail.dropWhile fun spot => char spot ≠ ')' with
          | closing :: after =>
              let label := rest.takeWhile fun spot => char spot ≠ ']'
              let url := tail.takeWhile fun spot => char spot ≠ ')'
              if char bracket = '[' ∧ char opening = '(' ∧ label ≠ [] ∧ url ≠ [] then
                some { label, opening, url, closing, after }
              else none
          | [] => none
      | _ => none

/-- Each link becomes its text, a space and its address in parentheses. -/
def unlink (space : Spot) : Nat → List Spot → List Spot
  | 0, spots => spots
  | _ + 1, [] => []
  | fuel + 1, spot :: rest =>
      match linkAt char (spot :: rest) with
      | some link => link.label ++ space :: link.opening :: link.url ++ link.closing :: unlink space fuel link.after
      | none => spot :: unlink space fuel rest

/-- The spots of a mark the text begins with, and what follows it. -/
def splitMark (mark : List Char) (spots : List Spot) : Option (List Spot × List Spot) :=
  if (spots.take mark.length).map char = mark then some (spots.take mark.length, spots.drop mark.length) else none

/-- A match of `(mark)(.+?)\1`, and what follows. -/
structure Emphasis (Spot : Type) where
  opening : List Spot
  content : List Spot
  closing : List Spot
  after : List Spot

/-- The text before the next mark, the mark and what follows. -/
def upTo (mark : List Char) : List Spot → Option (List Spot × List Spot × List Spot)
  | [] => none
  | spot :: rest =>
      match splitMark char mark (spot :: rest) with
      | some (closing, after) => some ([], closing, after)
      | none => (upTo mark rest).map fun found => (spot :: found.1, found.2)

def emphasisAt (mark : List Char) (spots : List Spot) : Option (Emphasis Spot) :=
  match splitMark char mark spots with
  | some (opening, first :: rest) =>
      (upTo char mark rest).map fun found =>
        { opening, content := first :: found.1, closing := found.2.1, after := found.2.2 }
  | _ => none

/-- The first of the marks that a match at this place has. -/
def emphasis (marks : List (List Char)) (spots : List Spot) : Option (Emphasis Spot) :=
  marks.findSome? fun mark => emphasisAt char mark spots

def unemphasize (marks : List (List Char)) : Nat → List Spot → List Spot
  | 0, spots => spots
  | _ + 1, [] => []
  | fuel + 1, spot :: rest =>
      match emphasis char marks (spot :: rest) with
      | some found => found.content ++ unemphasize marks fuel found.after
      | none => spot :: unemphasize marks fuel rest

def takenMarks (marks : List (List Char)) : Nat → List Spot → List Spot
  | 0, _ => []
  | _ + 1, [] => []
  | fuel + 1, spot :: rest =>
      match emphasis char marks (spot :: rest) with
      | some found => found.opening ++ found.closing ++ takenMarks marks fuel found.after
      | none => takenMarks marks fuel rest

def boldMarks : List (List Char) := [['*', '*'], ['_', '_']]

def italicMarks : List (List Char) := [['*'], ['_']]

/-- A line without its heading marks and with its links spelled out. -/
def linkedLine (space : Spot) (line : List Spot) : List Spot :=
  let body := withoutHeading char line
  unlink char space body.length body

def unboldLine (space : Spot) (line : List Spot) : List Spot :=
  let linked := linkedLine char space line
  unemphasize char boldMarks linked.length linked

def stripLine (space : Spot) (line : List Spot) : List Spot :=
  let unbold := unboldLine char space line
  unemphasize char italicMarks unbold.length unbold

/-- The marks of the two emphasis rewrites on a line. -/
def lineMarks (space : Spot) (line : List Spot) : List Spot :=
  let linked := linkedLine char space line
  let unbold := unboldLine char space line
  takenMarks char boldMarks linked.length linked ++ takenMarks char italicMarks unbold.length unbold

end Rewrites

/-- The lines, each with whether it is part of a code block. -/
def fencedLines : Bool → List String → List (Bool × String)
  | _, [] => []
  | inCode, line :: rest =>
      if startsWith (strip line) "```" then (true, line) :: fencedLines (!inCode) rest
      else (inCode, line) :: fencedLines inCode rest

def lineText (fenced : Bool × String) : String :=
  if fenced.1 then fenced.2 else String.ofList (stripLine id ' ' fenced.2.toList)

def stripMarkdown (text : String) : String :=
  "\n".intercalate ((fencedLines false (splitLines text)).map lineText)

example : stripMarkdown "# A [b](c) **d**\n```\n__e__ f\n```" = "A b (c) d\n```\n__e__ f\n```" := by decide

section Shown

variable {Spot : Type} {char : Spot → Char} {space : Spot} {spots : List Spot} {mark : List Char}
  {marks : List (List Char)} {fuel : Nat}

def Link.map (link : Link Spot) (char : Spot → Char) : Link Char where
  label := link.label.map char
  opening := char link.opening
  url := link.url.map char
  closing := char link.closing
  after := link.after.map char

def Emphasis.map (found : Emphasis Spot) (char : Spot → Char) : Emphasis Char where
  opening := found.opening.map char
  content := found.content.map char
  closing := found.closing.map char
  after := found.after.map char

theorem withoutHeading_map : (withoutHeading char spots).map char = withoutHeading id (spots.map char) := by
  have hashes : (spots.map char).takeWhile (fun spot => id spot = '#') =
      (spots.takeWhile fun spot => char spot = '#').map char := List.takeWhile_map ..
  have rest : (spots.map char).dropWhile (fun spot => id spot = '#') =
      (spots.dropWhile fun spot => char spot = '#').map char := List.dropWhile_map ..
  unfold withoutHeading
  dsimp only
  rw [hashes, rest, List.length_map, List.head?_map, Option.any_map]
  by_cases heading : 1 ≤ (spots.takeWhile fun spot => char spot = '#').length ∧
      (spots.takeWhile fun spot => char spot = '#').length ≤ 6 ∧
      ((spots.dropWhile fun spot => char spot = '#').head?.any fun spot => isSpace (char spot)) = true
  · rw [if_pos heading]
    refine Eq.trans ?_ (if_pos heading).symm
    rw [List.dropWhile_map]
    rfl
  · rw [if_neg heading]
    exact (if_neg heading).symm

theorem linkAt_map : linkAt id (spots.map char) = (linkAt char spots).map fun link => link.map char := by
  cases spots with
  | nil => rfl
  | cons bracket rest =>
      have label : (rest.map char).takeWhile (fun spot => id spot ≠ ']') =
          (rest.takeWhile fun spot => char spot ≠ ']').map char := List.takeWhile_map ..
      have after : (rest.map char).dropWhile (fun spot => id spot ≠ ']') =
          (rest.dropWhile fun spot => char spot ≠ ']').map char := List.dropWhile_map ..
      simp only [List.map_cons, linkAt]
      rw [label, after]
      cases rest.dropWhile (fun spot => char spot ≠ ']') with
      | nil => rfl
      | cons closed others =>
          cases others with
          | nil => rfl
          | cons opening tail =>
              have url : (tail.map char).takeWhile (fun spot => id spot ≠ ')') =
                  (tail.takeWhile fun spot => char spot ≠ ')').map char := List.takeWhile_map ..
              have ending : (tail.map char).dropWhile (fun spot => id spot ≠ ')') =
                  (tail.dropWhile fun spot => char spot ≠ ')').map char := List.dropWhile_map ..
              simp only [List.map_cons]
              rw [url, ending]
              cases tail.dropWhile (fun spot => char spot ≠ ')') with
              | nil => rfl
              | cons closing after =>
                  simp only [List.map_cons, id, ne_eq, List.map_eq_nil_iff]
                  split
                  · rfl
                  · rfl

theorem unlink_map : (unlink char space fuel spots).map char = unlink id (char space) fuel (spots.map char) := by
  induction fuel generalizing spots with
  | zero => rfl
  | succ fuel ih =>
      cases spots with
      | nil => rfl
      | cons spot rest =>
          have shown := @linkAt_map Spot char (spot :: rest)
          rw [List.map_cons] at shown
          rw [unlink, List.map_cons, unlink, shown]
          cases linkAt char (spot :: rest) with
          | none => simp [ih]
          | some link => simp [ih, Link.map]

theorem splitMark_map : splitMark id mark (spots.map char) =
    (splitMark char mark spots).map fun found => (found.1.map char, found.2.map char) := by
  simp only [splitMark, ← List.map_take, ← List.map_drop, List.map_id]
  split
  · rfl
  · rfl

theorem upTo_map : upTo id mark (spots.map char) =
    (upTo char mark spots).map fun found => (found.1.map char, found.2.1.map char, found.2.2.map char) := by
  induction spots with
  | nil => rfl
  | cons spot rest ih =>
      have shown := @splitMark_map Spot char (spot :: rest) mark
      rw [List.map_cons] at shown
      rw [List.map_cons, upTo, upTo, shown, ih]
      cases splitMark char mark (spot :: rest) with
      | some found => rfl
      | none => cases upTo char mark rest <;> rfl

theorem emphasisAt_map : emphasisAt id mark (spots.map char) =
    (emphasisAt char mark spots).map fun found => found.map char := by
  simp only [emphasisAt, splitMark_map]
  cases splitMark char mark spots with
  | none => rfl
  | some found =>
      obtain ⟨opening, after⟩ := found
      cases after with
      | nil => rfl
      | cons first rest =>
          simp only [Option.map_some, List.map_cons, upTo_map]
          cases upTo char mark rest <;> rfl

theorem emphasis_map : emphasis id marks (spots.map char) =
    (emphasis char marks spots).map fun found => found.map char := by
  induction marks with
  | nil => rfl
  | cons mark marks ih =>
      unfold emphasis at ih ⊢
      rw [List.findSome?_cons, List.findSome?_cons, emphasisAt_map, ih]
      cases emphasisAt char mark spots <;> rfl

theorem unemphasize_map : (unemphasize char marks fuel spots).map char = unemphasize id marks fuel (spots.map char) := by
  induction fuel generalizing spots with
  | zero => rfl
  | succ fuel ih =>
      cases spots with
      | nil => rfl
      | cons spot rest =>
          have shown := @emphasis_map Spot char (spot :: rest) marks
          rw [List.map_cons] at shown
          rw [unemphasize, List.map_cons, unemphasize, shown]
          cases emphasis char marks (spot :: rest) with
          | none => simp [ih]
          | some found => simp [ih, Emphasis.map]

theorem stripLine_map : (stripLine char space spots).map char = stripLine id (char space) (spots.map char) := by
  have linked : (linkedLine char space spots).map char = linkedLine id (char space) (spots.map char) := by
    simp only [linkedLine, unlink_map, ← withoutHeading_map, List.length_map]
  have unbold : (unboldLine char space spots).map char = unboldLine id (char space) (spots.map char) := by
    simp only [unboldLine, unemphasize_map, ← linked, List.length_map]
  simp only [stripLine, unemphasize_map, ← unbold, List.length_map]

end Shown

inductive Edits {Spot : Type} (loose : Spot → Prop) (space : Spot) : List Spot → List Spot → Prop
  | nil : Edits loose space [] []
  | keep {rest out : List Spot} (spot : Spot) (later : Edits loose space rest out) :
      Edits loose space (spot :: rest) (spot :: out)
  | drop {rest out : List Spot} {spot : Spot} (free : loose spot) (later : Edits loose space rest out) :
      Edits loose space (spot :: rest) out
  | blank {rest out : List Spot} {spot : Spot} (free : loose spot) (later : Edits loose space rest out) :
      Edits loose space (spot :: rest) (space :: out)

namespace Edits

variable {Spot : Type} {loose looser : Spot → Prop} {space : Spot} {first second third left right front : List Spot}
  {marked : Spot → Bool}

theorem refl : Edits loose space first first := by
  induction first with
  | nil => exact .nil
  | cons spot rest ih => exact .keep spot ih

theorem mono (weaker : ∀ spot, loose spot → looser spot) (edits : Edits loose space first second) :
    Edits looser space first second := by
  induction edits with
  | nil => exact .nil
  | keep spot later ih => exact .keep spot ih
  | drop free later ih => exact .drop (weaker _ free) ih
  | blank free later ih => exact .blank (weaker _ free) ih

theorem append (start : Edits loose space first left) (ending : Edits loose space second right) :
    Edits loose space (first ++ second) (left ++ right) := by
  induction start with
  | nil => exact ending
  | keep spot later ih => exact .keep spot ih
  | drop free later ih => exact .drop free ih
  | blank free later ih => exact .blank free ih

theorem dropAll (free : ∀ spot ∈ front, loose spot) : Edits loose space front [] := by
  induction front with
  | nil => exact .nil
  | cons spot rest ih =>
      exact .drop (free spot List.mem_cons_self) (ih fun other member => free other (List.mem_cons_of_mem _ member))

theorem trans (start : Edits loose space first second) (next : Edits loose space second third) :
    Edits loose space first third := by
  induction start generalizing third with
  | nil => exact next
  | keep spot later ih =>
      cases next with
      | keep spot after => exact .keep spot (ih after)
      | drop free after => exact .drop free (ih after)
      | blank free after => exact .blank free (ih after)
  | drop free later ih => exact .drop free (ih next)
  | blank free later ih =>
      cases next with
      | keep spot after => exact .blank free (ih after)
      | drop _ after => exact .drop free (ih after)
      | blank _ after => exact .blank free (ih after)

theorem split (edits : Edits loose space (first ++ second) third) :
    ∃ left right, third = left ++ right ∧ Edits loose space first left ∧ Edits loose space second right := by
  induction first generalizing third with
  | nil => exact ⟨[], third, rfl, .nil, edits⟩
  | cons spot rest ih =>
      cases edits with
      | keep spot later =>
          obtain ⟨left, right, rfl, start, ending⟩ := ih later
          exact ⟨spot :: left, right, rfl, .keep spot start, ending⟩
      | drop free later =>
          obtain ⟨left, right, rfl, start, ending⟩ := ih later
          exact ⟨left, right, rfl, .drop free start, ending⟩
      | blank free later =>
          obtain ⟨left, right, rfl, start, ending⟩ := ih later
          exact ⟨space :: left, right, rfl, .blank free start, ending⟩

theorem length_le (edits : Edits loose space first second) : second.length ≤ first.length := by
  induction edits with
  | nil => exact Nat.le_refl _
  | keep spot later ih => simpa using ih
  | drop free later ih => exact Nat.le_succ_of_le ih
  | blank free later ih => simpa using ih

theorem filter_sublist (plain : marked space = false) (edits : Edits loose space first second) :
    (second.filter marked).Sublist (first.filter marked) := by
  induction edits with
  | nil => exact List.Sublist.refl _
  | keep spot later ih =>
      rw [List.filter_cons, List.filter_cons]
      split
      · exact ih.cons_cons spot
      · exact ih
  | drop free later ih => exact ih.trans ((List.sublist_cons_self _ _).filter marked)
  | blank free later ih =>
      rw [List.filter_cons_of_neg (by simp [plain])]
      exact ih.trans ((List.sublist_cons_self _ _).filter marked)

theorem filter_eq (plain : marked space = false) (edits : Edits loose space first second)
    (firm : ∀ spot ∈ first, loose spot → marked spot = false) : second.filter marked = first.filter marked := by
  induction edits with
  | nil => rfl
  | keep spot later ih =>
      rw [List.filter_cons, List.filter_cons, ih fun other member => firm other (List.mem_cons_of_mem _ member)]
  | drop free later ih =>
      rw [List.filter_cons_of_neg (by simp [firm _ List.mem_cons_self free]),
        ih fun other member => firm other (List.mem_cons_of_mem _ member)]
  | blank free later ih =>
      rw [List.filter_cons_of_neg (by simp [plain]), List.filter_cons_of_neg (by simp [firm _ List.mem_cons_self free]),
        ih fun other member => firm other (List.mem_cons_of_mem _ member)]

theorem mem {spot : Spot} (edits : Edits loose space first second) (member : spot ∈ second) :
    spot ∈ first ∨ spot = space := by
  induction edits with
  | nil => cases member
  | keep other later ih =>
      rcases List.mem_cons.mp member with rfl | inside
      · exact .inl List.mem_cons_self
      · exact (ih inside).imp_left fun found => List.mem_cons_of_mem _ found
  | drop free later ih => exact (ih member).imp_left fun found => List.mem_cons_of_mem _ found
  | blank free later ih =>
      rcases List.mem_cons.mp member with rfl | inside
      · exact .inr rfl
      · exact (ih inside).imp_left fun found => List.mem_cons_of_mem _ found

theorem cons_firm {spot : Spot} (firm : ¬ loose spot) (edits : Edits loose space (spot :: first) second) :
    ∃ rest, second = spot :: rest ∧ Edits loose space first rest := by
  cases edits with
  | keep spot later => exact ⟨_, rfl, later⟩
  | drop free later => exact absurd free firm
  | blank free later => exact absurd free firm

theorem eq_of_filter (edits : Edits loose space first second) (all : second.filter marked = first) :
    second = first := by
  have inside : (second.filter marked).Sublist second := List.filter_sublist
  rw [all] at inside
  exact (inside.eq_of_length_le edits.length_le).symm

end Edits

def isWordChar (char : Char) : Bool := char.isAlphanum || char = '_'

section Passes

variable {Spot : Type} {char : Spot → Char} {space : Spot} {spots rest : List Spot} {bracket : Spot} {mark : List Char}
  {marks : List (List Char)} {fuel : Nat} {link : Link Spot} {found : Emphasis Spot} {marked : Spot → Bool}

theorem space_not_word {spot : Spot} (spaced : isSpace (char spot) = true) : isWordChar (char spot) = false := by
  generalize char spot = shown at spaced
  simp only [isSpace, Bool.or_eq_true, Bool.and_eq_true, decide_eq_true_eq, beq_iff_eq] at spaced
  cases word : isWordChar shown with
  | false => rfl
  | true =>
      simp only [isWordChar, Bool.or_eq_true, decide_eq_true_eq] at word
      rcases word with alphanum | rfl
      · have bounds := alphanum_bounds alphanum
        omega
      · simp at spaced

theorem withoutHeading_edits :
    Edits (fun spot => isWordChar (char spot) = false) space spots (withoutHeading char spots) := by
  unfold withoutHeading
  dsimp only
  split
  · have hashes : ∀ spot ∈ spots.takeWhile (fun spot => char spot = '#'), isWordChar (char spot) = false := by
      intro spot member
      have hash : char spot = '#' := by simpa using List.mem_takeWhile_imp member
      rw [hash]
      decide
    have spaces : ∀ spot ∈ (spots.dropWhile fun spot => char spot = '#').takeWhile fun spot => isSpace (char spot),
        isWordChar (char spot) = false := by
      intro spot member
      have spaced := List.mem_takeWhile_imp member
      exact space_not_word spaced
    have first : Edits (fun spot => isWordChar (char spot) = false) space _ [] := Edits.dropAll hashes
    have body : Edits (fun spot => isWordChar (char spot) = false) space
        ((spots.dropWhile fun spot => char spot = '#').dropWhile fun spot => isSpace (char spot)) _ := .refl
    have edits := first.append ((Edits.dropAll spaces).append body)
    rwa [List.takeWhile_append_dropWhile, List.takeWhile_append_dropWhile] at edits
  · exact .refl

theorem linkAt_split (linked : linkAt char (bracket :: rest) = some link) :
    ∃ closed, rest = link.label ++ closed :: link.opening :: (link.url ++ link.closing :: link.after) ∧
      char bracket = '[' ∧ char closed = ']' := by
  have label := List.takeWhile_append_dropWhile (p := fun spot => decide (char spot ≠ ']')) (l := rest)
  simp only [linkAt] at linked
  cases after : rest.dropWhile (fun spot => decide (char spot ≠ ']')) with
  | nil => rw [after] at linked; cases linked
  | cons closed others =>
      have bracketed : char closed = ']' := by
        have kept := List.head?_dropWhile_not (fun spot => decide (char spot ≠ ']')) rest
        rw [after] at kept
        simpa using kept
      rw [after] at linked label
      cases others with
      | nil => cases linked
      | cons opening tail =>
          have url := List.takeWhile_append_dropWhile (p := fun spot => decide (char spot ≠ ')')) (l := tail)
          dsimp only at linked
          cases ending : tail.dropWhile (fun spot => decide (char spot ≠ ')')) with
          | nil => rw [ending] at linked; cases linked
          | cons closing after =>
              rw [ending] at linked url
              dsimp only at linked
              split at linked
              next shape =>
                cases linked
                exact ⟨closed, by rw [url, label], shape.1, bracketed⟩
              · cases linked

theorem unlink_edits : Edits (fun spot => isWordChar (char spot) = false) space spots (unlink char space fuel spots) := by
  induction fuel generalizing spots with
  | zero => exact .refl
  | succ fuel ih =>
      cases spots with
      | nil => exact .nil
      | cons spot rest =>
          rw [unlink]
          cases linked : linkAt char (spot :: rest) with
          | none => exact .keep spot ih
          | some link =>
              obtain ⟨closed, split, opens, closes⟩ := linkAt_split linked
              rw [split]
              have bracket : isWordChar (char spot) = false := by rw [opens]; decide
              have ending : isWordChar (char closed) = false := by rw [closes]; decide
              dsimp only
              rw [List.append_assoc]
              exact .drop bracket (Edits.refl.append
                (.blank ending (.keep link.opening (Edits.refl.append (.keep link.closing ih)))))

theorem splitMark_split {opening after : List Spot} (split : splitMark char mark spots = some (opening, after)) :
    spots = opening ++ after ∧ opening.map char = mark := by
  unfold splitMark at split
  by_cases starts : (spots.take mark.length).map char = mark
  · rw [if_pos starts] at split
    cases split
    exact ⟨(List.take_append_drop _ _).symm, starts⟩
  · rw [if_neg starts] at split
    cases split

theorem upTo_split {content closing after : List Spot} (split : upTo char mark spots = some (content, closing, after)) :
    spots = content ++ closing ++ after ∧ closing.map char = mark := by
  induction spots generalizing content closing after with
  | nil => cases split
  | cons spot rest ih =>
      rw [upTo] at split
      cases starts : splitMark char mark (spot :: rest) with
      | some found =>
          rw [starts] at split
          cases split
          obtain ⟨whole, shown⟩ := splitMark_split starts
          exact ⟨whole, shown⟩
      | none =>
          rw [starts] at split
          obtain ⟨⟨front, mid, back⟩, later, same⟩ := Option.map_eq_some_iff.mp split
          cases same
          obtain ⟨whole, shown⟩ := ih later
          exact ⟨by rw [whole]; rfl, shown⟩

theorem emphasisAt_split (matched : emphasisAt char mark spots = some found) :
    spots = found.opening ++ (found.content ++ (found.closing ++ found.after)) ∧ found.opening.map char = mark ∧
      found.closing.map char = mark := by
  unfold emphasisAt at matched
  cases starts : splitMark char mark spots with
  | none => rw [starts] at matched; cases matched
  | some parts =>
      obtain ⟨opening, after⟩ := parts
      rw [starts] at matched
      obtain ⟨whole, shown⟩ := splitMark_split starts
      cases after with
      | nil => cases matched
      | cons first rest =>
          obtain ⟨parts, later, same⟩ := Option.map_eq_some_iff.mp matched
          cases same
          obtain ⟨inner, closes⟩ := upTo_split later
          refine ⟨?_, shown, closes⟩
          rw [whole, inner]
          simp

theorem emphasis_split (matched : emphasis char marks spots = some found) :
    spots = found.opening ++ (found.content ++ (found.closing ++ found.after)) ∧
      ∃ mark ∈ marks, found.opening.map char = mark ∧ found.closing.map char = mark := by
  obtain ⟨mark, member, here⟩ := List.exists_of_findSome?_eq_some matched
  obtain ⟨whole, opens, closes⟩ := emphasisAt_split here
  exact ⟨whole, mark, member, opens, closes⟩

theorem unemphasize_edits (plain : ∀ mark ∈ marks, ∀ shown ∈ mark, shown.isAlphanum = false) :
    Edits (fun spot => (char spot).isAlphanum = false) space spots (unemphasize char marks fuel spots) := by
  induction fuel generalizing spots with
  | zero => exact .refl
  | succ fuel ih =>
      cases spots with
      | nil => exact .nil
      | cons spot rest =>
          rw [unemphasize]
          cases matched : emphasis char marks (spot :: rest) with
          | none => exact .keep spot ih
          | some found =>
              obtain ⟨whole, mark, member, opens, closes⟩ := emphasis_split matched
              have opening : ∀ spot ∈ found.opening, (char spot).isAlphanum = false := fun spot inside =>
                plain mark member _ (opens ▸ List.mem_map_of_mem inside)
              have closing : ∀ spot ∈ found.closing, (char spot).isAlphanum = false := fun spot inside =>
                plain mark member _ (closes ▸ List.mem_map_of_mem inside)
              rw [whole]
              exact (Edits.dropAll opening).append (Edits.refl.append ((Edits.dropAll closing).append ih))

theorem takenMarks_length : (spots.filter marked).length =
    ((unemphasize char marks fuel spots).filter marked).length + ((takenMarks char marks fuel spots).filter marked).length := by
  induction fuel generalizing spots with
  | zero => simp [unemphasize, takenMarks]
  | succ fuel ih =>
      cases spots with
      | nil => rfl
      | cons spot rest =>
          rw [unemphasize, takenMarks]
          cases matched : emphasis char marks (spot :: rest) with
          | none =>
              have later := @ih rest
              dsimp only
              rw [List.filter_cons, List.filter_cons]
              split
              · rw [List.length_cons, List.length_cons]
                omega
              · exact later
          | some found =>
              obtain ⟨whole, -⟩ := emphasis_split matched
              have later := @ih found.after
              simp only [whole, List.filter_append, List.length_append]
              omega

theorem linkedLine_edits :
    Edits (fun spot => isWordChar (char spot) = false) space spots (linkedLine char space spots) :=
  withoutHeading_edits.trans unlink_edits

theorem boldMarks_plain : ∀ mark ∈ boldMarks, ∀ shown ∈ mark, shown.isAlphanum = false := by
  simp [boldMarks]

theorem italicMarks_plain : ∀ mark ∈ italicMarks, ∀ shown ∈ mark, shown.isAlphanum = false := by
  simp [italicMarks]

theorem emphasis_edits : Edits (fun spot => (char spot).isAlphanum = false) space (linkedLine char space spots)
    (stripLine char space spots) :=
  (unemphasize_edits boldMarks_plain).trans (unemphasize_edits italicMarks_plain)

theorem stripLine_edits :
    Edits (fun spot => (char spot).isAlphanum = false) space spots (stripLine char space spots) := by
  refine (linkedLine_edits.mono fun spot other => ?_).trans emphasis_edits
  simp only [isWordChar, Bool.or_eq_false_iff] at other
  exact other.1

theorem stripLine_filter_iff (plain : marked space = false)
    (firm : ∀ spot ∈ spots, isWordChar (char spot) = false → marked spot = false) :
    (stripLine char space spots).filter marked = spots.filter marked ↔
      ∀ spot ∈ lineMarks char space spots, marked spot = false := by
  have linked : (linkedLine char space spots).filter marked = spots.filter marked :=
    linkedLine_edits.filter_eq plain firm
  have inside : ((stripLine char space spots).filter marked).Sublist ((linkedLine char space spots).filter marked) :=
    emphasis_edits.filter_sublist plain
  have bold : ((linkedLine char space spots).filter marked).length =
      ((unboldLine char space spots).filter marked).length + _ := takenMarks_length
  have italic : ((unboldLine char space spots).filter marked).length =
      ((stripLine char space spots).filter marked).length + _ := takenMarks_length
  have taken : ((lineMarks char space spots).filter marked).length = _ :=
    (congrArg List.length (List.filter_append _ _)).trans List.length_append
  rw [← linked]
  constructor
  · intro same spot member
    have size := congrArg List.length same
    have none : (lineMarks char space spots).filter marked = [] := List.eq_nil_of_length_eq_zero (by omega)
    simpa using List.filter_eq_nil_iff.mp none spot member
  · intro unmarked
    have none : (lineMarks char space spots).filter marked = [] :=
      List.filter_eq_nil_iff.mpr fun spot member => by simp [unmarked spot member]
    rw [none] at taken
    exact inside.eq_of_length_le (by simp only [List.length_nil] at taken; omega)

end Passes

/-- A word of a line: ASCII letters, digits and underscores with none next to them, and neither end an
underscore. -/
structure Identifier (before word after : List Char) : Prop where
  chars : ∀ char ∈ word, isWordChar char = true
  first : word.head?.any Char.isAlphanum = true
  last : word.getLast?.any Char.isAlphanum = true
  starts : before.getLast?.any isWordChar = false
  stops : after.head?.any isWordChar = false

/-- The word is there in the text that was made of its line, with the same letters and digits on each side. -/
def Kept (before word after out : List Char) : Prop :=
  ∃ front back, out = front ++ (word ++ back) ∧ front.filter Char.isAlphanum = before.filter Char.isAlphanum ∧
    back.filter Char.isAlphanum = after.filter Char.isAlphanum

def tagged (before word after : List Char) : List (Char × Bool) :=
  before.map (·, false) ++ (word.map (·, true) ++ after.map (·, false))

/-- No mark of an emphasis is one of the word's characters. -/
def Untouched (before word after : List Char) : Prop :=
  ∀ spot ∈ lineMarks Prod.fst (' ', false) (tagged before word after), spot.2 = false

instance (before word after : List Char) : Decidable (Untouched before word after) :=
  inferInstanceAs (Decidable (∀ spot ∈ _, _))

example : Untouched [] ['a', '_', 'b'] [' ', '*', 'c', '*'] ∧ ¬ Untouched [] ['a', '_', 'b'] [' ', '_', 'c'] := by
  decide

section Words

variable {before word after front back left right middle : List Char} {char other : Char} {line : List (Char × Bool)}

theorem exists_first (first : word.head?.any Char.isAlphanum = true) :
    ∃ char rest, word = char :: rest ∧ char.isAlphanum = true := by
  cases word with
  | nil => cases first
  | cons char rest => exact ⟨char, rest, rfl, first⟩

theorem exists_last (last : word.getLast?.any Char.isAlphanum = true) :
    ∃ rest char, word = rest ++ [char] ∧ char.isAlphanum = true := by
  cases word using List.reverseRecOn with
  | nil => cases last
  | append_singleton rest char =>
      rw [List.getLast?_concat] at last
      exact ⟨rest, char, rfl, last⟩

theorem align (alphanum : char.isAlphanum = true) (otherAlphanum : other.isAlphanum = true)
    (same : front ++ char :: back = left ++ other :: right)
    (counted : front.filter Char.isAlphanum = left.filter Char.isAlphanum) : front = left := by
  rcases List.append_eq_append_iff.mp same with ⟨gap, longer, rest⟩ | ⟨gap, longer, rest⟩
  · cases gap with
    | nil => rw [longer, List.append_nil]
    | cons head tail =>
        obtain rfl : char = head := (List.cons.inj rest).1
        have size := congrArg List.length counted
        rw [longer, List.filter_append, List.filter_cons_of_pos alphanum] at size
        simp at size
  · cases gap with
    | nil => rw [longer, List.append_nil]
    | cons head tail =>
        obtain rfl : other = head := (List.cons.inj rest).1
        have size := congrArg List.length counted
        rw [longer, List.filter_append, List.filter_cons_of_pos otherAlphanum] at size
        simp at size

theorem align_middle (first : word.head?.any Char.isAlphanum = true) (last : word.getLast?.any Char.isAlphanum = true)
    (otherFirst : middle.head?.any Char.isAlphanum = true) (otherLast : middle.getLast?.any Char.isAlphanum = true)
    (same : front ++ (word ++ back) = left ++ (middle ++ right))
    (fronts : front.filter Char.isAlphanum = left.filter Char.isAlphanum)
    (backs : back.filter Char.isAlphanum = right.filter Char.isAlphanum) : word = middle := by
  obtain ⟨char, rest, rfl, alphanum⟩ := exists_first first
  obtain ⟨other, others, rfl, otherAlphanum⟩ := exists_first otherFirst
  obtain ⟨start, final, split, finalAlphanum⟩ := exists_last last
  obtain ⟨otherStart, otherFinal, otherSplit, otherFinalAlphanum⟩ := exists_last otherLast
  have before : front = left := align alphanum otherAlphanum same fronts
  rw [before] at same
  have tails := List.append_cancel_left same
  have turned := congrArg List.reverse tails
  rw [split, otherSplit] at turned
  simp only [List.reverse_append, List.reverse_cons, List.reverse_nil, List.nil_append, List.append_assoc,
    List.singleton_append] at turned
  have after : back.reverse = right.reverse := by
    refine align finalAlphanum otherFinalAlphanum turned ?_
    rw [List.filter_reverse, List.filter_reverse, backs]
  rw [List.reverse_inj.mp after] at tails
  exact List.append_cancel_right tails

theorem tagged_eq (edits : Edits (fun spot => spot.1.isAlphanum = false) (' ', false) (word.map (·, true)) line)
    (shown : line.map Prod.fst = word) (chars : ∀ char ∈ word, isWordChar char = true) : line = word.map (·, true) := by
  have own : ∀ spot ∈ line, spot = (spot.1, true) := by
    intro spot member
    rcases edits.mem member with inside | rfl
    · obtain ⟨char, -, rfl⟩ := List.mem_map.mp inside
      rfl
    · have blank : ' ' ∈ word := by
        rw [← shown]
        exact List.mem_map_of_mem member
      exact absurd (chars ' ' blank) (by decide)
  rw [← shown, List.map_map]
  refine ((List.map_congr_left fun spot member => ?_).trans (List.map_id line)).symm
  exact (own spot member).symm

theorem map_filter_alphanum (edits : Edits (fun spot => spot.1.isAlphanum = false) (' ', false) (before.map (·, false)) line) :
    (line.map Prod.fst).filter Char.isAlphanum = before.filter Char.isAlphanum := by
  have kept : line.filter (Char.isAlphanum ∘ Prod.fst) = (before.map (·, false)).filter (Char.isAlphanum ∘ Prod.fst) :=
    edits.filter_eq (by decide) fun spot _ other => other
  rw [List.filter_map, kept, ← List.filter_map, List.map_map]
  congr 1
  exact List.map_id before

theorem filter_unmarked (edits : Edits (fun spot => spot.1.isAlphanum = false) (' ', false) (before.map (·, false)) line) :
    line.filter Prod.snd = [] := by
  have inside : (line.filter Prod.snd).Sublist ((before.map (·, false)).filter Prod.snd) := edits.filter_sublist rfl
  rw [List.filter_map] at inside
  simpa [Function.comp_def] using inside

theorem edits_ends (first : word.head?.any Char.isAlphanum = true) (last : word.getLast?.any Char.isAlphanum = true)
    (edits : Edits (fun spot => spot.1.isAlphanum = false) (' ', false) (word.map (·, true)) line) :
    (line.map Prod.fst).head?.any Char.isAlphanum = true ∧ (line.map Prod.fst).getLast?.any Char.isAlphanum = true := by
  constructor
  · obtain ⟨char, rest, rfl, alphanum⟩ := exists_first first
    obtain ⟨later, rfl, -⟩ := edits.cons_firm (by simp [alphanum])
    exact alphanum
  · obtain ⟨rest, char, rfl, alphanum⟩ := exists_last last
    rw [List.map_append, List.map_singleton] at edits
    obtain ⟨left, right, rfl, -, ending⟩ := edits.split
    obtain ⟨later, rfl, none⟩ := ending.cons_firm (by simp [alphanum])
    cases none
    rw [List.map_append, List.map_singleton, List.getLast?_concat]
    exact alphanum

theorem kept_iff (identifier : Identifier before word after) :
    Kept before word after (stripLine id ' ' (before ++ (word ++ after))) ↔ Untouched before word after := by
  have shown : (tagged before word after).map Prod.fst = before ++ (word ++ after) := by
    simp [tagged, Function.comp_def]
  have text : (stripLine Prod.fst (' ', false) (tagged before word after)).map Prod.fst =
      stripLine id ' ' (before ++ (word ++ after)) := by
    rw [stripLine_map, shown]
  have marks : (stripLine Prod.fst (' ', false) (tagged before word after)).filter Prod.snd =
      (tagged before word after).filter Prod.snd ↔ Untouched before word after := by
    refine stripLine_filter_iff rfl ?_
    intro spot member other
    simp only [tagged, List.mem_append, List.mem_map] at member
    rcases member with ⟨char, -, rfl⟩ | ⟨char, inside, rfl⟩ | ⟨char, -, rfl⟩
    · rfl
    · exact absurd (identifier.chars char inside) (by simpa using other)
    · rfl
  have whole : (tagged before word after).filter Prod.snd = word.map (·, true) := by
    simp [tagged, List.filter_map, Function.comp_def]
  have edits : Edits (fun spot => spot.1.isAlphanum = false) (' ', false) (tagged before word after)
      (stripLine Prod.fst (' ', false) (tagged before word after)) := stripLine_edits
  obtain ⟨left, rest, split, leftEdits, restEdits⟩ := edits.split
  obtain ⟨middle, right, rfl, middleEdits, rightEdits⟩ := restEdits.split
  have counted : (stripLine Prod.fst (' ', false) (tagged before word after)).filter Prod.snd = middle.filter Prod.snd := by
    rw [split, List.filter_append, List.filter_append, filter_unmarked leftEdits, filter_unmarked rightEdits, List.nil_append,
      List.append_nil]
  rw [← marks, counted, whole, ← text, split, List.map_append, List.map_append]
  constructor
  · rintro ⟨front, back, same, fronts, backs⟩
    obtain ⟨opens, closes⟩ := edits_ends identifier.first identifier.last middleEdits
    have shows : word = middle.map Prod.fst :=
      align_middle identifier.first identifier.last opens closes same.symm
        (fronts.trans (map_filter_alphanum leftEdits).symm) (backs.trans (map_filter_alphanum rightEdits).symm)
    rw [tagged_eq middleEdits shows.symm identifier.chars]
    simp [List.filter_map, Function.comp_def]
  · intro all
    have own : middle = word.map (·, true) := middleEdits.eq_of_filter all
    refine ⟨left.map Prod.fst, right.map Prod.fst, ?_, map_filter_alphanum leftEdits, map_filter_alphanum rightEdits⟩
    rw [own, List.map_map]
    congr 2
    exact List.map_id word

end Words

/-- A line of a code block stays as it is, and each word of another line is kept. -/
def KeptLine (fenced : Bool × String) (out : String) : Prop :=
  if fenced.1 then out = fenced.2
  else ∀ before word after, fenced.2.toList = before ++ (word ++ after) → Identifier before word after →
    Kept before word after out.toList

/-- The stripped text keeps the words and the code of each line, in order. -/
def KeepsWords (text stripped : String) : Prop :=
  ∃ outs : List String, stripped = "\n".intercalate outs ∧ (∀ out ∈ outs, '\n' ∉ out.toList) ∧
    List.Forall₂ KeptLine (fencedLines false (splitLines text)) outs

section Texts

variable {text line : String} {lines first second : List String} {fenced : Bool × String} {inCode : Bool}

theorem mem_fencedLines (member : fenced ∈ fencedLines inCode lines) : fenced.2 ∈ lines := by
  induction lines generalizing inCode with
  | nil => cases member
  | cons line rest ih =>
      rw [fencedLines] at member
      split at member
      · rcases List.mem_cons.mp member with rfl | later
        · exact List.mem_cons_self
        · exact List.mem_cons_of_mem line (ih later)
      · rcases List.mem_cons.mp member with rfl | later
        · exact List.mem_cons_self
        · exact List.mem_cons_of_mem line (ih later)

theorem newline_not_mem_line (listed : line ∈ splitLines text) : '\n' ∉ line.toList := by
  obtain ⟨piece, inside, rfl⟩ := List.mem_map.mp listed
  intro member
  rw [String.toList_ofList] at member
  have plain := mem_linesAfter (fun _ begun => absurd begun List.not_mem_nil) inside '\n' member
  revert plain
  decide

theorem newline_not_mem_lineText (listed : fenced.2 ∈ splitLines text) : '\n' ∉ (lineText fenced).toList := by
  unfold lineText
  split
  · exact newline_not_mem_line listed
  · intro member
    have edits : Edits (fun shown => (id shown).isAlphanum = false) ' ' fenced.2.toList
        (stripLine id ' ' fenced.2.toList) := stripLine_edits
    rw [String.toList_ofList] at member
    rcases edits.mem member with inside | blank
    · exact newline_not_mem_line listed inside
    · exact absurd blank (by decide)

theorem join_injective (firstPlain : ∀ line ∈ first, '\n' ∉ line.toList) (secondPlain : ∀ line ∈ second, '\n' ∉ line.toList)
    (sizes : first.length = second.length) (same : "\n".intercalate first = "\n".intercalate second) : first = second := by
  have parts : ∀ lines : List String, (∀ line ∈ lines, '\n' ∉ line.toList) → lines ≠ [] →
      ("\n".intercalate lines).toList.splitOn '\n' = lines.map String.toList := by
    intro lines plain some
    rw [String.toList_intercalate]
    refine List.splitOn_intercalate '\n' ?_ (by simpa using some)
    intro chars member
    obtain ⟨line, listed, rfl⟩ := List.mem_map.mp member
    exact plain line listed
  cases first with
  | nil => exact (List.eq_nil_of_length_eq_zero sizes.symm).symm
  | cons line rest =>
      have some : second ≠ [] := by
        rintro rfl
        cases sizes
      have chars := (parts _ firstPlain (List.cons_ne_nil line rest)).symm.trans
        ((congrArg (fun text => text.toList.splitOn '\n') same).trans (parts _ secondPlain some))
      exact List.map_injective_iff.mpr (fun _ _ => String.toList_injective) chars

/-- Stripping markdown keeps the words of a text exactly when no emphasis mark is taken from inside a word. -/
theorem strip_markdown_keeps_iff (text : String) : KeepsWords text (stripMarkdown text) ↔
    ∀ line, (false, line) ∈ fencedLines false (splitLines text) →
      ∀ before word after, line.toList = before ++ (word ++ after) → Identifier before word after →
        Untouched before word after := by
  have kept : ∀ line, KeptLine (false, line) (lineText (false, line)) ↔
      ∀ before word after, line.toList = before ++ (word ++ after) → Identifier before word after →
        Untouched before word after := by
    intro line
    have out : (lineText (false, line)).toList = stripLine id ' ' line.toList := String.toList_ofList
    constructor
    · intro keeps before word after whole identifier
      have found := keeps before word after whole identifier
      rw [out, whole] at found
      exact (kept_iff identifier).mp found
    · intro untouched before word after whole identifier
      have there := (kept_iff identifier).mpr (untouched before word after whole identifier)
      rwa [← whole, ← out] at there
  have plain : ∀ out ∈ (fencedLines false (splitLines text)).map lineText, '\n' ∉ out.toList := by
    intro out member
    obtain ⟨fenced, listed, rfl⟩ := List.mem_map.mp member
    exact newline_not_mem_lineText (mem_fencedLines listed)
  constructor
  · rintro ⟨outs, joined, apart, each⟩ line listed
    have sizes : ((fencedLines false (splitLines text)).map lineText).length = outs.length := by
      rw [List.length_map, each.length_eq]
    rw [← join_injective plain apart sizes joined, List.forall₂_map_right_iff, List.forall₂_same] at each
    exact (kept line).mp (each (false, line) listed)
  · intro untouched
    refine ⟨(fencedLines false (splitLines text)).map lineText, rfl, plain, ?_⟩
    rw [List.forall₂_map_right_iff, List.forall₂_same]
    rintro ⟨inCode, line⟩ listed
    cases inCode with
    | true => rfl
    | false => exact (kept line).mpr (untouched line listed)

end Texts

/-- Two underscores of one line are taken for an emphasis, although each is inside a word. -/
theorem snake_case_lost : ¬ KeepsWords "a_b c_d" (stripMarkdown "a_b c_d") := by
  have stripped : stripMarkdown "a_b c_d" = "ab cd" := by decide
  rintro ⟨outs, joined, -, each⟩
  have lines : fencedLines false (splitLines "a_b c_d") = [(false, "a_b c_d")] := by decide
  rw [lines] at each
  obtain ⟨out, rest, here, none, rfl⟩ := List.forall₂_cons_left_iff.mp each
  cases none
  rw [String.intercalate_singleton, stripped] at joined
  subst joined
  obtain ⟨front, back, whole, -, -⟩ := here [] ['a', '_', 'b'] " c_d".toList (by decide)
    ⟨by simp [isWordChar], by decide, by decide, by decide, by decide⟩
  have underscore : '_' ∈ "ab cd".toList := by simp [whole]
  exact absurd underscore (by decide)

end Dosm.Docs.MarkdownText
