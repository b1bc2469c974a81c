import Dosm.Docs.Vault
import Dosm.Python.Slices

namespace Dosm.Docs.Vault

open Python

/-! The metadata block at the start of a document.

The block is found by its first characters and by a search for its end, and it is cut off
whether or not its lines are rules of their own and its text is a mapping. The condition
says when nothing but metadata goes.
-/

/-- What `parse_frontmatter` keeps of a text without its metadata, for the search index. -/
def stripFrontmatter (text : String) : String :=
  if !startsWith text "---" then text
  else
    match find "\n---" text 3 with
    | none => text
    | some stop => lstripChar '\n' (slice (stop + 4) text.length text)

/-- The text begins with a rule and this content, up to the next line that begins with one. -/
def Ruled (text : String) (content rest : List Char) : Prop :=
  text.toList = "---".toList ++ (content ++ "\n---".toList ++ rest) ∧
    ∀ before after, content ++ "\n---".toList ++ rest = before ++ "\n---".toList ++ after →
      content.length ≤ before.length

def isNewline (char : Char) : Bool := char = '\n' || char = '\r'

/-- The line before ends here. -/
def LineEnds (chars : List Char) : Prop := ∀ char ∈ chars.head?, isNewline char = true

/-- A block between two lines that are rules and nothing else, with a mapping. -/
def Delimited (yaml : Yaml) (text : String) (content rest : List Char) : Prop :=
  text.toList = "---".toList ++ (content ++ "\n---".toList ++ rest) ∧ LineEnds content ∧ LineEnds rest ∧
    (yaml.load (String.ofList content)).isSome

/-- A document saved with this body has the part, apart from blanks around it. -/
def Survives (yaml : Yaml) (part : String) (body : String) : Prop :=
  ∀ title folder author updatedAt, ∃ lead trail : List Char, (∀ char ∈ lead ++ trail, isSpace char = true) ∧
    (serializeDoc yaml title folder body author updatedAt).toList =
      ("---\n" ++ yaml.dump title folder author updatedAt ++ "---\n\n").toList ++ lead ++ (strip part).toList ++ trail

/-- The whole text is the body, or all that follows a block of metadata, and a save keeps it. -/
def LosesNothing (yaml : Yaml) (text : String) : Prop :=
  (parseFrontmatter yaml text = ({}, text) ∧ Survives yaml text (parseFrontmatter yaml text).2) ∨
    ∃ content rest, Delimited yaml text content rest ∧
      (parseFrontmatter yaml text).2.toList.dropWhile isNewline = rest.dropWhile isNewline ∧
      Survives yaml (String.ofList rest) (parseFrontmatter yaml text).2

section Parses

variable {yaml : Yaml} {text : String} {content rest other later : List Char}

theorem startsWith_split {start : String} (starts : startsWith text start = true) :
    ∃ tail, text.toList = start.toList ++ tail := by
  obtain ⟨tail, split⟩ := List.isPrefixOf_iff_prefix.mp starts
  exact ⟨tail, split.symm⟩

theorem startsWith_append {start : String} {tail : List Char} (split : text.toList = start.toList ++ tail) :
    startsWith text start = true :=
  List.isPrefixOf_iff_prefix.mpr ⟨tail, split.symm⟩

theorem Ruled.unique (first : Ruled text content rest) (second : Ruled text other later) :
    content = other ∧ rest = later := by
  have same : content ++ "\n---".toList ++ rest = other ++ "\n---".toList ++ later :=
    List.append_cancel_left (first.1.symm.trans second.1)
  have lengths : content.length = other.length :=
    Nat.le_antisymm (first.2 other later same) (second.2 content rest same.symm)
  rw [List.append_assoc, List.append_assoc] at same
  obtain ⟨left, right⟩ := List.append_inj same lengths
  exact ⟨left, List.append_cancel_left right⟩

theorem find_ruled {stop : Nat} (starts : startsWith text "---" = true) (found : find "\n---" text 3 = some stop) :
    ∃ content rest, Ruled text content rest ∧ stop = 3 + content.length := by
  obtain ⟨tail, split⟩ := startsWith_split starts
  have body : text.toList.drop 3 = tail := by
    rw [split]
    rfl
  rw [find, body] at found
  obtain ⟨before, after, cut, place, first⟩ := findIn_some found
  refine ⟨before, after, ⟨by rw [split, cut], ?_⟩, place⟩
  intro earlier later same
  exact first earlier later (cut.trans same)

theorem ruled_find (ruled : Ruled text content rest) : find "\n---" text 3 = some (3 + content.length) := by
  have starts : startsWith text "---" = true := startsWith_append ruled.1
  cases found : find "\n---" text 3 with
  | some stop =>
      obtain ⟨other, later, again, place⟩ := find_ruled starts found
      rw [place, (ruled.unique again).1]
  | none =>
      have body : text.toList.drop 3 = content ++ "\n---".toList ++ rest := by
        rw [ruled.1]
        rfl
      rw [find, body] at found
      exact absurd rfl (findIn_none found)

theorem parseFrontmatter_ruled (ruled : Ruled text content rest) :
    parseFrontmatter yaml text =
      ((yaml.load (strip (String.ofList content))).getD {}, String.ofList (rest.dropWhile (· = '\n'))) := by
  have starts : startsWith text "---" = true := startsWith_append ruled.1
  have block : slice 3 (3 + content.length) text = String.ofList content := by
    have front : ("---".toList ++ content).length = 3 + content.length := by
      rw [List.length_append]
      rfl
    rw [slice, ruled.1, List.append_assoc, ← List.append_assoc "---".toList, ← front, List.take_left,
      List.drop_left' (by rfl)]
  have body : slice (3 + content.length + 4) text.length text = String.ofList rest := by
    have size : text.length = text.toList.length := String.length_toList.symm
    rw [slice, size, List.take_length, ruled.1]
    have front : ("---".toList ++ (content ++ "\n---".toList)).length = 3 + content.length + 4 := by
      simp only [List.length_append, String.length_toList]
      rfl
    rw [← List.append_assoc, ← front, List.drop_left]
  simp only [parseFrontmatter, starts, ruled_find ruled, Bool.not_true, Bool.false_eq_true, if_false, block, body,
    lstripChar, String.toList_ofList]

theorem parseFrontmatter_free (free : ∀ content rest, ¬ Ruled text content rest) :
    parseFrontmatter yaml text = ({}, text) := by
  rw [parseFrontmatter]
  split
  · rfl
  · next starts =>
      have begun : startsWith text "---" = true := by simpa using starts
      cases found : find "\n---" text 3 with
      | none => rfl
      | some stop =>
          obtain ⟨content, rest, ruled, _⟩ := find_ruled begun found
          exact absurd ruled (free content rest)

/-- The search index drops what an edit drops. -/
theorem stripFrontmatter_eq : stripFrontmatter text = (parseFrontmatter yaml text).2 := by
  rw [stripFrontmatter, parseFrontmatter]
  split
  · rfl
  · cases find "\n---" text 3 with
    | none => rfl
    | some stop => rfl

end Parses

section Blanks

variable {text part body : String} {chars front rest : List Char} {chosen : Char → Bool}

theorem dropWhile_le_of_mem {char : Char} (split : chars = front ++ char :: rest) (kept : chosen char = false) :
    rest.length < (chars.dropWhile chosen).length := by
  rw [split, List.dropWhile_append]
  split
  · simp [kept]
  · rw [List.length_append, List.length_cons]
    omega

theorem rdropWhile_append (kept : ¬ ∀ char ∈ rest, chosen char = true) :
    (front ++ rest).rdropWhile chosen = front ++ rest.rdropWhile chosen := by
  have some : (rest.reverse.dropWhile chosen).isEmpty = false := by
    rw [List.isEmpty_eq_false_iff, ne_eq, List.dropWhile_eq_nil_iff]
    intro all
    exact kept fun char member => all char (List.mem_reverse.mpr member)
  rw [List.rdropWhile, List.reverse_append, List.dropWhile_append, some, List.rdropWhile]
  simp

theorem dropWhile_dropWhile {wider : Char → Bool} (implies : ∀ char, chosen char = true → wider char = true) :
    (chars.dropWhile chosen).dropWhile wider = chars.dropWhile wider := by
  induction chars with
  | nil => rfl
  | cons char rest ih =>
      by_cases drops : chosen char = true
      · rw [List.dropWhile_cons_of_pos drops, List.dropWhile_cons_of_pos (implies char drops), ih]
      · rw [List.dropWhile_cons_of_neg drops]

theorem strip_lstripChar : strip (String.ofList (rest.dropWhile (· = '\n'))) = strip (String.ofList rest) := by
  have same := @dropWhile_dropWhile rest (fun char => decide (char = '\n')) isSpace fun char newline => by
    rw [of_decide_eq_true newline]
    decide
  rw [strip, strip, String.toList_ofList, String.toList_ofList, same]

theorem rstrip_eq : ∃ lead : List Char, (∀ char ∈ lead, isSpace char = true) ∧
    (rstrip text).toList = lead ++ (strip text).toList := by
  by_cases blank : ∀ char ∈ text.toList.dropWhile isSpace, isSpace char = true
  · have nothing : text.toList.dropWhile isSpace = [] := by
      by_contra nonempty
      have visible := List.head_dropWhile_not isSpace nonempty
      rw [blank _ (List.head_mem nonempty)] at visible
      cases visible
    have spaces : ∀ char ∈ text.toList, isSpace char = true := List.dropWhile_eq_nil_iff.mp nothing
    refine ⟨[], nofun, ?_⟩
    rw [rstrip, strip, String.toList_ofList, String.toList_ofList, nothing, List.rdropWhile_eq_nil_iff.mpr spaces]
    rfl
  · refine ⟨text.toList.takeWhile isSpace, fun char member => ?_, ?_⟩
    · have inside := List.mem_takeWhile_imp member
      exact inside
    · rw [rstrip, strip, String.toList_ofList, String.toList_ofList]
      have kept := @rdropWhile_append (text.toList.takeWhile isSpace) _ isSpace blank
      rwa [List.takeWhile_append_dropWhile] at kept

theorem survives (yaml : Yaml) (same : strip body = strip part) : Survives yaml part body := by
  intro title folder author updatedAt
  obtain ⟨lead, blank, written⟩ := @rstrip_eq body
  refine ⟨lead, ['\n'], ?_, ?_⟩
  · intro char member
    rcases List.mem_append.mp member with inside | last
    · exact blank char inside
    · rw [List.mem_singleton.mp last]
      decide
  · rw [serializeDoc, String.toList_append, String.toList_append, written, same]
    simp only [List.append_assoc]
    rfl

end Blanks

section Losses

variable {yaml : Yaml} {text : String} {content rest other later : List Char}

theorem rest_split {before after : List Char} (ruled : Ruled text content rest)
    (split : text.toList = "---".toList ++ (before ++ "\n---".toList ++ after)) (later : content.length < before.length) :
    ∃ between, rest = between ++ "\n---".toList ++ after := by
  have same : content ++ ("\n---".toList ++ rest) = before ++ ("\n---".toList ++ after) := by
    rw [← List.append_assoc, ← List.append_assoc]
    exact List.append_cancel_left (ruled.1.symm.trans split)
  rcases List.append_eq_append_iff.mp same with ⟨between, beforeSplit, tail⟩ | ⟨between, contentSplit, _⟩
  · match between, tail with
    | [], _ => simp [beforeSplit] at later
    | [first], tail => simp at tail
    | [first, second], tail => simp at tail
    | [first, second, third], tail => simp at tail
    | first :: second :: third :: fourth :: between, tail =>
        refine ⟨between, ?_⟩
        have aligned : "\n---".toList ++ rest =
            [first, second, third, fourth] ++ (between ++ ("\n---".toList ++ after)) := tail
        rw [(List.append_inj aligned rfl).2, List.append_assoc]
  · rw [contentSplit, List.length_append] at later
    omega

theorem same_rest {before after : List Char} (ruled : Ruled text content rest)
    (split : text.toList = "---".toList ++ (before ++ "\n---".toList ++ after))
    (same : (rest.dropWhile (· = '\n')).dropWhile isNewline = after.dropWhile isNewline) :
    content = before ∧ rest = after := by
  have cut : content ++ "\n---".toList ++ rest = before ++ "\n---".toList ++ after :=
    List.append_cancel_left (ruled.1.symm.trans split)
  rcases Nat.lt_or_eq_of_le (ruled.2 before after cut) with later | lengths
  · obtain ⟨between, inside⟩ := rest_split ruled split later
    have rule : rest = (between ++ ['\n']) ++ '-' :: ("--".toList ++ after) := by
      rw [inside]
      simp
    have longer := dropWhile_le_of_mem rule (show isNewline '-' = false by decide)
    have shorter := (List.dropWhile_sublist isNewline (l := after)).length_le
    have newlines := @dropWhile_dropWhile rest (fun char => decide (char = '\n')) isNewline fun char newline => by
      rw [of_decide_eq_true newline]
      decide
    rw [← newlines, same, List.length_append] at longer
    omega
  · rw [List.append_assoc, List.append_assoc] at cut
    obtain ⟨left, right⟩ := List.append_inj cut lengths
    exact ⟨left, List.append_cancel_left right⟩

theorem LosesNothing.block (kept : LosesNothing yaml text) (ruled : Ruled text content rest) :
    LineEnds content ∧ LineEnds rest ∧ (yaml.load (String.ofList content)).isSome := by
  rcases kept with ⟨whole, _⟩ | ⟨before, after, ⟨split, opened, closed, loaded⟩, same, _⟩
  · have body := congrArg (fun parsed => parsed.2.toList.length) whole
    rw [parseFrontmatter_ruled ruled] at body
    have shorter := (List.dropWhile_sublist (fun char => decide (char = '\n')) (l := rest)).length_le
    simp only [String.toList_ofList, ruled.1, List.length_append, String.length_toList] at body
    have rule : "---".length = 3 := rfl
    omega
  · rw [parseFrontmatter_ruled ruled, String.toList_ofList] at same
    obtain ⟨rfl, rfl⟩ := same_rest ruled split same
    exact ⟨opened, closed, loaded⟩

/-- A document loses nothing exactly when the first rule after its opening one, if there
is any, ends a block of metadata. -/
theorem document_survives_iff : LosesNothing yaml text ↔
    ∀ content rest, Ruled text content rest → LineEnds content ∧ LineEnds rest ∧
      (yaml.load (String.ofList content)).isSome := by
  constructor
  · intro kept content rest ruled
    exact kept.block ruled
  · intro conditions
    by_cases ruled : ∃ content rest, Ruled text content rest
    · obtain ⟨content, rest, ruled⟩ := ruled
      obtain ⟨opened, closed, loaded⟩ := conditions content rest ruled
      right
      refine ⟨content, rest, ⟨ruled.1, opened, closed, loaded⟩, ?_, ?_⟩
      · rw [parseFrontmatter_ruled ruled, String.toList_ofList]
        apply dropWhile_dropWhile
        intro char newline
        rw [of_decide_eq_true newline]
        decide
      · rw [parseFrontmatter_ruled ruled]
        exact survives yaml strip_lstripChar
    · have free : ∀ content rest, ¬ Ruled text content rest := fun content rest found => ruled ⟨content, rest, found⟩
      left
      rw [parseFrontmatter_free free]
      exact ⟨rfl, survives yaml rfl⟩

end Losses

/-- Two rules around a paragraph: an edit drops the paragraph. -/
theorem thematic_breaks_lost :
    let yaml : Yaml := { load := fun _ => none, dump := fun title _ _ _ => "title: " ++ title ++ "\n" }
    ¬ LosesNothing yaml "---\nIntro\n---\nText" ∧
      parseFrontmatter yaml "---\nIntro\n---\nText" = ({}, "Text") := by
  intro yaml
  constructor
  · intro kept
    obtain ⟨content, rest, ruled, _⟩ := @find_ruled "---\nIntro\n---\nText" 9 (by decide) (by decide)
    exact absurd (kept.block ruled).2.2 Bool.false_ne_true
  · decide

end Dosm.Docs.Vault
