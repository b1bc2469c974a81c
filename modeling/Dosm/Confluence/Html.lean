import Dosm.Python.Substitution
import Dosm.Python.Slices

namespace Dosm.Confluence.Html

open Python Python.Substitution

/-! The text of a page when no converter is installed.

Tags are taken away, the entities are replaced one after another, and runs of
blanks and of blank lines are shortened.
-/

/-- Lower case of the characters that become a letter of a tag name. -/
def lowerChar (char : Char) : Char := if char = 'İ' then 'i' else char.toLower

/-- A letter of a pattern that ignores case. -/
def alike (letter char : Char) : Bool :=
  lowerChar char = letter || (letter = 's' && char = 'ſ') || (letter = 'i' && char = 'ı')

def namedAt (name text : List Char) : Bool :=
  name.length ≤ text.length && (name.zip text).all fun pair => alike pair.1 pair.2

/-- The group is shown again, in whatever case. -/
def repeatedAt (group text : List Char) : Bool :=
  group.length ≤ text.length && (group.zip text).all fun pair => lowerChar pair.1 = lowerChar pair.2

/-- How many characters stand before the first place that is accepted. -/
def firstAt (accepts : List Char → Bool) : List Char → Option Nat
  | [] => none
  | char :: rest => if accepts (char :: rest) then some 0 else (firstAt accepts rest).map (· + 1)

/-- What `</\1>` accepts. -/
def closes (group : List Char) : List Char → Bool
  | '<' :: '/' :: rest => repeatedAt group rest && (rest.drop group.length).head? = some '>'
  | _ => false

/-- `(?is)<(script|style).*?</\1>` -/
def hiddenAt : Matcher Char := fun char rest =>
  if char = '<' then
    ["script".toList, "style".toList].findSome? fun name =>
      if namedAt name rest then
        (firstAt (closes (rest.take name.length)) (rest.drop name.length)).map fun before =>
          name.length + before + 2 + name.length + 1
      else none
  else none

/-- `(?i)<br\s*/?>` -/
def breakAt : Matcher Char := fun char rest =>
  if char = '<' ∧ namedAt "br".toList rest then
    let spaces := (rest.drop 2).takeWhile isSpace
    let after := (rest.drop 2).dropWhile isSpace
    let slash := if after.head? = some '/' then 1 else 0
    if (after.drop slash).head? = some '>' then some (2 + spaces.length + slash + 1) else none
  else none

def blockNames : List (List Char) :=
  ["p", "div", "li", "h1", "h2", "h3", "h4", "h5", "h6", "tr", "table", "ul", "ol"].map String.toList

/-- `(?i)</(p|div|li|h[1-6]|tr|table|ul|ol)>` -/
def blockAt : Matcher Char := fun char rest =>
  if char = '<' ∧ rest.head? = some '/' then
    blockNames.findSome? fun name =>
      if namedAt name rest.tail ∧ (rest.tail.drop name.length).head? = some '>' then some (1 + name.length + 1)
      else none
  else none

/-- `(?s)<[^>]+>` -/
def tagAt : Matcher Char := fun char rest =>
  let inner := rest.takeWhile (· ≠ '>')
  if char = '<' ∧ inner ≠ [] ∧ inner.length < rest.length then some (inner.length + 1) else none

/-- `[ \t]+` -/
def blanksAt : Matcher Char := fun char rest =>
  if char = ' ' ∨ char = '\t' then some (rest.takeWhile fun char => char = ' ' ∨ char = '\t').length else none

/-- `\n\s*\n\s*\n+`: up to the last line feed of the spaces, when there are two more. -/
def linesAt : Matcher Char := fun char rest =>
  let spaces := rest.takeWhile isSpace
  if char = '\n' ∧ 2 ≤ spaces.count '\n' then some (spaces.rdropWhile (· ≠ '\n')).length else none

/-- The entities without their ampersand, in the order in which they are replaced. -/
def entities : CodeTable Char :=
  [("nbsp;".toList, ' '), ("amp;".toList, '&'), ("lt;".toList, '<'), ("gt;".toList, '>'), ("quot;".toList, '"'),
    ("#39;".toList, '\'')]

def stripTagsText (html : List Char) : List Char :=
  let html := sub hiddenAt [' '] 0 html
  let html := sub breakAt ['\n'] 0 html
  let html := sub blockAt ['\n'] 0 html
  let text := sub tagAt [' '] 0 html
  let text := decode '&' entities text
  let text := sub blanksAt [' '] 0 text
  sub linesAt ['\n', '\n'] 0 text

def stripTags (html : String) : String := strip (String.ofList (stripTagsText html.toList))

/-- A converter may be missing, and an installed one may raise. -/
def htmlToMarkdown (markdownify : Option (String → Option String)) (html : String) : String :=
  if strip html = "" then ""
  else
    match markdownify.bind fun convert => convert html with
    | some text => strip text
    | none => stripTags html

example : stripTags "<P>a&amp;b<br />c</p>\n\n\n<style>x</style >d</sTyLe><b>e  f</b>" = "a&b\nc\n\n e f" := by decide

/-! Text that has been escaped for a page. -/

def escapeChar : Char → List Char
  | '&' => "&amp;".toList
  | '<' => "&lt;".toList
  | '>' => "&gt;".toList
  | '"' => "&quot;".toList
  | '\'' => "&#39;".toList
  | char => [char]

def escape (text : String) : String := String.ofList (text.toList.flatMap escapeChar)

/-- The blanks are single ones, and there is one line. -/
structure SingleBlanks (text : List Char) : Prop where
  tabs : '\t' ∉ text
  lines : '\n' ∉ text
  single : ¬ [' ', ' '] <:+: text

/-- The entities that are replaced after the one for the ampersand. -/
def laterEntities : List String := ["&lt;", "&gt;", "&quot;", "&#39;"]

def visible (char : Char) : Bool := !isSpace char

variable {text : List Char} {matchAt : Matcher Char} {new : List Char}

theorem escapeChar_eq (char : Char) : escapeChar char = codeOf '&' entities.tail char := by
  unfold escapeChar
  split
  case h_6 amp lt gt quot apostrophe =>
      refine (codeOf_unlisted ?_).symm
      intro entry listed same
      simp only [entities, List.tail_cons, List.mem_cons, List.not_mem_nil, or_false] at listed
      rcases listed with rfl | rfl | rfl | rfl | rfl
      · exact amp same.symm
      · exact lt same.symm
      · exact gt same.symm
      · exact quot same.symm
      · exact apostrophe same.symm
  all_goals decide

theorem escape_eq : text.flatMap escapeChar = encode '&' entities.tail text :=
  congrArg text.flatMap (funext escapeChar_eq)

theorem separate_entities : Separate '&' entities.tail where
  words := by decide
  apart := by decide

theorem sub_untagged (opens : ∀ char rest, char ≠ '<' → matchAt char rest = none) (absent : '<' ∉ text) :
    sub matchAt new 0 text = text := by
  apply sub_same
  intro char rest more reached found
  have other : char ≠ '<' := by
    rintro rfl
    exact absent (reached.subset List.mem_cons_self)
  rw [opens char rest other] at found
  cases found

theorem escape_untagged : '<' ∉ text.flatMap escapeChar := by
  intro member
  obtain ⟨char, -, inside⟩ := List.mem_flatMap.mp member
  unfold escapeChar at inside
  split at inside
  case h_6 =>
      rw [List.mem_singleton] at inside
      exact absurd inside.symm ‹_›
  all_goals exact absurd inside (by decide)

theorem decode_escape : decode '&' entities (text.flatMap escapeChar) = decode '&' (entities.drop 2) text := by
  have kept : replace '&' "nbsp;".toList [' '] (encode '&' entities.tail text) = encode '&' entities.tail text :=
    replace_encode_foreign (by decide) (by decide) ⟨("amp;".toList, '&'), by decide, rfl⟩
  have whole : decode '&' entities (encode '&' entities.tail text) =
      decode '&' entities.tail (replace '&' "nbsp;".toList [' '] (encode '&' entities.tail text)) := rfl
  rw [escape_eq, whole, kept]
  exact decode_encode separate_entities rfl

theorem stripTagsText_escape : stripTagsText (text.flatMap escapeChar) =
    sub linesAt ['\n', '\n'] 0 (sub blanksAt [' '] 0 (decode '&' (entities.drop 2) text)) := by
  have untagged := @escape_untagged text
  have hidden : sub hiddenAt [' '] 0 (text.flatMap escapeChar) = text.flatMap escapeChar :=
    sub_untagged (fun _ _ other => if_neg other) untagged
  have breaks : sub breakAt ['\n'] 0 (text.flatMap escapeChar) = text.flatMap escapeChar :=
    sub_untagged (fun _ _ other => if_neg fun both => other both.1) untagged
  have blocks : sub blockAt ['\n'] 0 (text.flatMap escapeChar) = text.flatMap escapeChar :=
    sub_untagged (fun _ _ other => if_neg fun both => other both.1) untagged
  have tags : sub tagAt [' '] 0 (text.flatMap escapeChar) = text.flatMap escapeChar :=
    sub_untagged (fun _ _ other => if_neg fun both => other both.1) untagged
  unfold stripTagsText
  dsimp only
  rw [hidden, breaks, blocks, tags, decode_escape]

theorem sub_blanks (single : SingleBlanks text) : sub blanksAt [' '] 0 text = text := by
  apply sub_same
  intro char rest more reached found
  unfold blanksAt at found
  split at found
  next blank =>
    have space : char = ' ' := blank.resolve_right fun tab => single.tabs (reached.subset (tab ▸ List.mem_cons_self))
    have alone : rest.takeWhile (fun char => char = ' ' ∨ char = '\t') = [] := by
      cases rest with
      | nil => rfl
      | cons next others =>
          refine List.takeWhile_cons_of_neg ?_
          rw [decide_eq_true_eq]
          rintro (rfl | rfl)
          · exact single.single (space ▸ (List.prefix_append [char, ' '] others).isInfix.trans reached.isInfix)
          · exact single.tabs (reached.subset (List.mem_cons_of_mem _ List.mem_cons_self))
    rw [alone] at found
    cases found
    rw [space, List.length_nil, List.take_zero]
  next => cases found

theorem sub_lines (lines : '\n' ∉ text) : sub linesAt ['\n', '\n'] 0 text = text := by
  apply sub_same
  intro char rest more reached found
  unfold linesAt at found
  dsimp only at found
  split at found
  next first =>
    exact absurd (reached.subset (first.1 ▸ List.mem_cons_self)) lines
  next => cases found

theorem countP_strip (text : String) : (strip text).toList.countP visible = text.toList.countP visible := by
  have back : ∀ chars : List Char, (chars.rdropWhile isSpace).countP visible = chars.countP visible := by
    intro chars
    induction chars using List.reverseRecOn with
    | nil => rfl
    | append_singleton chars char ih =>
        by_cases space : isSpace char = true
        · rw [List.rdropWhile_concat_pos isSpace _ char space, ih, List.countP_append]
          simp [visible, space]
        · rw [List.rdropWhile_concat_neg isSpace _ char space]
  have front : ∀ chars : List Char, (chars.dropWhile isSpace).countP visible = chars.countP visible := by
    intro chars
    induction chars with
    | nil => rfl
    | cons char rest ih =>
        by_cases space : isSpace char = true
        · rw [List.dropWhile_cons_of_pos space, ih]
          simp [visible, space]
        · rw [List.dropWhile_cons_of_neg space]
  rw [strip, String.toList_ofList, back, front]

theorem shown_entity_lost {entity : String} (listed : entity ∈ laterEntities) (shown : entity.toList <:+: text) :
    (stripTagsText (text.flatMap escapeChar)).countP visible < text.countP visible := by
  have fewer : ∀ entry ∈ entities.drop 2, [entry.2].countP visible < ('&' :: entry.1).countP visible := by decide
  have occurs : ∃ entry ∈ entities.drop 2, '&' :: entry.1 <:+: text := by
    have names : laterEntities.map String.toList = (entities.drop 2).map fun entry => '&' :: entry.1 := by decide
    have member : entity.toList ∈ (entities.drop 2).map fun entry => '&' :: entry.1 :=
      names ▸ List.mem_map_of_mem listed
    obtain ⟨entry, known, same⟩ := List.mem_map.mp member
    exact ⟨entry, known, same ▸ shown⟩
  rw [stripTagsText_escape]
  calc
    _ ≤ (sub blanksAt [' '] 0 (decode '&' (entities.drop 2) text)).countP visible :=
        countP_sub_le visible fun _ _ _ _ => Nat.zero_le _
    _ ≤ (decode '&' (entities.drop 2) text).countP visible := countP_sub_le visible fun _ _ _ _ => Nat.zero_le _
    _ < text.countP visible := countP_decode_lt visible fewer occurs

/-- Escaped text comes back as it was unless it shows one of the later entities itself. -/
theorem stripTags_escape {text : String} (single : SingleBlanks text.toList) :
    stripTags (escape text) = strip text ↔ ∀ entity ∈ laterEntities, ¬ entity.toList <:+: text.toList := by
  rw [stripTags, escape, String.toList_ofList]
  constructor
  · intro same entity listed shown
    have lost := shown_entity_lost listed shown
    have counts := congrArg (fun text : String => text.toList.countP visible) same
    simp only [countP_strip, String.toList_ofList] at counts
    omega
  · intro absent
    have kept : decode '&' (entities.drop 2) text.toList = text.toList := by
      apply decode_absent
      intro entry listed
      simp only [entities, List.drop_succ_cons, List.drop_zero, List.mem_cons, List.not_mem_nil, or_false] at listed
      rcases listed with rfl | rfl | rfl | rfl
      · exact absent "&lt;" (by simp [laterEntities])
      · exact absent "&gt;" (by simp [laterEntities])
      · exact absent "&quot;" (by simp [laterEntities])
      · exact absent "&#39;" (by simp [laterEntities])
    rw [stripTagsText_escape, kept, sub_blanks single, sub_lines single.lines, String.ofList_toList]

theorem singleBlanks_ampersand : SingleBlanks " R&D <b> &nbsp; ".toList where
  tabs := by decide
  lines := by decide
  single := by decide

theorem stripTags_escape_ampersand : stripTags (escape " R&D <b> &nbsp; ") = "R&D <b> &nbsp;" :=
  (stripTags_escape singleBlanks_ampersand).mpr (by decide)

/-- A page that shows how a character is escaped is stored with the character. -/
theorem entity_decoded_twice : SingleBlanks "use &lt; here".toList ∧
    stripTags (escape "use &lt; here") = "use < here" ∧ strip "use &lt; here" = "use &lt; here" :=
  ⟨⟨by decide, by decide, by decide⟩, by decide, by decide⟩

end Dosm.Confluence.Html
