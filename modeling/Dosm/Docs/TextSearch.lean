import Dosm.Docs.Search
import Dosm.Python.Slices

namespace Dosm.Docs.TextSearch

open Models Python Search Like

/-! What a search by substring finds and shows.

The query goes into the pattern as it is, so its wildcards are wildcards. The snippet is cut
around the first word of the query that occurs, by its position in a lower-cased copy.
-/

/-- Letters of ASCII are compared without their case. -/
def Contains (needle text : String) : Prop := asciiLower needle <:+: asciiLower text

instance {needle text : String} : Decidable (Contains needle text) :=
  inferInstanceAs (Decidable (asciiLower needle <:+: asciiLower text))

def isWildcard (char : Char) : Bool := char = '%' || char = '_'

namespace CharTables

variable (tables : CharTables)

def terms (query : String) : List String :=
  (tables.words (tables.lowerText (strip query))).filter fun term => 2 ≤ term.length

def foldedLength (char : Char) : Nat := if char = 'Σ' then 1 else (tables.lower char).length

/-- The character whose lower case has a position of the lower-cased copy. -/
def origin : List Char → Nat → Nat
  | [], _ => 0
  | char :: rest, position =>
      if position < foldedLength tables char then 0 else origin rest (position - foldedLength tables char) + 1

/-- What a stretch of the lower-cased copy was made of. -/
def occurrence (text : String) (position length : Nat) : String :=
  slice (origin tables text.toList position) (origin tables text.toList (position + length - 1) + 1) text

def Aligned (text : String) : Prop := ∀ char ∈ text.toList, foldedLength tables char = 1

end CharTables

open CharTables

section Search

variable {Score : Type} (engine : Engine Score) (db : IndexedDocs) (query : String) (limit : Nat)
  (excludeOrg : Bool) (tid : Option Int)

abbrev Joined := DocChunk × Document

def inScopeRows : List Joined := (joined db).filter fun row => inScope excludeOrg tid row.2

def containing : List Joined :=
  (inScopeRows db excludeOrg tid).filter fun row => Contains query row.1.text || Contains query row.2.relPath

/-- The rows whose text or path matches the query with anything around it. -/
def matching : List Joined :=
  (inScopeRows db excludeOrg tid).filter fun row =>
    like row.1.text ("%" ++ query ++ "%") || like row.2.relPath ("%" ++ query ++ "%")

def shown (text : String) (term : String) (position : Nat) : Prop :=
  (occurrence engine.chars text position term.length).toList <:+: (snippet engine.chars text query).toList

/-- Every word of the query that occurs is in the snippet. -/
def ShowsEvery (text : String) : Prop :=
  ∀ term ∈ terms engine.chars query, term.length ≤ 120 → ∀ position,
    find term (engine.chars.lowerText text) 0 = some position → shown engine query text term position

/-- The first word of the query that occurs is in the snippet, if the copy keeps the positions. -/
def ShowsFirst (text : String) : Prop :=
  Aligned engine.chars text → ∀ term position,
    (terms engine.chars query).find? (fun term => (find term (engine.chars.lowerText text) 0).isSome) = some term →
    term.length ≤ 120 → find term (engine.chars.lowerText text) 0 = some position → shown engine query text term position

/-- As many hits as there are candidates, up to the limit, with snippets that show something. -/
def Answers (candidates : List Joined) (shows : String → Prop) (hits : List (SearchHit Score)) : Prop :=
  ∃ chosen rest : List Joined, (chosen ++ rest).Perm candidates ∧
    hits = chosen.map (fun row => hit engine query row engine.ranking.one "like") ∧
    chosen.length = min limit candidates.length ∧ ∀ row ∈ chosen, shows row.1.text

/-- Hits match the query as a pattern, which every row that has the query in it does, and without wildcards no
other; the snippets are cut around the first word that occurs. -/
structure FindsText (hits : List (SearchHit Score)) : Prop where
  answers : Answers engine query limit (matching db query excludeOrg tid) (ShowsFirst engine query) hits
  included : (containing db query excludeOrg tid).Sublist (matching db query excludeOrg tid)
  plain : (∀ char ∈ query.toList, isWildcard char = false) →
    matching db query excludeOrg tid = containing db query excludeOrg tid

end Search

section Wildcards

variable {text needle : String} {chars rest : List Char} {char : Char}

theorem eq_of_toLower {folded : Char} (plain : folded.isLower = false) (same : char.toLower = folded) : char = folded := by
  cases capital : char.isUpper with
  | false => rwa [toLower_of_not_capital capital] at same
  | true => exact absurd ((congrArg Char.isLower same).symm.trans (isLower_toLower capital)) (by simp [plain])

theorem matchGlob_plain (plain : ∀ char ∈ chars, isWildcard char = false) :
    matchGlob (chars.map item ++ [.star]) rest = true ↔ chars <+: rest := by
  induction chars generalizing rest with
  | nil =>
      refine iff_of_true ?_ List.nil_prefix
      have matched := @matchGlob_items [] rest
      rwa [List.nil_append] at matched
  | cons char chars ih =>
      have later := @ih rest.tail fun other member => plain other (List.mem_cons_of_mem _ member)
      have literal : item char = .literal char := by
        have wild := plain char List.mem_cons_self
        unfold item
        split
        · cases wild
        · cases wild
        · rfl
      rw [List.map_cons, List.cons_append, literal]
      cases rest with
      | nil => simp [matchGlob]
      | cons head tail =>
          rw [matchGlob, Glob.admits, Bool.and_eq_true, decide_eq_true_eq, List.cons_prefix_cons, eq_comm]
          · exact and_congr_right fun _ => later
          · simp

theorem asciiLower_plain (plain : ∀ char ∈ needle.toList, isWildcard char = false) :
    ∀ char ∈ asciiLower needle, isWildcard char = false := by
  intro char member
  obtain ⟨original, isOriginal, rfl⟩ := List.mem_map.mp member
  have wild := plain original isOriginal
  simp only [isWildcard, Bool.or_eq_false_iff, decide_eq_false_iff_not] at wild ⊢
  exact ⟨fun same => wild.1 (eq_of_toLower (by decide) same), fun same => wild.2 (eq_of_toLower (by decide) same)⟩

theorem like_of_contains (contains : Contains needle text) : like text ("%" ++ needle ++ "%") = true := by
  obtain ⟨before, after, split⟩ := contains
  have spelled : (asciiLower ("%" ++ needle ++ "%")).map item = .star :: ((asciiLower needle).map item ++ [.star]) := by
    simp [asciiLower, item]
  simp only [like, spelled, matchGlob, List.any_eq_true]
  refine ⟨asciiLower needle ++ after, (List.mem_tails _ _).mpr ?_, matchGlob_items⟩
  rw [← split, List.append_assoc]
  exact List.suffix_append _ _

theorem like_iff_contains (plain : ∀ char ∈ needle.toList, isWildcard char = false) :
    like text ("%" ++ needle ++ "%") = true ↔ Contains needle text := by
  refine ⟨fun matched => ?_, like_of_contains⟩
  have spelled : (asciiLower ("%" ++ needle ++ "%")).map item = .star :: ((asciiLower needle).map item ++ [.star]) := by
    simp [asciiLower, item]
  simp only [like, spelled, matchGlob, List.any_eq_true] at matched
  obtain ⟨tail, suffix, spells⟩ := matched
  have start := (matchGlob_plain (asciiLower_plain plain)).mp spells
  exact start.isInfix.trans ((List.mem_tails _ _).mp suffix).isInfix

end Wildcards

section Snippets

variable {tables : CharTables} {text query term : String} {chars reversed : List Char} {position index : Nat} {char : Char}

theorem origin_aligned (aligned : ∀ char ∈ chars, foldedLength tables char = 1) (within : position < chars.length) :
    origin tables chars position = position := by
  induction chars generalizing position with
  | nil => cases within
  | cons char rest ih =>
      rw [origin, aligned char List.mem_cons_self]
      cases position with
      | zero => rfl
      | succ position =>
          rw [if_neg (by omega), Nat.add_sub_cancel,
            ih (fun other member => aligned other (List.mem_cons_of_mem _ member)) (Nat.lt_of_succ_lt_succ within)]

theorem lowerAfter_aligned (aligned : ∀ char ∈ chars, foldedLength tables char = 1) :
    (tables.lowerAfter reversed chars).length = chars.length ∧
      ∀ (index : Nat) (char : Char), chars[index]? = some char → isSpace char = true →
        ∃ folded, (tables.lowerAfter reversed chars)[index]? = some folded ∧ tables.word folded = false := by
  induction chars generalizing reversed with
  | nil => exact ⟨rfl, fun index char found => by cases found⟩
  | cons first rest ih =>
      have one := aligned first List.mem_cons_self
      obtain ⟨length, later⟩ := @ih (first :: reversed) fun other member => aligned other (List.mem_cons_of_mem _ member)
      obtain ⟨folded, single⟩ : ∃ folded, (if first = 'Σ' then
          [if tables.finalSigma reversed rest then 'ς' else 'σ'] else tables.lower first) = [folded] := by
        unfold foldedLength at one
        split
        · exact ⟨_, rfl⟩
        next plain => exact List.length_eq_one_iff.mp (by rwa [if_neg plain] at one)
      rw [CaseTables.lowerAfter, single, List.singleton_append]
      refine ⟨by rw [List.length_cons, length, List.length_cons], fun index char found space => ?_⟩
      cases index with
      | zero =>
          cases found
          refine ⟨folded, rfl, tables.space first space folded ?_⟩
          have plain : first ≠ 'Σ' := by
            rintro rfl
            cases space
          rw [if_neg plain] at single
          rw [single]
          exact List.mem_singleton_self _
      | succ index => exact later index char found space

theorem findSome_of_find {Item Result : Type} {items : List Item} {search : Item → Option Result} {item : Item}
    {result : Result} (first : items.find? (fun item => (search item).isSome) = some item)
    (found : search item = some result) : items.findSome? search = some result := by
  induction items with
  | nil => cases first
  | cons head rest ih =>
      cases here : search head with
      | none =>
          rw [List.findSome?_cons_of_isNone (by simp [here])]
          rw [List.find?_cons_of_neg (by simp [here])] at first
          exact ih first
      | some other =>
          rw [List.find?_cons_of_pos (by simp [here])] at first
          cases first
          rw [List.findSome?_cons_of_isSome (by simp [here]), found]

theorem snippet_centred
    (found : (terms tables query).findSome? (fun term => find term (tables.lowerText text) 0) = some position) :
    snippet tables text query = (if position - 120 > 0 then "…" else "") ++
      strip (slice (position - 120) (min text.length (position + 120)) text) ++
      (if min text.length (position + 120) < text.length then "…" else "") := by
  unfold terms at found
  unfold snippet
  dsimp only
  rw [found]
  rfl

theorem snippet_opening (long : 120 < text.length)
    (found : (terms tables query).findSome? (fun term => find term (tables.lowerText text) 0) = some 0) :
    snippet tables text query = "" ++ strip (slice 0 120 text) ++ "…" := by
  have start : 0 - 120 = 0 := rfl
  have stop : min text.length (0 + 120) = 120 := by omega
  rw [snippet_centred found, start, stop, if_neg (Nat.lt_irrefl 0), if_pos long]

theorem word_of_terms (member : term ∈ terms tables query) (inside : char ∈ term.toList) : tables.word char = true := by
  obtain ⟨isWord, _⟩ := List.mem_filter.mp member
  obtain ⟨piece, split, rfl⟩ := List.mem_map.mp isWord
  rw [String.toList_ofList] at inside
  simpa using not_of_mem_splitOnP (List.mem_filter.mp split).1 char inside

theorem snippet_shows (aligned : Aligned tables text)
    (first : (terms tables query).find? (fun term => (find term (tables.lowerText text) 0).isSome) = some term)
    (short : term.length ≤ 120) (found : find term (tables.lowerText text) 0 = some position) :
    (occurrence tables text position term.length).toList <:+: (snippet tables text query).toList := by
  have member : term ∈ terms tables query := List.mem_of_find?_eq_some first
  have long : 2 ≤ term.length := of_decide_eq_true (List.mem_filter.mp member).2
  obtain ⟨length, spaces⟩ := @lowerAfter_aligned tables text.toList [] aligned
  obtain ⟨before, after, split, place, _⟩ := findIn_some found
  rw [Nat.zero_add] at place
  have copy : tables.lowerAfter [] text.toList = before ++ term.toList ++ after := by
    rw [← split, CaseTables.lowerText, String.toList_ofList, List.drop_zero]
  have within : position + term.length ≤ text.toList.length := by
    rw [← length, copy, place]
    simp only [List.length_append, String.length_toList]
    omega
  have cut : (occurrence tables text position term.length).toList =
      (text.toList.take (position + term.length)).drop position := by
    rw [occurrence, origin_aligned aligned (by omega), origin_aligned aligned (by omega), slice, String.toList_ofList,
      Nat.sub_add_cancel (by omega)]
  have visible : ∀ char ∈ (text.toList.take (position + term.length)).drop position, isSpace char = false := by
    intro char inside
    obtain ⟨offset, isChar⟩ := List.mem_iff_getElem?.mp inside
    rw [List.getElem?_drop, List.getElem?_take] at isChar
    split at isChar
    next bounded =>
      by_contra space
      obtain ⟨folded, isFolded, plain⟩ := spaces _ _ isChar (by simpa using space)
      rw [copy, List.append_assoc, List.getElem?_append_right (by omega), List.getElem?_append_left (by
        rw [String.length_toList]; omega)] at isFolded
      rw [word_of_terms member (List.mem_of_getElem? isFolded)] at plain
      cases plain
    · cases isChar
  have window : (text.toList.take (position + term.length)).drop position <:+:
      (slice (position - 120) (min text.length (position + 120)) text).toList := by
    rw [slice, String.toList_ofList]
    have size : text.toList.length = text.length := String.length_toList
    exact infix_slice (Nat.sub_le ..) (by omega)
  rw [cut, snippet_centred (findSome_of_find first found), String.toList_append, String.toList_append]
  exact (infix_strip window visible).trans ⟨_, _, rfl⟩

end Snippets

section Claim

variable {Score : Type} {engine : Engine Score} {db : IndexedDocs} {query : String} {limit : Nat}
  {excludeOrg : Bool} {tid : Option Int}

theorem matching_plain (plain : ∀ char ∈ query.toList, isWildcard char = false) :
    matching db query excludeOrg tid = containing db query excludeOrg tid := by
  refine List.filter_congr fun row _ => ?_
  rw [Bool.eq_iff_iff]
  simp only [Bool.or_eq_true, decide_eq_true_eq, like_iff_contains plain]

theorem containing_sublist : (containing db query excludeOrg tid).Sublist (matching db query excludeOrg tid) := by
  refine List.monotone_filter_right _ fun row found => ?_
  simp only [Bool.or_eq_true, decide_eq_true_eq] at found ⊢
  exact found.imp like_of_contains like_of_contains

end Claim

def plainEngine : Engine Nat where
  chars := asciiTables
  scan := { order := id, perm := fun _ => .refl _ }
  ranking := { one := 1, dot := fun _ _ => 0, argsort := fun scores => List.range scores.length, format := toString }
  embedder := none

def note (id : Int) : Document where
  id
  tenantId := 1
  relPath := "note.md"
  sha256 := ""
  sizeBytes := 0
  modifiedAt := 0
  indexedAt := none
  status := .indexed
  error := none
  chunkCount := 1
  title := none
  folderId := none
  frontmatterTitle := none

def noteWith (text : String) : IndexedDocs where
  documents := Table.empty.insert note
  chunks := [⟨1, 0, text, 0, 0, none⟩]

theorem foldedLength_ascii {char : Char} : foldedLength asciiTables char = 1 := by
  unfold foldedLength
  split <;> rfl

def farLetters : List Char := 'a' :: 'a' :: (List.replicate 116 '-' ++ ['a', 'a', ' ', 'b', 'b'])

def farPhrase : String := String.ofList farLetters

theorem lowerText_farPhrase : (asciiTables.lowerText farPhrase).toList = farLetters := by
  rw [CaseTables.lowerText, String.toList_ofList, farPhrase, String.toList_ofList]
  decide +kernel

theorem snippet_farPhrase : snippet asciiTables farPhrase "aa bb" = "" ++ strip (slice 0 120 farPhrase) ++ "…" := by
  have words : terms asciiTables "aa bb" = ["aa", "bb"] := by decide
  have first : find "aa" (asciiTables.lowerText farPhrase) 0 = some 0 := by
    rw [find, lowerText_farPhrase]
    rfl
  have long : 120 < farPhrase.length := by
    rw [farPhrase, String.length_ofList]
    simp [farLetters]
  have found : (terms asciiTables "aa bb").findSome? (fun term => find term (asciiTables.lowerText farPhrase) 0) =
      some 0 := by
    rw [words]
    exact (List.findSome?_cons_of_isSome (by simp [first])).trans first
  exact snippet_opening long found

theorem find_farPhrase : find "bb" (asciiTables.lowerText farPhrase) 0 = some 121 := by
  have passed := @findIn_skip ['b'] ('a' :: 'a' :: (List.replicate 116 '-' ++ ['a', 'a', ' '])) ['b', 'b'] 0 'b' (by simp)
  rw [find, lowerText_farPhrase]
  refine Eq.trans ?_ (passed.trans ?_)
  · simp [farLetters]
  · simp [findIn]

end Dosm.Docs.TextSearch
