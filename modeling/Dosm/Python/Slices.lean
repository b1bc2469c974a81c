import Dosm.Python.Text
import Mathlib.Data.List.Infix

namespace Dosm.Python

/-! Slices and searches with bounds of any sign, as sequences of the source language
take them.
-/

/-- The position a bound of a slice stands for: a negative one counts from the end. -/
def sliceIndex (length : Nat) (index : Int) : Nat :=
  if index < 0 then (length + index).toNat else min index.toNat length

/-- `chars[start:stop]`. -/
def sliceBetween (start stop : Int) (chars : List Char) : List Char :=
  (chars.take (sliceIndex chars.length stop)).drop (sliceIndex chars.length start)

/-- `str.rfind` with bounds; `none` is the source's -1. -/
def rfind (needle chars : List Char) (start stop : Int) : Option Nat :=
  (List.range (chars.length + 1)).reverse.find? fun index =>
    sliceIndex chars.length start ≤ index && index + needle.length ≤ sliceIndex chars.length stop &&
      needle.isPrefixOf (chars.drop index)

/-- `needle in text`. -/
def contains (needle text : String) : Bool := decide (needle.toList <:+: text.toList)

example : rfind "b".toList "abcab".toList 0 5 = some 4 ∧ rfind "ab".toList "abcab".toList 0 (-1) = some 0 ∧
    rfind "a".toList "abcab".toList (-1) 5 = none := by decide

variable {length index : Nat} {bound start stop : Int} {chars needle : List Char} {char : Char}

theorem sliceIndex_of_nonneg (nonneg : 0 ≤ bound) (within : bound ≤ length) :
    (sliceIndex length bound : Int) = bound := by
  unfold sliceIndex
  split <;> omega

theorem le_of_sliceIndex_le (lower : sliceIndex length bound ≤ index) (within : index < length) :
    bound ≤ index := by
  unfold sliceIndex at lower
  split at lower <;> omega

theorem sliceIndex_lt (nonempty : 0 < length) (before : bound < length) : sliceIndex length bound < length := by
  unfold sliceIndex
  split <;> omega

theorem rfind_bounds (found : rfind needle chars start stop = some index) :
    sliceIndex chars.length start ≤ index ∧ index + needle.length ≤ sliceIndex chars.length stop := by
  have meets := List.find?_some found
  simp only [Bool.and_eq_true, decide_eq_true_eq] at meets
  exact meets.1

theorem sliceBetween_length (nonneg : 0 ≤ start) (within : stop ≤ chars.length) (ordered : start ≤ stop) :
    ((sliceBetween start stop chars).length : Int) = stop - start := by
  have first : (sliceIndex chars.length start : Int) = start := sliceIndex_of_nonneg nonneg (by omega)
  have last : (sliceIndex chars.length stop : Int) = stop := sliceIndex_of_nonneg (by omega) within
  simp only [sliceBetween, List.length_drop, List.length_take]
  omega

theorem mem_sliceBetween (placed : chars[index]? = some char) (lower : sliceIndex chars.length start ≤ index)
    (upper : index < sliceIndex chars.length stop) : char ∈ sliceBetween start stop chars := by
  apply List.mem_of_getElem? (i := index - sliceIndex chars.length start)
  rw [sliceBetween, List.getElem?_drop, List.getElem?_take, if_pos (by omega)]
  rw [Nat.add_sub_cancel' lower]
  exact placed

theorem strip_eq_empty_iff {text : String} : strip text = "" ↔ ∀ char ∈ text.toList, isSpace char = true := by
  rw [strip, ← String.toList_inj, String.toList_ofList, String.toList_empty, List.rdropWhile_eq_nil_iff]
  constructor
  · intro blank
    have nothing : text.toList.dropWhile isSpace = [] := by
      by_contra nonempty
      have visible := List.head_dropWhile_not isSpace nonempty
      rw [blank _ (List.head_mem nonempty)] at visible
      cases visible
    exact List.dropWhile_eq_nil_iff.mp nothing
  · intro blank char member
    exact blank char ((List.dropWhile_sublist _).mem member)

theorem strip_length_le {text : String} : (strip text).length ≤ text.length := by
  rw [strip, ← String.length_toList, String.toList_ofList, ← String.length_toList]
  exact (((List.rdropWhile_prefix _ _).sublist).trans (List.dropWhile_sublist _)).length_le

theorem infix_separated {left right : List Char} (absent : char ∉ needle) :
    needle <:+: left ++ char :: right ↔ needle <:+: left ∨ needle <:+: right := by
  constructor
  · rintro ⟨before, after, split⟩
    rcases List.append_eq_append_iff.mp split with ⟨rest, inLeft, _⟩ | ⟨rest, outside, tail⟩
    · left
      exact ⟨before, rest, inLeft.symm⟩
    · cases rest with
      | nil =>
          left
          exact ⟨before, [], by simpa using outside⟩
      | cons first rest =>
          obtain ⟨rfl, rfl⟩ := List.cons.inj tail
          rcases List.append_eq_append_iff.mp outside with ⟨crossed, _, inside⟩ | ⟨skipped, _, later⟩
          · exact absurd (by rw [inside]; simp) absent
          · cases skipped with
            | nil => exact absurd (by rw [show needle = char :: rest from later.symm]; exact List.mem_cons_self) absent
            | cons second skipped =>
                right
                obtain ⟨rfl, rfl⟩ := List.cons.inj later
                exact ⟨skipped, after, rfl⟩
  · rintro (inLeft | inRight)
    · exact inLeft.trans (List.prefix_append _ _).isInfix
    · exact inRight.trans ((List.suffix_cons _ _).trans (List.suffix_append _ _)).isInfix

theorem contains_separated {needle left right : String} (absent : char ∉ needle.toList) :
    contains needle (left ++ String.singleton char ++ right) = (contains needle left || contains needle right) := by
  have split : needle.toList <:+: left.toList ++ char :: right.toList ↔ _ := infix_separated absent
  simp only [contains, String.toList_append, String.toList_singleton, List.append_assoc, List.singleton_append, split,
    Bool.decide_or]

theorem contains_eq_false {needle text : String} (required : char ∈ needle.toList) (absent : char ∉ text.toList) :
    contains needle text = false := by
  rw [contains, decide_eq_false_iff_not]
  exact fun found => absent (found.subset required)

section Search

variable {needle chars before after : List Char} {index stop : Nat}

theorem findIn_some (found : findIn needle index chars = some stop) :
    ∃ before after, chars = before ++ needle ++ after ∧ stop = index + before.length ∧
      ∀ earlier later, chars = earlier ++ needle ++ later → before.length ≤ earlier.length := by
  induction chars generalizing index with
  | nil =>
      rw [findIn] at found
      split at found
      next empty =>
        rw [List.isEmpty_iff.mp empty]
        cases found
        exact ⟨[], [], rfl, rfl, fun _ _ _ => Nat.zero_le _⟩
      next => cases found
  | cons char rest ih =>
      rw [findIn] at found
      split at found
      next here =>
        cases found
        obtain ⟨after, split⟩ := List.isPrefixOf_iff_prefix.mp here
        exact ⟨[], after, split.symm, rfl, fun _ _ _ => Nat.zero_le _⟩
      next elsewhere =>
        obtain ⟨before, after, split, place, first⟩ := ih found
        refine ⟨char :: before, after, by rw [split]; rfl, by rw [place, List.length_cons]; omega, ?_⟩
        intro earlier later same
        cases earlier with
        | nil => exact absurd (List.isPrefixOf_iff_prefix.mpr ⟨later, same.symm⟩) elsewhere
        | cons other earlier =>
            have tail := first earlier later (List.cons.inj same).2
            simp only [List.length_cons]
            omega

theorem findIn_skip {first : Char} (apart : first ∉ before) :
    findIn (first :: needle) index (before ++ after) = findIn (first :: needle) (index + before.length) after := by
  induction before generalizing index with
  | nil => rfl
  | cons char before ih =>
      simp only [List.mem_cons, not_or] at apart
      rw [List.cons_append, findIn, if_neg, ih apart.2, List.length_cons]
      · congr 1
        omega
      · simp [apart.1]

theorem findIn_none (missing : findIn needle index chars = none) : chars ≠ before ++ needle ++ after := by
  induction chars generalizing index before with
  | nil =>
      intro same
      obtain ⟨_, empty, _⟩ : before = [] ∧ needle = [] ∧ after = [] := by simpa using same.symm
      simp [findIn, empty] at missing
  | cons char rest ih =>
      intro same
      rw [findIn] at missing
      split at missing
      · cases missing
      next elsewhere =>
        cases before with
        | nil => exact elsewhere (List.isPrefixOf_iff_prefix.mpr ⟨after, same.symm⟩)
        | cons other before => exact ih missing (List.cons.inj same).2

end Search

section Infixes

variable {Item : Type} {condition : Item → Bool} {piece items : List Item}

theorem infix_dropWhile (inside : piece <:+: items) (kept : ∀ item ∈ piece, condition item = false) :
    piece <:+: items.dropWhile condition := by
  induction items with
  | nil => exact inside
  | cons item rest ih =>
      cases dropped : condition item with
      | false => rwa [List.dropWhile_cons_of_neg (by simp [dropped])]
      | true =>
          rw [List.dropWhile_cons_of_pos dropped]
          rcases List.infix_cons_iff.mp inside with start | later
          · cases piece with
            | nil => exact List.nil_infix
            | cons first others =>
                have same : first = item := (List.cons_prefix_cons.mp start).1
                exact absurd ((kept first List.mem_cons_self).symm.trans (same ▸ dropped)) Bool.false_ne_true
          · exact ih later

theorem infix_strip {text : String} {piece : List Char} (inside : piece <:+: text.toList)
    (visible : ∀ char ∈ piece, isSpace char = false) : piece <:+: (strip text).toList := by
  rw [strip, String.toList_ofList, List.rdropWhile, ← List.reverse_infix, List.reverse_reverse]
  refine infix_dropWhile (List.reverse_infix.mpr (infix_dropWhile inside visible)) fun char member => ?_
  exact visible char (List.mem_reverse.mp member)

theorem mem_of_mem_strip {text : String} {char : Char} (member : char ∈ (strip text).toList) : char ∈ text.toList := by
  rw [strip, String.toList_ofList] at member
  exact (List.dropWhile_sublist _).subset ((List.rdropWhile_prefix _ _).subset member)

theorem infix_slice {start stop first last : Nat} (lower : first ≤ start) (upper : stop ≤ last) :
    (items.take stop).drop start <:+: (items.take last).drop first := by
  have narrower : (items.take stop).drop start = (((items.take last).drop first).take (stop - first)).drop (start - first) := by
    rw [List.take_drop, List.drop_drop, Nat.add_sub_cancel' lower]
    by_cases within : first ≤ stop
    · rw [Nat.add_sub_cancel' within, List.take_take, Nat.min_eq_left upper]
    · rw [List.drop_eq_nil_of_le, List.drop_eq_nil_of_le] <;> simp only [List.length_take] <;> omega
  rw [narrower]
  exact (List.drop_suffix _ _).isInfix.trans (List.take_prefix _ _).isInfix

theorem splitOn_sublist {separator : Char} {chars piece : List Char} (member : piece ∈ chars.splitOn separator) :
    piece.Sublist chars := by
  induction chars generalizing piece with
  | nil =>
      rw [List.splitOn_nil, List.mem_singleton] at member
      rw [member]
  | cons char rest ih =>
      rw [List.splitOn_cons_eq_if_modifyHead] at member
      split at member
      · rcases List.mem_cons.mp member with rfl | later
        · exact List.nil_sublist _
        · exact (ih later).cons char
      · cases pieces : rest.splitOn separator with
        | nil => exact absurd pieces (List.splitOn_ne_nil separator rest)
        | cons first others =>
            rw [pieces, List.modifyHead_cons] at member
            rw [pieces] at ih
            rcases List.mem_cons.mp member with rfl | later
            · exact (ih List.mem_cons_self).cons_cons char
            · exact (ih (List.mem_cons_of_mem first later)).cons char

theorem mem_intercalate {Item : Type} {separator : List Item} {pieces : List (List Item)} {item : Item}
    (member : item ∈ separator.intercalate pieces) : item ∈ separator ∨ ∃ piece ∈ pieces, item ∈ piece := by
  induction pieces with
  | nil => cases member
  | cons first rest ih =>
      cases rest with
      | nil => exact .inr ⟨first, List.mem_cons_self, by simpa using member⟩
      | cons second rest =>
          rw [List.intercalate_cons_cons, List.mem_append, List.mem_append] at member
          rcases member with (inFirst | between) | later
          · exact .inr ⟨first, List.mem_cons_self, inFirst⟩
          · exact .inl between
          · rcases ih later with between | ⟨piece, listed, inside⟩
            · exact .inl between
            · exact .inr ⟨piece, List.mem_cons_of_mem _ listed, inside⟩

theorem mem_linesAfter {chars begun piece : List Char} (started : ∀ char ∈ begun, isLineBreak char = false)
    (member : piece ∈ linesAfter begun chars) :
    ∀ char ∈ piece, isLineBreak char = false := by
  have turned : ∀ char ∈ begun.reverse, isLineBreak char = false := fun char inside => started char (List.mem_reverse.mp inside)
  fun_induction linesAfter begun chars with
  | case1 begun empty => cases member
  | case2 begun nonempty =>
      rw [List.mem_singleton.mp member]
      exact turned
  | case3 begun rest ih =>
      rcases List.mem_cons.mp member with rfl | later
      · exact turned
      · exact ih nofun later nofun
  | case4 begun char rest apart breaks ih =>
      rcases List.mem_cons.mp member with rfl | later
      · exact turned
      · exact ih nofun later nofun
  | case5 begun char rest apart goes ih =>
      have extended : ∀ other ∈ char :: begun, isLineBreak other = false := by
        intro other inside
        rcases List.mem_cons.mp inside with rfl | before
        · simpa using goes
        · exact started other before
      exact ih extended member fun other inside => extended other (List.mem_reverse.mp inside)

theorem not_of_mem_splitOnP (member : piece ∈ items.splitOnP condition) : ∀ item ∈ piece, condition item = false := by
  induction items generalizing piece with
  | nil =>
      rw [List.splitOnP_nil, List.mem_singleton] at member
      simp [member]
  | cons first rest ih =>
      rw [List.splitOnP_cons_eq_if_modifyHead] at member
      split at member
      · rcases List.mem_cons.mp member with rfl | later
        · simp
        · exact ih later
      next kept =>
        obtain ⟨head, others, split⟩ := List.exists_cons_of_ne_nil (List.splitOnP_ne_nil condition rest)
        rw [split] at ih member
        rcases List.mem_cons.mp member with rfl | later
        · intro item inside
          rcases List.mem_cons.mp inside with rfl | tail
          · simpa using kept
          · exact ih List.mem_cons_self item tail
        · exact ih (List.mem_cons_of_mem _ later)

end Infixes

end Dosm.Python
