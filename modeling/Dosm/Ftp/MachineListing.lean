import Dosm.Ftp.Replies
import Dosm.Python.Slices

namespace Dosm.Ftp

open Python

/-! Which machine listings are read as they were written.

A name may hold any characters but the two that end its line. Where the source language
ends a line as well, the entry is cut there and what follows is read as a line of its own.
-/

structure EntryName where
  text : String
  named : text ≠ ""
  plain : '\r' ∉ text.toList ∧ '\n' ∉ text.toList

structure ListedTime where
  text : String
  plain : ∀ char ∈ text.toList, (isAsciiDigit char || char = '.') = true

structure ListedEntry where
  name : EntryName
  isDir : Bool
  size : Option Nat
  modify : Option ListedTime
  fileSize : isDir = true → size = none

def ListedEntry.remote (entry : ListedEntry) : RemoteEntry where
  name := entry.name.text
  isDir := entry.isDir
  size := entry.size
  modify := entry.modify.map ListedTime.text

/-- A line of the listing: an entry, or the directory itself or its parent. -/
inductive ListingLine where
  | entry (listed : ListedEntry)
  | own (parent : Bool) (modify : Option ListedTime) (name : EntryName)

namespace ListingLine

def name : ListingLine → EntryName
  | .entry listed => listed.name
  | .own _ _ name => name

def typ : ListingLine → String
  | .entry listed => if listed.isDir then "dir" else "file"
  | .own parent _ _ => if parent then "pdir" else "cdir"

def size : ListingLine → Option Nat
  | .entry listed => listed.size
  | .own .. => none

def modify : ListingLine → Option ListedTime
  | .entry listed => listed.modify
  | .own _ modify _ => modify

def entries : ListingLine → List RemoteEntry
  | .entry listed => [listed.remote]
  | .own .. => []

def facts (line : ListingLine) : List (String × String) :=
  ("type", line.typ) :: (line.size.toList.map fun size => ("size", toString size)) ++
    line.modify.toList.map fun modify => ("modify", modify.text)

end ListingLine

def renderFact (fact : String × String) : List Char := fact.1.toList ++ '=' :: (fact.2.toList ++ [';'])

def ListingLine.chars (line : ListingLine) : List Char :=
  line.facts.flatMap renderFact ++ ' ' :: line.name.text.toList

def lineEnd : List Char := ['\r', '\n']

def renderListing (lines : List ListingLine) : List UInt8 :=
  Utf8.encode (lines.flatMap fun line => line.chars ++ lineEnd)

section Lines

variable {chars begun rest piece : List Char}

theorem linesAfter_lineEnd (plain : '\r' ∉ chars) :
    linesAfter begun (chars ++ lineEnd ++ rest) = linesAfter begun (chars ++ lineEnd) ++ linesAfter [] rest := by
  induction chars generalizing begun with
  | nil => simp [lineEnd, linesAfter]
  | cons char chars ih =>
      rw [List.mem_cons, not_or] at plain
      have apart : ∀ tail, char = '\r' → chars ++ lineEnd ++ rest = '\n' :: tail → False := fun _ same => absurd same.symm plain.1
      have apart' : ∀ tail, char = '\r' → chars ++ lineEnd = '\n' :: tail → False := fun _ same => absurd same.symm plain.1
      rw [List.cons_append, List.cons_append, linesAfter, linesAfter]
      · split
        · rw [ih plain.2, List.cons_append]
        · exact ih plain.2
      · exact apart'
      · exact apart

theorem linesAfter_begun (plain : '\r' ∉ chars) :
    ∃ first later, linesAfter [] (chars ++ lineEnd) = first :: later ∧
      ∀ begun, linesAfter begun (chars ++ lineEnd) = (begun.reverse ++ first) :: later := by
  induction chars with
  | nil => exact ⟨[], [], rfl, fun begun => by simp [lineEnd, linesAfter]⟩
  | cons char chars ih =>
      rw [List.mem_cons, not_or] at plain
      have step (begun : List Char) : linesAfter begun (char :: chars ++ lineEnd) =
          if isLineBreak char then begun.reverse :: linesAfter [] (chars ++ lineEnd)
          else linesAfter (char :: begun) (chars ++ lineEnd) := by
        rw [List.cons_append, linesAfter]
        exact fun _ same => absurd same.symm plain.1
      obtain ⟨first, later, found, whole⟩ := ih plain.2
      cases breaks : isLineBreak char with
      | true =>
          refine ⟨[], linesAfter [] (chars ++ lineEnd), ?_, fun begun => ?_⟩
          · rw [step, if_pos breaks]
            rfl
          · rw [step, if_pos breaks, List.append_nil]
      | false =>
          refine ⟨char :: first, later, ?_, fun begun => ?_⟩
          · rw [step, breaks, if_neg Bool.false_ne_true, whole]
            rfl
          · rw [step, breaks, if_neg Bool.false_ne_true, whole, List.reverse_cons, List.append_assoc]
            rfl

theorem linesAfter_plain (plain : ∀ char ∈ chars, isLineBreak char = false) :
    linesAfter begun (chars ++ lineEnd ++ rest) = (begun.reverse ++ chars) :: linesAfter [] rest := by
  induction chars generalizing begun with
  | nil => simp [lineEnd, linesAfter]
  | cons char chars ih =>
      have same := plain char List.mem_cons_self
      rw [List.cons_append, List.cons_append, linesAfter, same, if_neg Bool.false_ne_true,
        ih fun other member => plain other (List.mem_cons_of_mem _ member), List.reverse_cons, List.append_assoc]
      · rfl
      · rintro tail rfl
        cases same

theorem linesAfter_front {front : List Char} (plain : ∀ char ∈ front, isLineBreak char = false) :
    linesAfter begun (front ++ chars) = linesAfter (front.reverse ++ begun) chars := by
  induction front generalizing begun with
  | nil => rfl
  | cons char front ih =>
      have same := plain char List.mem_cons_self
      rw [List.cons_append, linesAfter, same, if_neg Bool.false_ne_true,
        ih fun other member => plain other (List.mem_cons_of_mem _ member), List.reverse_cons, List.append_assoc]
      · rfl
      · rintro tail rfl
        cases same

end Lines

section Facts

variable {digits : Digits} {facts : List (String × String)} {line : ListingLine}

theorem partition_char {separator : Char} {front back : List Char} (apart : separator ∉ front) :
    partition separator (String.ofList (front ++ separator :: back)) = (String.ofList front, String.ofList back) := by
  have other : ∀ char ∈ front, decide (char ≠ separator) = true := by
    intro char member
    exact decide_eq_true fun same => apart (same ▸ member)
  unfold partition
  rw [String.toList_ofList, List.takeWhile_append_of_pos other, List.dropWhile_append_of_pos other]
  simp

theorem factsOf_render (plain : ∀ fact ∈ facts, ';' ∉ fact.1.toList ∧ '=' ∉ fact.1.toList ∧ ';' ∉ fact.2.toList) :
    factsOf (String.ofList (facts.flatMap renderFact)) = facts.map fun fact => (lower fact.1, fact.2) := by
  unfold factsOf split
  rw [String.toList_ofList]
  induction facts with
  | nil => rfl
  | cons fact facts ih =>
      obtain ⟨nameEnds, nameEquals, valueEnds⟩ := plain fact List.mem_cons_self
      have apart : ';' ∉ fact.1.toList ++ '=' :: fact.2.toList := by
        simp only [List.mem_append, List.mem_cons, not_or]
        exact ⟨nameEnds, by decide, valueEnds⟩
      have whole : renderFact fact ++ facts.flatMap renderFact =
          (fact.1.toList ++ '=' :: fact.2.toList) ++ ';' :: facts.flatMap renderFact := by
        simp [renderFact]
      have equals : '=' ∈ (String.ofList (fact.1.toList ++ '=' :: fact.2.toList)).toList := by
        rw [String.toList_ofList]
        simp
      rw [List.flatMap_cons, whole, List.splitOn_append_cons_self_of_not_mem apart, List.map_cons, List.filterMap_cons,
        if_pos equals, partition_char nameEquals, String.ofList_toList, String.ofList_toList,
        ih fun other member => plain other (List.mem_cons_of_mem _ member)]
      rfl

theorem digits_toString (number : Nat) : ∀ char ∈ (toString number).toList, char.isDigit = true := by
  intro char member
  rw [Nat.toString_eq_ofList_toDigits, String.toList_ofList] at member
  exact Nat.isDigit_of_mem_toDigits (by decide) (by decide) member

theorem intOf_toString (number : Nat) : intOf digits (toString number) =
    if maxDigits < (toString number).length then .error (.value "invalid literal for int()") else .ok number := by
  have chars : (toString number).toList = Nat.toDigits 10 number := by
    rw [Nat.toString_eq_ofList_toDigits, String.toList_ofList]
  have decimal := digits_toString number
  have length : (toString number).length = (Nat.toDigits 10 number).length := by rw [← String.length_toList, chars]
  unfold intOf Digits.int
  rw [chars, length]
  rw [chars] at decimal
  by_cases long : maxDigits < (Nat.toDigits 10 number).length
  · rw [if_pos long, if_pos long]
  · rw [if_neg long, if_neg long, digits.valueFrom_digits 0 decimal, Nat.ofDigitChars_ten_toDigits]

theorem isDigit_ascii {char : Char} (digit : char.isDigit = true) : digits.isDigit char = true := by
  have bounds : 48 ≤ char.toNat ∧ char.toNat ≤ 57 := by
    simpa [Char.isDigit, Char.le_def, UInt32.le_iff_toNat_le] using digit
  have value := (digits.ascii char (by omega)).1
  rw [digitValue_isDigit digit] at value
  exact digits.isDigit_of_decimal _ _ value

theorem isDigitText_toString (number : Nat) : isDigitText digits (toString number) = true := by
  have nonempty : toString number ≠ "" := by
    rw [Nat.toString_eq_ofList_toDigits]
    intro empty
    exact Nat.toDigits_ne_nil (String.ofList_inj.mp (empty.trans String.ofList_nil.symm))
  unfold isDigitText
  rw [Bool.and_eq_true, decide_eq_true_eq, List.all_eq_true]
  exact ⟨nonempty, fun char member => isDigit_ascii (digits_toString number char member)⟩

def isFactChar (char : Char) : Bool := isAsciiLetter char || isAsciiDigit char || char = '.'

theorem factChar_apart {char : Char} (plain : isFactChar char = true) :
    char ≠ ';' ∧ char ≠ '=' ∧ isSpace char = false ∧ isLineBreak char = false := by
  refine ⟨?_, ?_, ?_, ?_⟩
  · rintro rfl
    cases plain
  · rintro rfl
    cases plain
  · have bounds : 46 ≤ char.toNat ∧ char.toNat ≤ 122 := by
      simp only [isFactChar, isAsciiLetter, isAsciiDigit, Bool.or_eq_true, Bool.and_eq_true, decide_eq_true_eq, Char.le_def,
        UInt32.le_iff_toNat_le] at plain
      rcases plain with ((⟨low, high⟩ | ⟨low, high⟩) | ⟨low, high⟩) | rfl
      · exact ⟨Nat.le_trans (by decide) low, high⟩
      · exact ⟨Nat.le_trans (by decide) low, Nat.le_trans high (by decide)⟩
      · exact ⟨Nat.le_trans (by decide) low, Nat.le_trans high (by decide)⟩
      · decide
    simp only [isSpace, Bool.or_eq_false_iff, Bool.and_eq_false_iff, decide_eq_false_iff_not, beq_eq_false_iff_ne]
    omega
  · cases breaks : isLineBreak char with
    | false => rfl
    | true =>
        simp only [isLineBreak, List.mem_cons, List.not_mem_nil, or_false, decide_eq_true_eq] at breaks
        rcases breaks with rfl | rfl | rfl | rfl | rfl | rfl | rfl | rfl | rfl | rfl <;> cases plain

theorem facts_chars {fact : String × String} (member : fact ∈ line.facts) :
    (∀ char ∈ fact.1.toList, isFactChar char = true) ∧ ∀ char ∈ fact.2.toList, isFactChar char = true := by
  have digit {char : Char} (decimal : char.isDigit = true) : isFactChar char = true := by
    have bounds : 48 ≤ char.toNat ∧ char.toNat ≤ 57 := by
      simpa [Char.isDigit, Char.le_def, UInt32.le_iff_toNat_le] using decimal
    simp only [isFactChar, isAsciiDigit, Bool.or_eq_true, Bool.and_eq_true, decide_eq_true_eq, Char.le_def,
      UInt32.le_iff_toNat_le]
    exact .inl (.inr bounds)
  have names : "type".toList.all isFactChar = true ∧ "size".toList.all isFactChar = true ∧
      "modify".toList.all isFactChar = true := ⟨by decide, by decide, by decide⟩
  have types : "dir".toList.all isFactChar = true ∧ "file".toList.all isFactChar = true ∧
      "pdir".toList.all isFactChar = true ∧ "cdir".toList.all isFactChar = true :=
    ⟨by decide, by decide, by decide, by decide⟩
  simp only [ListingLine.facts, List.cons_append, List.mem_cons, List.mem_append, List.mem_map, Option.mem_toList] at member
  rcases member with rfl | ⟨size, -, rfl⟩ | ⟨modify, -, rfl⟩
  · refine ⟨List.all_eq_true.mp names.1, List.all_eq_true.mp ?_⟩
    cases line with
    | entry listed =>
        dsimp only [ListingLine.typ]
        split
        · exact types.1
        · exact types.2.1
    | own parent modify name =>
        dsimp only [ListingLine.typ]
        split
        · exact types.2.2.1
        · exact types.2.2.2
  · exact ⟨List.all_eq_true.mp names.2.1, fun char inside => digit (digits_toString size char inside)⟩
  · refine ⟨List.all_eq_true.mp names.2.2, fun char inside => ?_⟩
    have plain := modify.plain char inside
    rw [Bool.or_eq_true] at plain
    rw [isFactChar, Bool.or_assoc, Bool.or_eq_true, Bool.or_eq_true]
    exact .inr plain

theorem facts_plain : ∀ fact ∈ line.facts, ';' ∉ fact.1.toList ∧ '=' ∉ fact.1.toList ∧ ';' ∉ fact.2.toList := by
  intro fact member
  obtain ⟨name, value⟩ := facts_chars member
  exact ⟨fun inside => (factChar_apart (name _ inside)).1 rfl, fun inside => (factChar_apart (name _ inside)).2.1 rfl,
    fun inside => (factChar_apart (value _ inside)).1 rfl⟩

theorem rendered_facts : ∀ char ∈ line.facts.flatMap renderFact, isSpace char = false ∧ isLineBreak char = false := by
  intro char inside
  obtain ⟨fact, member, part⟩ := List.mem_flatMap.mp inside
  obtain ⟨name, value⟩ := facts_chars member
  simp only [renderFact, List.mem_append, List.mem_cons, List.not_mem_nil, or_false] at part
  rcases part with within | rfl | within | rfl
  · exact (factChar_apart (name char within)).2.2
  · exact ⟨rfl, rfl⟩
  · exact (factChar_apart (value char within)).2.2
  · exact ⟨rfl, rfl⟩

theorem factOf_type : factOf (line.facts.map fun fact => (lower fact.1, fact.2)) "type" = some line.typ ∧
    factOf (line.facts.map fun fact => (lower fact.1, fact.2)) "size" = line.size.map toString ∧
    factOf (line.facts.map fun fact => (lower fact.1, fact.2)) "modify" = line.modify.map ListedTime.text := by
  have lowered : lower "type" = "type" ∧ lower "size" = "size" ∧ lower "modify" = "modify" :=
    ⟨by decide, by decide, by decide⟩
  unfold factOf ListingLine.facts
  cases line.size <;> cases line.modify <;>
    simp only [Option.toList_none, Option.toList_some, List.map_nil, List.map_cons, List.append_nil, List.cons_append,
      List.nil_append, lowered.1, lowered.2.1, lowered.2.2, List.reverse_cons, List.reverse_nil, Option.map_none,
      Option.map_some] <;>
    exact ⟨by rfl, by rfl, by rfl⟩

theorem mlsdEntry_chars {name : List Char} (named : name ≠ []) :
    mlsdEntry digits (String.ofList (line.facts.flatMap renderFact ++ ' ' :: name)) =
      match line with
      | .own .. => .ok none
      | .entry listed =>
          match listed.size with
          | none => .ok (some { listed.remote with name := String.ofList name })
          | some size => (intOf digits (toString size)).map fun _ =>
              some { listed.remote with name := String.ofList name } := by
  have visible : ¬ strip (String.ofList (line.facts.flatMap renderFact ++ ' ' :: name)) = "" := by
    rw [strip_eq_empty_iff, String.toList_ofList]
    intro blank
    have first : 't' ∈ line.facts.flatMap renderFact ++ ' ' :: name := by
      simp [ListingLine.facts, renderFact, show "type".toList = ['t', 'y', 'p', 'e'] from rfl]
    cases blank 't' first
  have apart : ' ' ∉ line.facts.flatMap renderFact := fun inside => by cases (rendered_facts ' ' inside).1
  have present : ¬ String.ofList name = "" := fun empty => named (String.ofList_inj.mp (empty.trans String.ofList_nil.symm))
  obtain ⟨typ, size, modify⟩ := @factOf_type line
  unfold mlsdEntry
  rw [if_neg visible, partition_char apart]
  dsimp only
  rw [if_neg present, factsOf_render facts_plain, modify]
  cases line with
  | own parent time name =>
      cases parent with
      | false =>
          have named : (ListingLine.own false time name).typ = "cdir" := rfl
          rw [named] at typ
          rw [typ]
          exact if_pos (by decide)
      | true =>
          have named : (ListingLine.own true time name).typ = "pdir" := rfl
          rw [named] at typ
          rw [typ]
          exact if_pos (by decide)
  | entry listed =>
      have sizes : (ListingLine.entry listed).size = listed.size := rfl
      by_cases dir : listed.isDir = true
      · have named : (ListingLine.entry listed).typ = "dir" := if_pos dir
        rw [named] at typ
        rw [typ, if_neg (by decide), if_neg fun kind => absurd kind.1 (by decide)]
        dsimp only
        rw [listed.fileSize dir]
        simp only [ListedEntry.remote, dir, listed.fileSize dir]
        rfl
      · have named : (ListingLine.entry listed).typ = "file" := if_neg dir
        have file : listed.isDir = false := by simpa using dir
        rw [named] at typ
        rw [sizes] at size
        dsimp only
        cases sized : listed.size with
        | none =>
            rw [sized] at size
            rw [typ, size, if_neg (by decide), if_neg (by simp [isDigitText])]
            simp only [ListedEntry.remote, file, sized]
            rfl
        | some number =>
            have long : isDigitText digits ((Option.map toString (some number)).getD "") = true := isDigitText_toString number
            rw [sized] at size
            rw [typ, size, if_neg (by decide), if_pos ⟨by decide, long⟩]
            change (intOf digits (toString number)).map _ = (intOf digits (toString number)).map _
            rw [intOf_toString]
            split
            · rfl
            · simp only [ListedEntry.remote, file, sized, Except.map]
              rfl

end Facts

section Listing

variable {digits : Digits} {line : ListingLine} {lines : List ListingLine} {first second : List String}
  {result : List RemoteEntry} {entry : String → Except Failure (Option RemoteEntry)}

/-- The lines of a name that its own line is cut into, without the first. -/
def laterLines (name : EntryName) : List String := (splitLines (name.text ++ "\r\n")).tail

/-- An entry whose line is read as it was written, or a line for the directory that is
skipped with all it is cut into. -/
def ListingLine.Readable (digits : Digits) : ListingLine → Prop
  | .entry listed => (∀ char ∈ listed.name.text.toList, isLineBreak char = false) ∧
      ∀ size, listed.size = some size → (toString size).length ≤ maxDigits
  | .own _ _ name => ∀ line ∈ laterLines name, mlsdEntry digits line = .ok none

def ListingLine.pieces (line : ListingLine) : List String := splitLines (String.ofList (line.chars ++ lineEnd))

theorem chars_plain : '\r' ∉ line.chars := by
  intro inside
  rcases List.mem_append.mp inside with fact | rest
  · cases (rendered_facts '\r' fact).2
  · rcases List.mem_cons.mp rest with same | named
    · cases same
    · exact line.name.plain.1 named

theorem pieces_cut : ∃ start, line.pieces =
      String.ofList (line.facts.flatMap renderFact ++ ' ' :: start) :: laterLines line.name ∧
    ((∀ char ∈ line.name.text.toList, isLineBreak char = false) → start = line.name.text.toList ∧ laterLines line.name = []) := by
  obtain ⟨start, later, found, whole⟩ := linesAfter_begun line.name.plain.1
  have front : ∀ char ∈ line.facts.flatMap renderFact ++ [' '], isLineBreak char = false := by
    intro char inside
    rcases List.mem_append.mp inside with fact | blank
    · exact (rendered_facts char fact).2
    · rw [List.mem_singleton.mp blank]
      rfl
  have shape : line.chars ++ lineEnd = (line.facts.flatMap renderFact ++ [' ']) ++ (line.name.text.toList ++ lineEnd) := by
    simp [ListingLine.chars]
  have name : laterLines line.name = later.map String.ofList := by
    rw [laterLines, splitLines, String.toList_append]
    change List.tail ((linesAfter [] (line.name.text.toList ++ lineEnd)).map _) = _
    rw [found]
    rfl
  refine ⟨start, ?_, fun plain => ?_⟩
  · rw [ListingLine.pieces, splitLines, String.toList_ofList, shape, linesAfter_front front, List.append_nil, whole,
      List.reverse_reverse, List.map_cons, name, List.append_assoc]
    rfl
  · have alone := @linesAfter_plain line.name.text.toList [] [] plain
    rw [List.append_nil, found] at alone
    obtain ⟨same, rest⟩ := List.cons.inj alone
    rw [name, rest]
    exact ⟨same, rfl⟩

theorem splitLines_listing : splitLines (Utf8.text (renderListing lines)) = lines.flatMap ListingLine.pieces := by
  rw [Utf8.text, renderListing, Utf8.decode_encode, splitLines, String.toList_ofList]
  induction lines with
  | nil => rfl
  | cons line lines ih =>
      have cut := @linesAfter_lineEnd line.chars [] (lines.flatMap fun line => line.chars ++ lineEnd) chars_plain
      have own : line.pieces = (linesAfter [] (line.chars ++ lineEnd)).map String.ofList := by
        rw [ListingLine.pieces, splitLines, String.toList_ofList]
      rw [List.flatMap_cons, List.flatMap_cons, cut, List.map_append, ih, own]

theorem entriesOf_append : entriesOf entry (first ++ second) =
    match entriesOf entry first with
    | .error failure => .error failure
    | .ok found => (entriesOf entry second).map (found ++ ·) := by
  induction first with
  | nil =>
      cases read : entriesOf entry second <;> simp [entriesOf, read, Except.map]
  | cons line first ih =>
      rw [List.cons_append, entriesOf, entriesOf, ih]
      cases entry line with
      | error failure => rfl
      | ok found =>
          dsimp only
          cases entriesOf entry first with
          | error failure => rfl
          | ok more =>
              cases entriesOf entry second with
              | error failure => rfl
              | ok rest => simp [Except.map]

theorem entriesOf_nil_iff : entriesOf entry first = .ok [] ↔ ∀ line ∈ first, entry line = .ok none := by
  induction first with
  | nil => simp [entriesOf]
  | cons line first ih =>
      rw [entriesOf, List.forall_mem_cons, ← ih]
      cases read : entry line with
      | error failure => simp
      | ok found =>
          cases entriesOf entry first with
          | error failure => simp [Except.map]
          | ok more => cases found <;> simp [Except.map]

theorem mlsdEntry_name {text : String} {found : RemoteEntry} (read : mlsdEntry digits text = .ok (some found)) :
    ∀ char ∈ found.name.toList, char ∈ text.toList := by
  have named : found.name = (partition ' ' text).2 := by
    unfold mlsdEntry at read
    split at read
    · cases read
    dsimp only at read
    split at read
    · cases read
    split at read
    · cases read
    split at read
    · cases size : intOf digits ((factOf (factsOf (partition ' ' text).1) "size").getD "") with
      | error failure =>
          rw [size] at read
          cases read
      | ok number =>
          rw [size] at read
          cases read
          rfl
    · cases read
      rfl
  intro char inside
  rw [named, partition, String.toList_ofList] at inside
  exact (List.dropWhile_sublist _).mem ((List.drop_sublist _ _).mem inside)

theorem entriesOf_origin (parsed : entriesOf entry first = .ok result) :
    ∀ found ∈ result, ∃ line ∈ first, entry line = .ok (some found) := by
  induction first generalizing result with
  | nil =>
      cases parsed
      exact fun _ member => absurd member List.not_mem_nil
  | cons line first ih =>
      rw [entriesOf] at parsed
      cases read : entry line with
      | error failure =>
          rw [read] at parsed
          cases parsed
      | ok head =>
          rw [read] at parsed
          cases rest : entriesOf entry first with
          | error failure =>
              rw [rest] at parsed
              cases parsed
          | ok more =>
              rw [rest] at parsed
              cases parsed
              intro found member
              rcases List.mem_append.mp member with own | later
              · refine ⟨line, List.mem_cons_self, ?_⟩
                rw [read, Option.mem_toList.mp own]
              · obtain ⟨other, listed, same⟩ := ih rest found later
                exact ⟨other, List.mem_cons_of_mem _ listed, same⟩

def entriesRead (digits : Digits) (line : ListingLine) : Except Failure (List RemoteEntry) :=
  entriesOf (mlsdEntry digits) line.pieces

theorem entriesRead_entry {listed : ListedEntry} (plain : ∀ char ∈ listed.name.text.toList, isLineBreak char = false) :
    entriesRead digits (.entry listed) =
      match listed.size with
      | none => .ok [listed.remote]
      | some size => (intOf digits (toString size)).map fun _ => [listed.remote] := by
  obtain ⟨start, cut, whole⟩ := @pieces_cut (.entry listed)
  obtain ⟨same, alone⟩ := whole plain
  have named : start ≠ [] := fun empty => listed.name.named (String.toList_eq_nil_iff.mp (same.symm.trans empty))
  have remote : { listed.remote with name := String.ofList start } = listed.remote := by
    rw [same]
    exact congrArg (fun name => { listed.remote with name }) String.ofList_toList
  rw [entriesRead, cut, alone, entriesOf, mlsdEntry_chars named]
  dsimp only
  rw [remote]
  cases listed.size with
  | none => rfl
  | some size =>
      dsimp only
      cases intOf digits (toString size) <;> rfl

theorem entriesRead_own {parent : Bool} {modify : Option ListedTime} {name : EntryName} :
    entriesRead digits (.own parent modify name) = entriesOf (mlsdEntry digits) (laterLines name) := by
  obtain ⟨start, cut, -⟩ := @pieces_cut (.own parent modify name)
  have skipped : mlsdEntry digits (String.ofList
      ((ListingLine.own parent modify name).facts.flatMap renderFact ++ ' ' :: start)) = .ok none := by
    by_cases named : start = []
    · have apart : ' ' ∉ (ListingLine.own parent modify name).facts.flatMap renderFact :=
        fun inside => by cases (rendered_facts ' ' inside).1
      unfold mlsdEntry
      split
      · rfl
      rw [partition_char apart, named]
      exact if_pos rfl
    · rw [mlsdEntry_chars named]
  have same : (ListingLine.own parent modify name).name = name := rfl
  rw [entriesRead, cut, entriesOf, skipped, same]
  dsimp only
  cases entriesOf (mlsdEntry digits) (laterLines name) <;> rfl

theorem readable_iff : line.Readable digits ↔ entriesRead digits line = .ok line.entries ∧
    ∀ listed, line = .entry listed → ∀ char ∈ listed.name.text.toList, isLineBreak char = false := by
  cases line with
  | own parent modify name =>
      rw [entriesRead_own, ListingLine.entries, entriesOf_nil_iff]
      exact ⟨fun skipped => ⟨skipped, nofun⟩, fun skipped => skipped.1⟩
  | entry listed =>
      constructor
      · rintro ⟨plain, short⟩
        refine ⟨?_, fun other same => by cases same; exact plain⟩
        rw [entriesRead_entry plain, ListingLine.entries]
        cases sized : listed.size with
        | none => rfl
        | some size =>
            dsimp only
            rw [intOf_toString, if_neg (Nat.not_lt.mpr (short size sized))]
            rfl
      · rintro ⟨read, plain⟩
        have whole := plain listed rfl
        refine ⟨whole, fun size sized => ?_⟩
        rw [entriesRead_entry whole, sized] at read
        dsimp only at read
        rw [intOf_toString] at read
        split at read
        · cases read
        next short => exact Nat.le_of_not_lt short

theorem parse_cons (parsed : entriesOf (mlsdEntry digits) ((line :: lines).flatMap ListingLine.pieces) = .ok result) :
    ∃ own rest, entriesRead digits line = .ok own ∧
      entriesOf (mlsdEntry digits) (lines.flatMap ListingLine.pieces) = .ok rest ∧ result = own ++ rest := by
  rw [List.flatMap_cons, entriesOf_append] at parsed
  unfold entriesRead
  cases read : entriesOf (mlsdEntry digits) line.pieces with
  | error failure =>
      rw [read] at parsed
      cases parsed
  | ok own =>
      rw [read] at parsed
      cases tail : entriesOf (mlsdEntry digits) (lines.flatMap ListingLine.pieces) with
      | error failure =>
          rw [tail] at parsed
          cases parsed
      | ok rest =>
          rw [tail] at parsed
          cases parsed
          exact ⟨own, rest, rfl, rfl, rfl⟩

theorem parse_length (plain : ∀ listed, .entry listed ∈ lines → ∀ char ∈ listed.name.text.toList, isLineBreak char = false)
    (parsed : entriesOf (mlsdEntry digits) (lines.flatMap ListingLine.pieces) = .ok result) :
    (lines.flatMap ListingLine.entries).length ≤ result.length ∧
      (result.length ≤ (lines.flatMap ListingLine.entries).length → ∀ line ∈ lines, line.Readable digits) := by
  induction lines generalizing result with
  | nil => exact ⟨Nat.zero_le _, fun _ _ member => absurd member List.not_mem_nil⟩
  | cons line lines ih =>
      obtain ⟨own, rest, read, tail, rfl⟩ := parse_cons parsed
      obtain ⟨enough, exactly⟩ := ih (fun listed member => plain listed (List.mem_cons_of_mem _ member)) tail
      have atLeast : line.entries.length ≤ own.length ∧ (own.length ≤ line.entries.length → line.Readable digits) := by
        cases line with
        | own parent modify name =>
            refine ⟨Nat.zero_le _, fun none => readable_iff.mpr ⟨?_, nofun⟩⟩
            rw [read, List.length_eq_zero_iff.mp (Nat.le_zero.mp none)]
            rfl
        | entry listed =>
            have whole := plain listed List.mem_cons_self
            have same : own = [listed.remote] := by
              rw [entriesRead_entry whole] at read
              cases sized : listed.size with
              | none =>
                  rw [sized] at read
                  cases read
                  rfl
              | some size =>
                  rw [sized] at read
                  dsimp only at read
                  rw [intOf_toString] at read
                  split at read
                  · cases read
                  · cases read
                    rfl
            rw [same] at read ⊢
            exact ⟨Nat.le_refl _, fun _ => readable_iff.mpr ⟨read, fun other eq => by cases eq; exact whole⟩⟩
      rw [List.flatMap_cons, List.length_append, List.length_append]
      refine ⟨Nat.add_le_add atLeast.1 enough, fun most other member => ?_⟩
      rcases List.mem_cons.mp member with rfl | later
      · exact atLeast.2 (by omega)
      · exact exactly (by omega) other later

theorem parse_readable (readable : ∀ line ∈ lines, line.Readable digits) :
    entriesOf (mlsdEntry digits) (lines.flatMap ListingLine.pieces) = .ok (lines.flatMap ListingLine.entries) := by
  induction lines with
  | nil => rfl
  | cons line lines ih =>
      have read := (readable_iff.mp (readable line List.mem_cons_self)).1
      rw [entriesRead] at read
      rw [List.flatMap_cons, entriesOf_append, read]
      dsimp only
      rw [ih fun other member => readable other (List.mem_cons_of_mem _ member)]
      rfl

/-- A listing is read as it was written exactly when each of its lines is. -/
theorem listing_read_iff (digits : Digits) (lines : List ListingLine) :
    parseMlsd digits (renderListing lines) = .ok (lines.flatMap ListingLine.entries) ↔
      ∀ line ∈ lines, line.Readable digits := by
  rw [parseMlsd, splitLines_listing]
  refine ⟨fun parsed => ?_, parse_readable⟩
  refine (parse_length (fun listed member char inside => ?_) parsed).2 (Nat.le_refl _)
  have shown : listed.remote ∈ lines.flatMap ListingLine.entries :=
    List.mem_flatMap.mpr ⟨.entry listed, member, List.mem_singleton.mpr rfl⟩
  obtain ⟨text, piece, read⟩ := entriesOf_origin parsed _ shown
  obtain ⟨line, -, within⟩ := List.mem_flatMap.mp piece
  obtain ⟨chars, cut, rfl⟩ := List.mem_map.mp within
  have part := mlsdEntry_name read char inside
  rw [String.toList_ofList] at part
  exact mem_linesAfter (fun _ none => absurd none List.not_mem_nil) cut char part

def tabbedName : EntryName where
  text := "a\x0bb"
  named := by decide
  plain := by decide

def tabbedFile : ListedEntry where
  name := tabbedName
  isDir := false
  size := none
  modify := none
  fileSize := nofun

theorem tabbed_name_cut :
    (parseMlsd asciiDigits (renderListing [.entry tabbedFile])).toOption.map (List.map RemoteEntry.name) = some ["a"] ∧
      parseMlsd asciiDigits (renderListing [.entry tabbedFile]) ≠ .ok [tabbedFile.remote] := by
  have read : parseMlsd asciiDigits (renderListing [.entry tabbedFile]) =
      .ok [{ name := "a", isDir := false, size := none, modify := none }] := by decide
  rw [read]
  exact ⟨rfl, by decide⟩

end Listing

end Dosm.Ftp
