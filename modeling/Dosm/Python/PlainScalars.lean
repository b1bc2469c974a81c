import Dosm.Python.Slices
import Dosm.Python.Yaml

namespace Dosm.Python

/-! YAML mappings of one line for each key, with plain scalars.

A plain scalar stands for itself when it has no indicator where one counts and the
resolver leaves it a string. What is promised of a library that loads such texts is a
field of `YamlReader`.
-/

/-- Printable, and neither a tab nor a line break. -/
def plainChar (char : Char) : Bool :=
  let code := char.toNat
  (0x20 ≤ code && code ≤ 0x7E) || (0xA0 ≤ code && code ≤ 0x2027) || (0x202A ≤ code && code ≤ 0xD7FF) ||
    (0xE000 ≤ code && code ≤ 0xFFFD) || 0x10000 ≤ code

/-- The characters that no plain scalar begins with, unless a character follows some of them. -/
def indicators : List Char := " -?:,[]\x7b\x7d#&*!|>'\"%@".toList ++ [Char.ofNat 96]

def startsPlain : List Char → Bool
  | [] => false
  | [char] => char ∉ indicators
  | char :: next :: _ => char ∉ indicators || (char ∈ ['-', '?', ':'] && next ≠ ' ')

/-- No colon before a blank or the end, no blank before a hash sign or the end. -/
def continuesPlain : List Char → Bool
  | [] => true
  | [char] => char ≠ ':' && char ≠ ' '
  | char :: next :: rest =>
      !(char = ':' && next = ' ') && !(char = ' ' && next = '#') && continuesPlain (next :: rest)

def isPlain (text : String) : Bool :=
  text.toList.all plainChar && startsPlain text.toList && continuesPlain text.toList

def reservedWords : List String :=
  ["yes", "Yes", "YES", "no", "No", "NO", "true", "True", "TRUE", "false", "False", "FALSE", "on", "On", "ON",
    "off", "Off", "OFF", "null", "Null", "NULL"]

def isWord (text : String) : Bool := text ≠ "" && text.toList.all fun char => char.isAlpha || char = '_'

def blockText (entries : List (String × String)) : String :=
  "\n".intercalate (entries.map fun entry => entry.1 ++ ": " ++ entry.2)

def textEntry (entry : String × String) : Scalar × Yaml := (.str entry.1, .str entry.2)

/-- The library that loads texts, its resolver of plain scalars, and what they promise. -/
structure YamlReader where
  load : String → Option Yaml
  isString : String → Bool
  words : ∀ text, isWord text = true → text ∉ reservedWords → isString text = true
  plain : ∀ entries, entries ≠ [] → (entries.map Prod.fst).Nodup →
    (∀ entry ∈ entries, isWord entry.1 = true ∧ entry.1.length ≤ 1024 ∧ isString entry.1 = true ∧
      isPlain entry.2 = true ∧ isString entry.2 = true) →
    load (blockText entries) = some (.mapping (entries.map textEntry))
  /-- A value that is no plain text is not read as it stands. -/
  other : ∀ key value rest, isWord key = true → isString key = true → ¬ (isPlain value = true ∧ isString value = true) →
    (∀ entry ∈ rest, isWord entry.1 = true ∧ entry.1 ≠ key ∧ isPlain entry.2 = true ∧ isString entry.2 = true) →
    ∀ node, load (blockText ((key, value) :: rest)) = some node → node.get [.str key] ≠ some (.str value)
  /-- The text at a short key is in the source besides the key and a colon. -/
  written : ∀ key source node text, isWord key = true → key.length ≤ 5 → load source = some node →
    node.get [.str key] = some (.str text) → key.length + 1 + text.length ≤ source.length

/-! A reader of such blocks and of nothing else. -/

/-- The parts before and after the first colon with a blank. -/
def cutKey : List Char → Option (List Char × List Char)
  | [] => none
  | ':' :: ' ' :: value => some ([], value)
  | char :: rest => (cutKey rest).map fun parts => (char :: parts.1, parts.2)

def isLineString (text : String) : Bool :=
  text.toList.any (fun char => char.isAlpha || char = '_') && text ∉ reservedWords

def isLineText (text : String) : Bool := isPlain text && isLineString text

def readLine (line : List Char) : Option (String × String) := do
  let (key, value) ← cutKey line
  if isWord (String.ofList key) && isLineString (String.ofList key) && isLineText (String.ofList value) then
    return (String.ofList key, String.ofList value)
  else none

def loadLines (text : String) : Option Yaml :=
  ((text.toList.splitOn '\n').mapM readLine).map fun entries => .mapping (entries.map textEntry)

section Lines

variable {key value line rest : List Char} {text : String} {entries : List (String × String)}

theorem cutKey_append (word : ∀ char ∈ key, char ≠ ':') : cutKey (key ++ ':' :: ' ' :: value) = some (key, value) := by
  induction key with
  | nil => rfl
  | cons char key ih =>
      have later := ih fun other member => word other (List.mem_cons_of_mem _ member)
      have first := word char List.mem_cons_self
      rw [List.cons_append, cutKey, later]
      · rfl
      · intro value same _
        exact first same

theorem cutKey_some (cut : cutKey line = some (key, value)) : line = key ++ ':' :: ' ' :: value := by
  fun_induction cutKey line generalizing key with
  | case1 => cases cut
  | case2 found =>
      cases cut
      rfl
  | case3 char rest other ih =>
      obtain ⟨⟨before, after⟩, found, same⟩ := Option.map_eq_some_iff.mp cut
      cases same
      rw [ih found]
      rfl

theorem readLine_some {entry : String × String} (read : readLine line = some entry) :
    line = entry.1.toList ++ ':' :: ' ' :: entry.2.toList ∧ isLineText entry.2 = true := by
  simp only [readLine, Option.bind_eq_bind, Option.bind_eq_some_iff, Prod.exists] at read
  obtain ⟨key, value, cut, checked⟩ := read
  split at checked
  next holds =>
    cases checked
    rw [Bool.and_eq_true] at holds
    exact ⟨by rw [String.toList_ofList, String.toList_ofList]; exact cutKey_some cut, holds.2⟩
  next => cases checked

theorem isWord_plain (word : isWord text = true) : ∀ char ∈ text.toList, char ≠ ':' ∧ char ≠ '\n' := by
  intro char member
  have letters := List.all_eq_true.mp (Bool.and_eq_true_iff.mp word).2 char member
  constructor
  · rintro rfl
    exact absurd letters (by decide)
  · rintro rfl
    exact absurd letters (by decide)

theorem isPlain_newline (plain : isPlain text = true) : '\n' ∉ text.toList := by
  intro member
  rw [isPlain, Bool.and_eq_true, Bool.and_eq_true] at plain
  exact absurd (List.all_eq_true.mp plain.1.1 _ member) (by decide)

theorem readLine_entry {entry : String × String} (word : isWord entry.1 = true) (name : isLineString entry.1 = true)
    (value : isLineText entry.2 = true) :
    readLine (entry.1 ++ ": " ++ entry.2).toList = some entry := by
  have chars : (entry.1 ++ ": " ++ entry.2).toList = entry.1.toList ++ ':' :: ' ' :: entry.2.toList := by
    simp [String.toList_append]
  have cut := @cutKey_append entry.1.toList entry.2.toList fun char member => (isWord_plain word char member).1
  simp [readLine, chars, cut, word, name, value]

theorem blockText_lines : (blockText entries).toList =
    ['\n'].intercalate (entries.map fun entry => (entry.1 ++ ": " ++ entry.2).toList) := by
  rw [blockText, String.toList_intercalate, List.map_map]
  rfl

theorem mapM_read {write : String × String → List Char} (reads : ∀ entry ∈ entries, readLine (write entry) = some entry) :
    (entries.map write).mapM readLine = some entries := by
  induction entries with
  | nil => rfl
  | cons entry entries ih =>
      have later := ih fun other member => reads other (List.mem_cons_of_mem _ member)
      rw [List.map_cons, List.mapM_cons, reads entry List.mem_cons_self, later]
      rfl

theorem mapM_mem {lines : List (List Char)} {entry : String × String} (read : lines.mapM readLine = some entries)
    (member : entry ∈ entries) : ∃ line ∈ lines, readLine line = some entry := by
  induction lines generalizing entries with
  | nil =>
      cases read
      cases member
  | cons line lines ih =>
      simp only [List.mapM_cons, Option.bind_eq_bind, Option.bind_eq_some_iff, Option.pure_def,
        Option.some.injEq] at read
      obtain ⟨first, here, others, later, rfl⟩ := read
      rcases List.mem_cons.mp member with rfl | inside
      · exact ⟨line, List.mem_cons_self, here⟩
      · obtain ⟨found, listed, same⟩ := ih later inside
        exact ⟨found, List.mem_cons_of_mem _ listed, same⟩

theorem loadLines_plain (nonempty : entries ≠ [])
    (texts : ∀ entry ∈ entries, isWord entry.1 = true ∧ isLineString entry.1 = true ∧ isLineText entry.2 = true) :
    loadLines (blockText entries) = some (.mapping (entries.map textEntry)) := by
  have clean : ∀ line ∈ entries.map fun entry => (entry.1 ++ ": " ++ entry.2).toList, '\n' ∉ line := by
    intro line member
    obtain ⟨entry, listed, rfl⟩ := List.mem_map.mp member
    obtain ⟨word, _, value⟩ := texts entry listed
    have plain := isPlain_newline (Bool.and_eq_true_iff.mp value).1
    have letters : '\n' ∉ entry.1.toList := fun inside => (isWord_plain word _ inside).2 rfl
    simp [String.toList_append, letters, plain]
  have present : entries.map (fun entry => (entry.1 ++ ": " ++ entry.2).toList) ≠ [] := by simpa using nonempty
  have read : (entries.map fun entry => (entry.1 ++ ": " ++ entry.2).toList).mapM readLine = some entries :=
    mapM_read fun entry member => readLine_entry (texts entry member).1 (texts entry member).2.1 (texts entry member).2.2
  rw [loadLines, blockText_lines, List.splitOn_intercalate '\n' clean present, read]
  rfl

theorem lookup_text {name : Scalar} {node : Yaml} (found : Entries.lookup name (entries.map textEntry) = some node) :
    ∃ entry ∈ entries, name = .str entry.1 ∧ node = .str entry.2 := by
  induction entries with
  | nil => cases found
  | cons entry entries ih =>
      simp only [List.map_cons, textEntry, Entries.lookup] at found
      split at found
      next same => exact ⟨entry, List.mem_cons_self, same.symm, (Option.some.inj found).symm⟩
      next =>
        obtain ⟨other, member, facts⟩ := ih found
        exact ⟨other, List.mem_cons_of_mem _ member, facts⟩

theorem loadLines_get {source found name : String} {node : Yaml} (loaded : loadLines source = some node)
    (read : node.get [.str name] = some (.str found)) :
    ∃ line ∈ source.toList.splitOn '\n', line = name.toList ++ ':' :: ' ' :: found.toList ∧
      isLineText found = true := by
  obtain ⟨entries, lines, rfl⟩ := Option.map_eq_some_iff.mp loaded
  simp only [Yaml.get_cons, Yaml.entries, Yaml.get_nil] at read
  obtain ⟨value, looked, same⟩ := Option.bind_eq_some_iff.mp read
  cases same
  obtain ⟨entry, member, sameName, sameText⟩ := lookup_text looked
  obtain ⟨line, listed, reads⟩ := mapM_mem lines member
  obtain ⟨split, text⟩ := readLine_some reads
  cases sameName
  cases sameText
  exact ⟨line, listed, split, text⟩

theorem loadLines_written {source found name : String} {node : Yaml} (loaded : loadLines source = some node)
    (read : node.get [.str name] = some (.str found)) : name.length + 1 + found.length ≤ source.length := by
  obtain ⟨line, member, split, _⟩ := loadLines_get loaded read
  have bound := (splitOn_sublist member).length_le
  rw [split] at bound
  simp only [List.length_append, List.length_cons, String.length_toList] at bound
  omega

theorem loadLines_other {key value : String} {rest : List (String × String)} {node : Yaml}
    (other : isLineText value = false)
    (loaded : loadLines (blockText ((key, value) :: rest)) = some node) :
    node.get [.str key] ≠ some (.str value) := by
  intro read
  obtain ⟨_, _, _, plain⟩ := loadLines_get loaded read
  rw [plain] at other
  cases other

end Lines

/-- The library, as far as blocks of one line for each key go. -/
def lineReader : YamlReader where
  load := loadLines
  isString := isLineString
  words text word free := by
    obtain ⟨nonempty, letters⟩ := Bool.and_eq_true_iff.mp word
    rw [isLineString, Bool.and_eq_true]
    refine ⟨?_, decide_eq_true free⟩
    cases chars : text.toList with
    | nil => exact absurd (String.toList_eq_nil_iff.mp chars) (of_decide_eq_true nonempty)
    | cons char rest =>
        rw [chars] at letters
        rw [List.any_cons, List.all_eq_true.mp letters char List.mem_cons_self, Bool.true_or]
  plain entries nonempty _ texts := loadLines_plain nonempty fun entry member =>
    ⟨(texts entry member).1, (texts entry member).2.2.1, Bool.and_eq_true_iff.mpr (texts entry member).2.2.2⟩
  other key value rest _ _ other _ node loaded := by
    have plain : isLineText value = false := by
      rw [← Bool.not_eq_true, isLineText, Bool.and_eq_true]
      exact other
    exact loadLines_other plain loaded
  written _ _ _ _ _ _ loaded read := loadLines_written loaded read

end Dosm.Python
