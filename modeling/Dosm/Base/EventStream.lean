import Dosm.Python.Utf8Text
import Dosm.Python.Slices

namespace Dosm.EventStream

open Python

/-! Server-sent events as a client reads them.

A line ends at a carriage return, a line feed or both together. The data lines of
an event are joined by line feeds, and an empty line ends the event; an event
without a data line, or without its empty line, is dropped.
-/

structure Event where
  type : String
  data : String
  deriving DecidableEq

/-- The lines of a stream that have been ended, after the reversed beginning of the first one. -/
def wholeLines (begun : List Char) : List Char → List (List Char)
  | [] => []
  | '\r' :: '\n' :: rest => begun.reverse :: wholeLines [] rest
  | char :: rest =>
      if char = '\r' ∨ char = '\n' then begun.reverse :: wholeLines [] rest else wholeLines (char :: begun) rest

structure Pending where
  type : List Char := []
  data : List (List Char) := []

/-- What follows the colon, without one blank. -/
def fieldValue (line : List Char) : List Char :=
  match (line.dropWhile (· ≠ ':')).drop 1 with
  | ' ' :: value => value
  | value => value

/-- Comments and fields of other names tell nothing about the event. -/
def Pending.field (pending : Pending) (line : List Char) : Pending :=
  let name := line.takeWhile (· ≠ ':')
  if name = "event".toList then { pending with type := fieldValue line }
  else if name = "data".toList then { pending with data := pending.data ++ [fieldValue line] }
  else pending

def Pending.events (pending : Pending) : List Event :=
  if pending.data = [] then []
  else [{
    type := if pending.type = [] then "message" else String.ofList pending.type
    data := String.ofList (['\n'].intercalate pending.data) }]

def readLines : Pending → List (List Char) → List Event
  | _, [] => []
  | pending, [] :: rest => pending.events ++ readLines {} rest
  | pending, line :: rest => readLines (pending.field line) rest

/-- The events of a stream of bytes; a byte order mark before them is skipped. -/
def readStream (bytes : List UInt8) : List Event :=
  match Utf8.decode bytes with
  | '\uFEFF' :: text => readLines {} (wholeLines [] text)
  | text => readLines {} (wholeLines [] text)

/-- The text with each end of a line read as a line feed. -/
def newlines : List Char → List Char
  | [] => []
  | '\r' :: '\n' :: rest => '\n' :: newlines rest
  | char :: rest => (if char = '\r' then '\n' else char) :: newlines rest

def frame (type : List Char) (data : List (List Char)) : List (List Char) :=
  ("event: ".toList ++ type) :: data.map ("data: ".toList ++ ·) ++ [[]]

example : readStream (Utf8.encodeText "event: a\ndata: b\rdata:  c\r\n\r\n: d\ndata\n\ndata: e\n") =
    [⟨"a", "b\n c"⟩, ⟨"message", ""⟩] := by decide +kernel

section Reading

variable {line rest type text begun : List Char} {lines data : List (List Char)} {pending : Pending}

def OneLine (line : List Char) : Prop := '\r' ∉ line ∧ '\n' ∉ line

theorem wholeLines_line (plain : OneLine line) :
    wholeLines begun (line ++ '\n' :: rest) = (begun.reverse ++ line) :: wholeLines [] rest := by
  induction line generalizing begun with
  | nil => simp [wholeLines]
  | cons char line ih =>
      have apart : ¬ (char = '\r' ∨ char = '\n') := by
        rintro (rfl | rfl)
        · exact plain.1 List.mem_cons_self
        · exact plain.2 List.mem_cons_self
      have later := @ih (char :: begun)
        ⟨fun member => plain.1 (List.mem_cons_of_mem _ member), fun member => plain.2 (List.mem_cons_of_mem _ member)⟩
      rw [List.cons_append, wholeLines, if_neg apart, later, List.reverse_cons, List.append_assoc, List.singleton_append]
      rintro others same
      exact absurd (.inl same) apart

theorem wholeLines_lines (plain : ∀ line ∈ lines, OneLine line) :
    wholeLines [] (lines.flatMap (· ++ ['\n']) ++ rest) = lines ++ wholeLines [] rest := by
  induction lines with
  | nil => rfl
  | cons line lines ih =>
      have later := ih fun other listed => plain other (List.mem_cons_of_mem _ listed)
      rw [List.flatMap_cons, List.append_assoc, List.append_assoc, List.singleton_append,
        wholeLines_line (plain line List.mem_cons_self), later, List.reverse_nil, List.nil_append, List.cons_append]

theorem field_event : pending.field ("event: ".toList ++ type) = { pending with type } := by
  have name : ("event: ".toList ++ type).takeWhile (· ≠ ':') = "event".toList := by simp
  have value : fieldValue ("event: ".toList ++ type) = type := by simp [fieldValue]
  simp only [Pending.field, name, value, if_true]

theorem field_data : pending.field ("data: ".toList ++ line) = { pending with data := pending.data ++ [line] } := by
  have name : ("data: ".toList ++ line).takeWhile (· ≠ ':') = "data".toList := by simp
  have value : fieldValue ("data: ".toList ++ line) = line := by simp [fieldValue]
  have other : ¬ "data".toList = "event".toList := by decide
  simp only [Pending.field, name, value, if_neg other, if_true]

theorem readLines_data (later : List (List Char)) :
    readLines pending (data.map ("data: ".toList ++ ·) ++ [] :: later) =
      Pending.events { pending with data := pending.data ++ data } ++ readLines {} later := by
  induction data generalizing pending with
  | nil => simp [readLines]
  | cons line data ih =>
      have next := @ih (pending.field ("data: ".toList ++ line))
      rw [List.map_cons, List.cons_append]
      rw [field_data] at next
      have read : readLines pending (("data: ".toList ++ line) :: (data.map ("data: ".toList ++ ·) ++ [] :: later)) =
          readLines (pending.field ("data: ".toList ++ line)) (data.map ("data: ".toList ++ ·) ++ [] :: later) := rfl
      rw [read, field_data, next]
      simp

theorem readLines_frame (named : type ≠ []) (some : data ≠ []) (later : List (List Char)) :
    readLines {} (frame type data ++ later) =
      ⟨String.ofList type, String.ofList (['\n'].intercalate data)⟩ :: readLines {} later := by
  have first : readLines {} (frame type data ++ later) =
      readLines (Pending.field {} ("event: ".toList ++ type)) (data.map ("data: ".toList ++ ·) ++ [] :: later) := by
    rw [frame, List.append_assoc, List.cons_append, List.singleton_append]
    rfl
  rw [first, field_event, readLines_data]
  simp [Pending.events, some, named]

end Reading

structure Block where
  type : List Char
  data : List (List Char)
  named : type ≠ []
  some : data ≠ []
  typeLine : OneLine type
  dataLines : ∀ line ∈ data, OneLine line

namespace Block

def text (block : Block) : List Char := (frame block.type block.data).flatMap (· ++ ['\n'])

def event (block : Block) : Event where
  type := String.ofList block.type
  data := String.ofList (['\n'].intercalate block.data)

theorem lines (block : Block) : ∀ line ∈ frame block.type block.data, OneLine line := by
  have fieldLine : ∀ name line : List Char, OneLine name → OneLine line → OneLine (name ++ line) := by
    rintro name line ⟨noReturn, noFeed⟩ ⟨lineReturn, lineFeed⟩
    exact ⟨by simp [noReturn, lineReturn], by simp [noFeed, lineFeed]⟩
  intro line listed
  simp only [frame, List.cons_append, List.mem_cons, List.mem_append, List.mem_map, List.not_mem_nil, or_false] at listed
  rcases listed with rfl | ⟨value, member, rfl⟩ | rfl
  · exact fieldLine _ _ ⟨by decide, by decide⟩ block.typeLine
  · exact fieldLine _ _ ⟨by decide, by decide⟩ (block.dataLines value member)
  · exact ⟨List.not_mem_nil, List.not_mem_nil⟩

theorem text_head (block : Block) : ∃ rest, block.text = 'e' :: rest := ⟨_, rfl⟩

end Block

theorem wholeLines_blocks (blocks : List Block) :
    wholeLines [] (blocks.flatMap Block.text) = blocks.flatMap fun block => frame block.type block.data := by
  induction blocks with
  | nil => rfl
  | cons block blocks ih => rw [List.flatMap_cons, List.flatMap_cons, Block.text, wholeLines_lines block.lines, ih]

theorem readLines_blocks (blocks : List Block) :
    readLines {} (blocks.flatMap fun block => frame block.type block.data) = blocks.map Block.event := by
  induction blocks with
  | nil => rfl
  | cons block blocks ih =>
      rw [List.flatMap_cons, readLines_frame block.named block.some, ih]
      rfl

theorem readStream_blocks (blocks : List Block) :
    readStream (Utf8.encode (blocks.flatMap Block.text)) = blocks.map Block.event := by
  have read : readStream (Utf8.encode (blocks.flatMap Block.text)) =
      readLines {} (wholeLines [] (blocks.flatMap Block.text)) := by
    unfold readStream
    rw [Utf8.decode_encode]
    cases blocks with
    | nil => rfl
    | cons block blocks =>
        obtain ⟨rest, begins⟩ := block.text_head
        rw [List.flatMap_cons, begins]
        rfl
  rw [read, wholeLines_blocks, readLines_blocks]

end Dosm.EventStream
