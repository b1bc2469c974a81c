import Dosm.Base.EventStream
import Dosm.Python.JsonText

namespace Dosm.Chat.Streaming

open Python EventStream

/-! The stream of a finished answer, and what a client reads of it.

The writer cuts a text where `str.splitlines` does. That knows more line ends than
the format, and tells nothing of one at the end of the text.
-/

def given : Option String → List String
  | some text => if text = "" then [] else [text]
  | none => []

def sseLines (event : Option String) (data : String) : List String :=
  (given event).map ("event: " ++ ·) ++
    (if splitLines data = [] then [""] else splitLines data).map ("data: " ++ ·) ++ ["", ""]

def sse (event : Option String) (data : String) : List UInt8 :=
  Utf8.encodeText ("\n".intercalate (sseLines event data))

structure Result where
  content : Option String
  error : Option String
  planCards : List Json

/-- `_stream_result`: empty and missing texts have no event. -/
def streamResult (result : Result) : List (List UInt8) :=
  (given result.content).map (sse (some "token")) ++
    (given result.error).map (sse (some "error")) ++
    result.planCards.map (fun card => sse (some "plan") card.dumps) ++
    [sse (some "done") ""]

def stored (type : String) (text : Option String) : List Event :=
  (given text).map fun text => ⟨type, String.ofList (newlines text.toList)⟩

/-- The client reads the stored texts, the cards as its own reader of JSON reads them, and the end, and nothing
else. -/
def ReadsStored (parse : String → Option Json) (result : Result) (events : List Event) : Prop :=
  ∃ plans : List Event, events = stored "token" result.content ++ stored "error" result.error ++ plans ++ [⟨"done", ""⟩] ∧
    (∀ plan ∈ plans, plan.type = "plan") ∧
    plans.map (fun plan => parse plan.data) = result.planCards.map some

/-- Where the writer ends a line and the format does not. -/
def isForeignBreak (char : Char) : Bool := isLineBreak char && char ≠ '\r' && char ≠ '\n'

/-- No line end but those of the format, and none at the end. -/
def Framed (text : String) : Prop :=
  (text.toList.any isForeignBreak = false) ∧ text.toList.getLast? ≠ some '\r' ∧ text.toList.getLast? ≠ some '\n'

instance (text : String) : Decidable (Framed text) := inferInstanceAs (Decidable (_ ∧ _))

def pieces (data : String) : List (List Char) :=
  if linesAfter [] data.toList = [] then [[]] else linesAfter [] data.toList

section Pieces

variable {chars begun : List Char} {char : Char} {data : String}

theorem oneLine_piece {piece : List Char} (listed : piece ∈ pieces data) : OneLine piece := by
  unfold pieces at listed
  split at listed
  · rw [List.mem_singleton.mp listed]
    exact ⟨List.not_mem_nil, List.not_mem_nil⟩
  next =>
    have plain := mem_linesAfter (fun _ inside => absurd inside List.not_mem_nil) listed
    constructor
    · intro inside
      exact absurd (plain _ inside) (by decide)
    · intro inside
      exact absurd (plain _ inside) (by decide)

theorem linesAfter_ne_nil (some : begun ≠ [] ∨ chars ≠ []) : linesAfter begun chars ≠ [] := by
  fun_induction linesAfter begun chars with
  | case1 begun empty => simp_all
  | case2 begun nonempty => simp
  | case3 begun rest ih => simp
  | case4 begun char rest apart breaks ih => simp
  | case5 begun char rest apart plain ih => exact ih (.inl (List.cons_ne_nil _ _))

theorem mem_newlines (member : char ∈ chars) (other : char ≠ '\r') : char ∈ newlines chars := by
  fun_induction newlines chars with
  | case1 => exact member
  | case2 rest ih =>
      rcases List.mem_cons.mp member with rfl | later
      · exact absurd rfl other
      rcases List.mem_cons.mp later with rfl | inside
      · exact List.mem_cons_self
      · exact List.mem_cons_of_mem _ (ih inside)
  | case3 first rest apart ih =>
      rcases List.mem_cons.mp member with rfl | later
      · rw [if_neg other]
        exact List.mem_cons_self
      · exact List.mem_cons_of_mem _ (ih later)

def lastBreak (chars : List Char) : List Char :=
  if chars.getLast? = some '\r' ∨ chars.getLast? = some '\n' then ['\n'] else []

theorem lastBreak_cons (some : chars ≠ []) : lastBreak (char :: chars) = lastBreak chars := by
  rw [lastBreak, lastBreak, List.getLast?_cons_of_ne_nil some]

theorem join_ended (first : List Char) (breaks : char = '\r' ∨ char = '\n') :
    ['\n'].intercalate (first :: linesAfter [] chars) ++ lastBreak (char :: chars) =
      first ++ '\n' :: (['\n'].intercalate (linesAfter [] chars) ++ lastBreak chars) := by
  by_cases last : chars = []
  · subst last
    rcases breaks with rfl | rfl <;> simp [linesAfter, lastBreak]
  · rw [lastBreak_cons last, List.intercalate_cons_of_ne_nil (linesAfter_ne_nil (.inr last))]
    simp

theorem join_linesAfter (plain : chars.any isForeignBreak = false) :
    ['\n'].intercalate (linesAfter begun chars) ++ lastBreak chars = begun.reverse ++ newlines chars := by
  fun_induction linesAfter begun chars with
  | case1 begun empty => simp_all [lastBreak, newlines]
  | case2 begun nonempty => simp [lastBreak, newlines]
  | case3 begun rest ih =>
      have later : rest.any isForeignBreak = false := by simp_all
      rw [lastBreak_cons (List.cons_ne_nil _ _), join_ended _ (.inr rfl), ih later, newlines]
      rfl
  | case4 begun char rest apart breaks ih =>
      obtain ⟨own, later⟩ : isForeignBreak char = false ∧ rest.any isForeignBreak = false := by simpa using plain
      have kind : char = '\r' ∨ char = '\n' := by
        by_contra other
        simp_all [isForeignBreak]
      rw [join_ended _ kind, ih later]
      have read : newlines (char :: rest) = '\n' :: newlines rest := by
        rw [newlines]
        · rcases kind with rfl | rfl <;> rfl
        · exact apart
      rw [read]
      rfl
  | case5 begun char rest apart unbroken ih =>
      obtain ⟨own, later⟩ : isForeignBreak char = false ∧ rest.any isForeignBreak = false := by simpa using plain
      have noReturn : char ≠ '\r' := by
        rintro rfl
        exact absurd (by decide) unbroken
      have noFeed : char ≠ '\n' := by
        rintro rfl
        exact absurd (by decide) unbroken
      have read : newlines (char :: rest) = char :: newlines rest := by
        rw [newlines, if_neg noReturn]
        exact apart
      have last : lastBreak (char :: rest) = lastBreak rest := by
        by_cases alone : rest = []
        · simp [alone, lastBreak, noReturn, noFeed]
        · exact lastBreak_cons alone
      rw [last, ih later, read, List.reverse_cons, List.append_assoc, List.singleton_append]

theorem join_pieces_iff : ['\n'].intercalate (pieces data) = newlines data.toList ↔ Framed data := by
  have joined : ['\n'].intercalate (pieces data) = ['\n'].intercalate (linesAfter [] data.toList) := by
    unfold pieces
    split
    next none => rw [none, List.intercalate_singleton]; rfl
    next => rfl
  rw [joined]
  constructor
  · intro same
    have plain : data.toList.any isForeignBreak = false := by
      by_contra some
      obtain ⟨char, member, foreign⟩ := List.any_eq_true.mp (by simpa using some)
      simp only [isForeignBreak, Bool.and_eq_true, decide_eq_true_eq] at foreign
      obtain ⟨⟨breaks, noReturn⟩, noFeed⟩ := foreign
      have inside := mem_newlines member noReturn
      rw [← same] at inside
      rcases mem_intercalate inside with feed | ⟨line, listed, holds⟩
      · exact noFeed (List.mem_singleton.mp feed)
      · have unbroken := mem_linesAfter (fun _ nothing => absurd nothing List.not_mem_nil) listed char holds
        rw [unbroken] at breaks
        cases breaks
    have whole := @join_linesAfter data.toList [] plain
    rw [same, List.reverse_nil, List.nil_append] at whole
    have none : lastBreak data.toList = [] := List.append_right_eq_self.mp whole
    refine ⟨plain, ?_, ?_⟩
    · intro last
      simp [lastBreak, last] at none
    · intro last
      simp [lastBreak, last] at none
  · rintro ⟨plain, noReturn, noFeed⟩
    have whole := @join_linesAfter data.toList [] plain
    rwa [lastBreak, if_neg (not_or.mpr ⟨noReturn, noFeed⟩), List.append_nil, List.reverse_nil, List.nil_append] at whole

end Pieces

section Written

variable {event data : String}

theorem pieces_ne_nil : pieces data ≠ [] := by
  unfold pieces
  split
  · exact List.cons_ne_nil _ _
  next some => exact some

def eventBlock (event : String) (proper : event ≠ "" ∧ OneLine event.toList) (data : String) : Block where
  type := event.toList
  data := pieces data
  named := by simpa using proper.1
  some := pieces_ne_nil
  typeLine := proper.2
  dataLines := fun _ listed => oneLine_piece listed

theorem event_eventBlock (proper : event ≠ "" ∧ OneLine event.toList) :
    (eventBlock event proper data).event = ⟨event, String.ofList (['\n'].intercalate (pieces data))⟩ := by
  rw [Block.event, eventBlock, String.ofList_toList]

theorem join_blank (lines : List (List Char)) : ['\n'].intercalate (lines ++ [[]]) = lines.flatMap (· ++ ['\n']) := by
  induction lines with
  | nil => rfl
  | cons line lines ih =>
      rw [List.cons_append, List.intercalate_cons_of_ne_nil (by simp), ih, List.flatMap_cons]

theorem sse_eventBlock (proper : event ≠ "" ∧ OneLine event.toList) :
    sse (some event) data = Utf8.encode (eventBlock event proper data).text := by
  have written : (if splitLines data = [] then [""] else splitLines data).map String.toList = pieces data := by
    unfold splitLines pieces
    by_cases none : linesAfter [] data.toList = []
    · rw [if_pos none, none]
      rfl
    · rw [if_neg none, if_neg (by simpa using none), List.map_map]
      exact (List.map_congr_left fun _ _ => String.toList_ofList).trans (List.map_id _)
  have lines : (sseLines (some event) data).map String.toList = frame event.toList (pieces data) ++ [[]] := by
    rw [← written]
    simp [sseLines, given, frame, proper.1, Function.comp_def]
  rw [sse, Utf8.encodeText, String.toList_intercalate, lines]
  exact congrArg Utf8.encode (join_blank _)

end Written

theorem proper_token : "token" ≠ "" ∧ OneLine "token".toList := ⟨by decide, by decide, by decide⟩

theorem proper_error : "error" ≠ "" ∧ OneLine "error".toList := ⟨by decide, by decide, by decide⟩

theorem proper_plan : "plan" ≠ "" ∧ OneLine "plan".toList := ⟨by decide, by decide, by decide⟩

theorem proper_done : "done" ≠ "" ∧ OneLine "done".toList := ⟨by decide, by decide, by decide⟩

section Streamed

variable {parse : String → Option Json} {result : Result}

def written (type : String) (text : Option String) : List Event :=
  (given text).map fun text => ⟨type, String.ofList (['\n'].intercalate (pieces text))⟩

theorem flatten_events {event : String} (proper : event ≠ "" ∧ OneLine event.toList) (datas : List String) :
    (datas.map (sse (some event))).flatten = Utf8.encode ((datas.map (eventBlock event proper)).flatMap Block.text) := by
  induction datas with
  | nil => rfl
  | cons data datas ih =>
      rw [List.map_cons, List.flatten_cons, ih, sse_eventBlock proper, List.map_cons, List.flatMap_cons, Utf8.encode_append]

theorem readStream_streamResult : readStream (streamResult result).flatten =
    written "token" result.content ++ written "error" result.error ++
      result.planCards.map (fun card => ⟨"plan", String.ofList (['\n'].intercalate (pieces card.dumps))⟩) ++
      [⟨"done", ""⟩] := by
  have cards : result.planCards.map (fun card => sse (some "plan") card.dumps) =
      (result.planCards.map Json.dumps).map (sse (some "plan")) := by simp only [List.map_map, Function.comp_def]
  have last : [sse (some "done") ""] = [""].map (sse (some "done")) := rfl
  rw [streamResult, cards, last, List.flatten_append, List.flatten_append, List.flatten_append,
    flatten_events proper_token, flatten_events proper_error, flatten_events proper_plan, flatten_events proper_done,
    ← Utf8.encode_append, ← Utf8.encode_append, ← Utf8.encode_append, ← List.flatMap_append, ← List.flatMap_append,
    ← List.flatMap_append, readStream_blocks]
  have ended : (eventBlock "done" proper_done "").event = ⟨"done", ""⟩ := event_eventBlock proper_done
  simp only [List.map_append, List.map_map, List.map_cons, List.map_nil, Function.comp_def, event_eventBlock, ended,
    written]

theorem written_eq_stored_iff {type : String} {text : Option String} :
    written type text = stored type text ↔ ∀ shown, text = some shown → Framed shown := by
  cases text with
  | none => simp [written, stored, given]
  | some shown =>
      by_cases empty : shown = ""
      · subst empty
        simpa [written, stored, given] using (by decide : Framed "")
      · simp [written, stored, given, empty, String.ofList_inj, join_pieces_iff]

theorem newlines_plain {chars : List Char} (plain : '\r' ∉ chars) : newlines chars = chars := by
  fun_induction newlines chars with
  | case1 => rfl
  | case2 rest ih => exact absurd List.mem_cons_self plain
  | case3 char rest apart ih =>
      obtain ⟨other, later⟩ := not_or.mp (List.mem_cons.not.mp plain)
      rw [if_neg (Ne.symm other), ih later]

theorem join_pieces_plain {data : String} (plain : ∀ char ∈ data.toList, isLineBreak char = false) :
    ['\n'].intercalate (pieces data) = data.toList := by
  have absent : ∀ char, isLineBreak char = true → char ∉ data.toList := by
    intro char breaks member
    rw [plain char member] at breaks
    cases breaks
  have framed : Framed data := by
    refine ⟨?_, ?_, ?_⟩
    · rw [List.any_eq_false]
      intro char member
      simp [isForeignBreak, plain char member]
    · exact fun last => absent '\r' (by decide) (List.mem_of_getLast? last)
    · exact fun last => absent '\n' (by decide) (List.mem_of_getLast? last)
  rw [join_pieces_iff.mpr framed, newlines_plain (absent '\r' (by decide))]

theorem dumps_plain {card : Json} (floats : Json.FloatsPrintable card.floats) :
    ∀ char ∈ card.dumps.toList, isLineBreak char = false := by
  intro char member
  rw [Json.dumps, String.toList_ofList] at member
  obtain ⟨lower, upper⟩ := Json.printable_chars card floats char member
  cases breaks : isLineBreak char with
  | false => rfl
  | true =>
      simp only [isLineBreak, List.mem_cons, List.not_mem_nil, or_false, decide_eq_true_eq] at breaks
      rcases breaks with rfl | rfl | rfl | rfl | rfl | rfl | rfl | rfl | rfl | rfl <;>
        simp at lower upper

/-- The client reads what was stored exactly when the texts are cut where the format ends a line, and do not
end with a line end. -/
theorem streamResult_stored (floats : ∀ card ∈ result.planCards, Json.FloatsPrintable card.floats)
    (decoded : ∀ card ∈ result.planCards, parse card.dumps = some card) :
    ReadsStored parse result (readStream (streamResult result).flatten) ↔
      ∀ shown, result.content = some shown ∨ result.error = some shown → Framed shown := by
  rw [readStream_streamResult]
  constructor
  · rintro ⟨plans, same, -⟩
    simp only [List.append_assoc] at same
    have sizes : ∀ type text, (written type text).length = (stored type text).length := by
      intro type text
      rw [written, stored, List.length_map, List.length_map]
    obtain ⟨content, rest⟩ := List.append_inj same (sizes _ _)
    obtain ⟨error, -⟩ := List.append_inj rest (sizes _ _)
    rintro shown (asContent | asError)
    · exact written_eq_stored_iff.mp content shown asContent
    · exact written_eq_stored_iff.mp error shown asError
  · intro framed
    have plans : result.planCards.map (fun card => Event.mk "plan" (String.ofList (['\n'].intercalate (pieces card.dumps)))) =
        result.planCards.map fun card => Event.mk "plan" card.dumps := by
      refine List.map_congr_left fun card listed => ?_
      rw [join_pieces_plain (dumps_plain (floats card listed)), String.ofList_toList]
    refine ⟨result.planCards.map fun card => ⟨"plan", card.dumps⟩, ?_, ?_, ?_⟩
    · rw [plans, written_eq_stored_iff.mpr fun shown known => framed shown (.inl known),
        written_eq_stored_iff.mpr fun shown known => framed shown (.inr known)]
    · intro plan listed
      obtain ⟨card, -, rfl⟩ := List.mem_map.mp listed
      rfl
    · rw [List.map_map]
      exact List.map_congr_left decoded

end Streamed

def restartCard : Json := .object [("id", .int 7), ("tool", .str "ssh_exec"),
  ("args", .object [("host", .str "db-1"), ("command", .str "systemctl restart db\n")]), ("tier", .str "medium")]

def proposal : Result where
  content := some "The database is down:\r\n - no answer on 5432\n\nI would restart it."
  error := none
  planCards := [restartCard]

theorem streamResult_stored_proposal :
    ReadsStored (fun text => if text = restartCard.dumps then some restartCard else none) proposal
      (readStream (streamResult proposal).flatten) := by
  have floats : ∀ card ∈ proposal.planCards, Json.FloatsPrintable card.floats := by
    intro card listed text shown
    rw [List.mem_singleton.mp listed] at shown
    cases shown
  have decoded : ∀ card ∈ proposal.planCards,
      (if card.dumps = restartCard.dumps then some restartCard else none) = some card := by
    intro card listed
    rw [List.mem_singleton.mp listed, if_pos rfl]
  refine (streamResult_stored floats decoded).mpr ?_
  rintro shown (same | same)
  · obtain rfl := Option.some.inj same
    decide
  · cases same

/-- The line end after an answer is not streamed, and a line separator in it is streamed as a line feed. -/
theorem line_ends_lost :
    readStream (streamResult { content := some "a\u2028b\n", error := none, planCards := [] }).flatten =
        [⟨"token", "a\nb"⟩, ⟨"done", ""⟩] ∧
      ∀ parse, ¬ ReadsStored parse { content := some "a\u2028b\n", error := none, planCards := [] }
        (readStream (streamResult { content := some "a\u2028b\n", error := none, planCards := [] }).flatten) := by
  have read : readStream (streamResult { content := some "a\u2028b\n", error := none, planCards := [] }).flatten =
      [⟨"token", "a\nb"⟩, ⟨"done", ""⟩] := by
    rw [readStream_streamResult]
    decide
  refine ⟨read, ?_⟩
  rintro parse ⟨plans, same, -⟩
  rw [read] at same
  have first := List.head_eq_of_cons_eq same
  exact absurd first (by decide)

end Dosm.Chat.Streaming
