import Dosm.Recording.OutputCap

namespace Dosm.Recording

open Python

/-! What the journal of a terminal session has of the secrets that are typed in it.

Two sessions are the same but for the parts of a secret. The terminal echoes what is typed
unless it has been asked for a password, and what it shows reaches the hook in chunks. The
hook judges a line by the end of the output and redacts it; the echo it takes as it comes.
-/

/-- A piece of what the terminal shows: a text, or the echo of a part of the secret. -/
inductive Piece where
  | text (text : String)
  | secret (index : Nat)

inductive Act where
  | key (char : Char)
  /-- A part of the secret is typed. -/
  | typed (index : Nat)
  | printed (text : String)
  /-- A program asks for a password; nothing is echoed until a line is entered. -/
  | asked (prompt : String)
  /-- So many pieces reach the hook, in one chunk. -/
  | delivered (count : Nat)

structure Pty where
  waiting : List Piece := []
  hidden : Bool := false

namespace Pty

def shows (pty : Pty) (piece : Piece) : Pty := { pty with waiting := pty.waiting ++ [piece] }

def echoes (pty : Pty) (piece : Piece) : Pty := if pty.hidden then pty else pty.shows piece

end Pty

/-- What reaches the hook, with the places of the secret. -/
inductive Part where
  | key (char : Char)
  | typed (index : Nat)
  | output (pieces : List Piece)

def partsOf (echo : Char → String) : Pty → List Act → List Part
  | _, [] => []
  | pty, .key char :: rest =>
      let next := pty.echoes (.text (echo char))
      .key char :: partsOf echo { next with hidden := next.hidden && !isEnter char } rest
  | pty, .typed index :: rest => .typed index :: partsOf echo (pty.echoes (.secret index)) rest
  | pty, .printed text :: rest => partsOf echo (pty.shows (.text text)) rest
  | pty, .asked prompt :: rest => partsOf echo { pty.shows (.text prompt) with hidden := true } rest
  | pty, .delivered count :: rest =>
      .output (pty.waiting.take count) :: partsOf echo { pty with waiting := pty.waiting.drop count } rest

abbrev Secret := Nat → List Char

def pieceText (echo : Char → String) (secret : Secret) : Piece → String
  | .text text => text
  | .secret index => String.join ((secret index).map echo)

def chunkText (echo : Char → String) (secret : Secret) (pieces : List Piece) : String :=
  String.join (pieces.map (pieceText echo secret))

def partSteps (echo : Char → String) (secret : Secret) : Part → List HookStep
  | .key char => [.key char]
  | .typed index => (secret index).map .key
  | .output pieces => [.output (chunkText echo secret pieces)]

section Journals

variable (word : Char → Bool) (shell : String) (options : RecordingOptions) (echo : Char → String)

/-- The journal of a session up to its end, without the times. -/
def sessionJournal (secret : Secret) (acts : List Act) : List Entry :=
  let ran := runSteps word shell options ((partsOf echo {} acts).flatMap (partSteps echo secret)) {}
  ran.2 ++ (flushPendingOutput shell (some options) "" ran.1).2

/-- Two lines that come to the same in the journal, by what they are entered after. -/
inductive LinesAlike (prompted otherPrompted : Bool) (line other : String) : Prop where
  | unrecorded (commands : options.commands = false) (blank : strip line = "" ↔ strip other = "")
  | same (lines : line = other) (prompts : prompted = otherPrompted)
  | password (prompt : prompted = true) (otherPrompt : otherPrompted = true)
      (blank : strip line = "" ↔ strip other = "")
  | flagged (slot : SecretSlot) (value otherValue : List Char) (isWord : IsWord value) (otherIsWord : IsWord otherValue)
      (lines : line = slot.fill value ∧ other = slot.fill otherValue) (plain : ¬ slot.Nested)
      (prompts : prompted = otherPrompted)

/-- What must hold when a part reaches the hooks of the two sessions. -/
def PartGuarded (secret otherSecret : Secret) (state other : HookState) : Part → Prop
  | .key char => isEnter char = true →
      LinesAlike options (pwdPrompt state.lastOutput) (pwdPrompt other.lastOutput) (String.ofList state.inputBuf)
        (String.ofList other.inputBuf)
  | .typed index => ∀ char ∈ secret index ++ otherSecret index, isEnter char = false
  | .output pieces => chunkText echo secret pieces = chunkText echo otherSecret pieces ∨
      options.terminalOutput = false ∨ state.outputCapped = true

def Guarded (secret otherSecret : Secret) : HookState → HookState → List Part → Prop
  | _, _, [] => True
  | state, other, part :: rest =>
      PartGuarded options echo secret otherSecret state other part ∧
        Guarded secret otherSecret (runSteps word shell options (partSteps echo secret part) state).1
          (runSteps word shell options (partSteps echo otherSecret part) other).1 rest

end Journals

structure Alike (options : RecordingOptions) (state other : HookState) : Prop where
  buffer : state.outputBuf = other.outputBuf
  bytes : state.outputBytes = other.outputBytes
  capped : state.outputCapped = other.outputCapped
  pending : options.commands = true → state.pendingCommand = other.pendingCommand

section Sessions

variable {word : Char → Bool} {shell : String} {options : RecordingOptions} {echo : Char → String}
  {state other : HookState} {secret otherSecret : Secret} {part : Part} {parts : List Part} {chars : List Char}
  {note data : String} {char : Char}

theorem Alike.flush (alike : Alike options state other) :
    (flushPendingOutput shell (some options) note state).2 = (flushPendingOutput shell (some options) note other).2 ∧
      Alike options (flushPendingOutput shell (some options) note state).1
        (flushPendingOutput shell (some options) note other).1 := by
  have named : state.pendingCommand.filter (fun _ => options.commands) =
      other.pendingCommand.filter fun _ => options.commands := by
    cases commands : options.commands with
    | true => rw [alike.pending commands]
    | false => simp
  refine ⟨?_, rfl, rfl, alike.capped, fun _ => rfl⟩
  simp only [flushPendingOutput, Option.elim_some, pendingEntries, named, alike.buffer]

theorem strip_fill {slot : SecretSlot} {value : List Char} (isWord : IsWord value) : strip (slot.fill value) ≠ "" := by
  intro blank
  obtain ⟨char, member⟩ := List.exists_mem_of_ne_nil value isWord.1
  have inside : char ∈ (slot.fill value).toList := by simp [SecretSlot.fill, SecretSlot.after, member]
  have visible := isWord.2 char member
  simp [isVisible, strip_eq_empty_iff.mp blank char inside] at visible

theorem LinesAlike.cases {prompted otherPrompted : Bool} {line otherLine : String}
    (alike : LinesAlike options prompted otherPrompted line otherLine) : (strip line = "" ∧ strip otherLine = "") ∨
      (strip line ≠ "" ∧ strip otherLine ≠ "" ∧
        (options.commands = true → redact word prompted line = redact word otherPrompted otherLine)) := by
  have both : (strip line = "" ↔ strip otherLine = "") →
      (strip line = "" ∧ strip otherLine = "") ∨ (strip line ≠ "" ∧ strip otherLine ≠ "") := by
    intro blank
    by_cases first : strip line = ""
    · exact .inl ⟨first, blank.mp first⟩
    · exact .inr ⟨first, fun second => first (blank.mpr second)⟩
  cases alike with
  | unrecorded commands blank =>
      refine (both blank).imp id fun visible => ⟨visible.1, visible.2, fun recorded => ?_⟩
      rw [commands] at recorded
      cases recorded
  | same lines prompts =>
      refine (both (by rw [lines])).imp id fun visible => ⟨visible.1, visible.2, fun _ => ?_⟩
      rw [lines, prompts]
  | password prompt otherPrompt blank =>
      refine (both blank).imp id fun visible => ⟨visible.1, visible.2, fun _ => ?_⟩
      rw [prompt, otherPrompt, redact, redact, if_pos rfl, if_pos rfl]
  | flagged slot value otherValue isWord otherIsWord lines plain prompts =>
      rw [lines.1, lines.2, prompts]
      refine .inr ⟨strip_fill isWord, strip_fill otherIsWord, fun _ => ?_⟩
      cases otherPrompted with
      | true => rw [redact, redact, if_pos rfl, if_pos rfl]
      | false => exact SecretSlot.redact_fill plain isWord otherIsWord

theorem Alike.typing (alike : Alike options state other) (buffer otherBuffer : List Char) :
    Alike options { state with inputBuf := buffer } { other with inputBuf := otherBuffer } :=
  ⟨alike.buffer, alike.bytes, alike.capped, alike.pending⟩

theorem onKey_plain (plain : isEnter char = false) :
    ∃ buffer, onKey word shell options char state = ({ state with inputBuf := buffer }, []) := by
  unfold onKey
  rw [plain, if_neg Bool.false_ne_true]
  split
  · exact ⟨_, rfl⟩
  · exact ⟨_, rfl⟩

theorem onKeys_plain (plain : ∀ char ∈ chars, isEnter char = false) :
    ∃ buffer, onKeys word shell options chars state = ({ state with inputBuf := buffer }, []) := by
  induction chars generalizing state with
  | nil => exact ⟨state.inputBuf, rfl⟩
  | cons char rest ih =>
      obtain ⟨buffer, first⟩ := @onKey_plain word shell options state char (plain char List.mem_cons_self)
      obtain ⟨last, later⟩ := @ih { state with inputBuf := buffer }
        fun next member => plain next (List.mem_cons_of_mem char member)
      exact ⟨last, by simp [onKeys, first, later]⟩

theorem Alike.enter (alike : Alike options state other) (enter : isEnter char = true)
    (lines : LinesAlike options (pwdPrompt state.lastOutput) (pwdPrompt other.lastOutput) (String.ofList state.inputBuf)
      (String.ofList other.inputBuf)) :
    (onKey word shell options char state).2 = (onKey word shell options char other).2 ∧
      Alike options (onKey word shell options char state).1 (onKey word shell options char other).1 := by
  have cleared := alike.typing [] []
  unfold onKey
  rw [if_pos enter, if_pos enter]
  rcases @LinesAlike.cases word _ _ _ _ _ lines with ⟨blank, otherBlank⟩ | ⟨visible, otherVisible, same⟩
  · dsimp only
    rw [if_pos blank, if_pos otherBlank]
    exact ⟨rfl, cleared⟩
  · obtain ⟨entries, flushed⟩ := @Alike.flush shell _ _ _ "" cleared
    dsimp only
    rw [if_neg visible, if_neg otherVisible]
    exact ⟨entries, flushed.buffer, flushed.bytes, rfl, fun commands => congrArg some (same commands)⟩

theorem Alike.output (alike : Alike options state other) : (onOutput shell (some options) data state).2 =
    (onOutput shell (some options) data other).2 ∧
      Alike options (onOutput shell (some options) data state).1 (onOutput shell (some options) data other).1 := by
  unfold onOutput
  dsimp only
  rw [alike.capped, alike.bytes, alike.buffer]
  split
  · exact ⟨rfl, rfl, rfl, rfl, alike.pending⟩
  · split
    · exact Alike.flush ⟨rfl, rfl, rfl, alike.pending⟩
    · split
      · exact Alike.flush ⟨rfl, rfl, rfl, alike.pending⟩
      · exact ⟨rfl, rfl, rfl, rfl, alike.pending⟩

theorem onOutput_dropped (dropped : options.terminalOutput = false ∨ state.outputCapped = true) :
    onOutput shell (some options) data state =
      ({ state with lastOutput := lastChars 512 (state.lastOutput ++ data) }, []) := by
  rcases dropped with unrecorded | capped
  · simp [onOutput, unrecorded]
  · exact onOutput_capped capped

theorem Alike.step (alike : Alike options state other)
    (guarded : PartGuarded options echo secret otherSecret state other part) :
    (runSteps word shell options (partSteps echo secret part) state).2 =
        (runSteps word shell options (partSteps echo otherSecret part) other).2 ∧
      Alike options (runSteps word shell options (partSteps echo secret part) state).1
        (runSteps word shell options (partSteps echo otherSecret part) other).1 := by
  cases part with
  | key char =>
      simp only [partSteps, runSteps, onStep, List.append_nil]
      cases enter : isEnter char with
      | true => exact alike.enter enter (guarded enter)
      | false =>
          obtain ⟨buffer, typed⟩ := @onKey_plain word shell options state char enter
          obtain ⟨otherBuffer, otherTyped⟩ := @onKey_plain word shell options other char enter
          rw [typed, otherTyped]
          exact ⟨rfl, alike.typing _ _⟩
  | typed index =>
      obtain ⟨buffer, typed⟩ := @onKeys_plain word shell options state (secret index)
        fun char member => guarded char (List.mem_append_left _ member)
      obtain ⟨otherBuffer, otherTyped⟩ := @onKeys_plain word shell options other (otherSecret index)
        fun char member => guarded char (List.mem_append_right _ member)
      rw [partSteps, partSteps, runSteps_keys, runSteps_keys, typed, otherTyped]
      exact ⟨rfl, alike.typing _ _⟩
  | output pieces =>
      simp only [partSteps, runSteps, onStep, List.append_nil]
      rcases guarded with same | dropped
      · rw [same]
        exact alike.output
      · have otherDropped : options.terminalOutput = false ∨ other.outputCapped = true := by
          rw [← alike.capped]
          exact dropped
        rw [onOutput_dropped dropped, onOutput_dropped otherDropped]
        exact ⟨rfl, alike.buffer, alike.bytes, alike.capped, alike.pending⟩

theorem Alike.run (alike : Alike options state other)
    (guarded : Guarded word shell options echo secret otherSecret state other parts) :
    (runSteps word shell options (parts.flatMap (partSteps echo secret)) state).2 =
        (runSteps word shell options (parts.flatMap (partSteps echo otherSecret)) other).2 ∧
      Alike options (runSteps word shell options (parts.flatMap (partSteps echo secret)) state).1
        (runSteps word shell options (parts.flatMap (partSteps echo otherSecret)) other).1 := by
  induction parts generalizing state other with
  | nil => exact ⟨rfl, alike⟩
  | cons part rest ih =>
      obtain ⟨entries, next⟩ := @Alike.step word shell _ _ _ _ _ _ _ alike guarded.1
      obtain ⟨later, last⟩ := ih next guarded.2
      rw [List.flatMap_cons, List.flatMap_cons, runSteps_append_snd, runSteps_append_snd, runSteps_append_fst,
        runSteps_append_fst, entries, later]
      exact ⟨rfl, last⟩

end Sessions

/-- The journals are the same when every line is alike at the time it is entered and no echo
of a secret is recorded. -/
theorem typed_secrets_unrecorded (word : Char → Bool) (shell : String) (options : RecordingOptions)
    (echo : Char → String) (secret otherSecret : Secret) (acts : List Act)
    (guarded : Guarded word shell options echo secret otherSecret {} {} (partsOf echo {} acts)) :
    sessionJournal word shell options echo secret acts = sessionJournal word shell options echo otherSecret acts := by
  obtain ⟨entries, last⟩ := Alike.run ⟨rfl, rfl, rfl, fun _ => rfl⟩ guarded
  rw [sessionJournal, sessionJournal, entries, last.flush.1]

def oneChar (char : Char) : Secret := fun _ => [char]

def login : List Act := [.asked "Password: ", .delivered 1, .typed 0, .key '\r', .printed "\r\n", .delivered 1]

def tokenTyped : List Act :=
  ['-', '-', 't', 'o', 'k', 'e', 'n', ' '].map .key ++ [.typed 0, .delivered 9, .key '\r']

theorem oneChar_plain : ∀ char ∈ oneChar 'a' 0 ++ oneChar 'b' 0, isEnter char = false := by
  intro char member
  rcases List.mem_pair.mp member with rfl | rfl <;> decide

theorem login_guarded : Guarded Char.isAlphanum "bash" {} String.singleton (oneChar 'a') (oneChar 'b') {} {}
    (partsOf String.singleton {} login) := by
  refine ⟨.inl rfl, oneChar_plain, fun _ => ?_, .inl rfl, trivial⟩
  exact .password (by decide) (by decide) (by decide)

def typedTokenSlot : SecretSlot where
  front := []
  flag := "--token".toList
  separator := ' '
  rest := []
  isFlag := token_isFlag
  isSeparator := blank_separates
  ends := ends_nil

theorem token_guarded : Guarded Char.isAlphanum "bash" { terminalOutput := false } String.singleton (oneChar 'a')
    (oneChar 'b') {} {} (partsOf String.singleton {} tokenTyped) := by
  refine ⟨nofun, nofun, nofun, nofun, nofun, nofun, nofun, nofun, oneChar_plain, .inr (.inl rfl), fun _ => ?_, trivial⟩
  have plain : ¬ typedTokenSlot.Nested := by
    rintro ⟨before, outer, separator, inside, front, -⟩
    simp [typedTokenSlot] at front
  have wordA : IsWord ['a'] := ⟨by decide, List.forall_mem_singleton.mpr (by decide)⟩
  have wordB : IsWord ['b'] := ⟨by decide, List.forall_mem_singleton.mpr (by decide)⟩
  exact .flagged typedTokenSlot ['a'] ['b'] wordA wordB ⟨by decide, by decide⟩ plain (by decide)

theorem guarded_secrets_unrecorded :
    sessionJournal Char.isAlphanum "bash" {} String.singleton (oneChar 'a') login =
        sessionJournal Char.isAlphanum "bash" {} String.singleton (oneChar 'b') login ∧
      sessionJournal Char.isAlphanum "bash" { terminalOutput := false } String.singleton (oneChar 'a') tokenTyped =
        sessionJournal Char.isAlphanum "bash" { terminalOutput := false } String.singleton (oneChar 'b') tokenTyped :=
  ⟨typed_secrets_unrecorded _ _ _ _ _ _ _ login_guarded, typed_secrets_unrecorded _ _ _ _ _ _ _ token_guarded⟩

def interrupted : List Act := [.asked "Password: ", .delivered 1, .typed 0, .printed "[1]+ Done\r\n", .delivered 1, .key '\r']

theorem echoed_token_recorded :
    sessionJournal Char.isAlphanum "bash" {} String.singleton (oneChar 'a') tokenTyped ≠
        sessionJournal Char.isAlphanum "bash" {} String.singleton (oneChar 'b') tokenTyped ∧
      sessionJournal Char.isAlphanum "bash" {} String.singleton (oneChar 'a') interrupted ≠
        sessionJournal Char.isAlphanum "bash" {} String.singleton (oneChar 'b') interrupted := by
  decide

end Dosm.Recording
