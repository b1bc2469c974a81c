import Dosm.Recording.Hook
import Mathlib.Data.String.Basic

namespace Dosm.Recording

open Python

/-! How much of a command's output gets into the journal.

The bytes are counted since the last flush. As long as nothing but the next command or the
cap itself flushes the output, the count is that of the command.
-/

section Cut

variable {limit : Nat} {chars front back more : List Char} {text : String}

theorem cutChars_append (fits : String.utf8Len front ≤ limit) :
    cutChars limit (front ++ back) = front ++ cutChars (limit - String.utf8Len front) back := by
  induction front generalizing limit with
  | nil => simp
  | cons char front ih =>
      rw [String.utf8Len] at fits
      have first : char.utf8Size ≤ limit := by omega
      have rest : limit - (String.utf8Len front + char.utf8Size) = limit - char.utf8Size - String.utf8Len front := by
        omega
      rw [List.cons_append, cutChars, if_pos first, ih (by omega), String.utf8Len, rest]
      rfl

theorem cutChars_extend (longer : limit < String.utf8Len chars) : cutChars limit (chars ++ more) = cutChars limit chars := by
  induction chars generalizing limit with
  | nil => simp at longer
  | cons char chars ih =>
      rw [String.utf8Len] at longer
      rw [List.cons_append, cutChars, cutChars]
      by_cases fits : char.utf8Size ≤ limit
      · rw [if_pos fits, if_pos fits, ih (by omega)]
      · rw [if_neg fits, if_neg fits]

theorem cutChars_split : ∃ base replaced rest, cutChars limit chars = base ++ replaced ∧
    (replaced = [] ∨ replaced = ['\uFFFD']) ∧ chars = base ++ rest ∧ String.utf8Len base ≤ limit := by
  induction chars generalizing limit with
  | nil => exact ⟨[], [], [], rfl, .inl rfl, rfl, Nat.zero_le _⟩
  | cons char chars ih =>
      rw [cutChars]
      by_cases fits : char.utf8Size ≤ limit
      · obtain ⟨base, replaced, rest, cut, either, split, bound⟩ := @ih (limit - char.utf8Size)
        refine ⟨char :: base, replaced, rest, by rw [if_pos fits, cut]; rfl, either, by rw [split]; rfl, ?_⟩
        rw [String.utf8Len]
        omega
      · rw [if_neg fits]
        split
        · exact ⟨[], [], char :: chars, rfl, .inl rfl, rfl, Nat.zero_le _⟩
        · exact ⟨[], ['\uFFFD'], char :: chars, rfl, .inr rfl, rfl, Nat.zero_le _⟩

theorem cutText_append {first second : String} (fits : first.utf8ByteSize ≤ limit) :
    cutText limit (first ++ second) = first ++ cutText (limit - first.utf8ByteSize) second := by
  rw [← String.utf8Len_toList] at fits ⊢
  rw [cutText, String.toList_append, cutChars_append fits, String.ofList_append, String.ofList_toList, cutText]

theorem cutText_extend {first second : String} (longer : limit < first.utf8ByteSize) :
    cutText limit (first ++ second) = cutText limit first := by
  rw [← String.utf8Len_toList] at longer
  rw [cutText, String.toList_append, cutChars_extend longer, cutText]

theorem rstrip_split : ∃ blanks, text = rstrip text ++ blanks := by
  obtain ⟨blanks, split⟩ := List.rdropWhile_prefix isSpace (l := text.toList)
  refine ⟨String.ofList blanks, ?_⟩
  rw [rstrip, ← String.ofList_append, split, String.ofList_toList]

theorem rstrip_replaced : rstrip (text ++ "\uFFFD") = text ++ "\uFFFD" := by
  have visible : ¬ isSpace '\uFFFD' = true := by decide
  have last : (text ++ "\uFFFD").toList = text.toList ++ ['\uFFFD'] := by simp [String.toList_append]
  rw [rstrip, last, List.rdropWhile_concat_neg _ _ _ visible, ← last, String.ofList_toList]

theorem rstrip_cut : ∃ base replaced rest, rstrip (cutText limit text) = base ++ replaced ∧
    (replaced = "" ∨ replaced = "\uFFFD") ∧ text = base ++ rest ∧ base.utf8ByteSize ≤ limit := by
  obtain ⟨base, replaced, rest, cut, either, split, bound⟩ := @cutChars_split limit text.toList
  have same : cutText limit text = String.ofList base ++ String.ofList replaced := by
    rw [cutText, cut, String.ofList_append]
  have whole : text = String.ofList base ++ String.ofList rest := by
    rw [← String.ofList_append, ← split, String.ofList_toList]
  have size : (String.ofList base).utf8ByteSize ≤ limit := by
    rw [String.utf8ByteSize_ofList]
    exact bound
  rcases either with rfl | rfl
  · obtain ⟨blanks, kept⟩ := @rstrip_split (String.ofList base)
    have sizes := congrArg String.utf8ByteSize kept
    rw [String.utf8ByteSize_append] at sizes
    refine ⟨rstrip (String.ofList base), "", blanks ++ String.ofList rest, ?_, .inl rfl, ?_, by omega⟩
    · rw [same, String.ofList_nil, String.append_empty, String.append_empty]
    · rw [← String.append_assoc, ← kept, whole]
  · exact ⟨_, _, _, by rw [same]; exact rstrip_replaced, .inr rfl, whole, size⟩

end Cut

def written (entries : List Entry) : String := String.join (entries.map Entry.output)

def outputsOf (steps : List HookStep) : List String :=
  steps.filterMap fun
    | .output data => some data
    | .key _ => none

def capBytes (options : RecordingOptions) : Nat := (options.outputCapKb * 1024).toNat

/-- What is to be in the journal of the output between two commands. -/
structure KeepsCap (options : RecordingOptions) (produced : String) (entries : List Entry) : Prop where
  bounded : ∃ base replaced rest, written entries = base ++ replaced ∧ (replaced = "" ∨ replaced = "\uFFFD") ∧
    produced = base ++ rest ∧ base.utf8ByteSize ≤ capBytes options
  noted : options.terminalOutput = true → written entries ≠ rstrip produced →
    ∃ entry ∈ entries, ∃ front overflow, entry.label = front ++ capNote overflow options.outputCapKb

/-- A line is entered that is not blank. -/
def IsCommand (state : HookState) : HookStep → Prop
  | .key char => isEnter char = true ∧ strip (String.ofList state.inputBuf) ≠ ""
  | .output _ => False

def Quiet (word : Char → Bool) (shell : String) (options : RecordingOptions) : HookState → List HookStep → Prop
  | _, [] => True
  | state, step :: rest => ¬ IsCommand state step ∧ Quiet word shell options (onStep word shell options step state).1 rest

/-- No chunk brings the output to the threshold while it is within the cap. -/
def NeverFlushed (options : RecordingOptions) (outputs : List String) : Prop :=
  ∀ front, front <+: outputs →
    ¬ (flushThreshold ≤ (String.join front).utf8ByteSize ∧ (String.join front).utf8ByteSize ≤ capBytes options)

/-- There is an entry that can carry a note. -/
def NoteShown (options : RecordingOptions) (produced : String) : Prop :=
  options.commands = true ∨ produced.utf8ByteSize ≤ capBytes options ∨ strip (cutText (capBytes options) produced) ≠ ""

inductive Block (shell : String) (options : RecordingOptions) (command produced : String) :
    HookState → List Entry → Prop where
  | buffered {state : HookState} (pending : state.pendingCommand = some command) (uncapped : state.outputCapped = false)
      (buffer : state.outputBuf = produced) (bytes : state.outputBytes = produced.utf8ByteSize)
      (within : produced.utf8ByteSize ≤ capBytes options) : Block shell options command produced state []
  | cut {state : HookState} (overflow : Nat) (pending : state.pendingCommand = none)
      (capped : state.outputCapped = true) (buffer : state.outputBuf = "")
      (beyond : capBytes options < produced.utf8ByteSize) :
      Block shell options command produced state
        (pendingEntries shell options (capNote overflow options.outputCapKb)
          { pendingCommand := some command, outputBuf := cutText (capBytes options) produced })

section Blocks

variable {word : Char → Bool} {shell command produced data : String} {options : RecordingOptions}
  {state : HookState} {entries : List Entry} {char : Char} {step : HookStep} {steps : List HookStep} {note : String}

theorem pendingEntries_congr {other : HookState} (pending : state.pendingCommand = other.pendingCommand)
    (buffer : state.outputBuf = other.outputBuf) :
    pendingEntries shell options note state = pendingEntries shell options note other := by
  rw [pendingEntries, pendingEntries, pending, buffer]

theorem outputCap_eq (positive : 0 < options.outputCapKb) : outputCap options = some (capBytes options) := by
  rw [outputCap, if_pos positive, capBytes]

theorem onKey_quiet (quiet : ¬ IsCommand state (.key char)) : (onKey word shell options char state).2 = [] ∧
    ∃ buffer, (onKey word shell options char state).1 = { state with inputBuf := buffer } := by
  unfold onKey
  split
  next enter =>
    dsimp only
    split
    · exact ⟨rfl, _, rfl⟩
    next line => exact absurd ⟨enter, line⟩ quiet
  next =>
    split
    · exact ⟨rfl, _, rfl⟩
    · exact ⟨rfl, _, rfl⟩

theorem Block.key (block : Block shell options command produced state entries) (quiet : ¬ IsCommand state (.key char)) :
    Block shell options command produced (onKey word shell options char state).1 entries := by
  obtain ⟨_, buffer, same⟩ := @onKey_quiet word shell options state char quiet
  rw [same]
  cases block with
  | buffered pending uncapped buffer bytes within => exact .buffered pending uncapped buffer bytes within
  | cut overflow pending capped buffer beyond => exact .cut overflow pending capped buffer beyond

theorem onOutput_recorded (positive : 0 < options.outputCapKb) (recorded : options.terminalOutput = true)
    (uncapped : state.outputCapped = false) : onOutput shell (some options) data state =
      if capBytes options < state.outputBytes + data.utf8ByteSize then
        flushPendingOutput shell (some options)
          (capNote (data.utf8ByteSize - (capBytes options - state.outputBytes)) options.outputCapKb)
          { state with
            lastOutput := lastChars 512 (state.lastOutput ++ data)
            outputBuf := state.outputBuf ++ cutText (capBytes options - state.outputBytes) data
            outputBytes := state.outputBytes + (capBytes options - state.outputBytes)
            outputCapped := true }
      else
        let kept := { state with
          lastOutput := lastChars 512 (state.lastOutput ++ data)
          outputBuf := state.outputBuf ++ data
          outputBytes := state.outputBytes + data.utf8ByteSize }
        if flushThreshold ≤ state.outputBytes + data.utf8ByteSize then flushPendingOutput shell (some options) "" kept
        else (kept, []) := by
  unfold onOutput
  dsimp only
  rw [outputCap_eq positive, recorded]
  by_cases beyond : capBytes options < state.outputBytes + data.utf8ByteSize
  · have filtered : (some (capBytes options)).filter (fun cap => cap < state.outputBytes + data.utf8ByteSize) =
        some (capBytes options) := by simp [beyond]
    rw [filtered, if_pos beyond]
    simp [uncapped]
  · have filtered : (some (capBytes options)).filter (fun cap => cap < state.outputBytes + data.utf8ByteSize) =
        none := by simpa using beyond
    rw [filtered, if_neg beyond]
    simp [uncapped]

theorem onOutput_capped (capped : state.outputCapped = true) : onOutput shell (some options) data state =
    ({ state with lastOutput := lastChars 512 (state.lastOutput ++ data) }, []) := by
  simp [onOutput, capped]

theorem Block.output (block : Block shell options command produced state entries)
    (positive : 0 < options.outputCapKb) (recorded : options.terminalOutput = true)
    (never : ¬ (flushThreshold ≤ (produced ++ data).utf8ByteSize ∧ (produced ++ data).utf8ByteSize ≤ capBytes options)) :
    Block shell options command (produced ++ data) (onOutput shell (some options) data state).1
      (entries ++ (onOutput shell (some options) data state).2) := by
  cases block with
  | buffered pending uncapped buffer bytes within =>
      rw [onOutput_recorded positive recorded uncapped]
      rw [String.utf8ByteSize_append, ← bytes] at never
      by_cases beyond : capBytes options < state.outputBytes + data.utf8ByteSize
      · rw [if_pos beyond]
        have text : state.outputBuf ++ cutText (capBytes options - state.outputBytes) data =
            cutText (capBytes options) (produced ++ data) := by
          rw [cutText_append within, buffer, bytes]
        have flushed := fun note => @pendingEntries_congr shell options { state with
          lastOutput := lastChars 512 (state.lastOutput ++ data)
          outputBuf := state.outputBuf ++ cutText (capBytes options - state.outputBytes) data
          outputBytes := state.outputBytes + (capBytes options - state.outputBytes)
          outputCapped := true } note
          { pendingCommand := some command, outputBuf := cutText (capBytes options) (produced ++ data) } pending text
        rw [flushPendingOutput, Option.elim_some, List.nil_append, flushed]
        refine .cut _ rfl rfl rfl ?_
        rw [String.utf8ByteSize_append, ← bytes]
        exact beyond
      · have below : ¬ flushThreshold ≤ state.outputBytes + data.utf8ByteSize := fun reached =>
          never ⟨reached, Nat.le_of_not_lt beyond⟩
        rw [if_neg beyond]
        dsimp only
        rw [if_neg below, List.append_nil]
        refine .buffered pending uncapped (by rw [buffer]) ?_ ?_
        · rw [String.utf8ByteSize_append, bytes]
        · rw [String.utf8ByteSize_append, ← bytes]
          exact Nat.le_of_not_lt beyond
  | cut overflow pending capped buffer beyond =>
      rw [onOutput_capped capped, List.append_nil, ← @cutText_extend _ _ data beyond]
      refine .cut overflow pending capped buffer ?_
      rw [String.utf8ByteSize_append]
      omega

theorem NeverFlushed.here {outputs rest : List String} (never : NeverFlushed options (outputs ++ rest)) :
    ¬ (flushThreshold ≤ (String.join outputs).utf8ByteSize ∧ (String.join outputs).utf8ByteSize ≤ capBytes options) :=
  never outputs (List.prefix_append _ _)

theorem Block.run {outputs : List String}
    (block : Block shell options command (String.join outputs) state entries)
    (positive : 0 < options.outputCapKb) (recorded : options.terminalOutput = true)
    (quiet : Quiet word shell options state steps) (never : NeverFlushed options (outputs ++ outputsOf steps)) :
    Block shell options command (String.join (outputs ++ outputsOf steps)) (runSteps word shell options steps state).1
      (entries ++ (runSteps word shell options steps state).2) := by
  induction steps generalizing state entries outputs with
  | nil => simpa [outputsOf, runSteps] using block
  | cons step rest ih =>
      cases step with
      | key char =>
          have silent := (@onKey_quiet word shell options state char quiet.1).1
          have next := ih (block.key quiet.1) quiet.2 never
          simp only [runSteps, onStep, silent, List.nil_append]
          exact next
      | output data =>
          have longer : outputs ++ outputsOf (.output data :: rest) = (outputs ++ [data]) ++ outputsOf rest := by
            simp [outputsOf]
          rw [longer] at never ⊢
          have joined : String.join (outputs ++ [data]) = String.join outputs ++ data := by
            rw [String.join_append, String.join_cons, String.join_nil, String.append_empty]
          have here := never.here
          rw [joined] at here
          have after := @Block.output _ _ _ data _ _ _ block positive recorded here
          rw [← joined] at after
          have next := ih after quiet.2 never
          simp only [runSteps, onStep]
          rw [← List.append_assoc entries]
          exact next

theorem rstrip_blank {text : String} (blank : strip text = "") : rstrip text = "" := by
  rw [rstrip, List.rdropWhile_eq_nil_iff.mpr (strip_eq_empty_iff.mp blank), String.ofList_nil]

theorem written_append {more : List Entry} : written (entries ++ more) = written entries ++ written more := by
  rw [written, List.map_append, String.join_append, written, written]

theorem written_pending (recorded : options.terminalOutput = true) :
    written (pendingEntries shell options note state) = rstrip state.outputBuf := by
  by_cases blank : strip state.outputBuf = ""
  · rw [rstrip_blank blank, pendingEntries]
    split <;> simp [blank, written, Entry.output]
  · rw [pendingEntries]
    split <;> simp [blank, recorded, written, Entry.output]

theorem written_unrecorded (unrecorded : options.terminalOutput = false) :
    written (pendingEntries shell options note state) = "" := by
  rw [pendingEntries]
  split <;> simp [unrecorded, written, Entry.output]

theorem withNote_label {label : String} {overflow : Nat} {kb : Int} :
    ∃ front, withNote label (capNote overflow kb) = front ++ capNote overflow kb := by
  refine ⟨label ++ "  ", if_neg ?_⟩
  intro empty
  have ending : "*[truncated - " ++ toString overflow ++ " B beyond " ++ toString kb ++ " KB cap]*" = "" := empty
  exact absurd (String.append_eq_empty_iff.mp ending).2 (by decide)

theorem pending_noted {overflow : Nat} {kb : Int} (recorded : options.terminalOutput = true)
    (command : state.pendingCommand.isSome) (shown : options.commands = true ∨ strip state.outputBuf ≠ "") :
    ∃ entry ∈ pendingEntries shell options (capNote overflow kb) state,
      ∃ front overflow, entry.label = front ++ capNote overflow kb := by
  obtain ⟨text, pending⟩ := Option.isSome_iff_exists.mp command
  have labelled : ∀ label, ∃ front overflow', withNote label (capNote overflow kb) = front ++ capNote overflow' kb := by
    intro label
    obtain ⟨front, same⟩ := @withNote_label label overflow kb
    exact ⟨front, overflow, same⟩
  cases commands : options.commands with
  | true =>
      have taken : state.pendingCommand.filter (fun _ => options.commands) = some text := by simp [pending, commands]
      rw [pendingEntries, taken]
      dsimp only
      split
      · exact ⟨_, List.mem_singleton.mpr rfl, labelled _⟩
      · exact ⟨_, List.mem_singleton.mpr rfl, labelled _⟩
  | false =>
      have passed : state.pendingCommand.filter (fun _ => options.commands) = none := by simp [commands]
      have visible : (decide (strip state.outputBuf ≠ "") && options.terminalOutput) = true := by
        simpa [commands, recorded] using shown
      rw [pendingEntries, passed]
      dsimp only
      rw [if_pos visible]
      exact ⟨_, List.mem_singleton.mpr rfl, labelled _⟩

theorem Block.keepsCap (block : Block shell options command produced state entries)
    (recorded : options.terminalOutput = true) (shown : NoteShown options produced) :
    KeepsCap options produced (entries ++ pendingEntries shell options "" state) := by
  cases block with
  | buffered pending uncapped buffer bytes within =>
      have all : written ([] ++ pendingEntries shell options "" state) = rstrip produced := by
        rw [List.nil_append, written_pending recorded, buffer]
      obtain ⟨blanks, split⟩ := @rstrip_split produced
      have sizes := congrArg String.utf8ByteSize split
      rw [String.utf8ByteSize_append] at sizes
      constructor
      · exact ⟨rstrip produced, "", blanks, by rw [all, String.append_empty], .inl rfl, split, by omega⟩
      · intro _ other
        exact absurd all other
  | cut overflow pending capped buffer beyond =>
      have nothing : pendingEntries shell options "" state = [] := by
        rw [pendingEntries, pending, buffer]
        rfl
      rw [nothing, List.append_nil]
      constructor
      · rw [written_pending recorded]
        exact rstrip_cut
      · intro _ _
        apply pending_noted recorded rfl
        rcases shown with commands | within | visible
        · exact .inl commands
        · omega
        · exact .inr visible

theorem block_begins (begins : IsCommand state step) :
    ∃ command, Block shell options command "" (onStep word shell options step state).1 [] := by
  cases step with
  | output data => exact begins.elim
  | key char =>
      obtain ⟨enter, line⟩ := begins
      refine ⟨redact word (pwdPrompt state.lastOutput) (String.ofList state.inputBuf), ?_⟩
      simp only [onStep, onKey, enter, if_true, line, if_false, flushPendingOutput]
      exact .buffered rfl rfl rfl rfl (Nat.zero_le _)

theorem command_entries (ends : IsCommand state step) :
    (onStep word shell options step state).2 = pendingEntries shell options "" state := by
  cases step with
  | output data => exact ends.elim
  | key char =>
      obtain ⟨enter, line⟩ := ends
      simp only [onStep, onKey, enter, if_true, line, if_false, flushPendingOutput, Option.elim_some]
      exact pendingEntries_congr rfl rfl

theorem onStep_unrecorded (unrecorded : options.terminalOutput = false) :
    written (onStep word shell options step state).2 = "" := by
  cases step with
  | output data => simp [onStep, onOutput, unrecorded, written]
  | key char =>
      by_cases command : IsCommand state (.key char)
      · rw [command_entries command, written_unrecorded unrecorded]
      · rw [onStep, (onKey_quiet command).1]
        rfl

theorem runSteps_unrecorded (unrecorded : options.terminalOutput = false) :
    written (runSteps word shell options steps state).2 = "" := by
  induction steps generalizing state with
  | nil => rfl
  | cons step rest ih => simp only [runSteps, written_append, onStep_unrecorded unrecorded, ih, String.append_empty]

end Blocks

structure Between (word : Char → Bool) (shell : String) (options : RecordingOptions) (steps : List HookStep)
    (before : List HookStep) (first : HookStep) (middle : List HookStep) (second : HookStep) : Prop where
  split : ∃ after, steps = before ++ [first] ++ (middle ++ [second]) ++ after
  begins : IsCommand (runSteps word shell options before {}).1 first
  quiet : Quiet word shell options (runSteps word shell options (before ++ [first]) {}).1 middle
  ends : IsCommand (runSteps word shell options (before ++ [first] ++ middle) {}).1 second

/-- What is written from the first command to the second. -/
def entriesBetween (word : Char → Bool) (shell : String) (options : RecordingOptions) (before : List HookStep)
    (first : HookStep) (middle : List HookStep) (second : HookStep) : List Entry :=
  (runSteps word shell options (middle ++ [second]) (runSteps word shell options (before ++ [first]) {}).1).2

section Intervals

variable {word : Char → Bool} {shell : String} {options : RecordingOptions} {calls : List Call}
  {steps before middle : List HookStep} {first second : HookStep}

theorem entriesBetween_part (between : Between word shell options steps before first middle second) :
    entriesBetween word shell options before first middle second <:+: (runSteps word shell options steps {}).2 := by
  obtain ⟨after, split⟩ := between.split
  rw [split, runSteps_append_snd, runSteps_append_snd]
  exact ⟨_, _, rfl⟩

theorem entriesBetween_keepsCap (positive : 0 < options.outputCapKb)
    (between : Between word shell options steps before first middle second)
    (never : NeverFlushed options (outputsOf middle)) (shown : NoteShown options (String.join (outputsOf middle))) :
    KeepsCap options (String.join (outputsOf middle)) (entriesBetween word shell options before first middle second) := by
  cases recorded : options.terminalOutput with
  | false =>
      have nothing : written (entriesBetween word shell options before first middle second) = "" :=
        runSteps_unrecorded recorded
      constructor
      · exact ⟨"", "", _, nothing, .inl rfl, (String.empty_append).symm, Nat.zero_le _⟩
      · intro other
        rw [recorded] at other
        cases other
  | true =>
      have start : (runSteps word shell options (before ++ [first]) {}).1 =
          (onStep word shell options first (runSteps word shell options before {}).1).1 := by
        rw [runSteps_append_fst]
        rfl
      have reached : (runSteps word shell options (before ++ [first] ++ middle) {}).1 =
          (runSteps word shell options middle (runSteps word shell options (before ++ [first]) {}).1).1 := by
        rw [runSteps_append_fst]
      obtain ⟨command, block⟩ := @block_begins word shell options _ first between.begins
      rw [← start] at block
      have filled := @Block.run word shell _ options _ _ middle [] block positive recorded between.quiet never
      have flushed := @command_entries word shell options _ second between.ends
      rw [reached] at flushed
      have completed := filled.keepsCap recorded shown
      rw [entriesBetween, runSteps_append_snd]
      simp only [runSteps, flushed, List.append_nil]
      exact completed

theorem neverFlushed_of_size {outputs : List String} (short : (String.join outputs).utf8ByteSize < flushThreshold) :
    NeverFlushed options outputs := by
  rintro front ⟨rest, rfl⟩ ⟨reached, -⟩
  rw [String.join_append, String.utf8ByteSize_append] at short
  omega

end Intervals

/-- Between two commands the output in the journal is a beginning of what was shown, within
the cap and with a note of what is missing, if the cap is the first to flush it. -/
theorem output_kept_within_cap (word : Char → Bool) (shell : String) (options : RecordingOptions) (calls : List Call)
    (before middle : List HookStep) (first second : HookStep) (positive : 0 < options.outputCapKb)
    (between : Between word shell options (calls.flatMap Call.steps) before first middle second)
    (never : NeverFlushed options (outputsOf middle)) (shown : NoteShown options (String.join (outputsOf middle))) :
    entriesBetween word shell options before first middle second <:+: (runCalls word shell options calls {}).2 ∧
      KeepsCap options (String.join (outputsOf middle))
        (entriesBetween word shell options before first middle second) := by
  rw [runCalls_steps]
  exact ⟨entriesBetween_part between, entriesBetween_keepsCap positive between never shown⟩

def listing : List Call := [.input "w\r", .output "up 3 days\r\n", .input "w\r"]

theorem listing_between : Between Char.isAlphanum "bash" {} (listing.flatMap Call.steps) [.key 'w'] (.key '\r')
    [.output "up 3 days\r\n", .key 'w'] (.key '\r') where
  split := ⟨[], rfl⟩
  begins := ⟨rfl, by decide⟩
  quiet := ⟨id, fun command => absurd command.1 (by decide), trivial⟩
  ends := ⟨rfl, by decide⟩

theorem short_output_kept : entriesBetween Char.isAlphanum "bash" {} [.key 'w'] (.key '\r')
      [.output "up 3 days\r\n", .key 'w'] (.key '\r') <:+: (runCalls Char.isAlphanum "bash" {} listing {}).2 ∧
    KeepsCap {} "up 3 days\r\n" (entriesBetween Char.isAlphanum "bash" {} [.key 'w'] (.key '\r')
      [.output "up 3 days\r\n", .key 'w'] (.key '\r')) :=
  output_kept_within_cap Char.isAlphanum "bash" {} listing [.key 'w'] [.output "up 3 days\r\n", .key 'w'] (.key '\r')
    (.key '\r') (by decide) listing_between (neverFlushed_of_size (by decide)) (.inl rfl)

section Floods

variable {word : Char → Bool} {shell data : String} {options : RecordingOptions} {state : HookState}
  {outputs : List String}

theorem onOutput_flushed (positive : 0 < options.outputCapKb) (recorded : options.terminalOutput = true)
    (uncapped : state.outputCapped = false) (empty : state.outputBuf = "" ∧ state.outputBytes = 0)
    (reached : flushThreshold ≤ data.utf8ByteSize) (within : data.utf8ByteSize ≤ capBytes options) :
    written (onOutput shell (some options) data state).2 = rstrip data ∧
      (onOutput shell (some options) data state).1.outputCapped = false ∧
      (onOutput shell (some options) data state).1.outputBuf = "" ∧
      (onOutput shell (some options) data state).1.outputBytes = 0 := by
  rw [onOutput_recorded positive recorded uncapped, empty.1, empty.2, Nat.zero_add,
    if_neg (Nat.not_lt.mpr within)]
  simp only [reached, if_true, flushPendingOutput, Option.elim_some, written_pending recorded, String.empty_append,
    uncapped, and_self]

theorem chunks_written (positive : 0 < options.outputCapKb) (recorded : options.terminalOutput = true)
    (uncapped : state.outputCapped = false) (empty : state.outputBuf = "" ∧ state.outputBytes = 0)
    (sizes : ∀ data ∈ outputs, flushThreshold ≤ data.utf8ByteSize ∧ data.utf8ByteSize ≤ capBytes options ∧
      rstrip data = data) :
    written (runSteps word shell options (outputs.map .output) state).2 = String.join outputs := by
  induction outputs generalizing state with
  | nil => rfl
  | cons data outputs ih =>
      obtain ⟨reached, within, visible⟩ := sizes data List.mem_cons_self
      obtain ⟨now, next, buffer, bytes⟩ := @onOutput_flushed shell data options state positive recorded uncapped empty
        reached within
      have later := ih next ⟨buffer, bytes⟩ fun other member => sizes other (List.mem_cons_of_mem data member)
      simp only [List.map_cons, runSteps, onStep, written_append, now, visible, later, String.join_cons]

theorem quiet_outputs : Quiet word shell options state (outputs.map .output) := by
  induction outputs generalizing state with
  | nil => trivial
  | cons data outputs ih => exact ⟨id, ih⟩

theorem onOutput_inputBuf {recording : Option RecordingOptions} :
    (onOutput shell recording data state).1.inputBuf = state.inputBuf := by
  unfold onOutput
  cases recording with
  | none => rfl
  | some options =>
      dsimp only
      split
      · rfl
      · split
        · rw [flushPendingOutput]
        · split
          · rw [flushPendingOutput]
          · rfl

theorem outputs_inputBuf : (runSteps word shell options (outputs.map .output) state).1.inputBuf = state.inputBuf := by
  induction outputs generalizing state with
  | nil => rfl
  | cons data outputs ih => simp only [List.map_cons, runSteps, onStep, ih, onOutput_inputBuf]

end Floods

def letters (count : Nat) : String := String.ofList (List.replicate count 'a')

theorem letters_size {count : Nat} : (letters count).utf8ByteSize = count := by
  rw [letters, String.utf8ByteSize_ofList]
  induction count with
  | zero => rfl
  | succ count ih =>
      rw [List.replicate_succ, String.utf8Len, ih]
      rfl

theorem rstrip_letters {count : Nat} : rstrip (letters count) = letters count := by
  have letter : ¬ isSpace 'a' = true := by decide
  cases count with
  | zero => rfl
  | succ count =>
      rw [rstrip, letters, String.toList_ofList, List.replicate_succ', List.rdropWhile_concat_neg _ _ _ letter]

def pages : List String := List.replicate 3 (letters flushThreshold)

theorem pages_fit : ∀ data ∈ pages, flushThreshold ≤ data.utf8ByteSize ∧ data.utf8ByteSize ≤ capBytes {} ∧
    rstrip data = data := by
  intro data member
  rw [List.eq_of_mem_replicate member, letters_size]
  exact ⟨Nat.le_refl _, by decide, rstrip_letters⟩

theorem pages_size : (String.join pages).utf8ByteSize = 3 * flushThreshold := by
  simp only [pages, List.replicate_succ, List.replicate_zero, String.join_cons, String.join_nil,
    String.utf8ByteSize_append, letters_size, String.utf8ByteSize_empty]
  omega

def flood : List HookStep := .key 'w' :: pages.map .output

def floodCalls : List Call := .input "w\rw" :: pages.map .output ++ [.input "\r"]

theorem floodCalls_steps : floodCalls.flatMap Call.steps = [.key 'w'] ++ [.key '\r'] ++ (flood ++ [.key '\r']) ++ [] := by
  have outputs : (pages.map Call.output).flatMap Call.steps = pages.map .output := by
    rw [List.flatMap_map]
    exact List.flatMap_pure_eq_map _ _
  rw [floodCalls, List.cons_append, List.flatMap_cons, List.flatMap_append, outputs]
  rfl

theorem typed_inputBuf :
    (runSteps Char.isAlphanum "bash" {} ([.key 'w'] ++ [.key '\r'] ++ flood) {}).1.inputBuf = ['w'] := by
  have typed : (runSteps Char.isAlphanum "bash" {} ([.key 'w'] ++ [.key '\r'] ++ [.key 'w']) {}).1.inputBuf = ['w'] := by
    decide
  rw [flood, List.append_cons _ (HookStep.key 'w'), runSteps_append_fst, outputs_inputBuf, typed]

theorem flood_between : Between Char.isAlphanum "bash" {} (floodCalls.flatMap Call.steps) [.key 'w'] (.key '\r') flood
    (.key '\r') where
  split := ⟨[], floodCalls_steps⟩
  begins := ⟨rfl, by decide⟩
  quiet := by
    rw [flood]
    exact ⟨fun command => absurd command.1 (by decide), quiet_outputs⟩
  ends := by
    have visible : strip (String.ofList ['w']) ≠ "" := by decide
    rw [← typed_inputBuf] at visible
    exact ⟨rfl, visible⟩

/-- Each page is flushed by itself, and under a cap of ten kilobytes all three are written. -/
theorem flush_resets_cap :
    Between Char.isAlphanum "bash" {} (floodCalls.flatMap Call.steps) [.key 'w'] (.key '\r') flood (.key '\r') ∧
      ¬ KeepsCap {} (String.join (outputsOf flood))
        (entriesBetween Char.isAlphanum "bash" {} [.key 'w'] (.key '\r') flood (.key '\r')) := by
  refine ⟨flood_between, fun keeps => ?_⟩
  obtain ⟨base, replaced, rest, all, either, -, bound⟩ := keeps.bounded
  have split : flood ++ [.key '\r'] = [.key 'w'] ++ (pages.map .output ++ [.key '\r']) := rfl
  have flushed := fun state uncapped empty =>
    @chunks_written Char.isAlphanum "bash" {} state pages (by decide) rfl uncapped empty pages_fit
  have sizes := congrArg String.utf8ByteSize all
  rw [entriesBetween, split, runSteps_append_snd, runSteps_append_snd, written_append, written_append,
    flushed _ (by decide) ⟨by decide, by decide⟩] at sizes
  simp only [String.utf8ByteSize_append, pages_size] at sizes
  have cap : capBytes {} = 10240 := rfl
  have threshold : flushThreshold = 4096 := rfl
  have mark : replaced.utf8ByteSize ≤ 3 := by
    rcases either with rfl | rfl <;> decide
  omega

end Dosm.Recording
