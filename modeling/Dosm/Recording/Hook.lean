import Dosm.Python.Slices
import Dosm.Recording.Journal
import Dosm.Recording.Redaction

namespace Dosm.Recording

open Python

/-! The hook of a terminal session: what is typed and shown becomes entries of the journal.

A recording may be active or not at every call. Entries are kept without their times.
-/

inductive Entry where
  | event (category text : String)
  | block (category label content : String)
  deriving DecidableEq

namespace Entry

def render (options : RecordingOptions) (clock : String) : Entry → String
  | .event category text => writeEvent options clock category text
  | .block category label content => writeBlock options clock category label content

def label : Entry → String
  | .event _ text => text
  | .block _ label _ => label

def output : Entry → String
  | .event _ _ => ""
  | .block _ _ content => content

end Entry

/-- What follows the words of a password prompt at the end of the output. -/
def endsPrompt : List Char → Bool
  | ':' :: rest => rest.all isSpace
  | rest => rest.all isSpace

/-- `PWD_PROMPT_RE` matches here. -/
def pwdPromptAt (chars : List Char) : Bool :=
  ["password", "passcode", "passphrase", "enter password"].any (fun word => (afterLetters word chars).any endsPrompt) ||
    (afterLetters "[sudo] password for " chars).any fun rest =>
      rest.takeWhile isVisible ≠ [] && (rest.dropWhile isVisible).all isSpace

/-- `PWD_PROMPT_RE.search` -/
def pwdPrompt (text : String) : Bool := text.toList.tails.any pwdPromptAt

/-- `text[-count:]`, for a positive count. -/
def lastChars (count : Nat) (text : String) : String := String.ofList (text.toList.drop (text.length - count))

/-- The first bytes of a text, read as text again; a character that is cut is replaced. -/
def cutChars : Nat → List Char → List Char
  | _, [] => []
  | limit, char :: rest =>
      if char.utf8Size ≤ limit then char :: cutChars (limit - char.utf8Size) rest
      else if limit = 0 then []
      else ['\uFFFD']

def cutText (limit : Nat) (text : String) : String := String.ofList (cutChars limit text.toList)

example : pwdPrompt "[sudo] Password for eve: " = true ∧ pwdPrompt "password: *" = false := by decide

structure HookState where
  inputBuf : List Char := []
  lastOutput : String := ""
  outputBuf : String := ""
  outputBytes : Nat := 0
  outputCapped : Bool := false
  pendingCommand : Option String := none

def flushThreshold : Nat := 4096

def capNote (overflow : Nat) (capKb : Int) : String :=
  "*[truncated - " ++ toString overflow ++ " B beyond " ++ toString capKb ++ " KB cap]*"

/-- The bytes of output that a recording takes before it cuts it; `none` when it never does. -/
def outputCap (options : RecordingOptions) : Option Nat :=
  if options.outputCapKb > 0 then some (options.outputCapKb * 1024).toNat else none

section Hook

-- The word characters of patterns, and the name of the shell.
variable (word : Char → Bool) (shell : String)

def withNote (label note : String) : String := if note = "" then label else label ++ "  " ++ note

def pendingEntries (options : RecordingOptions) (note : String) (state : HookState) : List Entry :=
  let shown := strip state.outputBuf ≠ "" && options.terminalOutput
  match state.pendingCommand.filter fun _ => options.commands with
  | some command =>
      let label := withNote ("`" ++ shell ++ "` $ `" ++ command ++ "`") note
      if shown then [.block "Command + output" label (rstrip state.outputBuf)] else [.event "Command" label]
  | none =>
      if shown then [.block "Output" (withNote ("`" ++ shell ++ "`") note) (rstrip state.outputBuf)] else []

def flushPendingOutput (recording : Option RecordingOptions) (note : String) (state : HookState) :
    HookState × List Entry :=
  ({ state with pendingCommand := none, outputBuf := "", outputBytes := 0 },
    recording.elim [] fun options => pendingEntries shell options note state)

def isEnter (char : Char) : Bool := char = '\r' || char = '\n'

def isErase (char : Char) : Bool := char.toNat = 0x7F || char.toNat = 8

def onKey (options : RecordingOptions) (char : Char) (state : HookState) : HookState × List Entry :=
  if isEnter char then
    let line := String.ofList state.inputBuf
    let cleared := { state with inputBuf := [] }
    if strip line = "" then (cleared, [])
    else
      let clean := redact word (pwdPrompt state.lastOutput) line
      let (flushed, entries) := flushPendingOutput shell (some options) "" cleared
      ({ flushed with pendingCommand := some clean, outputCapped := false }, entries)
  else if isErase char then ({ state with inputBuf := state.inputBuf.dropLast }, [])
  else ({ state with inputBuf := state.inputBuf ++ [char] }, [])

def onKeys (options : RecordingOptions) : List Char → HookState → HookState × List Entry
  | [], state => (state, [])
  | char :: rest, state =>
      let (next, entries) := onKey word shell options char state
      let (last, more) := onKeys options rest next
      (last, entries ++ more)

def onInput (recording : Option RecordingOptions) (data : String) (state : HookState) : HookState × List Entry :=
  match recording with
  | none => (state, [])
  | some options => onKeys word shell options data.toList state

def onOutput (recording : Option RecordingOptions) (data : String) (state : HookState) : HookState × List Entry :=
  let seen := { state with lastOutput := lastChars 512 (state.lastOutput ++ data) }
  match recording with
  | none => (seen, [])
  | some options =>
      if !options.terminalOutput || state.outputCapped then (seen, [])
      else
        match (outputCap options).filter fun cap => cap < state.outputBytes + data.utf8ByteSize with
        | some cap =>
            let remaining := cap - state.outputBytes
            flushPendingOutput shell recording (capNote (data.utf8ByteSize - remaining) options.outputCapKb)
              { seen with
                outputBuf := state.outputBuf ++ cutText remaining data
                outputBytes := state.outputBytes + remaining
                outputCapped := true }
        | none =>
            let kept := { seen with
              outputBuf := state.outputBuf ++ data
              outputBytes := state.outputBytes + data.utf8ByteSize }
            if flushThreshold ≤ kept.outputBytes then flushPendingOutput shell recording "" kept else (kept, [])

end Hook

/-- A call of the hook while a recording is active. -/
inductive Call where
  | input (data : String)
  | output (data : String)

/-- What the calls come to: keys one by one, and output in the chunks it comes in. -/
inductive HookStep where
  | key (char : Char)
  | output (data : String)
  deriving DecidableEq

def Call.steps : Call → List HookStep
  | .input data => data.toList.map .key
  | .output data => [.output data]

section Runs

variable (word : Char → Bool) (shell : String) (options : RecordingOptions)

def onCall : Call → HookState → HookState × List Entry
  | .input data, state => onInput word shell (some options) data state
  | .output data, state => onOutput shell (some options) data state

def runCalls : List Call → HookState → HookState × List Entry
  | [], state => (state, [])
  | call :: rest, state =>
      let (next, entries) := onCall word shell options call state
      let (last, more) := runCalls rest next
      (last, entries ++ more)

def onStep : HookStep → HookState → HookState × List Entry
  | .key char, state => onKey word shell options char state
  | .output data, state => onOutput shell (some options) data state

def runSteps : List HookStep → HookState → HookState × List Entry
  | [], state => (state, [])
  | step :: rest, state =>
      let (next, entries) := onStep word shell options step state
      let (last, more) := runSteps rest next
      (last, entries ++ more)

variable {word : Char → Bool} {shell : String} {options : RecordingOptions} {state : HookState} {chars : List Char}
  {first second steps : List HookStep} {calls : List Call}

theorem runSteps_append_fst : (runSteps word shell options (first ++ second) state).1 =
    (runSteps word shell options second (runSteps word shell options first state).1).1 := by
  induction first generalizing state with
  | nil => rfl
  | cons step rest ih => simp only [List.cons_append, runSteps, ih]

theorem runSteps_append_snd : (runSteps word shell options (first ++ second) state).2 =
    (runSteps word shell options first state).2 ++
      (runSteps word shell options second (runSteps word shell options first state).1).2 := by
  induction first generalizing state with
  | nil => rfl
  | cons step rest ih => simp only [List.cons_append, runSteps, ih, List.append_assoc]

theorem runSteps_keys : runSteps word shell options (chars.map .key) state = onKeys word shell options chars state := by
  induction chars generalizing state with
  | nil => rfl
  | cons char rest ih => simp only [List.map_cons, runSteps, onStep, onKeys, ih]

theorem runCalls_steps : runCalls word shell options calls state =
    runSteps word shell options (calls.flatMap Call.steps) state := by
  induction calls generalizing state with
  | nil => rfl
  | cons call rest ih =>
      rw [List.flatMap_cons]
      apply Prod.ext
      · rw [runSteps_append_fst]
        cases call with
        | input data => simp only [runCalls, Call.steps, runSteps_keys, onCall, onInput, ih]
        | output data => simp only [runCalls, Call.steps, runSteps, onStep, onCall, ih]
      · rw [runSteps_append_snd]
        cases call with
        | input data => simp only [runCalls, Call.steps, runSteps_keys, onCall, onInput, ih]
        | output data => simp only [runCalls, Call.steps, runSteps, onStep, onCall, ih, List.append_nil]

end Runs

end Dosm.Recording
