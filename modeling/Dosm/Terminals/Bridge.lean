import Dosm.Base.Transition
import Dosm.Python.JsonText
import Dosm.Python.Utf8

namespace Dosm.Terminals

open Python Transition

/-! The bridge between a browser and the PTY of a shell.

Two tasks share the connection: one reads the PTY and sends what it reads, the other
writes what it receives. The shell writes and exits whenever it likes, a read returns
any part of what is there, and a write may take a part only. The browser stays
connected, and a session that an exception ends is over.
-/

inductive OutputPump where
  /-- Before the condition of its loop. -/
  | testing
  /-- In `pty.read`. -/
  | reading
  | ended
  deriving DecidableEq

inductive CastEvent where
  | output (text : String)
  | input (text : String)
  | resize (rows cols : Int)
  deriving DecidableEq

structure Bridge where
  /-- Everything the shell has written. -/
  written : List UInt8 := []
  /-- What of it has not been read. -/
  unread : List UInt8 := []
  exited : Bool := false
  /-- `PosixPty._alive`. -/
  ptyAlive : Bool := true
  stop : Bool := false
  output : OutputPump := .testing
  inputOpen : Bool := true
  recording : Bool
  /-- On record: what each read has returned. -/
  chunks : List (List UInt8) := []
  sent : List String := []
  events : List CastEvent := []
  /-- On record: the input data of the messages, in UTF-8. -/
  typed : List UInt8 := []
  /-- What has been written to the PTY. -/
  received : List UInt8 := []
  deriving DecidableEq

def utf8 (text : String) : List UInt8 := text.toList.flatMap String.utf8EncodeChar

inductive Message where
  | input (data : String)
  | resize (rows cols : Int)
  | other
  deriving DecidableEq

/-- `struct.pack` of the two sizes. -/
def packSizes (rows cols : Int) : Except Exn Message :=
  if 0 ≤ rows ∧ rows < 65536 ∧ 0 ≤ cols ∧ cols < 65536 then .ok (.resize rows cols)
  else .error ⟨"error", "ushort format requires 0 <= number <= 65535"⟩

def readMessage (document : Json) : Except Exn Message := do
  match ← document.get "type" with
  | .str "input" =>
      match ← document.get "data" (.str "") with
      | .str data => return .input data
      | value => throw (value.noAttribute "encode")
  | .str "resize" =>
      let rows ← (← document.get "rows" (.int 24)).toInt
      let cols ← (← document.get "cols" (.int 80)).toInt
      packSizes rows cols
  | _ => return .other

/-- `bytes` reach a PTY that is not known to be dead as far as they are taken. -/
def Bridge.write (bridge : Bridge) (bytes : List UInt8) (taken : Nat) : List UInt8 :=
  if bridge.ptyAlive then bridge.received ++ bytes.take taken else bridge.received

inductive Step where
  | shellWrites (bytes : List UInt8)
  | shellExits
  /-- The condition of the output loop. -/
  | test
  /-- `os.read` returns, with so many bytes; at the end of the output with none. -/
  | read (count : Nat)
  /-- A message, malformed or decoded; `os.write` takes so many bytes of an input. -/
  | message (document : Option Json) (taken : Nat)

namespace Bridge

variable (bridge : Bridge)

/-- `pty.alive`: a process that has exited is found by `waitpid`. -/
def alive : Bool := bridge.ptyAlive && !bridge.exited

/-- The output task is done, and with it the input task after its next message. -/
def finish : Bridge := { bridge with ptyAlive := bridge.alive, output := .ended, stop := true }

def record (event : CastEvent) : List CastEvent :=
  if bridge.recording then bridge.events ++ [event] else bridge.events

def test : Bridge :=
  if bridge.stop then { bridge with output := .ended }
  else if bridge.alive then { bridge with output := .reading }
  else bridge.finish

def emit (count : Nat) : Bridge :=
  let chunk := bridge.unread.take count
  { bridge with
    unread := bridge.unread.drop count
    chunks := bridge.chunks ++ [chunk]
    sent := bridge.sent ++ [Utf8.text chunk]
    events := bridge.record (.output (Utf8.text chunk))
    output := .testing }

/-- A read waits for output, or for the shell to be gone. -/
def read (count : Nat) : Option Bridge :=
  if bridge.unread = [] then
    if bridge.exited then some bridge.finish else none
  else if 0 < count ∧ count ≤ 4096 ∧ count ≤ bridge.unread.length then some (bridge.emit count)
  else none

/-- A write takes a part of what it is given, but not none of something. -/
def takes (bytes : List UInt8) (taken : Nat) : Bool :=
  taken ≤ bytes.length && (bytes.isEmpty || 0 < taken)

def carryOut (message : Message) (taken : Nat) : Option Bridge :=
  match message with
  | .input data =>
      if takes (utf8 data) taken then
        some { bridge with
          typed := bridge.typed ++ utf8 data
          received := bridge.write (utf8 data) taken
          events := bridge.record (.input data)
          inputOpen := !bridge.stop }
      else none
  | .resize rows cols =>
      some { bridge with events := bridge.record (.resize rows cols), inputOpen := !bridge.stop }
  | .other => some { bridge with inputOpen := !bridge.stop }

/-- Any other exception closes the PTY and the connection. -/
def abandon : Bridge := { bridge with ptyAlive := false, output := .ended, stop := true, inputOpen := false }

def receive (document : Option Json) (taken : Nat) : Option Bridge :=
  match document with
  | none => some { bridge with inputOpen := !bridge.stop }
  | some document =>
      match readMessage document with
      | .error _ => some bridge.abandon
      | .ok message => bridge.carryOut message taken

end Bridge

def bridgeStep (bridge : Bridge) : Step → Option Bridge
  | .shellWrites bytes =>
      if bridge.exited then none
      else some { bridge with written := bridge.written ++ bytes, unread := bridge.unread ++ bytes }
  | .shellExits => if bridge.exited then none else some { bridge with exited := true }
  | .test => if bridge.output = .testing then some bridge.test else none
  | .read count => if bridge.output = .reading then bridge.read count else none
  | .message document taken => if bridge.inputOpen then bridge.receive document taken else none

def machine : Machine Bridge Step where
  initial bridge := ∃ recording, bridge = { recording }
  step := bridgeStep

/-! What the bridge has to do. -/

def outputs (events : List CastEvent) : List String :=
  events.filterMap fun event => match event with
    | .output text => some text
    | _ => none

structure Faithful (bridge : Bridge) : Prop where
  /-- The browser has the text of what was read, ... -/
  sent : String.join bridge.sent = Utf8.text bridge.chunks.flatten
  /-- ... which is what was written, up to what is still to be read, ... -/
  read : bridge.written = bridge.chunks.flatten ++ bridge.unread
  /-- ... and at the end everything. -/
  complete : bridge.output = .ended → String.join bridge.sent = Utf8.text bridge.written
  recorded : bridge.recording = true → String.join (outputs bridge.events) = String.join bridge.sent
  received : bridge.received = bridge.typed

/-- A step that does no harm: a read does not part a character, the shell is not found
dead before its output is read, a message can be read, and an input is taken whole
while the shell is there. -/
def Clean (bridge : Bridge) : Step → Prop
  | .shellWrites _ | .shellExits => True
  | .test => bridge.alive = true ∨ bridge.unread = []
  | .read count => Utf8.cut bridge.chunks.flatten (bridge.unread.take count) = false
  | .message none _ => True
  | .message (some document) taken =>
      match readMessage document with
      | .error _ => False
      | .ok (.input data) => utf8 data = [] ∨ (bridge.ptyAlive = true ∧ taken = (utf8 data).length)
      | .ok _ => True

structure Sound (bridge : Bridge) : Prop where
  sent : bridge.sent = bridge.chunks.map Utf8.text
  decoded : bridge.chunks.flatMap Utf8.decode = Utf8.decode bridge.chunks.flatten
  read : bridge.written = bridge.chunks.flatten ++ bridge.unread
  ended : bridge.output = .ended → bridge.exited = true ∧ bridge.unread = []
  stopped : bridge.stop = true → bridge.output = .ended
  dead : bridge.ptyAlive = false → bridge.exited = true
  recorded : bridge.recording = true → outputs bridge.events = bridge.sent
  received : bridge.received = bridge.typed

section Steps

variable {bridge next : Bridge}

theorem outputs_record {event : CastEvent} : outputs (bridge.record event) =
    if bridge.recording then outputs bridge.events ++ outputs [event] else outputs bridge.events := by
  unfold Bridge.record
  split <;> simp [outputs, List.filterMap_append]

theorem Sound.finish (sound : Sound bridge) (exited : bridge.exited = true) (drained : bridge.unread = []) :
    Sound bridge.finish where
  sent := sound.sent
  decoded := sound.decoded
  read := sound.read
  ended _ := ⟨exited, drained⟩
  stopped _ := rfl
  dead _ := exited
  recorded := sound.recorded
  received := sound.received

theorem Sound.test (sound : Sound bridge) (testing : bridge.output = .testing)
    (clean : bridge.alive = true ∨ bridge.unread = []) : Sound bridge.test := by
  have running : bridge.stop = false := by
    cases stop : bridge.stop with
    | false => rfl
    | true => cases testing.symm.trans (sound.stopped stop)
  rw [Bridge.test, if_neg (by simp [running])]
  cases alive : bridge.alive with
  | true =>
      rw [if_pos rfl]
      exact { sound with ended := by simp, stopped := fun stop => absurd (running.symm.trans stop) Bool.false_ne_true }
  | false =>
      rw [if_neg Bool.false_ne_true]
      have exited : bridge.exited = true := by
        simp only [Bridge.alive, Bool.and_eq_false_iff, Bool.not_eq_false'] at alive
        rcases alive with dead | exited
        · exact sound.dead dead
        · exact exited
      rcases clean with impossible | drained
      · rw [alive] at impossible
        cases impossible
      · exact sound.finish exited drained

theorem Sound.emit {count : Nat} (sound : Sound bridge) (reading : bridge.output = .reading)
    (clean : Utf8.cut bridge.chunks.flatten (bridge.unread.take count) = false) : Sound (bridge.emit count) where
  sent := by simp [Bridge.emit, sound.sent]
  decoded := by
    simp only [Bridge.emit, List.flatMap_append, List.flatten_append, List.flatMap_singleton, List.flatten_singleton]
    rw [Utf8.decode_append clean, sound.decoded]
  read := by
    simp only [Bridge.emit, List.flatten_append, List.flatten_singleton, List.append_assoc, List.take_append_drop]
    exact sound.read
  ended := nofun
  stopped stop := by cases reading.symm.trans (sound.stopped stop)
  dead := sound.dead
  recorded recording := by
    have same : bridge.recording = true := recording
    simp only [Bridge.emit, outputs_record, if_pos same, sound.recorded same]
    rfl
  received := sound.received

theorem Sound.reads {count : Nat} (sound : Sound bridge) (reading : bridge.output = .reading)
    (clean : Utf8.cut bridge.chunks.flatten (bridge.unread.take count) = false)
    (stepped : bridge.read count = some next) : Sound next := by
  unfold Bridge.read at stepped
  split at stepped
  · next drained =>
      split at stepped
      · next exited =>
          cases stepped
          exact sound.finish exited drained
      · cases stepped
  · split at stepped
    · cases stepped
      exact sound.emit reading clean
    · cases stepped

theorem Sound.carryOut {message : Message} {taken : Nat} (sound : Sound bridge)
    (clean : ∀ data, message = .input data →
      utf8 data = [] ∨ (bridge.ptyAlive = true ∧ taken = (utf8 data).length))
    (stepped : bridge.carryOut message taken = some next) : Sound next := by
  cases message with
  | input data =>
      simp only [Bridge.carryOut] at stepped
      split at stepped
      · cases stepped
        refine { sound with recorded := fun recording => ?_, received := ?_ }
        · have same : bridge.recording = true := recording
          simp only [outputs_record, if_pos same]
          simpa [outputs] using sound.recorded same
        · rcases clean data rfl with empty | ⟨alive, whole⟩
          · simp [Bridge.write, empty, sound.received]
          · simp [Bridge.write, alive, whole, sound.received]
      · cases stepped
  | resize rows cols =>
      cases stepped
      refine { sound with recorded := fun recording => ?_ }
      have same : bridge.recording = true := recording
      simp only [outputs_record, if_pos same]
      simpa [outputs] using sound.recorded same
  | other =>
      cases stepped
      exact { sound with }

theorem Sound.step {step : Step} (sound : Sound bridge) (clean : Clean bridge step)
    (stepped : bridgeStep bridge step = some next) : Sound next := by
  cases step with
  | shellWrites bytes =>
      simp only [bridgeStep] at stepped
      split at stepped
      · cases stepped
      · next present =>
          cases stepped
          refine { sound with read := ?_, ended := fun ended => absurd (sound.ended ended).1 present }
          simp only [sound.read, List.append_assoc]
  | shellExits =>
      simp only [bridgeStep] at stepped
      split at stepped
      · cases stepped
      · cases stepped
        exact { sound with ended := fun ended => ⟨rfl, (sound.ended ended).2⟩, dead := fun _ => rfl }
  | test =>
      simp only [bridgeStep] at stepped
      split at stepped
      · next testing =>
          cases stepped
          exact sound.test testing clean
      · cases stepped
  | read count =>
      simp only [bridgeStep] at stepped
      split at stepped
      · next reading => exact sound.reads reading clean stepped
      · cases stepped
  | message document taken =>
      simp only [bridgeStep] at stepped
      split at stepped
      · cases document with
        | none =>
            cases stepped
            exact { sound with }
        | some document =>
            simp only [Bridge.receive] at stepped
            simp only [Clean] at clean
            cases read : readMessage document with
            | error exn => simp [read] at clean
            | ok message =>
                simp only [read] at stepped clean
                refine sound.carryOut (fun data same => ?_) stepped
                rw [same] at clean
                exact clean
      · cases stepped

end Steps

theorem Sound.faithful {bridge : Bridge} (sound : Sound bridge) : Faithful bridge := by
  have sent : String.join bridge.sent = Utf8.text bridge.chunks.flatten := by
    apply String.toList_injective
    rw [String.toList_join, sound.sent, Utf8.text, String.toList_ofList, ← sound.decoded, List.flatMap_map]
    simp [Utf8.text]
  refine ⟨sent, sound.read, fun ended => ?_, fun recording => by rw [sound.recorded recording], sound.received⟩
  rw [sent, sound.read, (sound.ended ended).2, List.append_nil]

/-- A run of clean steps delivers the output and the input of the shell. -/
theorem clean_faithful (bridge : Bridge) (reached : machine.ReachableUnder Clean bridge) : Faithful bridge := by
  apply Sound.faithful
  refine reached.invariant ?_ fun _ _ _ clean stepped sound => sound.step clean stepped
  rintro _ ⟨recording, rfl⟩
  exact ⟨rfl, rfl, rfl, nofun, nofun, nofun, fun _ => rfl, rfl⟩

structure Kept (bridge : Bridge) : Prop where
  sent : bridge.sent = bridge.chunks.map Utf8.text
  read : bridge.written = bridge.chunks.flatten ++ bridge.unread

theorem Kept.receive {bridge next : Bridge} {document : Option Json} {taken : Nat} (kept : Kept bridge)
    (stepped : bridge.receive document taken = some next) : Kept next := by
  unfold Bridge.receive at stepped
  split at stepped
  · cases stepped
    exact ⟨kept.sent, kept.read⟩
  · split at stepped
    · cases stepped
      exact ⟨kept.sent, kept.read⟩
    · next message _ =>
        cases message with
        | input data =>
            simp only [Bridge.carryOut] at stepped
            split at stepped
            · cases stepped
              exact ⟨kept.sent, kept.read⟩
            · cases stepped
        | resize rows cols =>
            cases stepped
            exact ⟨kept.sent, kept.read⟩
        | other =>
            cases stepped
            exact ⟨kept.sent, kept.read⟩

theorem Kept.step {bridge next : Bridge} {step : Step} (kept : Kept bridge)
    (stepped : bridgeStep bridge step = some next) : Kept next := by
  cases step <;> simp only [bridgeStep] at stepped <;> split at stepped <;> try cases stepped
  case shellWrites.isFalse =>
    exact ⟨kept.sent, by simp only [kept.read, List.append_assoc]⟩
  case shellExits.isFalse => exact ⟨kept.sent, kept.read⟩
  case test.isTrue.refl =>
    unfold Bridge.test
    split
    · exact ⟨kept.sent, kept.read⟩
    · split <;> exact ⟨kept.sent, kept.read⟩
  case read.isTrue count _ =>
    unfold Bridge.read at stepped
    split at stepped
    · split at stepped
      · cases stepped
        exact ⟨kept.sent, kept.read⟩
      · cases stepped
    · split at stepped
      · cases stepped
        refine ⟨by simp [Bridge.emit, kept.sent], ?_⟩
        simp only [Bridge.emit, List.flatten_append, List.flatten_singleton, List.append_assoc, List.take_append_drop]
        exact kept.read
      · cases stepped
  case message.isTrue => exact kept.receive stepped

/-- Of output that has all been read the browser has the text exactly when no two reads
part a character. -/
theorem sent_iff {bridge : Bridge} (reached : machine.Reachable bridge) (drained : bridge.unread = []) :
    String.join bridge.sent = Utf8.text bridge.written ↔ Utf8.uncut bridge.chunks = true := by
  have kept : Kept bridge := by
    refine reached.invariant ?_ fun _ _ _ stepped kept => kept.step stepped
    rintro _ ⟨recording, rfl⟩
    exact ⟨rfl, rfl⟩
  have joined : (String.join bridge.sent).toList = bridge.chunks.flatMap Utf8.decode := by
    rw [String.toList_join, kept.sent, List.flatMap_map]
    simp [Utf8.text]
  have whole : (Utf8.text bridge.written).toList = Utf8.decode bridge.chunks.flatten := by
    rw [kept.read, drained, List.append_nil, Utf8.text, String.toList_ofList]
  rw [← Utf8.decode_chunks_iff, ← joined, ← whole]
  exact ⟨congrArg String.toList, fun same => String.toList_injective same⟩

def session : List Step := [
  .shellWrites [0xC3, 0xA9],
  .test,
  .read 2,
  .message (some (.object [("type", .str "input"), ("data", .str "ls")])) 2,
  .shellExits,
  .test]

def sessionEnd : Bridge where
  written := [0xC3, 0xA9]
  exited := true
  ptyAlive := false
  stop := true
  output := .ended
  recording := true
  chunks := [[0xC3, 0xA9]]
  sent := ["é"]
  events := [.output "é", .input "ls"]
  typed := [108, 115]
  received := [108, 115]

theorem session_clean : machine.Meets Clean { recording := true } session := by
  refine Machine.meets_cons rfl trivial ?_
  refine Machine.meets_cons rfl (.inl rfl) ?_
  refine Machine.meets_cons rfl rfl ?_
  refine Machine.meets_cons rfl (.inr ⟨rfl, rfl⟩) ?_
  refine Machine.meets_cons rfl trivial ?_
  exact Machine.meets_cons rfl (.inr rfl) trivial

theorem clean_faithful_session : Faithful sessionEnd := by
  refine clean_faithful sessionEnd ⟨_, session, ⟨true, rfl⟩, ?_, session_clean⟩
  decide

theorem sent_iff_session : String.join sessionEnd.sent = Utf8.text sessionEnd.written :=
  (sent_iff ⟨_, session, ⟨true, rfl⟩, by decide⟩ rfl).mpr (by decide)

def partedSession : List Step := [.shellWrites [0xC3, 0xA9], .test, .read 1, .test, .read 1]

def partedEnd : Bridge where
  written := [0xC3, 0xA9]
  recording := false
  chunks := [[0xC3], [0xA9]]
  sent := ["\uFFFD", "\uFFFD"]

/-- Two reads part the bytes of one character. -/
theorem parted_character : ¬ ∀ bridge, machine.Reachable bridge → Faithful bridge := by
  intro every
  have reached : machine.run { recording := false } partedSession = some partedEnd := by decide
  have faithful := every partedEnd ⟨_, partedSession, ⟨false, rfl⟩, reached⟩
  exact absurd faithful.sent (by decide)

end Dosm.Terminals
