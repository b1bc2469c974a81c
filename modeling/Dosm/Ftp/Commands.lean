import Dosm.Ftp.Passive

namespace Dosm.Ftp

open Python Program

/-! What an operation sends.

A command is sent as it is, with CR LF after it. Paths and names come from the requests
through joins that leave line ends alone.
-/

inductive Operation where
  | pwd
  | cwd (path : String)
  | listDir (path : String)
  | mkd (path : String)
  | rmd (path : String)
  | delete (path : String)
  | rename (src dst : String)
  | size (path : String)
  | retrieve (path : String)
  | store (path : String) (src : List UInt8)
  deriving DecidableEq

/-- The paths of listings, none for the current directory. -/
def listSuffix (path : String) : String := if path = "" then "" else " " ++ path

def passiveScripts : List (List String) := [["EPSV"], ["EPSV", "PASV"]]

/-- A listing by machine, and then perhaps one for people. -/
def listScripts (path : String) : List (List String) :=
  sequences passiveScripts (sequences [["MLSD" ++ listSuffix path]]
    ([] :: sequences passiveScripts [["LIST" ++ listSuffix path]]))

namespace Operation

open FtpClient

def run (tables : CharTables) (client : FtpClient) : Operation → Session Unit
  | .pwd => FtpClient.pwd tables >>= fun _ => pure ()
  | .cwd path => FtpClient.cwd tables path
  | .listDir path => FtpClient.listDir tables client path >>= fun _ => pure ()
  | .mkd path => FtpClient.mkd tables path
  | .rmd path => FtpClient.rmd tables path
  | .delete path => FtpClient.delete tables path
  | .rename src dst => FtpClient.rename tables src dst
  | .size path => FtpClient.size tables path >>= fun _ => pure ()
  | .retrieve path => FtpClient.retrieve tables client path >>= fun _ => pure ()
  | .store path src => FtpClient.store tables client path src >>= fun _ => pure ()

/-- The sequences of commands that an operation may send. -/
def scripts : Operation → List (List String)
  | .pwd => [["PWD"]]
  | .cwd path => [[withPath "CWD" path]]
  | .listDir path => listScripts path
  | .mkd path => [[withPath "MKD" path]]
  | .rmd path => [[withPath "RMD" path]]
  | .delete path => [[withPath "DELE" path]]
  | .rename src dst => [[withPath "RNFR" src, withPath "RNTO" dst]]
  | .size path => [[withPath "SIZE" path]]
  | .retrieve path => sequences passiveScripts [[withPath "RETR" path]]
  | .store path _ => sequences passiveScripts [[withPath "STOR" path]]

def arguments : Operation → List String
  | .pwd => []
  | .rename src dst => [src, dst]
  | .cwd path | .listDir path | .mkd path | .rmd path | .delete path | .size path | .retrieve path | .store path _ =>
      [path]

end Operation

/-- The line ends with CR LF, and has it nowhere else. -/
def OneLine (line : List UInt8) : Prop :=
  crlf <:+ line ∧ ∀ before after, line = before ++ crlf ++ after → after = []

def HasLineEnd (text : String) : Prop := ['\r', '\n'] <:+: text.toList

/-- An operation sends its own commands, each on a line. -/
structure OwnCommands (tables : CharTables) (client : FtpClient) (operation : Operation) : Prop where
  follows : Sends Wire.sent (operation.scripts.map (List.map controlLine)) (operation.run tables client)
  single : ∀ wire added, (operation.run tables client wire).2.sent = wire.sent ++ added → ∀ line ∈ added, OneLine line

section Lines

variable {command argument : String}

theorem encode_crlf : Utf8.encode ['\r', '\n'] = crlf := by decide

theorem decode_crlf {before after : List UInt8} :
    Utf8.decode (before ++ crlf ++ after) = Utf8.decode before ++ ['\r', '\n'] ++ Utf8.decode after := by
  have split : before ++ crlf ++ after = before ++ carriageReturn :: lineFeed :: after := by simp [crlf]
  rw [split, Utf8.decode_append (Utf8.cut_ascii (by decide)), Utf8.decode_cons_ascii (by decide),
    Utf8.decode_cons_ascii (by decide), List.append_assoc]
  rfl

theorem oneLine_iff : OneLine (controlLine command) ↔ ¬ HasLineEnd command := by
  have written : Utf8.decode (controlLine command) = command.toList ++ ['\r', '\n'] := by
    have plain := @decode_crlf (Utf8.encodeText command) []
    rw [List.append_nil] at plain
    rw [controlLine, plain]
    change Utf8.decode (Utf8.encode command.toList) ++ _ ++ [] = _
    rw [Utf8.decode_encode, List.append_nil]
  constructor
  · rintro ⟨-, only⟩ ⟨front, back, same⟩
    have line : controlLine command = Utf8.encode front ++ crlf ++ (Utf8.encode back ++ crlf) := by
      rw [controlLine, Utf8.encodeText, ← same, Utf8.encode_append, Utf8.encode_append, encode_crlf]
      simp
    have rest := congrArg List.length (only _ _ line)
    simp [crlf] at rest
  · intro plain
    refine ⟨List.suffix_append _ _, fun before after same => ?_⟩
    rcases List.eq_nil_or_concat after with empty | ⟨front, byte, rfl⟩
    · exact empty
    rw [List.concat_eq_append] at same
    have split : Utf8.encodeText command ++ [carriageReturn] ++ [lineFeed] = before ++ crlf ++ front ++ [byte] := by
      rw [List.append_assoc, List.append_assoc]
      exact same
    obtain rfl : lineFeed = byte := List.singleton_inj.mp (List.append_inj_right' split rfl)
    have decoded := written.symm.trans (congrArg Utf8.decode same)
    rw [decode_crlf, Utf8.decode_snoc_ascii (by decide)] at decoded
    have whole : command.toList ++ ['\r'] ++ ['\n'] =
        Utf8.decode before ++ ['\r', '\n'] ++ Utf8.decode front ++ ['\n'] := by
      rw [List.append_assoc, List.append_assoc _ (Utf8.decode front)]
      exact decoded
    have cancelled := List.append_cancel_right whole
    rcases List.eq_nil_or_concat (Utf8.decode front) with none | ⟨rest, char, whole⟩
    · rw [none, List.append_nil] at cancelled
      have last := congrArg List.getLast? cancelled
      simp at last
    · rw [whole, List.concat_eq_append, ← List.append_assoc] at cancelled
      exact absurd ⟨_, _, (List.append_inj_left' cancelled rfl).symm⟩ plain

variable {front back : List Char}

theorem lineEnd_after (apart : '\r' ∉ front) : ['\r', '\n'] <:+: front ++ back ↔ ['\r', '\n'] <:+: back := by
  rw [List.infix_append_iff]
  constructor
  · rintro (within | within | ⟨start, last, same, ends, begins⟩)
    · exact absurd (within.subset List.mem_cons_self) apart
    · exact within
    · cases start with
      | nil => exact same ▸ begins.isInfix
      | cons char start =>
          obtain ⟨rfl, -⟩ := List.cons.inj same
          exact absurd (ends.subset List.mem_cons_self) apart
  · exact fun within => .inr (.inl within)

theorem lineEnd_before (apart : '\n' ∉ back) : ['\r', '\n'] <:+: front ++ back ↔ ['\r', '\n'] <:+: front := by
  rw [List.infix_append_iff]
  constructor
  · rintro (within | within | ⟨start, last, same, ends, begins⟩)
    · exact within
    · exact absurd (within.subset (by simp)) apart
    · rcases List.eq_nil_or_concat last with rfl | ⟨last, char, rfl⟩
      · rw [List.append_nil] at same
        exact same ▸ ends.isInfix
      · have feeds : ['\r'] ++ ['\n'] = (start ++ last) ++ [char] := by
          rw [List.concat_eq_append] at same
          rw [List.append_assoc]
          exact same
        obtain rfl := List.singleton_inj.mp (List.append_inj_right' feeds rfl)
        exact absurd (begins.subset (by simp)) apart
  · exact .inl

theorem hasLineEnd_append {front : String} (apart : '\r' ∉ front.toList) :
    HasLineEnd (front ++ argument) ↔ HasLineEnd argument := by
  unfold HasLineEnd
  rw [String.toList_append, lineEnd_after apart]

theorem hasLineEnd_stripChar : HasLineEnd (stripChar '/' argument) ↔ HasLineEnd argument := by
  have begins : '\r' ∉ argument.toList.takeWhile (· = '/') := by
    intro member
    have slash := List.mem_takeWhile_imp member
    exact absurd slash (by decide)
  have ends : '\n' ∉ (argument.toList.dropWhile (· = '/')).rtakeWhile (· = '/') := by
    intro member
    have slash := List.mem_rtakeWhile_imp member
    exact absurd slash (by decide)
  unfold HasLineEnd stripChar
  rw [String.toList_ofList, ← lineEnd_before ends, List.rdropWhile_append_rtakeWhile, ← lineEnd_after begins,
    List.takeWhile_append_dropWhile]

end Lines

section Scripts

variable {tables : CharTables} {client : FtpClient} {Value : Type} {command path : String}

def lines (scripts : List (List String)) : List (List (List UInt8)) := scripts.map (List.map controlLine)

theorem lines_sequences {scripts others : List (List String)} :
    lines (sequences scripts others) = sequences (lines scripts) (lines others) := by
  simp [lines, sequences, List.map_flatMap, List.flatMap_map, Function.comp_def]

theorem sends_send : Sends Wire.sent (lines [[command]]) (send command) := by
  intro wire
  refine ⟨[controlLine command], List.mem_singleton.mpr rfl, ?_⟩
  unfold send
  split
  · exact ⟨[], List.nil_prefix, (List.append_nil _).symm, nofun⟩
  · dsimp only
    split
    · exact ⟨_, List.prefix_refl _, rfl, nofun⟩
    · exact ⟨_, List.prefix_refl _, rfl, fun _ _ => rfl⟩

theorem quiet_ofExcept {outcome : Except Failure Value} : Quiet Wire.sent (ofExcept outcome : Session Value) :=
  fun _ => rfl

theorem quiet_answer : Quiet Wire.sent (answer tables) := by
  intro wire
  unfold answer
  split <;> rfl

theorem quiet_expect {codes : List Nat} : Quiet Wire.sent (expect tables codes) :=
  quiet_bind quiet_answer fun _ => quiet_ofExcept

theorem quiet_nextConnection {endpoint : String × Nat} : Quiet Wire.sent (nextConnection endpoint) := by
  intro wire
  unfold nextConnection
  dsimp only
  split <;> rfl

theorem sends_passive : Sends Wire.sent (lines passiveScripts) (passive tables client) := by
  have split : lines passiveScripts = sequences (lines [["EPSV"]]) (lines [[], ["PASV"]]) := by
    rw [← lines_sequences]
    rfl
  rw [split]
  refine sends_bind (by simp [lines]) sends_send fun _ => sends_quiet_bind (by simp [lines]) quiet_answer fun reply => ?_
  dsimp only
  split
  · refine sends_mono ?_ (quiet_bind quiet_ofExcept fun _ => quiet_pure).sends
    simp [lines]
  · refine sends_mono ?_ (sends_bind_quiet sends_send fun _ => quiet_bind quiet_expect fun _ => quiet_ofExcept)
    simp [lines]

theorem sends_openData : Sends Wire.sent (lines passiveScripts) (openData tables client) :=
  sends_bind_quiet sends_passive fun _ => quiet_nextConnection

theorem sends_simple {codes : List Nat} :
    Sends Wire.sent (lines [[FtpClient.withPath command path]]) (FtpClient.simpleCommand tables command path codes) :=
  sends_bind_quiet sends_send fun _ => quiet_bind quiet_expect fun _ => quiet_pure

theorem send_closed {wire : Wire} (closed : wire.channel = none) :
    send command wire = (.error (.ftp none "control connection is not open"), wire) := by
  unfold send
  rw [closed]

theorem openData_closed {wire : Wire} (closed : wire.channel = none) :
    openData tables client wire = (.error (.ftp none "control connection is not open"), wire) := by
  unfold openData passive
  rw [bind_of_error (bind_of_error (send_closed closed))]

theorem send_open {wire : Wire} {channel : Channel} (found : wire.channel = some channel) :
    (send command wire).2.sent = wire.sent ++ [controlLine command] := by
  unfold send
  rw [found]
  dsimp only
  split <;> rfl

theorem attempt_cases {body : Session (Option Value)} {wire : Wire} (quiet : Quiet Wire.sent body) :
    (handle (send command >>= fun _ => body) FtpClient.refused wire = (.ok none, wire) ∧ wire.channel = none) ∨
      (handle (send command >>= fun _ => body) FtpClient.refused wire).2.sent = wire.sent ++ [controlLine command] := by
  cases found : wire.channel with
  | none =>
      refine .inl ⟨?_, rfl⟩
      unfold handle
      rw [bind_of_error (send_closed found)]
      rfl
  | some channel =>
      refine .inr ?_
      have recovers : ∀ failure (recovery : Session (Option Value)), FtpClient.refused failure = some recovery →
          Quiet Wire.sent recovery := by
        intro failure recovery refused
        cases failure with
        | ftp code message =>
            cases refused
            exact quiet_pure
        | _ => cases refused
      rw [handle_log recovers, ← send_open found]
      rcases @bind_cases _ _ _ _ (send command) (fun _ => body) wire with
        ⟨failure, after, ran, whole⟩ | ⟨value, after, ran, whole⟩
      · rw [whole, ran]
      · rw [whole, ran, quiet after]

theorem sends_either {next : Option Value → Session Value} {others : List (List String)}
    (found : ∀ value, Quiet Wire.sent (next (some value))) (falls : Sends Wire.sent (lines others) (next none))
    (result : Option Value) : Sends Wire.sent (lines ([] :: others)) (next result) := by
  cases result with
  | some value => exact sends_mono (by simp [lines]) (found value).sends
  | none => exact sends_mono (fun script member => List.mem_cons_of_mem _ member) falls

theorem sends_attempt {body : Session (Option Value)} {next : Option Value → Session Value}
    {others : List (List String)} (quiet : Quiet Wire.sent body)
    (found : ∀ value, Quiet Wire.sent (next (some value))) (falls : Sends Wire.sent (lines others) (next none))
    (closes : ∀ wire : Wire, wire.channel = none → ∃ failure, next none wire = (.error failure, wire)) :
    Sends Wire.sent (lines (sequences [[command]] ([] :: others)))
      (handle (send command >>= fun _ => body) FtpClient.refused >>= next) := by
  have goes := sends_either found falls
  rw [lines_sequences]
  intro wire
  have empty : [] ∈ lines ([] :: others) := List.mem_cons_self
  rcases @attempt_cases Value command body wire quiet with ⟨gone, closed⟩ | sent
  · obtain ⟨failure, fails⟩ := closes wire closed
    refine ⟨[controlLine command] ++ [], mem_sequences.mpr ⟨_, List.mem_singleton.mpr rfl, _, empty, rfl⟩, [],
      List.nil_prefix, ?_, ?_⟩
    · rw [bind_of_ok gone, fails, List.append_nil]
    · intro value returned
      rw [bind_of_ok gone, fails] at returned
      cases returned
  · rcases @bind_cases _ _ _ _ (handle (send command >>= fun _ => body) FtpClient.refused) next wire with
      ⟨failure, after, ran, whole⟩ | ⟨result, after, ran, whole⟩
    · rw [ran] at sent
      refine ⟨[controlLine command] ++ [], mem_sequences.mpr ⟨_, List.mem_singleton.mpr rfl, _, empty, rfl⟩,
        [controlLine command], List.prefix_refl _, ?_, ?_⟩
      · rw [whole]
        exact sent
      · intro value returned
        rw [whole] at returned
        cases returned
    · rw [ran] at sent
      obtain ⟨script, member, more, start, logged, complete⟩ := goes result after
      refine ⟨[controlLine command] ++ script, mem_sequences.mpr ⟨_, List.mem_singleton.mpr rfl, _, member, rfl⟩,
        [controlLine command] ++ more, (List.prefix_append_right_inj _).mpr start, ?_, ?_⟩
      · rw [whole, logged, sent, List.append_assoc]
      · intro value returned
        rw [whole] at returned
        rw [complete value returned]

theorem listDir_parts : ∃ (body : DataConnection → Session (Option (List RemoteEntry)))
    (next : Option (List RemoteEntry) → Session (List RemoteEntry)),
    FtpClient.listDir tables client path = (openData tables client >>= fun data =>
      handle (send ("MLSD" ++ listSuffix path) >>= fun _ => body data) FtpClient.refused >>= next) ∧
    (∀ data, Quiet Wire.sent (body data)) ∧ (∀ value, Quiet Wire.sent (next (some value))) ∧
    Sends Wire.sent (lines (sequences passiveScripts [["LIST" ++ listSuffix path]])) (next none) ∧
    ∀ wire : Wire, wire.channel = none → ∃ failure, next none wire = (.error failure, wire) := by
  refine ⟨_, _, rfl, fun data => ?_, fun _ => quiet_pure, ?_, ?_⟩
  · refine quiet_bind quiet_answer fun reply => ?_
    dsimp only
    split
    · exact quiet_bind quiet_ofExcept fun _ => quiet_bind quiet_expect fun _ => quiet_bind quiet_ofExcept fun _ =>
        quiet_pure
    · exact quiet_pure
  · rw [lines_sequences]
    refine sends_bind (by simp [lines]) sends_openData fun data => sends_bind_quiet sends_send fun _ => ?_
    exact quiet_bind quiet_expect fun _ => quiet_bind quiet_ofExcept fun _ => quiet_bind quiet_expect fun _ =>
      quiet_ofExcept
  · intro wire closed
    exact ⟨_, bind_of_error (openData_closed closed)⟩

theorem sends_listDir : Sends Wire.sent (lines (listScripts path)) (FtpClient.listDir tables client path) := by
  obtain ⟨body, next, same, quiet, found, falls, closes⟩ := @listDir_parts tables client path
  rw [same, listScripts, lines_sequences]
  exact sends_bind (by simp [lines, sequences]) sends_openData fun data => sends_attempt (quiet data) found falls closes

theorem sends_retrieve : Sends Wire.sent (lines (Operation.retrieve path).scripts)
    (FtpClient.retrieve tables client path) := by
  change Sends Wire.sent (lines (sequences _ _)) _
  rw [lines_sequences]
  refine sends_bind (by simp [lines]) sends_openData fun data => ?_
  refine sends_bind_quiet sends_send fun _ => ?_
  exact quiet_bind quiet_expect fun _ => quiet_bind (fun _ => rfl) fun _ => quiet_bind quiet_ofExcept fun _ =>
    quiet_bind quiet_expect fun _ => quiet_pure

theorem sends_store {src : List UInt8} : Sends Wire.sent (lines (Operation.store path src).scripts)
    (FtpClient.store tables client path src) := by
  change Sends Wire.sent (lines (sequences _ _)) _
  rw [lines_sequences]
  refine sends_bind (by simp [lines]) sends_openData fun data => ?_
  refine sends_bind_quiet sends_send fun _ => ?_
  exact quiet_bind quiet_expect fun _ => quiet_bind quiet_ofExcept fun _ => quiet_bind quiet_expect fun _ => quiet_pure

theorem sends_run (operation : Operation) : Sends Wire.sent (lines operation.scripts) (operation.run tables client) := by
  cases operation with
  | pwd =>
      refine sends_bind_quiet (sends_bind_quiet sends_send fun _ => ?_) fun _ => quiet_pure
      refine quiet_bind quiet_expect fun _ => ?_
      dsimp only
      split <;> exact quiet_pure
  | cwd path => exact sends_simple
  | listDir path => exact sends_bind_quiet sends_listDir fun _ => quiet_pure
  | mkd path => exact sends_simple
  | rmd path => exact sends_simple
  | delete path => exact sends_simple
  | rename src dst =>
      have whole := sends_bind (by simp [lines]) (@sends_simple tables "RNFR" src [350]) fun _ : Unit =>
        @sends_simple tables "RNTO" dst [250]
      rw [← lines_sequences] at whole
      exact whole
  | size path =>
      refine sends_bind_quiet (sends_bind_quiet sends_send fun _ => ?_) fun _ => quiet_pure
      exact quiet_bind quiet_answer fun _ => quiet_pure
  | retrieve path => exact sends_bind_quiet sends_retrieve fun _ => quiet_pure
  | store path src => exact sends_bind_quiet sends_store fun _ => quiet_pure

end Scripts

section Plain

variable {tables : CharTables} {client : FtpClient} {operation : Operation} {command path : String}

theorem hasLineEnd_path (apart : '\r' ∉ command.toList) :
    HasLineEnd (FtpClient.withPath command path) ↔ HasLineEnd path := by
  have front : '\r' ∉ (command ++ " ").toList := by
    rw [String.toList_append]
    simpa using apart
  exact hasLineEnd_append front

theorem hasLineEnd_suffix (apart : '\r' ∉ command.toList) : HasLineEnd (command ++ listSuffix path) ↔ HasLineEnd path := by
  rw [hasLineEnd_append apart]
  unfold listSuffix
  split
  next empty => rw [empty]
  · exact hasLineEnd_append (by decide)

theorem passive_plain : ∀ script ∈ passiveScripts, ∀ command ∈ script, ¬ HasLineEnd command := by
  unfold HasLineEnd
  decide

theorem sequences_plain {scripts others : List (List String)}
    (first : ∀ script ∈ scripts, ∀ command ∈ script, ¬ HasLineEnd command)
    (second : ∀ script ∈ others, ∀ command ∈ script, ¬ HasLineEnd command) :
    ∀ script ∈ sequences scripts others, ∀ command ∈ script, ¬ HasLineEnd command := by
  intro whole member command within
  obtain ⟨script, scriptMember, other, otherMember, rfl⟩ := mem_sequences.mp member
  rcases List.mem_append.mp within with before | after
  · exact first script scriptMember command before
  · exact second other otherMember command after

theorem single_plain (plain : ¬ HasLineEnd command) : ∀ script ∈ [[command]], ∀ other ∈ script, ¬ HasLineEnd other := by
  simpa using plain

theorem scripts_plain (plain : ∀ argument ∈ operation.arguments, ¬ HasLineEnd argument) :
    ∀ script ∈ operation.scripts, ∀ command ∈ script, ¬ HasLineEnd command := by
  cases operation with
  | pwd => exact single_plain (by unfold HasLineEnd; decide)
  | rename src dst =>
      have source := plain src (by simp [Operation.arguments])
      have target := plain dst (by simp [Operation.arguments])
      rw [← @hasLineEnd_path "RNFR" src (by decide)] at source
      rw [← @hasLineEnd_path "RNTO" dst (by decide)] at target
      exact sequences_plain (single_plain source) (single_plain target)
  | listDir path =>
      have own := plain path (by simp [Operation.arguments])
      have machine := (@hasLineEnd_suffix "MLSD" path (by decide)).not.mpr own
      have people := (@hasLineEnd_suffix "LIST" path (by decide)).not.mpr own
      exact sequences_plain passive_plain (sequences_plain (single_plain machine)
        (List.forall_mem_cons.mpr ⟨nofun, sequences_plain passive_plain (single_plain people)⟩))
  | retrieve path =>
      have own := plain path (by simp [Operation.arguments])
      exact sequences_plain passive_plain (single_plain ((@hasLineEnd_path "RETR" path (by decide)).not.mpr own))
  | store path src =>
      have own := plain path (by simp [Operation.arguments])
      exact sequences_plain passive_plain (single_plain ((@hasLineEnd_path "STOR" path (by decide)).not.mpr own))
  | cwd path | mkd path | rmd path | delete path | size path =>
      have own := plain path (by simp [Operation.arguments])
      exact single_plain ((hasLineEnd_path (by decide)).not.mpr own)

theorem ownCommands_of_plain (plain : ∀ argument ∈ operation.arguments, ¬ HasLineEnd argument) :
    OwnCommands tables client operation := by
  refine ⟨sends_run operation, fun wire added sent line member => ?_⟩
  obtain ⟨script, scriptMember, more, start, logged, -⟩ := @sends_run tables client operation wire
  obtain rfl := List.append_cancel_left (sent.symm.trans logged)
  obtain ⟨commands, commandsMember, rfl⟩ := List.mem_map.mp scriptMember
  obtain ⟨command, commandMember, rfl⟩ := List.mem_map.mp (start.subset member)
  exact oneLine_iff.mpr (scripts_plain plain commands commandsMember command commandMember)

def Reaches (tables : CharTables) (client : FtpClient) (operation : Operation) (command : String) : Prop :=
  ∃ wire before after, (operation.run tables client wire).2.sent = wire.sent ++ before ++ [controlLine command] ++ after

theorem Reaches.plain (reaches : Reaches tables client operation command) (own : OwnCommands tables client operation) :
    ¬ HasLineEnd command := by
  obtain ⟨wire, before, after, sent⟩ := reaches
  rw [List.append_assoc, List.append_assoc] at sent
  exact oneLine_iff.mp (own.single wire _ sent (controlLine command) (by simp))

section Reaching

variable {Value Next : Type} {wire : Wire} {channel : Channel} {scripts : List (List String)}

theorem send_grows {next : Unit → Session Value} {others : List (List (List UInt8))} (found : wire.channel = some channel)
    (goes : ∀ value, Sends Wire.sent others (next value)) :
    ∃ after, ((send command >>= next) wire).2.sent = wire.sent ++ [controlLine command] ++ after := by
  obtain ⟨after, grown⟩ := @bind_grows _ _ _ _ _ (send command) next wire Wire.sent others goes
  exact ⟨after, by rw [grown, send_open found]⟩

theorem simple_grows {codes : List Nat} (found : wire.channel = some channel) :
    ∃ after, (FtpClient.simpleCommand tables command path codes wire).2.sent =
      wire.sent ++ [controlLine (FtpClient.withPath command path)] ++ after :=
  send_grows found fun _ => (quiet_bind quiet_expect fun _ => quiet_pure).sends

theorem simple_reaches {codes : List Nat}
    (run : operation.run tables client = FtpClient.simpleCommand tables command path codes) :
    Reaches tables client operation (FtpClient.withPath command path) := by
  obtain ⟨after, grown⟩ := @simple_grows tables command path (answeringServer []) _ codes rfl
  exact ⟨answeringServer [], [], after, by rw [run, grown, List.append_nil]⟩

def renameReply : Reply := .single 350 (plainLine "To?" (by decide) (by decide))

theorem rename_reaches {src dst : String} : Reaches tables client (.rename src dst) (FtpClient.withPath "RNTO" dst) := by
  let middle := (answeringServer [renameReply]).exchanged (answeringChannel [renameReply])
    (FtpClient.withPath "RNFR" src) ⟨[], none⟩
  have read : readReply tables.digits (answeringChannel [renameReply]).incoming = (.ok renameReply.value, ⟨[], none⟩) :=
    @readReply_render tables.digits renameReply [] none
  have begun : FtpClient.simpleCommand tables "RNFR" src [350] (answeringServer [renameReply]) = (.ok (), middle) := by
    unfold FtpClient.simpleCommand
    rw [exchange_expect rfl rfl read]
    rfl
  obtain ⟨after, grown⟩ := @simple_grows tables "RNTO" dst middle _ [250] rfl
  refine ⟨answeringServer [renameReply], [controlLine (FtpClient.withPath "RNFR" src)], after, ?_⟩
  change (FtpClient.rename tables src dst _).2.sent = _
  unfold FtpClient.rename
  rw [bind_of_ok begun, grown]
  rfl

def extendedPort : Reply := .single 229 (plainLine "(|||5|)" (by decide) (by decide))

def openingServer : Wire :=
  { answeringServer [extendedPort] with
    connections := [.ok { bytes := [], ending := .closed, upload := none }] }

theorem openData_opens : ∃ data after channel, openData tables client openingServer = (.ok data, after) ∧
    after.channel = some channel ∧ after.sent = [controlLine "EPSV"] := by
  let channel := answeringChannel [extendedPort]
  have read : readReply tables.digits channel.incoming = (.ok extendedPort.value, ⟨[], none⟩) :=
    @readReply_render tables.digits extendedPort [] none
  have group : findEpsv tables extendedPort.value.2.toList = some ['5'] := by
    refine findEpsv_iff.mpr (.here ⟨'|', [], rfl, by decide, List.cons_ne_nil _ _, fun char member => ?_⟩)
    rw [List.mem_singleton.mp member]
    exact isDecimal_of_isDigit (by decide)
  have value : tables.digits.int ['5'] = some 5 := tables.digits.int_digits (List.all_eq_true.mp rfl) (by decide)
  have ran := @passive_found tables client openingServer channel _ _ ['5'] rfl rfl read ((if_pos rfl).trans group)
  rw [value] at ran
  let after := { openingServer.exchanged channel "EPSV" ⟨[], none⟩ with
    dialled := [(client.host, 5)]
    connections := [] }
  refine ⟨{ bytes := [], ending := .closed, upload := none }, after, _, ?_, rfl, rfl⟩
  unfold openData
  rw [bind_of_ok ran]
  rfl

theorem opened_reaches {program : DataConnection → Session Value}
    (run : operation.run tables client = (openData tables client >>= program) >>= fun _ => pure ())
    (sends : ∀ data (wire : Wire) channel, wire.channel = some channel →
      ∃ after, (program data wire).2.sent = wire.sent ++ [controlLine command] ++ after) :
    Reaches tables client operation command := by
  obtain ⟨data, middle, channel, opened, found, sent⟩ := @openData_opens tables client
  obtain ⟨after, grown⟩ := sends data middle channel found
  obtain ⟨more, ended⟩ := @bind_grows _ _ _ _ _ (openData tables client >>= program) (fun _ => pure ()) openingServer
    Wire.sent [[]] fun _ => quiet_pure.sends
  refine ⟨openingServer, [controlLine "EPSV"], after ++ more, ?_⟩
  rw [run, ended, bind_of_ok opened, grown, sent, List.append_assoc]
  rfl

theorem listDir_reaches : Reaches tables client (.listDir path) ("MLSD" ++ listSuffix path) := by
  obtain ⟨body, next, same, quiet, goes, falls, -⟩ := @listDir_parts tables client path
  refine @opened_reaches tables client _ _ _ (fun data =>
    handle (send ("MLSD" ++ listSuffix path) >>= fun _ => body data) FtpClient.refused >>= next) ?_ ?_
  · rw [← same]
    rfl
  · intro data wire channel found
    obtain ⟨after, grown⟩ := @bind_grows _ _ _ _ _ (handle (send ("MLSD" ++ listSuffix path) >>= fun _ => body data)
      FtpClient.refused) next wire Wire.sent _ (sends_either goes falls)
    rcases @attempt_cases _ ("MLSD" ++ listSuffix path) (body data) wire (quiet data) with ⟨-, closed⟩ | sent
    · cases found.symm.trans closed
    · exact ⟨after, by rw [grown, sent]⟩

theorem size_reaches : Reaches tables client (.size path) (FtpClient.withPath "SIZE" path) := by
  obtain ⟨after, grown⟩ := @send_grows (FtpClient.withPath "SIZE" path) _ (answeringServer []) _
    (fun _ => answer tables >>= fun reply => pure (if reply.1 = 213 then parseInt reply.2 else none)) [[]] rfl
    fun _ => (quiet_bind quiet_answer fun _ => quiet_pure).sends
  obtain ⟨more, ended⟩ := @bind_grows _ _ _ _ _ (FtpClient.size tables path) (fun _ => pure ()) (answeringServer [])
    Wire.sent [[]] fun _ => quiet_pure.sends
  refine ⟨answeringServer [], [], after ++ more, ?_⟩
  change ((FtpClient.size tables path >>= fun _ => pure ()) _).2.sent = _
  rw [ended]
  change ((send (FtpClient.withPath "SIZE" path) >>= fun _ => answer tables >>= fun reply =>
    pure (if reply.1 = 213 then parseInt reply.2 else none)) _).2.sent ++ more = _
  rw [grown]
  simp

theorem argument_reaches {argument : String} (member : argument ∈ operation.arguments) :
    ∃ command, Reaches tables client operation command ∧ (HasLineEnd command ↔ HasLineEnd argument) := by
  cases operation with
  | pwd => cases member
  | rename src dst =>
      rcases List.mem_pair.mp member with rfl | rfl
      · obtain ⟨after, grown⟩ := @simple_grows tables "RNFR" argument (answeringServer []) _ [350] rfl
        obtain ⟨more, ended⟩ := @bind_grows _ _ _ _ _ (FtpClient.simpleCommand tables "RNFR" argument [350])
          (fun _ => FtpClient.simpleCommand tables "RNTO" dst [250]) (answeringServer []) Wire.sent _ fun _ => sends_simple
        refine ⟨_, ⟨answeringServer [], [], after ++ more, ?_⟩, @hasLineEnd_path "RNFR" argument (by decide)⟩
        change ((FtpClient.simpleCommand tables "RNFR" argument [350] >>= fun _ =>
          FtpClient.simpleCommand tables "RNTO" dst [250]) _).2.sent = _
        rw [ended, grown]
        simp
      · exact ⟨_, rename_reaches, hasLineEnd_path (by decide)⟩
  | listDir path =>
      obtain rfl := List.mem_singleton.mp member
      exact ⟨_, listDir_reaches, hasLineEnd_suffix (by decide)⟩
  | size path =>
      obtain rfl := List.mem_singleton.mp member
      exact ⟨_, size_reaches, hasLineEnd_path (by decide)⟩
  | retrieve path =>
      obtain rfl := List.mem_singleton.mp member
      refine ⟨FtpClient.withPath "RETR" argument, opened_reaches rfl fun data wire channel found => ?_,
        hasLineEnd_path (by decide)⟩
      exact send_grows found fun _ => (quiet_bind quiet_expect fun _ => quiet_bind (fun _ => rfl) fun _ =>
        quiet_bind quiet_ofExcept fun _ => quiet_bind quiet_expect fun _ => quiet_pure).sends
  | store path src =>
      obtain rfl := List.mem_singleton.mp member
      refine ⟨FtpClient.withPath "STOR" argument, opened_reaches rfl fun data wire channel found => ?_,
        hasLineEnd_path (by decide)⟩
      exact send_grows found fun _ => (quiet_bind quiet_expect fun _ => quiet_bind quiet_ofExcept fun _ =>
        quiet_bind quiet_expect fun _ => quiet_pure).sends
  | cwd path | mkd path | rmd path | delete path =>
      obtain rfl := List.mem_singleton.mp member
      exact ⟨_, simple_reaches rfl, hasLineEnd_path (by decide)⟩

theorem ownCommands_iff : OwnCommands tables client operation ↔ ∀ argument ∈ operation.arguments, ¬ HasLineEnd argument := by
  constructor
  · intro own argument member broken
    obtain ⟨command, reaches, same⟩ := @argument_reaches tables client operation argument member
    exact reaches.plain own (same.mpr broken)
  · exact ownCommands_of_plain

end Reaching

end Plain

/-! The requests to the file routes. -/

def join (cur name : String) : String :=
  if stripChar '/' cur = "" then name else stripChar '/' cur ++ "/" ++ name

/-- `src.rsplit("/", 1)[-1]`. -/
def lastPart (src : String) : String := String.ofList (src.toList.rtakeWhile (· ≠ '/'))

inductive FileRequest where
  | list (path : String)
  | download (path : String)
  | upload (path : String) (filename : Option String) (content : List UInt8)
  | mkdir (path name : String)
  | delete (path isDir : String)
  | rename (path src dst : String)
  | copy (src dstDir move : String) (content : List UInt8)

namespace FileRequest

def uploadName (filename : Option String) : String :=
  match filename with
  | none | some "" => "upload.bin"
  | some name => name

/-- What the clients of the hosts of a request are asked for. -/
def operations : FileRequest → List Operation
  | .list path => [.listDir path]
  | .download path => [.retrieve path]
  | .upload path filename content => [.store (join path (uploadName filename)) content]
  | .mkdir path name => [.mkd (join path (strip name))]
  | .delete path isDir => if isDir = "" then [.delete path] else [.rmd path]
  | .rename path src dst => [.rename (join path src) (join path (strip dst))]
  | .copy src dstDir move content =>
      if lastPart src = "" then []
      else .retrieve src :: .store (join dstDir (lastPart src)) content :: if move = "" then [] else [.delete src]

/-- The paths and names of a request, without the blanks around a new name. -/
def names : FileRequest → List String
  | .list path | .download path | .delete path _ => [path]
  | .upload path filename _ => [path, uploadName filename]
  | .mkdir path name => [path, strip name]
  | .rename path src dst => [path, src, strip dst]
  | .copy src dstDir _ _ => if lastPart src = "" then [] else [src, dstDir]

end FileRequest

section Requests

variable {tables : CharTables} {client : FtpClient} {first second text : String} {char : Char}

theorem hasLineEnd_empty : ¬ HasLineEnd "" := by
  unfold HasLineEnd
  decide

theorem hasLineEnd_slash : HasLineEnd (first ++ "/" ++ second) ↔ HasLineEnd first ∨ HasLineEnd second := by
  have rest : HasLineEnd ("/" ++ second) ↔ HasLineEnd second := hasLineEnd_append (by decide)
  rw [← rest, String.append_assoc]
  unfold HasLineEnd
  rw [String.toList_append, List.infix_append_iff]
  constructor
  · rintro (within | within | ⟨start, last, same, ends, begins⟩)
    · exact .inl within
    · exact .inr within
    · cases last with
      | nil =>
          rw [List.append_nil] at same
          exact .inl (same ▸ ends.isInfix)
      | cons char last =>
          rw [String.toList_append] at begins
          obtain ⟨tail, begun⟩ := begins
          obtain ⟨rfl, -⟩ := List.cons.inj begun
          have member : '/' ∈ ['\r', '\n'] := same ▸ List.mem_append_right _ List.mem_cons_self
          exact absurd member (by decide)
  · rintro (within | within)
    · exact .inl within
    · exact .inr (.inl within)

theorem hasLineEnd_join : HasLineEnd (join first second) ↔ HasLineEnd first ∨ HasLineEnd second := by
  rw [← @hasLineEnd_stripChar first]
  unfold join
  split
  next empty =>
    rw [empty]
    exact (or_iff_right hasLineEnd_empty).symm
  · exact hasLineEnd_slash

theorem hasLineEnd_lastPart (broken : HasLineEnd (lastPart text)) : HasLineEnd text := by
  unfold HasLineEnd lastPart at broken
  rw [String.toList_ofList] at broken
  exact broken.trans (List.rtakeWhile_suffix _ _).isInfix

/-- Every operation of a request sends its own commands exactly when no path or name in it has a line end. -/
theorem request_own_iff (request : FileRequest) :
    (∀ operation ∈ request.operations, OwnCommands tables client operation) ↔
      ∀ name ∈ request.names, ¬ HasLineEnd name := by
  simp only [ownCommands_iff]
  cases request with
  | list path => simp [FileRequest.operations, FileRequest.names, Operation.arguments]
  | download path => simp [FileRequest.operations, FileRequest.names, Operation.arguments]
  | upload path filename content =>
      simp [FileRequest.operations, FileRequest.names, Operation.arguments, hasLineEnd_join]
  | mkdir path name => simp [FileRequest.operations, FileRequest.names, Operation.arguments, hasLineEnd_join]
  | delete path isDir =>
      by_cases file : isDir = "" <;> simp [FileRequest.operations, FileRequest.names, Operation.arguments, file]
  | rename path src dst =>
      simp [FileRequest.operations, FileRequest.names, Operation.arguments, hasLineEnd_join]
      generalize HasLineEnd path = directory
      generalize HasLineEnd src = source
      generalize HasLineEnd (strip dst) = target
      tauto
  | copy src dstDir move content =>
      have part : ¬ HasLineEnd src → ¬ HasLineEnd (lastPart src) := mt hasLineEnd_lastPart
      unfold FileRequest.operations FileRequest.names
      dsimp only
      generalize lastPart src = last at part ⊢
      by_cases empty : last = ""
      · rw [if_pos empty, if_pos empty]
        simp
      · rw [if_neg empty, if_neg empty]
        by_cases copies : move = ""
        · rw [if_pos copies]
          simp [Operation.arguments, hasLineEnd_join]
          exact fun plain _ => part plain
        · rw [if_neg copies]
          simp [Operation.arguments, hasLineEnd_join]
          exact fun plain => ⟨fun both => both.1.1, fun directory => ⟨⟨directory, part plain⟩, plain⟩⟩

end Requests

def injectedName : FileRequest := .mkdir "" "new\r\nDELE report.txt"

theorem injected_name_sent : injectedName.operations = [.mkd "new\r\nDELE report.txt"] ∧
    ((Operation.mkd "new\r\nDELE report.txt").run plainTables plainClient (answeringServer [])).2.sent =
      [controlLine "MKD new" ++ controlLine "DELE report.txt"] ∧
    ¬ ∀ operation ∈ injectedName.operations, OwnCommands plainTables plainClient operation := by
  have asked : injectedName.operations = [.mkd "new\r\nDELE report.txt"] := by decide
  have sent : ((Operation.mkd "new\r\nDELE report.txt").run plainTables plainClient (answeringServer [])).2.sent =
      [controlLine "MKD new" ++ controlLine "DELE report.txt"] := by rfl
  refine ⟨asked, sent, fun own => ?_⟩
  have single := own _ (asked ▸ List.mem_singleton.mpr rfl)
  have line := single.single (answeringServer []) _ sent _ (List.mem_singleton.mpr rfl)
  have rest := congrArg List.length (line.2 (Utf8.encodeText "MKD new") (controlLine "DELE report.txt") rfl)
  simp [controlLine, crlf] at rest

end Dosm.Ftp
