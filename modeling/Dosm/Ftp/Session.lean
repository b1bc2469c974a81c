import Dosm.Ftp.Client
import Dosm.Ftp.Framing

namespace Dosm.Ftp

open Python Program

/-! How a session ends.

The farewell comes after the errors of the session are translated. It reads a reply, and of
what that raises it swallows the errors of sockets only.
-/

namespace Failure

def message : Failure → String
  | .ftp _ message | .socks message | .os message | .unicode message | .value message | .overflow message
  | .fileTransfer message | .other message => message

/-- What a session reports as its own error, or is one already. -/
def Reported : Failure → Prop
  | .ftp .. | .os _ | .fileTransfer _ => True
  | _ => False

end Failure

/-- The session ends as its connecting, its login and its operation did, and closes. -/
structure OutcomeKept {Value : Type} (body run : Except Failure Value × Wire) : Prop where
  returned : ∀ value, body.1 = .ok value → run.1 = .ok value
  raised : ∀ failure, body.1 = .error failure →
    ∃ text, run.1 = .error (.fileTransfer text) ∧ failure.message.toList <:+: text.toList
  closed : run.2.channel = none

/-- Three decimal digits and a character after them begin the line. -/
def hasCode (digits : Digits) (line : List UInt8) : Bool :=
  match lineText line with
  | first :: second :: third :: _ :: _ =>
      digits.isDigit first && digits.isDigit second && digits.isDigit third &&
        (digits.int [first, second, third]).isSome
  | _ => false

/-- The connection fails within the line, or the line has a code. -/
def Settles (digits : Digits) (incoming : Incoming) : Prop :=
  lineFeed ∉ incoming.bytes ∧ incoming.failing.isSome ∨ hasCode digits (firstLine incoming.bytes) = true

/-- What the server does when it is told farewell. -/
def TakesLeave (digits : Digits) (wire : Wire) : Prop :=
  ∀ channel, wire.channel = some channel → (channel.fails 0).isSome ∨ Settles digits channel.incoming

section Quit

variable {digits : Digits} {incoming after : Incoming} {line : List UInt8} {tables : CharTables} {wire : Wire}

def OnlySockets {Value : Type} (outcome : Except Failure Value) : Prop :=
  ∀ failure, outcome = .error failure → ∃ message, failure = .os message

theorem onlySockets_line (read : readline incoming = (.ok line, after)) (nonempty : line ≠ []) :
    OnlySockets (readReply digits incoming).1 ↔ hasCode digits line = true := by
  obtain ⟨byte, rest, rfl⟩ := List.exists_cons_of_ne_nil nonempty
  unfold readReply hasCode OnlySockets
  rw [read]
  dsimp only
  generalize lineText (byte :: rest) = text
  match text with
  | [] | [_] | [_, _] | [_, _, _] =>
      refine iff_of_false (fun only => ?_) Bool.false_ne_true
      obtain ⟨message, same⟩ := only _ rfl
      cases same
  | first :: second :: third :: mark :: text =>
      dsimp only
      cases digits.isDigit first && digits.isDigit second && digits.isDigit third with
      | false =>
          rw [if_neg Bool.false_ne_true, Bool.false_and]
          refine iff_of_false (fun only => ?_) Bool.false_ne_true
          obtain ⟨message, same⟩ := only _ rfl
          cases same
      | true =>
          rw [if_pos rfl, Bool.true_and]
          cases digits.int [first, second, third] with
          | none =>
              refine iff_of_false (fun only => ?_) Bool.false_ne_true
              obtain ⟨message, same⟩ := only _ rfl
              cases same
          | some code =>
              refine iff_of_true (fun failure raised => ?_) rfl
              dsimp only at raised
              split at raised
              · split at raised
                next failed =>
                  cases raised
                  exact moreLines_failure failed
                · cases raised
              · cases raised

theorem hasCode_feed : hasCode digits (line ++ [lineFeed]) = hasCode digits line := by
  unfold hasCode
  rw [lineText_feed]

theorem firstLine_plain {bytes : List UInt8} (plain : lineFeed ∉ bytes) : firstLine bytes = bytes := by
  unfold firstLine
  rw [List.takeWhile_eq_self_iff]
  intro byte member
  exact decide_eq_true fun same => plain (same ▸ member)

theorem readReply_settles_iff : OnlySockets (readReply digits incoming).1 ↔ Settles digits incoming := by
  obtain ⟨bytes, failing⟩ := incoming
  unfold Settles
  dsimp only
  by_cases plain : lineFeed ∈ bytes
  · rw [or_iff_right fun fails => fails.1 plain]
    obtain ⟨front, rest, rfl, apart⟩ := List.eq_append_cons_of_mem plain
    have first : firstLine (front ++ lineFeed :: rest) = front := by
      have other : ∀ byte ∈ front, decide (byte ≠ lineFeed) = true := by
        intro byte member
        exact decide_eq_true fun same => apart (same ▸ member)
      unfold firstLine
      rw [List.takeWhile_append_of_pos other]
      simp
    rw [first, onlySockets_line (readline_line apart) (List.concat_ne_nil _ _), hasCode_feed]
  · have whole : bytes.dropWhile (· ≠ lineFeed) = [] := by
      rw [List.dropWhile_eq_nil_iff]
      intro byte member
      exact decide_eq_true fun same => plain (same ▸ member)
    rw [firstLine_plain plain]
    cases failing with
    | some message =>
        have read : readline ⟨bytes, some message⟩ = (.error (.os message), ⟨bytes, some message⟩) := by
          unfold readline
          rw [whole]
        refine iff_of_true (fun failure raised => ?_) (.inl ⟨plain, rfl⟩)
        rw [readReply, read] at raised
        cases raised
        exact ⟨message, rfl⟩
    | none =>
        have read : readline ⟨bytes, none⟩ = (.ok bytes, ⟨[], none⟩) := by
          unfold readline
          rw [whole]
        rw [or_iff_right fun fails => Bool.false_ne_true fails.2]
        by_cases empty : bytes = []
        · subst empty
          refine iff_of_false (fun only => ?_) Bool.false_ne_true
          obtain ⟨message, same⟩ := only (.ftp none "control connection closed by server") (by rw [readReply, read])
          cases same
        · exact onlySockets_line read empty

theorem readReply_not_reported {message : String} : (readReply digits incoming).1 ≠ .error (.fileTransfer message) := by
  intro raised
  unfold readReply at raised
  split at raised
  next failed =>
    cases raised
    unfold readline at failed
    split at failed <;> cases failed
  · cases raised
  · split at raised
    · split at raised
      · split at raised
        · cases raised
        · split at raised
          · split at raised
            next failed =>
              cases raised
              obtain ⟨text, same⟩ := moreLines_failure failed
              cases same
            · cases raised
          · cases raised
      · cases raised
    · cases raised

theorem quit_closed : (quit tables wire).2.channel = none := by
  rw [quit, ensure_state]
  rfl

theorem farewell_none (closed : wire.channel = none) : farewell tables wire = (.ok (), wire) := by
  change (if wire.channel.isSome then _ else pure () : Session Unit) wire = _
  rw [closed]
  rfl

theorem farewell_some {channel : Channel} (found : wire.channel = some channel) :
    farewell tables wire = (send "QUIT" >>= fun _ => answer tables >>= fun _ => pure ()) wire := by
  change (if wire.channel.isSome then _ else pure () : Session Unit) wire = _
  rw [found]
  rfl

theorem farewell_cases : (∃ message, (farewell tables wire).1 = .error (.os message)) ∧ TakesLeave tables.digits wire ∨
    (farewell tables wire).1 = .ok () ∧ TakesLeave tables.digits wire ∨
    ∃ channel : Channel, (farewell tables wire).1 = (readReply tables.digits channel.incoming).1.map (fun _ => ()) ∧
      (TakesLeave tables.digits wire ↔ Settles tables.digits channel.incoming) := by
  cases found : wire.channel with
  | none =>
      rw [farewell_none found]
      refine .inr (.inl ⟨rfl, fun channel same => ?_⟩)
      cases found.symm.trans same
  | some channel =>
      rw [farewell_some found]
      cases fails : channel.fails 0 with
      | some message =>
          obtain ⟨after, sent⟩ := @send_fails "QUIT" message wire channel found fails
          refine .inl ⟨⟨message, by rw [bind_of_error sent]⟩, fun other same => .inl ?_⟩
          cases found.symm.trans same
          rw [fails]
          rfl
      | none =>
          refine .inr (.inr ⟨channel, ?_, ?_⟩)
          · rw [bind_of_ok (send_succeeds found fails)]
            generalize reached : ({ wire with
              sent := wire.sent ++ [controlLine "QUIT"]
              channel := some { channel with fails := fun count => channel.fails (count + 1) } } : Wire) = after
            have answered : (answer tables after).1 = (readReply tables.digits channel.incoming).1 := by
              subst reached
              rfl
            rcases @bind_cases _ _ _ _ (answer tables) (fun _ => pure ()) after with
              ⟨failure, last, read, whole⟩ | ⟨reply, last, read, whole⟩
            · rw [read] at answered
              rw [whole, ← answered]
              rfl
            · rw [read] at answered
              rw [whole, ← answered]
              rfl
          · refine ⟨fun leaves => ?_, fun settles other same => .inr ?_⟩
            · rcases leaves channel found with failed | settles
              · rw [fails] at failed
                cases failed
              · exact settles
            · cases found.symm.trans same
              exact settles

theorem quit_outcome : (quit tables wire).1 =
    match (farewell tables wire).1 with
    | .error (.os _) => .ok ()
    | outcome => outcome := by
  unfold quit ensure handle
  cases farewell tables wire with
  | mk outcome after =>
      cases outcome with
      | ok value => rfl
      | error failure => cases failure <;> rfl

theorem quit_cases : ((quit tables wire).1 = .ok () ∧ TakesLeave tables.digits wire) ∨
    ∃ failure, (quit tables wire).1 = .error failure ∧ (∀ message, failure ≠ .fileTransfer message) ∧
      ¬ TakesLeave tables.digits wire := by
  rw [quit_outcome]
  rcases @farewell_cases tables wire with ⟨⟨message, failed⟩, leaves⟩ | ⟨done, leaves⟩ | ⟨channel, read, leaves⟩
  · rw [failed]
    exact .inl ⟨rfl, leaves⟩
  · rw [done]
    exact .inl ⟨rfl, leaves⟩
  · rw [read, leaves, ← readReply_settles_iff]
    cases outcome : (readReply tables.digits channel.incoming).1 with
    | ok reply => exact .inl ⟨rfl, nofun⟩
    | error failure =>
        have apart : ∀ message, failure ≠ .fileTransfer message := by
          rintro message rfl
          exact readReply_not_reported outcome
        by_cases sockets : ∃ message, failure = .os message
        · obtain ⟨message, rfl⟩ := sockets
          refine .inl ⟨rfl, fun other same => ?_⟩
          cases same
          exact ⟨message, rfl⟩
        · refine .inr ⟨failure, ?_, apart, fun only => sockets (only failure rfl)⟩
          cases failure with
          | os message => exact absurd ⟨message, rfl⟩ sockets
          | _ => rfl

end Quit

section Outcome

variable {Value : Type} (tables : CharTables) (client : FtpClient) (username password : String)
  (operation : Session Value) (wire : Wire)

def sessionBody : Session Value := do
  connect tables client
  login tables client username password
  operation

theorem message_ftpText (code : Option Nat) (message : String) : message.toList <:+: (ftpText code message).toList := by
  unfold ftpText
  split
  · exact List.infix_rfl
  · exact List.infix_rfl
  · rw [String.toList_append]
    exact (List.suffix_append _ _).isInfix

theorem translated_cases (failure : Failure) : (translated client failure = none ∧
      (failure.Reported ↔ ∃ message, failure = .fileTransfer message)) ∨
    ∃ text, translated client failure = some (.fileTransfer text) ∧ failure.message.toList <:+: text.toList ∧
      failure.Reported := by
  cases failure with
  | ftp code message => exact .inr ⟨_, rfl, message_ftpText code message, trivial⟩
  | os message =>
      refine .inr ⟨_, rfl, ?_, trivial⟩
      rw [String.toList_append]
      exact (List.suffix_append _ _).isInfix
  | fileTransfer message => exact .inl ⟨rfl, fun _ => ⟨message, rfl⟩, fun _ => trivial⟩
  | _ => exact .inl ⟨rfl, nofun, fun ⟨_, same⟩ => nomatch same⟩

def translateError {Value : Type} : Except Failure Value → Except Failure Value
  | .ok value => .ok value
  | .error failure => .error ((translated client failure).getD failure)

variable {client} in
theorem translateError_none {Value : Type} {failure : Failure} (none : translated client failure = none) :
    translateError client (.error failure : Except Failure Value) = .error failure := by
  rw [translateError, none, Option.getD_none]

variable {client} in
theorem translateError_some {Value : Type} {failure other : Failure} (found : translated client failure = some other) :
    translateError client (.error failure : Except Failure Value) = .error other := by
  rw [translateError, found, Option.getD_some]

theorem runSession_cases : (TakesLeave tables.digits (sessionBody tables client username password operation wire).2 ∧
      (runSession tables client username password operation wire).1 =
        translateError client (sessionBody tables client username password operation wire).1) ∨
    ¬ TakesLeave tables.digits (sessionBody tables client username password operation wire).2 ∧
      ∃ failure, (runSession tables client username password operation wire).1 = .error failure ∧
        ∀ message, failure ≠ .fileTransfer message := by
  have handled : handle (sessionBody tables client username password operation)
        (fun failure => (translated client failure).map raise) wire =
      (translateError client (sessionBody tables client username password operation wire).1,
        (sessionBody tables client username password operation wire).2) := by
    unfold handle
    cases sessionBody tables client username password operation wire with
    | mk outcome after =>
        cases outcome with
        | ok value => rfl
        | error failure =>
            dsimp only [translateError]
            cases translated client failure <;> rfl
  rcases @quit_cases tables (sessionBody tables client username password operation wire).2 with
    ⟨done, leaves⟩ | ⟨failure, raised, apart, leaves⟩
  · exact .inl ⟨leaves, ensure_of_ok handled done⟩
  · exact .inr ⟨leaves, failure, ensure_of_error handled raised, apart⟩

/-- A session ends as its body did exactly when the farewell goes well and the first failure, if
there is one, is of a kind that a session reports. -/
theorem outcome_kept_iff : OutcomeKept (sessionBody tables client username password operation wire)
      (runSession tables client username password operation wire) ↔
    (∀ failure, (sessionBody tables client username password operation wire).1 = .error failure → failure.Reported) ∧
      TakesLeave tables.digits (sessionBody tables client username password operation wire).2 := by
  have closed : (runSession tables client username password operation wire).2.channel = none := by
    rw [runSession, ensure_state]
    exact quit_closed
  have ended := runSession_cases tables client username password operation wire
  generalize sessionBody tables client username password operation wire = body at *
  generalize runSession tables client username password operation wire = run at *
  rcases ended with ⟨leaves, same⟩ | ⟨leaves, failure, same, apart⟩
  · constructor
    · intro kept
      refine ⟨fun failure raised => ?_, leaves⟩
      obtain ⟨text, reported, -⟩ := kept.raised failure raised
      rw [same, raised] at reported
      rcases translated_cases client failure with ⟨none, reports⟩ | ⟨-, -, -, reports⟩
      · rw [translateError_none none] at reported
        exact reports.mpr ⟨text, Except.error.inj reported⟩
      · exact reports
    · rintro ⟨reports, -⟩
      refine ⟨fun value returned => by rw [same, returned, translateError], fun failure raised => ?_, closed⟩
      rw [same, raised]
      rcases translated_cases client failure with ⟨none, reported⟩ | ⟨text, found, within, -⟩
      · obtain ⟨message, rfl⟩ := reported.mp (reports failure raised)
        exact ⟨message, translateError_none none, List.infix_rfl⟩
      · exact ⟨text, translateError_some found, within⟩
  · refine iff_of_false (fun kept => ?_) fun both => leaves both.2
    cases outcome : body.1 with
    | ok value => cases same.symm.trans (kept.returned value outcome)
    | error first =>
        obtain ⟨text, reported, -⟩ := kept.raised first outcome
        exact apart text (Except.error.inj (same.symm.trans reported))

end Outcome

def departingServer : Wire where
  dial := .ok { incoming := { bytes := Utf8.encodeText "220 Hi\r\n230 In\r\n200 Ok\r\n257 Made\r\n", failing := none },
                fails := fun _ => none }
  handshake := .error ""
  connections := []
  channel := none
  sent := []
  dialled := []
  saved := []

/-- The directory is made, and what is raised is neither that nor an error of the session. -/
theorem departing_outcome_lost :
    (sessionBody plainTables plainClient "ann" "" (FtpClient.mkd plainTables "/new") departingServer).1 = .ok () ∧
      (runSession plainTables plainClient "ann" "" (FtpClient.mkd plainTables "/new") departingServer).1 =
        .error (.ftp none "control connection closed by server") ∧
      ¬ OutcomeKept (sessionBody plainTables plainClient "ann" "" (FtpClient.mkd plainTables "/new") departingServer)
        (runSession plainTables plainClient "ann" "" (FtpClient.mkd plainTables "/new") departingServer) := by
  have made : (sessionBody plainTables plainClient "ann" "" (FtpClient.mkd plainTables "/new") departingServer).1 =
    .ok () := rfl
  have raised : (runSession plainTables plainClient "ann" "" (FtpClient.mkd plainTables "/new") departingServer).1 =
    .error (.ftp none "control connection closed by server") := rfl
  refine ⟨made, raised, fun kept => ?_⟩
  cases raised.symm.trans (kept.returned () made)

end Dosm.Ftp
