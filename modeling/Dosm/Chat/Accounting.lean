import Dosm.Chat.Generation

namespace Dosm.Chat.Generation

open Models Python Agent

/-! Which answers a turn survives, and what becomes of their calls.

A call is answered with one entry of the trace or put on one card, unless its name or
its arguments have a shape that the turn does not expect. The response of the last
round is final, and calls of its own are dropped.
-/

/-- The stripped text under a name; nothing counts as empty text. -/
def textAt (args : Json) (name : String) : Option String :=
  match args with
  | .object fields =>
      match ((fields.lookup name).getD .null).orElse (.str "") with
      | .str text => some (strip text)
      | _ => none
  | _ => none

/-- `command` is text where the arguments have one. -/
def takesCommand : Json → Bool
  | .object fields =>
      match (fields.lookup "command").getD (.str "") with
      | .str _ => true
      | _ => false
  | _ => false

/-- A name that can be looked up, and the arguments that the checks of its tool read. -/
def wellShaped (call : ToolCall) : Bool :=
  match call.name with
  | .array _ | .object _ => false
  | .str name =>
      if name = "local_exec" then
        (textAt call.arguments "host").any fun host =>
          if host = "" then takesCommand call.arguments else (textAt call.arguments "command").isSome
      else name ∉ Plans.commandClassifyTools || takesCommand call.arguments
  | _ => true

/-- A call of an action; a `local_exec` that names a host is not carried out. -/
def proposes (call : ToolCall) : Bool :=
  match call.name with
  | .str name =>
      (getQuery name).isNone && (getAction name).isSome &&
        (name ≠ "local_exec" || textAt call.arguments "host" = some "")
  | _ => false

/-- The calls of every round that answers them have the expected shape. -/
def Readable (texts : JsonTexts) (answers : Nat → Answer) : (left round : Nat) → Prop
  | left, round =>
      match completeChat texts (answers round) with
      | .error _ => True
      | .ok response =>
          match response.toolCalls, left with
          | [], _ | _, 0 => True
          | calls, left + 1 =>
              (∀ call ∈ calls, wellShaped call = true) ∧
                (calls.any proposes = false → Readable texts answers left (round + 1))

def Entry.call (entry : Entry) : ToolCall := ⟨entry.tool, entry.args⟩

def PendingCard.call (card : PendingCard) : ToolCall := ⟨.str card.tool, card.args⟩

namespace Turn

def accounts (turn : Turn) : List ToolCall :=
  turn.thinkingTrace.map Entry.call ++ turn.pendingPlanCards.map PendingCard.call

def calls (turn : Turn) : List ToolCall := turn.answered.flatMap ChatResponse.toolCalls

/-- The calls of the responses before the round cap. -/
def dueCalls (turn : Turn) : List ToolCall := (turn.answered.take maxQueryRounds).flatMap ChatResponse.toolCalls

theorem dueCalls_below {turn : Turn} (below : turn.answered.length ≤ maxQueryRounds) : turn.dueCalls = turn.calls := by
  rw [dueCalls, List.take_of_length_le below, calls]

structure Handles (before after : Turn) (calls : List ToolCall) : Prop where
  answered : after.answered = before.answered
  queue : ∃ events : List Event, after.queue = before.queue ++ events.map some
  accounted : after.accounts.Perm (before.accounts ++ calls)

theorem Handles.trans {first second third : Turn} {some more : List ToolCall} (left : Handles first second some)
    (right : Handles second third more) : Handles first third (some ++ more) := by
  obtain ⟨events, grown⟩ := left.queue
  obtain ⟨later, further⟩ := right.queue
  refine ⟨right.answered.trans left.answered, ⟨events ++ later, ?_⟩, ?_⟩
  · rw [further, grown, List.map_append, List.append_assoc]
  · have both := right.accounted.trans (left.accounted.append_right more)
    rwa [List.append_assoc] at both

theorem record_handles {turn : Turn} {entry : Entry} {answer : String} :
    Handles turn (turn.record entry answer) [entry.call] := by
  refine ⟨rfl, ⟨[.queryResult turn.thinkingTrace.length entry], rfl⟩, ?_⟩
  simp only [accounts, record, List.map_append, List.map_cons, List.map_nil, List.append_assoc]
  exact List.Perm.append_left _ List.perm_append_comm

theorem put_handles {turn : Turn} {event : Event} : Handles turn (turn.put event) [] :=
  ⟨rfl, ⟨[event], rfl⟩, by rw [List.append_nil]; exact List.Perm.refl _⟩

theorem propose_handles {turn : Turn} {card : PendingCard} : Handles turn (turn.propose card) [card.call] := by
  refine ⟨rfl, ⟨[], by simp [propose]⟩, ?_⟩
  simp [accounts, propose]

end Turn

section Calls

variable {env : Environment} {turn : Turn} {call : ToolCall}

theorem argumentText_toOption {name : String} :
    (argumentText call name).toOption = textAt call.arguments name := by
  simp only [argumentText, textAt]
  cases call.arguments with
  | object fields =>
      simp only [Json.get, bind, Except.bind]
      cases ((fields.lookup name).getD .null).orElse (.str "") <;> rfl
  | _ => rfl

theorem argumentText_of_textAt {name text : String} (found : textAt call.arguments name = some text) :
    argumentText call name = .ok text := by
  rw [← argumentText_toOption] at found
  cases read : argumentText call name with
  | error exn => simp [read, Except.toOption] at found
  | ok other =>
      rw [read] at found
      cases found
      rfl

theorem argumentText_of_none {name : String} (absent : textAt call.arguments name = none) :
    ∃ exn, argumentText call name = .error exn := by
  rw [← argumentText_toOption] at absent
  cases read : argumentText call name with
  | error exn => exact ⟨exn, rfl⟩
  | ok other => simp [read, Except.toOption] at absent

theorem tierOf_isOk {action : Agent.Action} :
    (tierOf env action call).toOption.isSome =
      (action.name ∉ Plans.commandClassifyTools || takesCommand call.arguments) := by
  by_cases classified : action.name ∈ Plans.commandClassifyTools
  · simp only [tierOf, if_pos classified, takesCommand]
    cases call.arguments with
    | object fields =>
        simp only [Json.get, bind, Except.bind]
        cases (fields.lookup "command").getD (.str "") <;> simp [classified] <;> rfl
    | _ => simp [classified, Json.get, bind, Except.bind, Except.toOption]
  · simp [tierOf, classified, Except.toOption, pure, Except.pure]

theorem getAction_name {name : String} {action : Agent.Action} (found : getAction name = some action) :
    action.name = name := by
  simpa using List.find?_some found

theorem confusedExec_other {name : String} (named : call.name = .str name) (other : name ≠ "local_exec") :
    confusedExec call = .ok none := by
  simp only [confusedExec, named]
  split
  · next same => exact absurd (Json.str.inj same) other
  · rfl

theorem queryEntry_call {found : Except Exn QueryResult} : (queryEntry call found).call = call := by
  cases found <;> rfl

theorem runQuery_handles : Turn.Handles turn (runQuery env turn call) [call] := by
  have recorded : Turn.Handles turn (runQuery env turn call)
      ([] ++ [(queryEntry call (env.runQuery turn.thinkingTrace.length)).call]) :=
    Turn.put_handles.trans Turn.record_handles
  rwa [queryEntry_call] at recorded

theorem handleCall_named {name : String} (named : call.name = .str name) (clear : confusedExec call = .ok none)
    (readable : name ∉ Plans.commandClassifyTools ∨ takesCommand call.arguments = true) :
    ∃ next, handleCall env turn call = (next, .ok ((getQuery name).isNone && (getAction name).isSome)) ∧
      Turn.Handles turn next [call] := by
  simp only [handleCall, clear, named, lookup]
  cases query : getQuery name with
  | some spec => exact ⟨runQuery env turn call, rfl, runQuery_handles⟩
  | none =>
      cases found : getAction name with
      | none =>
          refine ⟨_, rfl, ?_⟩
          rw [← named]
          exact Turn.record_handles
      | some action =>
          have tiered : (tierOf env action call).toOption.isSome = true := by
            rw [tierOf_isOk, getAction_name found]
            simpa using readable
          cases tier : tierOf env action call with
          | error exn => simp [tier, Except.toOption] at tiered
          | ok granted =>
              refine ⟨turn.propose ⟨action.name, call.arguments, granted⟩, by simp only [tier]; rfl, ?_⟩
              have same : (PendingCard.mk action.name call.arguments granted).call = call := by
                rw [PendingCard.call, getAction_name found, ← named]
              have proposed := @Turn.propose_handles turn ⟨action.name, call.arguments, granted⟩
              rwa [same] at proposed

theorem handleCall_wellShaped (good : wellShaped call = true) :
    ∃ next, handleCall env turn call = (next, .ok (proposes call)) ∧ Turn.Handles turn next [call] := by
  cases named : call.name with
  | array items => simp [wellShaped, named] at good
  | object fields => simp [wellShaped, named] at good
  | str name =>
      simp only [wellShaped, named] at good
      by_cases executes : name = "local_exec"
      · rw [if_pos executes] at good
        cases host : textAt call.arguments "host" with
        | none => simp [host] at good
        | some text =>
            subst executes
            simp only [host, Option.any_some] at good
            have hostText := argumentText_of_textAt host
            by_cases blank : text = ""
            · rw [if_pos blank] at good
              subst blank
              have clear : confusedExec call = .ok none := by
                simp [confusedExec, named, hostText, bind, Except.bind, pure, Except.pure]
              have same : proposes call = ((getQuery "local_exec").isNone && (getAction "local_exec").isSome) := by
                simp [proposes, named, host]
              rw [same]
              exact handleCall_named named clear (.inr good)
            · rw [if_neg blank] at good
              obtain ⟨command, commandAt⟩ := Option.isSome_iff_exists.mp good
              have nudged : confusedExec call = .ok (some (text, command)) := by
                simp [confusedExec, named, hostText, argumentText_of_textAt commandAt, blank, bind, Except.bind, pure,
                  Except.pure]
              have same : (nudgeEntry call text command).call = call := by
                rw [Entry.call, nudgeEntry, ← named]
              refine ⟨turn.record (nudgeEntry call text command) (correction text command), ?_, ?_⟩
              · simp [handleCall, nudged, proposes, named, host, blank]
              · have recorded := @Turn.record_handles turn (nudgeEntry call text command) (correction text command)
                rwa [same] at recorded
      · rw [if_neg executes] at good
        have readable : name ∉ Plans.commandClassifyTools ∨ takesCommand call.arguments = true := by simpa using good
        have same : proposes call = ((getQuery name).isNone && (getAction name).isSome) := by
          simp [proposes, named, executes]
        rw [same]
        exact handleCall_named named (confusedExec_other named executes) readable
  | _ =>
      refine ⟨turn.record ⟨call.name, call.arguments, false, unknownSummary env call, none⟩
        ("ERROR: " ++ unknownSummary env call), ?_, Turn.record_handles⟩
      simp [handleCall, confusedExec, named, lookup, proposes, pure, Except.pure]

theorem commandTools_actions :
    ∀ name ∈ Plans.commandClassifyTools, getQuery name = none ∧ (getAction name).isSome = true := by
  decide

theorem handleCall_untyped {name : String} (named : call.name = .str name) (clear : confusedExec call = .ok none)
    (classified : name ∈ Plans.commandClassifyTools) (untyped : takesCommand call.arguments = false) :
    ∃ exn, handleCall env turn call = (turn, .error exn) := by
  obtain ⟨noQuery, isAction⟩ := commandTools_actions name classified
  obtain ⟨action, found⟩ := Option.isSome_iff_exists.mp isAction
  have refused : (tierOf env action call).toOption.isSome = false := by
    rw [tierOf_isOk, getAction_name found]
    simp [classified, untyped]
  cases tier : tierOf env action call with
  | ok granted => simp [tier, Except.toOption] at refused
  | error exn => exact ⟨exn, by simp only [handleCall, clear, named, lookup, noQuery, found, tier]⟩

theorem handleCall_malformed (bad : wellShaped call = false) :
    ∃ exn, handleCall env turn call = (turn, .error exn) := by
  cases named : call.name with
  | array items => exact ⟨_, by simp [handleCall, confusedExec, named, lookup, pure, Except.pure]; rfl⟩
  | object fields => exact ⟨_, by simp [handleCall, confusedExec, named, lookup, pure, Except.pure]; rfl⟩
  | str name =>
      simp only [wellShaped, named] at bad
      by_cases executes : name = "local_exec"
      · rw [if_pos executes] at bad
        subst executes
        cases host : textAt call.arguments "host" with
        | none =>
            obtain ⟨exn, refused⟩ := argumentText_of_none host
            exact ⟨exn, by simp [handleCall, confusedExec, named, refused, bind, Except.bind]⟩
        | some text =>
            simp only [host, Option.any_some] at bad
            have hostText := argumentText_of_textAt host
            by_cases blank : text = ""
            · rw [if_pos blank] at bad
              subst blank
              have clear : confusedExec call = .ok none := by
                simp [confusedExec, named, hostText, bind, Except.bind, pure, Except.pure]
              exact handleCall_untyped named clear (by decide) bad
            · rw [if_neg blank] at bad
              obtain ⟨exn, refused⟩ := argumentText_of_none (Option.isSome_eq_false_iff.mp bad |> Option.isNone_iff_eq_none.mp)
              exact ⟨exn, by simp [handleCall, confusedExec, named, hostText, refused, blank, bind, Except.bind]⟩
      · rw [if_neg executes] at bad
        obtain ⟨classified, untyped⟩ : name ∈ Plans.commandClassifyTools ∧ takesCommand call.arguments = false := by
          simpa using bad
        exact handleCall_untyped named (confusedExec_other named executes) classified untyped
  | _ => simp [wellShaped, named] at bad

end Calls

section Rounds

variable {env : Environment} {answers : Nat → Answer} {turn : Turn} {calls : List ToolCall} {called : Bool}

theorem handleCalls_wellShaped (good : ∀ call ∈ calls, wellShaped call = true) :
    ∃ next, handleCalls env turn called calls = (next, .ok (called || calls.any proposes)) ∧
      Turn.Handles turn next calls := by
  induction calls generalizing turn called with
  | nil => exact ⟨turn, by simp [handleCalls], rfl, ⟨[], by simp⟩, by simp⟩
  | cons call rest ih =>
      obtain ⟨middle, handled, first⟩ := @handleCall_wellShaped env turn call (good call List.mem_cons_self)
      obtain ⟨next, later, others⟩ := @ih middle (called || proposes call)
        fun call member => good call (List.mem_cons_of_mem _ member)
      refine ⟨next, ?_, first.trans others⟩
      simp only [handleCalls, handled, later, List.any_cons, Bool.or_assoc]

theorem handleCalls_malformed (bad : ∃ call ∈ calls, wellShaped call = false) :
    ∃ next exn, handleCalls env turn called calls = (next, .error exn) := by
  induction calls generalizing turn called with
  | nil =>
      obtain ⟨call, member, _⟩ := bad
      cases member
  | cons call rest ih =>
      cases shape : wellShaped call with
      | false =>
          obtain ⟨exn, raised⟩ := @handleCall_malformed env turn call shape
          exact ⟨turn, exn, by simp only [handleCalls, raised]⟩
      | true =>
          obtain ⟨middle, handled, _⟩ := @handleCall_wellShaped env turn call shape
          have later : ∃ call ∈ rest, wellShaped call = false := by
            obtain ⟨other, member, broken⟩ := bad
            rcases List.mem_cons.mp member with rfl | further
            · rw [shape] at broken
              cases broken
            · exact ⟨other, further, broken⟩
          obtain ⟨next, exn, raised⟩ := @ih middle (called || proposes call) later
          exact ⟨next, exn, by simp only [handleCalls, handled, raised]⟩

structure Balanced (left : Nat) (turn : Turn) : Prop where
  accounted : turn.accounts.Perm turn.calls
  running : ∃ events : List Event, turn.queue = events.map some
  rounds : turn.answered.length + left = maxQueryRounds

structure Settled (turn : Turn) : Prop where
  accounted : turn.accounts.Perm turn.dueCalls
  running : ∃ events : List Event, turn.queue = events.map some

variable {left : Nat}

theorem Balanced.settled (balanced : Balanced left turn) : Settled turn := by
  refine ⟨?_, balanced.running⟩
  rw [Turn.dueCalls_below (Nat.le.intro balanced.rounds)]
  exact balanced.accounted

theorem Balanced.fail (balanced : Balanced left turn) (text : String) : Settled (turn.fail text) := by
  obtain ⟨events, running⟩ := balanced.running
  exact ⟨balanced.settled.accounted, events ++ [.error text], by simp [Turn.fail, Turn.put, running]⟩

theorem Turn.calls_answer {response : ChatResponse} :
    (turn.answer response).calls = turn.calls ++ response.toolCalls := by
  simp [Turn.calls, Turn.answer]

theorem Balanced.handles {response : ChatResponse} {next : Turn} (balanced : Balanced (left + 1) turn)
    (handles : Turn.Handles ((turn.answer response).remember response.rawMessage) next response.toolCalls) :
    Balanced left next := by
  obtain ⟨events, running⟩ := balanced.running
  obtain ⟨more, grown⟩ := handles.queue
  refine ⟨?_, ⟨events ++ more, ?_⟩, ?_⟩
  · have counted : next.calls = turn.calls ++ response.toolCalls := by
      rw [← Turn.calls_answer, Turn.calls, handles.answered]
      rfl
    rw [counted]
    exact handles.accounted.trans (balanced.accounted.append_right _)
  · rw [grown, List.map_append, ← running]
    rfl
  · have longer : next.answered.length = turn.answered.length + 1 := by
      rw [handles.answered]
      exact List.length_append
    have rounds := balanced.rounds
    omega

theorem Balanced.answer {response : ChatResponse} (balanced : Balanced left turn)
    (final : response.toolCalls = [] ∨ left = 0) : Settled (turn.answer response) := by
  refine ⟨?_, balanced.running⟩
  have due : (turn.answer response).dueCalls = turn.calls := by
    rcases final with none | last
    · rw [Turn.dueCalls, Turn.answer, List.take_append, List.flatMap_append, Turn.calls,
        List.take_of_length_le (Nat.le.intro balanced.rounds)]
      have nothing : ∀ count, ([response].take count).flatMap ChatResponse.toolCalls = [] := by
        intro count
        cases count <;> simp [none]
      rw [nothing, List.append_nil]
    · have full : turn.answered.length = maxQueryRounds := by
        have rounds := balanced.rounds
        omega
      rw [Turn.dueCalls, Turn.answer, ← full, List.take_left, Turn.calls]
  rw [due]
  exact balanced.accounted

theorem runRounds_readable {round : Nat} (readable : Readable env.texts answers left round)
    (balanced : Balanced left turn) :
    ∃ next, runRounds env answers left round turn = (next, none) ∧ Settled next := by
  induction left generalizing round turn with
  | zero =>
      rw [runRounds.eq_def]
      cases answer : completeChat env.texts (answers round) with
      | error error =>
          simp only [answer]
          exact ⟨_, rfl, balanced.fail _⟩
      | ok response =>
          refine ⟨turn.answer response, ?_, balanced.answer (.inr rfl)⟩
          simp only [answer]
          cases response.toolCalls <;> rfl
  | succ left ih =>
      rw [Readable.eq_def] at readable
      rw [runRounds.eq_def]
      cases answer : completeChat env.texts (answers round) with
      | error error =>
          simp only [answer]
          exact ⟨_, rfl, balanced.fail _⟩
      | ok response =>
          simp only [answer] at readable ⊢
          cases listed : response.toolCalls with
          | nil => exact ⟨_, rfl, balanced.answer (.inl listed)⟩
          | cons call rest =>
              simp only [listed] at readable
              obtain ⟨good, onward⟩ := readable
              obtain ⟨next, handled, handles⟩ := @handleCalls_wellShaped env
                ((turn.answer response).remember response.rawMessage) _ false good
              rw [← listed] at handles
              have after := balanced.handles handles
              simp only [handled, Bool.false_or]
              cases proposed : (call :: rest).any proposes with
              | true => exact ⟨next, rfl, after.settled⟩
              | false => exact ih (onward proposed) after

theorem runRounds_unreadable {round : Nat} (unreadable : ¬ Readable env.texts answers left round) :
    ∃ next exn, runRounds env answers left round turn = (next, some exn) := by
  induction left generalizing round turn with
  | zero =>
      refine absurd ?_ unreadable
      rw [Readable.eq_def]
      cases answer : completeChat env.texts (answers round) with
      | error error => simp only [answer]
      | ok response =>
          simp only [answer]
          cases response.toolCalls <;> trivial
  | succ left ih =>
      rw [Readable.eq_def] at unreadable
      rw [runRounds.eq_def]
      cases answer : completeChat env.texts (answers round) with
      | error error => simp [answer] at unreadable
      | ok response =>
          simp only [answer] at unreadable ⊢
          cases listed : response.toolCalls with
          | nil => simp [listed] at unreadable
          | cons call rest =>
              simp only [listed] at unreadable
              by_cases good : ∀ other ∈ call :: rest, wellShaped other = true
              · obtain ⟨next, handled, _⟩ := @handleCalls_wellShaped env
                  ((turn.answer response).remember response.rawMessage) _ false good
                obtain ⟨proposed, later⟩ : (call :: rest).any proposes = false ∧
                    ¬ Readable env.texts answers left (round + 1) := by
                  by_contra other
                  exact unreadable ⟨good, fun proposed => by_contra fun later => other ⟨proposed, later⟩⟩
                simp only [handled, Bool.false_or, proposed]
                exact ih later
              · have bad : ∃ other ∈ call :: rest, wellShaped other = false := by
                  by_contra none
                  refine good fun other member => ?_
                  by_contra broken
                  exact none ⟨other, member, by simpa using broken⟩
                obtain ⟨next, exn, raised⟩ := @handleCalls_malformed env
                  ((turn.answer response).remember response.rawMessage) _ false bad
                exact ⟨next, exn, by simp only [raised]⟩

end Rounds

/-! The reply as a whole. -/

def PendingCard.stored (texts : JsonTexts) (card : PendingCard) : String × String := (card.tool, texts.dumps card.args)

/-- One message committed, a result announced, the queue closed once, and each of the
calls on record exactly once. -/
structure Delivered (env : Environment) (start : Start) (before : Tables) (outcome : Outcome)
    (calls : List ToolCall) where
  message : StoredMessage
  cards : List Plans.PlanCard
  content : String
  error : Option String
  pending : List PendingCard
  events : List Event
  committed : outcome.tables.messages.rows = before.messages.rows ++ [message]
  assistant : message.role = .assistant ∧ message.conversationId = start.convId
  proposed : outcome.tables.cards.rows = before.cards.rows ++ cards
  result : outcome.future = .result content error pending
  sentinel : outcome.queue = events.map some ++ [none]
  stored : cards.map (fun card => (card.tool, card.args)) = pending.map (PendingCard.stored env.texts)
  accounted : ((message.thinking.getD []).map Entry.call ++ pending.map PendingCard.call).Perm calls

theorem storeCards {env : Environment} {start : Start} {messageId : Int} (cards : Table Plans.PlanCard)
    (pending : List PendingCard) :
    ∃ rows : List Plans.PlanCard,
      (pending.foldl (fun cards card => cards.insert (cardRow env start messageId card)) cards).rows =
        cards.rows ++ rows ∧
      rows.map (fun card => (card.tool, card.args)) = pending.map (PendingCard.stored env.texts) := by
  induction pending generalizing cards with
  | nil => exact ⟨[], by simp, rfl⟩
  | cons card rest ih =>
      obtain ⟨rows, stored, same⟩ := ih (cards.insert (cardRow env start messageId card))
      refine ⟨cardRow env start messageId card cards.fresh :: rows, ?_, ?_⟩
      · simpa [Table.insert] using stored
      · rw [List.map_cons, same, List.map_cons]
        rfl

theorem thinking_getD {env : Environment} {start : Start} {turn : Turn} {id : Int} :
    (assistantRow env start turn id).thinking.getD [] = turn.thinkingTrace := by
  cases trace : turn.thinkingTrace <;> simp [assistantRow, trace]

section Replies

variable {env : Environment} {answers : Nat → Answer} {start : Start} {before : Tables}

theorem balanced_start : Balanced maxQueryRounds { llmMessages := start.historyForLlm } :=
  ⟨List.Perm.refl _, ⟨[], rfl⟩, Nat.zero_add _⟩

/-- An unreadable answer discards the turn. -/
theorem generateReply_unreadable (unreadable : ¬ Readable env.texts answers maxQueryRounds 0) :
    (generateReply env answers start before).tables = before ∧
      ∃ exn, (generateReply env answers start before).future = .exception exn := by
  obtain ⟨next, exn, ran⟩ := @runRounds_unreadable env answers { llmMessages := start.historyForLlm } _ _ unreadable
  rw [generateReply, ran]
  exact ⟨rfl, exn, rfl⟩

/-- Readable answers are delivered, with the calls of every response before the round
cap accounted for. -/
theorem readable_delivered (readable : Readable env.texts answers maxQueryRounds 0) :
    Nonempty (Delivered env start before (generateReply env answers start before)
      (generateReply env answers start before).turn.dueCalls) := by
  obtain ⟨next, ran, settled⟩ := @runRounds_readable env answers _ _ _ readable (@balanced_start start)
  obtain ⟨rows, proposed, stored⟩ := @storeCards env start before.messages.fresh before.cards next.pendingPlanCards
  have reply : generateReply env answers start before = {
      tables := persist env start before next
      future := .result next.finalContent next.errorText next.pendingPlanCards
      queue := next.queue ++ [none]
      turn := next } := by
    simp only [generateReply, ran]
  rw [reply]
  obtain ⟨events, running⟩ := settled.running
  exact ⟨{
    message := assistantRow env start next before.messages.fresh
    cards := rows
    content := next.finalContent
    error := next.errorText
    pending := next.pendingPlanCards
    events := events
    committed := rfl
    assistant := ⟨rfl, rfl⟩
    proposed := proposed
    result := rfl
    sentinel := by rw [running]
    stored := stored
    accounted := by rw [thinking_getD]; exact settled.accounted }⟩

end Replies

def listsHosts : Answer := .ok <| .object [("message", .object [
  ("content", .str ""),
  ("tool_calls", .array [.object [("function", .object [("name", .str "list_hosts")])]])])]

def quietTexts : JsonTexts where
  loads := fun _ => none
  dumps := fun _ => ""
  str := fun
    | .str text => text
    | _ => ""
  repr := fun _ => ""

def quietEnvironment : Environment where
  texts := quietTexts
  baseUrl := "http://localhost:11434"
  model := "llama"
  allowList := []
  runQuery := fun _ => .ok ⟨true, "no hosts", none, none⟩

def emptyTables : Tables := ⟨.empty, .empty, .empty, []⟩

theorem listsHosts_readable (left round : Nat) : Readable quietTexts (fun _ => listsHosts) left round := by
  have read : completeChat quietTexts listsHosts =
      .ok ⟨"", [⟨.str "list_hosts", .object []⟩], _⟩ := rfl
  induction left generalizing round with
  | zero =>
      rw [Readable.eq_def]
      simp only [read]
  | succ left ih =>
      rw [Readable.eq_def]
      simp only [read]
      refine ⟨?_, fun _ => ih (round + 1)⟩
      simp [wellShaped, Plans.commandClassifyTools]

theorem readable_delivered_hosts :
    Nonempty (Delivered quietEnvironment ⟨1, [], [], 1, 1⟩ emptyTables
      (generateReply quietEnvironment (fun _ => listsHosts) ⟨1, [], [], 1, 1⟩ emptyTables)
      (generateReply quietEnvironment (fun _ => listsHosts) ⟨1, [], [], 1, 1⟩ emptyTables).turn.dueCalls) :=
  readable_delivered (listsHosts_readable maxQueryRounds 0)

def badArguments : Answer := .ok (.object [("message", .object [("tool_calls", .array [
  .object [("function", .object [("name", .str "ssh_exec"), ("arguments", .int 1)])]])])])

theorem badArguments_discarded :
    (generateReply quietEnvironment (fun _ => badArguments) ⟨1, [], [], 1, 1⟩ emptyTables).tables = emptyTables := by
  refine (generateReply_unreadable fun readable => ?_).1
  rw [Readable.eq_def] at readable
  exact absurd (readable.1 _ (List.mem_cons_self ..)) (by decide)

/-- The call of the sixth response is dropped. -/
theorem last_round_undelivered :
    ¬ ∀ env answers start before, Nonempty (Delivered env start before (generateReply env answers start before)
      (generateReply env answers start before).turn.calls) := by
  intro every
  obtain ⟨⟨message, _, content, error, pending, _, committed, _, _, result, _, _, accounted⟩⟩ :=
    every quietEnvironment (fun _ => listsHosts) ⟨1, [], [], 1, 1⟩ emptyTables
  have counted := accounted.length_eq
  have traced : (message.thinking.getD []).length = 5 := by
    cases committed
    rfl
  have unproposed : pending = [] := by
    cases result
    rfl
  rw [unproposed, List.map_nil, List.append_nil, List.length_map, traced] at counted
  cases counted

end Dosm.Chat.Generation
