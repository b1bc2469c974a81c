import Mathlib.Data.List.AList
import Dosm.Base.Transition
import Dosm.Chat.Prompt

namespace Dosm.Chat.Replies

open Models Python Web Prompt Transition

/-! Who writes the messages of a conversation, and when.

Every handler below is one segment, the code between two awaits. A posted
message is written in its request's segment and committed when the request is
torn down; until then other requests do not see it, and a write of theirs waits
for that commit, with the number it had computed before. A generation inserts
its reply long after the stream that started it took a number for it.
-/

/-- The entry of `_reply_futures` for a conversation. -/
structure Slot where
  replyTo : Int
  generation : Nat
  deriving DecidableEq

/-- A background generation that has not ended. -/
structure Generation where
  id : Nat
  conversationId : Int
  replyTo : Int
  nextOrd : Int
  deriving DecidableEq

/-- `started` and `failed` record, by their messages, the generations streams
have started and those that ended in an exception. -/
structure State where
  conversations : Table Conversation
  messages : Table ChatMessage := .empty
  pending : Option ChatMessage := none
  slots : AList fun _ : Int => Slot := ∅
  running : List Generation := []
  started : List Int := []
  failed : List Int := []

def State.db (state : State) : ChatDb :=
  { conversations := state.conversations, messages := state.messages.rows }

/-- One more than the last number of the conversation. -/
def nextOrd (db : ChatDb) (cid : Int) : Int :=
  match (latestMessages db cid).getLast? with
  | some last => last.ord + 1
  | none => 0

def insert (messages : Table ChatMessage) (message : ChatMessage) : Table ChatMessage :=
  messages.insert fun id => { message with id }

/-- The commit of the message that is written but not committed, if any. -/
def settle (state : State) : State :=
  match state.pending with
  | none => state
  | some message => { state with messages := insert state.messages message, pending := none }

/-- A write that commits in its own segment, after the one it waits for. -/
def write (state : State) (message : ChatMessage) : State :=
  let settled := settle state
  { settled with messages := insert settled.messages message }

def userMessage (cid : Int) (content : String) (ord : Int) : ChatMessage :=
  { id := 0, conversationId := cid, role := .user, content, ord }

def assistantMessage (cid : Int) (content : String) (ord : Int) : ChatMessage :=
  { id := 0, conversationId := cid, role := .assistant, content, ord }

def chatPostMessage (state : State) (caller : Caller) (cid : Int) (content : String) : State :=
  match getOwnedConversation state.db cid caller with
  | none => state
  | some _ =>
      let content := strip content
      if content = "" then state
      else { settle state with pending := some (userMessage cid content (nextOrd state.db cid)) }

/-- The slot is held for the message by a generation that still runs. -/
def reconnects (state : State) (cid replyTo : Int) : Bool :=
  match state.slots.lookup cid with
  | none => false
  | some slot =>
      slot.replyTo = replyTo &&
        state.running.any fun generation => generation.id = slot.generation

/-- A stream reconnects, is refused, or starts a generation and takes the slot
of the conversation for it. -/
def chatStream (state : State) (caller : Caller) (cid replyTo : Int) : State :=
  if reconnects state cid replyTo then state
  else
    match replyTarget state.db caller cid replyTo with
    | .error _ => state
    | .ok _ =>
        let generation : Generation := {
          id := state.started.length
          conversationId := cid
          replyTo
          nextOrd := nextOrd state.db cid }
        { state with
          slots := state.slots.insert cid { replyTo, generation := generation.id }
          running := state.running ++ [generation]
          started := state.started ++ [replyTo] }

/-- On its way out a generation clears the slot, whoever holds it. -/
def leave (state : State) (generation : Generation) : State :=
  { state with
    slots := state.slots.erase generation.conversationId
    running := state.running.filter fun other => other.id ≠ generation.id }

def finishReply (state : State) (generation : Generation) (content : String) : State :=
  leave (write state
    (assistantMessage generation.conversationId content generation.nextOrd)) generation

def failReply (state : State) (generation : Generation) : State :=
  { leave state generation with failed := state.failed ++ [generation.replyTo] }

def planResult (state : State) (cid : Int) (content : String) : State :=
  write state (assistantMessage cid content (nextOrd state.db cid))

inductive Label where
  | post (caller : Caller) (cid : Int) (content : String)
  | commit
  | rollback
  | stream (caller : Caller) (cid replyTo : Int)
  | finish (id : Nat) (content : String)
  | fail (id : Nat)
  | planResult (cid : Int) (content : String)

def step (state : State) : Label → Option State
  | .post caller cid content => some (chatPostMessage state caller cid content)
  | .commit => some (settle state)
  | .rollback => some { state with pending := none }
  | .stream caller cid replyTo => some (chatStream state caller cid replyTo)
  | .finish id content =>
      (state.running.find? fun generation => generation.id = id).map fun generation =>
        finishReply state generation content
  | .fail id =>
      (state.running.find? fun generation => generation.id = id).map (failReply state)
  | .planResult cid content => some (planResult state cid content)

/-- Within a conversation the numbers grow in the order of insertion. -/
def Ordered (messages : List ChatMessage) : Prop :=
  messages.Pairwise fun first second =>
    first.conversationId = second.conversationId → first.ord < second.ord

/-- From any conversations whose messages are in order, with nothing under way. -/
def replySystem : Machine State Label where
  initial state := Ordered state.messages.rows ∧ state.pending = none ∧ state.slots = ∅ ∧
    state.running = [] ∧ state.started = [] ∧ state.failed = []
  step := step

/-! The numbers of the messages of a conversation.

A number is safe when it is above every number of the conversation at the moment
its message is inserted, and a writer takes it from what it can see earlier.
-/

/-- Every message of the conversation has a smaller number. -/
def Above (messages : List ChatMessage) (cid ord : Int) : Prop :=
  ∀ message ∈ messages, message.conversationId = cid → message.ord < ord

instance (messages : List ChatMessage) (cid ord : Int) : Decidable (Above messages cid ord) :=
  inferInstanceAs (Decidable (∀ message ∈ messages, message.conversationId = cid → message.ord < ord))

/-- No message of the conversation waits for its commit when a number is taken
and written at once; none was added since the stream took the number that a
generation writes. -/
def Undisturbed (state : State) : Label → Prop
  | .post _ cid _ | .planResult cid _ => ∀ message ∈ state.pending, message.conversationId ≠ cid
  | .finish id _ => ∀ generation ∈ state.running, generation.id = id →
      Above (state.messages.rows ++ state.pending.toList) generation.conversationId generation.nextOrd
  | _ => True

instance (state : State) (label : Label) : Decidable (Undisturbed state label) :=
  match label with
  | .post _ cid _ | .planResult cid _ =>
      inferInstanceAs (Decidable (∀ message ∈ state.pending, message.conversationId ≠ cid))
  | .finish id _ =>
      inferInstanceAs (Decidable (∀ generation ∈ state.running, generation.id = id →
        Above (state.messages.rows ++ state.pending.toList) generation.conversationId
          generation.nextOrd))
  | .commit | .rollback | .stream _ _ _ | .fail _ => isTrue trivial

section Numbers

variable {state : State} {db : ChatDb} {messages : List ChatMessage} {table : Table ChatMessage}
  {message : ChatMessage} {caller : Caller} {cid ord replyTo : Int} {content : String}
  {generation : Generation}

theorem mem_latestMessages :
    message ∈ latestMessages db cid ↔ message ∈ db.messages ∧ message.conversationId = cid := by
  simp [latestMessages, List.mem_insertionSort]

theorem above_nextOrd : Above db.messages cid (nextOrd db cid) := by
  intro message member same
  have listed : message ∈ latestMessages db cid := mem_latestMessages.mpr ⟨member, same⟩
  have sorted : (latestMessages db cid).Pairwise fun first second => first.ord ≤ second.ord :=
    have : Std.Total fun first second : ChatMessage => first.ord ≤ second.ord :=
      ⟨fun first second => Int.le_total first.ord second.ord⟩
    have : IsTrans ChatMessage fun first second => first.ord ≤ second.ord :=
      ⟨fun _ _ _ => Int.le_trans⟩
    List.pairwise_insertionSort _ _
  have : Std.Refl fun first second : ChatMessage => first.ord ≤ second.ord := ⟨fun _ => Int.le_refl _⟩
  have last := sorted.rel_getLast listed
  unfold nextOrd
  rw [List.getLast?_eq_some_getLast (List.ne_nil_of_mem listed)]
  exact Int.lt_add_one_of_le last

theorem ordered_snoc :
    Ordered (messages ++ [message]) ↔
      Ordered messages ∧ Above messages message.conversationId message.ord := by
  simp [Ordered, Above, List.pairwise_append]

theorem ordered_insert (ordered : Ordered table.rows)
    (above : Above table.rows message.conversationId message.ord) :
    Ordered (insert table message).rows :=
  ordered_snoc.mpr ⟨ordered, above⟩

theorem above_settle (above : Above (state.messages.rows ++ state.pending.toList) cid ord) :
    Above (settle state).messages.rows cid ord := by
  intro message member same
  unfold settle at member
  cases waiting : state.pending with
  | none =>
      simp only [waiting] at member
      exact above message (List.mem_append_left _ member) same
  | some pending =>
      simp only [waiting] at member
      rcases Table.mem_insert.mp member with old | rfl
      · exact above message (List.mem_append_left _ old) same
      · exact above pending (by simp [waiting]) same

theorem settle_ordered (ordered : Ordered (state.messages.rows ++ state.pending.toList)) :
    Ordered (settle state).messages.rows := by
  unfold settle
  cases waiting : state.pending with
  | none => simpa [waiting] using ordered
  | some pending =>
      simp only [waiting, Option.toList_some] at ordered
      obtain ⟨earlier, above⟩ := ordered_snoc.mp ordered
      exact ordered_insert earlier above

theorem settle_pending : (settle state).pending = none := by
  unfold settle
  split
  · assumption
  · rfl

theorem write_ordered (ordered : Ordered (state.messages.rows ++ state.pending.toList))
    (above : Above (state.messages.rows ++ state.pending.toList) message.conversationId message.ord) :
    Ordered ((write state message).messages.rows ++ (write state message).pending.toList) := by
  have none : (write state message).pending = none := settle_pending
  rw [none, Option.toList_none, List.append_nil]
  exact ordered_insert (settle_ordered ordered) (above_settle above)

theorem above_waiting (apart : ∀ message ∈ state.pending, message.conversationId ≠ cid) :
    Above (state.messages.rows ++ state.pending.toList) cid (nextOrd state.db cid) := by
  intro message member same
  rcases List.mem_append.mp member with stored | waiting
  · have above : Above state.db.messages cid (nextOrd state.db cid) := above_nextOrd
    exact above message stored same
  · exact absurd same (apart message (Option.mem_toList.mp waiting))

theorem chatPostMessage_ordered (ordered : Ordered (state.messages.rows ++ state.pending.toList))
    (apart : ∀ message ∈ state.pending, message.conversationId ≠ cid) :
    Ordered ((chatPostMessage state caller cid content).messages.rows ++
      (chatPostMessage state caller cid content).pending.toList) := by
  unfold chatPostMessage
  split
  · exact ordered
  · simp only
    split
    · exact ordered
    · exact ordered_snoc.mpr ⟨settle_ordered ordered, above_settle (above_waiting apart)⟩

theorem chatStream_messages :
    (chatStream state caller cid replyTo).messages = state.messages ∧
      (chatStream state caller cid replyTo).pending = state.pending := by
  unfold chatStream
  split
  · exact ⟨rfl, rfl⟩
  · split
    · exact ⟨rfl, rfl⟩
    · exact ⟨rfl, rfl⟩

end Numbers

theorem step_ordered {state after : State} {label : Label} (undisturbed : Undisturbed state label)
    (stepped : step state label = some after)
    (ordered : Ordered (state.messages.rows ++ state.pending.toList)) :
    Ordered (after.messages.rows ++ after.pending.toList) := by
  cases label with
  | post caller cid content =>
      cases stepped
      exact chatPostMessage_ordered ordered undisturbed
  | commit =>
      cases stepped
      rw [settle_pending, Option.toList_none, List.append_nil]
      exact settle_ordered ordered
  | rollback =>
      cases stepped
      have committed : Ordered state.messages.rows := (List.pairwise_append.mp ordered).1
      simpa using committed
  | stream caller cid replyTo =>
      cases stepped
      rw [chatStream_messages.1, chatStream_messages.2]
      exact ordered
  | finish id content =>
      obtain ⟨generation, found, rfl⟩ := Option.map_eq_some_iff.mp stepped
      have same : generation.id = id := by simpa using List.find?_some found
      exact write_ordered ordered (undisturbed generation (List.mem_of_find?_eq_some found) same)
  | fail id =>
      obtain ⟨generation, found, rfl⟩ := Option.map_eq_some_iff.mp stepped
      exact ordered
  | planResult cid content =>
      cases stepped
      exact write_ordered ordered (above_waiting undisturbed)

/-- While nothing is added to a conversation between the moment a writer takes a
number and the moment it inserts, numbers are unique and grow with insertion. -/
theorem message_order {state : State} (reached : replySystem.ReachableUnder Undisturbed state) :
    Ordered state.messages.rows := by
  have starts : ∀ start, replySystem.initial start →
      Ordered (start.messages.rows ++ start.pending.toList) := by
    rintro start ⟨ordered, none, _⟩
    simpa [none] using ordered
  have preserved : ∀ before label after, Undisturbed before label →
      replySystem.step before label = some after →
      Ordered (before.messages.rows ++ before.pending.toList) →
      Ordered (after.messages.rows ++ after.pending.toList) :=
    fun _ _ _ undisturbed stepped => step_ordered undisturbed stepped
  exact (List.pairwise_append.mp (reached.invariant starts preserved)).1

def ann : Caller := { tid := some 1, userId := 7, role := .operator }

def newChat : State where
  conversations := ⟨[{ id := 1, tenantId := 1, userId := some 7 }], List.nodup_singleton _⟩

def oneTurn : List Label :=
  [.post ann 1 "disk?", .commit, .stream ann 1 1, .finish 0 "checking", .planResult 1 "[tool: ssh_exec] ok"]

theorem message_order_one_turn :
    ∃ state, replySystem.run newChat oneTurn = some state ∧
      state.messages.rows.map ChatMessage.ord = [0, 1, 2] ∧ Ordered state.messages.rows := by
  refine ⟨_, rfl, by decide, message_order ⟨newChat, oneTurn, ?_, rfl, ?_⟩⟩
  · exact ⟨.nil, rfl, rfl, rfl, rfl, rfl⟩
  · refine Machine.meets_cons rfl (by decide) (Machine.meets_cons rfl trivial ?_)
    refine Machine.meets_cons rfl trivial (Machine.meets_cons rfl (by decide) ?_)
    exact Machine.meets_cons rfl (by decide) trivial

def impatient : List Label :=
  [.post ann 1 "disk?", .commit, .stream ann 1 1, .post ann 1 "and memory?", .commit,
    .finish 0 "checking"]

theorem number_taken_twice :
    ∃ state, replySystem.Reachable state ∧ ¬ Ordered state.messages.rows ∧
      state.messages.rows.map (fun message => (message.conversationId, message.ord)) =
        [(1, 0), (1, 1), (1, 1)] := by
  refine ⟨_, ⟨newChat, impatient, ⟨.nil, rfl, rfl, rfl, rfl, rfl⟩, rfl⟩, ?_, by decide⟩
  unfold Ordered
  decide

end Dosm.Chat.Replies
