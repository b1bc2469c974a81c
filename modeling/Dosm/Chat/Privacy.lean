import Dosm.Chat.MessageOrder

namespace Dosm.Chat.Replies

open Models Python Web Prompt Transition

/-! Who reads and who adds to a conversation.

A post and a new generation look for the caller's own conversation. A stream that finds
the answer to its message under way joins it without that look.
-/

/-- The generation whose answer a stream sends to its caller. -/
def streamed (state : State) (caller : Caller) (cid replyTo : Int) : Option Generation :=
  if reconnects state cid replyTo then
    (state.slots.lookup cid).bind fun slot => state.running.find? fun generation => generation.id = slot.generation
  else
    match replyTarget state.db caller cid replyTo with
    | .error _ => none
    | .ok _ => some { id := state.started.length, conversationId := cid, replyTo, nextOrd := nextOrd state.db cid }

/-- A request for the conversation, by someone whose it is where that is looked at. -/
def Works (cid : Int) (state : State) : Label → Prop
  | .post caller other _ | .stream caller other _ => other = cid ∧ (getOwnedConversation state.db cid caller).isSome
  | .planResult other _ => other = cid
  | _ => False

structure Rests (cid : Int) (state : State) : Prop where
  pending : ∀ message ∈ state.pending, message.conversationId ≠ cid
  running : ∀ generation ∈ state.running, generation.conversationId ≠ cid

def messagesOf (cid : Int) (state : State) : List ChatMessage :=
  state.messages.rows.filter (·.conversationId = cid)

/-- An entry of the map is no younger than the last generation, and a generation it names is its conversation's. -/
structure Entries (state : State) : Prop where
  recent : ∀ generation ∈ state.running, generation.id < state.started.length
  begun : ∀ cid slot, state.slots.lookup cid = some slot → slot.generation < state.started.length
  named : ∀ cid slot, state.slots.lookup cid = some slot → ∀ generation ∈ state.running,
    generation.id = slot.generation → generation.conversationId = cid

section Steps

variable {state after : State} {label : Label} {caller : Caller} {cid replyTo : Int} {message : ChatMessage}
  {generation : Generation}

theorem settle_entries (entries : Entries state) : Entries (settle state) := by
  unfold settle
  split
  · exact entries
  · exact ⟨entries.recent, entries.begun, entries.named⟩

theorem leave_entries (entries : Entries state) : Entries (leave state generation) where
  recent other member := entries.recent other (List.mem_filter.mp member).1
  begun cid slot found := by
    by_cases same : cid = generation.conversationId
    · subst same
      simp [leave] at found
    · exact entries.begun cid slot ((AList.lookup_erase_ne same).symm.trans found)
  named cid slot found other member := by
    by_cases same : cid = generation.conversationId
    · subst same
      simp [leave] at found
    · exact entries.named cid slot ((AList.lookup_erase_ne same).symm.trans found) other (List.mem_filter.mp member).1

theorem chatStream_entries (entries : Entries state) : Entries (chatStream state caller cid replyTo) := by
  unfold chatStream
  split
  · exact entries
  split
  · exact entries
  have older : ∀ {id : Nat}, id < state.started.length → id < (state.started ++ [replyTo]).length := by
    intro id below
    rw [List.length_append, List.length_singleton]
    omega
  constructor
  case recent =>
    intro generation member
    rcases List.mem_append.mp member with old | new
    · exact older (entries.recent generation old)
    · cases List.mem_singleton.mp new
      simp
  case begun =>
    intro other slot found
    by_cases same : other = cid
    · rw [same, AList.lookup_insert] at found
      cases found
      simp
    · exact older (entries.begun other slot ((AList.lookup_insert_ne same).symm.trans found))
  case named =>
    intro other slot found generation member sameId
    by_cases same : other = cid
    · rw [same, AList.lookup_insert] at found
      cases found
      rcases List.mem_append.mp member with old | new
      · exact absurd sameId (Nat.ne_of_lt (entries.recent generation old))
      · rw [same]
        cases List.mem_singleton.mp new
        rfl
    · rw [AList.lookup_insert_ne same] at found
      rcases List.mem_append.mp member with old | new
      · exact entries.named other slot found generation old sameId
      · cases List.mem_singleton.mp new
        exact absurd sameId.symm (Nat.ne_of_lt (entries.begun other slot found))

theorem step_entries (stepped : step state label = some after) (entries : Entries state) : Entries after := by
  have settled := settle_entries entries
  have written : ∀ message, Entries (write state message) := fun _ => ⟨settled.recent, settled.begun, settled.named⟩
  cases label with
  | post caller cid content =>
      cases stepped
      unfold chatPostMessage
      split
      · exact entries
      · dsimp only
        split
        · exact entries
        · exact ⟨settled.recent, settled.begun, settled.named⟩
  | commit =>
      cases stepped
      exact settled
  | rollback =>
      cases stepped
      exact ⟨entries.recent, entries.begun, entries.named⟩
  | stream caller cid replyTo =>
      cases stepped
      exact chatStream_entries entries
  | finish id content =>
      obtain ⟨generation, -, rfl⟩ := Option.map_eq_some_iff.mp stepped
      exact leave_entries (written _)
  | fail id =>
      obtain ⟨generation, -, rfl⟩ := Option.map_eq_some_iff.mp stepped
      have left := @leave_entries state generation entries
      exact ⟨left.recent, left.begun, left.named⟩
  | planResult cid content =>
      cases stepped
      exact written _

theorem replyTarget_owned {target : Target} (accepted : replyTarget state.db caller cid replyTo = .ok target) :
    (getOwnedConversation state.db cid caller).isSome := by
  unfold replyTarget at accepted
  split at accepted
  · cases accepted
  next found =>
    rw [found]
    rfl

theorem insert_other (other : message.conversationId ≠ cid) (messages : Table ChatMessage) :
    (insert messages message).rows.filter (·.conversationId = cid) =
      messages.rows.filter (·.conversationId = cid) := by
  simp [insert, Table.insert, List.filter_append, other]

theorem settle_rests (rests : Rests cid state) : Rests cid (settle state) ∧ messagesOf cid (settle state) = messagesOf cid state := by
  unfold settle
  split
  · exact ⟨rests, rfl⟩
  next message waiting => exact ⟨⟨nofun, rests.running⟩, insert_other (rests.pending message waiting) state.messages⟩

theorem write_rests (rests : Rests cid state) (other : message.conversationId ≠ cid) :
    Rests cid (write state message) ∧ messagesOf cid (write state message) = messagesOf cid state := by
  obtain ⟨settled, same⟩ := settle_rests rests
  exact ⟨⟨settled.pending, settled.running⟩, (insert_other other _).trans same⟩

/-- A step that is not for the conversation leaves it alone. -/
theorem step_rests (stepped : step state label = some after) (elsewhere : ¬ Works cid state label)
    (rests : Rests cid state) : Rests cid after ∧ messagesOf cid after = messagesOf cid state := by
  cases label with
  | post caller other content =>
      cases stepped
      unfold chatPostMessage
      split
      · exact ⟨rests, rfl⟩
      next found =>
        dsimp only
        split
        · exact ⟨rests, rfl⟩
        · obtain ⟨settled, same⟩ := settle_rests rests
          refine ⟨⟨fun message waiting => ?_, settled.running⟩, same⟩
          cases Option.some.inj waiting
          exact fun here : other = cid => elsewhere ⟨here, by rw [← here, found]; rfl⟩
  | commit =>
      cases stepped
      exact settle_rests rests
  | rollback =>
      cases stepped
      exact ⟨⟨nofun, rests.running⟩, rfl⟩
  | stream caller other replyTo =>
      cases stepped
      unfold chatStream
      split
      · exact ⟨rests, rfl⟩
      split
      · exact ⟨rests, rfl⟩
      next target accepted =>
        refine ⟨⟨rests.pending, fun generation member => ?_⟩, rfl⟩
        rcases List.mem_append.mp member with old | new
        · exact rests.running generation old
        · cases List.mem_singleton.mp new
          intro here
          cases here
          exact elsewhere ⟨rfl, replyTarget_owned accepted⟩
  | finish id content =>
      obtain ⟨generation, found, rfl⟩ := Option.map_eq_some_iff.mp stepped
      have other := rests.running generation (List.mem_of_find?_eq_some found)
      obtain ⟨written, same⟩ := @write_rests state cid
        (assistantMessage generation.conversationId content generation.nextOrd) rests other
      exact ⟨⟨written.pending, fun other member => written.running other (List.mem_filter.mp member).1⟩, same⟩
  | fail id =>
      obtain ⟨generation, -, rfl⟩ := Option.map_eq_some_iff.mp stepped
      exact ⟨⟨rests.pending, fun other member => rests.running other (List.mem_filter.mp member).1⟩, rfl⟩
  | planResult other content =>
      cases stepped
      exact write_rests rests elsewhere

end Steps

/-- Whatever happens elsewhere, in any order, a conversation at rest keeps its messages until someone whose it is
works in it. -/
theorem conversation_untouched {cid : Int} {state after : State} {labels : List Label} (rests : Rests cid state)
    (ran : replySystem.run state labels = some after)
    (elsewhere : replySystem.Meets (fun state label => ¬ Works cid state label) state labels) :
    messagesOf cid after = messagesOf cid state := by
  have kept : ∀ before label next, ¬ Works cid before label → replySystem.step before label = some next →
      (Rests cid before ∧ messagesOf cid before = messagesOf cid state) →
      Rests cid next ∧ messagesOf cid next = messagesOf cid state := by
    intro before label next apart stepped holds
    obtain ⟨still, same⟩ := step_rests stepped apart holds.1
    exact ⟨still, same.trans holds.2⟩
  exact (Machine.run_preserves kept ran elsewhere ⟨rests, rfl⟩).2

def bob : Caller := { ann with userId := 8 }

def twoChats : State where
  conversations := ⟨[{ id := 1, tenantId := 1, userId := some 7 }, { id := 2, tenantId := 1, userId := some 8 }], by decide⟩
  messages := ⟨[{ id := 1, conversationId := 1, role := .user, content := "disk?", ord := 0 }], by decide⟩

def bobWrites : List Label := [.post bob 2 "hi", .post bob 1 "hi", .commit]

theorem bob_elsewhere : ∃ after, replySystem.run twoChats bobWrites = some after ∧
    messagesOf 1 after = messagesOf 1 twoChats := by
  have elsewhere : replySystem.Meets (fun state label => ¬ Works 1 state label) twoChats bobWrites := by
    refine Machine.meets_cons rfl (fun works => absurd works.1 (by decide)) ?_
    refine Machine.meets_cons rfl (fun works => absurd works.2 (by decide)) ?_
    exact Machine.meets_cons rfl (fun works => works) trivial
  exact ⟨_, rfl, conversation_untouched ⟨nofun, nofun⟩ rfl elsewhere⟩

/-- A stream sends its caller the answer in a conversation of another user exactly when it joins one under way. -/
theorem streams_foreign_iff {state : State} (reached : replySystem.Reachable state) (caller : Caller) (cid replyTo : Int) :
    (∃ generation, streamed state caller cid replyTo = some generation ∧
      getOwnedConversation state.db generation.conversationId caller = none) ↔
    reconnects state cid replyTo = true ∧ getOwnedConversation state.db cid caller = none := by
  have entries : Entries state := by
    refine reached.invariant (fun start starts => ?_) fun before label after stepped holds => step_entries stepped holds
    obtain ⟨-, -, slots, running, -⟩ := starts
    exact ⟨by simp [running], by simp [slots], by simp [slots]⟩
  unfold streamed
  by_cases joins : reconnects state cid replyTo = true
  · rw [if_pos joins]
    have under := joins
    unfold reconnects at joins
    cases found : state.slots.lookup cid with
    | none => simp [found] at joins
    | some slot =>
        simp only [found, Bool.and_eq_true, List.any_eq_true] at joins
        obtain ⟨-, holder, member, sameId⟩ := joins
        obtain ⟨generation, first⟩ := Option.isSome_iff_exists.mp
          ((List.find?_isSome (p := fun generation : Generation => generation.id = slot.generation)).mpr ⟨holder, member, sameId⟩)
        have own := entries.named cid slot found generation (List.mem_of_find?_eq_some first)
          (by simpa using List.find?_some first)
        rw [Option.bind_some, first]
        constructor
        · rintro ⟨_, ⟨⟩, foreign⟩
          exact ⟨under, own ▸ foreign⟩
        · rintro ⟨-, foreign⟩
          exact ⟨generation, rfl, own.symm ▸ foreign⟩
  · rw [if_neg joins]
    constructor
    · rintro ⟨generation, sent, foreign⟩
      split at sent
      · cases sent
      next accepted =>
        cases sent
        have owned := replyTarget_owned accepted
        rw [foreign] at owned
        cases owned
    · exact fun both => absurd both.1 joins

def annAsks : List Label := [.post ann 1 "disk?", .commit, .stream ann 1 1]

theorem bob_joins_anns_answer : ∃ state, replySystem.run newChat annAsks = some state ∧
    ∃ generation, streamed state bob 1 1 = some generation ∧
      getOwnedConversation state.db generation.conversationId bob = none := by
  refine ⟨_, rfl, (streams_foreign_iff ⟨newChat, annAsks, ?_, rfl⟩ bob 1 1).mpr ⟨by decide, by decide⟩⟩
  exact ⟨.nil, rfl, rfl, rfl, rfl, rfl⟩

end Dosm.Chat.Replies
