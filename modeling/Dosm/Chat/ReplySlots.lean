import Dosm.Chat.MessageOrder

namespace Dosm.Chat.Replies

open Models Python Web Prompt Transition

/-! One generation for each message.

A conversation has one slot. A stream for another message takes it over and any
generation that ends clears it, so the slot keeps a second generation away only
while a conversation has no more than one at a time. A generation that raises
leaves no reply behind to refuse the next stream with.
-/

/-- A stream is opened for a message only while no generation for another one of
its conversation runs, and not after one for it has raised. -/
def Exclusive (state : State) : Label → Prop
  | .stream _ cid replyTo =>
      (∀ generation ∈ state.running, generation.conversationId = cid → generation.replyTo = replyTo) ∧
        replyTo ∉ state.failed
  | _ => True

instance (state : State) (label : Label) : Decidable (Exclusive state label) :=
  match label with
  | .stream _ cid replyTo =>
      inferInstanceAs (Decidable ((∀ generation ∈ state.running,
        generation.conversationId = cid → generation.replyTo = replyTo) ∧ replyTo ∉ state.failed))
  | .post _ _ _ | .commit | .rollback | .finish _ _ | .fail _ | .planResult _ _ => isTrue trivial

/-- The entry of every generation that runs is in the map. -/
def Registered (state : State) : Prop :=
  ∀ generation ∈ state.running, state.slots.lookup generation.conversationId =
    some { replyTo := generation.replyTo, generation := generation.id }

def Below (messages : Table ChatMessage) (cid id ord : Int) : Prop :=
  ∃ message ∈ messages.rows, message.id = id ∧ message.conversationId = cid ∧ message.ord < ord

def Answered (messages : Table ChatMessage) (id : Int) : Prop :=
  ∃ reply ∈ messages.rows, reply.role = .assistant ∧ Below messages reply.conversationId id reply.ord

structure SlotInv (state : State) : Prop where
  registered : Registered state
  held : ∀ cid slot, state.slots.lookup cid = some slot →
    ∃ generation ∈ state.running, generation.conversationId = cid ∧
      generation.id = slot.generation ∧ generation.replyTo = slot.replyTo
  ids : (state.running.map Generation.id).Nodup
  recent : ∀ generation ∈ state.running, generation.id < state.started.length
  targets : ∀ generation ∈ state.running,
    Below state.messages generation.conversationId generation.replyTo generation.nextOrd
  once : state.started.Nodup
  accounted : ∀ id ∈ state.started, (∃ generation ∈ state.running, generation.replyTo = id) ∨
    id ∈ state.failed ∨ Answered state.messages id

section Messages

variable {messages later : Table ChatMessage} {message : ChatMessage} {state : State}
  {cid id ord : Int}

def Grows (messages later : Table ChatMessage) : Prop := ∀ row ∈ messages.rows, row ∈ later.rows

theorem Grows.refl : Grows messages messages := fun _ member => member

theorem Grows.trans {last : Table ChatMessage} (first : Grows messages later)
    (second : Grows later last) : Grows messages last :=
  fun row member => second row (first row member)

theorem grows_insert : Grows messages (insert messages message) :=
  fun _ member => Table.mem_insert.mpr (.inl member)

theorem settle_grows : Grows state.messages (settle state).messages := by
  unfold settle
  split
  · exact .refl
  · exact grows_insert

theorem write_grows : Grows state.messages (write state message).messages :=
  settle_grows.trans grows_insert

theorem Below.grow (below : Below messages cid id ord) (grows : Grows messages later) :
    Below later cid id ord := by
  obtain ⟨row, member, rest⟩ := below
  exact ⟨row, grows row member, rest⟩

theorem Answered.grow (answered : Answered messages id) (grows : Grows messages later) :
    Answered later id := by
  obtain ⟨reply, member, role, below⟩ := answered
  exact ⟨reply, grows reply member, role, below.grow grows⟩

end Messages

section Steps

variable {state after : State} {messages : Table ChatMessage} {message : ChatMessage}
  {pending : Option ChatMessage} {generation : Generation} {caller : Caller} {cid replyTo : Int}
  {content : String} {target : Target}

theorem SlotInv.grow (inv : SlotInv state) (grows : Grows state.messages messages) :
    SlotInv { state with messages, pending } where
  registered := inv.registered
  held := inv.held
  ids := inv.ids
  recent := inv.recent
  targets generation member := (inv.targets generation member).grow grows
  once := inv.once
  accounted id member :=
    (inv.accounted id member).imp_right fun ended => ended.imp_right fun answered => answered.grow grows

theorem settle_eq : settle state =
    { state with messages := (settle state).messages, pending := (settle state).pending } := by
  unfold settle
  split
  · rfl
  · rfl

theorem SlotInv.settle (inv : SlotInv state) : SlotInv (settle state) := by
  rw [settle_eq]
  exact inv.grow settle_grows

theorem SlotInv.write (inv : SlotInv state) : SlotInv (write state message) :=
  inv.settle.grow grows_insert

theorem chatPostMessage_inv (inv : SlotInv state) :
    SlotInv (chatPostMessage state caller cid content) := by
  unfold chatPostMessage
  split
  · exact inv
  · simp only
    split
    · exact inv
    · exact inv.settle.grow .refl

theorem replyTarget_below (accepted : replyTarget state.db caller cid replyTo = .ok target) :
    Below state.messages cid replyTo (nextOrd state.db cid) ∧ ¬ Answered state.messages replyTo := by
  unfold replyTarget at accepted
  split at accepted
  · cases accepted
  · simp only at accepted
    split at accepted
    · cases accepted
    · rename_i triggering found
      have listed := mem_latestMessages.mp (List.mem_of_find?_eq_some found)
      have same : triggering.id = replyTo := by simpa using List.find?_some found
      split at accepted
      · cases accepted
      · split at accepted
        · cases accepted
        · rename_i unanswered
          refine ⟨⟨triggering, listed.1, same, listed.2, above_nextOrd triggering listed.1 listed.2⟩, ?_⟩
          rintro ⟨reply, member, role, question, questionMember, questionId, conversation, earlier⟩
          have isTriggering : question = triggering :=
            Table.eq_of_key questionMember listed.1 (questionId.trans same.symm)
          rw [isTriggering] at conversation earlier
          refine unanswered (List.any_eq_true.mpr ⟨reply, ?_, by simpa [role] using earlier⟩)
          exact mem_latestMessages.mpr ⟨member, conversation.symm.trans listed.2⟩

theorem SlotInv.free (inv : SlotInv state) (exclusive : Exclusive state (.stream caller cid replyTo))
    (fresh : reconnects state cid replyTo = false) :
    ∀ generation ∈ state.running, generation.conversationId ≠ cid := by
  intro generation member same
  have slot := inv.registered generation member
  rw [same, exclusive.1 generation member same] at slot
  have running : state.running.any (fun other => other.id = generation.id) = true :=
    List.any_eq_true.mpr ⟨generation, member, by simp⟩
  simp [reconnects, slot, running] at fresh

theorem chatStream_inv (inv : SlotInv state) (exclusive : Exclusive state (.stream caller cid replyTo)) :
    SlotInv (chatStream state caller cid replyTo) := by
  unfold chatStream
  split
  · exact inv
  rename_i fresh
  split
  · exact inv
  rename_i accepted
  have free := inv.free exclusive (by simpa using fresh)
  obtain ⟨below, unanswered⟩ := replyTarget_below accepted
  have unstarted : replyTo ∉ state.started := by
    intro started
    rcases inv.accounted replyTo started with ⟨generation, member, same⟩ | failed | answered
    · obtain ⟨question, questionMember, questionId, conversation, _⟩ := inv.targets generation member
      obtain ⟨other, otherMember, otherId, otherConversation, _⟩ := below
      have isOther : question = other :=
        Table.eq_of_key questionMember otherMember ((questionId.trans same).trans otherId.symm)
      refine free generation member ?_
      rw [← conversation, isOther, otherConversation]
    · exact exclusive.2 failed
    · exact unanswered answered
  exact {
    registered := by
      intro generation member
      rcases List.mem_append.mp member with old | new
      · rw [AList.lookup_insert_ne (free generation old)]
        exact inv.registered generation old
      · cases List.mem_singleton.mp new
        exact AList.lookup_insert _
    held := by
      intro other slot found
      by_cases same : other = cid
      · subst same
        rw [AList.lookup_insert] at found
        cases found
        exact ⟨_, List.mem_append_right _ (List.mem_singleton.mpr rfl), rfl, rfl, rfl⟩
      · rw [AList.lookup_insert_ne same] at found
        obtain ⟨generation, member, rest⟩ := inv.held other slot found
        exact ⟨generation, List.mem_append_left _ member, rest⟩
    ids := by
      rw [List.map_append, List.nodup_append]
      refine ⟨inv.ids, List.nodup_singleton _, ?_⟩
      intro first firstListed second secondListed same
      obtain ⟨generation, member, rfl⟩ := List.mem_map.mp firstListed
      cases List.mem_singleton.mp secondListed
      exact absurd same (Nat.ne_of_lt (inv.recent generation member))
    recent := by
      intro generation member
      rw [List.length_append, List.length_singleton]
      rcases List.mem_append.mp member with old | new
      · exact Nat.lt_succ_of_lt (inv.recent generation old)
      · cases List.mem_singleton.mp new
        exact Nat.lt_succ_self _
    targets := by
      intro generation member
      rcases List.mem_append.mp member with old | new
      · exact inv.targets generation old
      · cases List.mem_singleton.mp new
        exact below
    once := by
      rw [List.nodup_append]
      refine ⟨inv.once, List.nodup_singleton _, ?_⟩
      rintro first member _ listed rfl
      cases List.mem_singleton.mp listed
      exact unstarted member
    accounted := by
      intro id member
      rcases List.mem_append.mp member with old | new
      · refine (inv.accounted id old).imp_left ?_
        rintro ⟨generation, running, same⟩
        exact ⟨generation, List.mem_append_left _ running, same⟩
      · cases List.mem_singleton.mp new
        exact .inl ⟨_, List.mem_append_right _ (List.mem_singleton.mpr rfl), rfl⟩ }

theorem SlotInv.leave (inv : SlotInv state) (member : generation ∈ state.running)
    (ended : generation.replyTo ∈ state.failed ∨ Answered state.messages generation.replyTo) :
    SlotInv (leave state generation) where
  registered other listed := by
    obtain ⟨running, different⟩ := List.mem_filter.mp listed
    have apart : other.conversationId ≠ generation.conversationId := by
      intro same
      have slots := (inv.registered other running).symm.trans
        ((congrArg state.slots.lookup same).trans (inv.registered generation member))
      have sameId : other.id = generation.id := congrArg Slot.generation (Option.some.inj slots)
      simp [sameId] at different
    exact (AList.lookup_erase_ne apart).trans (inv.registered other running)
  held cid slot found := by
    by_cases same : cid = generation.conversationId
    · rw [same] at found
      exact absurd found (by simp [Replies.leave])
    · rw [Replies.leave, AList.lookup_erase_ne same] at found
      obtain ⟨holder, running, conversation, sameId, sameReply⟩ := inv.held cid slot found
      refine ⟨holder, List.mem_filter.mpr ⟨running, ?_⟩, conversation, sameId, sameReply⟩
      have distinct : holder.id ≠ generation.id := by
        intro equal
        have isSame : holder = generation := List.inj_on_of_nodup_map inv.ids running member equal
        exact same (conversation.symm.trans (congrArg Generation.conversationId isSame))
      simpa using distinct
  ids := inv.ids.sublist (List.filter_sublist.map _)
  recent other listed := inv.recent other (List.mem_filter.mp listed).1
  targets other listed := inv.targets other (List.mem_filter.mp listed).1
  once := inv.once
  accounted id started := by
    rcases inv.accounted id started with ⟨other, running, same⟩ | rest
    · by_cases equal : other.id = generation.id
      · have isSame : other = generation := List.inj_on_of_nodup_map inv.ids running member equal
        rw [← same, isSame]
        exact .inr ended
      · exact .inl ⟨other, List.mem_filter.mpr ⟨running, by simpa using equal⟩, same⟩
    · exact .inr rest

theorem finishReply_inv (inv : SlotInv state) (member : generation ∈ state.running) :
    SlotInv (finishReply state generation content) := by
  have answered : Answered (write state
      (assistantMessage generation.conversationId content generation.nextOrd)).messages
      generation.replyTo :=
    ⟨_, Table.mem_insert.mpr (.inr rfl), rfl, (inv.targets generation member).grow write_grows⟩
  have running : generation ∈ (write state
      (assistantMessage generation.conversationId content generation.nextOrd)).running := by
    simp only [write, settle]
    split
    · exact member
    · exact member
  exact inv.write.leave running (.inr answered)

theorem failReply_inv (inv : SlotInv state) (member : generation ∈ state.running) :
    SlotInv (failReply state generation) := by
  have recorded : SlotInv { state with failed := state.failed ++ [generation.replyTo] } := {
    inv with
    accounted := fun id started =>
      (inv.accounted id started).imp_right fun rest => rest.imp_left (List.mem_append_left _) }
  exact recorded.leave member (.inl (List.mem_append_right _ (List.mem_singleton.mpr rfl)))

end Steps

theorem step_inv {state after : State} {label : Label} (exclusive : Exclusive state label)
    (stepped : step state label = some after) (inv : SlotInv state) : SlotInv after := by
  cases label with
  | post caller cid content =>
      cases stepped
      exact chatPostMessage_inv inv
  | commit =>
      cases stepped
      exact inv.settle
  | rollback =>
      cases stepped
      exact inv.grow .refl
  | stream caller cid replyTo =>
      cases stepped
      exact chatStream_inv inv exclusive
  | finish id content =>
      obtain ⟨generation, found, rfl⟩ := Option.map_eq_some_iff.mp stepped
      exact finishReply_inv inv (List.mem_of_find?_eq_some found)
  | fail id =>
      obtain ⟨generation, found, rfl⟩ := Option.map_eq_some_iff.mp stepped
      exact failReply_inv inv (List.mem_of_find?_eq_some found)
  | planResult cid content =>
      cases stepped
      exact inv.write

instance (state : State) : Decidable (Registered state) :=
  inferInstanceAs (Decidable (∀ generation ∈ state.running,
    state.slots.lookup generation.conversationId =
      some { replyTo := generation.replyTo, generation := generation.id }))

def overtaken : List Label :=
  [.post ann 1 "disk?", .commit, .stream ann 1 1, .post ann 1 "and memory?", .commit,
    .stream ann 1 2, .finish 0 "checking"]

end Dosm.Chat.Replies
