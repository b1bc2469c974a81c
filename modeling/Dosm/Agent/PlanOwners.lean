import Dosm.Agent.PlanRuns

namespace Dosm.Agent.Plans

open Models Python Web Transition

/-! Whose cards a request decides.

The owner of a conversation is looked at when a request comes in, its writes come later
and go by the id of a card.
-/

/-- The user who sends a request; a continuation is nobody's. -/
def Label.sender : Label → Option Int
  | .approve _ _ userId _ | .reject _ _ userId | .approveGroup _ _ userId => some userId
  | _ => none

/-- The cards that a request has still to write to. -/
def Request.cardIds : Request → List Int
  | .rejecting cardId _ | .raisingTier cardId => [cardId]
  | .running _ _ _ current waiting => (current :: waiting).map Approved.cardId
  | .ended => []

def Owned (state : State) (owner id : Int) : Prop :=
  ∃ card, state.cards.get id = some card ∧
    ∃ conv, state.conversations.get card.conversationId = some conv ∧ conv.userId = owner

/-- Nothing has come to the card: its row and its runs are those of the start. -/
structure Spared (start : State) (id : Int) (state : State) : Prop where
  card : state.cards.get id = start.cards.get id
  conversations : state.conversations = start.conversations
  runs : state.invoked.filter (·.cardId = id) = start.invoked.filter (·.cardId = id)
  free : ∀ request ∈ state.requests, id ∉ request.cardIds

section Steps

variable {tools : Tools} {start state after : State} {id owner cid cardId userId messageId : Int} {form : Form}
  {index : Nat} {request : Request} {card : PlanCard} {queue : List Approved} {label : Label} {result : ActionResult} {group : Bool}

theorem Spared.owned (spared : Spared start id state) (owned : Owned start owner id) : Owned state owner id := by
  rwa [Owned, spared.card, spared.conversations]

@[simp] theorem ended_cardIds : Request.ended.cardIds = [] := rfl

theorem Spared.join (spared : Spared start id state) (free : id ∉ request.cardIds) :
    Spared start id { state with requests := state.requests ++ [request] } where
  __ := spared
  free := by simpa [or_imp, forall_and] using ⟨spared.free, free⟩

theorem Spared.set (spared : Spared start id state) (free : id ∉ request.cardIds) :
    Spared start id { state with requests := state.requests.set index request } where
  __ := spared
  free other member := by
    rcases List.mem_or_eq_of_mem_set member with old | rfl
    · exact spared.free other old
    · exact free

theorem Spared.modify {change : PlanCard → PlanCard} (spared : Spared start id state) (other : cardId ≠ id)
    (keeps : ∀ card, key (change card) = key card) :
    Spared start id { state with cards := state.cards.modify cardId change keeps } where
  __ := spared
  card := by
    rw [Table.get_modify_other other.symm]
    exact spared.card

theorem Spared.resume (spared : Spared start id state) (others : id ∉ queue.map Approved.cardId) :
    Spared start id (resume tools state index cid userId group queue) := by
  unfold Plans.resume
  cases advanced : advance tools queue with
  | none => exact spared.set (by simp)
  | some both =>
      have fewer : id ∉ (both.1 :: both.2).map Approved.cardId := fun member =>
        others (((advance_sublist advanced).map Approved.cardId).subset member)
      have next : both.1.cardId ≠ id := fun same => fewer (same ▸ List.mem_cons_self ..)
      have invoked : Spared start id { state with invoked := state.invoked ++ [both.1] } :=
        { spared with runs := by simpa [next] using spared.runs }
      exact invoked.set fewer

theorem foreign_conversation {conv : Conversation} (owned : Owned state owner id) (foreign : userId ≠ owner)
    (asked : conversationOr404 state cid userId = .ok conv) (found : state.cards.get id = some card) :
    card.conversationId ≠ cid := by
  rintro rfl
  obtain ⟨own, ownFound, holder, holderFound, rfl⟩ := owned
  cases Option.some.inj (found.symm.trans ownFound)
  simp [conversationOr404, holderFound, foreign.symm] at asked

theorem foreign_card (owned : Owned state owner id) (foreign : userId ≠ owner)
    (own : ownCardOr404 state cid cardId userId = .ok card) : card.id ≠ id := by
  rintro rfl
  have found := ownCardOr404_some own
  unfold ownCardOr404 at own
  split at own
  · cases own
  next conv asked =>
    split at own
    · cases own
    next row _ =>
      by_cases here : row.conversationId = cid
      · rw [if_pos here] at own
        cases own
        exact foreign_conversation owned foreign asked found here
      · rw [if_neg here] at own
        cases own

theorem reject_spares (spared : Spared start id state) (owned : Owned state owner id) (foreign : userId ≠ owner) :
    Spared start id (planReject state cid cardId userId).1 := by
  unfold planReject
  split
  · exact spared
  next card own =>
    split
    · exact spared
    · exact spared.join (by simpa [Request.cardIds] using (foreign_card owned foreign own).symm)

theorem approve_spares (spared : Spared start id state) (owned : Owned state owner id) (foreign : userId ≠ owner) :
    Spared start id (planApprove tools state cid cardId userId form).1 := by
  unfold planApprove
  split
  · exact spared
  next card own =>
    have other := foreign_card owned foreign own
    have written : ∀ change keeps, Spared start id { state with cards := state.cards.modify card.id change keeps } :=
      fun _ keeps => spared.modify other keeps
    split
    · exact spared
    split
    · exact spared
    · exact { written failUnknown fun _ => rfl with }
    · exact spared.join (by simpa [Request.cardIds] using other.symm)
    next args tier _ =>
      have approved := written (approve tools userId (.mapping args) tier) fun _ => rfl
      have invoked := @Spared.join _ _ _ (.running cid userId false ⟨card.id, card.tool, .mapping args⟩ []) approved
        (by simpa [Request.cardIds] using other.symm)
      exact { invoked with runs := by simpa [other] using spared.runs }

theorem approveGroup_spares (spared : Spared start id state) (owned : Owned state owner id) (foreign : userId ≠ owner) :
    Spared start id (planApproveGroup tools state cid messageId userId).1 := by
  unfold planApproveGroup
  split
  · exact spared
  next conv asked =>
    have elsewhere : ∀ card, state.cards.get id = some card → ¬ pendingSafe cid messageId card := by
      intro card found selected
      simp only [pendingSafe, Bool.and_eq_true, decide_eq_true_eq] at selected
      exact foreign_conversation owned foreign asked found selected.1.1.1
    split
    · exact spared
    have others : id ∉ (groupApproved tools state cid messageId).map Approved.cardId := by
      intro member
      obtain ⟨item, listed, rfl⟩ := List.mem_map.mp member
      obtain ⟨card, stored, selected, -, rfl⟩ := mem_groupApproved listed
      exact elsewhere card (Table.get_key stored) selected
    refine Spared.resume { spared with card := ?_, free := ?_ } others
    · obtain ⟨card, found, -⟩ := owned
      have untouched : decideGroup tools cid messageId userId card = card := if_neg (elsewhere card found)
      rw [← spared.card, Table.get_map, found, Option.map_some, untouched]
    · exact (spared.join (by simp)).free

theorem commit_spares (spared : Spared start id state) (stepped : step tools state (.commit index) = some after) :
    Spared start id after := by
  have ended := @Spared.set _ _ _ index .ended spared (by simp)
  simp only [step] at stepped
  split at stepped
  next cardId userId found =>
    cases stepped
    have other : cardId ≠ id := by simpa [Request.cardIds, eq_comm] using spared.free _ (List.mem_of_getElem? found)
    exact { @Spared.modify _ _ _ _ (reject userId) ended other fun _ => rfl with }
  next cardId found =>
    cases stepped
    have other : cardId ≠ id := by simpa [Request.cardIds, eq_comm] using spared.free _ (List.mem_of_getElem? found)
    exact @Spared.modify _ _ _ _ (fun card => { card with tier := .elevated }) ended other fun _ => rfl
  · cases stepped

theorem step_spares (stepped : step tools state label = some after) (others : label.sender ≠ some owner)
    (spared : Spared start id state) (owned : Owned state owner id) : Spared start id after := by
  have foreign : ∀ userId, label.sender = some userId → userId ≠ owner := by
    rintro userId sent rfl
    exact others sent
  cases label with
  | approve cid cardId userId form =>
      cases stepped
      exact approve_spares spared owned (foreign userId rfl)
  | reject cid cardId userId =>
      cases stepped
      exact reject_spares spared owned (foreign userId rfl)
  | approveGroup cid messageId userId =>
      cases stepped
      exact approveGroup_spares spared owned (foreign userId rfl)
  | commit index => exact commit_spares spared stepped
  | finish index result =>
      simp only [step] at stepped
      split at stepped
      next found =>
        cases stepped
        have free := spared.free _ (List.mem_of_getElem? found)
        simp only [Request.cardIds, List.map_cons, List.mem_cons, not_or] at free
        have written := @Spared.modify _ _ _ _ (recordResult result) spared (Ne.symm free.1) fun _ => rfl
        exact Spared.resume { written with } free.2
      · cases stepped
  | drop index =>
      simp only [step] at stepped
      obtain ⟨-, isAfter⟩ := Option.ite_none_right_eq_some.mp stepped
      cases isAfter
      exact spared.set (by simp)

end Steps

/-- However the requests of other users interleave, none of them decides, runs or rewrites a card: they leave what
is in a conversation to its owner. -/
theorem cards_left_to_owner {tools : Tools} {state after : State} {labels : List Label} {owner id : Int}
    (owned : Owned state owner id) (free : ∀ request ∈ state.requests, id ∉ request.cardIds)
    (ran : (planSystem tools).run state labels = some after)
    (others : (planSystem tools).Meets (fun _ label => label.sender ≠ some owner) state labels) :
    after.cards.get id = state.cards.get id ∧
      after.invoked.filter (·.cardId = id) = state.invoked.filter (·.cardId = id) := by
  have kept : ∀ before label next, label.sender ≠ some owner → (planSystem tools).step before label = some next →
      Spared state id before → Spared state id next :=
    fun _ _ _ other stepped spared => step_spares stepped other spared (spared.owned owned)
  have spared := Machine.run_preserves kept ran others ⟨rfl, rfl, rfl, free⟩
  exact ⟨spared.card, spared.runs⟩

def intrusions : List Label := [.reject 1 2 8, .approve 1 1 8 [], .approveGroup 1 1 8]

theorem intrusions_leave_card : ∃ after, (planSystem registry).run twoCards intrusions = some after ∧
    after.cards.get 1 = twoCards.cards.get 1 := by
  have others : (planSystem registry).Meets (fun _ label => label.sender ≠ some 7) twoCards intrusions := by
    refine Machine.meets_cons rfl (by decide) (Machine.meets_cons rfl (by decide) ?_)
    exact Machine.meets_cons rfl (by decide) trivial
  exact ⟨_, rfl, (cards_left_to_owner ⟨_, rfl, _, rfl, rfl⟩ (fun _ member => absurd member List.not_mem_nil) rfl others).1⟩

end Dosm.Agent.Plans
