import Dosm.Agent.PlanCards
import Dosm.Base.Transition
import Mathlib.Data.List.Perm.Basic

namespace Dosm.Agent.Plans

open Models Python Web Transition

/-! Interleavings of plan-card requests.

An approval commits in the segment that checks the card, a rejection does not:
its status is written when the session is torn down, whatever happened to the
card since. As long as that write still finds the card undecided, a card is run
at most once, on the arguments it stores, and a decision stands.
-/

inductive Label where
  | approve (cid cardId userId : Int) (form : Form)
  | reject (cid cardId userId : Int)
  | approveGroup (cid messageId userId : Int)
  | commit (index : Nat)
  | finish (index : Nat) (result : ActionResult)
  | drop (index : Nat)

/-- A request may also be dropped at any await. -/
def step (tools : Tools) (state : State) : Label → Option State
  | .approve cid cardId userId form => some (planApprove tools state cid cardId userId form).1
  | .reject cid cardId userId => some (planReject state cid cardId userId).1
  | .approveGroup cid messageId userId => some (planApproveGroup tools state cid messageId userId).1
  | .commit index =>
      match state.requests[index]? with
      | some (.rejecting cardId userId) => some (commitReject state index cardId userId)
      | some (.raisingTier cardId) => some (commitTier state index cardId)
      | _ => none
  | .finish index result =>
      match state.requests[index]? with
      | some (.running cid userId group current waiting) =>
          some (finishRunner tools state index result cid userId group current waiting)
      | _ => none
  | .drop index =>
      if index < state.requests.length then
        some { state with requests := state.requests.set index .ended }
      else none

/-- From any cards, with no request under way. -/
def planSystem (tools : Tools) : Machine State Label where
  initial state := state.requests = [] ∧ state.invoked = []
  step := step tools

/-- A rejection commits while its card is still pending, or rejected already. -/
def Undecided (state : State) : Label → Prop
  | .commit index =>
      match state.requests[index]? with
      | some (.rejecting cardId _) =>
          ∀ card ∈ state.cards.get cardId, card.status = .pending ∨ card.status = .rejected
      | _ => True
  | _ => True

instance (state : State) (label : Label) : Decidable (Undecided state label) := by
  unfold Undecided
  split
  · split
    · infer_instance
    · infer_instance
  · infer_instance

def CardStatus.Final (status : CardStatus) : Prop :=
  status = .rejected ∨ status = .executed ∨ status = .failed

def Request.atWork : Request → List Approved
  | .running _ _ _ current _ => [current]
  | _ => []

def Request.inLine : Request → List Approved
  | .running _ _ _ _ waiting => waiting
  | _ => []

def Stands (tools : Tools) (cards : Table PlanCard) (statuses : List CardStatus)
    (approved : Approved) : Prop :=
  ∃ card, cards.get approved.cardId = some card ∧ card.status ∈ statuses ∧
    card.effectiveArgs = some (tools.dumped approved.args)

structure Books (tools : Tools) (cards : Table PlanCard) (invoked running waiting : List Approved) :
    Prop where
  once : ((invoked ++ waiting).map Approved.cardId).Nodup
  apart : ((running ++ waiting).map Approved.cardId).Nodup
  approved : ∀ item ∈ running ++ waiting, Stands tools cards [.approved] item
  settled : ∀ item ∈ invoked, Stands tools cards [.approved, .executed, .failed] item

section Books

variable {tools : Tools} {cards later : Table PlanCard}
  {invoked running waiting running' waiting' : List Approved} {item : Approved}

theorem Stands.mono {few many : List CardStatus} (stands : Stands tools cards few item)
    (within : few ⊆ many) : Stands tools cards many item := by
  obtain ⟨card, found, listed, stored⟩ := stands
  exact ⟨card, found, within listed, stored⟩

theorem Books.perm (books : Books tools cards invoked running waiting)
    (sameRunning : running.Perm running') (sameWaiting : waiting.Perm waiting') :
    Books tools cards invoked running' waiting' where
  once := ((sameWaiting.append_left invoked).map _).nodup_iff.mp books.once
  apart := ((sameRunning.append sameWaiting).map _).nodup_iff.mp books.apart
  approved item member :=
    books.approved item ((sameRunning.append sameWaiting).mem_iff.mpr member)
  settled := books.settled

theorem Books.sublist (books : Books tools cards invoked running waiting)
    (fewerRunning : running'.Sublist running) (fewerWaiting : waiting'.Sublist waiting) :
    Books tools cards invoked running' waiting' where
  once := books.once.sublist (((List.Sublist.refl invoked).append fewerWaiting).map _)
  apart := books.apart.sublist ((fewerRunning.append fewerWaiting).map _)
  approved item member := books.approved item ((fewerRunning.append fewerWaiting).subset member)
  settled := books.settled

def Frame (cards later : Table PlanCard) : Prop :=
  ∀ id card, cards.get id = some card → card.status ≠ .pending → card.status ≠ .rejected →
    ∃ kept, later.get id = some kept ∧ kept.status = card.status ∧
      kept.effectiveArgs = card.effectiveArgs

theorem Stands.frame {statuses : List CardStatus} (stands : Stands tools cards statuses item)
    (frame : Frame cards later) (decided : .pending ∉ statuses) (accepted : .rejected ∉ statuses) :
    Stands tools later statuses item := by
  obtain ⟨card, found, listed, stored⟩ := stands
  have notPending : card.status ≠ .pending := fun same => decided (same ▸ listed)
  have notRejected : card.status ≠ .rejected := fun same => accepted (same ▸ listed)
  obtain ⟨kept, keptFound, sameStatus, sameArgs⟩ := frame _ card found notPending notRejected
  exact ⟨kept, keptFound, sameStatus ▸ listed, sameArgs.trans stored⟩

theorem Books.frame (books : Books tools cards invoked running waiting) (frame : Frame cards later) :
    Books tools later invoked running waiting where
  once := books.once
  apart := books.apart
  approved item member := (books.approved item member).frame frame (by simp) (by simp)
  settled item member := (books.settled item member).frame frame (by simp) (by simp)

theorem Books.invoke (books : Books tools cards invoked running (item :: waiting)) :
    Books tools cards (invoked ++ [item]) (item :: running) waiting where
  once := by simpa using books.once
  apart := by
    have same : (running ++ item :: waiting).Perm (item :: running ++ waiting) := List.perm_middle
    exact (same.map _).nodup_iff.mp books.apart
  approved other member := books.approved other (by simpa [or_left_comm] using member)
  settled other member := by
    rcases List.mem_append.mp member with earlier | last
    · exact books.settled other earlier
    · rw [List.mem_singleton.mp last]
      have stands := books.approved item (by simp)
      exact stands.mono (by simp)

theorem Stands.ne_pending {statuses : List CardStatus} {old : Approved}
    (stands : Stands tools cards statuses old) (decided : .pending ∉ statuses)
    (pending : ∃ card, cards.get item.cardId = some card ∧ card.status = .pending) :
    item.cardId ≠ old.cardId := by
  intro same
  obtain ⟨card, found, listed, _⟩ := stands
  obtain ⟨fresh, freshFound, isPending⟩ := pending
  rw [same, found] at freshFound
  cases freshFound
  exact decided (isPending ▸ listed)

theorem nodup_join (tools : Tools) {items others : List Approved}
    (distinct : (items.map Approved.cardId).Nodup)
    (undecided : ∀ item ∈ items, ∃ card, cards.get item.cardId = some card ∧ card.status = .pending)
    (stand : ∀ old ∈ others ++ waiting, Stands tools cards [.approved, .executed, .failed] old)
    (unique : ((others ++ waiting).map Approved.cardId).Nodup) :
    ((others ++ (items ++ waiting)).map Approved.cardId).Nodup := by
  have same : (others ++ (items ++ waiting)).Perm (items ++ (others ++ waiting)) := by
    rw [← List.append_assoc, ← List.append_assoc]
    exact List.perm_append_comm.append_right waiting
  have joined : ((items ++ (others ++ waiting)).map Approved.cardId).Nodup := by
    rw [List.map_append, List.nodup_append]
    refine ⟨distinct, unique, ?_⟩
    intro id listed other otherListed
    obtain ⟨item, member, isItem⟩ := List.mem_map.mp listed
    obtain ⟨old, oldMember, isOld⟩ := List.mem_map.mp otherListed
    rw [← isItem, ← isOld]
    exact (stand old oldMember).ne_pending (by simp) (undecided item member)
  exact (same.map _).nodup_iff.mpr joined

theorem Books.queue (items : List Approved) (books : Books tools cards invoked running waiting)
    (distinct : (items.map Approved.cardId).Nodup)
    (undecided : ∀ item ∈ items, ∃ card, cards.get item.cardId = some card ∧ card.status = .pending)
    (frame : Frame cards later)
    (approved : ∀ item ∈ items, Stands tools later [.approved] item) :
    Books tools later invoked running (items ++ waiting) := by
  have waitingStands : ∀ old ∈ waiting, Stands tools cards [.approved, .executed, .failed] old :=
    fun old member => (books.approved old (List.mem_append_right _ member)).mono (by simp)
  have runningStands : ∀ old ∈ running, Stands tools cards [.approved, .executed, .failed] old :=
    fun old member => (books.approved old (List.mem_append_left _ member)).mono (by simp)
  have framed := books.frame frame
  refine { once := ?once, apart := ?apart, approved := ?approved, settled := framed.settled }
  case once =>
    refine nodup_join tools distinct undecided ?_ books.once
    exact fun old member => (List.mem_append.mp member).elim (books.settled old) (waitingStands old)
  case apart =>
    refine nodup_join tools distinct undecided ?_ books.apart
    exact fun old member => (List.mem_append.mp member).elim (runningStands old) (waitingStands old)
  case approved =>
    intro item member
    simp only [List.mem_append] at member
    rcases member with atWork | new | old
    · exact framed.approved item (List.mem_append_left _ atWork)
    · exact approved item new
    · exact framed.approved item (List.mem_append_right _ old)

theorem Books.finish (books : Books tools cards invoked (item :: running) waiting)
    (result : ActionResult) :
    Books tools (cards.modify item.cardId (recordResult result)) invoked running waiting := by
  have others : ∀ other ∈ running ++ waiting, other.cardId ≠ item.cardId := by
    intro other member same
    have apart := books.apart
    simp only [List.cons_append, List.map_cons, List.nodup_cons] at apart
    exact apart.1 (same ▸ List.mem_map_of_mem member)
  refine { once := books.once, apart := ?apart, approved := ?approved, settled := ?settled }
  case apart =>
    have apart := books.apart
    simp only [List.cons_append, List.map_cons, List.nodup_cons] at apart
    exact apart.2
  case approved =>
    intro other member
    obtain ⟨card, found, listed, stored⟩ := books.approved other (List.mem_cons_of_mem _ member)
    exact ⟨card, (Table.get_modify_other (others other member)).trans found, listed, stored⟩
  case settled =>
    intro other member
    obtain ⟨card, found, listed, stored⟩ := books.settled other member
    by_cases same : other.cardId = item.cardId
    · refine ⟨recordResult result card, Table.get_modify_of_eq same found, ?_, stored⟩
      cases ok : result.ok with
      | false => simp [recordResult, ok]
      | true => simp [recordResult, ok]
    · exact ⟨card, (Table.get_modify_other same).trans found, listed, stored⟩

end Books

/-! The requests' places in a list of requests. -/

theorem perm_set (items : Request → List Approved) {requests : List Request} {index : Nat}
    {request : Request} (found : requests[index]? = some request) :
    ∃ others, (requests.flatMap items).Perm (items request ++ others) ∧
      ∀ next, ((requests.set index next).flatMap items).Perm (items next ++ others) := by
  obtain ⟨within, isRequest⟩ := List.getElem?_eq_some_iff.mp found
  refine ⟨(requests.eraseIdx index).flatMap items, ?_, ?_⟩
  · have split := (List.getElem_cons_eraseIdx_perm within).symm.flatMap_right items
    rw [isRequest, List.flatMap_cons] at split
    exact split
  · intro next
    have split := (List.set_perm_cons_eraseIdx within next).flatMap_right items
    rw [List.flatMap_cons] at split
    exact split

def Sound (tools : Tools) (state : State) : Prop :=
  Books tools state.cards state.invoked (state.requests.flatMap Request.atWork)
    (state.requests.flatMap Request.inLine)

section Steps

variable {tools : Tools} {state after : State} {cards : Table PlanCard} {index : Nat}
  {request : Request} {cid cardId userId messageId : Int} {form : Form} {result : ActionResult}
  {queue rest : List Approved} {next : Approved}

theorem Sound.ended (sound : Sound tools state) (found : state.requests[index]? = some request) :
    Sound tools { state with requests := state.requests.set index .ended } := by
  obtain ⟨others, before, afterwards⟩ := perm_set Request.atWork found
  obtain ⟨behind, lineBefore, lineAfter⟩ := perm_set Request.inLine found
  have books := sound.perm before lineBefore
  have fewer := books.sublist (List.sublist_append_right _ others) (List.sublist_append_right _ behind)
  exact fewer.perm (afterwards .ended).symm (lineAfter .ended).symm

theorem advance_sublist (advanced : advance tools queue = some (next, rest)) :
    (next :: rest).Sublist queue := by
  induction queue with
  | nil => cases advanced
  | cons head tail ih =>
      simp only [advance] at advanced
      split at advanced
      · split at advanced
        · cases advanced
          exact .refl _
        · cases advanced
      · exact (ih advanced).cons head

theorem resume_sound {others behind : List Approved} {group : Bool}
    (books : Books tools state.cards state.invoked others (queue ++ behind))
    (places : ∀ next, ((state.requests.set index next).flatMap Request.atWork).Perm (next.atWork ++ others))
    (lines : ∀ next, ((state.requests.set index next).flatMap Request.inLine).Perm (next.inLine ++ behind)) :
    Sound tools (resume tools state index cid userId group queue) := by
  simp only [resume]
  cases advanced : advance tools queue with
  | none =>
      have fewer := books.sublist (.refl others) (List.sublist_append_right queue behind)
      exact fewer.perm (places .ended).symm (lines .ended).symm
  | some first =>
      obtain ⟨next, rest⟩ := first
      have shorter : (next :: (rest ++ behind)).Sublist (queue ++ behind) :=
        (advance_sublist advanced).append_right behind
      have invoked := (books.sublist (.refl others) shorter).invoke
      exact invoked.perm (places (.running cid userId group next rest)).symm
        (lines (.running cid userId group next rest)).symm

theorem finish_sound {group : Bool} (sound : Sound tools state)
    (found : state.requests[index]? = some (.running cid userId group next rest)) :
    Sound tools (finishRunner tools state index result cid userId group next rest) := by
  obtain ⟨others, before, places⟩ := perm_set Request.atWork found
  obtain ⟨behind, lineBefore, lines⟩ := perm_set Request.inLine found
  have books : Books tools state.cards state.invoked (next :: others) (rest ++ behind) :=
    sound.perm before lineBefore
  exact resume_sound (books.finish result) places lines

theorem frame_modify {change : PlanCard → PlanCard}
    (harmless : ∀ card, state.cards.get cardId = some card →
      card.status = .pending ∨ card.status = .rejected ∨
        (change card).status = card.status ∧ (change card).effectiveArgs = card.effectiveArgs)
    (keeps : ∀ card, key (change card) = key card) :
    Frame state.cards (state.cards.modify cardId change keeps) := by
  intro id card found notPending notRejected
  by_cases same : id = cardId
  · rcases harmless card (same ▸ found) with pending | rejected | kept
    · exact absurd pending notPending
    · exact absurd rejected notRejected
    · exact ⟨change card, Table.get_modify_of_eq same found, kept⟩
  · exact ⟨card, (Table.get_modify_other same).trans found, rfl, rfl⟩

theorem commit_sound (sound : Sound tools state) (undecided : Undecided state (.commit index))
    (stepped : step tools state (.commit index) = some after) : Sound tools after := by
  simp only [step] at stepped
  simp only [Undecided] at undecided
  split at stepped
  · rename_i cardId userId found
    cases stepped
    have frame : Frame state.cards (state.cards.modify cardId (reject userId)) := by
      refine frame_modify (fun card cardFound => ?_) (by intro; rfl)
      simp only [found] at undecided
      exact (undecided card cardFound).imp_right .inl
    exact (sound.ended found).frame frame
  · rename_i cardId found
    cases stepped
    have frame : Frame state.cards
        (state.cards.modify cardId fun card => { card with tier := .elevated }) := by
      refine frame_modify ?_ (by intro; rfl)
      intro card _
      exact .inr (.inr ⟨rfl, rfl⟩)
    exact (sound.ended found).frame frame
  · cases stepped

theorem ownCardOr404_some {card : PlanCard} (own : ownCardOr404 state cid cardId userId = .ok card) :
    state.cards.get card.id = some card := by
  simp only [ownCardOr404] at own
  split at own
  · cases own
  · split at own
    · cases own
    · rename_i found
      split at own
      · cases own
        exact Table.get_key (Table.get_eq_some_iff.mp found).1
      · cases own

theorem reject_sound (sound : Sound tools state) :
    Sound tools (planReject state cid cardId userId).1 := by
  simp only [planReject]
  split
  · exact sound
  · split
    · exact sound
    · simpa [Sound, Request.atWork, Request.inLine] using sound

theorem approve_stands {card : PlanCard} {args : Decoded} {tier : CardTier} {tool : String}
    (found : state.cards.get card.id = some card) :
    Stands tools (state.cards.modify card.id (approve tools userId args tier)) [.approved]
      { cardId := card.id, tool, args } :=
  ⟨_, Table.get_modify_of_eq rfl found, List.mem_singleton.mpr rfl, rfl⟩

theorem approve_sound (sound : Sound tools state) :
    Sound tools (planApprove tools state cid cardId userId form).1 := by
  simp only [planApprove]
  split
  · exact sound
  · rename_i card own
    have found := ownCardOr404_some own
    split
    · exact sound
    · rename_i isPending
      have pending : card.status = .pending := by simpa using isPending
      have harmless : ∀ row, state.cards.get card.id = some row → row.status = .pending := by
        intro row rowFound
        rw [Option.some.inj (rowFound.symm.trans found)]
        exact pending
      split
      · exact sound
      · exact Books.frame sound (frame_modify (fun row rowFound => .inl (harmless row rowFound)) (by intro; rfl))
      · simpa [Sound, Request.atWork, Request.inLine] using sound
      · rename_i args tier _
        have frame : Frame state.cards
            (state.cards.modify card.id (approve tools userId (.mapping args) tier)) :=
          frame_modify (fun row rowFound => .inl (harmless row rowFound)) (by intro; rfl)
        have queued := Books.queue [{ cardId := card.id, tool := card.tool, args := .mapping args }] sound
          (List.nodup_singleton _) (List.forall_mem_singleton.mpr ⟨card, found, pending⟩) frame
          (List.forall_mem_singleton.mpr (approve_stands found))
        refine queued.invoke.perm ?atWork ?inLine
        case atWork => simpa [Request.atWork] using (List.perm_append_singleton _ _).symm
        case inLine => simp [Request.inLine]

theorem decideGroup_key {card : PlanCard} :
    key (decideGroup tools cid messageId userId card) = key card := by
  simp only [decideGroup]
  split
  · split
    · rfl
    · rfl
  · rfl

theorem pendingSafe_pending {card : PlanCard} (selected : pendingSafe cid messageId card) :
    card.status = .pending := by
  simp only [pendingSafe, Bool.and_eq_true, decide_eq_true_eq] at selected
  exact selected.1.2

theorem group_frame : Frame state.cards
    (state.cards.map (decideGroup tools cid messageId userId) fun _ => decideGroup_key) := by
  intro id card found notPending _
  have untouched : decideGroup tools cid messageId userId card = card := by
    simp only [decideGroup]
    split
    · exact absurd (pendingSafe_pending ‹_›) notPending
    · rfl
  refine ⟨card, ?_, rfl, rfl⟩
  rw [Table.get_map, found, Option.map_some, untouched]

theorem mem_groupApproved {item : Approved} (member : item ∈ groupApproved tools state cid messageId) :
    ∃ card ∈ state.cards.rows, pendingSafe cid messageId card ∧ known tools card.tool ∧
      item = { cardId := card.id, tool := card.tool, args := tools.loads card.args } := by
  simp only [groupApproved] at member
  obtain ⟨card, listed, isItem⟩ := List.mem_map.mp member
  obtain ⟨sorted, isKnown⟩ := List.mem_filter.mp listed
  obtain ⟨stored, selected⟩ := List.mem_filter.mp ((List.mem_insertionSort _).mp sorted)
  exact ⟨card, stored, selected, isKnown, isItem.symm⟩

theorem groupApproved_nodup :
    ((groupApproved tools state cid messageId).map Approved.cardId).Nodup := by
  have rows : (state.cards.rows.map PlanCard.id).Nodup := state.cards.unique
  simp only [groupApproved, List.map_map]
  have selected : ((state.cards.rows.filter (pendingSafe cid messageId)).map PlanCard.id).Nodup :=
    rows.sublist (List.filter_sublist.map _)
  have sorted := ((List.perm_insertionSort (fun first second : PlanCard => first.id ≤ second.id)
    (state.cards.rows.filter (pendingSafe cid messageId))).map PlanCard.id).nodup_iff.mpr selected
  exact sorted.sublist (List.filter_sublist.map _)

theorem group_queue (sound : Sound tools state) :
    Books tools (state.cards.map (decideGroup tools cid messageId userId) fun _ => decideGroup_key)
      state.invoked (state.requests.flatMap Request.atWork)
      (groupApproved tools state cid messageId ++ state.requests.flatMap Request.inLine) := by
  refine Books.queue _ sound groupApproved_nodup ?undecided group_frame ?approved
  case undecided =>
    intro item member
    obtain ⟨card, stored, selected, _, isItem⟩ := mem_groupApproved member
    rw [isItem]
    exact ⟨card, Table.get_key stored, pendingSafe_pending selected⟩
  case approved =>
    intro item member
    obtain ⟨card, stored, selected, isKnown, isItem⟩ := mem_groupApproved member
    have becomes : decideGroup tools cid messageId userId card =
        approve tools userId (tools.loads card.args) card.tier card := by
      simp only [decideGroup, selected, isKnown, if_true]
    have found : state.cards.get card.id = some card := Table.get_key stored
    rw [isItem]
    refine ⟨approve tools userId (tools.loads card.args) card.tier card, ?_,
      List.mem_singleton.mpr rfl, rfl⟩
    rw [Table.get_map, found, Option.map_some, becomes]

theorem approveGroup_sound (sound : Sound tools state) :
    Sound tools (planApproveGroup tools state cid messageId userId).1 := by
  simp only [planApproveGroup]
  split
  · exact sound
  · split
    · exact sound
    · have place : (state.requests ++ [Request.ended])[state.requests.length]? = some .ended := by simp
      obtain ⟨others, before, places⟩ := perm_set Request.atWork place
      obtain ⟨behind, lineBefore, lines⟩ := perm_set Request.inLine place
      have sameOthers : (state.requests.flatMap Request.atWork).Perm others := by
        simpa [Request.atWork] using before
      have sameBehind : (state.requests.flatMap Request.inLine).Perm behind := by
        simpa [Request.inLine] using lineBefore
      exact resume_sound ((group_queue sound).perm sameOthers (sameBehind.append_left _)) places lines

theorem step_sound {label : Label} (undecided : Undecided state label)
    (stepped : step tools state label = some after) (sound : Sound tools state) :
    Sound tools after := by
  cases label with
  | approve cid cardId userId form =>
      cases stepped
      exact approve_sound sound
  | reject cid cardId userId =>
      cases stepped
      exact reject_sound sound
  | approveGroup cid messageId userId =>
      cases stepped
      exact approveGroup_sound sound
  | commit index => exact commit_sound sound undecided stepped
  | finish index result =>
      simp only [step] at stepped
      split at stepped
      · cases stepped
        exact finish_sound sound ‹_›
      · cases stepped
  | drop index =>
      simp only [step] at stepped
      obtain ⟨within, isAfter⟩ := Option.ite_none_right_eq_some.mp stepped
      cases isAfter
      exact sound.ended (List.getElem?_eq_getElem within)

end Steps

/-! Decisions stand. -/

def FinalKept (cards later : Table PlanCard) : Prop :=
  ∀ id card, cards.get id = some card → card.status.Final →
    ∃ kept, later.get id = some kept ∧ kept.status = card.status

section Final

variable {tools : Tools} {state after : State} {cards later last : Table PlanCard} {index : Nat}
  {cid cardId userId messageId : Int} {form : Form} {result : ActionResult}

theorem FinalKept.refl : FinalKept cards cards := fun _ card found _ => ⟨card, found, rfl⟩

theorem FinalKept.trans (first : FinalKept cards later) (second : FinalKept later last) :
    FinalKept cards last := by
  intro id card found final
  obtain ⟨kept, keptFound, same⟩ := first id card found final
  obtain ⟨lastKept, lastFound, lastSame⟩ := second id kept keptFound (same ▸ final)
  exact ⟨lastKept, lastFound, lastSame.trans same⟩

theorem not_final_pending : ¬ CardStatus.Final .pending := by simp [CardStatus.Final]

theorem not_final_approved : ¬ CardStatus.Final .approved := by simp [CardStatus.Final]

theorem finalKept_modify {change : PlanCard → PlanCard}
    (harmless : ∀ card, cards.get cardId = some card →
      ¬ card.status.Final ∨ (change card).status = card.status)
    (keeps : ∀ card, key (change card) = key card) :
    FinalKept cards (cards.modify cardId change keeps) := by
  intro id card found final
  by_cases same : id = cardId
  · rcases harmless card (same ▸ found) with open' | kept
    · exact absurd final open'
    · exact ⟨change card, Table.get_modify_of_eq same found, kept⟩
  · exact ⟨card, (Table.get_modify_other same).trans found, rfl⟩

theorem group_final : FinalKept state.cards
    (state.cards.map (decideGroup tools cid messageId userId) fun _ => decideGroup_key) := by
  intro id card found final
  have untouched : decideGroup tools cid messageId userId card = card := by
    simp only [decideGroup]
    split
    · exact absurd (pendingSafe_pending ‹_› ▸ final) not_final_pending
    · rfl
  refine ⟨card, ?_, rfl⟩
  rw [Table.get_map, found, Option.map_some, untouched]

@[simp] theorem resume_cards {group : Bool} {queue : List Approved} :
    (resume tools state index cid userId group queue).cards = state.cards := by
  simp only [resume]
  split
  · rfl
  · rfl

theorem approve_final : FinalKept state.cards (planApprove tools state cid cardId userId form).1.cards := by
  simp only [planApprove]
  split
  · exact .refl
  · rename_i card own
    have found := ownCardOr404_some own
    split
    · exact .refl
    · rename_i isPending
      have harmless : ∀ row, state.cards.get card.id = some row → ¬ row.status.Final := by
        intro row rowFound
        rw [Option.some.inj (rowFound.symm.trans found), not_not.mp isPending]
        exact not_final_pending
      split
      · exact .refl
      · exact finalKept_modify (fun row rowFound => .inl (harmless row rowFound)) (by intro; rfl)
      · exact .refl
      · exact finalKept_modify (fun row rowFound => .inl (harmless row rowFound)) (by intro; rfl)

theorem commit_final (undecided : Undecided state (.commit index))
    (stepped : step tools state (.commit index) = some after) : FinalKept state.cards after.cards := by
  simp only [step] at stepped
  simp only [Undecided] at undecided
  split at stepped
  · rename_i cardId userId found
    cases stepped
    refine finalKept_modify ?_ (by intro; rfl)
    intro card cardFound
    simp only [found] at undecided
    rcases undecided card cardFound with pending | rejected
    · exact .inl (pending ▸ not_final_pending)
    · exact .inr rejected.symm
  · cases stepped
    refine finalKept_modify ?_ (by intro; rfl)
    intro card _
    exact .inr rfl
  · cases stepped

theorem finish_final {group : Bool} {current : Approved} {waiting : List Approved}
    (sound : Sound tools state)
    (found : state.requests[index]? = some (.running cid userId group current waiting)) :
    FinalKept state.cards
      (finishRunner tools state index result cid userId group current waiting).cards := by
  obtain ⟨others, before, _⟩ := perm_set Request.atWork found
  have member : current ∈ state.requests.flatMap Request.atWork :=
    before.mem_iff.mpr (List.mem_cons_self ..)
  obtain ⟨card, cardFound, listed, _⟩ := sound.approved current (List.mem_append_left _ member)
  have isApproved : card.status = .approved := List.mem_singleton.mp listed
  simp only [finishRunner, resume_cards]
  refine finalKept_modify ?_ (by intro; rfl)
  intro row rowFound
  rw [Option.some.inj (rowFound.symm.trans cardFound), isApproved]
  exact .inl not_final_approved

theorem step_final {label : Label} (undecided : Undecided state label)
    (stepped : step tools state label = some after) (sound : Sound tools state) :
    FinalKept state.cards after.cards := by
  cases label with
  | approve cid cardId userId form =>
      cases stepped
      exact approve_final
  | reject cid cardId userId =>
      cases stepped
      simp only [planReject]
      split
      · exact .refl
      · split
        · exact .refl
        · exact .refl
  | approveGroup cid messageId userId =>
      cases stepped
      simp only [planApproveGroup]
      split
      · exact .refl
      · split
        · exact .refl
        · rw [resume_cards]
          exact group_final
  | commit index => exact commit_final undecided stepped
  | finish index result =>
      simp only [step] at stepped
      split at stepped
      · cases stepped
        exact finish_final sound ‹_›
      · cases stepped
  | drop index =>
      simp only [step] at stepped
      obtain ⟨_, isAfter⟩ := Option.ite_none_right_eq_some.mp stepped
      cases isAfter
      exact .refl

end Final

theorem sound_initial {tools : Tools} {start : State} (begins : (planSystem tools).initial start) :
    Sound tools start := by
  obtain ⟨noRequests, noInvocations⟩ := begins
  refine ⟨?_, ?_, ?_, ?_⟩
  · simp [noRequests, noInvocations]
  · simp [noRequests]
  · simp [noRequests]
  · simp [noInvocations]

theorem run_final {tools : Tools} {state after : State} {labels : List Label} (sound : Sound tools state)
    (completed : (planSystem tools).run state labels = some after)
    (meets : (planSystem tools).Meets Undecided state labels) :
    Sound tools after ∧ FinalKept state.cards after.cards := by
  have preserved : ∀ before label next, Undecided before label →
      (planSystem tools).step before label = some next →
      Sound tools before ∧ FinalKept state.cards before.cards →
      Sound tools next ∧ FinalKept state.cards next.cards := by
    intro before label next undecided stepped holds
    exact ⟨step_sound undecided stepped holds.1,
      holds.2.trans (step_final undecided stepped holds.1)⟩
  have carried := Machine.run_preserves preserved completed meets
  exact carried ⟨sound, FinalKept.refl⟩

/-- While every rejection commits on a card still undecided: no card is run
twice; a card that is run was approved, is not rejected and stores the
arguments its runner got; and a card once rejected, executed or failed stays
so, and unrun if it was rejected. -/
theorem plan_cards_run_once {tools : Tools} {state : State}
    (reached : (planSystem tools).ReachableUnder Undecided state) :
    (state.invoked.map Approved.cardId).Nodup ∧
      (∀ item ∈ state.invoked, ∃ card, state.cards.get item.cardId = some card ∧
        card.status ∈ [.approved, .executed, .failed] ∧
        card.effectiveArgs = some (tools.dumped item.args)) ∧
      ∀ labels after, (planSystem tools).run state labels = some after →
        (planSystem tools).Meets Undecided state labels →
        ∀ id card, state.cards.get id = some card → card.status.Final →
          ∃ kept, after.cards.get id = some kept ∧ kept.status = card.status ∧
            (card.status = .rejected → ∀ item ∈ after.invoked, item.cardId ≠ id) := by
  have sound : Sound tools state :=
    reached.invariant (fun _ => sound_initial) fun _ _ _ => step_sound
  refine ⟨?once, sound.settled, ?kept⟩
  case once =>
    have once := sound.once
    rw [List.map_append] at once
    exact once.sublist (List.sublist_append_left _ _)
  case kept =>
    intro labels after completed meets id card found final
    obtain ⟨soundAfter, finalKept⟩ := run_final sound completed meets
    obtain ⟨kept, keptFound, same⟩ := finalKept id card found final
    refine ⟨kept, keptFound, same, ?_⟩
    intro rejected item member isCard
    obtain ⟨run, runFound, listed, _⟩ := soundAfter.settled item member
    rw [isCard, keptFound] at runFound
    cases runFound
    rw [same, rejected] at listed
    simp at listed

def registry : Tools where
  getAction tool :=
    if tool = "run_pipeline" then
      some { argsSchema := ["name", "inputs"], classify := fun _ => .ok .safe, elevatedConfirmField := none }
    else none
  classifyCommand _ := .ok .elevated
  loads _ := .mapping [("name", .str "deploy")]
  dumps _ := "\x7b\"name\": \"deploy\"\x7d"
  str
    | .str text => text
    | _ => ""

def deployCard (id : Int) : PlanCard where
  id
  conversationId := 1
  messageId := some 1
  tool := "run_pipeline"
  args := "\x7b\"name\": \"deploy\"\x7d"

def twoCards : State where
  cards := (Table.empty.insert deployCard).insert deployCard
  conversations := Table.empty.insert fun id => { id, userId := 7, tenantId := some 1 }

def succeeded : ActionResult := { ok := true, summary := "triggered" }

def orderly : List Label :=
  [.reject 1 2 7, .commit 0, .approveGroup 1 1 7, .approve 1 1 7 [], .finish 1 succeeded]

theorem plan_cards_run_once_orderly :
    ∃ state, (planSystem registry).run twoCards orderly = some state ∧
      state.invoked.map Approved.cardId = [1] ∧ (state.invoked.map Approved.cardId).Nodup := by
  have meets : (planSystem registry).Meets Undecided twoCards orderly := by
    refine Machine.meets_cons rfl (by decide) (Machine.meets_cons rfl (by decide) ?_)
    refine Machine.meets_cons rfl (by decide) (Machine.meets_cons rfl (by decide) ?_)
    exact Machine.meets_cons rfl (by decide) trivial
  refine ⟨_, rfl, ?_, ?_⟩
  · decide
  · exact (plan_cards_run_once ⟨twoCards, orderly, ⟨rfl, rfl⟩, rfl, meets⟩).1

/-- The rejection was checked first and commits last: an executed card becomes
rejected. -/
theorem executed_card_rejected :
    ∃ before after, (planSystem registry).Reachable before ∧
      (planSystem registry).step before (.commit 0) = some after ∧
      before.invoked.map Approved.cardId = [1] ∧
      (before.cards.get 1).map PlanCard.status = some .executed ∧
      (after.cards.get 1).map PlanCard.status = some .rejected := by
  refine ⟨_, _, ⟨twoCards, [.reject 1 1 7, .approve 1 1 7 [], .finish 1 succeeded], ⟨rfl, rfl⟩, rfl⟩,
    rfl, ?_⟩
  decide

end Dosm.Agent.Plans
