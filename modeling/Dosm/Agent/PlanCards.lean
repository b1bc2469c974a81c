import Dosm.Agent.Action
import Dosm.Web
import Mathlib.Data.List.Sort

namespace Dosm.Agent.Plans

open Models Python Web

/-! Plan cards: the three requests that decide them.

A request runs in segments, the code between two awaits. What it keeps across
an await is an entry of `requests`: a rejection whose session has still to
commit, or an approval whose runner is at work, with the cards of its group
that wait for their turn.
-/

inductive CardTier where
  | safe
  | elevated
  deriving DecidableEq

inductive CardStatus where
  | pending
  | approved
  | rejected
  | executed
  | failed
  deriving DecidableEq

/-- What the result column of a card encodes. -/
inductive CardResult where
  | unknownTool (summary : String)
  | ran (result : ActionResult)
  deriving DecidableEq

structure PlanCard where
  id : Int
  conversationId : Int
  messageId : Option Int
  tool : String
  args : String
  effectiveArgs : Option String := none
  tier : CardTier := .safe
  status : CardStatus := .pending
  result : Option CardResult := none
  approverId : Option Int := none
  deriving DecidableEq

structure Conversation where
  id : Int
  userId : Int
  tenantId : Option Int
  deriving DecidableEq

structure ChatMessage where
  conversationId : Int
  role : String
  content : String
  ord : Int
  deriving DecidableEq

instance : Keyed PlanCard := ⟨PlanCard.id⟩
instance : Keyed Conversation := ⟨Conversation.id⟩

/-- What the stored arguments decode to; malformed text counts as an empty
mapping. Any other document is known by the text it is dumped to. -/
inductive Decoded where
  | mapping (args : Args)
  | other (text : String)
  deriving DecidableEq

/-- `classify` raises on arguments it cannot read. -/
structure ActionSpec where
  argsSchema : List String
  classify : Args → Except Raised CardTier
  elevatedConfirmField : Option String

/-- The tool registry, and the JSON and text conversions around arguments. -/
structure Tools where
  getAction : String → Option ActionSpec
  classifyCommand : Value → Except Raised CardTier
  loads : String → Decoded
  dumps : Args → String
  str : Value → String

def Tools.dumped (tools : Tools) : Decoded → String
  | .mapping args => tools.dumps args
  | .other text => text

/-- A card whose approval is committed, as its runner gets it. -/
structure Approved where
  cardId : Int
  tool : String
  args : Decoded
  deriving DecidableEq

inductive Request where
  | rejecting (cardId userId : Int)
  | raisingTier (cardId : Int)
  | running (conversationId userId : Int) (group : Bool) (current : Approved) (waiting : List Approved)
  | ended

/-- `invoked` records the runner invocations, in order. -/
structure State where
  cards : Table PlanCard
  conversations : Table Conversation
  messages : List ChatMessage := []
  audit : List AuditLog := []
  invoked : List Approved := []
  requests : List Request := []

abbrev Form := List (String × String)

/-- What a segment returns, unless it ends in an await. -/
abbrev Segment := State × Option Reply

def nextOrd (messages : List ChatMessage) (conversationId : Int) : Int :=
  let ords := (messages.filter fun message => message.conversationId = conversationId).map (·.ord)
  match ords.max? with
  | some last => last + 1
  | none => 0

def conversationOr404 (state : State) (cid userId : Int) : Except Reply Conversation :=
  match state.conversations.get cid with
  | none => .error notFound
  | some conv => if conv.userId = userId then .ok conv else .error notFound

def ownCardOr404 (state : State) (cid cardId userId : Int) : Except Reply PlanCard :=
  match conversationOr404 state cid userId with
  | .error reply => .error reply
  | .ok _ =>
      match state.cards.get cardId with
      | none => .error notFound
      | some card => if card.conversationId = cid then .ok card else .error notFound

def toChat (cid : Int) : Reply := .redirect ("/chat/" ++ toString cid)

def auditRow (userId : Int) (action : String) (cardId : Int) (details : String) : AuditLog where
  tenantId := none
  actorId := userId
  action := action
  target := "plan_card:" ++ toString cardId
  details := some details

def CardTier.name : CardTier → String
  | safe => "safe"
  | elevated => "elevated"

/-! The rejection: the session commits only when the request is torn down. -/

def planReject (state : State) (cid cardId userId : Int) : Segment :=
  match ownCardOr404 state cid cardId userId with
  | .error reply => (state, some reply)
  | .ok card =>
      if card.status ≠ .pending then (state, some (toChat cid))
      else
        ({ state with requests := state.requests ++ [.rejecting card.id userId] }, some (toChat cid))

def reject (userId : Int) (card : PlanCard) : PlanCard :=
  { card with status := .rejected, approverId := some userId }

def commitReject (state : State) (index : Nat) (cardId userId : Int) : State :=
  { state with
    cards := state.cards.modify cardId (reject userId)
    audit := state.audit ++ [auditRow userId "agent.plan.reject" cardId
      ("tool=" ++ ((state.cards.get cardId).elim "" (·.tool)))]
    requests := state.requests.set index .ended }

/-! The approval of one card. -/

/-- Operator edits from the form: a field with something in it wins. -/
def applyEdits (form : Form) (args : Args) (fields : List String) : Args :=
  fields.foldl (fun args field =>
    let given := strip ((form.lookup ("arg_" ++ field)).getD "")
    if given = "" then args
    else if (args.lookup field).isSome then
      args.map fun entry => if entry.1 = field then (field, .str given) else entry
    else args ++ [(field, .str given)]) args

def commandClassifyTools : List String := ["ssh_exec", "local_exec", "winrm_exec"]

/-- What the segment makes of a pending card. -/
inductive Decision where
  | unknownTool
  | crash
  | confirm
  | approve (args : Args) (tier : CardTier)

def decide (tools : Tools) (card : PlanCard) (form : Form) : Decision :=
  match tools.getAction card.tool with
  | none => .unknownTool
  | some spec =>
      match tools.loads card.args with
      | .other _ => .crash
      | .mapping stored =>
          let args := applyEdits form stored spec.argsSchema
          let classified :=
            if card.tool ∈ commandClassifyTools then
              tools.classifyCommand ((args.lookup "command").getD (.str ""))
            else spec.classify args
          match classified with
          | .error _ => .crash
          | .ok tier =>
              let confirmation := strip ((form.lookup "confirmation").getD "")
              let unconfirmed := spec.elevatedConfirmField.any fun field =>
                field ≠ "" && confirmation ≠ tools.str ((args.lookup field).getD (.str ""))
              if tier = .elevated ∧ unconfirmed then .confirm else .approve args tier

def failUnknown (card : PlanCard) : PlanCard :=
  { card with
    status := .failed
    result := some (.unknownTool ("unknown tool " ++ Python.repr card.tool)) }

def approve (tools : Tools) (userId : Int) (args : Decoded) (tier : CardTier) (card : PlanCard) :
    PlanCard :=
  { card with
    tier
    effectiveArgs := some (tools.dumped args)
    status := .approved
    approverId := some userId }

/-- Up to the runner's first await, when the card is approved. -/
def planApprove (tools : Tools) (state : State) (cid cardId userId : Int) (form : Form) : Segment :=
  match ownCardOr404 state cid cardId userId with
  | .error reply => (state, some reply)
  | .ok card =>
      if card.status ≠ .pending then (state, some (toChat cid))
      else
        match decide tools card form with
        | .crash => (state, some (.error 500 "Internal Server Error"))
        | .unknownTool =>
            ({ state with
                cards := state.cards.modify card.id failUnknown
                audit := state.audit ++ [auditRow userId "agent.plan.fail" card.id "unknown tool"] },
              some (toChat cid))
        | .confirm =>
            ({ state with requests := state.requests ++ [.raisingTier card.id] },
              some (.redirect ("/chat/" ++ toString cid ++ "?elevated_card=" ++ toString card.id)))
        | .approve args tier =>
            let approved : Approved := { cardId := card.id, tool := card.tool, args := .mapping args }
            ({ state with
                cards := state.cards.modify card.id (approve tools userId approved.args tier)
                audit := state.audit ++ [auditRow userId "agent.plan.approve" card.id
                  ("tool=" ++ card.tool ++ " tier=" ++ tier.name)]
                invoked := state.invoked ++ [approved]
                requests := state.requests ++ [.running cid userId false approved []] }, none)

def commitTier (state : State) (index : Nat) (cardId : Int) : State :=
  { state with
    cards := state.cards.modify cardId fun card => { card with tier := .elevated }
    requests := state.requests.set index .ended }

/-! The approval of a message's safe cards. -/

def pendingSafe (cid messageId : Int) (card : PlanCard) : Bool :=
  card.conversationId = cid && card.messageId = some messageId && card.status = .pending &&
    card.tier = .safe

def known (tools : Tools) (tool : String) : Bool := (tools.getAction tool).isSome

def decideGroup (tools : Tools) (cid messageId userId : Int) (card : PlanCard) : PlanCard :=
  if pendingSafe cid messageId card then
    if known tools card.tool then approve tools userId (tools.loads card.args) card.tier card
    else failUnknown card
  else card

/-- The cards a group approval approves, in the order of their ids. -/
def groupApproved (tools : Tools) (state : State) (cid messageId : Int) : List Approved :=
  let pending := (state.cards.rows.filter (pendingSafe cid messageId)).insertionSort
    fun first second => first.id ≤ second.id
  (pending.filter fun card => known tools card.tool).map fun card =>
    { cardId := card.id, tool := card.tool, args := tools.loads card.args }

/-- The next card to run; arguments that are no mapping end the request. -/
def advance (tools : Tools) : List Approved → Option (Approved × List Approved)
  | [] => none
  | next :: rest =>
      if known tools next.tool then
        match next.args with
        | .mapping _ => some (next, rest)
        | .other _ => none
      else advance tools rest

/-- Invoke the next runner of a group, from the request's place. -/
def resume (tools : Tools) (state : State) (index : Nat) (cid userId : Int) (group : Bool)
    (queue : List Approved) : State :=
  match advance tools queue with
  | none => { state with requests := state.requests.set index .ended }
  | some (next, rest) =>
      { state with
        invoked := state.invoked ++ [next]
        requests := state.requests.set index (.running cid userId group next rest) }

def planApproveGroup (tools : Tools) (state : State) (cid messageId userId : Int) : Segment :=
  match conversationOr404 state cid userId with
  | .error reply => (state, some reply)
  | .ok _ =>
      if ¬ state.cards.rows.any (pendingSafe cid messageId) then (state, some (toChat cid))
      else
        let queue := groupApproved tools state cid messageId
        let committed := { state with
          cards := state.cards.map (decideGroup tools cid messageId userId) (by
            intro card
            simp only [decideGroup]
            split
            · split
              · rfl
              · rfl
            · rfl)
          audit := state.audit ++ queue.map fun approved =>
            auditRow userId "agent.plan.approve" approved.cardId
              ("tool=" ++ approved.tool ++ " tier=safe group=true")
          requests := state.requests ++ [.ended] }
        (resume tools committed state.requests.length cid userId true queue, none)

/-! The end of a runner: a second session writes what came of it. -/

def execResultMessage (tool : String) (result : ActionResult) : String :=
  "[tool: " ++ tool ++ "] " ++ result.summary ++ "\n\n" ++
    (if result.stdout = "" then "" else "stdout:\n" ++ String.ofList (result.stdout.toList.take 4000) ++ "\n") ++
    (if result.stderr = "" then "" else "stderr:\n" ++ String.ofList (result.stderr.toList.take 2000) ++ "\n")

def noneOr (value : Option Int) : String := value.elim "None" toString

def recordResult (result : ActionResult) (card : PlanCard) : PlanCard :=
  { card with
    result := some (.ran result)
    status := if result.ok then .executed else .failed }

/-- A crash of the runner is a result too. -/
def finishRunner (tools : Tools) (state : State) (index : Nat) (result : ActionResult)
    (cid userId : Int) (group : Bool) (current : Approved) (waiting : List Approved) : State :=
  let written := { state with
    cards := state.cards.modify current.cardId (recordResult result)
    messages := state.messages ++ [{
      conversationId := cid
      role := "assistant"
      content := execResultMessage current.tool result
      ord := nextOrd state.messages cid }]
    audit := state.audit ++ [auditRow userId "agent.plan.execute" current.cardId
      ("ok=" ++ (if result.ok then "True" else "False") ++ " exit=" ++ noneOr result.exitCode ++
        " dur=" ++ noneOr result.durationMs ++ "ms" ++ (if group then " group=true" else ""))] }
  resume tools written index cid userId group waiting

end Dosm.Agent.Plans
