import Dosm.Agent.Confirmation
import Dosm.Agent.Credentials
import Dosm.Agent.MonitoringSources
import Dosm.Chat.Prompt

namespace Dosm.Agent

open Models Python Plans Monitoring

/-! Where a secret goes that is typed into an approval form.

A request to approve is followed to its end: the rows of its card or cards, the runner
with the merged arguments, and the rows that say what came of it. Two requests that
differ in one typed secret are compared on every row but those of the secrets backend.
What other tools do, and how a crash reads, is given from outside.
-/

structure Stores where
  plans : Plans.State
  world : World
  sources : Table MonitoringSource
  runnerAudit : List RunnerAudit := []

/-- The rows of the database, except the secrets backend's own. -/
structure Rows where
  cards : Table PlanCard
  conversations : Table Plans.Conversation
  messages : List Plans.ChatMessage
  audit : List AuditLog
  db : Database
  sources : Table MonitoringSource
  runnerAudit : List RunnerAudit

def Stores.rows (stores : Stores) : Rows where
  cards := stores.plans.cards
  conversations := stores.plans.conversations
  messages := stores.plans.messages
  audit := stores.plans.audit
  db := stores.world.db
  sources := stores.sources
  runnerAudit := stores.runnerAudit

def historyTurn (message : Plans.ChatMessage) : Option (String × String) :=
  if message.role = "user" then some ("user", message.content)
  else if message.role = "assistant" then
    some ("assistant", Chat.Prompt.stripPlanBlocks (Chat.Prompt.stripQueryBlocks message.content))
  else none

/-- The turns of a conversation that a later reply puts before the model. -/
def Rows.history (rows : Rows) (cid : Int) : List (String × String) :=
  let messages := (rows.messages.filter fun message => message.conversationId = cid).insertionSort
    fun first second => first.ord ≤ second.ord
  (messages.drop (messages.length - Chat.Prompt.maxHistoryTurns)).filterMap historyTurn

structure Effect where
  world : World
  sources : Table MonitoringSource
  audit : List RunnerAudit := []
  reported : Except Raised ActionResult

/-- The surroundings of the approvals: the tenant, what the secrets backend raises if
it does, the tools that take no secret, and the result of a crash. -/
structure Setting where
  conversions : Conversions
  allowList : List String
  tid : Option Int
  failure : Option String
  others : String → Args → World → Table MonitoringSource → Effect
  crashed : Raised → ActionResult

def createCredentialAudit (db : Database) (tid : Option Int) (args : Args) : List RunnerAudit :=
  match credentialArgs args with
  | .error _ => []
  | .ok given =>
      match agentDraft db tid given with
      | .error _ => []
      | .ok draft =>
          match Credentials.addCredential db draft with
          | .error _ => []
          | .ok _ =>
              [{ tenantId := tid
                 action := "credential.create"
                 target := "credential:" ++ toString db.credentials.fresh
                 details := "agent kind=" ++ given.kind }]

/-- The row of a credential that has been found and can be changed as asked. -/
def updateCredentialAudit (db : Database) (tid : Option Int) (args : Args) : List RunnerAudit :=
  match args.text "name", args.text "secret_value" with
  | .ok name, .ok _ =>
      if name = "" then []
      else
        match credentialNamed db tid name with
        | .ok (some cred) =>
            match replaced (args.get "username") cred.username, replaced (args.get "domain") cred.domain with
            | .ok _, .ok _ =>
                [{ tenantId := some cred.tenantId
                   action := "credential.update"
                   target := "credential:" ++ toString cred.id
                   details := "agent" }]
            | _, _ => []
        | _ => []
  | _, _ => []

/-- The sources and the secrets that a monitoring tool works on. -/
def asEffect (world : World) (run : SourcesRun) : Effect where
  world := { world with secrets := run.state.secrets }
  sources := run.state.sources
  audit := run.audit
  reported := run.reported

def Setting.runner (setting : Setting) (tool : String) (args : Args) (world : World)
    (sources : Table MonitoringSource) : Effect :=
  let up := setting.failure.isNone
  match tool with
  | "create_credential" =>
      let run := createCredentialRunner world setting.tid args up
      ⟨run.world, sources, createCredentialAudit world.db setting.tid args, run.reported⟩
  | "update_credential" =>
      let run := updateCredentialRunner world setting.tid args up
      ⟨run.world, sources, updateCredentialAudit world.db setting.tid args, run.reported⟩
  | "create_monitoring_source" =>
      asEffect world (createMonitoringSourceRunner ⟨sources, world.secrets⟩ setting.tid args setting.failure)
  | "update_monitoring_source" =>
      asEffect world (updateMonitoringSourceRunner ⟨sources, world.secrets⟩ setting.tid args setting.failure)
  | tool => setting.others tool args world sources

namespace Setting

variable (setting : Setting)

def tools : Tools := agentTools setting.conversions setting.allowList

def outcome : Except Raised ActionResult → ActionResult
  | .ok result => result
  | .error raised => setting.crashed raised

/-- A request from its first await on: the runners that it calls, one after another. -/
def settle : Nat → Nat → Stores → Stores
  | 0, _, stores => stores
  | fuel + 1, index, stores =>
      match stores.plans.requests[index]? with
      | some (.raisingTier cardId) => { stores with plans := commitTier stores.plans index cardId }
      | some (.running cid userId group ⟨cardId, tool, .mapping args⟩ waiting) =>
          let effect := setting.runner tool args stores.world stores.sources
          settle fuel index
            { plans := finishRunner setting.tools stores.plans index (setting.outcome effect.reported) cid userId
                group ⟨cardId, tool, .mapping args⟩ waiting
              world := effect.world
              sources := effect.sources
              runnerAudit := stores.runnerAudit ++ effect.audit }
      | _ => stores

inductive Request where
  | single (cardId : Int) (form : Form)
  | group (messageId : Int)

def serve (stores : Stores) (cid userId : Int) : Request → Stores
  | .single cardId form =>
      setting.settle 1 stores.plans.requests.length
        { stores with plans := (planApprove setting.tools stores.plans cid cardId userId form).1 }
  | .group messageId =>
      setting.settle ((groupApproved setting.tools stores.plans cid messageId).length + 1)
        stores.plans.requests.length
        { stores with plans := (planApproveGroup setting.tools stores.plans cid messageId userId).1 }

/-- The request with a value typed into a field; a group approval sends no field. -/
def Request.typing (field : Field) (value : String) : Request → Request
  | .single cardId form => .single cardId (("arg_" ++ field.name, value) :: form)
  | .group messageId => .group messageId

/-- What was typed shows in no row, nor in what the model is told later. -/
def Hidden (stores : Stores) (cid userId : Int) (request : Request) (field : Field) (first second : String) : Prop :=
  let one := (setting.serve stores cid userId (request.typing field first)).rows
  let other := (setting.serve stores cid userId (request.typing field second)).rows
  one = other ∧ ∀ conversation, one.history conversation = other.history conversation

end Setting

/-- What a field's argument is after an approval: what was typed, or what is stored
where nothing was. -/
def merged (stored : Args) (field : Field) (value : String) : Option Value :=
  if strip value = "" then stored.lookup field.name else some (.str (strip value))

def Action.fields (action : Action) : List String := action.argsSchema.map Field.name

/-- The form confirms the action on the value of its field to confirm. -/
def Confirms (conversions : Conversions) (action : Action) (stored : Args) (form : Form) : Prop :=
  ∀ name ∈ action.elevatedConfirmField,
    confirmation form = conversions.str (((applyEdits form stored action.fields).lookup name).getD (.str ""))

/-- A group approval; or a form that approves no pending card of the user's with the
field, or under which both values come to the same argument. -/
def Conceals (setting : Setting) (stores : Stores) (cid userId : Int) (field : Field) (first second : String) :
    Setting.Request → Prop
  | .group _ => True
  | .single cardId form =>
      ∀ card action stored, ownCardOr404 stores.plans cid cardId userId = .ok card → card.status = .pending →
        getAction card.tool = some action → field ∈ action.argsSchema →
        setting.conversions.loads card.args = .mapping stored → Confirms setting.conversions action stored form →
          merged stored field first = merged stored field second

section Edits

variable {form other : Form} {args : Args} {fields : List String} {name value : String}

theorem applyEdits_congr (same : ∀ field ∈ fields, editOf form field = editOf other field) :
    applyEdits form args fields = applyEdits other args fields := by
  change fields.foldl (editField form) args = fields.foldl (editField other) args
  induction fields generalizing args with
  | nil => rw [List.foldl_nil, List.foldl_nil]
  | cons field rest inductive_step =>
      have here : editField form args field = editField other args field := by
        simp only [editField, same field (List.mem_cons_self ..)]
      rw [List.foldl_cons, List.foldl_cons, here]
      exact inductive_step fun field listed => same field (List.mem_cons_of_mem _ listed)

theorem editOf_typed : editOf (("arg_" ++ name, value) :: form) name = strip value := by
  simp [editOf]

theorem editOf_untyped {field : String} (different : field ≠ name) :
    editOf (("arg_" ++ name, value) :: form) field = editOf form field := by
  have keys : ("arg_" ++ field == "arg_" ++ name) = false := by
    rw [beq_eq_false_iff_ne]
    intro same
    have chars := congrArg String.toList same
    rw [String.toList_append, String.toList_append] at chars
    exact different (String.toList_injective (List.append_cancel_left chars))
  simp [editOf, List.lookup_cons, keys]

theorem confirmation_typed : confirmation (("arg_" ++ name, value) :: form) = confirmation form := by
  have keys : ("confirmation" == "arg_" ++ name) = false := by
    rw [beq_eq_false_iff_ne]
    intro same
    have chars := congrArg String.toList same
    rw [String.toList_append] at chars
    simp at chars
  simp [confirmation, List.lookup_cons, keys]

theorem lookup_of_mem (distinct : (args.map Prod.fst).Nodup) {entry : String × Value} (member : entry ∈ args) :
    args.lookup entry.1 = some entry.2 := by
  induction args with
  | nil => cases member
  | cons first rest inductive_step =>
      obtain ⟨key, held⟩ := first
      rw [List.map_cons, List.nodup_cons] at distinct
      rcases List.mem_cons.mp member with rfl | later
      · simp
      · have different : (entry.1 == key) = false := by
          rw [beq_eq_false_iff_ne]
          intro same
          exact distinct.1 (List.mem_map.mpr ⟨entry, later, same⟩)
        rw [List.lookup_cons, different]
        exact inductive_step distinct.2 later

theorem editField_distinct (distinct : (args.map Prod.fst).Nodup) (field : String) :
    ((editField form args field).map Prod.fst).Nodup := by
  unfold editField
  split
  · exact distinct
  split
  · have keys : (args.map fun entry => if entry.1 = field then (field, Value.str (editOf form field)) else entry).map
        Prod.fst = args.map Prod.fst := by
      rw [List.map_map]
      refine List.map_congr_left fun entry _ => ?_
      by_cases same : entry.1 = field <;> simp [same]
    rw [keys]
    exact distinct
  · rename_i absent
    rw [List.map_append, List.nodup_append]
    refine ⟨distinct, List.nodup_singleton _, ?_⟩
    intro key listed last isField same
    obtain ⟨entry, member, rfl⟩ := List.mem_map.mp listed
    rw [List.map_singleton, List.mem_singleton] at isField
    subst same
    have found := lookup_of_mem distinct member
    rw [isField] at found
    exact absent (by rw [found]; rfl)

theorem applyEdits_kept (distinct : (args.map Prod.fst).Nodup) (blank : editOf form name = "")
    (others : ∀ field, field ≠ name → editOf form field = editOf other field)
    (already : args.lookup name = some (.str (editOf other name))) :
    applyEdits form args fields = applyEdits other args fields := by
  change fields.foldl (editField form) args = fields.foldl (editField other) args
  induction fields generalizing args with
  | nil => rw [List.foldl_nil, List.foldl_nil]
  | cons field rest inductive_step =>
      have here : editField form args field = editField other args field := by
        by_cases same : field = name
        · subst same
          have unchanged : editField form args field = args := if_pos blank
          rw [unchanged, editField]
          split
          · rfl
          rw [if_pos (by rw [already]; rfl)]
          symm
          refine (List.map_congr_left fun entry member => ?_).trans (List.map_id _)
          by_cases isField : entry.1 = field
          · have found := lookup_of_mem distinct member
            rw [isField, already] at found
            rw [if_pos isField, Option.some.inj found, ← isField]
            rfl
          · exact if_neg isField
        · simp only [editField, others field same]
      rw [List.foldl_cons, List.foldl_cons, ← here]
      refine inductive_step (editField_distinct distinct field) ?_
      rw [lookup_editField, already]
      split
      · rename_i edited
        obtain ⟨rfl, given⟩ := edited
        exact absurd blank given
      · rfl

theorem edited_eq_iff {field : Field} {first second : String} (distinct : (args.map Prod.fst).Nodup)
    (listed : field.name ∈ fields) :
    applyEdits (("arg_" ++ field.name, first) :: form) args fields =
        applyEdits (("arg_" ++ field.name, second) :: form) args fields ↔
      merged args field first = merged args field second := by
  have looked : ∀ value, (applyEdits (("arg_" ++ field.name, value) :: form) args fields).lookup field.name =
      merged args field value := by
    intro value
    rw [lookup_applyEdits listed, editOf_typed, merged]
  have others : ∀ value other, ∀ name, name ≠ field.name →
      editOf (("arg_" ++ field.name, value) :: form) name = editOf (("arg_" ++ field.name, other) :: form) name := by
    intro value other name different
    rw [editOf_untyped different, editOf_untyped different]
  have kept : ∀ value other, strip value = "" → strip other ≠ "" → merged args field value = merged args field other →
      applyEdits (("arg_" ++ field.name, value) :: form) args fields =
        applyEdits (("arg_" ++ field.name, other) :: form) args fields := by
    intro value other blank given same
    rw [merged, merged, if_pos blank, if_neg given] at same
    exact applyEdits_kept distinct (editOf_typed.trans blank) (others value other) (by rw [editOf_typed, same])
  constructor
  · intro same
    rw [← looked first, ← looked second, same]
  · intro same
    by_cases firstBlank : strip first = ""
    · by_cases secondBlank : strip second = ""
      · refine applyEdits_congr fun name _ => ?_
        by_cases isField : name = field.name
        · rw [isField, editOf_typed, editOf_typed, firstBlank, secondBlank]
        · exact others first second name isField
      · exact kept first second firstBlank secondBlank same
    · by_cases secondBlank : strip second = ""
      · exact (kept second first secondBlank firstBlank same.symm).symm
      · rw [merged, merged, if_neg firstBlank, if_neg secondBlank] at same
        have stripped : strip first = strip second := by simpa using same
        refine applyEdits_congr fun name _ => ?_
        by_cases isField : name = field.name
        · rw [isField, editOf_typed, editOf_typed, stripped]
        · exact others first second name isField

end Edits

section Decisions

variable {action : Action} {field : Field}

theorem secret_action (known : action ∈ actions) (listed : field ∈ action.argsSchema)
    (secret : field.type = .secret) :
    action.elevatedConfirmField = some "name" ∧ field.name ≠ "name" ∧ action.name ∉ commandClassifyTools ∧
      ∀ args, action.classify args = .elevated := by
  have takes : action ∈ actions.filter fun action => action.argsSchema.any fun field => field.type = .secret :=
    List.mem_filter.mpr ⟨known, List.any_eq_true.mpr ⟨field, listed, by simpa using secret⟩⟩
  have named : ∀ action ∈ actions, ∀ field ∈ action.argsSchema, field.type = .secret → field.name ≠ "name" := by
    decide
  have only : (actions.filter fun action => action.argsSchema.any fun field => field.type = .secret).map
      (fun action => (action.elevatedConfirmField, action.name)) =
        [(some "name", "create_credential"), (some "name", "update_credential"),
          (some "name", "create_monitoring_source"), (some "name", "update_monitoring_source")] := by
    decide
  have elevates : ∀ action ∈ actions.filter fun action => action.argsSchema.any fun field => field.type = .secret,
      ∀ args, action.classify args = .elevated := by
    intro action member args
    simp only [actions, List.filter] at member
    simp at member
    rcases member with rfl | rfl | rfl | rfl <;> rfl
  have pair := List.mem_map_of_mem (f := fun action : Action => (action.elevatedConfirmField, action.name)) takes
  rw [only] at pair
  refine ⟨?_, named action known field listed secret, ?_, elevates action takes⟩
  · simp at pair
    rcases pair with ⟨same, _⟩ | ⟨same, _⟩ | ⟨same, _⟩ | ⟨same, _⟩ <;> exact same
  · simp at pair
    rcases pair with ⟨_, same⟩ | ⟨_, same⟩ | ⟨_, same⟩ | ⟨_, same⟩ <;> rw [same] <;> decide

variable {conversions : Conversions} {allowList : List String} {card : PlanCard} {stored : Args} {form : Form}

theorem confirms_typed (known : action ∈ actions) (listed : field ∈ action.argsSchema)
    (secret : field.type = .secret) (value : String) :
    Confirms conversions action stored (("arg_" ++ field.name, value) :: form) ↔
      Confirms conversions action stored form := by
  obtain ⟨confirmed, different, _, _⟩ := secret_action known listed secret
  unfold Confirms
  rw [confirmed, confirmation_typed]
  simp only [Option.mem_some_iff, forall_eq', lookup_edited, editOf_untyped different.symm]

theorem decide_secret (registered : getAction card.tool = some action) (listed : field ∈ action.argsSchema)
    (secret : field.type = .secret) (loaded : conversions.loads card.args = .mapping stored) :
    (Confirms conversions action stored form →
      Plans.decide (agentTools conversions allowList) card form =
        .approve (applyEdits form stored action.fields) .elevated) ∧
    (¬ Confirms conversions action stored form →
      Plans.decide (agentTools conversions allowList) card form = .confirm) := by
  have known : action ∈ actions := List.mem_of_find?_eq_some registered
  have named : action.name = card.tool := by simpa using List.find?_some registered
  obtain ⟨confirmed, _, notCommand, classified⟩ := secret_action known listed secret
  have isKnown : (agentTools conversions allowList).getAction card.tool = some action.spec := by
    simp [agentTools, registered]
  have decoded : (agentTools conversions allowList).loads card.args = .mapping stored := loaded
  have tier : tierOf (agentTools conversions allowList) card.tool
      (applyEdits form stored action.spec.argsSchema) = .ok .elevated := by
    rw [tierOf, if_neg (named ▸ notCommand), isKnown]
    simp only [Action.spec, classified]
  constructor
  · intro confirms
    exact decide_approves isKnown decoded tier confirms
  · intro unconfirmed
    have asks : ∃ name ∈ action.elevatedConfirmField, confirmation form ≠
        conversions.str (((applyEdits form stored action.fields).lookup name).getD (.str "")) := by
      unfold Confirms at unconfirmed
      push Not at unconfirmed
      exact unconfirmed
    obtain ⟨name, isField, differs⟩ := asks
    obtain rfl : "name" = name := by simpa [confirmed] using isField
    simp only [tierOf, isKnown] at tier
    simp only [Plans.decide, isKnown, decoded, tier]
    refine if_pos ⟨trivial, ?_⟩
    have field : action.spec.elevatedConfirmField = some "name" := confirmed
    rw [field, Option.any_some, Bool.and_eq_true]
    exact ⟨by decide, decide_eq_true differs⟩

theorem secret_names : ∀ action ∈ actions, ∀ field ∈ action.argsSchema, field.type = .secret →
    ∀ other ∈ actions, ∀ same ∈ other.argsSchema, same.name = field.name → same = field := by
  decide

/-- A typed secret does not bear on the decision, except for the arguments of an approval. -/
theorem decide_typed {first second : String} (isAction : action ∈ actions) (has : field ∈ action.argsSchema)
    (secret : field.type = .secret) :
    Plans.decide (agentTools conversions allowList) card (("arg_" ++ field.name, first) :: form) =
        Plans.decide (agentTools conversions allowList) card (("arg_" ++ field.name, second) :: form) ∨
      ∃ tool stored, getAction card.tool = some tool ∧ field ∈ tool.argsSchema ∧
        conversions.loads card.args = .mapping stored ∧ Confirms conversions tool stored form ∧
        ∀ value, Plans.decide (agentTools conversions allowList) card (("arg_" ++ field.name, value) :: form) =
          .approve (applyEdits (("arg_" ++ field.name, value) :: form) stored tool.fields) .elevated := by
  have secretField := secret_names action isAction field has secret
  cases registered : getAction card.tool with
  | none => simp [Plans.decide, agentTools, registered]
  | some tool =>
      have known : tool ∈ actions := List.mem_of_find?_eq_some registered
      cases loaded : conversions.loads card.args with
      | other text => simp [Plans.decide, agentTools, registered, loaded]
      | mapping stored =>
          by_cases listed : field ∈ tool.argsSchema
          · by_cases confirms : Confirms conversions tool stored form
            · refine .inr ⟨tool, stored, rfl, listed, rfl, confirms, fun value => ?_⟩
              exact (decide_secret registered listed secret loaded).1
                ((confirms_typed known listed secret value).mpr confirms)
            · left
              rw [(decide_secret registered listed secret loaded).2
                  fun typed => confirms ((confirms_typed known listed secret first).mp typed),
                (decide_secret registered listed secret loaded).2
                  fun typed => confirms ((confirms_typed known listed secret second).mp typed)]
          · left
            have unnamed : ∀ name ∈ tool.fields, name ≠ field.name := by
              intro name isName same
              obtain ⟨other, present, rfl⟩ := List.mem_map.mp isName
              exact listed (secretField tool known other present same ▸ present)
            have edits : applyEdits (("arg_" ++ field.name, first) :: form) stored tool.fields =
                applyEdits (("arg_" ++ field.name, second) :: form) stored tool.fields :=
              applyEdits_congr fun name isName => by
                rw [editOf_untyped (unnamed name isName), editOf_untyped (unnamed name isName)]
            have confirmations : confirmation (("arg_" ++ field.name, first) :: form) =
                confirmation (("arg_" ++ field.name, second) :: form) :=
              confirmation_typed.trans confirmation_typed.symm
            have isKnown : (agentTools conversions allowList).getAction card.tool = some tool.spec := by
              simp [agentTools, registered]
            have decoded : (agentTools conversions allowList).loads card.args = .mapping stored := loaded
            simp only [Action.fields, confirmation] at edits confirmations
            simp only [Plans.decide, isKnown, decoded, Action.spec, edits, confirmations]

end Decisions

section Serving

variable {setting : Setting} {stores : Stores} {cid userId cardId : Int} {card : PlanCard} {form other : Form}

theorem planApprove_congr
    (same : ∀ card, ownCardOr404 stores.plans cid cardId userId = .ok card → card.status = .pending →
      Plans.decide setting.tools card form = Plans.decide setting.tools card other) :
    planApprove setting.tools stores.plans cid cardId userId form =
      planApprove setting.tools stores.plans cid cardId userId other := by
  unfold planApprove
  cases own : ownCardOr404 stores.plans cid cardId userId with
  | error reply => rfl
  | ok card =>
      by_cases pending : card.status = .pending
      · simp only [pending, ne_eq, not_true_eq_false, if_false, same card own pending]
      · simp only [ne_eq, pending, not_false_eq_true, if_true]

theorem serve_congr
    (same : ∀ card, ownCardOr404 stores.plans cid cardId userId = .ok card → card.status = .pending →
      Plans.decide setting.tools card form = Plans.decide setting.tools card other) :
    setting.serve stores cid userId (.single cardId form) = setting.serve stores cid userId (.single cardId other) := by
  simp only [Setting.serve, planApprove_congr same]

theorem serve_rows {args : Args} {tier : CardTier} (own : ownCardOr404 stores.plans cid cardId userId = .ok card)
    (pending : card.status = .pending) (approved : Plans.decide setting.tools card form = .approve args tier) :
    let effect := setting.runner card.tool args stores.world stores.sources
    let result := setting.outcome effect.reported
    (setting.serve stores cid userId (.single cardId form)).rows =
      { cards := (stores.plans.cards.modify card.id (approve setting.tools userId (.mapping args) tier)).modify card.id
          (recordResult result)
        conversations := stores.plans.conversations
        messages := stores.plans.messages ++
          [⟨cid, "assistant", execResultMessage card.tool result, nextOrd stores.plans.messages cid⟩]
        audit := stores.plans.audit ++
          [auditRow userId "agent.plan.approve" card.id ("tool=" ++ card.tool ++ " tier=" ++ tier.name)] ++
          [auditRow userId "agent.plan.execute" card.id
            ("ok=" ++ (if result.ok then "True" else "False") ++ " exit=" ++ noneOr result.exitCode ++
              " dur=" ++ noneOr result.durationMs ++ "ms" ++ (if false then " group=true" else ""))]
        db := effect.world.db
        sources := effect.sources
        runnerAudit := stores.runnerAudit ++ effect.audit } := by
  simp [Setting.serve, planApprove, own, pending, approved, Setting.settle, finishRunner, resume, advance, Stores.rows]

theorem ownCard_found (own : ownCardOr404 stores.plans cid cardId userId = .ok card) :
    stores.plans.cards.get cardId = some card := by
  unfold ownCardOr404 at own
  split at own
  · cases own
  · split at own
    · cases own
    · rename_i found
      split at own
      · cases own
        exact found
      · cases own

theorem ownCard_id (own : ownCardOr404 stores.plans cid cardId userId = .ok card) : card.id = cardId :=
  (Table.get_eq_some_iff.mp (ownCard_found own)).2

theorem serve_effectiveArgs {args : Args} {tier : CardTier}
    (own : ownCardOr404 stores.plans cid cardId userId = .ok card) (pending : card.status = .pending)
    (approved : Plans.decide setting.tools card form = .approve args tier) :
    ((setting.serve stores cid userId (.single cardId form)).rows.cards.get card.id).bind PlanCard.effectiveArgs =
      some (setting.conversions.dumps args) := by
  have approvedCard : (stores.plans.cards.modify card.id (approve setting.tools userId (.mapping args) tier)).get
      card.id = some (approve setting.tools userId (.mapping args) tier card) :=
    Table.get_modify_of_eq rfl (by rw [ownCard_id own, ownCard_found own])
  have recorded : ∀ result, ((stores.plans.cards.modify card.id
      (approve setting.tools userId (.mapping args) tier)).modify card.id (recordResult result)).get card.id =
        some (recordResult result (approve setting.tools userId (.mapping args) tier card)) :=
    fun result => Table.get_modify_of_eq rfl approvedCard
  refine (congrArg (fun rows : Rows => (rows.cards.get card.id).bind PlanCard.effectiveArgs)
    (serve_rows own pending approved)).trans ?_
  exact congrArg (Option.bind · PlanCard.effectiveArgs) (recorded _)

end Serving

/-- Between two values for a secret field, an approval shows no difference in any row
just when it conceals them. Dumped argument maps that differ are different texts. -/
theorem approval_hides_iff (setting : Setting) (stores : Stores) (cid userId : Int) (request : Setting.Request)
    (action : Action) (isAction : action ∈ actions) (field : Field) (has : field ∈ action.argsSchema)
    (secret : field.type = .secret) (first second : String)
    (distinct : ∀ text stored, setting.conversions.loads text = .mapping stored → (stored.map Prod.fst).Nodup)
    (faithful : ∀ cardId form, request = .single cardId form → ∀ text stored,
      setting.conversions.loads text = .mapping stored → ∀ action ∈ actions,
        setting.conversions.dumps (applyEdits (("arg_" ++ field.name, first) :: form) stored action.fields) =
            setting.conversions.dumps (applyEdits (("arg_" ++ field.name, second) :: form) stored action.fields) →
          applyEdits (("arg_" ++ field.name, first) :: form) stored action.fields =
            applyEdits (("arg_" ++ field.name, second) :: form) stored action.fields) :
    setting.Hidden stores cid userId request field first second ↔
      Conceals setting stores cid userId field first second request := by
  cases request with
  | group messageId => exact iff_of_true ⟨rfl, fun _ => rfl⟩ trivial
  | single cardId form =>
      constructor
      · rintro ⟨rows, _⟩ card action stored own pending registered listed loaded confirms
        have known := List.mem_of_find?_eq_some registered
        have approved : ∀ value, Plans.decide setting.tools card (("arg_" ++ field.name, value) :: form) =
            .approve (applyEdits (("arg_" ++ field.name, value) :: form) stored action.fields) .elevated :=
          fun value => (decide_secret registered listed secret loaded).1
            ((confirms_typed known listed secret value).mpr confirms)
        have kept := congrArg (fun rows : Rows => (rows.cards.get card.id).bind PlanCard.effectiveArgs) rows
        simp only [Setting.Request.typing] at kept
        rw [serve_effectiveArgs own pending (approved first), serve_effectiveArgs own pending (approved second)] at kept
        have same := faithful cardId form rfl _ _ loaded action known (Option.some.inj kept)
        exact (edited_eq_iff (distinct _ _ loaded) (List.mem_map_of_mem listed)).mp same
      · intro conceals
        have same : setting.serve stores cid userId (.single cardId (("arg_" ++ field.name, first) :: form)) =
            setting.serve stores cid userId (.single cardId (("arg_" ++ field.name, second) :: form)) := by
          refine serve_congr fun card own pending => ?_
          rcases decide_typed isAction has secret with alike | ⟨tool, stored, registered, listed, loaded, confirms, approved⟩
          · exact alike
          · have argument := conceals card tool stored own pending registered listed loaded confirms
            have edits : applyEdits (("arg_" ++ field.name, first) :: form) stored tool.fields =
                applyEdits (("arg_" ++ field.name, second) :: form) stored tool.fields :=
              (edited_eq_iff (distinct _ _ loaded) (List.mem_map_of_mem listed)).mpr argument
            exact (approved first).trans ((congrArg (Decision.approve · _) edits).trans (approved second).symm)
        have rows := congrArg Stores.rows same
        exact ⟨rows, fun conversation => congrArg (Rows.history · conversation) rows⟩

def quoted (text : String) : String := "\"" ++ text ++ "\""

def plainConversions : Conversions where
  loads _ := .mapping [("name", .str "db"), ("kind", .str "login")]
  dumps args := "\x7b" ++ ", ".intercalate (args.map fun entry => quoted entry.1 ++ ": " ++ quoted entry.2.asText) ++
    "\x7d"
  str := Value.asText
  isFloat _ := false
  str_text := Value.asText_str

def plainSetting : Setting where
  conversions := plainConversions
  allowList := []
  tid := some 1
  failure := none
  others _ _ world sources := { world, sources, reported := .error .attributeError }
  crashed _ := { ok := false, summary := "runner crashed" }

def annsConversation (id : Int) : Plans.Conversation := { id, userId := 7, tenantId := some 1 }

def oneCard : Stores where
  plans :=
    { cards := Table.empty.insert fun id =>
        { id, conversationId := 1, messageId := none, tool := "create_credential", args := "", tier := .elevated }
      conversations := Table.empty.insert annsConversation }
  world :=
    { db := { tenants := Table.empty.insert (fun id => { id, name := "Acme", slug := "acme" }) (Tenant.keyed _ _) }
      secrets := ∅ }
  sources := .empty

def secretValue : Field := ⟨"secret_value", .secret⟩

def createCredential : Action := (getAction "create_credential").get rfl

def confirmed : Setting.Request := .single 1 [("confirmation", "db")]

theorem approval_hides_padding : plainSetting.Hidden oneCard 1 7 confirmed secretValue "hunter2" " hunter2 " := by
  have isCreate : createCredential ∈ actions :=
    List.mem_of_find?_eq_some (rfl : getAction "create_credential" = some createCredential)
  refine (approval_hides_iff plainSetting oneCard 1 7 confirmed createCredential isCreate secretValue
    (by decide) rfl "hunter2" " hunter2 " ?_ ?_).mpr ?_
  · intro text stored loaded
    cases loaded
    decide
  · rintro cardId form same text stored loaded action known _
    cases same
    cases loaded
    revert action
    decide
  · intro card action stored _ _ _ _ _ _
    simp only [merged, (by decide : strip " hunter2 " = strip "hunter2")]

/-- The password that was typed stands in the card's row. -/
theorem password_in_row :
    ¬ plainSetting.Hidden oneCard 1 7 confirmed secretValue "hunter2" "hunter3" ∧
      ((plainSetting.serve oneCard 1 7 (confirmed.typing secretValue "hunter2")).rows.cards.get 1).bind
          PlanCard.effectiveArgs =
        some "\x7b\"name\": \"db\", \"kind\": \"login\", \"secret_value\": \"hunter2\"\x7d" := by
  have kept : ∀ value ∈ ["hunter2", "hunter3"],
      ((plainSetting.serve oneCard 1 7 (confirmed.typing secretValue value)).rows.cards.get 1).bind
          PlanCard.effectiveArgs =
        some ("\x7b\"name\": \"db\", \"kind\": \"login\", \"secret_value\": " ++ quoted value ++ "\x7d") := by
    decide
  refine ⟨fun hidden => ?_, kept "hunter2" (by decide)⟩
  have same := congrArg (fun rows : Rows => (rows.cards.get 1).bind PlanCard.effectiveArgs) hidden.1
  rw [kept "hunter2" (by decide), kept "hunter3" (by decide)] at same
  exact absurd same (by decide)

/-! The arguments of the card are the only place of a row where a typed secret shows. -/

def Effect.Matches (one other : Effect) : Prop :=
  one.world.db = other.world.db ∧ one.sources = other.sources ∧ one.audit = other.audit ∧
    one.reported = other.reported

section Runners

variable {first second : Args} {setting : Setting} {world : World} {sources : Table MonitoringSource}

theorem credentialArgs_same (same : SameBut "secret_value" first second) :
    (∃ raised, credentialArgs first = .error raised ∧ credentialArgs second = .error raised) ∨
      ∃ given : CredentialArgs, ∃ one other, one ≠ "" ∧ other ≠ "" ∧
        credentialArgs first = .ok { given with secretValue := one } ∧
        credentialArgs second = .ok { given with secretValue := other } := by
  obtain ⟨one, other, firstRead, secondRead, oneGiven, otherGiven⟩ := same.given
  unfold credentialArgs
  rw [same.text_eq (by decide : "name" ≠ "secret_value"), same.text_eq (by decide : "kind" ≠ "secret_value"),
    same.text_eq (by decide : "username" ≠ "secret_value"), same.text_eq (by decide : "domain" ≠ "secret_value"),
    firstRead, secondRead]
  cases second.text "name" with
  | error raised => exact .inl ⟨raised, rfl, rfl⟩
  | ok name =>
      cases second.text "kind" "login" with
      | error raised => exact .inl ⟨raised, rfl, rfl⟩
      | ok kind =>
          cases second.text "username" with
          | error raised => exact .inl ⟨raised, rfl, rfl⟩
          | ok username =>
              cases second.text "domain" with
              | error raised => exact .inl ⟨raised, rfl, rfl⟩
              | ok domain =>
                  exact .inr ⟨⟨name, kind, username, domain, one⟩, one, other, oneGiven, otherGiven, rfl, rfl⟩

theorem agentDraft_same {db : Database} {tid : Option Int} {given : CredentialArgs} {one other : String}
    (oneGiven : one ≠ "") (otherGiven : other ≠ "") :
    agentDraft db tid { given with secretValue := one } = agentDraft db tid { given with secretValue := other } := by
  unfold agentDraft
  simp only [oneGiven, otherGiven, if_false]

theorem createCredentialRunner_matches (same : SameBut "secret_value" first second) :
    (setting.runner "create_credential" first world sources).Matches
      (setting.runner "create_credential" second world sources) := by
  simp only [Setting.runner, Effect.Matches, createCredentialRunner, createCredentialAudit]
  rcases credentialArgs_same same with ⟨raised, one, other⟩ | ⟨given, one, other, oneGiven, otherGiven, first, second⟩
  · simp only [one, other, and_self]
  · have draft : agentDraft world.db setting.tid { given with secretValue := one } =
        agentDraft world.db setting.tid { given with secretValue := other } := agentDraft_same oneGiven otherGiven
    simp only [first, second, draft]
    split
    · exact ⟨rfl, trivial, trivial, rfl⟩
    · split
      · exact ⟨rfl, trivial, trivial, rfl⟩
      · split
        · exact ⟨rfl, trivial, trivial, rfl⟩
        · cases setting.failure <;> exact ⟨rfl, trivial, trivial, rfl⟩

theorem updateCredentialRunner_matches (same : SameBut "secret_value" first second) :
    (setting.runner "update_credential" first world sources).Matches
      (setting.runner "update_credential" second world sources) := by
  obtain ⟨one, other, firstRead, secondRead, oneGiven, otherGiven⟩ := same.given
  have username : first.get "username" = second.get "username" := by
    rw [Args.get, Args.get, same.others "username" (by decide)]
  have domain : first.get "domain" = second.get "domain" := by
    rw [Args.get, Args.get, same.others "domain" (by decide)]
  have name := same.text_eq (by decide : "name" ≠ "secret_value") ""
  simp only [Setting.runner, Effect.Matches, updateCredentialRunner, updateCredentialAudit, firstRead, secondRead,
    username, domain, name]
  cases second.text "name" with
  | error raised => simp only [Run.withText, and_self]
  | ok name =>
      simp only [Run.withText]
      by_cases unnamed : name = ""
      · simp only [unnamed, if_true, and_self]
      simp only [unnamed, if_false, oneGiven, otherGiven]
      cases credentialNamed world.db setting.tid name with
      | error raised => simp only [and_self]
      | ok found =>
          cases found with
          | none => simp only [and_self]
          | some cred =>
              cases replacesUser : replaced (second.get "username") cred.username with
              | error raised => simp only [replacesUser, and_self]
              | ok username =>
                  cases replacesDomain : replaced (second.get "domain") cred.domain with
                  | error raised => simp only [replacesUser, replacesDomain, and_self]
                  | ok domain =>
                      simp only [replacesUser, replacesDomain]
                      cases setting.failure with
                      | none => simp [Credentials.setSecret]
                      | some text => simp

theorem asEffect_matches {one other : SourcesRun} (same : one.Matches other) :
    (asEffect world one).Matches (asEffect world other) :=
  ⟨rfl, same.1, same.2.2, same.2.1⟩

theorem secret_fields : ∀ action ∈ actions, ∀ field ∈ action.argsSchema, field.type = .secret →
    (action.name, field.name) ∈ [("create_credential", "secret_value"), ("update_credential", "secret_value"),
      ("create_monitoring_source", "token"), ("create_monitoring_source", "token2"),
      ("update_monitoring_source", "token"), ("update_monitoring_source", "token2")] := by
  decide

/-- No runner shows which secret it was given. -/
theorem runner_matches {action : Action} {field : Field} (known : action ∈ actions)
    (listed : field ∈ action.argsSchema) (secret : field.type = .secret) (same : SameBut field.name first second) :
    (setting.runner action.name first world sources).Matches
      (setting.runner action.name second world sources) := by
  have pair := secret_fields action known field listed secret
  simp only [List.mem_cons, Prod.mk.injEq, List.not_mem_nil, or_false] at pair
  rcases pair with ⟨tool, name⟩ | ⟨tool, name⟩ | ⟨tool, name⟩ | ⟨tool, name⟩ | ⟨tool, name⟩ | ⟨tool, name⟩
  all_goals rw [tool]; rw [name] at same
  · exact createCredentialRunner_matches same
  · exact updateCredentialRunner_matches same
  · exact asEffect_matches (createMonitoringSourceRunner_matches _ _ _ same (.inl rfl))
  · exact asEffect_matches (createMonitoringSourceRunner_matches _ _ _ same (.inr rfl))
  · exact asEffect_matches (updateMonitoringSourceRunner_matches _ _ _ same (.inl rfl))
  · exact asEffect_matches (updateMonitoringSourceRunner_matches _ _ _ same (.inr rfl))

end Runners

theorem edited_sameBut {field : Field} {fields : List String} {stored : Args} {form : Form} {first second : String}
    (listed : field.name ∈ fields) (firstGiven : strip first ≠ "") (secondGiven : strip second ≠ "") :
    SameBut field.name (applyEdits (("arg_" ++ field.name, first) :: form) stored fields)
      (applyEdits (("arg_" ++ field.name, second) :: form) stored fields) where
  others key different := by
    rw [lookup_edited, lookup_edited, editOf_untyped different, editOf_untyped different]
  given := by
    have read : ∀ value, strip value ≠ "" →
        (applyEdits (("arg_" ++ field.name, value) :: form) stored fields).text field.name = .ok (strip value) := by
      intro value given
      have looked : (applyEdits (("arg_" ++ field.name, value) :: form) stored fields).lookup field.name =
          some (.str (strip value)) := by
        rw [lookup_applyEdits listed, editOf_typed, if_neg given]
      have truthy : (Value.str (strip value)).truthy = true := by simpa [Value.truthy] using given
      simp only [Args.text, Args.get, looked, Option.getD_some, truthy, if_true, strip_strip]
    exact ⟨strip first, strip second, read first firstGiven, read second secondGiven, firstGiven, secondGiven⟩

def PlanCard.masked (card : PlanCard) : PlanCard := { card with effectiveArgs := none }

def Rows.masked (rows : Rows) (cardId : Int) : Rows :=
  { rows with cards := rows.cards.modify cardId PlanCard.masked }

theorem masked_cards (tools : Tools) (cards : Table PlanCard) (id userId : Int) (first second : Decoded)
    (tier : CardTier) (result : ActionResult) :
    ((cards.modify id (approve tools userId first tier)).modify id (recordResult result)).modify id PlanCard.masked =
      ((cards.modify id (approve tools userId second tier)).modify id (recordResult result)).modify id
        PlanCard.masked := by
  simp only [Table.modify, List.map_map, Table.mk.injEq]
  refine List.map_congr_left fun card _ => ?_
  by_cases same : key card = id
  · have approved : ∀ args, key (approve tools userId args tier card) = id := fun args => same
    have recorded : ∀ args, key (recordResult result (approve tools userId args tier card)) = id := fun args => same
    simp only [Function.comp_apply, same, approved, recorded, if_true]
    rfl
  · simp only [Function.comp_apply, same, if_false]

theorem only_effectiveArgs (setting : Setting) (stores : Stores) (cid userId cardId : Int) (form : Form)
    {action : Action} (isAction : action ∈ actions) {field : Field} (has : field ∈ action.argsSchema)
    (secret : field.type = .secret) {first second : String} (firstGiven : strip first ≠ "")
    (secondGiven : strip second ≠ "") :
    (setting.serve stores cid userId (.single cardId (("arg_" ++ field.name, first) :: form))).rows.masked cardId =
      (setting.serve stores cid userId (.single cardId (("arg_" ++ field.name, second) :: form))).rows.masked
        cardId := by
  by_cases alike : ∀ card, ownCardOr404 stores.plans cid cardId userId = .ok card → card.status = .pending →
      Plans.decide setting.tools card (("arg_" ++ field.name, first) :: form) =
        Plans.decide setting.tools card (("arg_" ++ field.name, second) :: form)
  · rw [serve_congr alike]
  push Not at alike
  obtain ⟨card, own, pending, differ⟩ := alike
  rcases decide_typed isAction has secret with same | ⟨tool, stored, registered, listed, _, _, approved⟩
  · exact absurd same differ
  have known := List.mem_of_find?_eq_some registered
  have named : tool.name = card.tool := by simpa using List.find?_some registered
  have matched : (setting.runner card.tool (applyEdits (("arg_" ++ field.name, first) :: form) stored tool.fields)
      stores.world stores.sources).Matches
        (setting.runner card.tool (applyEdits (("arg_" ++ field.name, second) :: form) stored tool.fields)
          stores.world stores.sources) := by
    rw [← named]
    exact runner_matches known listed secret (edited_sameBut (List.mem_map_of_mem listed) firstGiven secondGiven)
  obtain ⟨db, sources, audit, reported⟩ := matched
  obtain rfl : card.id = cardId := ownCard_id own
  rw [serve_rows own pending (approved first), serve_rows own pending (approved second)]
  simp only [Rows.masked, db, sources, audit, reported, Rows.mk.injEq, and_true]
  exact masked_cards ..

theorem only_effectiveArgs_passwords :
    (plainSetting.serve oneCard 1 7 (confirmed.typing secretValue "hunter2")).rows.masked 1 =
      (plainSetting.serve oneCard 1 7 (confirmed.typing secretValue "hunter3")).rows.masked 1 :=
  have isCreate : createCredential ∈ actions :=
    List.mem_of_find?_eq_some (rfl : getAction "create_credential" = some createCredential)
  only_effectiveArgs plainSetting oneCard 1 7 1 [("confirmation", "db")] isCreate
    (by decide : secretValue ∈ createCredential.argsSchema) rfl (by decide) (by decide)

end Dosm.Agent
