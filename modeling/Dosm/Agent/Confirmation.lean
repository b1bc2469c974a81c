import Dosm.Agent.SshExec

namespace Dosm.Agent

open Models Python Plans

/-! Typed confirmation of elevated actions.

The page asks for the value the card stores. The code compares what was typed with
the value after the form's edits, asks nothing where a tool has no field to confirm,
and `ssh_exec` may find its host by an id that nobody was shown.
-/

/-- How a card came to run: by its own form, or with its message's safe cards. -/
inductive Approval where
  | single (form : Form)
  | group (messageId : Int)

/-- The fields a request sends; a group approval sends none of a card's. -/
def Approval.form : Approval → Form
  | .single form => form
  | .group _ => []

/-- The arguments a pending card's runner is invoked with. -/
def invokedWith (tools : Tools) (card : PlanCard) : Approval → Option Args
  | .single form =>
      if card.status = .pending then
        match decide tools card form with
        | .approve args _ => some args
        | _ => none
      else none
  | .group messageId =>
      if pendingSafe card.conversationId messageId card && known tools card.tool then
        match tools.loads card.args with
        | .mapping args => some args
        | .other _ => none
      else none

def tierOf (tools : Tools) (tool : String) (args : Args) : Except Raised CardTier :=
  if tool ∈ commandClassifyTools then tools.classifyCommand ((args.lookup "command").getD (.str ""))
  else
    match tools.getAction tool with
    | none => .ok .elevated
    | some spec => spec.classify args

def confirmation (form : Form) : String := strip ((form.lookup "confirmation").getD "")

def displayed (tools : Tools) (card : PlanCard) : String :=
  match tools.getAction card.tool, tools.loads card.args with
  | some spec, .mapping stored =>
      match spec.elevatedConfirmField with
      | some field => tools.str ((stored.lookup field).getD (.str ""))
      | none => card.tool
  | _, _ => ""

def editOf (form : Form) (field : String) : String := strip ((form.lookup ("arg_" ++ field)).getD "")

def confirmField (tools : Tools) (tool : String) : Option String :=
  (tools.getAction tool).bind ActionSpec.elevatedConfirmField

section Object

variable (conversions : Conversions) (db : Database) (tid : Option Int)

/-- The name or path a runner changes, or of the host it is to run on, as it reads
them from the arguments. -/
def objectOf (tools : Tools) (tool : String) (args : Args) : Option String :=
  if tool = "ssh_exec" then (sshExecHost conversions db tid args).map Host.name
  else
    match confirmField tools tool with
    | none => none
    | some field => (args.text field).toOption.filter (· ≠ "")

variable (allowList : List String)

/-- A runner is invoked on a safe tier only, or after the text the page showed for
its object was typed. -/
def Guarded (card : PlanCard) (approval : Approval) : Prop :=
  let tools := agentTools conversions allowList
  ∀ args, invokedWith tools card approval = some args → tierOf tools card.tool args = .ok .safe ∨
    ∃ text, text ≠ "" ∧ confirmation approval.form = text ∧ displayed tools card = text ∧
      ∀ object, objectOf conversions db tid tools card.tool args = some object → object = text

/-- A tier above safe comes from a single approval only; with a field to confirm,
that field is shown with something in it and not edited to something else, and an
`ssh_exec` settles on the host of that name; without one, the tool was typed. -/
def Confirmable (card : PlanCard) (approval : Approval) : Prop :=
  let tools := agentTools conversions allowList
  ∀ args, invokedWith tools card approval = some args → tierOf tools card.tool args ≠ .ok .safe →
    ∃ form, approval = .single form ∧
      match confirmField tools card.tool with
      | none => confirmation form = card.tool
      | some field =>
          displayed tools card ≠ "" ∧ (editOf form field = "" ∨ editOf form field = displayed tools card) ∧
            (card.tool = "ssh_exec" → ∀ host, sshExecHost conversions db tid args = some host →
              host.name = displayed tools card)

end Object

section Edits

variable {form : Form} {stored args : Args} {fields : List String} {field other : String}

theorem lookup_cons {key : String} {value : Value} :
    List.lookup field ((key, value) :: args) = if field = key then some value else args.lookup field := by
  by_cases same : field = key
  · simp [same]
  · have distinct : (field == key) = false := by simpa using same
    rw [List.lookup_cons, distinct, if_neg same]

theorem lookup_overwritten {value : Value} :
    List.lookup field (args.map fun entry => if entry.1 = other then (other, value) else entry) =
      if field = other ∧ (args.lookup other).isSome then some value else args.lookup field := by
  induction args with
  | nil => simp
  | cons entry rest ih =>
      obtain ⟨key, old⟩ := entry
      rw [List.map_cons, lookup_cons, lookup_cons]
      by_cases here : key = other
      · subst here
        rw [if_pos rfl, lookup_cons, ih]
        by_cases same : field = key
        · simp [same]
        · simp [same]
      · rw [if_neg here, lookup_cons, ih, if_neg (Ne.symm here)]
        by_cases same : field = key
        · subst same
          simp [here]
        · simp [same]

def editField (form : Form) (args : Args) (field : String) : Args :=
  if editOf form field = "" then args
  else if (args.lookup field).isSome then
    args.map fun entry => if entry.1 = field then (field, .str (editOf form field)) else entry
  else args ++ [(field, .str (editOf form field))]

theorem lookup_editField : (editField form args other).lookup field =
    if field = other ∧ editOf form other ≠ "" then some (.str (editOf form other))
    else args.lookup field := by
  unfold editField
  by_cases blank : editOf form other = ""
  · simp [blank]
  · rw [if_neg blank]
    split
    · rename_i present
      rw [lookup_overwritten]
      simp [present, blank]
    · rename_i absent
      rw [List.lookup_append, lookup_cons, List.lookup_nil]
      by_cases same : field = other
      · subst same
        simp only [Bool.not_eq_true, Option.isSome_eq_false_iff, Option.isNone_iff_eq_none] at absent
        simp [absent, blank]
      · simp [same]

theorem lookup_edited : (applyEdits form stored fields).lookup field =
    if field ∈ fields ∧ editOf form field ≠ "" then some (.str (editOf form field))
    else stored.lookup field := by
  have folded : ∀ args : Args, (fields.foldl (editField form) args).lookup field =
      if field ∈ fields ∧ editOf form field ≠ "" then some (.str (editOf form field))
      else args.lookup field := by
    induction fields with
    | nil => simp
    | cons other rest ih =>
        intro args
        rw [List.foldl_cons, ih, lookup_editField]
        by_cases same : field = other
        · subst same
          by_cases blank : editOf form field = "" <;> simp [blank]
        · simp [same]
  exact folded stored

theorem lookup_applyEdits (listed : field ∈ fields) :
    (applyEdits form stored fields).lookup field =
      if editOf form field = "" then stored.lookup field else some (.str (editOf form field)) := by
  rw [lookup_edited]
  by_cases blank : editOf form field = ""
  · simp [blank]
  · simp [blank, listed]

end Edits

section Decide

variable {tools : Tools} {card : PlanCard} {form : Form} {args : Args} {tier : CardTier}

theorem decide_approve (approved : decide tools card form = .approve args tier) :
    ∃ spec stored, tools.getAction card.tool = some spec ∧ tools.loads card.args = .mapping stored ∧
      args = applyEdits form stored spec.argsSchema ∧ tierOf tools card.tool args = .ok tier ∧
      (tier = .elevated → ∀ field ∈ spec.elevatedConfirmField, field ≠ "" →
        confirmation form = tools.str ((args.lookup field).getD (.str ""))) := by
  unfold Plans.decide at approved
  cases known : tools.getAction card.tool with
  | none => simp [known] at approved
  | some spec =>
      cases loaded : tools.loads card.args with
      | other text => simp [known, loaded] at approved
      | mapping stored =>
          have classified : tierOf tools card.tool (applyEdits form stored spec.argsSchema) =
              if card.tool ∈ commandClassifyTools then tools.classifyCommand
                (((applyEdits form stored spec.argsSchema).lookup "command").getD (.str ""))
              else spec.classify (applyEdits form stored spec.argsSchema) := by
            simp only [tierOf, known]
          simp only [known, loaded] at approved
          rw [← classified] at approved
          cases given : tierOf tools card.tool (applyEdits form stored spec.argsSchema) with
          | error raised => simp [given] at approved
          | ok found =>
              simp only [given] at approved
              split at approved
              · cases approved
              · rename_i confirmed
                cases approved
                refine ⟨spec, stored, rfl, rfl, rfl, given, ?_⟩
                intro isElevated field listed named
                have typed : ¬ spec.elevatedConfirmField.any _ := fun unconfirmed =>
                  confirmed ⟨isElevated, unconfirmed⟩
                rw [Option.mem_def.mp listed, Option.any_some] at typed
                simpa [confirmation, named] using typed

theorem decide_approves {spec : ActionSpec} {stored : Args} (known : tools.getAction card.tool = some spec)
    (loaded : tools.loads card.args = .mapping stored)
    (classified : tierOf tools card.tool (applyEdits form stored spec.argsSchema) = .ok tier)
    (typed : ∀ field ∈ spec.elevatedConfirmField, confirmation form =
      tools.str (((applyEdits form stored spec.argsSchema).lookup field).getD (.str ""))) :
    Plans.decide tools card form = .approve (applyEdits form stored spec.argsSchema) tier := by
  have confirmed : ¬ (tier = .elevated ∧ (spec.elevatedConfirmField.any fun field =>
      field ≠ "" && strip ((form.lookup "confirmation").getD "") ≠
        tools.str (((applyEdits form stored spec.argsSchema).lookup field).getD (.str ""))) = true) := by
    rintro ⟨_, unconfirmed⟩
    rw [Option.any_eq_true] at unconfirmed
    obtain ⟨field, asked, differs⟩ := unconfirmed
    have same := typed field asked
    rw [confirmation] at same
    simp [same] at differs
  simp only [tierOf, known] at classified
  simp only [Plans.decide, known, loaded, classified]
  rw [if_neg confirmed]

theorem invokedWith_single (invoked : invokedWith tools card (.single form) = some args) :
    ∃ spec stored, tools.getAction card.tool = some spec ∧ tools.loads card.args = .mapping stored ∧
      args = applyEdits form stored spec.argsSchema ∧
      (tierOf tools card.tool args ≠ .ok .safe → ∀ field ∈ spec.elevatedConfirmField, field ≠ "" →
        confirmation form = tools.str ((args.lookup field).getD (.str ""))) := by
  simp only [invokedWith] at invoked
  split at invoked
  · split at invoked
    · rename_i given tier approved
      cases invoked
      obtain ⟨spec, stored, known, loaded, edited, classified, typed⟩ := decide_approve approved
      refine ⟨spec, stored, known, loaded, edited, ?_⟩
      intro above
      refine typed ?_
      cases tier with
      | safe => exact absurd classified above
      | elevated => rfl
    · cases invoked
  · cases invoked

end Decide

section Guarded

variable {conversions : Conversions} {db : Database} {tid : Option Int} {allowList : List String} {card : PlanCard}
  {approval : Approval} {form : Form} {args : Args} {field : String}

theorem agentTools_known {spec : ActionSpec}
    (known : (agentTools conversions allowList).getAction card.tool = some spec) :
    ∃ action ∈ actions, action.name = card.tool ∧ spec = action.spec := by
  obtain ⟨action, found, rfl⟩ := Option.map_eq_some_iff.mp known
  exact ⟨action, List.mem_of_find?_eq_some found, by simpa using List.find?_some found, rfl⟩

theorem named_eq_typed {object typed : String} (read : args.text field = .ok object) (given : object ≠ "")
    (same : strip typed = conversions.str ((args.lookup field).getD (.str ""))) :
    object = strip typed := by
  unfold Args.text Args.get at read
  cases found : args.lookup field with
  | none =>
      simp only [found, Option.getD_none, Value.truthy, Bool.false_eq_true, if_false] at read
      cases read
      exact absurd (by decide) given
  | some value =>
      rw [found, Option.getD_some] at same
      simp only [found, Option.getD_some] at read
      split at read
      · cases value with
        | str text =>
            cases read
            rw [conversions.str_text] at same
            rw [← same, strip_strip]
        | none | bool _ | int _ | float _ _ _ | container _ _ _ => cases read
      · cases read
        exact absurd (by decide) given

/-- What was typed is the edit of the field to confirm, or what the page showed. -/
theorem typed_single
    (invoked : invokedWith (agentTools conversions allowList) card (.single form) = some args)
    (above : tierOf (agentTools conversions allowList) card.tool args ≠ .ok .safe) :
    card.tool ≠ "" ∧ match confirmField (agentTools conversions allowList) card.tool with
    | none => displayed (agentTools conversions allowList) card = card.tool ∧ card.tool ≠ "ssh_exec"
    | some field =>
        confirmation form = conversions.str ((args.lookup field).getD (.str "")) ∧
        confirmation form = if editOf form field = "" then
          displayed (agentTools conversions allowList) card else editOf form field := by
  obtain ⟨spec, stored, known, loaded, edited, confirmed⟩ := invokedWith_single invoked
  obtain ⟨action, listed, named, rfl⟩ := agentTools_known known
  have actual : card.tool ≠ "" ∧ (action.elevatedConfirmField = none → card.tool ≠ "ssh_exec") := by
    have all : ∀ action ∈ actions, action.name ≠ "" ∧
        (action.elevatedConfirmField = none → action.name ≠ "ssh_exec") := by decide
    rw [← named]
    exact all action listed
  refine ⟨actual.1, ?_⟩
  have asked : confirmField (agentTools conversions allowList) card.tool = action.elevatedConfirmField := by
    rw [confirmField, known]
    rfl
  have shown : displayed (agentTools conversions allowList) card =
      match action.elevatedConfirmField with
      | some field => conversions.str ((stored.lookup field).getD (.str ""))
      | none => card.tool := by
    simp only [displayed, known, loaded]
    rfl
  rw [asked, shown]
  cases found : action.elevatedConfirmField with
  | none => exact ⟨rfl, actual.2 found⟩
  | some field =>
      obtain ⟨nonempty, inForm⟩ := (confirm_fields action listed).1 field found
      have typed := confirmed above field found nonempty
      refine ⟨typed, ?_⟩
      have value : args.lookup field = if editOf form field = "" then stored.lookup field
          else some (.str (editOf form field)) := by
        rw [edited]
        exact lookup_applyEdits inForm
      rw [typed, value]
      change conversions.str _ = _
      split
      · rfl
      · exact conversions.str_text _

/-- Exactly when elevated actions run after a proper confirmation only. -/
theorem elevated_confirmed_iff (conversions : Conversions) (db : Database) (tid : Option Int)
    (allowList : List String) (card : PlanCard) (approval : Approval) :
    Guarded conversions db tid allowList card approval ↔
      Confirmable conversions db tid allowList card approval := by
  constructor
  · intro guarded args invoked above
    rcases guarded args invoked with safe | ⟨text, given, typed, shown, identified⟩
    · exact absurd safe above
    cases approval with
    | group messageId => exact absurd typed.symm given
    | single form =>
        refine ⟨form, rfl, ?_⟩
        have facts := (typed_single invoked above).2
        cases asked : confirmField (agentTools conversions allowList) card.tool with
        | none =>
            simp only [asked] at facts
            exact typed.trans (shown.symm.trans facts.1)
        | some field =>
            simp only [asked] at facts
            refine ⟨shown ▸ given, ?_, ?_⟩
            · by_cases blank : editOf form field = ""
              · exact .inl blank
              · rw [if_neg blank] at facts
                exact .inr (facts.2.symm.trans (typed.trans shown.symm))
            · intro isSsh host connects
              rw [shown]
              exact identified host.name (by rw [objectOf, if_pos isSsh, connects, Option.map_some])
  · intro confirmable args invoked
    by_cases safe : tierOf (agentTools conversions allowList) card.tool args = .ok .safe
    · exact .inl safe
    right
    obtain ⟨form, rfl, confirmed⟩ := confirmable args invoked safe
    obtain ⟨named, facts⟩ := typed_single invoked safe
    cases asked : confirmField (agentTools conversions allowList) card.tool with
    | none =>
        simp only [asked] at facts confirmed
        refine ⟨card.tool, named, confirmed, facts.1, ?_⟩
        intro object acts
        rw [objectOf, if_neg facts.2, asked] at acts
        cases acts
    | some field =>
        simp only [asked] at facts confirmed
        obtain ⟨given, kept, connects⟩ := confirmed
        have typed : confirmation form = displayed (agentTools conversions allowList) card := by
          rw [facts.2]
          rcases kept with blank | same
          · rw [if_pos blank]
          · rw [same, ite_self]
        refine ⟨_, given, typed, rfl, ?_⟩
        intro object acts
        by_cases isSsh : card.tool = "ssh_exec"
        · rw [objectOf, if_pos isSsh] at acts
          obtain ⟨host, found, rfl⟩ := Option.map_eq_some_iff.mp acts
          exact connects isSsh host found
        · rw [objectOf, if_neg isSsh, asked] at acts
          obtain ⟨read, nonempty⟩ := Option.filter_eq_some_iff.mp acts
          have text : args.text field = .ok object := by
            cases given : args.text field with
            | error raised => simp [given, Except.toOption] at read
            | ok name => simpa [given, Except.toOption] using read
          rw [← typed]
          exact named_eq_typed text (by simpa using nonempty) facts.1

end Guarded

def jsonText : Value → String
  | .none => "None"
  | .bool value => if value then "True" else "False"
  | .int value => toString value
  | .float text _ _ => text
  | .str text => text
  | .container text _ _ => text

def rebootCard : PlanCard where
  id := 1
  conversationId := 1
  messageId := some 1
  tool := "ssh_exec"
  args := "\x7b\"host_id\": 1, \"command\": \"reboot\"\x7d"
  tier := .elevated

def rebootArgs : Args := [("host_id", .int 1), ("command", .str "reboot")]

def rebootConversions : Conversions where
  loads text := if text = rebootCard.args then .mapping rebootArgs else .other text
  dumps _ := rebootCard.args
  str := jsonText
  isFloat _ := true
  str_text _ := rfl

def oneHost : Database where
  hosts := Table.empty.insert fun id => {
    id, tenantId := 1, name := "prod-db", hostname := "10.0.0.9", port := 22, protocol := .ssh
    description := none, credentialId := none, jumpHostId := none, isJumpbox := false
    ftMethod := none, ftPort := none, ftCredentialId := none, orgUnitId := none }

/-- Approved with an empty form, it settles on a host nobody was asked about. -/
theorem reboot_unconfirmed :
    invokedWith (agentTools rebootConversions defaultAllowList) rebootCard (.single []) = some rebootArgs ∧
      tierOf (agentTools rebootConversions defaultAllowList) "ssh_exec" rebootArgs = .ok .elevated ∧
      (sshExecHost rebootConversions oneHost (some 1) rebootArgs).map Host.name =
        some "prod-db" ∧
      ¬ Guarded rebootConversions oneHost (some 1) defaultAllowList rebootCard
        (.single []) := by
  have invoked : invokedWith (agentTools rebootConversions defaultAllowList) rebootCard (.single []) =
      some rebootArgs := by decide
  have above : tierOf (agentTools rebootConversions defaultAllowList) "ssh_exec" rebootArgs =
      .ok .elevated := by decide
  refine ⟨invoked, above, by decide, ?_⟩
  intro guarded
  rcases guarded rebootArgs invoked with safe | ⟨text, given, typed, _⟩
  · cases above.symm.trans safe
  · exact given (typed.symm.trans (by decide))

end Dosm.Agent
