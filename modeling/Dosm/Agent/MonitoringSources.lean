import Dosm.Monitoring.Sources

namespace Dosm.Agent

open Models Python Secrets Monitoring

/-! The agent's tools that write monitoring sources and their tokens. -/

structure RunnerAudit where
  tenantId : Option Int
  action : String
  target : String
  details : String
  deriving DecidableEq

structure SourcesRun where
  state : Sources
  reported : Except Raised ActionResult
  audit : List RunnerAudit := []

namespace SourcesRun

def refuse (state : Sources) (summary : String) : SourcesRun := { state, reported := .ok { ok := false, summary } }

def raise (state : Sources) (raised : Raised) : SourcesRun := { state, reported := .error raised }

def withText (state : Sources) (text : Except Raised String) (next : String → SourcesRun) : SourcesRun :=
  match text with
  | .ok text => next text
  | .error raised => raise state raised

end SourcesRun

/-- The two columns that name a token's place. -/
inductive TokenSlot where
  | token
  | token2

namespace TokenSlot

def leaf : TokenSlot → String
  | token => "token"
  | token2 => "token2"

def current (slot : TokenSlot) (source : MonitoringSource) : Option String :=
  match slot with
  | token => source.tokenSecret
  | token2 => source.token2Secret

def note (slot : TokenSlot) (path : String) (source : MonitoringSource) : MonitoringSource :=
  { source with
    tokenSecret := match slot with | token => some path | token2 => source.tokenSecret
    token2Secret := match slot with | token => source.token2Secret | token2 => some path }

end TokenSlot

/-- A token that is given goes where the row says, or to a new place that the row then
names. `failure` is what the secrets backend raises, when it does. -/
def putToken (failure : Option String) (slot : TokenSlot) (source : MonitoringSource) (token : String)
    (state : Sources) : Except String Sources :=
  if token = "" then .ok state
  else
    match failure with
    | some text => .error text
    | none =>
        let noted := (slot.current source).getD ""
        let path := if noted = "" then tokenPath source.id slot.leaf else noted
        .ok
          { sources :=
              if slot.current source = some path then state.sources
              else state.sources.modify source.id (slot.note path)
            secrets := state.secrets.insert path token }

def putTokens (failure : Option String) (source : MonitoringSource) (token token2 : String) (state : Sources) :
    Sources × Option String :=
  match putToken failure .token source token state with
  | .error text => (state, some text)
  | .ok first =>
      match putToken failure .token2 source token2 first with
      | .error text => (first, some text)
      | .ok second => (second, none)

def sourceAudit (tenantId : Int) (verb : String) (id : Int) (details : String) : RunnerAudit where
  tenantId := some tenantId
  action := "monitoring_source." ++ verb
  target := "source:" ++ toString id
  details

/-- The report once the tokens are put away, or one of them failed to be. -/
def reportTokens (stored : Sources × Option String) (failed : String) (done : ActionResult) (audit : List RunnerAudit) :
    SourcesRun where
  state := stored.1
  reported := .ok <|
    match stored.2 with
    | some text => { ok := false, summary := failed ++ text, stderr := text }
    | none => done
  audit

/-- A duplicate name fails the flush, and the commit that follows the early return
raises in turn. -/
def createMonitoringSourceRunner (state : Sources) (tid : Option Int) (args : Args) (failure : Option String) :
    SourcesRun :=
  match tid with
  | none => .refuse state "select an active tenant before creating a monitoring source"
  | some tenant =>
      .withText state (args.text "name") fun name =>
      .withText state (args.text "tool") fun tool =>
      .withText state (args.text "url") fun url =>
      if name = "" then .refuse state "name is required"
      else if tool = "" then .refuse state "tool is required"
      else if tool ∉ toolChoices then
        .refuse state ("unknown tool " ++ Python.repr tool ++
          "; valid: datadog, dynatrace, prometheus, servicenow")
      else if url = "" then .refuse state "url is required"
      else
        .withText state (args.text "username") fun username =>
        .withText state (args.text "token") fun token =>
        .withText state (args.text "token2") fun token2 =>
        if nameTaken state.sources tenant name none then .raise state .pendingRollback
        else
          let enabled := ((args.lookup "enabled").getD (.bool true)).truthy
          let row := fun id : Int =>
            { id, tenantId := tenant, name, tool, url, username := if username = "" then none else some username,
              tokenSecret := none, token2Secret := none, enabled : MonitoringSource }
          let id := state.sources.fresh
          let created := { state with sources := state.sources.insert row }
          reportTokens (putTokens failure (row id) token token2 created)
            ("Source row created (id=" ++ toString id ++ ") but secret write failed: ")
            { ok := true
              summary := "Created monitoring source " ++ Python.repr name ++ " (id=" ++ toString id ++ ")"
              extra := [("source_id", .int id), ("source", .str name)] }
            [sourceAudit tenant "create" id ("agent tool=" ++ tool)]

def ifPresent (args : Args) (name : String) (current : Option String) : Except Raised (Option String) :=
  if (args.lookup name).isSome then (args.text name).map some else .ok current

/-- The columns after an update; a tool that is none of the choices is refused. -/
def editedSource (args : Args) (source : MonitoringSource) : Except Raised (Except String MonitoringSource) := do
  let tool ← ifPresent args "tool" (some source.tool)
  if (args.lookup "tool").isSome ∧ tool.getD "" ∉ toolChoices then
    return .error ("unknown tool " ++ Python.repr (tool.getD ""))
  else
    let url ← ifPresent args "url" (some source.url)
    let username ← ifPresent args "username" source.username
    return .ok
      { source with
        tool := tool.getD ""
        url := url.getD ""
        username := if (args.lookup "username").isSome then username.filter (· ≠ "") else username
        enabled := ((args.lookup "enabled").map Value.truthy).getD source.enabled }

def columns (edited : MonitoringSource) (source : MonitoringSource) : MonitoringSource :=
  { source with tool := edited.tool, url := edited.url, username := edited.username, enabled := edited.enabled }

def updateMonitoringSourceRunner (state : Sources) (tid : Option Int) (args : Args) (failure : Option String) :
    SourcesRun :=
  .withText state (args.text "name") fun name =>
  if name = "" then .refuse state "name is required"
  else
    match scalarOneOrNone (state.sources.rows.filter fun row => inTenant tid row.tenantId && row.name = name) with
    | .error raised => .raise state raised
    | .ok none => .refuse state ("Monitoring source " ++ Python.repr name ++ " not found")
    | .ok (some source) =>
        match editedSource args source with
        | .error raised => .raise state raised
        | .ok (.error summary) => .refuse state summary
        | .ok (.ok edited) =>
            let updated := { state with sources := state.sources.modify source.id (columns edited) }
            let audit := [sourceAudit source.tenantId "update" source.id ("agent name=" ++ name)]
            match args.text "token", args.text "token2" with
            | .ok token, .ok token2 =>
                reportTokens (putTokens failure source token token2 updated) "Metadata updated but secret write failed: "
                  { ok := true
                    summary := "Updated monitoring source " ++ Python.repr name
                    extra := [("source", .str name)] }
                  audit
            | .error raised, _ | _, .error raised => { state := updated, reported := .error raised, audit }

/-! The rows do not tell which token was given. -/

def Alike (first second : String) : Prop := first = second ∨ (first ≠ "" ∧ second ≠ "")

section Tokens

variable {first second first2 second2 : String} {state other : Sources}

theorem putToken_alike (failure : Option String) (slot : TokenSlot) (source : MonitoringSource)
    (alike : Alike first second) (same : state.sources = other.sources) :
    (putToken failure slot source first state).map Sources.sources =
      (putToken failure slot source second other).map Sources.sources := by
  by_cases blank : first = ""
  · have both : second = "" := by
      rcases alike with rfl | ⟨given, _⟩
      · exact blank
      · exact absurd blank given
    simp [putToken, blank, both, Except.map, same]
  · have given : second ≠ "" := by
      rcases alike with rfl | ⟨_, given⟩
      · exact blank
      · exact given
    cases failure with
    | some text => simp [putToken, blank, given, Except.map]
    | none => simp [putToken, blank, given, Except.map, same]

theorem putTokens_alike (failure : Option String) (source : MonitoringSource) (alike : Alike first second)
    (alike2 : Alike first2 second2) (same : state.sources = other.sources) :
    (putTokens failure source first first2 state).1.sources =
        (putTokens failure source second second2 other).1.sources ∧
      (putTokens failure source first first2 state).2 = (putTokens failure source second second2 other).2 := by
  have stored := putToken_alike failure .token source alike same
  unfold putTokens
  cases one : putToken failure .token source first state with
  | error text =>
      cases two : putToken failure .token source second other with
      | ok later => simp [one, two, Except.map] at stored
      | error reason =>
          rw [one, two] at stored
          cases stored
          exact ⟨same, rfl⟩
  | ok after =>
      cases two : putToken failure .token source second other with
      | error reason => simp [one, two, Except.map] at stored
      | ok later =>
          rw [one, two] at stored
          have middle : after.sources = later.sources := Except.ok.inj stored
          have stored2 := putToken_alike failure .token2 source alike2 middle
          cases three : putToken failure .token2 source first2 after with
          | error text =>
              cases four : putToken failure .token2 source second2 later with
              | ok last => simp [three, four, Except.map] at stored2
              | error reason =>
                  rw [three, four] at stored2
                  cases stored2
                  simp only [three, four, middle, and_self]
          | ok done =>
              cases four : putToken failure .token2 source second2 later with
              | error reason => simp [three, four, Except.map] at stored2
              | ok last =>
                  rw [three, four] at stored2
                  have ended : done.sources = last.sources := Except.ok.inj stored2
                  simp only [three, four, ended, and_self]

end Tokens

structure SameBut (name : String) (first second : Args) : Prop where
  others : ∀ key, key ≠ name → first.lookup key = second.lookup key
  given : ∃ one other, first.text name = .ok one ∧ second.text name = .ok other ∧ one ≠ "" ∧ other ≠ ""

def AlikeText (first second : Except Raised String) : Prop :=
  first = second ∨ ∃ one other, first = .ok one ∧ second = .ok other ∧ one ≠ "" ∧ other ≠ ""

namespace SameBut

variable {name key : String} {first second : Args}

theorem text_eq (same : SameBut name first second) (different : key ≠ name) (default : String) :
    first.text key default = second.text key default := by
  unfold Args.text Args.get
  rw [same.others key different]

theorem text_alike (same : SameBut name first second) (key : String) :
    AlikeText (first.text key) (second.text key) := by
  by_cases isName : key = name
  · subst isName
    exact .inr same.given
  · exact .inl (same.text_eq isName "")

end SameBut

namespace SourcesRun

def Matches (one other : SourcesRun) : Prop :=
  one.state.sources = other.state.sources ∧ one.reported = other.reported ∧ one.audit = other.audit

theorem withText_matches {state : Sources} {first second : Except Raised String} {next other : String → SourcesRun}
    (alike : AlikeText first second) (onward : ∀ one two, Alike one two → Matches (next one) (other two)) :
    Matches (withText state first next) (withText state second other) := by
  rcases alike with rfl | ⟨one, two, rfl, rfl, given, otherGiven⟩
  · cases first with
    | error raised => exact ⟨rfl, rfl, rfl⟩
    | ok text => exact onward text text (.inl rfl)
  · exact onward one two (.inr ⟨given, otherGiven⟩)

theorem withText_same {state : Sources} {text : Except Raised String} {next other : String → SourcesRun}
    (onward : ∀ one, Matches (next one) (other one)) :
    Matches (withText state text next) (withText state text other) := by
  cases text with
  | error raised => exact ⟨rfl, rfl, rfl⟩
  | ok text => exact onward text

end SourcesRun

theorem reportTokens_matches {stored other : Sources × Option String} {failed : String} {done : ActionResult}
    {audit : List RunnerAudit} (same : stored.1.sources = other.1.sources ∧ stored.2 = other.2) :
    (reportTokens stored failed done audit).Matches (reportTokens other failed done audit) :=
  ⟨same.1, by simp only [reportTokens, same.2], rfl⟩

section Runners

variable {name : String} {first second : Args}

theorem createMonitoringSourceRunner_matches (state : Sources) (tid : Option Int) (failure : Option String)
    (same : SameBut name first second) (isToken : name = "token" ∨ name = "token2") :
    (createMonitoringSourceRunner state tid first failure).Matches
      (createMonitoringSourceRunner state tid second failure) := by
  have other : ∀ key ∈ ["name", "tool", "url", "username", "enabled"], key ≠ name := by
    rcases isToken with rfl | rfl <;> decide
  have texts : ∀ key ∈ ["name", "tool", "url", "username", "enabled"], first.text key = second.text key :=
    fun key listed => same.text_eq (other key listed) ""
  unfold createMonitoringSourceRunner
  cases tid with
  | none => exact ⟨rfl, rfl, rfl⟩
  | some tenant =>
      simp only [texts "name" (by decide), texts "tool" (by decide), texts "url" (by decide),
        texts "username" (by decide), same.others "enabled" (other _ (by decide))]
      refine SourcesRun.withText_same fun sourceName => ?_
      refine SourcesRun.withText_same fun tool => ?_
      refine SourcesRun.withText_same fun url => ?_
      by_cases unnamed : sourceName = ""
      · simp only [unnamed, if_true]
        exact ⟨rfl, rfl, rfl⟩
      by_cases noTool : tool = ""
      · simp only [unnamed, noTool, if_true, if_false]
        exact ⟨rfl, rfl, rfl⟩
      by_cases unknown : tool ∉ toolChoices
      · simp only [unnamed, noTool, unknown, not_false_eq_true, if_true, if_false]
        exact ⟨rfl, rfl, rfl⟩
      by_cases noUrl : url = ""
      · simp only [unnamed, noTool, unknown, noUrl, if_true, if_false]
        exact ⟨rfl, rfl, rfl⟩
      simp only [unnamed, noTool, unknown, noUrl, if_false]
      refine SourcesRun.withText_same fun username => ?_
      refine SourcesRun.withText_matches (same.text_alike "token") fun token otherToken alike => ?_
      refine SourcesRun.withText_matches (same.text_alike "token2") fun token2 otherToken2 alike2 => ?_
      by_cases taken : nameTaken state.sources tenant sourceName none = true
      · rw [if_pos taken, if_pos taken]
        exact ⟨rfl, rfl, rfl⟩
      rw [if_neg taken, if_neg taken]
      exact reportTokens_matches (putTokens_alike failure _ alike alike2 rfl)

theorem editedSource_eq (same : SameBut name first second)
    (other : ∀ key ∈ ["tool", "url", "username", "enabled"], key ≠ name) :
    editedSource first = editedSource second := by
  have texts : ∀ key ∈ ["tool", "url", "username", "enabled"], first.text key = second.text key :=
    fun key listed => same.text_eq (other key listed) ""
  have lookups : ∀ key ∈ ["tool", "url", "username", "enabled"], first.lookup key = second.lookup key :=
    fun key listed => same.others key (other key listed)
  funext source
  simp only [editedSource, ifPresent, texts "tool" (by decide), texts "url" (by decide), texts "username" (by decide),
    lookups "tool" (by decide), lookups "url" (by decide), lookups "username" (by decide),
    lookups "enabled" (by decide)]

theorem updateMonitoringSourceRunner_matches (state : Sources) (tid : Option Int) (failure : Option String)
    (same : SameBut name first second) (isToken : name = "token" ∨ name = "token2") :
    (updateMonitoringSourceRunner state tid first failure).Matches
      (updateMonitoringSourceRunner state tid second failure) := by
  have other : ∀ key ∈ ["tool", "url", "username", "enabled"], key ≠ name := by
    rcases isToken with rfl | rfl <;> decide
  have notName : "name" ≠ name := by
    rcases isToken with rfl | rfl <;> decide
  unfold updateMonitoringSourceRunner
  rw [same.text_eq notName, editedSource_eq same other]
  refine SourcesRun.withText_same fun sourceName => ?_
  by_cases unnamed : sourceName = ""
  · simp only [unnamed, if_true]
    exact ⟨rfl, rfl, rfl⟩
  simp only [unnamed, if_false]
  split
  · exact ⟨rfl, rfl, rfl⟩
  · exact ⟨rfl, rfl, rfl⟩
  · rename_i source found
    cases edited : editedSource second source with
    | error raised => exact ⟨rfl, rfl, rfl⟩
    | ok result =>
        cases result with
        | error summary => exact ⟨rfl, rfl, rfl⟩
        | ok columnsNow =>
            simp only
            rcases same.text_alike "token" with token | ⟨token, otherToken, tokenRead, otherRead, given, otherGiven⟩
            · rcases same.text_alike "token2" with
                token2 | ⟨token2, otherToken2, token2Read, other2Read, given2, other2Given⟩
              · rw [token, token2]
                split
                · exact reportTokens_matches (putTokens_alike failure source (.inl rfl) (.inl rfl) rfl)
                · exact ⟨rfl, rfl, rfl⟩
                · exact ⟨rfl, rfl, rfl⟩
              · rw [token, token2Read, other2Read]
                cases second.text "token" with
                | error raised => exact ⟨rfl, rfl, rfl⟩
                | ok text =>
                    exact reportTokens_matches (putTokens_alike failure source (.inl rfl) (.inr ⟨given2, other2Given⟩) rfl)
            · rw [tokenRead, otherRead]
              rcases same.text_alike "token2" with
                token2 | ⟨token2, otherToken2, token2Read, other2Read, given2, other2Given⟩
              · rw [token2]
                cases second.text "token2" with
                | error raised => exact ⟨rfl, rfl, rfl⟩
                | ok text =>
                    exact reportTokens_matches (putTokens_alike failure source (.inr ⟨given, otherGiven⟩) (.inl rfl) rfl)
              · rw [token2Read, other2Read]
                exact reportTokens_matches
                  (putTokens_alike failure source (.inr ⟨given, otherGiven⟩) (.inr ⟨given2, other2Given⟩) rfl)

end Runners

end Dosm.Agent
