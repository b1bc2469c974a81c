import Dosm.Python.JsonText
import Dosm.Agent.Registry

namespace Dosm.Chat

open Python

/-! The answers of the model server, and what the client reads from them.

An answer is any JSON document. Reading it looks keys up in mappings and goes
through lists, which other values do not allow.
-/

/-- `json.loads` of a text, absent where it is malformed, and the texts of values. -/
structure JsonTexts where
  loads : String → Option Json
  dumps : Json → String
  str : Json → String
  repr : Json → String

structure ToolCall where
  name : Json
  arguments : Json

structure ChatResponse where
  content : String
  toolCalls : List ToolCall
  rawMessage : Json

inductive ChatError where
  | unreachable (text : String)
  | ollama (text : String)
  | other (exn : Exn)

def decodeArguments (texts : JsonTexts) : Json → Json
  | .str text => (texts.loads text).getD (.object [])
  | value => value

/-- One entry of `tool_calls`; without a name it is dropped. -/
def readCall (texts : JsonTexts) (entry : Json) : Except Exn (Option ToolCall) := do
  let function := (← entry.get "function").orElse (.object [])
  let name := (← function.get "name").orElse (.str "")
  let arguments := decodeArguments texts ((← function.get "arguments").orElse (.object []))
  return if name.truthy then some { name, arguments } else none

def readResponse (texts : JsonTexts) (document : Json) : Except Exn ChatResponse := do
  let message := (← document.get "message").orElse (.object [])
  let content := (← message.get "content").orElse (.str "")
  let entries ← ((← message.get "tool_calls").orElse (.array [])).items
  let calls ← entries.mapM (readCall texts)
  return { content := texts.str content, toolCalls := calls.reduceOption, rawMessage := message }

/-- The document the server sends, or the exception of the request. -/
abbrev Answer := Except ChatError Json

def completeChat (texts : JsonTexts) (answer : Answer) : Except ChatError ChatResponse :=
  match answer with
  | .error error => .error error
  | .ok document => (readResponse texts document).mapError .other

end Dosm.Chat

namespace Dosm.Chat.Generation

open Models Python Agent

/-! One turn of the assistant: the model is asked, its calls are answered or put on
plan cards, and it is asked again with what its queries found.

What the queries find and what the model server answers are given from outside.
An exception that the turn does not handle discards it.
-/

def maxQueryRounds : Nat := 5

def queryNames : List String := [
  "list_hosts",
  "host_metrics",
  "query_monitoring",
  "cert_check",
  "list_pipelines",
  "list_pipeline_runs",
  "find_person",
  "list_credentials",
  "search_docs",
  "list_docs",
  "read_doc",
  "cli_help"]

structure QueryResult where
  ok : Bool
  summary : String
  data : Option String := none
  error : Option String := none

def QueryResult.toLlmText (result : QueryResult) : String :=
  if !result.ok then
    "ERROR: " ++ (result.error.filter fun error => error ≠ "").getD result.summary
  else result.data.getD result.summary

structure Entry where
  tool : Json
  args : Json
  ok : Bool
  summary : String
  dataPreview : Option String

structure PendingCard where
  tool : String
  args : Json
  tier : Plans.CardTier

inductive Event where
  | error (text : String)
  | queryCall (step : Nat) (tool args : Json)
  | queryResult (step : Nat) (entry : Entry)

/-- The queue ends at its sentinel `none`. -/
structure Turn where
  llmMessages : List Json
  finalContent : String := ""
  errorText : Option String := none
  thinkingTrace : List Entry := []
  pendingPlanCards : List PendingCard := []
  queue : List (Option Event) := []
  /-- On record: every response the client has returned. -/
  answered : List ChatResponse := []

structure Environment where
  texts : JsonTexts
  baseUrl : String
  model : String
  allowList : List String
  /-- The runner of the query that becomes the given step, or what it raises. -/
  runQuery : Nat → Except Exn QueryResult

namespace Turn

def put (turn : Turn) (event : Event) : Turn := { turn with queue := turn.queue ++ [some event] }

/-- What one call has come to, for the user and for the model. -/
def record (turn : Turn) (entry : Entry) (answer : String) : Turn :=
  { turn with
    thinkingTrace := turn.thinkingTrace ++ [entry]
    queue := turn.queue ++ [some (.queryResult turn.thinkingTrace.length entry)]
    llmMessages := turn.llmMessages ++ [.object [("role", .str "tool"), ("content", .str answer)]] }

def propose (turn : Turn) (card : PendingCard) : Turn :=
  { turn with pendingPlanCards := turn.pendingPlanCards ++ [card] }

def fail (turn : Turn) (text : String) : Turn := { turn.put (.error text) with errorText := some text }

end Turn

/-! One call. -/

def correction (host command : String) : String :=
  "Error: local_exec has no 'host' parameter - drop it. Re-examine what the user actually asked: " ++
  "(A) If they want DOSM to run a connectivity check TO '" ++ host ++ "' (e.g. 'ping " ++ host ++
  "', 'can you reach " ++ host ++ "'), call local_exec with only the command (no host argument). " ++
  "The command may reference '" ++ host ++
  "' by its real address - call list_hosts first if you need the hostname or IP. " ++
  "(B) If they want '" ++ host ++ "' itself to run the command (e.g. 'run df on " ++ host ++ "', 'from " ++
  host ++ " ping X'), use ssh_exec with host='" ++ host ++ "' and no local_exec at all. " ++
  "The original command was: " ++ Python.repr command ++ ". Choose (A) or (B) and retry."

/-- `(tc.arguments.get(name) or "").strip()`. -/
def argumentText (call : ToolCall) (name : String) : Except Exn String := do
  ((← call.arguments.get name).orElse (.str "")).strip

/-- The host and the command of a `local_exec` that names a host. -/
def confusedExec (call : ToolCall) : Except Exn (Option (String × String)) :=
  match call.name with
  | .str "local_exec" => do
      let host ← argumentText call "host"
      if host = "" then return none
      else return some (host, ← argumentText call "command")
  | _ => return none

def nudgeEntry (call : ToolCall) (host command : String) : Entry where
  tool := .str "local_exec"
  args := call.arguments
  ok := false
  summary := "local_exec called with host='" ++ host ++ "' - nudging LLM to self-correct"
  dataPreview := some (correction host command)

/-- Looking a name up in a registry, which lists and mappings do not allow. -/
def lookup {Spec : Type} (find : String → Option Spec) : Json → Except Exn (Option Spec)
  | .str name => .ok (find name)
  | .array _ => .error ⟨"TypeError", "unhashable type: 'list'"⟩
  | .object _ => .error ⟨"TypeError", "unhashable type: 'dict'"⟩
  | _ => .ok none

def getQuery (name : String) : Option String := queryNames.find? fun query => query = name

def queryEntry (call : ToolCall) : Except Exn QueryResult → Entry
  | .ok result => {
      tool := call.name
      args := call.arguments
      ok := result.ok
      summary := result.summary
      dataPreview := (result.data.filter fun data => data ≠ "").map (slice 0 1500) }
  | .error exn => { tool := call.name, args := call.arguments, ok := false, summary := exn.text, dataPreview := none }

def queryAnswer : Except Exn QueryResult → String
  | .ok result => result.toLlmText
  | .error exn => "ERROR: " ++ exn.text

def runQuery (env : Environment) (turn : Turn) (call : ToolCall) : Turn :=
  let step := turn.thinkingTrace.length
  let found := env.runQuery step
  (turn.put (.queryCall step call.name call.arguments)).record (queryEntry call found) (queryAnswer found)

/-- The arguments as `classify` gets them. -/
def classifiedArgs (texts : JsonTexts) : Json → Args
  | .object fields => fields.map fun (name, value) => (name, match value with
      | .null => .none
      | .bool value => .bool value
      | .int value => .int value
      | .float text truncated zero => .float text truncated zero
      | .str value => .str value
      | .array items => .container (texts.str (.array items)) false items.isEmpty
      | .object fields => .container (texts.str (.object fields)) true fields.isEmpty)
  | _ => []

def tierOf (env : Environment) (action : Agent.Action) (call : ToolCall) : Except Exn Plans.CardTier :=
  if action.name ∈ Plans.commandClassifyTools then do
    match ← call.arguments.get "command" (.str "") with
    | .str command => return classifyCommand env.allowList command
    | value => throw (value.noAttribute "strip")
  else return action.classify (classifiedArgs env.texts call.arguments)

def unknownSummary (env : Environment) (call : ToolCall) : String := "unknown tool " ++ env.texts.repr call.name

/-- Answer a call or put it on a card; whether an action was called. -/
def handleCall (env : Environment) (turn : Turn) (call : ToolCall) : Turn × Except Exn Bool :=
  match confusedExec call with
  | .error exn => (turn, .error exn)
  | .ok (some (host, command)) =>
      (turn.record (nudgeEntry call host command) (correction host command), .ok false)
  | .ok none =>
      match lookup getQuery call.name, lookup getAction call.name with
      | .error exn, _ | _, .error exn => (turn, .error exn)
      | .ok (some _), _ => (runQuery env turn call, .ok false)
      | .ok none, .ok (some action) =>
          match tierOf env action call with
          | .error exn => (turn, .error exn)
          | .ok tier => (turn.propose { tool := action.name, args := call.arguments, tier }, .ok true)
      | .ok none, .ok none =>
          let summary := unknownSummary env call
          (turn.record { tool := call.name, args := call.arguments, ok := false, summary, dataPreview := none }
            ("ERROR: " ++ summary), .ok false)

def handleCalls (env : Environment) : Turn → Bool → List ToolCall → Turn × Except Exn Bool
  | turn, called, [] => (turn, .ok called)
  | turn, called, call :: rest =>
      match handleCall env turn call with
      | (turn, .error exn) => (turn, .error exn)
      | (turn, .ok proposed) => handleCalls env turn (called || proposed) rest

/-! The rounds. -/

def errorText (env : Environment) : ChatError → String
  | .unreachable text => "Cannot reach Ollama at " ++ env.baseUrl ++ ". Is the server running?\n" ++ text
  | .ollama text => "Ollama error: " ++ text
  | .other exn => "Unexpected: " ++ exn.text

def Turn.answer (turn : Turn) (response : ChatResponse) : Turn :=
  { turn with finalContent := response.content, answered := turn.answered ++ [response] }

def Turn.remember (turn : Turn) (message : Json) : Turn :=
  { turn with llmMessages := turn.llmMessages ++ [message] }

/-- `left` is how many rounds may still answer calls. -/
def runRounds (env : Environment) (answers : Nat → Answer) : (left round : Nat) → Turn → Turn × Option Exn
  | left, round, turn =>
      match completeChat env.texts (answers round) with
      | .error error => (turn.fail (errorText env error), none)
      | .ok response =>
          let answered := turn.answer response
          match response.toolCalls, left with
          | [], _ | _, 0 => (answered, none)
          | calls, left + 1 =>
              match handleCalls env (answered.remember response.rawMessage) false calls with
              | (turn, .error exn) => (turn, some exn)
              | (turn, .ok true) => (turn, none)
              | (turn, .ok false) => runRounds env answers left (round + 1) turn

/-! What is stored and announced. -/

/-- The trace is stored as text; here the column is what the text encodes. -/
structure StoredMessage where
  id : Int
  conversationId : Int
  role : ChatRole
  content : String
  citations : String
  thinking : Option (List Entry)
  error : Option String
  ord : Int

instance : Keyed StoredMessage := ⟨StoredMessage.id⟩

structure ChatRow where
  id : Int
  tenantId : Int
  model : Option String

instance : Keyed ChatRow := ⟨ChatRow.id⟩

structure Tables where
  conversations : Table ChatRow
  messages : Table StoredMessage
  cards : Table Plans.PlanCard
  audit : List AuditLog

structure Start where
  convId : Int
  historyForLlm : List Json
  citationsPayload : List Json
  nextOrd : Int
  actorId : Int

def assistantRow (env : Environment) (start : Start) (turn : Turn) (id : Int) : StoredMessage where
  id
  conversationId := start.convId
  role := .assistant
  content := turn.finalContent
  citations := env.texts.dumps (.array start.citationsPayload)
  thinking := if turn.thinkingTrace.isEmpty then none else some turn.thinkingTrace
  error := turn.errorText
  ord := start.nextOrd

def cardRow (env : Environment) (start : Start) (messageId : Int) (card : PendingCard) (id : Int) : Plans.PlanCard where
  id
  conversationId := start.convId
  messageId := some messageId
  tool := card.tool
  args := env.texts.dumps card.args
  tier := card.tier

def auditRow (start : Start) (turn : Turn) (tenantId : Option Int) : AuditLog where
  tenantId
  actorId := start.actorId
  action := "chat.reply"
  target := "conversation:" ++ toString start.convId
  details := some ("citations=" ++ toString start.citationsPayload.length ++
    " plans=" ++ toString turn.pendingPlanCards.length ++
    (match turn.errorText with
      | some text => if text = "" then "" else " error=" ++ slice 0 80 text
      | none => ""))

def noteModel (model : String) (row : ChatRow) : ChatRow :=
  { row with model := some ((row.model.filter fun name => name ≠ "").getD model) }

def persist (env : Environment) (start : Start) (tables : Tables) (turn : Turn) : Tables where
  conversations := tables.conversations.modify start.convId (noteModel env.model)
  messages := tables.messages.insert (assistantRow env start turn)
  cards := turn.pendingPlanCards.foldl
    (fun cards card => cards.insert (cardRow env start tables.messages.fresh card)) tables.cards
  audit := tables.audit ++ [auditRow start turn ((tables.conversations.get start.convId).map ChatRow.tenantId)]

inductive FutureState where
  | pending
  | result (content : String) (error : Option String) (planCards : List PendingCard)
  | exception (exn : Exn)

structure Outcome where
  tables : Tables
  future : FutureState
  queue : List (Option Event)
  turn : Turn

def generateReply (env : Environment) (answers : Nat → Answer) (start : Start) (tables : Tables) : Outcome :=
  match runRounds env answers maxQueryRounds 0 { llmMessages := start.historyForLlm } with
  | (turn, some exn) => { tables, future := .exception exn, queue := turn.queue ++ [none], turn }
  | (turn, none) => {
      tables := persist env start tables turn
      future := .result turn.finalContent turn.errorText turn.pendingPlanCards
      queue := turn.queue ++ [none]
      turn }

end Dosm.Chat.Generation
