import Dosm.Docs.Search
import Dosm.Web
import Mathlib.Data.List.Sort

namespace Dosm.Chat.Prompt

open Models Python Docs.Search Web

/-! The messages `chat_stream` builds for the model: instructions, the hosts the
question names, the passages found for it, and the conversation so far.
-/

structure PromptMessage where
  role : String
  content : String
  deriving DecidableEq

structure Citation (Score : Type) where
  n : Nat
  relPath : String
  ord : Nat
  score : Score
  snippet : String
  deriving DecidableEq

structure ChatDb where
  conversations : Table Conversation := .empty
  messages : List ChatMessage := []
  hosts : Table Host := .empty
  docs : IndexedDocs := {}

def maxHistoryTurns : Nat := 12

/-! Tool calls of an older format, taken out of what the assistant said. -/

/-- What follows the block that is closed by a brace and the closing tag. -/
def closeBlock (closing : List Char) : List Char → Option (List Char)
  | [] => none
  | char :: rest =>
      let after := if char = '\x7d' then (rest.dropWhile isSpace).dropPrefix? closing else none
      after.or (closeBlock closing rest)

/-- What follows a block at the start of the text. -/
def blockAt (tag : String) (text : List Char) : Option (List Char) :=
  match text.dropPrefix? ("<" ++ tag ++ ">").toList with
  | none => none
  | some body =>
      match body.dropWhile isSpace with
      | '\x7b' :: rest => closeBlock ("</" ++ tag ++ ">").toList rest
      | _ => none

/-- `re.sub` of every block; `fuel` is the length of the text. -/
def replaceBlocks (tag : String) (replacement : Nat → String) : Nat → Nat → List Char → List Char
  | 0, _, text => text
  | _, _, [] => []
  | fuel + 1, count, char :: rest =>
      match blockAt tag (char :: rest) with
      | some after =>
          (replacement (count + 1)).toList ++ replaceBlocks tag replacement fuel (count + 1) after
      | none => char :: replaceBlocks tag replacement fuel count rest

def stripPlanBlocks (text : String) : String :=
  strip <| String.ofList <|
    replaceBlocks "plan" (fun count => "\n[plan #" ++ toString count ++ "]\n") text.length 0 text.toList

def stripQueryBlocks (text : String) : String :=
  strip (String.ofList (replaceBlocks "query" (fun _ => "") text.length 0 text.toList))

/-! The parts of the system message. -/

def agentInstructions : List String := [
    "You are DOSM, an AI operations assistant in AGENT mode.",
    "",
    "You have two categories of tools:",
    "1. READ-ONLY tools (list_hosts, host_metrics, search_docs, etc.) - call these freely.",
    "   They query the local database or lightweight APIs. They do NOT open connections.",
    "2. EXEC/MUTATING tools (ssh_exec, local_exec, create_host, etc.) - these create a",
    "   plan card that a human operator must approve before anything runs.",
    "",
    "Rules:",
    "1. Call a read-only tool first to verify names/state before proposing any exec or mutation.",
    "2. Use exact names from the inventory - call list_hosts if unsure of a host name.",
    "3. Read-only tool results are database records - they do NOT mean you are connected.",
    "4. State what you are proposing and why before calling a mutating tool.",
    "5. If you cannot answer or act safely, say so plainly.",
    "   IMPORTANT: Inventory host names (e.g. 'herupa') are labels - not DNS hostnames.",
    "   Before using a host address in any command, call list_hosts to get the real",
    "   hostname or IP, then use that value in the command (not the inventory label).",
    "",
    "6. Choosing where to execute - the key question is: WHO runs the command?",
    "   DOSM container is the executor to local_exec (has NO 'host' parameter). Use when:",
    "     - testing reachability FROM DOSM:  'ping herupa' to local_exec: ping -c 4 <herupa-addr>",
    "     - port checks FROM DOSM:  'is 5432 open on db?' to local_exec: nc -zv db 5432",
    "     - DOSM-side curl, dig, traceroute",
    "   A registered host is the executor to ssh_exec (Linux/SSH) or winrm_exec (Windows). Use when:",
    "     - running a command ON a host:  'df -h on herupa' to ssh_exec host=herupa: df -h",
    "     - the host is the subject:  'from herupa, ping the DB' to ssh_exec host=herupa",
    "     - checking services, processes, or files ON a host",
    "",
    "7. Jump chains are automatic in ssh_exec - always name the FINAL target host.",
    "   Never name a jump box as the host; the runner resolves the chain from the inventory.",
    "",
    "8. local_exec has NO 'host' parameter. Never pass host= to local_exec."]

def agentSystemPrompt (user : String) : String :=
  "\n".intercalate <| agentInstructions ++
    if user = "" then [] else ["9. The operator speaking with you is " ++ user ++ "."]

section Prompt

variable {Score : Type} (engine : Engine Score)

def retrieve (docs : IndexedDocs) (query : String) (limit : Nat) : List (Citation Score) :=
  (search engine docs query limit true none).zipIdx.map fun (hit, index) =>
    { n := index + 1, relPath := hit.relPath, ord := hit.ord, score := hit.score, snippet := hit.snippet }

def composeContextBlock (citations : List (Citation Score)) : String :=
  if citations.isEmpty then
    "CONTEXT:\n(no local documentation matched - answer from general knowledge, or ask the user " ++
      "for more detail.)"
  else
    let passages := citations.map fun citation =>
      "[" ++ toString citation.n ++ "] source: " ++ citation.relPath ++ " (chunk #" ++
        toString citation.ord ++ ", score " ++ engine.ranking.format citation.score ++ ")\n" ++
        citation.snippet
    "\n\n".intercalate ("CONTEXT:" :: passages)

/-- Of the conversation's tenant, whichever one is selected. -/
def mentionedHosts (hosts : Table Host) (tenant : Int) (query : String) : List Host :=
  let lowered := engine.chars.lowerText query
  (hosts.rows.filter fun host => host.tenantId = tenant).filter fun host =>
    (find (engine.chars.lowerText host.name) lowered 0).isSome

def hostContext (mentioned : List Host) : String :=
  if mentioned.isEmpty then ""
  else
    let lines := mentioned.map fun host =>
      "  " ++ host.name ++ ": address=" ++ host.hostname ++ ", port=" ++ toString host.port ++
        ", protocol=" ++ host.protocol.name
    "\n\nInventory hosts referenced in this request:\n" ++ "\n".intercalate lines ++ "\n" ++
      "Use ssh_exec when the request asks what happens ON the host (the host is the executor). " ++
      "Use winrm_exec for protocol=winrm hosts. " ++
      "Use local_exec (no host arg) when DOSM itself performs the operation " ++
      "- e.g. pinging or port-checking a host FROM DOSM. " ++
      "A single request can require both: e.g. 'ping herupa' (local_exec) " ++
      "AND 'from herupa ping 8.8.8.8' (ssh_exec) - generate both tool calls."

def historyTurn (message : ChatMessage) : Option PromptMessage :=
  match message.role with
  | .user => some { role := "user", content := message.content }
  | .assistant =>
      some { role := "assistant", content := stripPlanBlocks (stripQueryBlocks message.content) }
  | .system => none

/-! The reply. -/

def latestMessages (db : ChatDb) (cid : Int) : List ChatMessage :=
  (db.messages.filter fun message => message.conversationId = cid).insertionSort fun first second =>
    first.ord ≤ second.ord

def getOwnedConversation (db : ChatDb) (cid : Int) (caller : Caller) : Option Conversation :=
  (getScoped db.conversations cid caller.tid).filter fun conv => conv.userId = some caller.userId

structure Target where
  conv : Conversation
  messages : List ChatMessage
  triggering : ChatMessage

/-- The message to reply to, unless the request is refused. -/
def replyTarget (db : ChatDb) (caller : Caller) (cid replyTo : Int) : Except Reply Target :=
  match getOwnedConversation db cid caller with
  | none => .error notFound
  | some conv =>
      let messages := latestMessages db cid
      match messages.find? fun message => message.id = replyTo with
      | none => .error (.error 400 "reply_to must reference a user message in this conversation")
      | some triggering =>
          if triggering.role ≠ .user then
            .error (.error 400 "reply_to must reference a user message in this conversation")
          else if messages.any fun message => message.role = .assistant && message.ord > triggering.ord then
            .error (.error 409 "assistant already replied to this message")
          else .ok { conv, messages, triggering }

/-- The messages for the model and the citations shown to the user. -/
def chatStream (db : ChatDb) (caller : Caller) (username : String) (cid replyTo : Int) :
    Except Reply (List PromptMessage × List (Citation Score)) :=
  match replyTarget db caller cid replyTo with
  | .error reply => .error reply
  | .ok target =>
      let query := target.triggering.content
      let citations := retrieve engine db.docs query 5
      let prompt := agentSystemPrompt username ++
        hostContext (mentionedHosts engine db.hosts target.conv.tenantId query)
      let system :=
        { role := "system", content := prompt ++ "\n\n" ++ composeContextBlock engine citations }
      let recent := target.messages.drop (target.messages.length - maxHistoryTurns)
      .ok (system :: recent.filterMap historyTurn, citations)

end Prompt

end Dosm.Chat.Prompt
