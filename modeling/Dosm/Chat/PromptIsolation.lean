import Dosm.Chat.Prompt
import Mathlib.Algebra.GroupWithZero.Nat

namespace Dosm.Chat.PromptIsolation

open Models Python Docs.Search Web Prompt Like

/-! What the prompt of one tenant's conversation depends on.

The host lookup is confined to the conversation's tenant. The documentation
search is not, so only a message that searches for nothing has a prompt that no
other tenant can influence.
-/

def ownsChunk (docs : IndexedDocs) (tenant : Int) (chunk : DocChunk) : Bool :=
  (docs.documents.get chunk.docId).any fun doc => doc.tenantId = tenant

/-- The same conversation, and the same rows of its tenant. -/
structure Agree (tenant cid : Int) (first second : ChatDb) : Prop where
  conversation : first.conversations.get cid = second.conversations.get cid
  messages : (first.messages.filter fun message => message.conversationId = cid) =
    second.messages.filter fun message => message.conversationId = cid
  hosts : (first.hosts.rows.filter fun host => host.tenantId = tenant) =
    second.hosts.rows.filter fun host => host.tenantId = tenant
  documents : (first.docs.documents.rows.filter fun doc => doc.tenantId = tenant) =
    second.docs.documents.rows.filter fun doc => doc.tenantId = tenant
  chunks : first.docs.chunks.filter (ownsChunk first.docs tenant) =
    second.docs.chunks.filter (ownsChunk second.docs tenant)

section Isolation

variable {Score : Type} {engine : Engine Score} {db first second : ChatDb} {caller : Caller}
  {username : String} {cid replyTo tenant : Int} {target : Target} {docs : IndexedDocs}
  {query : String} {limit : Nat} {excludeOrg : Bool} {tid : Option Int}

theorem latestMessages_congr
    (messages : (second.messages.filter fun message => message.conversationId = cid) =
      first.messages.filter fun message => message.conversationId = cid) :
    latestMessages second cid = latestMessages first cid := by
  simp only [latestMessages, messages]

theorem replyTarget_congr
    (conversation : second.conversations.get cid = first.conversations.get cid)
    (messages : (second.messages.filter fun message => message.conversationId = cid) =
      first.messages.filter fun message => message.conversationId = cid) :
    replyTarget second caller cid replyTo = replyTarget first caller cid replyTo := by
  have confined : getScoped second.conversations cid caller.tid =
      getScoped first.conversations cid caller.tid := by
    cases caller.tid with
    | none => exact conversation
    | some tenant => simp only [getScoped, Table.getOwned, conversation]
  simp only [replyTarget, getOwnedConversation, confined, latestMessages_congr messages]

def promptMessages (engine : Engine Score) (db : ChatDb) (caller : Caller) (username : String)
    (cid replyTo : Int) : Except Reply (List PromptMessage) :=
  (chatStream engine db caller username cid replyTo).map Prod.fst

theorem search_blank (blank : strip query = "") : search engine docs query limit excludeOrg tid = [] := by
  simp only [search, blank, if_true]

theorem scan_nil : engine.scan.order [] = [] := (engine.scan.perm []).eq_nil

theorem scan_singleton {row : DocChunk × Document} : engine.scan.order [row] = [row] :=
  List.perm_singleton.mp (engine.scan.perm [row])

theorem search_unembedded (asked : strip query ≠ "")
    (unembedded : ∀ row ∈ joined docs, row.1.embedding = none) :
    search engine docs query limit excludeOrg tid =
      likeSearch engine docs (strip query) limit excludeOrg tid := by
  have noRows : ((joined docs).filter fun row =>
      row.1.embedding.isSome && inScope excludeOrg tid row.2) = [] := by
    refine List.filter_eq_nil_iff.mpr fun row member => ?_
    simp [unembedded row member]
  simp only [search, asked, if_false]
  cases engine.embedder with
  | none => rfl
  | some embedder =>
      simp only [vectorSearch, noRows, scan_nil, if_true]
      cases embedder.embedQuery (strip query) with
      | none => rfl
      | some vector => rfl

/-- A document of some tenant whose only text is the query. -/
def echoDocs (tenant : Int) (query : String) : IndexedDocs where
  documents := Table.empty.insert fun id => {
    id, tenantId := tenant, relPath := "echo.md", sha256 := "", sizeBytes := 0, modifiedAt := 0
    indexedAt := none, status := .indexed, error := none, chunkCount := 1, title := none
    folderId := none, frontmatterTitle := none }
  chunks := [{ docId := 1, ord := 0, text := strip query, startChar := 0
               endChar := (strip query).length, embedding := none }]

theorem search_empty (asked : strip query ≠ "") : search engine {} query limit excludeOrg tid = [] := by
  rw [search_unembedded asked fun row member => absurd member List.not_mem_nil]
  have none : joined {} = [] := rfl
  simp only [likeSearch, none, List.filter_nil, scan_nil, List.take_nil, List.map_nil]

theorem search_echo (asked : strip query ≠ "") :
    ∃ hit, search engine (echoDocs tenant query) query 5 true none = [hit] := by
  have only : ∃ chunk doc, joined (echoDocs tenant query) = [(chunk, doc)] ∧ chunk.text = strip query ∧
      chunk.embedding = none ∧ doc.relPath = "echo.md" := ⟨_, _, rfl, rfl, rfl, rfl⟩
  obtain ⟨chunk, doc, rows, text, unembedded, path⟩ := only
  have confined : inScope true none doc = true := by
    have notOrg : like "echo.md" "org/%" = false := by decide
    simp [inScope, path, notOrg]
  rw [search_unembedded asked (by simp [rows, unembedded])]
  simp only [likeSearch, rows, List.filter_cons, text, like_containing, Bool.true_or, confined, Bool.true_and,
    if_true, List.filter_nil, scan_singleton]
  exact ⟨_, rfl⟩

theorem context_differs {citation : Citation Score} :
    composeContextBlock engine [] ≠ composeContextBlock engine [citation] := by
  have passage : ∃ text, composeContextBlock engine [citation] = "CONTEXT:" ++ "\n\n" ++ text := ⟨_, rfl⟩
  obtain ⟨text, passage⟩ := passage
  intro same
  rw [passage] at same
  have chars := congrArg String.toList same
  rw [composeContextBlock, if_pos List.isEmpty_nil, String.toList_append, String.toList_append, String.toList_append,
    List.append_assoc, String.toList_ofList, String.toList_ofList] at chars
  -- a parenthesis stands where the passages begin on a line of their own
  have tenth := congrArg (fun text => text[9]?) chars
  simp at tenth

theorem promptMessages_blank (accepted : replyTarget first caller cid replyTo = .ok target)
    (blank : strip target.triggering.content = "") (agree : Agree target.conv.tenantId cid first second) :
    promptMessages engine first caller username cid replyTo =
      promptMessages engine second caller username cid replyTo := by
  have again : replyTarget second caller cid replyTo = .ok target :=
    (replyTarget_congr agree.conversation.symm agree.messages.symm).trans accepted
  simp only [promptMessages, chatStream, accepted, again, retrieve, search_blank blank, mentionedHosts,
    agree.hosts]

/-- The conversation over given documents, with no hosts. -/
def holding (db : ChatDb) (docs : IndexedDocs) : ChatDb := { db with hosts := .empty, docs }

theorem agree_over_echo (foreign : tenant ≠ target.conv.tenantId) :
    Agree target.conv.tenantId cid (holding db {}) (holding db (echoDocs tenant query)) where
  conversation := rfl
  messages := rfl
  hosts := rfl
  documents := by simp [holding, echoDocs, Table.insert, Table.empty, foreign]
  chunks := by
    have found : ∃ doc, (echoDocs tenant query).documents.get 1 = some doc ∧ doc.tenantId = tenant :=
      ⟨_, rfl, rfl⟩
    obtain ⟨doc, found, owned⟩ := found
    have chunks : ∀ chunk ∈ (echoDocs tenant query).chunks, chunk.docId = 1 := by
      simp [echoDocs]
    refine (List.filter_eq_nil_iff.mpr fun chunk member => ?_).symm
    rw [ownsChunk, chunks chunk member]
    simp [holding, found, owned, foreign]

theorem promptMessages_echo (accepted : replyTarget db caller cid replyTo = .ok target)
    (asked : strip target.triggering.content ≠ "") :
    promptMessages engine (holding db {}) caller username cid replyTo ≠
      promptMessages engine (holding db (echoDocs tenant target.triggering.content)) caller username
        cid replyTo := by
  have echo : ∃ hit, search engine (echoDocs tenant target.triggering.content)
      target.triggering.content 5 true none = [hit] := search_echo asked
  obtain ⟨hit, found⟩ := echo
  have empty : replyTarget (holding db {}) caller cid replyTo = .ok target := accepted
  have echoed : replyTarget (holding db (echoDocs tenant target.triggering.content)) caller cid replyTo =
      .ok target := accepted
  intro same
  have noHits : search engine (holding db {}).docs target.triggering.content 5 true none = [] :=
    search_empty asked
  have oneHit : search engine (holding db (echoDocs tenant target.triggering.content)).docs
      target.triggering.content 5 true none = [hit] := found
  simp only [promptMessages, chatStream, empty, echoed, retrieve, noHits, oneHit, Except.map,
    Except.ok.injEq, List.cons.injEq, PromptMessage.mk.injEq, true_and, List.zipIdx_nil, List.map_nil] at same
  exact context_differs (String.append_right_inj _ |>.mp same.1)

/-- No other tenant's rows show in the prompt for a message. -/
def Isolated (engine : Engine Score) (caller : Caller) (username : String) (cid replyTo : Int)
    (target : Target) : Prop :=
  ∀ first second, replyTarget first caller cid replyTo = .ok target →
    Agree target.conv.tenantId cid first second →
    promptMessages engine first caller username cid replyTo =
      promptMessages engine second caller username cid replyTo

theorem prompt_isolated_iff (accepted : replyTarget db caller cid replyTo = .ok target) :
    Isolated engine caller username cid replyTo target ↔ strip target.triggering.content = "" := by
  constructor
  · intro isolated
    by_contra asked
    have foreign : target.conv.tenantId + 1 ≠ target.conv.tenantId := by omega
    have same := isolated (holding db {})
      (holding db (echoDocs (target.conv.tenantId + 1) target.triggering.content)) accepted
      (agree_over_echo foreign)
    exact promptMessages_echo accepted asked same
  · intro blank first second found agree
    exact promptMessages_blank found blank agree

end Isolation

/-! A conversation of tenant 1 about a full disk. -/

theorem rows_kept (rows : List (DocChunk × Document)) : (id rows).Perm rows := .refl _

def asciiEngine : Engine Nat where
  chars := asciiTables
  scan := { order := id, perm := rows_kept }
  ranking := {
    one := 1
    dot := fun stored query => (List.zipWith (fun first second => first.toNat * second.toNat) stored query).sum
    argsort := fun scores => (List.range scores.length).insertionSort fun first second =>
      scores.getD second 0 ≤ scores.getD first 0
    format := fun score => toString score ++ ".000" }
  embedder := none

def ann : Caller where
  tid := some 1
  userId := 4
  role := .operator

def question : String := "disk full"

def ask (content : String) : ChatDb where
  conversations := Table.empty.insert fun id => { id, tenantId := 1, userId := some 4 }
  messages := [{ id := 1, conversationId := 1, role := .user, content, ord := 0 }]

def asked (content : String) : Target where
  conv := { id := 1, tenantId := 1, userId := some 4 }
  messages := [{ id := 1, conversationId := 1, role := .user, content, ord := 0 }]
  triggering := { id := 1, conversationId := 1, role := .user, content, ord := 0 }

theorem ask_accepted {content : String} : replyTarget (ask content) ann 1 1 = .ok (asked content) := rfl

theorem prompt_isolated_iff_disk_full :
    ¬ Isolated asciiEngine ann "ann" 1 1 (asked question) ∧
      Isolated asciiEngine ann "ann" 1 1 (asked " ") := by
  constructor
  · rw [prompt_isolated_iff (@ask_accepted question)]
    decide
  · rw [prompt_isolated_iff (@ask_accepted " ")]
    decide

/-- The second database adds one document of tenant 2, and the prompt quotes it. -/
theorem foreign_passage_quoted :
    Agree 1 1 (holding (ask question) {}) (holding (ask question) (echoDocs 2 question)) ∧
      promptMessages asciiEngine (holding (ask question) {}) ann "ann" 1 1 ≠
        promptMessages asciiEngine (holding (ask question) (echoDocs 2 question)) ann "ann" 1 1 := by
  have foreign : (2 : Int) ≠ (asked question).conv.tenantId := by decide
  have nonblank : strip (asked question).triggering.content ≠ "" := by decide
  constructor
  · exact agree_over_echo foreign
  · have differs : promptMessages asciiEngine (holding (ask question) {}) ann "ann" 1 1 ≠
        promptMessages asciiEngine
          (holding (ask question) (echoDocs 2 (asked question).triggering.content)) ann "ann" 1 1 :=
      promptMessages_echo ask_accepted nonblank
    exact differs

end Dosm.Chat.PromptIsolation
