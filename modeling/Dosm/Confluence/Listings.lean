import Dosm.Base.Paging
import Dosm.Confluence.Reconcile

namespace Dosm.Confluence.Client

/-! The listings of a space that the client reads from the server. -/

/-- An entry of an answer, with the fields that the client reads. -/
structure Content where
  id : String
  title : Option String
  version : Option String
  download : Option String
  mediaType : Option String
  deriving DecidableEq

structure Response where
  results : List Content
  /-- The `base` of the answer's links. -/
  base : Option String

structure PageMeta where
  id : String
  title : String
  version : String
  deriving DecidableEq

structure AttachMeta where
  id : String
  filename : String
  version : String
  downloadUrl : String
  mediaType : Option String
  deriving DecidableEq

/-- What the server answers at each offset, for the space and for each of its pages. -/
structure Server where
  content : Nat → Response
  attachment : String → Nat → Response

def pageLimit : Nat := 50

def pageMeta (entry : Content) : PageMeta :=
  ⟨entry.id, entry.title.getD "", entry.version.getD ""⟩

/-- Python's `value or default`. -/
def orElse (value : Option String) (default : String) : String :=
  if value.getD "" = "" then default else value.getD ""

def attachMeta (baseUrl : String) (base : Option String) (entry : Content) : AttachMeta where
  id := entry.id
  filename := entry.title.getD entry.id
  version := entry.version.getD ""
  downloadUrl := if orElse entry.download "" = "" then "" else orElse base baseUrl ++ orElse entry.download ""
  mediaType := entry.mediaType

def listPages (server : Server) (rounds : Nat) : Option (List PageMeta) :=
  pageLoop pageLimit (fun start => (server.content start).results.map pageMeta) rounds 0

def listAttachments (baseUrl : String) (server : Server) (pageId : String) (rounds : Nat) :
    Option (List AttachMeta) :=
  pageLoop pageLimit (fun start =>
    let response := server.attachment pageId start
    response.results.map (attachMeta baseUrl response.base)) rounds 0

/-! When the listings are complete.

The client advances by what it asks for and stops at the first answer that is
shorter, so a server that caps its answers ends the listing early; the run takes
what is missing from it for deleted.
-/

structure Space where
  pages : List Content
  attachments : String → List Content

/-- The server answers with parts of what exists. -/
structure Serves (space : Space) (server : Server) : Prop where
  pages : Answers pageLimit space.pages fun start => (server.content start).results
  attachments : ∀ id, Answers pageLimit (space.attachments id) fun start =>
    (server.attachment id start).results

/-- The entry as an attachment, but for its link. -/
def Content.asAttachment (entry : Content) : String × String × String :=
  (entry.id, entry.title.getD entry.id, entry.version.getD "")

def AttachMeta.fields (att : AttachMeta) : String × String × String := (att.id, att.filename, att.version)

/-- The pages and attachments that a run gets to see through the client. -/
structure SeenThrough (baseUrl : String) (server : Server) (pages : List RemotePage) : Prop where
  listed : ∃ rounds, listPages server rounds =
    some (pages.map fun page => ⟨page.id, page.title, page.version⟩)
  attached : ∀ page ∈ pages, ∃ rounds listed, listAttachments baseUrl server page.id rounds = some listed ∧
    page.attachments.map (fun att => (att.id, att.filename, att.version)) = listed.map AttachMeta.fields

def Wanted (listener : Listener) (space : Space) : Key → Prop
  | (.page, id) => listener.syncPages = true ∧ id ∈ space.pages.map Content.id
  | (.attachment, id) => listener.syncAttachments = true ∧
      ∃ page ∈ space.pages, id ∈ (space.attachments page.id).map Content.id

/-- The listings have every entry once, so that no run deletes an item for want of it. -/
structure CompleteListings (baseUrl : String) (space : Space) (server : Server) : Prop where
  pages : ∃ rounds listed, listPages server rounds = some listed ∧
    listed.Perm (space.pages.map pageMeta)
  attachments : ∀ id, ∃ rounds listed, listAttachments baseUrl server id rounds = some listed ∧
    (listed.map AttachMeta.fields).Perm ((space.attachments id).map Content.asAttachment)
  kept : ∀ tools listener faults pages before after, SeenThrough baseUrl server pages →
    (∀ page ∈ pages, faults.listing page.id = false) →
    syncListener tools listener faults pages before = some after →
    ∀ key, Wanted listener space key → (before.rows.lookup key).isSome → (after.rows.lookup key).isSome

section Listings

variable {baseUrl : String} {space : Space} {server : Server} {id : String}

theorem listPages_complete_iff (serves : Serves space server) :
    (∃ rounds listed, listPages server rounds = some listed ∧ listed.Perm (space.pages.map pageMeta)) ↔
      FullAnswers pageLimit space.pages fun start => (server.content start).results :=
  (pageLoop_complete_iff (by decide) (serves.pages.map pageMeta)).trans (fullAnswers_map pageMeta)

theorem listAttachments_fields (baseUrl : String) (server : Server) (id : String) (rounds : Nat) :
    (listAttachments baseUrl server id rounds).map (List.map AttachMeta.fields) =
      pageLoop pageLimit (fun start => (server.attachment id start).results.map Content.asAttachment) rounds 0 := by
  unfold listAttachments
  rw [← pageLoop_map]
  congr 1
  funext start
  rw [List.map_map]
  rfl

theorem listAttachments_complete_iff (serves : Serves space server) :
    (∃ rounds listed, listAttachments baseUrl server id rounds = some listed ∧
      (listed.map AttachMeta.fields).Perm ((space.attachments id).map Content.asAttachment)) ↔
      FullAnswers pageLimit (space.attachments id) fun start => (server.attachment id start).results := by
  have read := pageLoop_complete_iff (by decide) ((serves.attachments id).map Content.asAttachment)
  rw [fullAnswers_map] at read
  rw [← read]
  constructor
  · rintro ⟨rounds, listed, done, same⟩
    refine ⟨rounds, listed.map AttachMeta.fields, ?_, same⟩
    rw [← listAttachments_fields baseUrl, done, Option.map_some]
  · rintro ⟨rounds, fields, done, same⟩
    rw [← listAttachments_fields baseUrl] at done
    obtain ⟨listed, done', rfl⟩ := Option.map_eq_some_iff.mp done
    exact ⟨rounds, listed, done', same⟩

theorem syncItem_keeps {faults : Faults} {state : SyncState} {item : Item} {rel : String} {key : Key}
    (there : (state.rows.lookup key).isSome) : ((syncItem faults state item rel).rows.lookup key).isSome := by
  by_cases own : key = item.key
  · rw [syncItem_eq]
    split
    · exact there
    split
    · rw [dropFormer_rows]
      exact there
    · rw [own, writeItem_row]
      rfl
  · rw [syncItem_row own]
    exact there

theorem syncItems_keeps {existing : Rows} {faults : Faults} {state after : SyncState} {listed : List Item}
    {key : Key} (ran : syncItems existing faults state listed = some after)
    (there : (state.rows.lookup key).isSome) : (after.rows.lookup key).isSome := by
  induction listed generalizing state with
  | nil =>
      cases ran
      exact there
  | cons item rest ih =>
      cases valid : item.rel with
      | error reason => simp [syncItems, valid] at ran
      | ok rel =>
          rw [syncItems, valid] at ran
          dsimp only at ran
          split at ran
          · cases ran
          · exact ih ran (syncItem_keeps there)

theorem mirrorDelete_keeps {faults : Faults} {seen : List Key} {state : SyncState} {key : Key}
    {entries : List (Sigma fun _ : Key => SyncRow)} (known : key ∈ seen)
    (there : (state.rows.lookup key).isSome) :
    ((mirrorDelete faults seen state entries).rows.lookup key).isSome := by
  induction entries generalizing state with
  | nil => exact there
  | cons entry rest ih =>
      refine ih ?_
      split
      · exact there
      next unseen =>
        have other : key ≠ entry.1 := by
          rintro rfl
          exact unseen known
        rw [forgetItem_rows, AList.lookup_erase_ne other]
        exact there

theorem syncListener_keeps {tools : Tools} {listener : Listener} {faults : Faults} {pages : List RemotePage}
    {before after : SyncState} {key : Key} (ran : syncListener tools listener faults pages before = some after)
    (seen : key ∈ (items tools listener faults pages).map Item.key)
    (there : (before.rows.lookup key).isSome) : (after.rows.lookup key).isSome := by
  obtain ⟨mid, treated, rfl⟩ := Option.map_eq_some_iff.mp ran
  exact mirrorDelete_keeps seen (syncItems_keeps treated there)

theorem wanted_listed {tools : Tools} {listener : Listener} {faults : Faults} {pages : List RemotePage}
    {key : Key}
    (complete : ∃ rounds listed, listPages server rounds = some listed ∧
      listed.Perm (space.pages.map pageMeta))
    (attached : ∀ id, ∃ rounds listed, listAttachments baseUrl server id rounds = some listed ∧
      (listed.map AttachMeta.fields).Perm ((space.attachments id).map Content.asAttachment))
    (seen : SeenThrough baseUrl server pages) (returned : ∀ page ∈ pages, faults.listing page.id = false)
    (wanted : Wanted listener space key) : key ∈ (items tools listener faults pages).map Item.key := by
  obtain ⟨rounds, listed, read, same⟩ := complete
  obtain ⟨rounds', read'⟩ := seen.listed
  have whole := pageLoop_unique read read'
  subst whole
  have page : ∀ entry ∈ space.pages, ∃ page ∈ pages, page.id = entry.id := by
    intro entry member
    have found := same.mem_iff.mpr (List.mem_map_of_mem member)
    obtain ⟨page, there, equal⟩ := List.mem_map.mp found
    exact ⟨page, there, congrArg PageMeta.id equal⟩
  rcases key with ⟨kind, id⟩
  cases kind with
  | page =>
      obtain ⟨enabled, member⟩ := wanted
      obtain ⟨entry, inSpace, rfl⟩ := List.mem_map.mp member
      obtain ⟨remote, there, equal⟩ := page entry inSpace
      refine List.mem_map.mpr ⟨pageItem tools listener remote, items_mem.mpr ?_, ?_⟩
      · exact ⟨remote, there, .inl ⟨enabled, rfl⟩⟩
      · rw [← equal]
        rfl
  | attachment =>
      obtain ⟨enabled, entry, inSpace, member⟩ := wanted
      obtain ⟨remote, there, equal⟩ := page entry inSpace
      obtain ⟨rounds, listed, read, same⟩ := attached entry.id
      obtain ⟨rounds', listed', read', fields⟩ := seen.attached remote there
      rw [equal] at read'
      obtain rfl := pageLoop_unique read read'
      obtain ⟨content, ofPage, rfl⟩ := List.mem_map.mp member
      have found := same.mem_iff.mpr (List.mem_map_of_mem ofPage)
      rw [← fields] at found
      obtain ⟨att, attachedTo, triple⟩ := List.mem_map.mp found
      refine List.mem_map.mpr ⟨attachmentItem listener att, items_mem.mpr ?_, ?_⟩
      · refine ⟨remote, there, .inr ⟨enabled, att, ?_, rfl⟩⟩
        rw [Confluence.listAttachments, returned remote there]
        exact attachedTo
      · exact congrArg (fun fields => (Kind.attachment, fields.1)) triple

end Listings

theorem complete_listings_iff (baseUrl : String) (space : Space) (server : Server)
    (serves : Serves space server) :
    CompleteListings baseUrl space server ↔
      FullAnswers pageLimit space.pages (fun start => (server.content start).results) ∧
        ∀ id, FullAnswers pageLimit (space.attachments id) fun start => (server.attachment id start).results := by
  constructor
  · intro complete
    exact ⟨(listPages_complete_iff serves).mp complete.pages,
      fun id => (listAttachments_complete_iff serves).mp (complete.attachments id)⟩
  · rintro ⟨pagesFull, attachmentsFull⟩
    have pages := (listPages_complete_iff serves).mpr pagesFull
    have attachments : ∀ id, ∃ rounds listed, listAttachments baseUrl server id rounds = some listed ∧
        (listed.map AttachMeta.fields).Perm ((space.attachments id).map Content.asAttachment) :=
      fun id => (listAttachments_complete_iff serves).mpr (attachmentsFull id)
    refine ⟨pages, attachments, ?_⟩
    intro tools listener faults listed before after seen returned ran key wanted there
    exact syncListener_keeps ran (wanted_listed pages attachments seen returned wanted) there

/-- A server that returns at most `cap` results. -/
def cappedServer (space : Space) (cap : Nat) : Server where
  content start := ⟨(space.pages.drop start).take cap, none⟩
  attachment id start := ⟨((space.attachments id).drop start).take cap, none⟩

theorem capped_answers {Entry : Type} (all : List Entry) {cap limit : Nat} (positive : 0 < cap)
    (bound : cap ≤ limit) : Answers limit all fun start => (all.drop start).take cap where
  part := fun start => List.take_prefix cap (all.drop start)
  most := fun start => by
    rw [List.length_take]
    omega
  some := fun start remains empty => by
    have size := congrArg List.length empty
    rw [List.length_take, List.length_drop, List.length_nil] at size
    omega

theorem cappedServer_serves (space : Space) {cap : Nat} (positive : 0 < cap) (bound : cap ≤ pageLimit) :
    Serves space (cappedServer space cap) :=
  ⟨capped_answers space.pages positive bound, fun id => capped_answers (space.attachments id) positive bound⟩

def manyPages : Space where
  pages := (List.range 60).map fun number => ⟨toString number, some "Runbook", some "1", none, none⟩
  attachments id := [⟨"att" ++ id, some "map.png", some "1", some "/download/map.png", none⟩]

theorem uncapped_server_complete :
    CompleteListings "https://wiki.corp" manyPages (cappedServer manyPages 50) := by
  refine (complete_listings_iff _ _ _ (cappedServer_serves manyPages (by decide) (by decide))).mpr
    ⟨fun round _ => ?_, fun id round _ => ?_⟩
  · exact List.length_take.trans (by rw [List.length_drop]; rfl)
  · exact List.length_take.trans (by rw [List.length_drop]; rfl)

/-- A server that caps its answers at 25 results ends the listing after the first of them. -/
theorem capped_server_incomplete : Serves manyPages (cappedServer manyPages 25) ∧
    ¬ CompleteListings "https://wiki.corp" manyPages (cappedServer manyPages 25) := by
  refine ⟨cappedServer_serves manyPages (by decide) (by decide), ?_⟩
  rintro ⟨⟨rounds, listed, read, same⟩, -, -⟩
  have first : (listPages (cappedServer manyPages 25) 1).map List.length = some 25 := by decide
  obtain ⟨listed', read', size⟩ := Option.map_eq_some_iff.mp first
  have short := same.length_eq
  rw [pageLoop_unique read read', size] at short
  exact absurd short (by decide)

end Dosm.Confluence.Client
