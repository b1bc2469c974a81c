import Dosm.Docs.Routes

namespace Dosm.Docs.PathAccess

open Models Store Vault Routes

/-! Tenant isolation of the by-path routes.

The guard looks the submitted spelling up in the document rows while the store
opens its normal form. Isolation is therefore proved as an equivalence: a
request for another tenant's file is refused exactly when some row is spelled
like the request and the first such row is another tenant's, or when there is
no file to act on.
-/

variable {tools : Tools} {clock : Clock} {site : Site} {caller : Caller}
  {path rel : String} {tenant : Int} {route : Route}

/-- The submitted path has the normal form `rel`, and the file of that name, or
the one the store opens for it, has a row of another tenant. -/
def NamesForeign (site : Site) (path rel : String) (tenant : Int) : Prop :=
  site.store.safeRel path = .ok rel ∧
    ∃ doc ∈ site.documents, (doc.relPath = rel ∨ site.store.safeRel rel = .ok doc.relPath) ∧
      doc.tenantId ≠ tenant

/-- Refused as not found, with nothing returned and the source as it was. -/
def Refused (site : Site) (outcome : Outcome) : Prop :=
  outcome.response = notFound ∧ outcome.store = site.store

/-- The first row spelled like the request is another tenant's. -/
def RowRefuses (documents : List Document) (path : String) (tenant : Int) : Prop :=
  ∃ doc, documents.find? (fun doc => doc.relPath = path) = some doc ∧ doc.tenantId ≠ tenant

/-- There is nothing to act on. Reading and saving ask whether the path is a
file; deleting needs an entry of any kind. -/
def Missing (store : DocsStore) (rel : String) : Route → Prop
  | .delete => store.client = .ok () ∧
      ∃ norm, store.safeRel rel = .ok norm ∧ store.tree.lookup norm = none
  | _ => store.isFile rel = .ok false

/-! The guard. -/

theorem access_refused (refuses : RowRefuses site.documents path tenant) :
    requireDocAccess site.documents path (some tenant) = .error notFound := by
  obtain ⟨doc, first, other⟩ := refuses
  simp only [requireDocAccess, first, if_pos other]

theorem access_granted (admits : ¬ RowRefuses site.documents path tenant) :
    requireDocAccess site.documents path (some tenant) = .ok () := by
  unfold requireDocAccess
  cases first : site.documents.find? fun doc => doc.relPath = path with
  | none => rfl
  | some doc =>
      have own : doc.tenantId = tenant := by
        by_contra other
        exact admits ⟨doc, first, other⟩
      simp only [own, ne_eq, not_true_eq_false, ↓reduceIte]

theorem validPath_ok (named : site.store.safeRel path = .ok rel) :
    validPath site.store path = .ok rel := by
  simp only [validPath, named, Except.mapError]

theorem requireFile_notFound_iff (named : site.store.safeRel path = .ok rel)
    (within : caller.tid = some tenant) :
    requireFile site caller path = .error notFound ↔
      RowRefuses site.documents path tenant ∨ site.store.isFile rel = .ok false := by
  by_cases refuses : RowRefuses site.documents path tenant
  · simp only [requireFile, validPath_ok named, within, access_refused refuses, refuses, true_or,
      iff_true]
    rfl
  · simp only [requireFile, validPath_ok named, within, access_granted refuses, refuses, false_or]
    cases asked : site.store.isFile rel with
    | error cause => simp [asked, bind, Except.bind, uncaught, Except.mapError, notFound]
    | ok isFile =>
        cases isFile <;>
          simp [asked, bind, Except.bind, pure, Except.pure, throw, throwThe,
            MonadExceptOf.throw, uncaught, Except.mapError]

def AnswersOtherwise (site : Site) (handler : Except Response Outcome) : Prop :=
  (settle site handler).response ≠ notFound

theorem otherwise_pure {outcome : Outcome} (other : outcome.response ≠ notFound) :
    AnswersOtherwise site (pure outcome) := other

theorem otherwise_throw {response : Response} (other : response ≠ notFound) :
    AnswersOtherwise site (throw response) := other

theorem otherwise_ite {condition : Prop} [Decidable condition]
    {first second : Except Response Outcome} (firstAnswers : AnswersOtherwise site first)
    (secondAnswers : AnswersOtherwise site second) :
    AnswersOtherwise site (if condition then first else second) := by
  split
  · exact firstAnswers
  · exact secondAnswers

theorem otherwise_uncaught {α : Type} {operation : Except StoreError α}
    {rest : α → Except Response Outcome} (answers : ∀ value, AnswersOtherwise site (rest value)) :
    AnswersOtherwise site (uncaught operation >>= rest) := by
  cases operation with
  | error cause => exact nofun
  | ok value => exact answers value

theorem refused_bind_iff {checks : Except Response String} {rest : String → Except Response Outcome}
    (answers : ∀ rel, AnswersOtherwise site (rest rel)) :
    Refused site (settle site (checks >>= rest)) ↔ checks = .error notFound := by
  cases checks with
  | error response => simp [bind, Except.bind, settle, Refused]
  | ok rel =>
      refine ⟨fun refused => absurd refused.1 (answers rel), ?_⟩
      intro failed
      cases failed

theorem path_ne_empty (named : site.store.safeRel path = .ok rel) : path ≠ "" := by
  rintro rfl
  have rejected : normalizeRel "" = .error (.empty "") := by decide
  unfold DocsStore.safeRel at named
  split at named <;> simp only [rejected] at named <;> cases named

/-! Each route answers "not found" for the two reasons only. -/

theorem view_refused_iff {raw : Bool} (named : site.store.safeRel path = .ok rel)
    (within : caller.tid = some tenant) :
    Refused site (settle site (docsView tools site caller path raw)) ↔
      RowRefuses site.documents path tenant ∨ site.store.isFile rel = .ok false := by
  rw [← requireFile_notFound_iff named within]
  refine refused_bind_iff ?_
  intro rel
  cases site.store.readText rel with
  | error error => exact otherwise_throw nofun
  | ok text =>
      exact otherwise_ite (otherwise_pure nofun) (otherwise_pure nofun)

theorem edit_refused_iff (named : site.store.safeRel path = .ok rel)
    (within : caller.tid = some tenant) :
    Refused site (settle site (docsEdit tools site caller path)) ↔
      RowRefuses site.documents path tenant ∨ site.store.isFile rel = .ok false := by
  rw [← requireFile_notFound_iff named within]
  refine refused_bind_iff ?_
  intro rel
  refine otherwise_uncaught fun text => ?_
  refine otherwise_uncaught fun mtimeMs => ?_
  exact otherwise_pure nofun

theorem save_refused_iff {form : SaveForm} (named : site.store.safeRel path = .ok rel)
    (within : caller.tid = some tenant) :
    Refused site (settle site (docsSave tools clock site caller path form)) ↔
      RowRefuses site.documents path tenant ∨ site.store.isFile rel = .ok false := by
  rw [← requireFile_notFound_iff named within]
  simp only [docsSave, within, ne_eq, path_ne_empty named, not_false_eq_true, ↓reduceIte]
  refine refused_bind_iff ?_
  intro rel
  refine otherwise_ite ?unchecked ?checked
  case unchecked =>
    refine otherwise_ite (otherwise_pure nofun) ?_
    exact otherwise_uncaught fun written => otherwise_pure nofun
  case checked =>
    cases fileMtimeMs site.store rel with
    | error cause => exact nofun
    | ok mtimeMs =>
        refine otherwise_ite (otherwise_pure nofun) ?_
        exact otherwise_uncaught fun written => otherwise_pure nofun

theorem delete_refused_iff (named : site.store.safeRel path = .ok rel)
    (within : caller.tid = some tenant) :
    Refused site (settle site (docsDelete site caller path)) ↔
      RowRefuses site.documents path tenant ∨ Missing site.store rel .delete := by
  by_cases refuses : RowRefuses site.documents path tenant
  · simp only [docsDelete, within, access_refused refuses, refuses, true_or, iff_true]
    exact ⟨rfl, rfl⟩
  · simp only [docsDelete, within, access_granted refuses, refuses, false_or, deleteDoc, named,
      Missing, ← DocsStore.delete_notFound_iff]
    cases site.store.delete rel with
    | ok after =>
        constructor
        · rintro ⟨answered, _⟩
          cases answered
        · rintro ⟨_, failed⟩
          cases failed
    | error error =>
        cases error with
        | notFound missing => exact ⟨fun _ => ⟨missing, rfl⟩, fun _ => ⟨rfl, rfl⟩⟩
        | _ =>
            constructor
            · rintro ⟨answered, _⟩
              cases answered
            · rintro ⟨_, failed⟩
              cases failed

theorem handle_refused_iff (named : site.store.safeRel path = .ok rel)
    (within : caller.tid = some tenant) :
    Refused site (handle tools clock site caller path route) ↔
      RowRefuses site.documents path tenant ∨ Missing site.store rel route := by
  cases route with
  | view raw => exact view_refused_iff named within
  | edit => exact edit_refused_iff named within
  | save form => exact save_refused_iff named within
  | delete => exact delete_refused_iff named within

/-- A request that names another tenant's file is refused exactly when the
rows refuse its own spelling, or there is no such file. -/
theorem foreign_file_refused_iff (tools : Tools) (clock : Clock) (site : Site) (userId : Int)
    (username path : String) (tenant : Int) (route : Route) :
    (∀ rel, NamesForeign site path rel tenant →
        Refused site (handle tools clock site ⟨some tenant, userId, username⟩ path route)) ↔
      ∀ rel, NamesForeign site path rel tenant →
        RowRefuses site.documents path tenant ∨ Missing site.store rel route := by
  refine forall_congr' fun rel => imp_congr_right ?_
  intro foreign
  exact handle_refused_iff foreign.1 rfl

def betaSite : Site where
  store := {
    backend := .localRoot fun _ => true
    present := true
    tree := AList.insert "beta/secret.md" (.file "beta only" 1000) ∅ }
  documents := [{
    id := 1
    tenantId := 2
    relPath := "beta/secret.md"
    sha256 := "f0"
    sizeBytes := 9
    modifiedAt := 1000
    indexedAt := some 2000
    status := .indexed
    error := none
    chunkCount := 1
    title := none
    folderId := none
    frontmatterTitle := none }]
  folders := []

def plainTools : Tools where
  yaml := { load := fun _ => none, dump := fun _ _ _ _ => "" }
  renderMarkdown := id
  asciiFold := id

/-- A doubled slash passes the guard: tenant 1 reads and deletes the file of
tenant 2. -/
theorem doubled_slash_reaches_foreign_file :
    NamesForeign betaSite "beta//secret.md" "beta/secret.md" 1 ∧
      (handle plainTools ⟨3000, ""⟩ betaSite ⟨some 1, 7, "alice"⟩ "beta//secret.md"
        (.view true)).response = .plain "beta only" ∧
      (handle plainTools ⟨3000, ""⟩ betaSite ⟨some 1, 7, "alice"⟩ "beta//secret.md"
        .delete).store.tree.lookup "beta/secret.md" = none := by
  refine ⟨⟨by decide, _, List.mem_singleton.mpr rfl, .inl rfl, by decide⟩, by decide, by decide⟩

end Dosm.Docs.PathAccess
