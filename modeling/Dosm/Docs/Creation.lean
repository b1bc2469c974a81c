import Dosm.Agent.Action
import Dosm.Base.FreeName
import Dosm.Docs.Paths
import Dosm.Docs.Routes

namespace Dosm.Docs.Creation

open Models Python Store Vault Routes

/-! The creation of documents on a source whose file system may compare names without case.

A new document gets the first name of its numbered sequence that the listing of its
folder does not have, and is written to a path that is put together and normalised
again.
-/

/-- The docs source with what its file system does: the form in which names are
compared, and the listings and writes it refuses. -/
structure Source extends DocsStore where
  fold : String → String
  listFault : List String → Option String
  writeFault : List String → Option String

namespace Source

def entry (source : Source) (path : List String) : Option (String × Node) :=
  (source.tree.entries.find? fun entry =>
    (pathParts entry.1).map source.fold = path.map source.fold).map fun entry => (entry.1, entry.2)

def node (source : Source) (path : List String) : Option Node := (source.entry path).map (·.2)

def names (source : Source) (directory : List String) : List String :=
  source.tree.entries.filterMap fun entry =>
    let parts := pathParts entry.1
    if parts.length = directory.length + 1 ∧
        (parts.take directory.length).map source.fold = directory.map source.fold then
      parts.getLast?
    else none

def isRoot (source : Source) (relDir : String) : Bool :=
  match source.backend with
  | .localRoot _ => relDir.toList.all (· = '/')
  | .smb _ => relDir.isEmpty

def list (source : Source) (relDir : String) (directory : List String) : Except StoreError (List String) :=
  match source.listFault directory with
  | some reason => .error (source.wrap ("listing " ++ relDir) (.osError reason))
  | none => .ok (source.names directory)

def childNames (source : Source) (relDir : String) : Except StoreError (List String) := do
  source.client
  if source.isRoot relDir then source.list relDir []
  else
    match normalizeRel relDir with
    | .ok norm => source.list relDir (pathParts norm)
    | .error error => throw (source.wrap ("listing " ++ relDir) (.invalid error))

/-- Where a write to `rel` goes. A share normalises once more for its own path. -/
def target (source : Source) (rel : String) : Except PathError (String × List String) := do
  let norm ← source.safeRel rel
  match source.backend with
  | .localRoot _ => return (norm, pathParts norm)
  | .smb _ => return (norm, pathParts (← normalizeRel norm))

def parents (path : List String) : List (List String) :=
  (List.range (path.length - 1)).map fun count => path.take (count + 1)

/-- Why the file system does not take a file at the path. -/
def refusal (source : Source) (path : List String) : Option String :=
  if (parents path).any fun parent => Node.isFile (source.node parent) then some "not a directory"
  else if source.node path = some .directory then some "is a directory"
  else source.writeFault path

/-- The missing parents are made, and a file that compares equal is replaced. -/
def put (source : Source) (path : List String) (content : String) (now : Int) : Source :=
  let made := (parents path).foldl (fun tree parent =>
    if (source.node parent).isSome then tree else tree.insert ("/".intercalate parent) .directory) source.tree
  let cleared := match source.entry path with
    | some (name, _) => made.erase name
    | none => made
  { source with present := true, tree := cleared.insert ("/".intercalate path) (.file content now) }

/-- The path written to, and the source after. -/
def writeBytes (source : Source) (rel content : String) (now : Int) : Except StoreError (List String × Source) := do
  source.client
  match source.target rel with
  | .error error => throw (.invalid error)
  | .ok (norm, path) =>
      match source.refusal path with
      | some reason => throw (source.wrap ("write " ++ norm) (.osError reason))
      | none => return (path, source.put path content now)

end Source

/-- A saved document: the path that is reported, the one written to and the source after. -/
structure Written where
  rel : String
  path : List String
  after : Source

def saveDoc (yaml : Vault.Yaml) (source : Source) (save : Save) (updatedAt : String) (now : Int) :
    Except StoreError Written := do
  match source.safeRel (save.folderSlug ++ "/" ++ save.docSlug ++ ".md") with
  | .error error => throw (.invalid error)
  | .ok rel =>
      let content := serializeDoc yaml save.title save.folderSlug save.bodyMd save.author updatedAt
      let (path, after) ← source.writeBytes rel content now
      return { rel, path, after }

/-- The search from a number on, for so many rounds of the loop. -/
def nextFree (existing : List String) (base : String) : Nat → Nat → Option String
  | 0, _ => none
  | rounds + 1, number =>
      if numbered base number ++ ".md" ∈ existing then nextFree existing base rounds (number + 1)
      else some (numbered base number)

def findUniqueSlug (rounds : Nat) (source : Source) (folderSlug baseSlug : String) :
    Option (Except StoreError String) :=
  match source.childNames folderSlug with
  | .error error => some (.error error)
  | .ok existing =>
      if baseSlug ++ ".md" ∉ existing then some (.ok baseSlug)
      else (nextFree existing baseSlug rounds 2).map .ok

/-- What the handlers run on. `describe` renders an exception with its class. -/
structure Env where
  tools : Tools
  clock : Clock
  describe : StoreError → String
  message : StoreError → String

def create (env : Env) (rounds : Nat) (source : Source) (folderSlug title body author : String) :
    Option (Except StoreError Written) :=
  (findUniqueSlug rounds source folderSlug (slugify env.tools.asciiFold title)).map fun found => do
    let docSlug ← found
    saveDoc env.tools.yaml source { folderSlug, docSlug, title, bodyMd := body, author }
      env.clock.updatedAt env.clock.now

/-- How a handler ends: with a refusal, with an exception of its own, or with a document. -/
inductive Ended (Reply : Type) where
  | refused (reply : Reply)
  | raised (cause : StoreError)
  | created (reply : Reply) (written : Written)

/-- `docs_save` without a path. -/
def docsSave (env : Env) (rounds : Nat) (source : Source) (caller : Caller) (form : SaveForm) :
    Option (Ended (Response × List AuditLog)) :=
  match caller.tid with
  | none => some (.refused (.httpError 403 (.text "select an active tenant before making changes"), []))
  | some tenant =>
      let title := orElse (some (strip form.title)) "Untitled"
      let appSlug := orElse (some (strip form.appSlug)) unfiledSlug
      (create env rounds source appSlug title form.body caller.username).map fun
        | .error cause => .raised cause
        | .ok written => .created (.redirect ("/docs/view?path=" ++ written.rel), [{
            tenantId := some tenant
            actorId := caller.userId
            action := "docs.create"
            target := "doc:" ++ written.rel
            details := some ("title=" ++ Python.repr title) }]) written

/-- The arguments of the tool; a missing one is `none`. -/
structure DocArgs where
  title : Option String
  folderSlug : Option String
  bodyMd : Option String
  author : Option String

/-- `_upsert_doc_runner` without a path. -/
def upsertDoc (env : Env) (rounds : Nat) (source : Source) (args : DocArgs) (durationMs : Int) :
    Option (Ended Agent.ActionResult) :=
  let title := strip (orElse args.title "")
  let folderSlug := strip (orElse args.folderSlug unfiledSlug)
  let bodyMd := orElse args.bodyMd ""
  let author := orElse args.author "agent"
  if title = "" then some (.refused { ok := false, summary := "title is required" })
  else if strip bodyMd = "" then some (.refused { ok := false, summary := "body_md is required" })
  else
    (create env rounds source folderSlug title bodyMd author).map fun
      | .error cause => .refused {
          ok := false
          summary := "Save failed: " ++ env.describe cause
          stderr := env.message cause }
      | .ok written => .created {
          ok := true
          summary := "Doc created: " ++ written.rel ++ " in " ++ toString durationMs ++ "ms"
          stdout := written.rel
          durationMs := some durationMs
          extra := [("rel_path", .str written.rel)] } written

/-- A handler that refuses, or writes where no file was. -/
def Fair {Reply : Type} (source : Source) : Ended Reply → Prop
  | .refused _ => True
  | .raised _ => False
  | .created _ written => Node.isFile (source.node written.path) = false

def candidate (base : String) : Nat → String
  | 0 => base
  | number + 1 => numbered base (number + 2)

/-- The listing has the candidates before the number, and not the one of the number. -/
def FirstUnlisted (existing : List String) (base : String) (number : Nat) : Prop :=
  (∀ earlier < number, candidate base earlier ++ ".md" ∈ existing) ∧ candidate base number ++ ".md" ∉ existing

/-- Where a document saved under `submitted` arrives. -/
def Source.landing (source : Source) (submitted : String) : Except PathError (List String) := do
  return (← source.target (← source.safeRel submitted)).2

/-- The folder can be listed, and its first unlisted candidate arrives at a path of that kind which the
file system accepts. -/
def Reaches (source : Source) (folder base : String) (kind : List String → Prop) : Prop :=
  ∃ existing number path, source.childNames folder = .ok existing ∧ FirstUnlisted existing base number ∧
    source.landing (folder ++ "/" ++ candidate base number ++ ".md") = .ok path ∧ source.refusal path = none ∧ kind path

section Loop

variable {existing : List String} {base : String} {rounds number other start : Nat}

theorem candidate_injective : Function.Injective fun number => candidate base number ++ ".md" := by
  have longer : ∀ number : Nat, base ≠ numbered base number := by
    intro number same
    have size := congrArg (fun text => text.toList.length) same
    simp only [numbered, String.toList_append, List.length_append] at size
    have dash : "-".toList.length = 1 := rfl
    omega
  intro first second same
  have names : candidate base first = candidate base second := by
    apply String.toList_injective
    have chars := congrArg String.toList same
    rw [String.toList_append, String.toList_append] at chars
    exact List.append_cancel_right chars
  cases first with
  | zero =>
      cases second with
      | zero => rfl
      | succ second => exact absurd names (longer _)
  | succ first =>
      cases second with
      | zero => exact absurd names.symm (longer _)
      | succ second =>
          have numbers := numbered_injective base names
          omega

theorem FirstUnlisted.unique (first : FirstUnlisted existing base number) (second : FirstUnlisted existing base other) :
    number = other := by
  rcases Nat.lt_trichotomy number other with before | same | after
  · exact absurd (second.1 number before) first.2
  · exact same
  · exact absurd (first.1 other after) second.2

theorem exists_firstUnlisted : ∃ number ≤ existing.length, FirstUnlisted existing base number := by
  classical
  obtain ⟨offset, bound, free⟩ : ∃ offset ≤ existing.length, candidate base (0 + offset) ++ ".md" ∉ existing :=
    exists_free candidate_injective
  rw [Nat.zero_add] at free
  have some : ∃ number, candidate base number ++ ".md" ∉ existing := ⟨offset, free⟩
  refine ⟨Nat.find some, (Nat.find_min' some free).trans bound, ?_, Nat.find_spec some⟩
  intro earlier before
  exact not_not.mp (Nat.find_min some before)

theorem nextFree_first (taken : ∀ earlier < number, numbered base (start + earlier) ++ ".md" ∈ existing)
    (free : numbered base (start + number) ++ ".md" ∉ existing) (enough : number < rounds) :
    nextFree existing base rounds start = some (numbered base (start + number)) := by
  induction number generalizing start rounds with
  | zero =>
      obtain ⟨rounds, rfl⟩ : ∃ fewer, rounds = fewer + 1 := ⟨rounds - 1, by omega⟩
      rw [nextFree, if_neg (by simpa using free), Nat.add_zero]
  | succ number ih =>
      obtain ⟨rounds, rfl⟩ : ∃ fewer, rounds = fewer + 1 := ⟨rounds - 1, by omega⟩
      have here := taken 0 (by omega)
      rw [Nat.add_zero] at here
      have shift : ∀ offset, start + (offset + 1) = start + 1 + offset := by omega
      rw [nextFree, if_pos here, shift number]
      apply ih
      · intro earlier before
        rw [← shift]
        exact taken (earlier + 1) (by omega)
      · rwa [← shift]
      · omega

end Loop

section Saving

variable {env : Env} {source : Source} {folder base title body author submitted : String} {rounds number : Nat}
  {existing path : List String} {kind : List String → Prop} {save : Save} {written : Written} {updatedAt : String}
  {now : Int}

theorem findUniqueSlug_first (listed : source.childNames folder = .ok existing)
    (first : FirstUnlisted existing base number) (enough : number ≤ rounds) :
    findUniqueSlug rounds source folder base = some (.ok (candidate base number)) := by
  unfold findUniqueSlug
  rw [listed]
  dsimp only
  cases number with
  | zero => rw [if_pos (by exact first.2), candidate]
  | succ number =>
      have later : ∀ offset, candidate base (offset + 1) = numbered base (2 + offset) := by
        intro offset
        rw [Nat.add_comm 2]
        rfl
      have base_listed : base ++ ".md" ∈ existing := first.1 0 (by omega)
      rw [if_neg (not_not.mpr base_listed), later]
      have taken : ∀ earlier < number, numbered base (2 + earlier) ++ ".md" ∈ existing := by
        intro earlier before
        rw [← later]
        exact first.1 (earlier + 1) (by omega)
      have free : numbered base (2 + number) ++ ".md" ∉ existing := by
        rw [← later]
        exact first.2
      rw [nextFree_first taken free (by omega)]
      rfl

theorem childNames_ok (listed : source.childNames folder = .ok existing) :
    source.client = .ok () ∧ ∃ directory, source.names directory = existing := by
  have answered : ∀ directory, source.list folder directory = .ok existing → source.names directory = existing := by
    intro directory answered
    unfold Source.list at answered
    split at answered
    · cases answered
    · exact Except.ok.inj answered
  unfold Source.childNames at listed
  cases client : source.client with
  | error cause => rw [client] at listed; cases listed
  | ok _ =>
      rw [client] at listed
      simp only [bind, Except.bind] at listed
      split at listed
      · exact ⟨rfl, [], answered [] listed⟩
      · cases normal : normalizeRel folder with
        | error error => rw [normal] at listed; cases listed
        | ok norm =>
            rw [normal] at listed
            exact ⟨rfl, pathParts norm, answered (pathParts norm) listed⟩

theorem childNames_length (listed : source.childNames folder = .ok existing) :
    existing.length ≤ source.tree.entries.length := by
  obtain ⟨-, directory, rfl⟩ := childNames_ok listed
  exact List.length_filterMap_le _ _

theorem saveDoc_ok_iff (client : source.client = .ok ()) :
    (∃ written, saveDoc env.tools.yaml source save updatedAt now = .ok written ∧ kind written.path) ↔
      ∃ path, source.landing (save.folderSlug ++ "/" ++ save.docSlug ++ ".md") = .ok path ∧
        source.refusal path = none ∧ kind path := by
  unfold saveDoc Source.landing Source.writeBytes
  rw [client]
  cases safe : source.safeRel (save.folderSlug ++ "/" ++ save.docSlug ++ ".md") with
  | error error => simp [bind, Except.bind, throw, throwThe, MonadExceptOf.throw]
  | ok rel =>
      simp only [bind, Except.bind]
      cases found : source.target rel with
      | error error => simp [throw, throwThe, MonadExceptOf.throw]
      | ok place =>
          cases refused : source.refusal place.2 with
          | some reason => simp [refused, throw, throwThe, MonadExceptOf.throw, pure, Except.pure]
          | none => simp [refused, pure, Except.pure]

/-- Creating ends, and with a document exactly when the first unlisted candidate arrives somewhere. -/
theorem create_ended (enough : source.tree.entries.length < rounds) :
    ∃ result, create env rounds source folder title body author = some result ∧
      ∀ kind : List String → Prop, (∃ written, result = .ok written ∧ kind written.path) ↔
        Reaches source folder (slugify env.tools.asciiFold title) kind := by
  cases listed : source.childNames folder with
  | error cause =>
      refine ⟨.error cause, ?_, ?_⟩
      · unfold create findUniqueSlug
        rw [listed]
        rfl
      · intro kind
        constructor
        · rintro ⟨written, same, -⟩
          cases same
        · rintro ⟨existing, number, path, answered, -⟩
          rw [listed] at answered
          cases answered
  | ok existing =>
      obtain ⟨number, within, first⟩ : ∃ number ≤ existing.length,
          FirstUnlisted existing (slugify env.tools.asciiFold title) number := exists_firstUnlisted
      have size := childNames_length listed
      have found : findUniqueSlug rounds source folder (slugify env.tools.asciiFold title) =
          some (.ok (candidate (slugify env.tools.asciiFold title) number)) :=
        findUniqueSlug_first listed first (by omega)
      refine ⟨saveDoc env.tools.yaml source {
        folderSlug := folder
        docSlug := candidate (slugify env.tools.asciiFold title) number
        title
        bodyMd := body
        author } env.clock.updatedAt env.clock.now, ?_, ?_⟩
      · unfold create
        rw [found]
        rfl
      · intro kind
        refine (saveDoc_ok_iff (childNames_ok listed).1).trans ?_
        constructor
        · rintro ⟨path, arrives, accepted, good⟩
          exact ⟨existing, number, path, listed, first, arrives, accepted, good⟩
        · rintro ⟨other, chosen, path, answered, unlisted, arrives, accepted, good⟩
          obtain rfl : existing = other := Except.ok.inj (listed.symm.trans answered)
          obtain rfl := first.unique unlisted
          exact ⟨path, arrives, accepted, good⟩

end Saving

/-- A folder that is spelled without space at the ends, and whose normal form has none there either: a path
in it is the same each time it is normalised. -/
structure Plain (folder directory : String) : Prop where
  trimmed : strip folder = folder
  normal : normalizeRel folder = .ok directory
  steady : strip directory = directory

section PlainFolders

variable {source : Source} {folder directory rel norm base file : String} {path parts existing : List String}
  {number : Nat} {found : Node}

theorem Plain.named (plain : Plain folder directory) : directory ≠ "" := by
  intro empty
  apply (normalizeRel_eq_ok plain.normal).1
  rw [← pathParts_normal plain.normal, empty]
  decide

theorem Plain.isRoot (plain : Plain folder directory) : source.isRoot folder = false := by
  have apart : ¬ ∀ char ∈ folder.toList, char = '/' := by
    intro slashes
    cases chars : folder.toList with
    | nil =>
        apply (normalizeRel_eq_ok plain.normal).1
        rw [strip_backslash, plain.trimmed, String.toList_eq_nil_iff.mp chars]
        decide
    | cons char rest =>
        have slash : char = '/' := slashes char (by simp [chars])
        have starts : startsWith (strip (replaceChar '\\' '/' folder)) "/" = true := by
          rw [strip_backslash, plain.trimmed, startsWith, replaceChar, String.toList_ofList, chars, slash]
          simp
        have normal := plain.normal
        unfold normalizeRel at normal
        dsimp only at normal
        rw [starts] at normal
        cases normal
  unfold Source.isRoot
  split
  · simpa using apart
  · cases empty : folder.isEmpty with
    | false => rfl
    | true =>
        refine absurd ?_ apart
        rw [String.isEmpty_iff.mp empty]
        simp

theorem Plain.childNames (plain : Plain folder directory) (listed : source.childNames folder = .ok existing) :
    existing = source.names (pathParts directory) := by
  unfold Source.childNames at listed
  rw [plain.isRoot, plain.normal] at listed
  cases client : source.client with
  | error cause => rw [client] at listed; cases listed
  | ok _ =>
      rw [client] at listed
      simp only [bind, Except.bind, Bool.false_eq_true, if_false, Source.list] at listed
      split at listed
      · cases listed
      · exact (Except.ok.inj listed).symm

theorem Plain.landing (plain : Plain folder directory) (clean : Clean file)
    (arrives : source.landing (folder ++ "/" ++ file) = .ok path) : path = pathParts directory ++ [file] := by
  unfold Source.landing at arrives
  cases safe : source.safeRel (folder ++ "/" ++ file) with
  | error error => rw [safe] at arrives; cases arrives
  | ok rel =>
      obtain ⟨whole, parts⟩ := normal_file plain.normal plain.trimmed clean (safeRel_normal safe)
      have trimmed : strip rel = rel := by
        rw [whole]
        exact strip_slash plain.steady plain.named clean
      have again : normalizeRel rel = .ok rel := normalizeRel_again (safeRel_normal safe) trimmed
      rw [safe] at arrives
      simp only [bind, Except.bind, Source.target] at arrives
      cases second : source.safeRel rel with
      | error error => rw [second] at arrives; cases arrives
      | ok norm =>
          obtain rfl : rel = norm := Except.ok.inj (again.symm.trans (safeRel_normal second))
          rw [second] at arrives
          rw [← parts]
          cases backend : source.backend with
          | localRoot contained =>
              rw [backend] at arrives
              exact (Except.ok.inj arrives).symm
          | smb fault =>
              rw [backend] at arrives
              dsimp only at arrives
              rw [again] at arrives
              exact (Except.ok.inj arrives).symm

theorem name_of_node (there : source.node (parts ++ [file]) = some found) :
    ∃ name ∈ source.names parts, source.fold name = source.fold file := by
  unfold Source.node Source.entry at there
  rw [Option.map_map] at there
  obtain ⟨entry, first, -⟩ := Option.map_eq_some_iff.mp there
  have same : (pathParts entry.1).map source.fold = (parts ++ [file]).map source.fold := by
    simpa using List.find?_some first
  rw [List.map_append, List.map_singleton] at same
  obtain ⟨front, last, split, frontFold, lastFold⟩ := List.map_eq_append_iff.mp same
  obtain ⟨name, rfl, nameFold⟩ := List.map_eq_singleton_iff.mp lastFold
  have size : front.length = parts.length := by simpa using congrArg List.length frontFold
  refine ⟨name, List.mem_filterMap.mpr ⟨entry, List.mem_of_find?_eq_some first, ?_⟩, nameFold⟩
  dsimp only
  rw [split, if_pos]
  · exact List.getLast?_concat
  · refine ⟨by simp [size], ?_⟩
    rw [← size, List.take_left, frontFold]

theorem Plain.replaced (plain : Plain folder directory) (chars : ∀ char ∈ base.toList, SlugChar char)
    (replaces : Reaches source folder base fun path => Node.isFile (source.node path) = true) :
    ∃ existing number name, source.childNames folder = .ok existing ∧ FirstUnlisted existing base number ∧
      name ∈ existing ∧ name ≠ candidate base number ++ ".md" ∧
        source.fold name = source.fold (candidate base number ++ ".md") := by
  obtain ⟨existing, number, path, listed, first, arrives, -, isFile⟩ := replaces
  have clean : Clean (candidate base number ++ ".md") := by
    apply clean_markdown
    intro char member
    cases number with
    | zero => exact chars char member
    | succ number =>
        rw [candidate, numbered, String.toList_append, String.toList_append, List.mem_append, List.mem_append] at member
        rcases member with (inBase | dash) | digit
        · exact chars char inBase
        · exact .inl (by rw [List.mem_singleton.mp dash]; rfl)
        · exact slugChar_toString digit
  rw [String.append_assoc] at arrives
  obtain rfl : path = pathParts directory ++ [candidate base number ++ ".md"] := plain.landing clean arrives
  cases there : source.node (pathParts directory ++ [candidate base number ++ ".md"]) with
  | none => rw [there] at isFile; cases isFile
  | some found =>
      obtain ⟨name, member, same⟩ := name_of_node there
      rw [← plain.childNames listed] at member
      refine ⟨existing, number, name, listed, first, member, ?_, same⟩
      rintro rfl
      exact first.2 member

end PlainFolders

/-- The folder `docs_save` uses for what the form has. -/
def savedFolder (form : SaveForm) : String := orElse (some (strip form.appSlug)) unfiledSlug

def savedBase (env : Env) (form : SaveForm) : String :=
  slugify env.tools.asciiFold (orElse (some (strip form.title)) "Untitled")

def upsertFolder (args : DocArgs) : String := strip (orElse args.folderSlug unfiledSlug)

def upsertBase (env : Env) (args : DocArgs) : String := slugify env.tools.asciiFold (strip (orElse args.title ""))

section Fairness

variable {env : Env} {rounds : Nat} {source : Source} {caller : Caller} {form : SaveForm} {args : DocArgs}
  {durationMs : Int}

theorem docsSave_fair_iff (enough : source.tree.entries.length < rounds) :
    ∃ ended, docsSave env rounds source caller form = some ended ∧
      (Fair source ended ↔ caller.tid = none ∨
        Reaches source (savedFolder form) (savedBase env form) fun path => Node.isFile (source.node path) = false) := by
  unfold docsSave
  cases tenant : caller.tid with
  | none => exact ⟨_, rfl, by simp [Fair]⟩
  | some tenant =>
      obtain ⟨result, created, reaches⟩ : ∃ result,
          create env rounds source (savedFolder form) (orElse (some (strip form.title)) "Untitled") form.body
            caller.username = some result ∧
          ∀ kind : List String → Prop, (∃ written, result = .ok written ∧ kind written.path) ↔
            Reaches source (savedFolder form) (savedBase env form) kind := create_ended enough
      dsimp only
      rw [← savedFolder, created, ← reaches]
      cases result with
      | error cause => exact ⟨_, rfl, by simp [Fair]⟩
      | ok written => exact ⟨_, rfl, by simp [Fair]⟩

theorem upsertDoc_fair_iff (enough : source.tree.entries.length < rounds) :
    ∃ ended, upsertDoc env rounds source args durationMs = some ended ∧
      (Fair source ended ↔ strip (orElse args.title "") = "" ∨ strip (orElse args.bodyMd "") = "" ∨
        ¬ Reaches source (upsertFolder args) (upsertBase env args) fun path =>
          Node.isFile (source.node path) = true) := by
  unfold upsertDoc
  dsimp only
  by_cases untitled : strip (orElse args.title "") = ""
  · exact ⟨_, if_pos untitled, by simp [Fair, untitled]⟩
  by_cases empty : strip (orElse args.bodyMd "") = ""
  · exact ⟨_, (if_neg untitled).trans (if_pos empty), by simp [Fair, empty]⟩
  obtain ⟨result, created, reaches⟩ : ∃ result,
      create env rounds source (upsertFolder args) (strip (orElse args.title "")) (orElse args.bodyMd "")
        (orElse args.author "agent") = some result ∧
      ∀ kind : List String → Prop, (∃ written, result = .ok written ∧ kind written.path) ↔
        Reaches source (upsertFolder args) (upsertBase env args) kind := create_ended enough
  rw [if_neg untitled, if_neg empty, ← upsertFolder, created, ← reaches]
  cases result with
  | error cause => exact ⟨_, rfl, by simp [Fair]⟩
  | ok written => exact ⟨_, rfl, by simp [Fair, untitled, empty]⟩

/-- Both ways of creating a document end; `docs_save` is fair when its folder can be listed and the first
unlisted candidate arrives where no file is, and `upsert_doc` when it does not arrive where one is. In a
plain folder that takes a name that only the file system finds equal. -/
theorem creation_fair_iff (env : Env) (source : Source) (caller : Caller) (form : SaveForm) (args : DocArgs)
    (durationMs : Int) :
    (∀ rounds > source.tree.entries.length,
      (∃ ended, docsSave env rounds source caller form = some ended ∧
        (Fair source ended ↔ caller.tid = none ∨
          Reaches source (savedFolder form) (savedBase env form) fun path =>
            Node.isFile (source.node path) = false)) ∧
      ∃ ended, upsertDoc env rounds source args durationMs = some ended ∧
        (Fair source ended ↔ strip (orElse args.title "") = "" ∨ strip (orElse args.bodyMd "") = "" ∨
          ¬ Reaches source (upsertFolder args) (upsertBase env args) fun path =>
            Node.isFile (source.node path) = true)) ∧
    ∀ folder directory title, Plain folder directory →
      Reaches source folder (slugify env.tools.asciiFold title) (fun path => Node.isFile (source.node path) = true) →
      ∃ existing number name, source.childNames folder = .ok existing ∧
        FirstUnlisted existing (slugify env.tools.asciiFold title) number ∧ name ∈ existing ∧
        name ≠ candidate (slugify env.tools.asciiFold title) number ++ ".md" ∧
        source.fold name = source.fold (candidate (slugify env.tools.asciiFold title) number ++ ".md") := by
  constructor
  · intro rounds enough
    exact ⟨docsSave_fair_iff enough, upsertDoc_fair_iff enough⟩
  · intro folder directory title plain replaces
    exact plain.replaced (fun _ => slugChar_slugify) replaces

end Fairness

def caseless : Source where
  backend := .smb none
  present := true
  tree := ⟨[⟨"ops/Run.md", .file "old" 0⟩], by simp [List.NodupKeys]⟩
  fold := lower
  listFault := fun _ => none
  writeFault := fun _ => none

def exampleEnv : Env where
  tools := { yaml := ⟨fun _ => none, fun _ _ _ _ => ""⟩, renderMarkdown := id, asciiFold := id }
  clock := { now := 0, updatedAt := "" }
  describe := fun _ => "ValueError: absolute path rejected"
  message := fun _ => "absolute path rejected"

/-- A document whose name differs in case is replaced, and a folder that is no path ends in an exception. -/
theorem case_variant_replaced :
    (∃ ended, docsSave exampleEnv 2 caseless ⟨some 1, 1, "ada"⟩ ⟨"Run", "ops", "new", ""⟩ = some ended ∧
      ¬ Fair caseless ended) ∧
    (∃ ended, upsertDoc exampleEnv 2 caseless ⟨some "Run", some "ops", some "new", none⟩ 0 = some ended ∧
      ¬ Fair caseless ended) ∧
    ∃ ended, docsSave exampleEnv 2 caseless ⟨some 1, 1, "ada"⟩ ⟨"Run", "/", "new", ""⟩ = some ended ∧
      ¬ Fair caseless ended := by
  refine ⟨⟨_, rfl, ?_⟩, ⟨_, rfl, ?_⟩, ⟨_, rfl, ?_⟩⟩
  · change ¬ Node.isFile (caseless.node ["ops", "run.md"]) = false
    decide
  · change ¬ Node.isFile (caseless.node ["ops", "run.md"]) = false
    decide
  · exact id


end Dosm.Docs.Creation
