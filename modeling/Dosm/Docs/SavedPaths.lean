import Dosm.Base.Checks
import Dosm.Docs.Canonical
import Dosm.Docs.PathAccess

namespace Dosm.Docs.SavedPaths

open Python Store Vault Routes
open PathAccess (RowRefuses access_granted path_ne_empty validPath_ok betaSite plainTools)

/-! Where an edit is written.

The target is put together from the name of the last folder and the stem of the file, with
a suffix of its own, and is normalised twice on its way. It is the file that is edited for
one shape of paths only.
-/

/-- The file that the caller edits; nothing above it is a file. -/
structure Editable (site : Site) (caller : Caller) (path rel : String) : Prop where
  named : site.store.safeRel path = .ok rel
  reached : site.store.client = .ok ()
  admitted : ∃ tenant, caller.tid = some tenant ∧ ¬RowRefuses site.documents path tenant
  stored : (held site.store.tree rel).isSome
  grounded : ∀ parent ∈ ancestors rel, held site.store.tree parent = none

/-- The form was filled in on the file as it is, or asks to overwrite it. -/
def Current (site : Site) (rel : String) (form : SaveForm) : Prop :=
  form.originalMtime = "" ∨ ∃ content mtimeMs, held site.store.tree rel = some (content, mtimeMs) ∧
    form.originalMtime = toString mtimeMs

def savedTitle (form : SaveForm) : String := orElse (some (strip form.title)) "Untitled"

/-- The file holds what the form says, and every other file is as it was. -/
structure Replaced (tools : Tools) (clock : Clock) (site : Site) (caller : Caller) (rel : String) (form : SaveForm)
    (after : DocsStore) : Prop where
  edited : ∃ folder, held after.tree rel =
    some (serializeDoc tools.yaml (savedTitle form) folder form.body caller.username clock.updatedAt, clock.now)
  others : ∀ name ≠ rel, held after.tree name = held site.store.tree name

/-- A normal path of one folder and one file with the suffix in small letters. -/
def InFolder (rel : String) : Prop :=
  normalizeRel rel = .ok rel ∧ ∃ folder stem, stem ≠ "" ∧ pathParts rel = [folder, stem ++ ".md"]

section Names

variable {name stem : String} {char : Char}

theorem nameStem_markdown (named : stem ≠ "") : nameStem (stem ++ ".md") = stem := by
  have reversed : (stem ++ ".md").toList.reverse = 'd' :: 'm' :: '.' :: stem.toList.reverse := by
    rw [String.toList_append, List.reverse_append]
    rfl
  have filled : stem.toList.reverse ≠ [] := fun empty =>
    named (String.toList_eq_nil_iff.mp (List.reverse_eq_nil_iff.mp empty))
  obtain ⟨first, rest, split⟩ := List.exists_cons_of_ne_nil filled
  unfold nameStem
  dsimp only
  rw [reversed, split, List.dropWhile_cons_of_pos (by decide), List.dropWhile_cons_of_pos (by decide), List.dropWhile_cons_of_neg (by decide)]
  change (if some 'd' = some '.' then stem ++ ".md" else String.ofList (first :: rest).reverse) = stem
  rw [if_neg (by decide), ← split, List.reverse_reverse, String.ofList_toList]

theorem mem_nameStem (member : char ∈ (nameStem name).toList) : char ∈ name.toList := by
  unfold nameStem at member
  dsimp only at member
  split at member
  next => exact member
  next => exact member
  next _ start _ cut =>
    split at member
    next => exact member
    next =>
      rw [String.toList_ofList, List.mem_reverse] at member
      have inside : char ∈ name.toList.reverse.dropWhile (· ≠ '.') := cut ▸ List.mem_cons_of_mem _ member
      exact List.mem_reverse.mp ((List.dropWhile_sublist _).subset inside)

end Names

section Targets

variable {folder file path rel part : String}

theorem replaceChar_plain {text : String} (plain : '\\' ∉ text.toList) : replaceChar '\\' '/' text = text := by
  have kept : text.toList.map (fun char => if char = '\\' then '/' else char) = text.toList := by
    refine (List.map_congr_left fun char member => ?_).trans (List.map_id _)
    by_cases same : char = '\\'
    · exact absurd (same ▸ member) plain
    · rw [if_neg same, id]
  rw [replaceChar, kept, String.ofList_toList]

theorem part_plain (valid : normalizeRel path = .ok rel) (listed : part ∈ pathParts rel) :
    '/' ∉ part.toList ∧ '\\' ∉ part.toList := by
  have cut := (List.mem_filter.mp listed).1
  refine ⟨split_plain cut, fun backslash => normal_backslash valid ?_⟩
  obtain ⟨piece, member, rfl⟩ := List.mem_map.mp cut
  rw [String.toList_ofList] at backslash
  exact (splitOn_sublist member).mem backslash

theorem pathParts_single {text : String} (plain : '/' ∉ text.toList) :
    pathParts text = [text].filter fun part => part ≠ "" ∧ part ≠ "." := by
  unfold pathParts split
  rw [List.splitOn_eq_singleton plain, List.map_singleton, String.ofList_toList]

def lstrip (text : String) : String := String.ofList (text.toList.dropWhile isSpace)

/-- A folder and a file are joined to a path of the two, unless the folder is a dot behind blanks. -/
theorem normalize_target (folderPlain : '/' ∉ folder.toList ∧ '\\' ∉ folder.toList)
    (filePlain : '/' ∉ file.toList ∧ '\\' ∉ file.toList) (ended : file.toList.getLast? = some 'd') (named : file ≠ ".")
    (valid : normalizeRel (folder ++ "/" ++ file) = .ok path) :
    path = file ∧ lstrip folder = "." ∨ strip path = path ∧ pathParts path = [lstrip folder, file] := by
  have slash : '\\' ∉ "/".toList := by decide
  have whole : replaceChar '\\' '/' (folder ++ "/" ++ file) = folder ++ "/" ++ file := by
    rw [replaceChar_append, replaceChar_append, replaceChar_plain folderPlain.2, replaceChar_plain slash,
      replaceChar_plain filePlain.2]
  have last : ∀ front : List Char, (front ++ '/' :: file.toList).rdropWhile isSpace = front ++ '/' :: file.toList := by
    intro front
    rw [List.rdropWhile_eq_self_iff]
    intro nonempty blank
    have final : (front ++ '/' :: file.toList).getLast? = some 'd' := by
      rw [List.getLast?_append, List.getLast?_cons, ended]
      rfl
    rw [List.getLast?_eq_some_getLast nonempty] at final
    rw [Option.some.inj final] at blank
    exact absurd blank (by decide)
  have stripped : strip (folder ++ "/" ++ file) = lstrip folder ++ "/" ++ file := by
    apply String.toList_injective
    rw [strip, String.toList_ofList, String.toList_append, String.toList_append, List.append_assoc]
    change ((folder.toList ++ '/' :: file.toList).dropWhile isSpace).rdropWhile isSpace = _
    have front : (folder.toList ++ '/' :: file.toList).dropWhile isSpace =
        folder.toList.dropWhile isSpace ++ '/' :: file.toList := by
      rw [List.dropWhile_append]
      split
      next empty =>
        rw [List.isEmpty_iff.mp empty]
        rfl
      next => rfl
    rw [front, last, lstrip, String.toList_append, String.toList_append, String.toList_ofList, List.append_assoc]
    rfl
  have some : lstrip folder ≠ "" := by
    intro empty
    have starts := valid
    unfold normalizeRel at starts
    dsimp only at starts
    rw [whole, stripped, empty, if_pos (by simp [startsWith])] at starts
    cases starts
  have leadPlain : '/' ∉ (lstrip folder).toList := by
    rw [lstrip, String.toList_ofList]
    exact fun member => folderPlain.1 ((List.dropWhile_sublist _).subset member)
  have filled : file ≠ "" := by
    rintro rfl
    cases ended
  have parts : pathParts (strip (replaceChar '\\' '/' (folder ++ "/" ++ file))) =
      ([lstrip folder].filter fun part => part ≠ "" ∧ part ≠ ".") ++ [file] := by
    have single : ([file].filter fun part => part ≠ "" ∧ part ≠ ".") = [file] :=
      List.filter_cons_of_pos (decide_eq_true ⟨filled, named⟩)
    rw [whole, stripped, pathParts_append, pathParts_single leadPlain, pathParts_single filePlain.1, single]
  have joined := (normalizeRel_eq_ok valid).2.2
  rw [parts] at joined
  by_cases dot : lstrip folder = "."
  · refine .inl ⟨?_, dot⟩
    rw [joined, List.filter_cons_of_neg (by simp [dot]), List.filter_nil, List.nil_append, String.intercalate_singleton]
  · have both : ([lstrip folder].filter fun part => part ≠ "" ∧ part ≠ ".") = [lstrip folder] :=
      List.filter_cons_of_pos (decide_eq_true ⟨some, dot⟩)
    refine .inr ⟨?_, ?_⟩
    · rw [joined, both, List.singleton_append, String.intercalate_cons_cons, String.intercalate_singleton, ← stripped, strip_strip]
    · rw [pathParts_normal valid, parts, both, List.singleton_append]

end Targets

section Saving

variable {tools : Tools} {clock : Clock} {site : Site} {caller : Caller} {path rel : String} {form : SaveForm}

def target (rel : String) : String :=
  orElse (some (pathName (pathParts rel).dropLast)) unfiledSlug ++ "/" ++ stem rel ++ ".md"

theorem stem_plain (valid : normalizeRel path = .ok rel) : '/' ∉ (stem rel).toList ∧ '\\' ∉ (stem rel).toList := by
  have filled : pathParts rel ≠ [] := by
    rw [pathParts_normal valid]
    exact (normalizeRel_eq_ok valid).1
  have listed : pathName (pathParts rel) ∈ pathParts rel := by
    rw [pathName, List.getLastD_eq_getLast?, List.getLast?_eq_some_getLast filled]
    exact List.getLast_mem filled
  have plain := part_plain valid listed
  exact ⟨fun member => plain.1 (mem_nameStem member), fun member => plain.2 (mem_nameStem member)⟩

theorem folder_plain (valid : normalizeRel path = .ok rel) :
    '/' ∉ (orElse (some (pathName (pathParts rel).dropLast)) unfiledSlug).toList ∧
      '\\' ∉ (orElse (some (pathName (pathParts rel).dropLast)) unfiledSlug).toList := by
  unfold orElse
  dsimp only
  split
  next => decide
  next named =>
    have listed : pathName (pathParts rel).dropLast ∈ pathParts rel := by
      cases last : (pathParts rel).dropLast.getLast? with
      | none =>
          rw [pathName, List.getLastD_eq_getLast?, last] at named
          exact absurd rfl named
      | some found =>
          rw [pathName, List.getLastD_eq_getLast?, last]
          exact List.dropLast_subset _ (List.mem_of_getLast? last)
    exact part_plain valid listed

/-- The target is the path itself only for a file of a folder, in whose name nothing is changed. -/
theorem inFolder_of_target {norm : String} (valid : normalizeRel path = .ok rel)
    (first : normalizeRel (target rel) = .ok norm) (second : normalizeRel norm = .ok rel) : InFolder rel := by
  have stemPlain := stem_plain valid
  have filePlain : '/' ∉ (stem rel ++ ".md").toList ∧ '\\' ∉ (stem rel ++ ".md").toList := by
    rw [String.toList_append, List.mem_append, List.mem_append]
    exact ⟨not_or.mpr ⟨stemPlain.1, by decide⟩, not_or.mpr ⟨stemPlain.2, by decide⟩⟩
  have ended : (stem rel ++ ".md").toList.getLast? = some 'd' := by
    rw [String.toList_append, List.getLast?_append]
    rfl
  have named : stem rel ++ ".md" ≠ "." := by
    intro dot
    rw [dot] at ended
    exact absurd ended (by decide)
  have joined : normalizeRel (orElse (some (pathName (pathParts rel).dropLast)) unfiledSlug ++ "/" ++ (stem rel ++ ".md")) =
      .ok norm := by
    rw [← String.append_assoc]
    exact first
  rcases normalize_target (folder_plain valid) filePlain ended named joined with ⟨rfl, dotted⟩ | ⟨trimmed, parts⟩
  · -- Only one component is left, so that the folder was the one for files without a folder.
    have alone : (pathParts rel).dropLast = [] := by
      have plain : '/' ∉ (strip (replaceChar '\\' '/' (stem rel ++ ".md"))).toList := by
        rw [replaceChar_plain filePlain.2]
        exact fun member => filePlain.1 (mem_of_mem_strip member)
      rw [pathParts_normal second, pathParts_single plain]
      have few := List.length_filter_le (fun part : String => decide (part ≠ "" ∧ part ≠ "."))
        [strip (replaceChar '\\' '/' (stem rel ++ ".md"))]
      rw [List.length_singleton] at few
      exact List.eq_nil_of_length_eq_zero (by rw [List.length_dropLast]; omega)
    rw [alone] at dotted
    exact absurd dotted (by decide)
  · have same : rel = norm := by
      rw [normalizeRel_again joined trimmed] at second
      exact (Except.ok.inj second).symm
    subst same
    refine ⟨second, _, stem rel, ?_, parts⟩
    intro empty
    have name : stem rel = nameStem (stem rel ++ ".md") := by
      conv_lhs => rw [stem, parts]
      rfl
    rw [empty] at name
    exact absurd name (by decide)

theorem target_inFolder (inside : InFolder rel) : target rel = rel := by
  obtain ⟨valid, folder, file, named, parts⟩ := inside
  have filled : folder ≠ "" := by
    have listed : folder ∈ pathParts rel := parts ▸ List.mem_cons_self
    exact (of_decide_eq_true (List.mem_filter.mp listed).2).1
  have stemmed : stem rel = file := by
    rw [stem, parts]
    exact nameStem_markdown named
  have whole : rel = folder ++ "/" ++ (file ++ ".md") := by
    have joined := (normalizeRel_eq_ok valid).2.2
    rw [← pathParts_normal valid, parts, String.intercalate_cons_cons, String.intercalate_singleton] at joined
    exact joined
  rw [target, stemmed, parts]
  change orElse (some folder) unfiledSlug ++ "/" ++ file ++ ".md" = rel
  rw [orElse, if_neg filled, String.append_assoc]
  exact whole.symm

def edit (tools : Tools) (clock : Clock) (site : Site) (caller : Caller) (rel : String) (form : SaveForm) :
    Except StoreError (String × DocsStore) :=
  saveDoc tools.yaml site.store
    { folderSlug := orElse (some (pathName (pathParts rel).dropLast)) unfiledSlug, docSlug := stem rel,
      title := savedTitle form, bodyMd := form.body, author := caller.username } clock.updatedAt clock.now

theorem uncaught_ok {Result : Type} {operation : Except StoreError Result} {result : Result}
    (passed : uncaught operation = .ok result) : operation = .ok result := by
  cases operation with
  | error cause => cases passed
  | ok value =>
      cases passed
      rfl

theorem saveDoc_held {yaml : Yaml} {store after : DocsStore} {save : Save} {updatedAt reported : String} {now : Int}
    (written : saveDoc yaml store save updatedAt now = .ok (reported, after)) :
    store.safeRel (save.folderSlug ++ "/" ++ save.docSlug ++ ".md") = .ok reported ∧
      ∃ norm, store.safeRel reported = .ok norm ∧
        held after.tree norm = some (serializeDoc yaml save.title save.folderSlug save.bodyMd save.author updatedAt, now) ∧
        ∀ name ≠ norm, held after.tree name = held store.tree name := by
  unfold saveDoc at written
  cases safe : store.safeRel (save.folderSlug ++ "/" ++ save.docSlug ++ ".md") with
  | error error => rw [safe] at written; cases written
  | ok found =>
      rw [safe] at written
      obtain ⟨next, stored, made⟩ := Checks.bind_ok written
      cases made
      obtain ⟨norm, again, -, edited, others⟩ := DocsStore.writeBytes_spec stored
      exact ⟨rfl, norm, again, edited, others⟩

theorem edit_of_docsSave {tenant : Int} {outcome : Outcome} (within : caller.tid = some tenant)
    (named : site.store.safeRel path = .ok rel) (unchecked : form.originalMtime = "")
    (saved : docsSave tools clock site caller path form = .ok outcome) :
    ∃ reported, edit tools clock site caller rel form = .ok (reported, outcome.store) := by
  simp only [docsSave, within, ne_eq, path_ne_empty named, not_false_eq_true, ↓reduceIte, unchecked] at saved
  obtain ⟨found, checked, saved⟩ := Checks.bind_ok saved
  obtain ⟨same, valid, checked⟩ := Checks.bind_ok checked
  rw [validPath_ok named] at valid
  cases valid
  obtain ⟨_, -, checked⟩ := Checks.bind_ok checked
  obtain ⟨present, -, checked⟩ := Checks.bind_ok checked
  have equal : found = rel := by
    cases present with
    | false => cases checked
    | true =>
        cases checked
        rfl
  subst equal
  obtain ⟨_, passed, saved⟩ := Checks.bind_ok saved
  cases passed
  rw [if_neg (not_not_intro rfl)] at saved
  obtain ⟨⟨reported, after⟩, written, saved⟩ := Checks.bind_ok saved
  cases saved
  exact ⟨reported, uncaught_ok written⟩

theorem serializeDoc_body {yaml : Yaml} {first second title author updatedAt : String} :
    serializeDoc yaml title first "a" author updatedAt ≠ serializeDoc yaml title second "b" author updatedAt := by
  intro same
  have ends := congrArg (fun text : String => text.toList.reverse) same
  have bodies : rstrip "a" = "a" ∧ rstrip "b" = "b" := by decide
  simp [serializeDoc, bodies, String.toList_append, List.reverse_append] at ends

theorem fileMtimeMs_held {store : DocsStore} {content : String} {mtimeMs : Int} (reached : store.client = .ok ())
    (again : store.safeRel rel = .ok rel) (stored : held store.tree rel = some (content, mtimeMs)) :
    fileMtimeMs store rel = .ok mtimeMs := by
  have found : store.fileAt rel = .ok (content, mtimeMs) := by
    rw [DocsStore.fileAt, again]
    dsimp only
    rw [lookup_of_held stored]
  simp [fileMtimeMs, DocsStore.stat, reached, found, bind, Except.bind, pure, Except.pure]

theorem requireFile_ok {tenant : Int} (within : caller.tid = some tenant) (admitted : ¬RowRefuses site.documents path tenant)
    (named : site.store.safeRel path = .ok rel) (present : site.store.isFile rel = .ok true) :
    requireFile site caller path = .ok rel := by
  simp only [requireFile, validPath_ok named, within, access_granted admitted, bind, Except.bind, present]
  rfl

theorem docsSave_of_edit {tenant : Int} {reported : String} {after : DocsStore} (within : caller.tid = some tenant)
    (admitted : ¬RowRefuses site.documents path tenant) (named : site.store.safeRel path = .ok rel)
    (present : site.store.isFile rel = .ok true) (again : site.store.safeRel rel = .ok rel) (current : Current site rel form)
    (written : edit tools clock site caller rel form = .ok (reported, after)) :
    ∃ outcome, docsSave tools clock site caller path form = .ok outcome ∧ outcome.store = after := by
  have reached := (DocsStore.isFile_true_iff.mp present).1
  have saved : uncaught (edit tools clock site caller rel form) = .ok (reported, after) := by rw [written]; rfl
  unfold edit savedTitle at saved
  simp only [docsSave, within, ne_eq, path_ne_empty named, not_false_eq_true, ↓reduceIte,
    requireFile_ok within admitted named present, bind, Except.bind]
  by_cases unchecked : form.originalMtime = ""
  · simp only [unchecked, ↓reduceIte, pure, Except.pure, not_true_eq_false, saved]
    exact ⟨_, rfl, rfl⟩
  · rcases current with empty | ⟨content, mtimeMs, stored, same⟩
    · exact absurd empty unchecked
    · have asked : (toString <$> uncaught (fileMtimeMs site.store rel) : Except Response String) = .ok form.originalMtime := by
        rw [fileMtimeMs_held reached again stored, same]
        rfl
      simp only [unchecked, ↓reduceIte, asked, pure, Except.pure, not_true_eq_false, saved]
      exact ⟨_, rfl, rfl⟩

theorem edit_taken (editable : Editable site caller path rel) (targeted : target rel = rel)
    (again : site.store.safeRel rel = .ok rel) : ∃ after, edit tools clock site caller rel form = .ok (rel, after) := by
  have free : ¬(ancestors rel).any (fun parent => Node.isFile (site.store.tree.lookup parent)) := by
    intro blocked
    obtain ⟨parent, above, file⟩ := List.any_eq_true.mp blocked
    rw [isFile_iff_held, editable.grounded parent above] at file
    cases file
  have file : site.store.tree.lookup rel ≠ some .directory := by
    intro directory
    have stored := editable.stored
    rw [held, directory] at stored
    cases stored
  have safe : site.store.safeRel (target rel) = .ok rel := by
    rw [targeted]
    exact again
  unfold target at safe
  simp only [edit, saveDoc, safe, DocsStore.writeBytes, editable.reached, again, bind, Except.bind, if_neg free, if_neg file,
    pure, Except.pure]
  exact ⟨_, rfl⟩

/-- An edit that is taken replaces the file exactly when the file is in a folder of its own and its suffix is written
in small letters. -/
theorem docsSave_replaces_iff (tools : Tools) (clock : Clock) (site : Site) (caller : Caller) (path rel : String)
    (editable : Editable site caller path rel) :
    (∀ form, Current site rel form → ∃ outcome, docsSave tools clock site caller path form = .ok outcome ∧
      Replaced tools clock site caller rel form outcome.store) ↔ InFolder rel := by
  obtain ⟨tenant, within, admitted⟩ := editable.admitted
  have valid := safeRel_normal editable.named
  constructor
  · intro replaced
    by_contra outside
    have kept : ∀ body, ∃ folder, held site.store.tree rel =
        some (serializeDoc tools.yaml "Untitled" folder body caller.username clock.updatedAt, clock.now) := by
      intro body
      obtain ⟨outcome, saved, edited, others⟩ := replaced ⟨"", "", body, ""⟩ (.inl rfl)
      obtain ⟨reported, written⟩ := edit_of_docsSave within editable.named rfl saved
      obtain ⟨first, norm, second, -, unchanged⟩ := saveDoc_held written
      have elsewhere : rel ≠ norm := by
        rintro rfl
        exact outside (inFolder_of_target valid (safeRel_normal first) (safeRel_normal second))
      obtain ⟨folder, edited⟩ := edited
      exact ⟨folder, (unchanged rel elsewhere).symm.trans edited⟩
    obtain ⟨first, holdsFirst⟩ := kept "a"
    obtain ⟨second, holdsSecond⟩ := kept "b"
    rw [holdsFirst] at holdsSecond
    exact serializeDoc_body (Prod.mk.inj (Option.some.inj holdsSecond)).1
  · intro inside form current
    have again := safeRel_again editable.named inside.1
    have present : site.store.isFile rel = .ok true :=
      DocsStore.isFile_true_iff.mpr ⟨editable.reached, rel, again, editable.stored⟩
    obtain ⟨after, written⟩ := edit_taken editable (target_inFolder inside) again
    obtain ⟨outcome, saved, rfl⟩ := docsSave_of_edit within admitted editable.named present again current written
    refine ⟨outcome, saved, ?_⟩
    obtain ⟨-, norm, second, edited, others⟩ := saveDoc_held written
    rw [again] at second
    cases second
    exact ⟨⟨_, edited⟩, others⟩

theorem secret_edited : ∃ outcome,
    docsSave plainTools ⟨3000, ""⟩ betaSite ⟨some 2, 7, "bob"⟩ "beta/secret.md" ⟨"Secret", "", "new", "1000"⟩ = .ok outcome ∧
      Replaced plainTools ⟨3000, ""⟩ betaSite ⟨some 2, 7, "bob"⟩ "beta/secret.md" ⟨"Secret", "", "new", "1000"⟩ outcome.store := by
  refine (docsSave_replaces_iff plainTools ⟨3000, ""⟩ betaSite ⟨some 2, 7, "bob"⟩ "beta/secret.md" "beta/secret.md" {
    named := by decide
    reached := by decide
    admitted := ⟨2, rfl, ?_⟩
    stored := by decide
    grounded := by decide }).mpr ?_ _ ?_
  · rintro ⟨doc, first, other⟩
    have own : (betaSite.documents.find? fun doc => doc.relPath = "beta/secret.md").map Models.Document.tenantId = some 2 := by decide
    rw [first] at own
    exact other (Option.some.inj own)
  · exact ⟨by decide, "beta", "secret", by decide, by decide⟩
  · exact .inr ⟨"beta only", 1000, by decide, by decide⟩

def nestedSite : Site where
  store := {
    backend := .localRoot fun _ => true
    present := true
    tree := (AList.insert "runbooks/prod/db.md" (.file "nested" 1000) ∅).insert "prod/db.md" (.file "flat" 2000) }
  documents := []
  folders := []

/-- The edit of the one replaces the other and leaves its own file as it is. -/
theorem nested_edit_replaces_other :
    Editable nestedSite ⟨some 1, 7, "alice"⟩ "runbooks/prod/db.md" "runbooks/prod/db.md" ∧
      (docsSave plainTools ⟨3000, ""⟩ nestedSite ⟨some 1, 7, "alice"⟩ "runbooks/prod/db.md" ⟨"DB", "", "new", "1000"⟩).toOption.map
        (fun outcome => (held outcome.store.tree "runbooks/prod/db.md", held outcome.store.tree "prod/db.md")) =
          some (some ("nested", 1000), some ("---\n---\n\nnew\n", 3000)) := by
  refine ⟨{
    named := by decide
    reached := by decide
    admitted := ⟨1, rfl, fun ⟨doc, first, _⟩ => by cases first⟩
    stored := by decide
    grounded := by decide }, by decide +kernel⟩

end Saving

end Dosm.Docs.SavedPaths
