import Mathlib.Data.List.Sort
import Dosm.Base.Checks
import Dosm.Base.Transition
import Dosm.Docs.Paths

namespace Dosm.Docs.CliReference

open Python Store Transition

/-! The bundled CLI reference and its stamp.

An installation clears the folder name by name, in the order the store lists them, writes the
pages of the bundle, and stamps the folder with the version. Any call to the store may fail, and
a call that fails may have left something behind.
-/

def vaultSubdir : String := "_dosm-cli"

def stampName : String := ".dosm-cli-version"

def target (name : String) : String := vaultSubdir ++ "/" ++ name

structure PageName (name : String) : Prop where
  clean : Clean name
  markdown : endsWith name ".md" = true

def pages (readme exitCodes : Option String) (generated : List (String × String)) : List (String × String) :=
  (readme.map ("README.md", ·)).toList ++ (exitCodes.map ("exit-codes.md", ·)).toList ++
    generated.insertionSort fun first second => first.1 ≤ second.1

/-- The bundle of a version; the generated pages are named after the command groups. -/
structure Bundle where
  readme : Option String
  exitCodes : Option String
  generated : List (String × String)
  named : ∀ page ∈ pages readme exitCodes generated, PageName page.1
  distinct : ((pages readme exitCodes generated).map Prod.fst).Nodup

def Bundle.files (bundle : Bundle) : List (String × String) := pages bundle.readme bundle.exitCodes bundle.generated

@[ext] structure Version where
  text : String
  trimmed : strip text = text

def versionStamp (version : Version) : String := version.text ++ "\n"

/-- The errors that the deletion of a name passes over. -/
def ignored : StoreError → Bool
  | .notFound _ | .invalid _ => true
  | _ => false

/-- What a failing call has done: nothing, all of it, or for a write a temporary file, with the old file perhaps
gone. -/
inductive Damage where
  | untouched
  | done
  | staged (name written : String) (lost : Bool)
  deriving DecidableEq

/-- The call to the store that fails, counted from the listing of the folder. -/
structure Fault where
  call : Nat
  damage : Damage
  error : StoreError
  raised : ignored error = false
  temporary : ∀ name written lost, damage = .staged name written lost → Clean name ∧ endsWith name ".tmp" = true

abbrev Ended := DocsStore × Except StoreError Unit

def faultAt (fault : Option Fault) (call : Nat) : Option Fault := fault.filter fun fault => fault.call = call

def deleteCall (store : DocsStore) (rel : String) : Option Fault → Ended
  | none =>
      match store.delete rel with
      | .ok after => (after, .ok ())
      | .error error => (store, .error error)
  | some fault =>
      (match fault.damage with
        | .done => (store.delete rel).toOption.getD store
        | _ => store, .error fault.error)

def writeCall (store : DocsStore) (rel content : String) (now : Int) : Option Fault → Ended
  | none =>
      match store.writeBytes rel content now with
      | .ok after => (after, .ok ())
      | .error error => (store, .error error)
  | some fault =>
      (match fault.damage with
        | .untouched => store
        | .done => (store.writeBytes rel content now).toOption.getD store
        | .staged name written lost =>
            let left := (store.writeBytes (target name) written now).toOption.getD store
            if lost then (left.delete rel).toOption.getD left else left, .error fault.error)

/-- The deletions, one for each listed name. -/
def clear (fault : Option Fault) : Nat → DocsStore → List String → Ended
  | _, store, [] => (store, .ok ())
  | call, store, name :: rest =>
      match deleteCall store (target name) (faultAt fault call) with
      | (after, .ok ()) => clear fault (call + 1) after rest
      | (after, .error error) => if ignored error then clear fault (call + 1) after rest else (after, .error error)

def writeAll (fault : Option Fault) (now : Int) : Nat → DocsStore → List (String × String) → Ended
  | _, store, [] => (store, .ok ())
  | call, store, file :: rest =>
      match writeCall store (target file.1) file.2 now (faultAt fault call) with
      | (after, .ok ()) => writeAll fault now (call + 1) after rest
      | (after, .error error) => (after, .error error)

/-- A run of the installation: the order of the listing, the call that fails, and the time. -/
structure Install where
  version : Version
  names : List String
  fault : Option Fault
  now : Int

/-- The deletions of a run, if the folder could be listed. -/
def cleared (store : DocsStore) (run : Install) : Ended :=
  match faultAt run.fault 0 with
  | some fault => (store, .error fault.error)
  | none =>
      match store.childNames vaultSubdir with
      | .error error => (store, .error error)
      | .ok _ => clear run.fault 1 store run.names

def installCliReference (bundle : Version → Bundle) (store : DocsStore) (run : Install) : Ended :=
  match cleared store run with
  | (after, .error error) => (after, .error error)
  | (after, .ok ()) =>
      writeAll run.fault run.now (run.names.length + 1) after
        ((bundle run.version).files ++ [(stampName, versionStamp run.version)])

def isCurrent (store : DocsStore) (version : Version) : Except StoreError Bool := do
  if ← store.isFile (target stampName) then
    match store.readText (target stampName) with
    | .ok content => return strip content = strip (versionStamp version)
    | .error _ => return false
  else return false

/-- The store, and the names that installations have written below the folder, which no call reads. -/
structure Site where
  store : DocsStore
  written : List String

def attempted (bundle : Version → Bundle) (store : DocsStore) (run : Install) : List String :=
  match (cleared store run).2 with
  | .error _ => []
  | .ok () =>
      let left := run.fault.toList.filterMap fun fault => match fault.damage with
        | .staged name _ _ => some name
        | _ => none
      ((bundle run.version).files.map Prod.fst ++ left).filter fun name => (store.safeRel (target name)).toOption.isSome

/-- The run sees the names of the folder, in some order. -/
def listed (store : DocsStore) (run : Install) : Bool :=
  match store.childNames vaultSubdir with
  | .error _ => true
  | .ok names => run.names.Perm names

def siteAfter (bundle : Version → Bundle) (site : Site) (run : Install) : Site where
  store := (installCliReference bundle site.store run).1
  written := site.written ++ attempted bundle site.store run

def machine (bundle : Version → Bundle) : Machine Site Install where
  initial _ := True
  step site run := if listed site.store run then some (siteAfter bundle site run) else none

/-- Every page is there with its bytes, and nothing else that an installation wrote but the stamp. -/
def Complete (bundle : Version → Bundle) (version : Version) (site : Site) : Prop :=
  (∀ file ∈ (bundle version).files, (held site.store.tree (target file.1)).map Prod.fst = some file.2) ∧
    ∀ name ∈ site.written, (held site.store.tree (target name)).isSome →
      name = stampName ∨ name ∈ (bundle version).files.map Prod.fst

/-- A folder that counts as current is complete. -/
def Honest (bundle : Version → Bundle) (site : Site) : Prop :=
  ∀ version, isCurrent site.store version = .ok true → Complete bundle version site

/-- What was written has a name that the store still accepts. -/
def Installed (site : Site) : Prop :=
  ∀ name ∈ site.written, Clean name ∧ name ≠ ".." ∧ site.store.safeRel (target name) = .ok (target name)

def normalOf (store : DocsStore) (name : String) : Option String := (store.safeRel (target name)).toOption

/-- The deletion of the name raises: the share does not answer, or a directory has the name. -/
def refuses (store : DocsStore) (name : String) : Bool :=
  match store.client with
  | .error _ => true
  | .ok () =>
      match store.safeRel (target name) with
      | .error error => !ignored (store.wrap ("delete " ++ target name) (.invalid error))
      | .ok norm => store.tree.lookup norm = some .directory

/-- The paths that the deletions of a run go over before one of them raises. -/
def taken (store : DocsStore) (fault : Option Fault) : Nat → List String → List String
  | _, [] => []
  | call, name :: rest =>
      match faultAt fault call with
      | some fault => if fault.damage = .done ∧ refuses store name = false then (normalOf store name).toList else []
      | none =>
          if refuses store name then [] else (normalOf store name).toList ++ taken store fault (call + 1) rest

/-- Where a folder counts as current, the deletions of the run get as far as the stamp, or over no page. -/
def Careful (bundle : Version → Bundle) (site : Site) (run : Install) : Prop :=
  faultAt run.fault 0 = none → ∀ version, isCurrent site.store version = .ok true →
    target stampName ∈ taken site.store run.fault 1 run.names ∨
      ∀ file ∈ (bundle version).files, target file.1 ∉ taken site.store run.fault 1 run.names

section Names

variable {name other norm : String} {store : DocsStore}

theorem clean_subdir : Clean vaultSubdir where
  named := by decide
  plain := List.all_iff_forall_prop.mp (by decide)

theorem replaceChar_target (clean : Clean name) : replaceChar '\\' '/' (target name) = target name := by
  have head : replaceChar '\\' '/' (vaultSubdir ++ "/") = vaultSubdir ++ "/" := by decide
  rw [target, replaceChar_append, head, clean.replaced]

theorem strip_target (clean : Clean name) : strip (target name) = target name :=
  strip_slash (by decide) (by decide) clean

theorem pathParts_target (clean : Clean name) : pathParts (target name) = [vaultSubdir, name] := by
  have head : pathParts (strip (replaceChar '\\' '/' (vaultSubdir ++ "/" ++ name))) = vaultSubdir :: tailParts name :=
    headParts_slash clean_subdir
  rw [tailParts_clean clean] at head
  have plain : strip (replaceChar '\\' '/' (target name)) = target name := by
    rw [replaceChar_target clean, strip_target clean]
  rw [← plain]
  exact head

theorem target_eq : "/".intercalate [vaultSubdir, name] = target name := by
  rw [String.intercalate_cons_of_ne_nil (List.cons_ne_nil _ _), String.intercalate_singleton]
  rfl

theorem normalizeRel_target (clean : Clean name) (proper : name ≠ "..") : normalizeRel (target name) = .ok (target name) := by
  have relative : startsWith (target name) "/" = false := by
    simp [startsWith, target, vaultSubdir, List.isPrefixOf]
  have up : ".." ∉ [vaultSubdir, name] := by
    rw [List.mem_cons, List.mem_singleton]
    rintro (same | same)
    · exact absurd same (by decide)
    · exact proper same.symm
  unfold normalizeRel
  dsimp only
  rw [replaceChar_target clean, strip_target clean, relative, if_neg Bool.false_ne_true, pathParts_target clean, if_neg up,
    if_neg (List.cons_ne_nil _ _), target_eq]

theorem target_inj (same : target name = target other) : name = other := by
  have chars := congrArg String.toList same
  simp only [target, String.toList_append] at chars
  exact String.toList_inj.mp (List.append_cancel_left chars)

end Names

def Shrinks (store after : DocsStore) : Prop :=
  after.backend = store.backend ∧ ∀ path, after.tree.lookup path = store.tree.lookup path ∨
    (held store.tree path).isSome ∧ after.tree.lookup path = none

def removed (store : DocsStore) (name : String) : DocsStore := (store.delete (target name)).toOption.getD store

section Deletions

variable {store after last : DocsStore} {name path norm : String} {names rest : List String} {fault : Option Fault}
  {failing : Fault} {call : Nat}

theorem Shrinks.refl (store : DocsStore) : Shrinks store store := ⟨rfl, fun _ => .inl rfl⟩

theorem Shrinks.trans (first : Shrinks store after) (second : Shrinks after last) : Shrinks store last := by
  refine ⟨second.1.trans first.1, fun path => ?_⟩
  rcases second.2 path with same | ⟨isHeld, gone⟩
  · rw [same]
    exact first.2 path
  · rcases first.2 path with before | ⟨_, empty⟩
    · rw [held, before] at isHeld
      exact .inr ⟨isHeld, gone⟩
    · rw [held, empty] at isHeld
      cases isHeld

theorem Shrinks.held_none (shrinks : Shrinks store after) (empty : held store.tree path = none) :
    held after.tree path = none := by
  rcases shrinks.2 path with same | ⟨-, gone⟩
  · rw [held, same]
    exact empty
  · rw [held, gone]

theorem Shrinks.held_some {content : String} {time : Int} (shrinks : Shrinks store after)
    (isHeld : held after.tree path = some (content, time)) : held store.tree path = some (content, time) := by
  rcases shrinks.2 path with same | ⟨-, gone⟩
  · rw [held, same] at isHeld
    exact isHeld
  · rw [held, gone] at isHeld
    cases isHeld

theorem Shrinks.directory (shrinks : Shrinks store after) :
    after.tree.lookup path = some .directory ↔ store.tree.lookup path = some .directory := by
  rcases shrinks.2 path with same | ⟨isHeld, gone⟩
  · rw [same]
  · rw [gone]
    apply iff_of_false
    · nofun
    · intro directory
      rw [held, directory] at isHeld
      cases isHeld

theorem Shrinks.safeRel_eq (shrinks : Shrinks store after) (rel : String) : after.safeRel rel = store.safeRel rel := by
  unfold DocsStore.safeRel
  rw [shrinks.1]

theorem Shrinks.client_eq (shrinks : Shrinks store after) : after.client = store.client := by
  unfold DocsStore.client
  rw [shrinks.1]

theorem Shrinks.refuses_eq (shrinks : Shrinks store after) : refuses after name = refuses store name := by
  unfold refuses DocsStore.wrap
  rw [shrinks.safeRel_eq, shrinks.client_eq, shrinks.1]
  split
  · rfl
  split
  · rfl
  · exact decide_eq_decide.mpr shrinks.directory

theorem Shrinks.taken_eq (shrinks : Shrinks store after) : taken after fault call names = taken store fault call names := by
  induction names generalizing call with
  | nil => rfl
  | cons name rest ih => rw [taken, taken, normalOf, normalOf, shrinks.safeRel_eq, shrinks.refuses_eq, ih]

inductive Deletion (store : DocsStore) (name : String) : Prop where
  | refused {error : StoreError} (refuses : refuses store name = true) (raises : ignored error = false)
      (failed : store.delete (target name) = .error error)
  | passed {error : StoreError} (accepts : refuses store name = false) (passes : ignored error = true)
      (missing : ∀ norm, normalOf store name = some norm → held store.tree norm = none)
      (failed : store.delete (target name) = .error error)
  | deleted {norm : String} (accepts : refuses store name = false) (named : normalOf store name = some norm)
      (isHeld : (held store.tree norm).isSome) (erased : store.delete (target name) = .ok { store with
        tree := store.tree.erase norm })

theorem deletion (store : DocsStore) (name : String) : Deletion store name := by
  cases reached : store.client with
  | error error =>
      have unreachable : ignored error = false := by
        unfold DocsStore.client at reached
        split at reached
        · cases reached
          rfl
        · cases reached
      exact .refused (by rw [refuses, reached]) unreachable (by simp [DocsStore.delete, reached, bind, Except.bind])
  | ok _ =>
      cases safe : store.safeRel (target name) with
      | error error =>
          have failed : store.delete (target name) = .error (store.wrap ("delete " ++ target name) (.invalid error)) := by
            simp [DocsStore.delete, reached, safe, bind, Except.bind, throw, throwThe, MonadExceptOf.throw]
          cases passes : ignored (store.wrap ("delete " ++ target name) (.invalid error)) with
          | false => exact .refused (by simp [refuses, reached, safe, passes]) passes failed
          | true =>
              refine .passed (by simp [refuses, reached, safe, passes]) passes ?_ failed
              intro norm named
              rw [normalOf, safe] at named
              cases named
      | ok norm =>
          have named : normalOf store name = some norm := by rw [normalOf, safe]; rfl
          cases found : store.tree.lookup norm with
          | none =>
              refine @Deletion.passed _ _ (.notFound (target name)) (by simp [refuses, reached, safe, found]) rfl ?_ ?_
              · intro other same
                cases named.symm.trans same
                rw [held, found]
              · simp [DocsStore.delete, reached, safe, found, bind, Except.bind, throw, throwThe, MonadExceptOf.throw]
          | some node =>
              cases node with
              | directory =>
                  have raises : ignored (store.wrap ("delete " ++ target name) (.osError "is a directory")) = false := by
                    unfold DocsStore.wrap
                    cases store.backend with
                    | localRoot contained => rfl
                    | smb reason => rfl
                  refine .refused (by simp [refuses, reached, safe, found]) raises ?_
                  simp [DocsStore.delete, reached, safe, found, bind, Except.bind, throw, throwThe, MonadExceptOf.throw]
              | file content time =>
                  refine .deleted (by simp [refuses, reached, safe, found]) named (by rw [held, found]; rfl) ?_
                  simp [DocsStore.delete, reached, safe, found, bind, Except.bind, pure, Except.pure]

theorem removed_shrinks (store : DocsStore) (name : String) : Shrinks store (removed store name) := by
  unfold removed
  cases deletion store name with
  | refused refuses raises failed =>
      rw [failed]
      exact .refl store
  | passed accepts passes missing failed =>
      rw [failed]
      exact .refl store
  | @deleted norm accepts named isHeld erased =>
      rw [erased]
      refine ⟨rfl, fun path => ?_⟩
      by_cases same : path = norm
      · subst same
        exact .inr ⟨isHeld, AList.lookup_erase _ _⟩
      · exact .inl (AList.lookup_erase_ne same)

theorem removed_refused (refused : refuses store name = true) : removed store name = store := by
  unfold removed
  cases deletion store name with
  | refused refuses raises failed =>
      rw [failed]
      rfl
  | passed accepts => rw [refused] at accepts; cases accepts
  | deleted accepts => rw [refused] at accepts; cases accepts

theorem removed_gone (accepts : refuses store name = false) (named : normalOf store name = some norm) :
    held (removed store name).tree norm = none := by
  unfold removed
  cases deletion store name with
  | refused refuses => rw [accepts] at refuses; cases refuses
  | passed accepts passes missing failed =>
      rw [failed]
      exact missing norm named
  | deleted accepts other isHeld erased =>
      rw [erased]
      cases named.symm.trans other
      exact held_erase

theorem removed_other (apart : normalOf store name ≠ some path) :
    (removed store name).tree.lookup path = store.tree.lookup path := by
  unfold removed
  cases deletion store name with
  | refused refuses raises failed =>
      rw [failed]
      rfl
  | passed accepts passes missing failed =>
      rw [failed]
      rfl
  | deleted accepts named isHeld erased =>
      rw [erased]
      refine AList.lookup_erase_ne ?_
      rintro rfl
      exact apart named

theorem clear_fault (fails : faultAt fault call = some failing) : clear fault call store (name :: rest) =
    (if failing.damage = .done then removed store name else store, .error failing.error) := by
  rw [clear, fails]
  simp only [deleteCall]
  rw [failing.raised, if_neg Bool.false_ne_true]
  cases failing.damage with
  | untouched => rfl
  | done => rfl
  | staged other written lost => rfl

theorem clear_refused (works : faultAt fault call = none) (refused : refuses store name = true) :
    ∃ error, clear fault call store (name :: rest) = (store, .error error) := by
  cases deletion store name with
  | @refused error refuses raises failed => exact ⟨error, by simp [clear, works, deleteCall, failed, raises]⟩
  | passed accepts => rw [refused] at accepts; cases accepts
  | deleted accepts => rw [refused] at accepts; cases accepts

theorem clear_next (works : faultAt fault call = none) (accepts : refuses store name = false) :
    clear fault call store (name :: rest) = clear fault (call + 1) (removed store name) rest := by
  cases deletion store name with
  | refused refuses => rw [accepts] at refuses; cases refuses
  | passed accepts passes missing failed =>
      simp [clear, works, deleteCall, failed, passes, removed, Except.toOption]
  | deleted accepts named isHeld erased =>
      simp [clear, works, deleteCall, erased, removed, Except.toOption]

theorem clear_shrinks : Shrinks store (clear fault call store names).1 := by
  induction names generalizing call store with
  | nil => exact .refl store
  | cons name rest ih =>
      cases fails : faultAt fault call with
      | some failing =>
          rw [clear_fault fails]
          dsimp only
          split
          · exact removed_shrinks store name
          · exact .refl store
      | none =>
          cases accepts : refuses store name with
          | true =>
              obtain ⟨error, stopped⟩ : ∃ error, clear fault call store (name :: rest) = (store, .error error) :=
                clear_refused fails accepts
              rw [stopped]
              exact .refl store
          | false =>
              rw [clear_next fails accepts]
              exact (removed_shrinks store name).trans ih

theorem clear_other (apart : path ∉ taken store fault call names) :
    (clear fault call store names).1.tree.lookup path = store.tree.lookup path := by
  induction names generalizing call store with
  | nil => rfl
  | cons name rest ih =>
      cases fails : faultAt fault call with
      | some failing =>
          rw [taken, fails] at apart
          rw [clear_fault fails]
          dsimp only at apart ⊢
          split
          next done =>
            cases accepts : refuses store name with
            | true => rw [removed_refused accepts]
            | false =>
                rw [if_pos ⟨done, accepts⟩, Option.mem_toList] at apart
                exact removed_other apart
          · rfl
      | none =>
          rw [taken, fails] at apart
          dsimp only at apart
          cases accepts : refuses store name with
          | true =>
              obtain ⟨error, stopped⟩ : ∃ error, clear fault call store (name :: rest) = (store, .error error) :=
                clear_refused fails accepts
              rw [stopped]
          | false =>
              rw [accepts, if_neg Bool.false_ne_true, List.mem_append, not_or, Option.mem_toList] at apart
              rw [clear_next fails accepts, ih, removed_other apart.1]
              rw [(removed_shrinks store name).taken_eq]
              exact apart.2

theorem clear_gone (inside : path ∈ taken store fault call names) :
    held (clear fault call store names).1.tree path = none := by
  induction names generalizing call store with
  | nil => cases inside
  | cons name rest ih =>
      cases fails : faultAt fault call with
      | some failing =>
          rw [taken, fails] at inside
          rw [clear_fault fails]
          dsimp only at inside ⊢
          split at inside
          next done =>
            rw [if_pos done.1]
            exact removed_gone done.2 (Option.mem_toList.mp inside)
          · cases inside
      | none =>
          rw [taken, fails] at inside
          dsimp only at inside
          cases accepts : refuses store name with
          | true =>
              rw [accepts, if_pos rfl] at inside
              cases inside
          | false =>
              rw [accepts, if_neg Bool.false_ne_true, List.mem_append, Option.mem_toList] at inside
              rw [clear_next fails accepts]
              rcases inside with now | later
              · exact clear_shrinks.held_none (removed_gone accepts now)
              · rw [← (removed_shrinks store name).taken_eq] at later
                exact ih later

theorem mem_taken_of_ok (ended : (clear fault call store names).2 = .ok ()) (listed : name ∈ names)
    (named : normalOf store name = some norm) : norm ∈ taken store fault call names := by
  induction names generalizing call store with
  | nil => cases listed
  | cons first rest ih =>
      cases fails : faultAt fault call with
      | some failing =>
          rw [clear_fault fails] at ended
          cases ended
      | none =>
          cases accepts : refuses store first with
          | true =>
              obtain ⟨error, stopped⟩ : ∃ error, clear fault call store (first :: rest) = (store, .error error) :=
                clear_refused fails accepts
              rw [stopped] at ended
              cases ended
          | false =>
              rw [taken, fails]
              dsimp only
              rw [accepts, if_neg Bool.false_ne_true, List.mem_append, Option.mem_toList]
              rw [clear_next fails accepts] at ended
              rcases List.mem_cons.mp listed with rfl | later
              · exact .inl named
              · have shrinks := removed_shrinks store first
                right
                rw [← shrinks.taken_eq]
                exact ih ended later (by rw [normalOf, shrinks.safeRel_eq]; exact named)

end Deletions

section Writes

variable {store after : DocsStore} {name content path text : String} {now : Int} {fault : Option Fault} {failing : Fault}
  {call : Nat} {files : List (String × String)} {ended : Ended}

theorem stampName_clean : Clean stampName where
  named := by decide
  plain := List.all_iff_forall_prop.mp (by decide)

theorem stampName_proper : stampName ≠ ".." := by decide

theorem PageName.proper (page : PageName name) : name ≠ ".." ∧ name ≠ stampName := by
  constructor
  · rintro rfl
    exact absurd page.markdown (by decide)
  · rintro rfl
    exact absurd page.markdown (by decide)

theorem safeRel_target {norm : String} (clean : Clean name) (proper : name ≠ "..")
    (safe : store.safeRel (target name) = .ok norm) : norm = target name := by
  unfold DocsStore.safeRel at safe
  rw [normalizeRel_target clean proper] at safe
  split at safe
  · cases safe
    rfl
  · dsimp only at safe
    split at safe
    · cases safe
      rfl
    · cases safe

theorem writeBytes_target (clean : Clean name) (proper : name ≠ "..")
    (written : store.writeBytes (target name) content now = .ok after) :
    after.backend = store.backend ∧ held after.tree (target name) = some (content, now) ∧
      ∀ path ≠ target name, held after.tree path = held store.tree path := by
  obtain ⟨norm, safe, backend, new, others⟩ := DocsStore.writeBytes_spec written
  cases safeRel_target clean proper safe
  exact ⟨backend, new, others⟩

theorem tried_other (clean : Clean name) (proper : name ≠ "..") (other : path ≠ target name) :
    held ((store.writeBytes (target name) content now).toOption.getD store).tree path = held store.tree path := by
  cases written : store.writeBytes (target name) content now with
  | error error => rfl
  | ok after => exact (writeBytes_target clean proper written).2.2 path other

theorem temporary_proper (ending : endsWith name ".tmp" = true) : name ≠ ".." := by
  rintro rfl
  exact absurd ending (by decide)

theorem temporary_ne_stamp (ending : endsWith name ".tmp" = true) : target stampName ≠ target name := by
  intro same
  rw [← target_inj same] at ending
  exact absurd ending (by decide)

theorem writeCall_backend (clean : Clean name) (proper : name ≠ "..") :
    (writeCall store (target name) content now fault).1.backend = store.backend := by
  have tried : ∀ {name content}, Clean name → name ≠ ".." →
      ((store.writeBytes (target name) content now).toOption.getD store).backend = store.backend := by
    intro name content clean proper
    cases written : store.writeBytes (target name) content now with
    | error error => rfl
    | ok after => exact (writeBytes_target clean proper written).1
  cases fault with
  | none =>
      rw [writeCall]
      cases written : store.writeBytes (target name) content now with
      | error error => rfl
      | ok after => exact (writeBytes_target clean proper written).1
  | some failing =>
      simp only [writeCall]
      cases damaged : failing.damage with
      | untouched => rfl
      | done => exact tried clean proper
      | staged staged written lost =>
          obtain ⟨tmpClean, tmpEnding⟩ := failing.temporary staged written lost damaged
          have left := @tried _ written tmpClean (temporary_proper tmpEnding)
          dsimp only
          split
          · exact (removed_shrinks _ name).1.trans left
          · exact left

theorem writeAll_backend (named : ∀ file ∈ files, Clean file.1 ∧ file.1 ≠ "..") :
    (writeAll fault now call store files).1.backend = store.backend := by
  induction files generalizing call store with
  | nil => rfl
  | cons file rest ih =>
      obtain ⟨clean, proper⟩ := named file List.mem_cons_self
      have first := @writeCall_backend store _ file.2 now (faultAt fault call) clean proper
      rw [writeAll]
      generalize writeCall store (target file.1) file.2 now (faultAt fault call) = ended at first ⊢
      obtain ⟨after, result⟩ := ended
      cases result with
      | error error => exact first
      | ok _ => exact (ih fun other listed => named other (List.mem_cons_of_mem _ listed)).trans first

theorem failing_stamp (clean : Clean name) (proper : name ≠ "..")
    (empty : held store.tree (target stampName) = none) :
    held (writeCall store (target name) content now (some failing)).1.tree (target stampName) = none ∨
      name = stampName ∧ store.writeBytes (target name) content now =
        .ok (writeCall store (target name) content now (some failing)).1 := by
  simp only [writeCall]
  cases damaged : failing.damage with
  | untouched => exact .inl empty
  | done =>
      dsimp only
      cases written : store.writeBytes (target name) content now with
      | error error => exact .inl empty
      | ok after =>
          obtain ⟨-, -, others⟩ := writeBytes_target clean proper written
          by_cases same : name = stampName
          · exact .inr ⟨same, rfl⟩
          · exact .inl ((others _ fun equal => same (target_inj equal).symm).trans empty)
  | staged staged written lost =>
      obtain ⟨tmpClean, tmpEnding⟩ := failing.temporary staged written lost damaged
      have kept := @tried_other store _ written _ now tmpClean (temporary_proper tmpEnding)
        (temporary_ne_stamp tmpEnding)
      dsimp only
      split
      · exact .inl ((removed_shrinks _ name).held_none (kept.trans empty))
      · exact .inl (kept.trans empty)

/-- The stamp is written last: where it stands after the writes, every page has been written, and nothing else. -/
theorem writeAll_stamp (named : ∀ file ∈ files, PageName file.1) (distinct : (files.map Prod.fst).Nodup)
    (empty : held store.tree (target stampName) = none)
    (ran : writeAll fault now call store (files ++ [(stampName, text)]) = ended) :
    held ended.1.tree (target stampName) = none ∨
      held ended.1.tree (target stampName) = some (text, now) ∧
      (∀ file ∈ files, held ended.1.tree (target file.1) = some (file.2, now)) ∧
      ∀ path, path ≠ target stampName → (∀ file ∈ files, path ≠ target file.1) →
        held ended.1.tree path = held store.tree path := by
  induction files generalizing call store with
  | nil =>
      rw [List.nil_append, writeAll] at ran
      cases fails : faultAt fault call with
      | some failing =>
          rw [fails] at ran
          cases ran
          rcases @failing_stamp store _ text now failing stampName_clean (by decide) empty with
            none | ⟨-, written⟩
          · exact .inl none
          · obtain ⟨-, new, others⟩ := writeBytes_target stampName_clean (by decide) written
            exact .inr ⟨new, nofun, fun path apart _ => others path apart⟩
      | none =>
          rw [fails, writeCall] at ran
          cases written : store.writeBytes (target stampName) text now with
          | error error =>
              rw [written] at ran
              cases ran
              exact .inl empty
          | ok after =>
              rw [written] at ran
              cases ran
              obtain ⟨-, new, others⟩ := writeBytes_target stampName_clean (by decide) written
              exact .inr ⟨new, nofun, fun path apart _ => others path apart⟩
  | cons file rest ih =>
      have page := named file List.mem_cons_self
      obtain ⟨fresh, restDistinct⟩ := List.nodup_cons.mp distinct
      rw [List.cons_append, writeAll] at ran
      cases fails : faultAt fault call with
      | some failing =>
          rw [fails] at ran
          cases ran
          rcases @failing_stamp store _ file.2 now failing page.clean page.proper.1 empty with
            none | ⟨same, -⟩
          · exact .inl none
          · exact absurd same page.proper.2
      | none =>
          rw [fails, writeCall] at ran
          cases written : store.writeBytes (target file.1) file.2 now with
          | error error =>
              rw [written] at ran
              cases ran
              exact .inl empty
          | ok after =>
              rw [written] at ran
              obtain ⟨-, new, others⟩ := writeBytes_target page.clean page.proper.1 written
              have stillEmpty := (others _ fun equal => page.proper.2 (target_inj equal).symm).trans empty
              refine (ih (fun other listed => named other (List.mem_cons_of_mem _ listed)) restDistinct stillEmpty
                ran).imp_right ?_
              rintro ⟨stamped, filled, unchanged⟩
              refine ⟨stamped, ?_, ?_⟩
              · intro other listed
                rcases List.mem_cons.mp listed with rfl | listed
                · rw [unchanged _ (fun equal => page.proper.2 (target_inj equal)), new]
                  intro other listed equal
                  exact fresh (target_inj equal ▸ List.mem_map_of_mem listed)
                · exact filled other listed
              · intro path apart elsewhere
                rw [unchanged path apart fun other listed => elsewhere other (List.mem_cons_of_mem _ listed)]
                exact others path (elsewhere file List.mem_cons_self)

end Writes

section Runs

variable {bundle : Version → Bundle} {site after : Site} {run : Install} {store : DocsStore} {version : Version}
  {name : String} {names : List String}

theorem strip_newline (text : String) : strip (text ++ "\n") = strip text := by
  have ends : ((text ++ "\n").toList.dropWhile isSpace).rdropWhile isSpace =
      (text.toList.dropWhile isSpace).rdropWhile isSpace := by
    have chars : (text ++ "\n").toList = text.toList ++ ['\n'] := by simp [String.toList_append]
    rw [chars, List.dropWhile_append]
    split
    next blank =>
      rw [List.isEmpty_iff.mp blank]
      decide
    · exact List.rdropWhile_concat_pos isSpace _ '\n' (by decide)
  rw [strip, strip, ends]

theorem strip_stamp (version : Version) : strip (versionStamp version) = version.text :=
  (strip_newline version.text).trans version.trimmed

theorem isCurrent_true (current : isCurrent store version = .ok true) :
    store.client = .ok () ∧ store.safeRel (target stampName) = .ok (target stampName) ∧
      ∃ content time, held store.tree (target stampName) = some (content, time) ∧ strip content = version.text := by
  unfold isCurrent at current
  obtain ⟨isFile, found, current⟩ := Checks.bind_ok current
  cases isFile with
  | false => cases current
  | true =>
      obtain ⟨reached, norm, safe, isHeld⟩ := DocsStore.isFile_true_iff.mp found
      cases safeRel_target stampName_clean (by decide) safe
      refine ⟨reached, safe, ?_⟩
      obtain ⟨⟨content, time⟩, stamped⟩ := Option.isSome_iff_exists.mp isHeld
      have read : store.readText (target stampName) = .ok content := by
        simp [DocsStore.readText, DocsStore.fileAt, reached, safe, lookup_of_held stamped, bind, Except.bind, pure, Except.pure]
      rw [if_pos rfl, read] at current
      refine ⟨content, time, stamped, ?_⟩
      have equal : decide (strip content = strip (versionStamp version)) = true := Except.ok.inj current
      exact (of_decide_eq_true equal).trans (strip_stamp version)

theorem isCurrent_of_stamp {content : String} {time : Int} (reached : store.client = .ok ())
    (safe : store.safeRel (target stampName) = .ok (target stampName))
    (stamped : held store.tree (target stampName) = some (content, time)) (same : strip content = version.text) :
    isCurrent store version = .ok true := by
  have isFile : store.isFile (target stampName) = .ok true :=
    DocsStore.isFile_true_iff.mpr ⟨reached, _, safe, by rw [stamped]; rfl⟩
  have read : store.readText (target stampName) = .ok content := by
    simp [DocsStore.readText, DocsStore.fileAt, reached, safe, lookup_of_held stamped, bind, Except.bind, pure, Except.pure]
  simp [isCurrent, isFile, read, same, strip_stamp, bind, Except.bind, pure, Except.pure]

theorem mem_childNames (clean : Clean name) (listing : store.childNames vaultSubdir = .ok names)
    (isHeld : (held store.tree (target name)).isSome) : name ∈ names := by
  have shown : DocsStore.childNames.names store [vaultSubdir] = names := by
    have normal : normalizeRel vaultSubdir = .ok vaultSubdir := by decide
    have parts : pathParts vaultSubdir = [vaultSubdir] := by decide
    unfold DocsStore.childNames at listing
    obtain ⟨-, -, listing⟩ := Checks.bind_ok listing
    cases backend : store.backend with
    | localRoot contained =>
        have below : (vaultSubdir.toList.all fun char => char = '/') = false := by decide
        simp only [backend, below, normal, parts] at listing
        exact Except.ok.inj listing
    | smb reason =>
        have below : vaultSubdir.isEmpty = false := by decide
        simp only [backend, below, normal, parts] at listing
        exact Except.ok.inj listing
  obtain ⟨⟨content, time⟩, file⟩ := Option.isSome_iff_exists.mp isHeld
  have entry := AList.mem_lookup_iff.mp (lookup_of_held file)
  rw [← shown, DocsStore.childNames.names]
  refine List.mem_filterMap.mpr ⟨_, entry, ?_⟩
  dsimp only
  rw [pathParts_target clean]
  simp

theorem cleared_cases (store : DocsStore) (run : Install) :
    (∃ error, cleared store run = (store, .error error)) ∨
      faultAt run.fault 0 = none ∧ (∃ names, store.childNames vaultSubdir = .ok names) ∧
        cleared store run = clear run.fault 1 store run.names := by
  unfold cleared
  cases fails : faultAt run.fault 0 with
  | some failing => exact .inl ⟨_, rfl⟩
  | none =>
      cases listing : store.childNames vaultSubdir with
      | error error => exact .inl ⟨_, rfl⟩
      | ok names => exact .inr ⟨rfl, ⟨names, rfl⟩, rfl⟩

theorem cleared_shrinks : Shrinks store (cleared store run).1 := by
  rcases cleared_cases store run with ⟨error, stopped⟩ | ⟨-, -, cleared⟩
  · rw [stopped]
    exact .refl store
  · rw [cleared]
    exact clear_shrinks

theorem cleared_empty (seen : listed store run = true) (ended : (cleared store run).2 = .ok ()) (clean : Clean name)
    (safe : store.safeRel (target name) = .ok (target name)) : held (cleared store run).1.tree (target name) = none := by
  rcases cleared_cases store run with ⟨error, stopped⟩ | ⟨-, ⟨names, listing⟩, cleared⟩
  · rw [stopped] at ended
    cases ended
  · cases isHeld : held store.tree (target name) with
    | none => exact cleared_shrinks.held_none isHeld
    | some file =>
        rw [listed, listing] at seen
        have member := (of_decide_eq_true seen).mem_iff.mpr (mem_childNames clean listing (by rw [isHeld]; rfl))
        rw [cleared] at ended ⊢
        exact clear_gone (mem_taken_of_ok ended member (by rw [normalOf, safe]; rfl))

theorem install_cases (bundle : Version → Bundle) (store : DocsStore) (run : Install) :
    ((installCliReference bundle store run).1 = (cleared store run).1 ∧ attempted bundle store run = []) ∨
      (cleared store run).2 = .ok () ∧ installCliReference bundle store run =
        writeAll run.fault run.now (run.names.length + 1) (cleared store run).1
          ((bundle run.version).files ++ [(stampName, versionStamp run.version)]) := by
  unfold installCliReference attempted
  generalize cleared store run = ended
  obtain ⟨after, result⟩ := ended
  cases result with
  | error error => exact .inl ⟨rfl, rfl⟩
  | ok _ => exact .inr ⟨rfl, rfl⟩

theorem safeRel_of_backend {first second : DocsStore} (same : first.backend = second.backend) (rel : String) :
    first.safeRel rel = second.safeRel rel := by
  unfold DocsStore.safeRel
  rw [same]

theorem cleared_stamp (seen : listed store run = true) (ended : (cleared store run).2 = .ok ())
    (safe : store.safeRel (target stampName) = .ok (target stampName)) :
    held (cleared store run).1.tree (target stampName) = none :=
  cleared_empty seen ended stampName_clean safe

theorem cleared_honest (careful : Careful bundle site run) (honest : Honest bundle site)
    (current : isCurrent (cleared site.store run).1 version = .ok true) :
    Complete bundle version ⟨(cleared site.store run).1, site.written⟩ := by
  have shrinks := @cleared_shrinks run site.store
  obtain ⟨reached, safe, content, time, stamped, same⟩ := isCurrent_true current
  rw [shrinks.client_eq] at reached
  rw [shrinks.safeRel_eq] at safe
  have before : isCurrent site.store version = .ok true := isCurrent_of_stamp reached safe (shrinks.held_some stamped) same
  obtain ⟨filled, others⟩ := honest version before
  rcases cleared_cases site.store run with ⟨error, stopped⟩ | ⟨begins, -, cleared⟩
  · rw [stopped]
    exact ⟨filled, others⟩
  · rw [cleared] at stamped ⊢
    rcases careful begins version before with gone | apart
    · rw [clear_gone gone] at stamped
      cases stamped
    · refine ⟨fun file listed => ?_, fun name written isHeld => ?_⟩
      · rw [held, clear_other (apart file listed)]
        exact filled file listed
      · obtain ⟨⟨content, time⟩, found⟩ := Option.isSome_iff_exists.mp isHeld
        exact others name written (by rw [clear_shrinks.held_some found]; rfl)

theorem files_named {text : String} :
    ∀ file ∈ (bundle version).files ++ [(stampName, text)], Clean file.1 ∧ file.1 ≠ ".." := by
  intro file listed
  rcases List.mem_append.mp listed with page | stamp
  · have page := (bundle version).named file page
    exact ⟨page.clean, page.proper.1⟩
  · obtain rfl := List.mem_singleton.mp stamp
    exact ⟨stampName_clean, stampName_proper⟩

theorem attempted_accepted (attempts : name ∈ attempted bundle store run) :
    Clean name ∧ name ≠ ".." ∧ store.safeRel (target name) = .ok (target name) := by
  unfold attempted at attempts
  split at attempts
  · cases attempts
  · obtain ⟨member, safe⟩ := List.mem_filter.mp attempts
    have named : Clean name ∧ name ≠ ".." := by
      rcases List.mem_append.mp member with page | left
      · obtain ⟨file, listed, rfl⟩ := List.mem_map.mp page
        exact @files_named bundle _ "" file (List.mem_append_left _ listed)
      · obtain ⟨failing, -, damaged⟩ := List.mem_filterMap.mp left
        cases damage : failing.damage with
        | untouched => rw [damage] at damaged; cases damaged
        | done => rw [damage] at damaged; cases damaged
        | staged staged written lost =>
            rw [damage] at damaged
            cases damaged
            obtain ⟨clean, ending⟩ := failing.temporary _ _ _ damage
            exact ⟨clean, temporary_proper ending⟩
    refine ⟨named.1, named.2, ?_⟩
    cases accepted : store.safeRel (target name) with
    | error error => rw [accepted] at safe; cases safe
    | ok norm => rw [safeRel_target named.1 named.2 accepted]

theorem written_honest {ended : Ended} {written : List String} (seen : listed site.store run = true)
    (done : (cleared site.store run).2 = .ok ())
    (ran : writeAll run.fault run.now (run.names.length + 1) (cleared site.store run).1
      ((bundle run.version).files ++ [(stampName, versionStamp run.version)]) = ended)
    (accepted : ∀ name ∈ written, Clean name ∧ name ≠ ".." ∧ site.store.safeRel (target name) = .ok (target name))
    (current : isCurrent ended.1 version = .ok true) : Complete bundle version ⟨ended.1, written⟩ := by
  have shrinks := @cleared_shrinks run site.store
  obtain ⟨-, safe, content, time, stamped, same⟩ := isCurrent_true current
  have backend : ended.1.backend = (cleared site.store run).1.backend := by
    rw [← ran]
    exact writeAll_backend files_named
  have before : site.store.safeRel (target stampName) = .ok (target stampName) :=
    (safeRel_of_backend (backend.trans shrinks.1) _).symm.trans safe
  have empty := cleared_stamp seen done before
  rcases writeAll_stamp (bundle run.version).named (bundle run.version).distinct empty ran with
    none | ⟨new, filled, others⟩
  · rw [none] at stamped
    cases stamped
  · cases new.symm.trans stamped
    obtain rfl : run.version = version := Version.ext ((strip_stamp run.version).symm.trans same)
    refine ⟨fun file listed => by rw [filled file listed]; rfl, fun name written isHeld => ?_⟩
    obtain ⟨clean, proper, safe⟩ := accepted name written
    by_cases stamp : name = stampName
    · exact .inl stamp
    right
    by_contra apart
    have unchanged := others (target name) (fun equal => stamp (target_inj equal)) fun file listed equal =>
      apart (target_inj equal ▸ List.mem_map_of_mem listed)
    rw [unchanged, cleared_empty seen done clean safe] at isHeld
    cases isHeld

theorem step_listed (seen : listed site.store run = true) :
    (machine bundle).step site run = some (siteAfter bundle site run) := if_pos seen

theorem step_kept (careful : Careful bundle site run) (stepped : (machine bundle).step site run = some after)
    (installed : Installed site) (honest : Honest bundle site) : Installed after ∧ Honest bundle after := by
  have step : (if listed site.store run then some (siteAfter bundle site run) else none) = some after := stepped
  unfold siteAfter at step
  split at step
  next seen =>
    cases step
    have shrinks := @cleared_shrinks run site.store
    rcases install_cases bundle site.store run with ⟨store, none⟩ | ⟨done, ran⟩
    · rw [store, none, List.append_nil]
      refine ⟨fun name written => ?_, fun version current => cleared_honest careful honest current⟩
      obtain ⟨clean, proper, safe⟩ := installed name written
      exact ⟨clean, proper, (shrinks.safeRel_eq _).trans safe⟩
    · have accepted : ∀ name ∈ site.written ++ attempted bundle site.store run,
          Clean name ∧ name ≠ ".." ∧ site.store.safeRel (target name) = .ok (target name) := by
        intro name written
        rcases List.mem_append.mp written with before | new
        · exact installed name before
        · exact attempted_accepted new
      have backend : (installCliReference bundle site.store run).1.backend = site.store.backend := by
        rw [ran]
        exact (writeAll_backend files_named).trans shrinks.1
      refine ⟨fun name written => ?_, fun version current => written_honest seen done ran.symm accepted current⟩
      obtain ⟨clean, proper, safe⟩ := accepted name written
      exact ⟨clean, proper, (safeRel_of_backend backend _).trans safe⟩
  · cases step

theorem run_listed {rest : List Install} (seen : listed site.store run = true) :
    (machine bundle).run site (run :: rest) = (machine bundle).run (siteAfter bundle site run) rest := by
  rw [Machine.run_cons, step_listed seen, Option.bind_some]

end Runs

def onePage : Bundle where
  readme := some "a"
  exitCodes := none
  generated := []
  named := by
    intro page listed
    obtain rfl := List.mem_singleton.mp listed
    exact ⟨⟨by decide, List.all_iff_forall_prop.mp (by decide)⟩, by decide⟩
  distinct := List.nodup_singleton _

def firstVersion : Version := ⟨"1", by decide⟩

def emptyFolder : Site where
  store := { backend := .localRoot fun _ => true, present := true, tree := ∅ }
  written := []

def firstInstall : Install := ⟨firstVersion, [], none, 1⟩

def failingInstall : Install where
  version := firstVersion
  names := ["README.md", stampName]
  fault := some ⟨2, .untouched, .osError "permission denied", rfl, nofun⟩
  now := 2

def installedSite : Site := siteAfter (fun _ => onePage) emptyFolder firstInstall

def brokenSite : Site := siteAfter (fun _ => onePage) installedSite failingInstall

theorem listed_firstInstall : listed emptyFolder.store firstInstall = true := by decide +kernel

theorem listed_failingInstall : listed installedSite.store failingInstall = true := by decide +kernel

theorem installed_current : isCurrent installedSite.store firstVersion = .ok true := by decide +kernel

end Dosm.Docs.CliReference
