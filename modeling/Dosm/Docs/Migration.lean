import Dosm.Docs.SmbWrites
import Mathlib.Data.List.Perm.Basic

namespace Dosm.Docs.Migration

open Store

/-! Copying the documents of one source to another.

A file that cannot be read or written is reported and the run goes on. A failed
write to a share may have lost the document it was to replace; the temporary name a
write goes through is no document's and is left out.
-/

structure WriteFault where
  reason : String
  lost : Bool
  deriving DecidableEq

/-- Which reads and writes fail in a run, and when each write happens. -/
structure Conditions where
  read : String → Option String
  write : String → Option WriteFault
  now : String → Int

def readBytes (src : DocsStore) (fault : Option String) (rel : String) : Except StoreError String :=
  match src.client, fault with
  | .error error, _ => .error error
  | .ok _, some reason => .error (src.wrap ("open " ++ rel) (.osError reason))
  | .ok _, none =>
      match src.fileAt rel with
      | .ok (content, _) => .ok content
      | .error error => .error (src.wrap ("open " ++ rel) error)

/-- A local file is replaced in one move and cannot be lost. -/
def losing (dst : DocsStore) (fault : WriteFault) (norm : String) : DocsStore :=
  match dst.backend with
  | .smb _ =>
      if fault.lost && Node.isFile (dst.tree.lookup norm) then { dst with tree := dst.tree.erase norm } else dst
  | .localRoot _ => dst

def put (dst : DocsStore) (fault : Option WriteFault) (rel content : String) (now : Int) :
    DocsStore × Except StoreError Unit :=
  match dst.client, dst.safeRel rel, fault with
  | .error error, _, _ => (dst, .error error)
  | .ok _, .error error, _ => (dst, .error (.invalid error))
  | .ok _, .ok norm, some fault => (losing dst fault norm, .error (dst.wrap ("write " ++ norm) (.osError fault.reason)))
  | .ok _, .ok _, none =>
      match dst.writeBytes rel content now with
      | .ok after => (after, .ok ())
      | .error error => (dst, .error error)

/-- The list of the result a path is put in. -/
inductive Verdict where
  | copied
  | skipped
  | failed (error : StoreError)
  deriving DecidableEq

def visit (src : DocsStore) (conditions : Conditions) (dryRun overwrite : Bool) (dst : DocsStore) (rel : String) :
    DocsStore × Verdict :=
  if dryRun then (dst, .copied)
  else
    match if overwrite then .ok false else dst.isFile rel with
    | .error error => (dst, .failed error)
    | .ok true => (dst, .skipped)
    | .ok false =>
        match readBytes src (conditions.read rel) rel with
        | .error error => (dst, .failed error)
        | .ok content =>
            match put dst (conditions.write rel) rel content (conditions.now rel) with
            | (after, .ok _) => (after, .copied)
            | (after, .error error) => (after, .failed error)

def visits (src : DocsStore) (conditions : Conditions) (dryRun overwrite : Bool) :
    DocsStore → List String → DocsStore × List (String × Verdict)
  | dst, [] => (dst, [])
  | dst, rel :: rest =>
      let (after, verdict) := visit src conditions dryRun overwrite dst rel
      let (last, verdicts) := visits src conditions dryRun overwrite after rest
      (last, (rel, verdict) :: verdicts)

structure MigrationResult where
  copied : List String
  skipped : List String
  errors : List (String × StoreError)

def MigrationResult.of (verdicts : List (String × Verdict)) : MigrationResult where
  copied := verdicts.filterMap fun entry => if entry.2 = .copied then some entry.1 else none
  skipped := verdicts.filterMap fun entry => if entry.2 = .skipped then some entry.1 else none
  errors := verdicts.filterMap fun entry =>
    match entry.2 with
    | .failed error => some (entry.1, error)
    | _ => none

def migrateDocs (src dst : DocsStore) (conditions : Conditions) (dryRun overwrite : Bool) :
    Except StoreError (DocsStore × MigrationResult) := do
  let files ← src.iterFiles
  let (after, verdicts) := visits src conditions dryRun overwrite dst files
  return (after, .of verdicts)

section Verdicts

variable {src dst : DocsStore} {conditions : Conditions} {dryRun overwrite : Bool} {files : List String} {rel : String}
  {verdicts : List (String × Verdict)}

theorem mem_copied : rel ∈ (MigrationResult.of verdicts).copied ↔ (rel, .copied) ∈ verdicts := by
  simp [MigrationResult.of, List.mem_filterMap]

theorem mem_skipped : rel ∈ (MigrationResult.of verdicts).skipped ↔ (rel, .skipped) ∈ verdicts := by
  simp [MigrationResult.of, List.mem_filterMap]

theorem partitioned (verdicts : List (String × Verdict)) :
    ((MigrationResult.of verdicts).copied ++ (MigrationResult.of verdicts).skipped ++
      (MigrationResult.of verdicts).errors.map Prod.fst).Perm (verdicts.map Prod.fst) := by
  induction verdicts with
  | nil => exact .refl _
  | cons entry rest ih =>
      obtain ⟨rel, verdict⟩ := entry
      simp only [MigrationResult.of] at ih ⊢
      cases verdict with
      | copied => simpa using ih.cons rel
      | skipped =>
          simp only [List.filterMap_cons, reduceCtorEq, if_false, if_true, List.append_assoc, List.cons_append,
            List.map_cons] at ih ⊢
          exact List.perm_middle.trans (ih.cons rel)
      | failed error =>
          simp only [List.filterMap_cons, reduceCtorEq, if_false, List.map_cons] at ih ⊢
          exact List.perm_middle.trans (ih.cons rel)

theorem visits_cons : visits src conditions dryRun overwrite dst (rel :: files) =
    ((visits src conditions dryRun overwrite (visit src conditions dryRun overwrite dst rel).1 files).1,
      (rel, (visit src conditions dryRun overwrite dst rel).2) ::
        (visits src conditions dryRun overwrite (visit src conditions dryRun overwrite dst rel).1 files).2) := rfl

theorem visits_paths : (visits src conditions dryRun overwrite dst files).2.map Prod.fst = files := by
  induction files generalizing dst with
  | nil => rfl
  | cons rel rest ih => simp only [visits, List.map_cons, ih]

theorem visits_dry : visits src conditions true overwrite dst files = (dst, files.map fun rel => (rel, .copied)) := by
  induction files with
  | nil => rfl
  | cons rel rest ih => simp only [visits, visit, if_true, ih, List.map_cons]

theorem copied_dry : (MigrationResult.of (files.map fun rel => (rel, Verdict.copied))).copied = files := by
  simp [MigrationResult.of, List.filterMap_map, Function.comp_def]

end Verdicts

section Visits

variable {src dst before after last : DocsStore} {conditions : Conditions} {overwrite : Bool} {files : List String}
  {rel name : String} {verdict : Verdict}

/-- The file can be read, and the share loses the document it was to replace. -/
def Loses (src : DocsStore) (conditions : Conditions) (dst : DocsStore) (rel : String) : Prop :=
  (∃ content, readBytes src (conditions.read rel) rel = .ok content) ∧
    ∃ fault share, conditions.write rel = some fault ∧ fault.lost = true ∧ dst.backend = .smb share

inductive Visited (src : DocsStore) (conditions : Conditions) (overwrite : Bool) (dst : DocsStore) (rel : String) :
    DocsStore → Verdict → Prop where
  | copied {after : DocsStore} {norm content : String} (wanted : overwrite = true ∨ dst.isFile rel ≠ .ok true)
      (safe : dst.safeRel rel = .ok norm) (reached : dst.client = .ok ())
      (read : readBytes src none rel = .ok content) (same : after.backend = dst.backend)
      (new : held after.tree norm = some (content, conditions.now rel))
      (frame : ∀ name ≠ norm, held after.tree name = held dst.tree name) :
      Visited src conditions overwrite dst rel after .copied
  | skipped (kept : overwrite = false) (present : dst.isFile rel = .ok true) :
      Visited src conditions overwrite dst rel dst .skipped
  | failed {error : StoreError} : Visited src conditions overwrite dst rel dst (.failed error)
  | lost {after : DocsStore} {norm : String} {error : StoreError} (wanted : overwrite = true)
      (present : dst.isFile rel = .ok true) (safe : dst.safeRel rel = .ok norm) (same : after.backend = dst.backend)
      (gone : held after.tree norm = none) (frame : ∀ name ≠ norm, held after.tree name = held dst.tree name)
      (loses : Loses src conditions dst rel) :
      Visited src conditions overwrite dst rel after (.failed error)

theorem readBytes_unfailing {fault : Option String} {content : String} (read : readBytes src fault rel = .ok content) :
    readBytes src none rel = .ok content := by
  unfold readBytes at read ⊢
  cases reached : src.client with
  | error error => simp [reached] at read
  | ok _ =>
      cases fault with
      | some reason => simp [reached] at read
      | none => simpa only [reached] using read

theorem losing_cases (dst : DocsStore) (fault : WriteFault) (norm : String) :
    losing dst fault norm = dst ∨ (∃ share, dst.backend = .smb share) ∧ fault.lost = true ∧
      (held dst.tree norm).isSome ∧ losing dst fault norm = { dst with tree := dst.tree.erase norm } := by
  unfold losing
  cases dst.backend with
  | localRoot contained => exact .inl rfl
  | smb share =>
      by_cases takes : (fault.lost && Node.isFile (dst.tree.lookup norm)) = true
      · have facts := takes
        rw [Bool.and_eq_true, isFile_iff_held] at facts
        exact .inr ⟨⟨share, rfl⟩, facts.1, facts.2, by simp only [if_pos takes]⟩
      · exact .inl (by simp only [if_neg takes])

theorem put_cases (dst : DocsStore) (fault : Option WriteFault) (rel content : String) (now : Int) :
    (∃ after norm, put dst fault rel content now = (after, .ok ()) ∧ dst.client = .ok () ∧
      dst.safeRel rel = .ok norm ∧ after.backend = dst.backend ∧ held after.tree norm = some (content, now) ∧
      ∀ name ≠ norm, held after.tree name = held dst.tree name) ∨
    (∃ error, put dst fault rel content now = (dst, .error error)) ∨
    ∃ norm error failure share, put dst fault rel content now = ({ dst with tree := dst.tree.erase norm }, .error error) ∧
      dst.client = .ok () ∧ dst.safeRel rel = .ok norm ∧ (held dst.tree norm).isSome ∧ fault = some failure ∧
      failure.lost = true ∧ dst.backend = .smb share := by
  unfold put
  cases reached : dst.client with
  | error error => exact .inr (.inl ⟨error, rfl⟩)
  | ok _ =>
      cases safe : dst.safeRel rel with
      | error error => exact .inr (.inl ⟨_, rfl⟩)
      | ok norm =>
          cases fault with
          | none =>
              cases written : dst.writeBytes rel content now with
              | error error => exact .inr (.inl ⟨error, rfl⟩)
              | ok after =>
                  obtain ⟨path, same, backend, new, frame⟩ := DocsStore.writeBytes_spec written
                  cases safe.symm.trans same
                  exact .inl ⟨after, norm, rfl, rfl, rfl, backend, new, frame⟩
          | some failure =>
              rcases losing_cases dst failure norm with still | ⟨⟨share, smb⟩, isLost, present, gone⟩
              · exact .inr (.inl ⟨dst.wrap ("write " ++ norm) (.osError failure.reason), by simp only [still]⟩)
              · exact .inr (.inr ⟨norm, dst.wrap ("write " ++ norm) (.osError failure.reason), failure, share,
                  by simp only [gone], rfl, rfl, present, rfl, isLost, smb⟩)

theorem visit_visited (visited : visit src conditions false overwrite dst rel = (after, verdict)) :
    Visited src conditions overwrite dst rel after verdict := by
  have wanted (asked : (if overwrite then .ok false else dst.isFile rel) = .ok false) :
      overwrite = true ∨ dst.isFile rel ≠ .ok true := by
    cases overwrite with
    | true => exact .inl rfl
    | false => exact .inr fun present => by simp [present] at asked
  unfold visit at visited
  rw [if_neg Bool.false_ne_true] at visited
  split at visited
  · cases visited
    exact .failed
  · rename_i asked
    cases overwrite with
    | true => cases asked
    | false =>
        cases visited
        exact .skipped rfl asked
  · rename_i asked
    split at visited
    · cases visited
      exact .failed
    · rename_i content read
      rcases put_cases dst (conditions.write rel) rel content (conditions.now rel) with
        ⟨written, norm, put, reached, safe, same, new, frame⟩ | ⟨error, put⟩ |
          ⟨norm, error, failure, share, put, reached, safe, present, fault, isLost, smb⟩
      · rw [put] at visited
        cases visited
        exact .copied (wanted asked) safe reached (readBytes_unfailing read) same new frame
      · rw [put] at visited
        cases visited
        exact .failed
      · rw [put] at visited
        cases visited
        have isFile : dst.isFile rel = .ok true := DocsStore.isFile_true_iff.mpr ⟨reached, norm, safe, present⟩
        exact .lost ((wanted asked).resolve_right (not_not_intro isFile)) isFile safe rfl held_erase
          (fun name apart => held_erase_ne apart) ⟨⟨content, read⟩, failure, share, fault, isLost, smb⟩

theorem visit_spec (src : DocsStore) (conditions : Conditions) (overwrite : Bool) (dst : DocsStore) (rel : String) :
    Visited src conditions overwrite dst rel (visit src conditions false overwrite dst rel).1
      (visit src conditions false overwrite dst rel).2 := visit_visited rfl

theorem visit_loses {norm : String} (present : dst.isFile rel = .ok true) (safe : dst.safeRel rel = .ok norm)
    (loses : Loses src conditions dst rel) :
    held (visit src conditions false true dst rel).1.tree norm = none := by
  obtain ⟨⟨content, read⟩, failure, share, fault, isLost, smb⟩ := loses
  obtain ⟨reached, path, same, isHeld⟩ := DocsStore.isFile_true_iff.mp present
  cases safe.symm.trans same
  have takes : (failure.lost && Node.isFile (dst.tree.lookup norm)) = true := by
    rw [isLost, isFile_iff_held, isHeld]
    rfl
  simp only [visit, Bool.false_eq_true, if_false, if_true, read, put, reached, safe, fault, losing, smb, takes]
  exact held_erase

theorem Visited.backend (visited : Visited src conditions overwrite dst rel after verdict) :
    after.backend = dst.backend := by
  cases visited with
  | copied wanted safe reached read same new frame => exact same
  | skipped kept present => rfl
  | failed => rfl
  | lost wanted present safe same gone frame loses => exact same

theorem Visited.frame (visited : Visited src conditions overwrite dst rel after verdict)
    (other : dst.safeRel rel ≠ .ok name) : held after.tree name = held dst.tree name := by
  cases visited with
  | copied wanted safe reached read same new frame => exact frame name fun equal => other (equal ▸ safe)
  | skipped kept present => rfl
  | failed => rfl
  | lost wanted present safe same gone frame loses => exact frame name fun equal => other (equal ▸ safe)

theorem safeRel_backend (same : after.backend = dst.backend) : after.safeRel rel = dst.safeRel rel := by
  simp only [DocsStore.safeRel, same]

theorem client_backend (same : after.backend = dst.backend) : after.client = dst.client := by
  simp only [DocsStore.client, same]

theorem isFile_backend (same : after.backend = dst.backend)
    (still : ∀ norm, dst.safeRel rel = .ok norm → held after.tree norm = held dst.tree norm) :
    after.isFile rel = .ok true ↔ dst.isFile rel = .ok true := by
  rw [DocsStore.isFile_true_iff, DocsStore.isFile_true_iff, client_backend same, safeRel_backend same]
  refine and_congr_right fun _ => exists_congr fun norm => and_congr_right fun safe => ?_
  rw [still norm safe]

/-- The destination takes the two paths for different ones. -/
def Apart (dst : DocsStore) (first second : String) : Prop :=
  ∀ norm, dst.safeRel first = .ok norm → dst.safeRel second ≠ .ok norm

theorem visits_backend : (visits src conditions false overwrite dst files).1.backend = dst.backend := by
  induction files generalizing dst with
  | nil => rfl
  | cons rel rest ih => exact ih.trans (visit_spec src conditions overwrite dst rel).backend

theorem visits_frame (others : ∀ rel ∈ files, dst.safeRel rel ≠ .ok name) :
    held (visits src conditions false overwrite dst files).1.tree name = held dst.tree name := by
  induction files generalizing dst with
  | nil => rfl
  | cons rel rest ih =>
      have turn := visit_spec src conditions overwrite dst rel
      have still : ∀ later ∈ rest, (visit src conditions false overwrite dst rel).1.safeRel later ≠ .ok name := by
        intro later member
        rw [safeRel_backend turn.backend]
        exact others later (List.mem_cons_of_mem _ member)
      rw [visits_cons]
      exact (ih still).trans (turn.frame (others rel List.mem_cons_self))

/-- In a run each path has its turn on what the destination held before, and the run
leaves what the turn did. -/
structure Turn (src : DocsStore) (conditions : Conditions) (overwrite : Bool) (dst last : DocsStore) (rel : String)
    (verdict : Verdict) (before after : DocsStore) : Prop where
  visited : visit src conditions false overwrite before rel = (after, verdict)
  backend : before.backend = dst.backend
  begins : ∀ norm, dst.safeRel rel = .ok norm → held before.tree norm = held dst.tree norm
  ends : ∀ norm, dst.safeRel rel = .ok norm → held last.tree norm = held after.tree norm

theorem visits_turn (apart : files.Pairwise (Apart dst))
    (listed : (rel, verdict) ∈ (visits src conditions false overwrite dst files).2) :
    ∃ before after, Turn src conditions overwrite dst (visits src conditions false overwrite dst files).1 rel verdict
      before after := by
  induction files generalizing dst with
  | nil => cases listed
  | cons first rest ih =>
      obtain ⟨fromFirst, later⟩ := List.pairwise_cons.mp apart
      have turn := visit_spec src conditions overwrite dst first
      have backend := turn.backend
      rw [visits_cons] at listed ⊢
      rcases List.mem_cons.mp listed with here | there
      · obtain ⟨rfl, rfl⟩ := Prod.mk.inj here
        refine ⟨dst, _, rfl, rfl, fun norm _ => rfl, fun norm safe => ?_⟩
        apply visits_frame
        intro other member
        rw [safeRel_backend backend]
        exact fromFirst other member norm safe
      · have stillApart : rest.Pairwise (Apart (visit src conditions false overwrite dst first).1) := by
          refine later.imp fun distinct norm => ?_
          rw [safeRel_backend backend, safeRel_backend backend]
          exact distinct norm
        obtain ⟨before, after, inner⟩ := ih stillApart there
        have member : rel ∈ rest := by
          rw [← @visits_paths src _ conditions false overwrite rest]
          exact List.mem_map_of_mem there
        refine ⟨before, after, inner.visited, inner.backend.trans backend, fun norm safe => ?_, fun norm safe => ?_⟩
        · rw [inner.begins norm ((safeRel_backend backend).trans safe)]
          exact turn.frame fun same => fromFirst rel member norm same safe
        · exact inner.ends norm ((safeRel_backend backend).trans safe)

theorem Visited.keeps {other : String} (visited : Visited src conditions false dst other after verdict)
    (present : dst.isFile rel = .ok true) : after.isFile rel = .ok true := by
  cases visited with
  | @copied after norm content wanted safe reached read same new frame =>
      obtain ⟨reached, path, safePath, isHeld⟩ := DocsStore.isFile_true_iff.mp present
      apply DocsStore.isFile_true_iff.mpr
      rw [client_backend same, safeRel_backend same]
      refine ⟨reached, path, safePath, ?_⟩
      by_cases equal : path = norm
      · rw [equal, new]
        rfl
      · rw [frame path equal]
        exact isHeld
  | skipped kept there => exact present
  | failed => exact present
  | lost wanted there safe same gone frame loses => cases wanted

theorem present_not_copied (present : dst.isFile rel = .ok true) :
    (rel, .copied) ∉ (visits src conditions false false dst files).2 := by
  induction files generalizing dst with
  | nil => exact List.not_mem_nil
  | cons first rest ih =>
      have turn := visit_spec src conditions false dst first
      rw [visits_cons]
      intro listed
      rcases List.mem_cons.mp listed with here | there
      · obtain ⟨rfl, verdict⟩ := Prod.mk.inj here
        rw [← verdict] at turn
        generalize (visit src conditions false false dst rel).1 = after at turn
        cases turn with
        | copied wanted safe reached read same new frame => exact wanted.elim nofun fun absent => absent present
      · exact ih (turn.keeps present) there

end Visits

/-- What a preview and a run with the same flag have to do with each other, and the run
with the two sources. -/
structure Agreement (src dst : DocsStore) (files : List String) (ran preview : DocsStore × MigrationResult) : Prop where
  partition : (ran.2.copied ++ ran.2.skipped ++ ran.2.errors.map Prod.fst).Perm files
  confined : ∀ name, held ran.1.tree name ≠ held dst.tree name → ∃ rel ∈ ran.2.copied, dst.safeRel rel = .ok name
  delivered : ∀ rel ∈ ran.2.copied, ∃ norm content mtimeMs, dst.safeRel rel = .ok norm ∧
    readBytes src none rel = .ok content ∧ held ran.1.tree norm = some (content, mtimeMs)
  repeated : ∀ later conditions again, migrateDocs later ran.1 conditions false false = .ok again →
    ∀ rel ∈ ran.2.copied, rel ∉ again.2.copied
  previewed : preview.2.copied.Perm (ran.2.copied ++ ran.2.errors.map Prod.fst)
  untouched : preview.1 = dst

def Agrees (src dst : DocsStore) (conditions : Conditions) (overwrite : Bool) : Prop :=
  ∀ files ran preview, src.iterFiles = .ok files → migrateDocs src dst conditions false overwrite = .ok ran →
    migrateDocs src dst conditions true overwrite = .ok preview → Agreement src dst files ran preview

section Runs

variable {src dst : DocsStore} {conditions : Conditions} {dryRun overwrite : Bool} {files : List String}
  {ran : DocsStore × MigrationResult} {rel : String} {verdict : Verdict}

theorem migrateDocs_listed (listed : src.iterFiles = .ok files) :
    migrateDocs src dst conditions dryRun overwrite =
      .ok ((visits src conditions dryRun overwrite dst files).1,
        .of (visits src conditions dryRun overwrite dst files).2) := by
  rw [migrateDocs, listed]
  rfl

theorem migrateDocs_ran (completed : migrateDocs src dst conditions dryRun overwrite = .ok ran) :
    ∃ files, src.iterFiles = .ok files ∧ ran = ((visits src conditions dryRun overwrite dst files).1,
      .of (visits src conditions dryRun overwrite dst files).2) := by
  cases listed : src.iterFiles with
  | error error =>
      rw [migrateDocs, listed] at completed
      cases completed
  | ok files =>
      rw [migrateDocs_listed listed] at completed
      exact ⟨files, rfl, (Except.ok.inj completed).symm⟩

theorem agrees_iff_run (listed : src.iterFiles = .ok files) : Agrees src dst conditions overwrite ↔
    Agreement src dst files
      ((visits src conditions false overwrite dst files).1, .of (visits src conditions false overwrite dst files).2)
      ((visits src conditions true overwrite dst files).1, .of (visits src conditions true overwrite dst files).2) := by
  constructor
  · intro agrees
    exact agrees files _ _ listed (migrateDocs_listed listed) (migrateDocs_listed listed)
  · intro agreement others ran preview same completed previewed
    cases listed.symm.trans same
    rw [migrateDocs_listed listed] at completed previewed
    cases completed
    cases previewed
    exact agreement

theorem exists_entry (member : rel ∈ files) : ∃ verdict, (rel, verdict) ∈ (visits src conditions dryRun overwrite dst files).2 := by
  rw [← @visits_paths src dst conditions dryRun overwrite files] at member
  obtain ⟨entry, listed, rfl⟩ := List.mem_map.mp member
  exact ⟨entry.2, listed⟩

theorem exists_turn (apart : files.Pairwise (Apart dst)) (member : rel ∈ files) :
    ∃ verdict before after, (rel, verdict) ∈ (visits src conditions false overwrite dst files).2 ∧
      Turn src conditions overwrite dst (visits src conditions false overwrite dst files).1 rel verdict before after := by
  obtain ⟨verdict, entry⟩ := exists_entry member
  obtain ⟨before, after, turn⟩ := visits_turn apart entry
  exact ⟨verdict, before, after, entry, turn⟩

theorem entry_listed (entry : (rel, verdict) ∈ (visits src conditions dryRun overwrite dst files).2) : rel ∈ files := by
  rw [← @visits_paths src dst conditions dryRun overwrite files]
  exact List.mem_map_of_mem entry

section Turns

variable {last before after : DocsStore}

theorem Turn.present_iff (turn : Turn src conditions overwrite dst last rel verdict before after) :
    before.isFile rel = .ok true ↔ dst.isFile rel = .ok true := isFile_backend turn.backend turn.begins

theorem Turn.loses_iff (turn : Turn src conditions overwrite dst last rel verdict before after) :
    Loses src conditions before rel ↔ Loses src conditions dst rel := by
  unfold Loses
  rw [turn.backend]

theorem Turn.spec (turn : Turn src conditions overwrite dst last rel verdict before after) :
    Visited src conditions overwrite before rel after verdict := visit_visited turn.visited

theorem Turn.safeRel (turn : Turn src conditions overwrite dst last rel verdict before after) :
    before.safeRel rel = dst.safeRel rel := safeRel_backend turn.backend

theorem Turn.delivered (turn : Turn src conditions overwrite dst last rel .copied before after) :
    dst.client = .ok () ∧ ∃ norm content mtimeMs, dst.safeRel rel = .ok norm ∧
      readBytes src none rel = .ok content ∧ held last.tree norm = some (content, mtimeMs) := by
  have visited := turn.spec
  cases visited with
  | copied wanted safe reached read same new frame =>
      rw [turn.safeRel] at safe
      rw [client_backend turn.backend] at reached
      exact ⟨reached, _, _, _, safe, read, (turn.ends _ safe).trans new⟩

end Turns

/-- Where nothing is skipped and nothing lost, the run and its preview agree. -/
theorem agreement_of_kept (listed : src.iterFiles = .ok files) (apart : files.Pairwise (Apart dst))
    (kept : ∀ rel ∈ files, dst.isFile rel = .ok true → overwrite = true ∧ ¬ Loses src conditions dst rel) :
    Agrees src dst conditions overwrite := by
  rw [agrees_iff_run listed]
  have skipsNone : (MigrationResult.of (visits src conditions false overwrite dst files).2).skipped = [] := by
    rw [List.eq_nil_iff_forall_not_mem]
    intro rel member
    have entry := mem_skipped.mp member
    obtain ⟨before, after, turn⟩ := visits_turn apart entry
    have visited := turn.spec
    cases visited with
    | skipped stays present =>
        have wanted := (kept rel (entry_listed entry) (turn.present_iff.mp present)).1
        rw [stays] at wanted
        cases wanted
  refine ⟨(partitioned _).trans (by rw [visits_paths]), ?_, ?_, ?_, ?_, by rw [visits_dry]⟩
  · intro name changed
    by_contra uncopied
    apply changed
    apply visits_frame
    intro rel member safe
    obtain ⟨verdict, before, after, entry, turn⟩ := @exists_turn src _ conditions overwrite _ _ apart member
    have visited := turn.spec
    cases visited with
    | copied wanted safeThere reached read same new frame => exact uncopied ⟨rel, mem_copied.mpr entry, safe⟩
    | skipped stays present => exact changed ((turn.ends name safe).trans (turn.begins name safe))
    | failed => exact changed ((turn.ends name safe).trans (turn.begins name safe))
    | lost wanted present safeThere same gone frame loses =>
        exact (kept rel member (turn.present_iff.mp present)).2 (turn.loses_iff.mp loses)
  · intro rel member
    obtain ⟨before, after, turn⟩ := visits_turn apart (mem_copied.mp member)
    exact turn.delivered.2
  · intro later laterConditions again completed rel member
    obtain ⟨before, after, turn⟩ := visits_turn apart (mem_copied.mp member)
    obtain ⟨reached, norm, content, mtimeMs, safe, _, holds⟩ := turn.delivered
    have present : (visits src conditions false overwrite dst files).1.isFile rel = .ok true := by
      apply DocsStore.isFile_true_iff.mpr
      rw [client_backend visits_backend, safeRel_backend visits_backend, reached]
      exact ⟨rfl, norm, safe, by rw [holds]; rfl⟩
    obtain ⟨laterFiles, _, rfl⟩ := migrateDocs_ran completed
    rw [mem_copied]
    exact present_not_copied present
  · have parts := partitioned (visits src conditions false overwrite dst files).2
    rw [visits_paths, skipsNone, List.append_nil] at parts
    rw [visits_dry, copied_dry]
    exact parts.symm

theorem present_overwritten (listed : src.iterFiles = .ok files) (apart : files.Pairwise (Apart dst))
    (agrees : Agrees src dst conditions overwrite) (member : rel ∈ files) (present : dst.isFile rel = .ok true) :
    overwrite = true := by
  rw [agrees_iff_run listed] at agrees
  have parts := partitioned (visits src conditions false overwrite dst files).2
  have previewed := agrees.previewed
  rw [visits_paths] at parts
  rw [visits_dry, copied_dry] at previewed
  have lengths := parts.length_eq.trans previewed.length_eq
  simp only [List.length_append] at lengths
  have skipsNone : (MigrationResult.of (visits src conditions false overwrite dst files).2).skipped = [] :=
    List.length_eq_zero_iff.mp (by omega)
  by_contra kept
  rw [Bool.not_eq_true] at kept
  obtain ⟨verdict, before, after, entry, turn⟩ := @exists_turn src _ conditions overwrite _ _ apart member
  have there := turn.present_iff.mpr present
  have skips := turn.visited
  simp only [visit, Bool.false_eq_true, if_false, kept, there] at skips
  obtain ⟨rfl, rfl⟩ := Prod.mk.inj skips
  rw [← mem_skipped, skipsNone] at entry
  cases entry

theorem agrees_loses_none (listed : src.iterFiles = .ok files) (apart : files.Pairwise (Apart dst))
    (agrees : Agrees src dst conditions overwrite) (member : rel ∈ files) (present : dst.isFile rel = .ok true) :
    ¬ Loses src conditions dst rel := by
  intro loses
  obtain rfl := present_overwritten listed apart agrees member present
  rw [agrees_iff_run listed] at agrees
  obtain ⟨verdict, before, after, entry, turn⟩ := @exists_turn src _ conditions true _ _ apart member
  obtain ⟨reached, norm, safe, isHeld⟩ := DocsStore.isFile_true_iff.mp present
  have gone := visit_loses (turn.present_iff.mpr present) (turn.safeRel.trans safe) (turn.loses_iff.mpr loses)
  rw [turn.visited] at gone
  have lastGone := (turn.ends norm safe).trans gone
  have changed : held (visits src conditions false true dst files).1.tree norm ≠ held dst.tree norm := by
    intro same
    rw [← same, lastGone] at isHeld
    cases isHeld
  obtain ⟨other, copied, sameNorm⟩ := agrees.confined norm changed
  obtain ⟨otherBefore, otherAfter, otherTurn⟩ := visits_turn apart (mem_copied.mp copied)
  obtain ⟨_, path, content, mtimeMs, otherSafe, _, holds⟩ := otherTurn.delivered
  cases sameNorm.symm.trans otherSafe
  rw [lastGone] at holds
  cases holds

end Runs

section Share

open SmbWrites

variable {faults : Faults} {pid : Nat} {now : Int} {dst : DocsStore} {rel norm content : String}

theorem writeBytes_share (smb : dst.backend = .smb none) (safe : normalizeRel rel = .ok norm)
    (free : dst.tree.lookup norm ≠ some .directory)
    (unblocked : ¬ (ancestors norm).any fun parent => Node.isFile (dst.tree.lookup parent)) :
    ∃ after, dst.writeBytes rel content now = .ok after := by
  have reached : dst.client = .ok () := by simp only [DocsStore.client, smb]
  have safeThere : dst.safeRel rel = .ok norm := by simp only [DocsStore.safeRel, smb, safe]
  simp only [DocsStore.writeBytes, reached, safeThere, bind, Except.bind, if_neg unblocked, if_neg free]
  exact ⟨_, rfl⟩

theorem tryWrite_unblocked {after : Tree} {tree : Tree}
    (written : tryWrite faults pid now tree norm content = (after, .ok ())) :
    ¬ (ancestors norm).any fun parent => Node.isFile (tree.lookup parent) := by
  intro blocked
  unfold tryWrite makedirs at written
  cases failed : faults.makedirs with
  | some reason => simp [failed] at written
  | none =>
      simp only [failed, if_pos blocked] at written
      cases written

/-- A write to a share, call by call, is a write here under some fault, but for what it
leaves under the temporary name. -/
theorem put_share (smb : dst.backend = .smb faults.session) (safe : normalizeRel rel = .ok norm) :
    ∃ fault, (put dst fault rel content now).2.isOk = (writeBytes faults pid now dst.tree rel content).2.isOk ∧
      ∀ name ≠ temporary pid norm, held (put dst fault rel content now).1.tree name =
        held (writeBytes faults pid now dst.tree rel content).1 name := by
  have safeThere : dst.safeRel rel = .ok norm := by simp only [DocsStore.safeRel, smb, safe]
  cases session : faults.session with
  | some reason =>
      have away : dst.client = .error (.unreachable reason) := by simp only [DocsStore.client, smb, session]
      refine ⟨none, ?_, fun name _ => ?_⟩ <;> simp only [put, away, writeBytes, session] <;> rfl
  | none =>
      rw [session] at smb
      have reached : dst.client = .ok () := by simp only [DocsStore.client, smb]
      simp only [writeBytes, session, safe]
      have ended := tryWrite_ended faults pid now dst.tree norm content
      generalize tried : tryWrite faults pid now dst.tree norm content = outcome at ended ⊢
      cases ended with
      | written new frame free kept =>
          obtain ⟨after, wrote⟩ := @writeBytes_share now _ _ _ content smb safe free
            (tryWrite_unblocked tried)
          obtain ⟨path, samePath, _, newHere, frameHere⟩ := DocsStore.writeBytes_spec wrote
          cases safeThere.symm.trans samePath
          refine ⟨none, by simp only [put, reached, safeThere, wrote], fun name apart => ?_⟩
          simp only [put, reached, safeThere, wrote]
          by_cases own : name = norm
          · rw [own, newHere, new]
          · rw [frameHere name own, frame name apart own]
      | gone empty frame isLost =>
          have present : Node.isFile (dst.tree.lookup norm) = true := by rw [isFile_iff_held, isLost.1]
          refine ⟨some ⟨"", true⟩, by simp only [put, reached, safeThere]; rfl, fun name apart => ?_⟩
          simp only [put, reached, safeThere, losing, smb, present, Bool.and_true, if_true]
          by_cases own : name = norm
          · rw [own, held_erase, empty]
          · rw [held_erase_ne own, frame name apart own]
      | unchanged same frame kept =>
          refine ⟨some ⟨"", false⟩, by simp only [put, reached, safeThere]; rfl, fun name apart => ?_⟩
          simp only [put, reached, safeThere, losing, smb, Bool.false_and, Bool.false_eq_true, if_false]
          by_cases own : name = norm
          · rw [own, same]
          · rw [frame name apart own]

end Share

/-! A document that both sources have. -/

def localDocs : DocsStore where
  backend := .localRoot fun _ => true
  present := true
  tree := (∅ : Tree).insert "a.md" (.file "alpha" 1)

def share (tree : Tree) : DocsStore := { backend := .smb none, present := true, tree }

def calm : Conditions := { read := fun _ => none, write := fun _ => none, now := fun _ => 2 }

end Dosm.Docs.Migration
