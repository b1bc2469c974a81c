import Dosm.Docs.Store

namespace Dosm.Docs.SmbWrites

open Store

/-! A write to a share, call by call.

The data goes to a temporary name first and is then moved over the document. A call
that fails has not been carried out, but for a write, which may have left a part of
the data in the temporary file.
-/

/-- The failures of the calls to the share, none by default. -/
structure Faults where
  session : Option String := none
  makedirs : Option String := none
  openFile : Option String := none
  write : Option (String × String) := none
  replace : Option String := none
  remove : Option String := none
  rename : Option String := none

def temporary (pid : Nat) (norm : String) : String := norm ++ "." ++ toString pid ++ ".tmp"

def makedirs (faults : Faults) (tree : Tree) (norm : String) : Except StoreError Tree :=
  match faults.makedirs with
  | some reason => .error (.osError reason)
  | none =>
      if (ancestors norm).any fun parent => Node.isFile (tree.lookup parent) then .error (.osError "not a directory")
      else .ok (withParents tree norm)

/-- `open_file`, and the `write` to it. -/
def writeTemporary (faults : Faults) (tree : Tree) (tmp content : String) (now : Int) :
    Tree × Except StoreError Unit :=
  match faults.openFile with
  | some reason => (tree, .error (.osError reason))
  | none =>
      if tree.lookup tmp = some .directory then (tree, .error (.osError "is a directory"))
      else
        match faults.write with
        | some (written, reason) => (tree.insert tmp (.file written now), .error (.osError reason))
        | none => (tree.insert tmp (.file content now), .ok ())

def move (tree : Tree) (source target : String) : Except StoreError Tree :=
  match tree.lookup source with
  | some node => .ok ((tree.erase source).insert target node)
  | none => .error (.notFound source)

def replace (faults : Faults) (tree : Tree) (source target : String) : Except StoreError Tree :=
  match faults.replace with
  | some reason => .error (.osError reason)
  | none =>
      if tree.lookup target = some .directory then .error (.osError "is a directory") else move tree source target

def remove (faults : Faults) (tree : Tree) (target : String) : Except StoreError Tree :=
  match faults.remove with
  | some reason => .error (.osError reason)
  | none =>
      match tree.lookup target with
      | some (.file _ _) => .ok (tree.erase target)
      | some .directory => .error (.osError "is a directory")
      | none => .error (.notFound target)

/-- Unlike `replace`, it does not take the place of anything. -/
def rename (faults : Faults) (tree : Tree) (source target : String) : Except StoreError Tree :=
  match faults.rename with
  | some reason => .error (.osError reason)
  | none => if (tree.lookup target).isSome then .error (.osError "file exists") else move tree source target

/-- The move of the temporary file, or else deleting and renaming. -/
def settle (faults : Faults) (tree : Tree) (tmp norm : String) : Tree × Except StoreError Unit :=
  match replace faults tree tmp norm with
  | .ok after => (after, .ok ())
  | .error _ =>
      let cleared := (remove faults tree norm).toOption.getD tree
      match rename faults cleared tmp norm with
      | .ok after => (after, .ok ())
      | .error error => (cleared, .error error)

def tryWrite (faults : Faults) (pid : Nat) (now : Int) (tree : Tree) (norm content : String) :
    Tree × Except StoreError Unit :=
  match makedirs faults tree norm with
  | .error error => (tree, .error error)
  | .ok made =>
      match writeTemporary faults made (temporary pid norm) content now with
      | (after, .error error) => (after, .error error)
      | (after, .ok ()) => settle faults after (temporary pid norm) norm

def writeBytes (faults : Faults) (pid : Nat) (now : Int) (tree : Tree) (rel content : String) :
    Tree × Except StoreError Unit :=
  match faults.session with
  | some reason => (tree, .error (.unreachable reason))
  | none =>
      match normalizeRel rel with
      | .error error => (tree, .error (.invalid error))
      | .ok norm =>
          match tryWrite faults pid now tree norm content with
          | (after, .ok ()) => (after, .ok ())
          | (after, .error cause) => (after, .error (.wrapped ("write " ++ norm) cause))

/-- After the call the path holds all of the new data or all of what it held before,
as the call says. -/
def Careful (tree : Tree) (norm content : String) (ended : Tree × Except StoreError Unit) : Prop :=
  match ended.2 with
  | .ok _ => ∃ mtimeMs, held ended.1 norm = some (content, mtimeMs)
  | .error _ => held ended.1 norm = held tree norm

def Staged (faults : Faults) (pid : Nat) (tree : Tree) (norm : String) : Prop :=
  faults.makedirs = none ∧ (¬ (ancestors norm).any fun parent => Node.isFile (tree.lookup parent)) ∧
    faults.openFile = none ∧ (withParents tree norm).lookup (temporary pid norm) ≠ some .directory ∧
    faults.write = none

/-- The document is deleted, and nothing takes its place. -/
def Loses (faults : Faults) (pid : Nat) (tree : Tree) (norm : String) : Prop :=
  (held tree norm).isSome ∧ Staged faults pid tree norm ∧ faults.replace.isSome ∧ faults.remove = none ∧
    faults.rename.isSome

def Frame (tree after : Tree) (tmp norm : String) : Prop :=
  ∀ name, name ≠ tmp → name ≠ norm → held after name = held tree name

/-- The ways a write ends: with the new data, or with a failure that has lost the
document or left it as it was. -/
inductive Ended (tree : Tree) (tmp norm content : String) (now : Int) (lost : Prop) :
    Tree × Except StoreError Unit → Prop where
  | written {after : Tree} (new : held after norm = some (content, now)) (frame : Frame tree after tmp norm)
      (free : tree.lookup norm ≠ some .directory) (kept : ¬ lost) : Ended tree tmp norm content now lost (after, .ok ())
  | gone {after : Tree} {error : StoreError} (empty : held after norm = none) (frame : Frame tree after tmp norm)
      (isLost : lost) : Ended tree tmp norm content now lost (after, .error error)
  | unchanged {after : Tree} {error : StoreError} (same : held after norm = held tree norm)
      (frame : Frame tree after tmp norm) (kept : ¬ lost) : Ended tree tmp norm content now lost (after, .error error)

section Writes

variable {faults : Faults} {pid : Nat} {now : Int} {tree made after : Tree} {norm rel content tmp : String} {lost : Prop}
  {ended : Tree × Except StoreError Unit}

theorem Ended.careful (ends : Ended tree tmp norm content now lost ended) (present : lost → (held tree norm).isSome) :
    Careful tree norm content ended ↔ ¬ lost := by
  cases ends with
  | written new frame free kept => exact iff_of_true ⟨now, new⟩ kept
  | gone empty frame isLost =>
      apply iff_of_false
      · intro careful
        have same := empty.symm.trans careful
        have isHeld := present isLost
        rw [← same] at isHeld
        cases isHeld
      · exact not_not_intro isLost
  | unchanged same frame kept => exact iff_of_true same kept

theorem temporary_ne : temporary pid norm ≠ norm := by
  intro same
  have lengths := congrArg String.length same
  simp only [temporary, String.length_append] at lengths
  have point : ".".length = 1 := rfl
  omega

theorem move_staged (staged : tree.lookup tmp = some (.file content now)) :
    ∃ after, move tree tmp norm = .ok after ∧ held after norm = some (content, now) ∧ Frame tree after tmp norm := by
  rw [move, staged]
  refine ⟨_, rfl, held_insert_file, fun name fromTmp fromNorm => ?_⟩
  exact (held_insert_ne fromNorm).trans (held_erase_ne fromTmp)

theorem replace_cases (faults : Faults) (norm : String) (staged : tree.lookup tmp = some (.file content now)) :
    (∃ after, replace faults tree tmp norm = .ok after ∧ held after norm = some (content, now) ∧
      Frame tree after tmp norm ∧ tree.lookup norm ≠ some .directory ∧ faults.replace = none) ∨
      ∃ error, replace faults tree tmp norm = .error error ∧ (faults.replace.isSome ∨ held tree norm = none) := by
  unfold replace
  cases faults.replace with
  | some reason => exact .inr ⟨_, rfl, .inl rfl⟩
  | none =>
      by_cases directory : tree.lookup norm = some .directory
      · exact .inr ⟨_, if_pos directory, .inr (by rw [held, directory])⟩
      · obtain ⟨after, moved, holds, frame⟩ := @move_staged _ _ norm _ _ staged
        exact .inl ⟨after, (if_neg directory).trans moved, holds, frame, directory, rfl⟩

theorem remove_cases (faults : Faults) (tree : Tree) (norm : String) :
    (faults.remove = none ∧ (held tree norm).isSome ∧
      (remove faults tree norm).toOption.getD tree = tree.erase norm) ∨
      (¬ (faults.remove = none ∧ (held tree norm).isSome) ∧ (remove faults tree norm).toOption.getD tree = tree) := by
  unfold remove
  cases faults.remove with
  | some reason => exact .inr ⟨by simp, rfl⟩
  | none =>
      unfold held
      cases tree.lookup norm with
      | none => exact .inr ⟨by simp, rfl⟩
      | some node =>
          cases node with
          | file content mtimeMs => exact .inl ⟨rfl, rfl, rfl⟩
          | directory => exact .inr ⟨by simp, rfl⟩

theorem rename_cases (faults : Faults) (norm : String) (staged : tree.lookup tmp = some (.file content now)) :
    (∃ after, rename faults tree tmp norm = .ok after ∧ held after norm = some (content, now) ∧
      Frame tree after tmp norm ∧ tree.lookup norm = none ∧ faults.rename = none) ∨
      ∃ error, rename faults tree tmp norm = .error error ∧ (faults.rename.isSome ∨ (tree.lookup norm).isSome) := by
  unfold rename
  cases faults.rename with
  | some reason => exact .inr ⟨_, rfl, .inl rfl⟩
  | none =>
      by_cases taken : (tree.lookup norm).isSome
      · exact .inr ⟨_, if_pos taken, .inr taken⟩
      · obtain ⟨after, moved, holds, frame⟩ := @move_staged _ _ norm _ _ staged
        exact .inl ⟨after, (if_neg taken).trans moved, holds, frame, by simpa using taken, rfl⟩

theorem settle_ended (apart : tmp ≠ norm) (staged : tree.lookup tmp = some (.file content now)) :
    Ended tree tmp norm content now
      ((held tree norm).isSome ∧ faults.replace.isSome ∧ faults.remove = none ∧ faults.rename.isSome)
      (settle faults tree tmp norm) := by
  unfold settle
  rcases replace_cases faults norm staged with ⟨after, replaced, holds, frame, free, unfailing⟩ | ⟨error, refused, cause⟩
  · rw [replaced]
    exact .written holds frame free (by simp [unfailing])
  rw [refused]
  rcases remove_cases faults tree norm with ⟨removes, present, cleared⟩ | ⟨stays, cleared⟩
  · have stagedStill : (tree.erase norm).lookup tmp = some (.file content now) :=
      (AList.lookup_erase_ne apart).trans staged
    have erased : Frame tree (tree.erase norm) tmp norm := fun name _ fromNorm => held_erase_ne fromNorm
    have failed : faults.replace.isSome := cause.resolve_right fun absent => by simp [absent] at present
    have isFile : tree.lookup norm ≠ some .directory := fun directory => by simp [held, directory] at present
    rw [cleared]
    rcases rename_cases faults norm stagedStill with ⟨after, renamed, holds, frame, _, unfailing⟩ | ⟨error, stuck, cause⟩
    · simp only [renamed]
      exact .written holds (fun name fromTmp fromNorm => (frame name fromTmp fromNorm).trans (erased name fromTmp fromNorm))
        isFile (by simp [unfailing])
    · have unnamed : faults.rename.isSome := cause.resolve_right (by simp [AList.lookup_erase])
      simp only [stuck]
      exact .gone held_erase erased ⟨present, failed, removes, unnamed⟩
  · have safe : ¬ ((held tree norm).isSome ∧ faults.replace.isSome ∧ faults.remove = none ∧ faults.rename.isSome) :=
      fun lost => stays ⟨lost.2.2.1, lost.1⟩
    rw [cleared]
    rcases rename_cases faults norm staged with ⟨after, renamed, holds, frame, absent, _⟩ | ⟨error, stuck, _⟩
    · simp only [renamed]
      exact .written holds frame (by simp [absent]) safe
    · simp only [stuck]
      exact .unchanged rfl (fun _ _ _ => rfl) safe

theorem writeTemporary_cases (faults : Faults) (tree : Tree) (tmp content : String) (now : Int) :
    (∃ error after, writeTemporary faults tree tmp content now = (after, .error error) ∧
      (∀ name ≠ tmp, held after name = held tree name) ∧
      ¬ (faults.openFile = none ∧ tree.lookup tmp ≠ some .directory ∧ faults.write = none)) ∨
      (writeTemporary faults tree tmp content now = (tree.insert tmp (.file content now), .ok ()) ∧
        faults.openFile = none ∧ tree.lookup tmp ≠ some .directory ∧ faults.write = none) := by
  unfold writeTemporary
  cases faults.openFile with
  | some reason => exact .inl ⟨_, _, rfl, fun _ _ => rfl, by simp⟩
  | none =>
      by_cases directory : tree.lookup tmp = some .directory
      · exact .inl ⟨_, _, if_pos directory, fun _ _ => rfl, fun staged => staged.2.1 directory⟩
      · simp only [if_neg directory]
        cases faults.write with
        | some failure => exact .inl ⟨_, _, rfl, fun _ apart => held_insert_ne apart, by simp⟩
        | none => exact .inr ⟨rfl, trivial, directory, rfl⟩

theorem Ended.begun {lostThere : Prop} (there : Ended made tmp norm content now lostThere ended)
    (same : ∀ name, name ≠ tmp → held made name = held tree name) (apart : norm ≠ tmp)
    (directories : tree.lookup norm = some .directory → made.lookup norm = some .directory)
    (losses : lost ↔ lostThere) : Ended tree tmp norm content now lost ended := by
  have frames : ∀ {after}, Frame made after tmp norm → Frame tree after tmp norm :=
    fun frame name fromTmp fromNorm => (frame name fromTmp fromNorm).trans (same name fromTmp)
  cases there with
  | written new frame free kept =>
      exact .written new (frames frame) (fun directory => free (directories directory)) fun isLost => kept (losses.mp isLost)
  | gone empty frame isLost => exact .gone empty (frames frame) (losses.mpr isLost)
  | unchanged still frame kept =>
      exact .unchanged (still.trans (same norm apart)) (frames frame) fun isLost => kept (losses.mp isLost)

theorem tryWrite_ended (faults : Faults) (pid : Nat) (now : Int) (tree : Tree) (norm content : String) :
    Ended tree (temporary pid norm) norm content now (Loses faults pid tree norm)
      (tryWrite faults pid now tree norm content) := by
  have unheard {error : StoreError} (unstaged : ¬ Staged faults pid tree norm) :
      Ended tree (temporary pid norm) norm content now (Loses faults pid tree norm) (tree, .error error) :=
    .unchanged rfl (fun _ _ _ => rfl) fun lost => unstaged lost.2.1
  unfold tryWrite makedirs
  cases failed : faults.makedirs with
  | some reason => exact unheard fun staged => nomatch failed.symm.trans staged.1
  | none =>
      by_cases blocked : (ancestors norm).any fun parent => Node.isFile (tree.lookup parent)
      · simp only [if_pos blocked]
        exact unheard fun staged => staged.2.1 blocked
      · simp only [if_neg blocked]
        have same : ∀ name, held (withParents tree norm) name = held tree name := fun name => held_withParents blocked
        rcases writeTemporary_cases faults (withParents tree norm) (temporary pid norm) content now with
          ⟨error, after, written, frame, unstaged⟩ | ⟨written, opened, free, whole⟩
        · rw [written]
          exact .unchanged ((frame norm temporary_ne.symm).trans (same norm))
            (fun name fromTmp _ => (frame name fromTmp).trans (same name)) fun lost => unstaged lost.2.1.2.2
        · rw [written]
          have kept : ∀ name, name ≠ temporary pid norm →
              held ((withParents tree norm).insert (temporary pid norm) (.file content now)) name = held tree name :=
            fun name apart => (held_insert_ne apart).trans (same name)
          have staged : Staged faults pid tree norm := ⟨failed, blocked, opened, free, whole⟩
          refine (settle_ended temporary_ne (AList.lookup_insert _)).begun kept temporary_ne.symm ?_ ?_
          · intro directory
            rw [AList.lookup_insert_ne temporary_ne.symm]
            exact lookup_withParents_directory directory
          · rw [kept norm temporary_ne.symm]
            simp [Loses, staged]

theorem tryWrite_careful (faults : Faults) (pid : Nat) (now : Int) (tree : Tree) (norm content : String) :
    Careful tree norm content (tryWrite faults pid now tree norm content) ↔ ¬ Loses faults pid tree norm :=
  (tryWrite_ended faults pid now tree norm content).careful And.left

/-- Every failed write but this one leaves the document as it was: it existed, its new
version was staged, the share refused to replace it and removed it, and then
refused the rename. -/
theorem write_careful_iff (faults : Faults) (pid : Nat) (now : Int) (tree : Tree) (rel content : String) :
    (∀ norm, normalizeRel rel = .ok norm → Careful tree norm content (writeBytes faults pid now tree rel content)) ↔
      ∀ norm, faults.session = none → normalizeRel rel = .ok norm → ¬ Loses faults pid tree norm := by
  unfold writeBytes
  cases faults.session with
  | some reason => exact iff_of_true (fun norm _ => rfl) nofun
  | none =>
      cases valid : normalizeRel rel with
      | error error => exact iff_of_true nofun nofun
      | ok norm =>
          have tried := tryWrite_careful faults pid now tree norm content
          simp only [Except.ok.injEq, forall_eq', forall_const, Careful] at tried ⊢
          rw [← tried]
          cases tryWrite faults pid now tree norm content with
          | mk after result => cases result <;> rfl

end Writes

def runbook : Tree := (∅ : Tree).insert "runbook.md" (.file "steps" 1)

def refusing : Faults := { replace := some "sharing violation", rename := some "connection lost" }

theorem refused_rename_loses : normalizeRel "runbook.md" = .ok "runbook.md" ∧
    held runbook "runbook.md" = some ("steps", 1) ∧
    held (writeBytes refusing 7 2 runbook "runbook.md" "new steps").1 "runbook.md" = none ∧
    ¬ Careful runbook "runbook.md" "new steps" (writeBytes refusing 7 2 runbook "runbook.md" "new steps") := by
  have valid : normalizeRel "runbook.md" = .ok "runbook.md" := by decide
  have before : held runbook "runbook.md" = some ("steps", 1) := by decide
  have after : held (writeBytes refusing 7 2 runbook "runbook.md" "new steps").1 "runbook.md" = none := by decide
  refine ⟨valid, before, after, fun careful => ?_⟩
  unfold Careful at careful
  rw [after, before] at careful
  split at careful
  · obtain ⟨_, same⟩ := careful
    cases same
  · cases careful

end Dosm.Docs.SmbWrites
