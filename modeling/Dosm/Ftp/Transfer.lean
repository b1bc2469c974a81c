import Dosm.Ftp.Backends

namespace Dosm.Ftp

open Models Credentials

/-! The files at the two ends of a copy between hosts.

What a path of a host names is up to the remote side, so two names may lead to
one file. How each operation ends, and how far a store got before it broke off, is
given in advance.
-/

abbrev Contents := List UInt8

abbrev Files (File : Type) := File → Option Contents

inductive Stored where
  | done
  /-- Failed before the remote file was opened. -/
  | refused (failure : ConnectFailure)
  /-- Failed after so many bytes were written. -/
  | broken (count : Nat) (failure : ConnectFailure)

inductive Deleted where
  | done
  /-- A lost reply leaves it open whether the file is gone. -/
  | failed (gone : Bool) (failure : ConnectFailure)

structure FileSteps where
  retrieved : Except ConnectFailure Unit
  stored : Stored
  deleted : Deleted

section Operations

variable {File : Type} [DecidableEq File]

def retrieve (files : Files File) (file : File) (outcome : Except ConnectFailure Unit) :
    Except ConnectFailure Contents :=
  match outcome, files file with
  | .error failure, _ => .error failure
  | .ok (), none => .error (.fileTransfer "no such file")
  | .ok (), some contents => .ok contents

/-- Opening the remote file empties it. -/
def store (files : Files File) (file : File) (spool : Contents) :
    Stored → Files File × Except ConnectFailure Unit
  | .done => (Function.update files file (some spool), .ok ())
  | .refused failure => (files, .error failure)
  | .broken count failure => (Function.update files file (some (spool.take count)), .error failure)

def delete (files : Files File) (file : File) : Deleted → Files File × Except ConnectFailure Unit
  | .done => (Function.update files file none, .ok ())
  | .failed true failure => (Function.update files file none, .error failure)
  | .failed false failure => (files, .error failure)

/-- The files a copy leaves, and the number of bytes sent. -/
def copyFile (files : Files File) (src dst : File) (steps : FileSteps) (move : Bool) :
    Files File × Except ConnectFailure Nat :=
  match retrieve files src steps.retrieved with
  | .error failure => (files, .error failure)
  | .ok spool =>
      match store files dst spool steps.stored with
      | (stored, .error failure) => (stored, .error failure)
      | (stored, .ok ()) =>
          if move then
            match delete stored src steps.deleted with
            | (left, .error failure) => (left, .error failure)
            | (left, .ok ()) => (left, .ok spool.length)
          else (stored, .ok spool.length)

/-- A copy between the files that the paths of two hosts name. -/
def transferFiles (env : Environment) (denotes : Host → String → File) (files : Files File)
    (src dst : Host × String) (steps : FileSteps) (move : Bool) : Files File × Except ConnectFailure Nat :=
  match resolveFtTarget env src.1, resolveFtTarget env dst.1 with
  | .error failure, _ => (files, .error failure)
  | .ok _, .error failure => (files, .error failure)
  | .ok _, .ok _ => copyFile files (denotes src.1 src.2) (denotes dst.1 dst.2) steps move

/-- A move leaves the contents at one of the ends, a copy leaves the source as it was. -/
def KeepsFile (files after : Files File) (src dst : File) (move : Bool) : Prop :=
  if move then ∀ contents, files src = some contents → after src = some contents ∨ after dst = some contents
  else after src = files src

end Operations

section Kept

variable {File : Type} {files : Files File} {src dst : File} {steps : FileSteps} {move : Bool} {spool : Contents}

theorem retrieve_ok (retrieved : retrieve files src steps.retrieved = .ok spool) : files src = some spool := by
  unfold retrieve at retrieved
  split at retrieved
  next => cases retrieved
  next => cases retrieved
  next contents _ found =>
    cases retrieved
    exact found

theorem keepsFile_refl : KeepsFile files files src dst move := by
  unfold KeepsFile
  split
  · exact fun contents found => .inl found
  · rfl

variable [DecidableEq File]

theorem store_other {outcome : Stored} (apart : src ≠ dst) : (store files dst spool outcome).1 src = files src := by
  cases outcome with
  | done => exact Function.update_of_ne apart _ _
  | refused failure => rfl
  | broken count failure => exact Function.update_of_ne apart _ _

theorem store_done {outcome : Stored} {stored : Files File} (done : store files dst spool outcome = (stored, .ok ())) :
    stored dst = some spool := by
  cases outcome with
  | done =>
      cases done
      exact Function.update_self ..
  | refused failure => cases done
  | broken count failure => cases done

theorem delete_other {outcome : Deleted} (apart : dst ≠ src) : (delete files src outcome).1 dst = files dst := by
  match outcome with
  | .done => exact Function.update_of_ne apart _ _
  | .failed true failure => exact Function.update_of_ne apart _ _
  | .failed false failure => rfl

theorem copyFile_move {stored : Files File} (retrieved : retrieve files src steps.retrieved = .ok spool)
    (done : store files dst spool steps.stored = (stored, .ok ())) :
    (copyFile files src dst steps true).1 = (delete stored src steps.deleted).1 := by
  rw [copyFile, retrieved]
  dsimp only
  rw [done]
  dsimp only
  rw [if_pos rfl]
  cases delete stored src steps.deleted with
  | mk left answer => cases answer <;> rfl

theorem copyFile_keeps (apart : src ≠ dst) : KeepsFile files (copyFile files src dst steps move).1 src dst move := by
  cases retrieved : retrieve files src steps.retrieved with
  | error failure =>
      rw [copyFile, retrieved]
      exact keepsFile_refl
  | ok spool =>
      have original : files src = some spool := retrieve_ok retrieved
      have untouched : (store files dst spool steps.stored).1 src = files src := store_other apart
      cases ended : store files dst spool steps.stored with
      | mk stored answer =>
          rw [ended] at untouched
          cases answer with
          | error failure =>
              rw [copyFile, retrieved]
              dsimp only
              rw [ended]
              unfold KeepsFile
              split
              · exact fun contents found => .inl (untouched.trans found)
              · exact untouched
          | ok _ =>
              cases move with
              | false =>
                  rw [copyFile, retrieved]
                  dsimp only
                  rw [ended]
                  exact untouched
              | true =>
                  rw [copyFile_move retrieved ended]
                  intro contents found
                  cases Option.some.inj (original.symm.trans found)
                  exact .inr ((delete_other apart.symm).trans (store_done ended))

theorem copyFile_absent (absent : files src = none) : copyFile files src dst steps move =
    (files, (retrieve files src steps.retrieved).map List.length) := by
  have fails : ∃ failure, retrieve files src steps.retrieved = .error failure := by
    unfold retrieve
    rw [absent]
    cases steps.retrieved with
    | error failure => exact ⟨failure, rfl⟩
    | ok _ => exact ⟨_, rfl⟩
  obtain ⟨failure, fails⟩ := fails
  rw [copyFile, fails]
  rfl

theorem copyFile_empty (original : files src = some []) : (copyFile files src src steps false).1 src = some [] := by
  unfold copyFile
  cases retrieved : retrieve files src steps.retrieved with
  | error failure => exact original
  | ok spool =>
      cases Option.some.inj (original.symm.trans (retrieve_ok retrieved))
      match outcome : steps.stored with
      | .done => exact Function.update_self ..
      | .refused failure => exact original
      | .broken count failure =>
          refine (Function.update_self ..).trans ?_
          rw [List.take_nil]

def smoothSteps : FileSteps where
  retrieved := .ok ()
  stored := .done
  deleted := .done

def brokenStore : FileSteps where
  retrieved := .ok ()
  stored := .broken 0 (.fileTransfer "connection lost")
  deleted := .done

theorem copyFile_moved_onto_itself (original : files src = some spool) :
    (copyFile files src src smoothSteps true).1 src = none := by
  have retrieved : retrieve files src (.ok ()) = .ok spool := by simp only [retrieve, original]
  rw [copyFile, smoothSteps, retrieved]
  exact Function.update_self ..

theorem copyFile_cut_short (original : files src = some spool) :
    (copyFile files src src brokenStore false).1 src = some [] := by
  have retrieved : retrieve files src (.ok ()) = .ok spool := by simp only [retrieve, original]
  rw [copyFile, brokenStore, retrieved]
  exact Function.update_self ..

variable {env : Environment} {denotes : Host → String → File} {source target : Host × String}

theorem transferFiles_unconfigured (missing : source.1.ftMethod = none ∨ target.1.ftMethod = none) :
    (transferFiles env denotes files source target steps move).1 = files := by
  unfold transferFiles resolveFtTarget
  rcases missing with missing | missing
  · rw [missing]
  · rw [missing]
    cases source.1.ftMethod <;> rfl

theorem transferFiles_configured {sends receives : FtMethod} (sending : source.1.ftMethod = some sends)
    (receiving : target.1.ftMethod = some receives) :
    transferFiles env denotes files source target steps move =
      copyFile files (denotes source.1 source.2) (denotes target.1 target.2) steps move := by
  unfold transferFiles resolveFtTarget
  rw [sending, receiving]

/-- Whatever fails, a move keeps the file and a copy its source, if and only if no
copy starts, the two ends are different files, or there is nothing to lose. -/
theorem transfer_keeps_file_iff :
    (∀ steps, KeepsFile files (transferFiles env denotes files source target steps move).1
      (denotes source.1 source.2) (denotes target.1 target.2) move) ↔
      source.1.ftMethod = none ∨ target.1.ftMethod = none ∨
        denotes source.1 source.2 ≠ denotes target.1 target.2 ∨ files (denotes source.1 source.2) = none ∨
        (move = false ∧ files (denotes source.1 source.2) = some []) := by
  by_cases missing : source.1.ftMethod = none ∨ target.1.ftMethod = none
  · rw [← or_assoc]
    refine iff_of_true (fun steps => ?_) (.inl missing)
    rw [transferFiles_unconfigured missing]
    exact keepsFile_refl
  rw [← or_assoc, or_iff_right missing]
  obtain ⟨sends, sending⟩ := Option.ne_none_iff_exists'.mp fun absent => missing (.inl absent)
  obtain ⟨receives, receiving⟩ := Option.ne_none_iff_exists'.mp fun absent => missing (.inr absent)
  simp only [transferFiles_configured sending receiving]
  generalize denotes source.1 source.2 = src
  generalize denotes target.1 target.2 = dst
  constructor
  · intro keeps
    by_contra lost
    push Not at lost
    obtain ⟨rfl, present, different⟩ := lost
    obtain ⟨spool, original⟩ := Option.ne_none_iff_exists'.mp present
    cases move with
    | true =>
        have gone := copyFile_moved_onto_itself original
        rcases keeps smoothSteps spool original with kept | kept <;>
          exact nomatch gone.symm.trans kept
    | false =>
        have kept := (copyFile_cut_short original).symm.trans (keeps brokenStore)
        exact different rfl kept.symm
  · rintro (apart | absent | ⟨rfl, empty⟩) steps
    · exact copyFile_keeps apart
    · rw [copyFile_absent absent]
      exact keepsFile_refl
    · by_cases apart : src = dst
      · cases apart
        exact (copyFile_empty empty).trans empty.symm
      · exact copyFile_keeps apart

end Kept

section Refinement

variable {File : Type} [DecidableEq File] {env : Environment} {host : Host} {target : FtTarget}

def FileSteps.copySteps (files : Files File) (src : File) (steps : FileSteps) : CopySteps where
  retrieved := (retrieve files src steps.retrieved).map fun _ => ()
  stored := (store files src [] steps.stored).2
  deleted := (delete files src steps.deleted).2

def Connects (env : Environment) (host : Host) (target : FtTarget) : Prop :=
  (operation env host target (.ok ())).result = .ok ()

theorem operation_result {outcome : Except ConnectFailure Unit} (connects : Connects env host target) :
    (operation env host target outcome).result = outcome := by
  have connected {Value : Type} (opened : Connecting Value)
      (returned : (opened >>= fun _ => Logged.call (.ok ())).result = .ok ()) :
      (opened >>= fun _ => Logged.call outcome).result = outcome := by
    cases found : opened.result with
    | error failure =>
        rw [Logged.bind_of_error found] at returned
        cases returned
    | ok value =>
        rw [Logged.bind_of_ok found]
        rfl
  unfold Connects operation at connects
  unfold operation
  cases method : target.method with
  | sftp =>
      rw [method] at connects
      exact connected _ connects
  | ftp | ftps =>
      rw [method] at connects
      exact connected _ connects

/-- Between hosts that connect, the copy of the file and the copy by the backends
end alike. -/
theorem copyFile_result {source receiver : Host × FtTarget} {files : Files File} {src dst : File}
    {steps : FileSteps} {move : Bool} (sends : Connects env source.1 source.2)
    (receives : Connects env receiver.1 receiver.2) :
    (copyFile files src dst steps move).2.map (fun _ => ()) =
      (transferBetweenHosts env source receiver (steps.copySteps files src) move).result := by
  unfold copyFile transferBetweenHosts FileSteps.copySteps
  cases retrieved : retrieve files src steps.retrieved with
  | error failure =>
      dsimp only [Except.map]
      rw [Logged.bind_of_error (operation_result sends)]
  | ok spool =>
      dsimp only [Except.map]
      rw [Logged.bind_of_ok (operation_result sends)]
      dsimp only
      match steps.stored with
      | .refused failure | .broken _ failure =>
          dsimp only [store]
          rw [Logged.bind_of_error (operation_result receives)]
      | .done =>
          dsimp only [store]
          rw [Logged.bind_of_ok (operation_result receives)]
          cases move with
          | false => rfl
          | true =>
              have removed : ∀ remote : Files File,
                  (delete remote src steps.deleted).2 = (delete files src steps.deleted).2 := by
                intro remote
                match steps.deleted with
                | .done | .failed true _ | .failed false _ => rfl
              rw [if_pos rfl, if_pos rfl, operation_result sends, ← removed (Function.update files dst (some spool))]
              cases delete (Function.update files dst (some spool)) src steps.deleted with
              | mk left answer => cases answer <;> rfl

end Refinement

section Counterexample

def fileServer : Host where
  id := 1
  tenantId := 1
  name := "files"
  hostname := "files.example.com"
  port := 22
  protocol := .ssh
  description := none
  credentialId := none
  jumpHostId := none
  isJumpbox := false
  ftMethod := some .sftp
  ftPort := none
  ftCredentialId := none
  orgUnitId := none

def filesEnvironment : Environment where
  world := {
    db := { hosts := Table.empty.insert fun id => { fileServer with id } }
    secrets := ∅
    connectingUser := none }
  decode := fun _ => none

/-- Each path of each host is a file of its own. -/
def ownFile (host : Host) (path : String) : Int × String := (host.id, path)

def notes : Files (Int × String) := fun file => if file = (1, "notes.txt") then some [104, 105] else none

def moveNotes : Files (Int × String) × Except ConnectFailure Nat :=
  transferFiles filesEnvironment ownFile notes (fileServer, "notes.txt") (fileServer, "notes.txt") smoothSteps true

/-- A file moved to the place where it is has been sent and is gone. -/
theorem move_onto_itself_loses_file : moveNotes.2.toOption = some 2 ∧
    ¬ KeepsFile notes moveNotes.1 (1, "notes.txt") (1, "notes.txt") true := by
  refine ⟨rfl, fun keeps => ?_⟩
  have gone : moveNotes.1 (1, "notes.txt") = none := rfl
  rcases keeps [104, 105] rfl with kept | kept <;> exact nomatch gone.symm.trans kept

end Counterexample
end Dosm.Ftp
