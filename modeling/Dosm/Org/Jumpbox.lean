import Dosm.Org.Routes
import Dosm.Python.JsonText
import Dosm.Shell.Literals

namespace Dosm.Org

open Python

/-! The directory behind a Windows jumpbox.

A call puts its arguments into environment variables in front of a PowerShell script,
runs it over WinRM and decodes the one JSON object it prints. Scripts report what they
did not find in that object; the callers of the shared decoder see it as an unreachable
directory and look for a marker in its text.
-/

/-- An error of the directory, or an exception that no caller expects. -/
inductive SourceFailure where
  | directory (error : DirectoryError)
  | other (exn : Exn)
  deriving DecidableEq

/-- The JSON decoder, and the text of a decoded value. -/
structure Decoder where
  loads : String → Option Json
  str : Json → String
  str_text : ∀ text, str (.str text) = text

/-- What the run of a script over WinRM comes to; the streams are decoded. -/
inductive PsRun where
  | sessionFailed (text : String)
  | callFailed (text : String)
  | exited (status : Int) (stdErr stdOut : String)

abbrev Payload := List (String × Json)

namespace Payload

/-- `payload.get(name)`. -/
def field (payload : Payload) (name : String) : Json := (payload.lookup name).getD .null

/-- `payload[name]`. -/
def index (payload : Payload) (name : String) : Except SourceFailure Json :=
  match payload.lookup name with
  | some value => .ok value
  | none => .error (.other ⟨"KeyError", Python.repr name⟩)

/-- `payload.get("error") == "not_found"`. -/
def reportsNotFound (payload : Payload) : Bool :=
  match payload.field "error" with
  | .str text => text = "not_found"
  | _ => false

end Payload

def parseOrRaise (decoder : Decoder) (onNotFound : String → DirectoryError) (out : String) :
    Except DirectoryError Payload :=
  let out := strip out
  if out = "" then .error (.unreachable "PowerShell returned empty output")
  else
    match decoder.loads out with
    | none => .error (.unreachable ("PowerShell returned non-JSON: " ++ Python.repr (slice 0 200 out)))
    | some (.object fields) =>
        let payload : Payload := fields
        if payload.reportsNotFound then
          .error (onNotFound (decoder.str ((payload.field "message").orElse (.str "not found in AD"))))
        else if (payload.field "ok").truthy then .ok payload
        else .error (.unreachable ("unexpected payload: " ++ Python.repr (slice 0 200 out)))
    | some _ => .error (.unreachable ("unexpected payload: " ++ Python.repr (slice 0 200 out)))

/-- The run of a script is what WinRM answers to it. -/
def runPs (decoder : Decoder) (hostLabel : String) : PsRun → Except DirectoryError Payload
  | .sessionFailed text => .error (.unreachable (hostLabel ++ ": WinRM session init failed: " ++ text))
  | .callFailed text => .error (.unreachable (hostLabel ++ ": WinRM call failed: " ++ text))
  | .exited status stdErr stdOut =>
      if status ≠ 0 then
        .error (.unreachable
          (hostLabel ++ ": PowerShell exit " ++ toString status ++ ": " ++ slice 0 500 stdErr))
      else parseOrRaise decoder .unreachable stdOut

structure GroupReply where
  distinguishedName : Json
  name : Json
  description : Json
  managedByDn : Json

structure UserReply where
  distinguishedName : Json
  displayName : Json
  email : Json
  title : Json
  phone : Json
  enabled : Bool
  managerDn : Json
  samAccountName : Json

def groupReply (payload : Payload) : Except SourceFailure GroupReply := do
  return {
    distinguishedName := ← payload.index "distinguishedName"
    name := ← payload.index "name"
    description := payload.field "description"
    managedByDn := payload.field "managedBy" }

/-- `payload.get("enabled", True)` as a Boolean. -/
def enabledOf (payload : Payload) : Bool := ((payload.lookup "enabled").map Json.truthy).getD true

def userReply (identifier : String) (payload : Payload) : Except SourceFailure UserReply := do
  return {
    distinguishedName := ← payload.index "distinguishedName"
    displayName := (payload.field "displayName").orElse (.str identifier)
    email := payload.field "mail"
    title := payload.field "title"
    phone := payload.field "telephoneNumber"
    enabled := enabledOf payload
    managerDn := payload.field "manager"
    samAccountName := payload.field "sAMAccountName" }

/-- The text of an unreachable directory tells whether it is one. -/
def rerouted (notFound : DirectoryError) : DirectoryError → DirectoryError
  | .unreachable text => if contains "not_found" text then notFound else .unreachable text
  | error => error

def resolveGroup (decoder : Decoder) (hostLabel groupName : String) (run : PsRun) : Except SourceFailure GroupReply :=
  match runPs decoder hostLabel run with
  | .error error => .error (.directory (rerouted (.groupNotFound groupName) error))
  | .ok payload => groupReply payload

def resolveUser (decoder : Decoder) (hostLabel identifier : String) (run : PsRun) : Except SourceFailure UserReply :=
  match runPs decoder hostLabel run with
  | .error error => .error (.directory (rerouted (.userNotFound identifier) error))
  | .ok payload => userReply identifier payload

/-! The answer to a sync. -/

structure MemberReply where
  userDn : Json
  displayName : Json
  email : Json
  title : Json
  phone : Json
  enabled : Bool
  managerDn : Json
  managerName : Json

structure SyncReply where
  group : GroupReply
  manager : Option UserReply
  members : List MemberReply
  managerChain : List Json

/-- `value[name]` of any decoded value. -/
def index (value : Json) (name : String) : Except SourceFailure Json :=
  match value with
  | .object fields => Payload.index fields name
  | .array _ => .error (.other ⟨"TypeError", "list indices must be integers or slices, not str"⟩)
  | .str _ => .error (.other ⟨"TypeError", "string indices must be integers, not 'str'"⟩)
  | value => .error (.other ⟨"TypeError", "'" ++ value.typeName ++ "' object is not subscriptable"⟩)

def getField (value : Json) (name : String) : Except SourceFailure Json :=
  (value.get name).mapError .other

def isEnabled (value : Json) : Except SourceFailure Bool := do
  return (← (value.get "enabled" (.bool true)).mapError .other).truthy

def groupMeta (raw : Json) : Except SourceFailure GroupReply := do
  return {
    distinguishedName := ← index raw "distinguishedName"
    name := ← index raw "name"
    description := ← getField raw "description"
    managedByDn := ← getField raw "managedBy" }

def managerRecord (raw : Json) : Except SourceFailure UserReply := do
  return {
    distinguishedName := ← index raw "distinguishedName"
    displayName := (← getField raw "displayName").orElse (.str "")
    email := ← getField raw "mail"
    title := ← getField raw "title"
    phone := ← getField raw "telephoneNumber"
    enabled := ← isEnabled raw
    managerDn := ← getField raw "manager"
    samAccountName := .null }

def memberRecord (raw : Json) : Except SourceFailure (Option MemberReply) := do
  let dn ← getField raw "distinguishedName"
  if !dn.truthy then return none
  return some {
    userDn := dn
    displayName := (← getField raw "displayName").orElse dn
    email := ← getField raw "mail"
    title := ← getField raw "title"
    phone := ← getField raw "telephoneNumber"
    enabled := ← isEnabled raw
    managerDn := ← getField raw "managerDn"
    managerName := ← getField raw "managerName" }

def listed (single : Json → Bool) (value : Json) : Except SourceFailure (List Json) :=
  let items := value.orElse (.array [])
  if single items then .ok [items] else items.items.mapError .other

def isObject : Json → Bool
  | .object _ => true
  | _ => false

def isText : Json → Bool
  | .str _ => true
  | _ => false

def syncReply (payload : Payload) : Except SourceFailure SyncReply := do
  let group ← groupMeta (← payload.index "group")
  let managerRaw := payload.field "manager"
  let manager ← if managerRaw.truthy then some <$> managerRecord managerRaw else pure none
  let members ← (← listed isObject (payload.field "members")).filterMapM memberRecord
  let managerChain ← listed isText (payload.field "managerChain")
  return { group, manager, members, managerChain }

def syncGroup (decoder : Decoder) (hostLabel : String) (run : PsRun) : Except SourceFailure SyncReply :=
  match runPs decoder hostLabel run with
  | .error error => .error (.directory error)
  | .ok payload => syncReply payload

/-! The meaning of a failed lookup. -/

/-- The script printed an object that reports a missing entry. -/
def NotFoundOutput (decoder : Decoder) : PsRun → Prop
  | .exited 0 _ stdOut =>
      strip stdOut ≠ "" ∧ ∃ payload : Payload, decoder.loads (strip stdOut) = some (.object payload) ∧
        payload.reportsNotFound = true
  | _ => False

/-- The error of a missing entry is raised for such outputs only, and every other failure
is an unreachable directory. -/
def KeepsMeaning {α : Type} (missing : Prop) (notFound : DirectoryError) (result : Except SourceFailure α) : Prop :=
  (result = .error (.directory notFound) ↔ missing) ∧
    ∀ failure, result = .error failure → ¬ missing → ∃ text, failure = .directory (.unreachable text)

/-- The marker is in the text about a missing entry and in no other text, and an answer
has the keys that are read from it. -/
def MarkerTelling (decoder : Decoder) (hostLabel : String) (required : List String) : PsRun → Prop
  | .sessionFailed text | .callFailed text =>
      contains "not_found" hostLabel = false ∧ contains "not_found" text = false
  | .exited status stdErr stdOut =>
      if status ≠ 0 then
        contains "not_found" hostLabel = false ∧ contains "not_found" (slice 0 500 stdErr) = false
      else
        let shown := Python.repr (slice 0 200 (strip stdOut))
        strip stdOut = "" ∨
          match decoder.loads (strip stdOut) with
          | some (.object fields) =>
              let payload : Payload := fields
              if payload.reportsNotFound then
                (payload.field "message").truthy = true ∧
                  contains "not_found" (decoder.str (payload.field "message")) = true
              else if (payload.field "ok").truthy then
                ∀ name ∈ required, (payload.lookup name).isSome
              else contains "not_found" shown = false
          | _ => contains "not_found" shown = false

section Meaning

variable {decoder : Decoder} {hostLabel : String} {run : PsRun} {required : List String} {α : Type}

theorem unmarked {text : String} (absent : '_' ∉ text.toList) : contains "not_found" text = false :=
  contains_eq_false (show '_' ∈ "not_found".toList by decide) absent

theorem marker_failed {label text : String} {middle : String} (plain : contains "not_found" middle = false) :
    contains "not_found" (label ++ ":" ++ middle ++ " " ++ text) =
      (contains "not_found" label || contains "not_found" text) := by
  have colon : ':' ∉ "not_found".toList := by decide
  have blank : ' ' ∉ "not_found".toList := by decide
  have outer := @contains_separated ' ' "not_found" (label ++ ":" ++ middle) text blank
  have inner := @contains_separated ':' "not_found" label middle colon
  rw [plain, Bool.or_false] at inner
  rw [show String.singleton ' ' = " " from rfl] at outer
  rw [show String.singleton ':' = ":" from rfl] at inner
  rw [outer, inner]

theorem parseOrRaise_error {onNotFound : String → DirectoryError} {out : String} {error : DirectoryError}
    (raised : parseOrRaise decoder onNotFound out = .error error) :
    (∃ text, error = .unreachable text) ∨ ∃ text, error = onNotFound text := by
  simp only [parseOrRaise] at raised
  split at raised
  · cases raised
    exact .inl ⟨_, rfl⟩
  · split at raised
    · cases raised
      exact .inl ⟨_, rfl⟩
    · split at raised
      · cases raised
        exact .inr ⟨_, rfl⟩
      · split at raised
        · cases raised
        · cases raised
          exact .inl ⟨_, rfl⟩
    · cases raised
      exact .inl ⟨_, rfl⟩

theorem runPs_error {error : DirectoryError} (raised : runPs decoder hostLabel run = .error error) :
    ∃ text, error = .unreachable text := by
  cases run with
  | sessionFailed text =>
      cases raised
      exact ⟨_, rfl⟩
  | callFailed text =>
      cases raised
      exact ⟨_, rfl⟩
  | exited status stdErr stdOut =>
      simp only [runPs] at raised
      split at raised
      · cases raised
        exact ⟨_, rfl⟩
      · rcases parseOrRaise_error raised with found | found
        · exact found
        · exact found

/-- A lookup keeps the meaning when the marker tells the missing entries from the other
failures and no answer lacks a key. -/
theorem keepsMeaning_iff {missing : Prop} {notFound : DirectoryError} {build : Payload → Except SourceFailure α}
    (other : ∀ text, notFound ≠ .unreachable text)
    (answered : ∀ payload, runPs decoder hostLabel run = .ok payload → ¬ missing)
    (built : ∀ payload, (∃ reply, build payload = .ok reply) ∨ ∃ exn, build payload = .error (.other exn)) :
    KeepsMeaning missing notFound
        (match runPs decoder hostLabel run with
          | .error error => .error (.directory (rerouted notFound error))
          | .ok payload => build payload) ↔
      (∀ text, runPs decoder hostLabel run = .error (.unreachable text) →
          (contains "not_found" text = true ↔ missing)) ∧
        ∀ payload, runPs decoder hostLabel run = .ok payload → ∃ reply, build payload = .ok reply := by
  cases ran : runPs decoder hostLabel run with
  | error error =>
      obtain ⟨text, rfl⟩ := runPs_error ran
      have only : (∀ other, Except.error (DirectoryError.unreachable text) =
          (Except.error (.unreachable other) : Except DirectoryError Payload) →
            (contains "not_found" other = true ↔ missing)) ↔ (contains "not_found" text = true ↔ missing) := by
        constructor
        · intro all
          exact all text rfl
        · rintro same other ⟨⟩
          exact same
      simp only [only, reduceCtorEq, false_imp_iff, implies_true, and_true, KeepsMeaning, rerouted]
      by_cases marked : contains "not_found" text = true
      · simp only [marked, if_true, true_iff]
        constructor
        · intro keeps
          exact keeps.1
        · intro holds
          exact ⟨holds, fun failure _ absent => absurd holds absent⟩
      · simp only [marked, Except.error.injEq, SourceFailure.directory.injEq]
        constructor
        · intro keeps
          constructor
          · intro found
            cases found
          · intro holds
            exact absurd (keeps.1.mpr holds).symm (other text)
        · intro same
          refine ⟨⟨fun found => absurd found.symm (other text), fun holds => ?_⟩, ?_⟩
          · exact absurd (same.mpr holds) (by simp)
          · intro failure raised _
            exact ⟨text, raised.symm⟩
  | ok payload =>
      have present := answered payload ran
      simp only [reduceCtorEq, false_imp_iff, implies_true, true_and, Except.ok.injEq, forall_eq', KeepsMeaning,
        present, iff_false, not_false_eq_true, forall_const]
      rcases built payload with ⟨reply, succeeds⟩ | ⟨exn, fails⟩
      · simp [succeeds]
      · simp [fails]

theorem answer_found {payload : Payload} (found : runPs decoder hostLabel run = .ok payload) :
    ¬ NotFoundOutput decoder run := by
  cases run with
  | sessionFailed text => cases found
  | callFailed text => cases found
  | exited status stdErr stdOut =>
      unfold NotFoundOutput
      split
      · rintro ⟨printed, other, loaded, reports⟩
        rename_i same
        cases same
        have failed : runPs decoder hostLabel (.exited 0 stdErr stdOut) = .error (.unreachable
            (decoder.str ((other.field "message").orElse (.str "not found in AD")))) := by
          simp only [runPs, parseOrRaise, ne_eq, not_true_eq_false, if_false, if_neg printed, loaded, if_pos reports]
        rw [failed] at found
        cases found
      · exact id

def RunTelling (decoder : Decoder) (hostLabel : String) (required : List String) (run : PsRun) : Prop :=
  (∀ text, runPs decoder hostLabel run = .error (.unreachable text) →
      (contains "not_found" text = true ↔ NotFoundOutput decoder run)) ∧
    ∀ payload, runPs decoder hostLabel run = .ok payload → ∀ name ∈ required, (payload.lookup name).isSome

theorem runTelling_failed {text : String} (failed : runPs decoder hostLabel run = .error (.unreachable text)) :
    RunTelling decoder hostLabel required run ↔ (contains "not_found" text = true ↔ NotFoundOutput decoder run) := by
  simp only [RunTelling, failed, Except.error.injEq, DirectoryError.unreachable.injEq, forall_eq', reduceCtorEq,
    false_imp_iff, implies_true, and_true]

theorem runTelling_found {payload : Payload} (found : runPs decoder hostLabel run = .ok payload) :
    RunTelling decoder hostLabel required run ↔ ∀ name ∈ required, (payload.lookup name).isSome := by
  simp only [RunTelling, found, Except.ok.injEq, forall_eq', reduceCtorEq, false_imp_iff, implies_true, true_and]

theorem marker_absent {text : String} {missing : Prop} (absent : ¬ missing) :
    (contains "not_found" text = true ↔ missing) ↔ contains "not_found" text = false := by
  simp [absent]

theorem underscore_not_mem_toString {number : Int} : '_' ∉ (toString number).toList := by
  have digits (value : Nat) : '_' ∉ (toString value).toList := by
    rw [Nat.toString_eq_ofList_toDigits, String.toList_ofList]
    intro member
    have digit := Nat.isDigit_of_mem_toDigits (by omega) (by omega) member
    exact absurd digit (by decide)
  cases number with
  | ofNat value => exact digits value
  | negSucc value =>
      have minus : toString (Int.negSucc value) = "-" ++ toString (value + 1) := rfl
      rw [minus, String.toList_append, List.mem_append]
      rintro (sign | digit)
      · exact absurd sign (by decide)
      · exact digits _ digit

theorem exited_telling {status : Int} {stdErr stdOut : String} (failed : status ≠ 0) :
    RunTelling decoder hostLabel required (.exited status stdErr stdOut) ↔
      MarkerTelling decoder hostLabel required (.exited status stdErr stdOut) := by
  have ran : runPs decoder hostLabel (.exited status stdErr stdOut) = .error (.unreachable
      (hostLabel ++ ":" ++ (" PowerShell exit " ++ toString status ++ ":") ++ " " ++ slice 0 500 stdErr)) := by
    simp only [runPs, if_pos failed, String.append_assoc]
    rfl
  have missing : ¬ NotFoundOutput decoder (.exited status stdErr stdOut) := by
    unfold NotFoundOutput
    split
    · rename_i same
      cases same
      exact absurd rfl failed
    · exact id
  have plain : contains "not_found" (" PowerShell exit " ++ toString status ++ ":") = false := by
    apply unmarked
    rw [String.toList_append, String.toList_append, List.mem_append, List.mem_append]
    rintro ((start | number) | ending)
    · exact absurd start (by decide)
    · exact underscore_not_mem_toString number
    · exact absurd ending (by decide)
  rw [runTelling_failed ran, marker_absent missing, marker_failed plain, Bool.or_eq_false_iff, MarkerTelling,
    if_pos failed]

theorem marker_shown {start shown : String} (plain : contains "not_found" start = false) :
    contains "not_found" (start ++ " " ++ shown) = contains "not_found" shown := by
  have blank : ' ' ∉ "not_found".toList := by decide
  have split := @contains_separated ' ' "not_found" start shown blank
  rwa [plain, Bool.false_or] at split

theorem object_telling {stdErr stdOut : String} {payload : Payload} (printed : strip stdOut ≠ "")
    (loaded : decoder.loads (strip stdOut) = some (.object payload)) :
    RunTelling decoder hostLabel required (.exited 0 stdErr stdOut) ↔
      if payload.reportsNotFound then
        (payload.field "message").truthy = true ∧
          contains "not_found" (decoder.str (payload.field "message")) = true
      else if (payload.field "ok").truthy then ∀ name ∈ required, (payload.lookup name).isSome
      else contains "not_found" (Python.repr (slice 0 200 (strip stdOut))) = false := by
  have ran : runPs decoder hostLabel (.exited 0 stdErr stdOut) = parseOrRaise decoder .unreachable stdOut := rfl
  have missing : NotFoundOutput decoder (.exited 0 stdErr stdOut) ↔ payload.reportsNotFound = true := by
    constructor
    · rintro ⟨_, found, same, reports⟩
      rw [loaded] at same
      cases same
      exact reports
    · intro reports
      exact ⟨printed, payload, loaded, reports⟩
  simp only [parseOrRaise, if_neg printed, loaded] at ran
  by_cases reports : payload.reportsNotFound = true
  · rw [if_pos reports] at ran
    rw [runTelling_failed ran, missing, if_pos reports, iff_true_right reports, Json.orElse]
    by_cases told : (payload.field "message").truthy = true
    · rw [if_pos told, and_iff_right told]
    · rw [if_neg told, decoder.str_text]
      have plain := @unmarked "not found in AD" (by decide)
      simp only [told, false_and, plain, Bool.false_eq_true]
  · rw [if_neg reports] at ran
    have absent : ¬ NotFoundOutput decoder (.exited 0 stdErr stdOut) := fun found => reports (missing.mp found)
    rw [if_neg reports]
    by_cases ok : (payload.field "ok").truthy = true
    · rw [if_pos ok] at ran ⊢
      exact runTelling_found ran
    · rw [if_neg ok] at ran ⊢
      rw [runTelling_failed ran, marker_absent absent]
      exact Eq.congr (@marker_shown "unexpected payload:" _ (unmarked (by decide))) rfl

theorem printed_telling {stdErr stdOut : String} :
    RunTelling decoder hostLabel required (.exited 0 stdErr stdOut) ↔
      MarkerTelling decoder hostLabel required (.exited 0 stdErr stdOut) := by
  have ran : runPs decoder hostLabel (.exited 0 stdErr stdOut) = parseOrRaise decoder .unreachable stdOut := rfl
  rw [MarkerTelling, if_neg (not_not.mpr rfl)]
  by_cases empty : strip stdOut = ""
  · have failed : parseOrRaise decoder .unreachable stdOut =
        .error (.unreachable "PowerShell returned empty output") := by
      rw [parseOrRaise, if_pos empty]
    have missing : ¬ NotFoundOutput decoder (.exited 0 stdErr stdOut) := fun found => found.1 empty
    rw [runTelling_failed (ran.trans failed), marker_absent missing]
    simp only [empty, true_or, iff_true]
    exact unmarked (by decide)
  · simp only [empty, false_or]
    cases loaded : decoder.loads (strip stdOut) with
    | none =>
        have failed : parseOrRaise decoder .unreachable stdOut = .error (.unreachable
            ("PowerShell returned non-JSON:" ++ " " ++ Python.repr (slice 0 200 (strip stdOut)))) := by
          simp only [parseOrRaise, if_neg empty, loaded]
          rfl
        have missing : ¬ NotFoundOutput decoder (.exited 0 stdErr stdOut) := by
          rintro ⟨_, payload, found, _⟩
          rw [loaded] at found
          cases found
        rw [runTelling_failed (ran.trans failed), marker_absent missing, marker_shown (unmarked (by decide))]
    | some value =>
        by_cases shape : ∃ fields, value = .object fields
        · obtain ⟨fields, rfl⟩ := shape
          exact object_telling empty loaded
        · have failed : parseOrRaise decoder .unreachable stdOut = .error (.unreachable
              ("unexpected payload:" ++ " " ++ Python.repr (slice 0 200 (strip stdOut)))) := by
            simp only [parseOrRaise, if_neg empty, loaded]
            split
            · rename_i same
              cases same
            · rename_i fields same
              exact absurd ⟨fields, Option.some.inj same⟩ shape
            · rfl
          have missing : ¬ NotFoundOutput decoder (.exited 0 stdErr stdOut) := by
            rintro ⟨_, payload, found, _⟩
            rw [loaded] at found
            exact shape ⟨payload, Option.some.inj found⟩
          rw [runTelling_failed (ran.trans failed), marker_absent missing, marker_shown (unmarked (by decide))]
          split
          · rename_i fields same
            exact absurd ⟨fields, Option.some.inj same⟩ shape
          · rfl

theorem runs_telling :
    RunTelling decoder hostLabel required run ↔ MarkerTelling decoder hostLabel required run := by
  cases run with
  | sessionFailed text =>
      have failed : runPs decoder hostLabel (.sessionFailed text) = .error (.unreachable
          (hostLabel ++ ":" ++ " WinRM session init failed:" ++ " " ++ text)) := by
        simp only [runPs, String.append_assoc]
        rfl
      have missing : ¬ NotFoundOutput decoder (.sessionFailed text) := id
      rw [runTelling_failed failed, marker_absent missing, marker_failed (unmarked (by decide)), Bool.or_eq_false_iff]
      rfl
  | callFailed text =>
      have failed : runPs decoder hostLabel (.callFailed text) = .error (.unreachable
          (hostLabel ++ ":" ++ " WinRM call failed:" ++ " " ++ text)) := by
        simp only [runPs, String.append_assoc]
        rfl
      have missing : ¬ NotFoundOutput decoder (.callFailed text) := id
      rw [runTelling_failed failed, marker_absent missing, marker_failed (unmarked (by decide)), Bool.or_eq_false_iff]
      rfl
  | exited status stdErr stdOut =>
      by_cases failed : status ≠ 0
      · exact exited_telling failed
      · obtain rfl : status = 0 := not_not.mp failed
        exact printed_telling

def ReadsKeys (build : Payload → Except SourceFailure α) (required : List String) : Prop :=
  ∀ payload, ((∃ reply, build payload = .ok reply) ∨ ∃ exn, build payload = .error (.other exn)) ∧
    ((∃ reply, build payload = .ok reply) ↔ ∀ name ∈ required, (payload.lookup name).isSome)

theorem groupReply_keys : ReadsKeys groupReply ["distinguishedName", "name"] := by
  intro payload
  rw [List.forall_mem_cons, List.forall_mem_singleton]
  cases first : payload.lookup "distinguishedName" with
  | none => simp [groupReply, Payload.index, first, bind, Except.bind]
  | some value =>
      cases second : payload.lookup "name" with
      | none => simp [groupReply, Payload.index, first, second, bind, Except.bind]
      | some name => simp [groupReply, Payload.index, first, second, bind, Except.bind, pure, Except.pure]

theorem userReply_keys {identifier : String} : ReadsKeys (userReply identifier) ["distinguishedName"] := by
  intro payload
  rw [List.forall_mem_singleton]
  cases first : payload.lookup "distinguishedName" with
  | none => simp [userReply, Payload.index, first, bind, Except.bind]
  | some value => simp [userReply, Payload.index, first, bind, Except.bind, pure, Except.pure]

theorem lookup_keeps_meaning {notFound : DirectoryError} {build : Payload → Except SourceFailure α}
    (other : ∀ text, notFound ≠ .unreachable text) (reads : ReadsKeys build required) :
    KeepsMeaning (NotFoundOutput decoder run) notFound
        (match runPs decoder hostLabel run with
          | .error error => .error (.directory (rerouted notFound error))
          | .ok payload => build payload) ↔
      MarkerTelling decoder hostLabel required run := by
  have built := fun payload => (reads payload).1
  rw [keepsMeaning_iff other (fun _ => answer_found) built, ← runs_telling, RunTelling]
  simp only [fun payload => (reads payload).2]

/-- Both lookups keep the meaning of a failure exactly when the marker tells it. -/
theorem lookups_keep_meaning_iff {groupName identifier : String} :
    (KeepsMeaning (NotFoundOutput decoder run) (.groupNotFound groupName)
        (resolveGroup decoder hostLabel groupName run) ↔
      MarkerTelling decoder hostLabel ["distinguishedName", "name"] run) ∧
    (KeepsMeaning (NotFoundOutput decoder run) (.userNotFound identifier)
        (resolveUser decoder hostLabel identifier run) ↔
      MarkerTelling decoder hostLabel ["distinguishedName"] run) := by
  constructor
  · apply lookup_keeps_meaning _ groupReply_keys
    intro text same
    cases same
  · apply lookup_keeps_meaning _ userReply_keys
    intro text same
    cases same

end Meaning

/-- A user that is not in the directory is told to be an unreachable directory. -/
theorem missing_user_unreachable :
    let decoder : Decoder := {
      loads := fun text => if text = "\x7b\"error\":\"not_found\"\x7d" then
        some (.object [("error", .str "not_found")]) else none
      str := fun value => match value with | .str text => text | _ => ""
      str_text := fun _ => rfl }
    let run : PsRun := .exited 0 "" "\x7b\"error\":\"not_found\"\x7d"
    ¬ KeepsMeaning (NotFoundOutput decoder run) (.userNotFound "sam") (resolveUser decoder "jump01" "sam" run) := by
  intro decoder run keeps
  have printed : strip "\x7b\"error\":\"not_found\"\x7d" = "\x7b\"error\":\"not_found\"\x7d" := by decide
  have missing : NotFoundOutput decoder run := by
    refine ⟨by rw [printed]; decide, [("error", .str "not_found")], ?_, rfl⟩
    rw [printed]
    rfl
  have raised : runPs decoder "jump01" run = .error (.unreachable "not found in AD") := by
    simp only [runPs, run, parseOrRaise, printed]
    rfl
  have answered : resolveUser decoder "jump01" "sam" run = .error (.directory (.unreachable "not found in AD")) := by
    have plain := @unmarked "not found in AD" (by decide)
    simp only [resolveUser, raised, rerouted, plain, Bool.false_eq_true, if_false]
  have expected := keeps.1.mpr missing
  rw [answered] at expected
  cases expected

/-! The failures of a sync. -/

def OnlyOther {α : Type} (result : Except SourceFailure α) : Prop :=
  ∀ failure, result = .error failure → ∃ exn, failure = .other exn

section Failures

variable {α β : Type} {result : Except SourceFailure α} {next : α → Except SourceFailure β}

theorem onlyOther_ok {value : α} : OnlyOther (.ok value : Except SourceFailure α) := by
  intro failure raised
  cases raised

theorem OnlyOther.bind (first : OnlyOther result) (rest : ∀ value, OnlyOther (next value)) :
    OnlyOther (result >>= next) := by
  intro failure raised
  cases read : result with
  | error error =>
      rw [read] at raised
      have same : error = failure := Except.error.inj raised
      exact first failure (by rw [read, same])
  | ok value =>
      rw [read] at raised
      exact rest value failure raised

theorem onlyOther_mapError {read : Except Exn α} : OnlyOther (read.mapError .other) := by
  intro failure raised
  cases read with
  | error exn =>
      cases raised
      exact ⟨exn, rfl⟩
  | ok value => cases raised

theorem onlyOther_field {payload : Payload} {name : String} : OnlyOther (payload.index name) := by
  intro failure raised
  unfold Payload.index at raised
  split at raised
  · cases raised
  · cases raised
    exact ⟨_, rfl⟩

theorem onlyOther_index {value : Json} {name : String} : OnlyOther (index value name) := by
  intro failure raised
  unfold index at raised
  split at raised
  · exact onlyOther_field failure raised
  · cases raised
    exact ⟨_, rfl⟩
  · cases raised
    exact ⟨_, rfl⟩
  · cases raised
    exact ⟨_, rfl⟩

theorem onlyOther_isEnabled {value : Json} : OnlyOther (isEnabled value) :=
  onlyOther_mapError.bind fun _ => onlyOther_ok

theorem onlyOther_memberRecord {raw : Json} : OnlyOther (memberRecord raw) := by
  apply onlyOther_mapError.bind
  intro dn
  split
  · exact onlyOther_ok
  · apply onlyOther_mapError.bind
    intro displayName
    apply onlyOther_mapError.bind
    intro email
    apply onlyOther_mapError.bind
    intro title
    apply onlyOther_mapError.bind
    intro phone
    apply onlyOther_isEnabled.bind
    intro enabled
    apply onlyOther_mapError.bind
    intro managerDn
    exact onlyOther_mapError.bind fun _ => onlyOther_ok

theorem onlyOther_filterMapM {read : β → Except SourceFailure (Option α)} (each : ∀ item, OnlyOther (read item))
    {items : List β} : OnlyOther (items.filterMapM read) := by
  induction items with
  | nil => exact onlyOther_ok
  | cons item items ih =>
      rw [List.filterMapM_cons]
      apply (each item).bind
      intro found
      cases found with
      | none => exact ih
      | some value => exact ih.bind fun _ => onlyOther_ok

theorem onlyOther_listed {single : Json → Bool} {value : Json} : OnlyOther (listed single value) := by
  unfold listed
  dsimp only
  split
  · exact onlyOther_ok
  · exact onlyOther_mapError

theorem onlyOther_groupMeta {raw : Json} : OnlyOther (groupMeta raw) := by
  apply onlyOther_index.bind
  intro dn
  apply onlyOther_index.bind
  intro name
  apply onlyOther_mapError.bind
  intro description
  exact onlyOther_mapError.bind fun _ => onlyOther_ok

theorem onlyOther_managerRecord {raw : Json} : OnlyOther (managerRecord raw) := by
  apply onlyOther_index.bind
  intro dn
  apply onlyOther_mapError.bind
  intro displayName
  apply onlyOther_mapError.bind
  intro email
  apply onlyOther_mapError.bind
  intro title
  apply onlyOther_mapError.bind
  intro phone
  apply onlyOther_isEnabled.bind
  intro enabled
  exact onlyOther_mapError.bind fun _ => onlyOther_ok

theorem onlyOther_syncReply {payload : Payload} : OnlyOther (syncReply payload) := by
  apply onlyOther_field.bind
  intro raw
  apply onlyOther_groupMeta.bind
  intro group
  have rest (manager : Option UserReply) : OnlyOther (do
      let members ← (← listed isObject (payload.field "members")).filterMapM memberRecord
      let managerChain ← listed isText (payload.field "managerChain")
      return ({ group, manager, members, managerChain } : SyncReply)) := by
    apply onlyOther_listed.bind
    intro items
    apply (onlyOther_filterMapM fun _ => onlyOther_memberRecord).bind
    intro members
    exact onlyOther_listed.bind fun _ => onlyOther_ok
  dsimp only
  split
  · have read : OnlyOther (some <$> managerRecord (payload.field "manager")) :=
      onlyOther_managerRecord.bind fun _ => onlyOther_ok
    exact read.bind rest
  · exact onlyOther_ok.bind rest

/-- A sync over the jumpbox fails as unreachable or on the shape of the answer; it never
says that the group or the manager was not found. -/
theorem syncGroup_failure {decoder : Decoder} {hostLabel : String} {run : PsRun} {failure : SourceFailure}
    (raised : syncGroup decoder hostLabel run = .error failure) :
    (∃ text, failure = .directory (.unreachable text)) ∨ ∃ exn, failure = .other exn := by
  unfold syncGroup at raised
  cases ran : runPs decoder hostLabel run with
  | error error =>
      obtain ⟨text, rfl⟩ := runPs_error ran
      rw [ran] at raised
      cases raised
      exact .inl ⟨text, rfl⟩
  | ok payload =>
      rw [ran] at raised
      exact .inr (onlyOther_syncReply failure raised)

end Failures

/-! The arguments of a call, in front of its script. -/

inductive DirectoryRequest where
  | resolveGroup (groupName : String)
  | resolveUser (identifier : String)
  | syncGroup (groupDn : String) (managerDn : Option String)

def DirectoryRequest.env : DirectoryRequest → List (String × String)
  | .resolveGroup groupName => [("GROUP_NAME", groupName)]
  | .resolveUser identifier => [("USER_ID", identifier)]
  | .syncGroup groupDn managerDn => [("GROUP_DN", groupDn), ("MANAGER_DN", managerDn.getD "")]

def sentScript (env : List (String × String)) (script : String) : List Char :=
  let prelude :=
    if env = [] then []
    else ['\n'].intercalate (env.map fun entry => Shell.assignment entry.1 entry.2) ++ ['\n']
  prelude ++ script.toList

section Arguments

variable {env : List (String × String)} {script : String} {request : DirectoryRequest}

theorem intercalate_lines {first : List Char} {lines : List (List Char)} :
    ['\n'].intercalate (first :: lines) ++ ['\n'] = (first :: lines).flatMap fun line => line ++ ['\n'] := by
  induction lines generalizing first with
  | nil => simp
  | cons second lines ih =>
      rw [List.intercalate_cons_cons, List.append_assoc, ih, List.flatMap_cons]
      simp

theorem sentScript_eq : sentScript env script = Shell.assignments env ++ script.toList := by
  cases env with
  | nil => rfl
  | cons entry env =>
      simp only [sentScript, reduceCtorEq, if_false, List.map_cons]
      rw [intercalate_lines, Shell.assignments, List.flatMap_cons, List.flatMap_cons, List.flatMap_map]

/-- PowerShell reads one assignment of each argument, with its value, and then the script. -/
def ArgumentsArrive (request : DirectoryRequest) (script : String) : Prop :=
  Shell.readAssignments (request.env.map Prod.fst) (sentScript request.env script) =
    some (request.env.map fun entry => entry.2.toList, script.toList)

theorem arguments_arrive_iff :
    ArgumentsArrive request script ↔
      ∀ value ∈ request.env.map Prod.snd, ∀ char ∈ value.toList, Shell.isSingleQuote char = true → char = '\'' := by
  rw [ArgumentsArrive, sentScript_eq, Shell.readAssignments_iff]
  simp only [List.forall_mem_map, Shell.isOtherQuote, Bool.and_eq_false_imp, ne_eq, decide_not, Bool.not_eq_false',
    decide_eq_true_eq]

end Arguments

/-- A group name that ends its own string and adds a statement. -/
theorem group_name_adds_statement :
    ¬ ArgumentsArrive (.resolveGroup "\u2019; Stop-Computer; \u2019") "" ∧
      Shell.singleLiteral ("\u2019; Stop-Computer; \u2019'".toList ++ ['\n']) =
        some ([], "; Stop-Computer; \u2019'".toList ++ ['\n']) := by
  constructor
  · intro arrives
    rw [ArgumentsArrive, sentScript_eq, Shell.readAssignments_iff] at arrives
    exact absurd (arrives _ List.mem_cons_self '\u2019' (by decide)) (by decide)
  · decide

end Dosm.Org
