import Dosm.Agent.LocalExec
import Dosm.Recording.Journal
import Dosm.Recording.Redaction

namespace Dosm.Recording

open Agent Python

/-! What the approval of a command leaves in the journal.

The decision is recorded with its command redacted. The result is recorded as the runner
summarises it, and the summary of a finished run quotes the command. A recording may
start, stop or change its options in between.
-/

/-- `record_plan_card_decision`, for the options of the active recording. -/
def recordPlanCardDecision (word : Char → Bool) (recording : Option RecordingOptions) (clock tool status : String)
    (host command : Option String) : String :=
  match recording with
  | none => ""
  | some options =>
      if !options.planCards then ""
      else
        let target := host.getD ""
        let line := command.getD ""
        writeEvent options clock ("Plan card " ++ status)
          ("`" ++ tool ++ "`" ++ (if target = "" then "" else " on `" ++ target ++ "`") ++
            (if line = "" then "" else ": `" ++ redact word false line ++ "`"))

def recordPlanCardResult (recording : Option RecordingOptions) (clock tool : String) (ok : Bool) (summary : String) :
    String :=
  match recording with
  | none => ""
  | some options =>
      if !options.planCards then ""
      else
        writeEvent options clock "Plan card result"
          ("`" ++ tool ++ "` " ++ (if ok then "✓" else "✗") ++ " " ++ slice 0 300 summary)

def recordsPlanCards (recording : Option RecordingOptions) : Bool := recording.any RecordingOptions.planCards

/-- A run of either tool and how it ends. What `ssh_exec` reports comes before there is a
connection to run the command on. -/
inductive ExecRun where
  | sshExec (summary : String)
  | localExec (ending : Ending)
  deriving DecidableEq

def ExecRun.tool : ExecRun → String
  | sshExec _ => "ssh_exec"
  | localExec _ => "local_exec"

/-- The run is summarised with its command. -/
def ExecRun.quotes : ExecRun → Bool
  | sshExec _ => false
  | localExec ending => ending.quotes

/-- An approved card and its surroundings, but for the command. -/
structure Approval where
  host : Option String
  inventory : List (String × String)
  decidedAt : String
  finishedAt : String

section Texts

variable (word : Char → Bool) (run : ExecRun) (atDecision atResult : Option RecordingOptions)
variable (approval : Approval) (command : String)

def ExecRun.report : Bool × String :=
  match run with
  | .sshExec summary => if strip command = "" then (false, "empty command") else (false, summary)
  | .localExec ending => localExecReport word approval.inventory command ending

/-- What `plan_approve` adds to the journal before and after the run. -/
def journalTexts : String × String :=
  let (ok, summary) := run.report word approval command
  (recordPlanCardDecision word atDecision approval.decidedAt run.tool "approved" approval.host (some command),
    recordPlanCardResult atResult approval.finishedAt run.tool ok summary)

end Texts

section Silent

variable {word : Char → Bool} {recording : Option RecordingOptions} {clock tool status : String}
  {host command : Option String} {ok : Bool} {summary : String}

theorem decision_unrecorded (unrecorded : recordsPlanCards recording = false) :
    recordPlanCardDecision word recording clock tool status host command = "" := by
  cases recording with
  | none => rfl
  | some options =>
      have off : options.planCards = false := unrecorded
      simp [recordPlanCardDecision, off]

theorem result_unrecorded (unrecorded : recordsPlanCards recording = false) :
    recordPlanCardResult recording clock tool ok summary = "" := by
  cases recording with
  | none => rfl
  | some options =>
      have off : options.planCards = false := unrecorded
      simp [recordPlanCardResult, off]

theorem decision_redacted {first second : String} (nonempty : first ≠ "") (otherNonempty : second ≠ "")
    (same : redact word false first = redact word false second) :
    recordPlanCardDecision word recording clock tool status host (some first) =
      recordPlanCardDecision word recording clock tool status host (some second) := by
  simp only [recordPlanCardDecision, Option.getD_some, if_neg nonempty, if_neg otherNonempty, same]

end Silent

theorem writeEvent_inj {options : RecordingOptions} {clock category first second : String}
    (same : writeEvent options clock category first = writeEvent options clock category second) :
    first = second := by
  unfold writeEvent at same
  rwa [String.append_left_inj, String.append_right_inj] at same

theorem recorded_options {recording : Option RecordingOptions} (recorded : recordsPlanCards recording = true) :
    ∃ options, recording = some options ∧ options.planCards = true := by
  simpa [recordsPlanCards, Option.any_eq_true] using recorded

namespace SecretSlot

variable {slot : SecretSlot} {word : List Char}

theorem strip_fill (isWord : IsWord word) : strip (slot.fill word) ≠ "" := by
  intro empty
  cases word with
  | nil => exact isWord.1 rfl
  | cons char more =>
      have visible : isSpace char = false := by simpa [isVisible] using isWord.2 char List.mem_cons_self
      have counted : (strip (slot.fill (char :: more))).toList.count char =
          (slot.fill (char :: more)).toList.count char := count_strip visible
      have present : char ∈ (slot.fill (char :: more)).toList := by simp [fill, after]
      have positive := List.count_pos_iff.mpr present
      rw [empty] at counted
      have none : "".toList.count char = 0 := rfl
      omega

theorem fill_ne_empty (isWord : IsWord word) : slot.fill word ≠ "" := by
  intro empty
  have stripped : strip (slot.fill word) ≠ "" := strip_fill isWord
  rw [empty] at stripped
  exact stripped rfl

end SecretSlot

section Hiding

variable {word : Char → Bool} {run : ExecRun} {atDecision atResult : Option RecordingOptions}
  {approval : Approval} {slot : SecretSlot} {first second : List Char}

theorem report_unquoted (silent : run.quotes = false) (firstWord : IsWord first) (secondWord : IsWord second) :
    run.report word approval (slot.fill first) = run.report word approval (slot.fill second) := by
  have firstStrip : strip (slot.fill first) ≠ "" := SecretSlot.strip_fill firstWord
  have secondStrip : strip (slot.fill second) ≠ "" := SecretSlot.strip_fill secondWord
  cases run with
  | sshExec summary => simp only [ExecRun.report, if_neg firstStrip, if_neg secondStrip]
  | localExec ending =>
      simp only [ExecRun.report, localExecReport, localExecLine, if_neg firstStrip, if_neg secondStrip]
      exact report_silent silent _ _ _

theorem result_hidden (hidden : recordsPlanCards atResult = false ∨ run.quotes = false)
    (firstWord : IsWord first) (secondWord : IsWord second) :
    (journalTexts word run atDecision atResult approval (slot.fill first)).2 =
      (journalTexts word run atDecision atResult approval (slot.fill second)).2 := by
  simp only [journalTexts]
  rcases hidden with unrecorded | silent
  · rw [result_unrecorded unrecorded, result_unrecorded unrecorded]
  · have same : run.report word approval (slot.fill first) = run.report word approval (slot.fill second) :=
      report_unquoted silent firstWord secondWord
    rw [same]

theorem decision_hidden (hidden : recordsPlanCards atDecision = false ∨ ¬ slot.Nested)
    (firstWord : IsWord first) (secondWord : IsWord second) :
    (journalTexts word run atDecision atResult approval (slot.fill first)).1 =
      (journalTexts word run atDecision atResult approval (slot.fill second)).1 := by
  simp only [journalTexts]
  rcases hidden with unrecorded | plain
  · rw [decision_unrecorded unrecorded, decision_unrecorded unrecorded]
  · exact decision_redacted (SecretSlot.fill_ne_empty firstWord) (SecretSlot.fill_ne_empty secondWord)
      (SecretSlot.redact_fill plain firstWord secondWord)

end Hiding

def tokenSlot : SecretSlot where
  front := []
  flag := "--token".toList
  separator := '='
  rest := []
  isFlag := token_isFlag
  isSeparator := .inl rfl
  ends := ends_nil

def nestedSlot : SecretSlot where
  front := "--token ".toList
  flag := "--password".toList
  separator := ' '
  rest := []
  isFlag := by decide
  isSeparator := blank_separates
  ends := ends_nil

theorem isWord_single {char : Char} (visible : isVisible char = true) : IsWord [char] :=
  ⟨List.cons_ne_nil _ _, by simpa using visible⟩

theorem tokenSlot_plain : ¬ tokenSlot.Nested := by
  rintro ⟨before, outer, separator, inside, same, _⟩
  have size := congrArg List.length same
  simp [tokenSlot] at size

private def plainApproval : Approval where
  host := none
  inventory := []
  decidedAt := ""
  finishedAt := ""

section Leaks

variable {word : Char → Bool} {run : ExecRun} {atDecision atResult : Option RecordingOptions}

theorem decision_leaks (recorded : recordsPlanCards atDecision = true) :
    (journalTexts word run atDecision atResult plainApproval (nestedSlot.fill ['a'])).1 ≠
      (journalTexts word run atDecision atResult plainApproval (nestedSlot.fill ['b'])).1 := by
  obtain ⟨options, rfl, records⟩ := recorded_options recorded
  intro same
  have redactA : redact word false (nestedSlot.fill ['a']) = "--token ****** a" := (redact_nested word).1
  have redactB : redact word false (nestedSlot.fill ['b']) = "--token ****** b" := (redact_nested word).2
  have nonemptyA : nestedSlot.fill ['a'] ≠ "" := by decide
  have nonemptyB : nestedSlot.fill ['b'] ≠ "" := by decide
  simp only [journalTexts, recordPlanCardDecision, records, Bool.not_true, Bool.false_eq_true, if_false,
    Option.getD_some, if_neg nonemptyA, if_neg nonemptyB, redactA, redactB] at same
  have texts := writeEvent_inj same
  rw [String.append_right_inj, String.append_left_inj, String.append_right_inj] at texts
  exact absurd texts (by decide)

theorem tokenSlot_report (quotes : run.quotes = true) : ∃ ok head rest, head.length ≤ 7 ∧
    run.report word plainApproval (tokenSlot.fill ['a']) = (ok, head ++ ("--token=a" ++ rest)) ∧
    run.report word plainApproval (tokenSlot.fill ['b']) = (ok, head ++ ("--token=b" ++ rest)) := by
  have stripA : strip (tokenSlot.fill ['a']) = "--token=a" := by decide
  have stripB : strip (tokenSlot.fill ['b']) = "--token=b" := by decide
  have nonemptyA : "--token=a" ≠ "" := by decide
  have nonemptyB : "--token=b" ≠ "" := by decide
  have guardA : guardPing "--token=a" = "--token=a" := by decide
  have guardB : guardPing "--token=b" = "--token=b" := by decide
  cases run with
  | sshExec summary => cases quotes
  | localExec ending =>
      obtain ⟨ok, rest, quoted⟩ := report_quotes quotes ""
      refine ⟨ok, "local: ", rest, by decide, ?_, ?_⟩
      · simp only [ExecRun.report, localExecReport, localExecLine, stripA, if_neg nonemptyA, plainApproval,
          resolveLabels, guardA, quoted, String.append_assoc]
      · simp only [ExecRun.report, localExecReport, localExecLine, stripB, if_neg nonemptyB, plainApproval,
          resolveLabels, guardB, quoted, String.append_assoc]

theorem slice_tells {head first second rest : String} {size : Nat}
    (inside : head.toList.length + first.toList.length ≤ size)
    (sameLength : second.toList.length = first.toList.length)
    (same : slice 0 size (head ++ (first ++ rest)) = slice 0 size (head ++ (second ++ rest))) : first = second := by
  have whole : (head.toList ++ (first.toList ++ rest.toList)).take size =
      (head.toList ++ (second.toList ++ rest.toList)).take size := by
    simpa [slice] using congrArg String.toList same
  have front := congrArg (List.take (head.toList.length + first.toList.length)) whole
  rw [List.take_take, List.take_take, Nat.min_eq_left inside, List.take_length_add_append,
    List.take_length_add_append, List.take_left, ← sameLength, List.take_left] at front
  exact String.toList_injective (List.append_cancel_left front)

theorem result_leaks (recorded : recordsPlanCards atResult = true) (quotes : run.quotes = true) :
    (journalTexts word run atDecision atResult plainApproval (tokenSlot.fill ['a'])).2 ≠
      (journalTexts word run atDecision atResult plainApproval (tokenSlot.fill ['b'])).2 := by
  obtain ⟨options, rfl, records⟩ := recorded_options recorded
  obtain ⟨ok, head, rest, short, reportA, reportB⟩ :
      ∃ ok head rest, head.length ≤ 7 ∧
        run.report word plainApproval (tokenSlot.fill ['a']) = (ok, head ++ ("--token=a" ++ rest)) ∧
        run.report word plainApproval (tokenSlot.fill ['b']) = (ok, head ++ ("--token=b" ++ rest)) :=
    tokenSlot_report quotes
  intro same
  simp only [journalTexts, reportA, reportB, recordPlanCardResult, records, Bool.not_true, Bool.false_eq_true,
    if_false] at same
  have texts := writeEvent_inj same
  rw [String.append_right_inj] at texts
  have size : head.toList.length + "--token=a".toList.length ≤ 300 := by
    have nine : "--token=a".toList.length = 9 := by decide
    rw [String.length_toList]
    omega
  exact absurd (slice_tells size (by decide) texts) (by decide)

end Leaks

/-- Which recordings keep the words after secret flags out of the journal, for each way a run
of either tool ends: of every command line, and of those whose flag is not itself the word
after another one. -/
theorem journal_hides_secrets_iff (word : Char → Bool) (run : ExecRun)
    (atDecision atResult : Option RecordingOptions) :
    ((∀ (approval : Approval) (slot : SecretSlot) (first second : List Char), IsWord first → IsWord second →
        journalTexts word run atDecision atResult approval (slot.fill first) =
          journalTexts word run atDecision atResult approval (slot.fill second)) ↔
      recordsPlanCards atDecision = false ∧ (recordsPlanCards atResult = false ∨ run.quotes = false)) ∧
    ((∀ (approval : Approval) (slot : SecretSlot) (first second : List Char), ¬ slot.Nested →
        IsWord first → IsWord second →
        journalTexts word run atDecision atResult approval (slot.fill first) =
          journalTexts word run atDecision atResult approval (slot.fill second)) ↔
      recordsPlanCards atResult = false ∨ run.quotes = false) := by
  have wordA : IsWord ['a'] := isWord_single rfl
  have wordB : IsWord ['b'] := isWord_single rfl
  -- The token is in the result of every finished run that is recorded.
  have resultKept (same : journalTexts word run atDecision atResult plainApproval (tokenSlot.fill ['a']) =
        journalTexts word run atDecision atResult plainApproval (tokenSlot.fill ['b'])) :
      recordsPlanCards atResult = false ∨ run.quotes = false := by
    by_contra leaks
    simp only [not_or, Bool.not_eq_false] at leaks
    exact result_leaks leaks.1 leaks.2 (congrArg Prod.snd same)
  refine ⟨⟨fun hides => ⟨?_, ?_⟩, ?_⟩, ⟨fun hides => ?_, ?_⟩⟩
  · by_contra recorded
    rw [Bool.not_eq_false] at recorded
    exact decision_leaks recorded (congrArg Prod.fst (hides plainApproval nestedSlot _ _ wordA wordB))
  · exact resultKept (hides plainApproval tokenSlot _ _ wordA wordB)
  · rintro ⟨unrecorded, hidden⟩ approval slot first second firstWord secondWord
    exact Prod.ext (decision_hidden (.inl unrecorded) firstWord secondWord)
      (result_hidden hidden firstWord secondWord)
  · exact resultKept (hides plainApproval tokenSlot _ _ tokenSlot_plain wordA wordB)
  · intro hidden approval slot first second plain firstWord secondWord
    exact Prod.ext (decision_hidden (.inr plain) firstWord secondWord)
      (result_hidden hidden firstWord secondWord)

private def webApproval : Approval where
  host := none
  inventory := []
  decidedAt := "09:00:00"
  finishedAt := "09:00:01"

private def webTexts (value : String) : String × String :=
  journalTexts Char.isAlphanum (.localExec (.exited (some 0) 40)) (some {}) (some {}) webApproval
    (tokenSlot.fill value.toList)

/-- The same card with two tokens: the decisions read alike, the results do not. -/
theorem result_quotes_token :
    webTexts "alpha" = ("**[09:00:00] Plan card approved** - `local_exec`: `--token=******`\n\n",
      "**[09:00:01] Plan card result** - `local_exec` ✓ local: --token=alpha to exit 0 in 40ms\n\n") ∧
    webTexts "bravo" = ("**[09:00:00] Plan card approved** - `local_exec`: `--token=******`\n\n",
      "**[09:00:01] Plan card result** - `local_exec` ✓ local: --token=bravo to exit 0 in 40ms\n\n") ∧
    webTexts "alpha" ≠ webTexts "bravo" := by
  decide

end Dosm.Recording
