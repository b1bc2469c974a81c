import Dosm.Agent.Commands
import Dosm.Python.Regex

namespace Dosm.Agent

open Models Python Plans Shell

/-! What `local_exec` makes of an approved command.

The tier is decided on the command as approved. The runner then writes addresses
over host labels and a count into a bare `ping`, and hands the result to the shell.
-/

/-- The labels and addresses the runner reads, in some order. -/
def inventoryRows (db : Database) (tid : Option Int) : List (String × String) :=
  (db.hosts.rows.filter fun host => inTenant tid host.tenantId).map fun host => (host.name, host.hostname)

/-- An address that is no valid template ends the loop; what the rows before it
made of the command stays. -/
def resolveLabels (word : Char → Bool) : List (String × String) → String → String
  | [], command => command
  | (label, address) :: rows, command =>
      if label ≠ "" ∧ address ≠ "" ∧ label ≠ address then
        match subWord word label address command with
        | none => command
        | some replaced => resolveLabels word rows replaced
      else resolveLabels word rows command

/-- `-c` and white space somewhere on the first line. -/
def hasCount : List Char → Bool
  | [] => false
  | '\n' :: _ => false
  | '-' :: 'c' :: after :: rest => isSpace after || hasCount ('c' :: after :: rest)
  | _ :: rest => hasCount rest

/-- The white space after a leading `ping`, and the rest. -/
def afterPing (command : List Char) : Option (List Char × List Char) :=
  if "ping".toList.isPrefixOf command then
    let tail := command.drop 4
    some (tail.takeWhile isSpace, tail.dropWhile isSpace)
  else none

/-- `^ping\s+(?!.*-c\s)`: the white space may be split anywhere after its first
character. -/
def barePing (command : String) : Bool :=
  match afterPing command.toList with
  | none => false
  | some (spaces, rest) => spaces.tails.tail.any fun left => !hasCount (left ++ rest)

def guardPing (command : String) : String :=
  if barePing command then
    match afterPing command.toList with
    | none => command
    | some (_, rest) => String.ofList ("ping -c 4 ".toList ++ rest)
  else command

/-- The line handed to the shell; an empty command is refused. -/
def localExecLine (word : Char → Bool) (rows : List (String × String)) (command : String) :
    Option String :=
  if strip command = "" then none else some (guardPing (resolveLabels word rows (strip command)))

def programName (line : String) : Option Token := (lex .plain none line.toList).bind List.head?

example : localExecLine Char.isAlphanum [("web", "10.0.0.7")] " ping web" = some "ping -c 4 10.0.0.7" := by
  decide

example : barePing "ping -c 4 a" = false ∧ barePing "ping  a" = true ∧ barePing "ping a -c\n" = false := by
  decide

section Counting

variable {word : Char → Bool} {rows : List (String × String)} {command label address : String}
  {mark : Char}

theorem count_dropWhile {chars : List Char} (visible : isSpace mark = false) :
    (chars.dropWhile isSpace).count mark = chars.count mark := by
  induction chars with
  | nil => rfl
  | cons char rest ih =>
      cases space : isSpace char with
      | false => rw [List.dropWhile_cons_of_neg (by simp [space])]
      | true =>
          have different : char ≠ mark := by
            rintro rfl
            rw [visible] at space
            cases space
          rw [List.dropWhile_cons_of_pos space, ih, List.count_cons_of_ne different]

theorem count_strip (visible : isSpace mark = false) :
    (strip command).toList.count mark = command.toList.count mark := by
  rw [strip, String.toList_ofList, List.rdropWhile, List.count_reverse, count_dropWhile visible,
    List.count_reverse, count_dropWhile visible]

theorem afterPing_split {spaces rest chars : List Char} (found : afterPing chars = some (spaces, rest)) :
    chars = "ping".toList ++ (spaces ++ rest) ∧ ∀ char ∈ spaces, isSpace char = true := by
  unfold afterPing at found
  split at found
  · rename_i starts
    cases found
    obtain ⟨tail, rfl⟩ := List.isPrefixOf_iff_prefix.mp starts
    have dropped : ("ping".toList ++ tail).drop 4 = tail := rfl
    rw [dropped, List.takeWhile_append_dropWhile]
    exact ⟨rfl, fun char member => List.mem_takeWhile_imp member⟩
  · cases found

theorem count_guardPing (visible : isSpace mark = false) :
    (guardPing command).toList.count mark = command.toList.count mark +
      if barePing command then "-c4".toList.count mark else 0 := by
  unfold guardPing
  cases bare : barePing command with
  | false => simp
  | true =>
      rw [if_pos rfl, if_pos rfl]
      cases found : afterPing command.toList with
      | none => simp [barePing, found] at bare
      | some parts =>
          obtain ⟨spaces, rest⟩ := parts
          obtain ⟨split, blank⟩ := afterPing_split found
          have unmarked : spaces.count mark = 0 := by
            refine List.count_eq_zero.mpr fun member => ?_
            rw [blank mark member] at visible
            cases visible
          have gap : ¬ ' ' = mark := by
            rintro rfl
            cases visible
          have inserted : "ping -c 4 ".toList.count mark =
              "ping".toList.count mark + "-c4".toList.count mark := by
            simp [List.count_cons, gap]
            omega
          rw [split, String.toList_ofList, List.count_append, List.count_append, List.count_append,
            inserted, unmarked]
          omega

theorem resolveLabels_absent
    (absent : ∀ row ∈ rows, row.1 ≠ "" → occursAsWord word row.1 command = false) :
    resolveLabels word rows command = command := by
  induction rows with
  | nil => rfl
  | cons row rest ih =>
      have later := ih fun other member => absent other (List.mem_cons_of_mem _ member)
      unfold resolveLabels
      split
      · rename_i used
        rcases subWord_absent (absent row List.mem_cons_self used.1) with failed | same
        · rw [failed]
        · rw [same]
          exact later
      · exact later

theorem resolveLabels_own (own : ∀ row ∈ rows, row.1 = row.2) :
    resolveLabels word rows command = command := by
  induction rows with
  | nil => rfl
  | cons row rest ih =>
      rw [resolveLabels, if_neg fun used => used.2.2 (own row List.mem_cons_self)]
      exact ih fun other member => own other (List.mem_cons_of_mem _ member)

def redirect (label address : String) (labels : List String) : List (String × String) :=
  labels.map fun other => (other, if other = label then address else other)

theorem resolveLabels_redirect {other : String} {labels : List String} (named : label ≠ "")
    (given : address ≠ "") (different : label ≠ address) (plain : '\\' ∉ address.toList) :
    resolveLabels word (redirect label address (other :: labels)) command =
      resolveLabels word (redirect label address labels) (if other = label then
        String.ofList (substitute word label.toList address.toList 0 none command.toList) else command) := by
  by_cases same : other = label
  · subst same
    simp only [redirect, List.map_cons, if_true, resolveLabels]
    rw [if_pos ⟨named, given, different⟩, subWord_plain plain]
  · simp only [redirect, List.map_cons, if_neg same, resolveLabels]
    rw [if_neg fun used => used.2.2 rfl]

theorem count_redirect {labels : List String} (named : label ≠ "") (given : address ≠ "")
    (different : label ≠ address) (plain : '\\' ∉ address.toList)
    (enough : label.toList.length ≤ address.toList.count mark) :
    command.toList.count mark ≤
      (resolveLabels word (redirect label address labels) command).toList.count mark := by
  induction labels generalizing command with
  | nil => exact Nat.le_refl _
  | cons other rest ih =>
      rw [resolveLabels_redirect named given different plain]
      refine Nat.le_trans ?_ ih
      split
      · rw [String.toList_ofList]
        have labelled : label.toList ≠ [] := by simpa using named
        have kept : (command.toList.drop 0).count mark ≤
            (substitute word label.toList address.toList 0 none command.toList).count mark :=
          count_substitute labelled enough
        exact kept
      · exact Nat.le_refl _

theorem count_occurs {labels : List String} (named : label ≠ "") (given : address ≠ "")
    (different : label ≠ address) (plain : '\\' ∉ address.toList)
    (enough : label.toList.length ≤ address.toList.count mark) (listed : label ∈ labels)
    (occurs : occursAsWord word label command = true) :
    address.toList.count mark ≤
      (resolveLabels word (redirect label address labels) command).toList.count mark := by
  induction labels with
  | nil => cases listed
  | cons other rest ih =>
      rw [resolveLabels_redirect named given different plain]
      by_cases same : other = label
      · rw [if_pos same]
        refine Nat.le_trans ?_ (count_redirect named given different plain enough)
        rw [String.toList_ofList]
        exact count_replaced occurs
      · rw [if_neg same]
        rcases List.mem_cons.mp listed with first | later
        · exact absurd first.symm same
        · exact ih later

end Counting

theorem only_itself {line executed : String} :
    classifyCommand [Python.escape line] executed = .safe ↔ strip executed ≠ "" ∧ strip executed = line := by
  simp only [classifyCommand, List.any_cons, List.any_nil, Bool.or_false]
  by_cases empty : strip executed = ""
  · simp [empty]
  · rw [if_neg empty]
    by_cases same : strip executed = line
    · rw [if_pos (fnmatch_escape.mpr same)]
      exact ⟨fun _ => ⟨empty, same⟩, fun _ => rfl⟩
    · rw [if_neg fun matched => same (fnmatch_escape.mp matched)]
      exact iff_of_false (by simp) fun equal => same equal.2

section Counted

variable {word : Char → Bool} {labels : List String} {command label : String}

theorem bare_of_counted (counted : ∀ rows : List (String × String), rows.map Prod.fst = labels →
      ∀ mark, isSpace mark = false → (guardPing (resolveLabels word rows command)).toList.count mark =
        command.toList.count mark) : barePing command = false := by
  cases bare : barePing command with
  | false => rfl
  | true =>
      have own : resolveLabels word (labels.map fun label => (label, label)) command = command :=
        resolveLabels_own (by simp)
      have same := counted (labels.map fun label => (label, label))
        (by simp [Function.comp_def]) '4' (by decide)
      rw [own, count_guardPing (by decide), bare] at same
      have four : "-c4".toList.count '4' = 1 := by decide
      simp only [if_true, four] at same
      omega

theorem absent_of_counted (listed : label ∈ labels) (named : label ≠ "")
    (counted : ∀ rows : List (String × String), rows.map Prod.fst = labels →
      ∀ mark, isSpace mark = false → (guardPing (resolveLabels word rows command)).toList.count mark =
        command.toList.count mark) : occursAsWord word label command = false := by
  cases occurs : occursAsWord word label command with
  | false => rfl
  | true =>
      -- An address of more characters than the command has.
      let address := String.ofList (List.replicate (command.toList.length + 1) 'x')
      have long : address.toList.count 'x' = command.toList.length + 1 := by simp [address]
      have short : label.toList.length ≤ command.toList.length := occursAfter_length occurs
      have different : label ≠ address := by
        rintro rfl
        have most : address.toList.count 'x' ≤ address.toList.length := List.count_le_length
        omega
      have given : address ≠ "" := by
        intro empty
        rw [empty] at long
        cases long
      have plain : '\\' ∉ address.toList := by simp [address]
      have inside : address.toList.count 'x' ≤
          (resolveLabels word (redirect label address labels) command).toList.count 'x' :=
        count_occurs named given different plain (by omega) listed occurs
      have same := counted (redirect label address labels) (by simp [redirect, Function.comp_def])
        'x' (by decide)
      rw [count_guardPing (by decide)] at same
      have most : command.toList.count 'x' ≤ command.toList.length := List.count_le_length
      omega

end Counted

/-- For the labels of an inventory and a command: whatever the policy and the
addresses, a command that was approved as safe is still safe when it reaches the
shell, and of the same program, exactly when no label occurs in it as a word and it
is no bare `ping`. -/
theorem runs_as_classified_iff (word : Char → Bool) (labels : List String) (command : String) :
    (∀ (allowList : List String) (rows : List (String × String)) (line : String),
      rows.map Prod.fst = labels → classifyCommand allowList command = .safe →
      localExecLine word rows command = some line →
      classifyCommand allowList line = .safe ∧ programName line = programName (strip command)) ↔
    (strip command = "" ∨ (barePing (strip command) = false ∧
      ∀ label ∈ labels, label ≠ "" → occursAsWord word label (strip command) = false)) := by
  constructor
  · intro kept
    by_cases empty : strip command = ""
    · exact .inl empty
    right
    -- Of the line that runs, such a policy admits the approved one alone.
    have same : ∀ rows : List (String × String), rows.map Prod.fst = labels →
        strip (guardPing (resolveLabels word rows (strip command))) = strip command := by
      intro rows named
      have safe : classifyCommand [Python.escape (strip command)] command = .safe :=
        only_itself.mpr ⟨empty, rfl⟩
      have admitted := (kept _ rows _ named safe (by rw [localExecLine, if_neg empty])).1
      exact (only_itself.mp admitted).2
    have counted : ∀ rows : List (String × String), rows.map Prod.fst = labels → ∀ mark,
        isSpace mark = false →
        (guardPing (resolveLabels word rows (strip command))).toList.count mark =
          (strip command).toList.count mark := by
      intro rows named mark visible
      rw [← count_strip visible, same rows named]
    refine ⟨bare_of_counted counted, ?_⟩
    intro label listed named
    exact absent_of_counted listed named counted
  · intro clean allowList rows line named safe ran
    rcases clean with empty | ⟨bare, absent⟩
    · rw [localExecLine, if_pos empty] at ran
      cases ran
    · have unchanged : resolveLabels word rows (strip command) = strip command := by
        refine resolveLabels_absent fun row member => absent row.1 ?_
        rw [← named]
        exact List.mem_map_of_mem member
      have same : line = strip command := by
        unfold localExecLine at ran
        split at ran
        · cases ran
        · rw [unchanged, guardPing, bare] at ran
          exact (Option.some.inj ran).symm
      rw [same, classifyCommand_strip]
      exact ⟨safe, rfl⟩

/-- A host that is labelled like a program, with a command for its address. -/
theorem uptime_becomes_reboot :
    ∃ db : Database, inventoryRows db (some 1) = [("uptime", "reboot")] ∧
      classifyCommand defaultAllowList "uptime" = .safe ∧
      ∃ line, localExecLine Char.isAlphanum (inventoryRows db (some 1)) "uptime" = some line ∧
        classifyCommand defaultAllowList line = .elevated ∧ programName line ≠ programName "uptime" := by
  refine ⟨{ hosts := Table.empty.insert fun id => {
    id, tenantId := 1, name := "uptime", hostname := "reboot", port := 22, protocol := .ssh
    description := none, credentialId := none, jumpHostId := none, isJumpbox := false
    ftMethod := none, ftPort := none, ftCredentialId := none, orgUnitId := none } }, ?_, ?_, "reboot", ?_⟩
  · decide
  · decide
  · decide

end Dosm.Agent

namespace Dosm.Agent

open Python

/-! What the two command runners report. -/

/-- How a run ends: the environment decides. -/
inductive Ending where
  /-- No status stands for a command that a signal ended. -/
  | exited (status : Option Int) (durationMs : Nat)
  | timedOut (timeout : String)
  /-- No report about the command itself: no such host, no connection, a crash. -/
  | broken (summary : String)
  deriving DecidableEq

def Ending.quotes : Ending → Bool
  | exited .. | timedOut _ => true
  | broken _ => false

def exitText : Option Int → String
  | some status => toString status
  | none => "None"

/-- Whether the run succeeded, and the summary. -/
def report (quoted chainNote : String) : Ending → Bool × String
  | .exited status durationMs =>
      if status = some 0 then
        (true, quoted ++ (chainNote ++ " to exit " ++ exitText status ++ " in " ++ toString durationMs ++ "ms"))
      else (false, quoted ++ (chainNote ++ " FAILED (exit " ++ exitText status ++ ")"))
  | .timedOut timeout => (false, quoted ++ (" timed out after " ++ timeout ++ "s"))
  | .broken summary => (false, summary)

def chainNote (jumpCount : Nat) : String :=
  if jumpCount = 0 then ""
  else " via " ++ toString jumpCount ++ " jump host" ++ (if jumpCount = 1 then "" else "s")

/-- `_local_exec_runner`, once it knows how the run ends. -/
def localExecReport (word : Char → Bool) (rows : List (String × String)) (command : String) (ending : Ending) :
    Bool × String :=
  match localExecLine word rows command with
  | none => (false, "empty command")
  | some line => report ("local: " ++ line) "" ending

theorem report_quotes {ending : Ending} (quotes : ending.quotes = true) (chainNote : String) :
    ∃ ok rest, ∀ quoted, report quoted chainNote ending = (ok, quoted ++ rest) := by
  cases ending with
  | exited status durationMs =>
      by_cases succeeded : status = some 0
      · exact ⟨_, _, fun quoted => if_pos succeeded⟩
      · exact ⟨_, _, fun quoted => if_neg succeeded⟩
  | timedOut timeout => exact ⟨_, _, fun quoted => rfl⟩
  | broken summary => cases quotes

theorem report_silent {ending : Ending} (silent : ending.quotes = false) (first second chainNote : String) :
    report first chainNote ending = report second chainNote ending := by
  cases ending with
  | exited status durationMs => cases silent
  | timedOut timeout => cases silent
  | broken summary => rfl

end Dosm.Agent
