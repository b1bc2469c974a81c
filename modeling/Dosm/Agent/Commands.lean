import Dosm.Agent.PlanCards
import Dosm.Python.Fnmatch
import Dosm.Shell.Tokens

namespace Dosm.Agent

open Python Plans Shell

/-! Which commands run without a typed confirmation.

A pattern is matched against the whole command line, and a `*` stands for any
text. What the line does is for the shell to say, which reads more into it than
words.
-/

/-- The `ssh_command_policy.allow_list` a configuration has by default. -/
def defaultAllowList : List String := [
  "uptime",
  "whoami",
  "hostname",
  "id",
  "date",
  "df -h",
  "df -h *",
  "free -m",
  "free -h",
  "ps auxf",
  "ps -ef",
  "ls *",
  "cat /etc/os-release",
  "cat /proc/cpuinfo",
  "cat /proc/meminfo",
  "tail -n [0-9]* *",
  "journalctl --since * --no-pager",
  "journalctl -u * --no-pager",
  "systemctl status *",
  "systemctl is-active *"]

def classifyCommand (allowList : List String) (command : String) : CardTier :=
  let cmd := strip command
  if cmd = "" then .elevated
  else if allowList.any (fnmatch cmd) then .safe
  else .elevated

theorem classifyCommand_strip {allowList : List String} {command : String} :
    classifyCommand allowList (strip command) = classifyCommand allowList command := by
  simp only [classifyCommand, strip_strip]

def programOf (pattern : String) : List Char := pattern.toList.takeWhile (· ≠ ' ')

def headed (pattern : String) : Bool :=
  let start := literalStart pattern
  start.takeWhile (· ≠ ' ') = programOf pattern && programOf pattern ≠ [] &&
    (programOf pattern).all isOrdinary && start.all (fun char => isOrdinary char || isBlank char) &&
    (start = pattern.toList || start.getLast? = some ' ')

section Headed

variable {allowList : List String} {pattern command : String} {line rest : List Char}

theorem headed_start (good : headed pattern = true) : literalStart pattern ≠ [] := by
  simp only [headed, Bool.and_eq_true, decide_eq_true_eq] at good
  obtain ⟨⟨⟨⟨first, named⟩, _⟩, _⟩, _⟩ := good
  intro empty
  rw [empty] at first
  exact named first.symm

theorem quiet_headed (good : headed pattern = true) (split : line = literalStart pattern ++ rest)
    (whole : (∀ char ∈ pattern.toList, isWild char = false) → rest = []) : Quiet line ↔ Quiet rest := by
  simp only [headed, Bool.and_eq_true, Bool.or_eq_true, decide_eq_true_eq, List.all_eq_true] at good
  obtain ⟨⟨_, plain⟩, ends⟩ := good
  rcases ends with exact_ | blank
  · have untamed : ∀ char ∈ pattern.toList, isWild char = false := by
      intro char member
      rw [← exact_] at member
      simpa using List.mem_takeWhile_imp member
    rw [split, whole untamed, List.append_nil]
    exact ⟨fun _ => rfl, fun _ => quiet_plain plain⟩
  · obtain ⟨front, ended⟩ := List.getLast?_eq_some_iff.mp blank
    rw [ended] at plain split
    have same : quiet .plain false (front ++ ' ' :: rest) = quiet .plain false rest :=
      quiet_start fun char member => plain char (List.mem_append_left _ member)
    rw [split, List.append_assoc, List.singleton_append, Quiet, Quiet, same]

theorem runs_headed (good : headed pattern = true) (split : line = literalStart pattern ++ rest)
    (whole : (∀ char ∈ pattern.toList, isWild char = false) → rest = []) (calm : Quiet line) :
    RunsOne line (programOf pattern) := by
  simp only [headed, Bool.and_eq_true, Bool.or_eq_true, decide_eq_true_eq, List.all_eq_true] at good
  obtain ⟨⟨⟨⟨first, named⟩, ordinary⟩, _⟩, ends⟩ := good
  have parts : literalStart pattern =
      programOf pattern ++ (literalStart pattern).dropWhile (· ≠ ' ') := by
    rw [← first]
    exact List.takeWhile_append_dropWhile.symm
  rw [parts, List.append_assoc] at split
  rw [split] at calm ⊢
  refine runsOne_of_quiet ordinary named ?_ calm
  cases after : (literalStart pattern).dropWhile (· ≠ ' ') with
  | nil =>
      left
      rw [after, List.append_nil] at parts
      rcases ends with exact_ | blank
      · refine whole ?_
        intro char member
        rw [← exact_] at member
        simpa using List.mem_takeWhile_imp member
      · have listed : ' ' ∈ programOf pattern := by
          rw [← parts]
          exact List.mem_of_getLast? blank
        exact absurd (ordinary _ listed) (by decide)
  | cons char others =>
      right
      have blank : char = ' ' := by
        have head := List.head?_dropWhile_not (fun other => decide (other ≠ ' ')) (literalStart pattern)
        rw [after] at head
        simpa using head
      exact ⟨others ++ rest, by rw [blank, List.cons_append]⟩

theorem safe_runs_iff (good : ∀ pattern ∈ allowList, headed pattern = true) :
    (classifyCommand allowList command = .safe → ∃ pattern ∈ allowList,
      fnmatch (strip command) pattern = true ∧ RunsOne (strip command).toList (programOf pattern)) ↔
    ∀ pattern ∈ allowList, fnmatch (strip command) pattern = true →
      Quiet ((strip command).toList.drop (literalStart pattern).length) := by
  have split : ∀ pattern, fnmatch (strip command) pattern = true → ∃ rest,
      (strip command).toList = literalStart pattern ++ rest ∧
      ((∀ char ∈ pattern.toList, isWild char = false) → rest = []) ∧
      (strip command).toList.drop (literalStart pattern).length = rest := by
    intro pattern matched
    obtain ⟨rest, line, whole⟩ := fnmatch_start matched
    exact ⟨rest, line, whole, by rw [line, List.drop_left]⟩
  constructor
  · intro runs pattern listed matched
    obtain ⟨rest, line, whole, dropped⟩ := split pattern matched
    have given : strip command ≠ "" := by
      intro empty
      rw [empty] at line
      exact headed_start (good pattern listed) (List.append_eq_nil_iff.mp line.symm).1
    have safe : classifyCommand allowList command = .safe := by
      simp only [classifyCommand, if_neg given]
      rw [if_pos (List.any_eq_true.mpr ⟨pattern, listed, matched⟩)]
    obtain ⟨_, _, _, one⟩ := runs safe
    rw [dropped]
    exact (quiet_headed (good pattern listed) line whole).mp (quiet_of_runsOne one)
  · intro calm safe
    have matches_ : ∃ pattern ∈ allowList, fnmatch (strip command) pattern = true := by
      simp only [classifyCommand] at safe
      split at safe
      · cases safe
      · split at safe
        · rename_i any
          exact List.any_eq_true.mp any
        · cases safe
    obtain ⟨pattern, listed, matched⟩ := matches_
    obtain ⟨rest, line, whole, dropped⟩ := split pattern matched
    have quietRest := calm pattern listed matched
    rw [dropped] at quietRest
    have quietLine := (quiet_headed (good pattern listed) line whole).mpr quietRest
    exact ⟨pattern, listed, matched, runs_headed (good pattern listed) line whole quietLine⟩

end Headed

end Dosm.Agent
