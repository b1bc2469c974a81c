import Dosm.Network.Routes
import Mathlib.Data.Bool.AllAny

namespace Dosm.Network

open Models Python Jumps Shell

/-! Which values a check may carry.

The port checker takes only addresses that its validator takes. A scan takes any
line of its form and any host name of the inventory.
-/

/-- No character that PowerShell ends a quoted string at. -/
def Unquoted (text : String) : Prop := ∀ char ∈ text.toList, isSingleQuote char = false

/-- The address reads as itself where the route puts it. -/
def Route.AddressPlain (dstAddress : String) (port : Int) : Route → Prop
  | .ssh => if port = 0 then '\'' ∉ dstAddress.toList else ∀ char ∈ dstAddress.toList, isBare char = true
  | .winrm | .invoke _ => Unquoted dstAddress

/-- The target's login reads as itself where the route puts it. -/
def Route.LoginPlain (target : HopCreds) : Route → Prop
  | .ssh | .winrm => True
  | .invoke password => Unquoted password ∧ Unquoted target.username ∧ Unquoted target.hostname

def Request.validates : Request → Bool
  | .mapCreate _ => false
  | .portChecker _ _ => true

/-- Everything sent to a source for a request has its values as literal text. -/
def Request.RunsOnlyChecks (db : Database) (ports : Table NetworkPort) (tid : Int) (jumpHops : List HopCreds)
    (target : HopCreds) (request : Request) : Prop :=
  ∀ check ∈ request.checks db ports tid, ∀ route, request.route jumpHops target = some route →
    ∀ script ∈ route.scripts target check.1 check.2, script.Confined

section Scripts

variable {target : HopCreds} {dstAddress text : String} {port : Int} {pieces : List Piece} {char : Char}
  {start : Mode × Bool} {mode : PowerShellMode}

theorem portText_char (member : char ∈ (toString port).toList) : char.isDigit = true ∨ char = '-' := by
  have natural {number : Nat} (member : char ∈ (toString number).toList) : char.isDigit = true := by
    rw [Nat.toString_eq_ofList_toDigits, String.toList_ofList] at member
    exact Nat.isDigit_of_mem_toDigits (by decide) (by decide) member
  cases port with
  | ofNat number => exact .inl (natural member)
  | negSucc number =>
      have shown : toString (Int.negSucc number) = "-" ++ toString (number + 1) := rfl
      rw [shown, String.toList_append] at member
      rcases List.mem_append.mp member with sign | digit
      · exact .inr (List.mem_singleton.mp sign)
      · exact .inl (natural digit)

theorem shell_value (opened : posix.advance start text.toList = (.single, true)) :
    posix.Confined start (fixed text :: value dstAddress :: pieces) ↔
      '\'' ∉ dstAddress.toList ∧ posix.Confined (.single, true) pieces := by
  rw [fixed, value, Reader.confined_fixed, opened, Reader.confined_value, posix_single]

theorem powershell_value (opened : Shell.powershell.advance mode text.toList = .single) :
    Shell.powershell.Confined mode (fixed text :: value dstAddress :: pieces) ↔
      Unquoted dstAddress ∧ Shell.powershell.Confined .single pieces := by
  rw [fixed, value, Reader.confined_fixed, opened, Reader.confined_value, powershell_single, Unquoted]

theorem single_port {lead : String} (opened : posix.advance (.single, true) lead.toList = (.single, true)) :
    posix.advance (.single, true) (lead ++ toString port).toList = (.single, true) := by
  rw [String.toList_append, Reader.advance_append, opened]
  refine Reader.advance_literal (posix_single.mpr fun quoted => ?_)
  rcases portText_char quoted with digit | sign
  · cases digit
  · cases sign

theorem quote_not_mem_of_bare (bare : ∀ char ∈ dstAddress.toList, isBare char = true) :
    '\'' ∉ dstAddress.toList :=
  fun quoted => absurd (bare '\'' quoted) (by decide)

theorem bashCommand_confined : posix.Confined (.plain, false) (bashCommand dstAddress port) ↔
    ∀ char ∈ dstAddress.toList, isBare char = true := by
  have begun : posix.advance (.plain, false) "</dev/tcp/".toList = (.plain, true) := by decide
  rw [bashCommand, fixed, value, Reader.confined_fixed, begun, Reader.confined_value, posix_plain]
  exact and_iff_left Reader.confined_end

set_option maxRecDepth 2000 in
theorem clock_read : posix.advance (.plain, false) clock.toList = (.plain, false) := by
  rw [clock, String.toList_ofList]
  decide

theorem ssh_confined : (∀ script ∈ sshCheckOne dstAddress port, script.Confined) ↔
    Route.ssh.AddressPlain dstAddress port := by
  unfold sshCheckOne Route.AddressPlain
  by_cases ping : port = 0
  · rw [if_pos ping, if_pos ping]
    simp only [List.mem_singleton, forall_eq, Script.Confined]
    have opened : posix.advance (.plain, false) (clock ++ "ping -c 1 -W 3 '").toList = (.single, true) := by
      rw [String.toList_append, Reader.advance_append, clock_read, String.toList_ofList]
      decide
    exact (shell_value opened).trans (and_iff_left Reader.confined_end)
  · rw [if_neg ping, if_neg ping]
    simp only [List.mem_cons, List.not_mem_nil, or_false, forall_eq_or_imp, forall_eq, Script.Confined]
    rw [bashCommand_confined]
    refine and_iff_right_of_imp fun bare => ?_
    -- the argument of bash and the one of nc are both in single quotes
    have unquoted : '\'' ∉ dstAddress.toList := quote_not_mem_of_bare bare
    have opened : posix.advance (.plain, false) (clock ++ "(bash -c '").toList = (.single, true) := by
      rw [String.toList_append, Reader.advance_append, clock_read, String.toList_ofList]
      decide
    simp only [bashCommand, List.cons_append, List.nil_append]
    rw [fixed, Reader.confined_fixed, opened, shell_value (by decide)]
    refine ⟨unquoted, ?_⟩
    rw [fixed, Reader.confined_fixed, single_port (by decide), shell_value (by decide)]
    exact ⟨unquoted, Reader.confined_end⟩

theorem winrm_confined : (∀ script ∈ winrmGroupCheck dstAddress port, script.Confined) ↔
    Route.winrm.AddressPlain dstAddress port := by
  unfold winrmGroupCheck Route.AddressPlain
  by_cases ping : port = 0
  · rw [if_pos ping]
    simp only [List.mem_singleton, forall_eq, Script.Confined]
    refine (powershell_value (by rw [String.toList_append, String.toList_ofList, String.toList_ofList]; decide)).trans ?_
    exact and_iff_left Reader.confined_end
  · rw [if_neg ping]
    simp only [List.mem_singleton, forall_eq, Script.Confined]
    refine (powershell_value (by rw [String.toList_append, String.toList_ofList, String.toList_ofList]; decide)).trans ?_
    exact and_iff_left Reader.confined_end

theorem innerCheck_confined :
    Shell.powershell.Confined .plain (innerCheck dstAddress port ++ [fixed text]) ↔ Unquoted dstAddress := by
  unfold innerCheck
  by_cases ping : port = 0
  · rw [if_pos ping]
    refine (powershell_value (by rw [String.toList_ofList]; decide)).trans ?_
    exact and_iff_left (Reader.confined_fixed.mpr Reader.confined_end)
  · rw [if_neg ping]
    refine (powershell_value (by rw [String.toList_ofList]; decide)).trans ?_
    exact and_iff_left (Reader.confined_fixed.mpr Reader.confined_end)

theorem invoke_confined {password : String} :
    (∀ script ∈ winrmInvokeGroupCheck target.hostname target.username password dstAddress port,
      script.Confined) ↔
      (Route.invoke password).AddressPlain dstAddress port ∧ (Route.invoke password).LoginPlain target := by
  have block : Shell.powershell.advance .single
      "' -Credential $cred     -Authentication CredSSP -ScriptBlock \x7b       ".toList = .plain := by
    rw [String.toList_ofList]
    decide
  unfold winrmInvokeGroupCheck Route.AddressPlain Route.LoginPlain
  simp only [List.mem_singleton, forall_eq, Script.Confined, List.cons_append, List.nil_append]
  rw [powershell_value (by rw [String.toList_ofList]; decide),
    powershell_value (by rw [String.toList_append, String.toList_ofList, String.toList_ofList]; decide),
    powershell_value (by rw [String.toList_ofList]; decide), fixed, Reader.confined_fixed, block, innerCheck_confined]
  tauto

theorem scripts_confined {route : Route} : (∀ script ∈ route.scripts target dstAddress port, script.Confined) ↔
    route.AddressPlain dstAddress port ∧ route.LoginPlain target := by
  cases route with
  | ssh => simpa [Route.scripts, Route.LoginPlain] using ssh_confined
  | winrm => simpa [Route.scripts, Route.LoginPlain] using winrm_confined
  | invoke password => exact invoke_confined

end Scripts

section Validation

variable {chars : List Char} {address : String} {char : Char}

theorem isSafeAddressChar_bare (safe : isSafeAddressChar char = true) : isBare char = true := by
  have safeOnly (others : List Char) (refused : ∀ other ∈ others, isSafeAddressChar other = false) :
      char ∉ others := fun member => absurd (safe.symm.trans (refused char member)) nofun
  have unquoted : char ∉ ['\\', '\'', '"', '`', '$'] := safeOnly _ (List.all_iff_forall_prop.mp (by decide))
  have inert : char ∉ [';', '&', '|', '<', '>', '(', ')', '\n'] := safeOnly _ (List.all_iff_forall_prop.mp (by decide))
  have visible : char ∉ [' ', '\t'] := safeOnly _ (List.all_iff_forall_prop.mp (by decide))
  have solid : isBlank char = false := by simpa [isBlank] using visible
  rw [isBare, isOperator, decide_eq_true unquoted, decide_eq_false inert, solid]
  rfl

theorem isSafeAddressChar_unquoted (safe : isSafeAddressChar char = true) : isSingleQuote char = false := by
  cases quoted : isSingleQuote char with
  | false => rfl
  | true =>
      have refused : ∀ other ∈ ['\'', '\u2018', '\u2019', '\u201A', '\u201B'],
          isSafeAddressChar other = false :=
        List.all_iff_forall_prop.mp (by decide)
      exact absurd (safe.symm.trans (refused char (of_decide_eq_true quoted))) nofun

theorem strip_getLast {text : String} : (strip text).toList.getLast? ≠ some '\n' := by
  rw [strip, String.toList_ofList]
  intro last
  obtain ⟨front, split⟩ := List.getLast?_eq_some_iff.mp last
  have nonempty : (text.toList.dropWhile isSpace).rdropWhile isSpace ≠ [] := by simp [split]
  have visible := List.rdropWhile_last_not isSpace _ nonempty
  simp only [split, List.getLast_concat] at visible
  exact visible rfl

theorem validated_safe (valid : validateAddress (strip address) = none) :
    ∀ char ∈ (strip address).toList, isSafeAddressChar char = true := by
  have taken : matchesSafeAddress (strip address).toList = true := by
    by_contra refused
    rw [validateAddress, if_neg refused] at valid
    cases valid
  rw [matchesSafeAddress, if_neg strip_getLast, Bool.and_eq_true, List.all_eq_true] at taken
  exact taken.2

theorem validated_plain {route : Route} {port : Int} (valid : validateAddress (strip address) = none) :
    route.AddressPlain (strip address) port := by
  have safe := validated_safe valid
  have bare : ∀ char ∈ (strip address).toList, isBare char = true :=
    fun char member => isSafeAddressChar_bare (safe char member)
  have unquoted : Unquoted (strip address) :=
    fun char member => isSafeAddressChar_unquoted (safe char member)
  cases route with
  | ssh =>
      change if port = 0 then _ else _
      split
      · exact quote_not_mem_of_bare bare
      · exact bare
  | winrm => exact unquoted
  | invoke password => exact unquoted

end Validation

theorem checks_plain {db : Database} {ports : Table NetworkPort} {tid : Int} {request : Request}
    {check : String × Int} {route : Route} (validates : request.validates = true)
    (member : check ∈ request.checks db ports tid) : route.AddressPlain check.1 check.2 := by
  cases request with
  | mapCreate form => cases validates
  | portChecker dstAddress port =>
      unfold Request.checks at member
      cases valid : validateAddress (strip dstAddress) with
      | some message =>
          simp only [valid] at member
          cases member
      | none =>
          simp only [valid] at member
          obtain rfl := List.mem_singleton.mp member
          exact validated_plain valid

/-- The checks of a request run nothing else exactly when the login is plain where
it is sent along, and the addresses are where nothing has validated them. -/
theorem runs_only_checks_iff {db : Database} {ports : Table NetworkPort} {tid : Int}
    {jumpHops : List HopCreds} {target : HopCreds} {request : Request} :
    request.RunsOnlyChecks db ports tid jumpHops target ↔
      ∀ check ∈ request.checks db ports tid, ∀ route, request.route jumpHops target = some route →
        (request.validates = true ∨ route.AddressPlain check.1 check.2) ∧ route.LoginPlain target := by
  refine forall₂_congr fun check member => forall₂_congr fun route _ => ?_
  rw [scripts_confined]
  refine and_congr_left fun _ => ⟨.inr, ?_⟩
  rintro (validates | plain)
  · exact checks_plain validates member
  · exact plain

/-! A line of the form that adds a command of its own. -/

def webTarget : HopCreds where
  hostId := 1
  name := "web"
  hostname := "10.0.0.2"
  port := 22
  protocol := .ssh
  username := "ops"
  password := some "hunter2"
  privateKey := none

def webInventory : Database where
  hosts := Table.empty.insert fun id => {
    id
    tenantId := 1
    name := "web"
    hostname := "10.0.0.2"
    port := 22
    protocol := .ssh
    description := none
    credentialId := none
    jumpHostId := none
    isJumpbox := false
    ftMethod := none
    ftPort := none
    ftCredentialId := none
    orgUnitId := none }

def sshPort : Table NetworkPort := Table.empty.insert fun id => { id, portNumber := 22, protocol := "tcp" }

def reboot : Request := .mapCreate {
  includeLocal := false
  sourceIds := [1]
  destHostIds := []
  adhocDestinations := "10.0.0.5'; reboot; '"
  portIds := [1] }

set_option maxRecDepth 4000 in
/-- The scan runs `reboot` on its source. -/
theorem adhoc_line_adds_command : ¬ reboot.RunsOnlyChecks webInventory sshPort 1 [] webTarget ∧
    (sshCheckOne "10.0.0.5'; reboot; '" 22).any fun script =>
      match script with
      | .shell pieces => (lex .plain none (render pieces)).any fun tokens =>
          [.mark (.operator ';'), .word "reboot".toList, .mark (.operator ';')].isSublist tokens
      | .powershell _ => false := by
  refine ⟨fun runs => ?_, ?_⟩
  rotate_left
  · rw [sshCheckOne, if_neg (by decide), List.any_cons]
    simp only [bashCommand, fixed, value, clock, elapsed, render, Piece.text, List.flatMap_cons, List.cons_append,
      List.nil_append, List.flatMap_nil, String.toList_append]
    -- the lexer reads the characters of the literals
    iterate 9 rw [String.toList_ofList]
    decide
  have confined := scripts_confined.mp
    (runs ("10.0.0.5'; reboot; '", 22) (by decide) .ssh (by decide))
  have bare : ∀ char ∈ "10.0.0.5'; reboot; '".toList, isBare char = true := confined.1
  exact absurd (bare '\'' (by decide)) (by decide)

end Dosm.Network
