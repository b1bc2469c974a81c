import Dosm.Jumps.Tunnels
import Dosm.Network.Outcomes

namespace Dosm.Jumps.OpenConnections

open Models Python Network

/-! The SSH connections that one call opens, hop by hop, and those it closes.

A chain is opened outermost hop first, each hop through the one before, and a builder
hands on its last connection only. Closing a connection closes that one. How the
attempts to connect end, what a command answers and whether a listener opens are given
from outside; an attempt that times out opens nothing.
-/

structure Dialed where
  hop : HopCreds
  tunnel : Option Nat

/-- The connections of a call are numbered in the order they are opened in. -/
structure Ledger where
  opened : List Dialed := []
  closed : List Nat := []

namespace Ledger

def add (ledger : Ledger) (hop : HopCreds) (tunnel : Option Nat) : Ledger :=
  { ledger with opened := ledger.opened ++ [⟨hop, tunnel⟩] }

def close (ledger : Ledger) (number : Nat) : Ledger := { ledger with closed := number :: ledger.closed }

def Settled (ledger : Ledger) : Prop := ∀ number < ledger.opened.length, number ∈ ledger.closed

end Ledger

/-- How the attempt that would open the connection of a number ends. -/
abbrev Dial := Nat → Except Exc Unit

section Builders

variable {Failure : Type}

/-- The loop over the hops: the last connection and its hop. -/
def openHops (refuse : Option HopCreds → HopCreds → Option Failure)
    (explain : Option HopCreds → HopCreds → Exc → Failure) (dial : Dial) :
    Ledger → Option Nat → Option HopCreds → List HopCreds →
      Ledger × Except Failure (Option Nat × Option HopCreds)
  | ledger, prev, prevHop, [] => (ledger, .ok (prev, prevHop))
  | ledger, prev, prevHop, hop :: rest =>
      match refuse prevHop hop with
      | some failure => (ledger, .error failure)
      | none =>
          match dial ledger.opened.length with
          | .error exc => (ledger, .error (explain prevHop hop exc))
          | .ok () => openHops refuse explain dial (ledger.add hop prev) (some ledger.opened.length) (some hop) rest

def openTarget (explain : Option HopCreds → Exc → Failure) (dial : Dial) (target : HopCreds) :
    Ledger × Except Failure (Option Nat × Option HopCreds) → Ledger × Except Failure Nat
  | (ledger, .error failure) => (ledger, .error failure)
  | (ledger, .ok (prev, prevHop)) =>
      match dial ledger.opened.length with
      | .error exc => (ledger, .error (explain prevHop exc))
      | .ok () => (ledger.add target prev, .ok ledger.opened.length)

end Builders

structure HopConnectError where
  message : String
  phase : String

def windowsRefusal (prev : Option HopCreds) (hop : HopCreds) : Option HopConnectError :=
  if hop.protocol = .rdp then some ⟨windowsHop prev hop, "windows_jump_no_ssh"⟩ else none

def trackedHop (prev : Option HopCreds) (hop : HopCreds) (exc : Exc) : HopConnectError :=
  ⟨hopFailure prev hop "next hop" exc, if prev.isNone then "jump_box" else "jump_to_jump"⟩

def trackedTarget (target : HopCreds) (prev : Option HopCreds) (exc : Exc) : HopConnectError :=
  ⟨hopFailure prev target "target" exc, if prev.isNone then "direct" else "jump_to_target"⟩

def connectTracked (dial : Dial) (jumpHops : List HopCreds) (target : HopCreds) :
    Ledger × Except HopConnectError Nat :=
  openTarget (trackedTarget target) dial target (openHops windowsRefusal trackedHop dial {} none none jumpHops)

def connectThroughChain (dial : Dial) (jumpHops : List HopCreds) (target : HopCreds) : Ledger × Except Exc Nat :=
  openTarget (fun _ exc => exc) dial target
    (openHops (fun _ _ => none) (fun _ _ exc => exc) dial {} none none jumpHops)

inductive AcquireError where
  | jumpAuth (message : String)
  | jumpUnreachable (message : String)
  | listener (exc : Exc)

def jumpFailure (hop : HopCreds) (exc : Exc) : AcquireError :=
  if exc.name = "PermissionDenied" then
    .jumpAuth ("authentication failed at jump host " ++ Python.repr hop.name ++ " (user " ++
      Python.repr hop.username ++ ") - check the credential profile")
  else
    .jumpUnreachable ("cannot connect to jump host " ++ Python.repr hop.name ++ " (" ++ hop.hostname ++ ":" ++
      toString hop.port ++ "): " ++ exc.text)

def openChain (dial : Dial) (jumpHops : List HopCreds) :
    Ledger × Except AcquireError (Option Nat × Option HopCreds) :=
  openHops (fun _ _ => none) (fun _ hop exc => jumpFailure hop exc) dial {} none none jumpHops

/-! The calls. -/

/-- The checks in turn, until the callback raises. -/
def runChecks (reply : Nat → SshReply) (onResult : Nat → Option Exc) :
    Nat → List (String × Int) → Except Exc (List Outcome)
  | _, [] => .ok []
  | index, (dstAddress, port) :: rest =>
      match onResult index with
      | some exc => .error exc
      | none =>
          (runChecks reply onResult (index + 1) rest).map (sshOutcome dstAddress port (reply index) :: ·)

def sshGroupCheck (dial : Dial) (jumpHops : List HopCreds) (target : HopCreds) (checks : List (String × Int))
    (reply : Nat → SshReply) (onResult : Nat → Option Exc) : Ledger × List Outcome :=
  match connectTracked dial jumpHops target with
  | (ledger, .error failure) => (ledger, List.replicate checks.length (.failed failure.message))
  | (ledger, .ok conn) =>
      (ledger.close conn,
        match runChecks reply onResult 0 checks with
        | .ok outcomes => outcomes
        | .error exc => List.replicate checks.length (.failed (classifySshError exc target.hostname)))

/-- `_ssh_exec_runner`, once its host is found. The chain builders are imported nowhere in its module, so naming the
first of them raises before anything is opened. -/
def sshExec (host : Host) (command : String) : Ledger × Except Exc (Bool × String) :=
  if strip command = "" then ({}, .ok (false, "empty command"))
  else if host.protocol ≠ .ssh then
    ({}, .ok (false, "host " ++ Python.repr host.name ++ " protocol is " ++ host.protocol.name ++ ", not ssh"))
  else ({}, .error { name := "NameError", text := "name 'build_jump_chain' is not defined" })

structure Acquired where
  ledger : Ledger
  pool : Tunnels.Pool
  /-- Where the lease is bound; nothing for a host without hops. -/
  result : Except AcquireError (Option (String × Nat))

/-- The part of an acquire that has its connection. -/
def reach (listen : Except Exc Nat) (now : Int) (ledger : Ledger) (pool : Tunnels.Pool) (sig : Tunnels.ChainSig)
    (entry : Tunnels.JumpEntry) (bindHost : String) (target : Tunnels.Target) : Acquired :=
  if entry.bound target then
    ⟨ledger, pool.insert sig (entry.lease now target), .ok (some (entry.endpoint target))⟩
  else
    match listen with
    | .error exc => ⟨ledger, pool, .error (.listener exc)⟩
    | .ok bindPort =>
        let entry := entry.listen bindHost bindPort target
        ⟨ledger, pool.insert sig (entry.lease now target), .ok (some (entry.endpoint target))⟩

/-- `JumpTunnelManager.acquire`, once the chain is resolved. -/
def acquire (dial : Dial) (listen : Except Exc Nat) (now : Int) (pool : Tunnels.Pool) (jumpHops : List HopCreds)
    (bindHost : String) (target : Tunnels.Target) : Acquired :=
  if jumpHops = [] then ⟨{}, pool, .ok none⟩
  else
    let sig := Tunnels.chainSignature jumpHops
    match pool.lookup sig with
    | some entry => reach listen now {} pool sig entry bindHost target
    | none =>
        match openChain dial jumpHops with
        | (ledger, .error failure) => ⟨ledger, pool, .error failure⟩
        | (ledger, .ok (conn, _)) =>
            let entry : Tunnels.JumpEntry := { conn := ⟨conn.getD 0, jumpHops⟩, lastActive := now }
            reach listen now ledger (pool.insert sig entry) sig entry bindHost target

/-! What stays open. A builder closes nothing, so all that a call can close is the
connection it was handed, and behind any hop that one is not the first. -/

section Opened

variable {Failure : Type} {refuse : Option HopCreds → HopCreds → Option Failure}
  {explain : Option HopCreds → HopCreds → Exc → Failure} {dial : Dial}

theorem openHops_closed (jumpHops : List HopCreds) : ∀ (ledger : Ledger) (prev : Option Nat)
    (prevHop : Option HopCreds),
    (openHops refuse explain dial ledger prev prevHop jumpHops).1.closed = ledger.closed := by
  induction jumpHops with
  | nil => exact fun _ _ _ => rfl
  | cons hop rest inductive_step =>
      intro ledger prev prevHop
      unfold openHops
      cases refuse prevHop hop with
      | some failure => rfl
      | none =>
          cases dial ledger.opened.length with
          | error exc => rfl
          | ok => exact inductive_step ..

theorem openHops_opened (jumpHops : List HopCreds) : ∀ (ledger : Ledger) (prev : Option Nat)
    (prevHop : Option HopCreds),
    ledger.opened.length ≤ (openHops refuse explain dial ledger prev prevHop jumpHops).1.opened.length := by
  induction jumpHops with
  | nil => exact fun _ _ _ => le_refl _
  | cons hop rest inductive_step =>
      intro ledger prev prevHop
      unfold openHops
      cases refuse prevHop hop with
      | some failure => exact le_refl _
      | none =>
          cases dial ledger.opened.length with
          | error exc => exact le_refl _
          | ok =>
              have grown := inductive_step (ledger.add hop prev) (some ledger.opened.length) (some hop)
              simp only [Ledger.add, List.length_append, List.length_singleton] at grown ⊢
              omega

theorem openHops_reaches (accepts : ∀ prevHop hop, refuse prevHop hop = none) (jumpHops : List HopCreds) :
    ∀ (ledger : Ledger) (prev : Option Nat) (prevHop : Option HopCreds),
    ((openHops refuse explain dial ledger prev prevHop jumpHops).2.toBool = true ↔
      ∀ number < jumpHops.length, dial (ledger.opened.length + number) = .ok ()) := by
  induction jumpHops with
  | nil => simp [openHops, Except.toBool]
  | cons hop rest inductive_step =>
      intro ledger prev prevHop
      unfold openHops
      rw [accepts prevHop hop]
      cases dialed : dial ledger.opened.length with
      | error exc =>
          constructor
          · intro reached
            exact absurd reached (by simp [Except.toBool])
          · intro every
            have first := every 0 (by simp)
            rw [Nat.add_zero, dialed] at first
            cases first
      | ok =>
          refine (inductive_step ..).trans ⟨?_, ?_⟩
          · intro every number below
            cases number with
            | zero => exact dialed
            | succ number =>
                have next := every number (by simpa using below)
                simpa [Ledger.add, Nat.add_assoc, Nat.add_comm 1] using next
          · intro every number below
            have next := every (number + 1) (by simpa using below)
            simpa [Ledger.add, Nat.add_assoc, Nat.add_comm 1] using next

theorem openHops_first {hop : HopCreds} {rest : List HopCreds} (accepted : refuse none hop = none)
    (dialed : dial 0 = .ok ()) :
    0 < (openHops refuse explain dial {} none none (hop :: rest)).1.opened.length := by
  unfold openHops
  simp only [accepted, List.length_nil, dialed]
  exact Nat.lt_of_lt_of_le Nat.zero_lt_one (openHops_opened rest (Ledger.add {} hop none) (some 0) (some hop))

theorem openHops_refused {hop : HopCreds} {rest : List HopCreds} {failure : Failure}
    (refused : refuse none hop = some failure) :
    openHops refuse explain dial {} none none (hop :: rest) = ({}, .error failure) := by
  unfold openHops
  rw [refused]

theorem openHops_unreached {hop : HopCreds} {rest : List HopCreds} {exc : Exc} (accepted : refuse none hop = none)
    (failed : dial 0 = .error exc) :
    openHops refuse explain dial {} none none (hop :: rest) = ({}, .error (explain none hop exc)) := by
  unfold openHops
  simp only [accepted, List.length_nil, failed]

end Opened

section Handed

variable {Failure : Type} {explain : Option HopCreds → Exc → Failure} {dial : Dial} {target : HopCreds}
  {built : Ledger × Except Failure (Option Nat × Option HopCreds)}

def afterwards : Ledger × Except Failure Nat → Ledger
  | (ledger, .error _) => ledger
  | (ledger, .ok conn) => ledger.close conn

theorem openTarget_settled (nothing : built.1 = {}) : (afterwards (openTarget explain dial target built)).Settled := by
  obtain ⟨ledger, outcome⟩ := built
  obtain rfl : ledger = {} := nothing
  have settled : Ledger.Settled {} := fun number below => absurd below (by simp)
  cases outcome with
  | error failure => exact settled
  | ok last =>
      cases dialed : dial 0 with
      | error exc =>
          simp only [openTarget, List.length_nil, dialed]
          exact settled
      | ok =>
          simp only [openTarget, List.length_nil, dialed]
          intro number below
          have zero : number = 0 := by simpa [afterwards, Ledger.add, Ledger.close] using below
          simp [afterwards, Ledger.close, zero]

theorem openTarget_not_settled (unclosed : built.1.closed = []) (some_hop : 0 < built.1.opened.length) :
    ¬ (afterwards (openTarget explain dial target built)).Settled := by
  obtain ⟨ledger, outcome⟩ := built
  have left : ∀ after : Ledger, 0 < after.opened.length → 0 ∉ after.closed → ¬ after.Settled :=
    fun after opened unlisted settled => unlisted (settled 0 opened)
  replace unclosed : ledger.closed = [] := unclosed
  replace some_hop : 0 < ledger.opened.length := some_hop
  cases outcome with
  | error failure => exact left ledger some_hop (by simp [unclosed])
  | ok last =>
      cases dialed : dial ledger.opened.length with
      | error exc =>
          simp only [openTarget, dialed]
          exact left ledger some_hop (by simp [unclosed])
      | ok =>
          simp only [openTarget, dialed]
          -- the connection handed on is the one opened after the hops
          apply left
          · simp [afterwards, Ledger.close, Ledger.add]
          · simp only [afterwards, Ledger.close, Ledger.add, unclosed, List.mem_singleton]
            omega

end Handed

/-- No hop is opened: there is none, the first is refused, or it is out of reach. -/
def NoHopOpens (refused : HopCreds → Prop) (dial : Dial) (jumpHops : List HopCreds) : Prop :=
  ∀ hop ∈ jumpHops.head?, refused hop ∨ ∃ exc, dial 0 = .error exc

section Calls

variable {Failure : Type} {refuse : Option HopCreds → HopCreds → Option Failure}
  {explain : Option HopCreds → HopCreds → Exc → Failure} {dial : Dial} {jumpHops : List HopCreds}

theorem openHops_empty_iff : (openHops refuse explain dial {} none none jumpHops).1.opened = [] ↔
    NoHopOpens (fun hop => refuse none hop ≠ none) dial jumpHops := by
  cases jumpHops with
  | nil => simp [openHops, NoHopOpens]
  | cons hop rest =>
      simp only [NoHopOpens, List.head?_cons, Option.mem_some_iff, forall_eq']
      cases refused : refuse none hop with
      | some failure => simp [openHops_refused refused]
      | none =>
          cases dialed : dial 0 with
          | error exc => simp [openHops_unreached refused dialed]
          | ok =>
              have opened : 0 < (openHops refuse explain dial {} none none (hop :: rest)).1.opened.length :=
                openHops_first refused dialed
              simp [List.ne_nil_of_length_pos opened]

theorem openHops_nothing (empty : (openHops refuse explain dial {} none none jumpHops).1.opened = []) :
    (openHops refuse explain dial {} none none jumpHops).1 = {} := by
  have closed : (openHops refuse explain dial {} none none jumpHops).1.closed = [] :=
    openHops_closed jumpHops {} none none
  generalize (openHops refuse explain dial {} none none jumpHops).1 = ledger at empty closed ⊢
  cases ledger
  simp_all

theorem chain_settled_iff {explainTarget : Option HopCreds → Exc → Failure} {target : HopCreds} :
    (afterwards (openTarget explainTarget dial target
        (openHops refuse explain dial {} none none jumpHops))).Settled ↔
      NoHopOpens (fun hop => refuse none hop ≠ none) dial jumpHops := by
  have empty : (openHops refuse explain dial {} none none jumpHops).1.opened = [] ↔
      NoHopOpens (fun hop => refuse none hop ≠ none) dial jumpHops := openHops_empty_iff
  rw [← empty]
  constructor
  · intro settled
    by_contra opened
    exact openTarget_not_settled (openHops_closed jumpHops {} none none) (List.length_pos_iff.mpr opened) settled
  · intro empty
    exact openTarget_settled (openHops_nothing empty)

end Calls

theorem sshGroupCheck_ledger (dial : Dial) (jumpHops : List HopCreds) (target : HopCreds)
    (checks : List (String × Int)) (reply : Nat → SshReply) (onResult : Nat → Option Exc) :
    (sshGroupCheck dial jumpHops target checks reply onResult).1 =
      afterwards (connectTracked dial jumpHops target) := by
  unfold sshGroupCheck
  rcases connectTracked dial jumpHops target with ⟨ledger, failure | conn⟩ <;> rfl

theorem windowsRefusal_ne_none (hop : HopCreds) : windowsRefusal none hop ≠ none ↔ hop.protocol = .rdp := by
  unfold windowsRefusal
  by_cases windows : hop.protocol = .rdp <;> simp [windows]

inductive Call where
  | sshGroupCheck (jumpHops : List HopCreds) (target : HopCreds) (checks : List (String × Int))
      (reply : Nat → SshReply) (onResult : Nat → Option Exc)
  | sshExec (host : Host) (command : String)
  | acquire (listen : Except Exc Nat) (now : Int) (pool : Tunnels.Pool) (jumpHops : List HopCreds)
      (bindHost : String) (target : Tunnels.Target)

namespace Call

/-- No connection is left behind; an acquire that gets its lease may keep what it opened. -/
def LeavesNothing (dial : Dial) : Call → Prop
  | .sshGroupCheck jumpHops target checks reply onResult =>
      (OpenConnections.sshGroupCheck dial jumpHops target checks reply onResult).1.Settled
  | .sshExec host command => (OpenConnections.sshExec host command).1.Settled
  | .acquire listen now pool jumpHops bindHost target =>
      let acquired := OpenConnections.acquire dial listen now pool jumpHops bindHost target
      acquired.result.toBool = false → acquired.ledger.Settled

/-- The call opens no jump host, as an `ssh_exec` never does; or it is an acquire whose
chain is pooled, or for which every hop and the listener open. -/
def Careful (dial : Dial) : Call → Prop
  | .sshGroupCheck jumpHops _ _ _ _ => NoHopOpens (fun hop => hop.protocol = .rdp) dial jumpHops
  | .sshExec _ _ => True
  | .acquire listen _ pool jumpHops _ _ =>
      (pool.lookup (Tunnels.chainSignature jumpHops)).isSome ∨ NoHopOpens (fun _ => False) dial jumpHops ∨
        ((∀ number < jumpHops.length, dial number = .ok ()) ∧ listen.toBool = true)

end Call

theorem sshExec_ledger (host : Host) (command : String) : (sshExec host command).1 = {} := by
  unfold sshExec
  split
  · rfl
  split <;> rfl

theorem reach_ledger (listen : Except Exc Nat) (now : Int) (ledger : Ledger) (pool : Tunnels.Pool)
    (sig : Tunnels.ChainSig) (entry : Tunnels.JumpEntry) (bindHost : String) (target : Tunnels.Target) :
    (reach listen now ledger pool sig entry bindHost target).ledger = ledger := by
  unfold reach
  split
  · rfl
  · cases listen <;> rfl

theorem reach_result {entry : Tunnels.JumpEntry} {target : Tunnels.Target} (unbound : entry.bound target = false)
    (listen : Except Exc Nat) (now : Int) (ledger : Ledger) (pool : Tunnels.Pool) (sig : Tunnels.ChainSig)
    (bindHost : String) :
    (reach listen now ledger pool sig entry bindHost target).result.toBool = listen.toBool := by
  unfold reach
  rw [unbound]
  cases listen <;> rfl

theorem fresh_unbound (conn : Tunnels.Connection) (now : Int) (target : Tunnels.Target) :
    ({ conn := conn, lastActive := now } : Tunnels.JumpEntry).bound target = false := by
  cases target <;> rfl

theorem settled_iff_empty {ledger : Ledger} (unclosed : ledger.closed = []) :
    ledger.Settled ↔ ledger.opened = [] := by
  constructor
  · intro settled
    by_contra opened
    simpa [unclosed] using settled 0 (List.length_pos_iff.mpr opened)
  · intro empty number below
    simp [empty] at below

theorem acquire_settled_iff (dial : Dial) (listen : Except Exc Nat) (now : Int) (pool : Tunnels.Pool)
    (jumpHops : List HopCreds) (bindHost : String) (target : Tunnels.Target) :
    (Call.acquire listen now pool jumpHops bindHost target).LeavesNothing dial ↔
      (Call.acquire listen now pool jumpHops bindHost target).Careful dial := by
  have settled : Ledger.Settled {} := fun number below => absurd below (by simp)
  simp only [Call.LeavesNothing, Call.Careful, acquire]
  by_cases direct : jumpHops = []
  · simp [direct, NoHopOpens, Except.toBool]
  rw [if_neg direct]
  cases pooled : pool.lookup (Tunnels.chainSignature jumpHops) with
  | some entry => simp [reach_ledger, settled]
  | none =>
      have unclosed : (openChain dial jumpHops).1.closed = [] := openHops_closed jumpHops {} none none
      have reaches : (openChain dial jumpHops).2.toBool = true ↔ ∀ number < jumpHops.length, dial number = .ok () := by
        unfold openChain
        simpa using @openHops_reaches AcquireError _ _ dial (fun _ _ => rfl) jumpHops {} none none
      have empty : (openChain dial jumpHops).1.opened = [] ↔ NoHopOpens (fun _ => False) dial jumpHops := by
        have opens : (openChain dial jumpHops).1.opened = [] ↔
            NoHopOpens (fun _ => (none : Option AcquireError) ≠ none) dial jumpHops := openHops_empty_iff
        simpa using opens
      rw [← reaches, ← empty]
      generalize openChain dial jumpHops = built at unclosed ⊢
      obtain ⟨ledger, failure | ⟨conn, last⟩⟩ := built
      · simpa [Except.toBool] using settled_iff_empty unclosed
      · simp only [reach_ledger, reach_result (fresh_unbound ..), settled_iff_empty unclosed]
        cases listen <;> simp [Except.toBool]

/-- A call leaves no connection open just when it opens no jump host, or is an acquire
that finds its chain in the pool or gets its lease. -/
theorem leavesNothing_iff (dial : Dial) (call : Call) : call.LeavesNothing dial ↔ call.Careful dial := by
  cases call with
  | sshGroupCheck jumpHops target checks reply onResult =>
      simp only [Call.LeavesNothing, Call.Careful, sshGroupCheck_ledger, connectTracked]
      refine chain_settled_iff.trans ?_
      simp only [NoHopOpens, windowsRefusal_ne_none]
  | sshExec host command =>
      refine iff_of_true ?_ trivial
      rw [Call.LeavesNothing, sshExec_ledger]
      exact fun number below => absurd below (by simp)
  | acquire listen now pool jumpHops bindHost target =>
      exact acquire_settled_iff dial listen now pool jumpHops bindHost target

def bastion : HopCreds := ⟨1, "bastion", "192.0.2.1", 22, .ssh, "ops", some "pw", none⟩

def database : HopCreds := ⟨2, "database", "10.0.0.5", 22, .ssh, "ops", some "pw", none⟩

/-- The jump host's connection outlives a check on the host behind it that succeeds. -/
theorem bastion_left_open :
    ¬ (Call.sshGroupCheck [bastion] database [("10.0.0.9", 443)] (fun _ => .output "OK" 12)
        (fun _ => none)).LeavesNothing (fun _ => .ok ()) ∧
      (sshGroupCheck (fun _ => .ok ()) [bastion] database [("10.0.0.9", 443)] (fun _ => .output "OK" 12)
        (fun _ => none)).1.opened.map Dialed.hop = [bastion, database] ∧
      (sshGroupCheck (fun _ => .ok ()) [bastion] database [("10.0.0.9", 443)] (fun _ => .output "OK" 12)
        (fun _ => none)).1.closed = [1] := by
  have opened : (sshGroupCheck (fun _ => .ok ()) [bastion] database [("10.0.0.9", 443)] (fun _ => .output "OK" 12)
      (fun _ => none)).1.opened.map Dialed.hop = [bastion, database] := by decide
  have closed : (sshGroupCheck (fun _ => .ok ()) [bastion] database [("10.0.0.9", 443)] (fun _ => .output "OK" 12)
      (fun _ => none)).1.closed = [1] := by decide
  refine ⟨fun settled => ?_, opened, closed⟩
  have first := settled 0 (by rw [← List.length_map Dialed.hop, opened]; decide)
  rw [closed] at first
  exact absurd first (by decide)

end Dosm.Jumps.OpenConnections
