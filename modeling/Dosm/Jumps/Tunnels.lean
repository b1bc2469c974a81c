import Dosm.Jumps.Connections

namespace Dosm.Jumps.Tunnels

open Models Transition

/-! The pool of jump connections and the listeners leased on them.

Every operation is cut at its awaits. What is left of one is either waiting for
the lock, or asleep until a session expires, or holds the lock while it opens
something: opening a connection or a listener is the only thing awaited with the
lock held. Each label carries the clock and the answer of the network where the
segment reads them. Times are in microseconds.
-/

abbrev ChainSig := List Int

def chainSignature (jumpHops : List HopCreds) : ChainSig := jumpHops.map HopCreds.hostId

/-- What a listener leads to: one address behind the chain, or any of them. -/
inductive Target where
  | forward (host : String) (port : Int)
  | socks
  deriving DecidableEq

/-- A listener's place: the chain it is on and what it leads to. -/
structure Slot where
  sig : ChainSig
  target : Target
  deriving DecidableEq

/-- An open chain of SSH connections, with the hops it was opened with. -/
structure Connection where
  id : Nat
  hops : List HopCreds
  deriving DecidableEq

/-- The target of a forward is its key. -/
structure ForwardEntry where
  bindHost : String
  bindPort : Nat
  leaseCount : Int := 0
  deriving DecidableEq

structure JumpEntry where
  conn : Connection
  forwards : AList fun _ : String × Int => ForwardEntry := ∅
  lastActive : Int
  socksListener : Bool := false
  socksBindHost : String := ""
  socksBindPort : Nat := 0
  socksLeaseCount : Int := 0

/-- A `TunnelLease` or a `SocksLease`, by its target. `returns` counts the times
the manager took it back; `conn` and `hops` record the connection behind it and
the chain that was resolved for its call. -/
structure Lease where
  bindHost : String
  bindPort : Nat
  slot : Slot
  released : Bool := false
  returns : Nat := 0
  conn : Connection
  hops : List HopCreds
  deriving DecidableEq

/-- An `acquire` or `acquire_socks` with its chain resolved. -/
structure Call where
  hops : List HopCreds
  target : Target
  bindHost : String
  deriving DecidableEq

/-- What an operation has yet to do once it gets the lock. -/
inductive Task where
  | acquiring (call : Call)
  | releasing (lease : Nat)
  | registering (sid : String) (lease : Nat)
  | unregistering (sid : String)
  | collecting (now : Int)
  deriving DecidableEq

/-- What the holder of the lock awaits. -/
inductive Opening where
  | chain (call : Call)
  | listener (call : Call)
  deriving DecidableEq

abbrev Pool := AList fun _ : ChainSig => JumpEntry

/-- `asleep` are the sessions whose expiry is pending. `listening`, `opened` and
`closed` record the network's side: the listeners that are open, how many
connections were opened and which of them were closed. -/
structure State where
  jumps : Pool := ∅
  sessions : AList fun _ : String => Nat := ∅
  leases : List Lease := []
  waiting : List Task := []
  asleep : List String := []
  lock : Option Opening := none
  listening : List Slot := []
  opened : Nat := 0
  closed : List Nat := []

namespace JumpEntry

def bound (entry : JumpEntry) : Target → Bool
  | .forward host port => (entry.forwards.lookup (host, port)).isSome
  | .socks => entry.socksListener

def leaseCount (entry : JumpEntry) : Target → Int
  | .forward host port =>
      match entry.forwards.lookup (host, port) with
      | none => 0
      | some forward => forward.leaseCount
  | .socks => entry.socksLeaseCount

def endpoint (entry : JumpEntry) : Target → String × Nat
  | .forward host port =>
      match entry.forwards.lookup (host, port) with
      | none => ("", 0)
      | some forward => (forward.bindHost, forward.bindPort)
  | .socks => (entry.socksBindHost, entry.socksBindPort)

def listen (entry : JumpEntry) (bindHost : String) (bindPort : Nat) : Target → JumpEntry
  | .forward host port =>
      { entry with forwards := entry.forwards.insert (host, port) { bindHost, bindPort } }
  | .socks =>
      { entry with socksListener := true, socksBindHost := bindHost, socksBindPort := bindPort }

def lease (entry : JumpEntry) (now : Int) : Target → JumpEntry
  | .forward host port =>
      match entry.forwards.lookup (host, port) with
      | none => entry
      | some forward =>
          { entry with
            forwards := entry.forwards.insert (host, port)
              { forward with leaseCount := forward.leaseCount + 1 }
            lastActive := now }
  | .socks => { entry with socksLeaseCount := entry.socksLeaseCount + 1, lastActive := now }

/-- The body of `_release` and of `_release_socks`. -/
def unlease (entry : JumpEntry) (now : Int) : Target → JumpEntry
  | .forward host port =>
      match entry.forwards.lookup (host, port) with
      | none => entry
      | some forward =>
          if forward.leaseCount - 1 ≤ 0 then
            { entry with forwards := entry.forwards.erase (host, port), lastActive := now }
          else
            { entry with
              forwards := entry.forwards.insert (host, port)
                { forward with leaseCount := forward.leaseCount - 1 }
              lastActive := now }
  | .socks =>
      if entry.socksLeaseCount - 1 ≤ 0 then
        { entry with
          socksLeaseCount := 0
          socksListener := false
          socksBindPort := if entry.socksListener then 0 else entry.socksBindPort
          lastActive := now }
      else { entry with socksLeaseCount := entry.socksLeaseCount - 1, lastActive := now }

/-- Giving a lease back closes the listener. A close that raises closes it too. -/
def closes (entry : JumpEntry) (target : Target) : Bool :=
  entry.bound target && entry.leaseCount target - 1 ≤ 0

def unused (entry : JumpEntry) : Bool := entry.forwards.keys.isEmpty && !entry.socksListener

end JumpEntry

/-- The end of an acquire: one more lease on a listener that is there. -/
def grant (state : State) (call : Call) (entry : JumpEntry) (now : Int) : State :=
  let sig := chainSignature call.hops
  let (bindHost, bindPort) := entry.endpoint call.target
  { state with
    jumps := state.jumps.insert sig (entry.lease now call.target)
    leases := state.leases ++
      [{ bindHost, bindPort, slot := ⟨sig, call.target⟩, conn := entry.conn, hops := call.hops }] }

/-- An acquire that has its connection leases the listener or opens one. -/
def reachTarget (state : State) (call : Call) (entry : JumpEntry) (now : Int) : State :=
  if entry.bound call.target then grant state call entry now
  else { state with lock := some (.listener call) }

def enterAcquire (state : State) (call : Call) (now : Int) : State :=
  match state.jumps.lookup (chainSignature call.hops) with
  | none => { state with lock := some (.chain call) }
  | some entry => reachTarget state call entry now

def chainOpened (state : State) (call : Call) (now : Int) : State :=
  let sig := chainSignature call.hops
  let entry : JumpEntry := { conn := { id := state.opened, hops := call.hops }, lastActive := now }
  reachTarget { state with jumps := state.jumps.insert sig entry, opened := state.opened + 1 }
    call entry now

/-- The entry is still the one the call found: nothing else moved in between. -/
def listenerOpened (state : State) (call : Call) (bindPort : Nat) (now : Int) : State :=
  let sig := chainSignature call.hops
  match state.jumps.lookup sig with
  | none => state
  | some entry =>
      grant { state with listening := ⟨sig, call.target⟩ :: state.listening } call
        (entry.listen call.bindHost bindPort call.target) now

/-- The awaited call answers, with a bound port if it does not raise. -/
def resume (state : State) (opening : Opening) (answer : Option Nat) (now : Int) : State :=
  let unlocked := { state with lock := none }
  match answer, opening with
  | none, _ => unlocked
  | some _, .chain call => chainOpened unlocked call now
  | some bindPort, .listener call => listenerOpened unlocked call bindPort now

/-- `release` of a lease, up to the lock. -/
def release (state : State) (index : Nat) (lease : Lease) : State :=
  if lease.released then state
  else
    { state with
      leases := state.leases.set index { lease with released := true }
      waiting := state.waiting ++ [.releasing index] }

/-- The rest of it, in `_release` or `_release_socks`. -/
def giveBack (state : State) (index : Nat) (lease : Lease) (now : Int) : State :=
  let returned :=
    { state with leases := state.leases.set index { lease with returns := lease.returns + 1 } }
  match state.jumps.lookup lease.slot.sig with
  | none => returned
  | some entry =>
      { returned with
        jumps := state.jumps.insert lease.slot.sig (entry.unlease now lease.slot.target)
        listening :=
          if entry.closes lease.slot.target then state.listening.erase lease.slot
          else state.listening }

def enterReleaseSession (state : State) (sid : String) : State :=
  match state.sessions.lookup sid with
  | none => state
  | some index =>
      let popped := { state with sessions := state.sessions.erase sid }
      match state.leases[index]? with
      | none => popped
      | some lease => release popped index lease

def idleCloseAfter : Int := 300 * 1000000

/-- Closing a connection closes what listens on it. -/
def reap (now : Int) (state : State) (sig : ChainSig) : State :=
  match state.jumps.lookup sig with
  | none => state
  | some entry =>
      if !entry.unused then state
      else if now - entry.lastActive < idleCloseAfter then state
      else
        { state with
          jumps := state.jumps.erase sig
          closed := entry.conn.id :: state.closed
          listening := state.listening.filter fun slot => slot.sig ≠ sig }

def gc (state : State) (now : Int) : State := state.jumps.keys.foldl (reap now) state

def enter (state : State) (task : Task) (now : Int) : State :=
  match task with
  | .acquiring call => enterAcquire state call now
  | .releasing index =>
      match state.leases[index]? with
      | none => state
      | some lease => giveBack state index lease now
  | .registering sid index =>
      { state with sessions := state.sessions.insert sid index, asleep := state.asleep ++ [sid] }
  | .unregistering sid => enterReleaseSession state sid
  | .collecting started => gc state started

/-- A call whose chain does not resolve raises, and one without hops has nothing
to lease. -/
def begin (state : State) (chain : Except JumpError (List HopCreds × HopCreds))
    (target : HopCreds → Target) (bindHost : String) : State :=
  match chain with
  | .error _ => state
  | .ok (hops, host) =>
      if hops = [] then state
      else { state with waiting := state.waiting ++ [.acquiring { hops, target := target host, bindHost }] }

section Operations

variable (decode : String → Option (String × String))

def acquire (state : State) (world : World) (host : Host) (bindHost : String)
    (targetPort : Option Int) : State :=
  begin state (buildJumpChain decode world host)
    (fun target => .forward target.hostname (targetPort.getD target.port)) bindHost

def acquireSocks (state : State) (world : World) (host : Host) (bindHost : String) : State :=
  begin state (buildJumpChain decode world host) (fun _ => .socks) bindHost

inductive Label where
  | acquire (world : World) (host : Host) (bindHost : String) (targetPort : Option Int)
  | acquireSocks (world : World) (host : Host) (bindHost : String)
  | release (lease : Nat)
  | registerSession (sid : String) (lease : Nat)
  | releaseSession (sid : String)
  | expire (sid : String)
  | gc (now : Int)
  | enter (task : Task) (now : Int)
  | answer (bindPort : Option Nat) (now : Int)

def step (state : State) : Label → Option State
  | .acquire world host bindHost targetPort => some (acquire decode state world host bindHost targetPort)
  | .acquireSocks world host bindHost => some (acquireSocks decode state world host bindHost)
  | .release index => (state.leases[index]?).map (release state index)
  | .registerSession sid index =>
      (state.leases[index]?).map fun _ =>
        { state with waiting := state.waiting ++ [.registering sid index] }
  | .releaseSession sid => some { state with waiting := state.waiting ++ [.unregistering sid] }
  | .expire sid =>
      if sid ∉ state.asleep then none
      else
        some { state with
          asleep := state.asleep.erase sid
          waiting := state.waiting ++ [.unregistering sid] }
  | .gc now => some { state with waiting := state.waiting ++ [.collecting now] }
  | .enter task now =>
      if state.lock.isSome ∨ task ∉ state.waiting then none
      else some (enter { state with waiting := state.waiting.erase task } task now)
  | .answer bindPort now => state.lock.map fun opening => resume state opening bindPort now

def tunnelSystem : Machine State Label where
  initial state := state = {}
  step := step decode

end Operations

/-- No operation is under way; sessions may have yet to expire. -/
def Quiescent (state : State) : Prop := state.waiting = [] ∧ state.lock = none

/-- What a step can do: queue an operation, mark a lease as released, or carry on
with one operation under the lock. -/
inductive Moves (state : State) : Label → State → Prop where
  | queue {label : Label} (asleep : List String) (task : Task) (other : ∀ index, task ≠ .releasing index) :
      Moves state label { state with waiting := state.waiting ++ [task], asleep }
  | idle {label : Label} : Moves state label state
  | release {index : Nat} {lease : Lease} (found : state.leases[index]? = some lease) :
      Moves state (.release index) (release state index lease)
  | enter {task : Task} {now : Int} (free : state.lock = none) (member : task ∈ state.waiting) :
      Moves state (.enter task now) (enter { state with waiting := state.waiting.erase task } task now)
  | answer {opening : Opening} {bindPort : Option Nat} {now : Int} (held : state.lock = some opening) :
      Moves state (.answer bindPort now) (resume state opening bindPort now)

theorem begin_moves {state : State} {label : Label} {chain : Except JumpError (List HopCreds × HopCreds)}
    {target : HopCreds → Target} {bindHost : String} :
    Moves state label (begin state chain target bindHost) := by
  unfold begin
  split
  · exact .idle
  · split
    · exact .idle
    · exact .queue state.asleep _ nofun

theorem step_moves {decode : String → Option (String × String)} {state after : State} {label : Label}
    (stepped : step decode state label = some after) : Moves state label after := by
  cases label with
  | acquire world host bindHost targetPort =>
      cases stepped
      exact begin_moves
  | acquireSocks world host bindHost =>
      cases stepped
      exact begin_moves
  | release index =>
      obtain ⟨lease, found, rfl⟩ := Option.map_eq_some_iff.mp stepped
      exact .release found
  | registerSession sid index =>
      obtain ⟨_, _, rfl⟩ := Option.map_eq_some_iff.mp stepped
      exact .queue state.asleep _ nofun
  | releaseSession sid =>
      cases stepped
      exact .queue state.asleep _ nofun
  | expire sid =>
      simp only [step] at stepped
      split at stepped
      · cases stepped
      · cases stepped
        exact .queue _ _ nofun
  | gc now =>
      cases stepped
      exact .queue state.asleep _ nofun
  | enter task now =>
      simp only [step] at stepped
      split at stepped
      · cases stepped
      · rename_i enabled
        cases stepped
        rw [not_or, not_not] at enabled
        exact .enter (by simpa using enabled.1) enabled.2
  | answer bindPort now =>
      obtain ⟨opening, held, rfl⟩ := Option.map_eq_some_iff.mp stepped
      exact .answer held

end Dosm.Jumps.Tunnels
