import Dosm.Jumps.LeaseAccounting

namespace Dosm.Jumps.Tunnels

open Models Transition

/-! What a lease leads to when connections and listeners are lost.

A jump connection may drop and a listener may close by itself at any time. The manager takes
no notice: it reuses the connection that it has for a chain and the listener that it has for
a target, whatever became of them and whatever address they were bound for.
-/

/-- The manager, and the connections that dropped by themselves. -/
structure Net where
  pool : State := {}
  lost : List Nat := []

inductive Event where
  | manager (label : Label)
  | connectionLost (id : Nat)
  | listenerLost (slot : Slot)

def onConnection (pool : State) (id : Nat) (slot : Slot) : Bool :=
  (pool.jumps.lookup slot.sig).any fun entry => entry.conn.id = id

variable (decode : String → Option (String × String))

/-- What listens on a connection goes with it. -/
def netStep (net : Net) : Event → Option Net
  | .manager label => (step decode net.pool label).map fun pool => { net with pool }
  | .connectionLost id =>
      if id < net.pool.opened then
        some {
          pool := { net.pool with listening := net.pool.listening.filter fun slot => !onConnection net.pool id slot }
          lost := id :: net.lost }
      else none
  | .listenerLost slot => some { net with pool := { net.pool with listening := net.pool.listening.erase slot } }

def lossySystem : Machine Net Event where
  initial net := net = {}
  step := netStep decode

/-- The call that the manager carries on with. -/
def asked (net : Net) : Event → Option Call
  | .manager (.enter (.acquiring call) _) => some call
  | .manager (.answer _ _) => net.pool.lock.map fun
      | .chain call => call
      | .listener call => call
  | _ => none

/-- The lease is bound as the call asks, to the target of the call, and what it leads through is open. -/
structure Backed (call : Call) (lease : Lease) (net : Net) : Prop where
  bindHost : lease.bindHost = call.bindHost
  slot : lease.slot = ⟨chainSignature call.hops, call.target⟩
  listener : lease.slot ∈ net.pool.listening
  connection : lease.conn.id ∉ net.lost ∧ lease.conn.id ∉ net.pool.closed

/-- A lease that the step returns is what its call asked for. -/
def AsAsked (net : Net) (event : Event) : Prop :=
  ∀ after call lease, netStep decode net event = some after → asked net event = some call →
    after.pool.leases = net.pool.leases ++ [lease] → Backed call lease after

/-- A call that finds its listener finds it bound as it asks and open, on a connection that is; a call that has
opened its listener has done so on a connection that is open. -/
def Unspoilt (net : Net) : Event → Prop
  | .manager (.enter (.acquiring call) _) => ∀ entry, net.pool.jumps.lookup (chainSignature call.hops) = some entry →
      entry.bound call.target = true → (entry.endpoint call.target).1 = call.bindHost ∧
        ⟨chainSignature call.hops, call.target⟩ ∈ net.pool.listening ∧ entry.conn.id ∉ net.lost
  | .manager (.answer (some _) _) => ∀ call, net.pool.lock = some (.listener call) →
      ∀ entry, net.pool.jumps.lookup (chainSignature call.hops) = some entry → entry.conn.id ∉ net.lost
  | _ => True

/-! Losses do not change what the manager does. -/

def State.hearing (state : State) (listening : List Slot) : State := { state with listening }

section Hearing

variable {decode} {state after : State} {slots : List Slot} {call : Call} {entry : JumpEntry} {now : Int}

theorem reachTarget_hearing :
    reachTarget (state.hearing slots) call entry now = (reachTarget state call entry now).hearing slots := by
  unfold reachTarget
  split <;> rfl

theorem enterAcquire_hearing : enterAcquire (state.hearing slots) call now = (enterAcquire state call now).hearing slots := by
  unfold enterAcquire
  dsimp only [State.hearing]
  cases state.jumps.lookup (chainSignature call.hops) with
  | none => rfl
  | some entry => exact reachTarget_hearing

theorem listenerOpened_hearing {bindPort : Nat} :
    ∃ other, listenerOpened (state.hearing slots) call bindPort now =
      (listenerOpened state call bindPort now).hearing other := by
  unfold listenerOpened
  dsimp only [State.hearing]
  cases state.jumps.lookup (chainSignature call.hops) with
  | none => exact ⟨slots, rfl⟩
  | some entry => exact ⟨⟨chainSignature call.hops, call.target⟩ :: slots, rfl⟩

theorem resume_hearing {opening : Opening} {answer : Option Nat} :
    ∃ other, resume (state.hearing slots) opening answer now = (resume state opening answer now).hearing other := by
  cases answer with
  | none => exact ⟨slots, rfl⟩
  | some bindPort =>
      cases opening with
      | chain call =>
          let sig := chainSignature call.hops
          let entry : JumpEntry := { conn := { id := state.opened, hops := call.hops }, lastActive := now }
          exact ⟨slots, @reachTarget_hearing { state with
            lock := none
            jumps := state.jumps.insert sig entry
            opened := state.opened + 1 } slots call entry now⟩
      | listener call => exact @listenerOpened_hearing { state with lock := none } slots call now bindPort

theorem release_hearing {index : Nat} {lease : Lease} :
    release (state.hearing slots) index lease = (release state index lease).hearing slots := by
  unfold release
  split <;> rfl

theorem giveBack_hearing {index : Nat} {lease : Lease} :
    ∃ other, giveBack (state.hearing slots) index lease now = (giveBack state index lease now).hearing other := by
  unfold giveBack
  dsimp only [State.hearing]
  cases state.jumps.lookup lease.slot.sig with
  | none => exact ⟨slots, rfl⟩
  | some entry => exact ⟨if entry.closes lease.slot.target then slots.erase lease.slot else slots, rfl⟩

theorem enterReleaseSession_hearing {sid : String} :
    enterReleaseSession (state.hearing slots) sid = (enterReleaseSession state sid).hearing slots := by
  unfold enterReleaseSession
  dsimp only [State.hearing]
  cases state.sessions.lookup sid with
  | none => rfl
  | some index =>
      dsimp only
      cases state.leases[index]? with
      | none => rfl
      | some lease => exact @release_hearing { state with sessions := state.sessions.erase sid } slots index lease

theorem reap_hearing {sig : ChainSig} : ∃ other, reap now (state.hearing slots) sig = (reap now state sig).hearing other := by
  unfold reap
  dsimp only [State.hearing]
  cases state.jumps.lookup sig with
  | none => exact ⟨slots, rfl⟩
  | some entry =>
      dsimp only
      split
      · exact ⟨slots, rfl⟩
      split
      · exact ⟨slots, rfl⟩
      · exact ⟨slots.filter fun slot => slot.sig ≠ sig, rfl⟩

theorem gc_hearing : ∃ other, gc (state.hearing slots) now = (gc state now).hearing other := by
  unfold gc
  change ∃ other, state.jumps.keys.foldl (reap now) (state.hearing slots) = _
  induction state.jumps.keys generalizing state slots with
  | nil => exact ⟨slots, rfl⟩
  | cons sig rest ih =>
      obtain ⟨next, same⟩ := @reap_hearing state slots now sig
      rw [List.foldl_cons, List.foldl_cons, same]
      exact ih

theorem enter_hearing {task : Task} :
    ∃ other, enter (state.hearing slots) task now = (enter state task now).hearing other := by
  cases task with
  | acquiring call => exact ⟨slots, enterAcquire_hearing⟩
  | releasing index =>
      have kept : (state.hearing slots).leases = state.leases := rfl
      cases found : state.leases[index]? with
      | none =>
          simp only [enter, kept, found]
          exact ⟨slots, rfl⟩
      | some lease =>
          simp only [enter, kept, found]
          exact giveBack_hearing
  | registering sid index => exact ⟨slots, rfl⟩
  | unregistering sid => exact ⟨slots, enterReleaseSession_hearing⟩
  | collecting started => exact gc_hearing

theorem begin_hearing {chain : Except JumpError (List HopCreds × HopCreds)} {target : HopCreds → Target}
    {bindHost : String} : begin (state.hearing slots) chain target bindHost =
      (begin state chain target bindHost).hearing slots := by
  unfold begin
  split
  · rfl
  · split <;> rfl

theorem step_hearing {label : Label} (stepped : step decode state label = some after) :
    ∃ other, step decode (state.hearing slots) label = some (after.hearing other) := by
  cases label with
  | acquire world host bindHost targetPort =>
      cases stepped
      exact ⟨slots, congrArg some begin_hearing⟩
  | acquireSocks world host bindHost =>
      cases stepped
      exact ⟨slots, congrArg some begin_hearing⟩
  | release index =>
      obtain ⟨lease, found, rfl⟩ := Option.map_eq_some_iff.mp stepped
      exact ⟨slots, Option.map_eq_some_iff.mpr ⟨lease, found, release_hearing⟩⟩
  | registerSession sid index =>
      obtain ⟨lease, found, rfl⟩ := Option.map_eq_some_iff.mp stepped
      exact ⟨slots, Option.map_eq_some_iff.mpr ⟨lease, found, rfl⟩⟩
  | releaseSession sid =>
      cases stepped
      exact ⟨slots, rfl⟩
  | expire sid =>
      simp only [step] at stepped
      split at stepped
      · cases stepped
      next asleep =>
        cases stepped
        exact ⟨slots, if_neg asleep⟩
  | gc now =>
      cases stepped
      exact ⟨slots, rfl⟩
  | enter task now =>
      simp only [step] at stepped
      split at stepped
      · cases stepped
      next enabled =>
        cases stepped
        obtain ⟨other, same⟩ := @enter_hearing { state with waiting := state.waiting.erase task } slots now task
        exact ⟨other, (if_neg enabled).trans (congrArg some same)⟩
  | answer bindPort now =>
      obtain ⟨opening, held, rfl⟩ := Option.map_eq_some_iff.mp stepped
      obtain ⟨other, same⟩ := @resume_hearing state slots now opening bindPort
      exact ⟨other, Option.map_eq_some_iff.mpr ⟨opening, held, same⟩⟩

end Hearing

section Lossy

variable {decode} {net after : Net} {event : Event} {call : Call} {entry : JumpEntry} {lease : Lease} {now : Int}

def Shadowed (net : Net) : Prop := ∃ slots, Inv (net.pool.hearing slots)

theorem Shadowed.step (shadowed : Shadowed net) (stepped : netStep decode net event = some after) : Shadowed after := by
  obtain ⟨slots, inv⟩ := shadowed
  cases event with
  | manager label =>
      obtain ⟨pool, ran, rfl⟩ := Option.map_eq_some_iff.mp stepped
      obtain ⟨other, same⟩ := @step_hearing decode net.pool pool slots label ran
      exact ⟨other, step_inv same inv⟩
  | connectionLost id =>
      simp only [netStep] at stepped
      split at stepped
      · cases stepped
        exact ⟨slots, inv⟩
      · cases stepped
  | listenerLost slot =>
      cases stepped
      exact ⟨slots, inv⟩

theorem Shadowed.open (shadowed : Shadowed net) {sig : ChainSig} (found : net.pool.jumps.lookup sig = some entry) :
    entry.conn.id ∉ net.pool.closed := by
  obtain ⟨slots, inv⟩ := shadowed
  exact (inv.pool.alive sig entry found).1

theorem not_granted {leases : List Lease} (same : leases = leases ++ [lease]) : False := by
  have length := congrArg List.length same
  simp at length

theorem granted_iff {state : State} (unclosed : entry.conn.id ∉ state.closed) :
    (∀ lease, (grant state call entry now).leases = state.leases ++ [lease] →
      Backed call lease { pool := grant state call entry now, lost := net.lost }) ↔
    (entry.endpoint call.target).1 = call.bindHost ∧ ⟨chainSignature call.hops, call.target⟩ ∈ state.listening ∧
      entry.conn.id ∉ net.lost := by
  constructor
  · intro backed
    have right := backed _ rfl
    exact ⟨right.bindHost, right.listener, right.connection.1⟩
  · rintro ⟨bindHost, listener, connection⟩ lease granted
    obtain rfl := List.singleton_inj.mp (List.append_cancel_left granted)
    exact ⟨bindHost, rfl, listener, connection, unclosed⟩

theorem enter_asAsked_iff (shadowed : Shadowed net) {state : State}
    (entered : state = enterAcquire { net.pool with waiting := net.pool.waiting.erase (.acquiring call) } call now) :
    (∀ lease, state.leases = net.pool.leases ++ [lease] → Backed call lease { net with pool := state }) ↔
      Unspoilt net (.manager (.enter (.acquiring call) now)) := by
  subst entered
  unfold Unspoilt enterAcquire
  dsimp only
  cases found : net.pool.jumps.lookup (chainSignature call.hops) with
  | none => exact iff_of_true (fun lease same => (not_granted same).elim) nofun
  | some entry =>
      dsimp only
      unfold reachTarget
      cases bound : entry.bound call.target with
      | false =>
          refine iff_of_true (fun lease same => (not_granted same).elim) fun other same listed => ?_
          cases same
          cases bound.symm.trans listed
      | true =>
          rw [if_pos rfl]
          have granted := @granted_iff net call entry now
            { net.pool with waiting := net.pool.waiting.erase (.acquiring call) } (shadowed.open found)
          refine granted.trans ⟨fun right other same _ => ?_, fun every => every entry rfl bound⟩
          cases same
          exact right

theorem endpoint_listen {bindHost : String} {bindPort : Nat} {target : Target} :
    (entry.listen bindHost bindPort target).endpoint target = (bindHost, bindPort) := by
  cases target with
  | socks => rfl
  | forward host port =>
      unfold JumpEntry.endpoint JumpEntry.listen
      dsimp only
      rw [AList.lookup_insert]

theorem answer_asAsked_iff (shadowed : Shadowed net) {opening : Opening} {bindPort : Nat} {state : State}
    (held : net.pool.lock = some opening) (answered : state = resume net.pool opening (some bindPort) now) :
    (∀ call lease, asked net (.manager (.answer (some bindPort) now)) = some call →
      state.leases = net.pool.leases ++ [lease] → Backed call lease { net with pool := state }) ↔
      Unspoilt net (.manager (.answer (some bindPort) now)) := by
  subst answered
  cases opening with
  | chain call =>
      have bare : reachTarget { net.pool with
          lock := none
          jumps := net.pool.jumps.insert (chainSignature call.hops)
            { conn := { id := net.pool.opened, hops := call.hops }, lastActive := now }
          opened := net.pool.opened + 1 } call
          { conn := { id := net.pool.opened, hops := call.hops }, lastActive := now } now =
          resume net.pool (.chain call) (some bindPort) now := rfl
      have unbound : JumpEntry.bound { conn := { id := net.pool.opened, hops := call.hops }, lastActive := now }
          call.target = false := Pool.bare_new.bound call.target
      rw [← bare, reachTarget, unbound, if_neg Bool.false_ne_true]
      refine iff_of_true (fun _ lease _ same => (not_granted same).elim) fun other same => ?_
      cases held.symm.trans same
  | listener call =>
      have only : ∀ other, asked net (.manager (.answer (some bindPort) now)) = some other ↔ other = call := by
        intro other
        unfold asked
        rw [held]
        exact ⟨fun same => (Option.some.inj same).symm, fun same => congrArg some same.symm⟩
      have carried : resume net.pool (.listener call) (some bindPort) now =
          listenerOpened { net.pool with lock := none } call bindPort now := rfl
      rw [carried]
      unfold listenerOpened Unspoilt
      dsimp only
      cases found : net.pool.jumps.lookup (chainSignature call.hops) with
      | none =>
          refine iff_of_true (fun _ lease _ same => (not_granted same).elim) fun other same entry listed => ?_
          cases held.symm.trans same
          cases found.symm.trans listed
      | some entry =>
          have kept : (entry.listen call.bindHost bindPort call.target).conn = entry.conn := JumpEntry.frame_listen.conn
          have unclosed : (entry.listen call.bindHost bindPort call.target).conn.id ∉ net.pool.closed := by
            rw [kept]
            exact shadowed.open found
          have granted := @granted_iff net call (entry.listen call.bindHost bindPort call.target) now { net.pool with
            lock := none
            listening := ⟨chainSignature call.hops, call.target⟩ :: net.pool.listening } unclosed
          constructor
          · intro backed other same row listed
            cases held.symm.trans same
            cases found.symm.trans listed
            have right := granted.mp fun lease => backed call lease ((only call).mpr rfl)
            exact kept ▸ right.2.2
          · intro unspoilt other lease same
            rw [(only other).mp same]
            refine granted.mpr ⟨congrArg Prod.fst endpoint_listen, List.mem_cons_self, ?_⟩ lease
            rw [kept]
            exact unspoilt call held entry found

/-- A step returns a lease as asked exactly when what it reuses is as asked and was not lost. -/
theorem asAsked_iff (shadowed : Shadowed net) (stepped : netStep decode net event = some after) :
    AsAsked decode net event ↔ Unspoilt net event := by
  have unasked (nothing : asked net event = none) : AsAsked decode net event := by
    intro last call lease _ asks
    cases nothing.symm.trans asks
  cases event with
  | connectionLost id => exact iff_of_true (unasked rfl) trivial
  | listenerLost slot => exact iff_of_true (unasked rfl) trivial
  | manager label =>
      obtain ⟨pool, ran, rfl⟩ := Option.map_eq_some_iff.mp stepped
      have only : AsAsked decode net (.manager label) ↔ ∀ call lease, asked net (.manager label) = some call →
          pool.leases = net.pool.leases ++ [lease] → Backed call lease { net with pool } := by
        unfold AsAsked
        rw [stepped]
        exact ⟨fun every call lease => every _ call lease rfl, fun every last call lease same => by
          cases same
          exact every call lease⟩
      cases label with
      | enter task now =>
          cases task with
          | acquiring call =>
              have entered : pool = enterAcquire { net.pool with waiting := net.pool.waiting.erase (.acquiring call) }
                  call now := by
                simp only [Tunnels.step] at ran
                split at ran
                · cases ran
                · exact (Option.some.inj ran).symm
              rw [only, ← enter_asAsked_iff shadowed entered]
              constructor
              · exact fun every lease => every call lease rfl
              · intro every other lease same
                cases same
                exact every lease
          | releasing | registering | unregistering | collecting => exact iff_of_true (unasked rfl) trivial
      | answer bindPort now =>
          obtain ⟨opening, held, rfl⟩ := Option.map_eq_some_iff.mp ran
          cases bindPort with
          | none => exact iff_of_true (only.mpr fun _ lease _ same => (not_granted same).elim) trivial
          | some bindPort => rw [only, answer_asAsked_iff shadowed held rfl]
      | acquire | acquireSocks | release | registerSession | releaseSession | expire | gc =>
          exact iff_of_true (unasked rfl) trivial

end Lossy

/-- Every lease of a run is as asked exactly when no step of it reuses what was lost or bound otherwise. -/
theorem leases_as_asked_iff {decode : String → Option (String × String)} {events : List Event} {net : Net}
    (ran : (lossySystem decode).run {} events = some net) :
    (lossySystem decode).Meets (AsAsked decode) {} events ↔ (lossySystem decode).Meets Unspoilt {} events := by
  have shadowed : Shadowed {} := ⟨[], initial_inv⟩
  generalize ({} : Net) = start at *
  induction events generalizing start with
  | nil => exact Iff.rfl
  | cons event rest ih =>
      obtain ⟨next, stepped, remaining⟩ := Machine.run_cons_some ran
      have continues := ih next remaining (shadowed.step stepped)
      constructor
      · rintro ⟨first, others⟩
        refine ⟨(asAsked_iff shadowed stepped).mp first, fun last same => ?_⟩
        cases stepped.symm.trans same
        exact continues.mp (others next stepped)
      · rintro ⟨first, others⟩
        refine ⟨(asAsked_iff shadowed stepped).mpr first, fun last same => ?_⟩
        cases stepped.symm.trans same
        exact continues.mpr (others next stepped)

def opensForward : List Event :=
  [.manager (.acquire behindBox web "0.0.0.0" none), .manager (.enter (.acquiring throughBox) 0),
    .manager (.answer (some 0) 1), .manager (.answer (some 40001) 2)]

def throughBoxLocally : Call := { throughBox with bindHost := "127.0.0.1" }

theorem opensForward_as_asked : (lossySystem fun _ => none).Meets (AsAsked fun _ => none) {} opensForward := by
  have completes : ((lossySystem fun _ => none).run {} opensForward).isSome := by decide
  obtain ⟨net, ran⟩ := Option.isSome_iff_exists.mp completes
  refine (leases_as_asked_iff ran).mpr ⟨trivial, fun queued first => ⟨?_, fun dialling second => ⟨?_, fun dialled third =>
    ⟨?_, fun _ _ => trivial⟩⟩⟩⟩
  · cases first
    intro entry found
    cases found
  · cases first
    cases second
    intro call held
    cases held
  · cases first
    cases second
    cases third
    intro _ _ _ _ lost
    cases lost

/-- A listener bound for everyone is leased to a call that asks for a local one, and one whose connection
dropped is leased as if it led somewhere. -/
theorem rebound_and_lost_leased :
    (∃ net, (lossySystem fun _ => none).run {} (opensForward ++
        [.manager (.acquire behindBox web "127.0.0.1" none)]) = some net ∧
      ¬ AsAsked (fun _ => none) net (.manager (.enter (.acquiring throughBoxLocally) 3))) ∧
    ∃ net, (lossySystem fun _ => none).run {} (opensForward ++
        [.connectionLost 0, .manager (.acquire behindBox web "0.0.0.0" none)]) = some net ∧
      ¬ AsAsked (fun _ => none) net (.manager (.enter (.acquiring throughBox) 3)) := by
  constructor
  · refine ⟨_, rfl, fun asAsked => ?_⟩
    exact absurd (asAsked _ throughBoxLocally _ rfl rfl rfl).bindHost (by decide)
  · refine ⟨_, rfl, fun asAsked => ?_⟩
    exact (asAsked _ throughBox _ rfl rfl rfl).connection.1 (by decide)

end Dosm.Jumps.Tunnels
