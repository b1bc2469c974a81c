import Dosm.Jumps.LeaseCounts

namespace Dosm.Jumps.Tunnels

open Models Transition

/-! Lease accounting over whole runs.

The flag of a lease is set before its release waits for the lock. Every lease
whose flag is set is waiting to be given back or was given back, and once: that
keeps the counts right whatever mix of releases, sessions and expiries it was.
-/

section Tickets

variable {leases : List Lease} {waiting : List Task} {lease : Lease} {index : Nat} {task : Task}

structure Tickets (leases : List Lease) (waiting : List Task) : Prop where
  once : ∀ index lease, leases[index]? = some lease →
    lease.returns + waiting.count (.releasing index) = lease.released.toNat
  issued : ∀ index, .releasing index ∈ waiting → index < leases.length

theorem Tickets.queue (tickets : Tickets leases waiting) (other : ∀ index, task ≠ .releasing index) :
    Tickets leases (waiting ++ [task]) where
  once index lease found := by
    have absent : [task].count (.releasing index) = 0 :=
      List.count_eq_zero.mpr (by simpa using (other index).symm)
    rw [List.count_append, absent]
    exact tickets.once index lease found
  issued index member := by
    rcases List.mem_append.mp member with old | new
    · exact tickets.issued index old
    · exact absurd (List.mem_singleton.mp new).symm (other index)

theorem Tickets.dequeue (tickets : Tickets leases waiting) (other : ∀ index, task ≠ .releasing index) :
    Tickets leases (waiting.erase task) where
  once index lease found := by
    rw [List.count_erase_of_ne (other index).symm]
    exact tickets.once index lease found
  issued index member := tickets.issued index (List.mem_of_mem_erase member)

theorem Tickets.issue (tickets : Tickets leases waiting) (fresh : lease.returns = 0)
    (unreleased : lease.released = false) : Tickets (leases ++ [lease]) waiting where
  once index given found := by
    by_cases old : index < leases.length
    · rw [List.getElem?_append_left old] at found
      exact tickets.once index given found
    · have isNew : given = lease := by
        rw [List.getElem?_append_right (Nat.le_of_not_lt old)] at found
        exact List.mem_singleton.mp (List.mem_of_getElem? found)
      have absent : waiting.count (.releasing index) = 0 :=
        List.count_eq_zero.mpr fun member => old (tickets.issued index member)
      rw [isNew, fresh, unreleased, absent]
      rfl
  issued index member := by
    rw [List.length_append]
    exact Nat.lt_add_right _ (tickets.issued index member)

theorem Tickets.release (tickets : Tickets leases waiting) (found : leases[index]? = some lease)
    (unreleased : lease.released = false) :
    Tickets (leases.set index { lease with released := true }) (waiting ++ [.releasing index]) where
  once other given listed := by
    obtain ⟨bound, _⟩ := List.getElem?_eq_some_iff.mp found
    by_cases same : other = index
    · subst same
      rw [List.getElem?_set_self bound] at listed
      cases listed
      have before := tickets.once other lease found
      rw [unreleased] at before
      simp only [Bool.toNat_false, Bool.toNat_true, List.count_append, List.count_singleton_self] at before ⊢
      omega
    · rw [List.getElem?_set_ne (Ne.symm same)] at listed
      have apart : Task.releasing other ≠ .releasing index := by simpa using same
      rw [List.count_append, List.count_singleton, if_neg (by simpa using Ne.symm same)]
      exact tickets.once other given listed
  issued other member := by
    rw [List.length_set]
    rcases List.mem_append.mp member with old | new
    · exact tickets.issued other old
    · cases List.mem_singleton.mp new
      exact (List.getElem?_eq_some_iff.mp found).1

theorem Tickets.kept (tickets : Tickets leases waiting) (found : leases[index]? = some lease)
    (member : .releasing index ∈ waiting) : lease.returns = 0 := by
  have counted := tickets.once index lease found
  have waits : 0 < waiting.count (.releasing index) := List.count_pos_iff.mpr member
  have bounded := Bool.toNat_le lease.released
  omega

theorem Tickets.giveBack (tickets : Tickets leases waiting) (found : leases[index]? = some lease)
    (member : .releasing index ∈ waiting) :
    Tickets (leases.set index { lease with returns := lease.returns + 1 })
      (waiting.erase (.releasing index)) where
  once other given listed := by
    obtain ⟨bound, _⟩ := List.getElem?_eq_some_iff.mp found
    by_cases same : other = index
    · subst same
      rw [List.getElem?_set_self bound] at listed
      cases listed
      have before := tickets.once other lease found
      have waits : 0 < waiting.count (.releasing other) := List.count_pos_iff.mpr member
      rw [List.count_erase_self]
      simp only
      omega
    · rw [List.getElem?_set_ne (Ne.symm same)] at listed
      have apart : Task.releasing other ≠ .releasing index := by simpa using same
      rw [List.count_erase_of_ne apart]
      exact tickets.once other given listed
  issued other listed := by
    rw [List.length_set]
    exact tickets.issued other (List.mem_of_mem_erase listed)

end Tickets

def Ready (state : State) : Prop :=
  match state.lock with
  | none => True
  | some (.chain call) => state.jumps.lookup (chainSignature call.hops) = none
  | some (.listener call) =>
      ∃ entry, state.jumps.lookup (chainSignature call.hops) = some entry ∧
        entry.bound call.target = false

structure Inv (state : State) : Prop where
  pool : PoolInv state
  tickets : Tickets state.leases state.waiting
  ready : Ready state

section Steps

variable {decode : String → Option (String × String)} {state after : State} {call : Call}
  {entry : JumpEntry} {lease : Lease} {index : Nat} {now : Int} {task : Task} {sid : String}

theorem PoolInv.unaffected (inv : PoolInv state) (waiting : List Task) (asleep : List String)
    (sessions : AList fun _ : String => Nat) (lock : Option Opening) :
    PoolInv { state with waiting, asleep, sessions, lock } where
  counted := inv.counted
  bound := inv.bound
  listening := inv.listening
  distinct := inv.distinct
  alive := inv.alive
  past := inv.past
  apart := inv.apart
  behind := inv.behind

theorem reachTarget_inv (pool : PoolInv state) (tickets : Tickets state.leases state.waiting)
    (free : state.lock = none)
    (found : state.jumps.lookup (chainSignature call.hops) = some entry) :
    Inv (reachTarget state call entry now) := by
  unfold reachTarget
  cases bound : entry.bound call.target with
  | true =>
      exact {
        pool := pool.grant found bound
        tickets := tickets.issue rfl rfl
        ready := by simp only [if_pos, grant, Ready, free] }
  | false =>
      exact {
        pool := pool.unaffected _ _ _ _
        tickets := tickets
        ready := ⟨entry, found, bound⟩ }

theorem enterAcquire_inv (pool : PoolInv state) (tickets : Tickets state.leases state.waiting)
    (free : state.lock = none) : Inv (enterAcquire state call now) := by
  unfold enterAcquire
  cases found : state.jumps.lookup (chainSignature call.hops) with
  | none =>
      exact {
        pool := pool.unaffected _ _ _ _
        tickets := tickets
        ready := found }
  | some entry => exact reachTarget_inv pool tickets free found

theorem resume_inv {opening : Opening} {answer : Option Nat} (inv : Inv state)
    (held : state.lock = some opening) : Inv (resume state opening answer now) := by
  have ready := inv.ready
  rw [Ready, held] at ready
  have pool : PoolInv { state with lock := none } := inv.pool.unaffected _ _ _ _
  cases answer with
  | none => exact { pool, tickets := inv.tickets, ready := trivial }
  | some bindPort =>
      cases opening with
      | chain call =>
          exact reachTarget_inv (pool.opened ready call.hops) inv.tickets rfl (AList.lookup_insert _)
      | listener call =>
          obtain ⟨entry, found, unbound⟩ := ready
          exact {
            pool := pool.listenerOpened found unbound
            tickets := by
              simp only [resume, listenerOpened, found]
              exact inv.tickets.issue rfl rfl
            ready := by simp only [resume, listenerOpened, found, grant, Ready] }

theorem release_inv (pool : PoolInv state) (tickets : Tickets state.leases state.waiting)
    (ready : Ready state) (found : state.leases[index]? = some lease) :
    Inv (release state index lease) := by
  refine ⟨pool.release found, ?_, ?_⟩
  · unfold release
    cases released : lease.released with
    | true => exact tickets
    | false => exact tickets.release found released
  · unfold release
    split
    · exact ready
    · exact ready

theorem gc_same : (gc state now).leases = state.leases ∧ (gc state now).waiting = state.waiting ∧
    (gc state now).lock = state.lock := by
  unfold gc
  induction state.jumps.keys generalizing state with
  | nil => exact ⟨rfl, rfl, rfl⟩
  | cons sig rest ih =>
      have reaped : (reap now state sig).leases = state.leases ∧
          (reap now state sig).waiting = state.waiting ∧ (reap now state sig).lock = state.lock := by
        unfold reap
        split
        · exact ⟨rfl, rfl, rfl⟩
        · split
          · exact ⟨rfl, rfl, rfl⟩
          · split
            · exact ⟨rfl, rfl, rfl⟩
            · exact ⟨rfl, rfl, rfl⟩
      rw [← reaped.1, ← reaped.2.1, ← reaped.2.2]
      exact ih

theorem gc_inv (pool : PoolInv state) (tickets : Tickets state.leases state.waiting)
    (free : state.lock = none) : Inv (gc state now) := by
  obtain ⟨leases, waiting, lock⟩ : (gc state now).leases = state.leases ∧
      (gc state now).waiting = state.waiting ∧ (gc state now).lock = state.lock := gc_same
  refine ⟨pool.gc, ?_, ?_⟩
  · rw [leases, waiting]
    exact tickets
  · rw [free] at lock
    simp only [Ready, lock]

theorem enterReleaseSession_inv (pool : PoolInv state) (tickets : Tickets state.leases state.waiting)
    (free : state.lock = none) : Inv (enterReleaseSession state sid) := by
  have ready : Ready state := by simp only [Ready, free]
  unfold enterReleaseSession
  cases state.sessions.lookup sid with
  | none => exact ⟨pool, tickets, ready⟩
  | some index =>
      have popped : PoolInv { state with sessions := state.sessions.erase sid } :=
        pool.unaffected _ _ _ _
      cases found : state.leases[index]? with
      | none =>
          simp only [found]
          exact ⟨popped, tickets, ready⟩
      | some lease =>
          simp only [found]
          exact release_inv popped tickets ready found

theorem enter_inv (inv : Inv state) (free : state.lock = none) (member : task ∈ state.waiting) :
    Inv (enter { state with waiting := state.waiting.erase task } task now) := by
  have pool : PoolInv { state with waiting := state.waiting.erase task } := inv.pool.unaffected _ _ _ _
  cases task with
  | acquiring call => exact enterAcquire_inv pool (inv.tickets.dequeue nofun) free
  | releasing index =>
      cases found : state.leases[index]? with
      | none =>
          have issued := inv.tickets.issued index member
          rw [List.getElem?_eq_getElem issued] at found
          cases found
      | some lease =>
          simp only [enter, found]
          have kept := inv.tickets.kept found member
          refine ⟨pool.giveBack found kept, ?_, ?_⟩
          · unfold giveBack
            split
            · exact inv.tickets.giveBack found member
            · exact inv.tickets.giveBack found member
          · unfold giveBack
            split
            · simp only [Ready, free]
            · simp only [Ready, free]
  | registering sid index =>
      exact ⟨inv.pool.unaffected _ _ _ _, inv.tickets.dequeue nofun, by simp only [enter, Ready, free]⟩
  | unregistering sid => exact enterReleaseSession_inv pool (inv.tickets.dequeue nofun) free
  | collecting started => exact gc_inv pool (inv.tickets.dequeue nofun) free

theorem step_inv {label : Label} (stepped : step decode state label = some after) (inv : Inv state) :
    Inv after := by
  cases step_moves stepped with
  | queue asleep task other => exact ⟨inv.pool.unaffected _ _ _ _, inv.tickets.queue other, inv.ready⟩
  | idle => exact inv
  | release found => exact release_inv inv.pool inv.tickets inv.ready found
  | enter free member => exact enter_inv inv free member
  | answer held => exact resume_inv inv held

theorem initial_inv : Inv {} where
  pool := {
    counted := fun _ => rfl
    bound := fun _ => by simp [Pool.bound, Pool.leaseCount]
    listening := fun _ => by simp [Pool.bound]
    distinct := List.nodup_nil
    alive := by simp
    past := by simp
    apart := by simp
    behind := by simp }
  tickets := { once := by simp, issued := by simp }
  ready := trivial

end Steps

theorem reachable_inv {decode : String → Option (String × String)} {state : State}
    (reached : (tunnelSystem decode).Reachable state) : Inv state := by
  have starts : ∀ start, (tunnelSystem decode).initial start → Inv start := by
    rintro start rfl
    exact initial_inv
  exact reached.invariant starts fun _ _ _ stepped => step_inv stepped

def box : Host where
  id := 1
  tenantId := 1
  name := "box"
  hostname := "10.0.0.1"
  port := 22
  protocol := .ssh
  description := none
  credentialId := none
  jumpHostId := none
  isJumpbox := true
  ftMethod := none
  ftPort := none
  ftCredentialId := none
  orgUnitId := none

def web : Host :=
  { box with id := 2, name := "web", hostname := "10.0.0.2", jumpHostId := some 1, isJumpbox := false }

theorem web_key (id : Int) : key { web with id } = id := rfl

def behindBox : World where
  db := { hosts := (Table.empty.insert fun id => { box with id }).insert fun id => { web with id } }
  secrets := ∅
  connectingUser := none

def throughBox : Call where
  hops := [⟨1, "box", "10.0.0.1", 22, .ssh, "root", none, none⟩]
  target := .forward "10.0.0.2" 22
  bindHost := "0.0.0.0"

def sharedForward : List Label :=
  [.acquire behindBox web "0.0.0.0" none, .enter (.acquiring throughBox) 0, .answer (some 0) 1,
    .answer (some 40001) 2, .acquire behindBox web "0.0.0.0" none, .enter (.acquiring throughBox) 3,
    .registerSession "s" 1, .enter (.registering "s" 1) 4, .releaseSession "s",
    .enter (.unregistering "s") 5, .enter (.releasing 1) 6, .expire "s", .enter (.unregistering "s") 7]

end Dosm.Jumps.Tunnels
