import Dosm.Jumps.Tunnels

namespace Dosm.Jumps.Tunnels

open Transition

/-! Counting leases.

A slot's count moves together with the leases on it that the manager has not
taken back, and a slot has an open listener exactly while some are left. A lease
whose release was called is still among them until its release gets the lock.
-/

namespace JumpEntry

variable {entry before middle after : JumpEntry} {target other : Target} {now : Int}
  {bindHost : String} {bindPort : Nat}

structure Frame (before after : JumpEntry) (target : Target) : Prop where
  conn : after.conn = before.conn
  count : ∀ other, other ≠ target → after.leaseCount other = before.leaseCount other
  bound : ∀ other, other ≠ target → after.bound other = before.bound other

theorem Frame.trans (first : Frame before middle target) (second : Frame middle after target) :
    Frame before after target where
  conn := second.conn.trans first.conn
  count other different := (second.count other different).trans (first.count other different)
  bound other different := (second.bound other different).trans (first.bound other different)

theorem Frame.refl : Frame entry entry target where
  conn := rfl
  count _ _ := rfl
  bound _ _ := rfl

theorem frame_forwards {host : String} {port : Int} {forwards : AList fun _ : String × Int => ForwardEntry}
    (same : ∀ key, key ≠ (host, port) → forwards.lookup key = entry.forwards.lookup key) :
    Frame entry { entry with forwards, lastActive := now } (.forward host port) where
  conn := rfl
  count other different := by
    cases other with
    | socks => rfl
    | forward otherHost otherPort =>
        have apart : (otherHost, otherPort) ≠ (host, port) := by simpa using different
        simp only [leaseCount, same _ apart]
  bound other different := by
    cases other with
    | socks => rfl
    | forward otherHost otherPort =>
        have apart : (otherHost, otherPort) ≠ (host, port) := by simpa using different
        simp only [JumpEntry.bound, same _ apart]

theorem frame_socks (conn : after.conn = before.conn) (forwards : after.forwards = before.forwards) :
    Frame before after .socks where
  conn := conn
  count other different := by
    cases other with
    | socks => exact absurd rfl different
    | forward host port => simp only [leaseCount, forwards]
  bound other different := by
    cases other with
    | socks => exact absurd rfl different
    | forward host port => simp only [JumpEntry.bound, forwards]

theorem frame_listen : Frame entry (entry.listen bindHost bindPort target) target := by
  cases target with
  | forward host port => exact frame_forwards fun _ apart => AList.lookup_insert_ne apart
  | socks => exact frame_socks rfl rfl

theorem frame_lease : Frame entry (entry.lease now target) target := by
  cases target with
  | forward host port =>
      simp only [lease]
      split
      · exact .refl
      · exact frame_forwards fun _ apart => AList.lookup_insert_ne apart
  | socks => exact frame_socks rfl rfl

theorem frame_unlease : Frame entry (entry.unlease now target) target := by
  cases target with
  | forward host port =>
      simp only [unlease]
      split
      · exact .refl
      · split
        · exact frame_forwards fun _ apart => AList.lookup_erase_ne apart
        · exact frame_forwards fun _ apart => AList.lookup_insert_ne apart
  | socks =>
      simp only [unlease]
      split
      · exact frame_socks rfl rfl
      · exact frame_socks rfl rfl

theorem bound_listen : (entry.listen bindHost bindPort target).bound target = true := by
  cases target with
  | forward host port => simp [listen, bound]
  | socks => rfl

theorem leaseCount_listen (unbound : entry.bound target = false) :
    (entry.listen bindHost bindPort target).leaseCount target = entry.leaseCount target := by
  cases target with
  | forward host port =>
      have absent : entry.forwards.lookup (host, port) = none := by simpa [bound] using unbound
      simp [listen, leaseCount, absent]
  | socks => rfl

theorem bound_lease : (entry.lease now target).bound target = entry.bound target := by
  cases target with
  | forward host port =>
      cases found : entry.forwards.lookup (host, port) with
      | none => simp [lease, found]
      | some forward => simp [lease, bound, found]
  | socks => rfl

theorem leaseCount_lease (listening : entry.bound target = true) :
    (entry.lease now target).leaseCount target = entry.leaseCount target + 1 := by
  cases target with
  | forward host port =>
      obtain ⟨forward, found⟩ := Option.isSome_iff_exists.mp listening
      simp [lease, leaseCount, found]
  | socks => rfl

theorem leaseCount_unlease (positive : 0 < entry.leaseCount target) :
    (entry.unlease now target).leaseCount target = entry.leaseCount target - 1 := by
  cases target with
  | forward host port =>
      cases found : entry.forwards.lookup (host, port) with
      | none => simp [leaseCount, found] at positive
      | some forward =>
          simp only [leaseCount, found] at positive
          by_cases last : forward.leaseCount - 1 ≤ 0
          · simp only [unlease, found, if_pos last, leaseCount, AList.lookup_erase]
            omega
          · simp only [unlease, found, if_neg last, leaseCount, AList.lookup_insert]
  | socks =>
      simp only [leaseCount] at positive
      by_cases last : entry.socksLeaseCount - 1 ≤ 0
      · simp only [unlease, if_pos last, leaseCount]
        omega
      · simp only [unlease, if_neg last, leaseCount]

theorem bound_unlease (listening : entry.bound target = true) :
    (entry.unlease now target).bound target = !entry.closes target := by
  cases target with
  | forward host port =>
      obtain ⟨forward, found⟩ := Option.isSome_iff_exists.mp listening
      by_cases last : forward.leaseCount - 1 ≤ 0
      · simp [unlease, closes, bound, leaseCount, found, last]
      · simp [unlease, closes, bound, leaseCount, found, last]
  | socks =>
      have open_ : entry.socksListener = true := listening
      by_cases last : entry.socksLeaseCount - 1 ≤ 0
      · simp [unlease, closes, bound, leaseCount, last, open_]
      · simp [unlease, closes, bound, leaseCount, last, open_]

theorem unused_unbound (idle : entry.unused = true) : entry.bound target = false := by
  simp only [unused, Bool.and_eq_true, Bool.not_eq_true', List.isEmpty_iff] at idle
  cases target with
  | forward host port =>
      have absent : (host, port) ∉ entry.forwards := by
        rw [AList.mem_keys, idle.1]
        exact List.not_mem_nil
      simp [bound, AList.lookup_eq_none.mpr absent]
  | socks => exact idle.2

end JumpEntry

namespace Pool

variable {jumps : Pool} {sig : ChainSig} {before after entry : JumpEntry} {target : Target} {slot : Slot}

def leaseCount (jumps : Pool) (slot : Slot) : Int :=
  match jumps.lookup slot.sig with
  | none => 0
  | some entry => entry.leaseCount slot.target

def bound (jumps : Pool) (slot : Slot) : Bool :=
  match jumps.lookup slot.sig with
  | none => false
  | some entry => entry.bound slot.target

theorem leaseCount_found (found : jumps.lookup sig = some entry) :
    leaseCount jumps ⟨sig, target⟩ = entry.leaseCount target := by
  simp [leaseCount, found]

theorem bound_found (found : jumps.lookup sig = some entry) :
    bound jumps ⟨sig, target⟩ = entry.bound target := by
  simp [bound, found]

theorem leaseCount_insert (found : jumps.lookup sig = some before)
    (frame : JumpEntry.Frame before after target) :
    leaseCount (jumps.insert sig after) slot =
      if slot = ⟨sig, target⟩ then after.leaseCount target else leaseCount jumps slot := by
  obtain ⟨slotSig, slotTarget⟩ := slot
  by_cases sameSig : slotSig = sig
  · subst sameSig
    by_cases sameTarget : slotTarget = target
    · simp [leaseCount, sameTarget]
    · simp [leaseCount, sameTarget, found, frame.count slotTarget sameTarget]
  · simp [leaseCount, sameSig, AList.lookup_insert_ne sameSig]

theorem bound_insert (found : jumps.lookup sig = some before)
    (frame : JumpEntry.Frame before after target) :
    bound (jumps.insert sig after) slot =
      if slot = ⟨sig, target⟩ then after.bound target else bound jumps slot := by
  obtain ⟨slotSig, slotTarget⟩ := slot
  by_cases sameSig : slotSig = sig
  · subst sameSig
    by_cases sameTarget : slotTarget = target
    · simp [bound, sameTarget]
    · simp [bound, sameTarget, found, frame.bound slotTarget sameTarget]
  · simp [bound, sameSig, AList.lookup_insert_ne sameSig]

structure Bare (entry : JumpEntry) : Prop where
  count : ∀ target, entry.leaseCount target = 0
  bound : ∀ target, entry.bound target = false

theorem bare_new {conn : Connection} {now : Int} : Bare { conn, lastActive := now } where
  count target := by cases target <;> rfl
  bound target := by cases target <;> rfl

theorem leaseCount_insert_bare (absent : jumps.lookup sig = none) (bare : Bare entry) :
    leaseCount (jumps.insert sig entry) slot = leaseCount jumps slot := by
  obtain ⟨slotSig, slotTarget⟩ := slot
  by_cases same : slotSig = sig
  · subst same
    simp [leaseCount, absent, bare.count]
  · simp [leaseCount, AList.lookup_insert_ne same]

theorem bound_insert_bare (absent : jumps.lookup sig = none) (bare : Bare entry) :
    bound (jumps.insert sig entry) slot = bound jumps slot := by
  obtain ⟨slotSig, slotTarget⟩ := slot
  by_cases same : slotSig = sig
  · subst same
    simp [bound, absent, bare.bound]
  · simp [bound, AList.lookup_insert_ne same]

theorem leaseCount_erase_bare (found : jumps.lookup sig = some entry) (bare : Bare entry) :
    leaseCount (jumps.erase sig) slot = leaseCount jumps slot := by
  obtain ⟨slotSig, slotTarget⟩ := slot
  by_cases same : slotSig = sig
  · subst same
    simp [leaseCount, found, bare.count]
  · simp [leaseCount, AList.lookup_erase_ne same]

theorem bound_erase_bare (found : jumps.lookup sig = some entry) (bare : Bare entry) :
    bound (jumps.erase sig) slot = bound jumps slot := by
  obtain ⟨slotSig, slotTarget⟩ := slot
  by_cases same : slotSig = sig
  · subst same
    simp [bound, found, bare.bound]
  · simp [bound, AList.lookup_erase_ne same]

end Pool

def held (leases : List Lease) (slot : Slot) : Nat :=
  leases.countP fun lease => lease.slot = slot && lease.returns = 0

/-- The leases on a slot whose release was not called. -/
def unreleased (leases : List Lease) (slot : Slot) : Nat :=
  leases.countP fun lease => lease.slot = slot && !lease.released

section Held

variable {leases : List Lease} {lease changed : Lease} {slot : Slot} {index : Nat}

theorem held_append (fresh : lease.returns = 0) :
    held (leases ++ [lease]) slot = held leases slot + if slot = lease.slot then 1 else 0 := by
  by_cases same : slot = lease.slot
  · simp [held, fresh, same]
  · simp [held, same, Ne.symm same]

theorem held_set (found : leases[index]? = some lease) (slots : changed.slot = lease.slot)
    (returns : changed.returns = lease.returns) :
    held (leases.set index changed) slot = held leases slot := by
  obtain ⟨bound, rfl⟩ := List.getElem?_eq_some_iff.mp found
  have counted : held leases slot =
      held leases slot - (if (leases[index].slot = slot && leases[index].returns = 0) = true then 1 else 0)
        + (if (leases[index].slot = slot && leases[index].returns = 0) = true then 1 else 0) := by
    split
    · have positive : 0 < held leases slot :=
        List.countP_pos_iff.mpr ⟨leases[index], List.getElem_mem bound, by assumption⟩
      omega
    · rfl
  rw [counted, held, List.countP_set bound, slots, returns]
  rfl

theorem held_pos (member : lease ∈ leases) (kept : lease.returns = 0) : 0 < held leases lease.slot :=
  List.countP_pos_iff.mpr ⟨lease, member, by simp [kept]⟩

theorem held_returned (found : leases[index]? = some lease) (kept : lease.returns = 0)
    (slots : changed.slot = lease.slot) (returned : changed.returns = 1) :
    held (leases.set index changed) slot = held leases slot - if slot = lease.slot then 1 else 0 := by
  obtain ⟨bound, rfl⟩ := List.getElem?_eq_some_iff.mp found
  rw [held, List.countP_set bound, slots, returned, kept]
  by_cases same : slot = leases[index].slot
  · simp [held, same]
  · simp [held, same, Ne.symm same]

end Held

structure PoolInv (state : State) : Prop where
  counted : ∀ slot, Pool.leaseCount state.jumps slot = held state.leases slot
  bound : ∀ slot, Pool.bound state.jumps slot = true ↔ 0 < Pool.leaseCount state.jumps slot
  listening : ∀ slot, slot ∈ state.listening ↔ Pool.bound state.jumps slot = true
  distinct : state.listening.Nodup
  alive : ∀ sig entry, state.jumps.lookup sig = some entry →
    entry.conn.id ∉ state.closed ∧ entry.conn.id < state.opened
  past : ∀ id ∈ state.closed, id < state.opened
  apart : ∀ first second entry other, state.jumps.lookup first = some entry →
    state.jumps.lookup second = some other → entry.conn.id = other.conn.id → first = second
  behind : ∀ lease ∈ state.leases, lease.returns = 0 →
    ∃ entry, state.jumps.lookup lease.slot.sig = some entry ∧ entry.conn = lease.conn

section Pool

variable {state after : State} {call : Call} {entry : JumpEntry} {sig : ChainSig} {target : Target}
  {lease : Lease} {index : Nat} {now : Int} {bindPort : Nat}

theorem lookup_replaced {jumps : Pool} {changed : JumpEntry} (found : jumps.lookup sig = some entry)
    (conn : changed.conn = entry.conn) {other : ChainSig} {row : JumpEntry}
    (listed : (jumps.insert sig changed).lookup other = some row) :
    ∃ old, jumps.lookup other = some old ∧ row.conn = old.conn := by
  by_cases same : other = sig
  · subst same
    rw [AList.lookup_insert] at listed
    cases listed
    exact ⟨entry, found, conn⟩
  · rw [AList.lookup_insert_ne same] at listed
    exact ⟨row, listed, rfl⟩

theorem lookup_kept {jumps : Pool} {changed : JumpEntry} (found : jumps.lookup sig = some entry)
    (conn : changed.conn = entry.conn) {other : ChainSig} {row : JumpEntry}
    (listed : jumps.lookup other = some row) :
    ∃ new, (jumps.insert sig changed).lookup other = some new ∧ new.conn = row.conn := by
  by_cases same : other = sig
  · subst same
    cases found.symm.trans listed
    exact ⟨changed, AList.lookup_insert _, conn⟩
  · exact ⟨row, (AList.lookup_insert_ne same).trans listed, rfl⟩

theorem lookup_erased {jumps : Pool} {other : ChainSig} {row : JumpEntry}
    (listed : (jumps.erase sig).lookup other = some row) : other ≠ sig ∧ jumps.lookup other = some row := by
  by_cases same : other = sig
  · rw [same, AList.lookup_erase] at listed
    cases listed
  · exact ⟨same, (AList.lookup_erase_ne same).symm.trans listed⟩

theorem PoolInv.leased (inv : PoolInv state) (found : state.jumps.lookup sig = some entry)
    {changed : JumpEntry} (frame : JumpEntry.Frame entry changed target)
    (count : changed.leaseCount target = entry.leaseCount target + 1)
    (bound : changed.bound target = true) (listed : List Slot)
    (listening : ∀ slot, slot ∈ listed ↔ slot ∈ state.listening ∨ slot = ⟨sig, target⟩)
    (distinct : listed.Nodup) (lease : Lease) (placed : lease.slot = ⟨sig, target⟩) (fresh : lease.returns = 0)
    (conn : lease.conn = entry.conn) :
    PoolInv { state with
      jumps := state.jumps.insert sig changed
      leases := state.leases ++ [lease]
      listening := listed } where
  counted slot := by
    have before := inv.counted slot
    rw [Pool.leaseCount_insert found frame, held_append fresh, placed]
    by_cases same : slot = ⟨sig, target⟩
    · rw [same, Pool.leaseCount_found found] at before
      rw [if_pos same, if_pos same, same]
      omega
    · rw [if_neg same, if_neg same]
      exact before
  bound slot := by
    rw [Pool.leaseCount_insert found frame, Pool.bound_insert found frame]
    by_cases same : slot = ⟨sig, target⟩
    · have counted := inv.counted ⟨sig, target⟩
      rw [Pool.leaseCount_found found] at counted
      simp only [if_pos same, bound, count, true_iff]
      omega
    · simp only [if_neg same]
      exact inv.bound slot
  listening slot := by
    rw [listening, inv.listening, Pool.bound_insert found frame]
    by_cases same : slot = ⟨sig, target⟩
    · simp [same, bound]
    · simp [same]
  distinct := distinct
  alive other row listed := by
    obtain ⟨old, present, same⟩ := lookup_replaced found frame.conn listed
    rw [same]
    exact inv.alive other old present
  past := inv.past
  apart first second row other listed otherListed same := by
    obtain ⟨old, present, conn⟩ := lookup_replaced found frame.conn listed
    obtain ⟨otherOld, otherPresent, otherConn⟩ := lookup_replaced found frame.conn otherListed
    rw [conn, otherConn] at same
    exact inv.apart first second old otherOld present otherPresent same
  behind given member kept := by
    rcases List.mem_append.mp member with old | new
    · obtain ⟨row, present, same⟩ := inv.behind given old kept
      obtain ⟨replaced, listed, kept⟩ := lookup_kept found frame.conn present
      exact ⟨replaced, listed, kept.trans same⟩
    · cases List.mem_singleton.mp new
      rw [placed]
      exact ⟨changed, AList.lookup_insert _, frame.conn.trans conn.symm⟩

theorem PoolInv.grant (inv : PoolInv state)
    (found : state.jumps.lookup (chainSignature call.hops) = some entry)
    (bound : entry.bound call.target = true) : PoolInv (grant state call entry now) := by
  refine inv.leased found JumpEntry.frame_lease (JumpEntry.leaseCount_lease bound)
    (JumpEntry.bound_lease.trans bound) state.listening ?_ inv.distinct _ rfl rfl rfl
  intro slot
  have present : (⟨chainSignature call.hops, call.target⟩ : Slot) ∈ state.listening :=
    (inv.listening _).mpr ((Pool.bound_found found).trans bound)
  constructor
  · exact Or.inl
  · rintro (listed | rfl)
    · exact listed
    · exact present

theorem PoolInv.listenerOpened (inv : PoolInv state)
    (found : state.jumps.lookup (chainSignature call.hops) = some entry)
    (unbound : entry.bound call.target = false) :
    PoolInv (listenerOpened state call bindPort now) := by
  have listened : (entry.listen call.bindHost bindPort call.target).bound call.target = true :=
    JumpEntry.bound_listen
  have frame : JumpEntry.Frame entry
      ((entry.listen call.bindHost bindPort call.target).lease now call.target) call.target :=
    JumpEntry.frame_listen.trans JumpEntry.frame_lease
  have count : ((entry.listen call.bindHost bindPort call.target).lease now call.target).leaseCount
      call.target = entry.leaseCount call.target + 1 := by
    rw [JumpEntry.leaseCount_lease listened, JumpEntry.leaseCount_listen unbound]
  have absent : (⟨chainSignature call.hops, call.target⟩ : Slot) ∉ state.listening := by
    intro listed
    have bound := (inv.listening _).mp listed
    rw [Pool.bound_found found, unbound] at bound
    cases bound
  have leased := inv.leased found frame count (JumpEntry.bound_lease.trans listened)
    (⟨chainSignature call.hops, call.target⟩ :: state.listening)
    (fun slot => by rw [List.mem_cons, or_comm]) (List.nodup_cons.mpr ⟨absent, inv.distinct⟩)
  simp only [Tunnels.listenerOpened, found]
  exact leased _ rfl rfl JumpEntry.frame_listen.conn

theorem PoolInv.opened (inv : PoolInv state) (absent : state.jumps.lookup sig = none)
    (hops : List HopCreds) :
    PoolInv { state with
      jumps := state.jumps.insert sig { conn := ⟨state.opened, hops⟩, lastActive := now }
      opened := state.opened + 1 } where
  counted slot := (Pool.leaseCount_insert_bare absent Pool.bare_new).trans (inv.counted slot)
  bound slot := by
    rw [Pool.leaseCount_insert_bare absent Pool.bare_new, Pool.bound_insert_bare absent Pool.bare_new]
    exact inv.bound slot
  listening slot := by
    rw [Pool.bound_insert_bare absent Pool.bare_new]
    exact inv.listening slot
  distinct := inv.distinct
  alive other row listed := by
    by_cases same : other = sig
    · subst same
      rw [AList.lookup_insert] at listed
      cases listed
      exact ⟨fun closed => Nat.lt_irrefl _ (inv.past _ closed), Nat.lt_succ_self _⟩
    · rw [AList.lookup_insert_ne same] at listed
      have old := inv.alive other row listed
      exact ⟨old.1, Nat.lt_succ_of_lt old.2⟩
  past id closed := Nat.lt_succ_of_lt (inv.past id closed)
  apart first second row other listed otherListed same := by
    by_cases firstNew : first = sig
    · by_cases secondNew : second = sig
      · exact firstNew.trans secondNew.symm
      · subst firstNew
        rw [AList.lookup_insert] at listed
        rw [AList.lookup_insert_ne secondNew] at otherListed
        cases listed
        exact absurd same.symm (Nat.ne_of_lt (inv.alive second other otherListed).2)
    · rw [AList.lookup_insert_ne firstNew] at listed
      by_cases secondNew : second = sig
      · subst secondNew
        rw [AList.lookup_insert] at otherListed
        cases otherListed
        exact absurd same (Nat.ne_of_lt (inv.alive first row listed).2)
      · rw [AList.lookup_insert_ne secondNew] at otherListed
        exact inv.apart first second row other listed otherListed same
  behind lease member kept := by
    obtain ⟨row, present, conn⟩ := inv.behind lease member kept
    have old : lease.slot.sig ≠ sig := by
      rintro rfl
      rw [absent] at present
      cases present
    exact ⟨row, (AList.lookup_insert_ne old).trans present, conn⟩

theorem PoolInv.release (inv : PoolInv state) (found : state.leases[index]? = some lease) :
    PoolInv (release state index lease) := by
  unfold Tunnels.release
  split
  · exact inv
  · exact {
      inv with
      counted := fun slot => by
        have same : held (state.leases.set index { lease with released := true }) slot =
            held state.leases slot := held_set found rfl rfl
        exact (inv.counted slot).trans (congrArg Nat.cast same.symm)
      behind := by
        intro given member kept
        rcases List.mem_or_eq_of_mem_set member with old | rfl
        · exact inv.behind given old kept
        · exact inv.behind lease (List.mem_of_getElem? found) kept }

theorem held_bound (inv : PoolInv state) (member : lease ∈ state.leases) (kept : lease.returns = 0) :
    0 < Pool.leaseCount state.jumps lease.slot ∧ Pool.bound state.jumps lease.slot = true := by
  have positive : 0 < Pool.leaseCount state.jumps lease.slot := by
    have held := held_pos member kept
    rw [inv.counted]
    omega
  exact ⟨positive, (inv.bound lease.slot).mpr positive⟩

theorem PoolInv.giveBack (inv : PoolInv state) (found : state.leases[index]? = some lease)
    (kept : lease.returns = 0) : PoolInv (giveBack state index lease now) := by
  have member : lease ∈ state.leases := List.mem_of_getElem? found
  obtain ⟨entry, present, conn⟩ := inv.behind lease member kept
  obtain ⟨positive, listening⟩ := held_bound inv member kept
  have counted := inv.counted lease.slot
  have given : ∀ slot, held (state.leases.set index { lease with returns := lease.returns + 1 }) slot =
      held state.leases slot - if slot = lease.slot then 1 else 0 :=
    fun slot => held_returned found kept rfl (by rw [kept])
  simp only [Tunnels.giveBack, present]
  cases placed : lease.slot with | mk sig target =>
  rw [placed] at present positive listening given counted
  simp only at present
  rw [Pool.leaseCount_found present] at positive counted
  rw [Pool.bound_found present] at listening
  have frame : JumpEntry.Frame entry (entry.unlease now target) target := JumpEntry.frame_unlease
  have count : (entry.unlease now target).leaseCount target = entry.leaseCount target - 1 :=
    JumpEntry.leaseCount_unlease positive
  have bound : (entry.unlease now target).bound target = !entry.closes target :=
    JumpEntry.bound_unlease listening
  have closes : entry.closes target = true ↔ entry.leaseCount target ≤ 1 := by
    simp only [JumpEntry.closes, listening, Bool.true_and, decide_eq_true_eq]
    omega
  exact {
    counted := by
      intro slot
      rw [Pool.leaseCount_insert present frame, given]
      by_cases same : slot = ⟨sig, target⟩
      · rw [if_pos same, if_pos same, same]
        omega
      · rw [if_neg same, if_neg same]
        exact inv.counted slot
    bound := by
      intro slot
      rw [Pool.leaseCount_insert present frame, Pool.bound_insert present frame]
      by_cases same : slot = ⟨sig, target⟩
      · rw [if_pos same, if_pos same, bound, Bool.not_eq_true', ← Bool.not_eq_true, closes]
        omega
      · rw [if_neg same, if_neg same]
        exact inv.bound slot
    listening := by
      intro slot
      rw [Pool.bound_insert present frame]
      by_cases same : slot = ⟨sig, target⟩
      · rw [if_pos same, same, bound]
        have listed : (⟨sig, target⟩ : Slot) ∈ state.listening :=
          (inv.listening _).mpr ((Pool.bound_found present).trans listening)
        cases last : entry.closes target with
        | true => simp [inv.distinct.not_mem_erase]
        | false => simpa using listed
      · rw [if_neg same, ← inv.listening slot]
        split
        · exact List.mem_erase_of_ne same
        · exact Iff.rfl
    distinct := by
      split
      · exact inv.distinct.erase _
      · exact inv.distinct
    alive := by
      intro other row listed
      obtain ⟨old, before, same⟩ := lookup_replaced present frame.conn listed
      rw [same]
      exact inv.alive other old before
    past := inv.past
    apart := by
      intro first second row other listed otherListed same
      obtain ⟨old, before, sameConn⟩ := lookup_replaced present frame.conn listed
      obtain ⟨otherOld, otherBefore, otherConn⟩ := lookup_replaced present frame.conn otherListed
      rw [sameConn, otherConn] at same
      exact inv.apart first second old otherOld before otherBefore same
    behind := by
      intro other listed unreturned
      rcases List.mem_or_eq_of_mem_set listed with old | rfl
      · obtain ⟨row, before, sameConn⟩ := inv.behind other old unreturned
        obtain ⟨replaced, after, kept⟩ := lookup_kept present frame.conn before
        exact ⟨replaced, after, kept.trans sameConn⟩
      · simp at unreturned }

theorem PoolInv.erased (inv : PoolInv state) (found : state.jumps.lookup sig = some entry)
    (idle : entry.unused = true) :
    PoolInv { state with
      jumps := state.jumps.erase sig
      closed := entry.conn.id :: state.closed
      listening := state.listening.filter fun slot => slot.sig ≠ sig } := by
  have unbound : ∀ slot, slot.sig = sig → Pool.bound state.jumps slot = false := by
    rintro ⟨slotSig, target⟩ rfl
    exact (Pool.bound_found found).trans (JumpEntry.unused_unbound idle)
  have bare : Pool.Bare entry := by
    refine ⟨?_, fun target => JumpEntry.unused_unbound idle⟩
    intro target
    have counted := inv.counted ⟨sig, target⟩
    have positive := inv.bound ⟨sig, target⟩
    rw [unbound _ rfl, Pool.leaseCount_found found] at positive
    rw [Pool.leaseCount_found found] at counted
    have zero : ¬ 0 < entry.leaseCount target := fun more => absurd (positive.mpr more) Bool.false_ne_true
    omega
  have kept : state.listening.filter (fun slot => slot.sig ≠ sig) = state.listening := by
    refine List.filter_eq_self.mpr ?_
    intro slot listed
    have bound := (inv.listening slot).mp listed
    have different : slot.sig ≠ sig := by
      intro same
      rw [unbound slot same] at bound
      cases bound
    simpa using different
  rw [kept]
  exact {
    counted := fun slot => (Pool.leaseCount_erase_bare found bare).trans (inv.counted slot)
    bound := by
      intro slot
      rw [Pool.leaseCount_erase_bare found bare, Pool.bound_erase_bare found bare]
      exact inv.bound slot
    listening := by
      intro slot
      rw [Pool.bound_erase_bare found bare]
      exact inv.listening slot
    distinct := inv.distinct
    alive := by
      intro other row listed
      obtain ⟨different, present⟩ := lookup_erased listed
      have old := inv.alive other row present
      refine ⟨?_, old.2⟩
      rw [List.mem_cons, not_or]
      exact ⟨fun equal => different (inv.apart other sig row entry present found equal), old.1⟩
    past := by
      intro id closed
      rcases List.mem_cons.mp closed with rfl | before
      · exact (inv.alive sig entry found).2
      · exact inv.past id before
    apart := by
      intro first second row other listed otherListed same
      exact inv.apart first second row other (lookup_erased listed).2 (lookup_erased otherListed).2 same
    behind := by
      intro lease member unreturned
      have different : lease.slot.sig ≠ sig := by
        intro same
        have bound := (held_bound inv member unreturned).2
        rw [unbound lease.slot same] at bound
        cases bound
      obtain ⟨row, listed, conn⟩ := inv.behind lease member unreturned
      exact ⟨row, (AList.lookup_erase_ne different).trans listed, conn⟩ }

theorem PoolInv.reap (inv : PoolInv state) : PoolInv (reap now state sig) := by
  unfold Tunnels.reap
  cases found : state.jumps.lookup sig with
  | none => exact inv
  | some entry =>
      simp only
      by_cases idle : entry.unused = true
      · rw [if_neg (by simp [idle])]
        split
        · exact inv
        · exact inv.erased found idle
      · rw [if_pos (by simpa using idle)]
        exact inv

theorem PoolInv.gc (inv : PoolInv state) : PoolInv (gc state now) := by
  unfold Tunnels.gc
  induction state.jumps.keys generalizing state with
  | nil => exact inv
  | cons sig rest ih => exact ih inv.reap

end Pool

end Dosm.Jumps.Tunnels
