import Dosm.Jumps.LeaseAccounting

namespace Dosm.Jumps.Tunnels

open Models Transition

/-! Whose login is behind a lease.

The pool knows a connection by the ids of its jump hosts alone. The material the
hops were opened with also depends on who connected, and on rows that may have
been edited since.
-/

def materials (hops : List HopCreds) : List Material := hops.map HopCreds.material

/-- A call that finds a connection under its jump hosts resolved the very
material that connection was opened with. -/
def SameMaterial (state : State) : Label → Prop
  | .enter (.acquiring call) _ =>
      ∀ entry, state.jumps.lookup (chainSignature call.hops) = some entry →
        materials entry.conn.hops = materials call.hops
  | _ => True

structure Identified (state : State) : Prop where
  leases : ∀ lease ∈ state.leases, materials lease.conn.hops = materials lease.hops
  opening : ∀ call entry, state.lock = some (.listener call) →
    state.jumps.lookup (chainSignature call.hops) = some entry →
    materials entry.conn.hops = materials call.hops

section Steps

variable {decode : String → Option (String × String)} {state after : State} {call : Call}
  {entry : JumpEntry} {lease changed : Lease} {index : Nat} {now : Int} {task : Task} {sid : String}

theorem grant_leases (identified : ∀ lease ∈ state.leases, materials lease.conn.hops = materials lease.hops)
    (same : materials entry.conn.hops = materials call.hops) :
    ∀ lease ∈ (grant state call entry now).leases, materials lease.conn.hops = materials lease.hops := by
  intro lease member
  rcases List.mem_append.mp member with old | new
  · exact identified lease old
  · cases List.mem_singleton.mp new
    exact same

theorem reachTarget_identified
    (identified : ∀ lease ∈ state.leases, materials lease.conn.hops = materials lease.hops)
    (free : state.lock = none) (found : state.jumps.lookup (chainSignature call.hops) = some entry)
    (same : materials entry.conn.hops = materials call.hops) :
    Identified (reachTarget state call entry now) := by
  unfold reachTarget
  split
  · refine ⟨grant_leases identified same, ?_⟩
    intro other row held
    rw [grant, free] at held
    cases held
  · refine ⟨identified, ?_⟩
    intro other row held listed
    cases held
    cases found.symm.trans listed
    exact same

theorem resume_identified {opening : Opening} {answer : Option Nat} (inv : Identified state)
    (held : state.lock = some opening) : Identified (resume state opening answer now) := by
  have unlocked : Identified { state with lock := none } := ⟨inv.leases, fun _ _ held => nomatch held⟩
  cases answer with
  | none => exact unlocked
  | some bindPort =>
      cases opening with
      | chain call =>
          exact reachTarget_identified inv.leases rfl (AList.lookup_insert _) rfl
      | listener call =>
          simp only [resume, listenerOpened]
          split
          · exact unlocked
          · rename_i entry found
            have same := inv.opening call entry held found
            have conn : (entry.listen call.bindHost bindPort call.target).conn = entry.conn :=
              JumpEntry.frame_listen.conn
            refine ⟨grant_leases inv.leases (by rw [conn, same]), ?_⟩
            intro other row lock
            cases lock

theorem set_identified (identified : ∀ lease ∈ state.leases, materials lease.conn.hops = materials lease.hops)
    (found : state.leases[index]? = some lease) (conn : changed.conn = lease.conn)
    (hops : changed.hops = lease.hops) :
    ∀ lease ∈ state.leases.set index changed, materials lease.conn.hops = materials lease.hops := by
  intro given member
  rcases List.mem_or_eq_of_mem_set member with old | rfl
  · exact identified given old
  · rw [conn, hops]
    exact identified lease (List.mem_of_getElem? found)

theorem release_identified (inv : Identified state) (found : state.leases[index]? = some lease) :
    Identified (release state index lease) := by
  unfold release
  split
  · exact inv
  · exact ⟨set_identified inv.leases found rfl rfl, inv.opening⟩

theorem enter_identified (inv : Identified state) (free : state.lock = none)
    (same : SameMaterial state (.enter task now)) :
    Identified (enter { state with waiting := state.waiting.erase task } task now) := by
  have idle : ∀ (other : State), other.leases = state.leases → other.lock = none → Identified other := by
    intro other leases lock
    refine ⟨by rw [leases]; exact inv.leases, ?_⟩
    intro call entry held
    rw [lock] at held
    cases held
  cases task with
  | acquiring call =>
      simp only [enter, enterAcquire]
      split
      · refine ⟨inv.leases, ?_⟩
        intro other row held
        cases held
      · rename_i entry found
        exact reachTarget_identified inv.leases free found (same entry found)
  | releasing index =>
      cases found : state.leases[index]? with
      | none =>
          simp only [enter, found]
          exact idle _ rfl free
      | some lease =>
          simp only [enter, found, giveBack]
          split
          · exact ⟨set_identified inv.leases found rfl rfl, fun _ _ held => by cases free.symm.trans held⟩
          · exact ⟨set_identified inv.leases found rfl rfl, fun _ _ held => by cases free.symm.trans held⟩
  | registering sid index => exact idle _ rfl free
  | unregistering sid =>
      simp only [enter, enterReleaseSession]
      split
      · exact idle _ rfl free
      · split
        · exact idle _ rfl free
        · rename_i found
          exact release_identified (idle _ rfl free) found
  | collecting started =>
      have same : ∀ before : State, (gc before started).leases = before.leases ∧
          (gc before started).waiting = before.waiting ∧ (gc before started).lock = before.lock :=
        fun before => gc_same
      exact idle _ (same _).1 ((same _).2.2.trans free)

theorem step_identified {label : Label} (same : SameMaterial state label)
    (stepped : step decode state label = some after) (inv : Identified state) : Identified after := by
  cases step_moves stepped with
  | queue asleep task other => exact ⟨inv.leases, inv.opening⟩
  | idle => exact inv
  | release found => exact release_identified inv found
  | enter free member => exact enter_identified inv free same
  | answer held => exact resume_identified inv held

end Steps

/-- The users' own logins for the jump box, as the backend keeps them. -/
def decodePim (text : String) : Option (String × String) :=
  if text = "\x7b\"username\": \"ann\", \"password\": \"a1\"\x7d" then some ("ann", "a1")
  else if text = "\x7b\"username\": \"bob\", \"password\": \"b2\"\x7d" then some ("bob", "b2")
  else none

def pim (id : Int) : Credential where
  id
  tenantId := 1
  name := "PIM"
  kind := .dynamic
  username := none
  domain := none
  secretRef := "t/acme/credentials/pim"
  ownerId := none
  visibility := .shared
  orgUnitId := none

/-- The jump box asks each user for a login of their own. -/
def personalBox (userId : Nat) : World where
  db := {
    credentials := Table.empty.insert pim
    hosts := (Table.empty.insert fun id => { box with id, credentialId := some 1 }).insert
      (fun id => { web with id }) web_key }
  secrets :=
    ((∅ : Secrets.Backend).insert "t/acme/credentials/pim/u/7"
      "\x7b\"username\": \"ann\", \"password\": \"a1\"\x7d").insert "t/acme/credentials/pim/u/8"
      "\x7b\"username\": \"bob\", \"password\": \"b2\"\x7d"
  connectingUser := some userId

def boxCall (username password : String) : Call where
  hops := [⟨1, "box", "10.0.0.1", 22, .ssh, username, some password, none⟩]
  target := .forward "10.0.0.2" 22
  bindHost := "0.0.0.0"

def annConnects : List Label :=
  [.acquire (personalBox 7) web "0.0.0.0" none, .enter (.acquiring (boxCall "ann" "a1")) 0,
    .answer (some 0) 1, .answer (some 40001) 2]

def bobConnects : List Label :=
  [.acquire (personalBox 8) web "0.0.0.0" none, .enter (.acquiring (boxCall "bob" "b2")) 3]

instance (state : State) (label : Label) : Decidable (SameMaterial state label) :=
  match label with
  | .enter (.acquiring call) _ =>
      inferInstanceAs (Decidable (∀ entry, state.jumps.lookup (chainSignature call.hops) = some entry →
        materials entry.conn.hops = materials call.hops))
  | .enter (.releasing _) _ | .enter (.registering _ _) _ | .enter (.unregistering _) _
  | .enter (.collecting _) _ | .acquire .. | .acquireSocks .. | .release _ | .registerSession ..
  | .releaseSession _ | .expire _ | .gc _ | .answer .. => isTrue trivial

end Dosm.Jumps.Tunnels
