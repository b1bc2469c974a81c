import Mathlib.Logic.Relation
import Dosm.Hosts.Repo

namespace Dosm.Hosts

open Models Transition Checks

/-! The graph of jump hosts.

A jump box connects directly and a host jumps through a jump box only. Following
jumps has no guard of its own: it ends because no chain is longer than one hop.
-/

inductive HostCall where
  | create (tenant : Int) (args : HostArgs)
  | update (id : Int) (args : HostArgs)
  | delete (id : Int)

/-- A call that raises leaves the inventory as it was. -/
def perform (db : Database) : HostCall → Database
  | .create tenant args =>
      match createHost db tenant args with
      | .ok (after, _) => after
      | .error _ => db
  | .update id args =>
      match db.hosts.get id with
      | none => db
      | some host =>
          match updateHost db host args with
          | .ok after => after
          | .error _ => db
  | .delete id => deleteHost db id

def hostSystem : Machine Database HostCall where
  initial db := db.hosts = .empty
  step db call := some (perform db call)

/-- The jump host is there, in the tenant, and is a jump box that connects directly. -/
def JumpsDirectly (hosts : Table Host) (tenant : Int) (jumpHostId : Option Int) : Prop :=
  ∀ id, jumpHostId = some id → ∃ jump, hosts.get id = some jump ∧ jump.tenantId = tenant ∧
    jump.isJumpbox = true ∧ jump.jumpHostId = none

structure JumpGraph (hosts : Table Host) : Prop where
  jumps : ∀ host ∈ hosts.rows, JumpsDirectly hosts host.tenantId host.jumpHostId
  direct : ∀ host ∈ hosts.rows, host.isJumpbox = true → host.jumpHostId = none

def JumpsTo (hosts : Table Host) (first second : Int) : Prop :=
  ∃ host, hosts.get first = some host ∧ host.jumpHostId = some second ∧ (hosts.get second).isSome

def Acyclic (hosts : Table Host) : Prop := ∀ id, ¬ Relation.TransGen (JumpsTo hosts) id id

section Writers

variable {db after : Database} {hosts : Table Host} {tenant hostId id : Int} {self jumpHostId : Option Int}
  {host draft : Host} {args : HostArgs} {unflag : Except HostError Unit} {names : List String}

theorem validateJump_jumpbox (valid : validateJump db self jumpHostId tenant = .ok ()) :
    (∀ id, jumpHostId = some id → self ≠ some id) ∧
      ∀ id, jumpHostId = some id → ∃ jump, db.hosts.get id = some jump ∧ jump.tenantId = tenant ∧
        jump.isJumpbox = true := by
  obtain ⟨notSelf, chain⟩ := guard_ok valid
  cases jumpHostId with
  | none => simp
  | some first =>
      constructor
      · rintro _ ⟨⟩ same
        exact notSelf ⟨Option.some_ne_none _, same.symm⟩
      · rintro _ ⟨⟩
        simp only [validateChain] at chain
        obtain ⟨_, chain⟩ := guard_ok chain
        cases found : db.hosts.getOwned tenant first with
        | none => simp [found] at chain
        | some jump =>
            simp only [found] at chain
            obtain ⟨flagged, _⟩ := guard_ok chain
            obtain ⟨present, owned⟩ := Option.filter_eq_some_iff.mp found
            exact ⟨jump, present, by simpa [owner] using owned, by simpa using flagged⟩

structure Validated (db : Database) (tenant : Int) (hostId : Option Int) (args : HostArgs)
    (draft : Host) : Prop where
  tenantId : draft.tenantId = tenant
  isJumpbox : draft.isJumpbox = args.isJumpbox
  direct : draft.isJumpbox = true → draft.jumpHostId = none
  notSelf : ∀ id, draft.jumpHostId = some id → hostId ≠ some id
  jumpbox : ∀ id, draft.jumpHostId = some id → ∃ jump, db.hosts.get id = some jump ∧
    jump.tenantId = tenant ∧ jump.isJumpbox = true

theorem validateHost_validated (valid : validateHost db tenant self args unflag = .ok draft) :
    Validated db tenant self args draft ∧ unflag = .ok () := by
  obtain ⟨protocol, _, valid⟩ := bind_ok valid
  obtain ⟨ftMethod, _, valid⟩ := bind_ok valid
  obtain ⟨orgUnitId, _, valid⟩ := bind_ok valid
  obtain ⟨credentialId, _, valid⟩ := bind_ok valid
  obtain ⟨ftCredentialId, _, valid⟩ := bind_ok valid
  obtain ⟨_, unflagged, valid⟩ := bind_ok valid
  obtain ⟨_, jumpValid, built⟩ := bind_ok valid
  cases built
  obtain ⟨notSelf, jumpbox⟩ := validateJump_jumpbox jumpValid
  refine ⟨?_, unflagged⟩
  exact {
    tenantId := rfl
    isJumpbox := rfl
    direct := fun flagged => if_pos flagged
    notSelf
    jumpbox }

theorem tags_hosts : (names.foldl (tagHost tenant hostId) db).hosts = db.hosts := by
  induction names generalizing db with
  | nil => rfl
  | cons name rest ih =>
      rw [List.foldl_cons, ih]
      simp only [tagHost, getOrCreateTag]
      split
      · rfl
      · rfl

theorem createHost_hosts (created : createHost db tenant args = .ok (after, hostId)) :
    ∃ draft, Validated db tenant none args draft ∧
      after.hosts = db.hosts.insert fun id => { draft with id } := by
  obtain ⟨draft, valid, created⟩ := bind_ok created
  refine ⟨draft, (validateHost_validated valid).1, ?_⟩
  split at created
  · cases created
  · cases created
    exact tags_hosts

theorem updateHost_hosts (updated : updateHost db host args = .ok after) :
    ∃ draft, Validated db host.tenantId (some host.id) args draft ∧
      unflagCheck db host args.isJumpbox = .ok () ∧
      after.hosts = db.hosts.modify host.id fun row =>
        { draft with id := row.id, tenantId := row.tenantId } := by
  obtain ⟨draft, valid, updated⟩ := bind_ok updated
  obtain ⟨validated, unflagged⟩ := validateHost_validated valid
  refine ⟨draft, validated, unflagged, ?_⟩
  split at updated
  · cases updated
  · cases updated
    exact tags_hosts

theorem unflagCheck_keeps (kept : unflagCheck db host args.isJumpbox = .ok ())
    (flagged : host.isJumpbox = true) {other : Host} (member : other ∈ db.hosts.rows)
    (uses : other.jumpHostId = some host.id) : args.isJumpbox = true := by
  by_contra unset
  have used : db.hosts.rows.any (fun row => row.jumpHostId = some host.id) = true :=
    List.any_eq_true.mpr ⟨other, member, by simp [uses]⟩
  simp [unflagCheck, flagged, unset, used] at kept

/-! What each writer preserves. -/

theorem JumpGraph.jumpsDirectly (graph : JumpGraph db.hosts)
    (jumpbox : ∀ id, jumpHostId = some id → ∃ jump, db.hosts.get id = some jump ∧
      jump.tenantId = tenant ∧ jump.isJumpbox = true) :
    JumpsDirectly db.hosts tenant jumpHostId := by
  intro id same
  obtain ⟨jump, found, owned, flagged⟩ := jumpbox id same
  have member := (Table.get_eq_some_iff.mp found).1
  exact ⟨jump, found, owned, flagged, graph.direct jump member flagged⟩

theorem JumpGraph.insert (graph : JumpGraph db.hosts) (validated : Validated db tenant none args draft) :
    JumpGraph (db.hosts.insert fun id => { draft with id }) where
  jumps host member := by
    have onward : ∀ tenant jumpHostId, JumpsDirectly db.hosts tenant jumpHostId →
        JumpsDirectly (db.hosts.insert fun id => { draft with id }) tenant jumpHostId := by
      intro tenant jumpHostId directly id same
      obtain ⟨jump, found, rest⟩ := directly id same
      exact ⟨jump, Table.get_insert_of_get found, rest⟩
    rcases Table.mem_insert.mp member with old | rfl
    · exact onward _ _ (graph.jumps host old)
    · apply onward
      rw [validated.tenantId]
      exact graph.jumpsDirectly validated.jumpbox
  direct host member flagged := by
    rcases Table.mem_insert.mp member with old | rfl
    · exact graph.direct host old flagged
    · exact validated.direct flagged

theorem JumpGraph.modify (graph : JumpGraph db.hosts) (member : host ∈ db.hosts.rows)
    (validated : Validated db host.tenantId (some host.id) args draft)
    (kept : unflagCheck db host args.isJumpbox = .ok ()) :
    JumpGraph (db.hosts.modify host.id fun row =>
      { draft with id := row.id, tenantId := row.tenantId }) where
  jumps row rowMember := by
    obtain ⟨old, oldMember, changed⟩ := Table.mem_modify.mp rowMember
    by_cases edited : key old = host.id
    · have isHost : old = host := Table.eq_of_key oldMember member edited
      rw [if_pos edited, isHost] at changed
      subst changed
      intro id same
      obtain ⟨jump, found, rest⟩ := graph.jumpsDirectly validated.jumpbox id same
      have other : id ≠ host.id := fun equal => validated.notSelf id same (equal ▸ rfl)
      exact ⟨jump, (Table.get_modify_other other).trans found, rest⟩
    · rw [if_neg edited] at changed
      subst changed
      intro id same
      obtain ⟨jump, found, owned, flagged, direct⟩ := graph.jumps row oldMember id same
      by_cases target : id = host.id
      · have isHost : jump = host :=
          Table.eq_of_key (Table.get_eq_some_iff.mp found).1 member
            ((Table.get_eq_some_iff.mp found).2.trans target)
        rw [isHost] at flagged owned
        have stays : draft.isJumpbox = true :=
          validated.isJumpbox.trans (unflagCheck_keeps kept flagged oldMember (target ▸ same))
        refine ⟨_, Table.get_modify_of_eq target found, ?_, stays, validated.direct stays⟩
        exact (congrArg Host.tenantId isHost).trans owned
      · exact ⟨jump, (Table.get_modify_other target).trans found, owned, flagged, direct⟩
  direct row rowMember flagged := by
    obtain ⟨old, oldMember, changed⟩ := Table.mem_modify.mp rowMember
    by_cases edited : key old = host.id
    · rw [if_pos edited] at changed
      subst changed
      exact validated.direct flagged
    · rw [if_neg edited] at changed
      subst changed
      exact graph.direct row oldMember flagged

theorem JumpGraph.delete (graph : JumpGraph db.hosts) : JumpGraph (deleteHost db id).hosts where
  jumps row rowMember := by
    obtain ⟨old, oldMember, changed⟩ := List.mem_map.mp rowMember
    have present := (Table.mem_remove.mp oldMember).1
    subst changed
    intro jumpId same
    by_cases cleared : old.jumpHostId = some id
    · simp [cleared] at same
    · simp only [if_neg cleared] at same
      obtain ⟨jump, found, owned, flagged, direct⟩ := graph.jumps old present jumpId same
      have other : jumpId ≠ id := fun equal => cleared (equal ▸ same)
      refine ⟨{ jump with jumpHostId := none }, ?_, owned, flagged, rfl⟩
      have remains : (db.hosts.remove id).get jumpId = some jump :=
        (Table.get_remove_other other).trans found
      simp [deleteHost, Table.get_map, remains, direct]
  direct row rowMember flagged := by
    obtain ⟨old, oldMember, changed⟩ := List.mem_map.mp rowMember
    subst changed
    have direct : old.jumpHostId = none :=
      graph.direct old (Table.mem_remove.mp oldMember).1 flagged
    simp [direct]

theorem perform_jumpGraph {call : HostCall} (graph : JumpGraph db.hosts) :
    JumpGraph (perform db call).hosts := by
  cases call with
  | create tenant args =>
      cases created : createHost db tenant args with
      | error error => simpa only [perform, created] using graph
      | ok result =>
          obtain ⟨draft, validated, inserted⟩ := createHost_hosts created
          simp only [perform, created, inserted]
          exact graph.insert validated
  | update id args =>
      cases found : db.hosts.get id with
      | none => simpa only [perform, found] using graph
      | some host =>
          cases updated : updateHost db host args with
          | error error => simpa only [perform, found, updated] using graph
          | ok after =>
              obtain ⟨draft, validated, kept, modified⟩ := updateHost_hosts updated
              simp only [perform, found, updated, modified]
              exact graph.modify (Table.get_eq_some_iff.mp found).1 validated kept
  | delete id => exact graph.delete

end Writers

section Chains

variable {db : Database} {host : Host} {first second third : Int}

theorem JumpGraph.one_hop (graph : JumpGraph db.hosts) (jumps : JumpsTo db.hosts first second) :
    ¬ JumpsTo db.hosts second third := by
  obtain ⟨host, found, same, _⟩ := jumps
  rintro ⟨jump, jumpFound, onward, _⟩
  obtain ⟨target, targetFound, _, _, direct⟩ :=
    graph.jumps host (Table.get_eq_some_iff.mp found).1 second same
  have isTarget : jump = target := Option.some.inj (jumpFound.symm.trans targetFound)
  rw [isTarget, direct] at onward
  cases onward

theorem JumpGraph.acyclic (graph : JumpGraph db.hosts) : Acyclic db.hosts := by
  intro id cycle
  obtain ⟨second, jumps, _⟩ := Relation.TransGen.head'_iff.mp cycle
  obtain ⟨last, _, closes⟩ := Relation.TransGen.tail'_iff.mp cycle
  exact graph.one_hop closes jumps

theorem JumpGraph.resolves (graph : JumpGraph db.hosts) (member : host ∈ db.hosts.rows) (fuel : Nat) :
    ∃ chain, resolveJumpChain db (fuel + 1) host = some chain ∧ chain.length ≤ 1 := by
  cases same : host.jumpHostId with
  | none => exact ⟨[], by simp [resolveJumpChain, same, followJumps], Nat.zero_le _⟩
  | some id =>
      obtain ⟨jump, found, _, _, direct⟩ := graph.jumps host member id same
      exact ⟨[jump], by simp [resolveJumpChain, same, followJumps, found, direct], Nat.le_refl _⟩

end Chains

/-- Whatever hosts are created, edited and deleted, a host connects directly or
through one jump box of its tenant that connects directly. -/
theorem jump_graph {db : Database} (reached : hostSystem.Reachable db) :
    (∀ host ∈ db.hosts.rows, JumpsDirectly db.hosts host.tenantId host.jumpHostId) ∧
      Acyclic db.hosts ∧
      ∀ host ∈ db.hosts.rows, ∀ fuel,
        ∃ chain, resolveJumpChain db (fuel + 1) host = some chain ∧ chain.length ≤ 1 := by
  have starts : ∀ start, hostSystem.initial start → JumpGraph start.hosts := by
    intro start begins
    have blank : start.hosts = .empty := begins
    rw [blank]
    exact ⟨fun _ member => absurd member List.not_mem_nil, fun _ member => absurd member List.not_mem_nil⟩
  have preserved : ∀ before call after, hostSystem.step before call = some after →
      JumpGraph before.hosts → JumpGraph after.hosts := by
    intro before call after stepped graph
    cases stepped
    exact perform_jumpGraph graph
  have graph := reached.invariant starts preserved
  exact ⟨graph.jumps, graph.acyclic, fun host member fuel => graph.resolves member fuel⟩

def boxArgs : HostArgs where
  name := "box"
  hostname := "10.0.0.1"
  port := 22
  protocol := "ssh"
  description := none
  credentialId := none
  jumpHostId := none
  tagsCsv := ""
  isJumpbox := true

def acme : Database where
  tenants := Table.empty.insert (fun id => { id, name := "Acme", slug := "acme" }) (Tenant.keyed _ _)

def behindBox : List HostCall :=
  [.create 1 boxArgs, .create 1 { boxArgs with name := "web", jumpHostId := some 1, isJumpbox := false }]

theorem jump_graph_behind_box :
    ∃ db, hostSystem.run acme behindBox = some db ∧
      db.hosts.rows.map Host.jumpHostId = [none, some 1] ∧ Acyclic db.hosts :=
  ⟨_, rfl, by decide +kernel, (jump_graph ⟨acme, behindBox, rfl, rfl⟩).2.1⟩

end Dosm.Hosts
