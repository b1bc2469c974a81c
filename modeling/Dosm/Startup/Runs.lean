import Dosm.Auth.RoleSafety
import Dosm.Startup.Restart

namespace Dosm.Startup

open Auth Models Transition Upkeep

/-! Which operations keep the application able to start. -/

def savedName (db : Database) : Hosts.HostCall → Option String
  | .create tenant args => (Hosts.createHost db tenant args).toOption.map fun _ => args.name
  | .update id args =>
      (db.hosts.get id).bind fun host => (Hosts.updateHost db host args).toOption.map fun _ => args.name
  | .delete _ => none

/-- The operation saves no host under the name of the seeded ones. -/
def KeepsName (site : Site) : Operation → Prop
  | .host call => savedName site.database call ≠ some seededName
  | .start | .account _ | .tenant _ | .port _ => True

section Tenants

variable {site : Site} {state after : Accounts} {name slug : String} {tenantId : Int}

def TenantsKept (before after : Table Tenant) : Prop :=
  ∀ tenant ∈ before.rows, ∃ later ∈ after.rows, later.id = tenant.id ∧ later.slug = tenant.slug

theorem tenantsKept_refl {tenants : Table Tenant} : TenantsKept tenants tenants :=
  fun tenant member => ⟨tenant, member, rfl, rfl⟩

theorem insertTenant_kept (inserted : insertTenant state name slug = .ok after) :
    TenantsKept state.tenants after.tenants := by
  unfold insertTenant at inserted
  split at inserted
  · cases inserted
  · cases inserted
    intro tenant member
    exact ⟨tenant, (@Table.mem_insert _ _ _ _ (newTenant name slug) fun _ => rfl).mpr (.inl member), rfl, rfl⟩

theorem renameTenant_kept (renamed : renameTenant state tenantId name = .ok after) :
    TenantsKept state.tenants after.tenants := by
  unfold renameTenant at renamed
  split at renamed
  · cases renamed
  · cases renamed
    intro tenant member
    refine ⟨_, (@Table.mem_modify _ _ _ _ _ (retitle name) fun _ => rfl).mpr ⟨tenant, member, rfl⟩, ?_⟩
    split
    · exact ⟨rfl, rfl⟩
    · exact ⟨rfl, rfl⟩

theorem attemptTenant_kept {request : TenantRequest} (attempted : attemptTenant state request = .ok after) :
    TenantsKept state.tenants after.tenants := by
  cases request with
  | create actor name =>
      obtain ⟨_, _, rest⟩ := Checks.bind_ok attempted
      obtain ⟨_, rest⟩ := Checks.guard_ok rest
      obtain ⟨_, rest⟩ := Checks.guard_ok rest
      exact insertTenant_kept rest
  | rename actor tenantId name =>
      obtain ⟨_, _, rest⟩ := Checks.bind_ok attempted
      split at rest
      · cases rest
      · exact renameTenant_kept rest
  | toggle actor tenantId =>
      obtain ⟨_, _, rest⟩ := Checks.bind_ok attempted
      split at rest
      · cases rest
      · cases rest
        exact tenantsKept_refl
  | cliCreate name slug => exact insertTenant_kept attempted
  | cliRename slug newName =>
      simp only [attemptTenant, tenantCliRename] at attempted
      split at attempted
      · cases attempted
      · exact renameTenant_kept attempted

theorem attempt_tenants {request : Auth.Request} (attempted : state.attempt request = .ok after) :
    after.tenants = state.tenants := by
  cases request with
  | memberSetRole actor userId role tenantForm =>
      obtain ⟨user, _, rest⟩ := Checks.bind_ok attempted
      split at rest
      · cases rest
      · obtain ⟨_, _, same⟩ := Checks.bind_ok rest
        cases same
        rfl
  | mappingSave actor group tenantForm =>
      obtain ⟨user, _, rest⟩ := Checks.bind_ok attempted
      obtain ⟨_, rest⟩ := Checks.guard_ok rest
      obtain ⟨tenant, _, same⟩ := Checks.bind_ok rest
      cases same
      rfl
  | mappingDelete actor mappingId =>
      obtain ⟨user, _, rest⟩ := Checks.bind_ok attempted
      split at rest
      · cases rest
      · cases rest
        rfl
  | defaultSave actor defaultRole =>
      obtain ⟨user, _, rest⟩ := Checks.bind_ok attempted
      obtain ⟨_, same⟩ := Checks.require_ok rest
      cases same
      rfl
  | oktaCallback identity =>
      simp only [Accounts.attempt, Accounts.oktaCallback, Accounts.provisionUser] at attempted
      split at attempted
      · cases attempted
      · split at attempted
        · cases attempted
        · split at attempted
          · cases attempted
          · split at attempted
            · split at attempted
              · cases attempted
                rfl
              · cases attempted
            · split at attempted
              · cases attempted
              · cases attempted
                rfl
  | userCreate username role tenantSlug platformAdmin =>
      simp only [Accounts.attempt, Accounts.userCreate] at attempted
      split at attempted
      · cases attempted
      · split at attempted
        · cases attempted
          rfl
        · split at attempted
          · cases attempted
          · cases attempted
          · cases attempted
          · cases attempted
            rfl

theorem withAccounts_sound (sound : Sound site) (kept : TenantsKept site.tenants after.tenants) :
    Sound { site with accounts := after } where
  schema := sound.schema
  rooted := by
    obtain ⟨id, found⟩ := Option.isSome_iff_exists.mp sound.rooted
    obtain ⟨tenant, first, rfl⟩ := Option.map_eq_some_iff.mp found
    obtain ⟨later, member, _, same⟩ := kept tenant (List.mem_of_find?_eq_some first)
    have slugged : tenant.slug = "default" := by simpa using List.find?_some first
    unfold Accounts.tenantBySlug
    rw [Option.isSome_map, List.find?_isSome]
    exact ⟨later, member, by simp [same, slugged]⟩
  named := by
    refine ⟨sound.named.distinct, fun host member => ?_⟩
    obtain ⟨tenant, found⟩ := Option.isSome_iff_exists.mp (sound.named.placed host member)
    obtain ⟨listed, sameKey⟩ := Table.get_eq_some_iff.mp found
    obtain ⟨later, laterMember, sameId, _⟩ := kept tenant listed
    have placed : key later = host.tenantId := sameId.trans sameKey
    exact Option.isSome_of_eq_some (Table.get_eq_some_iff.mpr ⟨laterMember, placed⟩)
  seeded := sound.seeded

end Tenants

section Hosts

variable {db after : Database} {site : Site} {call : Hosts.HostCall} {saved : Option String}
  {unseat : Option Int}

/-- What a call does to the hosts, the name it saves one under, and the host it
deletes or saves. -/
inductive HostEffect (db after : Database) : Option String → Option Int → Prop where
  | refused (same : after = db) : HostEffect db after none none
  | created {name : String} {draft : Host} (named : draft.name = name)
      (hosts : after.hosts = db.hosts.insert (Hosts.rowAt draft)) : HostEffect db after (some name) none
  | saved {name : String} {host draft : Host} (found : db.hosts.get host.id = some host)
      (named : draft.name = name) (hosts : after.hosts = db.hosts.modify host.id (Hosts.savedRow draft)) :
      HostEffect db after (some name) (some host.id)
  | deleted {id : Int} (same : after = Hosts.deleteHost db id) : HostEffect db after none (some id)

theorem perform_effect (named : Hosts.Named db) :
    HostEffect db (Hosts.perform db call) (savedName db call) (unseated db call) ∧
      Hosts.Named (Hosts.perform db call) ∧ (Hosts.perform db call).tenants = db.tenants := by
  cases call with
  | create tenant args =>
      cases created : Hosts.createHost db tenant args with
      | error error =>
          simp only [Hosts.perform, savedName, unseated, created]
          exact ⟨.refused rfl, named, trivial⟩
      | ok result =>
          obtain ⟨draft, row, _, hosts, tenants⟩ := Hosts.createHost_row created
          simp only [Hosts.perform, savedName, unseated, created]
          exact ⟨.created row.1 hosts, named.create created, tenants⟩
  | update id args =>
      cases found : db.hosts.get id with
      | none =>
          simp only [Hosts.perform, savedName, unseated, found]
          exact ⟨.refused rfl, named, trivial⟩
      | some host =>
          have same : host.id = id := (Table.get_eq_some_iff.mp found).2
          subst same
          cases updated : Hosts.updateHost db host args with
          | error error =>
              simp only [Hosts.perform, savedName, unseated, found, Option.bind_some, updated]
              exact ⟨.refused rfl, named, trivial⟩
          | ok after =>
              obtain ⟨draft, row, _, hosts, tenants⟩ := Hosts.updateHost_row updated
              simp only [Hosts.perform, savedName, unseated, found, Option.bind_some, updated]
              exact ⟨.saved found row.1 hosts, named.update found updated, tenants⟩
  | delete id => exact ⟨.deleted rfl, named.delete, rfl⟩

def afterCall (site : Site) (inventory : Database) (unseat : Option Int) : Site :=
  { site with
    inventory
    localHosts := site.localHosts.filter fun id => unseat ≠ some id }

theorem mem_afterCall {id : Int} : id ∈ (afterCall site after unseat).localHosts ↔
    id ∈ site.localHosts ∧ unseat ≠ some id := by
  simp [afterCall]

theorem isLocal_afterCall {host : Host} : (afterCall site after unseat).isLocal host = true ↔
    site.isLocal host = true ∧ unseat ≠ some host.id := by
  unfold Site.isLocal
  rw [decide_eq_true_iff, decide_eq_true_iff]
  exact mem_afterCall

theorem mem_created {draft row : Host} (hosts : after.hosts = site.hosts.insert (Hosts.rowAt draft)) :
    row ∈ (afterCall site after unseat).hosts.rows ↔
      row ∈ site.hosts.rows ∨ row = Hosts.rowAt draft site.hosts.fresh := by
  have rows : (afterCall site after unseat).hosts = site.hosts.insert (Hosts.rowAt draft) := hosts
  rw [rows]
  exact @Table.mem_insert _ _ _ _ (Hosts.rowAt draft) fun _ => rfl

theorem mem_saved {id : Int} {draft row : Host}
    (hosts : after.hosts = site.hosts.modify id (Hosts.savedRow draft)) :
    row ∈ (afterCall site after unseat).hosts.rows ↔
      ∃ old ∈ site.hosts.rows, row = if key old = id then Hosts.savedRow draft old else old := by
  have rows : (afterCall site after unseat).hosts = site.hosts.modify id (Hosts.savedRow draft) := hosts
  rw [rows]
  exact @Table.mem_modify _ _ _ _ _ (Hosts.savedRow draft) fun _ => rfl

theorem HostEffect.seeded (effect : HostEffect site.database after saved unseat) (sound : Sound site) :
    ∀ id ∈ (afterCall site after unseat).localHosts,
      ∃ host, (afterCall site after unseat).hosts.get id = some host ∧ host.name = seededName := by
  intro id listed
  obtain ⟨before, seated⟩ := mem_afterCall.mp listed
  obtain ⟨host, found, named⟩ := sound.seeded id before
  obtain ⟨member, sameKey⟩ := Table.get_eq_some_iff.mp found
  cases effect with
  | refused same =>
      subst same
      exact ⟨host, found, named⟩
  | created _ hosts =>
      exact ⟨host, Table.get_eq_some_iff.mpr ⟨(mem_created hosts).mpr (.inl member), sameKey⟩, named⟩
  | saved _ _ hosts =>
      rename_i edited draft _ _
      have other : key host ≠ edited.id := fun same => seated (congrArg some (same.symm.trans sameKey))
      exact ⟨host, Table.get_eq_some_iff.mpr
        ⟨(mem_saved hosts).mpr ⟨host, member, (if_neg other).symm⟩, sameKey⟩, named⟩
  | deleted same =>
      subst same
      rename_i gone
      have other : id ≠ gone := fun same => seated (congrArg some same.symm)
      have remains : (site.hosts.remove gone).get id = some host := (Table.get_remove_other other).trans found
      refine ⟨{ host with jumpHostId := if host.jumpHostId = some gone then none else host.jumpHostId }, ?_, named⟩
      have rows : (afterCall site (Hosts.deleteHost site.database gone) (some gone)).hosts =
        (site.hosts.remove gone).map fun host =>
          { host with jumpHostId := if host.jumpHostId = some gone then none else host.jumpHostId } := rfl
      rw [rows, Table.get_map, remains]
      rfl

theorem HostEffect.reserved_iff (effect : HostEffect site.database after saved unseat) (ready : Ready site) :
    NameReserved (afterCall site after unseat) ↔ saved ≠ some seededName := by
  obtain ⟨sound, reserved⟩ := ready
  have keeps {row : Host} (member : row ∈ site.hosts.rows) (named : row.name = seededName)
      (seated : unseat ≠ some row.id) : (afterCall site after unseat).isLocal row = true :=
    isLocal_afterCall.mpr ⟨reserved row member named, seated⟩
  cases effect with
  | refused same =>
      subst same
      exact ⟨fun _ => nofun, fun _ row member named => keeps member named nofun⟩
  | created named hosts =>
      rename_i name draft
      constructor
      · intro kept clash
        have rowNamed : draft.name = seededName := named.trans (Option.some.inj clash)
        have isLocal := kept (Hosts.rowAt draft site.hosts.fresh) ((mem_created hosts).mpr (.inr rfl)) rowNamed
        -- The new row has a fresh id, so it is not among the local ones.
        obtain ⟨listed, _⟩ := isLocal_afterCall.mp isLocal
        obtain ⟨host, found, _⟩ := sound.seeded site.hosts.fresh (of_decide_eq_true listed)
        obtain ⟨member, sameKey⟩ := Table.get_eq_some_iff.mp found
        exact absurd sameKey (Int.ne_of_lt (Table.key_lt_fresh member))
      · intro other row member rowNamed
        rcases (mem_created hosts).mp member with before | rfl
        · exact keeps before rowNamed nofun
        · exact absurd (congrArg some (named.symm.trans rowNamed)) other
  | saved found named hosts =>
      rename_i name edited draft
      obtain ⟨editedMember, _⟩ := Table.get_eq_some_iff.mp found
      constructor
      · intro kept clash
        have rowNamed : draft.name = seededName := named.trans (Option.some.inj clash)
        have member : Hosts.savedRow draft edited ∈ (afterCall site after (some edited.id)).hosts.rows :=
          (mem_saved hosts).mpr ⟨edited, editedMember, (if_pos rfl).symm⟩
        exact absurd rfl (isLocal_afterCall.mp (kept _ member rowNamed)).2
      · intro other row member rowNamed
        obtain ⟨old, before, rfl⟩ := (mem_saved hosts).mp member
        by_cases same : key old = edited.id
        · rw [if_pos same] at rowNamed
          exact absurd (congrArg some (named.symm.trans rowNamed)) other
        · rw [if_neg same] at rowNamed ⊢
          exact keeps before rowNamed fun clash => same (Option.some.inj clash).symm
  | deleted same =>
      subst same
      refine ⟨fun _ => nofun, fun _ row member named => ?_⟩
      obtain ⟨old, before, different, sameKey, sameNames⟩ := Hosts.mem_deleteHost member
      have oldNamed : old.name = seededName := (congrArg Prod.snd sameNames).trans named
      refine isLocal_afterCall.mpr ⟨?_, fun clash => different (sameKey.trans (Option.some.inj clash).symm)⟩
      have isLocal := reserved old before oldNamed
      unfold Site.isLocal at isLocal ⊢
      rwa [← sameKey]

theorem perform_host : site.perform (.host call) =
    afterCall site (Hosts.perform site.database call) (unseated site.database call) := rfl

theorem perform_host_sound (sound : Sound site) : Sound (site.perform (.host call)) := by
  have named : Hosts.Named site.database := sound.named
  obtain ⟨effect, keptNames, tenants⟩ := @perform_effect _ call named
  rw [perform_host]
  exact {
    schema := sound.schema
    rooted := sound.rooted
    named := ⟨keptNames.distinct, by
      have placed := keptNames.placed
      rw [tenants] at placed
      exact placed⟩
    seeded := effect.seeded sound }

end Hosts

section Runs

variable {site : Site} {operation : Operation}

theorem perform_sound (sound : Sound site) : Sound (site.perform operation) := by
  cases operation with
  | start => exact runAll_keeps placed_sound.keeps_migrations sound
  | account request =>
      refine withAccounts_sound sound ?_
      unfold Accounts.serve
      cases attempted : site.accounts.attempt request with
      | error refusal => exact tenantsKept_refl
      | ok after =>
          change TenantsKept site.accounts.tenants after.tenants
          rw [attempt_tenants attempted]
          exact tenantsKept_refl
  | tenant request =>
      refine withAccounts_sound sound ?_
      cases attempted : attemptTenant site.accounts request with
      | error refusal => exact tenantsKept_refl
      | ok after => exact attemptTenant_kept attempted
  | port request =>
      have places : SamePlaces site (site.perform (.port request)) := ⟨rfl, rfl, rfl, rfl⟩
      exact places.sound sound
  | host call => exact perform_host_sound sound

theorem perform_reserved_iff (ready : Ready site) : NameReserved (site.perform operation) ↔ KeepsName site operation := by
  cases operation with
  | start => exact iff_of_true (runAll_keeps placed_ready.keeps_migrations ready).2 trivial
  | account request => exact iff_of_true ready.2 trivial
  | tenant request => exact iff_of_true ready.2 trivial
  | port request => exact iff_of_true ready.2 trivial
  | host call => exact (perform_effect ready.1.named).1.reserved_iff ready

theorem created_schema : Schema.createAll { tables := [], mappingTenantRequired := false } = Schema.current := by
  decide

theorem initialised_ready (defaultRole : String) : Ready (Site.initialised defaultRole) := by
  have rooted : onTable "tenants" ensureDefaultTenant (Site.created defaultRole) =
      .ok ((Site.created defaultRole).withTenants (Table.empty.insert defaultTenant), []) := rfl
  have ready : Ready ((Site.created defaultRole).withTenants (Table.empty.insert defaultTenant)) := {
    left := {
      schema := created_schema
      rooted := rfl
      named := ⟨fun _ member => absurd member List.not_mem_nil, fun _ member => absurd member List.not_mem_nil⟩
      seeded := fun _ member => absurd member List.not_mem_nil }
    right := fun _ member => absurd member List.not_mem_nil }
  have keeps := placed_ready.keeps_migrations
  have split : ∃ rest, migrations = onTable "tenants" ensureDefaultTenant :: rest := ⟨_, rfl⟩
  obtain ⟨rest, same⟩ := split
  unfold Site.initialised runMigrations
  rw [same] at keeps ⊢
  rw [runAll_cons_ok rooted]
  exact runAll_keeps (List.forall_mem_cons.mp keeps).2 ready

theorem reachable_sound (reached : machine.Reachable site) : Sound site := by
  refine reached.invariant ?_ ?_
  · intro start begins
    obtain ⟨defaultRole, same⟩ := begins
    rw [same]
    exact (initialised_ready defaultRole).1
  · intro before operation after stepped sound
    cases stepped
    exact perform_sound sound

theorem reachableUnder_ready (reached : machine.ReachableUnder KeepsName site) : Ready site := by
  refine reached.invariant ?_ ?_
  · intro start begins
    obtain ⟨defaultRole, same⟩ := begins
    rw [same]
    exact initialised_ready defaultRole
  · intro before operation after keepsName stepped ready
    cases stepped
    exact ⟨perform_sound ready.1, (perform_reserved_iff ready).mpr keepsName⟩

/-- As long as no host is saved under the name of the seeded ones the application
starts, and the first such host stops the next start. -/
theorem starts_until_name_taken (site : Site) :
    (machine.ReachableUnder KeepsName site → StartsTwice site ∧
      ∀ operation, StartsTwice (site.perform operation) ↔ KeepsName site operation) ∧
    (machine.Reachable site → (StartsTwice site ↔ NameReserved site)) := by
  refine ⟨fun reached => ?_, fun reached => startsTwice_iff (reachable_sound reached)⟩
  have ready := reachableUnder_ready reached
  exact ⟨ready.startsTwice, fun operation =>
    (startsTwice_iff (perform_sound ready.1)).trans (perform_reserved_iff ready)⟩

end Runs

section Examples

def savedServer : Hosts.HostCall :=
  .update 1 { Hosts.boxArgs with name := "DOSM Server", hostname := "127.0.0.1", port := 0, isJumpbox := false }

def acmeRun : List Operation := [.tenant (.cliCreate "Acme" none), .start, .host (.create 2 Hosts.boxArgs)]

def acmeSite : Site :=
  (((Site.initialised "viewer").perform (.tenant (.cliCreate "Acme" none))).perform .start).perform
    (.host (.create 2 Hosts.boxArgs))

theorem keepsName_create {site : Site} {tenant : Int} {args : Hosts.HostArgs} (other : args.name ≠ seededName) :
    KeepsName site (.host (.create tenant args)) := by
  intro saved
  obtain ⟨_, _, same⟩ := Option.map_eq_some_iff.mp saved
  exact other same

theorem starts_until_name_taken_acme : StartsTwice acmeSite ∧ NameReserved acmeSite := by
  have ran : machine.run (Site.initialised "viewer") acmeRun = some acmeSite := rfl
  have meets : machine.Meets KeepsName (Site.initialised "viewer") acmeRun :=
    ⟨trivial, fun _ _ => ⟨trivial, fun _ _ => ⟨keepsName_create (by decide), fun _ _ => trivial⟩⟩⟩
  have starts : StartsTwice acmeSite :=
    ((starts_until_name_taken acmeSite).1 ⟨_, acmeRun, ⟨"viewer", rfl⟩, ran, meets⟩).1
  exact ⟨starts, ((starts_until_name_taken acmeSite).2 ⟨_, acmeRun, ⟨"viewer", rfl⟩, ran⟩).mp starts⟩

theorem saved_server_stops_start :
    machine.Reachable ((Site.initialised "viewer").perform (.host savedServer)) ∧
      (runMigrations ((Site.initialised "viewer").perform (.host savedServer))).2 =
        .error (.integrity "UNIQUE constraint failed: hosts.tenant_id, hosts.name") ∧
      ¬ StartsTwice ((Site.initialised "viewer").perform (.host savedServer)) := by
  have failed : (runMigrations ((Site.initialised "viewer").perform (.host savedServer))).2 =
      .error (.integrity "UNIQUE constraint failed: hosts.tenant_id, hosts.name") := by
    decide +kernel
  refine ⟨⟨_, [.host savedServer], ⟨"viewer", rfl⟩, rfl⟩, failed, ?_⟩
  rintro ⟨after, applied, succeeded, _⟩
  rw [succeeded] at failed
  cases failed

end Examples

end Dosm.Startup
