import Dosm.Startup.Migrations
import Dosm.Hosts.Names

namespace Dosm.Startup

open Auth Models Python Transition

/-! What the application does to the tables that a start looks at.

A request that raises is rolled back. The application starts any number of times.
-/

section Tenants

inductive TenantRequest where
  | create (actor : Int) (name : String)
  | rename (actor tenantId : Int) (name : String)
  | toggle (actor tenantId : Int)
  /-- `dosm tenant create`. -/
  | cliCreate (name : String) (slug : Option String)
  /-- `dosm tenant rename`. -/
  | cliRename (slug newName : String)

/-- `_slugify`. -/
def tenantSlug (name : String) : String :=
  let text := slug (lower (strip name))
  if text = "" then "tenant" else text

variable (state : Accounts)

def nameTaken (name : String) (self : Option Int) : Bool :=
  state.tenants.rows.any fun tenant => tenant.name = name && self ≠ some tenant.id

def newTenant (name slug : String) (id : Int) : Tenant := { id, name, slug }

/-- The columns `name` and `slug` are unique. -/
def insertTenant (name slug : String) : Except Refusal Accounts :=
  if nameTaken state name none ∨ (state.tenantBySlug slug).isSome then .error .exception
  else .ok { state with tenants := state.tenants.insert (newTenant name slug) }

def retitle (name : String) (tenant : Tenant) : Tenant := { tenant with name }

def renameTenant (tenantId : Int) (name : String) : Except Refusal Accounts :=
  if nameTaken state name (some tenantId) then .error .exception
  else .ok { state with tenants := state.tenants.modify tenantId (retitle name) }

def tenantCreate (actor : Int) (name : String) : Except Refusal Accounts := do
  let _ ← state.requireRole actor .platformAdmin
  if strip name = "" then throw (.http 400 "name is required")
  else
    let slug := tenantSlug (strip name)
    if (state.tenantBySlug slug).isSome then
      throw (.http 400 ("a tenant with slug " ++ Python.repr slug ++ " already exists"))
    else insertTenant state (strip name) slug

def tenantRename (actor tenantId : Int) (name : String) : Except Refusal Accounts := do
  let _ ← state.requireRole actor .platformAdmin
  match state.tenants.get tenantId with
  | none => throw (.http 404 "Not Found")
  | some tenant => renameTenant state tenantId (if strip name = "" then tenant.name else strip name)

def tenantToggle (actor tenantId : Int) : Except Refusal Accounts := do
  let _ ← state.requireRole actor .platformAdmin
  match state.tenants.get tenantId with
  | none => throw (.http 404 "Not Found")
  | some _ =>
      return { state with inactive :=
        if tenantId ∈ state.inactive then state.inactive.filter (· ≠ tenantId) else tenantId :: state.inactive }

def tenantCliCreate (name : String) (slug : Option String) : Except Refusal Accounts :=
  let given := slug.getD ""
  insertTenant state name (strip (if given = "" then tenantSlug name else given))

def tenantCliRename (slug newName : String) : Except Refusal Accounts :=
  match state.tenantBySlug slug with
  | none => .error .exception
  | some tenantId => renameTenant state tenantId newName

def attemptTenant : TenantRequest → Except Refusal Accounts
  | .create actor name => tenantCreate state actor name
  | .rename actor tenantId name => tenantRename state actor tenantId name
  | .toggle actor tenantId => tenantToggle state actor tenantId
  | .cliCreate name slug => tenantCliCreate state name slug
  | .cliRename slug newName => tenantCliRename state slug newName

end Tenants

section Ports

/-- A checkbox of a form is empty when it is not ticked. -/
inductive PortRequest where
  | create (actor portNumber : Int) (protocol description isDefault : String)
  | edit (actor portId : Int) (description isDefault : String)
  | delete (actor portId : Int)

def newPort (portNumber : Int) (protocol description isDefault : String) (id : Int) : NetworkPort where
  id
  portNumber
  protocol
  description := strip description
  isDefault := isDefault ≠ ""

def attemptPort (site : Site) : PortRequest → Except Refusal (Table NetworkPort)
  | .create actor portNumber protocol description isDefault => do
      let _ ← site.accounts.requireRole actor .viewer
      if site.ports.rows.any fun port => port.portNumber = portNumber then
        throw (.http 400 ("Port " ++ toString portNumber ++ " already exists."))
      else return site.ports.insert (newPort portNumber protocol description isDefault)
  | .edit actor portId description isDefault => do
      let _ ← site.accounts.requireRole actor .viewer
      match site.ports.get portId with
      | none => throw (.http 404 "Not Found")
      | some _ =>
          return site.ports.modify portId fun port =>
            { port with description := strip description, isDefault := isDefault ≠ "" }
  | .delete actor portId => do
      let _ ← site.accounts.requireRole actor .viewer
      match site.ports.get portId with
      | none => throw (.http 404 "Not Found")
      | some _ => return site.ports.remove portId

end Ports

section Hosts

/-- The host that a call deletes, or saves under one of the protocols of a form. -/
def unseated (db : Database) : Hosts.HostCall → Option Int
  | .create .. => none
  | .update id args =>
      (db.hosts.get id).bind fun host => (Hosts.updateHost db host args).toOption.map fun _ => id
  | .delete id => some id

end Hosts

inductive Operation where
  | start
  | account (request : Auth.Request)
  | tenant (request : TenantRequest)
  | port (request : PortRequest)
  | host (call : Hosts.HostCall)

namespace Site

def perform (site : Site) : Operation → Site
  | .start => (runMigrations site).1
  | .account request => { site with accounts := site.accounts.serve request }
  | .tenant request => { site with accounts := (attemptTenant site.accounts request).toOption.getD site.accounts }
  | .port request => { site with ports := (attemptPort site request).toOption.getD site.ports }
  | .host call =>
      { site with
        inventory := Hosts.perform site.database call
        localHosts := site.localHosts.filter fun id => unseated site.database call ≠ some id }

/-- `create_all` on an empty file. -/
def created (defaultRole : String) : Site where
  schema := { tables := [], mappingTenantRequired := false : Schema }.createAll
  accounts := { users := .empty, tenants := .empty, inactive := [], mappings := .empty, defaultRole }
  inventory := {}
  localHosts := []
  ports := .empty

/-- `dosm db init`. -/
def initialised (defaultRole : String) : Site := (runMigrations (created defaultRole)).1

end Site

def machine : Machine Site Operation where
  initial site := ∃ defaultRole, site = Site.initialised defaultRole
  step site operation := some (site.perform operation)

open Upkeep

/-! A start succeeds, and the next one has nothing to do, unless a host that is not
local has the name of the seeded ones.
-/

/-- What holds in every site that operations lead to. -/
structure Sound (site : Site) : Prop where
  schema : site.schema = Schema.current
  rooted : (site.accounts.tenantBySlug "default").isSome
  named : Hosts.Named site.database
  seeded : ∀ id ∈ site.localHosts, ∃ host, site.hosts.get id = some host ∧ host.name = seededName

/-- Every host with the name of the seeded ones is local. -/
def NameReserved (site : Site) : Prop :=
  ∀ host ∈ site.hosts.rows, host.name = seededName → site.isLocal host = true

structure SamePlaces (site after : Site) : Prop where
  schema : after.schema = site.schema
  tenants : after.tenants = site.tenants
  hosts : after.hosts = site.hosts
  localHosts : after.localHosts = site.localHosts

section Places

variable {site after : Site} {tenant : Int}

theorem SamePlaces.sound (same : SamePlaces site after) (sound : Sound site) : Sound after where
  schema := same.schema.trans sound.schema
  rooted := by
    have tenants : after.accounts.tenants = site.accounts.tenants := same.tenants
    simpa only [Accounts.tenantBySlug, tenants] using sound.rooted
  named := by
    have hosts : after.database.hosts = site.database.hosts := same.hosts
    have tenants : after.database.tenants = site.database.tenants := same.tenants
    exact ⟨hosts ▸ sound.named.distinct, by rw [hosts, tenants]; exact sound.named.placed⟩
  seeded := by
    rw [same.localHosts, same.hosts]
    exact sound.seeded

theorem SamePlaces.reserved_iff (same : SamePlaces site after) : NameReserved after ↔ NameReserved site := by
  unfold NameReserved Site.isLocal
  rw [same.hosts, same.localHosts]

theorem SamePlaces.hasLocalHost (same : SamePlaces site after) :
    hasLocalHost after tenant = hasLocalHost site tenant := by
  unfold Startup.hasLocalHost Site.isLocal
  rw [same.hosts, same.localHosts]

end Places

section Idle

variable {table column : String} {migration : Migration} {site : Site}

theorem onTable_eq (sound : Sound site) (present : Schema.current.hasTable table = true) :
    onTable table migration site = migration site := by
  unfold onTable
  rw [sound.schema, if_pos present]

theorem quiet_onTable (sound : Sound site) (present : Schema.current.hasTable table = true) :
    Quiet (onTable table migration) site ↔ Quiet migration site := by
  unfold Quiet
  rw [onTable_eq sound present]

theorem idle_onTable (idle : Idle Sound migration) : Idle Sound (onTable table migration) := by
  intro site sound
  unfold Quiet onTable
  split
  · exact idle site sound
  · rfl

theorem idle_addColumn (present : Schema.current.hasColumn table column = true) :
    Idle Sound (addColumnIfMissing table column) := by
  intro site sound
  unfold Quiet addColumnIfMissing
  rw [sound.schema, if_pos present]

theorem idle_addColumns {columns : List (String × String)}
    (present : ∀ entry ∈ columns, Schema.current.hasColumn entry.1 entry.2 = true) :
    ∀ migration ∈ addColumns columns, Idle Sound migration := by
  intro migration member
  obtain ⟨entry, listed, rfl⟩ := List.mem_map.mp member
  exact idle_addColumn (present entry listed)

theorem idle_ensureDefaultTenant : Idle Sound ensureDefaultTenant := by
  intro site sound
  unfold Quiet ensureDefaultTenant
  rw [if_pos sound.rooted]

theorem idle_usersMultitenant : Idle Sound usersMultitenant := by
  intro site sound
  have tenantId : addColumnIfMissing "users" "tenant_id" site = .ok (site, []) :=
    idle_addColumn (by decide) site sound
  have roleLocked : addColumnIfMissing "users" "role_locked" site = .ok (site, []) :=
    idle_addColumn (by decide) site sound
  unfold Quiet usersMultitenant
  rw [tenantId]
  change (addColumnIfMissing "users" "role_locked" site >>= _) = _
  rw [roleLocked]
  rfl

theorem idle_rebuildOperationalTables : Idle Sound rebuildOperationalTables := by
  intro site sound
  unfold Quiet rebuildOperationalTables
  rw [sound.schema, if_neg (by decide)]

theorem idle_mappingTenantNullable : Idle Sound mappingTenantNullable := by
  intro site sound
  unfold Quiet mappingTenantNullable
  rw [sound.schema, if_neg (by decide)]

theorem idle_isJumpboxColumn : Idle Sound isJumpboxColumn := by
  intro site sound
  have added : addColumnIfMissing "hosts" "is_jumpbox" site = .ok (site, []) :=
    idle_addColumn (by decide) site sound
  unfold Quiet isJumpboxColumn
  rw [added]
  rfl

theorem renamedKind_none (kind : CredKind) : renamedKind kind = none := by
  cases kind <;> decide

theorem report_zero {label : String} : report 0 label = [] := rfl

theorem idle_credentialKinds : Idle Sound credentialKinds := by
  intro site _
  unfold Quiet credentialKinds
  have none_counted : (site.inventory.credentials.rows.countP fun cred => (renamedKind cred.kind).isSome) = 0 := by
    simp [renamedKind_none]
  have unchanged : (site.inventory.credentials.map fun cred =>
      { cred with kind := (renamedKind cred.kind).getD cred.kind }) = site.inventory.credentials :=
    Table.map_same _ _ fun cred _ => by simp [renamedKind_none]
  simp only [none_counted, unchanged, report_zero]

theorem idle_departmentsCleanReplace : Idle Sound departmentsCleanReplace := by
  intro site sound
  unfold Quiet departmentsCleanReplace
  rw [sound.schema, if_neg (by decide)]

theorem nothing_idle : ∀ migration ∈ ([] : List Migration), Idle Sound migration :=
  fun _ member => absurd member List.not_mem_nil

theorem idle_migrateMultitenant : ∀ migration ∈ migrateMultitenant, Idle Sound migration := by
  unfold migrateMultitenant
  simp only [List.map_cons, List.map_nil, List.forall_mem_cons]
  exact ⟨idle_onTable idle_ensureDefaultTenant, idle_onTable idle_usersMultitenant,
    idle_onTable (idle_addColumn (by decide)), idle_onTable idle_rebuildOperationalTables, nothing_idle⟩

theorem idle_schemaMigrations : ∀ migration ∈ schemaMigrations, Idle Sound migration := by
  unfold schemaMigrations
  simp only [List.forall_mem_append, List.forall_mem_cons]
  exact ⟨⟨⟨⟨idle_migrateMultitenant, idle_mappingTenantNullable, idle_addColumn (by decide),
    idle_isJumpboxColumn, idle_credentialKinds, nothing_idle⟩, idle_addColumns (by decide)⟩,
    idle_departmentsCleanReplace, nothing_idle⟩, idle_addColumns (by decide)⟩

theorem idle_accessColumns : ∀ migration ∈ accessColumns, Idle Sound migration := idle_addColumns (by decide)

end Idle

section Ports

variable {ports : Table NetworkPort} {defaults : List PortDefault} {row : NetworkPort} {site after : Site}
  {reports : List String}

def Listed (ports : Table NetworkPort) (port : PortDefault) : Prop :=
  ∃ row ∈ ports.rows, row.portNumber = port.portNumber

theorem listed_iff {port : PortDefault} :
    (ports.rows.any fun row => row.portNumber = port.portNumber) = true ↔ Listed ports port := by
  simp [Listed]

theorem insertPorts_keeps (member : row ∈ ports.rows) : row ∈ (insertPorts defaults ports).1.rows := by
  induction defaults generalizing ports with
  | nil => exact member
  | cons port rest ih =>
      unfold insertPorts
      split
      · exact ih member
      · exact ih (Table.mem_insert.mpr (.inl member))

theorem insertPorts_listed : ∀ port ∈ defaults, Listed (insertPorts defaults ports).1 port := by
  induction defaults generalizing ports with
  | nil => exact fun _ member => absurd member List.not_mem_nil
  | cons port rest ih =>
      unfold insertPorts
      split
      · rename_i present
        obtain ⟨row, member, same⟩ := listed_iff.mp present
        exact List.forall_mem_cons.mpr ⟨⟨row, insertPorts_keeps member, same⟩, ih⟩
      · have inserted : port.row ports.fresh ∈ (ports.insert port.row).rows := Table.mem_insert.mpr (.inr rfl)
        exact List.forall_mem_cons.mpr ⟨⟨_, insertPorts_keeps inserted, rfl⟩, ih⟩

theorem insertPorts_full (full : ∀ port ∈ defaults, Listed ports port) : insertPorts defaults ports = (ports, 0) := by
  induction defaults with
  | nil => rfl
  | cons port rest ih =>
      obtain ⟨here, onward⟩ := List.forall_mem_cons.mp full
      unfold insertPorts
      rw [if_pos (listed_iff.mpr here)]
      exact ih onward

theorem quiet_seedPorts : Quiet seedPorts site ↔ ∀ port ∈ networkPortDefaults, Listed site.ports port := by
  constructor
  · intro quiet
    have same : (insertPorts networkPortDefaults site.ports).1 = site.ports :=
      congrArg Site.ports (Prod.mk.inj (Except.ok.inj quiet)).1
    rw [← same]
    exact insertPorts_listed
  · intro full
    unfold Quiet seedPorts
    rw [insertPorts_full full]
    rfl

theorem seedPorts_places (done : seedPorts site = .ok (after, reports)) : SamePlaces site after := by
  cases done
  exact ⟨rfl, rfl, rfl, rfl⟩

theorem seedPorts_listed (done : seedPorts site = .ok (after, reports)) :
    ∀ port ∈ networkPortDefaults, Listed after.ports port := by
  cases done
  exact insertPorts_listed

theorem relabelled_relabel (port : NetworkPort) : relabelled (relabel port) = none := by
  unfold relabel
  cases changed : relabelled port with
  | none => exact changed
  | some fresh =>
      unfold relabelled at changed
      split at changed
      · cases changed
        simp [relabelled]
      · split at changed
        · rename_i number
          cases changed
          simp [relabelled, number.1]
        · cases changed

theorem relabel_number (port : NetworkPort) : (relabel port).portNumber = port.portNumber := by
  unfold relabel relabelled
  split
  · rfl
  · split <;> rfl

theorem mem_relabel : row ∈ (ports.map relabel relabel_id).rows ↔ ∃ old ∈ ports.rows, relabel old = row :=
  Table.mem_map

theorem quiet_ftDefaults : Quiet ftDefaults site ↔ ∀ port ∈ site.ports.rows, relabelled port = none := by
  constructor
  · intro quiet port member
    have same : site.ports.map relabel relabel_id = site.ports :=
      congrArg Site.ports (Prod.mk.inj (Except.ok.inj quiet)).1
    rw [← same] at member
    obtain ⟨old, _, rfl⟩ := mem_relabel.mp member
    exact relabelled_relabel old
  · intro plain
    have unchanged : site.ports.map relabel relabel_id = site.ports :=
      Table.map_same _ _ fun port member => by simp [relabel, plain port member]
    have uncounted : (site.ports.rows.countP fun port => (relabelled port).isSome) = 0 :=
      List.countP_eq_zero.mpr fun port member => by simp [plain port member]
    unfold Quiet ftDefaults
    rw [unchanged, uncounted]
    rfl

theorem ftDefaults_places (done : ftDefaults site = .ok (after, reports)) : SamePlaces site after := by
  cases done
  exact ⟨rfl, rfl, rfl, rfl⟩

theorem ftDefaults_quiet (done : ftDefaults site = .ok (after, reports)) : Quiet ftDefaults after := by
  cases done
  refine quiet_ftDefaults.mpr fun port member => ?_
  obtain ⟨old, _, rfl⟩ := mem_relabel.mp member
  exact relabelled_relabel old

theorem ftDefaults_listed (done : ftDefaults site = .ok (after, reports)) {port : PortDefault}
    (listed : Listed site.ports port) : Listed after.ports port := by
  cases done
  obtain ⟨row, member, same⟩ := listed
  exact ⟨relabel row, mem_relabel.mpr ⟨row, member, rfl⟩, (relabel_number row).trans same⟩

end Ports

section LocalHosts

variable {site after : Site} {tenant other : Int} {tenants : List Int} {count : Nat} {host : Host}
  {reports : List String}

theorem hasLocalHost_iff : hasLocalHost site tenant = true ↔
    ∃ host ∈ site.hosts.rows, site.isLocal host = true ∧ host.tenantId = tenant := by
  simp [hasLocalHost]

theorem mem_insertLocal : host ∈ (insertLocal site tenant).hosts.rows ↔
    host ∈ site.hosts.rows ∨ host = dosmServer tenant site.hosts.fresh :=
  @Table.mem_insert _ _ _ _ (dosmServer tenant) fun _ => rfl

theorem isLocal_insertLocal : (insertLocal site tenant).isLocal host = true ↔
    host.id = site.hosts.fresh ∨ site.isLocal host = true := by
  simp [Site.isLocal, insertLocal, Site.withHosts]

theorem insertLocal_self : hasLocalHost (insertLocal site tenant) tenant = true :=
  hasLocalHost_iff.mpr ⟨_, mem_insertLocal.mpr (.inr rfl), isLocal_insertLocal.mpr (.inl rfl), rfl⟩

theorem insertLocal_keeps (present : hasLocalHost site other = true) :
    hasLocalHost (insertLocal site tenant) other = true := by
  obtain ⟨host, member, isLocal, placed⟩ := hasLocalHost_iff.mp present
  exact hasLocalHost_iff.mpr
    ⟨host, mem_insertLocal.mpr (.inl member), isLocal_insertLocal.mpr (.inr isLocal), placed⟩

def Intact (site : Site) (tenant : Int) : Prop :=
  Hosts.integrityError site.database (dosmServer tenant 0) none = none

theorem Intact.free (intact : Intact site tenant) (member : host ∈ site.hosts.rows) :
    Hosts.placeAndName host ≠ (tenant, seededName) := by
  intro same
  obtain ⟨untaken, _⟩ := Hosts.integrityError_none_iff.mp intact
  have taken : Hosts.nameTaken site.database tenant seededName none = true :=
    Hosts.nameTaken_iff.mpr ⟨host, member, Prod.mk.inj same, nofun⟩
  have clash : true = false := taken.symm.trans untaken
  cases clash

theorem insertLocal_sound (sound : Sound site) (intact : Intact site tenant) : Sound (insertLocal site tenant) where
  schema := sound.schema
  rooted := sound.rooted
  named := by
    constructor
    · exact Table.distinct_insert (dosmServer tenant) (fun _ => rfl) sound.named.distinct
        fun host member => intact.free member
    · intro host member
      rcases mem_insertLocal.mp member with before | rfl
      · exact sound.named.placed host before
      · exact (Hosts.integrityError_none_iff.mp intact).2
  seeded := by
    intro id listed
    rcases List.mem_cons.mp listed with rfl | before
    · exact ⟨dosmServer tenant site.hosts.fresh,
        Table.get_eq_some_iff.mpr ⟨mem_insertLocal.mpr (.inr rfl), rfl⟩, rfl⟩
    · obtain ⟨host, found, named⟩ := sound.seeded id before
      exact ⟨host, @Table.get_insert_of_get _ _ _ _ _ (dosmServer tenant) (fun _ => rfl) found, named⟩

theorem insertLocal_reserved_iff : NameReserved (insertLocal site tenant) ↔ NameReserved site := by
  constructor
  · intro reserved host member named
    rcases isLocal_insertLocal.mp (reserved host (mem_insertLocal.mpr (.inl member)) named) with clash | isLocal
    · exact absurd clash (Int.ne_of_lt (Table.key_lt_fresh member))
    · exact isLocal
  · intro reserved host member named
    rcases mem_insertLocal.mp member with before | rfl
    · exact isLocal_insertLocal.mpr (.inr (reserved host before named))
    · exact isLocal_insertLocal.mpr (.inl rfl)

theorem seedHostsOf_preserves {motive : Site → Prop}
    (preserved : ∀ site tenant, Intact site tenant → motive site → motive (insertLocal site tenant))
    (done : seedHostsOf tenants site = .ok (after, count)) (holds : motive site) : motive after := by
  induction tenants generalizing site count with
  | nil =>
      cases done
      exact holds
  | cons tenant rest ih =>
      unfold seedHostsOf at done
      split at done
      · exact ih done holds
      · split at done
        · cases done
        · rename_i intact
          cases finished : seedHostsOf rest (insertLocal site tenant) with
          | error failure =>
              rw [finished] at done
              cases done
          | ok result =>
              rw [finished] at done
              cases done
              exact ih finished (preserved site tenant intact holds)

theorem seedHostsOf_covers (done : seedHostsOf tenants site = .ok (after, count)) :
    ∀ tenant ∈ tenants, hasLocalHost after tenant = true := by
  induction tenants generalizing site count with
  | nil => exact fun _ member => absurd member List.not_mem_nil
  | cons tenant rest ih =>
      unfold seedHostsOf at done
      split at done
      · rename_i present
        have kept : hasLocalHost after tenant = true :=
          seedHostsOf_preserves (motive := fun site => hasLocalHost site tenant = true)
            (fun _ _ _ => insertLocal_keeps) done present
        exact List.forall_mem_cons.mpr ⟨kept, ih done⟩
      · split at done
        · cases done
        · cases finished : seedHostsOf rest (insertLocal site tenant) with
          | error failure =>
              rw [finished] at done
              cases done
          | ok result =>
              rw [finished] at done
              cases done
              have kept : hasLocalHost result.1 tenant = true :=
                seedHostsOf_preserves (motive := fun site => hasLocalHost site tenant = true)
                  (fun _ _ _ => insertLocal_keeps) finished insertLocal_self
              exact List.forall_mem_cons.mpr ⟨kept, ih finished⟩

theorem seedHostsOf_covered (covered : ∀ tenant ∈ tenants, hasLocalHost site tenant = true) :
    seedHostsOf tenants site = .ok (site, 0) := by
  induction tenants with
  | nil => rfl
  | cons tenant rest ih =>
      obtain ⟨here, onward⟩ := List.forall_mem_cons.mp covered
      unfold seedHostsOf
      rw [if_pos here]
      exact ih onward

theorem intact_of_reserved (reserved : NameReserved site) (present : (site.tenants.get tenant).isSome)
    (missing : hasLocalHost site tenant = false) : Intact site tenant := by
  refine Hosts.integrityError_none_iff.mpr ⟨?_, present⟩
  cases taken : Hosts.nameTaken site.database (dosmServer tenant 0).tenantId seededName none with
  | false => exact taken
  | true =>
      obtain ⟨host, member, ⟨placed, named⟩, _⟩ := Hosts.nameTaken_iff.mp taken
      have found : hasLocalHost site tenant = true :=
        hasLocalHost_iff.mpr ⟨host, member, reserved host member named, placed⟩
      rw [missing] at found
      cases found

theorem seedHostsOf_succeeds (reserved : NameReserved site)
    (present : ∀ tenant ∈ tenants, (site.tenants.get tenant).isSome) :
    ∃ after count, seedHostsOf tenants site = .ok (after, count) := by
  induction tenants generalizing site with
  | nil => exact ⟨site, 0, rfl⟩
  | cons tenant rest ih =>
      obtain ⟨here, onward⟩ := List.forall_mem_cons.mp present
      unfold seedHostsOf
      split
      · exact ih reserved onward
      · rename_i missing
        have intact : Hosts.integrityError site.database (dosmServer tenant 0) none = none :=
          intact_of_reserved reserved here (Bool.eq_false_iff.mpr missing)
        have onwardReserved : NameReserved (insertLocal site tenant) := insertLocal_reserved_iff.mpr reserved
        obtain ⟨after, count, finished⟩ := ih onwardReserved onward
        exact ⟨after, count + 1, by rw [intact, finished]; rfl⟩

theorem no_local_beside (sound : Sound site) (member : host ∈ site.hosts.rows) (named : host.name = seededName)
    (foreign : site.isLocal host = false) : hasLocalHost site host.tenantId = false := by
  cases present : hasLocalHost site host.tenantId with
  | false => rfl
  | true =>
      obtain ⟨other, otherMember, isLocal, placed⟩ := hasLocalHost_iff.mp present
      obtain ⟨row, found, rowNamed⟩ := sound.seeded other.id (by simpa [Site.isLocal] using isLocal)
      have isRow : other = row := Option.some.inj ((Table.get_key otherMember).symm.trans found)
      have same : Hosts.placeAndName other = Hosts.placeAndName host :=
        Prod.ext placed ((isRow ▸ rowNamed).trans named.symm)
      have sameKey : other.id = host.id := sound.named.distinct other otherMember host member same
      unfold Site.isLocal at isLocal foreign
      rw [sameKey, foreign] at isLocal
      cases isLocal

structure Usurped (site : Site) (host : Host) : Prop where
  sound : Sound site
  member : host ∈ site.hosts.rows
  named : host.name = seededName
  foreign : site.isLocal host = false

theorem Usurped.insertLocal (usurped : Usurped site host) (intact : Intact site tenant) :
    Usurped (insertLocal site tenant) host where
  sound := insertLocal_sound usurped.sound intact
  member := mem_insertLocal.mpr (.inl usurped.member)
  named := usurped.named
  foreign := by
    refine Bool.eq_false_iff.mpr fun isLocal => ?_
    rcases isLocal_insertLocal.mp isLocal with clash | before
    · exact absurd clash (Int.ne_of_lt (Table.key_lt_fresh usurped.member))
    · rw [usurped.foreign] at before
      cases before

theorem seedHostsOf_fails (usurped : Usurped site host) (listed : host.tenantId ∈ tenants) :
    ∃ failure, seedHostsOf tenants site = .error failure := by
  induction tenants generalizing site with
  | nil => cases listed
  | cons tenant rest ih =>
      have missing := no_local_beside usurped.sound usurped.member usurped.named usurped.foreign
      unfold seedHostsOf
      by_cases here : tenant = host.tenantId
      · rw [here, missing, if_neg Bool.false_ne_true]
        have held : Hosts.placeAndName host = (host.tenantId, seededName) := Prod.ext rfl usurped.named
        cases intact : Hosts.integrityError site.database (dosmServer host.tenantId 0) none with
        | some message => exact ⟨.integrity message, rfl⟩
        | none => exact absurd held (Intact.free intact usurped.member)
      · have later : host.tenantId ∈ rest := (List.mem_cons.mp listed).resolve_left fun same => here same.symm
        split
        · exact ih usurped later
        · split
          · exact ⟨_, rfl⟩
          · rename_i intact
            obtain ⟨failure, stopped⟩ := ih (usurped.insertLocal intact) later
            exact ⟨failure, by rw [stopped]; rfl⟩

theorem seedHosts_ok (done : seedHosts site = .ok (after, reports)) :
    ∃ count, seedHostsOf (site.tenants.rows.map Tenant.id) site = .ok (after, count) := by
  unfold seedHosts at done
  cases finished : seedHostsOf (site.tenants.rows.map Tenant.id) site with
  | error failure =>
      rw [finished] at done
      cases done
  | ok result =>
      rw [finished] at done
      cases done
      exact ⟨result.2, rfl⟩

theorem seedHosts_rest (done : seedHosts site = .ok (after, reports)) :
    after.ports = site.ports ∧ after.tenants = site.tenants := by
  obtain ⟨count, finished⟩ := seedHosts_ok done
  exact seedHostsOf_preserves
    (motive := fun reached => reached.ports = site.ports ∧ reached.tenants = site.tenants)
    (fun _ _ _ same => same) finished ⟨rfl, rfl⟩

theorem seedHosts_covers (done : seedHosts site = .ok (after, reports)) :
    ∀ tenant ∈ after.tenants.rows, hasLocalHost after tenant.id = true := by
  obtain ⟨count, finished⟩ := seedHosts_ok done
  rw [(seedHosts_rest done).2]
  exact fun tenant member => seedHostsOf_covers finished tenant.id (List.mem_map_of_mem member)

theorem quiet_seedHosts : Quiet seedHosts site ↔
    ∀ tenant ∈ site.tenants.rows, hasLocalHost site tenant.id = true := by
  constructor
  · exact fun quiet => seedHosts_covers quiet
  · intro covered
    have finished : seedHostsOf (site.tenants.rows.map Tenant.id) site = .ok (site, 0) :=
      seedHostsOf_covered fun id listed => by
        obtain ⟨tenant, member, rfl⟩ := List.mem_map.mp listed
        exact covered tenant member
    unfold Quiet seedHosts
    rw [finished]
    rfl

theorem seedHosts_succeeds (reserved : NameReserved site) :
    ∃ after reports, seedHosts site = .ok (after, reports) := by
  have present : ∀ id ∈ site.tenants.rows.map Tenant.id, (site.tenants.get id).isSome := by
    intro id listed
    obtain ⟨tenant, member, rfl⟩ := List.mem_map.mp listed
    exact Option.isSome_of_eq_some (Table.get_key member)
  obtain ⟨after, count, finished⟩ := seedHostsOf_succeeds reserved present
  exact ⟨after, _, by unfold seedHosts; rw [finished]; rfl⟩

theorem seedHosts_fails (usurped : Usurped site host) : ∃ failure, seedHosts site = .error failure := by
  obtain ⟨tenant, found⟩ := Option.isSome_iff_exists.mp (usurped.sound.named.placed host usurped.member)
  have listed : host.tenantId ∈ site.tenants.rows.map Tenant.id := by
    obtain ⟨member, same⟩ := Table.get_eq_some_iff.mp found
    exact List.mem_map.mpr ⟨tenant, member, same⟩
  obtain ⟨failure, stopped⟩ := seedHostsOf_fails usurped listed
  exact ⟨failure, by unfold seedHosts; rw [stopped]; rfl⟩

end LocalHosts

section Roles

variable {site after : Site} {reports : List String}

theorem role_not_admin (role : Role) : role.name ≠ "admin" := by
  cases role <;> decide

theorem collapses_collapse (mapping : GroupMapping) : collapses (collapse mapping) = false := by
  unfold collapse
  split
  · simp [collapses]
  · rename_i plain
    exact Bool.eq_false_iff.mpr plain

theorem quiet_renameRoles (plain : ∀ mapping ∈ site.accounts.mappings.rows,
    mapping.tenantId.isSome = true ∧ collapses mapping = false) : Quiet renameRoles site := by
  have users : site.accounts.users.map renameAdmin renameAdmin_id = site.accounts.users :=
    Table.map_same _ _ fun user _ => by simp [renameAdmin, role_not_admin]
  have mappings : (site.accounts.mappings.map collapse collapse_id) = site.accounts.mappings :=
    Table.map_same _ _ fun mapping member => by simp [collapse, (plain mapping member).2]
  have kept : site.accounts.mappings.filter (fun mapping => mapping.tenantId.isSome) = site.accounts.mappings :=
    Table.filter_same fun mapping member => (plain mapping member).1
  have renamed : (site.accounts.users.rows.countP fun user => user.role.name = "admin") = 0 := by
    simp [role_not_admin]
  have collapsed : site.accounts.mappings.rows.countP collapses = 0 :=
    List.countP_eq_zero.mpr fun mapping member => by simp [(plain mapping member).2]
  have deleted : (site.accounts.mappings.rows.countP fun mapping => mapping.tenantId.isNone) = 0 :=
    List.countP_eq_zero.mpr fun mapping member => by
      have scope := (plain mapping member).1
      cases tenant : mapping.tenantId with
      | none => simp [tenant] at scope
      | some id => simp
  unfold Quiet renameRoles
  simp only [users, mappings, kept, renamed, collapsed, deleted, report_zero, List.append_nil]
  rfl

theorem renameRoles_places (done : renameRoles site = .ok (after, reports)) : SamePlaces site after := by
  cases done
  exact ⟨rfl, rfl, rfl, rfl⟩

theorem renameRoles_ports (done : renameRoles site = .ok (after, reports)) : after.ports = site.ports := by
  cases done
  rfl

theorem renameRoles_quiet (done : renameRoles site = .ok (after, reports)) : Quiet renameRoles after := by
  have mappings : after.accounts.mappings =
      (site.accounts.mappings.map collapse collapse_id).filter fun mapping => mapping.tenantId.isSome := by
    cases done
    rfl
  refine quiet_renameRoles fun mapping member => ?_
  rw [mappings] at member
  obtain ⟨listed, scope⟩ := Table.mem_filter.mp member
  obtain ⟨old, _, rfl⟩ := Table.mem_map.mp listed
  exact ⟨scope, collapses_collapse old⟩

end Roles

section Starts

variable {site after : Site} {host : Host} {invariant : Site → Prop} {migration : Migration}

structure Placed (invariant : Site → Prop) : Prop where
  sound : ∀ site, invariant site → Sound site
  same : ∀ site after, SamePlaces site after → invariant site → invariant after
  seeded : ∀ site tenant, Intact site tenant → invariant site → invariant (insertLocal site tenant)

theorem placed_sound : Placed Sound where
  sound _ sound := sound
  same _ _ places sound := places.sound sound
  seeded _ _ intact sound := insertLocal_sound sound intact

def Ready (site : Site) : Prop := Sound site ∧ NameReserved site

theorem placed_ready : Placed Ready where
  sound _ ready := ready.1
  same _ _ places ready := ⟨places.sound ready.1, places.reserved_iff.mpr ready.2⟩
  seeded _ _ intact ready := ⟨insertLocal_sound ready.1 intact, insertLocal_reserved_iff.mpr ready.2⟩

theorem placed_usurped : Placed fun site => Usurped site host where
  sound _ usurped := usurped.sound
  same _ _ places usurped := {
    sound := places.sound usurped.sound
    member := places.hosts ▸ usurped.member
    named := usurped.named
    foreign := by
      have foreign := usurped.foreign
      unfold Site.isLocal at foreign ⊢
      rw [places.localHosts]
      exact foreign }
  seeded _ _ intact usurped := usurped.insertLocal intact

theorem Placed.idle (placed : Placed invariant) (idle : Idle Sound migration) : Idle invariant migration :=
  idle.mono placed.sound

theorem Placed.keeps (placed : Placed invariant)
    (places : ∀ site after reports, migration site = .ok (after, reports) → SamePlaces site after) :
    Keeps invariant migration :=
  fun site after reports holds done => placed.same site after (places site after reports done) holds

theorem hasTable_ports : Schema.current.hasTable "network_ports" = true := by decide

theorem onTable_places {table : String}
    (places : ∀ site after reports, migration site = .ok (after, reports) → SamePlaces site after) :
    ∀ site after reports, onTable table migration site = .ok (after, reports) → SamePlaces site after := by
  intro site after reports done
  unfold onTable at done
  split at done
  · exact places site after reports done
  · cases done
    exact ⟨rfl, rfl, rfl, rfl⟩

theorem seedLocalHosts_eq (sound : Sound site) : seedLocalHosts site = seedHosts site := by
  unfold seedLocalHosts
  rw [onTable_eq sound (by decide), onTable_eq sound (by decide)]

theorem Placed.keeps_seedLocalHosts (placed : Placed invariant) : Keeps invariant seedLocalHosts := by
  intro site after reports holds done
  rw [seedLocalHosts_eq (placed.sound site holds)] at done
  obtain ⟨count, finished⟩ := seedHosts_ok done
  exact seedHostsOf_preserves placed.seeded finished holds

theorem Placed.keeps_ports (placed : Placed invariant) :
    ∀ migration ∈ [onTable "network_ports" seedPorts, onTable "network_ports" ftDefaults],
      Keeps invariant migration := by
  simp only [List.forall_mem_cons]
  exact ⟨placed.keeps (onTable_places fun _ _ _ => seedPorts_places),
    placed.keeps (onTable_places fun _ _ _ => ftDefaults_places), fun _ member => absurd member List.not_mem_nil⟩

theorem Placed.keeps_first (placed : Placed invariant) :
    ∀ migration ∈ schemaMigrations ++ [onTable "network_ports" seedPorts, onTable "network_ports" ftDefaults],
      Keeps invariant migration :=
  List.forall_mem_append.mpr
    ⟨fun migration member => (placed.idle (idle_schemaMigrations migration member)).keeps, placed.keeps_ports⟩

theorem Placed.keeps_last (placed : Placed invariant) :
    ∀ migration ∈ accessColumns ++ [renameRoles], Keeps invariant migration := by
  refine List.forall_mem_append.mpr ⟨fun migration member => ?_, ?_⟩
  · exact (placed.idle (idle_accessColumns migration member)).keeps
  · exact List.forall_mem_singleton.mpr (placed.keeps fun _ _ _ => renameRoles_places)

theorem Placed.keeps_migrations (placed : Placed invariant) : ∀ migration ∈ migrations, Keeps invariant migration :=
  List.forall_mem_append.mpr
    ⟨placed.keeps_first, List.forall_mem_cons.mpr ⟨placed.keeps_seedLocalHosts, placed.keeps_last⟩⟩

theorem settles_onTable {table : String} (present : Schema.current.hasTable table = true)
    (keeps : Keeps Sound (onTable table migration))
    (quiet : ∀ site after reports, migration site = .ok (after, reports) → Quiet migration after) :
    Settles Sound (onTable table migration) := by
  intro site after reports sound done
  refine (quiet_onTable (keeps site after reports sound done) present).mpr ?_
  rw [onTable_eq sound present] at done
  exact quiet site after reports done

theorem settles_seedLocalHosts : Settles Sound seedLocalHosts := by
  intro site after reports sound done
  have later := placed_sound.keeps_seedLocalHosts site after reports sound done
  rw [seedLocalHosts_eq sound] at done
  unfold Quiet
  rw [seedLocalHosts_eq later]
  exact quiet_seedHosts.mpr (seedHosts_covers done)

theorem settles_migrations : ∀ migration ∈ migrations, Settles Sound migration := by
  unfold migrations
  simp only [List.forall_mem_append, List.forall_mem_cons]
  have keeps := placed_sound.keeps_ports
  simp only [List.forall_mem_cons] at keeps
  have nothing : ∀ migration ∈ ([] : List Migration), Settles Sound migration :=
    fun _ member => absurd member List.not_mem_nil
  exact ⟨⟨fun migration member => (idle_schemaMigrations migration member).settles,
    settles_onTable hasTable_ports keeps.1 fun _ _ _ done => quiet_seedPorts.mpr (seedPorts_listed done),
    settles_onTable hasTable_ports keeps.2.1 fun _ _ _ => ftDefaults_quiet, nothing⟩,
    settles_seedLocalHosts, fun migration member => (idle_accessColumns migration member).settles,
    fun _ _ _ _ => renameRoles_quiet, nothing⟩

theorem spares_of_ports {earlier later : Migration} (keeps : Keeps Sound later)
    (depends : ∀ site after : Site, after.ports = site.ports → Quiet earlier site → Quiet earlier after)
    (ports : ∀ site after reports, Sound site → later site = .ok (after, reports) → after.ports = site.ports) :
    Spares Sound (onTable "network_ports" earlier) later := by
  intro site after reports sound done quiet
  refine (quiet_onTable (keeps site after reports sound done) hasTable_ports).mpr ?_
  exact depends site after (ports site after reports sound done) ((quiet_onTable sound hasTable_ports).mp quiet)

theorem seedLocalHosts_ports {reports : List String} (sound : Sound site)
    (done : seedLocalHosts site = .ok (after, reports)) : after.ports = site.ports := by
  rw [seedLocalHosts_eq sound] at done
  exact (seedHosts_rest done).1

theorem seedPorts_depends (site after : Site) (same : after.ports = site.ports) (quiet : Quiet seedPorts site) :
    Quiet seedPorts after := by
  rw [quiet_seedPorts, same]
  exact quiet_seedPorts.mp quiet

theorem ftDefaults_depends (site after : Site) (same : after.ports = site.ports) (quiet : Quiet ftDefaults site) :
    Quiet ftDefaults after := by
  rw [quiet_ftDefaults, same]
  exact quiet_ftDefaults.mp quiet

theorem ftDefaults_spares :
    Spares Sound (onTable "network_ports" seedPorts) (onTable "network_ports" ftDefaults) := by
  intro site after reports sound done quiet
  have listed := quiet_seedPorts.mp ((quiet_onTable sound hasTable_ports).mp quiet)
  rw [onTable_eq sound hasTable_ports] at done
  refine (quiet_onTable ((ftDefaults_places done).sound sound) hasTable_ports).mpr (quiet_seedPorts.mpr ?_)
  exact fun port member => ftDefaults_listed done (listed port member)

theorem renameRoles_spares : Spares Sound seedLocalHosts renameRoles := by
  intro site after reports sound done quiet
  have places := renameRoles_places done
  unfold Quiet at quiet ⊢
  rw [seedLocalHosts_eq sound] at quiet
  rw [seedLocalHosts_eq (places.sound sound)]
  refine quiet_seedHosts.mpr fun tenant member => ?_
  rw [places.hasLocalHost]
  exact quiet_seedHosts.mp quiet tenant (places.tenants ▸ member)

theorem spares_last {earlier : Migration} (spares : Spares Sound earlier renameRoles) :
    ∀ later ∈ accessColumns ++ [renameRoles], Spares Sound earlier later :=
  List.forall_mem_append.mpr ⟨fun later member => (idle_accessColumns later member).spares,
    List.forall_mem_singleton.mpr spares⟩

theorem spares_migrations : migrations.Pairwise (Spares Sound) := by
  have roles : Keeps Sound renameRoles := placed_sound.keeps fun _ _ _ => renameRoles_places
  have last : (accessColumns ++ [renameRoles]).Pairwise (Spares Sound) :=
    pairwise_spares_idle idle_accessColumns (List.forall_mem_singleton.mpr roles) (List.pairwise_singleton _ _)
  have hostsLast : (seedLocalHosts :: (accessColumns ++ [renameRoles])).Pairwise (Spares Sound) :=
    List.pairwise_cons.mpr ⟨spares_last renameRoles_spares, last⟩
  have afterPorts {earlier : Migration}
      (depends : ∀ site after : Site, after.ports = site.ports → Quiet earlier site → Quiet earlier after) :
      ∀ later ∈ seedLocalHosts :: (accessColumns ++ [renameRoles]),
        Spares Sound (onTable "network_ports" earlier) later :=
    List.forall_mem_cons.mpr
      ⟨spares_of_ports placed_sound.keeps_seedLocalHosts depends fun _ _ _ => seedLocalHosts_ports,
        spares_last (spares_of_ports roles depends fun _ _ _ _ => renameRoles_ports)⟩
  unfold migrations
  rw [List.append_assoc]
  refine pairwise_spares_idle idle_schemaMigrations ?_ ?_
  · exact List.forall_mem_append.mpr ⟨placed_sound.keeps_ports,
      List.forall_mem_cons.mpr ⟨placed_sound.keeps_seedLocalHosts, placed_sound.keeps_last⟩⟩
  · exact List.pairwise_cons.mpr ⟨List.forall_mem_cons.mpr ⟨ftDefaults_spares, afterPorts seedPorts_depends⟩,
      List.pairwise_cons.mpr ⟨afterPorts ftDefaults_depends, hostsLast⟩⟩

theorem succeeds_migrations : ∀ migration ∈ migrations, Succeeds Ready migration := by
  unfold migrations
  simp only [List.forall_mem_append, List.forall_mem_cons]
  have nothing : ∀ migration ∈ ([] : List Migration), Succeeds Ready migration :=
    fun _ member => absurd member List.not_mem_nil
  have ports : Succeeds Ready (onTable "network_ports" seedPorts) :=
    fun site ready => ⟨_, _, onTable_eq ready.1 hasTable_ports⟩
  have labels : Succeeds Ready (onTable "network_ports" ftDefaults) :=
    fun site ready => ⟨_, _, onTable_eq ready.1 hasTable_ports⟩
  have hosts : Succeeds Ready seedLocalHosts := by
    intro site ready
    obtain ⟨after, reports, done⟩ := seedHosts_succeeds ready.2
    exact ⟨after, reports, (seedLocalHosts_eq ready.1).trans done⟩
  exact ⟨⟨fun migration member => (placed_ready.idle (idle_schemaMigrations migration member)).succeeds,
    ports, labels, nothing⟩, hosts,
    fun migration member => (placed_ready.idle (idle_accessColumns migration member)).succeeds,
    fun site _ => ⟨_, _, rfl⟩, nothing⟩

/-- The start succeeds, and starting again finds nothing to do. -/
def StartsTwice (site : Site) : Prop :=
  ∃ after applied, runMigrations site = (after, .ok applied) ∧ runMigrations after = (after, .ok [])

theorem Ready.startsTwice (ready : Ready site) : StartsTwice site := by
  obtain ⟨applied, succeeded⟩ := runAll_succeeds succeeds_migrations placed_ready.keeps_migrations ready
  have again : runMigrations (runMigrations site).1 = ((runMigrations site).1, .ok []) :=
    runAll_again settles_migrations spares_migrations placed_sound.keeps_migrations ready.1 succeeded
  exact ⟨(runMigrations site).1, applied, Prod.ext rfl succeeded, again⟩

theorem Usurped.not_startsTwice (usurped : Usurped site host) : ¬ StartsTwice site := by
  rintro ⟨after, applied, succeeded, _⟩
  have fails : ∀ site, Usurped site host → ∃ failure, seedLocalHosts site = .error failure := by
    intro site usurped
    rw [seedLocalHosts_eq usurped.sound]
    exact seedHosts_fails usurped
  obtain ⟨failure, stopped⟩ := runAll_stopped placed_usurped.keeps_first fails usurped
  have stop : (runMigrations site).2 = .error failure := stopped
  rw [succeeded] at stop
  cases stop

theorem startsTwice_iff (sound : Sound site) : StartsTwice site ↔ NameReserved site := by
  constructor
  · intro starts host member named
    by_contra foreign
    have usurped : Usurped site host := ⟨sound, member, named, Bool.eq_false_iff.mpr foreign⟩
    exact usurped.not_startsTwice starts
  · exact fun reserved => Ready.startsTwice ⟨sound, reserved⟩

end Starts

end Dosm.Startup
