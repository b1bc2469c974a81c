import Dosm.Auth.Accounts
import Dosm.Base.Upkeep
import Dosm.Credentials.ConnectPaths

namespace Dosm.Startup

open Auth Models Upkeep

/-! What every start does to the database before the application serves.

The schema is kept as far as a migration looks at it. A row of an older schema
has a column's default where it lacks the column.
-/

/-- The tables with those of their columns that a migration names, and whether
`group_mappings.tenant_id` is NOT NULL. -/
structure Schema where
  tables : List (String × List String)
  mappingTenantRequired : Bool
  deriving DecidableEq

namespace Schema

def hasTable (schema : Schema) (table : String) : Bool :=
  schema.tables.any fun entry => entry.1 = table

def hasColumn (schema : Schema) (table column : String) : Bool :=
  schema.tables.any fun entry => entry.1 = table && column ∈ entry.2

def addColumn (schema : Schema) (table column : String) : Schema :=
  { schema with tables := schema.tables.map fun entry =>
      if entry.1 = table then (entry.1, entry.2 ++ [column]) else entry }

def drop (schema : Schema) (tables : List String) : Schema :=
  { schema with tables := schema.tables.filter fun entry => entry.1 ∉ tables }

def current : Schema where
  tables :=
    [("tenants", []), ("group_mappings", ["tenant_id"]),
      ("users", ["tenant_id", "role_locked", "prefs_json", "auth_provider", "okta_sub", "email",
        "display_name", "last_login"]),
      ("tags", []), ("host_tags", []), ("credentials", ["domain", "org_unit_id", "owner_id", "visibility"]),
      ("cert_sources", []),
      ("hosts", ["tenant_id", "jump_host_id", "is_jumpbox", "ft_method", "ft_port", "ft_credential_id",
        "org_unit_id"]),
      ("org_units", []), ("departments", []), ("department_members", ["manager_dn", "manager_name"]),
      ("applications", []), ("documents", ["application_id", "frontmatter_title"]), ("doc_chunks", []),
      ("conversations", []), ("chat_messages", ["thinking", "generation_ms"]), ("plan_cards", []),
      ("pipelines", ["org_unit_id", "owner_id", "visibility"]), ("pipeline_runs", []),
      ("pipeline_payloads", []), ("monitoring_sources", []), ("monitoring_matches", []),
      ("secret_blobs", []), ("audit_log", ["tenant_id"]), ("recording_sessions", []),
      ("network_ports", []), ("network_scans", []), ("network_scan_results", []),
      ("confluence_listeners", []), ("confluence_sync_items", [])]
  mappingTenantRequired := false

/-- `Base.metadata.create_all`: only the tables that are missing. -/
def createAll (schema : Schema) : Schema where
  tables := schema.tables ++ current.tables.filter fun entry => !schema.hasTable entry.1
  mappingTenantRequired := schema.hasTable "group_mappings" && schema.mappingTenantRequired

end Schema

structure NetworkPort where
  id : Int
  portNumber : Int
  protocol : String
  description : String
  isDefault : Bool
  deriving DecidableEq

instance : Keyed NetworkPort := ⟨NetworkPort.id⟩

/-- The tables that a start looks at. A host whose id is in `localHosts` has the
protocol `local`, which no form offers. -/
structure Site where
  schema : Schema
  accounts : Accounts
  inventory : Database
  localHosts : List Int
  ports : Table NetworkPort

namespace Site

variable (site : Site)

def hosts : Table Host := site.inventory.hosts

def tenants : Table Tenant := site.accounts.tenants

def database : Database := { site.inventory with tenants := site.tenants }

def withTenants (tenants : Table Tenant) : Site := { site with accounts := { site.accounts with tenants } }

def withUsers (users : Table User) : Site := { site with accounts := { site.accounts with users } }

def withMappings (mappings : Table GroupMapping) : Site :=
  { site with accounts := { site.accounts with mappings } }

def withHosts (hosts : Table Host) : Site := { site with inventory := { site.inventory with hosts } }

def isLocal (host : Host) : Bool := host.id ∈ site.localHosts

end Site

inductive StartupError where
  | operational (message : String)
  | integrity (message : String)
  deriving DecidableEq

abbrev Migration := Transaction Site String StartupError

def addColumnIfMissing (table column : String) : Migration := fun site =>
  if site.schema.hasColumn table column then .ok (site, [])
  else if site.schema.hasTable table then
    .ok ({ site with schema := site.schema.addColumn table column }, [table ++ "." ++ column])
  else .error (.operational ("no such table: " ++ table))

def onTable (table : String) (migration : Migration) : Migration := fun site =>
  if site.schema.hasTable table then migration site else .ok (site, [])

def report (count : Nat) (label : String) : List String := if count = 0 then [] else [label]

section Multitenant

def multitenantDropOrder : List String :=
  ["department_members", "doc_chunks", "chat_messages", "plan_cards", "pipeline_runs",
    "pipeline_payloads", "monitoring_matches", "network_scan_results", "host_tags", "hosts", "credentials",
    "cert_sources", "org_units", "departments", "applications", "documents", "conversations", "pipelines",
    "monitoring_sources", "recording_sessions", "network_scans", "tags"]

def defaultTenant (id : Int) : Tenant := { id, name := "Default", slug := "default" }

def ensureDefaultTenant : Migration := fun site =>
  if (site.accounts.tenantBySlug "default").isSome then .ok (site, [])
  else if site.tenants.rows.any fun tenant => tenant.name = "Default" then
    .error (.integrity "UNIQUE constraint failed: tenants.name")
  else .ok (site.withTenants (site.tenants.insert defaultTenant), [])

/-- Old admins become platform admins, everyone else joins the default tenant. -/
def backfillUser (defaultTid : Option Int) (user : User) : User :=
  if user.role.name = "admin" then { user with role := .platformAdmin, tenantId := none }
  else if user.tenantId = none ∧ user.role ≠ .platformAdmin then { user with tenantId := defaultTid }
  else user

theorem backfillUser_id (defaultTid : Option Int) (user : User) : (backfillUser defaultTid user).id = user.id := by
  unfold backfillUser
  split
  · rfl
  · split <;> rfl

def usersMultitenant : Migration := fun site => do
  let (placed, tenantId) ← addColumnIfMissing "users" "tenant_id" site
  let (locked, roleLocked) ← addColumnIfMissing "users" "role_locked" placed
  if tenantId ++ roleLocked = [] then return (locked, [])
  else
    let change := backfillUser (site.accounts.tenantBySlug "default")
    return (locked.withUsers (locked.accounts.users.map change (backfillUser_id _)), ["users.multitenant"])

/-- The operational tables of a single-tenant database are dropped with their rows. -/
def rebuildOperationalTables : Migration := fun site =>
  if site.schema.hasTable "hosts" ∧ ¬ site.schema.hasColumn "hosts" "tenant_id" then
    .ok ({ site with
      schema := (site.schema.drop multitenantDropOrder).createAll
      inventory := {}
      localHosts := [] }, ["multitenant.rebuild_operational_tables"])
  else .ok (site, [])

def migrateMultitenant : List Migration :=
  [ensureDefaultTenant, usersMultitenant, addColumnIfMissing "audit_log" "tenant_id",
    rebuildOperationalTables].map (onTable "tenants")

end Multitenant

def mappingTenantNullable : Migration := fun site =>
  if site.schema.hasColumn "group_mappings" "tenant_id" ∧ site.schema.mappingTenantRequired then
    .ok (({ site with schema := (site.schema.drop ["group_mappings"]).createAll }).withMappings .empty,
      ["group_mappings.tenant_id_nullable"])
  else .ok (site, [])

/-- A host that another one jumps through is a jump box. -/
def backfillJumpbox (hosts : Table Host) : Table Host :=
  hosts.map fun host =>
    { host with isJumpbox := host.isJumpbox || hosts.rows.any fun row => row.jumpHostId = some host.id }

def isJumpboxColumn : Migration := fun site => do
  let (flagged, added) ← addColumnIfMissing "hosts" "is_jumpbox" site
  if added = [] then return (flagged, []) else return (flagged.withHosts (backfillJumpbox flagged.hosts), added)

def renamedKind (kind : CredKind) : Option CredKind :=
  if Credentials.kindName kind ∈ ["ssh_password", "rdp_password", "vnc_password"] then some .login
  else if Credentials.kindName kind = "api_token" then some .pat
  else none

def credentialKinds : Migration := fun site =>
  let credentials := site.inventory.credentials
  .ok ({ site with inventory := { site.inventory with credentials := credentials.map fun cred =>
      { cred with kind := (renamedKind cred.kind).getD cred.kind } } },
    report (credentials.rows.countP fun cred => (renamedKind cred.kind).isSome) "credentials.kind_rename")

def departmentsCleanReplace : Migration := fun site =>
  if site.schema.hasColumn "departments" "head" then
    .ok ({ site with schema := site.schema.drop ["department_members", "departments"] },
      ["departments.v2_clean_replace"])
  else .ok (site, [])

section Ports

structure PortDefault where
  portNumber : Int
  protocol : String
  description : String
  isDefault : Bool

def networkPortDefaults : List PortDefault :=
  [⟨0, "icmp", "ICMP Ping", true⟩, ⟨21, "tcp", "FTP / explicit FTPS", true⟩,
    ⟨22, "tcp", "SSH / SFTP", true⟩, ⟨25, "tcp", "SMTP", false⟩, ⟨53, "tcp", "DNS", false⟩,
    ⟨80, "tcp", "HTTP", true⟩, ⟨443, "tcp", "HTTPS", true⟩, ⟨445, "tcp", "SMB / Azure Files", false⟩,
    ⟨1433, "tcp", "SQL Server / Azure SQL", false⟩, ⟨1521, "tcp", "Oracle TNS", false⟩,
    ⟨3306, "tcp", "MySQL", false⟩, ⟨5432, "tcp", "PostgreSQL", false⟩, ⟨6379, "tcp", "Redis", false⟩,
    ⟨6380, "tcp", "Redis TLS / Azure Cache for Redis", false⟩,
    ⟨9200, "tcp", "Elasticsearch / OpenSearch", false⟩, ⟨9300, "tcp", "Elasticsearch Cluster", false⟩,
    ⟨27017, "tcp", "MongoDB", false⟩, ⟨3389, "tcp", "RDP", true⟩, ⟨5900, "tcp", "VNC (display :0)", true⟩,
    ⟨5901, "tcp", "VNC (display :1)", false⟩, ⟨5985, "tcp", "WinRM HTTP", false⟩,
    ⟨5986, "tcp", "WinRM HTTPS", false⟩, ⟨2049, "tcp", "NFS / AWS EFS", false⟩,
    ⟨5671, "tcp", "AMQP TLS / Azure Service Bus", false⟩, ⟨5672, "tcp", "AMQP / RabbitMQ", false⟩,
    ⟨8883, "tcp", "MQTT TLS / Azure IoT Hub", false⟩, ⟨7001, "tcp", "Oracle WebLogic HTTP", false⟩,
    ⟨7002, "tcp", "Oracle WebLogic HTTPS", false⟩, ⟨8080, "tcp", "HTTP Alt", false⟩,
    ⟨8443, "tcp", "HTTPS Alt", false⟩, ⟨2379, "tcp", "etcd Client", false⟩,
    ⟨2380, "tcp", "etcd Peer", false⟩, ⟨6443, "tcp", "Kubernetes API", false⟩,
    ⟨10250, "tcp", "Kubelet API", false⟩, ⟨3000, "tcp", "Grafana", false⟩,
    ⟨9090, "tcp", "Prometheus", false⟩, ⟨9091, "tcp", "Prometheus Pushgateway", false⟩,
    ⟨9093, "tcp", "Alertmanager", false⟩, ⟨9100, "tcp", "Node Exporter", false⟩,
    ⟨9998, "tcp", "Dynatrace Cluster Node", false⟩, ⟨9999, "tcp", "Dynatrace ActiveGate", false⟩,
    ⟨14499, "tcp", "Dynatrace OneAgent to ActiveGate", false⟩,
    ⟨9418, "tcp", "Git Protocol (git://)", false⟩, ⟨8800, "tcp", "Terraform Enterprise Admin", false⟩,
    ⟨10933, "tcp", "Octopus Tentacle (listening)", false⟩,
    ⟨10943, "tcp", "Octopus Tentacle (polling)", false⟩, ⟨4822, "tcp", "Guacamole guacd", false⟩,
    ⟨8200, "tcp", "HashiCorp Vault", false⟩, ⟨8201, "tcp", "HashiCorp Vault (cluster)", false⟩,
    ⟨11434, "tcp", "Ollama API", false⟩, ⟨19000, "tcp", "Service Fabric (client)", false⟩,
    ⟨19080, "tcp", "Service Fabric Explorer / HTTP gateway", false⟩, ⟨88, "tcp", "Kerberos", false⟩,
    ⟨135, "tcp", "MSRPC / AD Endpoint Mapper", false⟩, ⟨389, "tcp", "LDAP", false⟩,
    ⟨636, "tcp", "LDAPS", false⟩, ⟨3268, "tcp", "AD Global Catalog", false⟩,
    ⟨3269, "tcp", "AD Global Catalog (TLS)", false⟩, ⟨23, "tcp", "Telnet", false⟩,
    ⟨123, "udp", "NTP", false⟩, ⟨137, "udp", "NetBIOS Name", false⟩,
    ⟨138, "udp", "NetBIOS Datagram", false⟩, ⟨139, "tcp", "NetBIOS Session", false⟩,
    ⟨161, "udp", "SNMP", false⟩, ⟨162, "udp", "SNMP Trap", false⟩, ⟨465, "tcp", "SMTPS", false⟩,
    ⟨514, "udp", "Syslog", false⟩, ⟨587, "tcp", "SMTP Submission", false⟩, ⟨873, "tcp", "rsync", false⟩,
    ⟨993, "tcp", "IMAPS", false⟩, ⟨995, "tcp", "POP3S", false⟩, ⟨3260, "tcp", "iSCSI", false⟩,
    ⟨2181, "tcp", "ZooKeeper", false⟩, ⟨2375, "tcp", "Docker daemon (plain)", false⟩,
    ⟨2376, "tcp", "Docker daemon (TLS)", false⟩, ⟨8500, "tcp", "Consul HTTP API", false⟩,
    ⟨9042, "tcp", "Cassandra CQL", false⟩, ⟨9092, "tcp", "Kafka", false⟩,
    ⟨11211, "tcp", "Memcached", false⟩, ⟨15672, "tcp", "RabbitMQ Management", false⟩,
    ⟨50000, "tcp", "IBM DB2", false⟩]

def PortDefault.row (port : PortDefault) (id : Int) : NetworkPort where
  id
  portNumber := port.portNumber
  protocol := port.protocol
  description := port.description
  isDefault := port.isDefault

/-- `INSERT OR IGNORE`, with the count of the rows inserted. -/
def insertPorts : List PortDefault → Table NetworkPort → Table NetworkPort × Nat
  | [], ports => (ports, 0)
  | port :: rest, ports =>
      if ports.rows.any fun row => row.portNumber = port.portNumber then insertPorts rest ports
      else
        let (filled, inserted) := insertPorts rest (ports.insert port.row)
        (filled, inserted + 1)

def seedPorts : Migration := fun site =>
  let (ports, inserted) := insertPorts networkPortDefaults site.ports
  .ok ({ site with ports }, report inserted ("network_ports.seeded_" ++ toString inserted))

/-- The label a file-transfer port gets in place of its old one. -/
def relabelled (port : NetworkPort) : Option NetworkPort :=
  if port.portNumber = 21 ∧ port.description = "FTP" then
    some { port with description := "FTP / explicit FTPS", isDefault := true }
  else if port.portNumber = 22 ∧ port.description = "SSH" then some { port with description := "SSH / SFTP" }
  else none

def relabel (port : NetworkPort) : NetworkPort := (relabelled port).getD port

theorem relabel_id (port : NetworkPort) : (relabel port).id = port.id := by
  unfold relabel relabelled
  split
  · rfl
  · split <;> rfl

def ftDefaults : Migration := fun site =>
  .ok ({ site with ports := site.ports.map relabel relabel_id },
    report (site.ports.rows.countP fun port => (relabelled port).isSome) "network_ports.ft_defaults")

end Ports

section LocalHosts

def seededName : String := "DOSM Server"

/-- The protocol of the row is `local`, as `localHosts` has it. -/
def dosmServer (tenant id : Int) : Host where
  id
  tenantId := tenant
  name := seededName
  hostname := "127.0.0.1"
  port := 0
  protocol := .ssh
  description := none
  credentialId := none
  jumpHostId := none
  isJumpbox := false
  ftMethod := none
  ftPort := none
  ftCredentialId := none
  orgUnitId := none

def hasLocalHost (site : Site) (tenant : Int) : Bool :=
  site.hosts.rows.any fun host => site.isLocal host && host.tenantId = tenant

def insertLocal (site : Site) (tenant : Int) : Site :=
  { site.withHosts (site.hosts.insert (dosmServer tenant)) with
    localHosts := site.hosts.fresh :: site.localHosts }

def seedHostsOf : List Int → Site → Except StartupError (Site × Nat)
  | [], site => .ok (site, 0)
  | tenant :: rest, site =>
      if hasLocalHost site tenant then seedHostsOf rest site
      else
        match Hosts.integrityError site.database (dosmServer tenant 0) none with
        | some message => .error (.integrity message)
        | none => (seedHostsOf rest (insertLocal site tenant)).map fun (last, seeded) => (last, seeded + 1)

def seedHosts : Migration := fun site =>
  (seedHostsOf (site.tenants.rows.map Tenant.id) site).map fun (last, seeded) =>
    (last, report seeded ("hosts.dosm_server_local_" ++ toString seeded))

end LocalHosts

section Roles

def renameAdmin (user : User) : User := if user.role.name = "admin" then { user with role := .tenantAdmin } else user

theorem renameAdmin_id (user : User) : (renameAdmin user).id = user.id := by
  unfold renameAdmin
  split <;> rfl

def collapses (mapping : GroupMapping) : Bool := mapping.tenantId.isSome && mapping.role ≠ "viewer"

def collapse (mapping : GroupMapping) : GroupMapping :=
  if collapses mapping then { mapping with role := "viewer" } else mapping

theorem collapse_id (mapping : GroupMapping) : (collapse mapping).id = mapping.id := by
  unfold collapse
  split <;> rfl

def renameRoles : Migration := fun site =>
  let { users, mappings, .. } := site.accounts
  let renamed := users.rows.countP fun user => user.role.name = "admin"
  let collapsed := mappings.rows.countP collapses
  let deleted := mappings.rows.countP fun mapping => mapping.tenantId.isNone
  .ok ((site.withUsers (users.map renameAdmin renameAdmin_id)).withMappings
      ((mappings.map collapse collapse_id).filter fun mapping => mapping.tenantId.isSome),
    report renamed ("users.admin_to_tenant_admin_" ++ toString renamed) ++
      report collapsed ("group_mappings.collapse_to_viewer_" ++ toString collapsed) ++
      report deleted ("group_mappings.drop_platform_admin_" ++ toString deleted))

end Roles

/-- The columns added between two migrations of another kind. -/
def addColumns (columns : List (String × String)) : List Migration :=
  columns.map fun (table, column) => addColumnIfMissing table column

def schemaMigrations : List Migration :=
  migrateMultitenant ++
    [mappingTenantNullable, addColumnIfMissing "hosts" "jump_host_id", isJumpboxColumn, credentialKinds] ++
    addColumns [("credentials", "domain"), ("hosts", "ft_method"), ("hosts", "ft_port"),
      ("hosts", "ft_credential_id"), ("hosts", "org_unit_id"), ("pipelines", "org_unit_id"),
      ("credentials", "org_unit_id"), ("documents", "application_id"), ("documents", "frontmatter_title")] ++
    [departmentsCleanReplace] ++
    addColumns [("department_members", "manager_dn"), ("department_members", "manager_name"),
      ("chat_messages", "thinking"), ("chat_messages", "generation_ms")]

def accessColumns : List Migration :=
  addColumns [("credentials", "owner_id"), ("credentials", "visibility"), ("pipelines", "owner_id"),
    ("pipelines", "visibility"), ("users", "prefs_json"), ("users", "auth_provider"), ("users", "okta_sub"),
    ("users", "email"), ("users", "display_name"), ("users", "last_login")]

def seedLocalHosts : Migration := onTable "hosts" (onTable "tenants" seedHosts)

def migrations : List Migration :=
  schemaMigrations ++ [onTable "network_ports" seedPorts, onTable "network_ports" ftDefaults] ++
    seedLocalHosts :: (accessColumns ++ [renameRoles])

/-- The migrations applied, or the exception that stopped the start. -/
def runMigrations (site : Site) : Site × Except StartupError (List String) := runAll migrations site

end Dosm.Startup
