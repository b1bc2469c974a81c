import Mathlib.Data.List.Sort
import Dosm.Applications.OrgTree
import Dosm.Agent.Action
import Dosm.Web

namespace Dosm.Hosts

open Models Python Agent Web

/-! The host inventory: validation, creation and edits.

Every id a host row keeps is checked against the host's own tenant before the
row is written.
-/

inductive HostError where
  | validation (message : String)
  | integrity (message : String)
  deriving DecidableEq

def supportedProtocols : List (String × Protocol) := [("ssh", .ssh), ("rdp", .rdp), ("vnc", .vnc)]

def fileTransferMethods : List (String × FtMethod) :=
  [("sftp", .sftp), ("ftp", .ftp), ("ftps", .ftps)]

def jumpChainMaxDepth : Nat := 5

structure HostArgs where
  name : String
  hostname : String
  port : Int
  protocol : String
  description : Option String
  credentialId : Option Int
  jumpHostId : Option Int
  tagsCsv : String
  isJumpbox : Bool
  ftMethod : Option String := none
  ftPort : Option Int := none
  ftCredentialId : Option Int := none
  orgUnitId : Option Int := none

def normalizeTags (raw : String) : List String :=
  (((split ',' raw).map strip).filter (· ≠ "")).dedup.mergeSort (· ≤ ·)

def getOrCreateTag (db : Database) (name : String) (tenant : Int) : Database × Int :=
  match db.tags.rows.find? fun tag => tag.name = name && tag.tenantId = tenant with
  | some tag => (db, tag.id)
  | none => ({ db with tags := db.tags.insert fun id => { id, tenantId := tenant, name } }, db.tags.fresh)

def tagHost (tenant hostId : Int) (db : Database) (name : String) : Database :=
  let (tagged, tagId) := getOrCreateTag db name tenant
  { tagged with hostTags := tagged.hostTags ++ [{ hostId, tagId }] }

def validateProtocol (protocol : String) : Except HostError Protocol :=
  match supportedProtocols.lookup protocol with
  | some protocol => .ok protocol
  | none => .error (.validation ("Unsupported protocol: " ++ Python.repr protocol))

def validateFt (method : Option String) : Except HostError (Option FtMethod) :=
  let method := lower (strip (method.getD ""))
  if method = "" then .ok none
  else
    match fileTransferMethods.lookup method with
    | some method => .ok (some method)
    | none => .error (.validation ("Unsupported file-transfer method: " ++ Python.repr method))

def validateOrgUnit (db : Database) (orgUnitId : Option Int) (tenant : Int) :
    Except HostError (Option Int) :=
  match orgUnitId with
  | none => .ok none
  | some id =>
      match db.orgUnits.getOwned tenant id with
      | some _ => .ok (some id)
      | none => .error (.validation "Selected application/environment/unit no longer exists.")

def validateCredential (db : Database) (credentialId : Option Int) (tenant : Int) :
    Except HostError (Option Int) :=
  match credentialId with
  | none => .ok none
  | some id =>
      match db.credentials.getOwned tenant id with
      | some _ => .ok (some id)
      | none => .error (.validation "Selected credential no longer exists.")

/-- Follow the chain of jump hosts with `remaining` more hops allowed. -/
def validateChain (db : Database) (tenant : Int) : Nat → List Int → Option Int → Except HostError Unit
  | _, _, none => .ok ()
  | 0, _, some _ =>
      .error (.validation ("jump chain exceeds max depth " ++ toString jumpChainMaxDepth))
  | remaining + 1, seen, some id =>
      if id ∈ seen then .error (.validation "jump chain forms a cycle")
      else
        match db.hosts.getOwned tenant id with
        | none => .error (.validation ("jump host " ++ toString id ++ " not found"))
        | some node =>
            if !node.isJumpbox then
              .error (.validation ("host " ++ Python.repr node.name ++ " is not flagged as a jumpbox"))
            else validateChain db tenant remaining (id :: seen) node.jumpHostId

def validateJump (db : Database) (hostId jumpHostId : Option Int) (tenant : Int) :
    Except HostError Unit :=
  if jumpHostId ≠ none ∧ jumpHostId = hostId then
    .error (.validation "a host cannot be its own jump host")
  else validateChain db tenant (jumpChainMaxDepth + 1) hostId.toList jumpHostId

/-- The checks on a new or edited host, in the source's order; `unflag` is the
one only an edit makes. -/
def validateHost (db : Database) (tenant : Int) (hostId : Option Int) (args : HostArgs)
    (unflag : Except HostError Unit) : Except HostError Host := do
  let protocol ← validateProtocol args.protocol
  let ftMethod ← validateFt args.ftMethod
  let orgUnitId ← validateOrgUnit db args.orgUnitId tenant
  let credentialId ← validateCredential db args.credentialId tenant
  let ftCredentialId ← validateCredential db
    (if ftMethod = none then none else args.ftCredentialId) tenant
  unflag
  -- Jumpboxes connect directly.
  let jumpHostId := if args.isJumpbox then none else args.jumpHostId
  validateJump db hostId jumpHostId tenant
  return {
    id := hostId.getD 0
    tenantId := tenant
    name := args.name
    hostname := args.hostname
    port := args.port
    protocol
    description := if args.description = some "" then none else args.description
    credentialId
    jumpHostId
    isJumpbox := args.isJumpbox
    ftMethod
    ftPort := if ftMethod = none then none else args.ftPort
    ftCredentialId
    orgUnitId }

def nameTaken (db : Database) (tenant : Int) (name : String) (self : Option Int) : Bool :=
  db.hosts.rows.any fun row => row.tenantId = tenant && row.name = name && self ≠ some row.id

def integrityError (db : Database) (host : Host) (self : Option Int) : Option String :=
  if nameTaken db host.tenantId host.name self then
    some "UNIQUE constraint failed: hosts.tenant_id, hosts.name"
  else if (db.tenants.get host.tenantId).isNone then some "FOREIGN KEY constraint failed"
  else none

/-- Returns the database and the new host's id. -/
def createHost (db : Database) (tenant : Int) (args : HostArgs) : Except HostError (Database × Int) := do
  let draft ← validateHost db tenant none args (.ok ())
  match integrityError db draft none with
  | some message => throw (.integrity message)
  | none =>
      let hostId := db.hosts.fresh
      let created := { db with hosts := db.hosts.insert fun id => { draft with id } }
      return ((normalizeTags args.tagsCsv).foldl (tagHost tenant hostId) created, hostId)

def unflagCheck (db : Database) (host : Host) (isJumpbox : Bool) : Except HostError Unit :=
  if host.isJumpbox ∧ ¬ isJumpbox ∧ db.hosts.rows.any fun row => row.jumpHostId = some host.id then
    .error (.validation
      "cannot unflag - this host is currently used as a jump host by another host")
  else .ok ()

def updateHost (db : Database) (host : Host) (args : HostArgs) : Except HostError Database := do
  let draft ← validateHost db host.tenantId (some host.id) args (unflagCheck db host args.isJumpbox)
  match integrityError db draft (some host.id) with
  | some message => throw (.integrity message)
  | none =>
      let hosts := db.hosts.modify host.id fun row => { draft with id := row.id, tenantId := row.tenantId }
      let hostTags := db.hostTags.filter fun tag => tag.hostId ≠ host.id
      return (normalizeTags args.tagsCsv).foldl (tagHost host.tenantId host.id) { db with hosts, hostTags }

/-- Hosts that jump through the deleted one become direct. -/
def deleteHost (db : Database) (id : Int) : Database :=
  { db with
    hosts := (db.hosts.remove id).map fun host =>
      { host with jumpHostId := if host.jumpHostId = some id then none else host.jumpHostId }
    hostTags := db.hostTags.filter fun tag => tag.hostId ≠ id }

/-- The loop that follows `jump_host` from host to host; nothing when it takes
more than `fuel` turns. -/
def followJumps (db : Database) : Nat → Option Int → Option (List Host)
  | _, none => some []
  | 0, some _ => none
  | fuel + 1, some id =>
      match db.hosts.get id with
      | none => some []
      | some jump => (followJumps db fuel jump.jumpHostId).map (jump :: ·)

/-- Outermost jump first. -/
def resolveJumpChain (db : Database) (fuel : Nat) (host : Host) : Option (List Host) :=
  (followJumps db fuel host.jumpHostId).map List.reverse

end Dosm.Hosts

namespace Dosm.Hosts

open Models Agent Applications

/-! The host list, with its filters.

A filter by org unit takes in the units below it, found level by level. How deep
they go is up to the rows, so the loop is bounded by a number of rounds.
-/

/-- The loop of `org_subtree_ids`: the units below the frontier. -/
def belowFrontier (units : Table OrgUnit) : Nat → List Int → Option (List Int)
  | 0, _ => none
  | rounds + 1, frontier =>
      let rows := (units.rows.filter fun row => row.parentId.any (· ∈ frontier)).map (·.id)
      if rows = [] then some [] else (belowFrontier units rounds rows).map (rows ++ ·)

def orgSubtreeIds (units : Table OrgUnit) (rounds : Nat) (unitId : Int) : Option (List Int) :=
  (belowFrontier units rounds [unitId]).map (unitId :: ·)

def ofKind (kind : Option String) (host : Host) : Bool :=
  if kind = some "jumpboxes" then host.isJumpbox
  else if kind = some "servers" then !host.isJumpbox
  else true

def tagged (db : Database) (tag : Option String) (host : Host) : Bool :=
  match tag with
  | none | some "" => true
  | some name => db.hostTags.any fun link =>
      link.hostId = host.id && (db.tags.get link.tagId).any fun row => row.name = name

def listHosts (db : Database) (rounds : Nat) (tid : Option Int) (kind tag : Option String)
    (orgUnitId : Option Int) : Option (List Host) :=
  let wanted := db.hosts.rows.filter fun host =>
    inTenant tid host.tenantId && ofKind kind host && tagged db tag host
  let sorted := fun hosts : List Host => hosts.insertionSort fun first second => first.name ≤ second.name
  match orgUnitId with
  | none => some (sorted wanted)
  | some id =>
      (orgSubtreeIds db.orgUnits rounds id).map fun ids =>
        sorted (wanted.filter fun host => host.orgUnitId.any (· ∈ ids))

section Subtree

variable {lower : String → String} {units : Table OrgUnit} {unit : OrgUnit} {rounds : Nat} {id : Int}
  {ids frontier : List Int}

theorem belowFrontier_eq_levels :
    belowFrontier units rounds frontier = levels (unitIds units) (parentIdOf units) rounds frontier := by
  induction rounds generalizing frontier with
  | zero => rfl
  | succ rounds ih =>
      have next : (units.rows.filter fun row => row.parentId.any (· ∈ frontier)).map (·.id) =
          (unitIds units).filter fun id => (parentIdOf units id).any (· ∈ frontier) := by
        rw [unitIds, List.filter_map]
        refine congrArg (List.map _) (List.filter_congr fun row member => ?_)
        rw [Function.comp_apply, parentIdOf_row member]
      rw [belowFrontier, levels, next]
      simp only [ih]

theorem mem_orgSubtreeIds (grown : Grown lower units) (member : unit ∈ units.rows)
    (found : orgSubtreeIds units rounds unit.id = some ids) :
    id ∈ ids ↔ id ∈ unitIds units ∧ ∃ steps, ancestor (parentIdOf units) steps id = some unit.id := by
  obtain ⟨below, foundBelow, rfl⟩ := Option.map_eq_some_iff.mp found
  rw [belowFrontier_eq_levels] at foundBelow
  rw [List.mem_cons, mem_levels grown.closed foundBelow]
  constructor
  · rintro (rfl | ⟨listed, steps, top, isTop, reached⟩)
    · exact ⟨List.mem_map_of_mem member, 0, rfl⟩
    · cases List.mem_singleton.mp isTop
      exact ⟨listed, steps + 1, reached⟩
  · rintro ⟨listed, steps, reached⟩
    cases steps with
    | zero => exact .inl (Option.some.inj reached)
    | succ steps => exact .inr ⟨listed, steps, unit.id, List.mem_singleton_self unit.id, reached⟩

theorem orgSubtreeIds_some (grown : Grown lower units) (enough : 3 ≤ rounds) :
    ∃ ids, orgSubtreeIds units rounds unit.id = some ids := by
  have short : ∀ top ∈ [unit.id], ∀ node steps,
      ancestor (parentIdOf units) steps node = some top → steps < rounds :=
    fun _ _ _ _ reached => Nat.lt_of_lt_of_le (grown.shallow reached) enough
  have ends : ∃ below, levels (unitIds units) (parentIdOf units) rounds [unit.id] = some below :=
    levels_some (List.cons_ne_nil unit.id []) short
  obtain ⟨below, found⟩ := ends
  exact ⟨unit.id :: below, by rw [orgSubtreeIds, belowFrontier_eq_levels, found, Option.map_some]⟩

end Subtree

end Dosm.Hosts
