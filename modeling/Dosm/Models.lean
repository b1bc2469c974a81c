import Dosm.Base.Table
import Dosm.Python.Value

namespace Dosm.Models

/-! The rows of the database, with the columns the modelled code reads or
writes. Keys are integers of any sign: the ones that arrive in a request are
whatever the caller sent.
-/

structure Tenant where
  id : Int
  name : String
  slug : String
  deriving DecidableEq

inductive Role where
  | viewer
  | operator
  | tenantAdmin
  | platformAdmin
  deriving DecidableEq

inductive Tier where
  | application
  | environment
  | unit
  deriving DecidableEq

structure OrgUnit where
  id : Int
  tenantId : Int
  name : String
  slug : String
  tier : Tier
  parentId : Option Int
  deriving DecidableEq

inductive CredKind where
  | login
  | sshKey
  | pat
  | azureSp
  | awsKeys
  | gcpSa
  | dynamic
  deriving DecidableEq

inductive Visibility where
  | shared
  | personal
  deriving DecidableEq

structure Credential where
  id : Int
  tenantId : Int
  name : String
  kind : CredKind
  username : Option String
  domain : Option String
  secretRef : String
  ownerId : Option Nat
  visibility : Visibility
  orgUnitId : Option Int
  deriving DecidableEq

inductive Protocol where
  | ssh
  | rdp
  | vnc
  deriving DecidableEq

inductive FtMethod where
  | sftp
  | ftp
  | ftps
  deriving DecidableEq

structure Host where
  id : Int
  tenantId : Int
  name : String
  hostname : String
  port : Int
  protocol : Protocol
  description : Option String
  credentialId : Option Int
  jumpHostId : Option Int
  isJumpbox : Bool
  ftMethod : Option FtMethod
  ftPort : Option Int
  ftCredentialId : Option Int
  orgUnitId : Option Int
  deriving DecidableEq

structure Tag where
  id : Int
  tenantId : Int
  name : String
  deriving DecidableEq

structure HostTag where
  hostId : Int
  tagId : Int
  deriving DecidableEq

structure Pipeline where
  id : Int
  tenantId : Int
  name : String
  provider : String
  description : Option String
  config : String
  inputsSchema : Option String
  credentialId : Option Int
  ownerId : Option Nat
  visibility : Visibility
  orgUnitId : Option Int
  deriving DecidableEq

inductive RunStatus where
  | queued
  | running
  | success
  | failed
  | cancelled
  | skipped
  | unknown
  deriving DecidableEq

/-- Times are instants in microseconds. -/
structure PipelineRun where
  id : Int
  pipelineId : Int
  externalId : Option String
  status : RunStatus
  inputs : Option String
  htmlUrl : Option String
  triggeredByUserId : Option Nat
  triggeredAt : Int
  startedAt : Option Int
  completedAt : Option Int
  lastPolledAt : Option Int
  error : Option String
  deriving DecidableEq

inductive DocStatus where
  | pending
  | indexed
  | error
  deriving DecidableEq

structure Document where
  id : Int
  tenantId : Int
  relPath : String
  sha256 : String
  sizeBytes : Nat
  modifiedAt : Int
  indexedAt : Option Int
  status : DocStatus
  error : Option String
  chunkCount : Nat
  title : Option String
  folderId : Option Int
  frontmatterTitle : Option String
  deriving DecidableEq

structure DocChunk where
  docId : Int
  ord : Nat
  text : String
  startChar : Nat
  endChar : Nat
  embedding : Option (List UInt8)
  deriving DecidableEq

/-- A docs folder; its slug is unique within a tenant only. -/
structure Folder where
  id : Int
  tenantId : Int
  name : String
  slug : String
  deriving DecidableEq

inductive ChatRole where
  | user
  | assistant
  | system
  deriving DecidableEq

structure Conversation where
  id : Int
  tenantId : Int
  userId : Option Nat
  deriving DecidableEq

structure ChatMessage where
  id : Int
  conversationId : Int
  role : ChatRole
  content : String
  ord : Int
  deriving DecidableEq

structure AuditLog where
  tenantId : Option Int
  actorId : Int
  action : String
  target : String
  details : Option String
  deriving DecidableEq

instance : Keyed PipelineRun := ⟨PipelineRun.id⟩
instance : Keyed ChatMessage := ⟨ChatMessage.id⟩
instance : Keyed Tenant := ⟨Tenant.id⟩
theorem Tenant.keyed (name slug : String) (id : Int) : key (Tenant.mk id name slug) = id := rfl

instance : Owned OrgUnit := { key := OrgUnit.id, owner := OrgUnit.tenantId }
instance : Owned Credential := { key := Credential.id, owner := Credential.tenantId }
instance : Owned Host := { key := Host.id, owner := Host.tenantId }
instance : Owned Tag := { key := Tag.id, owner := Tag.tenantId }
instance : Owned Pipeline := { key := Pipeline.id, owner := Pipeline.tenantId }
instance : Owned Document := { key := Document.id, owner := Document.tenantId }
instance : Owned Folder := { key := Folder.id, owner := Folder.tenantId }
instance : Owned Conversation := { key := Conversation.id, owner := Conversation.tenantId }

structure Database where
  tenants : Table Tenant := .empty
  orgUnits : Table OrgUnit := .empty
  credentials : Table Credential := .empty
  hosts : Table Host := .empty
  tags : Table Tag := .empty
  hostTags : List HostTag := []
  pipelines : Table Pipeline := .empty

def Protocol.name : Protocol → String
  | ssh => "ssh"
  | rdp => "rdp"
  | vnc => "vnc"

namespace Role

def rank : Role → Nat
  | viewer => 0
  | operator => 1
  | tenantAdmin => 2
  | platformAdmin => 3

def name : Role → String
  | viewer => "viewer"
  | operator => "operator"
  | tenantAdmin => "tenant_admin"
  | platformAdmin => "platform_admin"

def atLeast (role minimum : Role) : Bool := minimum.rank ≤ role.rank

end Role

/-- `scalar_one_or_none` over the rows a query selects. -/
def scalarOneOrNone {Row : Type} (rows : List Row) : Except Python.Raised (Option Row) :=
  match rows with
  | [] => .ok none
  | [row] => .ok (some row)
  | _ :: _ :: _ => .error .multipleResultsFound

theorem scalarOneOrNone_some {Row : Type} {rows : List Row} {row : Row}
    (found : scalarOneOrNone rows = .ok (some row)) : rows = [row] := by
  cases rows with
  | nil => cases found
  | cons head tail =>
      cases tail with
      | nil =>
          cases found
          rfl
      | cons second rest => cases found

theorem scalarOneOrNone_none {Row : Type} {rows : List Row}
    (found : scalarOneOrNone rows = .ok none) : rows = [] := by
  cases rows with
  | nil => rfl
  | cons head tail =>
      cases tail with
      | nil => cases found
      | cons second rest => cases found

theorem selected_member {Row : Type} {rows : List Row} {row : Row} {selected : Row → Bool}
    (found : scalarOneOrNone (rows.filter selected) = .ok (some row)) :
    row ∈ rows ∧ selected row := by
  have listed : row ∈ rows.filter selected := by
    rw [scalarOneOrNone_some found]
    exact List.mem_singleton.mpr rfl
  exact List.mem_filter.mp listed

end Dosm.Models
