import Dosm.Auth.Sockets
import Dosm.Base.Sql
import Dosm.Pipelines.Payloads

namespace Dosm.Auth.Visibility

open Models Sockets Sql Web
open Pipelines (Payload)

/-! Who sees a private row: the predicates of the pages beside the conditions of the lists.

Credentials, pipelines and saved inputs share one rule, which is there twice for each of
them. A condition that compares the owner with no user selects the rows without an owner.
-/

section Rule

variable {Row : Type}

/-- Visible to all, or private to its owner and the administrators. -/
structure Secured (Row : Type) where
  visibility : Row → Visibility
  ownerId : Row → Option Int

def isAdmin (user : Option UserRow) : Bool := user.any fun user => userHasRole user "tenant_admin"

def canSee (columns : Secured Row) (user : Option UserRow) (row : Row) : Bool :=
  columns.visibility row ≠ .personal || isAdmin user || user.any fun user => columns.ownerId row = some user.id

/-- The condition of a list; an administrator's has none. -/
def visibleFilter (columns : Secured Row) (user : Option UserRow) : Option (Clause Row) :=
  if isAdmin user then none
  else some (either (differs (fun row => some (columns.visibility row)) .personal)
    (comparesTo columns.ownerId (user.map UserRow.id)))

def tenantClause (tenantId : Row → Int) (tid : Option Int) : Option (Clause Row) :=
  tid.map fun tenant => equals (fun row => some (tenantId row)) tenant

def byName (name : Row → String) (left right : Row) : Bool := name left ≤ name right

end Rule

/-! Credentials. -/

def credentialColumns : Secured Credential := ⟨Credential.visibility, fun cred => cred.ownerId.map Int.ofNat⟩

def canSeeCredential : Option UserRow → Credential → Bool := canSee credentialColumns

def visibleCredentialsFilter : Option UserRow → Option (Clause Credential) := visibleFilter credentialColumns

def visibleCredentials (credentials : Table Credential) (user : Option UserRow) (tid : Option Int) : List Credential :=
  select ((tenantClause Credential.tenantId tid).toList ++ (visibleCredentialsFilter user).toList)
    (byName Credential.name) credentials.rows

/-! Pipelines. -/

def pipelineColumns : Secured Pipeline := ⟨Pipeline.visibility, fun pipeline => pipeline.ownerId.map Int.ofNat⟩

def canSeePipeline : Option UserRow → Pipeline → Bool := canSee pipelineColumns

def visiblePipelinesFilter : Option UserRow → Option (Clause Pipeline) := visibleFilter pipelineColumns

/-- Without a user the list is not restricted within the tenant. -/
def listPipelines (pipelines : Table Pipeline) (tid : Option Int) (user : Option UserRow) : List Pipeline :=
  select ((tenantClause Pipeline.tenantId tid).toList ++
      if user.isSome then (visiblePipelinesFilter user).toList else [])
    (byName Pipeline.name) pipelines.rows

/-! The saved inputs of a pipeline. -/

def payloadColumns : Secured Payload := ⟨Payload.visibility, fun payload => payload.createdById.map Int.ofNat⟩

def canSeePayload : Option UserRow → Payload → Bool := canSee payloadColumns

def visiblePayloadsFilter : Option UserRow → Option (Clause Payload) := visibleFilter payloadColumns

def listPayloads (payloads : Table Payload) (pipelineId : Int) (clause : Option (Clause Payload)) : List Payload :=
  select (equals (fun payload => some payload.pipelineId) pipelineId :: clause.toList) (byName Payload.name) payloads.rows

/-- Someone asks, or the row is shared or has an owner. -/
def Settled {Row : Type} (columns : Secured Row) (user : Option UserRow) (row : Row) : Prop :=
  user = none → columns.visibility row = .personal → columns.ownerId row ≠ none

def InTenant (tid : Option Int) (tenantId : Int) : Prop := ∀ tenant, tid = some tenant → tenantId = tenant

section Agreement

variable {Row : Type} {columns : Secured Row} {user : Option UserRow} {row : Row} {tid : Option Int}

theorem canSee_iff : canSee columns user row = true ↔ columns.visibility row ≠ .personal ∨ isAdmin user = true ∨
    ∃ viewer, user = some viewer ∧ columns.ownerId row = some viewer.id := by
  simp only [canSee, Bool.or_eq_true, decide_eq_true_eq, or_assoc, Option.any_eq_true]

theorem comparesTo_user : comparesTo columns.ownerId (user.map UserRow.id) row = some true ↔
    (∃ viewer, user = some viewer ∧ columns.ownerId row = some viewer.id) ∨
      (user = none ∧ columns.ownerId row = none) := by
  cases user with
  | none => simp [comparesTo, isNull_eq_true]
  | some viewer => simp [comparesTo, equals_eq_true]

theorem visibleFilter_iff : (∀ clause ∈ visibleFilter columns user, clause row = some true) ↔
    canSee columns user row = true ∨ (user = none ∧ columns.ownerId row = none) := by
  rw [canSee_iff, visibleFilter]
  by_cases admin : isAdmin user = true
  · simp [admin]
  · rw [if_neg admin]
    simp only [Option.mem_def, Option.some.injEq, forall_eq', either_eq_true, differs_eq_true, exists_eq_left',
      comparesTo_user, admin, Bool.false_eq_true, false_or, or_assoc]

theorem visibleFilter_settled (settled : Settled columns user row) :
    (∀ clause ∈ visibleFilter columns user, clause row = some true) ↔ canSee columns user row = true := by
  rw [visibleFilter_iff, or_iff_left_iff_imp]
  rintro ⟨nobody, unowned⟩
  by_cases personal : columns.visibility row = .personal
  · exact absurd unowned (settled nobody personal)
  · exact canSee_iff.mpr (.inl personal)

theorem tenantClause_iff {tenantId : Row → Int} :
    (∀ clause ∈ tenantClause tenantId tid, clause row = some true) ↔ InTenant tid (tenantId row) := by
  cases tid with
  | none => simp [tenantClause, InTenant]
  | some tenant => simp [tenantClause, InTenant, equals_eq_true]

theorem mem_visibleCredentials {credentials : Table Credential} {cred : Credential} :
    cred ∈ visibleCredentials credentials user tid ↔ cred ∈ credentials.rows ∧ InTenant tid cred.tenantId ∧
      ∀ clause ∈ visibleCredentialsFilter user, clause cred = some true := by
  rw [visibleCredentials, mem_select, ← @tenantClause_iff _ cred tid Credential.tenantId]
  simp only [List.mem_append, Option.mem_toList, or_imp, forall_and]
  rfl

theorem mem_listPipelines {pipelines : Table Pipeline} {pipeline : Pipeline} :
    pipeline ∈ listPipelines pipelines tid user ↔ pipeline ∈ pipelines.rows ∧ InTenant tid pipeline.tenantId ∧
      (user = none ∨ ∀ clause ∈ visiblePipelinesFilter user, clause pipeline = some true) := by
  rw [listPipelines, mem_select, ← @tenantClause_iff _ pipeline tid Pipeline.tenantId]
  cases user with
  | none => simp [tenantClause_iff]
  | some viewer => simp [or_imp, forall_and]

theorem mem_listPayloads {payloads : Table Payload} {payload : Payload} {pipelineId : Int}
    {clause : Option (Clause Payload)} :
    payload ∈ listPayloads payloads pipelineId clause ↔ payload ∈ payloads.rows ∧ payload.pipelineId = pipelineId ∧
      ∀ condition ∈ clause, condition payload = some true := by
  simp [listPayloads, mem_select, equals_eq_true]

end Agreement

def viewerOf (caller : Caller) : UserRow := ⟨caller.userId, "", caller.role.name, caller.tid, true⟩

section Pages

variable {caller : Caller}

theorem isAdmin_viewerOf : isAdmin (some (viewerOf caller)) = caller.role.atLeast .tenantAdmin := by
  unfold viewerOf
  cases caller.role <;> rfl

theorem canSee_viewerOf {Row : Type} {columns : Secured Row} {row : Row} {ownerId : Option Nat}
    (owner : columns.ownerId row = ownerId.map Int.ofNat) : canSee columns (some (viewerOf caller)) row =
      (columns.visibility row ≠ .personal || caller.role.atLeast .tenantAdmin || ownerId = some caller.userId) := by
  rw [canSee, isAdmin_viewerOf, Option.any_some, owner]
  cases ownerId <;> simp [viewerOf]

theorem canSee_caller {cred : Credential} {pipeline : Pipeline} {payload : Payload} :
    canSeeCredential (some (viewerOf caller)) cred = Credentials.canSeeCredential caller cred ∧
      canSeePipeline (some (viewerOf caller)) pipeline = Pipelines.canSeePipeline caller pipeline ∧
        canSeePayload (some (viewerOf caller)) payload = Pipelines.canSeePayload caller payload :=
  ⟨canSee_viewerOf rfl, canSee_viewerOf rfl, canSee_viewerOf rfl⟩

end Pages

/-- The lists have what the predicates let the user see. A list of pipelines without a user is not restricted
within the tenant; nothing is said of private credentials and payloads without an owner when nobody asks. -/
theorem listed_iff_seen (credentials : Table Credential) (pipelines : Table Pipeline) (payloads : Table Payload)
    (user : Option UserRow) (tid : Option Int) (pipelineId : Int) :
    (∀ cred, Settled credentialColumns user cred → (cred ∈ visibleCredentials credentials user tid ↔
      cred ∈ credentials.rows ∧ InTenant tid cred.tenantId ∧ canSeeCredential user cred = true)) ∧
    (∀ pipeline, pipeline ∈ listPipelines pipelines tid user ↔ pipeline ∈ pipelines.rows ∧
      InTenant tid pipeline.tenantId ∧ (user = none ∨ canSeePipeline user pipeline = true)) ∧
    ∀ payload, Settled payloadColumns user payload →
      (payload ∈ listPayloads payloads pipelineId (visiblePayloadsFilter user) ↔
        payload ∈ payloads.rows ∧ payload.pipelineId = pipelineId ∧ canSeePayload user payload = true) := by
  refine ⟨fun cred settled => ?_, fun pipeline => ?_, fun payload settled => ?_⟩
  · rw [mem_visibleCredentials]
    exact and_congr_right fun _ => and_congr_right fun _ => visibleFilter_settled settled
  · rw [mem_listPipelines]
    refine and_congr_right fun _ => and_congr_right fun _ => or_congr_right' fun someone => ?_
    exact visibleFilter_settled fun nobody => absurd nobody someone
  · rw [mem_listPayloads]
    exact and_congr_right fun _ => and_congr_right fun _ => visibleFilter_settled settled

/-- A private credential of the user with this number, if any. -/
def vaultKey (ownerId : Option Nat) : Credential :=
  ⟨1, 3, "vault", .login, none, none, "creds/vault", ownerId, .personal, none⟩

def nightly (ownerId : Option Nat) : Pipeline :=
  ⟨1, 3, "nightly", "github_actions", none, "\x7b\x7d", none, none, ownerId, .personal, none⟩

def rehearsal (createdById : Option Nat) : Payload := ⟨1, 1, "rehearsal", none, "\x7b\x7d", .personal, createdById⟩

def oneRow {Row : Type} [Keyed Row] (row : Row) : Table Row := ⟨[row], List.nodup_singleton _⟩

def formerOperator : UserRow := ⟨4, "sam", "operator", some 3, false⟩

theorem former_operator_sees_own :
    (vaultKey (some 4) ∈ visibleCredentials (oneRow (vaultKey (some 4))) (some formerOperator) (some 3) ↔
      vaultKey (some 4) ∈ (oneRow (vaultKey (some 4))).rows ∧ InTenant (some 3) 3 ∧
        canSeeCredential (some formerOperator) (vaultKey (some 4)) = true) ∧
    (rehearsal (some 4) ∈ listPayloads (oneRow (rehearsal (some 4))) 1 (visiblePayloadsFilter (some formerOperator)) ↔
      rehearsal (some 4) ∈ (oneRow (rehearsal (some 4))).rows ∧ (1 : Int) = 1 ∧
        canSeePayload (some formerOperator) (rehearsal (some 4)) = true) := by
  have listed := listed_iff_seen (oneRow (vaultKey (some 4))) (oneRow (nightly none)) (oneRow (rehearsal (some 4)))
    (some formerOperator) (some 3) 1
  exact ⟨listed.1 _ nofun, listed.2.2 _ nofun⟩

/-- Nobody may see these rows, and the lists without a user have them. -/
theorem nobody_lists_private :
    (vaultKey none ∈ visibleCredentials (oneRow (vaultKey none)) none (some 3) ∧
      canSeeCredential none (vaultKey none) = false) ∧
    (rehearsal none ∈ listPayloads (oneRow (rehearsal none)) 1 (visiblePayloadsFilter none) ∧
      canSeePayload none (rehearsal none) = false) ∧
    nightly (some 4) ∈ listPipelines (oneRow (nightly (some 4))) (some 3) none ∧
      canSeePipeline none (nightly (some 4)) = false := by
  refine ⟨⟨?_, rfl⟩, ⟨?_, rfl⟩, ?_, rfl⟩
  · exact mem_select.mpr ⟨List.mem_singleton_self _, by decide⟩
  · exact mem_select.mpr ⟨List.mem_singleton_self _, by decide⟩
  · exact mem_select.mpr ⟨List.mem_singleton_self _, by decide⟩

end Dosm.Auth.Visibility
