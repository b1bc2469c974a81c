import Dosm.Agent.Credentials
import Dosm.Agent.Inventory

namespace Dosm.Inventory

open Models Python Agent Web Credentials Transition Checks

/-! Tenant closure of the references between inventory rows.

Seven columns refer to rows that belong to tenants. Host writers check every id
against the host's tenant; the pipeline writers, and the credential form for its
org unit, store what they are given once the foreign key exists.
-/

structure HostClosed (db : Database) (host : Host) : Prop where
  credential : db.credentials.Refers host.tenantId host.credentialId
  ftCredential : db.credentials.Refers host.tenantId host.ftCredentialId
  jumpHost : db.hosts.Refers host.tenantId host.jumpHostId
  orgUnit : db.orgUnits.Refers host.tenantId host.orgUnitId

structure PipelineClosed (db : Database) (pipeline : Pipeline) : Prop where
  credential : db.credentials.Refers pipeline.tenantId pipeline.credentialId
  orgUnit : db.orgUnits.Refers pipeline.tenantId pipeline.orgUnitId

def CredentialClosed (db : Database) (cred : Credential) : Prop :=
  db.orgUnits.Refers cred.tenantId cred.orgUnitId

/-- Every non-null reference leads to a row of the same tenant. -/
structure ReferencesClosed (db : Database) : Prop where
  hosts : ∀ host ∈ db.hosts.rows, HostClosed db host
  pipelines : ∀ pipeline ∈ db.pipelines.rows, PipelineClosed db pipeline
  credentials : ∀ cred ∈ db.credentials.rows, CredentialClosed db cred

inductive Operation where
  | addTenant (name slug : String)
  | addOrgUnit (tenantId : Int) (name slug : String) (tier : Tier) (parentId : Option Int)
  | hostCreate (caller : Caller) (form : Hosts.HostArgs)
  | hostUpdate (caller : Caller) (id : Int) (form : Hosts.HostArgs)
  | hostAssign (caller : Caller) (id : Int) (orgUnitId : Option Int)
  | credentialCreate (caller : Caller) (form : CredentialForm) (backendUp : Bool)
  | credentialDynamic (caller : Caller) (name : String)
  | credentialRename (caller : Caller) (id : Int) (newName : String)
  | credentialUpdate (caller : Caller) (id : Int) (form : CredentialForm) (backendUp : Bool)
  | credentialAssign (caller : Caller) (id : Int) (orgUnitId : Option Int)
  | pipelineCreate (caller : Caller) (form : Pipelines.PipelineArgs)
  | pipelineUpdate (caller : Caller) (id : Int) (form : Pipelines.PipelineArgs)
  | pipelineAssign (caller : Caller) (id : Int) (orgUnitId : Option Int)
  | agentHostCreate (tid : Option Int) (args : Args)
  | agentHostUpdate (tid : Option Int) (args : Args)
  | agentCredentialCreate (tid : Option Int) (args : Args) (backendUp : Bool)
  | agentCredentialUpdate (tid : Option Int) (args : Args) (backendUp : Bool)
  | agentPipelineCreate (tid : Option Int) (args : Args)
  | agentPipelineUpdate (tid : Option Int) (args : Args)

def perform (adapters : Pipelines.Adapters) (world : World) : Operation → World
  | .addTenant name slug =>
      { world with db := { world.db with
          tenants := world.db.tenants.insert fun id => { id, name, slug } } }
  | .addOrgUnit tenantId name slug tier parentId =>
      { world with db := { world.db with
          orgUnits := world.db.orgUnits.insert fun id => { id, tenantId, name, slug, tier, parentId } } }
  | .hostCreate caller form => (Hosts.hostsCreate world caller form).1
  | .hostUpdate caller id form => (Hosts.hostsUpdate world caller id form).1
  | .hostAssign caller id orgUnitId => (Hosts.hostsAssignOrg world caller id orgUnitId).1
  | .credentialCreate caller form backendUp => (credentialsCreate world caller form backendUp).1
  | .credentialDynamic caller name => (myCredentialsNew world caller name).1
  | .credentialRename caller id newName => (credentialsRename world caller id newName).1
  | .credentialUpdate caller id form backendUp => (credentialsUpdate world caller id form backendUp).1
  | .credentialAssign caller id orgUnitId => (credentialsAssignOrg world caller id orgUnitId).1
  | .pipelineCreate caller form => (Pipelines.pipelinesCreate adapters world caller form).1
  | .pipelineUpdate caller id form => (Pipelines.pipelinesUpdate adapters world caller id form).1
  | .pipelineAssign caller id orgUnitId => (Pipelines.pipelinesAssignOrg world caller id orgUnitId).1
  | .agentHostCreate tid args => (createHostRunner world tid args).world
  | .agentHostUpdate tid args => (updateHostRunner world tid args).world
  | .agentCredentialCreate tid args backendUp => (createCredentialRunner world tid args backendUp).world
  | .agentCredentialUpdate tid args backendUp => (updateCredentialRunner world tid args backendUp).world
  | .agentPipelineCreate tid args => (createPipelineRunner adapters world tid args).world
  | .agentPipelineUpdate tid args => (updatePipelineRunner adapters world tid args).world

def inventorySystem (adapters : Pipelines.Adapters) : Machine World Operation where
  initial world := world.db = {}
  step world operation := some (perform adapters world operation)

/-- The ids a request carries into a row without a tenant check, with the
tenant of the row that gets them. -/
structure Unchecked where
  tenant : Int
  credentialId : Option Int := none
  orgUnitId : Option Int := none

def ofCredential (form : CredentialForm) (cred : Credential) : Unchecked where
  tenant := cred.tenantId
  orgUnitId := form.orgUnitId

def ofPipeline (form : Pipelines.PipelineArgs) (tenant : Int) : Unchecked where
  tenant
  credentialId := form.credentialId
  orgUnitId := form.orgUnitId

/-- Nothing for a request that the route or the tool refuses on its way to the row. -/
def unchecked (world : World) : Operation → Option Unchecked
  | .credentialCreate caller form _ =>
      (createDraft world.db caller form).toOption.map (ofCredential form)
  | .credentialUpdate caller id form _ =>
      (do requireRole caller .operator; visibleCredential world.db caller id).toOption.map
        (ofCredential form)
  | .pipelineCreate caller form =>
      (do requireRole caller .operator; requireActiveTenant caller).toOption.map (ofPipeline form)
  | .pipelineUpdate caller id form =>
      (Pipelines.pipelineOr404 world.db caller id).toOption.map fun row => ofPipeline form row.tenantId
  | .agentPipelineCreate tid args =>
      tid.map fun tenant => { tenant, credentialId := idOrNone (args.get "credential_id") }
  | .agentPipelineUpdate tid args =>
      match args.text "name" with
      | .error _ => none
      | .ok name =>
          match pipelineNamed world.db tid name with
          | .ok (some row) =>
              some { tenant := row.tenantId, credentialId := idOr none (args.get "credential_id") }
          | _ => none
  | _ => none

/-- An id that names a row names one of the tenant. -/
def NotForeign {Row : Type} [Owned Row] (table : Table Row) (tenant : Int) (reference : Option Int) :
    Prop :=
  ∀ id row, reference = some id → table.get id = some row → owner row = tenant

instance {Row : Type} [Owned Row] (table : Table Row) (tenant : Int) (reference : Option Int) :
    Decidable (NotForeign table tenant reference) :=
  decidable_of_iff (∀ id ∈ reference, ∀ row ∈ table.get id, owner row = tenant) <| by
    constructor
    · intro own id row same found
      exact own id same row found
    · intro own id same row found
      exact own id row same found

def SubmitsOwn (world : World) (operation : Operation) : Prop :=
  ∀ ids, unchecked world operation = some ids →
    NotForeign world.db.credentials ids.tenant ids.credentialId ∧
      NotForeign world.db.orgUnits ids.tenant ids.orgUnitId

instance (world : World) (operation : Operation) : Decidable (SubmitsOwn world operation) :=
  decidable_of_iff (∀ ids ∈ unchecked world operation,
    NotForeign world.db.credentials ids.tenant ids.credentialId ∧
      NotForeign world.db.orgUnits ids.tenant ids.orgUnitId) Iff.rfl

/-- What any writer may do: rows stay under their owners, and a row that is new
or changed is closed. -/
structure Writes (before after : Database) : Prop where
  orgUnitsKept : before.orgUnits.Keeps after.orgUnits
  credentialsKept : before.credentials.Keeps after.credentials
  hostsKept : before.hosts.Keeps after.hosts
  hosts : ∀ host ∈ after.hosts.rows, host ∈ before.hosts.rows ∨ HostClosed before host
  pipelines : ∀ pipeline ∈ after.pipelines.rows,
    pipeline ∈ before.pipelines.rows ∨ PipelineClosed before pipeline
  credentials : ∀ cred ∈ after.credentials.rows,
    cred ∈ before.credentials.rows ∨ CredentialClosed before cred

section Writers

variable {before after middle : Database} {tenant : Int} {reference : Option Int}

theorem Writes.refl : Writes before before where
  orgUnitsKept := .refl
  credentialsKept := .refl
  hostsKept := .refl
  hosts _ member := .inl member
  pipelines _ member := .inl member
  credentials _ member := .inl member

theorem ReferencesClosed.write (closed : ReferencesClosed before) (writes : Writes before after) :
    ReferencesClosed after where
  hosts host member := by
    have sound : HostClosed before host := (writes.hosts host member).elim (closed.hosts host) id
    exact {
      credential := sound.credential.keep writes.credentialsKept
      ftCredential := sound.ftCredential.keep writes.credentialsKept
      jumpHost := sound.jumpHost.keep writes.hostsKept
      orgUnit := sound.orgUnit.keep writes.orgUnitsKept }
  pipelines pipeline member := by
    have sound : PipelineClosed before pipeline :=
      (writes.pipelines pipeline member).elim (closed.pipelines pipeline) id
    exact {
      credential := sound.credential.keep writes.credentialsKept
      orgUnit := sound.orgUnit.keep writes.orgUnitsKept }
  credentials cred member := by
    have sound : CredentialClosed before cred :=
      (writes.credentials cred member).elim (closed.credentials cred) id
    exact sound.keep writes.orgUnitsKept

theorem writes_insertHost {draft : Host} (closed : HostClosed before draft) :
    Writes before { before with hosts := before.hosts.insert fun id => { draft with id } } where
  orgUnitsKept := .refl
  credentialsKept := .refl
  hostsKept := Table.keeps_insert
  hosts host member := by
    have cases := Table.mem_insert.mp member
    refine cases.imp_right ?_
    intro same
    rw [same]
    exact ⟨closed.credential, closed.ftCredential, closed.jumpHost, closed.orgUnit⟩
  pipelines _ member := .inl member
  credentials _ member := .inl member

theorem writes_insertPipeline {draft : Pipeline} (closed : PipelineClosed before draft) :
    Writes before { before with pipelines := before.pipelines.insert fun id => { draft with id } } where
  orgUnitsKept := .refl
  credentialsKept := .refl
  hostsKept := .refl
  hosts _ member := .inl member
  pipelines pipeline member := by
    have cases := Table.mem_insert.mp member
    refine cases.imp_right ?_
    intro same
    rw [same]
    exact ⟨closed.credential, closed.orgUnit⟩
  credentials _ member := .inl member

theorem writes_insertCredential {draft : Credential} (closed : CredentialClosed before draft) :
    Writes before
      { before with credentials := before.credentials.insert fun id => { draft with id } } where
  orgUnitsKept := .refl
  credentialsKept := Table.keeps_insert
  hostsKept := .refl
  hosts _ member := .inl member
  pipelines _ member := .inl member
  credentials cred member := by
    have cases := Table.mem_insert.mp member
    refine cases.imp_right ?_
    intro same
    rw [same]
    exact closed

variable {id : Int}

theorem writes_modifyHost {change : Host → Host}
    (closed : ∀ row ∈ before.hosts.rows, row.id = id → HostClosed before (change row))
    {same : ∀ row, key (change row) = key row}
    (sameOwner : ∀ row, owner (change row) = owner row) :
    Writes before { before with hosts := before.hosts.modify id change same } where
  orgUnitsKept := .refl
  credentialsKept := .refl
  hostsKept := Table.keeps_modify same sameOwner
  hosts host member := by
    have changed : host ∈ (before.hosts.modify id change same).rows := member
    obtain ⟨old, oldMember, isChanged⟩ := Table.mem_modify.mp changed
    rw [isChanged]
    split
    · exact .inr (closed old oldMember ‹_›)
    · exact .inl oldMember
  pipelines _ member := .inl member
  credentials _ member := .inl member

theorem writes_modifyPipeline {change : Pipeline → Pipeline}
    (closed : ∀ row ∈ before.pipelines.rows, row.id = id → PipelineClosed before (change row))
    {same : ∀ row, key (change row) = key row} :
    Writes before { before with pipelines := before.pipelines.modify id change same } where
  orgUnitsKept := .refl
  credentialsKept := .refl
  hostsKept := .refl
  hosts _ member := .inl member
  pipelines pipeline member := by
    have changed : pipeline ∈ (before.pipelines.modify id change same).rows := member
    obtain ⟨old, oldMember, isChanged⟩ := Table.mem_modify.mp changed
    rw [isChanged]
    split
    · exact .inr (closed old oldMember ‹_›)
    · exact .inl oldMember
  credentials _ member := .inl member

theorem writes_modifyCredential {change : Credential → Credential}
    (closed : ∀ row ∈ before.credentials.rows, row.id = id → CredentialClosed before (change row))
    {same : ∀ row, key (change row) = key row}
    (sameOwner : ∀ row, owner (change row) = owner row) :
    Writes before { before with credentials := before.credentials.modify id change same } where
  orgUnitsKept := .refl
  credentialsKept := Table.keeps_modify same sameOwner
  hostsKept := .refl
  hosts _ member := .inl member
  pipelines _ member := .inl member
  credentials cred member := by
    have changed : cred ∈ (before.credentials.modify id change same).rows := member
    obtain ⟨old, oldMember, isChanged⟩ := Table.mem_modify.mp changed
    rw [isChanged]
    split
    · exact .inr (closed old oldMember ‹_›)
    · exact .inl oldMember

theorem refers_of_exists {Row : Type} [Owned Row] {table : Table Row}
    (present : reference.any (fun id => (table.get id).isNone) = false)
    (own : NotForeign table tenant reference) : table.Refers tenant reference := by
  intro id same
  subst same
  simp only [Option.any_some] at present
  cases found : table.get id with
  | none => simp [found] at present
  | some row => exact ⟨row, rfl, own id row rfl found⟩

end Writers

/-! Hosts: the checks of a new or edited row make it closed. -/

section Hosts

variable {db after middle : Database} {tenant hostId : Int} {self : Option Int} {reference kept : Option Int}
  {host draft : Host} {args : Hosts.HostArgs} {world : World} {caller : Caller}
  {tid : Option Int} {given : Args}

theorem validateOrgUnit_refers (valid : Hosts.validateOrgUnit db reference tenant = .ok kept) :
    db.orgUnits.Refers tenant kept := by
  cases reference with
  | none =>
      cases valid
      exact Table.refers_none
  | some id =>
      cases found : db.orgUnits.getOwned tenant id with
      | none => simp [Hosts.validateOrgUnit, found] at valid
      | some unit =>
          simp only [Hosts.validateOrgUnit, found, Except.ok.injEq] at valid
          subst valid
          exact Table.refers_of_getOwned found

theorem validateCredential_refers (valid : Hosts.validateCredential db reference tenant = .ok kept) :
    db.credentials.Refers tenant kept := by
  cases reference with
  | none =>
      cases valid
      exact Table.refers_none
  | some id =>
      cases found : db.credentials.getOwned tenant id with
      | none => simp [Hosts.validateCredential, found] at valid
      | some cred =>
          simp only [Hosts.validateCredential, found, Except.ok.injEq] at valid
          subst valid
          exact Table.refers_of_getOwned found

theorem validateJump_refers (valid : Hosts.validateJump db self reference tenant = .ok ()) :
    db.hosts.Refers tenant reference := by
  obtain ⟨_, chain⟩ := guard_ok valid
  cases reference with
  | none => exact Table.refers_none
  | some id =>
      -- The walk starts at the referenced host itself.
      simp only [Hosts.validateChain] at chain
      obtain ⟨_, chain⟩ := guard_ok chain
      cases found : db.hosts.getOwned tenant id with
      | none => simp [found] at chain
      | some node => exact Table.refers_of_getOwned found

theorem validateHost_closed {unflag : Except Hosts.HostError Unit}
    (valid : Hosts.validateHost db tenant self args unflag = .ok draft) :
    HostClosed db draft ∧ draft.tenantId = tenant := by
  obtain ⟨protocol, _, valid⟩ := bind_ok valid
  obtain ⟨ftMethod, _, valid⟩ := bind_ok valid
  obtain ⟨orgUnitId, orgUnitValid, valid⟩ := bind_ok valid
  obtain ⟨credentialId, credentialValid, valid⟩ := bind_ok valid
  obtain ⟨ftCredentialId, ftCredentialValid, valid⟩ := bind_ok valid
  obtain ⟨_, _, valid⟩ := bind_ok valid
  obtain ⟨_, jumpValid, built⟩ := bind_ok valid
  cases built
  refine ⟨?_, rfl⟩
  exact {
    credential := validateCredential_refers credentialValid
    ftCredential := validateCredential_refers ftCredentialValid
    jumpHost := validateJump_refers jumpValid
    orgUnit := validateOrgUnit_refers orgUnitValid }

theorem Writes.tag (writes : Writes db middle) {name : String} :
    Writes db (Hosts.tagHost tenant hostId middle name) := by
  simp only [Hosts.tagHost, Hosts.getOrCreateTag]
  cases middle.tags.rows.find? fun tag => tag.name = name && tag.tenantId = tenant with
  | none =>
      exact ⟨writes.orgUnitsKept, writes.credentialsKept, writes.hostsKept, writes.hosts,
        writes.pipelines, writes.credentials⟩
  | some tag =>
      exact ⟨writes.orgUnitsKept, writes.credentialsKept, writes.hostsKept, writes.hosts,
        writes.pipelines, writes.credentials⟩

theorem Writes.tags (writes : Writes db middle) {names : List String} :
    Writes db (names.foldl (Hosts.tagHost tenant hostId) middle) := by
  induction names generalizing middle with
  | nil => exact writes
  | cons name rest ih => exact ih writes.tag

theorem createHost_writes (created : Hosts.createHost db tenant args = .ok (after, hostId)) :
    Writes db after := by
  obtain ⟨draft, valid, created⟩ := bind_ok created
  have closed := (validateHost_closed valid).1
  split at created
  · cases created
  · cases created
    exact (writes_insertHost closed).tags

theorem updateHost_writes (member : host ∈ db.hosts.rows)
    (updated : Hosts.updateHost db host args = .ok after) : Writes db after := by
  obtain ⟨draft, valid, updated⟩ := bind_ok updated
  obtain ⟨closed, sameTenant⟩ := validateHost_closed valid
  split at updated
  · cases updated
  · cases updated
    refine Writes.tags ?_
    have writes : Writes db { db with hosts := db.hosts.modify host.id fun row =>
        { draft with id := row.id, tenantId := row.tenantId } } := by
      refine writes_modifyHost ?_ fun _ => rfl
      intro row rowMember same
      have isHost : row = host := Table.eq_of_key rowMember member same
      rw [isHost, ← sameTenant]
      exact ⟨closed.credential, closed.ftCredential, closed.jumpHost, closed.orgUnit⟩
    exact ⟨writes.orgUnitsKept, writes.credentialsKept, writes.hostsKept, writes.hosts,
      writes.pipelines, writes.credentials⟩

theorem hostOr404_some (found : Hosts.hostOr404 db caller hostId = .ok host) :
    host ∈ db.hosts.rows := by
  obtain ⟨_, _, found⟩ := bind_ok found
  split at found
  · cases found
  · cases found
    exact (getScoped_some ‹_›).1

theorem hostsCreate_writes : Writes world.db (Hosts.hostsCreate world caller args).1.db := by
  simp only [Hosts.hostsCreate]
  split
  · exact .refl
  · split
    · exact .refl
    · exact createHost_writes ‹_›

theorem hostsUpdate_writes : Writes world.db (Hosts.hostsUpdate world caller hostId args).1.db := by
  simp only [Hosts.hostsUpdate]
  split
  · exact .refl
  · split
    · exact .refl
    · exact updateHost_writes (hostOr404_some ‹_›) ‹_›

theorem refers_of_all
    (owned : reference.all fun unit => (db.orgUnits.getOwned tenant unit).isSome) :
    db.orgUnits.Refers tenant reference := by
  cases reference with
  | none => exact Table.refers_none
  | some id =>
      obtain ⟨unit, found⟩ := Option.isSome_iff_exists.mp owned
      exact Table.refers_of_getOwned found

theorem hostsAssign_writes (closed : ReferencesClosed world.db) :
    Writes world.db (Hosts.hostsAssignOrg world caller hostId reference).1.db := by
  simp only [Hosts.hostsAssignOrg]
  split
  · exact .refl
  · rename_i host found
    have member := hostOr404_some found
    split
    · rename_i owned
      refine writes_modifyHost ?_ fun _ => rfl
      intro row rowMember same
      have isHost : row = host := Table.eq_of_key rowMember member same
      rw [isHost]
      have sound := closed.hosts host member
      exact ⟨sound.credential, sound.ftCredential, sound.jumpHost, refers_of_all owned⟩
    · exact .refl

theorem withText_writes {text : Except Raised String} {next : String → Run}
    (continued : ∀ text, Writes world.db (next text).world.db) :
    Writes world.db (Run.withText world text next).world.db := by
  cases text with
  | error raised => exact .refl
  | ok text => exact continued text

theorem createHostRunner_writes : Writes world.db (createHostRunner world tid given).world.db := by
  cases tid with
  | none => exact .refl
  | some tenant =>
      simp only [createHostRunner]
      refine withText_writes fun name => withText_writes fun hostname => ?_
      split
      · exact .refl
      · refine withText_writes fun protocol => withText_writes fun description =>
          withText_writes fun tagsCsv => ?_
        split
        · exact .refl
        · exact .refl
        · exact createHost_writes ‹_›

theorem updateHostRunner_writes : Writes world.db (updateHostRunner world tid given).world.db := by
  simp only [updateHostRunner]
  refine withText_writes fun name => ?_
  split
  · exact .refl
  · split
    · exact .refl
    · exact .refl
    · rename_i host named
      have member : host ∈ world.db.hosts.rows := (selected_member named).1
      refine withText_writes fun protocol => withText_writes fun hostname =>
        withText_writes fun tagsCsv => ?_
      split
      · exact .refl
      · split
        · exact .refl
        · exact .refl
        · exact updateHost_writes member ‹_›

end Hosts

/-! Credentials: only the foreign key of the org unit is checked. -/

section Credentials

variable {db after : Database} {world : World} {caller : Caller} {credId : Int}
  {cred draft : Credential} {form : CredentialForm} {self : Option Int} {backendUp : Bool}
  {tid : Option Int} {args : Args}

theorem credentialClosed_of_integrity (sound : Credentials.integrityError db cred self = none)
    (own : NotForeign db.orgUnits cred.tenantId cred.orgUnitId) : CredentialClosed db cred := by
  refine refers_of_exists ?_ own
  simp only [Credentials.integrityError] at sound
  cases placed : cred.orgUnitId with
  | none => rfl
  | some unit =>
      cases missing : (db.orgUnits.get unit).isNone with
      | false => exact missing
      | true =>
          simp only [placed, missing, Bool.true_or, ↓reduceIte] at sound
          split at sound
          · cases sound
          · cases sound

theorem addCredential_writes (added : addCredential db draft = .ok after)
    (own : NotForeign db.orgUnits draft.tenantId draft.orgUnitId) : Writes db after := by
  simp only [addCredential] at added
  split at added
  · cases added
  · cases added
    exact writes_insertCredential (credentialClosed_of_integrity ‹_› own)

@[simp] theorem setSecret_db {path value : String} :
    (setSecret world backendUp path value).db = world.db := by
  cases backendUp <;> rfl

theorem createDraft_orgUnit (drafted : createDraft db caller form = .ok draft) :
    draft.orgUnitId = form.orgUnitId := by
  obtain ⟨_, _, drafted⟩ := bind_ok drafted
  obtain ⟨tenant, _, drafted⟩ := bind_ok drafted
  simp only [] at drafted
  split at drafted
  · cases drafted
  · obtain ⟨_, built⟩ := guard_ok drafted
    cases built
    rfl

theorem dynamicDraft_orgUnit {name : String} (drafted : dynamicDraft db caller name = .ok draft) :
    draft.orgUnitId = none := by
  obtain ⟨_, _, drafted⟩ := bind_ok drafted
  obtain ⟨tenant, _, drafted⟩ := bind_ok drafted
  obtain ⟨_, built⟩ := guard_ok drafted
  cases built
  rfl

theorem agentDraft_orgUnit {given : CredentialArgs} (drafted : agentDraft db tid given = .ok draft) :
    draft.orgUnitId = none := by
  cases tid with
  | none => cases drafted
  | some tenant =>
      simp only [agentDraft] at drafted
      obtain ⟨_, drafted⟩ := guard_ok drafted
      split at drafted
      · cases drafted
      · obtain ⟨_, built⟩ := guard_ok drafted
        cases built
        rfl

theorem notForeign_none {Row : Type} [Owned Row] {table : Table Row} {tenant : Int} :
    NotForeign table tenant none := nofun

theorem credentialsCreate_writes (own : SubmitsOwn world (.credentialCreate caller form backendUp)) :
    Writes world.db (credentialsCreate world caller form backendUp).1.db := by
  simp only [credentialsCreate]
  cases drafted : createDraft world.db caller form with
  | error reply => exact .refl
  | ok draft =>
      have ownUnit : NotForeign world.db.orgUnits draft.tenantId draft.orgUnitId := by
        rw [createDraft_orgUnit drafted]
        exact (own (ofCredential form draft) (by simp only [unchecked, drafted]; rfl)).2
      simp only []
      cases added : addCredential world.db draft with
      | error message => exact .refl
      | ok db =>
          have writes := addCredential_writes added ownUnit
          simp only []
          split
          · rw [setSecret_db]
            exact writes
          · exact writes

theorem credentialsCreateDynamic_writes {name : String} :
    Writes world.db (myCredentialsNew world caller name).1.db := by
  simp only [myCredentialsNew]
  cases drafted : dynamicDraft world.db caller name with
  | error reply => exact .refl
  | ok draft =>
      simp only []
      cases added : addCredential world.db draft with
      | error message => exact .refl
      | ok db =>
          refine addCredential_writes added ?_
          rw [dynamicDraft_orgUnit drafted]
          exact notForeign_none

theorem writes_modifyColumns {change : Credential → Credential} (closed : ReferencesClosed db)
    (sameUnit : ∀ row, (change row).orgUnitId = row.orgUnitId) {same : ∀ row, key (change row) = key row}
    (sameOwner : ∀ row, owner (change row) = owner row) :
    Writes db { db with credentials := db.credentials.modify credId change same } := by
  refine writes_modifyCredential ?_ sameOwner
  intro row member _
  have sound := closed.credentials row member
  have sameTenant : (change row).tenantId = row.tenantId := sameOwner row
  simp only [CredentialClosed, sameUnit, sameTenant]
  exact sound

theorem credentialsRename_writes {newName : String} (closed : ReferencesClosed world.db) :
    Writes world.db (credentialsRename world caller credId newName).1.db := by
  simp only [credentialsRename]
  split
  · exact .refl
  · split
    · exact .refl
    · split
      · exact .refl
      · split
        · exact .refl
        · exact writes_modifyColumns closed (by intro; rfl) (by intro; rfl)

theorem credentialsUpdate_writes
    (own : SubmitsOwn world (.credentialUpdate caller credId form backendUp)) :
    Writes world.db (credentialsUpdate world caller credId form backendUp).1.db := by
  simp only [credentialsUpdate]
  split
  · exact .refl
  · rename_i cred checked
    have member := (checked_some checked).1
    have ownUnit : NotForeign world.db.orgUnits cred.tenantId form.orgUnitId :=
      (own (ofCredential form cred) (by simp only [unchecked, checked]; rfl)).2
    split
    · exact .refl
    · split
      · exact .refl
      · rename_i kind _ _ sound
        have closed := credentialClosed_of_integrity sound ownUnit
        have writes : Writes world.db { world.db with
            credentials := world.db.credentials.modify cred.id fun row => { row with
              name := strip form.name
              kind
              username := orNone form.username
              domain := orNone form.domain
              orgUnitId := form.orgUnitId
              visibility := (visibilities.lookup form.visibility).getD row.visibility } } := by
          refine writes_modifyCredential ?_ fun _ => rfl
          intro row rowMember same
          have isCred : row = cred := Table.eq_of_key rowMember member same
          rw [isCred]
          exact closed
        split
        · rw [setSecret_db]
          exact writes
        · exact writes

theorem credentialsAssign_writes {reference : Option Int} :
    Writes world.db (credentialsAssignOrg world caller credId reference).1.db := by
  simp only [credentialsAssignOrg]
  split
  · exact .refl
  · rename_i cred checked
    have member := (checked_some checked).1
    split
    · rename_i owned
      refine writes_modifyCredential ?_ fun _ => rfl
      intro row rowMember same
      have isCred : row = cred := Table.eq_of_key rowMember member same
      rw [isCred]
      exact refers_of_all owned
    · exact .refl

theorem createCredentialRunner_writes :
    Writes world.db (createCredentialRunner world tid args backendUp).world.db := by
  simp only [createCredentialRunner]
  split
  · exact .refl
  · split
    · exact .refl
    · split
      · exact .refl
      · rename_i draft drafted
        split
        · exact .refl
        · rename_i db added
          have writes : Writes world.db db := by
            refine addCredential_writes added ?_
            rw [agentDraft_orgUnit drafted]
            exact notForeign_none
          split
          · rw [setSecret_db]
            exact writes
          · simp only [Run.refuse, setSecret_db]
            exact writes

theorem updateCredentialRunner_writes (closed : ReferencesClosed world.db) :
    Writes world.db (updateCredentialRunner world tid args backendUp).world.db := by
  simp only [updateCredentialRunner]
  refine withText_writes fun name => ?_
  split
  · exact .refl
  · refine withText_writes fun secretValue => ?_
    split
    · exact .refl
    · exact .refl
    · split
      · split
        · exact writes_modifyColumns closed (by intro; rfl) (by intro; rfl)
        · split
          · rw [setSecret_db]
            exact writes_modifyColumns closed (by intro; rfl) (by intro; rfl)
          · exact writes_modifyColumns closed (by intro; rfl) (by intro; rfl)
      · exact .refl
      · exact .refl

end Credentials

/-! Pipelines: only the foreign keys are checked. -/

section Pipelines

variable {adapters : Pipelines.Adapters} {db after : Database} {world : World} {caller : Caller}
  {pipelineId tenant : Int} {pipeline : Pipeline} {form : Pipelines.PipelineArgs}
  {self : Option Int} {tid : Option Int} {args : Args}

theorem pipelineClosed_of_integrity (sound : Pipelines.integrityError db pipeline self = none)
    (ownCredential : NotForeign db.credentials pipeline.tenantId pipeline.credentialId)
    (ownUnit : NotForeign db.orgUnits pipeline.tenantId pipeline.orgUnitId) :
    PipelineClosed db pipeline := by
  simp only [Pipelines.integrityError] at sound
  split at sound
  · cases sound
  · split at sound
    · cases sound
    · rename_i present
      simp only [Bool.or_eq_true, not_or, Bool.not_eq_true] at present
      exact ⟨refers_of_exists present.1.1 ownCredential, refers_of_exists present.1.2 ownUnit⟩

theorem createPipeline_writes
    (created : Pipelines.createPipeline adapters db tenant form = .ok (after, pipelineId))
    (ownCredential : NotForeign db.credentials tenant form.credentialId)
    (ownUnit : NotForeign db.orgUnits tenant form.orgUnitId) : Writes db after := by
  obtain ⟨config, _, created⟩ := bind_ok created
  simp only [] at created
  split at created
  · cases created
  · rename_i sound
    cases created
    exact writes_insertPipeline (pipelineClosed_of_integrity sound ownCredential ownUnit)

theorem updatePipeline_writes (member : pipeline ∈ db.pipelines.rows)
    (updated : Pipelines.updatePipeline adapters db pipeline form = .ok after)
    (ownCredential : NotForeign db.credentials pipeline.tenantId form.credentialId)
    (ownUnit : NotForeign db.orgUnits pipeline.tenantId form.orgUnitId) : Writes db after := by
  obtain ⟨config, _, updated⟩ := bind_ok updated
  split at updated
  · cases updated
  · rename_i sound
    cases updated
    refine writes_modifyPipeline ?_
    intro row rowMember same
    have isPipeline : row = pipeline := Table.eq_of_key rowMember member same
    rw [isPipeline]
    exact pipelineClosed_of_integrity sound ownCredential ownUnit

theorem pipelineOr404_some (found : Pipelines.pipelineOr404 db caller pipelineId = .ok pipeline) :
    pipeline ∈ db.pipelines.rows := by
  obtain ⟨_, _, found⟩ := bind_ok found
  split at found
  · cases found
  · obtain ⟨_, built⟩ := require_ok found
    cases built
    exact (getScoped_some ‹_›).1

theorem pipelinesCreate_writes (own : SubmitsOwn world (.pipelineCreate caller form)) :
    Writes world.db (Pipelines.pipelinesCreate adapters world caller form).1.db := by
  simp only [Pipelines.pipelinesCreate]
  split
  · exact .refl
  · rename_i tenant gate
    have ownIds := own (ofPipeline form tenant) (by simp only [unchecked, gate]; rfl)
    split
    · exact .refl
    · rename_i db id created
      exact createPipeline_writes created ownIds.1 ownIds.2

theorem pipelinesUpdate_writes (own : SubmitsOwn world (.pipelineUpdate caller pipelineId form)) :
    Writes world.db (Pipelines.pipelinesUpdate adapters world caller pipelineId form).1.db := by
  simp only [Pipelines.pipelinesUpdate]
  split
  · exact .refl
  · rename_i pipeline found
    have ownIds := own (ofPipeline form pipeline.tenantId) (by simp only [unchecked, found]; rfl)
    split
    · exact .refl
    · exact updatePipeline_writes (pipelineOr404_some found) ‹_› ownIds.1 ownIds.2

theorem pipelinesAssign_writes {reference : Option Int} (closed : ReferencesClosed world.db) :
    Writes world.db (Pipelines.pipelinesAssignOrg world caller pipelineId reference).1.db := by
  simp only [Pipelines.pipelinesAssignOrg]
  split
  · exact .refl
  · rename_i pipeline found
    have member := pipelineOr404_some found
    split
    · rename_i owned
      refine writes_modifyPipeline ?_
      intro row rowMember same
      have isPipeline : row = pipeline := Table.eq_of_key rowMember member same
      rw [isPipeline]
      exact ⟨(closed.pipelines pipeline member).credential, refers_of_all owned⟩
    · exact .refl

theorem createPipelineRunner_writes (own : SubmitsOwn world (.agentPipelineCreate tid args)) :
    Writes world.db (createPipelineRunner adapters world tid args).world.db := by
  cases tid with
  | none => exact .refl
  | some tenant =>
      have ownIds := own _ rfl
      simp only [createPipelineRunner]
      refine withText_writes fun name => withText_writes fun provider => ?_
      split
      · exact .refl
      · split
        · exact .refl
        · split
          · exact .refl
          · split
            · exact .refl
            · refine withText_writes fun description => ?_
              split
              · exact .refl
              · exact .refl
              · exact createPipeline_writes ‹_› ownIds.1 notForeign_none

theorem notForeign_of_refers {Row : Type} [Owned Row] {table : Table Row} {reference : Option Int}
    (refers : table.Refers tenant reference) : NotForeign table tenant reference := by
  intro id row same found
  obtain ⟨target, targetFound, owned⟩ := refers id same
  rw [Option.some.inj (found.symm.trans targetFound)]
  exact owned

theorem idOr_cases {current : Option Int} {value : Value} :
    idOr current value = idOr none value ∨ idOr current value = current := by
  cases value with
  | none => exact .inr rfl
  | _ =>
      simp only [idOr]
      split
      · exact .inl rfl
      · exact .inr rfl

theorem updatePipelineRunner_writes (own : SubmitsOwn world (.agentPipelineUpdate tid args))
    (closed : ReferencesClosed world.db) :
    Writes world.db (updatePipelineRunner adapters world tid args).world.db := by
  simp only [updatePipelineRunner]
  cases read : args.text "name" with
  | error raised => exact .refl
  | ok name =>
      simp only [Run.withText]
      split
      · exact .refl
      · split
        · exact .refl
        · exact .refl
        · rename_i pipeline named
          have member : pipeline ∈ world.db.pipelines.rows := (selected_member named).1
          have ownCredential : NotForeign world.db.credentials pipeline.tenantId
              (idOr pipeline.credentialId (args.get "credential_id")) := by
            have stored : idOr pipeline.credentialId (args.get "credential_id") =
                  idOr none (args.get "credential_id") ∨
                idOr pipeline.credentialId (args.get "credential_id") = pipeline.credentialId :=
              idOr_cases
            rcases stored with submitted | unchanged
            · rw [submitted]
              exact (own _ (by simp only [unchecked, read, named]; rfl)).1
            · rw [unchanged]
              exact notForeign_of_refers (closed.pipelines pipeline member).credential
          split
          · exact .refl
          · split
            · exact .refl
            · split
              · exact .refl
              · split
                · exact .refl
                · split
                  · exact .refl
                  · exact .refl
                  · exact updatePipeline_writes member ‹_› ownCredential notForeign_none

end Pipelines

theorem perform_writes {adapters : Pipelines.Adapters} {world : World} {operation : Operation}
    (own : SubmitsOwn world operation) (closed : ReferencesClosed world.db) :
    Writes world.db (perform adapters world operation).db := by
  cases operation with
  | addTenant name slug => exact ⟨.refl, .refl, .refl, fun _ => .inl, fun _ => .inl, fun _ => .inl⟩
  | addOrgUnit tenantId name slug tier parentId =>
      exact ⟨Table.keeps_insert, .refl, .refl, fun _ => .inl, fun _ => .inl, fun _ => .inl⟩
  | hostCreate caller form => exact hostsCreate_writes
  | hostUpdate caller id form => exact hostsUpdate_writes
  | hostAssign caller id orgUnitId => exact hostsAssign_writes closed
  | credentialCreate caller form backendUp => exact credentialsCreate_writes own
  | credentialDynamic caller name => exact credentialsCreateDynamic_writes
  | credentialRename caller id newName => exact credentialsRename_writes closed
  | credentialUpdate caller id form backendUp => exact credentialsUpdate_writes own
  | credentialAssign caller id orgUnitId => exact credentialsAssign_writes
  | pipelineCreate caller form => exact pipelinesCreate_writes own
  | pipelineUpdate caller id form => exact pipelinesUpdate_writes own
  | pipelineAssign caller id orgUnitId => exact pipelinesAssign_writes closed
  | agentHostCreate tid args => exact createHostRunner_writes
  | agentHostUpdate tid args => exact updateHostRunner_writes
  | agentCredentialCreate tid args backendUp => exact createCredentialRunner_writes
  | agentCredentialUpdate tid args backendUp => exact updateCredentialRunner_writes closed
  | agentPipelineCreate tid args => exact createPipelineRunner_writes own
  | agentPipelineUpdate tid args => exact updatePipelineRunner_writes own closed

theorem referencesClosed_empty : ReferencesClosed {} where
  hosts _ member := absurd member List.not_mem_nil
  pipelines _ member := absurd member List.not_mem_nil
  credentials _ member := absurd member List.not_mem_nil

/-- While no pipeline or credential form submits another tenant's id, every
reference in every reachable state stays within its tenant. -/
theorem references_closed {adapters : Pipelines.Adapters} {world : World}
    (reached : (inventorySystem adapters).ReachableUnder SubmitsOwn world) :
    ReferencesClosed world.db := by
  have starts : ∀ start, (inventorySystem adapters).initial start → ReferencesClosed start.db := by
    intro start begins
    have blank : start.db = {} := begins
    rw [blank]
    exact referencesClosed_empty
  have preserved : ∀ before operation after, SubmitsOwn before operation →
      (inventorySystem adapters).step before operation = some after →
      ReferencesClosed before.db → ReferencesClosed after.db := by
    intro before operation after own stepped closed
    cases stepped
    exact closed.write (perform_writes own closed)
  exact reached.invariant starts preserved

def githubActions : Pipelines.Adapters where
  providers := [("github_actions", .ok)]
  decodeConfig
    | .str text => .ok text
    | _ => .error "not a mapping"
  decodeInputs _ := none

def ci : Pipelines.PipelineArgs where
  name := "ci"
  provider := "github_actions"
  description := none
  config := "\x7b\"owner\": \"acme\", \"repo\": \"web\", \"workflow\": \"ci.yml\", \"ref\": \"main\"\x7d"
  inputsSchema := none
  credentialId := some 1

def operator (tenant : Int) : Caller := { tid := some tenant, userId := 7, role := .operator }

def blankWorld : World := { db := {}, secrets := ∅ }

def tokenFor (tenant : Int) : List Operation :=
  [.addTenant "Acme" "acme", .addTenant "Beta" "beta",
    .credentialCreate (operator 1) { name := "token", kind := "pat" } true,
    .pipelineCreate (operator tenant) ci]

theorem references_closed_own_token :
    ∃ world, (inventorySystem githubActions).run blankWorld (tokenFor 1) = some world ∧
      world.db.pipelines.rows.length = 1 ∧ ReferencesClosed world.db := by
  refine ⟨_, rfl, by decide, references_closed ⟨blankWorld, tokenFor 1, rfl, rfl, ?_⟩⟩
  refine Machine.meets_cons rfl (by decide) (Machine.meets_cons rfl (by decide) ?_)
  refine Machine.meets_cons rfl (by decide) ?_
  exact Machine.meets_cons rfl (by decide) trivial

/-- A pipeline of tenant 2 ends up with the credential of tenant 1. -/
theorem foreign_token_stored :
    ∃ world, (inventorySystem githubActions).Reachable world ∧
      ∃ pipeline ∈ world.db.pipelines.rows, ∃ cred ∈ world.db.credentials.rows,
        pipeline.credentialId = some cred.id ∧ cred.tenantId ≠ pipeline.tenantId := by
  refine ⟨_, ⟨blankWorld, tokenFor 2, rfl, rfl⟩, ?_⟩
  decide

end Dosm.Inventory
