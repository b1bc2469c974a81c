import Dosm.Base.Transition
import Dosm.Web

namespace Dosm.Auth

open Models Python Transition Web

/-! Who may sign in, with which role and in which tenant.

Roles change on the members page, by an Okta sign-in, and when a user is created on
the command line. A request that raises is rolled back whole.
-/

structure User where
  id : Int
  username : String
  role : Role
  tenantId : Option Int
  roleLocked : Bool
  isActive : Bool
  oktaSub : Option String
  email : Option String
  displayName : Option String
  deriving DecidableEq

structure GroupMapping where
  id : Int
  groupName : String
  tenantId : Option Int
  role : String
  deriving DecidableEq

instance : Keyed User := ⟨User.id⟩
instance : Keyed GroupMapping := ⟨GroupMapping.id⟩

/-- The tables, the tenants that are deactivated, and `rbac.default_role`. -/
structure Accounts where
  users : Table User
  tenants : Table Tenant
  inactive : List Int
  mappings : Table GroupMapping
  defaultRole : String

/-- How a request is refused; an exception is answered with a 500. -/
inductive Refusal where
  | http (status : Nat) (detail : String)
  | exception
  deriving DecidableEq

def roleNamed (text : String) : Option Role :=
  [Role.viewer, .operator, .tenantAdmin, .platformAdmin].find? fun role => role.name = text

/-- An element of a list claim, as far as a set of them matters. -/
inductive ClaimItem where
  | text (name : String)
  | hashable
  | unhashable

/-- The groups claim: any JSON value. A false one counts as no groups. -/
inductive GroupsClaim where
  | none
  | list (items : List ClaimItem)
  | text (word : String)
  | mapping (keys : List String)
  | scalar

/-- The texts in `set(groups or [])`; building it may raise a `TypeError`. -/
def GroupsClaim.members : GroupsClaim → Option (List String)
  | .none => Option.some []
  | .list items =>
      items.foldr (fun item rest => match item with
        | ClaimItem.text name => rest.map (name :: ·)
        | ClaimItem.hashable => rest
        | ClaimItem.unhashable => Option.none) (Option.some [])
  | .text word => Option.some (word.toList.map fun char => String.ofList [char])
  | .mapping keys => Option.some keys
  | .scalar => Option.none

/-- What is read from a validated ID token. -/
structure Identity where
  sub : String
  email : Option String
  username : String
  displayName : Option String
  groups : GroupsClaim

inductive Request where
  | memberSetRole (actor userId : Int) (role : String) (tenantForm : Option String)
  | mappingSave (actor : Int) (group : String) (tenantForm : Option String)
  | mappingDelete (actor mappingId : Int)
  | defaultSave (actor : Int) (defaultRole : String)
  /-- An Okta callback whose token is valid. -/
  | oktaCallback (identity : Identity)
  /-- `dosm user create`. -/
  | userCreate (username role : String) (tenantSlug : String) (platformAdmin : Bool)

def Request.actor : Request → Option Int
  | .memberSetRole actor .. | .mappingSave actor .. | .mappingDelete actor _ | .defaultSave actor _ => some actor
  | .oktaCallback _ | .userCreate .. => none

def pickGrant (members : List String) (mappings : List GroupMapping) (defaultTenantId : Option Int)
    (defaultRole : String) : Option (Int × Role) :=
  match mappings.findSome? fun mapping => mapping.tenantId.filter fun _ => mapping.groupName ∈ members with
  | some tenantId => some (tenantId, .viewer)
  | none =>
      match roleNamed defaultRole, defaultTenantId with
      | some role, some tenantId => if role = .platformAdmin then none else some (tenantId, role)
      | _, _ => none

namespace Accounts

variable (state : Accounts)

/-- `get_current_user`. -/
def currentUser (id : Int) : Option User :=
  (state.users.get id).filter fun user =>
    user.isActive && (user.role = .platformAdmin ||
      (user.tenantId.any fun tenant => (state.tenants.get tenant).isSome && tenant ∉ state.inactive))

def requireRole (id : Int) (minimum : Role) : Except Refusal User :=
  match state.currentUser id with
  | none => .error (.http 401 "login required")
  | some user =>
      if user.role.atLeast minimum then .ok user
      else .error (.http 403 ("requires " ++ minimum.name ++ " role"))

def invalidRole (role : String) : Refusal := .http 400 ("invalid role " ++ Python.repr role)

def tenantOfForm (text : String) (missing : String) : Except Refusal Int :=
  match parseInt text with
  | none => .error .exception
  | some tenant => if (state.tenants.get tenant).isSome then .ok tenant else .error (.http 404 missing)

/-- The tenant a platform admin moves the target to. -/
def chosenTenant (target : User) (role : Role) (tenantForm : Option String) : Except Refusal (Option Int) :=
  if role = .platformAdmin then .ok none
  else if tenantForm.getD "" = "" then .ok target.tenantId
  else (state.tenantOfForm (tenantForm.getD "") "no such tenant").map some

def assignedTenant (target : User) (role : Role) (tenantForm : Option String) : Except Refusal (Option Int) := do
  let assigned ← state.chosenTenant target role tenantForm
  if role ≠ .platformAdmin ∧ assigned = none then throw (.http 400 "assign a tenant for a non-platform role")
  else return assigned

/-- The role and the tenant that the target gets. -/
def grantedRole (user target : User) (role : String) (tenantForm : Option String) :
    Except Refusal (Role × Option Int) :=
  if user.role = .platformAdmin then
    match roleNamed role with
    | none => .error (invalidRole role)
    | some granted => (state.assignedTenant target granted tenantForm).map fun tenant => (granted, tenant)
  else if user.tenantId = none ∨ target.tenantId ≠ user.tenantId then .error (.http 404 "Not Found")
  else
    match roleNamed role with
    | none | some .platformAdmin => .error (invalidRole role)
    | some granted => .ok (granted, target.tenantId)

def setRole (role : Role) (tenant : Option Int) (user : User) : User :=
  { user with role, tenantId := tenant, roleLocked := true }

def memberSetRole (actor userId : Int) (role : String) (tenantForm : Option String) : Except Refusal Accounts := do
  let user ← state.requireRole actor .tenantAdmin
  match state.users.get userId with
  | none => throw (.http 404 "Not Found")
  | some target =>
      let (granted, tenant) ← state.grantedRole user target role tenantForm
      return { state with users := state.users.modify userId (setRole granted tenant) }

/-- `_resolve_mapping_tenant`. -/
def mappingTenant (user : User) (tenantForm : Option String) : Except Refusal Int :=
  if user.role = .platformAdmin then
    if tenantForm.getD "" = "" then .error (.http 400 "select a tenant for this mapping")
    else state.tenantOfForm (tenantForm.getD "") "no such tenant"
  else
    match user.tenantId with
    | none => .error (.http 403 "your account is not assigned to a tenant")
    | some tenant => .ok tenant

def upsertMapping (group : String) (tenant : Int) (role : String) : Accounts :=
  let same (mapping : GroupMapping) : Bool := mapping.groupName = group ∧ mapping.tenantId = some tenant
  { state with mappings :=
      match state.mappings.rows.find? same with
      | some mapping => state.mappings.modify mapping.id fun mapping => { mapping with role }
      | none => state.mappings.insert fun id => { id, groupName := group, tenantId := some tenant, role } }

def mappingSave (actor : Int) (group : String) (tenantForm : Option String) : Except Refusal Accounts := do
  let user ← state.requireRole actor .tenantAdmin
  if strip group = "" then throw (.http 400 "group name is required")
  else
    let tenant ← state.mappingTenant user tenantForm
    return state.upsertMapping (strip group) tenant "viewer"

def canEditMapping (user : User) (mapping : GroupMapping) : Bool :=
  user.role = .platformAdmin || (mapping.tenantId.isSome && mapping.tenantId = user.tenantId)

def mappingDelete (actor mappingId : Int) : Except Refusal Accounts := do
  let user ← state.requireRole actor .tenantAdmin
  match (state.mappings.get mappingId).filter (canEditMapping user) with
  | none => throw (.http 404 "no such group mapping")
  | some mapping => return { state with mappings := state.mappings.remove mapping.id }

def defaultSave (actor : Int) (defaultRole : String) : Except Refusal Accounts := do
  let _ ← state.requireRole actor .platformAdmin
  if defaultRole ∈ ["none", "viewer"] then return { state with defaultRole }
  else throw (.http 400 "default role must be 'none' or 'viewer'")

def tenantBySlug (slug : String) : Option Int := (state.tenants.rows.find? fun tenant => tenant.slug = slug).map Tenant.id

/-- `resolve_grant`; the mappings stand in the order of their ids. -/
def resolveGrant (members : List String) : Option (Int × Role) :=
  pickGrant members state.mappings.rows (state.tenantBySlug "default") state.defaultRole

def userBySub (sub : String) : Option User := state.users.rows.find? fun user => user.oktaSub = some sub

def usernameTaken (username : String) : Bool := state.users.rows.any fun user => user.username = username

def uniqueUsername (desired sub : String) : String :=
  let given := strip (if desired = "" then (if sub = "" then "user" else sub) else desired)
  let base := if given = "" then "user" else given
  match state.users.rows.find? fun user => user.username = base with
  | none => base
  | some existing =>
      if existing.oktaSub = some sub then base
      else base ++ "-" ++ String.ofList (sub.toList.drop (sub.length - 6))

/-- What a sign-in makes of the user it finds. -/
def signedIn (identity : Identity) (tenant : Int) (role : Role) (user : User) : User :=
  let granted := if user.roleLocked then user else { user with role, tenantId := some tenant }
  { granted with email := identity.email, displayName := identity.displayName }

theorem signedIn_id (identity : Identity) (tenant : Int) (role : Role) (user : User) :
    (signedIn identity tenant role user).id = user.id := by
  unfold signedIn
  dsimp only
  split <;> rfl

def newUser (identity : Identity) (username : String) (tenant : Int) (role : Role) (id : Int) : User where
  id
  username
  role
  tenantId := some tenant
  roleLocked := false
  isActive := true
  oktaSub := some identity.sub
  email := identity.email
  displayName := identity.displayName

theorem newUser_id (identity : Identity) (username : String) (tenant : Int) (role : Role) (id : Int) :
    key (newUser identity username tenant role id) = id := rfl

def provisionUser (identity : Identity) (tenant : Int) (role : Role) : Except Refusal Accounts :=
  match state.userBySub identity.sub with
  | some user =>
      if user.isActive then
        let change := signedIn identity tenant role
        .ok { state with users := state.users.modify user.id change (signedIn_id identity tenant role) }
      else .error (.http 403 "this account is disabled")
  | none =>
      let username := state.uniqueUsername identity.username identity.sub
      if state.usernameTaken username then .error .exception
      else .ok { state with users := state.users.insert (newUser identity username tenant role) }

def oktaCallback (identity : Identity) : Except Refusal Accounts :=
  if identity.sub = "" then .error (.http 401 "ID token missing subject")
  else
    match identity.groups.members with
    | none => .error .exception
    | some members =>
        match state.resolveGrant members with
        | none => .error (.http 403 ("Your account isn't a member of any group granted DOSM access. " ++
            "Contact an administrator."))
        | some (tenant, role) => state.provisionUser identity tenant role

def localUser (username : String) (role : Role) (tenant : Option Int) (id : Int) : User where
  id
  username
  role
  tenantId := tenant
  roleLocked := false
  isActive := true
  oktaSub := none
  email := none
  displayName := none

/-- The command exits where the request of a route would be refused. -/
def userCreate (username role tenantSlug : String) (platformAdmin : Bool) : Except Refusal Accounts :=
  if state.usernameTaken username then .error .exception
  else if platformAdmin then .ok { state with users := state.users.insert (localUser username .platformAdmin none) }
  else
    match roleNamed role, state.tenantBySlug (strip tenantSlug) with
    | none, _ | some .platformAdmin, _ | _, none => .error .exception
    | some granted, some tenant => .ok { state with users := state.users.insert (localUser username granted tenant) }

def attempt : Request → Except Refusal Accounts
  | .memberSetRole actor userId role tenantForm => state.memberSetRole actor userId role tenantForm
  | .mappingSave actor group tenantForm => state.mappingSave actor group tenantForm
  | .mappingDelete actor mappingId => state.mappingDelete actor mappingId
  | .defaultSave actor defaultRole => state.defaultSave actor defaultRole
  | .oktaCallback identity => state.oktaCallback identity
  | .userCreate username role tenantSlug platformAdmin => state.userCreate username role tenantSlug platformAdmin

/-- A request that raises changes nothing. -/
def serve (request : Request) : Accounts := (state.attempt request).toOption.getD state

/-- No users yet, and a default role that the configuration may have. -/
def Starts : Prop := state.users = .empty ∧ state.defaultRole ∈ ["none", "viewer"]

def machine : Machine Accounts Request where
  initial := Starts
  step state request := some (state.serve request)

end Accounts

end Dosm.Auth
