import Dosm.Models

namespace Dosm.Auth.Sockets

open Models Python

/-! Who is admitted to the pages, and to the two WebSockets beside them.

The pages share their dependencies; each socket reads the session and the tables by
itself. A role is any text, and a session holds whatever was put into it.
-/

structure UserRow where
  id : Int
  username : String
  role : String
  tenantId : Option Int
  isActive : Bool
  deriving DecidableEq

structure TenantRow where
  id : Int
  isActive : Bool
  deriving DecidableEq

instance : Keyed UserRow := ⟨UserRow.id⟩
instance : Keyed TenantRow := ⟨TenantRow.id⟩

/-- Absent entries read as `none`. -/
structure Session where
  userId : Value
  activeTenantId : Value

structure Site where
  users : Table UserRow
  tenants : Table TenantRow
  hosts : Table Host
  matched : Value → Option Int
  findShell : String → Bool
  /-- `make_source_for_host` finds a source, or says why there is none. -/
  sourceForHost : Host → Except String Unit

variable (site : Site) (session : Session)

/-- `db.get(User, uid)`. -/
def Site.user (uid : Value) : Option UserRow := (site.matched uid).bind site.users.get

/-- `ROLE_RANK.get(role, -1)`. -/
def roleRank (role : String) : Int :=
  ([("viewer", 0), ("operator", 1), ("tenant_admin", 2), ("platform_admin", 3)].lookup role).getD (-1)

def userHasRole (user : UserRow) (minimum : String) : Bool := user.isActive && roleRank minimum ≤ roleRank user.role

/-- A user's own tenant, or the one a platform admin has selected. -/
def resolveTenantId (user : UserRow) : Option Int :=
  if userHasRole user "platform_admin" then session.activeTenantId.toInt else user.tenantId

def getHost (id : Int) (tid : Option Int) : Option Host :=
  (site.hosts.get id).filter fun host => tid.all fun tenant => host.tenantId = tenant

/-! The pages. -/

def getCurrentUser : Option UserRow :=
  if !session.userId.truthy then none
  else
    match site.user session.userId with
    | none => none
    | some user =>
        if !user.isActive then none
        else if user.role = "platform_admin" then some user
        else
          match user.tenantId.bind site.tenants.get with
          | none => none
          | some tenant => if tenant.isActive then some user else none

/-- What a page of a role passes on to its handler. -/
def requireRole (minimum : String) : Option UserRow :=
  (getCurrentUser site session).filter fun user => roleRank minimum ≤ roleRank user.role

/-! The sockets. -/

inductive Opened where
  | closed (code : Nat)
  /-- The metrics of the server itself, after the error of a host's source. -/
  | serverMetrics (error : Option String)
  | hostMetrics (host : Host)
  | shell (user : UserRow) (tenantId : Option Int)
  deriving DecidableEq

def metricsWs (hostId : Option Int) : Opened :=
  if session.userId = .none then .closed 4401
  else
    match hostId with
    | none => .serverMetrics none
    | some id =>
        match site.hosts.get id, site.user session.userId with
        | some host, some user =>
            if !user.isActive then .closed 4404
            else if (resolveTenantId session user).any fun tenant => host.tenantId ≠ tenant then .closed 4404
            else
              match site.sourceForHost host with
              | .error error => .serverMetrics (some error)
              | .ok () => .hostMetrics host
        | _, _ => .closed 4404

def terminalsWs (shellId : String) : Opened :=
  if session.userId = .none then .closed 4401
  else
    match site.user session.userId with
    | none => .closed 4403
    | some user =>
        if !userHasRole user "platform_admin" then .closed 4403
        else if site.findShell shellId then .shell user (resolveTenantId session user)
        else .closed 4404

/-- A connection that a browser may ask for. -/
inductive Socket where
  | metrics (hostId : Option Int)
  | terminal (shellId : String)

def connect : Socket → Opened
  | .metrics hostId => metricsWs site session hostId
  | .terminal shellId => terminalsWs site session shellId

def Opened.admitted : Opened → Bool
  | .closed _ => false
  | _ => true

/-- The page with what the socket shows, asked for in the same session: it takes any
signed-in user, a user who finds the host, or a platform admin. -/
def pageAdmits : Socket → Bool
  | .metrics none => (getCurrentUser site session).isSome
  | .metrics (some id) =>
      (getCurrentUser site session).any fun user => (getHost site id (resolveTenantId session user)).isSome
  | .terminal _ => (requireRole site session "platform_admin").isSome

/-- An account to which nothing is shut: the id in the session is true, its user is
there and active, and is a platform admin or in an active tenant. -/
structure Standing (user : UserRow) : Prop where
  named : session.userId.truthy = true
  listed : site.user session.userId = some user
  active : user.isActive = true
  placed : user.role = "platform_admin" ∨
    ∃ tenant ∈ site.tenants.rows, user.tenantId = some tenant.id ∧ tenant.isActive = true

def Agrees : Socket → Prop
  | .metrics none => session.userId = .none ∨ ∃ user, Standing site session user
  | .metrics (some id) =>
      session.userId = .none ∨ (∃ user, Standing site session user) ∨
        ∀ user, site.user session.userId = some user → user.isActive = true →
          getHost site id (resolveTenantId session user) = none
  | .terminal shellId =>
      session.userId.truthy = true ∨ session.userId = .none ∨ site.findShell shellId = false ∨
        ∀ user, site.user session.userId = some user → userHasRole user "platform_admin" = false

section Standing

variable {site : Site} {session : Session} {user : UserRow}

theorem getCurrentUser_eq_some_iff : getCurrentUser site session = some user ↔ Standing site session user := by
  constructor
  · intro current
    simp only [getCurrentUser] at current
    split at current
    · cases current
    · next named =>
        split at current
        · cases current
        · next row listed =>
            split at current
            · cases current
            · next active =>
                have truthy : session.userId.truthy = true := by simpa using named
                have live : row.isActive = true := by simpa using active
                split at current
                · next admin =>
                    cases current
                    exact ⟨truthy, listed, live, .inl admin⟩
                · split at current
                  · cases current
                  · next tenant found =>
                      split at current
                      · next open_ =>
                          cases current
                          obtain ⟨id, own, row⟩ := Option.bind_eq_some_iff.mp found
                          obtain ⟨member, same⟩ := Table.get_eq_some_iff.mp row
                          refine ⟨truthy, listed, live, .inr ⟨tenant, member, ?_, open_⟩⟩
                          rw [own, ← same]
                          rfl
                      · cases current
  · rintro ⟨named, listed, active, placed⟩
    simp only [getCurrentUser, named, listed, active, Bool.not_true, Bool.false_eq_true, if_false]
    rcases placed with admin | ⟨tenant, member, own, live⟩
    · rw [if_pos admin]
    · have found : user.tenantId.bind site.tenants.get = some tenant := by
        rw [own]
        exact Table.get_key member
      simp [found, live]

theorem getCurrentUser_isSome_iff : (getCurrentUser site session).isSome = true ↔ ∃ user, Standing site session user := by
  rw [Option.isSome_iff_exists]
  exact exists_congr fun _ => getCurrentUser_eq_some_iff

theorem platformAdmin_of_rank {role : String} (reached : roleRank "platform_admin" ≤ roleRank role) :
    role = "platform_admin" := by
  by_contra other
  revert reached
  have admin : roleRank "platform_admin" = 3 := by decide
  rw [admin]
  simp only [roleRank, List.lookup_cons, List.lookup_nil]
  by_cases viewer : role = "viewer"
  · simp [viewer]
  · by_cases operator : role = "operator"
    · simp [operator]
    · by_cases tenantAdmin : role = "tenant_admin"
      · simp [tenantAdmin]
      · have miss : (role == "viewer") = false ∧ (role == "operator") = false ∧
            (role == "tenant_admin") = false ∧ (role == "platform_admin") = false := by
          simp [viewer, operator, tenantAdmin, other]
        simp [miss]

theorem metricsWs_admitted {id : Int} :
    (metricsWs site session (some id)).admitted = true ↔
      session.userId ≠ .none ∧ ∃ user, site.user session.userId = some user ∧ user.isActive = true ∧
        (getHost site id (resolveTenantId session user)).isSome = true := by
  by_cases anonymous : session.userId = .none
  · simp [metricsWs, anonymous, Opened.admitted]
  · simp only [metricsWs, if_neg anonymous]
    cases present : site.hosts.get id with
    | none => simp [Opened.admitted, getHost, present]
    | some host =>
        cases listed : site.user session.userId with
        | none => simp [Opened.admitted]
        | some user =>
            have shown : (match site.sourceForHost host with
                | .error error => Opened.serverMetrics (some error)
                | .ok () => Opened.hostMetrics host).admitted = true := by
              split <;> rfl
            cases active : user.isActive with
            | false => simp [Opened.admitted, active]
            | true =>
                cases scope : resolveTenantId session user with
                | none => simp [anonymous, active, getHost, present, scope, shown]
                | some tenant =>
                    by_cases own : host.tenantId = tenant
                    · simp [anonymous, active, getHost, present, scope, own, shown]
                    · simp [anonymous, active, getHost, present, scope, own, Opened.admitted]

theorem terminalsWs_admitted {shellId : String} :
    (terminalsWs site session shellId).admitted = true ↔
      session.userId ≠ .none ∧ site.findShell shellId = true ∧
        ∃ user, site.user session.userId = some user ∧ userHasRole user "platform_admin" = true := by
  by_cases anonymous : session.userId = .none
  · simp [terminalsWs, anonymous, Opened.admitted]
  · simp only [terminalsWs, if_neg anonymous]
    cases listed : site.user session.userId with
    | none => simp [Opened.admitted]
    | some user =>
        cases allowed : userHasRole user "platform_admin" with
        | false => simp [Opened.admitted, allowed]
        | true =>
            cases found : site.findShell shellId with
            | false => simp [Opened.admitted, allowed]
            | true => simp [Opened.admitted, anonymous, allowed]

theorem hostPage_admits {id : Int} :
    pageAdmits site session (.metrics (some id)) = true ↔
      ∃ user, Standing site session user ∧ (getHost site id (resolveTenantId session user)).isSome = true := by
  simp only [pageAdmits, Option.any_eq_true, getCurrentUser_eq_some_iff]

theorem adminPage_admits {shellId : String} :
    pageAdmits site session (.terminal shellId) = true ↔
      ∃ user, Standing site session user ∧ userHasRole user "platform_admin" = true := by
  simp only [pageAdmits, requireRole, Option.isSome_iff_exists, Option.filter_eq_some_iff,
    getCurrentUser_eq_some_iff, decide_eq_true_eq, userHasRole, Bool.and_eq_true]
  exact exists_congr fun user => ⟨fun ⟨standing, rank⟩ => ⟨standing, standing.active, rank⟩,
    fun ⟨standing, _, rank⟩ => ⟨standing, rank⟩⟩

end Standing

/-- Which connections are opened only where the page would be shown. -/
theorem admitted_agrees_iff (site : Site) (session : Session) (socket : Socket) :
    ((connect site session socket).admitted = true → pageAdmits site session socket = true) ↔
      Agrees site session socket := by
  cases socket with
  | metrics hostId =>
      cases hostId with
      | none =>
          simp only [connect, pageAdmits, getCurrentUser_isSome_iff, Agrees, metricsWs]
          by_cases anonymous : session.userId = .none
          · simp [anonymous, Opened.admitted]
          · simp [anonymous, Opened.admitted]
      | some id =>
          simp only [connect, hostPage_admits, metricsWs_admitted, Agrees]
          constructor
          · intro agrees
            by_contra disagrees
            obtain ⟨named, disagrees⟩ := not_or.mp disagrees
            obtain ⟨lapsed, reached⟩ := not_or.mp disagrees
            refine reached fun user listed active => ?_
            by_contra found
            have shown : (getHost site id (resolveTenantId session user)).isSome = true := by
              rwa [Option.isSome_iff_ne_none]
            obtain ⟨other, standing, _⟩ := agrees ⟨named, user, listed, active, shown⟩
            exact lapsed ⟨other, standing⟩
          · rintro agrees ⟨named, user, listed, active, shown⟩
            rcases agrees with anonymous | ⟨other, standing⟩ | unreached
            · exact absurd anonymous named
            · have same : other = user := Option.some.inj (standing.listed.symm.trans listed)
              exact ⟨other, standing, by rwa [same]⟩
            · rw [unreached user listed active] at shown
              cases shown
  | terminal shellId =>
      simp only [connect, adminPage_admits, terminalsWs_admitted, Agrees]
      constructor
      · intro agrees
        by_contra disagrees
        obtain ⟨untrue, disagrees⟩ := not_or.mp disagrees
        obtain ⟨named, disagrees⟩ := not_or.mp disagrees
        obtain ⟨found, unprivileged⟩ := not_or.mp disagrees
        refine unprivileged fun user listed => ?_
        by_contra admin
        obtain ⟨other, standing, _⟩ :=
          agrees ⟨named, by simpa using found, user, listed, by simpa using admin⟩
        exact untrue standing.named
      · rintro agrees ⟨named, found, user, listed, admin⟩
        rcases agrees with untrue | anonymous | unknown | unprivileged
        · have parts := admin
          simp only [userHasRole, Bool.and_eq_true, decide_eq_true_eq] at parts
          exact ⟨user, ⟨untrue, listed, parts.1, .inl (platformAdmin_of_rank parts.2)⟩, admin⟩
        · exact absurd anonymous named
        · rw [unknown] at found
          cases found
        · rw [unprivileged user listed] at admin
          cases admin

def suspended : UserRow where
  id := 2
  username := "ada"
  role := "operator"
  tenantId := some 1
  isActive := true

def suspendedSite : Site where
  users := ⟨[suspended], List.nodup_singleton _⟩
  tenants := ⟨[⟨1, false⟩], List.nodup_singleton _⟩
  hosts := .empty
  matched := Value.toInt
  findShell := fun _ => false
  sourceForHost := fun _ => .ok ()

/-- The server's metrics are streamed to a user whom every page turns away. -/
theorem suspended_user_streams :
    ¬ ∀ site session socket, (connect site session socket).admitted = true → pageAdmits site session socket = true := by
  intro every
  have shown := every suspendedSite ⟨.int 2, .none⟩ (.metrics none) rfl
  cases shown

end Dosm.Auth.Sockets
