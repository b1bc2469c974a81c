import Dosm.Auth.Accounts
import Dosm.Base.Checks

namespace Dosm.Auth

open Models Python Transition Web

/-! Roles and tenants over whole histories of requests.

Each request is first reduced to what it writes into the table of users; the
invariant, the confinement of tenant admins and the effect of a sign-in are read off
from that.
-/

namespace User

def Placed (user : User) : Prop :=
  (user.role ≠ .platformAdmin → user.tenantId.isSome) ∧ (user.role = .platformAdmin → user.tenantId = none)

theorem placed_tenant {user : User} {tenant : Int} (tenantRole : user.role ≠ .platformAdmin)
    (placed : user.tenantId = some tenant) : user.Placed :=
  ⟨fun _ => by rw [placed]; rfl, fun platform => absurd platform tenantRole⟩

end User

def ModestDefault (defaultRole : String) : Prop := ∀ role, roleNamed defaultRole = some role → role = .viewer

theorem modestDefault_of_offered {defaultRole : String} (offered : defaultRole ∈ ["none", "viewer"]) :
    ModestDefault defaultRole := by
  intro role named
  simp only [List.mem_cons, List.not_mem_nil, or_false] at offered
  rcases offered with rfl | rfl
  · have unnamed : roleNamed "none" = none := by decide
    cases unnamed.symm.trans named
  · have viewer : roleNamed "viewer" = some .viewer := by decide
    exact (Option.some.inj (viewer.symm.trans named)).symm

theorem pickGrant_viewer {members : List String} {mappings : List GroupMapping} {defaultTenantId : Option Int}
    {defaultRole : String} {tenant : Int} {role : Role} (modest : ModestDefault defaultRole)
    (granted : pickGrant members mappings defaultTenantId defaultRole = some (tenant, role)) :
    role = .viewer := by
  unfold pickGrant at granted
  split at granted
  · cases granted
    rfl
  · split at granted
    · rename_i named
      split at granted
      · cases granted
      · cases granted
        exact modest _ named
    · cases granted

namespace Accounts

variable {state after : Accounts} {user target : User} {role : String} {tenantForm : Option String}

theorem grantedRole_placed {granted : Role} {tenant : Option Int}
    (decided : state.grantedRole user target role tenantForm = .ok (granted, tenant)) :
    (granted ≠ .platformAdmin → tenant.isSome) ∧ (granted = .platformAdmin → tenant = none) := by
  unfold grantedRole at decided
  split at decided
  · split at decided
    · cases decided
    · rename_i named _
      cases assigned : state.assignedTenant target named tenantForm with
      | error refusal =>
          rw [assigned] at decided
          cases decided
      | ok chosen =>
          rw [assigned] at decided
          cases decided
          obtain ⟨given, chose, kept⟩ := Checks.bind_ok assigned
          obtain ⟨allowed, same⟩ := Checks.guard_ok kept
          cases same
          constructor
          · intro tenantRole
            cases tenant with
            | none => exact absurd ⟨tenantRole, rfl⟩ allowed
            | some tenant => rfl
          · intro platform
            unfold chosenTenant at chose
            rw [if_pos platform] at chose
            cases chose
            rfl
  · split at decided
    · cases decided
    · rename_i own
      push Not at own
      split at decided
      · cases decided
      · cases decided
      · rename_i tenantRole _
        cases decided
        refine ⟨fun _ => ?_, fun platform => absurd platform tenantRole⟩
        rw [own.2]
        exact Option.isSome_iff_ne_none.mpr own.1

theorem grantedRole_confined {granted : Role} {tenant : Option Int} (admin : user.role = .tenantAdmin)
    (decided : state.grantedRole user target role tenantForm = .ok (granted, tenant)) :
    target.tenantId = user.tenantId ∧ granted ≠ .platformAdmin := by
  unfold grantedRole at decided
  rw [if_neg (by rw [admin]; decide)] at decided
  split at decided
  · cases decided
  · rename_i own
    push Not at own
    split at decided
    · cases decided
    · cases decided
    · rename_i tenantRole _
      cases decided
      exact ⟨own.2, tenantRole⟩

theorem requireRole_user {id : Int} {minimum : Role} (passed : state.requireRole id minimum = .ok user) :
    state.users.get id = some user := by
  unfold requireRole at passed
  split at passed
  · cases passed
  · rename_i found
    split at passed
    · cases passed
      exact (Option.filter_eq_some_iff.mp found).1
    · cases passed

inductive Writes (state after : Accounts) : Request → Prop where
  | nothing {request : Request} (same : after.users = state.users) : Writes state after request
  | roleSet {actor userId : Int} {role : String} {tenantForm : Option String} {user target : User}
      {granted : Role} {tenant : Option Int} (acting : state.users.get actor = some user)
      (found : state.users.get userId = some target)
      (decided : state.grantedRole user target role tenantForm = .ok (granted, tenant))
      (written : after.users = state.users.modify userId (setRole granted tenant)) :
      Writes state after (.memberSetRole actor userId role tenantForm)
  | signedIn {identity : Identity} {members : List String} {tenant : Int} {role : Role} {user : User}
      (granted : state.resolveGrant members = some (tenant, role))
      (found : state.userBySub identity.sub = some user)
      (written : after.users =
        state.users.modify user.id (Accounts.signedIn identity tenant role) (signedIn_id identity tenant role)) :
      Writes state after (.oktaCallback identity)
  | signedUp {identity : Identity} {members : List String} {tenant : Int} {role : Role} {username : String}
      (granted : state.resolveGrant members = some (tenant, role))
      (written : after.users = state.users.insert (newUser identity username tenant role)) :
      Writes state after (.oktaCallback identity)
  | created {username name slug : String} {platformAdmin : Bool} {role : Role} {tenant : Option Int}
      (placed : (role ≠ .platformAdmin → tenant.isSome) ∧ (role = .platformAdmin → tenant = none))
      (written : after.users = state.users.insert (localUser username role tenant)) :
      Writes state after (.userCreate username name slug platformAdmin)

theorem memberSetRole_writes {actor userId : Int}
    (served : state.memberSetRole actor userId role tenantForm = .ok after) :
    Writes state after (.memberSetRole actor userId role tenantForm) ∧ after.defaultRole = state.defaultRole := by
  obtain ⟨user, required, rest⟩ := Checks.bind_ok served
  cases found : state.users.get userId with
  | none =>
      simp only [found] at rest
      cases rest
  | some target =>
      simp only [found] at rest
      obtain ⟨⟨granted, tenant⟩, decided, same⟩ := Checks.bind_ok rest
      cases same
      exact ⟨.roleSet (requireRole_user required) found decided rfl, rfl⟩

theorem oktaCallback_writes {identity : Identity} (served : state.oktaCallback identity = .ok after) :
    Writes state after (.oktaCallback identity) ∧ after.defaultRole = state.defaultRole := by
  unfold oktaCallback at served
  split at served
  · cases served
  · split at served
    · cases served
    · split at served
      · cases served
      · rename_i granted
        unfold provisionUser at served
        split at served
        · rename_i found
          split at served
          · cases served
            exact ⟨.signedIn granted found rfl, rfl⟩
          · cases served
        · dsimp only at served
          split at served
          · cases served
          · cases served
            exact ⟨.signedUp granted rfl, rfl⟩

theorem userCreate_writes {username slug : String} {platformAdmin : Bool}
    (served : state.userCreate username role slug platformAdmin = .ok after) :
    Writes state after (.userCreate username role slug platformAdmin) ∧
      after.defaultRole = state.defaultRole := by
  unfold userCreate at served
  split at served
  · cases served
  · split at served
    · cases served
      exact ⟨.created ⟨fun other => absurd rfl other, fun _ => rfl⟩ rfl, rfl⟩
    · split at served
      · cases served
      · cases served
      · cases served
      · rename_i tenantRole _ _
        cases served
        exact ⟨.created ⟨fun _ => rfl, fun platform => absurd platform tenantRole⟩ rfl, rfl⟩

theorem attempt_writes {request : Request} (modest : ModestDefault state.defaultRole)
    (served : state.attempt request = .ok after) :
    Writes state after request ∧ ModestDefault after.defaultRole := by
  cases request with
  | memberSetRole actor userId role tenantForm =>
      obtain ⟨writes, same⟩ := memberSetRole_writes served
      exact ⟨writes, same ▸ modest⟩
  | mappingSave actor group tenantForm =>
      obtain ⟨user, _, rest⟩ := Checks.bind_ok served
      obtain ⟨_, rest⟩ := Checks.guard_ok rest
      obtain ⟨tenant, _, same⟩ := Checks.bind_ok rest
      cases same
      exact ⟨.nothing rfl, modest⟩
  | mappingDelete actor mappingId =>
      obtain ⟨user, _, rest⟩ := Checks.bind_ok served
      split at rest
      · cases rest
      · cases rest
        exact ⟨.nothing rfl, modest⟩
  | defaultSave actor defaultRole =>
      obtain ⟨user, _, rest⟩ := Checks.bind_ok served
      obtain ⟨offered, same⟩ := Checks.require_ok rest
      cases same
      exact ⟨.nothing rfl, modestDefault_of_offered offered⟩
  | oktaCallback identity =>
      obtain ⟨writes, same⟩ := oktaCallback_writes served
      exact ⟨writes, same ▸ modest⟩
  | userCreate username role tenantSlug platformAdmin =>
      obtain ⟨writes, same⟩ := userCreate_writes served
      exact ⟨writes, same ▸ modest⟩

theorem serve_writes (modest : ModestDefault state.defaultRole) (request : Request) :
    Writes state (state.serve request) request ∧ ModestDefault (state.serve request).defaultRole := by
  unfold serve
  cases served : state.attempt request with
  | error refusal => exact ⟨.nothing rfl, modest⟩
  | ok after => exact attempt_writes modest served

/-- What holds in every state that requests lead to. -/
structure Sound (state : Accounts) : Prop where
  placed : ∀ user ∈ state.users.rows, user.Placed
  modest : ModestDefault state.defaultRole

theorem starts_sound (starts : state.Starts) : state.Sound where
  placed user member := by
    rw [starts.1] at member
    exact absurd member List.not_mem_nil
  modest := modestDefault_of_offered starts.2

theorem signedIn_unlocked {identity : Identity} {tenant : Int} {role : Role} (unlocked : user.roleLocked = false) :
    (signedIn identity tenant role user).role = role ∧
      (signedIn identity tenant role user).tenantId = some tenant := by
  simp [signedIn, unlocked]

theorem signedIn_locked {identity : Identity} {tenant : Int} {role : Role} (locked : user.roleLocked = true) :
    (signedIn identity tenant role user).role = user.role ∧
      (signedIn identity tenant role user).tenantId = user.tenantId := by
  simp [signedIn, locked]

theorem Writes.placed {request : Request} (sound : state.Sound) (writes : Writes state after request) :
    ∀ user ∈ after.users.rows, user.Placed := by
  cases writes with
  | nothing same =>
      rw [same]
      exact sound.placed
  | roleSet acting found decided written =>
      rw [written]
      intro user member
      obtain ⟨old, listed, rfl⟩ := Table.mem_modify.mp member
      split
      · exact grantedRole_placed decided
      · exact sound.placed old listed
  | signedIn granted found written =>
      rw [written]
      intro user member
      obtain ⟨old, listed, rfl⟩ := Table.mem_modify.mp member
      split
      · cases locked : old.roleLocked with
        | false =>
            obtain ⟨sameRole, sameTenant⟩ := signedIn_unlocked locked
            refine User.placed_tenant ?_ sameTenant
            rw [sameRole, pickGrant_viewer sound.modest granted]
            decide
        | true =>
            obtain ⟨sameRole, sameTenant⟩ := signedIn_locked locked
            unfold User.Placed
            rw [sameRole, sameTenant]
            exact sound.placed old listed
      · exact sound.placed old listed
  | signedUp granted written =>
      rw [written]
      intro user member
      rcases Table.mem_insert.mp member with before | rfl
      · exact sound.placed user before
      · refine User.placed_tenant ?_ rfl
        simp only [newUser]
        rw [pickGrant_viewer sound.modest granted]
        decide
  | created placed written =>
      rw [written]
      intro user member
      rcases Table.mem_insert.mp member with before | rfl
      · exact sound.placed user before
      · exact placed

theorem reachable_sound (reached : machine.Reachable state) : state.Sound := by
  refine reached.invariant (fun start => starts_sound) ?_
  intro before request after stepped sound
  cases stepped
  obtain ⟨writes, modest⟩ := serve_writes sound.modest request
  exact ⟨writes.placed sound, modest⟩

theorem Writes.confined {request : Request} {actor : Int} {admin : User} (writes : Writes state after request)
    (acting : request.actor = some actor) (found : state.users.get actor = some admin)
    (tenantAdmin : admin.role = .tenantAdmin) (id : Int) :
    after.users.get id = state.users.get id ∨
      ∃ before now, state.users.get id = some before ∧ after.users.get id = some now ∧
        before.tenantId = admin.tenantId ∧ now.role ≠ .platformAdmin := by
  cases writes with
  | nothing same => exact .inl (by rw [same])
  | @roleSet _ userId _ _ user target granted tenant present targeted decided written =>
      cases acting
      cases Option.some.inj (found.symm.trans present)
      obtain ⟨own, below⟩ := grantedRole_confined tenantAdmin decided
      by_cases same : id = userId
      · subst same
        refine .inr ⟨target, setRole granted tenant target, targeted, ?_, own, below⟩
        rw [written]
        exact Table.get_modify_of_eq rfl targeted
      · refine .inl ?_
        rw [written]
        exact Table.get_modify_other same
  | signedIn granted found written => cases acting
  | signedUp granted written => cases acting
  | created placed written => cases acting

theorem userBySub_found {sub : String} (found : state.userBySub sub = some user) :
    user ∈ state.users.rows ∧ user.oktaSub = some sub := by
  exact ⟨List.mem_of_find?_eq_some found, by simpa using List.find?_some found⟩

theorem Writes.signIn {identity : Identity} (modest : ModestDefault state.defaultRole)
    (writes : Writes state after (.oktaCallback identity)) :
    ∀ now ∈ after.users.rows, now ∈ state.users.rows ∨ now.oktaSub = some identity.sub ∧
      (now.role = .viewer ∨ ∃ before ∈ state.users.rows, before.id = now.id ∧ before.roleLocked ∧
        now.role = before.role ∧ now.tenantId = before.tenantId) := by
  intro now member
  cases writes with
  | nothing same =>
      rw [same] at member
      exact .inl member
  | @signedIn _ members tenant role user granted found written =>
      rw [written] at member
      obtain ⟨old, listed, rfl⟩ := Table.mem_modify.mp member
      split
      · rename_i same
        obtain ⟨present, sub⟩ := userBySub_found found
        cases Table.eq_of_key listed present same
        have subKept : (Accounts.signedIn identity tenant role user).oktaSub = some identity.sub := by
          unfold Accounts.signedIn
          dsimp only
          split <;> exact sub
        refine .inr ⟨subKept, ?_⟩
        cases locked : user.roleLocked with
        | false =>
            refine .inl ?_
            rw [(signedIn_unlocked locked).1]
            exact pickGrant_viewer modest granted
        | true =>
            exact .inr ⟨user, present, (signedIn_id identity tenant role user).symm, locked, signedIn_locked locked⟩
      · exact .inl listed
  | signedUp granted written =>
      rw [written] at member
      rcases Table.mem_insert.mp member with before | rfl
      · exact .inl before
      · exact .inr ⟨rfl, .inl (pickGrant_viewer modest granted)⟩

theorem Writes.lockedKept {identity : Identity} (writes : Writes state after (.oktaCallback identity)) :
    ∀ before ∈ state.users.rows, before.roleLocked → ∃ now ∈ after.users.rows, now.id = before.id ∧
      now.role = before.role ∧ now.tenantId = before.tenantId := by
  intro before member locked
  cases writes with
  | nothing same =>
      rw [same]
      exact ⟨before, member, rfl, rfl, rfl⟩
  | @signedIn _ members tenant role user granted found written =>
      rw [written]
      refine ⟨_, Table.mem_modify.mpr ⟨before, member, rfl⟩, ?_⟩
      split
      · exact ⟨signedIn_id identity tenant role before, signedIn_locked locked⟩
      · exact ⟨rfl, rfl, rfl⟩
  | signedUp granted written =>
      rw [written]
      exact ⟨before, Table.mem_insert.mpr (.inl member), rfl, rfl, rfl⟩

/-- Whatever was requested before: who has a tenant, what a tenant admin can do next and
what a sign-in can do next. -/
theorem role_and_tenant_safety (reached : machine.Reachable state) :
    (∀ user ∈ state.users.rows,
      (user.role ≠ .platformAdmin → user.tenantId.isSome) ∧
      (user.role = .platformAdmin → user.tenantId = none)) ∧
    (∀ request actor admin, request.actor = some actor → state.users.get actor = some admin →
      admin.role = .tenantAdmin → ∀ id,
        (state.serve request).users.get id = state.users.get id ∨
        ∃ before now, state.users.get id = some before ∧ (state.serve request).users.get id = some now ∧
          before.tenantId = admin.tenantId ∧ now.role ≠ .platformAdmin) ∧
    (∀ identity,
      (∀ now ∈ (state.serve (.oktaCallback identity)).users.rows,
        now ∈ state.users.rows ∨ now.oktaSub = some identity.sub ∧
          (now.role = .viewer ∨ ∃ before ∈ state.users.rows, before.id = now.id ∧ before.roleLocked ∧
            now.role = before.role ∧ now.tenantId = before.tenantId)) ∧
      (∀ before ∈ state.users.rows, before.roleLocked →
        ∃ now ∈ (state.serve (.oktaCallback identity)).users.rows, now.id = before.id ∧
          now.role = before.role ∧ now.tenantId = before.tenantId)) := by
  have sound := reachable_sound reached
  refine ⟨sound.placed, ?_, ?_⟩
  · intro request actor admin acting found tenantAdmin id
    exact (serve_writes sound.modest request).1.confined acting found tenantAdmin id
  · intro identity
    have writes := (serve_writes sound.modest (.oktaCallback identity)).1
    exact ⟨writes.signIn sound.modest, writes.lockedKept⟩

private def freshAccounts : Accounts where
  users := .empty
  tenants := Table.insert .empty fun id => { id, name := "Default", slug := "default" }
  inactive := []
  mappings := .empty
  defaultRole := "viewer"

private def bobIdentity : Identity where
  sub := "00u1"
  email := none
  username := "bob"
  displayName := none
  groups := .list [.text "Staff"]

private def bobRequests : List Request :=
  [.userCreate "ann" "tenant_admin" "default" false, .oktaCallback bobIdentity,
    .memberSetRole 1 2 "operator" none]

private def bobAccounts : Accounts := bobRequests.foldl serve freshAccounts

private theorem bobAccounts_reachable : machine.Reachable bobAccounts :=
  ⟨freshAccounts, bobRequests, ⟨rfl, by decide⟩, rfl⟩

theorem role_and_tenant_safety_bob :
    bobAccounts.users.rows.map (fun user => (user.username, user.role, user.tenantId, user.roleLocked)) =
      [("ann", .tenantAdmin, some 1, false), ("bob", .operator, some 1, true)] ∧
    bobAccounts.users.rows.all (fun user => user.tenantId.isSome) ∧
    ∃ now ∈ (bobAccounts.serve (.oktaCallback bobIdentity)).users.rows, now.id = 2 ∧ now.role = .operator := by
  refine ⟨by decide, ?_, ?_⟩
  · have placed := (role_and_tenant_safety bobAccounts_reachable).1
    have tenantRoles : ∀ user ∈ bobAccounts.users.rows, user.role ≠ .platformAdmin := by decide
    rw [List.all_eq_true]
    exact fun user member => (placed user member).1 (tenantRoles user member)
  · obtain ⟨bob, listed, bobId, locked, operator⟩ :
        ∃ bob ∈ bobAccounts.users.rows, bob.id = 2 ∧ bob.roleLocked = true ∧ bob.role = .operator := by
      decide
    obtain ⟨now, member, same, role, _⟩ :=
      ((role_and_tenant_safety bobAccounts_reachable).2.2 bobIdentity).2 bob listed locked
    exact ⟨now, member, same.trans bobId, role.trans operator⟩

end Accounts

end Dosm.Auth
