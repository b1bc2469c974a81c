import Dosm.Auth.Accounts

namespace Dosm.Audit

open Auth Models Python

/-! The audit log and who may read which rows of it. -/

/-- A row as it is constructed, before it gets its key and its time. -/
structure Entry where
  tenantId : Option Int := none
  actorId : Option Int := none
  action : String
  target : Option String := none
  details : Option String := none
  deriving DecidableEq

structure AuditRow extends Entry where
  id : Int
  ts : Int
  deriving DecidableEq

instance : Keyed AuditRow := ⟨AuditRow.id⟩

/-- What the page and the exports are asked for; the days are instants already. -/
structure AuditQuery where
  action : String
  actorId : String
  tenantId : String
  start : Option Int
  stop : Option Int

/-- Nothing stands for all tenants. -/
def adminTenantIds (user : User) : Option (List Int) :=
  if user.role = .platformAdmin then none else some user.tenantId.toList

def day : Int := 24 * 3600 * 1000000

def applyFilters (scope : Option (List Int)) (query : AuditQuery) (row : AuditRow) : Bool :=
  (scope.all fun tenants => row.tenantId.any (· ∈ tenants)) &&
    (query.action = "" || row.action = query.action) &&
    ((parseInt query.actorId).all fun actor => row.actorId = some actor) &&
    (query.start.all fun start => start ≤ row.ts) && (query.stop.all fun stop => row.ts < stop + day)

/-- `_resolve_audit_request`: the filter of the rows. -/
def resolveAuditRequest (user : User) (query : AuditQuery) : Except Refusal (AuditRow → Bool) :=
  let allowed := adminTenantIds user
  let asked := parseInt query.tenantId
  if allowed = some [] then .error (.http 403 "your account is not assigned to a tenant")
  else if asked.any fun tenant => allowed.any fun tenants => tenant ∉ tenants then
    .error (.http 403 "you do not administer that tenant")
  else
    let scope := asked.elim allowed fun tenant => some [tenant]
    .ok (applyFilters scope query)

theorem shown_tenant {user : User} {query : AuditQuery} {shows : AuditRow → Bool} {row : AuditRow}
    (confined : user.role ≠ .platformAdmin) (resolved : resolveAuditRequest user query = .ok shows)
    (shown : shows row = true) : row.tenantId.isSome = true := by
  unfold resolveAuditRequest at resolved
  simp only [adminTenantIds, if_neg confined] at resolved
  split at resolved
  · cases resolved
  · split at resolved
    · cases resolved
    · cases resolved
      simp only [applyFilters, Bool.and_eq_true] at shown
      have inScope := shown.1.1.1.1
      cases asked : parseInt query.tenantId with
      | none =>
          simp only [asked, Option.elim_none, Option.all_some] at inScope
          exact Option.isSome_of_any inScope
      | some tenant =>
          simp only [asked, Option.elim_some, Option.all_some] at inScope
          exact Option.isSome_of_any inScope

end Dosm.Audit
