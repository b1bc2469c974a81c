import Dosm.Models

namespace Dosm.Web

open Models

/-! What every browser route starts from and how it answers. -/

/-- The signed-in user, and the tenant the request acts within: a user's own,
or the one a platform admin has selected. -/
structure Caller where
  tid : Option Int
  userId : Nat
  role : Role

inductive Reply where
  | redirect (location : String)
  | json (ok : Bool) (detail : String)
  | error (status : Nat) (detail : String)
  deriving DecidableEq

def requireRole (caller : Caller) (minimum : Role) : Except Reply Unit :=
  if caller.role.atLeast minimum then .ok ()
  else .error (.error 403 ("requires " ++ minimum.name ++ " role"))

def requireActiveTenant (caller : Caller) : Except Reply Int :=
  match caller.tid with
  | some tenant => .ok tenant
  | none => .error (.error 403 "select an active tenant before making changes")

def notFound : Reply := .error 404 "Not Found"

/-- The row of a key unless another tenant owns it. -/
def getScoped {Row : Type} [Owned Row] (table : Table Row) (id : Int) (tid : Option Int) : Option Row :=
  match tid with
  | none => table.get id
  | some tenant => table.getOwned tenant id

theorem getScoped_some {Row : Type} [Owned Row] {table : Table Row} {id : Int} {tid : Option Int}
    {row : Row} (found : getScoped table id tid = some row) : row ∈ table.rows ∧ key row = id := by
  have present : table.get id = some row := by
    cases tid with
    | none => exact found
    | some tenant => exact (Option.filter_eq_some_iff.mp found).1
  exact Table.get_eq_some_iff.mp present

end Dosm.Web
