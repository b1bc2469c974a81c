import Dosm.Credentials.Routes
import Dosm.Hosts.Repo

namespace Dosm.Hosts

open Models Python Agent Web Credentials

/-! Hosts in the browser. A form's ids are the integers its fields parse to. -/

/-- What both forms do to their fields before they call the repository. -/
def stripFields (args : HostArgs) : HostArgs :=
  { args with
    name := strip args.name
    hostname := strip args.hostname
    description := args.description.bind orNone
    ftMethod := if args.ftMethod = some "" then none else args.ftMethod }

def friendlyIntegrityError (message : String) : String :=
  let text := lower message
  if (find "hosts.name" text 0).isSome then
    "A host with that name already exists. Choose a different name."
  else if (find "hosts.hostname" text 0).isSome then
    "A host with that hostname/IP already exists."
  else "A duplicate value was rejected by the database."

def refusal : HostError → Reply
  | .validation message => .error 400 message
  | .integrity message => .error 400 (friendlyIntegrityError message)

def hostsCreate (world : World) (caller : Caller) (form : HostArgs) : World × Reply :=
  let gate := do
    requireRole caller .operator
    requireActiveTenant caller
  match gate with
  | .error reply => (world, reply)
  | .ok tenant =>
      match createHost world.db tenant (stripFields form) with
      | .error error => (world, refusal error)
      | .ok (db, hostId) => ({ world with db }, .redirect ("/hosts/" ++ toString hostId))

def hostOr404 (db : Database) (caller : Caller) (hostId : Int) : Except Reply Host := do
  requireRole caller .operator
  match getScoped db.hosts hostId caller.tid with
  | none => throw notFound
  | some host => return host

def hostsUpdate (world : World) (caller : Caller) (hostId : Int) (form : HostArgs) : World × Reply :=
  match hostOr404 world.db caller hostId with
  | .error reply => (world, reply)
  | .ok host =>
      match updateHost world.db host (stripFields form) with
      | .error error => (world, refusal error)
      | .ok db => ({ world with db }, .redirect ("/hosts/" ++ toString host.id))

def hostsDelete (world : World) (caller : Caller) (hostId : Int) : World × Reply :=
  match hostOr404 world.db caller hostId with
  | .error reply => (world, reply)
  | .ok host => ({ world with db := deleteHost world.db host.id }, .redirect "/inventory")

def hostsAssignOrg (world : World) (caller : Caller) (hostId : Int) (orgUnitId : Option Int) :
    World × Reply :=
  match hostOr404 world.db caller hostId with
  | .error reply => (world, reply)
  | .ok host =>
      if orgUnitId.all fun unit => (world.db.orgUnits.getOwned host.tenantId unit).isSome then
        let hosts := world.db.hosts.modify host.id fun row => { row with orgUnitId }
        ({ world with db := { world.db with hosts } }, .json true "")
      else (world, .json false "Org unit not found.")

end Dosm.Hosts
