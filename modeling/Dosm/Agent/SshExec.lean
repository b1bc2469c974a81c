import Dosm.Agent.Inventory
import Dosm.Agent.Registry

namespace Dosm.Agent

open Models Python

/-! How `ssh_exec` reads its arguments, and the host that it finds by them. -/

/-- What leaves a runner in place of a result. -/
inductive RunnerFailure where
  | raised (raised : Raised)
  /-- `int` or `float` of what is no number, or an integer that no column holds. -/
  | conversion
  | nameError (name : String)
  /-- Nothing does: the runner goes on for ever. -/
  | endless
  deriving DecidableEq

def getHost (db : Database) (id : Int) (tid : Option Int) : Option Host :=
  (db.hosts.get id).filter fun host => inTenant tid host.tenantId

def boundName : Value → Except RunnerFailure (Option String)
  | .int value => if Value.isColumnInt value then .ok (some (toString value)) else .error .conversion
  | value => value.columnText.mapError .raised

def hostByName (db : Database) (tid : Option Int) (value : Value) : Except RunnerFailure (Option Host) :=
  match boundName value with
  | .error failure => .error failure
  | .ok none => .ok none
  | .ok (some name) => (hostNamed db tid name).mapError .raised

def findHost (db : Database) (tid : Option Int) (args : Args) : Except RunnerFailure (Option Host) :=
  match args.get "host_id" with
  | .none => if (args.get "host").truthy then hostByName db tid (args.get "host") else .ok none
  | given =>
      match given.toInt with
      | none => .error .conversion
      | some id => if Value.isColumnInt id then .ok (getHost db id tid) else .error .conversion

def sshTarget (db : Database) (tid : Option Int) (args : Args) : Option Host := (findHost db tid args).toOption.join

/-- `float(args.get("timeout") or 30.0)` does not raise. -/
def readsTimeout (conversions : Conversions) (args : Args) : Bool :=
  !(args.get "timeout").truthy || conversions.isFloat (args.get "timeout")

/-- The host that the runner settles on for the command. -/
def sshExecHost (conversions : Conversions) (db : Database) (tid : Option Int) (args : Args) : Option Host :=
  match args.text "command" with
  | .error _ => none
  | .ok command =>
      if !readsTimeout conversions args || command = "" then none
      else (sshTarget db tid args).filter fun host => host.protocol = .ssh

end Dosm.Agent
