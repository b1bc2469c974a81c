import Dosm.Secrets

namespace Dosm.Agent

open Models Python

/-! What the agent's tools run on, and what they report. -/

structure ActionResult where
  ok : Bool
  summary : String
  stdout : String := ""
  stderr : String := ""
  exitCode : Option Int := none
  durationMs : Option Int := none
  extra : List (String × Value) := []
  deriving DecidableEq

structure World where
  db : Database
  secrets : Secrets.Backend

/-- A tool either reports a result or raises; what it changed stays changed. -/
structure Run where
  world : World
  reported : Except Raised ActionResult

namespace Run

def refuse (world : World) (summary : String) (stderr : String := "") : Run :=
  ⟨world, .ok { ok := false, summary, stderr }⟩

def raise (world : World) (raised : Raised) : Run := ⟨world, .error raised⟩

/-- Read an argument first; a bad one ends the run. -/
def withText (world : World) (text : Except Raised String) (next : String → Run) : Run :=
  match text with
  | .ok text => next text
  | .error raised => raise world raised

end Run

/-- The rows a tenant clause admits; every row when no tenant is active. -/
def inTenant (tid : Option Int) (tenantId : Int) : Bool :=
  match tid with
  | none => true
  | some tenant => tenantId = tenant

end Dosm.Agent
