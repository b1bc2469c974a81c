import Dosm.Monitoring.Sources
import Mathlib.Logic.Function.Basic

namespace Dosm.Monitoring

open Models Python Secrets

/-! Host checks against the monitoring sources, and the table their results are kept in.

A kept result is served as long as it is fresh; the other sources are asked and what
they answer is stored. The session writes to the database at the commit only, so a row
that is added is not seen by the selects before it.
-/

structure Connection where
  tool : String
  url : String
  username : String
  token : String
  token2 : String
  deriving DecidableEq

structure Adapter where
  sourceId : Int
  sourceName : String
  connection : Connection
  deriving DecidableEq

structure Finding where
  found : Bool
  entityId : Option String := none
  entityName : Option String := none
  entityUrl : Option String := none
  extra : List (String × Value) := []
  error : Option String := none
  deriving DecidableEq

structure HostCheckResult extends Finding where
  sourceId : Int
  sourceName : String
  tool : String
  deriving DecidableEq

structure MonitoringMatch where
  hostname : String
  sourceId : Int
  found : Bool
  entityId : Option String
  entityName : Option String
  entityUrl : Option String
  extraJson : String
  error : Option String
  checkedAt : Int
  deriving DecidableEq

/-- `str.lower` and the two directions of the JSON library. -/
structure Env where
  lower : String → String
  dumps : List (String × Value) → String
  loads : String → List (String × Value)

/-- What the services answer, or the exception of an adapter. -/
abbrev Answers := Connection → String → Except String Finding

def matchTtl : Int := 24 * 60 * 60 * 1000000

def matchFresh (now : Int) : Option MonitoringMatch → Bool
  | none => false
  | some row => now - row.checkedAt < matchTtl

def matchToResult (env : Env) (source : MonitoringSource) (row : MonitoringMatch) : HostCheckResult where
  sourceId := source.id
  sourceName := source.name
  tool := source.tool
  found := row.found
  entityId := row.entityId
  entityName := row.entityName
  entityUrl := row.entityUrl
  extra := env.loads (if row.extraJson = "" then "\x7b\x7d" else row.extraJson)
  error := row.error

def storedMatch (env : Env) (now : Int) (key : String) (result : HostCheckResult) : MonitoringMatch where
  hostname := key
  sourceId := result.sourceId
  found := result.found
  entityId := result.entityId
  entityName := result.entityName
  entityUrl := result.entityUrl
  extraJson := env.dumps result.extra
  error := result.error
  checkedAt := now

def MonitoringMatch.key (row : MonitoringMatch) : String × Int := (row.hostname, row.sourceId)

/-- The rows of the table, one at most for a host and a source. -/
structure Matches where
  rows : List MonitoringMatch
  unique : (rows.map MonitoringMatch.key).Nodup

/-- The rows a session has read and changed, and those it has added. -/
structure Session where
  rows : List MonitoringMatch
  pending : List MonitoringMatch

def matchStore (env : Env) (now : Int) (session : Session) (hostname : String) (result : HostCheckResult) : Session :=
  let key := env.lower hostname
  let row := storedMatch env now key result
  if session.rows.any fun found => found.key = row.key then
    { session with rows := session.rows.map fun found => if found.key = row.key then row else found }
  else { session with pending := session.pending ++ [row] }

/-- The commit checks the unique constraint; `none` is an integrity error. -/
def Session.commit (session : Session) : Option Matches :=
  if unique : ((session.rows ++ session.pending).map MonitoringMatch.key).Nodup then
    some ⟨session.rows ++ session.pending, unique⟩
  else none

def matchesFor (table : Matches) (keys : List String) (sourceIds : List Int) : List MonitoringMatch :=
  table.rows.filter fun row => row.hostname ∈ keys && row.sourceId ∈ sourceIds

def matchAt (rows : List MonitoringMatch) (key : String × Int) : Option MonitoringMatch :=
  rows.find? fun row => row.key = key

def tokenAt (secrets : Backend) (path : Option String) : String :=
  match path with
  | none => ""
  | some path => if path = "" then "" else (secrets.lookup path).getD ""

def makeAdapter (source : MonitoringSource) (token token2 : String) : Option Adapter :=
  let adapter := fun username token2 =>
    some { sourceId := source.id, sourceName := source.name,
           connection := { tool := source.tool, url := source.url, username, token, token2 } }
  if source.tool = "dynatrace" then adapter "" ""
  else if source.tool = "datadog" then adapter "" token2
  else if source.tool = "servicenow" ∨ source.tool = "prometheus" then adapter (source.username.getD "") ""
  else none

def adapterOf (secrets : Backend) (source : MonitoringSource) : Option Adapter :=
  makeAdapter source (tokenAt secrets source.tokenSecret) (tokenAt secrets source.token2Secret)

def adaptersFor (secrets : Backend) (sources : List MonitoringSource) : List (Adapter × MonitoringSource) :=
  sources.filterMap fun source => (adapterOf secrets source).map fun adapter => (adapter, source)

/-- The result of one check; an exception of the adapter becomes an error result. -/
def checkHost (answers : Answers) (entry : Adapter × MonitoringSource) (hostname : String) : HostCheckResult :=
  match answers entry.1.connection hostname with
  | .ok finding =>
      { finding with sourceId := entry.1.sourceId, sourceName := entry.1.sourceName, tool := entry.1.connection.tool }
  | .error text =>
      { sourceId := entry.1.sourceId, sourceName := entry.1.sourceName, tool := entry.2.tool, found := false
        error := some text }

/-- The results that are stored, one after the other. -/
def storeAll (env : Env) (now : Int) (session : Session) (results : List (String × HostCheckResult)) : Session :=
  results.foldl (fun session entry => matchStore env now session entry.1 entry.2) session

def runChecks (env : Env) (answers : Answers) (now : Int) (table : Matches) (secrets : Backend)
    (sources : List MonitoringSource) (hostname : String) (force : Bool) :
    Option (List HostCheckResult × Matches) :=
  let found := matchesFor table [env.lower hostname] (sources.map MonitoringSource.id)
  let row := fun source : MonitoringSource => matchAt found (env.lower hostname, source.id)
  let served := fun source => !force && matchFresh now (row source)
  let results := sources.filterMap fun source =>
    if served source then (row source).map (matchToResult env source) else none
  let adapters := adaptersFor secrets (sources.filter fun source => !served source)
  if adapters = [] then some (results, table)
  else
    let raw := adapters.map fun entry => checkHost answers entry hostname
    let session := storeAll env now ⟨table.rows, []⟩ (raw.map fun result => (hostname, result))
    session.commit.map fun after => (results ++ raw, after)

abbrev Matrix := String × Int → Option HostCheckResult

def Matrix.set (matrix : Matrix) (entry : (String × Int) × HostCheckResult) : Matrix :=
  Function.update matrix entry.1 (some entry.2)

/-- `_run_checks_fleet`, for the hosts' hostnames. -/
def runChecksFleet (env : Env) (answers : Answers) (now : Int) (table : Matches) (secrets : Backend)
    (sources : List MonitoringSource) (hostnames : List String) (force : Bool) : Option (Matrix × Matches) :=
  let adapters := adaptersFor secrets sources
  if adapters = [] ∨ hostnames = [] then some (fun _ => none, table)
  else
    let found := matchesFor table (hostnames.map env.lower) (sources.map MonitoringSource.id)
    let row := fun pair : String × Adapter × MonitoringSource => matchAt found (env.lower pair.1, pair.2.2.id)
    let pairs := hostnames.flatMap fun hostname => adapters.map fun entry => (hostname, entry)
    let served := fun pair => !force && matchFresh now (row pair)
    let kept := (pairs.filter served).filterMap fun pair =>
      (row pair).map fun row => ((env.lower pair.1, pair.2.2.id), matchToResult env pair.2.2 row)
    let toCheck := pairs.filter fun pair => !served pair
    let matrix := kept.foldl Matrix.set fun _ => none
    if toCheck = [] then some (matrix, table)
    else
      let raw := toCheck.map fun pair => (pair, checkHost answers pair.2 pair.1)
      let session := storeAll env now ⟨table.rows, []⟩ (raw.map fun entry => (entry.1.1, entry.2))
      let checked := raw.map fun entry => ((env.lower entry.1.1, entry.1.2.2.id), entry.2)
      session.commit.map fun after => (checked.foldl Matrix.set matrix, after)

section Stores

variable {env : Env} {now : Int} {session : Session} {table after : Matches} {results : List (String × HostCheckResult)}
  {hostname : String} {result : HostCheckResult} {row : MonitoringMatch} {keys : List String} {sourceIds : List Int}
  {key : String × Int}

def storeKey (env : Env) (entry : String × HostCheckResult) : String × Int := (env.lower entry.1, entry.2.sourceId)

theorem matchStore_keys : (matchStore env now session hostname result).rows.map MonitoringMatch.key =
    session.rows.map MonitoringMatch.key := by
  unfold matchStore
  dsimp only
  split
  · rw [List.map_map]
    apply List.map_congr_left
    intro found _
    rw [Function.comp_apply]
    split
    next same => exact same.symm
    · rfl
  · rfl

theorem matchStore_pending : (matchStore env now session hostname result).pending.map MonitoringMatch.key =
    session.pending.map MonitoringMatch.key ++
      [storeKey env (hostname, result)].filter fun key => key ∉ session.rows.map MonitoringMatch.key := by
  have known : (session.rows.any fun found => found.key = (storedMatch env now (env.lower hostname) result).key) = true ↔
      storeKey env (hostname, result) ∈ session.rows.map MonitoringMatch.key := by
    simp only [List.any_eq_true, decide_eq_true_eq, List.mem_map]
    rfl
  unfold matchStore
  dsimp only
  by_cases stored : storeKey env (hostname, result) ∈ session.rows.map MonitoringMatch.key
  · rw [if_pos (known.mpr stored), List.filter_cons_of_neg (by simpa using stored), List.filter_nil, List.append_nil]
  · rw [if_neg fun any => stored (known.mp any), List.filter_cons_of_pos (by simpa using stored), List.map_append]
    rfl

theorem storeAll_keys : (storeAll env now session results).rows.map MonitoringMatch.key =
    session.rows.map MonitoringMatch.key := by
  induction results generalizing session with
  | nil => rfl
  | cons entry rest ih => exact ih.trans matchStore_keys

theorem storeAll_pending : (storeAll env now session results).pending.map MonitoringMatch.key =
    session.pending.map MonitoringMatch.key ++
      (results.map (storeKey env)).filter fun key => key ∉ session.rows.map MonitoringMatch.key := by
  induction results generalizing session with
  | nil => simp [storeAll]
  | cons entry rest ih =>
      have later := @ih (matchStore env now session entry.1 entry.2)
      rw [matchStore_keys, matchStore_pending, List.append_assoc, ← List.filter_append] at later
      exact later

theorem commit_isSome_iff : (storeAll env now ⟨table.rows, []⟩ results).commit.isSome = true ↔
    ((results.map (storeKey env)).filter fun key => key ∉ table.rows.map MonitoringMatch.key).Nodup := by
  have keys : ((storeAll env now ⟨table.rows, []⟩ results).rows ++
      (storeAll env now ⟨table.rows, []⟩ results).pending).map MonitoringMatch.key =
      table.rows.map MonitoringMatch.key ++
        (results.map (storeKey env)).filter fun key => key ∉ table.rows.map MonitoringMatch.key := by
    rw [List.map_append, storeAll_keys, storeAll_pending]
    rfl
  have apart : ∀ first ∈ table.rows.map MonitoringMatch.key, ∀ second ∈ (results.map (storeKey env)).filter
      (fun key => key ∉ table.rows.map MonitoringMatch.key), first ≠ second := by
    rintro first stored second new rfl
    exact of_decide_eq_true (List.mem_filter.mp new).2 stored
  unfold Session.commit
  split
  next unique =>
    rw [keys, List.nodup_append] at unique
    exact iff_of_true rfl unique.2.1
  next clash =>
    refine iff_of_false (by simp) fun distinct => clash ?_
    rw [keys, List.nodup_append]
    exact ⟨table.unique, distinct, apart⟩

theorem commit_rows (committed : session.commit = some after) : after.rows = session.rows ++ session.pending := by
  unfold Session.commit at committed
  split at committed
  · rw [← Option.some.inj committed]
  · cases committed

theorem storeAll_stored (committed : (storeAll env now ⟨table.rows, []⟩ results).commit = some after)
    {entry : String × HostCheckResult} (listed : entry ∈ results) :
    storeKey env entry ∈ after.rows.map MonitoringMatch.key := by
  rw [commit_rows committed, List.map_append, storeAll_keys, storeAll_pending, List.mem_append]
  by_cases stored : storeKey env entry ∈ table.rows.map MonitoringMatch.key
  · exact .inl stored
  · exact .inr (List.mem_append_right _ (List.mem_filter.mpr ⟨List.mem_map_of_mem listed, by simpa using stored⟩))

theorem mem_storeAll (listed : row ∈ (storeAll env now session results).rows ++ (storeAll env now session results).pending) :
    row ∈ session.rows ++ session.pending ∨ ∃ entry ∈ results, row = storedMatch env now (env.lower entry.1) entry.2 := by
  induction results generalizing session with
  | nil => exact .inl listed
  | cons entry rest ih =>
      rcases ih listed with before | ⟨later, member, same⟩
      · have step : row ∈ session.rows ++ session.pending ∨ row = storedMatch env now (env.lower entry.1) entry.2 := by
          unfold matchStore at before
          dsimp only at before
          split at before
          · rcases List.mem_append.mp before with kept | pending
            · obtain ⟨found, inRows, rfl⟩ := List.mem_map.mp kept
              split
              · exact .inr rfl
              · exact .inl (List.mem_append_left _ inRows)
            · exact .inl (List.mem_append_right _ pending)
          · rcases List.mem_append.mp before with kept | pending
            · exact .inl (List.mem_append_left _ kept)
            · rcases List.mem_append.mp pending with older | new
              · exact .inl (List.mem_append_right _ older)
              · exact .inr (List.mem_singleton.mp new)
        exact step.imp_right fun new => ⟨entry, List.mem_cons_self, new⟩
      · exact .inr ⟨later, List.mem_cons_of_mem entry member, same⟩

theorem matchAt_matchesFor (listed : key.1 ∈ keys) (sourceListed : key.2 ∈ sourceIds) :
    matchAt (matchesFor table keys sourceIds) key = matchAt table.rows key := by
  unfold matchAt matchesFor
  rw [List.find?_filter]
  congr 1
  funext row
  by_cases same : row.key = key
  · have parts : row.hostname = key.1 ∧ row.sourceId = key.2 := by
      rw [← same]
      exact ⟨rfl, rfl⟩
    simp [same, parts, listed, sourceListed]
  · simp [same]

end Stores

end Dosm.Monitoring
