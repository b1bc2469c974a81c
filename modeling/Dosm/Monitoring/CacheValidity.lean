import Dosm.Base.Transition
import Dosm.Monitoring.FleetChecks

namespace Dosm.Monitoring.CacheValidity

open Models Python Secrets Web Transition

/-! Kept results over runs of checks and edits of the sources.

A request reads the table and serves what is fresh, waits for the other sources, and
then stores what they answered; anything may happen while it waits. The objects it has
read keep their values, and only the columns it changes are written.
-/

/-- What a request waits for: the checks it has begun, and the rows it has read. -/
structure Asked where
  entries : List Check.Pair
  loaded : List MonitoringMatch

structure Report where
  hostname : String
  connection : Connection
  returned : Int
  result : HostCheckResult

structure Site where
  sources : Sources
  table : Matches
  now : Int
  inFlight : List Asked := []
  log : List Report := []

inductive Event where
  | wait (span : Nat)
  | check (tid : Option Int) (hostname : String) (force : Bool)
  | checkFleet (tid : Option Int) (hostnames : List String) (force : Bool)
  | store (index : Nat) (answers : Answers)
  | update (caller : Caller) (id : Int) (form : SourceForm)

def listEnabled (sources : Table MonitoringSource) (tid : Option Int) : Table MonitoringSource :=
  sources.filter fun source => source.enabled && (match tid with
    | none => true
    | some tenant => source.tenantId = tenant)

/-- A check at this moment, once the sources answer as they do. -/
def Site.checkWith (site : Site) (env : Env) (answers : Answers) (tid : Option Int) (force : Bool) : Check where
  env
  answers
  now := site.now
  table := site.table
  secrets := site.sources.secrets
  sources := listEnabled site.sources.sources tid
  force

def askedOne (check : Check) (hostname : String) : Asked where
  entries := (adaptersFor check.secrets (check.sources.rows.filter fun source => !check.served hostname source)).map
    fun entry => (hostname, entry)
  loaded := matchesFor check.table [check.env.lower hostname] (check.sources.rows.map MonitoringSource.id)

def askedFleet (check : Check) (hostnames : List String) : Asked where
  entries := check.toCheck hostnames
  loaded := matchesFor check.table (hostnames.map check.env.lower) (check.sources.rows.map MonitoringSource.id)

/-- A column that was not changed is not written. -/
def flushColumn {Column : Type} [DecidableEq Column] (loaded current final : Column) : Column :=
  if final = loaded then current else final

def flushRow (loaded current final : MonitoringMatch) : MonitoringMatch where
  hostname := current.hostname
  sourceId := current.sourceId
  found := flushColumn loaded.found current.found final.found
  entityId := flushColumn loaded.entityId current.entityId final.entityId
  entityName := flushColumn loaded.entityName current.entityName final.entityName
  entityUrl := flushColumn loaded.entityUrl current.entityUrl final.entityUrl
  extraJson := flushColumn loaded.extraJson current.extraJson final.extraJson
  error := flushColumn loaded.error current.error final.error
  checkedAt := flushColumn loaded.checkedAt current.checkedAt final.checkedAt

def sessionRows (loaded rows : List MonitoringMatch) : List MonitoringMatch :=
  rows.map fun row => (matchAt loaded row.key).getD row

/-- The table after a request has stored its results; as it was when the commit fails. -/
def storedTable (env : Env) (now : Int) (table : Matches) (loaded : List MonitoringMatch)
    (results : List (String × HostCheckResult)) : Matches :=
  let before := sessionRows loaded table.rows
  let session := storeAll env now ⟨before, []⟩ results
  let rows := (before.zip (table.rows.zip session.rows)).map fun versions =>
    flushRow versions.1 versions.2.1 versions.2.2
  (Session.commit ⟨rows, session.pending⟩).getD table

def resultsOf (answers : Answers) (asked : Asked) : List (String × HostCheckResult) :=
  asked.entries.map fun entry => (entry.1, checkHost answers entry.2 entry.1)

def reportsOf (answers : Answers) (now : Int) (asked : Asked) : List Report :=
  asked.entries.map fun entry => {
    hostname := entry.1
    connection := entry.2.1.connection
    returned := now
    result := checkHost answers entry.2 entry.1 }

def step (env : Env) (site : Site) : Event → Option Site
  | .wait span => some { site with now := site.now + span }
  | .check tid hostname force =>
      let asked := askedOne (site.checkWith env (fun _ _ => .error "") tid force) hostname
      some { site with inFlight := site.inFlight ++ [asked] }
  | .checkFleet tid hostnames force =>
      let asked := askedFleet (site.checkWith env (fun _ _ => .error "") tid force) hostnames
      some { site with inFlight := site.inFlight ++ [asked] }
  | .store index answers =>
      site.inFlight[index]?.map fun asked => { site with
        table := storedTable env site.now site.table asked.loaded (resultsOf answers asked)
        inFlight := site.inFlight.eraseIdx index
        log := site.log ++ reportsOf answers site.now asked }
  | .update caller id form =>
      match updateSource site.sources caller id form with
      | .ok sources => some { site with sources }
      | .error _ => some site

def machine (env : Env) : Machine Site Event where
  initial site := site.table.rows = [] ∧ site.inFlight = []
  step := step env

def connectionOf (secrets : Backend) (source : MonitoringSource) : Option Connection :=
  (adapterOf secrets source).map Adapter.connection

/-- A check of the host without an error, against what the source is now, returned this less than a day ago. -/
def Valid (env : Env) (site : Site) (hostname : String) (source : MonitoringSource) (served : HostCheckResult) : Prop :=
  ∃ report ∈ site.log, env.lower report.hostname = env.lower hostname ∧
    connectionOf site.sources.secrets source = some report.connection ∧ report.result.sourceId = source.id ∧
    report.result.error = none ∧ site.now - report.returned < matchTtl ∧
    served = matchToResult env source (storedMatch env report.returned (env.lower hostname) report.result)

/-- Results are stored without errors, from what the sources still are, over the rows that were read; an edit
leaves what a source's adapter talks to, or finds nothing fresh of the source. -/
def Careful (site : Site) : Event → Prop
  | .store index answers => ∀ asked, site.inFlight[index]? = some asked →
      (∀ row ∈ asked.loaded, row ∈ site.table.rows) ∧
      ∀ entry ∈ asked.entries, (checkHost answers entry.2 entry.1).error = none ∧
        ∀ source ∈ site.sources.sources.rows, source.id = entry.2.1.sourceId →
          connectionOf site.sources.secrets source = some entry.2.1.connection
  | .update caller id form => ∀ sources, updateSource site.sources caller id form = .ok sources →
      ∀ source ∈ site.sources.sources.rows, ∀ edited ∈ sources.sources.rows, edited.id = source.id →
        connectionOf sources.secrets edited = connectionOf site.sources.secrets source ∨
          ∀ row ∈ site.table.rows, row.sourceId = source.id → ¬ matchFresh site.now (some row)
  | _ => True

section Flush

variable {env : Env} {now : Int} {table : Matches} {loaded first last : List MonitoringMatch} {current final row : MonitoringMatch}
  {results : List (String × HostCheckResult)}

theorem flushColumn_same {Column : Type} [DecidableEq Column] (current final : Column) :
    flushColumn current current final = final := by
  unfold flushColumn
  split
  next same => exact same.symm
  · rfl

theorem flushRow_same (same : current.key = final.key) : flushRow current current final = final := by
  obtain ⟨hostname, sourceId⟩ := Prod.mk.inj same
  simp only [flushRow, flushColumn_same]
  rw [hostname, sourceId]

theorem flush_same (keys : first.map MonitoringMatch.key = last.map MonitoringMatch.key) :
    (first.zip (first.zip last)).map (fun versions => flushRow versions.1 versions.2.1 versions.2.2) = last := by
  induction first generalizing last with
  | nil =>
      rw [List.map_nil] at keys
      rw [List.map_eq_nil_iff.mp keys.symm]
      rfl
  | cons row rest ih =>
      cases last with
      | nil => cases keys
      | cons final others =>
          obtain ⟨same, later⟩ := List.cons.inj keys
          rw [List.zip_cons_cons, List.zip_cons_cons, List.map_cons, ih later]
          exact congrArg (· :: others) (flushRow_same same)

theorem sessionRows_same (unchanged : ∀ row ∈ loaded, row ∈ table.rows) : sessionRows loaded table.rows = table.rows := by
  unfold sessionRows
  refine (List.map_congr_left fun row listed => ?_).trans (List.map_id _)
  cases found : matchAt loaded row.key with
  | none => rfl
  | some read =>
      have key : read.key = row.key := by simpa using List.find?_some found
      exact List.inj_on_of_nodup_map table.unique (unchanged read (List.mem_of_find?_eq_some found)) listed key

theorem storedTable_eq (unchanged : ∀ row ∈ loaded, row ∈ table.rows) :
    storedTable env now table loaded results = (storeAll env now ⟨table.rows, []⟩ results).commit.getD table := by
  have flushed : (table.rows.zip (table.rows.zip (storeAll env now ⟨table.rows, []⟩ results).rows)).map
      (fun versions => flushRow versions.1 versions.2.1 versions.2.2) = (storeAll env now ⟨table.rows, []⟩ results).rows :=
    flush_same (@storeAll_keys env now ⟨table.rows, []⟩ results).symm
  unfold storedTable
  dsimp only
  rw [sessionRows_same unchanged, flushed]

theorem mem_storedTable (unchanged : ∀ row ∈ loaded, row ∈ table.rows)
    (listed : row ∈ (storedTable env now table loaded results).rows) :
    row ∈ table.rows ∨ ∃ entry ∈ results, row = storedMatch env now (env.lower entry.1) entry.2 := by
  rw [storedTable_eq unchanged] at listed
  cases committed : (storeAll env now ⟨table.rows, []⟩ results).commit with
  | none =>
      rw [committed] at listed
      exact .inl listed
  | some after =>
      rw [committed, Option.getD_some, commit_rows committed] at listed
      exact (mem_storeAll listed).imp_left fun before => by simpa using before

theorem storedTable_one {check : Check} {hostname : String} {results : List HostCheckResult} {after : Matches}
    (ran : check.one hostname = some (results, after)) :
    storedTable check.env check.now check.table (askedOne check hostname).loaded
      (resultsOf check.answers (askedOne check hostname)) = after := by
  have unchanged : ∀ row ∈ (askedOne check hostname).loaded, row ∈ check.table.rows :=
    fun row read => (List.mem_filter.mp read).1
  have asked : resultsOf check.answers (askedOne check hostname) =
      (check.raw hostname).map fun result => (hostname, result) := by
    rw [resultsOf, askedOne, Check.raw, ← Check.asked_eq, List.map_map, List.map_map]
    rfl
  obtain ⟨stored, committed⟩ := @Check.commit_one check hostname
  rw [storedTable_eq unchanged, asked, committed, Option.getD_some]
  exact Check.one_table ran committed

end Flush

section Edits

variable {state after : Sources} {caller : Caller} {id : Int} {form : SourceForm}

theorem editSource_key (form : SourceForm) (source : MonitoringSource) : key (editSource form source) = key source := by
  dsimp only [editSource, key]

theorem withTokens_key (form : SourceForm) (source : MonitoringSource) : key (withTokens form source) = key source := by
  dsimp only [withTokens, key]

theorem origin_of_modify {table : Table MonitoringSource} {change : MonitoringSource → MonitoringSource}
    (keeps : ∀ row, key (change row) = key row) {edited : MonitoringSource}
    (listed : edited ∈ (table.modify id change keeps).rows) : ∃ source ∈ table.rows, edited.id = source.id := by
  obtain ⟨source, member, same⟩ := Table.mem_modify.mp listed
  refine ⟨source, member, ?_⟩
  rw [same]
  split
  · exact keeps source
  · rfl

theorem updateSource_origin (updated : updateSource state caller id form = .ok after) {edited : MonitoringSource}
    (listed : edited ∈ after.sources.rows) : ∃ source ∈ state.sources.rows, edited.id = source.id := by
  unfold updateSource at updated
  cases found : sourceOr404 state caller id with
  | error reply => rw [found] at updated; cases updated
  | ok source =>
      rw [found] at updated
      simp only [bind, Except.bind] at updated
      split at updated
      · cases updated
      · rw [← Except.ok.inj updated] at listed
        have inner : edited ∈ ((state.sources.modify source.id (editSource form) (editSource_key form)).modify source.id
            (withTokens form) (withTokens_key form)).rows := listed
        obtain ⟨middle, middleListed, sameId⟩ := origin_of_modify (withTokens_key form) inner
        obtain ⟨origin, originListed, originId⟩ := origin_of_modify (editSource_key form) middleListed
        exact ⟨origin, originListed, sameId.trans originId⟩

end Edits

def Backed (env : Env) (site : Site) : Prop :=
  ∀ row ∈ site.table.rows, matchFresh site.now (some row) = true →
    ∀ source ∈ site.sources.sources.rows, source.id = row.sourceId → ∃ report ∈ site.log,
      env.lower report.hostname = row.hostname ∧ connectionOf site.sources.secrets source = some report.connection ∧
        report.result.sourceId = source.id ∧ report.result.error = none ∧
        row = storedMatch env report.returned row.hostname report.result

section Runs

variable {env : Env} {site after : Site} {event : Event}

theorem step_backed (careful : Careful site event) (stepped : step env site event = some after)
    (backed : Backed env site) : Backed env after := by
  cases event with
  | wait span =>
      cases stepped
      intro row listed fresh source sourceListed same
      refine backed row listed ?_ source sourceListed same
      simp only [matchFresh, decide_eq_true_eq] at fresh ⊢
      omega
  | check tid hostname force =>
      cases stepped
      exact backed
  | checkFleet tid hostnames force =>
      cases stepped
      exact backed
  | store index answers =>
      obtain ⟨asked, waiting, rfl⟩ := Option.map_eq_some_iff.mp stepped
      obtain ⟨unchanged, sound⟩ := careful asked waiting
      intro row listed fresh source sourceListed same
      rcases mem_storedTable unchanged listed with before | ⟨entry, stored, rfl⟩
      · obtain ⟨report, reported, backs⟩ := backed row before fresh source sourceListed same
        exact ⟨report, List.mem_append_left _ reported, backs⟩
      · obtain ⟨pair, begun, rfl⟩ := List.mem_map.mp stored
        obtain ⟨clean, connected⟩ := sound pair begun
        have sourceId : (checkHost answers pair.2 pair.1).sourceId = pair.2.1.sourceId := by
          unfold checkHost
          split <;> rfl
        have report := List.mem_append_right site.log (List.mem_map_of_mem (f := fun entry : Check.Pair => ({
          hostname := entry.1
          connection := entry.2.1.connection
          returned := site.now
          result := checkHost answers entry.2 entry.1 } : Report)) begun)
        exact ⟨_, report, rfl, connected source sourceListed (same.trans sourceId), same.symm, clean, rfl⟩
  | update caller id form =>
      unfold step at stepped
      cases updated : updateSource site.sources caller id form with
      | error reply =>
          simp only [updated] at stepped
          cases stepped
          exact backed
      | ok sources =>
          simp only [updated] at stepped
          cases stepped
          intro row listed fresh edited editedListed same
          obtain ⟨source, sourceListed, origin⟩ := updateSource_origin updated editedListed
          rcases careful sources updated source sourceListed edited editedListed origin with kept | stale
          · obtain ⟨report, reported, hostname, connected, reportedId, rest⟩ :=
              backed row listed fresh source sourceListed (origin.symm.trans same)
            exact ⟨report, reported, hostname, kept.trans connected, reportedId.trans origin.symm, rest⟩
          · exact absurd fresh (stale row listed (same.symm.trans origin))

/-- In a run of careful steps, whatever is served from the table is what a check without an error returned less
than a day ago, of the same host against what the source is now. -/
theorem served_valid (reached : (machine env).ReachableUnder Careful site) (answers : Answers) (tid : Option Int)
    (force : Bool) (hostname : String) :
    ∀ source ∈ (listEnabled site.sources.sources tid).rows, ∀ result,
      (site.checkWith env answers tid force).keptResult hostname source = some result →
        Valid env site hostname source result := by
  have backed : Backed env site := by
    refine reached.invariant ?_ fun state label after careful stepped => step_backed careful stepped
    rintro start ⟨empty, -⟩ row listed
    rw [empty] at listed
    cases listed
  intro source listed result kept
  unfold Check.keptResult at kept
  split at kept
  next served =>
    obtain ⟨row, found, rfl⟩ := Option.map_eq_some_iff.mp kept
    have matched := List.find?_some found
    have key : row.key = (env.lower hostname, source.id) := of_decide_eq_true matched
    obtain ⟨named, numbered⟩ := Prod.mk.inj key
    have fresh : matchFresh site.now (some row) = true := by
      unfold Check.served at served
      rw [found] at served
      exact (Bool.and_eq_true_iff.mp served).2
    obtain ⟨report, reported, same, connected, sourceId, clean, stored⟩ :=
      backed row (List.mem_of_find?_eq_some found) fresh source (Table.mem_filter.mp listed).1 numbered.symm
    refine ⟨report, reported, same.trans named, connected, sourceId, clean, ?_, ?_⟩
    · rw [stored] at fresh
      exact of_decide_eq_true fresh
    · rw [← named, ← stored]
      rfl
  · cases kept

end Runs

def freshSite : Site where
  sources := { sources := emptyCache.sources, secrets := ∅ }
  table := emptyCache.table
  now := 0

def reached (events : List Event) : Site := ((machine emptyCache.env).run freshSite events).getD freshSite

def theSource : MonitoringSource where
  id := 1
  tenantId := 1
  name := "dd"
  tool := "datadog"
  url := "datadoghq.com"
  username := none
  tokenSecret := none
  token2Secret := none
  enabled := true

def checkedOnce : List Event := [.check none "web" false, .store 0 fun _ _ => .ok { found := true }]

def foundResult : HostCheckResult where
  sourceId := 1
  sourceName := "dd"
  tool := "datadog"
  found := true

theorem served_valid_checked : Valid emptyCache.env (reached checkedOnce) "WEB" theSource foundResult := by
  have meets : (machine emptyCache.env).Meets Careful freshSite checkedOnce := by
    refine ⟨trivial, fun next stepped => ?_⟩
    cases stepped
    refine ⟨fun asked waiting => ?_, fun _ _ => trivial⟩
    cases waiting
    refine ⟨fun row read => (by cases read), fun entry begun => ?_⟩
    obtain rfl := List.mem_singleton.mp begun
    refine ⟨rfl, fun source listed same => ?_⟩
    obtain rfl := List.mem_singleton.mp listed
    rfl
  exact served_valid ⟨freshSite, checkedOnce, ⟨rfl, rfl⟩, rfl, meets⟩ (fun _ _ => .error "") none false "WEB" theSource
    (List.mem_singleton.mpr rfl) foundResult rfl

def failedOnce : List Event := [.check none "web" false, .store 0 fun _ _ => .error "timed out"]

def movedSource : List Event := checkedOnce ++ [.update ⟨some 1, 1, .tenantAdmin⟩ 1 {
  name := "dd", tool := "datadog", url := "datadoghq.eu", username := "", token := "", token2 := "", enabled := true }]

/-- A failure is served for a day, and so is what another address has answered. -/
theorem stale_results_served :
    (∃ result, ((reached failedOnce).checkWith emptyCache.env (fun _ _ => .error "") none false).keptResult "web" theSource =
      some result ∧ ¬ Valid emptyCache.env (reached failedOnce) "web" theSource result) ∧
    ∃ result, ((reached movedSource).checkWith emptyCache.env (fun _ _ => .error "") none false).keptResult "web"
        { theSource with url := "datadoghq.eu" } = some result ∧
      ¬ Valid emptyCache.env (reached movedSource) "web" { theSource with url := "datadoghq.eu" } result := by
  refine ⟨⟨_, rfl, ?_⟩, ⟨_, rfl, ?_⟩⟩
  · rintro ⟨report, reported, -, -, -, clean, -⟩
    obtain rfl := List.mem_singleton.mp reported
    cases clean
  · rintro ⟨report, reported, -, connected, -⟩
    obtain rfl := List.mem_singleton.mp reported
    revert connected
    decide

end Dosm.Monitoring.CacheValidity
