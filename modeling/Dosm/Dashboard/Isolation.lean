import Mathlib.Data.List.Dedup
import Mathlib.Data.List.Sort
import Dosm.Audit.Log
import Dosm.Base.Sql

namespace Dosm.Dashboard

open Audit Auth Models Python

/-! What the start page hands to its template.

Times are instants in microseconds; rows of one time stand in the order of the table.
-/

structure CertInfo where
  endpoint : String
  notAfter : Int
  status : String
  deriving DecidableEq

/-- Certificates, and when they were fetched. -/
abbrev Fetched := List CertInfo × Int

/-- The tables behind the page and the caches of the certificate routes. -/
structure State where
  hosts : Table Host
  pipelines : Table Pipeline
  runs : Table PipelineRun
  users : Table User
  audit : Table AuditRow
  certCache : List (Option Int × Fetched)
  lastCertCache : Option Fetched

structure Config where
  version : String
  guacamoleEnabled : Bool

structure Activity where
  ts : Int
  ago : String
  actor : Option String
  action : String
  color : String
  target : Option String
  details : Option String
  deriving DecidableEq

structure RecentHost where
  host : Host
  ago : String
  deriving DecidableEq

structure Context where
  user : User
  version : String
  hostCount : Nat
  jumpboxCount : Nat
  pipeline24hTotal : Nat
  pipeline24hFailed : Nat
  certTotal : Option Nat
  certAttention : Option Nat
  recentActivity : List Activity
  recentHosts : List RecentHost
  guacamoleEnabled : Bool
  deriving DecidableEq

def humanizeAgo (ts now : Int) : String :=
  let seconds := (now - ts).tdiv 1000000
  if seconds < 60 then toString (max seconds 0) ++ "s ago"
  else if seconds < 3600 then toString (seconds / 60) ++ "m ago"
  else if seconds < 86400 then toString (seconds / 3600) ++ "h ago"
  else toString (seconds / 86400) ++ "d ago"

def actionColor (action : String) : String :=
  if [".delete", ".fail", ".reject"].any (endsWith action) then "red"
  else if [".create", ".approve", ".execute", ".start"].any (endsWith action) ||
      action ∈ ["auth.login", "host.connect", "pipeline.run"] then "green"
  else if [".update", ".partial", ".refresh"].any (endsWith action) then "amber"
  else "blue"

/-- `order_by(desc(...))`. -/
def newestFirst {Row : Type} (stamp : Row → Int) (rows : List Row) : List Row :=
  rows.insertionSort fun first second => stamp second ≤ stamp first

def needsAttention (cert : CertInfo) : Bool := cert.status ∈ ["expired", "critical", "warn"]

section Parts

variable (state : State) (now : Int)

def recentRuns : List PipelineRun := state.runs.rows.filter fun run => now - day ≤ run.triggeredAt

/-- `peek_cached`: whatever was fetched last, for any tenant. -/
def peekCached : Option Fetched := state.lastCertCache

def activity (entry : AuditRow) : Activity where
  ts := entry.ts
  ago := humanizeAgo entry.ts now
  actor := (entry.actorId.bind state.users.get).map User.username
  action := entry.action
  color := actionColor entry.action
  target := entry.target
  details := entry.details

def recentActivity : List Activity :=
  ((newestFirst AuditRow.ts state.audit.rows).take 12).map (activity state now)

/-- The targets of connections, with the time of each. -/
def opened : List (String × Int) :=
  state.audit.rows.filterMap fun entry =>
    if entry.action = "host.connect" then
      (entry.target.filter fun target => Like.like target "host:%").map fun target => (target, entry.ts)
    else none

def lastOpened (target : String) : Option Int :=
  (((opened state).filter fun entry => entry.1 = target).map Prod.snd).max?

/-- `group_by(target)` with the time of the last row. -/
def recentTargets : List (String × Int) :=
  let groups := ((opened state).map Prod.fst).dedup.filterMap fun target =>
    (lastOpened state target).map fun ts => (target, ts)
  (newestFirst Prod.snd groups).take 6

/-- The number after the colon; a target without one is passed over. -/
def targetId (target : String) : Option Int := parseInt (partition ':' target).2

def recentHosts : List RecentHost :=
  (recentTargets state).filterMap fun (target, ts) =>
    ((targetId target).bind state.hosts.get).map fun host => { host, ago := humanizeAgo ts now }

end Parts

def index (config : Config) (state : State) (user : User) (now : Int) : Context where
  user
  version := config.version
  hostCount := state.hosts.rows.length
  jumpboxCount := (state.hosts.rows.filter Host.isJumpbox).length
  pipeline24hTotal := (recentRuns state now).length
  pipeline24hFailed := ((recentRuns state now).filter fun run => run.status ∈ [.failed, .cancelled]).length
  certTotal := (peekCached state).map fun cached => cached.1.length
  certAttention := (peekCached state).map fun cached => (cached.1.filter needsAttention).length
  recentActivity := recentActivity state now
  recentHosts := recentHosts state now
  guacamoleEnabled := config.guacamoleEnabled

/-- What belongs to a tenant is the same in two states: its rows, and the certificates
that were last fetched for it. A run belongs to the tenant of its pipeline. -/
structure SameFor (tenant : Int) (state other : State) : Prop where
  hosts : state.hosts.rows.filter (·.tenantId = tenant) = other.hosts.rows.filter (·.tenantId = tenant)
  pipelines : state.pipelines.rows.filter (·.tenantId = tenant) =
    other.pipelines.rows.filter (·.tenantId = tenant)
  runs : state.runs.rows.filter (fun run => (state.pipelines.getOwned tenant run.pipelineId).isSome) =
    other.runs.rows.filter fun run => (other.pipelines.getOwned tenant run.pipelineId).isSome
  users : state.users.rows.filter (·.tenantId = some tenant) = other.users.rows.filter (·.tenantId = some tenant)
  audit : state.audit.rows.filter (·.tenantId = some tenant) = other.audit.rows.filter (·.tenantId = some tenant)
  certs : state.certCache.lookup (some tenant) = other.certCache.lookup (some tenant)

/-! The start page shows every tenant's rows.

None of its queries has a tenant filter. To every state there is one that is the same
for a given tenant, with a host, a failed run, a connection and a fetch of another
tenant in it; every number and both lists of the page tell the two apart.
-/

section Newest

variable {Row : Type} {stamp : Row → Int} {rows : List Row} {row : Row} {count : Nat}

theorem mem_newestFirst : row ∈ newestFirst stamp rows ↔ row ∈ rows := List.mem_insertionSort _

theorem newestFirst_head (member : row ∈ rows) (last : ∀ other ∈ rows, stamp row ≤ stamp other → other = row)
    (positive : 0 < count) : row ∈ (newestFirst stamp rows).take count := by
  have sorted : (newestFirst stamp rows).Pairwise fun first second => stamp second ≤ stamp first := by
    have total : Std.Total fun first second : Row => stamp second ≤ stamp first :=
      ⟨fun first second => Int.le_total (stamp second) (stamp first)⟩
    have transitive : IsTrans Row fun first second => stamp second ≤ stamp first :=
      ⟨fun _ _ _ first second => Int.le_trans second first⟩
    exact List.pairwise_insertionSort _ rows
  cases found : newestFirst stamp rows with
  | nil =>
      have present : row ∈ newestFirst stamp rows := mem_newestFirst.mpr member
      rw [found] at present
      cases present
  | cons head rest =>
      have headMember : head ∈ rows := mem_newestFirst.mp (found ▸ List.mem_cons_self)
      have present : row ∈ head :: rest := found ▸ mem_newestFirst.mpr member
      rw [found] at sorted
      have below : stamp row ≤ stamp head := by
        rcases List.mem_cons.mp present with rfl | later
        · exact Int.le_refl _
        · exact (List.pairwise_cons.mp sorted).1 row later
      rw [last head headMember below]
      obtain ⟨size, rfl⟩ := Nat.exists_eq_succ_of_ne_zero positive.ne'
      exact List.mem_cons_self

end Newest

def nextTime (state : State) : Int := (state.audit.rows.map AuditRow.ts).foldr max 0 + 1

theorem lt_nextTime {state : State} {entry : AuditRow} (member : entry ∈ state.audit.rows) :
    entry.ts < nextTime state := by
  have bounded (times : List Int) : ∀ time ∈ times, time ≤ times.foldr max 0 := by
    induction times with
    | nil => exact fun time member => absurd member List.not_mem_nil
    | cons head rest ih =>
        intro time member
        rw [List.foldr_cons]
        rcases List.mem_cons.mp member with rfl | later
        · exact Int.le_max_left _ _
        · exact Int.le_trans (ih time later) (Int.le_max_right _ _)
  have bound := bounded _ _ (List.mem_map_of_mem (f := AuditRow.ts) member)
  unfold nextTime
  omega

section Foreign

variable (state : State) (tenant now : Int)

def stranger : Int := tenant + 1

def foreignHost (id : Int) : Host where
  id
  tenantId := stranger tenant
  name := "elsewhere"
  hostname := "10.9.9.9"
  port := 22
  protocol := .ssh
  description := none
  credentialId := none
  jumpHostId := none
  isJumpbox := true
  ftMethod := none
  ftPort := none
  ftCredentialId := none
  orgUnitId := none

def foreignPipeline (id : Int) : Pipeline where
  id
  tenantId := stranger tenant
  name := "deploy"
  provider := "github"
  description := none
  config := "\x7b\x7d"
  inputsSchema := none
  credentialId := none
  ownerId := none
  visibility := .shared
  orgUnitId := none

def foreignRun (pipelineId id : Int) : PipelineRun where
  id
  pipelineId
  externalId := none
  status := .failed
  inputs := none
  htmlUrl := none
  triggeredByUserId := none
  triggeredAt := now
  startedAt := none
  completedAt := none
  lastPolledAt := none
  error := none

def foreignConnect (hostId ts id : Int) : AuditRow where
  id
  ts
  tenantId := some (stranger tenant)
  actorId := none
  action := "host.connect"
  target := some ("host:" ++ toString hostId)
  details := none

def expired : CertInfo where
  endpoint := "elsewhere:443"
  notAfter := 0
  status := "expired"

def foreignFetch : Fetched :=
  (List.replicate ((state.lastCertCache.elim 0 fun cached => cached.1.length) + 1) expired, now)

def withStranger : State where
  hosts := state.hosts.insert (foreignHost tenant)
  pipelines := state.pipelines.insert (foreignPipeline tenant)
  runs := state.runs.insert (foreignRun now state.pipelines.fresh)
  users := state.users
  audit := state.audit.insert (foreignConnect tenant state.hosts.fresh (nextTime state))
  certCache := (some (stranger tenant), foreignFetch state now) :: state.certCache
  lastCertCache := some (foreignFetch state now)

end Foreign

section Same

variable {state : State} {tenant now : Int}

theorem filter_append_none {Row : Type} {kept : Row → Bool} {rows : List Row} {row : Row} (other : kept row = false) :
    rows.filter kept = (rows ++ [row]).filter kept := by
  simp [List.filter_append, other]

theorem stranger_ne : stranger tenant ≠ tenant := by
  unfold stranger
  omega

theorem sameFor_withStranger : SameFor tenant state (withStranger state tenant now) where
  hosts := filter_append_none (by simp [foreignHost, stranger_ne])
  pipelines := filter_append_none (by simp [foreignPipeline, stranger_ne])
  runs := by
    have same (id : Int) : (withStranger state tenant now).pipelines.getOwned tenant id =
        state.pipelines.getOwned tenant id :=
      @Table.getOwned_insert_other _ _ state.pipelines id tenant (foreignPipeline tenant) (fun _ => rfl) stranger_ne
    have unowned : state.pipelines.getOwned tenant state.pipelines.fresh = none := by
      have absent : state.pipelines.get state.pipelines.fresh = none := Table.get_eq_none_iff.mpr
        fun pipeline member => Int.ne_of_lt (Table.key_lt_fresh member)
      rw [Table.getOwned, absent]
      rfl
    simp only [same]
    exact filter_append_none (by simp [foreignRun, unowned])
  users := rfl
  audit := filter_append_none (by simp [foreignConnect, stranger_ne])
  certs := by
    have different : (some tenant == some (stranger tenant)) = false := by simpa using stranger_ne.symm
    simp [withStranger, List.lookup_cons, different]

end Same

section Differences

variable {config : Config} {user : User} {state : State} {tenant now : Int}

theorem recentRuns_withStranger : recentRuns (withStranger state tenant now) now =
    recentRuns state now ++ [foreignRun now state.pipelines.fresh state.runs.fresh] := by
  have recent : decide (now - day ≤ now) = true := by
    unfold day
    simp only [decide_eq_true_eq]
    omega
  simp only [recentRuns, withStranger, Table.insert, foreignRun, List.filter_append, List.filter_cons, recent,
    if_true, List.filter_nil]

theorem certs_differ : (index config state user now).certTotal ≠
      (index config (withStranger state tenant now) user now).certTotal ∧
    (index config state user now).certAttention ≠
      (index config (withStranger state tenant now) user now).certAttention := by
  have urgent : needsAttention expired = true := by decide
  cases cached : state.lastCertCache with
  | none => simp [index, peekCached, withStranger, cached]
  | some fetched =>
      have most : (fetched.1.filter needsAttention).length ≤ fetched.1.length := List.length_filter_le _ _
      simp only [index, peekCached, withStranger, cached, foreignFetch, Option.map_some, Option.elim_some,
        List.length_replicate, List.filter_replicate, urgent, if_true, ne_eq, Option.some.injEq]
      omega

theorem mem_audit_withStranger {entry : AuditRow} : entry ∈ (withStranger state tenant now).audit.rows ↔
    entry ∈ state.audit.rows ∨
      entry = foreignConnect tenant state.hosts.fresh (nextTime state) state.audit.fresh := by
  simp [withStranger, Table.insert]

theorem foreignConnect_last : ∀ entry ∈ (withStranger state tenant now).audit.rows,
    nextTime state ≤ entry.ts →
      entry = foreignConnect tenant state.hosts.fresh (nextTime state) state.audit.fresh := by
  intro entry member late
  rcases mem_audit_withStranger.mp member with before | rfl
  · have early := lt_nextTime before
    omega
  · rfl

theorem activity_differs : (index config state user now).recentActivity ≠
    (index config (withStranger state tenant now) user now).recentActivity := by
  intro same
  let entry := foreignConnect tenant state.hosts.fresh (nextTime state) state.audit.fresh
  have listed : entry ∈ (withStranger state tenant now).audit.rows := mem_audit_withStranger.mpr (.inr rfl)
  have shown : activity (withStranger state tenant now) now entry ∈
      (index config (withStranger state tenant now) user now).recentActivity :=
    List.mem_map_of_mem (newestFirst_head listed foreignConnect_last (by decide))
  rw [← same] at shown
  obtain ⟨old, oldTaken, oldSame⟩ := List.mem_map.mp shown
  have early := lt_nextTime (mem_newestFirst.mp (List.mem_of_mem_take oldTaken))
  have times : old.ts = nextTime state := congrArg Activity.ts oldSame
  omega

def foreignTarget (state : State) : String := "host:" ++ toString state.hosts.fresh

theorem targetId_foreign : targetId (foreignTarget state) = some state.hosts.fresh := by
  have rest : (partition ':' (foreignTarget state)).2 = toString state.hosts.fresh := by
    simp [partition, foreignTarget]
  rw [targetId, rest, parseInt_toString]

theorem opened_withStranger : opened (withStranger state tenant now) =
    opened state ++ [(foreignTarget state, nextTime state)] := by
  have matched : Like.like ("host:" ++ toString state.hosts.fresh) "host:%" = true :=
    @Like.like_starting "host:" (toString state.hosts.fresh)
  have target : (some ("host:" ++ toString state.hosts.fresh)).filter (fun target => Like.like target "host:%") =
      some (foreignTarget state) := by
    rw [Option.filter_some, if_pos matched]
    rfl
  simp only [opened, withStranger, Table.insert, List.filterMap_append, List.filterMap_cons, List.filterMap_nil,
    foreignConnect, if_true, target, Option.map_some]

theorem opened_early {entry : String × Int} (member : entry ∈ opened state) : entry.2 < nextTime state := by
  obtain ⟨row, listed, shown⟩ := List.mem_filterMap.mp member
  split at shown
  · obtain ⟨target, _, rfl⟩ := Option.map_eq_some_iff.mp shown
    exact lt_nextTime listed
  · cases shown

theorem opened_late {entry : String × Int} (member : entry ∈ opened (withStranger state tenant now))
    (late : nextTime state ≤ entry.2) : entry = (foreignTarget state, nextTime state) := by
  rw [opened_withStranger] at member
  rcases List.mem_append.mp member with before | new
  · have early := opened_early before
    omega
  · exact List.mem_singleton.mp new

theorem lastOpened_some {target : String} {time : Int} (found : lastOpened state target = some time) :
    (target, time) ∈ opened state := by
  unfold lastOpened at found
  obtain ⟨entry, listed, rfl⟩ := List.mem_map.mp (List.max?_eq_some_iff.mp found).1
  obtain ⟨present, same⟩ := List.mem_filter.mp listed
  rw [decide_eq_true_eq] at same
  exact same ▸ present

theorem lastOpened_withStranger :
    lastOpened (withStranger state tenant now) (foreignTarget state) = some (nextTime state) := by
  unfold lastOpened
  rw [List.max?_eq_some_iff, opened_withStranger]
  constructor
  · refine List.mem_map.mpr ⟨(foreignTarget state, nextTime state), ?_, rfl⟩
    simp
  · intro time member
    obtain ⟨entry, listed, rfl⟩ := List.mem_map.mp member
    rcases List.mem_append.mp (List.mem_filter.mp listed).1 with before | new
    · exact Int.le_of_lt (opened_early before)
    · rw [List.mem_singleton.mp new]

theorem foreignTarget_recent :
    (foreignTarget state, nextTime state) ∈ recentTargets (withStranger state tenant now) := by
  unfold recentTargets
  refine newestFirst_head ?_ ?_ (by decide)
  · refine List.mem_filterMap.mpr ⟨foreignTarget state, ?_, by rw [lastOpened_withStranger]; rfl⟩
    rw [List.mem_dedup, opened_withStranger]
    simp
  · intro group member late
    obtain ⟨target, _, grouped⟩ := List.mem_filterMap.mp member
    obtain ⟨time, found, rfl⟩ := Option.map_eq_some_iff.mp grouped
    exact opened_late (lastOpened_some found) late

theorem hosts_differ : (index config state user now).recentHosts ≠
    (index config (withStranger state tenant now) user now).recentHosts := by
  intro same
  have found : (withStranger state tenant now).hosts.get state.hosts.fresh =
      some (foreignHost tenant state.hosts.fresh) := by
    rw [Table.get_eq_some_iff]
    exact ⟨by simp [withStranger, Table.insert], rfl⟩
  have shown : RecentHost.mk (foreignHost tenant state.hosts.fresh) (humanizeAgo (nextTime state) now) ∈
      (index config (withStranger state tenant now) user now).recentHosts := by
    refine List.mem_filterMap.mpr ⟨_, foreignTarget_recent, ?_⟩
    simp [targetId_foreign, found]
  rw [← same] at shown
  obtain ⟨_, _, old⟩ := List.mem_filterMap.mp shown
  obtain ⟨host, hostFound, hostSame⟩ := Option.map_eq_some_iff.mp old
  obtain ⟨id, _, present⟩ := Option.bind_eq_some_iff.mp hostFound
  have older := Table.key_lt_fresh (Table.get_eq_some_iff.mp present).1
  have sameHost : host = foreignHost tenant state.hosts.fresh := congrArg RecentHost.host hostSame
  rw [sameHost] at older
  exact absurd older (Int.lt_irrefl _)

end Differences

/-- Whatever the state and the tenant: there is another state with the same rows and
certificates of the tenant in which no number and no list of the page is the same. -/
theorem index_shows_other_tenants (config : Config) (state : State) (user : User) (tenant now : Int) :
    ∃ other, SameFor tenant state other ∧
      (index config state user now).hostCount ≠ (index config other user now).hostCount ∧
      (index config state user now).jumpboxCount ≠ (index config other user now).jumpboxCount ∧
      (index config state user now).pipeline24hTotal ≠ (index config other user now).pipeline24hTotal ∧
      (index config state user now).pipeline24hFailed ≠ (index config other user now).pipeline24hFailed ∧
      (index config state user now).certTotal ≠ (index config other user now).certTotal ∧
      (index config state user now).certAttention ≠ (index config other user now).certAttention ∧
      (index config state user now).recentActivity ≠ (index config other user now).recentActivity ∧
      (index config state user now).recentHosts ≠ (index config other user now).recentHosts := by
  refine ⟨withStranger state tenant now, sameFor_withStranger, ?_, ?_, ?_, ?_, certs_differ.1, certs_differ.2,
    activity_differs, hosts_differ⟩
  · simp [index, withStranger, Table.insert]
  · simp [index, withStranger, Table.insert, foreignHost]
  · simp [index, recentRuns_withStranger]
  · simp [index, recentRuns_withStranger, foreignRun]

private def ann (id : Int) : User where
  id
  username := "ann"
  role := .viewer
  tenantId := some 1
  roleLocked := false
  isActive := true
  oktaSub := none
  email := none
  displayName := none

private def annState (hosts : Table Host) : State where
  hosts
  pipelines := .empty
  runs := .empty
  users := Table.insert .empty ann
  audit := .empty
  certCache := []
  lastCertCache := none

/-- A host of the second tenant is counted for a viewer of the first. -/
theorem foreign_host_counted :
    SameFor 1 (annState .empty) (annState (Table.insert .empty (foreignHost 1))) ∧
    (index ⟨"1", false⟩ (annState .empty) (ann 1) 0).hostCount = 0 ∧
    (index ⟨"1", false⟩ (annState (Table.insert .empty (foreignHost 1))) (ann 1) 0).hostCount = 1 :=
  ⟨⟨by decide, rfl, rfl, rfl, rfl, rfl⟩, rfl, rfl⟩

end Dosm.Dashboard
