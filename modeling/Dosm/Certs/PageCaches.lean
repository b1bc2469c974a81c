import Mathlib.Data.List.Sort
import Mathlib.Logic.Function.Basic
import Dosm.Base.Transition
import Dosm.Certs.Sources
import Dosm.Monitoring.Sources

namespace Dosm.Certs.PageCaches

open Models Web Checks Transition Monitoring

/-! The certificates page and its caches, over runs of pages and changes.

A page waits for each source it asks, and anything may happen while it waits. What it has
gathered goes to the cache of its tenant when the last source has answered, under the time at
which the page began.
-/

structure CertInfo where
  endpoint : String
  notAfter : Int
  status : String
  deriving DecidableEq

/-- A certificate with the source that was asked for it and the moment of the answer, which no handler reads. -/
structure Fetched where
  source : Int
  moment : Nat
  info : CertInfo
  deriving DecidableEq

abbrev Cache := Option Int → Option (List Fetched × Int)

/-- Where a page waits: the sources it has still to ask, and what the others have answered. -/
inductive Phase where
  | monitoring (remaining : List MonitoringSource) (gathered : List Fetched)
  | vault (certs : List Fetched) (error : Option String) (remaining : List CertSource) (gathered : List Fetched)

structure Page where
  tid : Option Int
  now : Int
  started : Nat

structure Shown where
  page : Page
  certs : List Fetched
  error : Option String
  vaultCerts : List Fetched
  vaultSourceCount : Nat
  counts : String → Nat

structure Site where
  monitoring : Table MonitoringSource
  sources : Table CertSource
  certCache : Cache
  vaultCache : Cache
  lastCertCache : Option (List Fetched × Int)
  now : Int
  inFlight : List (Page × Phase)
  log : List Shown
  moment : Nat
  history : List (Nat × Table CertSource)
  refreshed : List Nat

inductive Event where
  | wait (span : Nat)
  | page (tid : Option Int)
  | answer (index : Nat) (certs : Option (List CertInfo))
  | broken (index : Nat) (error : String)
  | dropped (index : Nat)
  | refresh
  | create (caller : Caller) (form : CertForm)
  | toggle (caller : Caller) (id : Int)
  | delete (caller : Caller) (id : Int)

def cacheTtl : Int := 300

/-- What a cache still has to offer to a page. -/
def cached (cache : Cache) (page : Page) : Option (List Fetched) :=
  match cache page.tid with
  | none => none
  | some (certs, kept) => if page.now - kept ≥ cacheTtl then none else some certs

def statusOrder (status : String) : Nat :=
  if status = "expired" then 0 else if status = "critical" then 1 else if status = "warn" then 2
  else if status = "ok" then 3 else 9

def sortCerts (certs : List Fetched) : List Fetched :=
  certs.insertionSort fun first second =>
    statusOrder first.info.status < statusOrder second.info.status ∨
      statusOrder first.info.status = statusOrder second.info.status ∧ first.info.notAfter ≤ second.info.notAfter

/-- `tenant_clause`. -/
def inScope (tid : Option Int) (tenant : Int) : Bool :=
  match tid with
  | none => true
  | some active => tenant = active

namespace Site

def monitoringSources (site : Site) (tid : Option Int) : List MonitoringSource :=
  site.monitoring.rows.filter fun source => source.enabled && inScope tid source.tenantId

def certSources (site : Site) (tid : Option Int) : List CertSource :=
  site.sources.rows.filter fun source => source.enabled && inScope tid source.tenantId

def park (site : Site) (page : Page) (phase : Phase) : Site :=
  { site with inFlight := site.inFlight ++ [(page, phase)] }

def render (site : Site) (page : Page) (certs : List Fetched) (error : Option String) (vaultCerts : List Fetched) : Site :=
  { site with log := site.log ++ [{
      page, certs, error, vaultCerts
      vaultSourceCount := (site.certSources page.tid).length
      counts := fun status => certs.countP fun cert => cert.info.status = status }] }

def storeVault (site : Site) (page : Page) (vaultCerts : List Fetched) : Site :=
  { site with vaultCache := Function.update site.vaultCache page.tid (some (vaultCerts, page.now)) }

def storeCerts (site : Site) (page : Page) (certs : List Fetched) : Site :=
  { site with
    certCache := Function.update site.certCache page.tid (some (certs, page.now))
    lastCertCache := some (certs, page.now) }

def keepVault (site : Site) (page : Page) (certs : List Fetched) (error : Option String) (gathered : List Fetched) : Site :=
  (site.storeVault page (sortCerts gathered)).render page certs error (sortCerts gathered)

def enterVault (site : Site) (page : Page) (certs : List Fetched) (error : Option String) : Site :=
  match cached site.vaultCache page with
  | some vaultCerts => site.render page certs error vaultCerts
  | none =>
      match site.certSources page.tid with
      | [] => site.keepVault page certs error []
      | sources => site.park page (.vault certs error sources [])

def keepCerts (site : Site) (page : Page) (gathered : List Fetched) : Site :=
  (site.storeCerts page (sortCerts gathered)).enterVault page (sortCerts gathered) none

def certsPage (site : Site) (tid : Option Int) : Site :=
  let page : Page := { tid, now := site.now, started := site.moment }
  match cached site.certCache page with
  | some certs => site.enterVault page certs none
  | none =>
      match site.monitoringSources tid with
      | [] => site.enterVault page []
          (some "No monitoring sources enabled. Configure sources under Monitoring to Sources.")
      | sources => site.park page (.monitoring sources [])

def tag (site : Site) (source : Int) (certs : Option (List CertInfo)) : List Fetched :=
  (certs.getD []).map fun info => ⟨source, site.moment, info⟩

/-- The source that was asked answers, or fails. -/
def resume (site : Site) (page : Page) (certs : Option (List CertInfo)) : Phase → Option Site
  | .monitoring (source :: rest) gathered =>
      let gathered := gathered ++ site.tag source.id certs
      match rest with
      | [] => some (site.keepCerts page gathered)
      | _ => some (site.park page (.monitoring rest gathered))
  | .vault shown error (source :: rest) gathered =>
      let gathered := gathered ++ site.tag source.id certs
      match rest with
      | [] => some (site.keepVault page shown error gathered)
      | _ => some (site.park page (.vault shown error rest gathered))
  | _ => none

def fail (site : Site) (page : Page) (error : String) : Phase → Option Site
  | .monitoring .. => some (site.enterVault page [] (some error))
  | .vault .. => none

def certsRefresh (site : Site) : Site :=
  { site with
    certCache := fun _ => none
    vaultCache := fun _ => none
    lastCertCache := none
    refreshed := site.refreshed ++ [site.moment] }

/-- The sources have changed, and the key of one tenant is popped. -/
def changed (site : Site) (sources : Table CertSource) (tid : Option Int) : Site :=
  { site with sources, vaultCache := Function.update site.vaultCache tid none }

def act (db : Database) (site : Site) : Event → Option Site
  | .wait span => some { site with now := site.now + span }
  | .page tid => some (site.certsPage tid)
  | .answer index certs => site.inFlight[index]?.bind fun (page, phase) =>
      { site with inFlight := site.inFlight.eraseIdx index }.resume page certs phase
  | .broken index error => site.inFlight[index]?.bind fun (page, phase) =>
      { site with inFlight := site.inFlight.eraseIdx index }.fail page error phase
  | .dropped index => some { site with inFlight := site.inFlight.eraseIdx index }
  | .refresh => some site.certsRefresh
  | .create caller form =>
      match certSourceCreate db site.sources caller form with
      | .ok sources => some (site.changed sources caller.tid)
      | .error _ => some site
  | .toggle caller id =>
      match certSourceOr404 site.sources caller id, certSourceToggle site.sources caller id with
      | .ok source, .ok sources => some (site.changed sources (some source.tenantId))
      | _, _ => some site
  | .delete caller id =>
      match certSourceOr404 site.sources caller id, certSourceDelete site.sources caller id with
      | .ok source, .ok sources => some (site.changed sources (some source.tenantId))
      | _, _ => some site

def tick (site : Site) : Site :=
  { site with moment := site.moment + 1, history := site.history ++ [(site.moment + 1, site.sources)] }

end Site

def machine (db : Database) : Machine Site Event where
  initial site := site.certCache = (fun _ => none) ∧ site.vaultCache = (fun _ => none) ∧ site.inFlight = [] ∧ site.log = [] ∧
    site.refreshed = []
  step site event := site.tick.act db event

def Offered (sources : Table CertSource) (tid : Option Int) (id : Int) : Prop :=
  ∃ source ∈ sources.rows, source.id = id ∧ source.enabled = true ∧ inScope tid source.tenantId = true

def OfferedMonitoring (site : Site) (id : Int) : Prop := ∃ source ∈ site.monitoring.rows, source.id = id ∧ source.enabled = true

/-- The source was enabled at the moment or later. -/
def EnabledSince (site : Site) (started : Nat) (id : Int) : Prop :=
  ∃ past ∈ site.history, started ≤ past.1 ∧ ∃ source ∈ past.2.rows, source.id = id ∧ source.enabled = true

/-- No refresh before the moment came after the answer. -/
def FetchedSince (site : Site) (started : Nat) (cert : Fetched) : Prop :=
  ∀ refresh ∈ site.refreshed, refresh < started → refresh < cert.moment

/-- What the page of a site shows: certificates of sources that are enabled when it starts or later, none of them
fetched before a refresh that had already returned. -/
def Valid (site : Site) (shown : Shown) : Prop :=
  (∀ cert ∈ shown.certs, OfferedMonitoring site cert.source ∧ FetchedSince site shown.page.started cert) ∧
    ∀ cert ∈ shown.vaultCerts, EnabledSince site shown.page.started cert.source ∧
      FetchedSince site shown.page.started cert

instance {site : Site} {shown : Shown} : Decidable (Valid site shown) :=
  inferInstanceAs (Decidable ((∀ cert ∈ shown.certs, (∃ source ∈ site.monitoring.rows, source.id = cert.source ∧
      source.enabled = true) ∧ ∀ refresh ∈ site.refreshed, refresh < shown.page.started → refresh < cert.moment) ∧
    ∀ cert ∈ shown.vaultCerts, (∃ past ∈ site.history, shown.page.started ≤ past.1 ∧
      ∃ source ∈ past.2.rows, source.id = cert.source ∧ source.enabled = true) ∧
        ∀ refresh ∈ site.refreshed, refresh < shown.page.started → refresh < cert.moment))

def Phase.gathered : Phase → List Fetched
  | .monitoring _ gathered => gathered
  | .vault _ _ _ gathered => gathered

/-- The page waits for the source, or has something of it to keep. -/
def Phase.Concerns (id : Int) : Phase → Prop
  | .monitoring .. => False
  | .vault _ _ remaining gathered => (∃ source ∈ remaining, source.id = id) ∨ ∃ cert ∈ gathered, cert.source = id

/-- No waiting page and no view of all tenants has anything of the source. -/
def Unconcerned (site : Site) (id : Int) : Prop :=
  (∀ waiting ∈ site.inFlight, ¬ waiting.2.Concerns id) ∧
    ∀ certs kept, site.vaultCache none = some (certs, kept) → ∀ cert ∈ certs, cert.source ≠ id

/-- A refresh comes while no waiting page has gathered anything, and a source is changed while nobody but its own
tenant's cache has anything of it. -/
def Careful (site : Site) : Event → Prop
  | .refresh => ∀ waiting ∈ site.inFlight, waiting.2.gathered = []
  | .toggle caller id => ∀ sources, certSourceToggle site.sources caller id = .ok sources → Unconcerned site id
  | .delete caller id => ∀ sources, certSourceDelete site.sources caller id = .ok sources → Unconcerned site id
  | _ => True

def Holds (cache : Cache) (valid : Option Int → Fetched → Prop) : Prop :=
  ∀ tid certs kept, cache tid = some (certs, kept) → ∀ cert ∈ certs, valid tid cert

def Current (site : Site) (tid : Option Int) (cert : Fetched) : Prop :=
  Offered site.sources tid cert.source ∧ ∀ refresh ∈ site.refreshed, refresh < cert.moment

def CurrentMonitoring (site : Site) (cert : Fetched) : Prop :=
  OfferedMonitoring site cert.source ∧ ∀ refresh ∈ site.refreshed, refresh < cert.moment

def PhaseKept (site : Site) (page : Page) : Phase → Prop
  | .monitoring remaining gathered =>
      (∀ source ∈ remaining, OfferedMonitoring site source.id) ∧ ∀ cert ∈ gathered, CurrentMonitoring site cert
  | .vault certs _ remaining gathered =>
      (∀ cert ∈ certs, OfferedMonitoring site cert.source ∧ FetchedSince site page.started cert) ∧
        (∀ source ∈ remaining, Offered site.sources page.tid source.id) ∧ ∀ cert ∈ gathered, Current site page.tid cert

structure Kept (site : Site) : Prop where
  refreshes : ∀ refresh ∈ site.refreshed, refresh ≤ site.moment
  certs : Holds site.certCache fun _ => CurrentMonitoring site
  vault : Holds site.vaultCache (Current site)
  waiting : ∀ waiting ∈ site.inFlight, waiting.1.started ≤ site.moment ∧ PhaseKept site waiting.1 waiting.2
  shown : ∀ shown ∈ site.log, shown.page.started ≤ site.moment ∧ Valid site shown

structure Begun (site : Site) : Prop where
  recorded : (site.moment, site.sources) ∈ site.history
  refreshes : ∀ refresh ∈ site.refreshed, refresh < site.moment

section Caches

variable {cache : Cache} {valid : Option Int → Fetched → Prop} {tid : Option Int} {certs : List Fetched} {kept : Int}

theorem Holds.update (holds : Holds cache valid) (new : ∀ cert ∈ certs, valid tid cert) :
    Holds (Function.update cache tid (some (certs, kept))) valid := by
  intro other held time stored
  by_cases same : other = tid
  · subst same
    rw [Function.update_self] at stored
    cases stored
    exact new
  · rw [Function.update_of_ne same] at stored
    exact holds other held time stored

theorem Holds.pop {after : Option Int → Fetched → Prop} (holds : Holds cache valid)
    (still : ∀ other held time, other ≠ tid → cache other = some (held, time) → ∀ cert ∈ held, valid other cert → after other cert) :
    Holds (Function.update cache tid none) after := by
  intro other held time stored cert listed
  by_cases same : other = tid
  · subst same
    rw [Function.update_self] at stored
    cases stored
  · rw [Function.update_of_ne same] at stored
    exact still other held time same stored cert listed (holds other held time stored cert listed)

theorem cached_some {page : Page} (found : cached cache page = some certs) : ∃ kept, cache page.tid = some (certs, kept) := by
  unfold cached at found
  split at found
  · cases found
  next held kept stored =>
    split at found
    · cases found
    · cases found
      exact ⟨kept, stored⟩

end Caches

section Steps

variable {site : Site} {page : Page} {phase : Phase} {certs vaultCerts gathered : List Fetched} {error : Option String}
variable {tid : Option Int} {cert : Fetched} {shown : Shown}

theorem mem_sortCerts : cert ∈ sortCerts certs ↔ cert ∈ certs :=
  (List.perm_insertionSort _ _).mem_iff

theorem park_kept (kept : Kept site) (started : page.started ≤ site.moment) (phaseKept : PhaseKept site page phase) :
    Kept (site.park page phase) where
  refreshes := kept.refreshes
  certs := kept.certs
  vault := kept.vault
  waiting := by
    intro waiting listed
    rcases List.mem_append.mp listed with before | new
    · exact kept.waiting waiting before
    · obtain rfl := List.mem_singleton.mp new
      exact ⟨started, phaseKept⟩
  shown := kept.shown

theorem render_kept (kept : Kept site) (begun : Begun site) (started : page.started ≤ site.moment)
    (certsValid : ∀ cert ∈ certs, OfferedMonitoring site cert.source ∧ FetchedSince site page.started cert)
    (vaultValid : ∀ cert ∈ vaultCerts, Current site page.tid cert) : Kept (site.render page certs error vaultCerts) where
  refreshes := kept.refreshes
  certs := kept.certs
  vault := kept.vault
  waiting := kept.waiting
  shown := by
    intro shown listed
    rcases List.mem_append.mp listed with before | new
    · exact kept.shown shown before
    · obtain rfl := List.mem_singleton.mp new
      refine ⟨started, certsValid, fun cert listed => ?_⟩
      obtain ⟨⟨source, offered, same, enabled, -⟩, later⟩ := vaultValid cert listed
      exact ⟨⟨_, begun.recorded, started, source, offered, same, enabled⟩, fun refresh returned _ => later refresh returned⟩

theorem storeVault_kept (kept : Kept site) (vaultValid : ∀ cert ∈ vaultCerts, Current site page.tid cert) :
    Kept (site.storeVault page vaultCerts) where
  refreshes := kept.refreshes
  certs := kept.certs
  vault := kept.vault.update vaultValid
  waiting := kept.waiting
  shown := kept.shown

theorem storeCerts_kept (kept : Kept site) (certsValid : ∀ cert ∈ certs, CurrentMonitoring site cert) :
    Kept (site.storeCerts page certs) where
  refreshes := kept.refreshes
  certs := kept.certs.update certsValid
  vault := kept.vault
  waiting := kept.waiting
  shown := kept.shown

theorem keepVault_kept (kept : Kept site) (begun : Begun site) (started : page.started ≤ site.moment)
    (certsValid : ∀ cert ∈ certs, OfferedMonitoring site cert.source ∧ FetchedSince site page.started cert)
    (gatheredValid : ∀ cert ∈ gathered, Current site page.tid cert) :
    Kept (site.keepVault page certs error gathered) := by
  have sorted : ∀ cert ∈ sortCerts gathered, Current site page.tid cert :=
    fun cert listed => gatheredValid cert (mem_sortCerts.mp listed)
  exact render_kept (storeVault_kept kept sorted) ⟨begun.recorded, begun.refreshes⟩ started certsValid sorted

theorem enterVault_kept (kept : Kept site) (begun : Begun site) (started : page.started ≤ site.moment)
    (certsValid : ∀ cert ∈ certs, OfferedMonitoring site cert.source ∧ FetchedSince site page.started cert) :
    Kept (site.enterVault page certs error) := by
  unfold Site.enterVault
  split
  next vaultCerts found =>
    obtain ⟨time, stored⟩ := cached_some found
    exact render_kept kept begun started certsValid (kept.vault _ _ _ stored)
  · split
    · exact keepVault_kept kept begun started certsValid nofun
    next sources _ =>
      refine park_kept kept started ⟨certsValid, ?_, nofun⟩
      intro source listed
      obtain ⟨member, selected⟩ := List.mem_filter.mp listed
      obtain ⟨enabled, scope⟩ := Bool.and_eq_true_iff.mp selected
      exact ⟨source, member, rfl, enabled, scope⟩

theorem CurrentMonitoring.since {started : Nat} (current : CurrentMonitoring site cert) :
    OfferedMonitoring site cert.source ∧ FetchedSince site started cert :=
  ⟨current.1, fun refresh returned _ => current.2 refresh returned⟩

theorem keepCerts_kept (kept : Kept site) (begun : Begun site) (started : page.started ≤ site.moment)
    (gatheredValid : ∀ cert ∈ gathered, CurrentMonitoring site cert) : Kept (site.keepCerts page gathered) := by
  have sorted : ∀ cert ∈ sortCerts gathered, CurrentMonitoring site cert :=
    fun cert listed => gatheredValid cert (mem_sortCerts.mp listed)
  exact enterVault_kept (storeCerts_kept kept sorted) ⟨begun.recorded, begun.refreshes⟩ started
    fun cert listed => (sorted cert listed).since

theorem certsPage_kept (kept : Kept site) (begun : Begun site) : Kept (site.certsPage tid) := by
  unfold Site.certsPage
  dsimp only
  split
  next certs found =>
    obtain ⟨time, stored⟩ := cached_some found
    exact enterVault_kept kept begun le_rfl fun cert listed => (kept.certs _ _ _ stored cert listed).since
  · split
    · exact enterVault_kept kept begun le_rfl nofun
    next sources _ =>
      refine park_kept kept le_rfl ⟨?_, nofun⟩
      intro source listed
      obtain ⟨member, selected⟩ := List.mem_filter.mp listed
      exact ⟨source, member, rfl, (Bool.and_eq_true_iff.mp selected).1⟩

theorem tag_moment {source : Int} {answers : Option (List CertInfo)} (tagged : cert ∈ site.tag source answers) :
    cert.source = source ∧ cert.moment = site.moment := by
  obtain ⟨info, -, rfl⟩ := List.mem_map.mp tagged
  exact ⟨rfl, rfl⟩

theorem resume_kept {answers : Option (List CertInfo)} {after : Site} (kept : Kept site) (begun : Begun site)
    (started : page.started ≤ site.moment) (phaseKept : PhaseKept site page phase)
    (resumed : site.resume page answers phase = some after) : Kept after := by
  cases phase with
  | monitoring remaining gathered =>
      cases remaining with
      | nil => cases resumed
      | cons source rest =>
          obtain ⟨offered, current⟩ := phaseKept
          have more : ∀ cert ∈ gathered ++ site.tag source.id answers, CurrentMonitoring site cert := by
            intro cert listed
            rcases List.mem_append.mp listed with before | new
            · exact current cert before
            · obtain ⟨same, moment⟩ := tag_moment new
              refine ⟨same ▸ offered source List.mem_cons_self, fun refresh returned => ?_⟩
              rw [moment]
              exact begun.refreshes refresh returned
          cases rest with
          | nil =>
              cases resumed
              exact keepCerts_kept kept begun started more
          | cons next others =>
              cases resumed
              exact park_kept kept started ⟨fun asked listed => offered asked (List.mem_cons_of_mem _ listed), more⟩
  | vault certs error remaining gathered =>
      cases remaining with
      | nil => cases resumed
      | cons source rest =>
          obtain ⟨certsValid, offered, current⟩ := phaseKept
          have more : ∀ cert ∈ gathered ++ site.tag source.id answers, Current site page.tid cert := by
            intro cert listed
            rcases List.mem_append.mp listed with before | new
            · exact current cert before
            · obtain ⟨same, moment⟩ := tag_moment new
              refine ⟨same ▸ offered source List.mem_cons_self, fun refresh returned => ?_⟩
              rw [moment]
              exact begun.refreshes refresh returned
          cases rest with
          | nil =>
              cases resumed
              exact keepVault_kept kept begun started certsValid more
          | cons next others =>
              cases resumed
              exact park_kept kept started
                ⟨certsValid, fun asked listed => offered asked (List.mem_cons_of_mem _ listed), more⟩

theorem fail_kept {reason : String} {after : Site} (kept : Kept site) (begun : Begun site)
    (started : page.started ≤ site.moment) (failed : site.fail page reason phase = some after) : Kept after := by
  cases phase with
  | monitoring remaining gathered =>
      cases failed
      exact enterVault_kept kept begun started nofun
  | vault certs error remaining gathered => cases failed

theorem erase_kept {index : Nat} (kept : Kept site) : Kept { site with inFlight := site.inFlight.eraseIdx index } where
  refreshes := kept.refreshes
  certs := kept.certs
  vault := kept.vault
  waiting := fun waiting listed => kept.waiting waiting (List.mem_of_mem_eraseIdx listed)
  shown := kept.shown

theorem EnabledSince.tick {started : Nat} {id : Int} (enabled : EnabledSince site started id) :
    EnabledSince site.tick started id := by
  obtain ⟨past, recorded, later, source⟩ := enabled
  exact ⟨past, List.mem_append_left _ recorded, later, source⟩

theorem tick_kept (kept : Kept site) : Kept site.tick where
  refreshes := fun refresh returned => (kept.refreshes refresh returned).trans (Nat.le_succ _)
  certs := kept.certs
  vault := kept.vault
  waiting := by
    intro waiting listed
    obtain ⟨started, phaseKept⟩ := kept.waiting waiting listed
    exact ⟨started.trans (Nat.le_succ _), phaseKept⟩
  shown := by
    intro shown listed
    obtain ⟨started, certsValid, vaultValid⟩ := kept.shown shown listed
    exact ⟨started.trans (Nat.le_succ _), certsValid,
      fun cert member => ⟨(vaultValid cert member).1.tick, (vaultValid cert member).2⟩⟩

theorem tick_begun (kept : Kept site) : Begun site.tick where
  recorded := List.mem_append_right _ List.mem_cons_self
  refreshes := fun refresh returned => Nat.lt_succ_of_le (kept.refreshes refresh returned)

theorem certsRefresh_kept (kept : Kept site) (empty : ∀ waiting ∈ site.inFlight, waiting.2.gathered = []) :
    Kept site.certsRefresh := by
  have since : ∀ {started : Nat} {cert : Fetched}, started ≤ site.moment → FetchedSince site started cert →
      FetchedSince site.certsRefresh started cert := by
    intro started cert before fetched refresh returned earlier
    rcases List.mem_append.mp returned with old | new
    · exact fetched refresh old earlier
    · obtain rfl := List.mem_singleton.mp new
      omega
  constructor
  · intro refresh returned
    rcases List.mem_append.mp returned with old | new
    · exact kept.refreshes refresh old
    · exact (List.mem_singleton.mp new).le
  · nofun
  · nofun
  · rintro ⟨page, phase⟩ listed
    obtain ⟨started, phaseKept⟩ := kept.waiting _ listed
    have none := empty _ listed
    refine ⟨started, ?_⟩
    cases phase with
    | monitoring remaining gathered =>
        cases none
        exact ⟨phaseKept.1, nofun⟩
    | vault certs error remaining gathered =>
        cases none
        exact ⟨fun cert member => ⟨(phaseKept.1 cert member).1, since started (phaseKept.1 cert member).2⟩,
          phaseKept.2.1, nofun⟩
  · intro shown listed
    obtain ⟨started, certsValid, vaultValid⟩ := kept.shown shown listed
    exact ⟨started, fun cert member => ⟨(certsValid cert member).1, since started (certsValid cert member).2⟩,
      fun cert member => ⟨(vaultValid cert member).1, since started (vaultValid cert member).2⟩⟩

theorem changed_kept {sources : Table CertSource} {popped : Option Int} (kept : Kept site)
    (waits : ∀ waiting ∈ site.inFlight, ∀ id, waiting.2.Concerns id → Offered site.sources waiting.1.tid id →
      Offered sources waiting.1.tid id)
    (holds : ∀ tid held time, tid ≠ popped → site.vaultCache tid = some (held, time) → ∀ cert ∈ held,
      Offered site.sources tid cert.source → Offered sources tid cert.source) :
    Kept (site.changed sources popped) where
  refreshes := kept.refreshes
  certs := kept.certs
  vault := kept.vault.pop fun tid held time other stored cert listed current =>
    ⟨holds tid held time other stored cert listed current.1, current.2⟩
  waiting := by
    rintro ⟨page, phase⟩ listed
    obtain ⟨started, phaseKept⟩ := kept.waiting _ listed
    refine ⟨started, ?_⟩
    cases phase with
    | monitoring remaining gathered => exact phaseKept
    | vault certs error remaining gathered =>
        obtain ⟨certsValid, offered, current⟩ := phaseKept
        refine ⟨certsValid, fun source asked => ?_, fun cert member => ?_⟩
        · exact waits _ listed source.id (.inl ⟨source, asked, rfl⟩) (offered source asked)
        · exact ⟨waits _ listed cert.source (.inr ⟨cert, member, rfl⟩) (current cert member).1, (current cert member).2⟩
  shown := kept.shown

theorem Offered.mono {sources after : Table CertSource} {id : Int} (offered : Offered sources tid id)
    (stays : ∀ source ∈ sources.rows, source.id = id → source ∈ after.rows) : Offered after tid id := by
  obtain ⟨source, member, same, enabled, scope⟩ := offered
  exact ⟨source, stays source member same, same, enabled, scope⟩

theorem sourceChanged_kept {sources : Table CertSource} {source : CertSource} (kept : Kept site)
    (member : source ∈ site.sources.rows) (unconcerned : Unconcerned site source.id)
    (stay : ∀ other ∈ site.sources.rows, other.id ≠ source.id → other ∈ sources.rows) :
    Kept (site.changed sources (some source.tenantId)) := by
  apply changed_kept kept
  · intro waiting listed id concerns offered
    refine offered.mono fun other otherMember same => stay other otherMember fun changed => ?_
    have own : id = source.id := same.symm.trans changed
    exact unconcerned.1 waiting listed (own ▸ concerns)
  · intro tid held time apart stored cert listed offered
    refine offered.mono fun other otherMember same => stay other otherMember fun changed => ?_
    have own : cert.source = source.id := same.symm.trans changed
    cases tid with
    | none => exact unconcerned.2 held time stored cert listed own
    | some tenant =>
        -- the view of one tenant has sources of that tenant only, and its key was popped
        obtain ⟨row, rowMember, rowId, -, scope⟩ := offered
        obtain rfl : row = source := Table.eq_of_key rowMember member (rowId.trans own)
        have tenants : row.tenantId = tenant := of_decide_eq_true scope
        exact apart (congrArg some tenants.symm)

end Steps

section Handlers

variable {db : Database} {sources after : Table CertSource} {caller : Caller} {form : CertForm} {id : Int} {source : CertSource}

theorem certSourceCreate_keeps (created : certSourceCreate db sources caller form = .ok after) :
    ∀ row ∈ sources.rows, row ∈ after.rows := by
  obtain ⟨_, -, created⟩ := bind_ok created
  obtain ⟨tenant, -, created⟩ := bind_ok created
  obtain ⟨-, created⟩ := guard_ok created
  obtain ⟨credentialId, -, created⟩ := bind_ok created
  obtain ⟨-, created⟩ := guard_ok created
  cases created
  exact fun row member => Table.mem_insert.mpr (.inl member)

theorem certSourceOr404_ok (found : certSourceOr404 sources caller id = .ok source) :
    source ∈ sources.rows ∧ source.id = id := by
  obtain ⟨_, -, found⟩ := bind_ok found
  split at found
  · cases found
  next row inView =>
    cases found
    exact getScoped_some inView

theorem certSourceToggle_keeps (toggled : certSourceToggle sources caller id = .ok after) :
    ∀ row ∈ sources.rows, row.id ≠ id → row ∈ after.rows := by
  obtain ⟨source, found, made⟩ := bind_ok toggled
  obtain ⟨-, rfl⟩ := certSourceOr404_ok found
  cases made
  intro row member other
  exact Table.mem_modify.mpr ⟨row, member, (if_neg other).symm⟩

theorem certSourceDelete_keeps (deleted : certSourceDelete sources caller id = .ok after) :
    ∀ row ∈ sources.rows, row.id ≠ id → row ∈ after.rows := by
  obtain ⟨source, found, made⟩ := bind_ok deleted
  obtain ⟨-, rfl⟩ := certSourceOr404_ok found
  cases made
  exact fun row member other => Table.mem_remove.mpr ⟨member, other⟩

end Handlers

section Runs

variable {db : Database} {site after : Site} {event : Event}

theorem act_kept (careful : Careful site event) (kept : Kept site) (begun : Begun site)
    (acted : site.act db event = some after) : Kept after := by
  cases event with
  | wait span =>
      cases acted
      exact ⟨kept.refreshes, kept.certs, kept.vault, kept.waiting, kept.shown⟩
  | page tid =>
      cases acted
      exact certsPage_kept kept begun
  | answer index answers =>
      obtain ⟨⟨page, phase⟩, waiting, resumed⟩ := Option.bind_eq_some_iff.mp acted
      obtain ⟨started, phaseKept⟩ := kept.waiting _ (List.mem_of_getElem? waiting)
      exact resume_kept (erase_kept kept) ⟨begun.recorded, begun.refreshes⟩ started phaseKept resumed
  | broken index reason =>
      obtain ⟨⟨page, phase⟩, waiting, failed⟩ := Option.bind_eq_some_iff.mp acted
      obtain ⟨started, -⟩ := kept.waiting _ (List.mem_of_getElem? waiting)
      exact fail_kept (erase_kept kept) ⟨begun.recorded, begun.refreshes⟩ started failed
  | dropped index =>
      cases acted
      exact erase_kept kept
  | refresh =>
      cases acted
      exact certsRefresh_kept kept careful
  | create caller form =>
      simp only [Site.act] at acted
      split at acted
      next sources created =>
        cases acted
        have stays := certSourceCreate_keeps created
        exact changed_kept kept (fun _ _ _ _ offered => offered.mono fun source member _ => stays source member)
          fun _ _ _ _ _ _ _ offered => offered.mono fun source member _ => stays source member
      · cases acted
        exact kept
  | toggle caller id =>
      simp only [Site.act] at acted
      split at acted
      next source sources found toggled =>
        cases acted
        obtain ⟨member, rfl⟩ := certSourceOr404_ok found
        exact sourceChanged_kept kept member (careful sources toggled) (certSourceToggle_keeps toggled)
      · cases acted
        exact kept
  | delete caller id =>
      simp only [Site.act] at acted
      split at acted
      next source sources found deleted =>
        cases acted
        obtain ⟨member, rfl⟩ := certSourceOr404_ok found
        exact sourceChanged_kept kept member (careful sources deleted) (certSourceDelete_keeps deleted)
      · cases acted
        exact kept

end Runs

def cloudSource (name : String) (id : Int) : CertSource where
  id
  tenantId := 1
  name
  provider := "azure_kv"
  configJson := []
  authMode := "ambient"
  credentialId := none
  enabled := true

def freshSite : Site where
  monitoring := .empty
  sources := (Table.empty.insert (cloudSource "kv") fun _ => rfl).insert (cloudSource "acm") fun _ => rfl
  certCache := fun _ => none
  vaultCache := fun _ => none
  lastCertCache := none
  now := 0
  inFlight := []
  log := []
  moment := 0
  history := []
  refreshed := []

def reached (events : List Event) : Site := ((machine {}).run freshSite events).getD freshSite

def webCert : CertInfo := ⟨"web", 9, "ok"⟩

def servedTwice : List Event := [.page (some 1), .answer 0 (some [webCert]), .answer 0 none, .page (some 1)]

def admin : Caller := ⟨some 1, 1, .tenantAdmin⟩

def keptForAll : List Event :=
  [.page none, .answer 0 (some [webCert]), .answer 0 none, .delete admin 1, .page none]

def keptAfterToggle : List Event :=
  [.page (some 1), .answer 0 (some [webCert]), .toggle admin 1, .answer 0 none, .page (some 1)]

def keptAfterRefresh : List Event :=
  [.page (some 1), .answer 0 (some [webCert]), .refresh, .answer 0 none, .page (some 1)]

end Dosm.Certs.PageCaches
