import Mathlib.Data.List.Dedup
import Dosm.Network.CheckScripts
import Dosm.Network.ScanGroups

namespace Dosm.Network

open Models Python Jumps

/-! When a completed scan has an outcome in every row.

The status says nothing about the rows: an exception that ends a group is dropped, and
a row whose callback was called counts as written. The condition says that the sources
are there when the rows are grouped and that no check and no write of a group raises.
-/

def NetworkScanResult.Pending (row : NetworkScanResult) : Prop :=
  row.reachable = none ∧ row.latencyMs = none ∧ row.errorMsg = none ∧ row.checkedAt = none

/-- A scan whose rows are as they were stored. -/
structure PendingScan where
  results : Table NetworkScanResult
  scanId : Int
  pending : ∀ row ∈ scanRows results scanId, row.Pending
  labelled : ∀ row ∈ scanRows results scanId, row.srcHostId = none → row.srcLabel = "DOSM Server"

def sourceOf (row : NetworkScanResult) : Source :=
  match row.srcHostId with
  | some id => .host id
  | none => .dosmServer

def questionOf (row : NetworkScanResult) : Question := ⟨sourceOf row, row.dstAddress, row.port⟩

def Holds (row : NetworkScanResult) (outcome : Outcome) : Prop :=
  row.reachable = some outcome.reachable ∧ row.latencyMs = outcome.latencyMs ∧
    row.errorMsg = outcome.errorMsg ∧ row.checkedAt ≠ none

/-- Every row of the scan is checked and holds the outcome of its own check. -/
def Complete (scan : PendingScan) (world : ScanWorld) (trace : List Event) : Prop :=
  ∀ row ∈ scanRows scan.results scan.scanId, ∃ after,
    (finalResults world scan.results trace).get row.id = some after ∧
      ∃ outcome, Holds after outcome ∧ Found trace (questionOf row) outcome

def SourcesKept (scan : PendingScan) (world : ScanWorld) : Prop :=
  ∀ row ∈ scanRows scan.results scan.scanId, ∀ id, row.srcHostId = some id → id ∉ world.deletedBefore

section Created

variable {results : Table NetworkScanResult} {scanId : Int} {rows : List NewResult} {row : NetworkScanResult}

theorem mem_storeResults (member : row ∈ (storeResults results scanId rows).rows) :
    row ∈ results.rows ∨ ∃ new ∈ rows, ∃ id, row = newResultRow scanId new id := by
  induction rows generalizing results with
  | nil => exact .inl member
  | cons new rest ih =>
      rcases ih member with before | ⟨other, listed, id, same⟩
      · rcases Table.mem_insert.mp before with earlier | first
        · exact .inl earlier
        · exact .inr ⟨new, List.mem_cons_self, _, first⟩
      · exact .inr ⟨other, List.mem_cons_of_mem new listed, id, same⟩

theorem createResultRows_labelled {db : Database} {ports : Table NetworkPort} {tid : Int} {sourceIds portIds : List Int}
    {destinations : List Destination} {includeLocal : Bool} {new : NewResult}
    (member : new ∈ createResultRows db ports tid sourceIds destinations portIds includeLocal)
    (unsourced : new.srcHostId = none) : new.srcLabel = "DOSM Server" := by
  have fields : ∀ srcHostId srcLabel, new ∈ resultRows ports portIds srcHostId srcLabel destinations →
      new.srcHostId = srcHostId ∧ new.srcLabel = srcLabel := by
    intro srcHostId srcLabel listed
    obtain ⟨dst, -, made⟩ := List.mem_flatMap.mp listed
    obtain ⟨port, -, rfl⟩ := List.mem_map.mp made
    exact ⟨rfl, rfl⟩
  rcases List.mem_append.mp member with own | remote
  · split at own
    · exact (fields _ _ own).2
    · cases own
  · obtain ⟨srcId, -, made⟩ := List.mem_flatMap.mp remote
    split at made
    · cases made
    · rw [(fields _ _ made).1] at unsourced
      cases unsourced

end Created

/-- A scan as it is created, under an id that no row has. -/
def PendingScan.created (db : Database) (ports : Table NetworkPort) (tid : Int) (sourceIds portIds : List Int)
    (destinations : List Destination) (includeLocal : Bool) (results : Table NetworkScanResult) (scanId : Int)
    (unused : ∀ row ∈ results.rows, row.scanId ≠ scanId) : PendingScan where
  results := storeResults results scanId
    (createResultRows db ports tid sourceIds destinations portIds includeLocal)
  scanId := scanId
  pending := by
    intro row member
    obtain ⟨listed, same⟩ := List.mem_filter.mp member
    rcases mem_storeResults listed with before | ⟨new, -, id, rfl⟩
    · exact absurd (of_decide_eq_true same) (unused row before)
    · exact ⟨rfl, rfl, rfl, rfl⟩
  labelled := by
    intro row member unsourced
    obtain ⟨listed, same⟩ := List.mem_filter.mp member
    rcases mem_storeResults listed with before | ⟨new, made, id, rfl⟩
    · exact absurd (of_decide_eq_true same) (unused row before)
    · exact createResultRows_labelled made unsourced

/-! What the writes of a run leave in a row. -/

section Rows

variable {results : Table NetworkScanResult} {row after : NetworkScanResult} {rid : Int} {trace : List Event}
  {event : Event}

def SameFinding (row after : NetworkScanResult) : Prop :=
  after.reachable = row.reachable ∧ after.latencyMs = row.latencyMs ∧ after.errorMsg = row.errorMsg ∧
    after.checkedAt = row.checkedAt

theorem RowWrite.change_key (change : RowWrite) (row : NetworkScanResult) : key (change.change row) = key row := by
  cases change <;> rfl

theorem apply_write_get {change : RowWrite} (same : change.rid = rid) (found : results.get rid = some row) :
    ((Event.write change).apply results).get rid = some (change.change row) := by
  have modified : (results.modify change.rid change.change change.change_key).get rid = some (change.change row) :=
    Table.get_modify_of_eq same.symm found
  exact modified

theorem apply_write_other {change : RowWrite} (different : change.rid ≠ rid) :
    ((Event.write change).apply results).get rid = results.get rid := by
  have kept : (results.modify change.rid change.change change.change_key).get rid = results.get rid :=
    Table.get_modify_other (Ne.symm different)
  exact kept

theorem deleteHost_get {id : Int} (found : results.get rid = some row) :
    (deleteHost results id).get rid =
      some { row with srcHostId := row.srcHostId.filter fun src => src ≠ id } := by
  unfold deleteHost
  rw [Table.get_map, found]
  rfl

theorem apply_get (found : results.get rid = some row) : ∃ after, (event.apply results).get rid = some after ∧
    ((∃ change, event = .write change ∧ change.rid = rid ∧ after = change.change row) ∨
      (∀ change, event = .write change → change.rid ≠ rid) ∧ SameFinding row after) := by
  cases event with
  | write change =>
      by_cases same : change.rid = rid
      · exact ⟨change.change row, apply_write_get same found, .inl ⟨change, rfl, same, rfl⟩⟩
      · refine ⟨row, (apply_write_other same).trans found, .inr ⟨?_, rfl, rfl, rfl, rfl⟩⟩
        rintro other ⟨⟩
        exact same
  | hostDeleted id => exact ⟨_, deleteHost_get found, .inr ⟨nofun, rfl, rfl, rfl, rfl⟩⟩
  | made question outcome => exact ⟨row, found, .inr ⟨nofun, rfl, rfl, rfl, rfl⟩⟩
  | refused source error => exact ⟨row, found, .inr ⟨nofun, rfl, rfl, rfl, rfl⟩⟩
  | committed index => exact ⟨row, found, .inr ⟨nofun, rfl, rfl, rfl, rfl⟩⟩

theorem foldl_keeps {holds : NetworkScanResult → Prop} (stable : ∀ row after, SameFinding row after → holds row → holds after)
    (writes : ∀ change, .write change ∈ trace → change.rid = rid → ∀ row, holds row → holds (change.change row))
    (found : results.get rid = some row) (start : holds row) :
    ∃ after, (trace.foldl Event.apply results).get rid = some after ∧ holds after := by
  induction trace generalizing results row with
  | nil => exact ⟨row, found, start⟩
  | cons event rest ih =>
      have later : ∀ change, .write change ∈ rest → change.rid = rid → ∀ row, holds row → holds (change.change row) :=
        fun change listed => writes change (List.mem_cons_of_mem event listed)
      obtain ⟨next, present, ⟨change, rfl, same, rfl⟩ | ⟨-, unchanged⟩⟩ := @apply_get _ _ _ event found
      · exact ih later present (writes change List.mem_cons_self same row start)
      · exact ih later present (stable row next unchanged start)

theorem foldl_settles {outcomes : Outcome → Prop} (pending : row.Pending) (found : results.get rid = some row)
    (records : ∀ change, .write change ∈ trace → change.rid = rid → Records outcomes change)
    (written : Writes trace rid) :
    ∃ after, (trace.foldl Event.apply results).get rid = some after ∧ ∃ outcome, outcomes outcome ∧ Holds after outcome := by
  have settle : ∀ change, Records outcomes change → ∀ row : NetworkScanResult,
      (row.Pending ∨ ∃ outcome, outcomes outcome ∧ Holds row outcome) →
      ∃ outcome, outcomes outcome ∧ Holds (change.change row) outcome := by
    intro change recorded row before
    cases change with
    | outcome rid outcome now => exact ⟨outcome, recorded, rfl, rfl, rfl, nofun⟩
    | mark rid error now =>
        refine ⟨.failed error, recorded.1, rfl, ?_, rfl, nofun⟩
        rcases before with untouched | ⟨outcome, listed, holds⟩
        · exact untouched.2.1
        · exact holds.2.1.trans (recorded.2 outcome listed)
  have stable : ∀ row after, SameFinding row after →
      (∃ outcome, outcomes outcome ∧ Holds row outcome) → ∃ outcome, outcomes outcome ∧ Holds after outcome := by
    rintro row after ⟨reachable, latency, message, checked⟩ ⟨outcome, listed, first, second, third, fourth⟩
    exact ⟨outcome, listed, reachable.trans first, latency.trans second, message.trans third, checked ▸ fourth⟩
  obtain ⟨change, listed, same⟩ := written
  obtain ⟨first, last, split⟩ := List.append_of_mem listed
  rw [split, List.foldl_append, List.foldl_cons]
  have early : ∃ before, (first.foldl Event.apply results).get rid = some before ∧
      (before.Pending ∨ ∃ outcome, outcomes outcome ∧ Holds before outcome) := by
    refine foldl_keeps (fun row after unchanged before => ?_) (fun other there atRow row before => ?_) found (.inl pending)
    · rcases before with untouched | settled
      · obtain ⟨reachable, latency, message, checked⟩ := unchanged
        exact .inl ⟨reachable.trans untouched.1, latency.trans untouched.2.1, message.trans untouched.2.2.1,
          checked.trans untouched.2.2.2⟩
      · exact .inr (stable row after unchanged settled)
    · have member : .write other ∈ trace := split ▸ List.mem_append_left _ there
      exact .inr (settle other (records other member atRow) row before)
  obtain ⟨before, present, state⟩ := early
  have here := apply_write_get same present
  refine foldl_keeps stable (fun other there atRow row settled => ?_) here (settle change (records change listed same) before state)
  have member : .write other ∈ trace := split ▸ List.mem_append_right first (List.mem_cons_of_mem _ there)
  exact settle other (records other member atRow) row (.inr settled)

end Rows

/-! The rows when they are grouped. -/

section Start

variable {world : ScanWorld} {results : Table NetworkScanResult} {row : NetworkScanResult} {scanId : Int}
  {source : Source} {ids : List Int} {param : CheckParam}

def started (deleted : List Int) (row : NetworkScanResult) : NetworkScanResult :=
  { row with srcHostId := row.srcHostId.filter fun src => src ∉ deleted }

theorem foldl_deleteHost (deleted : List Int) :
    (deleted.foldl deleteHost results).rows = results.rows.map (started deleted) := by
  induction deleted generalizing results with
  | nil =>
      refine (List.map_id _).symm.trans (List.map_congr_left fun row _ => ?_)
      have kept : (row.srcHostId.filter fun src => src ∉ ([] : List Int)) = row.srcHostId := by
        cases row.srcHostId with
        | none => rfl
        | some src => exact Option.filter_some_pos (decide_eq_true List.not_mem_nil)
      rw [started, kept]
      rfl
  | cons id rest ih =>
      rw [List.foldl_cons, ih]
      change (results.rows.map _).map _ = _
      rw [List.map_map]
      refine List.map_congr_left fun row _ => ?_
      cases same : row.srcHostId with
      | none => simp [started, same]
      | some src =>
          by_cases gone : src = id
          · simp [started, same, gone]
          · simp [started, same, gone, Option.filter]

theorem startResults_rows : (startResults world results).rows = results.rows.map (started world.deletedBefore) :=
  foldl_deleteHost world.deletedBefore

theorem mem_scanRows : row ∈ scanRows results scanId ↔ row ∈ results.rows ∧ row.scanId = scanId := by
  simp [scanRows]

theorem mem_start {later : NetworkScanResult} : later ∈ scanRows (startResults world results) scanId ↔
    ∃ row ∈ scanRows results scanId, started world.deletedBefore row = later := by
  rw [mem_scanRows, startResults_rows, List.mem_map]
  constructor
  · rintro ⟨⟨row, member, rfl⟩, same⟩
    exact ⟨row, mem_scanRows.mpr ⟨member, same⟩, rfl⟩
  · rintro ⟨row, member, rfl⟩
    obtain ⟨listed, same⟩ := mem_scanRows.mp member
    exact ⟨⟨row, listed, rfl⟩, same⟩

theorem start_get (member : row ∈ scanRows results scanId) :
    (startResults world results).get row.id = some (started world.deletedBefore row) := by
  refine Table.get_eq_some_iff.mpr ⟨?_, rfl⟩
  rw [startResults_rows]
  exact List.mem_map_of_mem (mem_scanRows.mp member).1

theorem mem_groupIds {id : Int} : id ∈ groupIds results scanId source ↔
    ∃ row ∈ scanRows results scanId, sourceKey row = some source ∧ row.id = id := by
  simp [groupIds, and_assoc]

theorem mem_srcGroups {group : Source × List Int} : group ∈ srcGroups results scanId ↔
    group.2 = groupIds results scanId group.1 ∧ ∃ row ∈ scanRows results scanId, sourceKey row = some group.1 := by
  obtain ⟨source, ids⟩ := group
  simp only [srcGroups, List.mem_map, List.mem_dedup, List.mem_filterMap, Prod.mk.injEq]
  constructor
  · rintro ⟨other, found, rfl, rfl⟩
    exact ⟨rfl, found⟩
  · rintro ⟨rfl, found⟩
    exact ⟨source, found, rfl, rfl⟩

theorem groupIds_nodup : (groupIds results scanId source).Nodup := by
  have sub : (groupIds results scanId source).Sublist (results.rows.map NetworkScanResult.id) :=
    (List.filter_sublist.trans List.filter_sublist).map _
  exact sub.nodup results.unique

theorem checkParams_rids (present : ∀ id ∈ ids, ∃ row, results.get id = some row) :
    (checkParams results ids).map CheckParam.rid = ids := by
  induction ids with
  | nil => rfl
  | cons id rest ih =>
      obtain ⟨row, found⟩ := present id List.mem_cons_self
      have head : row.id = id := (Table.get_eq_some_iff.mp found).2
      have tail := ih fun other listed => present other (List.mem_cons_of_mem id listed)
      have unfolded : checkParams results (id :: rest) =
          ⟨row.id, row.dstAddress, row.port⟩ :: checkParams results rest := by
        rw [checkParams, List.filterMap_cons, found]
        rfl
      rw [unfolded, List.map_cons, tail, head]

theorem groupIds_present {id : Int} (listed : id ∈ groupIds results scanId source) :
    ∃ row, results.get id = some row := by
  obtain ⟨row, member, -, rfl⟩ := mem_groupIds.mp listed
  exact ⟨row, Table.get_key (mem_scanRows.mp member).1⟩

theorem group_rids :
    (checkParams results (groupIds results scanId source)).map CheckParam.rid = groupIds results scanId source :=
  checkParams_rids fun _ listed => groupIds_present listed

end Start

/-! The whole run. -/

section Runs

variable {scan : PendingScan} {world : ScanWorld} {trace : List Event} {group : Source × List Int}
  {row : NetworkScanResult}

def start (scan : PendingScan) (world : ScanWorld) : Table NetworkScanResult := startResults world scan.results

def groups (scan : PendingScan) (world : ScanWorld) : List (Source × List Int) :=
  srcGroups (start scan world) scan.scanId

/-- The sources are there when the rows are grouped, and no check and no write raises. -/
def Undisturbed (scan : PendingScan) (world : ScanWorld) : Prop :=
  SourcesKept scan world ∧ ∀ group ∈ groups scan world,
    GroupFits (world.groups group.1) (checkParams (start scan world) group.2) group.1

theorem group_verdict (listed : group ∈ groups scan world)
    (completed : finalStatus world scan.results scan.scanId = .completed) :
    Verdict (runGroup world (start scan world) group).log group.1 (checkParams (start scan world) group.2)
      (GroupFits (world.groups group.1) (checkParams (start scan world) group.2) group.1) := by
  have ends : (runGroup world (start scan world) group).result ≠ .error .endless := by
    unfold finalStatus at completed
    dsimp only at completed
    split at completed
    · cases completed
    split at completed
    · cases completed
    split at completed
    · cases completed
    next none =>
      rw [List.any_eq_true] at none
      exact fun looped => none ⟨group, listed, decide_eq_true looped⟩
  obtain ⟨same, row, member, keyed⟩ := mem_srcGroups.mp listed
  have rows : (checkParams (start scan world) group.2).map CheckParam.rid = group.2 := by
    rw [same]
    exact group_rids
  have distinct : group.2.Nodup := by
    rw [same]
    exact groupIds_nodup
  have nonempty : group.2 ≠ [] := by
    have inside : row.id ∈ group.2 := by
      rw [same]
      exact mem_groupIds.mpr ⟨row, member, keyed, rfl⟩
    exact List.ne_nil_of_mem inside
  obtain ⟨source, ids⟩ := group
  cases source with
  | dosmServer =>
      have some : checkParams (start scan world) ids ≠ [] := by
        intro empty
        rw [empty] at rows
        exact nonempty rows.symm
      exact localGroup_verdict some (rows.symm ▸ distinct)
  | host id => exact checkSource_verdict nonempty distinct rows ends

theorem group_belongs (listed : group ∈ groups scan world) {event : Event}
    (happened : event ∈ (runGroup world (start scan world) group).log) : Belongs group.1 group.2 event := by
  obtain ⟨same, -⟩ := mem_srcGroups.mp listed
  have rows : ∀ param ∈ checkParams (start scan world) group.2, param.rid ∈ group.2 := by
    intro param member
    have rids : (checkParams (start scan world) group.2).map CheckParam.rid = group.2 := by
      rw [same]
      exact group_rids
    exact rids ▸ List.mem_map_of_mem member
  obtain ⟨source, ids⟩ := group
  cases source with
  | dosmServer => exact settle_belongs rows (plan_belongs _ rows _) event happened
  | host id => exact checkSource_belongs rows event happened

theorem trace_mem (interleaving : Interleaving (threads world scan.results scan.scanId) trace) {event : Event} :
    event ∈ trace ↔ (∃ id ∈ world.deletedAfter, event = .hostDeleted id) ∨
      ∃ group ∈ groups scan world, event ∈ (runGroup world (start scan world) group).log := by
  rw [interleaving.mem_iff]
  constructor
  · rintro ⟨thread, listed, member⟩
    rcases List.mem_cons.mp listed with rfl | later
    · obtain ⟨id, gone, rfl⟩ := List.mem_map.mp member
      exact .inl ⟨id, gone, rfl⟩
    · obtain ⟨group, groupListed, rfl⟩ := List.mem_map.mp later
      exact .inr ⟨group, groupListed, member⟩
  · rintro (⟨id, gone, rfl⟩ | ⟨group, listed, member⟩)
    · exact ⟨_, List.mem_cons_self, List.mem_map_of_mem gone⟩
    · exact ⟨_, List.mem_cons_of_mem _ (List.mem_map_of_mem listed), member⟩

theorem write_group (interleaving : Interleaving (threads world scan.results scan.scanId) trace) {change : RowWrite}
    (listed : group ∈ groups scan world) (inside : change.rid ∈ group.2) (happened : .write change ∈ trace) :
    .write change ∈ (runGroup world (start scan world) group).log := by
  obtain ⟨id, -, same⟩ | ⟨other, otherListed, member⟩ := (trace_mem interleaving).mp happened
  · cases same
  have own : change.rid ∈ other.2 := group_belongs otherListed member
  obtain ⟨otherIds, -⟩ := mem_srcGroups.mp otherListed
  obtain ⟨ids, -⟩ := mem_srcGroups.mp listed
  rw [otherIds] at own
  rw [ids] at inside
  obtain ⟨first, firstMember, firstKey, firstId⟩ := mem_groupIds.mp own
  obtain ⟨second, secondMember, secondKey, secondId⟩ := mem_groupIds.mp inside
  have same : first = second :=
    Table.eq_of_key (mem_scanRows.mp firstMember).1 (mem_scanRows.mp secondMember).1 (firstId.trans secondId.symm)
  rw [same, secondKey] at firstKey
  have equal : other = group := Prod.ext (Option.some.inj firstKey).symm (by
    rw [otherIds, ids, Option.some.inj firstKey])
  rwa [equal] at member

theorem started_pending (member : row ∈ scanRows scan.results scan.scanId) :
    (started world.deletedBefore row).Pending := scan.pending row member

theorem unwritten_incomplete (member : row ∈ scanRows scan.results scan.scanId) (unwritten : ¬ Writes trace row.id) :
    ¬ Complete scan world trace := by
  intro complete
  obtain ⟨after, found, outcome, holds, -⟩ := complete row member
  have kept : ∃ final, (finalResults world scan.results trace).get row.id = some final ∧ final.Pending := by
    refine foldl_keeps (fun row after unchanged pending => ?_) (fun change happened same => ?_) (start_get member)
      (started_pending member)
    · obtain ⟨reachable, latency, message, checked⟩ := unchanged
      exact ⟨reachable.trans pending.1, latency.trans pending.2.1, message.trans pending.2.2.1,
        checked.trans pending.2.2.2⟩
    · exact absurd ⟨change, happened, same⟩ unwritten
  obtain ⟨final, present, pending⟩ := kept
  cases Option.some.inj (found.symm.trans present)
  cases holds.1.symm.trans pending.1

theorem complete_of_undisturbed (completed : finalStatus world scan.results scan.scanId = .completed)
    (interleaving : Interleaving (threads world scan.results scan.scanId) trace)
    (undisturbed : Undisturbed scan world) : Complete scan world trace := by
  intro row member
  have keyed : sourceKey (started world.deletedBefore row) = some (sourceOf row) := by
    cases source : row.srcHostId with
    | none =>
        have label := scan.labelled row member source
        simp [sourceKey, started, source, sourceOf, label]
    | some id =>
        have kept := undisturbed.1 row member id source
        simp [sourceKey, started, source, sourceOf, kept, Option.filter]
  have startMember : started world.deletedBefore row ∈ scanRows (start scan world) scan.scanId :=
    mem_start.mpr ⟨row, member, rfl⟩
  let group : Source × List Int := (sourceOf row, groupIds (start scan world) scan.scanId (sourceOf row))
  have listed : group ∈ groups scan world := mem_srcGroups.mpr ⟨rfl, _, startMember, keyed⟩
  have inside : row.id ∈ group.2 := mem_groupIds.mpr ⟨_, startMember, keyed, rfl⟩
  have param : (⟨row.id, row.dstAddress, row.port⟩ : CheckParam) ∈ checkParams (start scan world) group.2 := by
    refine List.mem_filterMap.mpr ⟨row.id, inside, ?_⟩
    have found : (start scan world).get row.id = some (started world.deletedBefore row) := start_get member
    rw [found]
    rfl
  obtain ⟨⟨change, written, same⟩, outcomes, found, records⟩ :=
    (group_verdict listed completed).answered (undisturbed.2 group listed) _ param
  have happens : ∀ event, event ∈ (runGroup world (start scan world) group).log → event ∈ trace :=
    fun event happened => (trace_mem interleaving).mpr (.inr ⟨group, listed, happened⟩)
  obtain ⟨after, present, outcome, isOutcome, holds⟩ :=
    @foldl_settles _ _ _ trace _ (started_pending member) (start_get member)
      (fun other happened atRow => records other
        (write_group interleaving listed (atRow.symm ▸ inside) happened) atRow)
      ⟨change, happens _ written, same⟩
  refine ⟨after, present, outcome, holds, ?_⟩
  rcases found outcome isOutcome with made | ⟨error, refused, failed⟩
  · exact .inl (happens _ made)
  · exact .inr ⟨error, happens _ refused, failed⟩

theorem undisturbed_of_complete (completed : finalStatus world scan.results scan.scanId = .completed)
    (interleaving : Interleaving (threads world scan.results scan.scanId) trace)
    (complete : Complete scan world trace) : Undisturbed scan world := by
  refine ⟨fun row member id source gone => ?_, fun group listed => ?_⟩
  · obtain ⟨-, -, outcome, -, found⟩ := complete row member
    have asked : (questionOf row).source = .host id := by
      rw [questionOf, sourceOf, source]
    -- No group is of a host that is deleted when the rows are grouped.
    have nobody : ∀ group ∈ groups scan world, group.1 ≠ .host id := by
      intro group listed same
      obtain ⟨-, other, otherMember, keyed⟩ := mem_srcGroups.mp listed
      obtain ⟨origin, -, rfl⟩ := mem_start.mp otherMember
      rw [same] at keyed
      unfold sourceKey at keyed
      split at keyed
      next src kept =>
        cases keyed
        have passed := (Option.filter_eq_some_iff.mp kept).2
        exact of_decide_eq_true passed gone
      · split at keyed
        · cases keyed
        · cases keyed
    have never : ∀ event, event ∈ trace → ∀ ids, Belongs (.host id) ids event → ¬ (∃ question outcome,
        event = .made question outcome) ∧ ¬ ∃ source error, event = .refused source error := by
      intro event happened ids belongs
      obtain ⟨other, -, rfl⟩ | ⟨group, listed, inside⟩ := (trace_mem interleaving).mp happened
      · cases belongs
      have own := group_belongs listed inside
      constructor
      · rintro ⟨question, outcome, rfl⟩
        exact nobody group listed (own.symm.trans belongs)
      · rintro ⟨source, error, rfl⟩
        exact nobody group listed (own.symm.trans belongs)
    rcases found with made | ⟨error, refused, -⟩
    · exact (never _ made [] asked).1 ⟨_, _, rfl⟩
    · exact (never _ refused [] asked).2 ⟨_, _, rfl⟩
  · by_contra broken
    obtain ⟨param, member, missing⟩ := (group_verdict listed completed).unwritten broken
    obtain ⟨ids, -⟩ := mem_srcGroups.mp listed
    have inside : param.rid ∈ group.2 := by
      have rids : (checkParams (start scan world) group.2).map CheckParam.rid = group.2 := by
        rw [ids]
        exact group_rids
      exact rids ▸ List.mem_map_of_mem member
    have row : ∃ row ∈ scanRows scan.results scan.scanId, row.id = param.rid := by
      rw [ids] at inside
      obtain ⟨later, laterMember, -, same⟩ := mem_groupIds.mp inside
      obtain ⟨row, member, rfl⟩ := mem_start.mp laterMember
      exact ⟨row, member, same⟩
    obtain ⟨row, member, same⟩ := row
    refine unwritten_incomplete member ?_ complete
    rintro ⟨change, happened, atRow⟩
    have here : change.rid ∈ group.2 := by
      rw [atRow, same]
      exact inside
    exact missing ⟨change, write_group interleaving listed here happened, atRow.trans same⟩

end Runs

/-- A completed scan is complete exactly when nothing disturbed it, in every order of the groups. -/
theorem completed_scan_complete_iff (scan : PendingScan) (world : ScanWorld) (trace : List Event)
    (completed : finalStatus world scan.results scan.scanId = .completed)
    (interleaving : Interleaving (threads world scan.results scan.scanId) trace) :
    Complete scan world trace ↔ Undisturbed scan world :=
  ⟨undisturbed_of_complete completed interleaving, complete_of_undisturbed completed interleaving⟩

/-! Two scans of a host over one port. -/

def databaseAndCache : List Destination := [⟨none, "10.0.0.5", "db"⟩, ⟨none, "10.0.0.6", "cache"⟩]

def webScan : PendingScan :=
  .created webInventory sshPort 1 [1] [1] databaseAndCache false .empty 1 fun _ member => absurd member List.not_mem_nil

def quietGroup : GroupWorld where
  decode _ := none
  jumps := ⟨webInventory, ∅, none⟩
  isLocal := false
  connect _ _ := none
  tcp _ := .refused
  ping _ := .missing
  ssh _ := .output "OK 12\n" 40
  pywinrm := true
  session := none
  powershell _ := .output "FAIL"
  tunnel := .none
  release := none
  commit i := .ok (100 + i)
  catchUpNow := 200
  catchUp _ := none
  markNow := 100
  mark _ := none

def quietWorld : ScanWorld where
  deletedBefore := []
  deletedAfter := []
  groups _ := quietGroup
  startRaises := false
  readRaises := false
  finishRaises := false

theorem webScan_undisturbed : Undisturbed webScan quietWorld := by
  refine ⟨fun _ _ _ _ => List.not_mem_nil, fun group listed => ?_⟩
  have only : groups webScan quietWorld = [(.host 1, [1, 2])] := by decide
  rw [only, List.mem_singleton] at listed
  rw [listed]
  have facts : (quietGroup.jumps.db.hosts.get 1).map (fun host =>
      (buildJumpChain quietGroup.decode quietGroup.jumps host, host.protocol)) =
      some (.ok ([], ⟨1, "web", "10.0.0.2", 22, .ssh, "root", none, none⟩), .ssh) := by
    decide
  obtain ⟨host, found, seen⟩ := Option.map_eq_some_iff.mp facts
  obtain ⟨chained, protocol⟩ := Prod.mk.inj seen
  have remote : ¬ quietGroup.isLocal = true := by decide
  change SourceFits quietGroup _ 1
  unfold SourceFits
  rw [found]
  dsimp only
  rw [if_neg remote, chained]
  dsimp only
  rw [protocol, if_neg (by decide)]
  exact fun i param _ => ⟨⟨_, rfl⟩, _, rfl⟩

theorem webScan_complete : Complete webScan quietWorld (threads quietWorld webScan.results 1).flatten :=
  (completed_scan_complete_iff webScan quietWorld _ (by decide) .flatten).mpr webScan_undisturbed

def lockedWorld : ScanWorld :=
  { quietWorld with
    groups := fun _ =>
      { quietGroup with
        commit := fun i => if i = 0 then .error ⟨"OperationalError", "database is locked", "", .other⟩ else .ok 101 } }

def lockedRows : Table NetworkScanResult :=
  finalResults lockedWorld webScan.results (threads lockedWorld webScan.results 1).flatten

/-- The first row stays without an outcome and the second has that of no check of its own. -/
theorem locked_write_incomplete : finalStatus lockedWorld webScan.results 1 = .completed ∧
    Interleaving (threads lockedWorld webScan.results 1) (threads lockedWorld webScan.results 1).flatten ∧
    ¬ Complete webScan lockedWorld (threads lockedWorld webScan.results 1).flatten ∧
    lockedRows.rows.map (fun row => (row.reachable, row.errorMsg)) =
      [(none, none), (some false, some "SSH error on '10.0.0.2': OperationalError: database is locked")] := by
  refine ⟨by decide, .flatten, fun complete => ?_, by decide⟩
  have first : ∃ row ∈ scanRows webScan.results webScan.scanId, row.id = 1 := by decide
  obtain ⟨row, member, same⟩ := first
  obtain ⟨after, found, outcome, holds, -⟩ := complete row member
  have unchecked : (lockedRows.get 1).map NetworkScanResult.reachable = some none := by decide
  rw [same] at found
  have reached : (lockedRows.get 1).map NetworkScanResult.reachable = some after.reachable :=
    congrArg (Option.map NetworkScanResult.reachable) found
  rw [unchecked, holds.1] at reached
  cases reached

end Dosm.Network
