import Dosm.Monitoring.HostChecks

namespace Dosm.Monitoring

open Models Python Secrets

/-! The check of a whole fleet beside the checks of its hosts one by one.

The fleet's matrix has one place for all spellings of a host name, its rows are added
without seeing each other, and it leaves out the sources that have no adapter.
-/

structure Check where
  env : Env
  answers : Answers
  now : Int
  table : Matches
  secrets : Backend
  sources : Table MonitoringSource
  force : Bool

namespace Check

def one (check : Check) (hostname : String) : Option (List HostCheckResult × Matches) :=
  runChecks check.env check.answers check.now check.table check.secrets check.sources.rows hostname check.force

def fleet (check : Check) (hostnames : List String) : Option (Matrix × Matches) :=
  runChecksFleet check.env check.answers check.now check.table check.secrets check.sources.rows hostnames check.force

def row (check : Check) (hostname : String) (source : MonitoringSource) : Option MonitoringMatch :=
  matchAt check.table.rows (check.env.lower hostname, source.id)

def served (check : Check) (hostname : String) (source : MonitoringSource) : Bool :=
  !check.force && matchFresh check.now (check.row hostname source)

def adapter (check : Check) (source : MonitoringSource) : Option Adapter := adapterOf check.secrets source

def key (check : Check) (hostname : String) (source : MonitoringSource) : String × Int :=
  (check.env.lower hostname, source.id)

def answer (check : Check) (hostname : String) (source : MonitoringSource) : Option HostCheckResult :=
  if check.served hostname source then (check.row hostname source).map (matchToResult check.env source)
  else (check.adapter source).map fun adapter => checkHost check.answers (adapter, source) hostname

/-- The fleet check goes through, gives each host and source what the check of that host alone gives, and
leaves one row for each pair it has asked about. -/
def Agrees (check : Check) (hostnames : List String) : Prop :=
  ∃ matrix after, check.fleet hostnames = some (matrix, after) ∧
    (∀ hostname ∈ hostnames, ∀ source ∈ check.sources.rows, ∃ results rest,
      check.one hostname = some (results, rest) ∧
        matrix (check.key hostname source) = results.find? fun result => result.sourceId = source.id) ∧
    ∀ hostname ∈ hostnames, ∀ source ∈ check.sources.rows, (check.adapter source).isSome → ¬ check.served hostname source →
      ∃! row, row ∈ after.rows ∧ row.key = check.key hostname source

/-- Hosts of one name have rows already and get the same answers, and no kept result is of a source without
an adapter. -/
structure Uniform (check : Check) (hostnames : List String) : Prop where
  stored : hostnames.Pairwise fun first second => check.env.lower first = check.env.lower second →
    ∀ source ∈ check.sources.rows, (check.adapter source).isSome → (check.row first source).isSome
  alike : ∀ first ∈ hostnames, ∀ second ∈ hostnames, check.env.lower first = check.env.lower second →
    ∀ source ∈ check.sources.rows, ∀ adapter, check.adapter source = some adapter → ¬ check.served first source →
      checkHost check.answers (adapter, source) first = checkHost check.answers (adapter, source) second
  asked : ∀ hostname ∈ hostnames, ∀ source ∈ check.sources.rows, check.adapter source = none →
    ¬ check.served hostname source

end Check

section Lists

variable {sources : List MonitoringSource} {source : MonitoringSource} {found : MonitoringSource → Option HostCheckResult}

theorem map_filterMap_sublist (named : ∀ source result, found source = some result → result.sourceId = source.id) :
    ((sources.filterMap found).map HostCheckResult.sourceId).Sublist (sources.map MonitoringSource.id) := by
  induction sources with
  | nil => exact List.Sublist.refl _
  | cons first rest ih =>
      cases here : found first with
      | none =>
          rw [List.filterMap_cons_none here]
          exact ih.cons _
      | some result =>
          rw [List.filterMap_cons_some here, List.map_cons, List.map_cons, named first result here]
          exact ih.cons_cons _

theorem find_filterMap (named : ∀ source result, found source = some result → result.sourceId = source.id)
    (distinct : (sources.map MonitoringSource.id).Nodup) (listed : source ∈ sources) :
    ((sources.filterMap found).find? fun result => result.sourceId = source.id) = found source := by
  cases here : found source with
  | none =>
      rw [List.find?_eq_none]
      intro result member same
      obtain ⟨other, otherListed, origin⟩ := List.mem_filterMap.mp member
      have ids : other.id = source.id := (named other result origin).symm.trans (of_decide_eq_true same)
      rw [List.inj_on_of_nodup_map distinct otherListed listed ids, here] at origin
      cases origin
  | some result =>
      have member : result ∈ sources.filterMap found := List.mem_filterMap.mpr ⟨source, listed, here⟩
      have ids : result.sourceId = source.id := named source result here
      cases first : (sources.filterMap found).find? fun result => result.sourceId = source.id with
      | none =>
          have missed := List.find?_eq_none.mp first result member
          simp [ids] at missed
      | some other =>
          have same : other.sourceId = source.id := by simpa using List.find?_some first
          have unique : ((sources.filterMap found).map HostCheckResult.sourceId).Nodup :=
            (map_filterMap_sublist named).nodup distinct
          rw [List.inj_on_of_nodup_map unique (List.mem_of_find?_eq_some first) member (same.trans ids.symm)]

end Lists

section Adapters

variable {secrets : Backend} {source : MonitoringSource} {adapter : Adapter} {answers : Answers} {hostname : String}

theorem adapterOf_sourceId (made : adapterOf secrets source = some adapter) : adapter.sourceId = source.id := by
  unfold adapterOf makeAdapter at made
  dsimp only at made
  split at made
  · rw [← Option.some.inj made]
  split at made
  · rw [← Option.some.inj made]
  split at made
  · rw [← Option.some.inj made]
  · cases made

theorem checkHost_sourceId (made : adapterOf secrets source = some adapter) :
    (checkHost answers (adapter, source) hostname).sourceId = source.id := by
  unfold checkHost
  split
  · exact adapterOf_sourceId made
  · exact adapterOf_sourceId made

end Adapters

namespace Check

variable {check : Check} {hostname : String} {hostnames : List String} {source : MonitoringSource} {adapter : Adapter}

theorem served_row (kept : check.served hostname source = true) : (check.row hostname source).isSome = true := by
  unfold served at kept
  cases found : check.row hostname source with
  | none =>
      rw [found] at kept
      simp [matchFresh] at kept
  | some row => rfl

/-- The results of one check, source by source. -/
def keptResult (check : Check) (hostname : String) (source : MonitoringSource) : Option HostCheckResult :=
  if check.served hostname source then (check.row hostname source).map (matchToResult check.env source) else none

def freshResult (check : Check) (hostname : String) (source : MonitoringSource) : Option HostCheckResult :=
  if check.served hostname source then none
  else (check.adapter source).map fun adapter => checkHost check.answers (adapter, source) hostname

theorem keptResult_sourceId {result : HostCheckResult} (kept : check.keptResult hostname source = some result) :
    result.sourceId = source.id := by
  unfold keptResult at kept
  split at kept
  · obtain ⟨row, -, rfl⟩ := Option.map_eq_some_iff.mp kept
    rfl
  · cases kept

theorem freshResult_sourceId {result : HostCheckResult} (found : check.freshResult hostname source = some result) :
    result.sourceId = source.id := by
  unfold freshResult at found
  split at found
  · cases found
  · obtain ⟨adapter, made, rfl⟩ := Option.map_eq_some_iff.mp found
    exact checkHost_sourceId made

def raw (check : Check) (hostname : String) : List HostCheckResult :=
  check.sources.rows.filterMap (check.freshResult hostname)

theorem matchAt_one (listed : source ∈ check.sources.rows) :
    matchAt (matchesFor check.table [check.env.lower hostname] (check.sources.rows.map MonitoringSource.id))
      (check.env.lower hostname, source.id) = check.row hostname source :=
  matchAt_matchesFor List.mem_cons_self (List.mem_map_of_mem listed)

theorem asked_eq {sources : List MonitoringSource} :
    (adaptersFor check.secrets (sources.filter fun source => !check.served hostname source)).map
      (fun entry => checkHost check.answers entry hostname) = sources.filterMap (check.freshResult hostname) := by
  unfold adaptersFor
  rw [List.map_filterMap, List.filterMap_filter]
  apply List.filterMap_congr
  intro source _
  unfold freshResult
  cases check.served hostname source with
  | true => rfl
  | false =>
      simp only [Bool.not_false, if_true, Option.map_map, Bool.false_eq_true, if_false]
      rfl

theorem commit_nil : (storeAll check.env check.now ⟨check.table.rows, []⟩ []).commit = some check.table := by
  unfold storeAll Session.commit
  rw [List.foldl_nil]
  simp only [List.append_nil]
  rw [dif_pos check.table.unique]

theorem commit_one : ∃ after,
    (storeAll check.env check.now ⟨check.table.rows, []⟩ ((check.raw hostname).map fun result => (hostname, result))).commit =
      some after := by
  rw [← Option.isSome_iff_exists, commit_isSome_iff, List.map_map]
  apply List.Nodup.filter
  have ids : ((check.raw hostname).map HostCheckResult.sourceId).Nodup :=
    (map_filterMap_sublist fun source result => freshResult_sourceId).nodup check.sources.unique
  have keyed : (check.raw hostname).map (storeKey check.env ∘ fun result => (hostname, result)) =
      ((check.raw hostname).map HostCheckResult.sourceId).map (Prod.mk (check.env.lower hostname)) := by
    rw [List.map_map]
    rfl
  rw [keyed]
  exact ids.map fun _ _ same => (Prod.mk.inj same).2

theorem one_eq : check.one hostname =
    (storeAll check.env check.now ⟨check.table.rows, []⟩ ((check.raw hostname).map fun result => (hostname, result))).commit.map
      fun after => (check.sources.rows.filterMap (check.keptResult hostname) ++ check.raw hostname, after) := by
  have kept : check.sources.rows.filterMap (fun source =>
      if !check.force && matchFresh check.now (matchAt (matchesFor check.table [check.env.lower hostname]
        (check.sources.rows.map MonitoringSource.id)) (check.env.lower hostname, source.id)) then
        (matchAt (matchesFor check.table [check.env.lower hostname] (check.sources.rows.map MonitoringSource.id))
          (check.env.lower hostname, source.id)).map (matchToResult check.env source)
      else none) = check.sources.rows.filterMap (check.keptResult hostname) := by
    apply List.filterMap_congr
    intro source listed
    rw [matchAt_one listed]
    rfl
  have asked : check.sources.rows.filter (fun source =>
      !(!check.force && matchFresh check.now (matchAt (matchesFor check.table [check.env.lower hostname]
        (check.sources.rows.map MonitoringSource.id)) (check.env.lower hostname, source.id)))) =
      check.sources.rows.filter fun source => !check.served hostname source := by
    apply List.filter_congr
    intro source listed
    rw [matchAt_one listed]
    rfl
  unfold one runChecks
  dsimp only
  rw [kept, asked, asked_eq]
  split
  next none =>
    have empty : check.raw hostname = [] := by
      rw [raw, ← asked_eq, none]
      rfl
    rw [empty, List.map_nil, commit_nil, Option.map_some, List.append_nil]
  · rfl

theorem one_spec (check : Check) (hostname : String) : ∃ results rest, check.one hostname = some (results, rest) ∧
    ∀ source ∈ check.sources.rows,
      (results.find? fun result => result.sourceId = source.id) = check.answer hostname source := by
  obtain ⟨after, committed⟩ := @commit_one check hostname
  refine ⟨check.sources.rows.filterMap (check.keptResult hostname) ++ check.raw hostname, after, ?_, ?_⟩
  · rw [one_eq, committed]
    rfl
  · intro source listed
    rw [List.find?_append, find_filterMap (fun source result => keptResult_sourceId) check.sources.unique listed, raw,
      find_filterMap (fun source result => freshResult_sourceId) check.sources.unique listed]
    unfold keptResult freshResult answer
    split
    · rw [Option.or_none]
    · rfl

abbrev Pair := String × Adapter × MonitoringSource

theorem one_table {results : List HostCheckResult} {after stored : Matches} (ran : check.one hostname = some (results, after))
    (committed : (storeAll check.env check.now ⟨check.table.rows, []⟩
      ((check.raw hostname).map fun result => (hostname, result))).commit = some stored) : stored = after := by
  rw [one_eq, committed] at ran
  exact (Prod.mk.inj (Option.some.inj ran)).2

def pairs (check : Check) (hostnames : List String) : List Pair :=
  hostnames.flatMap fun hostname =>
    (adaptersFor check.secrets check.sources.rows).map fun entry => (hostname, entry)

def toCheck (check : Check) (hostnames : List String) : List Pair :=
  (check.pairs hostnames).filter fun pair => !check.served pair.1 pair.2.2

def cells (check : Check) (hostnames : List String) : List ((String × Int) × HostCheckResult) :=
  ((check.pairs hostnames).filter fun pair => check.served pair.1 pair.2.2).filterMap (fun pair =>
    (check.row pair.1 pair.2.2).map fun row => (check.key pair.1 pair.2.2, matchToResult check.env pair.2.2 row)) ++
  (check.toCheck hostnames).map fun pair => (check.key pair.1 pair.2.2, checkHost check.answers pair.2 pair.1)

def stores (check : Check) (hostnames : List String) : List (String × HostCheckResult) :=
  (check.toCheck hostnames).map fun pair => (pair.1, checkHost check.answers pair.2 pair.1)

theorem mem_pairs {pair : Pair} : pair ∈ check.pairs hostnames ↔
    pair.1 ∈ hostnames ∧ pair.2.2 ∈ check.sources.rows ∧ check.adapter pair.2.2 = some pair.2.1 := by
  obtain ⟨hostname, adapter, source⟩ := pair
  simp only [pairs, adaptersFor, List.mem_flatMap, List.mem_map, List.mem_filterMap, Option.map_eq_some_iff]
  constructor
  · rintro ⟨other, listed, entry, ⟨origin, from_table, made, adapts, rfl⟩, same⟩
    cases same
    exact ⟨listed, from_table, adapts⟩
  · rintro ⟨listed, from_table, adapts⟩
    exact ⟨hostname, listed, (adapter, source), ⟨source, from_table, adapter, adapts, rfl⟩, rfl⟩

theorem matchAt_fleet {pair : Pair} (listed : pair ∈ check.pairs hostnames) :
    matchAt (matchesFor check.table (hostnames.map check.env.lower) (check.sources.rows.map MonitoringSource.id))
      (check.env.lower pair.1, pair.2.2.id) = check.row pair.1 pair.2.2 := by
  obtain ⟨host, source, -⟩ := mem_pairs.mp listed
  exact matchAt_matchesFor (List.mem_map_of_mem host) (List.mem_map_of_mem source)

theorem fleet_eq : check.fleet hostnames =
    (storeAll check.env check.now ⟨check.table.rows, []⟩ (check.stores hostnames)).commit.map fun after =>
      ((check.cells hostnames).foldl Matrix.set fun _ => none, after) := by
  have kept : (check.pairs hostnames).filter (fun pair => !check.force && matchFresh check.now
      (matchAt (matchesFor check.table (hostnames.map check.env.lower) (check.sources.rows.map MonitoringSource.id))
        (check.env.lower pair.1, pair.2.2.id))) =
      (check.pairs hostnames).filter fun pair => check.served pair.1 pair.2.2 := by
    apply List.filter_congr
    intro pair listed
    rw [matchAt_fleet listed]
    rfl
  have asked : (check.pairs hostnames).filter (fun pair => !(!check.force && matchFresh check.now
      (matchAt (matchesFor check.table (hostnames.map check.env.lower) (check.sources.rows.map MonitoringSource.id))
        (check.env.lower pair.1, pair.2.2.id)))) = check.toCheck hostnames := by
    apply List.filter_congr
    intro pair listed
    rw [matchAt_fleet listed]
    rfl
  have cells : ((check.pairs hostnames).filter fun pair => check.served pair.1 pair.2.2).filterMap (fun pair =>
      (matchAt (matchesFor check.table (hostnames.map check.env.lower) (check.sources.rows.map MonitoringSource.id))
        (check.env.lower pair.1, pair.2.2.id)).map fun row =>
          ((check.env.lower pair.1, pair.2.2.id), matchToResult check.env pair.2.2 row)) =
      ((check.pairs hostnames).filter fun pair => check.served pair.1 pair.2.2).filterMap (fun pair =>
        (check.row pair.1 pair.2.2).map fun row => (check.key pair.1 pair.2.2, matchToResult check.env pair.2.2 row)) := by
    apply List.filterMap_congr
    intro pair listed
    rw [matchAt_fleet (List.mem_filter.mp listed).1]
    rfl
  unfold fleet runChecksFleet
  dsimp only
  split
  next nothing =>
    have empty : check.pairs hostnames = [] := by
      unfold pairs
      rcases nothing with none | rfl
      · rw [none]
        simp
      · rfl
    rw [stores, Check.cells, toCheck, empty]
    simp [commit_nil]
  · rw [← pairs, kept, asked, cells, List.map_map, List.map_map]
    split
    next none =>
      rw [stores, Check.cells, none, List.map_nil, List.map_nil, List.append_nil, commit_nil]
      rfl
    · rw [Check.cells, List.foldl_append]
      rfl

theorem row_isSome_iff : (check.row hostname source).isSome = true ↔
    check.key hostname source ∈ check.table.rows.map MonitoringMatch.key := by
  rw [row, matchAt, List.find?_isSome, List.mem_map]
  simp only [decide_eq_true_eq]
  rfl

theorem mem_adaptersFor {entry : Adapter × MonitoringSource} :
    entry ∈ adaptersFor check.secrets check.sources.rows ↔
      entry.2 ∈ check.sources.rows ∧ check.adapter entry.2 = some entry.1 := by
  obtain ⟨adapter, source⟩ := entry
  simp only [adaptersFor, List.mem_filterMap, Option.map_eq_some_iff]
  constructor
  · rintro ⟨origin, listed, made, adapts, same⟩
    cases same
    exact ⟨listed, adapts⟩
  · rintro ⟨listed, adapts⟩
    exact ⟨source, listed, adapter, adapts, rfl⟩

theorem entries_nodup : ((adaptersFor check.secrets check.sources.rows).map fun entry => check.key hostname entry.2).Nodup := by
  have sources : ((adaptersFor check.secrets check.sources.rows).map fun entry => entry.2.id).Sublist
      (check.sources.rows.map MonitoringSource.id) := by
    unfold adaptersFor
    rw [List.map_filterMap]
    induction check.sources.rows with
    | nil => exact List.Sublist.refl _
    | cons first rest ih =>
        cases made : adapterOf check.secrets first with
        | none =>
            rw [List.filterMap_cons_none (by simp [made])]
            exact ih.cons _
        | some adapter =>
            rw [List.filterMap_cons_some (b := first.id) (by simp [made])]
            exact ih.cons_cons _
  have ids := sources.nodup check.sources.unique
  have keyed : (adaptersFor check.secrets check.sources.rows).map (fun entry => check.key hostname entry.2) =
      ((adaptersFor check.secrets check.sources.rows).map fun entry => entry.2.id).map
        (Prod.mk (check.env.lower hostname)) := by
    rw [List.map_map]
    rfl
  rw [keyed]
  exact ids.map fun _ _ same => (Prod.mk.inj same).2

theorem stores_keys : ((check.stores hostnames).map (storeKey check.env)).filter
      (fun key => key ∉ check.table.rows.map MonitoringMatch.key) =
    hostnames.flatMap fun hostname =>
      ((adaptersFor check.secrets check.sources.rows).map fun entry => check.key hostname entry.2).filter
        fun key => key ∉ check.table.rows.map MonitoringMatch.key := by
  have keys : (check.stores hostnames).map (storeKey check.env) =
      (check.toCheck hostnames).map fun pair => check.key pair.1 pair.2.2 := by
    rw [stores, List.map_map]
    apply List.map_congr_left
    intro pair listed
    obtain ⟨-, -, adapts⟩ := mem_pairs.mp (List.mem_filter.mp listed).1
    have same : (checkHost check.answers pair.2 pair.1).sourceId = pair.2.2.id := checkHost_sourceId adapts
    exact Prod.ext rfl same
  have unserved : ∀ pair ∈ check.pairs hostnames, check.key pair.1 pair.2.2 ∉ check.table.rows.map MonitoringMatch.key →
      check.served pair.1 pair.2.2 = false := by
    intro pair _ absent
    cases kept : check.served pair.1 pair.2.2 with
    | false => rfl
    | true => exact absurd (row_isSome_iff.mp (served_row kept)) absent
  have asked : (check.toCheck hostnames).filter
      ((fun key => decide (key ∉ check.table.rows.map MonitoringMatch.key)) ∘ fun pair => check.key pair.1 pair.2.2) =
      (check.pairs hostnames).filter
        ((fun key => decide (key ∉ check.table.rows.map MonitoringMatch.key)) ∘ fun pair => check.key pair.1 pair.2.2) := by
    rw [toCheck, List.filter_filter]
    apply List.filter_congr
    intro pair listed
    by_cases absent : check.key pair.1 pair.2.2 ∉ check.table.rows.map MonitoringMatch.key
    · simp only [Function.comp_apply, unserved pair listed absent, Bool.not_false, Bool.and_true]
    · simp only [Function.comp_apply, decide_eq_false absent, Bool.false_and]
  rw [keys, List.filter_map, asked, ← List.filter_map, pairs, List.map_flatMap, List.filter_flatMap]
  apply List.flatMap_congr
  intro hostname _
  rw [List.map_map]
  rfl

theorem commits_iff : (storeAll check.env check.now ⟨check.table.rows, []⟩ (check.stores hostnames)).commit.isSome = true ↔
    hostnames.Pairwise fun first second => check.env.lower first = check.env.lower second →
      ∀ source ∈ check.sources.rows, (check.adapter source).isSome → (check.row first source).isSome := by
  rw [commit_isSome_iff, stores_keys, List.nodup_flatMap]
  have each : ∀ hostname ∈ hostnames,
      (((adaptersFor check.secrets check.sources.rows).map fun entry => check.key hostname entry.2).filter
        fun key => key ∉ check.table.rows.map MonitoringMatch.key).Nodup := fun _ _ => entries_nodup.filter _
  rw [and_iff_right each]
  apply List.Pairwise.iff
  intro first second
  constructor
  · intro apart same source listed adapts
    obtain ⟨adapter, made⟩ := Option.isSome_iff_exists.mp adapts
    by_contra absent
    rw [row_isSome_iff] at absent
    have entry : (adapter, source) ∈ adaptersFor check.secrets check.sources.rows := mem_adaptersFor.mpr ⟨listed, made⟩
    have keys : check.key first source = check.key second source := by rw [key, key, same]
    refine apart (List.mem_filter.mpr ⟨List.mem_map_of_mem entry, decide_eq_true absent⟩) ?_
    refine List.mem_filter.mpr ⟨List.mem_map.mpr ⟨(adapter, source), entry, keys.symm⟩, decide_eq_true absent⟩
  · intro stored key inFirst inSecond
    obtain ⟨fromFirst, absent⟩ := List.mem_filter.mp inFirst
    obtain ⟨⟨adapter, source⟩, entry, rfl⟩ := List.mem_map.mp fromFirst
    obtain ⟨⟨other, otherSource⟩, otherEntry, same⟩ := List.mem_map.mp (List.mem_filter.mp inSecond).1
    obtain ⟨listed, made⟩ := mem_adaptersFor.mp entry
    have names : check.env.lower first = check.env.lower second := (Prod.mk.inj same).1.symm
    have there := stored names source listed (Option.isSome_iff_exists.mpr ⟨adapter, made⟩)
    exact of_decide_eq_true absent (row_isSome_iff.mp there)

theorem answer_isSome (adapts : check.adapter source = some adapter) : ∃ result, check.answer hostname source = some result := by
  unfold answer
  split
  next kept =>
    obtain ⟨row, found⟩ := Option.isSome_iff_exists.mp (served_row kept)
    rw [found]
    exact ⟨_, rfl⟩
  · rw [adapts]
    exact ⟨_, rfl⟩

theorem mem_cells {cell : (String × Int) × HostCheckResult} : cell ∈ check.cells hostnames ↔
    ∃ hostname ∈ hostnames, ∃ source ∈ check.sources.rows, (check.adapter source).isSome ∧
      cell.1 = check.key hostname source ∧ check.answer hostname source = some cell.2 := by
  unfold cells toCheck
  rw [List.mem_append, List.mem_filterMap, List.mem_map]
  constructor
  · rintro (⟨pair, listed, from_row⟩ | ⟨pair, listed, rfl⟩)
    · obtain ⟨inPairs, kept⟩ := List.mem_filter.mp listed
      obtain ⟨host, source, adapts⟩ := mem_pairs.mp inPairs
      obtain ⟨row, found, rfl⟩ := Option.map_eq_some_iff.mp from_row
      refine ⟨pair.1, host, pair.2.2, source, Option.isSome_iff_exists.mpr ⟨_, adapts⟩, rfl, ?_⟩
      rw [answer, if_pos kept, found]
      rfl
    · obtain ⟨inPairs, asked⟩ := List.mem_filter.mp listed
      obtain ⟨host, source, adapts⟩ := mem_pairs.mp inPairs
      refine ⟨pair.1, host, pair.2.2, source, Option.isSome_iff_exists.mpr ⟨_, adapts⟩, rfl, ?_⟩
      rw [answer, if_neg (by simpa using asked), adapts]
      rfl
  · rintro ⟨hostname, host, source, listed, made, keyed, answered⟩
    obtain ⟨adapter, adapts⟩ := Option.isSome_iff_exists.mp made
    have inPairs : (hostname, adapter, source) ∈ check.pairs hostnames := mem_pairs.mpr ⟨host, listed, adapts⟩
    unfold answer at answered
    split at answered
    next kept =>
      obtain ⟨row, found, result⟩ := Option.map_eq_some_iff.mp answered
      refine .inl ⟨(hostname, adapter, source), List.mem_filter.mpr ⟨inPairs, kept⟩, ?_⟩
      exact Option.map_eq_some_iff.mpr ⟨row, found, Prod.ext keyed.symm result⟩
    next asked =>
      rw [adapts] at answered
      refine .inr ⟨(hostname, adapter, source), List.mem_filter.mpr ⟨inPairs, by simpa using asked⟩, ?_⟩
      exact Prod.ext keyed.symm (Option.some.inj answered)

section Cells

variable {cells : List ((String × Int) × HostCheckResult)} {matrix : Matrix} {place : String × Int} {value : HostCheckResult}

theorem foldl_set_absent (absent : ∀ cell ∈ cells, cell.1 ≠ place) : cells.foldl Matrix.set matrix place = matrix place := by
  induction cells generalizing matrix with
  | nil => rfl
  | cons cell rest ih =>
      rw [List.foldl_cons, ih fun other member => absent other (List.mem_cons_of_mem cell member)]
      exact Function.update_of_ne (absent cell List.mem_cons_self).symm _ _

theorem foldl_set_value (all : ∀ cell ∈ cells, cell.1 = place → cell.2 = value) (there : ∃ cell ∈ cells, cell.1 = place) :
    cells.foldl Matrix.set matrix place = some value := by
  induction cells using List.reverseRecOn with
  | nil =>
      obtain ⟨cell, member, -⟩ := there
      cases member
  | append_singleton front cell ih =>
      rw [List.foldl_append, List.foldl_cons, List.foldl_nil, Matrix.set]
      by_cases here : cell.1 = place
      · rw [here, Function.update_self, all cell (List.mem_append_right _ List.mem_cons_self) here]
      · rw [Function.update_of_ne (Ne.symm here)]
        obtain ⟨other, member, same⟩ := there
        rcases List.mem_append.mp member with before | last
        · exact ih (fun cell inFront => all cell (List.mem_append_left _ inFront)) ⟨other, before, same⟩
        · rw [List.mem_singleton.mp last] at same
          exact absurd same here

end Cells

theorem source_of_key {first second : String} {other : MonitoringSource} (listed : source ∈ check.sources.rows)
    (otherListed : other ∈ check.sources.rows) (same : check.key first source = check.key second other) :
    check.env.lower first = check.env.lower second ∧ source = other :=
  ⟨(Prod.mk.inj same).1, check.sources.eq_of_key listed otherListed (Prod.mk.inj same).2⟩

theorem matrix_absent (listed : source ∈ check.sources.rows) (missing : check.adapter source = none) :
    (check.cells hostnames).foldl Matrix.set (fun _ => none) (check.key hostname source) = none := by
  apply foldl_set_absent
  intro cell member same
  obtain ⟨other, -, origin, originListed, made, keyed, -⟩ := mem_cells.mp member
  obtain ⟨-, rfl⟩ := source_of_key listed originListed (same.symm.trans keyed)
  rw [missing] at made
  cases made

theorem answer_congr {first second : String} (uniform : check.Uniform hostnames) (firstListed : first ∈ hostnames)
    (secondListed : second ∈ hostnames) (same : check.env.lower first = check.env.lower second)
    (listed : source ∈ check.sources.rows) (adapts : check.adapter source = some adapter) :
    check.answer first source = check.answer second source := by
  have rows : check.row first source = check.row second source := by rw [row, row, same]
  have kept : check.served first source = check.served second source := by rw [served, served, rows]
  unfold answer
  rw [← kept, rows]
  by_cases served : check.served first source = true
  · rw [if_pos served, if_pos served]
  · rw [if_neg served, if_neg served, adapts, Option.map_some, Option.map_some,
      uniform.alike first firstListed second secondListed same source listed adapter adapts served]

/-- The fleet check agrees with the checks of its hosts exactly when hosts of one name have rows and answers in
common and no kept result is of a source without an adapter. -/
theorem fleet_agrees_iff (check : Check) (hostnames : List String) : check.Agrees hostnames ↔ check.Uniform hostnames := by
  constructor
  · rintro ⟨matrix, after, ran, cells, -⟩
    rw [fleet_eq] at ran
    obtain ⟨committed, commits, same⟩ := Option.map_eq_some_iff.mp ran
    obtain ⟨rfl, rfl⟩ := Prod.mk.inj same
    have agrees : ∀ hostname ∈ hostnames, ∀ source ∈ check.sources.rows,
        (check.cells hostnames).foldl Matrix.set (fun _ => none) (check.key hostname source) =
          check.answer hostname source := by
      intro hostname host source listed
      obtain ⟨results, rest, one, found⟩ := cells hostname host source listed
      obtain ⟨expected, others, runs, answers⟩ := one_spec check hostname
      obtain ⟨rfl, -⟩ := Prod.mk.inj (Option.some.inj (one.symm.trans runs))
      rw [found, answers source listed]
    constructor
    · exact commits_iff.mp (by rw [commits]; rfl)
    · intro first firstListed second secondListed same source listed adapter adapts asked
      have keys : check.key first source = check.key second source := by rw [key, key, same]
      have served : ¬ check.served second source = true := by
        rwa [Check.served, row, ← same]
      have results := (agrees first firstListed source listed).symm.trans
        ((congrArg _ keys).trans (agrees second secondListed source listed))
      rw [answer, answer, if_neg asked, if_neg served, adapts] at results
      exact Option.some.inj results
    · intro hostname host source listed none kept
      have empty := agrees hostname host source listed
      rw [matrix_absent listed none, answer, if_pos kept] at empty
      obtain ⟨row, found⟩ := Option.isSome_iff_exists.mp (served_row kept)
      rw [found] at empty
      cases empty
  · intro uniform
    obtain ⟨after, commits⟩ := Option.isSome_iff_exists.mp (commits_iff.mpr uniform.stored)
    refine ⟨_, after, by rw [fleet_eq, commits]; rfl, ?_, ?_⟩
    · intro hostname host source listed
      obtain ⟨results, rest, runs, answers⟩ := one_spec check hostname
      refine ⟨results, rest, runs, ?_⟩
      rw [answers source listed]
      cases adapts : check.adapter source with
      | none =>
          rw [matrix_absent listed adapts, answer, if_neg (uniform.asked hostname host source listed adapts), adapts]
          rfl
      | some adapter =>
          obtain ⟨result, answered⟩ := @answer_isSome check hostname source adapter adapts
          rw [answered]
          apply foldl_set_value
          · intro cell member same
            obtain ⟨other, otherHost, origin, originListed, -, keyed, found⟩ := mem_cells.mp member
            obtain ⟨names, rfl⟩ := source_of_key listed originListed (same.symm.trans keyed)
            have both := answer_congr uniform host otherHost names listed adapts
            rw [answered, found] at both
            exact (Option.some.inj both).symm
          · have member : (check.key hostname source, result) ∈ check.cells hostnames :=
              mem_cells.mpr ⟨hostname, host, source, listed, Option.isSome_iff_exists.mpr ⟨adapter, adapts⟩, rfl, answered⟩
            exact ⟨_, member, rfl⟩
    · intro hostname host source listed made asked
      obtain ⟨adapter, adapts⟩ := Option.isSome_iff_exists.mp made
      have pair : (hostname, adapter, source) ∈ check.toCheck hostnames :=
        List.mem_filter.mpr ⟨mem_pairs.mpr ⟨host, listed, adapts⟩, by simpa using asked⟩
      have stored := storeAll_stored commits (List.mem_map_of_mem pair)
      have keyed : storeKey check.env (hostname, checkHost check.answers (adapter, source) hostname) =
          check.key hostname source := Prod.ext rfl (checkHost_sourceId adapts)
      rw [keyed] at stored
      obtain ⟨row, member, same⟩ := List.mem_map.mp stored
      refine ⟨row, ⟨member, same⟩, ?_⟩
      rintro other ⟨otherMember, otherSame⟩
      exact List.inj_on_of_nodup_map after.unique otherMember member (otherSame.trans same.symm)

end Check

def emptyCache : Check where
  env := { lower, dumps := fun _ => "\x7b\x7d", loads := fun _ => [] }
  answers := fun _ _ => .ok { found := true }
  now := 0
  table := ⟨[], List.nodup_nil⟩
  secrets := ∅
  sources := ⟨[{
    id := 1, tenantId := 1, name := "dd", tool := "datadog", url := "datadoghq.com", username := none
    tokenSecret := none, token2Secret := none, enabled := true }], List.nodup_singleton _⟩
  force := false

/-- Two hosts whose names differ in case end in an integrity error, although each can be checked alone. -/
theorem two_spellings_fail : emptyCache.fleet ["web", "WEB"] = none ∧ ¬ emptyCache.Agrees ["web", "WEB"] := by
  have failed : emptyCache.fleet ["web", "WEB"] = none := rfl
  refine ⟨failed, ?_⟩
  rintro ⟨matrix, after, ran, -⟩
  rw [failed] at ran
  cases ran

end Dosm.Monitoring
