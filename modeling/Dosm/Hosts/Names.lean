import Dosm.Hosts.JumpGraph

namespace Dosm.Hosts

open Models Checks

/-! The names of hosts: unique within a tenant, and every tenant is there. -/

def placeAndName (host : Host) : Int × String := (host.tenantId, host.name)

structure Named (db : Database) : Prop where
  distinct : db.hosts.Distinct placeAndName
  placed : ∀ host ∈ db.hosts.rows, (db.tenants.get host.tenantId).isSome

section Writers

variable {db after : Database} {host draft row : Host} {args : HostArgs} {tenant hostId id : Int}
  {self : Option Int} {unflag : Except HostError Unit} {names : List String}

theorem validateHost_row (valid : validateHost db tenant self args unflag = .ok draft) :
    draft.name = args.name ∧ draft.tenantId = tenant := by
  obtain ⟨_, _, valid⟩ := bind_ok valid
  obtain ⟨_, _, valid⟩ := bind_ok valid
  obtain ⟨_, _, valid⟩ := bind_ok valid
  obtain ⟨_, _, valid⟩ := bind_ok valid
  obtain ⟨_, _, valid⟩ := bind_ok valid
  obtain ⟨_, _, valid⟩ := bind_ok valid
  obtain ⟨_, _, same⟩ := bind_ok valid
  cases same
  exact ⟨rfl, rfl⟩

theorem nameTaken_iff {name : String} : nameTaken db tenant name self = true ↔
    ∃ row ∈ db.hosts.rows, (row.tenantId = tenant ∧ row.name = name) ∧ self ≠ some row.id := by
  simp [nameTaken]

theorem integrityError_none_iff : integrityError db host self = none ↔
    nameTaken db host.tenantId host.name self = false ∧ (db.tenants.get host.tenantId).isSome := by
  unfold integrityError
  cases nameTaken db host.tenantId host.name self <;> cases db.tenants.get host.tenantId <;> simp

theorem tags_tenants : (names.foldl (tagHost tenant hostId) db).tenants = db.tenants := by
  induction names generalizing db with
  | nil => rfl
  | cons name rest ih =>
      rw [List.foldl_cons, ih]
      simp only [tagHost, getOrCreateTag]
      split
      · rfl
      · rfl

def rowAt (draft : Host) (id : Int) : Host := { draft with id }

def savedRow (draft row : Host) : Host := { draft with id := row.id, tenantId := row.tenantId }

theorem createHost_row (created : createHost db tenant args = .ok (after, hostId)) :
    ∃ draft, (draft.name = args.name ∧ draft.tenantId = tenant) ∧ integrityError db draft none = none ∧
      after.hosts = db.hosts.insert (rowAt draft) ∧ after.tenants = db.tenants := by
  obtain ⟨draft, valid, created⟩ := bind_ok created
  refine ⟨draft, validateHost_row valid, ?_⟩
  split at created
  · cases created
  · rename_i intact
    cases created
    exact ⟨intact, tags_hosts, tags_tenants⟩

theorem updateHost_row (updated : updateHost db host args = .ok after) :
    ∃ draft, (draft.name = args.name ∧ draft.tenantId = host.tenantId) ∧
      integrityError db draft (some host.id) = none ∧
      after.hosts = db.hosts.modify host.id (savedRow draft) ∧ after.tenants = db.tenants := by
  obtain ⟨draft, valid, updated⟩ := bind_ok updated
  refine ⟨draft, validateHost_row valid, ?_⟩
  split at updated
  · cases updated
  · rename_i intact
    cases updated
    exact ⟨intact, tags_hosts, tags_tenants⟩

theorem Named.create (named : Named db) (created : createHost db tenant args = .ok (after, hostId)) :
    Named after := by
  obtain ⟨draft, _, intact, hosts, tenants⟩ := createHost_row created
  obtain ⟨untaken, placed⟩ := integrityError_none_iff.mp intact
  constructor
  · rw [hosts]
    refine Table.distinct_insert (rowAt draft) (fun _ => rfl) named.distinct ?_
    intro other member same
    have taken : nameTaken db draft.tenantId draft.name none = true :=
      nameTaken_iff.mpr ⟨other, member, Prod.mk.inj same, nofun⟩
    rw [untaken] at taken
    cases taken
  · rw [hosts, tenants]
    intro row member
    rcases Table.mem_insert.mp member with before | rfl
    · exact named.placed row before
    · exact placed

theorem Named.update (named : Named db) (found : db.hosts.get host.id = some host)
    (updated : updateHost db host args = .ok after) : Named after := by
  obtain ⟨draft, ⟨_, sameTenant⟩, intact, hosts, tenants⟩ := updateHost_row updated
  obtain ⟨untaken, _⟩ := integrityError_none_iff.mp intact
  -- The row saved has the tenant of the row before, and a name that no other row of it has.
  have fresh : ∀ other ∈ db.hosts.rows, other.id ≠ host.id →
      placeAndName other ≠ (host.tenantId, draft.name) := by
    intro other member different same
    have taken : nameTaken db draft.tenantId draft.name (some host.id) = true :=
      nameTaken_iff.mpr ⟨other, member, sameTenant ▸ Prod.mk.inj same, fun clash => different (Option.some.inj clash).symm⟩
    rw [untaken] at taken
    cases taken
  have saved : ∀ row ∈ db.hosts.rows, row.id = host.id →
      placeAndName (savedRow draft row) = (host.tenantId, draft.name) := by
    intro row member same
    have isHost : row = host := Table.eq_of_key member (Table.get_eq_some_iff.mp found).1 same
    rw [isHost]
    rfl
  constructor
  · rw [hosts]
    intro first firstMember second secondMember same
    obtain ⟨firstOld, firstBefore, rfl⟩ := Table.mem_modify.mp firstMember
    obtain ⟨secondOld, secondBefore, rfl⟩ := Table.mem_modify.mp secondMember
    by_cases firstHost : firstOld.id = host.id
    · by_cases secondHost : secondOld.id = host.id
      · have sameKey : key firstOld = key secondOld := firstHost.trans secondHost.symm
        rw [Table.eq_of_key firstBefore secondBefore sameKey]
      · have firstKey : key firstOld = host.id := firstHost
        have secondKey : key secondOld ≠ host.id := secondHost
        rw [if_pos firstKey, if_neg secondKey, saved firstOld firstBefore firstHost] at same
        exact absurd same.symm (fresh secondOld secondBefore secondHost)
    · have firstKey : key firstOld ≠ host.id := firstHost
      by_cases secondHost : secondOld.id = host.id
      · have secondKey : key secondOld = host.id := secondHost
        rw [if_neg firstKey, if_pos secondKey, saved secondOld secondBefore secondHost] at same
        exact absurd same (fresh firstOld firstBefore firstHost)
      · have secondKey : key secondOld ≠ host.id := secondHost
        rw [if_neg firstKey, if_neg secondKey] at same ⊢
        exact named.distinct firstOld firstBefore secondOld secondBefore same
  · rw [hosts, tenants]
    intro row member
    obtain ⟨old, before, rfl⟩ := Table.mem_modify.mp member
    split
    · exact named.placed old before
    · exact named.placed old before

theorem mem_deleteHost (member : row ∈ (deleteHost db id).hosts.rows) :
    ∃ old ∈ db.hosts.rows, old.id ≠ id ∧ old.id = row.id ∧ placeAndName old = placeAndName row := by
  have listed : row ∈ (db.hosts.remove id).rows.map _ := member
  obtain ⟨old, kept, rfl⟩ := List.mem_map.mp listed
  obtain ⟨before, different⟩ := Table.mem_remove.mp kept
  exact ⟨old, before, different, rfl, rfl⟩

theorem Named.delete (named : Named db) : Named (deleteHost db id) where
  distinct := by
    refine named.distinct.of_origin ?_
    intro row member
    obtain ⟨old, before, _, sameKey, same⟩ := mem_deleteHost member
    exact ⟨old, before, sameKey, same⟩
  placed := by
    intro row member
    obtain ⟨old, before, _, _, same⟩ := mem_deleteHost member
    have sameTenant : old.tenantId = row.tenantId := congrArg Prod.fst same
    rw [← sameTenant]
    exact named.placed old before

end Writers

end Dosm.Hosts
