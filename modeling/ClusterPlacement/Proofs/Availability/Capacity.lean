import ClusterPlacement.Proofs.Availability.Lookup
import ClusterPlacement.Proofs.Store.Keys
import ClusterPlacement.Proofs.Target.Substitution
import Mathlib.Data.Finset.Card
/-! Checking and resolving agree. A report is only given where the pool has a substitute for every
primary that is not online, and the cursor hands out the members that were counted, so resolving a report
never fails and puts one cluster at the place of each primary. -/

namespace ClusterPlacement

open Pool (namesOf onlineNames)
open Target (offlineCount sparesFrom substitute)

variable {s : Store} {spec : PolicySpec} {a : Availability}

namespace Availability

theorem length_unavailablePlaces (primaries : List Primary) :
    (unavailablePlaces primaries).length = offlineCount primaries := by
  have places := List.zipIdx_map_fst 0 primaries
  conv_rhs => rw [offlineCount, ← places, List.countP_map]
  rw [unavailablePlaces, List.length_map, ← List.countP_eq_length_filter]
  rfl

/-- What was found and checked before a report is given. -/
structure Reports (s : Store) (spec : PolicySpec) (a : Availability) : Prop where
  primaries_eq : s.primaries spec = .ok (a.source, a.primaries)
  unavailable_eq : a.unavailable = unavailablePlaces a.primaries
  pool_eq : (offlineCount a.primaries = 0 ∧ a.pool = none) ∨
    offlineCount a.primaries ≠ 0 ∧ spec.failover ≠ [] ∧ ∃ pool, a.pool = some pool ∧
      Pool.build s spec.failover a.primaries = .ok pool ∧ offlineCount a.primaries ≤ pool.capacity

theorem check_eq_ok_iff : check s spec = .ok a ↔ Reports s spec a := by
  have needless (primaries : List Primary) :
      (unavailablePlaces primaries).isEmpty ↔ offlineCount primaries = 0 := by
    rw [List.isEmpty_iff_length_eq_zero, length_unavailablePlaces]
  simp only [check, Except.bind_eq_ok_iff]
  constructor
  · rintro ⟨⟨source, primaries⟩, found, h⟩
    simp only at h
    split at h
    case isTrue none =>
      obtain rfl := Except.pure_eq_ok_iff.1 h
      exact ⟨found, rfl, .inl ⟨(needless _).1 none, rfl⟩⟩
    case isFalse some =>
      split at h
      case isTrue => simp at h
      case isFalse policy =>
        obtain ⟨pool, built, h⟩ := Except.bind_eq_ok_iff.1 h
        split at h
        case isTrue => simp at h
        case isFalse enough =>
          obtain rfl := Except.pure_eq_ok_iff.1 h
          rw [length_unavailablePlaces] at enough
          exact ⟨found, rfl, .inr ⟨fun zero => some ((needless _).2 zero), by simpa using policy,
            pool, rfl, built, Nat.le_of_not_lt enough⟩⟩
  · obtain ⟨source, primaries, unavailable, pool?⟩ := a
    rintro ⟨found, places, report⟩
    simp only at found places report
    subst places
    refine ⟨_, found, ?_⟩
    rcases report with ⟨zero, rfl⟩ | ⟨some, policy, pool, rfl, built, enough⟩
    · rw [if_pos ((needless _).2 zero)]
      rfl
    · rw [if_neg (mt (needless _).1 some), if_neg (by simpa using policy),
        Except.bind_eq_ok_iff]
      refine ⟨pool, built, ?_⟩
      rw [if_neg (by rw [length_unavailablePlaces]; exact Nat.not_lt.2 enough)]
      rfl

/-- The cursor hands out as many members as the pool counted. -/
theorem length_spares_start {pool : Pool} (wellFormed : pool.WellFormed) :
    (Cursor.start.spares pool).length = pool.capacity := by
  rw [wellFormed.capacity_eq_length, Cursor.spares, Cursor.ahead_start wellFormed]

/-- The clusters that can stand in for the primaries of a report: the online members of its pool, in
order. -/
def substitutes (a : Availability) : List String :=
  match a.pool with
  | none => []
  | some pool => namesOf (pool.members.filter (·.online))

/-- What the cursor hands out are the substitutes. -/
theorem Reports.sparesFrom_start (reports : Reports s spec a) :
    sparesFrom a .start = a.substitutes := by
  rcases reports.pool_eq with ⟨_, given⟩ | ⟨_, _, pool, given, built, _⟩
  · simp only [sparesFrom, substitutes, given]
  · have wellFormed := (Pool.build_members built).1
    simp only [sparesFrom, substitutes, given, Cursor.spares, Cursor.ahead_start wellFormed]

theorem Reports.enough (reports : Reports s spec a) :
    offlineCount a.primaries ≤ (sparesFrom a .start).length := by
  rcases reports.pool_eq with ⟨zero, _⟩ | ⟨_, _, pool, given, built, enough⟩
  · omega
  · simpa only [sparesFrom, given, length_spares_start (Pool.build_members built).1] using enough

theorem Reports.resolve_eq_ok (reports : Reports s spec a) :
    Target.resolve a = .ok (substitute 0 (sparesFrom a .start) a.primaries) :=
  Target.resolveFrom_eq_ok (fun _ _ => Cursor.placed_start) reports.enough

/-- Targets for the primaries of a report, one at the place and in the role of each. A primary that is
online is its own target. The others are replaced in order, each by the next of the substitutes. -/
structure Serves (a : Availability) (targets : List Target) : Prop where
  places : targets.map (·.primary) = List.range a.primaries.length
  roles : targets.map (·.role) = a.primaries.map (·.role)
  served : ∀ (i : Nat) (p : Primary), a.primaries[i]? = some p → ∃ t, targets[i]? = some t ∧
    if p.online then t.name = p.name ∧ t.substitutedFor = none
    else a.substitutes[offlineCount (a.primaries.take i)]? = some t.name ∧
      t.substitutedFor = some p.name

theorem Reports.exists_serves (reports : Reports s spec a) :
    ∃ targets, Target.resolve a = .ok targets ∧ Serves a targets := by
  refine ⟨_, reports.resolve_eq_ok, ?_, Target.roles_substitute reports.enough, ?_⟩
  · rw [Target.places_substitute reports.enough, List.range_eq_range']
  · intro i p here
    rw [← reports.sparesFrom_start]
    exact Target.getElem?_substitute reports.enough here

end Availability

namespace Store

/-- Everything that a check looks up is there. It looks for failover clusters only if some primary is
not online. -/
def Found (s : Store) (spec : PolicySpec) : Prop :=
  s.PrimariesFound spec ∧
    ((∃ c ∈ s.wanted spec, ¬c.isOnline) → ∀ entry ∈ spec.failover, s.EntryFound entry)

/-- How many positions of a policy have a cluster that is not online. -/
def offlineWanted (s : Store) (spec : PolicySpec) : Nat := (s.wanted spec).countP (!·.isOnline)

/-- The distinct online clusters that the failover policy names and that are no online primaries. -/
def standIns (s : Store) (spec : PolicySpec) : Finset String :=
  (((spec.failover.flatMap s.named).filter (·.isOnline)).map (·.name)).toFinset \
    (((s.wanted spec).filter (·.isOnline)).map (·.name)).toFinset

theorem mem_clusterList_of_find? {name : String} {c : Cluster} (found : s.cluster? name = some c) :
    c ∈ s.clusterList :=
  Table.mem_values_iff.2 ⟨name, found⟩

theorem mem_clusterList_of_mem_membersOf {found : Option ClusterSet} {c : Cluster}
    (member : c ∈ (found.map s.membersOf).getD []) : c ∈ s.clusterList := by
  cases found with
  | none => simp at member
  | some set =>
    rw [Option.map_some, Option.getD_some, membersOf] at member
    split at member
    case h_1 =>
      obtain ⟨m, _, here⟩ := List.mem_filterMap.1 member
      exact mem_clusterList_of_find? here
    case h_2 => exact (List.mem_filter.1 member).1
    case h_3 => simp at member

theorem mem_clusterList_of_mem_failover {entries : List FailoverEntry} {c : Cluster}
    (member : c ∈ entries.flatMap s.named) : c ∈ s.clusterList := by
  obtain ⟨entry, _, member⟩ := List.mem_flatMap.1 member
  unfold named at member
  split at member
  case h_1 => exact mem_clusterList_of_find? (Option.mem_toList.1 member)
  case h_2 => exact mem_clusterList_of_mem_membersOf member

theorem mem_clusterList_of_mem_wanted {c : Cluster} (member : c ∈ s.wanted spec) :
    c ∈ s.clusterList := by
  unfold wanted at member
  split at member
  case h_1 =>
    obtain ⟨entry, _, found⟩ := List.mem_filterMap.1 member
    obtain ⟨name, _, here⟩ := Option.bind_eq_some_iff.1 found
    exact mem_clusterList_of_find? here
  case h_2 => exact mem_clusterList_of_mem_membersOf member

theorem onlineNames_eq_wanted {source : PrimarySource} {primaries : List Primary}
    (h : s.primaries spec = .ok (source, primaries)) :
    onlineNames primaries = ((s.wanted spec).filter (·.isOnline)).map (·.name) := by
  have same := congrArg (fun members => namesOf (members.filter (·.online))) (map_member_primaries h)
  simp only [namesOf, List.filter_map, List.map_map] at same
  exact same

theorem offlineCount_eq_offlineWanted {source : PrimarySource} {primaries : List Primary}
    (h : s.primaries spec = .ok (source, primaries)) :
    offlineCount primaries = s.offlineWanted spec := by
  have same := congrArg (List.countP (!·.online)) (map_member_primaries h)
  simp only [List.countP_map] at same
  exact same

theorem flatten_walks {entries : List FailoverEntry} {walks : List (List PoolMember)}
    (h : entries.mapM (Pool.expand s) = .ok walks) :
    walks.flatten = (entries.flatMap s.named).map Cluster.member := by
  have related := Except.mapM_eq_ok_iff.1 h
  clear h
  induction related with
  | nil => rfl
  | cons head _ ih =>
    rw [List.flatten_cons, List.flatMap_cons, List.map_append, ih, expand_eq_named head]

section

variable {source : PrimarySource} {primaries : List Primary} {pool : Pool} {name : String}

theorem nodup_online_members (built : Pool.build s spec.failover primaries = .ok pool) :
    (namesOf (pool.members.filter (·.online))).Nodup := by
  obtain ⟨_, _, _, members⟩ := Pool.build_members built
  rw [members]
  exact Pool.nodup_keepFresh.sublist (List.filter_sublist.map _)

/-- A name is an online member's if the first cluster that the failover policy gives under it is online,
and no primary that is online has it. -/
theorem mem_online_members_iff (h : s.primaries spec = .ok (source, primaries))
    (built : Pool.build s spec.failover primaries = .ok pool) :
    name ∈ namesOf (pool.members.filter (·.online)) ↔
      name ∉ ((s.wanted spec).filter (·.isOnline)).map (·.name) ∧
        ∃ m, ((spec.failover.flatMap s.named).map Cluster.member).find? (·.name = name) = some m ∧
          m.online := by
  obtain ⟨_, walks, expanded, members⟩ := Pool.build_members built
  rw [flatten_walks expanded] at members
  simp only [namesOf, List.mem_map, List.mem_filter, members, Pool.mem_keepFresh_iff,
    ← onlineNames_eq_wanted h]
  constructor
  · rintro ⟨m, ⟨⟨new, first⟩, online⟩, rfl⟩
    exact ⟨new, m, first, online⟩
  · rintro ⟨new, m, first, online⟩
    obtain rfl : m.name = name := by simpa using List.find?_some first
    exact ⟨m, ⟨⟨new, first⟩, online⟩, rfl⟩

theorem mem_standIns_iff : name ∈ s.standIns spec ↔
    (∃ c ∈ spec.failover.flatMap s.named, c.isOnline ∧ c.name = name) ∧
      name ∉ ((s.wanted spec).filter (·.isOnline)).map (·.name) := by
  simp only [standIns, Finset.mem_sdiff, List.mem_toFinset, List.mem_map, List.mem_filter, and_assoc]

theorem mem_standIns_of_online_member (h : s.primaries spec = .ok (source, primaries))
    (built : Pool.build s spec.failover primaries = .ok pool)
    (member : name ∈ namesOf (pool.members.filter (·.online))) : name ∈ s.standIns spec := by
  obtain ⟨new, m, first, online⟩ := (mem_online_members_iff h built).1 member
  obtain ⟨c, named, rfl⟩ := List.mem_map.1 (List.mem_of_find?_eq_some first)
  have same : c.member.name = name := by simpa using List.find?_some first
  exact mem_standIns_iff.2 ⟨⟨c, named, online, same⟩, new⟩

/-- Members that share a name are one stored cluster, so keeping only the first loses no online one. -/
theorem online_member_of_mem_standIns (keyed : s.clusters.KeyedBy Cluster.name)
    (h : s.primaries spec = .ok (source, primaries))
    (built : Pool.build s spec.failover primaries = .ok pool) (standIn : name ∈ s.standIns spec) :
    name ∈ namesOf (pool.members.filter (·.online)) := by
  obtain ⟨⟨c, named, online, rfl⟩, new⟩ := mem_standIns_iff.1 standIn
  refine (mem_online_members_iff h built).2 ⟨new, ?_⟩
  have present := List.mem_map_of_mem (f := Cluster.member) named
  cases first : ((spec.failover.flatMap s.named).map Cluster.member).find? (·.name = c.name) with
  | none => exact absurd (decide_eq_true rfl) (List.find?_eq_none.1 first _ present)
  | some m =>
    obtain ⟨other, named', rfl⟩ := List.mem_map.1 (List.mem_of_find?_eq_some first)
    have sameName : other.member.name = c.name := by simpa using List.find?_some first
    change other.name = c.name at sameName
    have found' := keyed.find?_of_mem_values (mem_clusterList_of_mem_failover named')
    rw [sameName, keyed.find?_of_mem_values (mem_clusterList_of_mem_failover named)] at found'
    obtain rfl := Option.some.inj found'
    exact ⟨_, rfl, online⟩

/-- What a pool counts are the clusters that can stand in. -/
theorem capacity_eq_card (keyed : s.clusters.KeyedBy Cluster.name)
    (h : s.primaries spec = .ok (source, primaries))
    (built : Pool.build s spec.failover primaries = .ok pool) :
    pool.capacity = (s.standIns spec).card := by
  rw [(Pool.build_members built).1.capacity_eq_length,
    ← List.toFinset_card_of_nodup (nodup_online_members built)]
  congr 1
  ext name
  rw [List.mem_toFinset]
  exact ⟨mem_standIns_of_online_member h built, online_member_of_mem_standIns keyed h built⟩

end

end Store

namespace Availability

open Store (Found exists_primaries_iff exists_expand_iff offlineCount_eq_offlineWanted
  capacity_eq_card nodup_online_members mem_standIns_of_online_member)

/-- Where everything is found, a report is given exactly if enough clusters can stand in. -/
theorem exists_check_iff (keyed : s.clusters.KeyedBy Cluster.name) (found : s.Found spec) :
    (∃ a, check s spec = .ok a) ↔
      s.offlineWanted spec = 0 ∨
        spec.failover ≠ [] ∧ s.offlineWanted spec ≤ (s.standIns spec).card := by
  obtain ⟨⟨source, primaries⟩, looked⟩ := exists_primaries_iff.2 found.1
  have offline := offlineCount_eq_offlineWanted looked
  constructor
  · rintro ⟨a, checked⟩
    have reports := check_eq_ok_iff.1 checked
    rw [← offlineCount_eq_offlineWanted reports.primaries_eq]
    rcases reports.pool_eq with ⟨zero, _⟩ | ⟨_, policy, pool, _, built, enough⟩
    · exact .inl zero
    · rw [← capacity_eq_card keyed reports.primaries_eq built]
      exact .inr ⟨policy, enough⟩
  · intro enough
    by_cases zero : s.offlineWanted spec = 0
    · have reports : Reports s spec ⟨source, primaries, unavailablePlaces primaries, none⟩ :=
        ⟨looked, rfl, .inl ⟨offline.trans zero, rfl⟩⟩
      exact ⟨_, check_eq_ok_iff.2 reports⟩
    · obtain ⟨policy, enough⟩ := enough.resolve_left zero
      obtain ⟨c, wanted, down⟩ := List.countP_pos_iff.1 (Nat.pos_of_ne_zero zero)
      have expands (entry) (member : entry ∈ spec.failover) :=
        exists_expand_iff.2 (found.2 ⟨c, wanted, by simpa using down⟩ entry member)
      obtain ⟨pool, built⟩ := Pool.exists_build primaries expands
      rw [← capacity_eq_card keyed looked built, ← offline] at enough
      have reports : Reports s spec ⟨source, primaries, unavailablePlaces primaries, some pool⟩ :=
        ⟨looked, rfl, .inr ⟨offline ▸ zero, policy, pool, rfl, built, enough⟩⟩
      exact ⟨_, check_eq_ok_iff.2 reports⟩

theorem Reports.substitutes_standIn (reports : Reports s spec a) :
    a.substitutes.Nodup ∧ ∀ name ∈ a.substitutes, name ∈ s.standIns spec := by
  rcases reports.pool_eq with ⟨_, given⟩ | ⟨_, _, pool, given, built, _⟩
  · simp [substitutes, given]
  · simp only [substitutes, given]
    exact ⟨nodup_online_members built, fun _ => mem_standIns_of_online_member reports.primaries_eq built⟩

/-- Checking and resolving succeed together, and where everything is found they do so exactly if the
distinct clusters that can stand in are at least as many as the places to fill. Clusters sit under
their own names in every store that can come about. Every report that is given, whatever was stored,
resolves to one target for each primary, and the substitutes are distinct clusters that can stand in. -/
theorem check_then_resolve (s : Store) (spec : PolicySpec) :
    (s.clusters.KeyedBy Cluster.name → s.Found spec →
      ((∃ targets, (check s spec >>= Target.resolve) = .ok targets) ↔
        s.offlineWanted spec = 0 ∨
          spec.failover ≠ [] ∧ s.offlineWanted spec ≤ (s.standIns spec).card)) ∧
    ∀ a, check s spec = .ok a →
      Reports s spec a ∧ (a.substitutes.Nodup ∧ ∀ name ∈ a.substitutes, name ∈ s.standIns spec) ∧
        ∃ targets, Target.resolve a = .ok targets ∧ Serves a targets := by
  constructor
  · intro keyed found
    rw [← exists_check_iff keyed found]
    simp only [Except.bind_eq_ok_iff]
    constructor
    · rintro ⟨_, a, checked, _⟩
      exact ⟨a, checked⟩
    · rintro ⟨a, checked⟩
      exact ⟨_, a, checked, (check_eq_ok_iff.1 checked).resolve_eq_ok⟩
  · intro a checked
    have reports := check_eq_ok_iff.1 checked
    exact ⟨reports, reports.substitutes_standIn, reports.exists_serves⟩

/-- Of three clusters one is offline. There is one resource to place. -/
def threeClusters : Store :=
  let clusters : List Cluster :=
    [⟨"a", .empty, .offline⟩, ⟨"b", .empty, .online⟩, ⟨"c", .empty, .online⟩]
  (clusters.foldl Store.putCluster .empty).putResource ⟨"default", "web", some "/spec/replicas"⟩

/-- A policy for the first two of them, with the others as failover clusters, one of them twice. -/
def firstTwo : PolicySpec where
  resources := ["web"]
  source := .assign
  clusterSet := none
  replicas := 2
  mode := .duplicated
  entries := [⟨some "a", none, 1, none, none⟩, ⟨some "b", none, 1, none, none⟩]
  failover := [⟨"b", .cluster⟩, ⟨"c", .cluster⟩, ⟨"c", .cluster⟩]
  reschedule := true

theorem keyed_threeClusters : threeClusters.Keyed :=
  (((Store.keyed_empty.putCluster _).putCluster _).putCluster _).putResource _

theorem found_firstTwo : threeClusters.Found firstTwo := by
  constructor
  · simp only [Store.PrimariesFound, firstTwo, List.forall_mem_cons]
    exact ⟨⟨_, _, rfl, rfl⟩, ⟨_, _, rfl, rfl⟩, by simp⟩
  · intro _
    simp only [firstTwo, Store.EntryFound, List.forall_mem_cons]
    exact ⟨⟨_, rfl⟩, ⟨_, rfl⟩, ⟨_, rfl⟩, by simp⟩

/-- The third cluster takes the place of the first, which is offline. -/
theorem check_then_resolve_one_offline : threeClusters.Found firstTwo ∧
    ∃ a targets, check threeClusters firstTwo = .ok a ∧ Target.resolve a = .ok targets ∧
      targets.map (·.primary) = [0, 1] ∧ targets.map (·.role) = [none, none] ∧
      (∃ t, targets[0]? = some t ∧ t.name = "c" ∧ t.substitutedFor = some "a") ∧
      (∃ t, targets[1]? = some t ∧ t.name = "b" ∧ t.substitutedFor = none) ∧
      a.substitutes.Nodup ∧ ∃ targets, (check threeClusters firstTwo >>= Target.resolve) = .ok targets := by
  obtain ⟨agree, resolves⟩ := check_then_resolve threeClusters firstTwo
  have enough : threeClusters.offlineWanted firstTwo ≤ (threeClusters.standIns firstTwo).card := by
    decide +kernel
  have both := (agree keyed_threeClusters.clusters found_firstTwo).2 (.inr ⟨by decide, enough⟩)
  obtain ⟨-, ⟨distinct, -⟩, targets, resolved, serves⟩ := resolves _ rfl
  obtain ⟨t, first, name, replaced⟩ := serves.served 0 ⟨"a", none, false⟩ rfl
  obtain ⟨t', second, own⟩ := serves.served 1 ⟨"b", none, true⟩ rfl
  refine ⟨found_firstTwo, _, targets, rfl, resolved, serves.places, serves.roles,
    ⟨t, first, ?_, replaced⟩, ⟨t', second, own⟩, distinct, both⟩
  exact (Option.some.inj name).symm

end Availability

end ClusterPlacement
