import ClusterPlacement.Proofs.Plan.Clusters
/-! How much runs where when clusters go down. The share of a position belongs to the place of its primary
in the policy, or to the role that the primary plays, and a stand-in takes both over. So an outage
changes which clusters a plan names, but not what each position is to run. -/

namespace ClusterPlacement

open Target (offlineCount substitute)

variable {s s' : Store} {set : ClusterSet} {spec : PolicySpec} {p : Policy} {plan plan' : Plan}

/-- All that there is to a cluster but for its state. -/
def Cluster.profile (c : Cluster) : String × Labels := (c.name, c.labels)

namespace Store

/-- Stores that hold the same fleet, but for the states that its clusters are in. -/
structure SameButStates (s s' : Store) : Prop where
  clusters : ∀ name, (s'.cluster? name).map Cluster.profile = (s.cluster? name).map Cluster.profile
  clusterSets : s'.clusterSets = s.clusterSets
  resources : s'.resources = s.resources
  namespaces : s'.namespaces = s.namespaces

theorem sameButStates_of_setClusterState {name : String} {state : ClusterState}
    (keyed : s.clusters.KeyedBy Cluster.name) (changed : s.setClusterState name state = .ok s') :
    s.SameButStates s' := by
  unfold setClusterState at changed
  cases found : s.cluster? name with
  | none => simp [found] at changed
  | some c =>
    rw [found] at changed
    obtain rfl := Except.ok.inj changed
    obtain rfl : c.name = name := keyed _ _ found
    refine ⟨fun other => ?_, rfl, rfl, rfl⟩
    change ((s.clusters.insert c.name { c with state }).find? other).map _ = _
    rw [Table.find?_insert]
    split
    case isTrue here =>
      rw [here, found]
      rfl
    case isFalse => rfl

theorem SameButStates.clustersMatching (same : s.SameButStates s') (selector : Labels) :
    (s'.clustersMatching selector).map Cluster.profile =
      (s.clustersMatching selector).map Cluster.profile := by
  have tables : s'.clusters.map Cluster.profile = s.clusters.map Cluster.profile := by
    refine Table.ext_find? fun name => ?_
    rw [Table.find?_map, Table.find?_map]
    exact same.clusters name
  have listed : s'.clusterList.map Cluster.profile = s.clusterList.map Cluster.profile := by
    rw [clusterList, clusterList, ← Table.values_map, ← Table.values_map, tables]
  -- A selector looks at the labels only, so the state of the cluster it is asked about may be any.
  let wanted (profile : String × Labels) : Bool :=
    Cluster.matches ⟨profile.1, profile.2, .online⟩ selector
  have selected (s : Store) : (s.clustersMatching selector).map Cluster.profile =
      (s.clusterList.map Cluster.profile).filter wanted := by
    rw [List.filter_map]
    rfl
  rw [selected, selected, listed]

theorem SameButStates.setMembers (same : s.SameButStates s') {ps ps' : List Primary}
    (members : s.setMembers set = .ok ps) (members' : s'.setMembers set = .ok ps') :
    ps'.map (·.role) = ps.map (·.role) := by
  unfold Store.setMembers at members members'
  cases found : set.membership? with
  | none => simp [found] at members
  | some membership =>
    simp only [found] at members members'
    cases membership with
    | roles listed =>
      have role (s : Store) (m : SetMember) (p : Primary) (looked : s.primaryOfMember m = .ok p) :
          p.role = some m.role := by
        obtain ⟨_, _, rfl⟩ := primaryOfMember_eq_ok_iff.1 looked
        rfl
      rw [Except.map_eq_of_mapM members (role s), Except.map_eq_of_mapM members' (role s')]
    | selector selector =>
      obtain rfl := Except.ok.inj members
      obtain rfl := Except.ok.inj members'
      have many := congrArg List.length (same.clustersMatching selector)
      rw [List.length_map, List.length_map] at many
      simp only [List.map_map, Function.comp_def, List.map_const', many]

theorem SameButStates.primaries (same : s.SameButStates s') {source source' : PrimarySource}
    {ps ps' : List Primary} (found : s.primaries spec = .ok (source, ps))
    (found' : s'.primaries spec = .ok (source', ps')) :
    source' = source ∧ ps'.map (·.role) = ps.map (·.role) := by
  unfold Store.primaries at found found'
  cases given : spec.source with
  | assign =>
    simp only [given, Except.bind_eq_ok_iff, Except.pure_eq_ok_iff, Prod.mk.injEq] at found found'
    obtain ⟨_, looked, rfl, rfl⟩ := found
    obtain ⟨_, looked', rfl, rfl⟩ := found'
    have role (s : Store) (x : PolicyEntry × Nat) (p : Primary)
        (looked : s.primaryOfEntry x.1 x.2 = .ok p) : p.role = none := by
      obtain ⟨_, _, _, _, rfl⟩ := primaryOfEntry_eq_ok_iff.1 looked
      rfl
    constructor
    · rfl
    · rw [Except.map_eq_of_mapM looked (role s), Except.map_eq_of_mapM looked' (role s')]
  | clusterSet =>
    simp only [given] at found found'
    cases named : spec.clusterSet with
    | none => simp [named] at found
    | some name =>
      simp only [named, Except.bind_eq_ok_iff, Except.pure_eq_ok_iff, lookUpClusterSet_eq_ok_iff,
        Prod.mk.injEq] at found found'
      obtain ⟨set, stored, _, sourced, _, members, rfl, rfl⟩ := found
      obtain ⟨set', stored', _, sourced', _, members', rfl, rfl⟩ := found'
      obtain rfl : set = set' := by
        rw [clusterSet?, same.clusterSets] at stored'
        exact Option.some.inj (stored.symm.trans stored')
      exact ⟨Except.ok.inj (sourced'.symm.trans sourced), same.setMembers members members'⟩

/-- The clusters of a policy come from a set that lists them by their roles. -/
def UsesRoles (s : Store) (spec : PolicySpec) : Prop :=
  spec.source = .clusterSet ∧ ∃ name set members, spec.clusterSet = some name ∧
    s.clusterSet? name = some set ∧ set.membership? = some (.roles members)

theorem UsesRoles.source_eq (roles : s.UsesRoles spec) {source : PrimarySource} {ps : List Primary}
    (found : s.primaries spec = .ok (source, ps)) : source = .roleSet := by
  obtain ⟨given, name, set, members, named, stored, listed⟩ := roles
  simp only [Store.primaries, given, named, Except.bind_eq_ok_iff, Except.pure_eq_ok_iff,
    lookUpClusterSet_eq_ok_iff, Prod.mk.injEq] at found
  obtain ⟨set', stored', source', sourced, _, _, rfl, _⟩ := found
  obtain rfl : set = set' := Option.some.inj (stored.symm.trans stored')
  simp only [sourceOfSet, listed] at sourced
  exact (Except.ok.inj sourced).symm

end Store

namespace Placement

theorem map_place_of_seats {α : Type} {targets targets' : List Target} {field : Placement → α}
    {place : Target → Placement} (same : targets'.map Target.seat = targets.map Target.seat)
    (value : Nat × Option String → α) (own : ∀ t, field (place t) = value t.seat) :
    (targets'.map place).map field = (targets.map place).map field := by
  have through (targets : List Target) :
      (targets.map place).map field = (targets.map Target.seat).map value := by
    rw [List.map_map, List.map_map]
    exact List.map_congr_left fun t _ => own t
  rw [through, through, same]

/-- Replica counts go by the seats of the targets, and so do the mapping keys of roles. -/
theorem distribute_congr {source : PrimarySource} {targets targets' : List Target}
    {strategy strategy' : Strategy} {placements placements' : List Placement}
    (same : targets'.map Target.seat = targets.map Target.seat)
    (distributed : distribute spec source targets = .ok (strategy, placements))
    (distributed' : distribute spec source targets' = .ok (strategy', placements')) :
    strategy' = strategy ∧
      placements'.map (·.replicas) = placements.map (·.replicas) ∧
      (source = .roleSet → placements'.map (·.mappingKey) = placements.map (·.mappingKey)) := by
  unfold distribute at distributed distributed'
  cases chosen : Strategy.choose source spec.mode with
  | duplicated | selectorDuplicated =>
    simp only [chosen, Except.pure_eq_ok_iff, Prod.mk.injEq] at distributed distributed'
    obtain ⟨rfl, rfl⟩ := distributed
    obtain ⟨rfl, rfl⟩ := distributed'
    refine ⟨rfl, map_place_of_seats same (fun _ => some spec.replicas.toNat) fun _ => rfl, ?_⟩
    intro byRole
    simp [byRole, Strategy.choose] at chosen
  | weightedByCluster =>
    simp only [chosen, Except.bind_eq_ok_iff, Except.pure_eq_ok_iff, Prod.mk.injEq]
      at distributed distributed'
    obtain ⟨shares, shared, rfl, rfl⟩ := distributed
    obtain ⟨shares', shared', rfl, rfl⟩ := distributed'
    obtain rfl : shares = shares' := Except.ok.inj (shared.symm.trans shared')
    refine ⟨rfl, map_place_of_seats same (fun seat => shares[seat.1]?) fun _ => rfl, ?_⟩
    intro byRole
    simp [byRole, Strategy.choose] at chosen
  | weightedByRole =>
    simp only [chosen, Except.bind_eq_ok_iff, Except.pure_eq_ok_iff, Prod.mk.injEq]
      at distributed distributed'
    obtain ⟨shares, shared, rfl, rfl⟩ := distributed
    obtain ⟨shares', shared', rfl, rfl⟩ := distributed'
    obtain rfl : shares = shares' := Except.ok.inj (shared.symm.trans shared')
    refine ⟨rfl, ?_, fun _ => ?_⟩
    · exact map_place_of_seats same
        (fun seat => roleShare spec.entries shares (seat.2.getD "")) fun _ => rfl
    · exact map_place_of_seats same (fun seat => seat.2.getD "") fun _ => rfl

end Placement

namespace Plan

/-- Plans that are made of one fleet in different states have one strategy and one replica count for each
position, and with roles also one mapping key. -/
theorem replicas_of_sameButStates (same : s.SameButStates s') (computed : compute s p = .ok plan)
    (computed' : compute s' p = .ok plan') :
    plan'.strategy = plan.strategy ∧ plan'.placements.length = plan.placements.length ∧
    (∀ i : Nat, plan'.placements[i]?.map (·.replicas) = plan.placements[i]?.map (·.replicas)) ∧
    (s.UsesRoles p.spec → ∀ i : Nat,
      plan'.placements[i]?.map (·.mappingKey) = plan.placements[i]?.map (·.mappingKey)) := by
  obtain ⟨a, targets, stages⟩ := compute_eq_ok_iff.1 computed
  obtain ⟨a', targets', stages'⟩ := compute_eq_ok_iff.1 computed'
  obtain ⟨source, roles⟩ := same.primaries stages.reports.primaries_eq stages'.reports.primaries_eq
  have seats : targets'.map Target.seat = targets.map Target.seat := by
    rw [stages.targets_eq, stages'.targets_eq, Target.seats_substitute stages.reports.enough,
      Target.seats_substitute stages'.reports.enough, roles]
  have distributed' := stages'.distributed
  rw [source] at distributed'
  obtain ⟨strategy, replicas, keys⟩ := Placement.distribute_congr seats stages.distributed distributed'
  refine ⟨strategy, ?_, fun i => ?_, fun byRole i => ?_⟩
  · simpa using congrArg List.length replicas
  · rw [← List.getElem?_map, ← List.getElem?_map, replicas]
  · have listed := byRole.source_eq stages.reports.primaries_eq
    rw [← List.getElem?_map, ← List.getElem?_map, keys listed]

/-- Three clusters, two of which are a site each. -/
def sites : Store :=
  let clusters : List Cluster :=
    [⟨"a", .empty, .online⟩, ⟨"b", .empty, .online⟩, ⟨"c", .empty, .online⟩]
  ((clusters.foldl Store.putCluster .empty).putClusterSet
    ⟨"sites", [⟨"a", "edge"⟩, ⟨"b", "core"⟩], none⟩).putResource ⟨"default", "web", none⟩

/-- A policy that wants three times as much at the edge, with the third cluster to stand in. -/
def bySite : Policy :=
  { sample with
    spec := { sample.spec with
      source := .clusterSet
      clusterSet := some "sites"
      replicas := 8
      entries := [⟨none, some "core", 1, none, none⟩, ⟨none, some "edge", 3, none, none⟩]
      failover := [⟨"c", .cluster⟩] } }

def siteDown : Store := sites.putCluster ⟨"a", .empty, .offline⟩

/-- The stand-in for the edge runs what the edge ran, under its role. -/
theorem replicas_of_siteDown : sites.SameButStates siteDown ∧ sites.UsesRoles bySite.spec ∧
    ∃ plan plan', compute sites bySite = .ok plan ∧ compute siteDown bySite = .ok plan' ∧
      plan.clusters = ["a", "b"] ∧ plan'.clusters = ["c", "b"] ∧
      plan'.placements[0]?.map (·.replicas) = plan.placements[0]?.map (·.replicas) ∧
      plan'.placements[0]?.map (·.mappingKey) = plan.placements[0]?.map (·.mappingKey) := by
  have keyed : sites.clusters.KeyedBy Cluster.name :=
    Table.keyedBy_iff_forall_entries.2 (by decide)
  have down : sites.setClusterState "a" .offline = .ok siteDown := rfl
  have same := Store.sameButStates_of_setClusterState keyed down
  have roles : sites.UsesRoles bySite.spec := ⟨rfl, _, _, _, rfl, rfl, rfl⟩
  have planned : (compute sites bySite).toOption.map clusters = some ["a", "b"] := by
    rw [compute_of_check rfl]
    decide +kernel
  have planned' : (compute siteDown bySite).toOption.map clusters = some ["c", "b"] := by
    rw [compute_of_check rfl]
    decide +kernel
  obtain ⟨plan, computed, placed⟩ := Except.toOption_map_eq_some_iff.1 planned
  obtain ⟨plan', computed', placed'⟩ := Except.toOption_map_eq_some_iff.1 planned'
  obtain ⟨_, _, replicas, keys⟩ := replicas_of_sameButStates same computed computed'
  exact ⟨same, roles, plan, plan', computed, computed', placed, placed', replicas 0, keys roles 0⟩

end Plan

end ClusterPlacement
