import ClusterPlacement.Proofs.Plan.Clusters
/-! Which cluster stands at which position of a plan. A primary that is online keeps its own position.
The others are replaced in ascending order, each by the next cluster that the failover policy offers
and that is online, so the position of a substitute says which of the offered clusters it is. -/

namespace ClusterPlacement

open Availability (Reports)
open Pool (namesOf onlineNames)
open Target (offlineCount sparesFrom substitute)

variable {s : Store} {spec : PolicySpec} {p : Policy} {plan : Plan} {a : Availability}

namespace Store

/-- The members that the failover policy offers, in declared order. A name counts where it comes
first, and a cluster that is an online primary already is not offered. -/
def offered (s : Store) (spec : PolicySpec) : List PoolMember :=
  (((spec.failover.flatMap s.named).map Cluster.member).filter
    (·.name ∉ s.onlineWanted spec)).eraseDupsBy fun a b => a.name == b.name

/-- The offered clusters that are online, in the same order. -/
def substitutes (s : Store) (spec : PolicySpec) : List String :=
  namesOf ((s.offered spec).filter (·.online))

/-- How many positions before position `i` have a cluster that is not online. -/
def offlineBefore (s : Store) (spec : PolicySpec) (i : Nat) : Nat :=
  ((s.wanted spec).take i).countP (!·.isOnline)

end Store

theorem Availability.Reports.spares_eq_substitutes (reports : Reports s spec a)
    (some : offlineCount a.primaries ≠ 0) : sparesFrom a .start = s.substitutes spec := by
  rw [reports.spares_eq_keepFresh some, Pool.keepFresh_eq_eraseDupsBy,
    Store.onlineNames_eq_wanted reports.primaries_eq]
  rfl

theorem Store.exists_of_mem_substitutes {name : String} (member : name ∈ s.substitutes spec) :
    ∃ c ∈ s.clusterList, c.name = name ∧ c.isOnline := by
  obtain ⟨m, kept, rfl⟩ := List.mem_map.1 member
  obtain ⟨kept, online⟩ := List.mem_filter.1 kept
  rw [offered, ← Pool.keepFresh_eq_eraseDupsBy] at kept
  obtain ⟨c, named, rfl⟩ := List.mem_map.1 (Pool.keepFresh_sublist.subset kept)
  exact ⟨c, mem_clusterList_of_mem_failover named, rfl, online⟩

/-- The cluster that is wanted at a position is the primary there. -/
theorem Store.primary_at_position {source : PrimarySource} {primaries : List Primary} {i : Nat}
    {c : Cluster} (h : s.primaries spec = .ok (source, primaries))
    (here : (s.wanted spec)[i]? = some c) : ∃ primary, primaries[i]? = some primary ∧
      primary.name = c.name ∧ primary.online = c.isOnline ∧
      offlineCount (primaries.take i) = s.offlineBefore spec i := by
  have same := map_member_primaries h
  have there : (primaries.map Primary.member)[i]? = some c.member := by
    rw [same, List.getElem?_map, here]
    rfl
  rw [List.getElem?_map] at there
  obtain ⟨primary, found, member⟩ := Option.map_eq_some_iff.1 there
  obtain ⟨name, online⟩ := PoolMember.mk.inj member
  refine ⟨primary, found, name, online, ?_⟩
  have counted := congrArg (fun members => (members.take i).countP (!·.online)) same
  simp only [← List.map_take, List.countP_map] at counted
  exact counted

namespace Plan

/-- The clusters of a plan that stand in for others. -/
def standIns (plan : Plan) : List String :=
  (plan.placements.filter (·.substitutedFor.isSome)).map (·.cluster)

variable {targets : List Target}

theorem Stages.standIns_eq (stages : Stages s p plan a targets) :
    plan.standIns = (sparesFrom a .start).take (offlineCount a.primaries) := by
  obtain ⟨place, placements, own⟩ := Placement.distribute_eq_map stages.distributed
  rw [standIns, placements, List.filter_map, List.map_map, stages.targets_eq,
    ← Target.names_substituted stages.reports.enough (i := 0)]
  simp only [Function.comp_def, own]

theorem Stages.length_placements (stages : Stages s p plan a targets) :
    plan.placements.length = (s.wanted p.spec).length := by
  have placements := congrArg List.length (Placement.clusters_distribute stages.distributed)
  have wanted := congrArg List.length (Store.map_member_primaries stages.reports.primaries_eq)
  simp only [List.length_map] at placements wanted
  rw [placements, ← wanted, stages.targets_eq, Target.length_substitute stages.reports.enough]

theorem Stages.getElem?_placements (stages : Stages s p plan a targets) {i : Nat} {c : Cluster}
    (here : (s.wanted p.spec)[i]? = some c) : ∃ placed, plan.placements[i]? = some placed ∧
      if c.isOnline then placed.cluster = c.name ∧ placed.substitutedFor = none
      else (s.substitutes p.spec)[s.offlineBefore p.spec i]? = some placed.cluster ∧
        placed.substitutedFor = some c.name := by
  obtain ⟨primary, there, name, online, before⟩ :=
    Store.primary_at_position stages.reports.primaries_eq here
  obtain ⟨place, placements, own⟩ := Placement.distribute_eq_map stages.distributed
  obtain ⟨t, stands, fills⟩ := Target.getElem?_substitute stages.reports.enough (i := 0) there
  refine ⟨place t, ?_, ?_⟩
  · rw [placements, stages.targets_eq, List.getElem?_map, stands]
    rfl
  · rw [(own t).1, (own t).2]
    rw [name, online, before] at fills
    by_cases up : c.isOnline
    · simpa only [up, if_true] using fills
    · have some : offlineCount a.primaries ≠ 0 := by
        have down : ¬primary.online := by rwa [online]
        exact Nat.ne_of_gt (List.countP_pos_iff.2
          ⟨primary, List.mem_of_getElem? there, by simpa using down⟩)
      rwa [stages.reports.spares_eq_substitutes some] at fills

/-- Every cluster of a plan is online, be it a primary or a stand-in. -/
theorem Stages.exists_of_mem_placements (stages : Stages s p plan a targets) {placed : Placement}
    (member : placed ∈ plan.placements) :
    ∃ c ∈ s.clusterList, c.name = placed.cluster ∧ c.isOnline := by
  have bound : placed.cluster ∈ plan.clusters := List.mem_map_of_mem member
  rcases List.mem_append.1 (stages.clusters_perm.mem_iff.1 bound) with primary | standIn
  · obtain ⟨c, wanted, named⟩ := List.mem_map.1 primary
    obtain ⟨wanted, online⟩ := List.mem_filter.1 wanted
    exact ⟨c, Store.mem_clusterList_of_mem_wanted wanted, named, online⟩
  · have some : offlineCount a.primaries ≠ 0 := by
      intro none
      simp [none] at standIn
    rw [stages.reports.spares_eq_substitutes some] at standIn
    exact Store.exists_of_mem_substitutes (List.mem_of_mem_take standIn)

/-- A plan has one placement for each wanted cluster. Where that cluster is online it is placed itself;
the others, counted in ascending order, are replaced by the online clusters that the failover policy
offers, counted in its order. Everything placed is online, and each stand-in is a cluster of its own. -/
theorem placements_by_position (computed : compute s p = .ok plan) :
    s.PrimariesFound p.spec ∧ plan.placements.length = (s.wanted p.spec).length ∧
    (∀ (i : Nat) (c : Cluster), (s.wanted p.spec)[i]? = some c →
      ∃ placed, plan.placements[i]? = some placed ∧
      if c.isOnline then placed.cluster = c.name ∧ placed.substitutedFor = none
      else (s.substitutes p.spec)[s.offlineBefore p.spec i]? = some placed.cluster ∧
        placed.substitutedFor = some c.name) ∧
    (∀ placed ∈ plan.placements, ∃ c ∈ s.clusterList, c.name = placed.cluster ∧ c.isOnline ∧
      (s.clusters.KeyedBy Cluster.name → s.cluster? placed.cluster = some c)) ∧
    plan.standIns.Nodup ∧ ∀ name ∈ plan.standIns, name ∉ s.onlineWanted p.spec := by
  obtain ⟨a, targets, stages⟩ := compute_eq_ok_iff.1 computed
  have looked := stages.reports.primaries_eq
  obtain ⟨distinct, apart⟩ := stages.reports.spares_distinct
  refine ⟨Store.exists_primaries_iff.1 ⟨_, looked⟩, ?_, ?_, ?_, ?_, ?_⟩
  · exact stages.length_placements
  · intro i c here
    exact stages.getElem?_placements here
  · intro placed member
    obtain ⟨c, stored, name, online⟩ := stages.exists_of_mem_placements member
    exact ⟨c, stored, name, online, fun keyed => name ▸ keyed.find?_of_mem_values stored⟩
  · rw [stages.standIns_eq]
    exact distinct.sublist (List.take_sublist _ _)
  · intro name member
    rw [stages.standIns_eq] at member
    rw [Store.onlineWanted, ← Store.onlineNames_eq_wanted looked]
    exact apart name (List.mem_of_mem_take member)

/-- Of seven clusters three are online, and a set lists some of both kinds. -/
def sevenClusters : Store :=
  let clusters : List Cluster :=
    [⟨"a", .empty, .offline⟩, ⟨"b", .empty, .offline⟩, ⟨"c", .empty, .offline⟩, ⟨"d", .empty, .online⟩,
      ⟨"e", .empty, .offline⟩, ⟨"f", .empty, .online⟩, ⟨"g", .empty, .online⟩]
  ((clusters.foldl Store.putCluster .empty).putClusterSet
    ⟨"spare", [⟨"d", ""⟩, ⟨"e", ""⟩, ⟨"f", ""⟩], none⟩).putResource ⟨"default", "web", none⟩

/-- A policy for three of them of which two are not online. Its failover policy names one of the
online primaries, a cluster that is not online, and one cluster twice. -/
def scattered : Policy :=
  { sample with
    spec := { sample.spec with
      entries := ["a", "g", "b"].map fun name => ⟨some name, none, 1, none, none⟩
      failover := [⟨"g", .cluster⟩, ⟨"c", .cluster⟩, ⟨"spare", .clusterSet⟩, ⟨"d", .cluster⟩] } }

theorem placements_by_position_scattered : ∃ plan, compute sevenClusters scattered = .ok plan ∧
    plan.clusters = ["d", "g", "f"] ∧ plan.standIns = ["d", "f"] ∧ plan.standIns.Nodup ∧
    (∃ placed, plan.placements[2]? = some placed ∧ placed.substitutedFor = some "b" ∧
      (sevenClusters.substitutes scattered.spec)[1]? = some placed.cluster) ∧
    ∀ placed ∈ plan.placements, ∃ c, sevenClusters.cluster? placed.cluster = some c ∧ c.isOnline := by
  have planned : (compute sevenClusters scattered).toOption.map (fun plan =>
      (plan.clusters, plan.standIns)) = some (["d", "g", "f"], ["d", "f"]) := by
    rw [compute_of_check rfl]
    rfl
  cases computed : compute sevenClusters scattered with
  | error => simp [computed, Except.toOption] at planned
  | ok plan =>
    rw [computed] at planned
    obtain ⟨clusters, standIns⟩ := Prod.mk.inj (Option.some.inj planned)
    obtain ⟨_, _, positions, online, distinct, _⟩ := placements_by_position computed
    obtain ⟨placed, found, substituted, name⟩ := positions 2 ⟨"b", .empty, .offline⟩ rfl
    have keyed : sevenClusters.clusters.KeyedBy Cluster.name :=
      Table.keyedBy_iff_forall_entries.2 (by decide)
    refine ⟨plan, rfl, clusters, standIns, distinct, ⟨placed, found, name, substituted⟩, ?_⟩
    intro placed member
    obtain ⟨c, _, _, up, lookedUp⟩ := online placed member
    exact ⟨c, lookedUp keyed, up⟩

end Plan

end ClusterPlacement
