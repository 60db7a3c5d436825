import ClusterPlacement.Plan
import ClusterPlacement.Proofs.Availability.Capacity
/-! Which clusters a plan binds. Every target gets a placement and every resource goes to all of them,
so the clusters of a plan are those of its targets: the online primaries and the stand-ins that were
handed out. Stand-ins differ from each other and from the online primaries. Primaries are taken as the
policy or the set lists them. -/

namespace ClusterPlacement

open Availability (Reports check_eq_ok_iff)
open Pool (onlineNames)
open Target (offlineCount sparesFrom substitute)

variable {s : Store} {spec : PolicySpec} {p : Policy} {plan : Plan}

/-- The names of the clusters that a policy wants and that are online, as often as they are listed. -/
def Store.onlineWanted (s : Store) (spec : PolicySpec) : List String :=
  ((s.wanted spec).filter (·.isOnline)).map (·.name)

/-- A selection has every cluster once, so it can only be a list that has one of them twice. -/
theorem Store.nodup_onlineWanted_of_selector {name : String} {set : ClusterSet} {labels : Labels}
    (keyed : s.clusters.KeyedBy Cluster.name) (source : spec.source = .clusterSet)
    (named : spec.clusterSet = some name) (found : s.clusterSet? name = some set)
    (selects : set.membership? = some (.selector labels)) : (s.onlineWanted spec).Nodup := by
  have wanted : s.wanted spec = s.clustersMatching labels := by
    simp only [Store.wanted, source, named, Option.bind_some, found, Option.map_some,
      Option.getD_some, membersOf, selects]
  rw [onlineWanted, wanted]
  have listed : ((s.clustersMatching labels).filter (·.isOnline)).Sublist s.clusterList :=
    List.filter_sublist.trans List.filter_sublist
  exact keyed.nodup_map_values.sublist (listed.map _)

def BoundResource.clusterNames (r : BoundResource) : List String := r.clusters.map (·.name)

namespace Availability

variable {a : Availability}

/-- The stand-ins are what one walk over all clusters that the failover policy names keeps. -/
theorem Reports.spares_eq_keepFresh (reports : Reports s spec a)
    (some : offlineCount a.primaries ≠ 0) :
    sparesFrom a .start = Pool.namesOf ((Pool.keepFresh (onlineNames a.primaries)
      ((spec.failover.flatMap s.named).map Cluster.member)).1.filter (·.online)) := by
  rcases reports.pool_eq with ⟨none, _⟩ | ⟨_, _, pool, given, built, _⟩
  · exact absurd none some
  · obtain ⟨_, walks, expanded, members⟩ := Pool.build_members built
    rw [reports.sparesFrom_start, ← Store.flatten_walks expanded, ← members]
    simp only [substitutes, given]

theorem Reports.spares_distinct (reports : Reports s spec a) :
    (sparesFrom a .start).Nodup ∧ ∀ name ∈ sparesFrom a .start, name ∉ onlineNames a.primaries := by
  obtain ⟨distinct, standIn⟩ := reports.substitutes_standIn
  rw [reports.sparesFrom_start, Store.onlineNames_eq_wanted reports.primaries_eq]
  exact ⟨distinct, fun name member => (Store.mem_standIns_iff.1 (standIn name member)).2⟩

end Availability

namespace Placement

variable {source : PrimarySource} {targets : List Target} {strategy : Strategy}
  {placements : List Placement}

/-- Whatever the strategy, each target gets one placement, in order, that only adds a count and a
mapping key to it. -/
theorem distribute_eq_map (h : distribute spec source targets = .ok (strategy, placements)) :
    ∃ place : Target → Placement, placements = targets.map place ∧
      ∀ t, (place t).cluster = t.name ∧ (place t).substitutedFor = t.substitutedFor := by
  simp only [distribute] at h
  split at h
  case h_1 =>
    obtain ⟨_, rfl⟩ := Prod.mk.inj (Except.pure_eq_ok_iff.1 h)
    exact ⟨_, rfl, fun _ => ⟨rfl, rfl⟩⟩
  case h_2 =>
    obtain ⟨_, rfl⟩ := Prod.mk.inj (Except.pure_eq_ok_iff.1 h)
    exact ⟨_, rfl, fun _ => ⟨rfl, rfl⟩⟩
  case h_3 =>
    obtain ⟨_, _, h⟩ := Except.bind_eq_ok_iff.1 h
    obtain ⟨_, rfl⟩ := Prod.mk.inj (Except.pure_eq_ok_iff.1 h)
    exact ⟨_, rfl, fun _ => ⟨rfl, rfl⟩⟩
  case h_4 =>
    obtain ⟨_, _, h⟩ := Except.bind_eq_ok_iff.1 h
    obtain ⟨_, rfl⟩ := Prod.mk.inj (Except.pure_eq_ok_iff.1 h)
    exact ⟨_, rfl, fun _ => ⟨rfl, rfl⟩⟩

theorem clusters_distribute (h : distribute spec source targets = .ok (strategy, placements)) :
    placements.map (·.cluster) = targets.map (·.name) := by
  obtain ⟨place, rfl, own⟩ := distribute_eq_map h
  rw [List.map_map]
  exact List.map_congr_left fun t _ => (own t).1

end Placement

namespace Plan

def clusters (plan : Plan) : List String := plan.placements.map (·.cluster)

/-- What each stage of a computation hands to the next. -/
structure Stages (s : Store) (p : Policy) (plan : Plan) (a : Availability) (targets : List Target) :
    Prop where
  reports : Reports s p.spec a
  resolved : Target.resolve a = .ok targets
  distributed : Placement.distribute p.spec a.source targets = .ok (plan.strategy, plan.placements)
  bound : p.spec.resources.mapM (bindResource s p plan.placements) = .ok plan.spec.resources
  policy_eq : plan.policy = p.key

theorem compute_eq_ok_iff : compute s p = .ok plan ↔ ∃ a targets, Stages s p plan a targets := by
  simp only [compute, Except.bind_eq_ok_iff, Except.pure_eq_ok_iff, check_eq_ok_iff]
  constructor
  · rintro ⟨a, reports, targets, resolved, ⟨_, _⟩, distributed, _, bound, rfl⟩
    exact ⟨a, targets, reports, resolved, distributed, bound, rfl⟩
  · rintro ⟨a, targets, stages⟩
    refine ⟨a, stages.reports, targets, stages.resolved, _, stages.distributed, _, stages.bound, ?_⟩
    rw [← stages.policy_eq]

/-- After a check only the distribution and the look-up of resources can fail. -/
theorem compute_of_check {a : Availability} (checked : Availability.check s p.spec = .ok a) :
    compute s p = do
      let (strategy, placements) ← Placement.distribute p.spec a.source
        (substitute 0 (sparesFrom a .start) a.primaries)
      let resources ← p.spec.resources.mapM (bindResource s p placements)
      return ⟨p.key, strategy, placements, ⟨resources⟩⟩ := by
  rw [compute, checked]
  change (Target.resolve a >>= _) = _
  rw [(check_eq_ok_iff.1 checked).resolve_eq_ok]
  rfl

theorem bindResource_eq_ok_iff {placements : List Placement} {name : String} {r : BoundResource} :
    bindResource s p placements name = .ok r ↔ ∃ stored, s.resource? p.ns name = some stored ∧
      r = ⟨name, placements.map fun placed =>
        ⟨placed.cluster, placed.overrides p.ns (s.namespaceLabels p.ns) stored⟩⟩ := by
  simp only [bindResource, Except.bind_eq_ok_iff, Except.pure_eq_ok_iff]
  refine exists_congr fun stored => and_congr ?_ eq_comm
  unfold Store.lookUpResource
  cases s.resource? p.ns name <;> simp

variable {a : Availability} {targets : List Target}

theorem Stages.targets_eq (stages : Stages s p plan a targets) :
    targets = substitute 0 (sparesFrom a .start) a.primaries :=
  Except.ok.inj (stages.resolved.symm.trans stages.reports.resolve_eq_ok)

/-- Up to order, the clusters of a plan are the online primaries and as many stand-ins as are needed. -/
theorem Stages.clusters_perm (stages : Stages s p plan a targets) :
    plan.clusters.Perm (s.onlineWanted p.spec ++
      (sparesFrom a .start).take (offlineCount a.primaries)) := by
  rw [Store.onlineWanted, ← Store.onlineNames_eq_wanted stages.reports.primaries_eq, clusters,
    Placement.clusters_distribute stages.distributed, stages.targets_eq]
  exact Target.names_substitute_perm stages.reports.enough

/-- Every resource of a plan goes to all clusters of the plan. -/
theorem Stages.clusterNames_eq (stages : Stages s p plan a targets) {r : BoundResource}
    (bound : r ∈ plan.spec.resources) : r.clusterNames = plan.clusters := by
  obtain ⟨name, _, here⟩ := Except.exists_of_mem_mapM stages.bound bound
  obtain ⟨_, _, rfl⟩ := bindResource_eq_ok_iff.1 here
  simp only [BoundResource.clusterNames, clusters, List.map_map]
  rfl

/-- Every stand-in differs from all other clusters of the plan, so only a cluster that is listed more
than once among the primaries, and online, is bound more than once. -/
theorem nodup_clusters_iff (computed : compute s p = .ok plan) :
    ((plan.clusters.Nodup ∧ ∀ r ∈ plan.spec.resources, r.clusterNames.Nodup) ↔
      (s.onlineWanted p.spec).Nodup) ∧
    ∀ r ∈ plan.spec.resources, r.clusterNames = plan.clusters := by
  obtain ⟨a, targets, stages⟩ := compute_eq_ok_iff.1 computed
  have same (r) (bound : r ∈ plan.spec.resources) := stages.clusterNames_eq bound
  obtain ⟨distinct, apart⟩ := stages.reports.spares_distinct
  have once : plan.clusters.Nodup ↔ (s.onlineWanted p.spec).Nodup := by
    rw [stages.clusters_perm.nodup_iff, List.nodup_append]
    constructor
    · exact fun both => both.1
    · intro primaries
      refine ⟨primaries, distinct.sublist (List.take_sublist _ _), ?_⟩
      rintro name primary _ taken rfl
      refine apart name (List.mem_of_mem_take taken) ?_
      rwa [Store.onlineNames_eq_wanted stages.reports.primaries_eq]
  refine ⟨?_, same⟩
  rw [← once]
  exact ⟨fun both => both.1, fun nodup => ⟨nodup, fun r bound => (same r bound).symm ▸ nodup⟩⟩

/-- A policy for the first two of three clusters binds two, one of them in place of another. -/
def sample : Policy := ⟨"default", "p", "u", Availability.firstTwo, .never⟩

theorem nodup_clusters_sample : ∃ plan, compute Availability.threeClusters sample = .ok plan ∧
    plan.clusters = ["c", "b"] ∧ plan.clusters.Nodup ∧
    ∀ r ∈ plan.spec.resources, r.clusterNames = plan.clusters := by
  have planned : (compute Availability.threeClusters sample).toOption.map clusters =
      some ["c", "b"] := by
    rw [compute_of_check rfl]
    rfl
  cases computed : compute Availability.threeClusters sample with
  | error => simp [computed, Except.toOption] at planned
  | ok plan =>
    rw [computed] at planned
    obtain ⟨once, same⟩ := nodup_clusters_iff computed
    exact ⟨plan, rfl, Option.some.inj planned, (once.2 (by decide)).1, same⟩

/-- A policy whose entries name one cluster twice. -/
def twice : Policy :=
  let entry : PolicyEntry := ⟨some "b", none, 1, none, none⟩
  { sample with spec := { sample.spec with entries := [entry, entry], failover := [] } }

theorem clusters_twice : ∃ plan, compute Availability.threeClusters twice = .ok plan ∧
    ¬plan.clusters.Nodup ∧ ∃ r ∈ plan.spec.resources, ¬r.clusterNames.Nodup := by
  refine ⟨_, rfl, ?_, _, List.mem_cons_self, ?_⟩
  · decide
  · decide

end Plan

end ClusterPlacement
