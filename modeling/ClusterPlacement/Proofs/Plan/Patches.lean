import ClusterPlacement.Proofs.Numeral
import ClusterPlacement.Proofs.Plan.Shares
/-! What a plan binds, and with which changes. Every resource goes to all placed clusters in the order of the
placements. A cell of this grid takes the descriptor from its resource, the count and the mapping key from
its placement, and the labels from the namespace of the policy, so the order of both lists is all that
keeps the cells apart. -/

namespace ClusterPlacement

variable {s : Store} {spec : PolicySpec} {p : Policy} {plan : Plan} {members : List SetMember}

theorem Store.ListsRoles.source_eq (lists : s.ListsRoles spec members) {source : PrimarySource}
    {primaries : List Primary} (found : s.primaries spec = .ok (source, primaries)) :
    source = .roleSet := by
  obtain ⟨given, name, set, named, stored, listed⟩ := lists
  exact UsesRoles.source_eq ⟨given, name, set, members, named, stored, listed⟩ found

theorem Store.ListsRoles.unique {members' : List SetMember} (lists : s.ListsRoles spec members)
    (lists' : s.ListsRoles spec members') : members = members' := by
  obtain ⟨_, name, set, named, stored, listed⟩ := lists
  obtain ⟨_, name', set', named', stored', listed'⟩ := lists'
  obtain rfl := Option.some.inj (named.symm.trans named')
  obtain rfl := Option.some.inj (stored.symm.trans stored')
  exact Membership.roles.inj (Option.some.inj (listed.symm.trans listed'))

namespace Placement

variable {ns : String} {r : Resource} {placed : Placement}

/-- A patch that writes the replica count where the resource has a place for it. -/
def SetsReplicas (r : Resource) (placed : Placement) (patch : Patch) : Prop :=
  ∃ path count, r.replicaPath = some path ∧ path ≠ "" ∧ placed.replicas = some count ∧
    patch = ⟨path, toString count⟩

/-- A patch that writes the name which the namespace has under the mapping key. -/
def SetsNamespace (s : Store) (ns : String) (placed : Placement) (patch : Patch) : Prop :=
  ∃ n name, s.namespace? ns = some n ∧
    n.labels.find? ("mapping.fleetbind.io/" ++ placed.mappingKey ++ "." ++ ns) = some name ∧
    name ≠ "" ∧ patch = ⟨"/metadata/namespace", name⟩

/-- The patches of a resource on a cluster: for the replica count and then for the namespace, and each of them
only if there is one. -/
def Patches (s : Store) (ns : String) (r : Resource) (placed : Placement) (patches : List Patch) : Prop :=
  ∃ counted renamed : Option Patch, patches = counted.toList ++ renamed.toList ∧
    (∀ patch, counted = some patch ↔ SetsReplicas r placed patch) ∧
    ∀ patch, renamed = some patch ↔ SetsNamespace s ns placed patch

theorem exists_replicaPatch_eq (r : Resource) (placed : Placement) : ∃ counted : Option Patch,
    replicaPatch r placed = counted.toList ∧
      ∀ patch, counted = some patch ↔ SetsReplicas r placed patch := by
  unfold replicaPatch SetsReplicas
  cases r.replicaPath with
  | none => exact ⟨none, rfl, by simp⟩
  | some path =>
    cases placed.replicas with
    | none => exact ⟨none, rfl, by simp⟩
    | some count =>
      by_cases empty : path = ""
      · exact ⟨none, if_pos empty, by simp [empty]⟩
      · refine ⟨some ⟨path, toString count⟩, ?_, ?_⟩
        · rw [← Numeral.decimal_eq_toString]
          exact if_neg empty
        · simp [empty, eq_comm]

theorem mappedNamespace?_eq_some_iff {mapped : String} :
    (s.namespaceLabels ns).mappedNamespace? ns placed.mappingKey = some mapped ↔
      ∃ n, s.namespace? ns = some n ∧
        n.labels.find? ("mapping.fleetbind.io/" ++ placed.mappingKey ++ "." ++ ns) = some mapped ∧
        mapped ≠ "" := by
  have label : namespaceMappingLabel placed.mappingKey ns =
      "mapping.fleetbind.io/" ++ placed.mappingKey ++ "." ++ ns := rfl
  rw [Labels.mappedNamespace?, label, Option.filter_eq_some_iff, decide_eq_true_eq]
  unfold Store.namespaceLabels
  cases s.namespace? ns <;> simp

theorem exists_namespacePatch_eq (s : Store) (ns : String) (placed : Placement) :
    ∃ renamed : Option Patch,
      namespacePatch ns (s.namespaceLabels ns) placed = renamed.toList ∧
        ∀ patch, renamed = some patch ↔ SetsNamespace s ns placed patch := by
  refine ⟨((s.namespaceLabels ns).mappedNamespace? ns placed.mappingKey).map (⟨namespacePath, ·⟩), ?_, ?_⟩
  · unfold namespacePatch
    cases (s.namespaceLabels ns).mappedNamespace? ns placed.mappingKey <;> rfl
  · intro patch
    simp only [Option.map_eq_some_iff, mappedNamespace?_eq_some_iff, SetsNamespace]
    constructor
    · rintro ⟨name, ⟨n, stored, label, nonempty⟩, rfl⟩
      exact ⟨n, name, stored, label, nonempty, rfl⟩
    · rintro ⟨n, name, stored, label, nonempty, rfl⟩
      exact ⟨name, ⟨n, stored, label, nonempty⟩, rfl⟩

theorem patches_overrides (s : Store) (ns : String) (r : Resource) (placed : Placement) :
    Patches s ns r placed (placed.overrides ns (s.namespaceLabels ns) r) := by
  obtain ⟨counted, counts, counted_iff⟩ := exists_replicaPatch_eq r placed
  obtain ⟨renamed, renames, renamed_iff⟩ := exists_namespacePatch_eq s ns placed
  exact ⟨counted, renamed, by rw [overrides, counts, renames], counted_iff, renamed_iff⟩

/-- Only the roles of a set map namespaces by anything but the name of the placed cluster. -/
theorem mappingKeys_distribute {source : PrimarySource} {targets : List Target} {strategy : Strategy}
    {placements : List Placement}
    (distributed : distribute spec source targets = .ok (strategy, placements)) :
    placements.map (·.mappingKey) =
      if source = .roleSet then targets.map (·.role.getD "") else placements.map (·.cluster) := by
  unfold distribute at distributed
  cases chosen : Strategy.choose source spec.mode with
  | duplicated | selectorDuplicated =>
    have unlisted : source ≠ .roleSet := by
      rintro rfl
      cases chosen
    simp only [chosen, Except.pure_eq_ok_iff, Prod.mk.injEq] at distributed
    obtain ⟨rfl, rfl⟩ := distributed
    rw [if_neg unlisted, List.map_map, List.map_map]
    rfl
  | weightedByCluster =>
    have assigned := Strategy.choose_eq_weightedByCluster chosen
    simp only [chosen, Except.bind_eq_ok_iff, Except.pure_eq_ok_iff, Prod.mk.injEq] at distributed
    obtain ⟨_, _, rfl, rfl⟩ := distributed
    rw [assigned, if_neg (by decide), List.map_map, List.map_map]
    rfl
  | weightedByRole =>
    have listed := Strategy.choose_eq_weightedByRole chosen
    simp only [chosen, Except.bind_eq_ok_iff, Except.pure_eq_ok_iff, Prod.mk.injEq] at distributed
    obtain ⟨_, _, rfl, rfl⟩ := distributed
    rw [listed, if_pos rfl, List.map_map]
    rfl

end Placement

namespace Plan

open Placement (Patches)

variable {a : Availability} {targets : List Target}

theorem Stages.mappingKeys_of_roles (stages : Stages s p plan a targets)
    (lists : s.ListsRoles p.spec members) :
    plan.placements.map (·.mappingKey) = members.map (·.role) := by
  have primaries := stages.reports.primaries_eq
  have source := lists.source_eq primaries
  rw [source] at primaries
  obtain ⟨members', lists', roles⟩ := Store.listsRoles_of_primaries primaries
  obtain rfl := lists.unique lists'
  have seated : targets.map (·.role) = a.primaries.map (·.role) := by
    apply List.ext_getElem?
    intro i
    have seat := congrArg (·.map Prod.snd) (stages.getElem?_seats i)
    simp only [List.getElem?_map, Option.map_map] at seat ⊢
    exact seat
  calc plan.placements.map (·.mappingKey)
    _ = targets.map (·.role.getD "") := by
      rw [Placement.mappingKeys_distribute stages.distributed, if_pos source]
    _ = (targets.map (·.role)).map (·.getD "") := by
      rw [List.map_map]
      rfl
    _ = members.map (·.role) := by
      rw [seated, roles, List.map_map]
      rfl

theorem Stages.mappingKeys_of_no_roles (stages : Stages s p plan a targets)
    (unlisted : ¬∃ members, s.ListsRoles p.spec members) :
    plan.placements.map (·.mappingKey) = plan.clusters := by
  have other : a.source ≠ .roleSet := by
    intro source
    have primaries := stages.reports.primaries_eq
    rw [source] at primaries
    obtain ⟨members, lists, _⟩ := Store.listsRoles_of_primaries primaries
    exact unlisted ⟨members, lists⟩
  exact (Placement.mappingKeys_distribute stages.distributed).trans (if_neg other)

/-- What a plan binds: the resources of the policy, each of them to all placed clusters. The mapping key of a
placement is the role of its primary if the policy uses roles, and else the name of the placed cluster. -/
structure Binds (s : Store) (p : Policy) (plan : Plan) : Prop where
  resources : plan.spec.resources.map (·.name) = p.spec.resources
  clusters : ∀ bound ∈ plan.spec.resources, bound.clusterNames = plan.placements.map (·.cluster)
  patches : ∀ bound ∈ plan.spec.resources, ∃ r, s.resource? p.ns bound.name = some r ∧
    List.Forall₂ (fun placed cell => cell.name = placed.cluster ∧ Patches s p.ns r placed cell.overrides)
      plan.placements bound.clusters
  mapped_by_role : ∀ members, s.ListsRoles p.spec members →
    plan.placements.map (·.mappingKey) = members.map (·.role)
  mapped_by_name : (¬∃ members, s.ListsRoles p.spec members) →
    plan.placements.map (·.mappingKey) = plan.placements.map (·.cluster)

theorem Stages.binds (stages : Stages s p plan a targets) : Binds s p plan := by
  refine ⟨?_, fun _ => stages.clusterNames_eq, ?_, fun _ => stages.mappingKeys_of_roles,
    stages.mappingKeys_of_no_roles⟩
  · have names := Except.map_eq_of_mapM (g := BoundResource.name) (h := id) stages.bound
    rw [List.map_id] at names
    apply names
    intro name bound here
    obtain ⟨_, _, rfl⟩ := bindResource_eq_ok_iff.1 here
    rfl
  · intro bound member
    obtain ⟨name, _, here⟩ := Except.exists_of_mem_mapM stages.bound member
    obtain ⟨r, stored, rfl⟩ := bindResource_eq_ok_iff.1 here
    refine ⟨r, stored, ?_⟩
    rw [List.forall₂_map_right_iff, List.forall₂_same]
    intro placed _
    exact ⟨rfl, Placement.patches_overrides s p.ns r placed⟩

/-- A plan comes with every resource of its policy on every placed cluster, changed as the descriptor, the
placement and the namespace say. If one of the descriptors is missing there is no plan at all. -/
theorem binds_or_fails (s : Store) (p : Policy) :
    (∀ plan, compute s p = .ok plan → Binds s p plan) ∧
      ((∃ name ∈ p.spec.resources, s.resource? p.ns name = none) → ∃ e, compute s p = .error e) := by
  constructor
  · intro plan computed
    obtain ⟨a, targets, stages⟩ := compute_eq_ok_iff.1 computed
    exact stages.binds
  · rintro ⟨name, named, missing⟩
    cases computed : compute s p with
    | error e => exact ⟨e, rfl⟩
    | ok plan =>
      obtain ⟨a, targets, stages⟩ := compute_eq_ok_iff.1 computed
      obtain ⟨bound, looked⟩ := Except.exists_mapM_eq_ok_iff.1 ⟨_, stages.bound⟩ name named
      obtain ⟨r, stored, _⟩ := bindResource_eq_ok_iff.1 looked
      rw [missing] at stored
      cases stored

/-- The namespace is called by one name at the edge, and by another one on the cluster that stands in there. -/
def namespaced (s : Store) : Store :=
  (s.putResource ⟨"default", "web", some "/spec/replicas"⟩).putNamespace ⟨"default", .ofList
    [("mapping.fleetbind.io/edge.default", "at-the-edge"), ("mapping.fleetbind.io/c.default", "on-c")]⟩

/-- By roles the stand-in keeps the name for the role of its primary, and without roles only its own name
counts. Where another resource is wanted that is not described, nothing is bound. -/
theorem binds_or_fails_namespaced :
    (∃ plan, compute (namespaced siteDown) bySite = .ok plan ∧ plan.clusters = ["c", "b"] ∧
      plan.placements.map (·.mappingKey) = ["edge", "core"] ∧
      plan.spec.resources.map (fun bound => bound.clusters.map (·.overrides)) =
        [[[⟨"/spec/replicas", "6"⟩, ⟨"/metadata/namespace", "at-the-edge"⟩], [⟨"/spec/replicas", "2"⟩]]]) ∧
    (∃ plan, compute (namespaced Availability.threeClusters) sample = .ok plan ∧
      plan.placements.map (·.mappingKey) = ["c", "b"] ∧
      plan.spec.resources.map (fun bound => bound.clusters.map (·.overrides)) =
        [[[⟨"/spec/replicas", "2"⟩, ⟨"/metadata/namespace", "on-c"⟩], [⟨"/spec/replicas", "2"⟩]]]) ∧
    ∃ e, compute (namespaced siteDown)
      { bySite with spec := { bySite.spec with resources := ["web", "job"] } } = .error e := by
  refine ⟨?_, ?_, ?_⟩
  · have planned : (compute (namespaced siteDown) bySite).toOption.map (fun plan =>
        (plan.clusters, plan.spec.resources.map fun bound => bound.clusters.map (·.overrides))) =
        some (["c", "b"], [[[⟨"/spec/replicas", "6"⟩, ⟨"/metadata/namespace", "at-the-edge"⟩],
          [⟨"/spec/replicas", "2"⟩]]]) := by
      rw [compute_of_check rfl]
      decide +kernel
    obtain ⟨plan, computed, known⟩ := Except.toOption_map_eq_some_iff.1 planned
    obtain ⟨clusters, overrides⟩ := Prod.mk.inj known
    have binds := (binds_or_fails _ _).1 plan computed
    have lists : (namespaced siteDown).ListsRoles bySite.spec [⟨"a", "edge"⟩, ⟨"b", "core"⟩] :=
      ⟨rfl, _, _, rfl, rfl, rfl⟩
    exact ⟨plan, computed, clusters, binds.mapped_by_role _ lists, overrides⟩
  · have planned : (compute (namespaced Availability.threeClusters) sample).toOption.map (fun plan =>
        (plan.clusters, plan.spec.resources.map fun bound => bound.clusters.map (·.overrides))) =
        some (["c", "b"], [[[⟨"/spec/replicas", "2"⟩, ⟨"/metadata/namespace", "on-c"⟩],
          [⟨"/spec/replicas", "2"⟩]]]) := by
      rw [compute_of_check rfl]
      decide +kernel
    obtain ⟨plan, computed, known⟩ := Except.toOption_map_eq_some_iff.1 planned
    obtain ⟨clusters, overrides⟩ := Prod.mk.inj known
    have unlisted : ¬∃ members, (namespaced Availability.threeClusters).ListsRoles sample.spec members := by
      rintro ⟨_, given, _⟩
      cases given
    have keys := ((binds_or_fails _ _).1 plan computed).mapped_by_name unlisted
    exact ⟨plan, computed, keys.trans clusters, overrides⟩
  · exact (binds_or_fails _ _).2 ⟨"job", by decide, rfl⟩

end Plan

end ClusterPlacement
