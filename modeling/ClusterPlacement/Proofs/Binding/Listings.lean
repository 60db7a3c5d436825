import ClusterPlacement.Proofs.Table
import ClusterPlacement.Status
import Mathlib.Data.List.Induction
/-! A binding turned inside out. It lists clusters under its resources, and its status lists resources under
clusters. The status takes in one listing after the other, so it shows for a cluster and a resource what the
last listing of the two says, and nothing that is not listed. -/

namespace ClusterPlacement

/-- A cluster in the list of a resource. -/
structure Listing where
  resource : String
  cluster : String
  overrides : List Patch
deriving DecidableEq

/-- Whether the listing is of this cluster under this resource. -/
def Listing.IsOf (cluster resource : String) (l : Listing) : Prop :=
  l.cluster = cluster ∧ l.resource = resource

instance (cluster resource : String) : DecidablePred (Listing.IsOf cluster resource) :=
  fun _ => inferInstanceAs (Decidable (_ ∧ _))

/-- The cluster and the resource of a listing. -/
def Listing.cell (l : Listing) : String × String := (l.cluster, l.resource)

def BoundResource.listings (bound : BoundResource) : List Listing :=
  bound.clusters.map fun c => ⟨bound.name, c.name, c.overrides⟩

namespace BindingSpec

/-- All listings of a binding, in its order. -/
def listings (spec : BindingSpec) : List Listing := spec.resources.flatMap BoundResource.listings

/-- The last listing of a cluster under a resource gives these overrides. -/
def LastListed (spec : BindingSpec) (cluster resource : String) (overrides : List Patch) : Prop :=
  ∃ earlier later, spec.listings = earlier ++ ⟨resource, cluster, overrides⟩ :: later ∧
    ∀ l ∈ later, ¬l.IsOf cluster resource

/-- No two resources have one name, and no resource lists a cluster twice. -/
structure Distinct (spec : BindingSpec) : Prop where
  resources : (spec.resources.map (·.name)).Nodup
  clusters : ∀ bound ∈ spec.resources, (bound.clusters.map (·.name)).Nodup

theorem exists_mem_listings_iff (spec : BindingSpec) (p : Listing → Prop) :
    (∃ l ∈ spec.listings, p l) ↔
      ∃ bound ∈ spec.resources, ∃ c ∈ bound.clusters, p ⟨bound.name, c.name, c.overrides⟩ := by
  simp only [listings, BoundResource.listings, List.mem_flatMap, List.mem_map]
  constructor
  · rintro ⟨_, ⟨bound, member, c, listed, rfl⟩, holds⟩
    exact ⟨bound, member, c, listed, holds⟩
  · rintro ⟨bound, member, c, listed, holds⟩
    exact ⟨_, ⟨bound, member, c, listed, rfl⟩, holds⟩

theorem length_listings (spec : BindingSpec) :
    spec.listings.length = (spec.resources.flatMap (·.clusters)).length := by
  simp only [listings, BoundResource.listings, List.length_flatMap, List.length_map]

/-- Where names are not repeated, no cluster is listed twice under one resource. -/
theorem Distinct.nodup_cells {spec : BindingSpec} (distinct : spec.Distinct) :
    (spec.listings.map Listing.cell).Nodup := by
  rw [listings, List.map_flatMap, List.nodup_flatMap]
  constructor
  · intro bound member
    have names := distinct.clusters bound member
    rw [BoundResource.listings, List.map_map]
    refine List.Nodup.of_map Prod.fst ?_
    rwa [List.map_map]
  · refine (List.pairwise_map.1 distinct.resources).imp ?_
    intro bound bound' other cell here there
    simp only [BoundResource.listings, List.map_map, List.mem_map] at here there
    obtain ⟨c, _, rfl⟩ := here
    obtain ⟨c', _, same⟩ := there
    exact other (Prod.mk.inj same).2.symm

end BindingSpec

namespace BindingStatus

/-- What a status shows for a resource on a cluster. -/
def shown? (t : Table (Table (List Patch))) (cluster resource : String) : Option (List Patch) :=
  (t.find? cluster).bind (·.find? resource)

/-- The clusters and resources that something is shown for. -/
def cells (t : Table (Table (List Patch))) : List (String × String) :=
  t.entries.flatMap fun (cluster, shown) => shown.keys.map fun resource => (cluster, resource)

def takeIn (t : Table (Table (List Patch))) (l : Listing) : Table (Table (List Patch)) :=
  enter l.resource t ⟨l.cluster, l.overrides⟩

variable {t : Table (Table (List Patch))} {l : Listing} {cluster resource : String}

theorem clustersOf_eq_foldl (spec : BindingSpec) : clustersOf spec = spec.listings.foldl takeIn .empty := by
  simp only [clustersOf, BindingSpec.listings, BoundResource.listings, List.foldl_flatMap, List.foldl_map]
  rfl

theorem find?_takeIn (t : Table (Table (List Patch))) (l : Listing) (cluster : String) :
    (takeIn t l).find? cluster =
      if cluster = l.cluster then
        some (((t.find? l.cluster).getD .empty).insert l.resource l.overrides)
      else t.find? cluster := Table.find?_insert _ _ _ _

/-- A listing shows its overrides in its own place and leaves all other places as they were, those of the
same cluster and those of the same resource included. -/
theorem shown?_takeIn (t : Table (Table (List Patch))) (l : Listing) (cluster resource : String) :
    shown? (takeIn t l) cluster resource =
      if cluster = l.cluster ∧ resource = l.resource then some l.overrides
      else shown? t cluster resource := by
  rw [shown?, find?_takeIn]
  by_cases here : cluster = l.cluster
  · subst here
    rw [if_pos rfl, Option.bind_some, Table.find?_insert, shown?]
    by_cases own : resource = l.resource
    · rw [if_pos own, if_pos ⟨rfl, own⟩]
    · rw [if_neg own, if_neg fun both => own both.2]
      cases t.find? l.cluster <;> rfl
  · rw [if_neg here, if_neg fun both => here both.1, shown?]

theorem contains_takeIn : (takeIn t l).contains cluster ↔ cluster = l.cluster ∨ t.contains cluster := by
  rw [Table.contains, find?_takeIn, Table.contains]
  by_cases here : cluster = l.cluster
  · simp [here]
  · simp [here]

/-- The status shows the overrides of the latest listing. -/
theorem shown?_foldl (ls : List Listing) : shown? (ls.foldl takeIn .empty) cluster resource =
    (ls.reverse.find? (Listing.IsOf cluster resource ·)).map (·.overrides) := by
  induction ls using List.reverseRecOn with
  | nil => rfl
  | append_singleton ls l ih =>
    rw [List.foldl_append, List.foldl_cons, List.foldl_nil, shown?_takeIn, List.reverse_append,
      List.reverse_singleton, List.singleton_append, List.find?_cons, ih]
    by_cases own : l.IsOf cluster resource
    · rw [if_pos ⟨own.1.symm, own.2.symm⟩, decide_eq_true own]
      rfl
    · rw [if_neg fun here => own ⟨here.1.symm, here.2.symm⟩, decide_eq_false own]

theorem shown?_foldl_eq_some_iff (ls : List Listing) {overrides : List Patch} :
    shown? (ls.foldl takeIn .empty) cluster resource = some overrides ↔
      ∃ earlier later, ls = earlier ++ ⟨resource, cluster, overrides⟩ :: later ∧
        ∀ l ∈ later, ¬l.IsOf cluster resource := by
  simp only [shown?_foldl, Option.map_eq_some_iff, List.find?_eq_some_iff_append, decide_eq_true_eq,
    Bool.not_eq_true', decide_eq_false_iff_not]
  constructor
  · rintro ⟨l, ⟨⟨rfl, rfl⟩, after, before, same, last⟩, rfl⟩
    refine ⟨before.reverse, after.reverse, ?_, fun l' member => last l' (List.mem_reverse.1 member)⟩
    rw [← List.reverse_reverse ls, same]
    simp
  · rintro ⟨earlier, later, rfl, last⟩
    refine ⟨⟨resource, cluster, overrides⟩,
      ⟨⟨rfl, rfl⟩, later.reverse, earlier.reverse, by simp, fun l' member => ?_⟩, rfl⟩
    exact last l' (List.mem_reverse.1 member)

theorem isSome_shown?_foldl (ls : List Listing) :
    (shown? (ls.foldl takeIn .empty) cluster resource).isSome ↔ ∃ l ∈ ls, l.IsOf cluster resource := by
  simp only [shown?_foldl, Option.isSome_map, List.find?_isSome, List.mem_reverse, decide_eq_true_eq]

theorem contains_foldl (ls : List Listing) :
    (ls.foldl takeIn .empty).contains cluster ↔ ∃ l ∈ ls, l.cluster = cluster := by
  induction ls using List.reverseRecOn with
  | nil => simp [Table.contains]
  | append_singleton ls l ih =>
    rw [List.foldl_append, List.foldl_cons, List.foldl_nil, contains_takeIn, ih]
    simp only [List.mem_append, List.mem_singleton, or_and_right, exists_or, exists_eq_left]
    rw [or_comm, eq_comm (a := cluster)]

theorem mem_cells_iff : (cluster, resource) ∈ cells t ↔ (shown? t cluster resource).isSome := by
  simp only [cells, List.mem_flatMap, Table.keys, List.mem_map, Prod.mk.injEq, shown?,
    Option.isSome_iff_exists, Option.bind_eq_some_iff, ← Table.mem_entries_iff]
  constructor
  · rintro ⟨⟨_, shown⟩, member, _, ⟨⟨_, overrides⟩, inside, rfl⟩, rfl, rfl⟩
    exact ⟨overrides, shown, member, inside⟩
  · rintro ⟨overrides, shown, member, inside⟩
    exact ⟨(cluster, shown), member, resource, ⟨(resource, overrides), inside, rfl⟩, rfl, rfl⟩

theorem nodup_cells (t : Table (Table (List Patch))) : (cells t).Nodup := by
  rw [cells, List.nodup_flatMap]
  constructor
  · rintro ⟨cluster, shown⟩ _
    exact shown.nodup_keys.map fun _ _ same => (Prod.mk.inj same).2
  · refine t.ascending.imp ?_
    rintro ⟨cluster, shown⟩ ⟨cluster', shown'⟩ before cell here there
    obtain ⟨_, _, rfl⟩ := List.mem_map.1 here
    obtain ⟨_, _, same⟩ := List.mem_map.1 there
    exact String.ne_of_lt before (Prod.mk.inj same).1.symm

/-- How many resources a status shows, counted on every cluster. -/
def entryCount (status : BindingStatus) : Nat := (status.clusters.values.flatMap (·.entries)).length

theorem entryCount_eq_length_cells (status : BindingStatus) :
    status.entryCount = (cells status.clusters).length := by
  simp only [entryCount, cells, Table.values, Table.keys, List.flatMap_map, List.length_flatMap,
    List.length_map]

/-- A status that shows of a binding what is listed in it, by cluster: for each resource on each cluster the
overrides of the last listing, and nothing for what is not listed. -/
structure Shows (status : BindingStatus) (spec : BindingSpec) : Prop where
  overrides_iff : ∀ cluster resource overrides,
    shown? status.clusters cluster resource = some overrides ↔ spec.LastListed cluster resource overrides
  resource_iff : ∀ cluster resource, (shown? status.clusters cluster resource).isSome ↔
    ∃ bound ∈ spec.resources, bound.name = resource ∧ ∃ c ∈ bound.clusters, c.name = cluster
  cluster_iff : ∀ cluster, status.clusters.contains cluster ↔
    ∃ bound ∈ spec.resources, ∃ c ∈ bound.clusters, c.name = cluster

/-- A status in which no listing of the binding is covered by another one. -/
structure ShowsAll (status : BindingStatus) (spec : BindingSpec) : Prop where
  overrides : ∀ bound ∈ spec.resources, ∀ c ∈ bound.clusters,
    shown? status.clusters c.name bound.name = some c.overrides
  entryCount : status.entryCount = (spec.resources.flatMap (·.clusters)).length

theorem shows_ofBinding (b : Binding) : (ofBinding b).Shows b.spec where
  overrides_iff cluster resource overrides := by
    rw [ofBinding, clustersOf_eq_foldl]
    exact shown?_foldl_eq_some_iff _
  resource_iff cluster resource := by
    rw [ofBinding, clustersOf_eq_foldl, isSome_shown?_foldl, BindingSpec.exists_mem_listings_iff]
    refine exists_congr fun bound => and_congr_right fun _ => ?_
    simp only [Listing.IsOf, ← and_assoc, exists_and_right]
    exact and_comm
  cluster_iff cluster := by
    rw [ofBinding, clustersOf_eq_foldl, contains_foldl, BindingSpec.exists_mem_listings_iff]

theorem showsAll_ofBinding {b : Binding} (distinct : b.spec.Distinct) : (ofBinding b).ShowsAll b.spec where
  overrides bound member c listed := by
    refine ((shows_ofBinding b).overrides_iff _ _ _).2 ?_
    obtain ⟨l, inside, rfl⟩ := (b.spec.exists_mem_listings_iff (· = ⟨bound.name, c.name, c.overrides⟩)).2
      ⟨bound, member, c, listed, rfl⟩
    obtain ⟨earlier, later, same⟩ := List.append_of_mem inside
    refine ⟨earlier, later, same, fun l' after own => ?_⟩
    have nodup := distinct.nodup_cells
    rw [same, List.map_append, List.map_cons] at nodup
    have once := (List.nodup_cons.1 nodup.of_append_right).1
    exact once (List.mem_map.2 ⟨l', after, Prod.ext own.1 own.2⟩)
  entryCount := by
    have same : (cells (ofBinding b).clusters).Perm (b.spec.listings.map Listing.cell) := by
      refine (List.perm_ext_iff_of_nodup (nodup_cells _) distinct.nodup_cells).2 ?_
      rintro ⟨cluster, resource⟩
      rw [mem_cells_iff, ofBinding, clustersOf_eq_foldl, isSome_shown?_foldl, List.mem_map]
      simp only [Listing.IsOf, Listing.cell, Prod.mk.injEq]
    rw [entryCount_eq_length_cells, same.length_eq, List.length_map, b.spec.length_listings]

/-- The status of a binding shows for every resource and cluster the overrides of the last listing and
nothing else, and if no name is repeated it shows every listing. -/
theorem ofBinding_shows_last (b : Binding) :
    (ofBinding b).Shows b.spec ∧ (b.spec.Distinct → (ofBinding b).ShowsAll b.spec) :=
  ⟨shows_ofBinding b, showsAll_ofBinding⟩

/-- A resource on three clusters and another one on the first of them. -/
def webAndWorker : Binding where
  ns := "default"
  name := "web-binding"
  owner := ⟨policyKind, "web", "uid-web"⟩
  version := 3
  spec := ⟨[⟨"web", [⟨"c1", [⟨"/spec/replicas", "7"⟩]⟩, ⟨"c2", [⟨"/spec/replicas", "6"⟩]⟩,
      ⟨"c3", [⟨"/spec/replicas", "7"⟩]⟩]⟩,
    ⟨"worker", [⟨"c1", [⟨"/spec/replicas", "1"⟩]⟩]⟩]⟩

theorem ofBinding_shows_last_webAndWorker : webAndWorker.spec.Distinct ∧
    (ofBinding webAndWorker).entryCount = 4 ∧
    shown? (ofBinding webAndWorker).clusters "c1" "worker" = some [⟨"/spec/replicas", "1"⟩] ∧
    ¬(shown? (ofBinding webAndWorker).clusters "c2" "worker").isSome := by
  have distinct : webAndWorker.spec.Distinct := ⟨by decide, by decide⟩
  obtain ⟨shows, all⟩ := ofBinding_shows_last webAndWorker
  refine ⟨distinct, (all distinct).entryCount, ?_, ?_⟩
  · exact (all distinct).overrides ⟨"worker", [⟨"c1", [⟨"/spec/replicas", "1"⟩]⟩]⟩ (by decide)
      ⟨"c1", [⟨"/spec/replicas", "1"⟩]⟩ (by decide)
  · rw [shows.resource_iff]
    decide

end BindingStatus

end ClusterPlacement
