import ClusterPlacement.Proofs.Failover.Contents
import ClusterPlacement.Proofs.Store.Run
import ClusterPlacement.Proofs.Text.Bytes
/-! What a selector selects. The clusters come in the order of the keys that they are stored under, and as
every cluster sits under its own name this is the order of their names. So the records that are stored
decide about a selection, in any store that can come about, and not the writes that they came from. -/

namespace ClusterPlacement

/-- A cluster matches if it carries every label that is asked for with the same value. -/
theorem Cluster.matches_iff {c : Cluster} {selector : Labels} : c.matches selector ↔
    ∀ label value, selector.find? label = some value → c.labels.find? label = some value := by
  simp only [Cluster.matches, List.all_eq_true, decide_eq_true_eq, Prod.forall, Table.mem_entries_iff]

namespace Store

variable {s s' : Store} {selector : Labels} {found : List Cluster}

/-- Whether the cluster is one of the stored records. -/
def Holds (s : Store) (c : Cluster) : Prop := ∃ key, s.clusters.find? key = some c

/-- All stored clusters that carry every label of a selector, in ascending order of the bytes of their names
and so each of them once. Their states do not matter. -/
structure Selection (s : Store) (selector : Labels) (found : List Cluster) : Prop where
  mem_iff : ∀ c, c ∈ found ↔ s.Holds c ∧
    ∀ label value, selector.find? label = some value → c.labels.find? label = some value
  ascending : found.Pairwise fun c c' => Text.bytes c.name < Text.bytes c'.name

theorem selection_clustersMatching (keyed : s.clusters.KeyedBy Cluster.name) (selector : Labels) :
    s.Selection selector (s.clustersMatching selector) where
  mem_iff c := by
    rw [clustersMatching, List.mem_filter, Cluster.matches_iff, clusterList, Table.mem_values_iff, Holds]
  ascending := (clustersMatching_ascending keyed selector).imp Text.bytes_lt_iff.2

/-- Under their own names, the same records make up the same table. -/
theorem clusters_eq_of_holds_iff (keyed : s.clusters.KeyedBy Cluster.name)
    (keyed' : s'.clusters.KeyedBy Cluster.name) (same : ∀ c, s'.Holds c ↔ s.Holds c) :
    s'.clusters = s.clusters := by
  refine Table.ext_find? fun name => Option.ext fun c => ?_
  constructor
  · intro found
    obtain ⟨key, stored⟩ := (same c).1 ⟨name, found⟩
    rwa [← keyed' _ _ found, keyed _ _ stored]
  · intro found
    obtain ⟨key, stored⟩ := (same c).2 ⟨name, found⟩
    rwa [← keyed _ _ found, keyed' _ _ stored]

/-- A policy that wants the clusters which a stored set selects. -/
def UsesSelector (s : Store) (spec : PolicySpec) (selector : Labels) : Prop :=
  ∃ name set, spec.source = .clusterSet ∧ spec.clusterSet = some name ∧ s.clusterSet? name = some set ∧
    set.membership? = some (.selector selector)

theorem primaries_of_usesSelector {spec : PolicySpec} (uses : s.UsesSelector spec selector) :
    s.primaries spec = .ok (.selectorSet,
      (s.clustersMatching selector).map fun c => ⟨c.name, none, c.isOnline⟩) := by
  obtain ⟨name, set, source, named, stored, selects⟩ := uses
  have sourced : sourceOfSet name set = .ok .selectorSet := by rw [sourceOfSet, selects]
  have members : s.setMembers set =
      .ok ((s.clustersMatching selector).map fun c => ⟨c.name, none, c.isOnline⟩) := by
    rw [setMembers, selects]
  simp only [primaries, source, named, Except.bind_eq_ok_iff, Except.pure_eq_ok_iff]
  exact ⟨set, lookUpClusterSet_eq_ok_iff.2 stored, _, sourced, _, members, rfl⟩

theorem setMembers_congr (same : s'.clusters = s.clusters) (set : ClusterSet) :
    s'.setMembers set = s.setMembers set := by
  cases s
  cases s'
  subst same
  rfl

/-- Entries expand alike in stores with the same clusters, if the sets that they name are the same. -/
theorem expand_congr (same : s'.clusters = s.clusters) {entry : FailoverEntry}
    (sets : entry.kind = .clusterSet → s'.clusterSet? entry.name = s.clusterSet? entry.name) :
    Pool.expand s' entry = Pool.expand s entry := by
  unfold Pool.expand
  cases kind : entry.kind with
  | cluster => simp only [lookUpCluster, cluster?, same]
  | clusterSet => simp only [lookUpClusterSet, sets kind, setMembers_congr same]

theorem build_congr (same : s'.clusters = s.clusters) {entries : List FailoverEntry}
    (sets : ∀ entry ∈ entries, entry.kind = .clusterSet →
      s'.clusterSet? entry.name = s.clusterSet? entry.name)
    (primaries : List Primary) : Pool.build s' entries primaries = Pool.build s entries primaries := by
  have walk (state : Pool × List String) :
      entries.foldlM (Pool.addExpanded s') state = entries.foldlM (Pool.addExpanded s) state := by
    induction entries generalizing state with
    | nil => rfl
    | cons entry entries ih =>
      have first : Pool.addExpanded s' state entry = Pool.addExpanded s state entry := by
        rw [Pool.addExpanded, Pool.addExpanded, expand_congr same (sets entry List.mem_cons_self)]
      rw [List.foldlM_cons, List.foldlM_cons, first]
      exact bind_congr fun next => ih (fun other member => sets other (List.mem_cons_of_mem _ member)) next
  rw [Pool.build, Pool.build, walk]

/-- A selector selects by the stored records alone. Stores that hold the same clusters in the end, whatever
was written to them and in whatever order, give a policy the same primaries for a selector, and the same
pool for failover entries that name the same sets. -/
theorem selection_of_records (reachable : s.Reachable) (selector : Labels) :
    s.Selection selector (s.clustersMatching selector) ∧
    ∀ s', s'.Reachable → (∀ c, s'.Holds c ↔ s.Holds c) →
      (∀ spec, s.UsesSelector spec selector → s'.UsesSelector spec selector →
        ∃ primaries, s.primaries spec = .ok (.selectorSet, primaries) ∧
          s'.primaries spec = .ok (.selectorSet, primaries) ∧
          primaries.map Primary.member = (s.clustersMatching selector).map Cluster.member) ∧
      ∀ entries primaries,
        (∀ entry ∈ entries, entry.kind = .clusterSet →
          s'.clusterSet? entry.name = s.clusterSet? entry.name) →
          Pool.build s' entries primaries = Pool.build s entries primaries := by
  refine ⟨selection_clustersMatching reachable.keyed.clusters selector, fun s' reachable' same => ?_⟩
  have clusters := clusters_eq_of_holds_iff reachable.keyed.clusters reachable'.keyed.clusters same
  have selected : s'.clustersMatching selector = s.clustersMatching selector := by
    rw [clustersMatching, clusterList, clusters, clustersMatching, clusterList]
  refine ⟨fun spec uses uses' => ⟨_, primaries_of_usesSelector uses, ?_, ?_⟩, fun entries primaries sets => ?_⟩
  · rw [primaries_of_usesSelector uses', selected]
  · rw [List.map_map]
    rfl
  · exact build_congr clusters sets primaries

def production : Labels := .ofList [("env", "prod")]

def productionSet : ClusterSet := ⟨"production", [], some production⟩

def wantsProduction : PolicySpec where
  resources := ["web"]
  source := .clusterSet
  clusterSet := some "production"
  replicas := 3
  mode := .duplicated
  entries := []
  failover := []
  reschedule := true

/-- Written one by one, in no order, and one of them changed later. -/
def writtenSingly : Store := (empty.run [.write (.putCluster ⟨"zeta", production, .offline⟩),
  .write (.putClusterSet productionSet), .write (.putCluster ⟨"alpha", production, .online⟩),
  .write (.putCluster ⟨"mid", .ofList [("env", "dev")], .online⟩),
  .write (.setClusterState "zeta" .online), .write (.putCluster ⟨"beta", production, .initializing⟩)]).1

/-- Loaded from one manifest, where an earlier record of one cluster is replaced. -/
def loadedAtOnce : Store := (empty.run [.write (.putCluster ⟨"alpha", .empty, .offline⟩), .apply
  ⟨[⟨"alpha", production, .online⟩, ⟨"beta", production, .initializing⟩,
      ⟨"mid", .ofList [("env", "dev")], .online⟩, ⟨"zeta", production, .online⟩],
    [productionSet], [], [], []⟩]).1

theorem selection_of_records_twoWays : writtenSingly.Reachable ∧ loadedAtOnce.Reachable ∧
    writtenSingly.UsesSelector wantsProduction production ∧
    ∃ primaries, writtenSingly.primaries wantsProduction = .ok (.selectorSet, primaries) ∧
      loadedAtOnce.primaries wantsProduction = .ok (.selectorSet, primaries) ∧
      primaries.map (·.name) = ["alpha", "beta", "zeta"] ∧
      primaries.map (·.online) = [true, false, true] := by
  have reachable : writtenSingly.Reachable := Reachable.empty.run _
  have reachable' : loadedAtOnce.Reachable := Reachable.empty.run _
  have same (c : Cluster) : loadedAtOnce.Holds c ↔ writtenSingly.Holds c := by
    rw [Holds, Holds, show loadedAtOnce.clusters = writtenSingly.clusters by decide +kernel]
  have uses : writtenSingly.UsesSelector wantsProduction production :=
    ⟨_, productionSet, rfl, rfl, by decide +kernel, rfl⟩
  have uses' : loadedAtOnce.UsesSelector wantsProduction production :=
    ⟨_, productionSet, rfl, rfl, by decide +kernel, rfl⟩
  obtain ⟨-, alike⟩ := selection_of_records reachable production
  obtain ⟨primaries, found, found', members⟩ := (alike _ reachable' same).1 _ uses uses'
  have selected : (writtenSingly.clustersMatching production).map Cluster.member =
      [⟨"alpha", true⟩, ⟨"beta", false⟩, ⟨"zeta", true⟩] := by decide +kernel
  have names := congrArg (List.map PoolMember.name) (members.trans selected)
  have states := congrArg (List.map PoolMember.online) (members.trans selected)
  rw [List.map_map] at names states
  exact ⟨reachable, reachable', uses, primaries, found, found', names, states⟩

end Store

end ClusterPlacement
