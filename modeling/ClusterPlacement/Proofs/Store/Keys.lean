import ClusterPlacement.Proofs.Table
import ClusterPlacement.Store
/-! Records under their own keys. Every write computes the key of a record from the record itself, also
where the record was read before and changed, so a record that is found under a key has that key. -/

namespace ClusterPlacement.Store

variable {s s' : Store} {b stored : Binding}

/-- The store with a binding under a key. -/
def withBinding (s : Store) (key : String) (b : Binding) : Store :=
  { s with bindings := s.bindings.insert key b }

theorem withBinding_find? (s : Store) (key : String) (b : Binding) (k : String) :
    (s.withBinding key b).bindings.find? k = if k = key then some b else s.bindings.find? k :=
  Table.find?_insert _ _ _ _

theorem createBinding_eq_ok_iff : s.createBinding b = .ok (stored, s') ↔
    s.bindings.find? b.key = none ∧ stored = { b with version := 1 } ∧
      s' = s.withBinding b.key stored := by
  unfold createBinding
  cases s.bindings.find? b.key with
  | some => simp
  | none =>
    simp only [Except.ok.injEq, Prod.mk.injEq, true_and, withBinding]
    constructor
    · rintro ⟨rfl, rfl⟩
      exact ⟨rfl, rfl⟩
    · rintro ⟨rfl, rfl⟩
      exact ⟨rfl, rfl⟩

theorem updateBinding_eq_ok_iff : s.updateBinding b = .ok (stored, s') ↔
    ∃ current, s.bindings.find? b.key = some current ∧ current.version = b.version ∧
      stored = { b with version := current.version + 1 } ∧
      s' = s.withBinding b.key stored := by
  unfold updateBinding
  cases s.bindings.find? b.key with
  | none => simp
  | some current =>
    simp only [Option.some.injEq, exists_eq_left', withBinding]
    split
    case isFalse stale => simp [stale]
    case isTrue fresh =>
      simp only [Except.ok.injEq, Prod.mk.injEq, fresh, true_and]
      constructor
      · rintro ⟨rfl, rfl⟩
        exact ⟨rfl, rfl⟩
      · rintro ⟨rfl, rfl⟩
        exact ⟨rfl, rfl⟩

/-- Every record of every table sits under the key that its own fields give. -/
structure Keyed (s : Store) : Prop where
  policies : s.policies.KeyedBy Policy.key
  clusters : s.clusters.KeyedBy Cluster.name
  clusterSets : s.clusterSets.KeyedBy ClusterSet.name
  bindings : s.bindings.KeyedBy Binding.key
  resources : s.resources.KeyedBy Resource.key
  namespaces : s.namespaces.KeyedBy Namespace.name

theorem keyed_empty : empty.Keyed :=
  ⟨Table.keyedBy_empty, Table.keyedBy_empty, Table.keyedBy_empty, Table.keyedBy_empty,
    Table.keyedBy_empty, Table.keyedBy_empty⟩

namespace Keyed

theorem putPolicy (keyed : s.Keyed) (p : Policy) : (s.putPolicy p).Keyed :=
  { keyed with policies := keyed.policies.insert rfl }

theorem putCluster (keyed : s.Keyed) (c : Cluster) : (s.putCluster c).Keyed :=
  { keyed with clusters := keyed.clusters.insert rfl }

theorem putClusterSet (keyed : s.Keyed) (set : ClusterSet) : (s.putClusterSet set).Keyed :=
  { keyed with clusterSets := keyed.clusterSets.insert rfl }

theorem putResource (keyed : s.Keyed) (r : Resource) : (s.putResource r).Keyed :=
  { keyed with resources := keyed.resources.insert rfl }

theorem putNamespace (keyed : s.Keyed) (n : Namespace) : (s.putNamespace n).Keyed :=
  { keyed with namespaces := keyed.namespaces.insert rfl }

theorem setClusterState {name : String} {state : ClusterState} (keyed : s.Keyed)
    (h : s.setClusterState name state = .ok s') : s'.Keyed := by
  unfold Store.setClusterState at h
  split at h
  case h_1 c _ =>
    obtain rfl := Except.ok.inj h
    exact keyed.putCluster _
  case h_2 => simp at h

theorem withBinding (keyed : s.Keyed) (b : Binding) : (s.withBinding b.key b).Keyed :=
  { keyed with bindings := keyed.bindings.insert rfl }

theorem createBinding (keyed : s.Keyed) (h : s.createBinding b = .ok (stored, s')) : s'.Keyed := by
  obtain ⟨_, rfl, rfl⟩ := createBinding_eq_ok_iff.1 h
  exact keyed.withBinding { b with version := 1 }

theorem updateBinding (keyed : s.Keyed) (h : s.updateBinding b = .ok (stored, s')) : s'.Keyed := by
  obtain ⟨current, _, _, rfl, rfl⟩ := updateBinding_eq_ok_iff.1 h
  exact keyed.withBinding { b with version := current.version + 1 }

theorem deleteBinding (keyed : s.Keyed) (ns name : String) : (s.deleteBinding ns name).2.Keyed :=
  { keyed with bindings := keyed.bindings.erase _ }

theorem deletePolicyCascade (keyed : s.Keyed) (key : String) :
    (s.deletePolicyCascade key).2.Keyed := by
  unfold Store.deletePolicyCascade
  split
  case h_1 => exact keyed
  case h_2 =>
    exact { keyed with
      policies := keyed.policies.erase _
      bindings := keyed.bindings.foldl_erase _ }

end Keyed

end ClusterPlacement.Store
