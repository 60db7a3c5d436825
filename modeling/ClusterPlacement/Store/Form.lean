import ClusterPlacement.Binding.Form
import ClusterPlacement.Cluster.Form
import ClusterPlacement.Manifest
/-! The JSON forms of manifests and of a store, in which it is kept in a file. -/

namespace ClusterPlacement

open Json (Codec Field)

/-- Every list may be left out. -/
def Manifest.form : Codec Manifest :=
  Codec.record "Manifest"
    [.withDefault "clusters" (.list Cluster.form) [],
      .withDefault "cluster_sets" (.list ClusterSet.form) [],
      .withDefault "namespaces" (.list Namespace.form) [],
      .withDefault "resources" (.list Resource.form) [],
      .withDefault "policies" (.list Policy.form) []]
    (fun (clusters, clusterSets, namespaces, resources, policies, ()) =>
      ⟨clusters, clusterSets, namespaces, resources, policies⟩)
    (fun m => (m.clusters, m.clusterSets, m.namespaces, m.resources, m.policies, ()))

def Store.form : Codec Store :=
  Codec.record "Store"
    [.required "policies" (.table Policy.form), .required "clusters" (.table Cluster.form),
      .required "cluster_sets" (.table ClusterSet.form), .required "bindings" (.table Binding.form),
      .required "resources" (.table Resource.form), .required "namespaces" (.table Namespace.form)]
    (fun (policies, clusters, clusterSets, bindings, resources, namespaces, ()) =>
      ⟨policies, clusters, clusterSets, bindings, resources, namespaces⟩)
    (fun s => (s.policies, s.clusters, s.clusterSets, s.bindings, s.resources, s.namespaces, ()))

end ClusterPlacement
