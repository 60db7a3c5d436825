import ClusterPlacement.Cluster
import ClusterPlacement.Json.Codec
/-! The JSON forms of clusters, cluster sets and namespaces. -/

namespace ClusterPlacement

open Json (Codec Field)

def Labels.form : Codec Labels := Codec.table Codec.string

def ClusterState.name : ClusterState → String
  | online => "online"
  | offline => "offline"
  | initializing => "initializing"

def ClusterState.form : Codec ClusterState :=
  Codec.variant [("online", .online), ("offline", .offline), ("initializing", .initializing)] name

/-- The state of a cluster stands in a record of its own. -/
def ClusterState.statusForm : Codec ClusterState :=
  Codec.record "ClusterStatus" [.required "status" ClusterState.form]
    (fun (state, ()) => state) (fun state => (state, ()))

/-- A cluster of which nothing is reported yet is initializing. -/
def Cluster.form : Codec Cluster :=
  Codec.record "Cluster"
    [.required "name" .string, .withDefault "labels" Labels.form .empty,
      .withDefault "status" ClusterState.statusForm .initializing]
    (fun (name, labels, state, ()) => ⟨name, labels, state⟩)
    (fun c => (c.name, c.labels, c.state, ()))

def SetMember.form : Codec SetMember :=
  Codec.record "ClusterSetMember" [.required "name" .string, .withDefault "role" .string ""]
    (fun (name, role, ()) => ⟨name, role⟩) (fun m => (m.name, m.role, ()))

def ClusterSet.form : Codec ClusterSet :=
  Codec.record "ClusterSet"
    [.required "name" .string, .withDefault "clusters" (.list SetMember.form) [],
      .optional "selector" Labels.form]
    (fun (name, members, selector, ()) => ⟨name, members, selector⟩)
    (fun s => (s.name, s.members, s.selector, ()))

def Namespace.form : Codec Namespace :=
  Codec.record "Namespace" [.required "name" .string, .withDefault "labels" Labels.form .empty]
    (fun (name, labels, ()) => ⟨name, labels⟩) (fun n => (n.name, n.labels, ()))

end ClusterPlacement
