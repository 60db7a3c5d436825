import ClusterPlacement.Binding
import ClusterPlacement.Table
/-! A binding seen from its clusters: what each of them receives. -/

namespace ClusterPlacement

structure BindingStatus where
  /-- The key of the binding. -/
  binding : String
  owner : String
  version : UInt64
  /-- For each cluster the overrides of each of its resources. -/
  clusters : Table (Table (List Patch))
deriving DecidableEq

namespace BindingStatus

/-- Enters what one resource changes on one cluster, over what was entered for the two before. -/
def enter (resource : String) (t : Table (Table (List Patch))) (c : BoundCluster) :
    Table (Table (List Patch)) :=
  t.insert c.name (((t.find? c.name).getD .empty).insert resource c.overrides)

def clustersOf (spec : BindingSpec) : Table (Table (List Patch)) :=
  spec.resources.foldl (fun t r => r.clusters.foldl (enter r.name) t) .empty

def ofBinding (b : Binding) : BindingStatus :=
  ⟨b.key, b.owner.kind ++ "/" ++ b.owner.name, b.version, clustersOf b.spec⟩

end BindingStatus

end ClusterPlacement
