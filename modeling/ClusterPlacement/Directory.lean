import ClusterPlacement.Store
import ClusterPlacement.Text.Quoted
/-! What a placement looks up in a store, and why a placement fails. -/

namespace ClusterPlacement

/-- The kinds of record that a placement cannot do without. -/
inductive RecordKind where
  | cluster
  | clusterSet
  | resource
deriving DecidableEq

def RecordKind.text : RecordKind → String
  | cluster => "cluster"
  | clusterSet => "cluster set"
  | resource => "placed resource"

/-- What is wrong with a policy, or with a set it refers to. -/
inductive PolicyFault where
  | entryWithoutCluster (index : Nat)
  | noClusterSet
  | noMembership (set : String)
  | emptyRange (index lower upper : Nat)
  | noWeight
deriving DecidableEq

def PolicyFault.text : PolicyFault → String
  | entryWithoutCluster i => "policy entry " ++ Numeral.decimal i ++ " has no cluster name"
  | noClusterSet => "cluster source is cluster_set but no clusterset is named"
  | noMembership set =>
    "cluster set " ++ set ++ " must declare exactly one of clusters or selector"
  | emptyRange i lower upper =>
    "policy entry " ++ Numeral.decimal i ++ " has min " ++ Numeral.decimal lower ++
      " greater than max " ++ Numeral.decimal upper
  | noWeight => "weighted scheduling requires a non-zero total weight"

/-- Why a placement fails. -/
inductive PlacementError where
  | notFound (kind : RecordKind) (name : String)
  | capacityExceeded (unavailable : List String) (available : Nat)
  | noFailover (unavailable : List String)
  | invalidPolicy (fault : PolicyFault)
deriving DecidableEq

def PlacementError.message : PlacementError → String
  | notFound kind name => kind.text ++ " not found: " ++ name
  | capacityExceeded unavailable available =>
    "unavailable clusters " ++ Text.quotedList unavailable ++
      " exceed available failover capacity " ++ Numeral.decimal available
  | noFailover unavailable =>
    "clusters " ++ Text.quotedList unavailable ++
      " are unavailable and no failover policy is configured"
  | invalidPolicy fault => "invalid policy: " ++ fault.text

namespace Store

def lookUpCluster (s : Store) (name : String) : Except PlacementError Cluster :=
  match s.cluster? name with
  | some c => .ok c
  | none => .error (.notFound .cluster name)

def lookUpClusterSet (s : Store) (name : String) : Except PlacementError ClusterSet :=
  match s.clusterSet? name with
  | some set => .ok set
  | none => .error (.notFound .clusterSet name)

def lookUpResource (s : Store) (ns name : String) : Except PlacementError Resource :=
  match s.resource? ns name with
  | some r => .ok r
  | none => .error (.notFound .resource (objectKey ns name))

/-- The clusters that a selector selects, in the order of their names. -/
def clustersMatching (s : Store) (selector : Labels) : List Cluster :=
  s.clusterList.filter (·.matches selector)

/-- The labels of a namespace. A namespace that is not stored has none. -/
def namespaceLabels (s : Store) (name : String) : Labels :=
  match s.namespace? name with
  | some n => n.labels
  | none => .empty

end Store

end ClusterPlacement
