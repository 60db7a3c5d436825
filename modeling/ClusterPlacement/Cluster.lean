import ClusterPlacement.Table
/-! Clusters, the named sets they are grouped into, and namespaces, whose labels say what they are called on
each cluster. -/

namespace ClusterPlacement

/-- Labels of a cluster or a namespace, and the labels that a selector asks for. -/
abbrev Labels := Table String

inductive ClusterState where
  | online
  | offline
  | initializing
deriving DecidableEq

structure Cluster where
  name : String
  labels : Labels
  state : ClusterState
deriving DecidableEq

/-- Only an online cluster can take resources. -/
def Cluster.isOnline (c : Cluster) : Bool := c.state = .online

/-- Whether the cluster carries every label of a selector with the same value. -/
def Cluster.matches (c : Cluster) (selector : Labels) : Bool :=
  selector.entries.all fun (key, value) => c.labels.find? key = some value

/-- A cluster listed in a set, with the role it plays there. -/
structure SetMember where
  name : String
  role : String
deriving DecidableEq

/-- A named set of clusters. It lists its members or selects them by labels. -/
structure ClusterSet where
  name : String
  members : List SetMember
  selector : Option Labels
deriving DecidableEq

inductive Membership where
  | roles (members : List SetMember)
  | selector (labels : Labels)
deriving DecidableEq

/-- How a set finds its members. A set that does both, or neither, has no membership; a selector
without labels is a selector. -/
def ClusterSet.membership? (s : ClusterSet) : Option Membership :=
  match s.selector, s.members with
  | some labels, [] => some (.selector labels)
  | none, m :: members => some (.roles (m :: members))
  | _, _ => none

structure Namespace where
  name : String
  labels : Labels
deriving DecidableEq

end ClusterPlacement
