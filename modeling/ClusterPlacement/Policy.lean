import ClusterPlacement.Naming
/-! Policies: which resources to place, where, and in how many replicas. -/

namespace ClusterPlacement

/-- Where the primary clusters of a policy come from. -/
inductive ClusterSource where
  | assign
  | clusterSet
deriving DecidableEq

inductive ScheduleMode where
  | duplicated
  | weighted
deriving DecidableEq

/-- A weighted entry for a cluster or for a role, with bounds on its replicas. -/
structure PolicyEntry where
  name : Option String
  role : Option String
  weight : UInt32
  min : Option UInt32
  max : Option UInt32
deriving DecidableEq

namespace PolicyEntry

/-- The largest number of replicas there can be. -/
def replicaLimit : Nat := UInt32.size - 1

def lowerBound (e : PolicyEntry) : Nat := (e.min.map UInt32.toNat).getD 0

def upperBound (e : PolicyEntry) : Nat := (e.max.map UInt32.toNat).getD replicaLimit

end PolicyEntry

inductive FailoverKind where
  | cluster
  | clusterSet
deriving DecidableEq

/-- A cluster, or every member of a set, that may stand in for an unavailable primary. -/
structure FailoverEntry where
  name : String
  kind : FailoverKind
deriving DecidableEq

structure PolicySpec where
  /-- The resources to place, in the order of the binding. -/
  resources : List String
  source : ClusterSource
  /-- The set that primaries come from if `source` says so. -/
  clusterSet : Option String
  replicas : UInt32
  /-- How replicas are spread over assigned clusters. -/
  mode : ScheduleMode
  entries : List PolicyEntry
  failover : List FailoverEntry
  /-- Whether the controller places the policy at all. -/
  reschedule : Bool
deriving DecidableEq

/-- When a policy was last placed and last changed its binding, in seconds since 1970. -/
structure PolicyStatus where
  lastScheduleTime : Option UInt64
  lastModifyTime : Option UInt64
deriving DecidableEq

def PolicyStatus.never : PolicyStatus := ⟨none, none⟩

structure Policy where
  ns : String
  name : String
  /-- Tells apart two policies that had the same name at different times. -/
  uid : String
  spec : PolicySpec
  status : PolicyStatus
deriving DecidableEq

/-- What a binding says about the policy it was made for. -/
structure Owner where
  kind : String
  name : String
  uid : String
deriving DecidableEq

namespace Policy

def key (p : Policy) : String := objectKey p.ns p.name

def bindingName (p : Policy) : String := ClusterPlacement.bindingName p.name

def owner (p : Policy) : Owner := ⟨policyKind, p.name, p.uid⟩

end Policy

end ClusterPlacement
