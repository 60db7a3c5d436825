import ClusterPlacement.Directory
/-! Which clusters a policy wants, and which of them are online. -/

namespace ClusterPlacement

/-- How the primary clusters were found. -/
inductive PrimarySource where
  | assign
  | roleSet
  | selectorSet
deriving DecidableEq

/-- A cluster that a policy wants to use. -/
structure Primary where
  name : String
  /-- The role it plays in the set it was found in. -/
  role : Option String
  online : Bool
deriving DecidableEq

namespace Store

def primaryOfEntry (s : Store) (entry : PolicyEntry) (index : Nat) :
    Except PlacementError Primary :=
  match entry.name with
  | none => .error (.invalidPolicy (.entryWithoutCluster index))
  | some name => do
    let c ← s.lookUpCluster name
    return ⟨c.name, none, c.isOnline⟩

def primaryOfMember (s : Store) (m : SetMember) : Except PlacementError Primary := do
  let c ← s.lookUpCluster m.name
  return ⟨c.name, some m.role, c.isOnline⟩

/-- The clusters of a set: a list of members in its own order, a selection in the order of names. -/
def setMembers (s : Store) (set : ClusterSet) : Except PlacementError (List Primary) :=
  match set.membership? with
  | some (.roles members) => members.mapM s.primaryOfMember
  | some (.selector selector) =>
    .ok ((s.clustersMatching selector).map fun c => ⟨c.name, none, c.isOnline⟩)
  | none => .error (.invalidPolicy (.noMembership set.name))

/-- How the clusters of a set named `name` are found. -/
def sourceOfSet (name : String) (set : ClusterSet) : Except PlacementError PrimarySource :=
  match set.membership? with
  | some (.roles _) => .ok .roleSet
  | some (.selector _) => .ok .selectorSet
  | none => .error (.invalidPolicy (.noMembership name))

/-- The primary clusters of a policy, in order. -/
def primaries (s : Store) (spec : PolicySpec) :
    Except PlacementError (PrimarySource × List Primary) :=
  match spec.source with
  | .assign => do
    let found ← spec.entries.zipIdx.mapM fun (entry, index) => s.primaryOfEntry entry index
    return (.assign, found)
  | .clusterSet =>
    match spec.clusterSet with
    | none => .error (.invalidPolicy .noClusterSet)
    | some name => do
      let set ← s.lookUpClusterSet name
      let source ← sourceOfSet name set
      return (source, ← s.setMembers set)

end Store

end ClusterPlacement
