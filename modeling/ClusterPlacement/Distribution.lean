import ClusterPlacement.Share
import ClusterPlacement.Target
/-! How many replicas each target runs. -/

namespace ClusterPlacement

inductive Strategy where
  | duplicated
  | selectorDuplicated
  | weightedByCluster
  | weightedByRole
deriving DecidableEq

/-- The mode of a policy only matters for clusters that it assigns itself. -/
def Strategy.choose (source : PrimarySource) (mode : ScheduleMode) : Strategy :=
  match source, mode with
  | .assign, .duplicated => duplicated
  | .assign, .weighted => weightedByCluster
  | .roleSet, _ => weightedByRole
  | .selectorSet, _ => selectorDuplicated

/-- What one cluster is to run. -/
structure Placement where
  cluster : String
  /-- The role or the name under which namespaces are mapped. -/
  mappingKey : String
  /-- Where there is no count, manifests keep their own. -/
  replicas : Option Nat
  substitutedFor : Option String
deriving DecidableEq

namespace Placement

def ofTarget (t : Target) (mappingKey : String) (replicas : Option Nat) : Placement :=
  ⟨t.name, mappingKey, replicas, t.substitutedFor⟩

/-- The share of the first entry for a role. -/
def roleShare (entries : List PolicyEntry) (shares : List Nat) (role : String) : Option Nat :=
  (entries.findIdx? (·.role = some role)).bind (shares[·]?)

/-- Every cluster of a role gets the whole share of the role. -/
def byRole (entries : List PolicyEntry) (shares : List Nat) (t : Target) : Placement :=
  let role := t.role.getD ""
  ofTarget t role (roleShare entries shares role)

def distribute (spec : PolicySpec) (source : PrimarySource) (targets : List Target) :
    Except PlacementError (Strategy × List Placement) := do
  let strategy := Strategy.choose source spec.mode
  match strategy with
  | .duplicated | .selectorDuplicated =>
    return (strategy, targets.map fun t => ofTarget t t.name (some spec.replicas.toNat))
  | .weightedByCluster =>
    let shares ← Share.weighted spec.replicas.toNat spec.entries
    return (strategy, targets.map fun t => ofTarget t t.name shares[t.primary]?)
  | .weightedByRole =>
    let shares ← Share.weighted spec.replicas.toNat spec.entries
    return (strategy, targets.map (byRole spec.entries shares))

end Placement

end ClusterPlacement
