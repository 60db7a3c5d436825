import ClusterPlacement.Distribution
/-! The plan for a policy: where its resources go, and the changes to their manifests there. -/

namespace ClusterPlacement

/-- The name that a namespace has under a mapping key, if its labels give one. -/
def Labels.mappedNamespace? (labels : Labels) (ns mappingKey : String) : Option String :=
  (Table.find? labels (namespaceMappingLabel mappingKey ns)).filter (· ≠ "")

namespace Placement

/-- The replica count, where the resource has a place for it and the placement a count. -/
def replicaPatch (r : Resource) (p : Placement) : List Patch :=
  match r.replicaPath, p.replicas with
  | some path, some replicas => if path = "" then [] else [⟨path, Numeral.decimal replicas⟩]
  | _, _ => []

def namespacePatch (ns : String) (labels : Labels) (p : Placement) : List Patch :=
  match labels.mappedNamespace? ns p.mappingKey with
  | some mapped => [⟨namespacePath, mapped⟩]
  | none => []

/-- The changes to a resource's manifest on the placed cluster. -/
def overrides (ns : String) (labels : Labels) (r : Resource) (p : Placement) : List Patch :=
  replicaPatch r p ++ namespacePatch ns labels p

end Placement

structure Plan where
  /-- The key of the policy. -/
  policy : String
  strategy : Strategy
  placements : List Placement
  spec : BindingSpec
deriving DecidableEq

namespace Plan

def bindResource (s : Store) (p : Policy) (placements : List Placement) (name : String) :
    Except PlacementError BoundResource := do
  let r ← s.lookUpResource p.ns name
  let labels := s.namespaceLabels p.ns
  return ⟨name, placements.map fun placed => ⟨placed.cluster, placed.overrides p.ns labels r⟩⟩

/-- Plans a policy. It fails as a whole or gives a complete plan, and the store stays as it is. -/
def compute (s : Store) (p : Policy) : Except PlacementError Plan := do
  let availability ← Availability.check s p.spec
  let targets ← Target.resolve availability
  let (strategy, placements) ← Placement.distribute p.spec availability.source targets
  let resources ← p.spec.resources.mapM (bindResource s p placements)
  return ⟨p.key, strategy, placements, ⟨resources⟩⟩

end Plan

end ClusterPlacement
