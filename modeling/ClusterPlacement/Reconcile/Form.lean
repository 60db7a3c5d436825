import ClusterPlacement.Binding.Form
import ClusterPlacement.Manifest
import ClusterPlacement.Reconcile
import ClusterPlacement.Status
/-! The JSON forms of results. They are only written, never read. -/

namespace ClusterPlacement

def Strategy.name : Strategy → String
  | duplicated => "duplicated"
  | selectorDuplicated => "selector_duplicated"
  | weightedByCluster => "weighted_by_cluster"
  | weightedByRole => "weighted_by_role"

/-- The primary that a substitute stands for is only mentioned where there is one. -/
def Placement.toJson (p : Placement) : Json :=
  .object <|
    [("cluster", .string p.cluster), ("mapping_key", .string p.mappingKey),
      ("replicas", .ofOption .natural p.replicas)] ++
    match p.substitutedFor with
    | some name => [("substituted_for", .string name)]
    | none => []

def Plan.toJson (p : Plan) : Json :=
  .object [("policy", .string p.policy), ("strategy", .string p.strategy.name),
    ("placements", .array (p.placements.map Placement.toJson)), ("spec", BindingSpec.form.encode p.spec)]

def WriteOutcome.name : WriteOutcome → String
  | created => "created"
  | updated => "updated"
  | unchanged => "unchanged"

def ReconcileOutcome.toJson : ReconcileOutcome → Json
  | skipped policy => .object [("result", .string "skipped"), ("policy", .string policy)]
  | scheduled s =>
    .object [("result", .string "scheduled"), ("policy", .string s.policy),
      ("write", .string s.write.name), ("binding", Binding.form.encode s.binding),
      ("plan", s.plan.toJson)]

def ManifestCounts.toJson (c : ManifestCounts) : Json :=
  .object [("clusters", .natural c.clusters), ("cluster_sets", .natural c.clusterSets),
    ("namespaces", .natural c.namespaces), ("resources", .natural c.resources),
    ("policies", .natural c.policies)]

def BindingStatus.toJson (s : BindingStatus) : Json :=
  let resources (t : Table (List Patch)) : Json :=
    .object [("resources", (Json.Codec.table (.list Patch.form)).encode t)]
  .object [("binding", .string s.binding), ("owner", .string s.owner),
    ("resource_version", .natural s.version.toNat),
    ("clusters", .object (s.clusters.entries.map fun (name, t) => (name, resources t)))]

end ClusterPlacement
