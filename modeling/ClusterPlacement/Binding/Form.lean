import ClusterPlacement.Binding
import ClusterPlacement.Policy.Form
/-! The JSON forms of resources, bindings and their parts. -/

namespace ClusterPlacement

open Json (Codec Field)

def Resource.form : Codec Resource :=
  Codec.record "PlacedResource"
    [.required "namespace" .string, .required "name" .string, .optional "replica_path" .string]
    (fun (ns, name, path, ()) => ⟨ns, name, path⟩) (fun r => (r.ns, r.name, r.replicaPath, ()))

/-- A patch names its operation, of which there is only one. -/
def Patch.form : Codec Patch :=
  Codec.record "JsonPatch"
    [.required "op" (Codec.variant [("replace", ())] fun () => "replace"),
      .required "path" .string, .required "value" .string]
    (fun (_, path, value, ()) => ⟨path, value⟩) (fun p => ((), p.path, p.value, ()))

def BoundCluster.form : Codec BoundCluster :=
  Codec.record "BindingCluster"
    [.required "name" .string, .withDefault "override" (.list Patch.form) []]
    (fun (name, overrides, ()) => ⟨name, overrides⟩) (fun c => (c.name, c.overrides, ()))

def BoundResource.form : Codec BoundResource :=
  Codec.record "BindingResource"
    [.required "name" .string, .required "clusters" (.list BoundCluster.form)]
    (fun (name, clusters, ()) => ⟨name, clusters⟩) (fun r => (r.name, r.clusters, ()))

def BindingSpec.form : Codec BindingSpec :=
  Codec.record "BindingSpec" [.required "resources" (.list BoundResource.form)]
    (fun (resources, ()) => ⟨resources⟩) (fun s => (s.resources, ()))

def Binding.form : Codec Binding :=
  Codec.record "Binding"
    [.required "namespace" .string, .required "name" .string, .required "owner" Owner.form,
      .withDefault "resource_version" .word64 0, .required "spec" BindingSpec.form]
    (fun (ns, name, owner, version, spec, ()) => ⟨ns, name, owner, version, spec⟩)
    (fun b => (b.ns, b.name, b.owner, b.version, b.spec, ()))

end ClusterPlacement
