import ClusterPlacement.Policy
/-! Bindings: the stored outcome of a placement, and the records it is made from. -/

namespace ClusterPlacement

/-- A resource that policies can place. -/
structure Resource where
  ns : String
  name : String
  /-- Where its manifest holds the replica count. -/
  replicaPath : Option String
deriving DecidableEq

def Resource.key (r : Resource) : String := objectKey r.ns r.name

/-- The replacement of one field of a manifest. -/
structure Patch where
  path : String
  value : String
deriving DecidableEq

/-- A cluster that a resource is bound to, with the changes to its manifest there. -/
structure BoundCluster where
  name : String
  overrides : List Patch
deriving DecidableEq

structure BoundResource where
  name : String
  clusters : List BoundCluster
deriving DecidableEq

structure BindingSpec where
  resources : List BoundResource
deriving DecidableEq

structure Binding where
  ns : String
  name : String
  owner : Owner
  /-- Counts the writes of the binding since it was created. -/
  version : UInt64
  spec : BindingSpec
deriving DecidableEq

namespace Binding

def key (b : Binding) : String := objectKey b.ns b.name

/-- Whether the binding was made for a policy. -/
def isOwnedBy (b : Binding) (p : Policy) : Bool := b.owner = p.owner

/-- The binding that a policy should own for a spec, before it is stored. -/
def candidate (p : Policy) (spec : BindingSpec) : Binding := ⟨p.ns, p.bindingName, p.owner, 0, spec⟩

end Binding

end ClusterPlacement
