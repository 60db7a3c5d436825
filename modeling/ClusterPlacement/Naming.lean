/-! Names that are put together from other names: composite keys, binding names and the labels that
map namespaces. -/

namespace ClusterPlacement

/-- The key of a record that belongs to a namespace: `namespace/name`. -/
def objectKey (ns name : String) : String := ns ++ "/" ++ name

/-- The parts of a key around its first slash. A key with an empty part has none. -/
def splitObjectKey? (key : String) : Option (String × String) :=
  match key.toList.span (· ≠ '/') with
  | (_ :: _, '/' :: []) => none
  | (c :: ns, '/' :: name) => some (String.ofList (c :: ns), String.ofList name)
  | _ => none

def bindingSuffix : String := "-binding"

/-- The name of the binding that belongs to a policy. -/
def bindingName (policyName : String) : String := policyName ++ bindingSuffix

/-- The domain of the labels that map namespaces. -/
def mappingDomain : String := "mapping.fleetbind.io"

/-- The label of a namespace that says what it is called on a cluster, or on the clusters of a
role. -/
def namespaceMappingLabel (target ns : String) : String :=
  mappingDomain ++ "/" ++ target ++ "." ++ ns

/-- Where a manifest holds its namespace. -/
def namespacePath : String := "/metadata/namespace"

/-- The kind of owner that a policy is. -/
def policyKind : String := "SchedulePolicy"

end ClusterPlacement
