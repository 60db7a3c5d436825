import ClusterPlacement.Binding
import ClusterPlacement.Cluster
import ClusterPlacement.Text.Numeral
/-! The store: one table per kind of record. Records that belong to a namespace sit under their
composite key and the others under their name. A write that fails leaves no new store behind. -/

namespace ClusterPlacement

structure Store where
  policies : Table Policy
  clusters : Table Cluster
  clusterSets : Table ClusterSet
  bindings : Table Binding
  resources : Table Resource
  namespaces : Table Namespace
deriving DecidableEq

/-- Why a write is refused. -/
inductive StoreError where
  | clusterMissing (name : String)
  | bindingMissing (key : String)
  | bindingExists (key : String)
  /-- The version that the writer last saw is not the stored one. -/
  | conflict (key : String) (expected found : UInt64)
deriving DecidableEq

def StoreError.message : StoreError → String
  | clusterMissing name => "not found: cluster " ++ name
  | bindingMissing key => "not found: binding " ++ key
  | bindingExists key => "already exists: binding " ++ key
  | conflict key expected found =>
    "conflict on " ++ key ++ ": expected resource version " ++ Numeral.decimal expected.toNat ++
      ", found " ++ Numeral.decimal found.toNat

namespace Store

def empty : Store := ⟨.empty, .empty, .empty, .empty, .empty, .empty⟩

instance : Inhabited Store := ⟨empty⟩

def putPolicy (s : Store) (p : Policy) : Store := { s with policies := s.policies.insert p.key p }

def policy? (s : Store) (key : String) : Option Policy := s.policies.find? key

/-- All policies, in the order of their keys. -/
def policyList (s : Store) : List Policy := s.policies.values

def putCluster (s : Store) (c : Cluster) : Store := { s with clusters := s.clusters.insert c.name c }

def cluster? (s : Store) (name : String) : Option Cluster := s.clusters.find? name

/-- All clusters, in the order of their names. -/
def clusterList (s : Store) : List Cluster := s.clusters.values

/-- Changes the state of a cluster that is there, and nothing else of it. -/
def setClusterState (s : Store) (name : String) (state : ClusterState) : Except StoreError Store :=
  match s.cluster? name with
  | some c => .ok (s.putCluster { c with state })
  | none => .error (.clusterMissing name)

def putClusterSet (s : Store) (set : ClusterSet) : Store :=
  { s with clusterSets := s.clusterSets.insert set.name set }

def clusterSet? (s : Store) (name : String) : Option ClusterSet := s.clusterSets.find? name

def putResource (s : Store) (r : Resource) : Store :=
  { s with resources := s.resources.insert r.key r }

def resource? (s : Store) (ns name : String) : Option Resource := s.resources.find? (objectKey ns name)

def putNamespace (s : Store) (n : Namespace) : Store :=
  { s with namespaces := s.namespaces.insert n.name n }

def namespace? (s : Store) (name : String) : Option Namespace := s.namespaces.find? name

def binding? (s : Store) (ns name : String) : Option Binding := s.bindings.find? (objectKey ns name)

/-- Whether a key starts with a namespace and a slash. -/
def inNamespace (ns key : String) : Bool := (objectKey ns "").toList.isPrefixOf key.toList

/-- The bindings of a namespace, in the order of their keys. -/
def bindingList (s : Store) (ns : String) : List Binding :=
  (s.bindings.filterKeys (inNamespace ns)).values

/-- The bindings in a policy's namespace that were made for it. -/
def ownedBindings (s : Store) (p : Policy) : List Binding :=
  (s.bindingList p.ns).filter (·.isOwnedBy p)

/-- Stores a new binding under version one. -/
def createBinding (s : Store) (b : Binding) : Except StoreError (Binding × Store) :=
  match s.bindings.find? b.key with
  | some _ => .error (.bindingExists b.key)
  | none =>
    let stored := { b with version := 1 }
    .ok (stored, { s with bindings := s.bindings.insert b.key stored })

/-- Replaces a binding by one that carries its stored version, and raises the version. -/
def updateBinding (s : Store) (b : Binding) : Except StoreError (Binding × Store) :=
  match s.bindings.find? b.key with
  | none => .error (.bindingMissing b.key)
  | some current =>
    if current.version = b.version then
      let stored := { b with version := current.version + 1 }
      .ok (stored, { s with bindings := s.bindings.insert b.key stored })
    else .error (.conflict b.key b.version current.version)

/-- Removes a binding, and tells whether it was there. -/
def deleteBinding (s : Store) (ns name : String) : Bool × Store :=
  (s.bindings.contains (objectKey ns name),
    { s with bindings := s.bindings.erase (objectKey ns name) })

/-- Removes a policy with the bindings it owns and tells how many those were; nothing happens where
there is no such policy. -/
def deletePolicyCascade (s : Store) (key : String) : Option Nat × Store :=
  match s.policy? key with
  | none => (none, s)
  | some p =>
    let owned := (s.ownedBindings p).map Binding.key
    (some owned.length,
      { s with policies := s.policies.erase key, bindings := owned.foldl Table.erase s.bindings })

end Store

end ClusterPlacement
