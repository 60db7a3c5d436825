import ClusterPlacement.Store
/-! Manifests: the records of a fleet, listed by kind, and loading them into a store. A manifest is checked as
a whole before anything is written. -/

namespace ClusterPlacement

structure Manifest where
  clusters : List Cluster
  clusterSets : List ClusterSet
  namespaces : List Namespace
  resources : List Resource
  policies : List Policy
deriving DecidableEq

def Manifest.empty : Manifest := ⟨[], [], [], [], []⟩

inductive ManifestError where
  | unnamedPolicy
  | policyWithoutUid (key : String)
deriving DecidableEq

def ManifestError.message : ManifestError → String
  | unnamedPolicy => "schedule policy is missing a namespace or name"
  | policyWithoutUid key => "schedule policy " ++ key ++ " has no uid"

/-- How many records of each kind were written. -/
structure ManifestCounts where
  clusters : Nat
  clusterSets : Nat
  namespaces : Nat
  resources : Nat
  policies : Nat
deriving DecidableEq

namespace Manifest

/-- What is wrong with a policy that cannot be loaded. -/
def policyError? (p : Policy) : Option ManifestError :=
  if p.ns = "" ∨ p.name = "" then some .unnamedPolicy
  else if p.uid = "" then some (.policyWithoutUid p.key)
  else none

def error? (m : Manifest) : Option ManifestError := m.policies.findSome? policyError?

/-- A policy that is already stored under the same uid keeps its status. -/
def applyPolicy (s : Store) (p : Policy) : Store :=
  match s.policy? p.key with
  | some existing => s.putPolicy (if existing.uid = p.uid then { p with status := existing.status } else p)
  | none => s.putPolicy p

/-- Writes every record of a manifest, the ones that others refer to first. -/
def write (m : Manifest) (s : Store) : Store :=
  let s := m.clusters.foldl Store.putCluster s
  let s := m.clusterSets.foldl Store.putClusterSet s
  let s := m.namespaces.foldl Store.putNamespace s
  let s := m.resources.foldl Store.putResource s
  m.policies.foldl applyPolicy s

def counts (m : Manifest) : ManifestCounts :=
  ⟨m.clusters.length, m.clusterSets.length, m.namespaces.length, m.resources.length, m.policies.length⟩

def apply (m : Manifest) (s : Store) : Except ManifestError (ManifestCounts × Store) :=
  match m.error? with
  | some e => .error e
  | none => .ok (m.counts, m.write s)

end Manifest

end ClusterPlacement
