import ClusterPlacement.Proofs.Manifest.Writing
import ClusterPlacement.Proofs.Store.Reachable
/-! What calls do to the bindings of a store. A call creates one binding, updates one or leaves every binding
that is there afterwards as it was, and what happened can be told from the call alone. -/

namespace ClusterPlacement

variable {s s' : Store} {candidate : Binding}

/-- A call that stored a binding under a key. -/
inductive BindingEvent where
  | created (key : String)
  | updated (key : String)
deriving DecidableEq

def WriteOutcome.event? (key : String) : WriteOutcome → Option BindingEvent
  | created => some (.created key)
  | updated => some (.updated key)
  | unchanged => none

/-- A call that fails stores nothing. -/
def Operation.event? (s : Store) : Operation → Option BindingEvent
  | createBinding b =>
    match s.createBinding b with
    | .ok (stored, _) => some (.created stored.key)
    | .error _ => none
  | updateBinding b =>
    match s.updateBinding b with
    | .ok (stored, _) => some (.updated stored.key)
    | .error _ => none
  | _ => none

/-- What a call does to the bindings of a store, by the event that it is told as. -/
inductive Traced (s s' : Store) : Option BindingEvent → Prop where
  | quiet (kept : ∀ k b, s'.bindings.find? k = some b → s.bindings.find? k = some b) :
      Traced s s' none
  | created (b : Binding) (first : b.version = 1)
      (bindings : s'.bindings = s.bindings.insert b.key b) : Traced s s' (some (.created b.key))
  | updated (b current : Binding) (found : s.bindings.find? b.key = some current)
      (raised : b.version = current.version + 1)
      (bindings : s'.bindings = s.bindings.insert b.key b) : Traced s s' (some (.updated b.key))

namespace Traced

theorem of_bindings_eq (same : s'.bindings = s.bindings) : Traced s s' none := by
  refine .quiet fun k b found => ?_
  rwa [same] at found

theorem createBinding (b : Binding) :
    Traced s ((Operation.createBinding b).perform s) ((Operation.createBinding b).event? s) := by
  cases created : s.createBinding b with
  | error e =>
    simp only [Operation.perform, Operation.event?, created]
    exact of_bindings_eq rfl
  | ok result =>
    obtain ⟨stored, after⟩ := result
    simp only [Operation.perform, Operation.event?, created]
    obtain ⟨_, rfl, rfl⟩ := Store.createBinding_eq_ok_iff.1 created
    exact .created { b with version := 1 } rfl rfl

theorem updateBinding (b : Binding) :
    Traced s ((Operation.updateBinding b).perform s) ((Operation.updateBinding b).event? s) := by
  cases updated : s.updateBinding b with
  | error e =>
    simp only [Operation.perform, Operation.event?, updated]
    exact of_bindings_eq rfl
  | ok result =>
    obtain ⟨stored, after⟩ := result
    simp only [Operation.perform, Operation.event?, updated]
    obtain ⟨current, found, _, rfl, rfl⟩ := Store.updateBinding_eq_ok_iff.1 updated
    exact .updated { b with version := current.version + 1 } current found rfl rfl

theorem deleteBinding (ns name : String) : Traced s (s.deleteBinding ns name).2 none := by
  refine .quiet fun k b found => ?_
  replace found : (s.bindings.erase (objectKey ns name)).find? k = some b := found
  rw [Table.find?_erase] at found
  split at found
  case isTrue => cases found
  case isFalse => exact found

theorem deletePolicyCascade (policyKey : String) :
    Traced s (s.deletePolicyCascade policyKey).2 none := by
  unfold Store.deletePolicyCascade
  cases s.policy? policyKey with
  | none => exact of_bindings_eq rfl
  | some p =>
    refine .quiet fun k b found => ?_
    replace found :
      (((s.ownedBindings p).map Binding.key).foldl Table.erase s.bindings).find? k = some b := found
    rw [Table.find?_foldl_erase] at found
    split at found
    case isTrue => cases found
    case isFalse => exact found

theorem setClusterState (name : String) (state : ClusterState) :
    Traced s ((Operation.setClusterState name state).perform s) none := by
  simp only [Operation.perform, Store.setClusterState]
  cases s.cluster? name with
  | none => exact of_bindings_eq rfl
  | some c => exact of_bindings_eq rfl

theorem perform (s : Store) (op : Operation) : Traced s (op.perform s) (op.event? s) := by
  cases op with
  | createBinding b => exact createBinding b
  | updateBinding b => exact updateBinding b
  | deleteBinding ns name => exact deleteBinding ns name
  | deletePolicyCascade policyKey => exact deletePolicyCascade policyKey
  | setClusterState name state => exact setClusterState name state
  | putPolicy | putCluster | putClusterSet | putResource | putNamespace => exact of_bindings_eq rfl

theorem settle (keyed : s.bindings.KeyedBy Binding.key) {stored : Binding} {outcome : WriteOutcome}
    (settled : candidate.settle (s.bindings.find? candidate.key) = (outcome, stored))
    (bindings : s'.bindings = s.bindings.insert candidate.key stored) :
    Traced s s' (outcome.event? stored.key) := by
  cases found : s.bindings.find? candidate.key with
  | none =>
    rw [found] at settled
    obtain ⟨rfl, rfl⟩ := Prod.mk.inj settled
    exact .created { candidate with version := 1 } rfl bindings
  | some current =>
    have own : current.key = candidate.key := keyed _ _ found
    rw [found, Binding.settle] at settled
    split at settled
    case isTrue =>
      obtain ⟨rfl, rfl⟩ := Prod.mk.inj settled
      exact of_bindings_eq (bindings.trans (Table.insert_of_find? found))
    case isFalse =>
      obtain ⟨rfl, rfl⟩ := Prod.mk.inj settled
      rw [← own] at found bindings
      exact .updated { current with spec := candidate.spec, version := current.version + 1 } current
        found rfl bindings

end Traced

end ClusterPlacement
