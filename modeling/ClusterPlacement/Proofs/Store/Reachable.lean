import ClusterPlacement.Controller.Run
import ClusterPlacement.Manifest
import ClusterPlacement.Proofs.Controller.Visit
import ClusterPlacement.Proofs.Reconcile.Effect
/-! Every store that can come about. Loading a manifest, reconciling and a controller at work are runs
of the single writes, so what each single write keeps holds whatever is done to a store, and in
whatever order. -/

namespace ClusterPlacement

/-- The single writes. -/
inductive Operation where
  | putPolicy (p : Policy)
  | putCluster (c : Cluster)
  | setClusterState (name : String) (state : ClusterState)
  | putClusterSet (set : ClusterSet)
  | putResource (r : Resource)
  | putNamespace (n : Namespace)
  | createBinding (b : Binding)
  | updateBinding (b : Binding)
  | deleteBinding (ns name : String)
  | deletePolicyCascade (key : String)

/-- The store after an operation. One that fails leaves it as it is. -/
def Operation.perform (s : Store) : Operation → Store
  | putPolicy p => s.putPolicy p
  | putCluster c => s.putCluster c
  | setClusterState name state =>
    match s.setClusterState name state with
    | .ok s' => s'
    | .error _ => s
  | putClusterSet set => s.putClusterSet set
  | putResource r => s.putResource r
  | putNamespace n => s.putNamespace n
  | createBinding b =>
    match s.createBinding b with
    | .ok (_, s') => s'
    | .error _ => s
  | updateBinding b =>
    match s.updateBinding b with
    | .ok (_, s') => s'
    | .error _ => s
  | deleteBinding ns name => (s.deleteBinding ns name).2
  | deletePolicyCascade key => (s.deletePolicyCascade key).2

namespace Store

inductive Reachable : Store → Prop where
  | empty : Reachable .empty
  | step {s : Store} (op : Operation) : Reachable s → Reachable (op.perform s)

variable {s s' : Store}

theorem Keyed.perform (keyed : s.Keyed) (op : Operation) : (op.perform s).Keyed := by
  cases op with
  | putPolicy p => exact keyed.putPolicy p
  | putCluster c => exact keyed.putCluster c
  | setClusterState name state =>
    cases set : s.setClusterState name state with
    | error => simpa [Operation.perform, set] using keyed
    | ok s' => simpa [Operation.perform, set] using keyed.setClusterState set
  | putClusterSet set => exact keyed.putClusterSet set
  | putResource r => exact keyed.putResource r
  | putNamespace n => exact keyed.putNamespace n
  | createBinding b =>
    cases created : s.createBinding b with
    | error => simpa [Operation.perform, created] using keyed
    | ok result => simpa [Operation.perform, created] using keyed.createBinding created
  | updateBinding b =>
    cases updated : s.updateBinding b with
    | error => simpa [Operation.perform, updated] using keyed
    | ok result => simpa [Operation.perform, updated] using keyed.updateBinding updated
  | deleteBinding ns name => exact keyed.deleteBinding ns name
  | deletePolicyCascade key => exact keyed.deletePolicyCascade key

namespace Reachable

theorem keyed (reachable : s.Reachable) : s.Keyed := by
  induction reachable with
  | empty => exact keyed_empty
  | step op _ ih => exact ih.perform op

/-- What every write of a list leads to. -/
theorem foldl {α : Type} {write : Store → α → Store}
    (each : ∀ s x, s.Reachable → (write s x).Reachable) (reachable : s.Reachable) (xs : List α) :
    (xs.foldl write s).Reachable := by
  induction xs generalizing s with
  | nil => exact reachable
  | cons x xs ih => exact ih (each s x reachable)

theorem applyPolicy (reachable : s.Reachable) (p : Policy) : (Manifest.applyPolicy s p).Reachable := by
  unfold Manifest.applyPolicy
  split
  case h_1 => exact reachable.step (.putPolicy _)
  case h_2 => exact reachable.step (.putPolicy _)

theorem apply {m : Manifest} {counts : ManifestCounts} (reachable : s.Reachable)
    (h : m.apply s = .ok (counts, s')) : s'.Reachable := by
  unfold Manifest.apply at h
  split at h
  case h_1 => simp at h
  case h_2 =>
    obtain ⟨_, rfl⟩ := Prod.mk.inj (Except.ok.inj h)
    have clusters := reachable.foldl (fun _ c before => before.step (.putCluster c)) m.clusters
    have sets := clusters.foldl (fun _ set before => before.step (.putClusterSet set)) m.clusterSets
    have namespaces := sets.foldl (fun _ n before => before.step (.putNamespace n)) m.namespaces
    have resources := namespaces.foldl (fun _ r before => before.step (.putResource r)) m.resources
    exact resources.foldl (fun _ p before => before.applyPolicy p) m.policies

theorem writeBinding {candidate stored : Binding} {outcome : WriteOutcome}
    (reachable : s.Reachable) (h : s.writeBinding candidate = .ok (outcome, stored, s')) :
    s'.Reachable := by
  unfold Store.writeBinding at h
  split at h
  case h_1 =>
    simp only [Except.bind_eq_ok_iff, Except.mapError_eq_ok_iff, Except.pure_eq_ok_iff] at h
    obtain ⟨⟨b, after⟩, created, h⟩ := h
    obtain ⟨_, _, rfl⟩ := by simpa using h
    simpa [Operation.perform, created] using reachable.step (.createBinding candidate)
  case h_2 current _ =>
    split at h
    case isTrue =>
      obtain ⟨_, _, rfl⟩ := by simpa using h
      exact reachable
    case isFalse =>
      simp only [Except.bind_eq_ok_iff, Except.mapError_eq_ok_iff, Except.pure_eq_ok_iff] at h
      obtain ⟨⟨b, after⟩, updated, h⟩ := h
      obtain ⟨_, _, rfl⟩ := by simpa using h
      simpa [Operation.perform, updated] using
        reachable.step (.updateBinding { current with spec := candidate.spec })

theorem reconcile {time : UInt64} {key : String} {outcome : ReconcileOutcome}
    (reachable : s.Reachable) (h : s.reconcile time key = .ok (outcome, s')) : s'.Reachable := by
  rcases (reconcile_eq_ok_iff reachable.keyed.bindings).1 h with
    ⟨_, _, _, _, rfl⟩ | ⟨p, out, _, scheduled⟩
  · exact reachable
  · rw [scheduled.store_eq]
    exact (reachable.writeBinding (scheduled.writeBinding_eq reachable.keyed.bindings)).step
      (.putPolicy _)

theorem visit {here : Controller.Circumstances} {before after : Controller.PassState} {key : String}
    (reachable : before.store.Reachable) (h : Controller.visit here before key = some after) :
    after.store.Reachable := by
  cases Controller.visit_eq_some_iff.1 h with
  | deferred => exact reachable
  | settled _ reconciled => exact reachable.reconcile reconciled
  | failed => exact reachable

theorem visits {here : Controller.Circumstances} {before after : Controller.PassState}
    {keys : List String} (reachable : before.store.Reachable)
    (h : keys.foldlM (Controller.visit here) before = some after) : after.store.Reachable := by
  induction keys generalizing before with
  | nil =>
    obtain rfl := Option.some.inj h
    exact reachable
  | cons key keys ih =>
    obtain ⟨between, visited, rest⟩ := Option.bind_eq_some_iff.1 h
    exact ih (reachable.visit visited) rest

theorem pass {c : Controller} {here : Controller.Circumstances} {after : Controller.PassState}
    (reachable : s.Reachable) (h : c.pass here s = some after) : after.store.Reachable :=
  reachable.visits h

theorem passesUntil {finish : Duration} {factor : String → Binary64} {time : Controller.Clock}
    {r r' : Controller.Run} (reachable : r.store.Reachable)
    (h : r.passesUntil finish time factor = some r') : r'.store.Reachable := by
  fun_induction Controller.Run.passesUntil finish time factor r with
  | case1 =>
    obtain rfl := Option.some.inj h
    exact reachable
  | case2 => simp at h
  | case3 r _ p passed ih => exact ih (reachable.pass passed) h

end Reachable

end Store

end ClusterPlacement
