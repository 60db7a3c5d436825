import ClusterPlacement.Proofs.Manifest.Writing
import ClusterPlacement.Proofs.Reconcile.Ownership
import ClusterPlacement.Proofs.Reconcile.Transactions
/-! Loading a manifest, told by what it gives and by the transactions it consists of. A policy that cannot be
loaded is found before the first of them and none of them fails, so a manifest is loaded as a whole or not
at all. -/

namespace ClusterPlacement

variable {α β ε : Type} {m : Manifest}

namespace Transactions

/-- A policy is looked up before it is stored. -/
def storePolicy (p : Policy) : Transactions ManifestError Unit := do
  let before ← look fun s => .ok (s.policy? p.key)
  record (·.putPolicy (p.storedAfter before))

def loadManifest (m : Manifest) : Transactions ManifestError ManifestCounts := do
  if let some e := m.error? then throw e
  m.clusters.forM fun c => record (·.putCluster c)
  m.clusterSets.forM fun set => record (·.putClusterSet set)
  m.namespaces.forM fun n => record (·.putNamespace n)
  m.resources.forM fun r => record (·.putResource r)
  m.policies.forM storePolicy
  return m.counts

/-- Transactions that cannot fail write one after the other. -/
theorem forM_apply {act : α → Transactions ε Unit} {write : Store → α → Store}
    (each : ∀ x s, act x s = (.ok (), write s x)) (xs : List α) (s : Store) :
    xs.forM act s = (.ok (), xs.foldl write s) := by
  induction xs generalizing s with
  | nil => rfl
  | cons x xs ih =>
    rw [List.forM, bind_apply, each]
    exact ih (write s x)

theorem forM_record_bind (write : Store → α → Store) (xs : List α)
    (next : PUnit → Transactions ε β) (s : Store) :
    ((xs.forM fun x => record (write · x)) >>= next) s = next () (xs.foldl write s) := by
  have all : (xs.forM fun x => record (write · x)) s = ((.ok () : Except ε Unit), xs.foldl write s) :=
    forM_apply (fun _ _ => rfl) xs s
  rw [bind_apply, all]

theorem storePolicy_apply (p : Policy) (s : Store) :
    storePolicy p s = (.ok (), Manifest.applyPolicy s p) := by
  rw [storePolicy, look_bind, Manifest.applyPolicy_eq_putPolicy]
  rfl

/-- Loading a manifest is one transaction. -/
theorem loadManifest_eq_transaction (m : Manifest) : loadManifest m = transaction m.apply := by
  funext s
  change _ = s.commit (m.apply s)
  unfold loadManifest Manifest.apply
  cases m.error? with
  | some e => rfl
  | none =>
    simp only [forM_record_bind]
    rw [bind_apply, forM_apply storePolicy_apply]
    rfl

end Transactions

namespace Manifest

/-- The store `s'` is `s` with the records of a manifest, which leave all others as they are. -/
structure Loaded (m : Manifest) (s s' : Store) : Prop where
  clusters : ∀ k, s'.clusters.find? k =
    (Table.lastUnder Cluster.name k m.clusters).or (s.clusters.find? k)
  clusterSets : ∀ k, s'.clusterSets.find? k =
    (Table.lastUnder ClusterSet.name k m.clusterSets).or (s.clusterSets.find? k)
  namespaces : ∀ k, s'.namespaces.find? k =
    (Table.lastUnder Namespace.name k m.namespaces).or (s.namespaces.find? k)
  resources : ∀ k, s'.resources.find? k =
    (Table.lastUnder Resource.key k m.resources).or (s.resources.find? k)
  policies : ∀ k last, Table.lastUnder Policy.key k m.policies = some last → ∃ source,
    Policy.statusSource (s.policies.find? k) (Table.listedUnder Policy.key k m.policies) = some source ∧
      s'.policies.find? k = some { last with status := source.status }
  otherPolicies : ∀ k, k ∉ m.policies.map Policy.key → s'.policies.find? k = s.policies.find? k
  bindings : s'.bindings = s.bindings

theorem loaded_write (m : Manifest) (s : Store) : m.Loaded s (m.write s) := by
  rw [write_eq]
  refine ⟨Table.find?_putAll _ _ _, Table.find?_putAll _ _ _, Table.find?_putAll _ _ _,
    Table.find?_putAll _ _ _, ?_, ?_, rfl⟩
  · intro k last ends
    rw [Table.find?_storeAll]
    exact Policy.storeEach_eq_of_getLast? _ ends
  · intro k unlisted
    have none : Table.listedUnder Policy.key k m.policies = [] := by
      rw [Table.listedUnder, List.filter_eq_nil_iff]
      intro p listed own
      exact unlisted (List.mem_map.2 ⟨p, listed, of_decide_eq_true own⟩)
    rw [Table.find?_storeAll, none]
    rfl

theorem policyError?_eq_none_iff {p : Policy} :
    policyError? p = none ↔ ¬(p.ns = "" ∨ p.name = "" ∨ p.uid = "") := by
  unfold policyError?
  grind

theorem error?_eq_none_iff :
    m.error? = none ↔ ¬∃ p ∈ m.policies, p.ns = "" ∨ p.name = "" ∨ p.uid = "" := by
  rw [error?, List.findSome?_eq_none_iff]
  simp only [policyError?_eq_none_iff, not_exists, not_and]

/-- One policy without a namespace, a name or a uid keeps a whole manifest out. Any other manifest is loaded:
what is listed last is what is stored, except for the status of a policy. -/
theorem apply_loads (m : Manifest) (s : Store) :
    if ∃ p ∈ m.policies, p.ns = "" ∨ p.name = "" ∨ p.uid = "" then
      ∃ e, m.apply s = .error e ∧ Transactions.loadManifest m s = (.error e, s)
    else ∃ s', m.apply s = .ok (m.counts, s') ∧
      Transactions.loadManifest m s = (.ok m.counts, s') ∧ m.Loaded s s' := by
  rw [Transactions.loadManifest_eq_transaction]
  change ite _ (∃ e, _ ∧ s.commit (m.apply s) = _) (∃ s', _ ∧ s.commit (m.apply s) = _ ∧ _)
  unfold apply
  split
  case isTrue incomplete =>
    cases refused : m.error? with
    | none => exact absurd incomplete (error?_eq_none_iff.1 refused)
    | some e => exact ⟨e, rfl, rfl⟩
  case isFalse complete =>
    rw [error?_eq_none_iff.2 complete]
    exact ⟨m.write s, rfl, rfl, loaded_write m s⟩

/-- A policy as it is stored, and then twice another one under the same name. -/
def relisted : Manifest :=
  { Manifest.empty with
    policies := [Store.web, { Store.laterWeb with status := ⟨some 5, none⟩ }, Store.laterWeb] }

/-- The last of them has the status that the other one came with. -/
theorem apply_loads_relisted :
    let stored := Store.empty.putPolicy { Store.web with status := ⟨some 3, some 2⟩ }
    ∃ s', relisted.apply stored = .ok (⟨0, 0, 0, 0, 3⟩, s') ∧
      s'.policies.find? "default/web" = some { Store.laterWeb with status := ⟨some 5, none⟩ } := by
  intro stored
  have loads := apply_loads relisted stored
  rw [if_neg (by decide)] at loads
  obtain ⟨s', applied, _, loaded⟩ := loads
  obtain ⟨source, found, kept⟩ := loaded.policies "default/web" Store.laterWeb rfl
  obtain rfl := Option.some.inj found
  exact ⟨s', applied, kept⟩

end Manifest

end ClusterPlacement
