import ClusterPlacement.Proofs.Reconcile.Ownership
import ClusterPlacement.Proofs.Reconcile.Transactions
/-! What a reconcile leaves alone. It writes two records at most, the binding of its policy and the
status of that policy, and a plan is made from neither of them. -/

namespace ClusterPlacement

variable {s s' : Store} {p : Policy} {key : String} {time : UInt64} {out : Scheduled}

theorem Policy.bindingKey_eq (p : Policy) :
    objectKey p.ns p.bindingName = p.key ++ bindingSuffix :=
  String.append_assoc.symm

/-- A write raises the version of a binding, or gives it a first one, unless nothing changes. -/
theorem Binding.version_settle_iff (candidate : Binding) (before : Option Binding) :
    some (candidate.settle before).2.version = before.map (·.version) ↔
      (candidate.settle before).1 = .unchanged := by
  cases before with
  | none => simp [settle]
  | some current =>
    simp only [settle]
    split
    case isTrue => simp
    case isFalse => simp

namespace Store

/-- Stores that hold the same records of every kind that a plan is made from. -/
structure SameFleet (s s' : Store) : Prop where
  clusters : s'.clusters = s.clusters
  clusterSets : s'.clusterSets = s.clusterSets
  resources : s'.resources = s.resources
  namespaces : s'.namespaces = s.namespaces

/-- A plan depends on the fleet and on what the policy asks for, not on when it was placed. -/
theorem SameFleet.compute_eq (same : s.SameFleet s') (p : Policy) (status : PolicyStatus) :
    Plan.compute s' { p with status } = Plan.compute s p := by
  obtain ⟨clusters, clusterSets, resources, namespaces⟩ := same
  cases s
  cases s'
  simp only at clusters clusterSets resources namespaces
  subst clusters clusterSets resources namespaces
  rfl

/-- The version of the binding under a key, if there is one. -/
def bindingVersion? (s : Store) (key : String) : Option UInt64 :=
  (s.bindings.find? key).map (·.version)

/-- The store `s'` is `s` but for the binding and the status of the policy under a key, and the status
tells when the policy was placed and whether that wrote the binding. -/
structure Restamped (s : Store) (time : UInt64) (key : String) (s' : Store) : Prop
    extends s.SameFleet s' where
  bindings : ∀ k, k ≠ key ++ bindingSuffix → s'.bindings.find? k = s.bindings.find? k
  policies : ∀ k, k ≠ key → s'.policy? k = s.policy? k
  policy : ∃ p status, s.policy? key = some p ∧ s'.policy? key = some { p with status } ∧
    status.lastScheduleTime = some time ∧
    status.lastModifyTime =
      if s'.bindingVersion? (key ++ bindingSuffix) = s.bindingVersion? (key ++ bindingSuffix)
      then p.status.lastModifyTime else some time

theorem Schedules.sameFleet (scheduled : s.Schedules time key p out s') : s.SameFleet s' := by
  rw [scheduled.store_eq]
  exact ⟨rfl, rfl, rfl, rfl⟩

theorem Schedules.restamped (keyed : s.policies.KeyedBy Policy.key)
    (scheduled : s.Schedules time key p out s') : s.Restamped time key s' := by
  have bindingKey : objectKey p.ns p.bindingName = key ++ bindingSuffix := by
    rw [p.bindingKey_eq, keyed _ _ scheduled.stored]
  refine ⟨scheduled.sameFleet, ?_, ?_, p, stamp p.status out.write time, scheduled.stored, ?_, rfl, ?_⟩
  · intro k other
    rw [scheduled.store_eq, bindingKey]
    exact (withBinding_find? _ _ _ _).trans (if_neg other)
  · intro k other
    rw [scheduled.policy?_eq keyed, if_neg other]
  · rw [scheduled.policy?_eq keyed, if_pos rfl]
  · have after : s'.bindingVersion? (key ++ bindingSuffix) = some out.binding.version := by
      rw [← bindingKey]
      exact congrArg (Option.map _) scheduled.binding_eq
    have before : s.bindingVersion? (key ++ bindingSuffix) =
        (s.binding? p.ns p.bindingName).map (·.version) := by
      rw [← bindingKey]
      rfl
    have raised := Binding.version_settle_iff (.candidate p out.plan.spec)
      (s.binding? p.ns p.bindingName)
    rw [scheduled.settled] at raised
    rw [after, before]
    simp only [raised, stamp, WriteOutcome.wrote]
    by_cases unchanged : out.write = .unchanged <;> simp [unchanged]

/-- Transaction by transaction, a reconcile that fails or skips its policy leaves every table as it was,
and one that schedules it changes the records of `Restamped` only. -/
theorem reconcile_restamps (reachable : s.Reachable)
    {result : Except ReconcileError ReconcileOutcome}
    (performed : Transactions.reconcile time key s = (result, s')) :
    result = (s.reconcile time key).map (·.1) ∧
      match result with
      | .ok (.scheduled _) => s.Restamped time key s'
      | .ok (.skipped _) => s' = s
      | .error _ => s' = s := by
  rw [Transactions.reconcile_eq_transaction] at performed
  change s.commit (s.reconcile time key) = _ at performed
  cases reconciled : s.reconcile time key with
  | error e =>
    rw [reconciled] at performed
    obtain ⟨rfl, rfl⟩ := Prod.mk.inj performed
    exact ⟨rfl, rfl⟩
  | ok both =>
    obtain ⟨outcome, after⟩ := both
    rw [reconciled] at performed
    obtain ⟨rfl, rfl⟩ := Prod.mk.inj performed
    refine ⟨rfl, ?_⟩
    rcases (reconcile_eq_ok_iff reachable.keyed.bindings).1 reconciled with
      ⟨_, _, _, rfl, rfl⟩ | ⟨p, out, rfl, scheduled⟩
    · rfl
    · exact scheduled.restamped reachable.keyed.policies

theorem reconcile_restamps_applied : applied.Reachable ∧ ∃ out s' p,
    Transactions.reconcile 1 web.key applied = (.ok (.scheduled out), s') ∧
      applied.Restamped 1 web.key s' ∧ s'.policy? web.key = some p ∧
      p.status.lastScheduleTime = some 1 := by
  obtain ⟨out, s', performed⟩ : ∃ out s',
      Transactions.reconcile 1 web.key applied = (.ok (.scheduled out), s') := ⟨_, _, rfl⟩
  obtain ⟨_, restamped⟩ := reconcile_restamps reachable_applied performed
  obtain ⟨_, status, _, after, time, _⟩ := restamped.policy
  exact ⟨reachable_applied, out, s', _, performed, restamped, after, time⟩

end Store

end ClusterPlacement
