import ClusterPlacement.Proofs.Reconcile.Idempotence
import ClusterPlacement.Proofs.Reconcile.Independence
/-! The plan of a policy as the forecast of its reconcile. A reconcile makes the same plan, and once that is
made nothing can go wrong any more: the binding under the key of the policy is looked up first, so its
creation finds no binding there and its update carries the version that is stored. -/

namespace ClusterPlacement

variable {s : Store} {p : Policy} {key : String} {time : UInt64} {out : Scheduled}
  {e : ReconcileError}

namespace Transactions

def plan (key : String) : Transactions ReconcileError Plan := do
  let p ← look (·.loadPolicy key)
  look fun s => (Plan.compute s p).mapError .placement

theorem plan_eq (key : String) (s : Store) : plan key s = (s.plan key, s) := by
  unfold plan Store.plan
  rw [look_bind]
  cases s.loadPolicy key with
  | error e => rfl
  | ok p =>
    change s.commit (((Plan.compute s p).mapError ReconcileError.placement).map fun a => (a, s)) =
      ((Plan.compute s p).mapError ReconcileError.placement, s)
    cases Plan.compute s p <;> rfl

end Transactions

namespace Store

theorem verdict_of_reschedule (stored : s.policy? key = some p) (placed : p.spec.reschedule = true) :
    s.verdict time key = (s.plan key).map (s.carryOut time key p) := by
  simp only [verdict, stored, if_pos placed]

theorem attempt_fst_of_reschedule (keyed : s.Keyed) (stored : s.policy? key = some p)
    (placed : p.spec.reschedule = true) :
    (s.attempt time key).1 = (s.plan key).map fun plan => (s.carryOut time key p plan).1 := by
  rw [attempt_eq keyed, verdict_of_reschedule stored placed]
  cases s.plan key <;> rfl

theorem plan_eq_ok_iff (keyed : s.Keyed) (stored : s.policy? key = some p)
    (placed : p.spec.reschedule = true) (plan : Plan) : s.plan key = .ok plan ↔
      ∃ out, (s.attempt time key).1 = .ok (.scheduled out) ∧ out.plan = plan := by
  rw [attempt_fst_of_reschedule keyed stored placed]
  cases s.plan key with
  | error e =>
    constructor
    · nofun
    · rintro ⟨_, scheduled, _⟩
      cases scheduled
  | ok plan' =>
    constructor
    · intro planned
      obtain rfl := Except.ok.inj planned
      exact ⟨_, rfl, rfl⟩
    · rintro ⟨out, scheduled, rfl⟩
      obtain rfl := ReconcileOutcome.scheduled.inj (Except.ok.inj scheduled)
      rfl

theorem plan_eq_error_iff (keyed : s.Keyed) (stored : s.policy? key = some p)
    (placed : p.spec.reschedule = true) (e : ReconcileError) :
    s.plan key = .error e ↔ (s.attempt time key).1 = .error e := by
  rw [attempt_fst_of_reschedule keyed stored placed]
  cases s.plan key <;> simp [Except.map]

theorem binding?_attempt (keyed : s.Keyed) (stored : s.policy? key = some p)
    (scheduled : (s.attempt time key).1 = .ok (.scheduled out)) :
    (s.attempt time key).2.binding? p.ns p.bindingName = some out.binding ∧
      out.binding.spec = out.plan.spec := by
  rw [attempt_eq_commit] at scheduled ⊢
  cases reconciled : s.reconcile time key with
  | error e =>
    rw [reconciled] at scheduled
    cases scheduled
  | ok result =>
    obtain ⟨outcome, after⟩ := result
    rw [reconciled] at scheduled
    obtain rfl : outcome = .scheduled out := Except.ok.inj scheduled
    obtain ⟨_, _, _, skipped, _⟩ | ⟨p', out', same, done⟩ :=
      (reconcile_eq_ok_iff keyed.bindings).1 reconciled
    · cases skipped
    · obtain rfl := ReconcileOutcome.scheduled.inj same
      obtain rfl : p = p' := Option.some.inj (stored.symm.trans done.stored)
      have wanted := Binding.spec_settle (.candidate p out.plan.spec) (s.binding? p.ns p.bindingName)
      rw [done.settled] at wanted
      exact ⟨done.binding_eq, wanted⟩

/-- A reconcile fails for want of its policy or of a plan, and for nothing else. -/
theorem verdict_eq_error (failed : s.verdict time key = .error e) :
    e = .policyNotFound key ∨ ∃ e', e = .placement e' := by
  unfold verdict at failed
  cases stored : s.policy? key with
  | none =>
    rw [stored] at failed
    exact .inl (Except.error.inj failed).symm
  | some p =>
    simp only [stored] at failed
    split at failed
    case isFalse => cases failed
    case isTrue =>
      rw [plan_of_policy? stored] at failed
      cases computed : Plan.compute s p with
      | error e' =>
        rw [computed] at failed
        exact .inr ⟨e', (Except.error.inj failed).symm⟩
      | ok plan =>
        rw [computed] at failed
        cases failed

/-- The plan of a policy foretells its reconcile: the reconcile schedules exactly the plan, or fails with
the same error, and then the stored binding has the planned spec. No reconcile fails on its writes, and
planning writes nothing. -/
theorem reconcile_as_planned (reachable : s.Reachable) (time : UInt64) :
    (∀ key p, s.policy? key = some p → p.spec.reschedule = true →
      (∀ plan, s.plan key = .ok plan ↔
        ∃ out, (s.attempt time key).1 = .ok (.scheduled out) ∧ out.plan = plan) ∧
      (∀ e, s.plan key = .error e ↔ (s.attempt time key).1 = .error e) ∧
      ∀ out, (s.attempt time key).1 = .ok (.scheduled out) →
        (s.attempt time key).2.binding? p.ns p.bindingName = some out.binding ∧
        out.binding.spec = out.plan.spec) ∧
    (∀ key bindingKey e, (s.attempt time key).1 ≠ .error (.bindingWrite bindingKey e)) ∧
    ∀ key, Transactions.plan key s = (s.plan key, s) := by
  have keyed := reachable.keyed
  refine ⟨?_, ?_, fun key => Transactions.plan_eq key s⟩
  · intro key p stored placed
    refine ⟨plan_eq_ok_iff keyed stored placed, plan_eq_error_iff keyed stored placed, ?_⟩
    intro out scheduled
    exact binding?_attempt keyed stored scheduled
  · intro key bindingKey e failed
    rw [attempt_eq keyed] at failed
    cases verdict : s.verdict time key with
    | ok result =>
      rw [verdict] at failed
      cases failed
    | error e' =>
      rw [verdict] at failed
      obtain rfl := Except.error.inj failed
      obtain missing | ⟨_, unplaced⟩ := verdict_eq_error verdict
      · cases missing
      · cases unplaced

/-- One policy can be placed and another cannot. -/
theorem reconcile_as_planned_crowded : crowded.Reachable ∧
    (∃ plan out, crowded.plan web.key = .ok plan ∧
      (crowded.attempt 1 web.key).1 = .ok (.scheduled out) ∧ out.plan = plan ∧
      (crowded.attempt 1 web.key).2.binding? web.ns web.bindingName = some out.binding ∧
      out.binding.spec = plan.spec) ∧
    ∃ e, crowded.plan lost.key = .error e ∧ (crowded.attempt 1 lost.key).1 = .error e := by
  obtain ⟨forecasts, _, _⟩ := reconcile_as_planned reachable_crowded 1
  obtain ⟨success, _, stored⟩ := forecasts web.key web rfl rfl
  obtain ⟨_, failure, _⟩ := forecasts lost.key lost rfl rfl
  obtain ⟨plan, planned⟩ : ∃ plan, crowded.plan web.key = .ok plan := ⟨_, rfl⟩
  obtain ⟨e, failed⟩ : ∃ e, crowded.plan lost.key = .error e := ⟨_, rfl⟩
  obtain ⟨out, scheduled, rfl⟩ := (success plan).1 planned
  obtain ⟨bound, wanted⟩ := stored out scheduled
  refine ⟨reachable_crowded, ?_, e, failed, (failure e).1 failed⟩
  exact ⟨out.plan, out, planned, scheduled, rfl, bound, wanted⟩

end Store

end ClusterPlacement
