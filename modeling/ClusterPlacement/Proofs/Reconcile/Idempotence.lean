import ClusterPlacement.Proofs.Reconcile.Frame
/-! Reconciling twice in a row. The first time leaves the fleet as it is, so the plan is the same the second
time, and the binding that is stored by then has the spec of that plan whatever the first time made of
it. The second time only notes when it took place. -/

namespace ClusterPlacement

variable {s s' : Store} {p : Policy} {key : String} {time later : UInt64} {out : Scheduled}

/-- Created, updated or left alone, a binding has the wanted spec afterwards. -/
theorem Binding.spec_settle (candidate : Binding) (before : Option Binding) :
    (candidate.settle before).2.spec = candidate.spec := by
  cases before with
  | none => rfl
  | some current =>
    simp only [settle]
    split
    case isTrue same => exact same
    case isFalse => rfl

/-- A binding that has the wanted spec is left alone, whoever owns it. -/
theorem Binding.settle_of_spec_eq {candidate current : Binding} (same : current.spec = candidate.spec) :
    candidate.settle (some current) = (.unchanged, current) := by
  simp only [settle, if_pos same]

namespace Store

theorem withBinding_of_find? {k : String} {b : Binding} (found : s.bindings.find? k = some b) :
    s.withBinding k b = s := by
  rw [withBinding, Table.insert_of_find? found]

/-- The policy as it was stamped is scheduled anew, and only its status is written. -/
theorem Schedules.again (keyed : s.policies.KeyedBy Policy.key)
    (scheduled : s.Schedules time key p out s') {stamped : Policy}
    (after : s'.policy? key = some stamped) (later : UInt64) :
    s'.Schedules later key stamped { out with write := .unchanged }
      (s'.putPolicy { stamped with status := stamp stamped.status .unchanged later }) := by
  rw [scheduled.policy?_eq keyed, if_pos rfl] at after
  obtain rfl := Option.some.inj after
  have bound : s'.binding? p.ns p.bindingName = some out.binding := scheduled.binding_eq
  refine ⟨?_, scheduled.placed, ?_, scheduled.policy_eq, ?_, ?_⟩
  · rw [scheduled.policy?_eq keyed, if_pos rfl]
  · rw [scheduled.sameFleet.compute_eq]
    exact scheduled.planned
  · have wanted := Binding.spec_settle (.candidate p out.plan.spec) (s.binding? p.ns p.bindingName)
    rw [scheduled.settled] at wanted
    change (Binding.candidate p out.plan.spec).settle (s'.binding? p.ns p.bindingName) = _
    rw [bound]
    exact Binding.settle_of_spec_eq wanted
  · have unwritten : s'.withBinding (objectKey p.ns p.bindingName) out.binding = s' :=
      withBinding_of_find? bound
    change _ = (s'.withBinding (objectKey p.ns p.bindingName) out.binding).putPolicy _
    rw [unwritten]

/-- After a reconcile that scheduled a policy, the next one comes to the same plan and the same binding,
whenever it is, and changes nothing but the time at which the policy was last scheduled. -/
theorem reconcile_again (reachable : s.Reachable)
    (reconciled : s.reconcile time key = .ok (.scheduled out, s')) :
    ∃ p, s'.policy? key = some p ∧ ∀ later,
      s'.reconcile later key = .ok (.scheduled { out with write := .unchanged },
        { s' with policies := s'.policies.insert key { p with
          status := { p.status with lastScheduleTime := some later } } }) := by
  have keyed := reachable.keyed
  have keyed' := (reachable.reconcile reconciled).keyed
  rcases (reconcile_eq_ok_iff keyed.bindings).1 reconciled with
    ⟨_, _, _, skipped, _⟩ | ⟨p, other, same, scheduled⟩
  · simp at skipped
  · obtain rfl := ReconcileOutcome.scheduled.inj same
    have after := scheduled.policy?_eq keyed.policies key
    rw [if_pos rfl] at after
    refine ⟨_, after, fun later => ?_⟩
    have again := scheduled.again keyed.policies after later
    have own : p.key = key := keyed.policies _ _ scheduled.stored
    rw [← own] at again ⊢
    exact (reconcile_eq_ok_iff keyed'.bindings).2 (.inr ⟨_, _, rfl, again⟩)

/-- The binding of a policy that was applied anew for another cluster is updated once. -/
theorem reconcile_again_renewed : renewed.Reachable ∧ ∃ out s' p,
    renewed.reconcile 2 web.key = .ok (.scheduled out, s') ∧ out.write = .updated ∧
      out.binding.version = 2 ∧ s'.policy? web.key = some p ∧
      s'.reconcile 3 web.key = .ok (.scheduled { out with write := .unchanged },
        { s' with policies := s'.policies.insert web.key { p with
          status := { p.status with lastScheduleTime := some 3 } } }) := by
  obtain ⟨out, s', reconciled, updated, version⟩ : ∃ out s',
      renewed.reconcile 2 web.key = .ok (.scheduled out, s') ∧ out.write = .updated ∧
        out.binding.version = 2 := ⟨_, _, rfl, rfl, rfl⟩
  obtain ⟨p, stored, again⟩ := reconcile_again reachable_renewed reconciled
  exact ⟨reachable_renewed, out, s', p, reconciled, updated, version, stored, again 3⟩

end Store

end ClusterPlacement
