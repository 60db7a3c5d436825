import ClusterPlacement.Proofs.Reconcile.DryRun
/-! Reconciles without a memory. A plan is made from the fleet and from what the policy asks for, and a
write leaves no more of an earlier binding than its owner and its version. So where a fleet recovers, or
a policy comes back, its resources go where they would have gone if nothing had happened. -/

namespace ClusterPlacement

variable {s t : Store} {p q : Policy} {key : String} {time later : UInt64}

/-- Policies of one name that ask for the same, whoever made them and whenever they were placed. -/
structure Policy.SameDemand (p q : Policy) : Prop where
  ns : q.ns = p.ns
  name : q.name = p.name
  spec : q.spec = p.spec

namespace Store

theorem SameFleet.compute_of_sameDemand (fleet : s.SameFleet t) (alike : p.SameDemand q) :
    Plan.compute t q = Plan.compute s p := by
  obtain ⟨ns, name, spec⟩ := alike
  obtain ⟨clusters, clusterSets, resources, namespaces⟩ := fleet
  cases s
  cases t
  cases p
  cases q
  simp only at ns name spec clusters clusterSets resources namespaces
  subst ns name spec clusters clusterSets resources namespaces
  rfl

theorem SameFleet.plan_eq (fleet : s.SameFleet t) (stored : s.policy? key = some p)
    (stored' : t.policy? key = some q) (alike : p.SameDemand q) : t.plan key = s.plan key := by
  rw [plan_of_policy? stored, plan_of_policy? stored', fleet.compute_of_sameDemand alike]

/-- What a reconcile leaves of a policy that it could plan: the binding has the planned spec, whatever was
there before. -/
theorem spec_attempt (keyed : s.Keyed) (stored : s.policy? key = some p)
    (placed : p.spec.reschedule = true) {plan : Plan} (planned : s.plan key = .ok plan)
    (time : UInt64) : ∃ out, (s.attempt time key).1 = .ok (.scheduled out) ∧ out.plan = plan ∧
      ((s.attempt time key).2.binding? p.ns p.bindingName).map (·.spec) = some plan.spec := by
  obtain ⟨out, scheduled, rfl⟩ := (plan_eq_ok_iff keyed stored placed plan).1 planned
  obtain ⟨bound, wanted⟩ := binding?_attempt keyed stored scheduled
  refine ⟨out, scheduled, rfl, ?_⟩
  rw [bound, Option.map_some, wanted]

/-- Of two stores with one fleet that ask for the same under a key, a reconcile makes the same: it fails
alike, or comes to one plan and leaves the policy's binding with the spec of that plan in both. -/
theorem reconcile_memoryless (reachable : s.Reachable) (reachable' : t.Reachable)
    (fleet : s.SameFleet t) (stored : s.policy? key = some p) (stored' : t.policy? key = some q)
    (alike : p.SameDemand q) (placed : p.spec.reschedule = true) (time later : UInt64) :
    (∃ e, (s.attempt time key).1 = .error e ∧ (t.attempt later key).1 = .error e) ∨
    ∃ out out', (s.attempt time key).1 = .ok (.scheduled out) ∧
      (t.attempt later key).1 = .ok (.scheduled out') ∧ out'.plan = out.plan ∧
      ((s.attempt time key).2.binding? p.ns p.bindingName).map (·.spec) = some out.plan.spec ∧
      ((t.attempt later key).2.binding? p.ns p.bindingName).map (·.spec) = some out.plan.spec := by
  have placed' : q.spec.reschedule = true := by rw [alike.spec, placed]
  have same := fleet.plan_eq stored stored' alike
  cases planned : s.plan key with
  | error e =>
    left
    refine ⟨e, ?_, ?_⟩
    · exact (plan_eq_error_iff reachable.keyed stored placed e).1 planned
    · exact (plan_eq_error_iff reachable'.keyed stored' placed' e).1 (same.trans planned)
  | ok plan =>
    right
    obtain ⟨out, scheduled, rfl, bound⟩ := spec_attempt reachable.keyed stored placed planned time
    obtain ⟨out', scheduled', plan, bound'⟩ :=
      spec_attempt reachable'.keyed stored' placed' (same.trans planned) later
    rw [alike.ns, Policy.bindingName, alike.name] at bound'
    exact ⟨out, out', scheduled, scheduled', plan, bound, bound'⟩

/-- The policy of the renewed store, in a store that knew no other before. -/
def fresh : Store := applied.putPolicy { laterWeb with uid := "third" }

/-- In the one store nothing is bound yet, in the other the policy's predecessor left a binding. -/
theorem reconcile_memoryless_renewed : fresh.Reachable ∧ renewed.Reachable ∧
    fresh.SameFleet renewed ∧ fresh.binding? web.ns web.bindingName = none ∧
    (renewed.binding? web.ns web.bindingName).isSome ∧
    ∃ out out', (fresh.attempt 7 web.key).1 = .ok (.scheduled out) ∧ out.write = .created ∧
      (renewed.attempt 8 web.key).1 = .ok (.scheduled out') ∧ out'.write = .updated ∧
      out'.plan = out.plan ∧
      ((renewed.attempt 8 web.key).2.binding? web.ns web.bindingName).map (·.spec) =
        ((fresh.attempt 7 web.key).2.binding? web.ns web.bindingName).map (·.spec) := by
  have reachable : fresh.Reachable := reachable_applied.step (.putPolicy _)
  have fleet : fresh.SameFleet renewed := ⟨rfl, rfl, rfl, rfl⟩
  have alike : Policy.SameDemand { laterWeb with uid := "third" } laterWeb := ⟨rfl, rfl, rfl⟩
  have stored : fresh.policy? web.key = some { laterWeb with uid := "third" } := rfl
  have stored' : renewed.policy? web.key = some laterWeb := rfl
  obtain ⟨out, scheduled, created⟩ : ∃ out,
      (fresh.attempt 7 web.key).1 = .ok (.scheduled out) ∧ out.write = .created := ⟨_, rfl, rfl⟩
  obtain ⟨out', scheduled', updated⟩ : ∃ out,
      (renewed.attempt 8 web.key).1 = .ok (.scheduled out) ∧ out.write = .updated := ⟨_, rfl, rfl⟩
  refine ⟨reachable, reachable_renewed, fleet, rfl, rfl, ?_⟩
  obtain ⟨e, failed, _⟩ | ⟨first, second, one, two, plan, bound, bound'⟩ :=
    reconcile_memoryless reachable reachable_renewed fleet stored stored' alike rfl 7 8
  · rw [scheduled] at failed
    cases failed
  · obtain rfl := ReconcileOutcome.scheduled.inj (Except.ok.inj (scheduled.symm.trans one))
    obtain rfl := ReconcileOutcome.scheduled.inj (Except.ok.inj (scheduled'.symm.trans two))
    exact ⟨out, out', scheduled, created, scheduled', updated, plan, bound'.trans bound.symm⟩

end Store

end ClusterPlacement
