import ClusterPlacement.Proofs.Except
import ClusterPlacement.Proofs.Store.Keys
import ClusterPlacement.Reconcile
/-! What writing a binding and reconciling a policy do to a store. As long as bindings sit under their
own keys a write never meets a conflict, and its effect is one entry of one table. -/

namespace ClusterPlacement

variable {s s' : Store} {candidate stored : Binding} {p : Policy} {key : String} {time : UInt64}

/-- What a write makes of a candidate and the binding that is there before, and what is there after. -/
def Binding.settle (candidate : Binding) : Option Binding → WriteOutcome × Binding
  | none => (.created, { candidate with version := 1 })
  | some current =>
    if current.spec = candidate.spec then (.unchanged, current)
    else (.updated, { current with spec := candidate.spec, version := current.version + 1 })

namespace Store

/-- A write succeeds, whatever is there, and leaves its result under the key of the candidate. -/
theorem writeBinding_eq (keyed : s.bindings.KeyedBy Binding.key) (candidate : Binding) :
    s.writeBinding candidate =
      let result := candidate.settle (s.bindings.find? candidate.key)
      .ok (result.1, result.2, s.withBinding candidate.key result.2) := by
  unfold writeBinding
  change (match s.bindings.find? candidate.key with | none => _ | some current => _) = _
  cases found : s.bindings.find? candidate.key with
  | none =>
    simp only [createBinding, found]
    rfl
  | some current =>
    have own : current.key = candidate.key := keyed _ _ found
    simp only [Binding.settle]
    split
    case isTrue same =>
      simp only [withBinding, Table.insert_of_find? found]
    case isFalse changed =>
      have key : ({ current with spec := candidate.spec } : Binding).key = candidate.key := own
      simp only [updateBinding, key, found, if_true]
      rfl

/-- The policy that a reconcile found under a key, what it did with it and the store it left. -/
structure Schedules (s : Store) (time : UInt64) (key : String) (p : Policy) (out : Scheduled)
    (s' : Store) : Prop where
  stored : s.policy? key = some p
  placed : p.spec.reschedule = true
  planned : Plan.compute s p = .ok out.plan
  policy_eq : out.policy = key
  settled : (Binding.candidate p out.plan.spec).settle (s.binding? p.ns p.bindingName) =
    (out.write, out.binding)
  store_eq : s' = (s.withBinding (objectKey p.ns p.bindingName) out.binding).putPolicy
    { p with status := stamp p.status out.write time }

theorem Schedules.writeBinding_eq {out : Scheduled} (scheduled : s.Schedules time key p out s')
    (keyed : s.bindings.KeyedBy Binding.key) :
    s.writeBinding (.candidate p out.plan.spec) =
      .ok (out.write, out.binding, s.withBinding (objectKey p.ns p.bindingName) out.binding) := by
  have settled : (Binding.candidate p out.plan.spec).settle (s.bindings.find?
      (Binding.candidate p out.plan.spec).key) = (out.write, out.binding) := scheduled.settled
  rw [Store.writeBinding_eq keyed]
  simp only [settled]
  rfl

theorem Schedules.binding_eq {out : Scheduled} (scheduled : s.Schedules time key p out s') :
    s'.binding? p.ns p.bindingName = some out.binding := by
  rw [scheduled.store_eq]
  exact (withBinding_find? _ _ _ _).trans (if_pos rfl)

theorem Schedules.policy?_eq {out : Scheduled} (scheduled : s.Schedules time key p out s')
    (keyed : s.policies.KeyedBy Policy.key) (k : String) :
    s'.policy? k = if k = key then some { p with status := stamp p.status out.write time }
      else s.policy? k := by
  have own : p.key = key := keyed _ _ scheduled.stored
  rw [scheduled.store_eq, ← own]
  exact Table.find?_insert _ _ _ _

theorem loadPolicy_eq_ok_iff : s.loadPolicy key = .ok p ↔ s.policy? key = some p := by
  unfold loadPolicy
  cases s.policy? key <;> simp

/-- A reconcile that does not fail either skips its policy and writes nothing, or schedules it. -/
theorem reconcile_eq_ok_iff (keyed : s.bindings.KeyedBy Binding.key) {outcome : ReconcileOutcome} :
    s.reconcile time key = .ok (outcome, s') ↔
      (∃ p, s.policy? key = some p ∧ p.spec.reschedule = false ∧ outcome = .skipped key ∧ s' = s) ∨
      ∃ p out, outcome = .scheduled out ∧ s.Schedules time key p out s' := by
  simp only [reconcile, Except.bind_eq_ok_iff, loadPolicy_eq_ok_iff]
  constructor
  · rintro ⟨p, stored, h⟩
    split at h
    case isFalse skipped =>
      obtain ⟨rfl, rfl⟩ := Prod.mk.inj (Except.pure_eq_ok_iff.1 h)
      exact .inl ⟨p, stored, by simpa using skipped, rfl, rfl⟩
    case isTrue placed =>
      simp only [writeBinding_eq keyed, Except.bind_eq_ok_iff, Except.mapError_eq_ok_iff,
        Except.pure_eq_ok_iff, Except.ok.injEq] at h
      obtain ⟨plan, planned, _, rfl, h⟩ := h
      obtain ⟨rfl, rfl⟩ := Prod.mk.inj h
      exact .inr ⟨p, _, rfl, stored, placed, planned, rfl, rfl, rfl⟩
  · rintro (⟨p, stored, skipped, rfl, rfl⟩ | ⟨p, out, rfl, scheduled⟩)
    · refine ⟨p, stored, ?_⟩
      rw [if_neg (by simp [skipped])]
      rfl
    · refine ⟨p, scheduled.stored, ?_⟩
      rw [if_pos scheduled.placed]
      simp only [Except.bind_eq_ok_iff, Except.mapError_eq_ok_iff, Except.pure_eq_ok_iff]
      refine ⟨_, scheduled.planned, _, scheduled.writeBinding_eq keyed, ?_⟩
      rw [scheduled.store_eq, ← scheduled.policy_eq]

end Store

end ClusterPlacement
