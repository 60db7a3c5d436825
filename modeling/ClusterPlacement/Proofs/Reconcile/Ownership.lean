import ClusterPlacement.Proofs.Plan.Clusters
import ClusterPlacement.Proofs.Store.Reachable
/-! Who owns the binding of a policy. Only a binding that is created gets its policy as the owner. One
that is there already keeps the owner it has, also if that is a policy of the same name from another
time, and deleting the policy then leaves the binding behind. -/

namespace ClusterPlacement

variable {s s' : Store} {p : Policy} {key : String}

/-- The owner that a write leaves is the one before it, if there is one. -/
theorem Binding.owner_settle (candidate : Binding) (before : Option Binding) :
    (candidate.settle before).2.owner = (before.map (·.owner)).getD candidate.owner := by
  cases before with
  | none => rfl
  | some current =>
    simp only [settle]
    split <;> rfl

theorem inNamespace_objectKey (ns name : String) : Store.inNamespace ns (objectKey ns name) := by
  simp [Store.inNamespace, objectKey]

namespace Store

theorem mem_ownedBindings_iff {b : Binding} : b ∈ s.ownedBindings p ↔
    (∃ k, s.bindings.find? k = some b ∧ inNamespace p.ns k) ∧ b.isOwnedBy p := by
  simp only [ownedBindings, bindingList, List.mem_filter, Table.mem_values_iff, Table.find?_filterKeys]
  refine and_congr_left fun _ => exists_congr fun k => ?_
  by_cases inside : inNamespace p.ns k <;> simp [inside]

/-- Deleting a policy removes the bindings of its namespace that it owns, and no others. -/
theorem binding_deletePolicyCascade (keyed : s.bindings.KeyedBy Binding.key)
    (stored : s.policy? key = some p) (k : String) :
    (s.deletePolicyCascade key).2.bindings.find? k =
      (s.bindings.find? k).filter fun b => !(inNamespace p.ns k && b.isOwnedBy p) := by
  have owned : k ∈ (s.ownedBindings p).map Binding.key ↔
      ∃ b, s.bindings.find? k = some b ∧ inNamespace p.ns k ∧ b.isOwnedBy p := by
    simp only [List.mem_map, mem_ownedBindings_iff]
    constructor
    · rintro ⟨b, ⟨⟨k', found, inside⟩, own⟩, rfl⟩
      obtain rfl := keyed k' b found
      exact ⟨b, found, inside, own⟩
    · rintro ⟨b, found, inside, own⟩
      exact ⟨b, ⟨⟨k, found, inside⟩, own⟩, keyed k b found⟩
  simp only [deletePolicyCascade, stored, Table.find?_foldl_erase, owned]
  cases found : s.bindings.find? k with
  | none => simp
  | some b =>
    rw [Option.filter_some]
    by_cases inside : inNamespace p.ns k <;> by_cases own : b.isOwnedBy p <;> simp [inside, own]

/-- Whether the name of a policy's binding is free, or taken by a binding that is the policy's own. -/
def BindingAvailable (s : Store) (p : Policy) : Prop :=
  ∀ b, s.binding? p.ns p.bindingName = some b → b.isOwnedBy p

theorem Schedules.isOwnedBy_iff {out : Scheduled} {time : UInt64}
    (scheduled : s.Schedules time key p out s') :
    out.binding.isOwnedBy p ↔ s.BindingAvailable p := by
  have owner := Binding.owner_settle (.candidate p out.plan.spec) (s.binding? p.ns p.bindingName)
  rw [scheduled.settled] at owner
  simp only at owner
  unfold BindingAvailable
  cases found : s.binding? p.ns p.bindingName with
  | none =>
    rw [found] at owner
    simp [Binding.isOwnedBy, owner, Binding.candidate]
  | some before =>
    rw [found] at owner
    simp [Binding.isOwnedBy, owner]

/-- The binding that a reconcile leaves is owned by its policy, and goes when the policy is deleted,
exactly if there was none before or one that the policy owned already. -/
theorem owned_after_reconcile_iff {time : UInt64} {out : Scheduled} (reachable : s.Reachable)
    (reconciled : s.reconcile time key = .ok (.scheduled out, s')) :
    ∃ p status b, s.policy? key = some p ∧ s'.policy? key = some { p with status } ∧
      s'.binding? p.ns p.bindingName = some b ∧
      (b.isOwnedBy { p with status } ↔ s.BindingAvailable p) ∧
      ((s'.deletePolicyCascade key).2.binding? p.ns p.bindingName = none ↔ s.BindingAvailable p) := by
  rcases (reconcile_eq_ok_iff reachable.keyed.bindings).1 reconciled with
    ⟨_, _, _, skipped, _⟩ | ⟨p, other, same, scheduled⟩
  · simp at skipped
  · obtain rfl := ReconcileOutcome.scheduled.inj same
    have after : s'.policy? key = some { p with status := stamp p.status out.write time } := by
      rw [scheduled.policy?_eq reachable.keyed.policies, if_pos rfl]
    have owned := scheduled.isOwnedBy_iff
    have keyed := (reachable.reconcile reconciled).keyed.bindings
    have cascade := binding_deletePolicyCascade keyed after (objectKey p.ns p.bindingName)
    refine ⟨p, _, out.binding, scheduled.stored, after, scheduled.binding_eq, owned, ?_⟩
    have here : s'.bindings.find? (objectKey p.ns p.bindingName) = some out.binding :=
      scheduled.binding_eq
    rw [here, Option.filter_some, inNamespace_objectKey, Bool.true_and] at cascade
    rw [← owned, binding?, cascade]
    change (if !out.binding.isOwnedBy p then some out.binding else none) = none ↔ _
    simp

/-- A policy for one online cluster. -/
def web : Policy where
  ns := "default"
  name := "web"
  uid := "first"
  spec := { Availability.firstTwo with
    resources := ["job"]
    entries := [⟨some "b", none, 1, none, none⟩]
    failover := [] }
  status := .never

def applied : Store := (Availability.threeClusters.putResource ⟨"default", "job", none⟩).putPolicy web

theorem reachable_applied : applied.Reachable := by
  have clusters := Reachable.empty.foldl (fun _ c before => before.step (.putCluster c))
    [⟨"a", .empty, .offline⟩, ⟨"b", .empty, .online⟩, ⟨"c", .empty, .online⟩]
  exact ((clusters.step (.putResource _)).step (.putResource _)).step (.putPolicy web)

/-- The first reconcile of a policy creates a binding that the policy owns. -/
theorem owned_after_first_reconcile : applied.Reachable ∧
    ∃ out s' p b, applied.reconcile 1 web.key = .ok (.scheduled out, s') ∧
      s'.policy? web.key = some p ∧ s'.binding? web.ns web.bindingName = some b ∧ b.isOwnedBy p ∧
      (s'.deletePolicyCascade web.key).2.binding? web.ns web.bindingName = none := by
  obtain ⟨out, s', reconciled⟩ : ∃ out s',
      applied.reconcile 1 web.key = .ok (.scheduled out, s') := ⟨_, _, rfl⟩
  obtain ⟨p, _, b, stored, after, bound, owned, goes⟩ :=
    owned_after_reconcile_iff reachable_applied reconciled
  obtain rfl : web = p := Option.some.inj stored
  have free : applied.BindingAvailable web := by
    intro b found
    have none : applied.binding? web.ns web.bindingName = none := rfl
    simp [none] at found
  exact ⟨reachable_applied, out, s', _, b, reconciled, after, bound, owned.2 free, goes.2 free⟩

/-- Another policy under the same name, for another cluster. -/
def laterWeb : Policy :=
  { web with
    uid := "second"
    spec := { web.spec with entries := [⟨some "c", none, 1, none, none⟩] } }

/-- The store after the first policy was reconciled and then replaced by the other one. -/
def renewed : Store :=
  match applied.reconcile 1 web.key with
  | .ok (_, s) => s.putPolicy laterWeb
  | .error _ => applied

theorem reachable_renewed : renewed.Reachable := by
  obtain ⟨outcome, s, reconciled⟩ : ∃ outcome s,
      applied.reconcile 1 web.key = .ok (outcome, s) := ⟨_, _, rfl⟩
  simp only [renewed, reconciled]
  exact (reachable_applied.reconcile reconciled).step (.putPolicy _)

/-- The next reconcile updates the binding and leaves it to the first policy, so it outlives the other
one. -/
theorem binding_outlives_renewed : renewed.Reachable ∧
    ∃ out s' p b, renewed.reconcile 2 web.key = .ok (.scheduled out, s') ∧
      s'.policy? web.key = some p ∧ s'.binding? p.ns p.bindingName = some b ∧ ¬b.isOwnedBy p ∧
      (s'.deletePolicyCascade web.key).2.binding? p.ns p.bindingName = some b := by
  refine ⟨reachable_renewed, _, _, _, _, rfl, rfl, rfl, ?_, rfl⟩
  decide

end Store

end ClusterPlacement
