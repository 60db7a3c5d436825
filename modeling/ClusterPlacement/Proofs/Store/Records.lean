import ClusterPlacement.Proofs.Naming
import ClusterPlacement.Proofs.Store.Run
/-! Records as they are looked up and listed. In every store that has come about, each record sits under the
key that its own fields give. So what is found under a key has that key, what is listed is in the order of
the keys, and a policy that is reconciled goes back to where it was found. -/

namespace ClusterPlacement

/-- The values that are found under their own keys and are wanted, each once and in strictly ascending order
of the keys. -/
structure Table.Lists {α : Type} (t : Table α) (key : α → String) (wanted : α → Prop)
    (listed : List α) : Prop where
  mem_iff : ∀ v, v ∈ listed ↔ t.find? (key v) = some v ∧ wanted v
  ascending : listed.Pairwise fun v w => key v < key w

section

variable {α : Type} {t : Table α} {key : α → String} {wanted : α → Prop} {listed : List α}

theorem Table.KeyedBy.lists_values (keyed : t.KeyedBy key) : t.Lists key (fun _ => True) t.values :=
  ⟨fun _ => by rw [keyed.mem_values_iff_find?, and_true], keyed.ascending_values⟩

theorem Table.KeyedBy.lists_filterKeys (keyed : t.KeyedBy key) (keep : String → Bool) :
    t.Lists key (fun v => keep (key v)) (t.filterKeys keep).values := by
  refine ⟨fun v => ?_, (keyed.filterKeys keep).ascending_values⟩
  rw [(keyed.filterKeys keep).mem_values_iff_find?, find?_filterKeys, Option.ite_none_right_eq_some]
  exact and_comm

theorem Table.Lists.filter (lists : t.Lists key wanted listed) (p : α → Bool) :
    t.Lists key (fun v => wanted v ∧ p v) (listed.filter p) :=
  ⟨fun v => by rw [List.mem_filter, lists.mem_iff, and_assoc], lists.ascending.filter p⟩

theorem Table.Lists.congr {wanted' : α → Prop} (lists : t.Lists key wanted listed)
    (same : ∀ v, wanted v ↔ wanted' v) : t.Lists key wanted' listed :=
  ⟨fun v => by rw [lists.mem_iff, same], lists.ascending⟩

end

namespace Store

variable {s s' : Store} {time : UInt64} {key : String} {out : Scheduled}

/-- What is found under a key has that key. -/
structure FindsOwn (s : Store) : Prop where
  policy : ∀ key p, s.policy? key = some p → p.key = key
  cluster : ∀ name c, s.cluster? name = some c → c.name = name
  clusterSet : ∀ name set, s.clusterSet? name = some set → set.name = name
  resource : ∀ ns name r, s.resource? ns name = some r → r.key = objectKey ns name
  namespaced : ∀ name n, s.namespace? name = some n → n.name = name
  binding : ∀ ns name b, s.binding? ns name = some b → b.key = objectKey ns name

theorem Keyed.findsOwn (keyed : s.Keyed) : s.FindsOwn where
  policy := keyed.policies
  cluster := keyed.clusters
  clusterSet := keyed.clusterSets
  resource _ _ := keyed.resources _
  namespaced := keyed.namespaces
  binding _ _ := keyed.bindings _

/-- Every list of records is complete and in the order of their own keys. -/
structure ListsOwn (s : Store) : Prop where
  policies : s.policies.Lists Policy.key (fun _ => True) s.policyList
  clusters : s.clusters.Lists Cluster.name (fun _ => True) s.clusterList
  bindings : ∀ ns, s.bindings.Lists Binding.key (fun b => ∃ rest, b.key = objectKey ns rest)
    (s.bindingList ns)
  owned : ∀ p : Policy, s.bindings.Lists Binding.key
    (fun b => (∃ rest, b.key = objectKey p.ns rest) ∧ b.owner = p.owner) (s.ownedBindings p)

theorem Keyed.listsOwn (keyed : s.Keyed) : s.ListsOwn := by
  have bindings (ns : String) : s.bindings.Lists Binding.key
      (fun b => ∃ rest, b.key = objectKey ns rest) (s.bindingList ns) :=
    (keyed.bindings.lists_filterKeys (inNamespace ns)).congr fun _ => inNamespace_iff
  refine ⟨keyed.policies.lists_values, keyed.clusters.lists_values, bindings, fun p => ?_⟩
  refine ((bindings p.ns).filter fun b => b.isOwnedBy p).congr fun b => and_congr_right fun _ => ?_
  exact decide_eq_true_iff

/-- A reconcile that schedules a policy puts it, with a new status, back under the key that it was asked
for, and writes no other policy. -/
theorem Keyed.reconcile_restores (keyed : s.Keyed)
    (reconciled : s.reconcile time key = .ok (.scheduled out, s')) :
    ∃ p, s.policy? key = some p ∧ p.key = key ∧
      s'.policies = s.policies.insert key { p with status := stamp p.status out.write time } := by
  rcases (reconcile_eq_ok_iff keyed.bindings).1 reconciled with
    ⟨_, _, _, skipped, _⟩ | ⟨p, out', same, scheduled⟩
  · cases skipped
  · obtain rfl := ReconcileOutcome.scheduled.inj same
    have own : p.key = key := keyed.policies _ _ scheduled.stored
    refine ⟨p, scheduled.stored, own, ?_⟩
    rw [scheduled.store_eq, ← own]
    rfl

/-- A store whose keys can be relied on. -/
structure Orderly (s : Store) : Prop where
  keyed : s.Keyed
  finds : s.FindsOwn
  lists : s.ListsOwn
  restores : ∀ time key out s', s.reconcile time key = .ok (.scheduled out, s') →
    ∃ p, s.policy? key = some p ∧ p.key = key ∧
      s'.policies = s.policies.insert key { p with status := stamp p.status out.write time }

/-- Whatever is done to a store from the empty one on, in whatever order, its keys can be relied on. -/
theorem orderly_run (actions : List Action) : (empty.run actions).1.Orderly := by
  have keyed : (empty.run actions).1.Keyed := (Reachable.empty.run actions).keyed
  exact ⟨keyed, keyed.findsOwn, keyed.listsOwn, fun _ _ _ _ => keyed.reconcile_restores⟩

end Store

end ClusterPlacement
