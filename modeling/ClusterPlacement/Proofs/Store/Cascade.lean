import ClusterPlacement.Proofs.Naming
import ClusterPlacement.Proofs.Reconcile.Frame
/-! What goes with a policy that is deleted. Its bindings are found by a scan of its namespace and removed by
the keys that they give themselves. As each of them sits under that key, those and no others go, each is
counted once, and nothing is left that a second call could find. -/

namespace ClusterPlacement

variable {s s' : Store} {p : Policy} {key : String}

/-- A policy collects what is stored under a key in its namespace and has it as the owner. -/
def Policy.Collects (p : Policy) (key : String) (b : Binding) : Prop :=
  (∃ rest, key = p.ns ++ "/" ++ rest) ∧
    b.owner.kind = policyKind ∧ b.owner.name = p.name ∧ b.owner.uid = p.uid

theorem Binding.isOwnedBy_iff {b : Binding} : b.isOwnedBy p ↔
    b.owner.kind = policyKind ∧ b.owner.name = p.name ∧ b.owner.uid = p.uid := by
  rw [isOwnedBy, decide_eq_true_iff, Policy.owner]
  cases b.owner
  simp only [Owner.mk.injEq]

theorem Policy.collects_iff {b : Binding} :
    (Store.inNamespace p.ns key && b.isOwnedBy p) = true ↔ p.Collects key b := by
  rw [Bool.and_eq_true, inNamespace_iff, Binding.isOwnedBy_iff]
  rfl

instance (p : Policy) (key : String) (b : Binding) : Decidable (p.Collects key b) :=
  decidable_of_iff _ Policy.collects_iff

theorem Policy.decide_collects (p : Policy) (key : String) (b : Binding) :
    decide (p.Collects key b) = (Store.inNamespace p.ns key && b.isOwnedBy p) := by
  rw [Bool.eq_iff_iff, decide_eq_true_iff]
  exact collects_iff.symm

namespace Store

/-- The store `s'` is `s` without a policy and what it collects, which is so many bindings. -/
structure Collected (s : Store) (key : String) (p : Policy) (count : Nat) (s' : Store) : Prop
    extends s.SameFleet s' where
  policies : ∀ k, s'.policy? k = if k = key then none else s.policy? k
  bindings : ∀ k, s'.bindings.find? k = (s.bindings.find? k).filter fun b => ¬p.Collects k b
  count_eq : count = s.bindings.entries.countP fun (k, b) => p.Collects k b

theorem length_ownedBindings (s : Store) (p : Policy) :
    (s.ownedBindings p).length = s.bindings.entries.countP fun (k, b) => p.Collects k b := by
  simp only [Policy.decide_collects]
  rw [ownedBindings, bindingList, Table.values, Table.filterKeys, List.filter_map, List.length_map,
    List.filter_filter, ← List.countP_eq_length_filter]
  refine List.countP_congr fun entry _ => ?_
  rw [Bool.and_comm]
  rfl

theorem deletePolicyCascade_of_stored (stored : s.policy? key = some p) :
    s.deletePolicyCascade key =
      (some (s.ownedBindings p).length, (s.deletePolicyCascade key).2) := by
  simp only [deletePolicyCascade, stored, List.length_map]

theorem collected_deletePolicyCascade (keyed : s.bindings.KeyedBy Binding.key)
    (stored : s.policy? key = some p) :
    s.Collected key p (s.ownedBindings p).length (s.deletePolicyCascade key).2 := by
  have fleet : s.SameFleet (s.deletePolicyCascade key).2 := by
    simp only [deletePolicyCascade, stored]
    exact ⟨rfl, rfl, rfl, rfl⟩
  refine ⟨fleet, ?_, ?_, length_ownedBindings s p⟩
  · intro k
    simp only [deletePolicyCascade, stored]
    exact Table.find?_erase _ _ _
  · intro k
    simp only [decide_not, Policy.decide_collects]
    exact binding_deletePolicyCascade keyed stored k

/-- What was collected is gone, so a policy that was deleted owns nothing any more. -/
theorem Collected.ownedBindings_eq_nil {count : Nat} (collected : s.Collected key p count s') :
    s'.ownedBindings p = [] := by
  rw [List.eq_nil_iff_forall_not_mem]
  intro b owned
  obtain ⟨⟨k, found, inside⟩, own⟩ := mem_ownedBindings_iff.1 owned
  rw [collected.bindings, Option.filter_eq_some_iff] at found
  have kept : ¬p.Collects k b := by simpa using found.2
  exact kept (Policy.collects_iff.1 (Bool.and_eq_true_iff.2 ⟨inside, own⟩))

theorem Collected.deletePolicyCascade_eq {count : Nat} (collected : s.Collected key p count s') :
    s'.deletePolicyCascade key = (none, s') := by
  have gone : s'.policy? key = none := by rw [collected.policies, if_pos rfl]
  simp only [deletePolicyCascade, gone]

/-- Deleting a policy that is not there does nothing. One that is there goes with all that it collects and
with nothing else, and then nothing is left of either. -/
theorem deletePolicyCascade_collects (reachable : s.Reachable) (key : String) :
    ((s.deletePolicyCascade key).1 = none ↔ s.policy? key = none) ∧
    (s.policy? key = none → (s.deletePolicyCascade key).2 = s) ∧
    ∀ p, s.policy? key = some p → ∃ count s', s.deletePolicyCascade key = (some count, s') ∧
      s.Collected key p count s' ∧ s'.ownedBindings p = [] ∧
      s'.deletePolicyCascade key = (none, s') := by
  have absent (none : s.policy? key = none) : s.deletePolicyCascade key = (Option.none, s) := by
    simp only [deletePolicyCascade, none]
  refine ⟨⟨?_, ?_⟩, ?_, ?_⟩
  · intro nothing
    cases stored : s.policy? key with
    | none => rfl
    | some p =>
      rw [deletePolicyCascade_of_stored stored] at nothing
      cases nothing
  · intro none
    rw [absent none]
  · intro none
    rw [absent none]
  · intro p stored
    have collected := collected_deletePolicyCascade reachable.keyed.bindings stored
    exact ⟨_, _, deletePolicyCascade_of_stored stored, collected, collected.ownedBindings_eq_nil,
      collected.deletePolicyCascade_eq⟩

/-- Bindings around a policy: two that it owns in its namespace and below it, one of another policy and one
that it owns in another namespace. -/
def surrounded : Store :=
  let owned (ns name : String) : Binding := ⟨ns, name, web.owner, 0, ⟨[]⟩⟩
  List.foldl Operation.perform .empty
    [.putPolicy web, .putPolicy { web with name := "other" },
      .createBinding (owned "default" "web-binding"),
      .createBinding (owned "default/sub" "web-binding"),
      .createBinding ⟨"default", "later-binding", laterWeb.owner, 0, ⟨[]⟩⟩,
      .createBinding (owned "elsewhere" "web-binding")]

theorem reachable_surrounded : surrounded.Reachable :=
  Reachable.empty.foldl (fun _ op before => before.step op) _

theorem deletePolicyCascade_collects_surrounded : surrounded.Reachable ∧
    surrounded.policy? web.key = some web ∧
    ∃ s', surrounded.deletePolicyCascade web.key = (some 2, s') ∧
      surrounded.Collected web.key web 2 s' ∧
      s'.bindings.keys = ["default/later-binding", "elsewhere/web-binding"] ∧
      s'.policies.keys = ["default/other"] ∧ s'.ownedBindings web = [] ∧
      s'.deletePolicyCascade web.key = (none, s') := by
  obtain ⟨_, _, goes⟩ := deletePolicyCascade_collects reachable_surrounded web.key
  have stored : surrounded.policy? web.key = some web := rfl
  obtain ⟨count, s', deleted, collected, none, again⟩ := goes web stored
  obtain rfl : count = 2 := collected.count_eq
  have after : s' = (surrounded.deletePolicyCascade web.key).2 := by rw [deleted]
  refine ⟨reachable_surrounded, stored, s', deleted, collected, ?_, ?_, none, again⟩
  · rw [after]
    rfl
  · rw [after]
    rfl

end Store

end ClusterPlacement
