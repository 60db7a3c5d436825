import ClusterPlacement.Proofs.Naming
import ClusterPlacement.Proofs.Store.Changes
/-! Actions in some namespaces of which none lies below another one. Each of them leads from a store to the
next one by the changes that are told of it, and these are in the same namespaces again. -/

namespace ClusterPlacement

variable {inUse : String → Prop} {ns name key : String} {s s' s'' : Store} {log c c' : Changes}
  {p : Policy} {b stored : Binding}

/-- The bindings that a namespace lists are its own. -/
theorem Store.bindingList_eq (apart : Apart inUse) (keyed : s.bindings.KeyedBy Binding.key)
    (within : ∀ key b, s.bindings.find? key = some b → inUse b.ns) (here : inUse ns) :
    s.bindingList ns = s.bindings.values.filter (·.ns = ns) := by
  rw [bindingList, Table.values, Table.values, Table.filterKeys, List.filter_map]
  refine congrArg (List.map _) (List.filter_congr ?_)
  intro entry member
  have found := (Table.mem_entries_iff _ _ _).1 member
  rw [← keyed _ _ found, Bool.eq_iff_iff]
  exact (apart.inNamespace_objectKey_iff here (within _ _ found)).trans decide_eq_true_iff.symm

structure Changes.Within (inUse : String → Prop) (c : Changes) : Prop where
  policies : ∀ change ∈ c.policies, inUse change.ns
  resources : ∀ change ∈ c.resources, inUse change.ns
  bindings : ∀ change ∈ c.bindings, inUse change.ns

/-- What a call names itself. A policy that is reconciled or deleted is named by its key. -/
def Operation.Within (inUse : String → Prop) : Operation → Prop
  | putPolicy p => inUse p.ns
  | putResource r => inUse r.ns
  | createBinding b => inUse b.ns
  | updateBinding b => inUse b.ns
  | deleteBinding ns _ => inUse ns
  | _ => True

def Action.Within (inUse : String → Prop) : Action → Prop
  | write op => op.Within inUse
  | apply m => (∀ p ∈ m.policies, inUse p.ns) ∧ ∀ r ∈ m.resources, inUse r.ns
  | writeBinding candidate => inUse candidate.ns
  | reconcile _ _ => True
  | pass _ _ => True

theorem Changes.within_none : Changes.none.Within inUse := ⟨nofun, nofun, nofun⟩

theorem Changes.Within.append (first : c.Within inUse) (second : c'.Within inUse) :
    (c ++ c').Within inUse := by
  refine ⟨?_, ?_, ?_⟩
  · exact List.forall_mem_append.2 ⟨first.policies, second.policies⟩
  · exact List.forall_mem_append.2 ⟨first.resources, second.resources⟩
  · exact List.forall_mem_append.2 ⟨first.bindings, second.bindings⟩

/-- Some changes in the namespaces in use lead from a store to another one. -/
structure Recorded (inUse : String → Prop) (s : Store) (c : Changes) (s' : Store) : Prop where
  policies : s'.policies = c.policies.foldl Table.change s.policies
  resources : s'.resources = c.resources.foldl Table.change s.resources
  bindings : s'.bindings = c.bindings.foldl Table.change s.bindings
  within : c.Within inUse

namespace Recorded

theorem unchanged (policies : s'.policies = s.policies) (resources : s'.resources = s.resources)
    (bindings : s'.bindings = s.bindings) : Recorded inUse s .none s' :=
  ⟨policies, resources, bindings, Changes.within_none⟩

theorem append (first : Recorded inUse s c s') (second : Recorded inUse s' c' s'') :
    Recorded inUse s (c ++ c') s'' := by
  refine ⟨?_, ?_, ?_, first.within.append second.within⟩
  · exact second.policies.trans (first.policies ▸ List.foldl_append.symm)
  · exact second.resources.trans (first.resources ▸ List.foldl_append.symm)
  · exact second.bindings.trans (first.bindings ▸ List.foldl_append.symm)

theorem policy_within (recorded : Recorded inUse .empty log s) (found : s.policies.find? key = some p) :
    inUse p.ns := by
  rw [recorded.policies] at found
  exact recorded.within.policies _ (Table.put_mem_of_find? found)

theorem binding_within (recorded : Recorded inUse .empty log s)
    (found : s.bindings.find? key = some b) : inUse b.ns := by
  rw [recorded.bindings] at found
  exact recorded.within.bindings _ (Table.put_mem_of_find? found)

theorem putPolicy (here : inUse p.ns) : Recorded inUse s (.ofPolicies [.put p]) (s.putPolicy p) :=
  ⟨rfl, rfl, rfl, ⟨List.forall_mem_singleton.2 here, nofun, nofun⟩⟩

theorem putResource {r : Resource} (here : inUse r.ns) :
    Recorded inUse s (.ofResources [.put r]) (s.putResource r) :=
  ⟨rfl, rfl, rfl, ⟨nofun, List.forall_mem_singleton.2 here, nofun⟩⟩

theorem withBinding (here : inUse b.ns) :
    Recorded inUse s (.ofBindings [.put b]) (s.withBinding b.key b) :=
  ⟨rfl, rfl, rfl, ⟨nofun, nofun, List.forall_mem_singleton.2 here⟩⟩

theorem deletePolicyCascade (apart : Apart inUse) (keyed : s.Keyed)
    (recorded : Recorded inUse .empty log s) (key : String) :
    Recorded inUse s ((Operation.deletePolicyCascade key).changes s) (s.deletePolicyCascade key).2 := by
  cases stored : s.policy? key with
  | none =>
    simp only [Operation.changes, Store.deletePolicyCascade, stored]
    exact unchanged rfl rfl rfl
  | some p =>
    simp only [Operation.changes, Store.deletePolicyCascade, stored]
    have here := recorded.policy_within stored
    have owned : s.ownedBindings p = s.bindings.values.filter p.takesAlong := by
      rw [Store.ownedBindings, Store.bindingList_eq apart keyed.bindings
        (fun _ _ found => recorded.binding_within found) here, List.filter_filter]
      refine List.filter_congr fun b _ => ?_
      exact Bool.and_comm _ _
    refine ⟨?_, rfl, ?_, ?_⟩
    · change s.policies.erase key = s.policies.erase p.key
      rw [keyed.policies _ _ stored]
    · change _ = ((s.bindings.values.filter p.takesAlong).map _).foldl Table.change s.bindings
      rw [owned, List.foldl_map, List.foldl_map]
      rfl
    · refine ⟨List.forall_mem_singleton.2 here, List.forall_mem_nil _, ?_⟩
      intro change member
      obtain ⟨b, taken, rfl⟩ := List.mem_map.1 member
      have inside := (List.mem_filter.1 taken).2
      simp only [Policy.takesAlong, Bool.and_eq_true, decide_eq_true_eq] at inside
      exact inside.1 ▸ here

theorem perform (apart : Apart inUse) (keyed : s.Keyed) (recorded : Recorded inUse .empty log s)
    {op : Operation} (within : op.Within inUse) : Recorded inUse s (op.changes s) (op.perform s) := by
  cases op with
  | putPolicy p => exact putPolicy within
  | putResource r => exact putResource within
  | createBinding b =>
    cases created : s.createBinding b with
    | error e =>
      simp only [Operation.changes, Operation.perform, created]
      exact unchanged rfl rfl rfl
    | ok result =>
      simp only [Operation.changes, Operation.perform, created]
      obtain ⟨_, made, after⟩ := Store.createBinding_eq_ok_iff.1 created
      rw [after, made]
      exact withBinding (b := { b with version := 1 }) within
  | updateBinding b =>
    cases updated : s.updateBinding b with
    | error e =>
      simp only [Operation.changes, Operation.perform, updated]
      exact unchanged rfl rfl rfl
    | ok result =>
      simp only [Operation.changes, Operation.perform, updated]
      obtain ⟨current, _, _, made, after⟩ := Store.updateBinding_eq_ok_iff.1 updated
      rw [after, made]
      exact withBinding (b := { b with version := current.version + 1 }) within
  | deleteBinding ns name =>
    exact ⟨rfl, rfl, rfl,
      ⟨List.forall_mem_nil _, List.forall_mem_nil _, List.forall_mem_singleton.2 within⟩⟩
  | deletePolicyCascade key => exact deletePolicyCascade apart keyed recorded key
  | setClusterState name state =>
    simp only [Operation.changes, Operation.perform, Store.setClusterState]
    cases s.cluster? name with
    | none => exact unchanged rfl rfl rfl
    | some cluster => exact unchanged rfl rfl rfl
  | putCluster | putClusterSet | putNamespace => exact unchanged rfl rfl rfl

/-- A write of a candidate puts it under its own key, or what was there under that key. -/
theorem settle (keyed : s.Keyed) (recorded : Recorded inUse .empty log s) {candidate : Binding}
    {outcome : WriteOutcome}
    (settled : candidate.settle (s.bindings.find? candidate.key) = (outcome, stored))
    (here : inUse candidate.ns) :
    Recorded inUse s (.ofBindings (outcome.changes stored)) (s.withBinding candidate.key stored) := by
  cases found : s.bindings.find? candidate.key with
  | none =>
    rw [found] at settled
    obtain ⟨rfl, rfl⟩ := Prod.mk.inj settled
    exact withBinding (b := { candidate with version := 1 }) here
  | some current =>
    have own : current.key = candidate.key := keyed.bindings _ _ found
    rw [found, Binding.settle] at settled
    split at settled
    case isTrue =>
      obtain ⟨rfl, rfl⟩ := Prod.mk.inj settled
      exact unchanged rfl rfl (Table.insert_of_find? found)
    case isFalse =>
      obtain ⟨rfl, rfl⟩ := Prod.mk.inj settled
      have there : inUse current.ns := recorded.binding_within found
      rw [← own]
      exact withBinding
        (b := { current with spec := candidate.spec, version := current.version + 1 }) there

theorem attempt (keyed : s.Keyed) (recorded : Recorded inUse .empty log s) (time : UInt64)
    (key : String) : Recorded inUse s (s.reconcileChanges time key) (s.attempt time key).2 := by
  rw [Store.attempt_eq_commit, Store.reconcileChanges]
  cases reconciled : s.reconcile time key with
  | error e => exact unchanged rfl rfl rfl
  | ok result =>
    obtain ⟨outcome, after⟩ := result
    rcases (Store.reconcile_eq_ok_iff keyed.bindings).1 reconciled with
      ⟨p, _, _, rfl, rfl⟩ | ⟨p, out, rfl, scheduled⟩
    · exact unchanged rfl rfl rfl
    · have here := recorded.policy_within scheduled.stored
      have bound := settle keyed recorded scheduled.settled here
      have stamped := putPolicy (s := s.withBinding (objectKey p.ns p.bindingName) out.binding)
        (p := { p with status := Store.stamp p.status out.write time }) here
      have both := bound.append stamped
      rw [← scheduled.store_eq] at both
      simp only [scheduled.policy?_eq keyed.policies, if_pos]
      exact both

theorem writeBinding (keyed : s.Keyed) (recorded : Recorded inUse .empty log s) {candidate : Binding}
    (here : inUse candidate.ns) : Recorded inUse s ((Action.writeBinding candidate).changes s)
      ((Action.writeBinding candidate).perform s).1 := by
  cases settled : candidate.settle (s.bindings.find? candidate.key) with
  | mk outcome stored =>
    simp only [Action.changes, Action.perform, Store.writeBinding_eq keyed.bindings, settled]
    exact settle keyed recorded settled here

theorem applyPolicies {ps : List Policy} (here : ∀ p ∈ ps, inUse p.ns) :
    Recorded inUse s (.ofPolicies (Manifest.policyChanges s ps)) (ps.foldl Manifest.applyPolicy s) := by
  induction ps generalizing s with
  | nil => exact unchanged rfl rfl rfl
  | cons p ps ih =>
    obtain ⟨first, rest⟩ := List.forall_mem_cons.1 here
    have put : Recorded inUse s (.ofPolicies [.put (Manifest.kept s p)]) (Manifest.applyPolicy s p) := by
      rw [Manifest.applyPolicy_eq]
      exact putPolicy ((Manifest.kept_ns s p).symm ▸ first)
    exact put.append (ih rest)

theorem putResources {rs : List Resource} (here : ∀ r ∈ rs, inUse r.ns) :
    Recorded inUse s (.ofResources (rs.map .put)) (rs.foldl Store.putResource s) := by
  induction rs generalizing s with
  | nil => exact unchanged rfl rfl rfl
  | cons r rs ih =>
    obtain ⟨first, rest⟩ := List.forall_mem_cons.1 here
    exact (putResource first).append (ih rest)

theorem foldl_unchanged {α : Type} (write : Store → α → Store)
    (each : ∀ s x, Recorded inUse s .none (write s x)) (xs : List α) :
    Recorded inUse s .none (xs.foldl write s) := by
  induction xs generalizing s with
  | nil => exact unchanged rfl rfl rfl
  | cons x xs ih => exact (each s x).append ih

theorem apply {m : Manifest} (within : (Action.apply m).Within inUse) :
    Recorded inUse s (m.changes s) ((Action.apply m).perform s).1 := by
  cases wrong : m.error? with
  | some e =>
    simp only [Manifest.changes, Action.perform, Manifest.apply, wrong]
    exact unchanged rfl rfl rfl
  | none =>
    simp only [Manifest.changes, Action.perform, Manifest.apply, wrong]
    have clusters : Recorded inUse s .none (m.clusters.foldl Store.putCluster s) :=
      foldl_unchanged Store.putCluster (fun _ _ => unchanged rfl rfl rfl) _
    have sets := clusters.append
      (foldl_unchanged Store.putClusterSet (fun _ _ => unchanged rfl rfl rfl) m.clusterSets)
    have namespaces := sets.append
      (foldl_unchanged Store.putNamespace (fun _ _ => unchanged rfl rfl rfl) m.namespaces)
    have resources := namespaces.append (putResources within.2)
    exact resources.append (applyPolicies within.1)

theorem visit {here : Controller.Circumstances} {p p' : Controller.PassState} (keyed : p.store.Keyed)
    (recorded : Recorded inUse .empty log p.store) (visited : Controller.Visited here p key p') :
    Recorded inUse p.store (Controller.visitChanges here p key) p'.store := by
  cases visited with
  | deferred waits =>
    rw [Controller.visitChanges, if_pos waits]
    exact unchanged rfl rfl rfl
  | settled due reconciled =>
    have attempted := attempt keyed recorded (here.time key) key
    rw [Store.attempt_eq_commit, reconciled] at attempted
    rw [Controller.visitChanges, if_neg due]
    exact attempted
  | failed due failure requeued =>
    have attempted := attempt keyed recorded (here.time key) key
    rw [Store.attempt_eq_commit, failure] at attempted
    rw [Controller.visitChanges, if_neg due]
    exact attempted

theorem work {here : Controller.Circumstances} {p : Controller.PassState} {keys : List String}
    (reachable : p.store.Reachable) (recorded : Recorded inUse .empty log p.store) :
    Recorded inUse p.store (Controller.workChanges here p keys) (Controller.work here p keys).1 := by
  induction keys generalizing p log with
  | nil => exact unchanged rfl rfl rfl
  | cons key keys ih =>
    unfold Controller.workChanges Controller.work
    cases visited : Controller.visit here p key with
    | none =>
      obtain ⟨due, e, failure⟩ := Controller.error_of_visit_eq_none visited
      rw [Controller.visitChanges, if_neg due, Store.reconcileChanges, failure]
      exact unchanged rfl rfl rfl
    | some next =>
      have first := visit reachable.keyed recorded (Controller.visit_eq_some_iff.1 visited)
      exact first.append (ih (reachable.visit visited) (recorded.append first))

theorem action (apart : Apart inUse) (reachable : s.Reachable) (recorded : Recorded inUse .empty log s)
    {a : Action} (within : a.Within inUse) : Recorded inUse s (a.changes s) (a.perform s).1 := by
  have keyed := reachable.keyed
  cases a with
  | write op => exact perform apart keyed recorded within
  | apply m => exact apply within
  | writeBinding candidate => exact writeBinding keyed recorded within
  | reconcile time key => exact attempt keyed recorded time key
  | pass c here => exact work (p := c.passStart s) reachable recorded

theorem run (apart : Apart inUse) (reachable : s.Reachable) (recorded : Recorded inUse .empty log s)
    {actions : List Action} (within : ∀ a ∈ actions, a.Within inUse) :
    Recorded inUse .empty (log ++ s.changes actions) (s.run actions).1 := by
  induction actions generalizing s log with
  | nil => exact recorded.append (unchanged rfl rfl rfl)
  | cons a actions ih =>
    obtain ⟨first, rest⟩ := List.forall_mem_cons.1 within
    have step := action apart reachable recorded first
    have later := ih (reachable.perform a) (recorded.append step) rest
    rw [Changes.append_assoc] at later
    exact later

end Recorded

end ClusterPlacement
