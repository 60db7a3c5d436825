import ClusterPlacement.Proofs.Reconcile.Frame
/-! A reconcile as a verdict and a record. The verdict is reached from the fleet, the policy and the binding
of that policy; only then are the binding and the status of the policy written. So a reconcile
answers the same wherever these are the same, and it leaves what another one reads alone. -/

namespace ClusterPlacement

variable {s t : Store} {p : Policy} {key other : String} {time : UInt64}

/-- What a reconcile writes under the key of its policy. -/
structure Records where
  binding : Binding
  policy : Policy

namespace Store

/-- What becomes of a policy that has a plan. -/
def carryOut (s : Store) (time : UInt64) (key : String) (p : Policy) (plan : Plan) :
    ReconcileOutcome × Option Records :=
  let (write, binding) :=
    (Binding.candidate p plan.spec).settle (s.bindings.find? (key ++ bindingSuffix))
  (.scheduled ⟨key, write, binding, plan⟩,
    some ⟨binding, { p with status := stamp p.status write time }⟩)

/-- The answer of a reconcile, with the records it comes to write. -/
def verdict (s : Store) (time : UInt64) (key : String) :
    Except ReconcileError (ReconcileOutcome × Option Records) :=
  match s.policy? key with
  | none => .error (.policyNotFound key)
  | some p =>
    if p.spec.reschedule then (s.plan key).map (s.carryOut time key p)
    else .ok (.skipped key, none)

def record (s : Store) (key : String) : Option Records → Store
  | none => s
  | some r =>
    { s with
      bindings := s.bindings.insert (key ++ bindingSuffix) r.binding
      policies := s.policies.insert key r.policy }

theorem plan_of_policy? (stored : s.policy? key = some p) :
    s.plan key = (Plan.compute s p).mapError .placement := by
  simp only [plan, loadPolicy, stored]
  rfl

/-- Where every record sits under its own key, a reconcile writes what its verdict says and fails only
where there is no verdict. -/
theorem reconcile_eq_verdict (keyed : s.Keyed) (time : UInt64) (key : String) :
    s.reconcile time key =
      (s.verdict time key).map fun (outcome, records) => (outcome, s.record key records) := by
  unfold reconcile verdict
  cases stored : s.policy? key with
  | none =>
    simp only [loadPolicy, stored]
    rfl
  | some p =>
    have own : p.key = key := keyed.policies _ _ stored
    simp only [loadPolicy, stored, plan_of_policy? stored]
    change (if p.spec.reschedule then _ else _) = _
    split
    case isFalse => rfl
    case isTrue =>
      cases Plan.compute s p with
      | error e => rfl
      | ok plan =>
        change (s.writeBinding (.candidate p plan.spec) >>= _) = _
        rw [writeBinding_eq keyed.bindings]
        have bindingKey : (Binding.candidate p plan.spec).key = key ++ bindingSuffix := by
          rw [← own]
          exact p.bindingKey_eq
        simp only [bindingKey]
        change Except.ok _ = Except.ok _
        simp only [carryOut, record, withBinding, putPolicy, ← own]
        rfl

/-- A reconcile, transaction by transaction: what it answers and the store that it leaves. -/
def attempt (s : Store) (time : UInt64) (key : String) :
    Except ReconcileError ReconcileOutcome × Store :=
  Transactions.reconcile time key s

theorem attempt_eq_commit (s : Store) (time : UInt64) (key : String) :
    s.attempt time key = s.commit (s.reconcile time key) := by
  rw [attempt, Transactions.reconcile_eq_transaction]
  rfl

/-- The records that a reconcile writes; none where it fails or skips its policy. -/
def written (s : Store) (time : UInt64) (key : String) : Option Records :=
  match s.verdict time key with
  | .ok (_, records) => records
  | .error _ => none

theorem attempt_fst (s : Store) (time : UInt64) (key : String) :
    (s.attempt time key).1 = (s.reconcile time key).map (·.1) := by
  rw [attempt_eq_commit]
  cases s.reconcile time key <;> rfl

theorem attempt_eq (keyed : s.Keyed) (time : UInt64) (key : String) :
    s.attempt time key =
      ((s.verdict time key).map (·.1), s.record key (s.written time key)) := by
  rw [attempt_eq_commit, reconcile_eq_verdict keyed, written]
  cases s.verdict time key <;> rfl

theorem Reachable.attempt (reachable : s.Reachable) (time : UInt64) (key : String) :
    (s.attempt time key).2.Reachable := by
  rw [attempt_eq_commit]
  cases reconciled : s.reconcile time key with
  | error => exact reachable
  | ok => exact reachable.reconcile reconciled

/-- Stores that hold the same fleet, and the same policy and binding under a key. -/
structure SameFor (key : String) (s t : Store) : Prop extends s.SameFleet t where
  policy : t.policy? key = s.policy? key
  binding : t.bindings.find? (key ++ bindingSuffix) = s.bindings.find? (key ++ bindingSuffix)

theorem SameFor.refl (key : String) (s : Store) : SameFor key s s :=
  ⟨⟨rfl, rfl, rfl, rfl⟩, rfl, rfl⟩

theorem SameFor.trans {u : Store} (first : SameFor key s t) (second : SameFor key t u) :
    SameFor key s u where
  clusters := second.clusters.trans first.clusters
  clusterSets := second.clusterSets.trans first.clusterSets
  resources := second.resources.trans first.resources
  namespaces := second.namespaces.trans first.namespaces
  policy := second.policy.trans first.policy
  binding := second.binding.trans first.binding

theorem SameFor.verdict_eq (same : SameFor key s t) : t.verdict time key = s.verdict time key := by
  have carry (p : Policy) : t.carryOut time key p = s.carryOut time key p := by
    funext plan
    simp only [carryOut, same.binding]
  unfold verdict
  rw [same.policy]
  cases stored : s.policy? key with
  | none => rfl
  | some p =>
    have planned : t.plan key = s.plan key := by
      rw [plan_of_policy? stored, plan_of_policy? (same.policy.trans stored),
        same.toSameFleet.compute_eq p p.status]
    simp only [carry, planned]

theorem SameFor.written_eq (same : SameFor key s t) : t.written time key = s.written time key := by
  rw [written, written, same.verdict_eq]

theorem bindingKey_ne (different : key ≠ other) : key ++ bindingSuffix ≠ other ++ bindingSuffix :=
  fun same => different ((String.append_left_inj _).1 same)

theorem sameFor_record (different : key ≠ other) (s : Store) (records : Option Records) :
    SameFor key s (s.record other records) := by
  cases records with
  | none => exact .refl key s
  | some r =>
    refine ⟨⟨rfl, rfl, rfl, rfl⟩, ?_, ?_⟩
    · exact (Table.find?_insert ..).trans (if_neg different)
    · exact (Table.find?_insert ..).trans (if_neg (bindingKey_ne different))

theorem record_comm (different : key ≠ other) (s : Store) (mine theirs : Option Records) :
    (s.record key mine).record other theirs = (s.record other theirs).record key mine := by
  cases mine with
  | none => rfl
  | some r =>
    cases theirs with
    | none => rfl
    | some r' =>
      simp only [record, Table.insert_comm different, Table.insert_comm (bindingKey_ne different)]

end Store

end ClusterPlacement
