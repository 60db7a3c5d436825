import ClusterPlacement.Plan
/-! Reconciling a policy: its plan becomes its stored binding, and the policy is stamped with the
time. Nothing is written unless the whole plan succeeds. -/

namespace ClusterPlacement

/-- What became of a binding. -/
inductive WriteOutcome where
  | created
  | updated
  | unchanged
deriving DecidableEq

/-- Whether the store was written to. -/
def WriteOutcome.wrote (o : WriteOutcome) : Bool := o ≠ .unchanged

inductive ReconcileError where
  | policyNotFound (key : String)
  | placement (e : PlacementError)
  | bindingWrite (key : String) (e : StoreError)
deriving DecidableEq

namespace ReconcileError

def message : ReconcileError → String
  | policyNotFound key => "schedule policy not found: " ++ key
  | placement e => "placement error: " ++ e.message
  | bindingWrite key e => "failed to write binding " ++ key ++ ": " ++ e.message

/-- Whether the failure can pass by itself, once clusters recover or another writer is done. -/
def isTransient : ReconcileError → Bool
  | placement (.capacityExceeded _ _) | placement (.noFailover _) | bindingWrite _ _ => true
  | _ => false

end ReconcileError

namespace Store

/-- Stores a candidate binding: a new one is created, one with another spec gets the spec, and one
with the same spec is left alone. -/
def writeBinding (s : Store) (candidate : Binding) :
    Except ReconcileError (WriteOutcome × Binding × Store) :=
  match s.binding? candidate.ns candidate.name with
  | none => do
    let (stored, s) ← (s.createBinding candidate).mapError (.bindingWrite candidate.key)
    return (.created, stored, s)
  | some current =>
    if current.spec = candidate.spec then .ok (.unchanged, current, s)
    else do
      let next := { current with spec := candidate.spec }
      let (stored, s) ← (s.updateBinding next).mapError (.bindingWrite candidate.key)
      return (.updated, stored, s)

end Store

/-- What a reconcile did that ran to its end. -/
structure Scheduled where
  policy : String
  write : WriteOutcome
  binding : Binding
  plan : Plan
deriving DecidableEq

inductive ReconcileOutcome where
  /-- The policy is not to be placed. -/
  | skipped (policy : String)
  | scheduled (s : Scheduled)
deriving DecidableEq

namespace Store

def loadPolicy (s : Store) (key : String) : Except ReconcileError Policy :=
  match s.policy? key with
  | some p => .ok p
  | none => .error (.policyNotFound key)

/-- Plans a stored policy without writing anything. -/
def plan (s : Store) (key : String) : Except ReconcileError Plan := do
  let p ← s.loadPolicy key
  (Plan.compute s p).mapError .placement

/-- The status of a policy after a reconcile at a time. -/
def stamp (status : PolicyStatus) (write : WriteOutcome) (time : UInt64) : PolicyStatus where
  lastScheduleTime := some time
  lastModifyTime := if write.wrote then some time else status.lastModifyTime

/-- Plans a stored policy and stores its binding. -/
def reconcile (s : Store) (time : UInt64) (key : String) :
    Except ReconcileError (ReconcileOutcome × Store) := do
  let p ← s.loadPolicy key
  if p.spec.reschedule then
    let plan ← (Plan.compute s p).mapError .placement
    let (write, binding, s) ← s.writeBinding (Binding.candidate p plan.spec)
    let stamped := { p with status := stamp p.status write time }
    return (.scheduled ⟨key, write, binding, plan⟩, s.putPolicy stamped)
  else return (.skipped key, s)

end Store

end ClusterPlacement
