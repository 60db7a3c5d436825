import ClusterPlacement.Reconcile
/-! A reconcile as the transactions it consists of. Each of them is committed at once and a later failure
undoes none of them, so in general a run that fails can leave part of its writes behind. A reconcile
looks everything up before it writes, and its last write cannot fail; that makes one transaction of it. -/

namespace ClusterPlacement

variable {α β ε : Type}

/-- What a transaction leaves: a result and the store it wrote, or an error and the store as it was. -/
def Store.commit (s : Store) : Except ε (α × Store) → Except ε α × Store
  | .ok (a, s') => (.ok a, s')
  | .error e => (.error e, s)

/-- Transactions one after the other. The store is passed on whether a transaction fails or not. -/
abbrev Transactions (ε α : Type) := ExceptT ε (StateM Store) α

namespace Transactions

def transaction (write : Store → Except ε (α × Store)) : Transactions ε α :=
  ExceptT.mk fun s => s.commit (write s)

/-- A transaction that only reads. -/
def look (read : Store → Except ε α) : Transactions ε α :=
  transaction fun s => (read s).map fun a => (a, s)

/-- A write that cannot fail. -/
def record (write : Store → Store) : Transactions ε Unit := transaction fun s => .ok ((), write s)

theorem bind_apply (x : Transactions ε α) (f : α → Transactions ε β) (s : Store) :
    (x >>= f) s = match x s with
      | (.ok a, s') => f a s'
      | (.error e, s') => (.error e, s') := by
  simp only [bind, ExceptT.bind, ExceptT.mk, StateT.bind, ExceptT.bindCont]
  cases x s with
  | mk result s' => cases result <;> rfl

theorem transaction_bind (write : Store → Except ε (α × Store)) (f : α → Transactions ε β)
    (s : Store) : (transaction write >>= f) s = match write s with
      | .ok (a, s') => f a s'
      | .error e => (.error e, s) := by
  rw [bind_apply]
  change (match s.commit (write s) with | (.ok a, s') => f a s' | (.error e, s') => _) = _
  cases write s <;> rfl

theorem look_bind (read : Store → Except ε α) (f : α → Transactions ε β) (s : Store) :
    (look read >>= f) s = match read s with
      | .ok a => f a s
      | .error e => (.error e, s) := by
  unfold look
  rw [transaction_bind]
  cases read s <;> rfl

def writeBinding (candidate : Binding) : Transactions ReconcileError (WriteOutcome × Binding) := do
  match ← look fun s => .ok (s.binding? candidate.ns candidate.name) with
  | none =>
    let stored ← transaction fun s =>
      (s.createBinding candidate).mapError (.bindingWrite candidate.key)
    return (.created, stored)
  | some current =>
    if current.spec = candidate.spec then return (.unchanged, current)
    else
      let stored ← transaction fun s =>
        (s.updateBinding { current with spec := candidate.spec }).mapError
          (.bindingWrite candidate.key)
      return (.updated, stored)

def reconcile (time : UInt64) (key : String) : Transactions ReconcileError ReconcileOutcome := do
  let p ← look (·.loadPolicy key)
  if p.spec.reschedule then
    let plan ← look fun s => (Plan.compute s p).mapError .placement
    let (write, binding) ← writeBinding (.candidate p plan.spec)
    record (·.putPolicy { p with status := Store.stamp p.status write time })
    return .scheduled ⟨key, write, binding, plan⟩
  else return .skipped key

theorem writeBinding_eq_transaction (candidate : Binding) : writeBinding candidate =
    transaction fun s => (s.writeBinding candidate).map fun (o, b, s') => ((o, b), s') := by
  funext s
  change _ = s.commit ((s.writeBinding candidate).map _)
  unfold writeBinding Store.writeBinding
  rw [look_bind]
  simp only
  cases s.binding? candidate.ns candidate.name with
  | none =>
    simp only [transaction_bind]
    cases (s.createBinding candidate).mapError (ReconcileError.bindingWrite candidate.key) <;> rfl
  | some current =>
    simp only
    split
    case isTrue => rfl
    case isFalse =>
      rw [transaction_bind]
      cases (s.updateBinding { current with spec := candidate.spec }).mapError
        (ReconcileError.bindingWrite candidate.key) <;> rfl

/-- A reconcile is one transaction. -/
theorem reconcile_eq_transaction (time : UInt64) (key : String) :
    reconcile time key = transaction fun s => s.reconcile time key := by
  funext s
  change _ = s.commit (s.reconcile time key)
  unfold reconcile Store.reconcile
  rw [look_bind]
  cases s.loadPolicy key with
  | error e => rfl
  | ok p =>
    change _ = s.commit (if p.spec.reschedule then _ else _)
    simp only
    split
    case isFalse => rfl
    case isTrue =>
      rw [look_bind]
      cases (Plan.compute s p).mapError ReconcileError.placement with
      | error e => rfl
      | ok plan =>
        change _ = s.commit (s.writeBinding (.candidate p plan.spec) >>= _)
        simp only [writeBinding_eq_transaction]
        rw [transaction_bind]
        cases s.writeBinding (.candidate p plan.spec) with
        | error e => rfl
        | ok all => rfl

end Transactions

end ClusterPlacement
