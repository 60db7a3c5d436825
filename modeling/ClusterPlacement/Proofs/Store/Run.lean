import ClusterPlacement.Proofs.Binding.Events
import ClusterPlacement.Proofs.Controller.Visit
import ClusterPlacement.Proofs.Reconcile.Verdict
/-! Runs of whatever writes to a store: single writes, manifests, reconciles and the passes of a controller.
A run tells which bindings were created and updated on the way, and in which order. -/

namespace ClusterPlacement

def Store.reconcileEvent? (s : Store) (time : UInt64) (key : String) : Option BindingEvent :=
  match s.reconcile time key with
  | .ok (.scheduled out, _) => out.write.event? out.binding.key
  | _ => none

namespace Controller

def visitEvent? (here : Circumstances) (p : PassState) (key : String) : Option BindingEvent :=
  if p.controller.isWaiting here.now key then none else p.store.reconcileEvent? (here.time key) key

theorem visitEvent?_of_error {here : Circumstances} {p : PassState} {key : String} {e : ReconcileError}
    (failure : p.store.reconcile (here.time key) key = .error e) : visitEvent? here p key = none := by
  rw [visitEvent?, Store.reconcileEvent?, failure]
  exact ite_self none

/-- The store after visits to some policies, with what was stored on the way. If a wait is too long to be
a duration, the policies after that are not visited. -/
def work (here : Circumstances) : PassState → List String → Store × List BindingEvent
  | p, [] => (p.store, [])
  | p, key :: keys =>
    let event? := visitEvent? here p key
    match visit here p key with
    | none => (p.store, event?.toList)
    | some next =>
      let (s, later) := work here next keys
      (s, event?.toList ++ later)

theorem work_fst_of_foldlM {here : Circumstances} {p after : PassState} {keys : List String}
    (visited : keys.foldlM (visit here) p = some after) : (work here p keys).1 = after.store := by
  induction keys generalizing p with
  | nil =>
    obtain rfl := Option.some.inj visited
    rfl
  | cons key keys ih =>
    obtain ⟨next, head, rest⟩ := Option.bind_eq_some_iff.1 visited
    simp only [work, head]
    exact ih rest

end Controller

/-- What can be asked of a store, but for what only reads it. A controller at work is a row of passes. -/
inductive Action where
  | write (op : Operation)
  | apply (m : Manifest)
  | writeBinding (candidate : Binding)
  | reconcile (time : UInt64) (key : String)
  | pass (c : Controller) (here : Controller.Circumstances)

def Action.perform (s : Store) : Action → Store × List BindingEvent
  | write op => (op.perform s, (op.event? s).toList)
  | apply m =>
    match m.apply s with
    | .ok (_, s') => (s', [])
    | .error _ => (s, [])
  | writeBinding candidate =>
    match s.writeBinding candidate with
    | .ok (outcome, stored, s') => (s', (outcome.event? stored.key).toList)
    | .error _ => (s, [])
  | reconcile time key => ((s.attempt time key).2, (s.reconcileEvent? time key).toList)
  | pass c here => Controller.work here (c.passStart s) (s.policyList.map Policy.key)

/-- The store after some actions, and all that was stored on the way. -/
def Store.run (s : Store) : List Action → Store × List BindingEvent
  | [] => (s, [])
  | a :: actions =>
    let (next, events) := a.perform s
    let (last, later) := next.run actions
    (last, events ++ later)

/-- A pass that comes to its end leaves the store that it returns. -/
theorem Action.perform_pass {s : Store} {c : Controller} {here : Controller.Circumstances}
    {after : Controller.PassState} (passed : c.pass here s = some after) :
    ((Action.pass c here).perform s).1 = after.store := by
  rw [Controller.pass_eq_foldlM] at passed
  exact Controller.work_fst_of_foldlM passed

namespace Store

variable {s : Store}

theorem Reachable.work {here : Controller.Circumstances} {p : Controller.PassState}
    {keys : List String} (reachable : p.store.Reachable) :
    (Controller.work here p keys).1.Reachable := by
  induction keys generalizing p with
  | nil => exact reachable
  | cons key keys ih =>
    unfold Controller.work
    cases visited : Controller.visit here p key with
    | none => exact reachable
    | some next => exact ih (reachable.visit visited)

theorem Reachable.perform (reachable : s.Reachable) (a : Action) : (a.perform s).1.Reachable := by
  cases a with
  | write op => exact reachable.step op
  | reconcile time key => exact reachable.attempt time key
  | pass c here => exact Reachable.work (p := c.passStart s) reachable
  | apply m =>
    cases applied : m.apply s with
    | error => simpa [Action.perform, applied] using reachable
    | ok => simpa [Action.perform, applied] using reachable.apply applied
  | writeBinding candidate =>
    cases written : s.writeBinding candidate with
    | error => simpa [Action.perform, written] using reachable
    | ok => simpa [Action.perform, written] using reachable.writeBinding written

theorem Reachable.run (reachable : s.Reachable) (actions : List Action) :
    (s.run actions).1.Reachable := by
  induction actions generalizing s with
  | nil => exact reachable
  | cons a actions ih => exact ih (reachable.perform a)

end Store

end ClusterPlacement
