import ClusterPlacement.Controller
import ClusterPlacement.Proofs.Table
/-! One visit of a pass, said once. A policy that waits is left alone; any other is reconciled, and leaves
the queue or goes back into it. A visit touches no other policy's place in the queue. -/

namespace ClusterPlacement

/-- The summary with one more policy that was reconciled without failing. -/
def PassSummary.count (summary : PassSummary) : ReconcileOutcome → PassSummary
  | .skipped _ => { summary with skipped := summary.skipped + 1 }
  | .scheduled out =>
    if out.write = .unchanged then { summary with unchanged := summary.unchanged + 1 }
    else { summary with written := summary.written + 1 }

namespace Controller

variable {c c' : Controller} {here : Circumstances} {p p' : PassState} {s s' : Store}
  {key other : String}

inductive Visited (here : Circumstances) (p : PassState) (key : String) : PassState → Prop where
  | deferred (waits : p.controller.isWaiting here.now key) :
      Visited here p key { p with summary.deferred := p.summary.deferred + 1 }
  | settled {outcome : ReconcileOutcome} {s' : Store}
      (due : ¬p.controller.isWaiting here.now key)
      (reconciled : p.store.reconcile (here.time key) key = .ok (outcome, s')) :
      Visited here p key ⟨p.controller.release key, s', p.summary.count outcome⟩
  | failed {e : ReconcileError} {c : Controller} (due : ¬p.controller.isWaiting here.now key)
      (failure : p.store.reconcile (here.time key) key = .error e)
      (requeued : p.controller.requeue here.now (here.factor key) key = some c) :
      Visited here p key ⟨c, p.store, { p.summary with failed := p.summary.failed + 1 }⟩

theorem visit_of_reconciled {outcome : ReconcileOutcome} (due : ¬p.controller.isWaiting here.now key)
    (reconciled : p.store.reconcile (here.time key) key = .ok (outcome, s')) :
    visit here p key = some ⟨p.controller.release key, s', p.summary.count outcome⟩ := by
  unfold visit
  rw [if_neg due]
  cases outcome with
  | skipped =>
    simp only [reconciled]
    rfl
  | scheduled out =>
    obtain ⟨policy, write, binding, plan⟩ := out
    simp only [reconciled]
    cases write <;> rfl

theorem visit_eq_some_iff : visit here p key = some p' ↔ Visited here p key p' := by
  constructor
  · intro visited
    by_cases waits : p.controller.isWaiting here.now key
    · rw [visit, if_pos waits] at visited
      obtain rfl := Option.some.inj visited
      exact .deferred waits
    · cases result : p.store.reconcile (here.time key) key with
      | ok both =>
        rw [visit_of_reconciled waits result] at visited
        obtain rfl := Option.some.inj visited
        exact .settled waits result
      | error e =>
        rw [visit, if_neg waits] at visited
        simp only [result] at visited
        obtain ⟨c, requeued, same⟩ := Option.bind_eq_some_iff.1 visited
        obtain rfl := Option.some.inj same
        exact .failed waits result requeued
  · intro visited
    cases visited with
    | deferred waits => rw [visit, if_pos waits]
    | settled due reconciled => exact visit_of_reconciled due reconciled
    | failed due failure requeued =>
      rw [visit, if_neg due]
      simp only [failure, requeued]
      rfl

/-- Only a policy that fails can end a pass, by a wait that is too long to be a duration. -/
theorem error_of_visit_eq_none (ended : visit here p key = none) :
    ¬p.controller.isWaiting here.now key ∧ ∃ e, p.store.reconcile (here.time key) key = .error e := by
  by_cases waits : p.controller.isWaiting here.now key
  · rw [visit, if_pos waits] at ended
    cases ended
  · refine ⟨waits, ?_⟩
    cases result : p.store.reconcile (here.time key) key with
    | ok both =>
      rw [visit_of_reconciled waits result] at ended
      cases ended
    | error e => exact ⟨e, rfl⟩

theorem requeue_find?_of_ne {now : Duration} {factor : Binary64}
    (requeued : c.requeue now factor key = some c') (different : other ≠ key) :
    c'.queue.find? other = c.queue.find? other := by
  obtain ⟨delay, _, requeued⟩ := Option.bind_eq_some_iff.1 requeued
  obtain ⟨wait, _, requeued⟩ := Option.bind_eq_some_iff.1 requeued
  obtain rfl := Option.some.inj requeued
  exact (Table.find?_insert ..).trans (if_neg different)

theorem Visited.find?_of_ne (visited : Visited here p key p') (different : other ≠ key) :
    p'.controller.queue.find? other = p.controller.queue.find? other := by
  cases visited with
  | deferred => rfl
  | settled => exact (Table.find?_erase ..).trans (if_neg different)
  | failed _ _ requeued => exact requeue_find?_of_ne requeued different

/-- What the visits of a pass start from. -/
def passStart (c : Controller) (s : Store) : PassState :=
  ⟨{ c with queue := c.queue.filterKeys (s.policyList.map Policy.key).contains }, s, ⟨0, 0, 0, 0, 0⟩⟩

theorem pass_eq_foldlM : c.pass here s =
    (s.policyList.map Policy.key).foldlM (visit here) (c.passStart s) := rfl

/-- A pass comes to a policy, and this is what its visits to other policies have left by then. -/
def ComesTo (c : Controller) (here : Circumstances) (s : Store) (key : String) (p : PassState) : Prop :=
  ∃ earlier later, s.policyList.map Policy.key = earlier ++ key :: later ∧
    earlier.foldlM (visit here) (c.passStart s) = some p

end Controller

end ClusterPlacement
