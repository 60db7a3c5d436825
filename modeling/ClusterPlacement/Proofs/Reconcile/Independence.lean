import ClusterPlacement.Proofs.Controller.Visit
import ClusterPlacement.Proofs.Reconcile.Verdict
/-! Policies that do not get into each other's way. The keys of two policies differ, and so do the keys of
their bindings, whatever the names are; a reconcile of the one leaves all that a reconcile of the other
looks at. So their order does not matter, and in a pass every policy fares as it would alone. -/

namespace ClusterPlacement

open Controller (PassState Visited visit)

variable {s : Store} {key other : String} {time later : UInt64}

namespace Store

theorem sameFor_attempt (keyed : s.Keyed) (different : key ≠ other) (time : UInt64) :
    SameFor key s (s.attempt time other).2 := by
  rw [attempt_eq keyed]
  exact sameFor_record different s _

theorem attempt_fst_of_sameFor {t : Store} (keyed : s.Keyed) (keyed' : t.Keyed)
    (same : SameFor key s t) : (t.attempt time key).1 = (s.attempt time key).1 := by
  rw [attempt_eq keyed, attempt_eq keyed', same.verdict_eq]

/-- Two reconciles in either order write the same records, since each of them leaves the other's
verdict as it is. -/
theorem attempt_snd_comm (reachable : s.Reachable) (different : key ≠ other) :
    ((s.attempt time key).2.attempt later other).2 =
      ((s.attempt later other).2.attempt time key).2 := by
  have keyed := reachable.keyed
  have first := sameFor_attempt keyed different.symm time
  have second := sameFor_attempt keyed different later
  rw [attempt_eq (reachable.attempt time key).keyed, attempt_eq (reachable.attempt later other).keyed,
    first.written_eq, second.written_eq, attempt_eq keyed, attempt_eq keyed]
  exact record_comm different s _ _

end Store

namespace Controller

variable {here : Circumstances} {p p' : PassState}

theorem Visited.store_eq (visited : Visited here p other p') :
    p'.store = p.store ∨ p'.store = (p.store.attempt (here.time other) other).2 := by
  cases visited with
  | deferred => exact .inl rfl
  | failed => exact .inl rfl
  | settled _ reconciled =>
    refine .inr ?_
    rw [Store.attempt_eq_commit, reconciled]
    rfl

/-- Visits to other policies leave a policy what a reconcile of it looks at, and its place in the
queue. -/
theorem undisturbed {keys : List String} (reachable : p.store.Reachable) (absent : key ∉ keys)
    (visited : keys.foldlM (visit here) p = some p') :
    Store.SameFor key p.store p'.store ∧ p'.store.Reachable ∧
      p'.controller.queue.find? key = p.controller.queue.find? key := by
  -- Each visit leaves what the next ones start from as good for `key` as it was, so the facts chain.
  induction keys generalizing p with
  | nil =>
    obtain rfl := Option.some.inj visited
    exact ⟨.refl key p.store, reachable, rfl⟩
  | cons first keys ih =>
    obtain ⟨different, absent⟩ := not_or.1 (mt List.mem_cons.2 absent)
    obtain ⟨between, head, rest⟩ := Option.bind_eq_some_iff.1 visited
    have one := visit_eq_some_iff.1 head
    have step : Store.SameFor key p.store between.store := by
      cases one.store_eq with
      | inl same => exact same ▸ .refl key p.store
      | inr same => exact same ▸ Store.sameFor_attempt reachable.keyed different (here.time _)
    obtain ⟨same, reachable', queued⟩ := ih (reachable.visit head) absent rest
    exact ⟨step.trans same, reachable', queued.trans (one.find?_of_ne different)⟩

end Controller

namespace Store

/-- Reconciles of two policies commute: in either order each of them answers the same and the same store
is left. In a pass every policy waits or is due as when the pass began, and a reconcile of it answers
what it would have answered then. -/
theorem reconcile_independent (reachable : s.Reachable) :
    (∀ key other, key ≠ other → ∀ time later,
      ((s.attempt later other).2.attempt time key).1 = (s.attempt time key).1 ∧
      ((s.attempt time key).2.attempt later other).1 = (s.attempt later other).1 ∧
      ((s.attempt time key).2.attempt later other).2 =
        ((s.attempt later other).2.attempt time key).2) ∧
    ∀ (c : Controller) (here : Controller.Circumstances) (key : String) (p : PassState),
      c.ComesTo here s key p →
        p.controller.isWaiting here.now key = c.isWaiting here.now key ∧
        (p.store.reconcile (here.time key) key).map (·.1) = (s.reconcile (here.time key) key).map (·.1) := by
  have keyed := reachable.keyed
  constructor
  · intro key other different time later
    refine ⟨?_, ?_, attempt_snd_comm reachable different⟩
    · exact attempt_fst_of_sameFor keyed (reachable.attempt later other).keyed
        (sameFor_attempt keyed different later)
    · exact attempt_fst_of_sameFor keyed (reachable.attempt time key).keyed
        (sameFor_attempt keyed different.symm time)
  · rintro c here key p ⟨earlier, rest, listed, visited⟩
    have once : (s.policyList.map Policy.key).Nodup := keyed.policies.nodup_map_values
    rw [listed] at once
    -- A pass lists every policy once, so none of the earlier visits was to this one.
    have absent : key ∉ earlier := by
      intro member
      exact (List.nodup_append.1 once).2.2 key member key List.mem_cons_self rfl
    have start : (c.passStart s).store.Reachable := reachable
    obtain ⟨same, reachable', queued⟩ := Controller.undisturbed start absent visited
    constructor
    · have live : key ∈ s.policyList.map Policy.key := by
        rw [listed]
        exact List.mem_append_right earlier List.mem_cons_self
      have kept : (c.passStart s).controller.queue.find? key = c.queue.find? key :=
        (Table.find?_filterKeys _ _).trans (if_pos (List.contains_iff_mem.2 live))
      rw [Controller.isWaiting, Controller.isWaiting, queued, kept]
    · rw [← attempt_fst, ← attempt_fst]
      exact attempt_fst_of_sameFor keyed reachable'.keyed same

def lost : Policy :=
  { web with
    name := "lost"
    spec := { web.spec with entries := [⟨some "a", none, 1, none, none⟩] } }

/-- A policy with the name that the binding of another one has. -/
def lookalike : Policy := { web with name := "web-binding" }

def crowded : Store := (applied.putPolicy lost).putPolicy lookalike

theorem reachable_crowded : crowded.Reachable :=
  (reachable_applied.step (.putPolicy lost)).step (.putPolicy lookalike)

def firstPass : Controller.Circumstances := ⟨.zero, .ofNat 1, fun _ => .ofNat 1⟩

theorem comesTo_web : ∃ p, (Controller.new .default).ComesTo firstPass crowded web.key p ∧
    p.summary.failed = 1 := by
  obtain ⟨c, requeued⟩ := Option.isSome_iff_exists.1
    (by decide +kernel : ((Controller.new .default).requeue .zero (.ofNat 1) lost.key).isSome)
  have visited : Controller.Visited firstPass ((Controller.new .default).passStart crowded) lost.key
      ⟨c, crowded, ⟨0, 0, 0, 1, 0⟩⟩ := .failed nofun rfl requeued
  have head := Controller.visit_eq_some_iff.2 visited
  refine ⟨⟨c, crowded, ⟨0, 0, 0, 1, 0⟩⟩, ⟨[lost.key], [lookalike.key], rfl, ?_⟩, rfl⟩
  rw [List.foldlM_cons, head]
  rfl

/-- The policy before this one in the pass fails, and the one after it looks like its binding. -/
theorem reconcile_independent_crowded : crowded.Reachable ∧ web.key ≠ lookalike.key ∧
    (∃ out, (crowded.attempt 1 web.key).1 = .ok (.scheduled out) ∧
      ((crowded.attempt 1 lookalike.key).2.attempt 1 web.key).1 = .ok (.scheduled out) ∧
      ((crowded.attempt 1 web.key).2.attempt 1 lookalike.key).2 =
        ((crowded.attempt 1 lookalike.key).2.attempt 1 web.key).2) ∧
    ∃ p out, (Controller.new .default).ComesTo firstPass crowded web.key p ∧ p.summary.failed = 1 ∧
      (p.store.reconcile 1 web.key).map (·.1) = .ok (.scheduled out) := by
  have different : web.key ≠ lookalike.key := by decide
  obtain ⟨commute, passes⟩ := reconcile_independent reachable_crowded
  obtain ⟨first, _, same⟩ := commute _ _ different 1 1
  obtain ⟨out, alone⟩ : ∃ out, (crowded.attempt 1 web.key).1 = .ok (.scheduled out) := ⟨_, rfl⟩
  obtain ⟨p, comes, failed⟩ := comesTo_web
  refine ⟨reachable_crowded, different, ⟨out, alone, first.trans alone, same⟩, p, out, comes, failed, ?_⟩
  have undisturbed := (passes _ _ _ _ comes).2
  rw [attempt_fst] at alone
  exact undisturbed.trans alone

end Store

end ClusterPlacement
