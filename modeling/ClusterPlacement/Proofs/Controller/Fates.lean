import ClusterPlacement.Proofs.Reconcile.Independence
/-! What becomes of each policy in a pass, and what that does to its place in the queue. A pass comes to a
policy once and its other visits leave that place alone, so a pass is one turn for every policy. -/

namespace ClusterPlacement

namespace Controller

/-- What can become of a policy in a pass. -/
inductive Fate where
  | written
  | unchanged
  | skipped
  | failed
  | deferred
deriving DecidableEq

def Fate.ofOutcome : ReconcileOutcome → Fate
  | .skipped _ => skipped
  | .scheduled out => if out.write = .unchanged then unchanged else written

theorem Fate.ofOutcome_ne (outcome : ReconcileOutcome) :
    ofOutcome outcome ≠ deferred ∧ ofOutcome outcome ≠ failed := by
  cases outcome with
  | skipped => exact ⟨nofun, nofun⟩
  | scheduled out => by_cases same : out.write = .unchanged <;> simp [ofOutcome, same]

end Controller

open Controller (Fate)

namespace PassSummary

/-- The summary with one more policy. -/
def tally (summary : PassSummary) : Fate → PassSummary
  | .written => { summary with written := summary.written + 1 }
  | .unchanged => { summary with unchanged := summary.unchanged + 1 }
  | .skipped => { summary with skipped := summary.skipped + 1 }
  | .failed => { summary with failed := summary.failed + 1 }
  | .deferred => { summary with deferred := summary.deferred + 1 }

theorem count_eq_tally (summary : PassSummary) (outcome : ReconcileOutcome) :
    summary.count outcome = summary.tally (.ofOutcome outcome) := by
  cases outcome with
  | skipped => rfl
  | scheduled out =>
    simp only [count, Fate.ofOutcome]
    split <;> rfl

def ofFates (fates : List Fate) : PassSummary :=
  ⟨fates.count .written, fates.count .unchanged, fates.count .skipped, fates.count .failed,
    fates.count .deferred⟩

theorem foldl_tally (fates : List Fate) : fates.foldl tally ⟨0, 0, 0, 0, 0⟩ = ofFates fates := by
  induction fates using List.reverseRecOn with
  | nil => rfl
  | append_singleton fates f ih =>
    rw [List.foldl_append, ih]
    cases f <;> simp [tally, ofFates]

def total (summary : PassSummary) : Nat :=
  summary.written + summary.unchanged + summary.skipped + summary.failed + summary.deferred

theorem total_ofFates (fates : List Fate) : (ofFates fates).total = fates.length := by
  induction fates with
  | nil => rfl
  | cons f fates ih =>
    rw [List.length_cons, ← ih]
    cases f <;> simp [total, ofFates] <;> omega

end PassSummary

namespace Controller

variable {c : Controller} {here : Circumstances} {p p' after : PassState} {s : Store} {key other : String}
  {keys earlier later : List String} {w : Waiting}

def fate (here : Circumstances) (p : PassState) (key : String) : Fate :=
  if p.controller.isWaiting here.now key then .deferred
  else
    match p.store.reconcile (here.time key) key with
    | .ok (outcome, _) => .ofOutcome outcome
    | .error _ => .failed

/-- What becomes of some policies that are visited one after the other. -/
def fates (here : Circumstances) : PassState → List String → List (String × Fate)
  | _, [] => []
  | p, key :: keys =>
    (key, fate here p key) ::
      match visit here p key with
      | none => []
      | some next => fates here next keys

theorem Visited.summary_eq (visited : Visited here p key p') :
    p'.summary = p.summary.tally (fate here p key) := by
  cases visited with
  | deferred waits => rw [fate, if_pos waits]; rfl
  | settled due reconciled =>
    rw [fate, if_neg due, reconciled]
    exact PassSummary.count_eq_tally _ _
  | failed due failure requeued => rw [fate, if_neg due, failure]; rfl

theorem fates_cons (visited : visit here p key = some p') (keys : List String) :
    fates here p (key :: keys) = (key, fate here p key) :: fates here p' keys := by
  rw [fates, visited]

theorem summary_eq_foldl (visited : keys.foldlM (visit here) p = some after) :
    after.summary = ((fates here p keys).map (·.2)).foldl PassSummary.tally p.summary := by
  induction keys generalizing p with
  | nil =>
    obtain rfl := Option.some.inj visited
    rfl
  | cons key keys ih =>
    obtain ⟨next, head, rest⟩ := Option.bind_eq_some_iff.1 visited
    rw [ih rest, fates_cons head, (visit_eq_some_iff.1 head).summary_eq]
    rfl

theorem map_fst_fates (visited : keys.foldlM (visit here) p = some after) :
    (fates here p keys).map (·.1) = keys := by
  induction keys generalizing p with
  | nil => rfl
  | cons key keys ih =>
    obtain ⟨next, head, rest⟩ := Option.bind_eq_some_iff.1 visited
    rw [fates_cons head, List.map_cons, ih rest]

theorem fates_append (visited : earlier.foldlM (visit here) p = some p') (later : List String) :
    fates here p (earlier ++ later) = fates here p earlier ++ fates here p' later := by
  induction earlier generalizing p with
  | nil =>
    obtain rfl := Option.some.inj visited
    rfl
  | cons key earlier ih =>
    obtain ⟨next, head, rest⟩ := Option.bind_eq_some_iff.1 visited
    rw [List.cons_append, fates_cons head, fates_cons head, ih rest, List.cons_append]

theorem lookup_ne_none_iff {fates : List (String × Fate)} :
    fates.lookup key ≠ none ↔ key ∈ fates.map (·.1) := by
  rw [ne_eq, List.lookup_eq_none_iff, List.mem_map]
  constructor
  · intro found
    by_contra absent
    refine found ?_
    intro entry member
    rw [bne_iff_ne]
    intro same
    exact absent ⟨entry, member, same.symm⟩
  · rintro ⟨entry, member, rfl⟩ absent
    have different := absent entry member
    simp at different

theorem lookup_fates_of_notMem (visited : keys.foldlM (visit here) p = some after)
    (absent : key ∉ keys) : (fates here p keys).lookup key = none := by
  by_contra found
  have listed := lookup_ne_none_iff.1 found
  rw [map_fst_fates visited] at listed
  exact absent listed

theorem isWaiting_iff {now : Duration} : c.isWaiting now key ↔
    ∃ w, c.queue.find? key = some w ∧ now.nanoseconds < w.due.nanoseconds := by
  unfold isWaiting
  cases c.queue.find? key with
  | none => simp
  | some w => simp

/-- What a pass makes of the place of a policy in the queue, and what becomes of the policy: it is not there,
waits on, is reconciled and leaves the queue, or fails and waits anew. -/
inductive Turn (settings : Settings) (here : Circumstances) (key : String) :
    Option Waiting → Option Fate → Option Waiting → Prop where
  | absent (place : Option Waiting) : Turn settings here key place none none
  | deferred (w : Waiting) (waits : here.now.nanoseconds < w.due.nanoseconds) :
      Turn settings here key (some w) (some .deferred) (some w)
  | settled (place : Option Waiting) (outcome : ReconcileOutcome)
      (due : ∀ w, place = some w → ¬here.now.nanoseconds < w.due.nanoseconds) :
      Turn settings here key place (some (.ofOutcome outcome)) none
  | failed (place : Option Waiting) (delay wait : Duration)
      (due : ∀ w, place = some w → ¬here.now.nanoseconds < w.due.nanoseconds)
      (delayed : Backoff.next? settings (place.map (·.delay)) = some delay)
      (waits : Backoff.jittered? delay (here.factor key) = some wait) :
      Turn settings here key place (some .failed)
        (some ⟨⟨here.now.nanoseconds + wait.nanoseconds⟩, (place.map (·.failures)).getD 0 + 1, delay⟩)

theorem requeue_eq_some_iff {now : Duration} {factor : Binary64} {c' : Controller} :
    c.requeue now factor key = some c' ↔ ∃ delay wait,
      Backoff.next? c.settings ((c.queue.find? key).map (·.delay)) = some delay ∧
      Backoff.jittered? delay factor = some wait ∧
      c' = { c with queue := c.queue.insert key ⟨⟨now.nanoseconds + wait.nanoseconds⟩,
        ((c.queue.find? key).map (·.failures)).getD 0 + 1, delay⟩ } := by
  simp only [requeue, Option.bind_eq_bind, Option.bind_eq_some_iff, Option.pure_def,
    Option.some.injEq]
  constructor
  · rintro ⟨delay, delayed, wait, waits, rfl⟩
    exact ⟨delay, wait, delayed, waits, rfl⟩
  · rintro ⟨delay, wait, delayed, waits, rfl⟩
    exact ⟨delay, delayed, wait, waits, rfl⟩

theorem Visited.settings_eq (visited : Visited here p key p') :
    p'.controller.settings = p.controller.settings := by
  cases visited with
  | deferred => rfl
  | settled => rfl
  | failed due failure requeued =>
    obtain ⟨delay, wait, -, -, rfl⟩ := requeue_eq_some_iff.1 requeued
    rfl

theorem Visited.turn (visited : Visited here p key p') :
    Turn p.controller.settings here key (p.controller.queue.find? key) (some (fate here p key))
      (p'.controller.queue.find? key) := by
  have notWaiting (due : ¬p.controller.isWaiting here.now key) (w : Waiting)
      (found : p.controller.queue.find? key = some w) :
      ¬here.now.nanoseconds < w.due.nanoseconds :=
    fun waits => due (isWaiting_iff.2 ⟨w, found, waits⟩)
  cases visited with
  | deferred waits =>
    obtain ⟨w, found, later⟩ := isWaiting_iff.1 waits
    rw [fate, if_pos waits]
    simp only [found]
    exact .deferred w later
  | settled due reconciled =>
    rw [fate, if_neg due, reconciled]
    have left : (p.controller.release key).queue.find? key = none :=
      (Table.find?_erase _ _ _).trans (if_pos rfl)
    rw [left]
    exact .settled _ _ (notWaiting due)
  | failed due failure requeued =>
    obtain ⟨delay, wait, delayed, waits, rfl⟩ := requeue_eq_some_iff.1 requeued
    rw [fate, if_neg due, failure, Table.find?_insert, if_pos rfl]
    exact .failed _ delay wait (notWaiting due) delayed waits

theorem Visited.store_eq_of_deferred (visited : Visited here p key p')
    (deferred : fate here p key = .deferred) : p'.store = p.store := by
  cases visited with
  | deferred => rfl
  | settled due reconciled =>
    rw [fate, if_neg due, reconciled] at deferred
    exact absurd deferred (Fate.ofOutcome_ne _).1
  | failed => rfl

theorem settings_of_visits (visited : keys.foldlM (visit here) p = some after) :
    after.controller.settings = p.controller.settings := by
  induction keys generalizing p with
  | nil =>
    obtain rfl := Option.some.inj visited
    rfl
  | cons key keys ih =>
    obtain ⟨next, head, rest⟩ := Option.bind_eq_some_iff.1 visited
    exact (ih rest).trans (visit_eq_some_iff.1 head).settings_eq

/-- What becomes of every policy in a pass. -/
def passFates (c : Controller) (here : Circumstances) (s : Store) : List (String × Fate) :=
  fates here (c.passStart s) (s.policyList.map Policy.key)

theorem mem_policyKeys_iff (keyed : s.Keyed) :
    key ∈ s.policyList.map Policy.key ↔ (s.policy? key).isSome := by
  rw [List.mem_map, Option.isSome_iff_exists]
  constructor
  · rintro ⟨q, listed, rfl⟩
    exact ⟨q, keyed.policies.find?_of_mem_values listed⟩
  · rintro ⟨q, found⟩
    exact ⟨q, Table.mem_values_iff.2 ⟨key, found⟩, keyed.policies _ _ found⟩

/-- A pass is one turn for every policy, and leaves one that is deferred what a reconcile looks at. -/
theorem turn_of_pass (reachable : s.Reachable) (passed : c.pass here s = some after) (key : String) :
    Turn c.settings here key (c.queue.find? key) ((c.passFates here s).lookup key)
        (after.controller.queue.find? key) ∧
      ((c.passFates here s).lookup key = some .deferred → Store.SameFor key s after.store) := by
  rw [pass_eq_foldlM] at passed
  have start : (c.passStart s).store.Reachable := reachable
  have kept : (c.passStart s).controller.queue.find? key =
      if (s.policyList.map Policy.key).contains key then c.queue.find? key else none :=
    Table.find?_filterKeys _ _
  by_cases live : key ∈ s.policyList.map Policy.key
  · rw [if_pos (List.contains_iff_mem.2 live)] at kept
    have once : (s.policyList.map Policy.key).Nodup := reachable.keyed.policies.nodup_map_values
    obtain ⟨earlier, later, listed⟩ := List.append_of_mem live
    rw [passFates, listed]
    rw [listed] at passed once
    obtain ⟨-, ⟨absent', -⟩, apart⟩ := List.nodup_append.1 once |>.imp_right (And.imp_left List.nodup_cons.1)
    have absent : key ∉ earlier := fun member => apart key member key List.mem_cons_self rfl
    rw [List.foldlM_append] at passed
    obtain ⟨p, before, passed⟩ := Option.bind_eq_some_iff.1 passed
    obtain ⟨p', visited, behind⟩ := Option.bind_eq_some_iff.1 passed
    obtain ⟨same, reachable', place⟩ := undisturbed start absent before
    obtain ⟨same', _, place'⟩ := undisturbed (reachable'.visit visited) absent' behind
    have one := visit_eq_some_iff.1 visited
    have found : (fates here (c.passStart s) (earlier ++ key :: later)).lookup key =
        some (fate here p key) := by
      rw [fates_append before, List.lookup_append, lookup_fates_of_notMem before absent,
        fates_cons visited]
      simp
    have settings : p.controller.settings = c.settings := settings_of_visits before
    rw [found, place', ← kept, ← place, ← settings]
    refine ⟨one.turn, ?_⟩
    intro deferred
    rw [one.store_eq_of_deferred (Option.some.inj deferred)] at same'
    exact same.trans same'
  · have absent := fun member => live (List.contains_iff_mem.1 member)
    rw [if_neg absent] at kept
    obtain ⟨-, -, place⟩ := undisturbed start live passed
    rw [passFates, lookup_fates_of_notMem passed live, place, kept]
    exact ⟨.absent _, nofun⟩

end Controller

end ClusterPlacement
