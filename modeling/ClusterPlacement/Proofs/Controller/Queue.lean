import ClusterPlacement.Proofs.Backoff.Bounds
import ClusterPlacement.Proofs.Controller.Fates
import ClusterPlacement.Proofs.Store.Run
/-! The queue of a controller at work. A place in the queue tells how often its policy failed since it last
did not, and how long it waits now follows from that number alone. So nothing of an earlier row of failures
is left once a policy has succeeded, was skipped or was gone. -/

namespace ClusterPlacement

open Backoff (after? IsJitter NeverOverflows)

variable {settings : Settings} {key : String} {here : Controller.Circumstances}

namespace Controller

/-- A controller at work on a store, and what became of every policy in each of its passes so far. -/
structure Service where
  controller : Controller
  store : Store
  history : List (List (String × Fate))

/-- What happens next: something is done to the store, or the controller makes a pass. -/
inductive Step where
  | act (a : Action)
  | pass (here : Circumstances)

/-- Random factors within their limits. -/
def Step.Jitters : Step → Prop
  | act _ => True
  | pass here => ∀ key, IsJitter (here.factor key)

namespace Service

def start (settings : Settings) : Service := ⟨.new settings, .empty, []⟩

/-- There is no result if a wait is too long to be a duration. -/
def perform (r : Service) : Step → Option Service
  | .act a => some { r with store := (a.perform r.store).1 }
  | .pass here =>
    (r.controller.pass here r.store).map fun p =>
      ⟨p.controller, p.store, r.history ++ [r.controller.passFates here r.store]⟩

def run (r : Service) (steps : List Step) : Option Service := steps.foldlM perform r

end Service

/-- How often a policy failed since it last succeeded, was skipped or was absent at a pass. -/
def failuresSince (key : String) (history : List (List (String × Fate))) : Nat :=
  ((history.reverse.map (·.lookup key)).takeWhile fun fate? =>
    fate? = some .failed ∨ fate? = some .deferred).count (some .failed)

/-- The count after one more pass. -/
def Fate.countAfter (failures : Nat) : Option Fate → Nat
  | some failed => failures + 1
  | some deferred => failures
  | _ => 0

theorem failuresSince_append (key : String) (history : List (List (String × Fate)))
    (fates : List (String × Fate)) : failuresSince key (history ++ [fates]) =
      Fate.countAfter (failuresSince key history) (fates.lookup key) := by
  rw [failuresSince, List.reverse_append, List.reverse_singleton, List.singleton_append, List.map_cons]
  cases fates.lookup key with
  | none => rfl
  | some fate => cases fate <;> simp [Fate.countAfter, failuresSince]

/-- A place in the queue after so many failures; after none there is no place. -/
structure PlaceAfter (settings : Settings) (failures : Nat) (place : Option Waiting) : Prop where
  failures_eq : (place.map (·.failures)).getD 0 = failures
  delay_eq : place.map (·.delay) = after? settings failures

variable {failures : Nat} {place place' : Option Waiting} {fate? : Option Fate}

theorem PlaceAfter.none : PlaceAfter settings 0 none := ⟨rfl, rfl⟩

theorem Turn.placeAfter (turn : Turn settings here key place fate? place')
    (before : PlaceAfter settings failures place) :
    PlaceAfter settings (Fate.countAfter failures fate?) place' := by
  cases turn with
  | absent => exact .none
  | deferred => exact before
  | settled _ outcome =>
    have settled : Fate.countAfter failures (some (.ofOutcome outcome)) = 0 := by
      obtain ⟨notDeferred, notFailed⟩ := Fate.ofOutcome_ne outcome
      cases same : Fate.ofOutcome outcome with
      | deferred => exact absurd same notDeferred
      | failed => exact absurd same notFailed
      | _ => rfl
    rw [settled]
    exact .none
  | failed _ delay wait due delayed waits =>
    rw [before.delay_eq] at delayed
    refine ⟨?_, ?_⟩
    · exact congrArg (· + 1) before.failures_eq
    · exact delayed.symm

/-- A policy that has a place after a turn is not due yet. -/
theorem Turn.due_later (turn : Turn settings here key place fate? place')
    (jitter : IsJitter (here.factor key)) {w : Waiting} (queued : place' = some w) :
    here.now.nanoseconds < w.due.nanoseconds := by
  cases turn with
  | absent => cases queued
  | settled => cases queued
  | deferred _ waits =>
    obtain rfl := Option.some.inj queued
    exact waits
  | failed _ delay wait due delayed waits =>
    obtain rfl := Option.some.inj queued
    have enough := Backoff.half_shortest_le_jittered? (Backoff.shortest_le_next? delayed) jitter waits
    change here.now.nanoseconds < here.now.nanoseconds + wait.nanoseconds
    omega

theorem Turn.isSome_iff (turn : Turn settings here key place fate? place') :
    place'.isSome ↔ fate? = some .deferred ∨ fate? = some .failed := by
  cases turn with
  | absent => simp
  | deferred => simp
  | failed => simp
  | settled _ outcome => simp [Fate.ofOutcome_ne]

theorem Turn.deferred_iff (turn : Turn settings here key place fate? place') :
    fate? = some .deferred ↔
      fate? ≠ none ∧ ∃ w, place = some w ∧ here.now.nanoseconds < w.due.nanoseconds := by
  cases turn with
  | absent => simp
  | deferred w waits => simpa using waits
  | settled _ outcome due =>
    constructor
    · intro deferred
      exact absurd (Option.some.inj deferred) (Fate.ofOutcome_ne outcome).1
    · rintro ⟨-, w, found, waits⟩
      exact absurd waits (due w found)
  | failed _ delay wait due =>
    constructor
    · intro deferred
      cases deferred
    · rintro ⟨-, w, found, waits⟩
      exact absurd waits (due w found)

variable {p after : PassState} {keys : List String}

/-- Every policy has the place in the queue of some number of failures. -/
def Paced (settings : Settings) (c : Controller) : Prop :=
  c.settings = settings ∧ ∀ key, ∃ failures, PlaceAfter settings failures (c.queue.find? key)

theorem Visited.paced {p' : PassState} (visited : Visited here p key p')
    (paced : p.controller.Paced settings) : p'.controller.Paced settings := by
  obtain ⟨same, places⟩ := paced
  refine ⟨visited.settings_eq.trans same, ?_⟩
  intro other
  by_cases here : other = key
  · obtain ⟨failures, place⟩ := places key
    have turn := visited.turn
    rw [same] at turn
    exact ⟨_, here ▸ turn.placeAfter place⟩
  · rw [visited.find?_of_ne here]
    exact places other

theorem exists_visit (fits : NeverOverflows settings) (paced : p.controller.Paced settings)
    (jitter : IsJitter (here.factor key)) : ∃ p', visit here p key = some p' := by
  by_cases waits : p.controller.isWaiting here.now key
  · exact ⟨_, visit_eq_some_iff.2 (.deferred waits)⟩
  · cases result : p.store.reconcile (here.time key) key with
    | ok both => exact ⟨_, visit_eq_some_iff.2 (.settled waits result)⟩
    | error e =>
      obtain ⟨same, places⟩ := paced
      obtain ⟨failures, place⟩ := places key
      obtain ⟨delay, delayed⟩ := fits.delays failures
      obtain ⟨wait, waited⟩ := fits.waits _ delay delayed _ jitter
      change Backoff.next? settings (after? settings failures) = some delay at delayed
      rw [← place.delay_eq, ← same] at delayed
      obtain ⟨c, requeued⟩ : ∃ c, p.controller.requeue here.now (here.factor key) key = some c :=
        ⟨_, requeue_eq_some_iff.2 ⟨delay, wait, delayed, waited, rfl⟩⟩
      exact ⟨_, visit_eq_some_iff.2 (.failed waits result requeued)⟩

theorem exists_visits (fits : NeverOverflows settings) (paced : p.controller.Paced settings)
    (jitters : ∀ key, IsJitter (here.factor key)) : ∃ after, keys.foldlM (visit here) p = some after := by
  induction keys generalizing p with
  | nil => exact ⟨p, rfl⟩
  | cons key keys ih =>
    obtain ⟨next, visited⟩ := exists_visit fits paced (jitters key)
    obtain ⟨after, rest⟩ := ih ((visit_eq_some_iff.1 visited).paced paced)
    exact ⟨after, Option.bind_eq_some_iff.2 ⟨next, visited, rest⟩⟩

namespace Service

variable {r r' : Service}

/-- Every policy has the place in the queue of the failures that the history tells. -/
structure Sound (settings : Settings) (r : Service) : Prop where
  reachable : r.store.Reachable
  settings_eq : r.controller.settings = settings
  places : ∀ key,
    PlaceAfter settings (failuresSince key r.history) (r.controller.queue.find? key)

theorem Sound.failures_eq (sound : r.Sound settings) {w : Waiting}
    (queued : r.controller.queue.find? key = some w) : w.failures = failuresSince key r.history := by
  have place := (sound.places key).failures_eq
  rwa [queued] at place

theorem Sound.delay_eq (sound : r.Sound settings) {w : Waiting}
    (queued : r.controller.queue.find? key = some w) : after? settings w.failures = some w.delay := by
  have place := (sound.places key).delay_eq
  rw [queued] at place
  rw [sound.failures_eq queued]
  exact place.symm

theorem sound_start (settings : Settings) : (start settings).Sound settings :=
  ⟨.empty, rfl, fun _ => .none⟩

theorem Sound.exists_pass (sound : r.Sound settings) (fits : NeverOverflows settings)
    (jitters : ∀ key, IsJitter (here.factor key)) : ∃ p, r.controller.pass here r.store = some p := by
  have paced : (r.controller.passStart r.store).controller.Paced settings := by
    refine ⟨sound.settings_eq, ?_⟩
    intro key
    change ∃ failures, PlaceAfter settings failures ((r.controller.queue.filterKeys _).find? key)
    rw [Table.find?_filterKeys]
    split
    case isTrue => exact ⟨_, sound.places key⟩
    case isFalse => exact ⟨0, .none⟩
  exact exists_visits fits paced jitters

theorem Sound.perform_pass (sound : r.Sound settings) (passed : r.controller.pass here r.store = some p) :
    r.perform (.pass here) =
        some ⟨p.controller, p.store, r.history ++ [r.controller.passFates here r.store]⟩ ∧
      Sound settings ⟨p.controller, p.store, r.history ++ [r.controller.passFates here r.store]⟩ := by
  have performed : r.perform (.pass here) =
      some ⟨p.controller, p.store, r.history ++ [r.controller.passFates here r.store]⟩ := by
    simp only [perform, passed, Option.map_some]
  have settings_eq : p.controller.settings = r.controller.settings := by
    rw [pass_eq_foldlM] at passed
    exact settings_of_visits passed
  refine ⟨performed, sound.reachable.pass passed, settings_eq.trans sound.settings_eq, ?_⟩
  intro key
  have turn := (turn_of_pass sound.reachable passed key).1
  rw [sound.settings_eq] at turn
  rw [failuresSince_append]
  exact turn.placeAfter (sound.places key)

theorem Sound.step (sound : r.Sound settings) (fits : NeverOverflows settings) {step : Step}
    (jitters : step.Jitters) : ∃ r', r.perform step = some r' ∧ r'.Sound settings := by
  cases step with
  | act a => exact ⟨_, rfl, sound.reachable.perform a, sound.settings_eq, sound.places⟩
  | pass here =>
    obtain ⟨p, passed⟩ := sound.exists_pass fits jitters
    exact ⟨_, sound.perform_pass passed⟩

theorem Sound.run (sound : r.Sound settings) (fits : NeverOverflows settings) {steps : List Step}
    (jitters : ∀ step ∈ steps, step.Jitters) : ∃ r', r.run steps = some r' ∧ r'.Sound settings := by
  induction steps generalizing r with
  | nil => exact ⟨r, rfl, sound⟩
  | cons step steps ih =>
    obtain ⟨first, rest⟩ := List.forall_mem_cons.1 jitters
    obtain ⟨next, performed, sound'⟩ := sound.step fits first
    obtain ⟨r', ran, sound''⟩ := ih sound' rest
    exact ⟨r', Option.bind_eq_some_iff.2 ⟨next, performed, ran⟩, sound''⟩

/-- How a pass adds up: its summary, the stored policies that it left alone, and the queue after it. -/
structure Accounted (settings : Settings) (before : Service) (here : Circumstances)
    (fates : List (String × Fate)) (p : PassState) : Prop where
  policies : fates.map (·.1) = before.store.policyList.map Policy.key
  summary : p.summary = .ofFates (fates.map (·.2))
  total : p.summary.written + p.summary.unchanged + p.summary.skipped + p.summary.failed +
    p.summary.deferred = before.store.policyList.length
  deferred_iff : ∀ key, fates.lookup key = some .deferred ↔ (before.store.policy? key).isSome ∧
    ∃ w, before.controller.queue.find? key = some w ∧ here.now.nanoseconds < w.due.nanoseconds
  undisturbed : ∀ key q, fates.lookup key = some .deferred → before.store.policy? key = some q →
    p.store.policy? key = some q ∧
      p.store.binding? q.ns q.bindingName = before.store.binding? q.ns q.bindingName
  queued_iff : ∀ key, (p.controller.queue.find? key).isSome ↔
    fates.lookup key = some .deferred ∨ fates.lookup key = some .failed
  due : ∀ key w, p.controller.queue.find? key = some w → here.now.nanoseconds < w.due.nanoseconds
  failures : ∀ key w, p.controller.queue.find? key = some w →
    w.failures = failuresSince key (before.history ++ [fates])
  delay : ∀ key w, p.controller.queue.find? key = some w → after? settings w.failures = some w.delay
  afresh : ∀ key w, p.controller.queue.find? key = some w → fates.lookup key = some .failed →
    failuresSince key before.history = 0 → Backoff.next? settings none = some w.delay

theorem Sound.accounted {before : Service} (sound : before.Sound settings)
    (jitters : ∀ key, IsJitter (here.factor key))
    (passed : before.controller.pass here before.store = some p) :
    Accounted settings before here (before.controller.passFates here before.store) p := by
  have keyed := sound.reachable.keyed
  have turns := turn_of_pass sound.reachable passed
  have visited := passed
  rw [pass_eq_foldlM] at visited
  have after := (sound.perform_pass passed).2
  have keys := map_fst_fates visited
  have summary : p.summary = .ofFates ((before.controller.passFates here before.store).map (·.2)) := by
    rw [← PassSummary.foldl_tally]
    exact summary_eq_foldl visited
  refine ⟨keys, summary, ?_, ?_, ?_, ?_, ?_, ?_, ?_, ?_⟩
  · have counted := PassSummary.total_ofFates
      ((before.controller.passFates here before.store).map (·.2))
    rw [← summary, List.length_map, ← List.length_map (·.1)] at counted
    exact counted.trans ((congrArg List.length keys).trans (List.length_map _))
  · intro key
    rw [(turns key).1.deferred_iff, ← mem_policyKeys_iff keyed, ← keys, ← lookup_ne_none_iff]
    rfl
  · intro key q deferred stored
    have same := (turns key).2 deferred
    have own : q.key = key := keyed.policies _ _ stored
    refine ⟨same.policy.trans stored, ?_⟩
    rw [Store.binding?, Store.binding?, q.bindingKey_eq, own]
    exact same.binding
  · intro key
    exact (turns key).1.isSome_iff
  · intro key w queued
    exact (turns key).1.due_later (jitters key) queued
  · intro key w queued
    exact after.failures_eq queued
  · intro key w queued
    exact after.delay_eq queued
  · intro key w queued failed none
    have first := after.failures_eq queued
    rw [failuresSince_append, failed, none] at first
    have delayed := after.delay_eq queued
    rw [first] at delayed
    exact delayed

/-- Whatever is done to the store between the passes, no pass is cut short, and each of them leaves in the
queue exactly the policies that it deferred and those that failed in it. Every place there tells how often
its policy failed since it last did not, and waits out the delay of that many failures. -/
theorem queue_after_run (fits : NeverOverflows settings) (steps : List Step)
    (within : ∀ step ∈ steps, step.Jitters) (here : Circumstances)
    (jitters : ∀ key, IsJitter (here.factor key)) :
    ∃ before p, (start settings).run steps = some before ∧
      before.controller.pass here before.store = some p ∧
      Accounted settings before here (before.controller.passFates here before.store) p := by
  obtain ⟨before, ran, sound⟩ := (sound_start settings).run fits within
  obtain ⟨p, passed⟩ := sound.exists_pass fits jitters
  exact ⟨before, p, ran, passed, sound.accounted jitters passed⟩

/-- A policy that cannot be placed is tried once, and put off half a second. -/
def failedOnce : List Step := [.act (.write (.putPolicy Store.lost)), .pass Store.firstPass]

/-- A second later. -/
def secondPass : Circumstances := ⟨.ofSeconds 1, .ofNat 2, fun _ => .ofNat 1⟩

theorem queue_after_run_failedOnce : NeverOverflows .default ∧
    (∀ step ∈ failedOnce, step.Jitters) ∧ (∀ key, IsJitter (secondPass.factor key)) ∧
    ∃ before p w, (start .default).run failedOnce = some before ∧
      before.controller.pass secondPass before.store = some p ∧
      p.controller.queue.find? Store.lost.key = some w ∧
      w.failures = 2 ∧ after? .default 2 = some w.delay ∧
      secondPass.now.nanoseconds < w.due.nanoseconds := by
  have fits : NeverOverflows .default := Backoff.neverOverflows_of_maxBackoff (by decide)
  have one : IsJitter (.ofNat 1) := by
    unfold IsJitter
    decide +kernel
  have within : ∀ step ∈ failedOnce, step.Jitters := by
    refine List.forall_mem_cons.2 ⟨trivial, List.forall_mem_singleton.2 ?_⟩
    exact fun _ => one
  obtain ⟨before, p, ran, passed, accounted⟩ :=
    queue_after_run fits failedOnce within secondPass fun _ => one
  have twice : (((start .default).run failedOnce).bind fun before =>
      (before.controller.pass secondPass before.store).bind fun p =>
        (p.controller.queue.find? Store.lost.key).map (·.failures)) = some 2 := by decide +kernel
  rw [ran, Option.bind_some, passed, Option.bind_some] at twice
  obtain ⟨w, queued, failures⟩ := Option.map_eq_some_iff.1 twice
  refine ⟨fits, within, fun _ => one, before, p, w, ran, passed, queued, failures, ?_, ?_⟩
  · rw [← failures]
    exact accounted.delay _ _ queued
  · exact accounted.due _ _ queued

end Service

end Controller

end ClusterPlacement
