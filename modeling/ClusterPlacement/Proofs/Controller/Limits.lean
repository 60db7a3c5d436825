import ClusterPlacement.Proofs.Backoff.Limits
import ClusterPlacement.Proofs.Controller.Fates
/-! Failures in a row. A delay is computed from the one before it alone and brought between the first and
the last one each time, so what holds of one failure holds of any number of them. Whether the limits of the
settings are kept is decided by the first and the last delay, and a steep multiplier reaches both. -/

namespace ClusterPlacement.Controller

open Backoff (IsJitter Tellable Within withMultiplier steep largestFactor next? jittered?)

variable {c c' : Controller} {s : Settings} {key : String} {m : Binary64}

/-- What is left of a controller after a policy failed several times in a row, each time at a time of its
own and with a random factor of its own. -/
def failing (c : Controller) (key : String) (failures : List (Duration × Binary64)) :
    Option Controller :=
  failures.foldlM (fun c failure => c.requeue failure.1 failure.2 key) c

theorem failing_cons (c : Controller) (key : String) (failure : Duration × Binary64)
    (later : List (Duration × Binary64)) : c.failing key (failure :: later) =
      (c.requeue failure.1 failure.2 key).bind (·.failing key later) := rfl

theorem failing_singleton (c : Controller) (key : String) (failure : Duration × Binary64) :
    c.failing key [failure] = c.requeue failure.1 failure.2 key := by
  simp [failing]

/-- Whatever the queue holds, a policy can fail any number of times, and then the delay that the controller
tells is within the limits of the settings. -/
def KeepsLimits (s : Settings) : Prop :=
  ∀ (c : Controller) (key : String) (failures : List (Duration × Binary64)), c.settings = s →
    failures ≠ [] → (∀ failure ∈ failures, IsJitter failure.2) →
      ∃ c' d, c.failing key failures = some c' ∧ c'.backoff? key = some d ∧ Within s d

theorem settings_of_requeue {now : Duration} {factor : Binary64}
    (requeued : c.requeue now factor key = some c') : c'.settings = c.settings := by
  obtain ⟨delay, wait, -, -, rfl⟩ := requeue_eq_some_iff.1 requeued
  rfl

theorem backoff?_of_requeue {now : Duration} {factor : Binary64}
    (requeued : c.requeue now factor key = some c') :
    ∃ d wait, next? c.settings (c.backoff? key) = some d ∧ jittered? d factor = some wait ∧
      c'.backoff? key = some d := by
  obtain ⟨d, wait, delayed, waits, rfl⟩ := requeue_eq_some_iff.1 requeued
  refine ⟨d, wait, delayed, waits, ?_⟩
  rw [backoff?, Table.find?_insert, if_pos rfl]
  rfl

theorem exists_requeue_of_next? {d wait : Duration} {factor : Binary64} (now : Duration)
    (delayed : next? c.settings (c.backoff? key) = some d) (waits : jittered? d factor = some wait) :
    ∃ c', c.requeue now factor key = some c' :=
  ⟨_, requeue_eq_some_iff.2 ⟨d, wait, delayed, waits, rfl⟩⟩

/-- Whatever the settings, all that can keep a policy from being put into the queue again is a number of
seconds that is too large, the one of its delay or the one of its wait. -/
theorem requeue_eq_none_iff {factor : Binary64} (now : Duration) (jitter : IsJitter factor)
    (key : String) : c.requeue now factor key = none ↔
      Duration.TooLong (Backoff.nextSeconds c.settings (c.backoff? key)) ∨
      ∃ d, next? c.settings (c.backoff? key) = some d ∧ Duration.TooLong (d.toSeconds.mul factor) := by
  have delay := Duration.ofBinary64?_eq_none_iff
    (Backoff.atLeast_nextSeconds c.settings (c.backoff? key)).number
    (Backoff.isNegative_nextSeconds c.settings (c.backoff? key))
  change next? c.settings (c.backoff? key) = none ↔ _ at delay
  have wait {d : Duration} (delayed : next? c.settings (c.backoff? key) = some d) :
      jittered? d factor = none ↔ Duration.TooLong (d.toSeconds.mul factor) := by
    obtain ⟨number, plain⟩ := Backoff.number_product delayed jitter
    exact Duration.ofBinary64?_eq_none_iff number plain
  rw [← delay]
  constructor
  · intro refused
    cases delayed : next? c.settings (c.backoff? key) with
    | none => exact .inl rfl
    | some d =>
      refine .inr ⟨d, rfl, (wait delayed).1 ?_⟩
      cases waits : jittered? d factor with
      | none => rfl
      | some w =>
        obtain ⟨c', requeued⟩ := exists_requeue_of_next? now delayed waits
        exact absurd (refused.symm.trans requeued) nofun
  · rintro (none | ⟨d, delayed, long⟩)
    all_goals
      rw [Option.eq_none_iff_forall_ne_some]
      intro c' requeued
      obtain ⟨d', w, delayed', waits, -⟩ := backoff?_of_requeue requeued
    · exact absurd (none.symm.trans delayed') nofun
    · obtain rfl := Option.some.inj (delayed.symm.trans delayed')
      exact absurd (((wait delayed).2 long).symm.trans waits) nofun

/-- One more failure is always possible and leads to a delay within the limits. -/
theorem exists_requeue (tellable : Tellable c.settings) (now : Duration) {factor : Binary64}
    (jitter : IsJitter factor) (key : String) :
    ∃ c' d, c.requeue now factor key = some c' ∧ c'.backoff? key = some d ∧ Within c.settings d := by
  obtain ⟨d, delayed⟩ := Backoff.exists_next? tellable.room (c.backoff? key)
  obtain ⟨wait, waits⟩ := Backoff.exists_jittered?_of_next? tellable.room delayed jitter
  obtain ⟨c', requeued⟩ := exists_requeue_of_next? now delayed waits
  obtain ⟨d', _, delayed', -, told⟩ := backoff?_of_requeue requeued
  exact ⟨_, d', requeued, told, tellable.within delayed'⟩

theorem keepsLimits_of_tellable (tellable : Tellable s) : KeepsLimits s := by
  intro c key failures
  induction failures generalizing c with
  | nil => exact fun _ nonempty => absurd rfl nonempty
  | cons failure failures ih =>
    rintro rfl - jitters
    obtain ⟨c₁, d, requeued, told, within⟩ :=
      exists_requeue tellable failure.1 (jitters failure List.mem_cons_self) key
    cases failures with
    | nil => exact ⟨c₁, d, (failing_singleton _ _ _).trans requeued, told, within⟩
    | cons next rest =>
      rw [failing_cons, requeued]
      exact ih c₁ (settings_of_requeue requeued) (List.cons_ne_nil _ _)
        fun later member => jitters later (List.mem_cons_of_mem _ member)

/-- Two failures under a steep multiplier: the first delay and then the last one. -/
theorem tellable_of_keepsLimits (keeps : KeepsLimits (withMultiplier s steep)) : Tellable s := by
  let failure : Duration × Binary64 := (.zero, largestFactor)
  let fresh := new (withMultiplier s steep)
  have jitter : IsJitter failure.2 := Backoff.isJitter_largestFactor
  obtain ⟨c₁, d₁, once, told₁, within₁⟩ :=
    keeps fresh "" [failure] rfl (List.cons_ne_nil _ _) (by simpa using jitter)
  obtain ⟨c₂, d₂, twice, told₂, within₂⟩ :=
    keeps fresh "" [failure, failure] rfl (List.cons_ne_nil _ _) (by simpa using jitter)
  rw [failing_singleton] at once
  rw [failing_cons, once, Option.bind_some, failing_singleton] at twice
  obtain ⟨d, _, first, -, told⟩ := backoff?_of_requeue once
  obtain rfl : d = d₁ := Option.some.inj (told.symm.trans told₁)
  obtain ⟨d', wait, last, waits, told'⟩ := backoff?_of_requeue twice
  obtain rfl : d' = d₂ := Option.some.inj (told'.symm.trans told₂)
  have settings : fresh.settings = withMultiplier s steep := rfl
  have start : fresh.backoff? "" = none := rfl
  rw [settings, start, Backoff.next?_none, Backoff.firstSeconds_withMultiplier] at first
  rw [settings_of_requeue once, settings, told₁, Backoff.next?_steep (Backoff.next?_none s ▸ first)]
    at last
  rw [Backoff.within_withMultiplier] at within₁ within₂
  refine ⟨?_, ⟨d, first, within₁.1⟩, ⟨d', last, within₂.2⟩⟩
  by_contra large
  rw [Backoff.jittered?_of_no_room (Nat.lt_of_not_le large) last] at waits
  cases waits

/-- Nothing but seconds that are too large is refused. The limits are kept for every multiplier, one that is
not a number among them, exactly where they can be told; no more is possible for the multipliers that pass
the check of the settings. Short enough limits can always be told. -/
theorem keepsLimits_iff_tellable (s : Settings) :
    (∀ (c : Controller) (now : Duration) (factor : Binary64) (key : String), c.settings = s →
      IsJitter factor → (c.requeue now factor key = none ↔
        Duration.TooLong (Backoff.nextSeconds s (c.backoff? key)) ∨
        ∃ d, next? s (c.backoff? key) = some d ∧ Duration.TooLong (d.toSeconds.mul factor))) ∧
    ((∀ m, KeepsLimits (withMultiplier s m)) ↔ Tellable s) ∧
    ((∀ m : Binary64, m.isFinite → ¬m.lt (.ofNat 1) → KeepsLimits (withMultiplier s m)) ↔ Tellable s) ∧
    (s.initialBackoffMilliseconds.toNat ≤ Duration.exactSeconds * 1000 →
      s.maxBackoffSeconds.toNat < 2 * Binary64.binade → Tellable s) := by
  have kept (tellable : Tellable s) (m : Binary64) : KeepsLimits (withMultiplier s m) :=
    keepsLimits_of_tellable ((Backoff.tellable_withMultiplier s m).2 tellable)
  refine ⟨?_, ⟨fun keeps => ?_, kept⟩, ⟨fun keeps => ?_, fun tellable m _ _ => kept tellable m⟩,
    Backoff.tellable_of_exact⟩
  · rintro c now factor key rfl jitter
    exact requeue_eq_none_iff now jitter key
  · exact tellable_of_keepsLimits (keeps steep)
  · exact tellable_of_keepsLimits (keeps steep (by decide +kernel) (by decide +kernel))

/-- Settings that allow for delays up to the longest span there is. -/
def roomless : Settings := ⟨30, 500, 0xffffffffffffffff, steep⟩

/-- Settings whose only delay is no binary64 number of seconds. -/
def unroundable : Settings := ⟨30, 9007199254740993000, 9007199254740993, .ofNat 2⟩

/-- Settings that pass the check, and under which the second wait is too long to be told, and others under
which the first delay is a second too short. -/
theorem limits_broken :
    (roomless.error? = none ∧
      (new roomless).failing "default/web" (List.replicate 2 (.zero, .ofNat 1)) = none ∧
      ¬KeepsLimits roomless) ∧
    (unroundable.error? = none ∧
      ((new unroundable).failing "default/web" (List.replicate 1 (.zero, .ofNat 1))).bind
        (·.backoff? "default/web") = some (.ofSeconds 9007199254740992) ∧
      Backoff.least unroundable = .ofSeconds 9007199254740993 ∧ ¬KeepsLimits unroundable) := by
  have one : IsJitter (.ofNat 1) := by
    unfold IsJitter
    decide +kernel
  have steady (n : Nat) : ∀ f ∈ List.replicate n (Duration.zero, Binary64.ofNat 1), IsJitter f.2 :=
    fun f member => List.eq_of_mem_replicate member ▸ one
  have overflow : (new roomless).failing "default/web" (List.replicate 2 (.zero, .ofNat 1)) = none := by
    decide +kernel
  have short : ((new unroundable).failing "default/web" (List.replicate 1 (.zero, .ofNat 1))).bind
      (·.backoff? "default/web") = some (.ofSeconds 9007199254740992) := by
    decide +kernel
  refine ⟨⟨by decide +kernel, overflow, fun keeps => ?_⟩,
    ⟨by decide +kernel, short, by decide +kernel, fun keeps => ?_⟩⟩
  · obtain ⟨c, d, ran, -⟩ := keeps (new roomless) "default/web"
      (List.replicate 2 (.zero, .ofNat 1)) rfl (by simp) (steady 2)
    rw [overflow] at ran
    cases ran
  · obtain ⟨c, d, ran, told, within⟩ := keeps (new unroundable) "default/web"
      (List.replicate 1 (.zero, .ofNat 1)) rfl (by simp) (steady 1)
    rw [ran, Option.bind_some, told] at short
    obtain rfl := Option.some.inj short
    exact absurd within.1 (by decide +kernel)

end ClusterPlacement.Controller
