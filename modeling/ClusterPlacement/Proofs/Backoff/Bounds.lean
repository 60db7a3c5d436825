import ClusterPlacement.Backoff
import ClusterPlacement.Proofs.Duration
/-! How short and how long a wait can be. No delay is shorter than the shortest one, whatever the settings
are, and a random factor leaves half of it at least; so a policy that fails is never due at once. Above, the
delays and what random factors make of them stay within what a span can be told up to, unless the settings
allow for more than two thirds of that. -/

namespace ClusterPlacement

open Binary64 (AtLeast AtMost)

variable {s : Settings} {d wait : Duration} {previous : Option Duration} {factor : Binary64}

namespace Backoff

def half : Binary64 := .ofRatio false 1 2

def threeHalves : Binary64 := .ofRatio false 3 2

/-- The random factors that there can be, from a half up to one and a half. -/
def IsJitter (factor : Binary64) : Prop := ¬factor.lt half ∧ factor.lt threeHalves

theorem atLeast_firstSeconds (s : Settings) :
    AtLeast shortest.toSeconds.magnitude (firstSeconds s) := by
  refine Duration.atLeast_toSeconds (Duration.magnitude_toSeconds_mono (by decide) ?_)
  exact Duration.le_max_right _ _

theorem atLeast_lastSeconds (s : Settings) : AtLeast shortest.toSeconds.magnitude (lastSeconds s) :=
  (atLeast_firstSeconds s).max s.maxBackoff.isNaN_toSeconds

/-- The seconds of the next delay before they are brought between the first and the last one. -/
def grownSeconds (s : Settings) : Option Duration → Binary64
  | none => firstSeconds s
  | some d => d.toSeconds.mul s.backoffMultiplier

theorem nextSeconds_eq (s : Settings) (previous : Option Duration) :
    nextSeconds s previous =
      if (grownSeconds s previous).isNaN then lastSeconds s
      else (grownSeconds s previous).clamp (firstSeconds s) (lastSeconds s) := by
  cases previous <;> rfl

theorem atLeast_nextSeconds (s : Settings) (previous : Option Duration) :
    AtLeast shortest.toSeconds.magnitude (nextSeconds s previous) := by
  rw [nextSeconds_eq]
  split
  case isTrue => exact atLeast_lastSeconds s
  case isFalse number =>
    exact (atLeast_firstSeconds s).clamp (atLeast_lastSeconds s) (Bool.eq_false_iff.2 number)

theorem shortest_le_next? (delayed : next? s previous = some d) :
    shortest.nanoseconds ≤ d.nanoseconds :=
  Duration.le_of_ofBinary64? (atLeast_nextSeconds s previous) (by decide +kernel) (by decide +kernel)
    delayed

/-- The largest random factor is the number right below one and a half. -/
def largestFactorMagnitude : Nat := threeHalves.magnitude - 1

theorem IsJitter.atMost_largest (jitter : IsJitter factor) :
    AtMost largestFactorMagnitude factor := by
  have below := jitter.2
  simp only [Binary64.lt, Bool.and_eq_true, Bool.not_eq_true', decide_eq_true_eq] at below
  have whole : threeHalves.orderKey = (largestFactorMagnitude : Int) + 1 := by decide +kernel
  exact ⟨below.1.1, by omega⟩

theorem IsJitter.atLeast_half (jitter : IsJitter factor) : AtLeast half.magnitude factor := by
  have exact : AtLeast half.magnitude half := .ofMagnitude (by decide +kernel) (by decide +kernel)
  exact exact.of_not_lt jitter.atMost_largest.number jitter.1

/-- A wait is never shorter than half the shortest delay. -/
theorem half_shortest_le_jittered? (delayed : shortest.nanoseconds ≤ d.nanoseconds)
    (jitter : IsJitter factor) (waits : jittered? d factor = some wait) :
    5000000 ≤ wait.nanoseconds := by
  have finite := (Duration.ofBinary64?_eq_some waits).1
  have seconds := Duration.atLeast_toSeconds (Duration.magnitude_toSeconds_mono (by decide) delayed)
  have product := seconds.mul jitter.atLeast_half (by decide +kernel) (by decide +kernel) finite
  exact Duration.le_of_ofBinary64? product (by decide +kernel) (by decide +kernel) waits

/-- The delay after so many failures in a row; before the first one there is none. -/
def after? (s : Settings) : Nat → Option Duration
  | 0 => none
  | failures + 1 => next? s (after? s failures)

/-- Settings under which every delay, and whatever a random factor makes of it, can be told as a span. -/
structure NeverOverflows (s : Settings) : Prop where
  delays : ∀ failures, ∃ d, after? s (failures + 1) = some d
  waits : ∀ failures d, after? s failures = some d →
    ∀ factor, IsJitter factor → ∃ wait, jittered? d factor = some wait

/-- The longest delay that can be set so that it can still be told after it was rounded, and with the
largest random factor. -/
def longestMax : Nat := 12297829382473034751

def longestMaxMagnitude : Nat := (Binary64.ofNat longestMax).magnitude

theorem toSeconds_atMost_longestMax
    (short : d.nanoseconds ≤ longestMax * Duration.nanosecondsPerSecond) :
    AtMost longestMaxMagnitude d.toSeconds := by
  have whole : d.wholeSeconds ≤ longestMax :=
    Nat.div_le_of_le_mul (short.trans_eq (Nat.mul_comm _ _))
  have same : Binary64.nearestMagnitude
      ((Binary64.ofNat longestMax).units + (Binary64.ofNat 1).units) 1 = longestMaxMagnitude := by
    decide +kernel
  exact same ▸ Duration.toSeconds_atMost whole

theorem firstSeconds_atMost (s : Settings) : AtMost longestMaxMagnitude (firstSeconds s) := by
  refine toSeconds_atMost_longestMax ?_
  have milliseconds := s.initialBackoffMilliseconds.toNat_lt
  unfold Duration.max
  split
  case isTrue => decide
  case isFalse =>
    simp only [Settings.initialBackoff, Duration.ofMilliseconds, longestMax,
      Duration.nanosecondsPerSecond]
    omega

theorem nextSeconds_atMost (bounded : s.maxBackoffSeconds.toNat ≤ longestMax)
    (previous : Option Duration) : AtMost longestMaxMagnitude (nextSeconds s previous) := by
  have first := firstSeconds_atMost s
  have last : AtMost longestMaxMagnitude (lastSeconds s) := by
    refine (toSeconds_atMost_longestMax ?_).max first
    exact Nat.mul_le_mul_right _ bounded
  rw [nextSeconds_eq]
  split
  case isTrue => exact last
  case isFalse number => exact first.clamp last (Bool.eq_false_iff.2 number)

theorem exists_jittered? (short : d.nanoseconds ≤ longestMax * Duration.nanosecondsPerSecond)
    (jitter : IsJitter factor) : ∃ wait, jittered? d factor = some wait := by
  have seconds := toSeconds_atMost_longestMax short
  have most := jitter.atMost_largest
  have plain : d.toSeconds.isNegative = false :=
    Binary64.isNegative_ofMagnitude (Binary64.nearestMagnitude_le_infinite _ _)
  have plain' := (jitter.atLeast_half.positive (by decide +kernel)).1
  obtain ⟨product, plain''⟩ := seconds.mul most plain plain'
    (seconds.isFinite plain (by decide +kernel)) (most.isFinite plain' (by decide +kernel))
  exact Duration.exists_ofBinary64? product plain'' (by decide +kernel)

theorem isNegative_nextSeconds (s : Settings) (previous : Option Duration) :
    (nextSeconds s previous).isNegative = false :=
  ((atLeast_nextSeconds s previous).positive (by decide +kernel)).1

theorem exists_next? (bounded : s.maxBackoffSeconds.toNat ≤ longestMax) (previous : Option Duration) :
    ∃ d, next? s previous = some d :=
  Duration.exists_ofBinary64? (nextSeconds_atMost bounded _) (isNegative_nextSeconds _ _)
    (by decide +kernel)

theorem exists_jittered?_of_next? (bounded : s.maxBackoffSeconds.toNat ≤ longestMax)
    (delayed : next? s previous = some d) (jitter : IsJitter factor) :
    ∃ wait, jittered? d factor = some wait := by
  refine exists_jittered? ?_ jitter
  exact Duration.ofBinary64?_le (nextSeconds_atMost bounded _) (isNegative_nextSeconds _ _)
    (by decide +kernel) delayed

/-- As long as the largest delay leaves room for the random factors, nothing overflows. -/
theorem neverOverflows_of_maxBackoff (bounded : s.maxBackoffSeconds.toNat ≤ longestMax) :
    NeverOverflows s where
  delays failures := exists_next? bounded _
  waits failures d delayed factor jitter := by
    cases failures with
    | zero => cases delayed
    | succ failures => exact exists_jittered?_of_next? bounded delayed jitter

end Backoff

end ClusterPlacement
