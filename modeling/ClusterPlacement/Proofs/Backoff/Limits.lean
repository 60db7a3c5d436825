import ClusterPlacement.Proofs.Backoff.Bounds
import ClusterPlacement.Proofs.Binary64.Accuracy
/-! The limits of a delay, and how far they hold for delays that are counted in binary64 seconds. A span of
up to 2^22 seconds comes back from its seconds to the nanosecond, and one of whole seconds does below 2^53;
beyond that rounding can carry the first delay below its limit and the last one above it. -/

namespace ClusterPlacement

open Binary64 (AtLeast AtMost Near nearestMagnitude nearestMagnitude_mono unitsOf unitsPerOne
  unitsPerOne_pos)

variable {d d' : Duration} {n m : Nat} {x : Binary64}

namespace Duration

theorem isNegative_toSeconds (d : Duration) : d.toSeconds.isNegative = false :=
  Binary64.isNegative_ofMagnitude (Binary64.nearestMagnitude_le_infinite _ _)

theorem units_toSeconds (d : Duration) : d.toSeconds.units = unitsOf (nearestMagnitude d.exactUnits 1) := by
  rw [Binary64.units, magnitude_toSeconds]

/-- A span of a moderate number of seconds can be told again. -/
theorem exists_ofBinary64?_toSeconds (short : d.wholeSeconds ≤ Backoff.longestMax) :
    ∃ d', ofBinary64? d.toSeconds = some d' := by
  refine exists_ofBinary64? (toSeconds_atMost short) d.isNegative_toSeconds ?_
  decide +kernel

theorem near_fraction (d : Duration) :
    Near ((d.subsecondNanoseconds : ℚ) / nanosecondsPerSecond) (d.fraction.units / unitsPerOne) := by
  have small : d.subsecondNanoseconds < nanosecondsPerSecond := Nat.mod_lt _ (by decide)
  have dividend : (Binary64.ofNat d.subsecondNanoseconds).units = d.subsecondNanoseconds * unitsPerOne :=
    Binary64.units_ofNat (small.trans (by decide))
  have divisor : (Binary64.ofNat nanosecondsPerSecond).units = nanosecondsPerSecond * unitsPerOne :=
    Binary64.units_ofNat (by decide)
  have positive : 0 < nanosecondsPerSecond * unitsPerOne := Nat.mul_pos (by decide) unitsPerOne_pos
  have normal : d.subsecondNanoseconds * unitsPerOne * unitsPerOne = 0 ∨
      Binary64.binade * (nanosecondsPerSecond * unitsPerOne) ≤
        d.subsecondNanoseconds * unitsPerOne * unitsPerOne := by
    rcases Nat.eq_zero_or_pos d.subsecondNanoseconds with zero | some
    · left
      rw [zero, Nat.zero_mul, Nat.zero_mul]
    · right
      have scale : Binary64.binade * nanosecondsPerSecond ≤ unitsPerOne := by decide +kernel
      calc Binary64.binade * (nanosecondsPerSecond * unitsPerOne)
          = Binary64.binade * nanosecondsPerSecond * unitsPerOne := (Nat.mul_assoc _ _ _).symm
        _ ≤ d.subsecondNanoseconds * unitsPerOne * unitsPerOne :=
          Nat.mul_le_mul_right _ (scale.trans (Nat.le_mul_of_pos_left _ some))
  have finite : nearestMagnitude (d.subsecondNanoseconds * unitsPerOne * unitsPerOne)
      (nanosecondsPerSecond * unitsPerOne) < Binary64.infiniteMagnitude := by
    have second : nearestMagnitude (nanosecondsPerSecond * unitsPerOne * unitsPerOne)
        (nanosecondsPerSecond * unitsPerOne) < Binary64.infiniteMagnitude := by decide +kernel
    refine lt_of_le_of_lt (nearestMagnitude_mono positive positive ?_) second
    exact Nat.mul_le_mul_right _ (Nat.mul_le_mul_right _ (Nat.mul_le_mul_right _ small.le))
  have near := (Binary64.near_nearestMagnitude positive normal finite).div
    Binary64.unitsPerOne_cast_pos
  rw [units_fraction, dividend, divisor]
  have same : (d.subsecondNanoseconds : ℚ) / nanosecondsPerSecond =
      ((d.subsecondNanoseconds * unitsPerOne * unitsPerOne : ℕ) : ℚ) /
        ((nanosecondsPerSecond * unitsPerOne : ℕ) : ℚ) / unitsPerOne := by
    have := Binary64.unitsPerOne_cast_pos.ne'
    push_cast
    field_simp
  rwa [same]

/-- The seconds of a span are zero or far above the smallest normal number. -/
theorem normal_exactUnits (d : Duration) : d.exactUnits = 0 ∨ Binary64.binade * 1 ≤ d.exactUnits := by
  have near := d.near_fraction
  have unit := Binary64.unitsPerOne_cast_pos
  rcases Nat.eq_zero_or_pos d.wholeSeconds with none | some
  · have zero : (Binary64.ofNat 0).units = 0 := by decide +kernel
    rw [exactUnits, none, zero, Nat.zero_add]
    rcases Nat.eq_zero_or_pos d.subsecondNanoseconds with nothing | more
    · left
      have below := near.below
      rw [nothing, Nat.cast_zero, zero_div, zero_mul, div_le_iff₀ unit, zero_mul] at below
      exact_mod_cast le_antisymm below (Nat.cast_nonneg _)
    · right
      have large : (2 : ℚ) ^ 52 * (2 * nanosecondsPerSecond) ≤ unitsPerOne := by
        have scale : 2 ^ 52 * (2 * nanosecondsPerSecond) ≤ unitsPerOne := by decide +kernel
        exact_mod_cast scale
      have above := near.above
      rw [le_div_iff₀ unit] at above
      have least : (1 : ℚ) / nanosecondsPerSecond * (1 / 2) ≤
          (d.subsecondNanoseconds : ℚ) / nanosecondsPerSecond * (1 - Binary64.roundoff) := by
        have one : (1 : ℚ) ≤ d.subsecondNanoseconds := by exact_mod_cast more
        have second : (0 : ℚ) < nanosecondsPerSecond := by norm_num [nanosecondsPerSecond]
        refine mul_le_mul (div_le_div_of_nonneg_right one second.le) ?_ (by norm_num) (by positivity)
        norm_num [Binary64.roundoff]
      have enough : (2 : ℚ) ^ 52 ≤ d.fraction.units := by
        refine le_trans ?_ ((mul_le_mul_of_nonneg_right least unit.le).trans above)
        have second : (0 : ℚ) < nanosecondsPerSecond := by norm_num [nanosecondsPerSecond]
        rw [div_mul_div_comm, one_mul, div_mul_eq_mul_div, one_mul,
          le_div_iff₀ (mul_pos second two_pos), mul_comm (nanosecondsPerSecond : ℚ)]
        exact large
      rw [Nat.mul_one]
      exact_mod_cast enough
  · right
    have second : (Binary64.ofNat 1).units ≤ (Binary64.ofNat d.wholeSeconds).units :=
      Binary64.units_ofNat_mono some
    have scale : Binary64.binade * 1 ≤ (Binary64.ofNat 1).units := by decide +kernel
    exact scale.trans (second.trans (Nat.le_add_right _ _))

/-- Up to this many seconds a span comes back from its seconds to the nanosecond. -/
def exactSeconds : Nat := 4194304

/-- The errors of the two roundings come to less than half a nanosecond. -/
theorem close_of_near {whole part part' total : ℚ} (near : Near part part')
    (near' : Near (whole + part') total) (below : part < 1)
    (short : whole ≤ exactSeconds) :
    |total - (whole + part)| < 1 / (2 * nanosecondsPerSecond) := by
  obtain ⟨above, under⟩ := near
  obtain ⟨above', under'⟩ := near'
  norm_num [Binary64.roundoff, exactSeconds, nanosecondsPerSecond] at *
  rw [abs_lt]
  constructor <;> linarith

theorem near_toSeconds (short : d.wholeSeconds ≤ exactSeconds) :
    Near (d.wholeSeconds + d.fraction.units / unitsPerOne) (d.toSeconds.units / unitsPerOne) := by
  have whole : (Binary64.ofNat d.wholeSeconds).units = d.wholeSeconds * unitsPerOne :=
    Binary64.units_ofNat (lt_of_le_of_lt short (by decide))
  have finite : nearestMagnitude d.exactUnits 1 < Binary64.infiniteMagnitude := by
    have top : nearestMagnitude ((Binary64.ofNat exactSeconds).units + (Binary64.ofNat 1).units) 1 <
        Binary64.infiniteMagnitude := by decide +kernel
    have bound := (toSeconds_atMost short).magnitude_le d.isNegative_toSeconds
    rw [magnitude_toSeconds] at bound
    exact lt_of_le_of_lt bound top
  have unit := Binary64.unitsPerOne_cast_pos
  have sum := (Binary64.near_nearestMagnitude Nat.one_pos d.normal_exactUnits finite).div unit
  rwa [Nat.cast_one, div_one, ← units_toSeconds, exactUnits, whole, Nat.cast_add, Nat.cast_mul,
    add_div, mul_div_cancel_right₀ _ unit.ne'] at sum

theorem ofBinary64?_toSeconds (short : d.wholeSeconds ≤ exactSeconds) :
    ofBinary64? d.toSeconds = some d := by
  have range : exactSeconds ≤ Backoff.longestMax := by decide
  obtain ⟨d', converted⟩ := exists_ofBinary64?_toSeconds (short.trans range)
  have value := (ofBinary64?_eq_some converted).2
  have second : (0 : ℚ) < nanosecondsPerSecond := by norm_num [nanosecondsPerSecond]
  have unit := Binary64.unitsPerOne_cast_pos
  have inside : (d.subsecondNanoseconds : ℚ) / nanosecondsPerSecond < 1 := by
    have small : d.subsecondNanoseconds < nanosecondsPerSecond := Nat.mod_lt _ (by decide)
    rw [div_lt_one second]
    exact_mod_cast small
  have close := close_of_near d.near_fraction (near_toSeconds short) inside (by exact_mod_cast short)
  have split : (d.wholeSeconds : ℚ) + d.subsecondNanoseconds / nanosecondsPerSecond =
      d.nanoseconds / nanosecondsPerSecond := by
    have parts : d.wholeSeconds * nanosecondsPerSecond + d.subsecondNanoseconds = d.nanoseconds := by
      rw [Nat.mul_comm]
      exact Nat.div_add_mod _ _
    rw [← parts]
    push_cast
    field_simp
  rw [split] at close
  have scaled : |2 * ((d.toSeconds.units : ℚ) * nanosecondsPerSecond) - 2 * d.nanoseconds * unitsPerOne| <
      unitsPerOne := by
    have positive : (0 : ℚ) < 2 * nanosecondsPerSecond * unitsPerOne := by positivity
    calc |2 * ((d.toSeconds.units : ℚ) * nanosecondsPerSecond) - 2 * d.nanoseconds * unitsPerOne|
        = |(d.toSeconds.units : ℚ) / unitsPerOne - d.nanoseconds / nanosecondsPerSecond| *
            (2 * nanosecondsPerSecond * unitsPerOne) := by
          conv_rhs => rw [← abs_of_pos positive, ← abs_mul]
          congr 1
          field_simp
      _ < 1 / (2 * nanosecondsPerSecond) * (2 * nanosecondsPerSecond * unitsPerOne) :=
          mul_lt_mul_of_pos_right close positive
      _ = unitsPerOne := by field_simp
  obtain ⟨lower, upper⟩ := abs_lt.1 scaled
  have below : 2 * (d.toSeconds.units * nanosecondsPerSecond) < (2 * d.nanoseconds + 1) * unitsPerOne := by
    have cast : (2 : ℚ) * (d.toSeconds.units * nanosecondsPerSecond) <
        (2 * d.nanoseconds + 1) * unitsPerOne := by linarith
    exact_mod_cast cast
  have above : 2 * d.nanoseconds * unitsPerOne <
      2 * (d.toSeconds.units * nanosecondsPerSecond) + unitsPerOne := by
    have cast : (2 : ℚ) * d.nanoseconds * unitsPerOne <
        2 * (d.toSeconds.units * nanosecondsPerSecond) + unitsPerOne := by linarith
    exact_mod_cast cast
  rw [converted, value, Binary64.divideToEven_eq unitsPerOne_pos below above]

/-- Whole seconds come back from binary64 as long as they have no more than 53 binary digits. -/
theorem ofBinary64?_toSeconds_ofSeconds (small : n < 2 * Binary64.binade) :
    ofBinary64? (ofSeconds n).toSeconds = some (ofSeconds n) := by
  have positive : 0 < nanosecondsPerSecond := by decide
  have whole : (ofSeconds n).wholeSeconds = n := Nat.mul_div_cancel n positive
  have rest : (ofSeconds n).subsecondNanoseconds = 0 := Nat.mul_mod_left n _
  have zero : (Binary64.ofNat 0).units = 0 := by decide +kernel
  have nothing : (ofSeconds n).fraction.units = 0 := by
    have divisor : 0 < (Binary64.ofNat nanosecondsPerSecond).units := by decide +kernel
    rw [units_fraction, rest, zero, Nat.zero_mul, Binary64.nearestMagnitude_zero divisor]
    rfl
  have units : (ofSeconds n).toSeconds.units = n * unitsPerOne := by
    rw [units_toSeconds, exactUnits, whole, nothing, Nat.add_zero, Binary64.units_ofNat small]
    have number := Binary64.units_ofNat small
    rwa [Binary64.ofNat, Binary64.ofRatio, Binary64.units,
      Binary64.magnitude_ofMagnitude (Binary64.nearestMagnitude_le_infinite _ _)] at number
  have range : 2 * Binary64.binade ≤ Backoff.longestMax := by decide
  obtain ⟨d, converted⟩ := exists_ofBinary64?_toSeconds (whole.trans_le (small.le.trans range))
  have value := (ofBinary64?_eq_some converted).2
  rw [converted, value, units, Nat.mul_right_comm, Binary64.divideToEven_mul unitsPerOne_pos, ofSeconds]

/-- Seconds are not fewer than the whole ones, rounded. -/
theorem atLeast_toSeconds_of_wholeSeconds (le : n ≤ d.wholeSeconds) :
    AtLeast (nearestMagnitude (Binary64.ofNat n).units 1) d.toSeconds := by
  refine atLeast_toSeconds ?_
  rw [magnitude_toSeconds]
  refine nearestMagnitude_mono Nat.one_pos Nat.one_pos (Nat.mul_le_mul_right _ ?_)
  exact (Binary64.units_ofNat_mono le).trans (Nat.le_add_right _ _)

end Duration

namespace Backoff

variable {s : Settings} {previous : Option Duration} {factor : Binary64}

/-- The shortest delay that the settings allow. -/
def least (s : Settings) : Duration := s.initialBackoff.max shortest

/-- The longest delay that the settings allow. -/
def greatest (s : Settings) : Duration := s.maxBackoff.max (least s)

def Within (s : Settings) (d : Duration) : Prop :=
  (least s).nanoseconds ≤ d.nanoseconds ∧ d.nanoseconds ≤ (greatest s).nanoseconds

/-- Settings whose limits outlive their rounding: the longest delay leaves room for the random factors,
and the first and the last delay, told in seconds, do not come back beyond the limits. -/
structure Tellable (s : Settings) : Prop where
  room : s.maxBackoffSeconds.toNat ≤ longestMax
  first : ∃ d, Duration.ofBinary64? (firstSeconds s) = some d ∧ (least s).nanoseconds ≤ d.nanoseconds
  last : ∃ d, Duration.ofBinary64? (lastSeconds s) = some d ∧ d.nanoseconds ≤ (greatest s).nanoseconds

theorem isNegative_firstSeconds (s : Settings) : (firstSeconds s).isNegative = false :=
  Duration.isNegative_toSeconds _

theorem atLeast_first (s : Settings) : AtLeast (firstSeconds s).magnitude (firstSeconds s) :=
  Duration.atLeast_toSeconds (Nat.le_refl _)

theorem first_le_lastSeconds (s : Settings) : AtLeast (firstSeconds s).magnitude (lastSeconds s) :=
  (atLeast_first s).max s.maxBackoff.isNaN_toSeconds

theorem magnitude_firstSeconds_pos (s : Settings) : 0 < (firstSeconds s).magnitude := by
  have least := ((atLeast_firstSeconds s).positive (by decide +kernel)).2
  have some : 0 < shortest.toSeconds.magnitude := by decide +kernel
  exact some.trans_le least

theorem isNegative_lastSeconds (s : Settings) : (lastSeconds s).isNegative = false :=
  ((first_le_lastSeconds s).positive (magnitude_firstSeconds_pos s)).1

theorem atMost_last (s : Settings) : AtMost (lastSeconds s).magnitude (lastSeconds s) :=
  ⟨(first_le_lastSeconds s).number, (Binary64.orderKey_of_plain (isNegative_lastSeconds s)).le⟩

theorem atMost_first (s : Settings) : AtMost (lastSeconds s).magnitude (firstSeconds s) := by
  refine ⟨(atLeast_first s).number, ?_⟩
  rw [Binary64.orderKey_of_plain (isNegative_firstSeconds s)]
  exact Int.ofNat_le.2 ((first_le_lastSeconds s).positive (magnitude_firstSeconds_pos s)).2

theorem magnitude_nextSeconds (s : Settings) (previous : Option Duration) :
    (firstSeconds s).magnitude ≤ (nextSeconds s previous).magnitude ∧
      (nextSeconds s previous).magnitude ≤ (lastSeconds s).magnitude := by
  have positive := magnitude_firstSeconds_pos s
  rw [nextSeconds_eq]
  split
  case isTrue => exact ⟨((first_le_lastSeconds s).positive positive).2, Nat.le_refl _⟩
  case isFalse number =>
    have number' := Bool.eq_false_iff.2 number
    obtain ⟨plain, above⟩ :=
      ((atLeast_first s).clamp (first_le_lastSeconds s) number').positive positive
    exact ⟨above, ((atMost_first s).clamp (atMost_last s) number').magnitude_le plain⟩

theorem Tellable.within (tellable : Tellable s) (delayed : next? s previous = some d) : Within s d := by
  obtain ⟨low, first, atLeast⟩ := tellable.first
  obtain ⟨high, last, atMost⟩ := tellable.last
  obtain ⟨above, below⟩ := magnitude_nextSeconds s previous
  exact ⟨atLeast.trans (Duration.ofBinary64?_mono first delayed above),
    (Duration.ofBinary64?_mono delayed last below).trans atMost⟩

theorem lastSeconds_atMost (s : Settings) :
    AtMost (Binary64.ofNat Duration.secondsLimit).magnitude (lastSeconds s) := by
  have first := firstSeconds_atMost s
  have whole : s.maxBackoff.wholeSeconds ≤ UInt64.size - 1 := by
    have word := s.maxBackoffSeconds.toNat_lt_size
    rw [Duration.wholeSeconds, Settings.maxBackoff, Duration.ofSeconds,
      Nat.mul_div_cancel _ (by decide)]
    omega
  have same : nearestMagnitude
      ((Binary64.ofNat (UInt64.size - 1)).units + (Binary64.ofNat 1).units) 1 =
        (Binary64.ofNat Duration.secondsLimit).magnitude := by decide +kernel
  refine (same ▸ Duration.toSeconds_atMost whole).max ⟨first.number, first.below.trans ?_⟩
  decide +kernel

/-- What a random factor makes of a delay is a number without a minus sign. -/
theorem number_product (delayed : next? s previous = some d) (jitter : IsJitter factor) :
    (d.toSeconds.mul factor).isNaN = false ∧ (d.toSeconds.mul factor).isNegative = false := by
  have seconds : AtMost (Binary64.ofNat Duration.secondsLimit).magnitude (nextSeconds s previous) := by
    refine ⟨(atLeast_nextSeconds s previous).number, ?_⟩
    rw [Binary64.orderKey_of_plain (isNegative_nextSeconds s previous)]
    refine (Int.ofNat_le.2 (magnitude_nextSeconds s previous).2).trans ?_
    have last := (lastSeconds_atMost s).below
    rwa [Binary64.orderKey_of_plain (isNegative_lastSeconds s)] at last
  have short : d.nanoseconds ≤ Duration.secondsLimit * Duration.nanosecondsPerSecond :=
    Duration.ofBinary64?_le seconds (isNegative_nextSeconds s previous) (by decide +kernel) delayed
  have whole : d.wholeSeconds ≤ Duration.secondsLimit :=
    Nat.div_le_of_le_mul (short.trans_eq (Nat.mul_comm _ _))
  have most := Duration.toSeconds_atMost whole
  have plain := (jitter.atLeast_half.positive (by decide +kernel)).1
  obtain ⟨product, plain'⟩ := most.mul jitter.atMost_largest d.isNegative_toSeconds plain
    (most.isFinite d.isNegative_toSeconds (by decide +kernel))
    (jitter.atMost_largest.isFinite plain (by decide +kernel))
  exact ⟨product.number, plain'⟩

/-- Up to 2^22 seconds for the first delay and below 2^53 for the last one, nothing is lost. -/
theorem tellable_of_exact (initial : s.initialBackoffMilliseconds.toNat ≤ Duration.exactSeconds * 1000)
    (last : s.maxBackoffSeconds.toNat < 2 * Binary64.binade) : Tellable s := by
  have short : (least s).wholeSeconds ≤ Duration.exactSeconds := by
    refine Nat.div_le_of_le_mul ?_
    unfold least Duration.max
    split
    case isTrue => decide
    case isFalse =>
      simp only [Settings.initialBackoff, Duration.ofMilliseconds, Duration.nanosecondsPerSecond]
      omega
  have told : Duration.ofBinary64? (firstSeconds s) = some (least s) :=
    Duration.ofBinary64?_toSeconds short
  refine ⟨?_, ⟨_, told, Nat.le_refl _⟩, ?_⟩
  · have range : 2 * Binary64.binade ≤ longestMax := by decide
    exact last.le.trans range
  · unfold lastSeconds Binary64.max
    split
    case isTrue => exact ⟨_, told, Duration.le_max_right _ _⟩
    case isFalse =>
      exact ⟨_, Duration.ofBinary64?_toSeconds_ofSeconds last, Duration.le_max_left _ _⟩

/-- A multiplier that takes every delay past the longest one that can be set. -/
def steep : Binary64 := .ofNat 0x100000000000000000000

def withMultiplier (s : Settings) (m : Binary64) : Settings := { s with backoffMultiplier := m }

theorem firstSeconds_withMultiplier (s : Settings) (m : Binary64) :
    firstSeconds (withMultiplier s m) = firstSeconds s := rfl

theorem lastSeconds_withMultiplier (s : Settings) (m : Binary64) :
    lastSeconds (withMultiplier s m) = lastSeconds s := rfl

theorem within_withMultiplier (s : Settings) (m : Binary64) (d : Duration) :
    Within (withMultiplier s m) d ↔ Within s d := Iff.rfl

theorem tellable_withMultiplier (s : Settings) (m : Binary64) :
    Tellable (withMultiplier s m) ↔ Tellable s :=
  ⟨fun ⟨room, first, last⟩ => ⟨room, first, last⟩, fun ⟨room, first, last⟩ => ⟨room, first, last⟩⟩

theorem grownSeconds_withMultiplier (s : Settings) (m : Binary64) (d : Duration) :
    grownSeconds (withMultiplier s m) (some d) = d.toSeconds.mul m := rfl

theorem nextSeconds_none (s : Settings) : nextSeconds s none = firstSeconds s := by
  have number : (firstSeconds s).isNaN = false := Duration.isNaN_toSeconds _
  have notBelow : ¬(firstSeconds s).lt (firstSeconds s) := by simp [Binary64.lt]
  have notAbove : ¬(lastSeconds s).lt (firstSeconds s) := by
    have atMost := (first_le_lastSeconds s).above
    simp only [Binary64.lt, Bool.and_eq_true, decide_eq_true_eq, not_and, not_lt]
    rw [Binary64.orderKey_of_plain (isNegative_firstSeconds s)]
    exact fun _ => atMost
  rw [nextSeconds_eq, grownSeconds, if_neg (by simp [number]), Binary64.clamp, if_neg notBelow,
    if_neg notAbove]

theorem next?_none (s : Settings) : next? s none = Duration.ofBinary64? (firstSeconds s) :=
  congrArg Duration.ofBinary64? (nextSeconds_none s)

/-- After the first delay a steep multiplier leads to the last one. -/
theorem next?_steep (delayed : next? s none = some d) :
    next? (withMultiplier s steep) (some d) = Duration.ofBinary64? (lastSeconds s) := by
  have least := Duration.atLeast_toSeconds
    (Duration.magnitude_toSeconds_mono (by decide) (shortest_le_next? delayed))
  have most : AtMost longestMaxMagnitude d.toSeconds := by
    rw [next?_none] at delayed
    refine toSeconds_atMost_longestMax ?_
    exact Duration.ofBinary64?_le (firstSeconds_atMost s) (isNegative_firstSeconds s)
      (by decide +kernel) delayed
  have steepLeast : AtLeast steep.magnitude steep := ⟨by decide +kernel, by decide +kernel⟩
  have steepMost : AtMost steep.magnitude steep := ⟨by decide +kernel, by decide +kernel⟩
  obtain ⟨product, plain⟩ := most.mul steepMost d.isNegative_toSeconds (by decide +kernel)
    (most.isFinite d.isNegative_toSeconds (by decide +kernel)) (by decide +kernel)
  have finite := product.isFinite plain (by decide +kernel)
  have large := least.mul steepLeast (by decide +kernel) (by decide +kernel) finite
  have beyond : (Binary64.ofNat Duration.secondsLimit).magnitude < nearestMagnitude
      (unitsOf shortest.toSeconds.magnitude * unitsOf steep.magnitude) unitsPerOne := by
    decide +kernel
  have above : (lastSeconds s).orderKey < (d.toSeconds.mul steep).orderKey :=
    lt_of_le_of_lt (lastSeconds_atMost s).below
      (lt_of_lt_of_le (Int.ofNat_lt.2 beyond) large.above)
  have last : (lastSeconds s).lt (d.toSeconds.mul steep) := by
    simp only [Binary64.lt, (atMost_last s).number, large.number, above, Bool.not_false,
      Bool.true_and, decide_true]
  have notBelow : ¬(d.toSeconds.mul steep).lt (firstSeconds s) := by
    have order : (firstSeconds s).orderKey ≤ (lastSeconds s).orderKey := by
      rw [Binary64.orderKey_of_plain (isNegative_firstSeconds s)]
      exact (first_le_lastSeconds s).above
    simp only [Binary64.lt, Bool.and_eq_true, decide_eq_true_eq, not_and, not_lt]
    exact fun _ => order.trans above.le
  have number : ¬(d.toSeconds.mul steep).isNaN := by simp [large.number]
  rw [next?, nextSeconds_eq, grownSeconds_withMultiplier, firstSeconds_withMultiplier,
    lastSeconds_withMultiplier, if_neg number, Binary64.clamp, if_neg notBelow, if_pos last]

/-- The number right below one and a half. -/
def largestFactor : Binary64 := .ofMagnitude false largestFactorMagnitude

theorem isJitter_largestFactor : IsJitter largestFactor := by
  unfold IsJitter
  decide +kernel

/-- The longest delay that rounding makes of one that leaves no room, in seconds. -/
def roundedUp : Nat := 12297829382473035776

theorem jittered?_of_no_room (large : longestMax < s.maxBackoffSeconds.toNat)
    (told : Duration.ofBinary64? (lastSeconds s) = some d) : jittered? d largestFactor = none := by
  have whole : s.maxBackoff.wholeSeconds = s.maxBackoffSeconds.toNat :=
    Nat.mul_div_cancel _ (by decide)
  have last : AtLeast (nearestMagnitude (Binary64.ofNat (longestMax + 1)).units 1) (lastSeconds s) :=
    (Duration.atLeast_toSeconds_of_wholeSeconds (whole.symm ▸ large)).max_left
      (atLeast_first s).number
  have long : roundedUp * Duration.nanosecondsPerSecond ≤ d.nanoseconds :=
    Duration.le_of_ofBinary64? last (by decide +kernel) (by decide +kernel) told
  have seconds := Duration.atLeast_toSeconds_of_wholeSeconds
    ((Nat.le_div_iff_mul_le (by decide)).2 long)
  have factor : AtLeast largestFactorMagnitude largestFactor :=
    .ofMagnitude (Nat.le_refl _) (by decide +kernel)
  cases waits : jittered? d largestFactor with
  | none => rfl
  | some wait =>
    have finite := (Duration.ofBinary64?_eq_some waits).1
    have product := seconds.mul factor (by decide +kernel) (by decide +kernel) finite
    exact absurd (Duration.lt_secondsLimit product (by decide +kernel) waits) (by decide +kernel)

end Backoff

end ClusterPlacement
