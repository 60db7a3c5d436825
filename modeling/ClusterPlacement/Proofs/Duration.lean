import ClusterPlacement.Duration
import ClusterPlacement.Proofs.Binary64.Order
/-! Spans of time as numbers of seconds and back. Both ways keep the order closely enough to carry bounds,
whatever is rounded on the way. -/

namespace ClusterPlacement

open Binary64 (AtLeast AtMost nearestMagnitude nearestMagnitude_mono unitsOf unitsPerOne unitsPerOne_pos)

variable {d d' : Duration} {x : Binary64} {n m : Nat}

namespace Duration

/-- The part of a span's seconds that is not whole seconds, before it is added to them. -/
def fraction (d : Duration) : Binary64 :=
  (Binary64.ofNat d.subsecondNanoseconds).div (.ofNat nanosecondsPerSecond)

/-- The units that the seconds of a span are rounded from. -/
def exactUnits (d : Duration) : Nat := (Binary64.ofNat d.wholeSeconds).units + d.fraction.units

theorem magnitude_toSeconds (d : Duration) : d.toSeconds.magnitude = nearestMagnitude d.exactUnits 1 :=
  Binary64.magnitude_ofMagnitude (Binary64.nearestMagnitude_le_infinite _ _)

theorem isNaN_toSeconds (d : Duration) : d.toSeconds.isNaN = false :=
  Binary64.isNaN_ofMagnitude (Binary64.nearestMagnitude_le_infinite _ _)

theorem atLeast_toSeconds (le : m ≤ d.toSeconds.magnitude) : AtLeast m d.toSeconds := by
  rw [magnitude_toSeconds] at le
  exact .ofMagnitude le (Binary64.nearestMagnitude_le_infinite _ _)

theorem units_fraction (d : Duration) : d.fraction.units =
    unitsOf (nearestMagnitude ((Binary64.ofNat d.subsecondNanoseconds).units * unitsPerOne)
      (Binary64.ofNat nanosecondsPerSecond).units) := by
  have finite : (Binary64.ofNat nanosecondsPerSecond).isFinite := by decide +kernel
  have nonzero : (Binary64.ofNat nanosecondsPerSecond).units ≠ 0 := by decide +kernel
  have small : d.subsecondNanoseconds ≤ nanosecondsPerSecond := (Nat.mod_lt _ (by decide)).le
  rw [fraction, Binary64.div_of_isFinite (Binary64.isFinite_ofNat_of_le finite small) finite nonzero,
    Binary64.isNegative_ofNat, Binary64.isNegative_ofNat]
  exact congrArg unitsOf (Binary64.magnitude_ofMagnitude (Binary64.nearestMagnitude_le_infinite _ _))

theorem units_fraction_mono (le : d.subsecondNanoseconds ≤ d'.subsecondNanoseconds) :
    d.fraction.units ≤ d'.fraction.units := by
  have positive : 0 < (Binary64.ofNat nanosecondsPerSecond).units := by decide +kernel
  rw [units_fraction, units_fraction]
  refine Binary64.unitsOf_mono (nearestMagnitude_mono positive positive ?_)
  exact Nat.mul_le_mul_right _ (Nat.mul_le_mul_right _ (Binary64.units_ofNat_mono le))

theorem magnitude_toSeconds_le (le : d.exactUnits ≤ d'.exactUnits) :
    d.toSeconds.magnitude ≤ d'.toSeconds.magnitude := by
  rw [magnitude_toSeconds, magnitude_toSeconds]
  exact nearestMagnitude_mono Nat.one_pos Nat.one_pos (Nat.mul_le_mul_right _ le)

/-- A fraction of a second is rounded to a second at most. -/
theorem units_fraction_le (d : Duration) : d.fraction.units ≤ (Binary64.ofNat 1).units := by
  have positive : 0 < (Binary64.ofNat nanosecondsPerSecond).units := by decide +kernel
  have second : unitsOf (nearestMagnitude
      ((Binary64.ofNat nanosecondsPerSecond).units * unitsPerOne)
      (Binary64.ofNat nanosecondsPerSecond).units) = (Binary64.ofNat 1).units := by decide +kernel
  have small : d.subsecondNanoseconds ≤ nanosecondsPerSecond := (Nat.mod_lt _ (by decide)).le
  rw [units_fraction, ← second]
  refine Binary64.unitsOf_mono (nearestMagnitude_mono positive positive ?_)
  exact Nat.mul_le_mul_right _ (Nat.mul_le_mul_right _ (Binary64.units_ofNat_mono small))

theorem subsecondNanoseconds_of_short (short : d.wholeSeconds = 0) :
    d.subsecondNanoseconds = d.nanoseconds := by
  have split := Nat.div_add_mod d.nanoseconds nanosecondsPerSecond
  change d.nanoseconds / nanosecondsPerSecond = 0 at short
  rw [short] at split
  change d.nanoseconds % nanosecondsPerSecond = _
  omega

/-- A span shorter than a second never comes out longer than one that it is not longer than. -/
theorem magnitude_toSeconds_mono (short : d.wholeSeconds = 0) (le : d.nanoseconds ≤ d'.nanoseconds) :
    d.toSeconds.magnitude ≤ d'.toSeconds.magnitude := by
  refine magnitude_toSeconds_le ?_
  rw [exactUnits, exactUnits, short]
  by_cases short' : d'.wholeSeconds = 0
  · rw [short']
    refine Nat.add_le_add_left (units_fraction_mono ?_) _
    rwa [subsecondNanoseconds_of_short short, subsecondNanoseconds_of_short short']
  · have zero : (Binary64.ofNat 0).units = 0 := by decide +kernel
    have whole := Binary64.units_ofNat_mono (Nat.one_le_iff_ne_zero.2 short')
    rw [zero, Nat.zero_add]
    exact d.units_fraction_le.trans (whole.trans (Nat.le_add_right _ _))

theorem toSeconds_atMost (le : d.wholeSeconds ≤ n) :
    AtMost (nearestMagnitude ((Binary64.ofNat n).units + (Binary64.ofNat 1).units) 1) d.toSeconds := by
  refine .ofMagnitude ?_ (Binary64.nearestMagnitude_le_infinite _ _)
  refine nearestMagnitude_mono Nat.one_pos Nat.one_pos (Nat.mul_le_mul_right _ ?_)
  exact Nat.add_le_add (Binary64.units_ofNat_mono le) d.units_fraction_le

theorem le_max_left (d d' : Duration) : d.nanoseconds ≤ (d.max d').nanoseconds := by
  unfold Duration.max
  split
  case isTrue le => exact le
  case isFalse => exact Nat.le_refl _

theorem le_max_right (d d' : Duration) : d'.nanoseconds ≤ (d.max d').nanoseconds := by
  unfold Duration.max
  split
  case isTrue => exact Nat.le_refl _
  case isFalse longer => exact (Nat.lt_of_not_le longer).le

theorem ofBinary64?_eq_some (converted : ofBinary64? x = some d) :
    x.isFinite ∧ d = ⟨Binary64.divideToEven (x.units * nanosecondsPerSecond) unitsPerOne⟩ := by
  unfold ofBinary64? at converted
  split at converted
  case isTrue inRange =>
    simp only [Bool.and_eq_true] at inRange
    exact ⟨inRange.1.1, (Option.some.inj converted).symm⟩
  case isFalse => cases converted

/-- More seconds make no shorter span. -/
theorem ofBinary64?_mono {y : Binary64} (converted : ofBinary64? x = some d)
    (converted' : ofBinary64? y = some d') (le : x.magnitude ≤ y.magnitude) :
    d.nanoseconds ≤ d'.nanoseconds := by
  obtain ⟨-, rfl⟩ := ofBinary64?_eq_some converted
  obtain ⟨-, rfl⟩ := ofBinary64?_eq_some converted'
  refine Binary64.divideToEven_mono unitsPerOne_pos unitsPerOne_pos (Nat.mul_le_mul_right _ ?_)
  exact Nat.mul_le_mul_right _ (Binary64.unitsOf_mono le)

/-- Nanoseconds that a magnitude of seconds comes to at least. -/
theorem le_of_ofBinary64? (atLeast : AtLeast m x) (positive : 0 < m)
    (enough : n * unitsPerOne ≤ unitsOf m * nanosecondsPerSecond)
    (converted : ofBinary64? x = some d) : n ≤ d.nanoseconds := by
  obtain ⟨-, rfl⟩ := ofBinary64?_eq_some converted
  refine Binary64.le_divideToEven unitsPerOne_pos (enough.trans (Nat.mul_le_mul_right _ ?_))
  exact Binary64.unitsOf_mono (atLeast.positive positive).2

/-- Nanoseconds that a magnitude of seconds comes to at most. -/
theorem ofBinary64?_le (atMost : AtMost m x) (plain : x.isNegative = false)
    (enough : unitsOf m * nanosecondsPerSecond ≤ n * unitsPerOne)
    (converted : ofBinary64? x = some d) : d.nanoseconds ≤ n := by
  obtain ⟨-, rfl⟩ := ofBinary64?_eq_some converted
  refine Binary64.divideToEven_le unitsPerOne_pos (le_trans (Nat.mul_le_mul_right _ ?_) enough)
  exact Binary64.unitsOf_mono (atMost.magnitude_le plain)

theorem lt_secondsLimit_iff (number : x.isNaN = false) (plain : x.isNegative = false) :
    x.lt (.ofNat secondsLimit) ↔ x.magnitude < (Binary64.ofNat secondsLimit).magnitude := by
  have limit : (Binary64.ofNat secondsLimit).orderKey = (Binary64.ofNat secondsLimit).magnitude := by
    decide +kernel
  have number' : (Binary64.ofNat secondsLimit).isNaN = false := by decide +kernel
  simp only [Binary64.lt, Binary64.orderKey_of_plain plain, limit, number, number', Bool.not_false,
    Bool.true_and, decide_eq_true_eq, Int.ofNat_lt]

/-- Of the numbers without a minus sign those below the limit have a span. -/
theorem exists_ofBinary64?_iff (number : x.isNaN = false) (plain : x.isNegative = false) :
    (∃ d, ofBinary64? x = some d) ↔ x.lt (.ofNat secondsLimit) := by
  constructor
  · rintro ⟨d, converted⟩
    unfold ofBinary64? at converted
    split at converted
    case isTrue inRange =>
      simp only [Bool.and_eq_true] at inRange
      exact inRange.2
    case isFalse => cases converted
  · intro below
    have finite : x.isFinite := by
      have range : (Binary64.ofNat secondsLimit).magnitude ≤ Binary64.infiniteMagnitude := by
        decide +kernel
      have small := (lt_secondsLimit_iff number plain).1 below
      exact decide_eq_true (small.trans_le range)
    refine ⟨_, if_pos ?_⟩
    simp only [finite, Binary64.not_lt_zero plain, below, Bool.not_false, Bool.and_self]

theorem exists_ofBinary64? (atMost : AtMost m x) (plain : x.isNegative = false)
    (small : m < (Binary64.ofNat secondsLimit).magnitude) : ∃ d, ofBinary64? x = some d := by
  rw [exists_ofBinary64?_iff atMost.number plain, lt_secondsLimit_iff atMost.number plain]
  exact (atMost.magnitude_le plain).trans_lt small

theorem lt_secondsLimit (atLeast : AtLeast m x) (positive : 0 < m) (converted : ofBinary64? x = some d) :
    m < (Binary64.ofNat secondsLimit).magnitude := by
  obtain ⟨plain, above⟩ := atLeast.positive positive
  have below := (exists_ofBinary64?_iff atLeast.number plain).1 ⟨d, converted⟩
  exact above.trans_lt ((lt_secondsLimit_iff atLeast.number plain).1 below)

/-- A number of seconds that is none of a span only because it is too large. -/
structure TooLong (x : Binary64) : Prop where
  number : x.isNaN = false
  notBelow : x.lt (.ofNat 0) = false
  notAbove : ¬x.lt (.ofNat secondsLimit)

theorem ofBinary64?_eq_none_iff (number : x.isNaN = false) (plain : x.isNegative = false) :
    ofBinary64? x = none ↔ TooLong x := by
  rw [Option.eq_none_iff_forall_ne_some, ← not_exists, exists_ofBinary64?_iff number plain]
  exact ⟨fun long => ⟨number, Binary64.not_lt_zero plain, long⟩, fun long => long.notAbove⟩

end Duration

end ClusterPlacement
