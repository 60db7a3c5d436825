import ClusterPlacement.Proofs.Binary64.Rounding
/-! Lower and upper bounds of numbers by the magnitudes they are rounded to. -/

namespace ClusterPlacement.Binary64

variable {m m' k n n' : Nat} {x y low high : Binary64}

theorem toNat_bits_ofMagnitude (bound : m ≤ infiniteMagnitude) :
    (ofMagnitude false m).bits.toNat = m := by
  have small : m < UInt64.size := Nat.lt_of_le_of_lt bound (by decide)
  simp only [ofMagnitude, Bool.false_eq_true, if_false, Nat.zero_add]
  exact UInt64.toNat_ofNat_of_lt' small

theorem magnitude_ofMagnitude (bound : m ≤ infiniteMagnitude) : (ofMagnitude false m).magnitude = m := by
  rw [magnitude, toNat_bits_ofMagnitude bound]
  exact Nat.mod_eq_of_lt (Nat.lt_of_le_of_lt bound (by decide))

theorem isNegative_ofMagnitude (bound : m ≤ infiniteMagnitude) :
    (ofMagnitude false m).isNegative = false := by
  rw [isNegative, toNat_bits_ofMagnitude bound, decide_eq_false_iff_not, Nat.not_le]
  exact Nat.lt_of_le_of_lt bound (by decide)

theorem ofMagnitude_magnitude (unsigned : x.isNegative = false) : ofMagnitude false x.magnitude = x := by
  rw [isNegative, decide_eq_false_iff_not, Nat.not_le] at unsigned
  obtain ⟨bits⟩ := x
  rw [ofMagnitude, magnitude, Nat.mod_eq_of_lt unsigned, if_neg (by decide), Nat.zero_add, UInt64.ofNat_toNat]

theorem isNaN_ofMagnitude (bound : m ≤ infiniteMagnitude) : (ofMagnitude false m).isNaN = false := by
  rw [isNaN, magnitude_ofMagnitude bound, decide_eq_false_iff_not]
  exact Nat.not_lt.2 bound

theorem orderKey_of_plain (plain : x.isNegative = false) : x.orderKey = x.magnitude := by
  rw [orderKey, plain]
  rfl

theorem not_lt_zero (plain : x.isNegative = false) : x.lt (.ofNat 0) = false := by
  have zero : (Binary64.ofNat 0).orderKey = 0 := by decide +kernel
  simp only [lt, orderKey_of_plain plain, zero, Bool.and_eq_false_iff, decide_eq_false_iff_not]
  omega

/-- A number that is not below the one of a magnitude. -/
structure AtLeast (m : Nat) (x : Binary64) : Prop where
  number : x.isNaN = false
  above : (m : Int) ≤ x.orderKey

theorem AtLeast.ofMagnitude (le : m ≤ m') (bound : m' ≤ infiniteMagnitude) :
    AtLeast m (ofMagnitude false m') := by
  refine ⟨isNaN_ofMagnitude bound, ?_⟩
  rw [orderKey, isNegative_ofMagnitude bound, magnitude_ofMagnitude bound]
  exact Int.ofNat_le.2 le

theorem AtLeast.positive (atLeast : AtLeast m x) (positive : 0 < m) :
    x.isNegative = false ∧ m ≤ x.magnitude := by
  have above := atLeast.above
  unfold orderKey at above
  split at above
  case isTrue => omega
  case isFalse plain => exact ⟨Bool.eq_false_iff.2 plain, Int.ofNat_le.1 above⟩

theorem AtLeast.of_not_lt (atLeast : AtLeast m y) (number : x.isNaN = false) (notBelow : ¬x.lt y) :
    AtLeast m x := by
  refine ⟨number, atLeast.above.trans ?_⟩
  simpa [lt, number, atLeast.number] using notBelow

theorem AtLeast.max (atLeast : AtLeast m y) (number : x.isNaN = false) : AtLeast m (x.max y) := by
  unfold Binary64.max
  split
  case isTrue => exact atLeast
  case isFalse notBelow => exact atLeast.of_not_lt number notBelow

theorem AtLeast.max_left (atLeast : AtLeast m x) (number : y.isNaN = false) : AtLeast m (x.max y) := by
  unfold Binary64.max
  split
  case isTrue below =>
    simp only [lt, Bool.and_eq_true, decide_eq_true_eq] at below
    exact ⟨number, atLeast.above.trans below.2.le⟩
  case isFalse => exact atLeast

theorem AtLeast.clamp (low' : AtLeast m low) (high' : AtLeast m high) (number : x.isNaN = false) :
    AtLeast m (x.clamp low high) := by
  unfold Binary64.clamp
  split
  case isTrue => exact low'
  case isFalse notBelow =>
    split
    case isTrue => exact high'
    case isFalse => exact low'.of_not_lt number notBelow

/-- A number that is not above the one of a magnitude. -/
structure AtMost (m : Nat) (x : Binary64) : Prop where
  number : x.isNaN = false
  below : x.orderKey ≤ (m : Int)

theorem AtMost.ofMagnitude (le : m' ≤ m) (bound : m' ≤ infiniteMagnitude) :
    AtMost m (ofMagnitude false m') := by
  refine ⟨isNaN_ofMagnitude bound, ?_⟩
  rw [orderKey, isNegative_ofMagnitude bound, magnitude_ofMagnitude bound]
  exact Int.ofNat_le.2 le

theorem AtMost.magnitude_le (atMost : AtMost m x) (plain : x.isNegative = false) : x.magnitude ≤ m := by
  have below := atMost.below
  rw [orderKey, plain] at below
  exact Int.ofNat_le.1 below

theorem AtMost.max (left : AtMost m x) (right : AtMost m y) : AtMost m (x.max y) := by
  unfold Binary64.max
  split
  case isTrue => exact right
  case isFalse => exact left

theorem AtMost.clamp (low' : AtMost m low) (high' : AtMost m high) (number : x.isNaN = false) :
    AtMost m (x.clamp low high) := by
  unfold Binary64.clamp
  split
  case isTrue => exact low'
  case isFalse =>
    split
    case isTrue => exact high'
    case isFalse notAbove =>
      refine ⟨number, le_trans ?_ high'.below⟩
      simpa [lt, number, high'.number] using notAbove

theorem isFinite_infinity (negative : Bool) : (infinity negative).isFinite = false := by
  cases negative <;> rfl

theorem isFinite_of_mul (finite : (x.mul y).isFinite) : x.isFinite ∧ y.isFinite := by
  unfold mul at finite
  split at finite
  case isTrue => cases finite
  case isFalse numbers =>
    split at finite
    case isTrue =>
      split at finite
      case isTrue => cases finite
      case isFalse => rw [isFinite_infinity] at finite; cases finite
    case isFalse bounded =>
      simp only [isNaN, isInfinite, isFinite, Bool.or_eq_true, decide_eq_true_eq, not_or] at *
      omega

theorem ordinary_of_isFinite (finite : x.isFinite) (finite' : y.isFinite) :
    (x.isNaN || y.isNaN) = false ∧ x.isInfinite = false ∧ y.isInfinite = false := by
  simp only [isFinite, isNaN, isInfinite, Bool.or_eq_false_iff, decide_eq_true_eq,
    decide_eq_false_iff_not] at *
  omega

theorem mul_of_isFinite (finite : x.isFinite) (finite' : y.isFinite) :
    x.mul y = .ofMagnitude (x.isNegative != y.isNegative)
      (nearestMagnitude (x.units * y.units) unitsPerOne) := by
  obtain ⟨number, bounded, bounded'⟩ := ordinary_of_isFinite finite finite'
  simp only [mul, number, bounded, bounded', Bool.or_self, Bool.false_eq_true, if_false]

theorem div_of_isFinite (finite : x.isFinite) (finite' : y.isFinite) (nonzero : y.units ≠ 0) :
    x.div y = .ofMagnitude (x.isNegative != y.isNegative)
      (nearestMagnitude (x.units * unitsPerOne) y.units) := by
  obtain ⟨number, bounded, bounded'⟩ := ordinary_of_isFinite finite finite'
  simp only [div, number, bounded, bounded', nonzero, Bool.false_eq_true, if_false]

theorem unitsPerOne_pos : 0 < unitsPerOne := by
  unfold unitsPerOne
  exact shiftLeft_pos Nat.one_pos 1074

theorem AtLeast.mul (atLeast : AtLeast m x) (atLeast' : AtLeast k y) (positive : 0 < m)
    (positive' : 0 < k) (finite : (x.mul y).isFinite) :
    AtLeast (nearestMagnitude (unitsOf m * unitsOf k) unitsPerOne) (x.mul y) := by
  obtain ⟨plain, above⟩ := atLeast.positive positive
  obtain ⟨plain', above'⟩ := atLeast'.positive positive'
  obtain ⟨finite, finite'⟩ := isFinite_of_mul finite
  rw [mul_of_isFinite finite finite', plain, plain']
  refine AtLeast.ofMagnitude ?_ (nearestMagnitude_le_infinite _ _)
  refine nearestMagnitude_mono unitsPerOne_pos unitsPerOne_pos (Nat.mul_le_mul_right _ ?_)
  exact Nat.mul_le_mul (unitsOf_mono above) (unitsOf_mono above')

theorem AtMost.mul (atMost : AtMost m x) (atMost' : AtMost k y) (plain : x.isNegative = false)
    (plain' : y.isNegative = false) (finite : x.isFinite) (finite' : y.isFinite) :
    AtMost (nearestMagnitude (unitsOf m * unitsOf k) unitsPerOne) (x.mul y) ∧
      (x.mul y).isNegative = false := by
  rw [mul_of_isFinite finite finite', plain, plain']
  refine ⟨AtMost.ofMagnitude ?_ (nearestMagnitude_le_infinite _ _),
    isNegative_ofMagnitude (nearestMagnitude_le_infinite _ _)⟩
  refine nearestMagnitude_mono unitsPerOne_pos unitsPerOne_pos (Nat.mul_le_mul_right _ ?_)
  exact Nat.mul_le_mul (unitsOf_mono (atMost.magnitude_le plain))
    (unitsOf_mono (atMost'.magnitude_le plain'))

theorem AtMost.isFinite (atMost : AtMost m x) (plain : x.isNegative = false)
    (small : m < infiniteMagnitude) : x.isFinite :=
  decide_eq_true (Nat.lt_of_le_of_lt (atMost.magnitude_le plain) small)

theorem isNegative_ofNat (n : Nat) : (ofNat n).isNegative = false :=
  isNegative_ofMagnitude (nearestMagnitude_le_infinite _ _)

theorem magnitude_ofNat_mono (le : n ≤ n') : (ofNat n).magnitude ≤ (ofNat n').magnitude := by
  rw [ofNat, ofNat, ofRatio, ofRatio, magnitude_ofMagnitude (nearestMagnitude_le_infinite _ _),
    magnitude_ofMagnitude (nearestMagnitude_le_infinite _ _)]
  exact nearestMagnitude_mono Nat.one_pos Nat.one_pos
    (Nat.mul_le_mul_right _ (Nat.mul_le_mul_right _ le))

theorem units_ofNat_mono (le : n ≤ n') : (ofNat n).units ≤ (ofNat n').units :=
  unitsOf_mono (magnitude_ofNat_mono le)

theorem isFinite_ofNat_of_le (finite : (ofNat n').isFinite) (le : n ≤ n') : (ofNat n).isFinite := by
  simp only [isFinite, decide_eq_true_eq] at *
  exact Nat.lt_of_le_of_lt (magnitude_ofNat_mono le) finite

end ClusterPlacement.Binary64
