import ClusterPlacement.Proofs.Binary64.Order
import Mathlib.Data.Rat.Cast.Order
import Mathlib.Tactic.FieldSimp
import Mathlib.Tactic.Linarith
import Mathlib.Tactic.NormNum
import Mathlib.Tactic.Positivity
/-! Relative errors. A quotient that is not below the smallest normal number is off by at most 2^-53 of
itself after it was rounded, and errors of operations in a row multiply. -/

namespace ClusterPlacement.Binary64

variable {n d m shift significand : Nat} {x y : Binary64}

/-- A number between two multiples of the exact one. -/
structure Between (low high exact approx : ℚ) : Prop where
  above : exact * low ≤ approx
  below : approx ≤ exact * high

namespace Between

variable {low high low' high' exact exact' approx approx' : ℚ}

theorem trans (between : Between low high exact approx) (between' : Between low' high' approx approx')
    (nonneg : 0 ≤ low') (nonneg' : 0 ≤ high') :
    Between (low * low') (high * high') exact approx' := by
  constructor
  · calc exact * (low * low') = exact * low * low' := by ring
      _ ≤ approx * low' := mul_le_mul_of_nonneg_right between.above nonneg
      _ ≤ approx' := between'.above
  · calc approx' ≤ approx * high' := between'.below
      _ ≤ exact * high * high' := mul_le_mul_of_nonneg_right between.below nonneg'
      _ = exact * (high * high') := by ring

theorem nonneg (between : Between low high exact approx) (positive : 0 ≤ low) (nonneg : 0 ≤ exact) :
    0 ≤ approx :=
  (mul_nonneg nonneg positive).trans between.above

theorem mul (between : Between low high exact approx) (between' : Between low' high' exact' approx')
    (positive : 0 ≤ low) (positive' : 0 ≤ low') (nonneg : 0 ≤ exact) (nonneg' : 0 ≤ exact') :
    Between (low * low') (high * high') (exact * exact') (approx * approx') := by
  have approx_nonneg := between.nonneg positive nonneg
  have approx_nonneg' := between'.nonneg positive' nonneg'
  constructor
  · calc exact * exact' * (low * low') = exact * low * (exact' * low') := by ring
      _ ≤ approx * approx' :=
        mul_le_mul between.above between'.above (mul_nonneg nonneg' positive') approx_nonneg
  · calc approx * approx' ≤ exact * high * (exact' * high') :=
        mul_le_mul between.below between'.below approx_nonneg' (approx_nonneg.trans between.below)
      _ = exact * exact' * (high * high') := by ring

theorem inv (between : Between low high exact approx) (positive : 0 < low) (positive' : 0 < exact) :
    Between high⁻¹ low⁻¹ exact⁻¹ approx⁻¹ := by
  have least : 0 < exact * low := mul_pos positive' positive
  constructor
  · rw [← mul_inv]
    exact inv_anti₀ (least.trans_le between.above) between.below
  · rw [← mul_inv]
    exact inv_anti₀ least between.above

theorem widen (between : Between low high exact approx) (nonneg : 0 ≤ exact) (le : low' ≤ low)
    (le' : high ≤ high') : Between low' high' exact approx :=
  ⟨(mul_le_mul_of_nonneg_left le nonneg).trans between.above,
    between.below.trans (mul_le_mul_of_nonneg_left le' nonneg)⟩

end Between

/-- The relative error of one rounding, at most: half a unit in the last of 53 places. -/
def roundoff : ℚ := 1 / 2 ^ 53

/-- A number within one rounding of the exact one. -/
def Near (exact approx : ℚ) : Prop := Between (1 - roundoff) (1 + roundoff) exact approx

/-- What a magnitude counts that was put together from a significand and its shift. -/
theorem unitsOf_significand (bound : significand ≤ 2 * binade)
    (normal : 0 < shift → binade ≤ significand) :
    unitsOf (shift * binade + significand) = significand * 2 ^ shift := by
  have positive : 0 < binade := by decide
  rcases Nat.eq_zero_or_pos shift with rfl | shifted
  · rcases Nat.lt_or_eq_of_le bound with small | rfl
    · rw [Nat.zero_mul, Nat.zero_add, unitsOf, if_pos small, Nat.pow_zero, Nat.mul_one]
    · rfl
  · have large := normal shifted
    obtain ⟨fraction, rfl⟩ := Nat.exists_eq_add_of_le large
    have notSmall : ¬shift * binade + (binade + fraction) < 2 * binade := by
      have := Nat.mul_le_mul_right binade shifted
      omega
    have regroup : shift * binade + (binade + fraction) = fraction + (shift + 1) * binade := by ring
    rw [unitsOf, if_neg notSmall, Nat.shiftLeft_eq]
    rcases Nat.lt_or_eq_of_le (show fraction ≤ binade by omega) with inside | rfl
    · rw [regroup, Nat.add_mul_mod_self_right, Nat.mod_eq_of_lt inside,
        Nat.add_mul_div_right _ _ positive, Nat.div_eq_of_lt inside, Nat.zero_add,
        Nat.add_sub_cancel]
    · have carried : shift * binade + (binade + binade) = (shift + 2) * binade := by ring
      rw [carried, Nat.mul_mod_left, Nat.mul_div_cancel _ positive]
      have power : 2 ^ (shift + 2 - 1) = 2 * 2 ^ shift := by
        rw [show shift + 2 - 1 = shift + 1 by omega, Nat.pow_succ, Nat.mul_comm]
      rw [power]
      ring

theorem unitsOf_nearestMagnitude (positive : 0 < d) (finite : nearestMagnitude n d < infiniteMagnitude) :
    unitsOf (nearestMagnitude n d) =
      divideToEven n (d <<< shiftOf n d) * 2 ^ shiftOf n d := by
  have uncut : nearestMagnitude n d =
      shiftOf n d * binade + divideToEven n (d <<< shiftOf n d) := by
    rw [nearestMagnitude_eq] at finite ⊢
    exact min_eq_left (by omega)
  have scaled := shiftLeft_pos positive (shiftOf n d)
  rw [uncut, unitsOf_significand]
  · exact divideToEven_le scaled (lt_of_shiftOf positive).le
  · intro shifted
    exact le_divideToEven scaled (le_of_shiftOf_pos positive shifted)

theorem nearestMagnitude_zero (positive : 0 < d) : nearestMagnitude 0 d = 0 := by
  have unshifted : shiftOf 0 d = 0 := by rw [shiftOf, Nat.zero_div, Nat.log2_zero]
  have none : divideToEven 0 d = 0 := by simpa using divideToEven_mul (q := 0) positive
  rw [nearestMagnitude_eq, unshifted, Nat.shiftLeft_zero, none, Nat.zero_mul]
  exact Nat.zero_min _

/-- A quotient that is zero or not below the smallest normal number is rounded to a near one. -/
theorem near_nearestMagnitude (positive : 0 < d) (normal : n = 0 ∨ binade * d ≤ n)
    (finite : nearestMagnitude n d < infiniteMagnitude) :
    Near ((n : ℚ) / d) (unitsOf (nearestMagnitude n d)) := by
  rcases normal with rfl | normal
  · rw [nearestMagnitude_zero positive]
    have none : unitsOf 0 = 0 := rfl
    constructor <;> simp [none]
  have nearest := nearest_divideToEven (n := n) (shiftLeft_pos positive (shiftOf n d))
  have unitsEq := unitsOf_nearestMagnitude positive finite
  have step : binade * (d <<< shiftOf n d) ≤ n := by
    rcases Nat.eq_zero_or_pos (shiftOf n d) with zero | shifted
    · rw [zero, Nat.shiftLeft_zero]
      exact normal
    · exact le_of_shiftOf_pos positive shifted
  obtain ⟨notBelow, notAbove, _⟩ := nearest
  have product : unitsOf (nearestMagnitude n d) * d =
      divideToEven n (d <<< shiftOf n d) * (d <<< shiftOf n d) := by
    rw [unitsEq, Nat.shiftLeft_eq]
    ring
  generalize unitsOf (nearestMagnitude n d) = result at *
  generalize divideToEven n (d <<< shiftOf n d) = quotient at *
  generalize d <<< shiftOf n d = unit at *
  have positive' : (0 : ℚ) < d := by exact_mod_cast positive
  have product' : (result : ℚ) * d = quotient * unit := by exact_mod_cast product
  have step' : (2 : ℚ) ^ 52 * unit ≤ n := by exact_mod_cast step
  have notBelow' : 2 * (n : ℚ) ≤ (2 * quotient + 1) * unit := by exact_mod_cast notBelow
  have notAbove' : 2 * (quotient : ℚ) * unit ≤ 2 * n + unit := by exact_mod_cast notAbove
  constructor
  · rw [div_mul_eq_mul_div, div_le_iff₀ positive', product', roundoff]
    linarith
  · rw [div_mul_eq_mul_div, le_div_iff₀ positive', product', roundoff]
    linarith

/-- Whole numbers of up to 53 binary digits are not rounded. -/
theorem units_ofNat (small : n < 2 * binade) : (ofNat n).units = n * unitsPerOne := by
  rcases Nat.eq_zero_or_pos n with rfl | positive
  · decide +kernel
  have bounded := nearestMagnitude_le_infinite (n * unitsPerOne) 1
  have finite : nearestMagnitude (n * unitsPerOne) 1 < infiniteMagnitude := by
    have top : nearestMagnitude (2 * binade * unitsPerOne) 1 < infiniteMagnitude := by decide +kernel
    refine lt_of_le_of_lt (nearestMagnitude_mono Nat.one_pos Nat.one_pos ?_) top
    exact Nat.mul_le_mul_right _ (Nat.mul_le_mul_right _ small.le)
  have shift : shiftOf (n * unitsPerOne) 1 ≤ 1074 := by
    have bound : n * unitsPerOne < 2 ^ 1127 := by
      calc n * unitsPerOne < 2 * binade * unitsPerOne := Nat.mul_lt_mul_of_pos_right small unitsPerOne_pos
        _ = 2 ^ 1127 := by decide +kernel
    have nonzero : n * unitsPerOne ≠ 0 := (Nat.mul_pos positive unitsPerOne_pos).ne'
    have log := (Nat.log2_lt nonzero).2 bound
    rw [shiftOf, Nat.div_one]
    omega
  have divides : 2 ^ shiftOf (n * unitsPerOne) 1 ∣ n * unitsPerOne := by
    have unit : 2 ^ 1074 = unitsPerOne := by decide +kernel
    have power := pow_dvd_pow 2 shift
    rw [unit] at power
    exact power.mul_left n
  rw [ofNat, ofRatio, units, magnitude_ofMagnitude bounded, unitsOf_nearestMagnitude Nat.one_pos finite,
    Nat.shiftLeft_eq, Nat.one_mul]
  exact divideToEven_mul_of_dvd (Nat.two_pow_pos _) divides

/-- A finite number without a minus sign. -/
structure Plain (x : Binary64) : Prop where
  finite : x.isFinite
  unsigned : x.isNegative = false

/-- The number that is meant. -/
def value (x : Binary64) : ℚ := x.units / unitsPerOne

theorem value_ofMagnitude (bound : m ≤ infiniteMagnitude) :
    (ofMagnitude false m).value = (unitsOf m : ℚ) / unitsPerOne := by
  rw [value, units, magnitude_ofMagnitude bound]

theorem unitsPerOne_cast_pos : (0 : ℚ) < unitsPerOne := by exact_mod_cast unitsPerOne_pos

theorem Near.div {exact approx scale : ℚ} (near : Near exact approx) (positive : 0 < scale) :
    Near (exact / scale) (approx / scale) := by
  constructor
  · rw [div_mul_eq_mul_div]
    exact div_le_div_of_nonneg_right near.above positive.le
  · rw [div_mul_eq_mul_div]
    exact div_le_div_of_nonneg_right near.below positive.le

theorem Plain.ofMagnitude (small : m < infiniteMagnitude) : Plain (ofMagnitude false m) :=
  ⟨by rw [isFinite, magnitude_ofMagnitude small.le]; exact decide_eq_true small,
    isNegative_ofMagnitude small.le⟩

namespace Plain

theorem magnitude_lt (plain : Plain x) : x.magnitude < infiniteMagnitude :=
  of_decide_eq_true plain.finite

theorem of_le (plain : Plain y) (unsigned : x.isNegative = false)
    (le : x.magnitude ≤ y.magnitude) : Plain x :=
  ⟨decide_eq_true (le.trans_lt plain.magnitude_lt), unsigned⟩

theorem mul_eq (plain : Plain x) (plain' : Plain y) :
    x.mul y = .ofMagnitude false (nearestMagnitude (x.units * y.units) unitsPerOne) := by
  rw [mul_of_isFinite plain.finite plain'.finite, plain.unsigned, plain'.unsigned]
  rfl

theorem div_eq (plain : Plain x) (plain' : Plain y) (nonzero : y.units ≠ 0) :
    x.div y = .ofMagnitude false (nearestMagnitude (x.units * unitsPerOne) y.units) := by
  rw [div_of_isFinite plain.finite plain'.finite nonzero, plain.unsigned, plain'.unsigned]
  rfl

theorem near_mul (plain : Plain x) (plain' : Plain y) (finite : Plain (x.mul y))
    (normal : x.units * y.units = 0 ∨ binade * unitsPerOne ≤ x.units * y.units) :
    Near (x.value * y.value) (x.mul y).value := by
  have bounded := nearestMagnitude_le_infinite (x.units * y.units) unitsPerOne
  have result := finite.magnitude_lt
  rw [plain.mul_eq plain', magnitude_ofMagnitude bounded] at result
  have near := (near_nearestMagnitude unitsPerOne_pos normal result).div unitsPerOne_cast_pos
  rw [plain.mul_eq plain', value_ofMagnitude bounded]
  have same : x.value * y.value = ((x.units * y.units : ℕ) : ℚ) / unitsPerOne / unitsPerOne := by
    rw [value, value, Nat.cast_mul]
    field_simp
  rwa [same]

theorem near_div (plain : Plain x) (plain' : Plain y) (nonzero : y.units ≠ 0)
    (finite : Plain (x.div y))
    (normal : x.units = 0 ∨ binade * y.units ≤ x.units * unitsPerOne) :
    Near (x.value / y.value) (x.div y).value := by
  have bounded := nearestMagnitude_le_infinite (x.units * unitsPerOne) y.units
  have result := finite.magnitude_lt
  rw [plain.div_eq plain' nonzero, magnitude_ofMagnitude bounded] at result
  have normal' : x.units * unitsPerOne = 0 ∨ binade * y.units ≤ x.units * unitsPerOne :=
    normal.imp_left fun zero => by rw [zero, Nat.zero_mul]
  have near := (near_nearestMagnitude (Nat.pos_of_ne_zero nonzero) normal' result).div
    unitsPerOne_cast_pos
  rw [plain.div_eq plain' nonzero, value_ofMagnitude bounded]
  have same : x.value / y.value =
      ((x.units * unitsPerOne : ℕ) : ℚ) / y.units / unitsPerOne := by
    have := unitsPerOne_cast_pos.ne'
    rw [value, value, Nat.cast_mul]
    field_simp
  rwa [same]

theorem magnitude_mul_mono {x' y' : Binary64} (plain : Plain x') (plain' : Plain y')
    (unsigned : x.isNegative = false) (unsigned' : y.isNegative = false)
    (le : x.magnitude ≤ x'.magnitude) (le' : y.magnitude ≤ y'.magnitude) :
    (x.mul y).magnitude ≤ (x'.mul y').magnitude := by
  rw [(plain.of_le unsigned le).mul_eq (plain'.of_le unsigned' le'), plain.mul_eq plain',
    magnitude_ofMagnitude (nearestMagnitude_le_infinite _ _),
    magnitude_ofMagnitude (nearestMagnitude_le_infinite _ _)]
  refine nearestMagnitude_mono unitsPerOne_pos unitsPerOne_pos (Nat.mul_le_mul_right _ ?_)
  exact Nat.mul_le_mul (unitsOf_mono le) (unitsOf_mono le')

end Plain

/-- Quotients grow with the dividend and shrink with the divisor, and are zero over infinity. -/
theorem Plain.div_of_le {x' y' : Binary64} (plain : Plain x') (plain' : Plain y')
    (nonzero : y'.units ≠ 0) (finite : Plain (x'.div y')) (unsigned : x.isNegative = false)
    (unsigned' : y.isNegative = false) (number : y.isNaN = false)
    (le : x.magnitude ≤ x'.magnitude) (le' : y'.magnitude ≤ y.magnitude) :
    Plain (x.div y) ∧ (x.div y).magnitude ≤ (x'.div y').magnitude := by
  have small := plain.of_le unsigned le
  have smaller : (x.div y).isNegative = false ∧
      (x.div y).magnitude ≤ (x'.div y').magnitude := by
    by_cases bounded : y.isInfinite
    · have zero : x.div y = .ofMagnitude false 0 := by
        have := small.magnitude_lt
        simp only [isNaN, isInfinite, decide_eq_false_iff_not, decide_eq_true_eq] at number bounded
        have number' : x.isNaN = false := decide_eq_false (by omega)
        have bounded' : x.isInfinite = false := decide_eq_false (by omega)
        have infinite : y.isInfinite := decide_eq_true bounded
        have isNumber : y.isNaN = false := decide_eq_false (by omega)
        simp [div, number', bounded', infinite, isNumber, unsigned, unsigned']
      rw [zero, isNegative_ofMagnitude (Nat.zero_le _), magnitude_ofMagnitude (Nat.zero_le _)]
      exact ⟨rfl, Nat.zero_le _⟩
    · have other : Plain y := by
        simp only [isNaN, isInfinite, decide_eq_false_iff_not, decide_eq_true_eq] at number bounded
        exact ⟨decide_eq_true (by omega), unsigned'⟩
      have more : y'.units ≤ y.units := unitsOf_mono le'
      have nonzero' : y.units ≠ 0 := by omega
      rw [small.div_eq other nonzero', plain.div_eq plain' nonzero,
        isNegative_ofMagnitude (nearestMagnitude_le_infinite _ _),
        magnitude_ofMagnitude (nearestMagnitude_le_infinite _ _),
        magnitude_ofMagnitude (nearestMagnitude_le_infinite _ _)]
      refine ⟨rfl, nearestMagnitude_mono (Nat.pos_of_ne_zero nonzero')
        (Nat.pos_of_ne_zero nonzero) ?_⟩
      exact Nat.mul_le_mul (Nat.mul_le_mul_right _ (unitsOf_mono le)) more
  exact ⟨finite.of_le smaller.1 smaller.2, smaller.2⟩

theorem near_ofNat (plain : Plain (ofNat n)) : Near n (ofNat n).value := by
  have bounded := nearestMagnitude_le_infinite (n * unitsPerOne) 1
  have result := plain.magnitude_lt
  rw [ofNat, ofRatio, magnitude_ofMagnitude bounded] at result
  have normal : n * unitsPerOne = 0 ∨ binade * 1 ≤ n * unitsPerOne := by
    rcases Nat.eq_zero_or_pos n with rfl | positive
    · exact .inl (Nat.zero_mul _)
    · right
      have scale : binade ≤ unitsPerOne := by decide
      calc binade * 1 = 1 * binade := Nat.mul_comm _ _
        _ ≤ n * unitsPerOne := Nat.mul_le_mul positive scale
  have near := (near_nearestMagnitude Nat.one_pos normal result).div unitsPerOne_cast_pos
  rw [ofNat, ofRatio, value_ofMagnitude bounded]
  have same : (n : ℚ) = ((n * unitsPerOne : ℕ) : ℚ) / (1 : ℕ) / unitsPerOne := by
    have := unitsPerOne_cast_pos.ne'
    rw [Nat.cast_mul]
    field_simp
    simp
  rwa [← same] at near

end ClusterPlacement.Binary64
