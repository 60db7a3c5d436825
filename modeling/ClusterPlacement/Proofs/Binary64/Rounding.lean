import ClusterPlacement.Binary64
import Mathlib.Tactic.Ring
/-! Rounding keeps the order. A quotient is rounded to a whole number first and the significand of a number
is such a quotient, so both follow from one fact: of two quotients the smaller one never rounds to more. -/

namespace ClusterPlacement.Binary64

variable {n n' d d' q m m' : Nat}

/-- A whole number nearest to `n / d`, and even if it is as near as another one. -/
structure Nearest (n d q : Nat) : Prop where
  notBelow : 2 * n ≤ (2 * q + 1) * d
  notAbove : 2 * q * d ≤ 2 * n + d
  even_of_halfway : 2 * n = (2 * q + 1) * d ∨ 2 * q * d = 2 * n + d → q % 2 = 0

theorem nearest_divideToEven (positive : 0 < d) : Nearest n d (divideToEven n d) := by
  have split := Nat.div_add_mod n d
  have small := Nat.mod_lt n positive
  unfold divideToEven
  generalize n / d = quotient at *
  generalize n % d = rest at *
  subst split
  dsimp only
  have down : (2 * quotient + 1) * d = 2 * (d * quotient) + d := by ring
  have up : (2 * (quotient + 1) + 1) * d = 2 * (d * quotient) + 3 * d := by ring
  have same : 2 * quotient * d = 2 * (d * quotient) := by ring
  have next : 2 * (quotient + 1) * d = 2 * (d * quotient) + 2 * d := by ring
  split
  case isTrue =>
    constructor
    · omega
    · omega
    · omega
  case isFalse =>
    constructor
    · omega
    · omega
    · omega

theorem divideToEven_mono (positive : 0 < d) (positive' : 0 < d') (le : n * d' ≤ n' * d) :
    divideToEven n d ≤ divideToEven n' d' := by
  obtain ⟨-, notAbove, even⟩ := nearest_divideToEven (n := n) positive
  obtain ⟨notBelow', -, even'⟩ := nearest_divideToEven (n := n') positive'
  generalize divideToEven n d = q at *
  generalize divideToEven n' d' = q' at *
  by_contra more
  -- The only way to round past each other is from the middle between two neighbours, and to even both.
  have upper : 2 * q * (d * d') ≤ 2 * (n * d') + d * d' := by
    calc 2 * q * (d * d') = 2 * q * d * d' := by ring
      _ ≤ (2 * n + d) * d' := Nat.mul_le_mul_right d' notAbove
      _ = 2 * (n * d') + d * d' := by ring
  have lower : 2 * (n' * d) ≤ (2 * q' + 1) * (d * d') := by
    calc 2 * (n' * d) = 2 * n' * d := by ring
      _ ≤ (2 * q' + 1) * d' * d := Nat.mul_le_mul_right d notBelow'
      _ = (2 * q' + 1) * (d * d') := by ring
  have area : 0 < d * d' := Nat.mul_pos positive positive'
  have close : 2 * q * (d * d') ≤ (2 * q' + 2) * (d * d') := by
    calc 2 * q * (d * d') ≤ (2 * q' + 1) * (d * d') + d * d' := by omega
      _ = (2 * q' + 2) * (d * d') := by ring
  have next : q = q' + 1 := by
    have := Nat.le_of_mul_le_mul_right close area
    omega
  subst next
  have square : 2 * (q' + 1) * (d * d') = (2 * q' + 1) * (d * d') + d * d' := by ring
  have halfway : 2 * (q' + 1) * d = 2 * n + d := by
    refine Nat.eq_of_mul_eq_mul_right positive' ?_
    calc 2 * (q' + 1) * d * d' = 2 * (q' + 1) * (d * d') := by ring
      _ = 2 * (n * d') + d * d' := by omega
      _ = (2 * n + d) * d' := by ring
  have halfway' : 2 * n' = (2 * q' + 1) * d' := by
    refine Nat.eq_of_mul_eq_mul_right positive ?_
    calc 2 * n' * d = 2 * (n' * d) := by ring
      _ = (2 * q' + 1) * (d * d') := by omega
      _ = (2 * q' + 1) * d' * d := by ring
  have := even (.inr halfway)
  have := even' (.inl halfway')
  omega

/-- A whole number less than half away is the nearest one. -/
theorem divideToEven_eq (positive : 0 < d) (below : 2 * n < (2 * q + 1) * d)
    (above : 2 * q * d < 2 * n + d) : divideToEven n d = q := by
  obtain ⟨notBelow, notAbove, -⟩ := nearest_divideToEven (n := n) positive
  generalize divideToEven n d = q' at *
  have notMore : 2 * q' * d < (2 * q + 2) * d := by
    calc 2 * q' * d ≤ 2 * n + d := notAbove
      _ < (2 * q + 1) * d + d := Nat.add_lt_add_right below d
      _ = (2 * q + 2) * d := by ring
  have notLess : 2 * q * d < (2 * q' + 2) * d := by
    calc 2 * q * d < 2 * n + d := above
      _ ≤ (2 * q' + 1) * d + d := Nat.add_le_add_right notBelow d
      _ = (2 * q' + 2) * d := by ring
  have := Nat.lt_of_mul_lt_mul_right notMore
  have := Nat.lt_of_mul_lt_mul_right notLess
  omega

theorem divideToEven_mul (positive : 0 < d) : divideToEven (q * d) d = q := by
  rw [divideToEven, Nat.mul_div_cancel q positive, Nat.mul_mod_left]
  exact if_pos (.inl positive)

theorem divideToEven_mul_of_dvd (positive : 0 < d) (divides : d ∣ n) : divideToEven n d * d = n := by
  obtain ⟨k, rfl⟩ := divides
  rw [Nat.mul_comm d k, divideToEven_mul positive]

theorem le_divideToEven (positive : 0 < d) (le : q * d ≤ n) : q ≤ divideToEven n d := by
  have mono := divideToEven_mono positive positive (Nat.mul_le_mul_right d le)
  rwa [divideToEven_mul positive] at mono

theorem divideToEven_le (positive : 0 < d) (le : n ≤ q * d) : divideToEven n d ≤ q := by
  have mono := divideToEven_mono positive positive (Nat.mul_le_mul_right d le)
  rwa [divideToEven_mul positive] at mono

/-- How far the significand of a quotient is shifted. -/
def shiftOf (n d : Nat) : Nat := (n / d).log2 - 52

theorem nearestMagnitude_eq (n d : Nat) : nearestMagnitude n d =
    min (shiftOf n d * binade + divideToEven n (d <<< shiftOf n d)) infiniteMagnitude := rfl

theorem lt_of_shiftOf (positive : 0 < d) : n < 2 * binade * (d <<< shiftOf n d) := by
  have bound : n / d < 2 ^ ((n / d).log2 + 1) := Nat.lt_log2_self
  have exponent : (n / d).log2 + 1 ≤ shiftOf n d + 53 := by
    unfold shiftOf
    omega
  have quotient := lt_of_lt_of_le bound (Nat.pow_le_pow_right (by decide) exponent)
  rw [Nat.div_lt_iff_lt_mul positive] at quotient
  calc n < 2 ^ (shiftOf n d + 53) * d := quotient
    _ = 2 * binade * (d * 2 ^ shiftOf n d) := by
      rw [Nat.pow_add, show 2 * binade = 2 ^ 53 from rfl]
      ring
    _ = 2 * binade * (d <<< shiftOf n d) := by rw [Nat.shiftLeft_eq]

theorem le_of_shiftOf_pos (positive : 0 < d) (shifted : 0 < shiftOf n d) :
    binade * (d <<< shiftOf n d) ≤ n := by
  have exponent : (n / d).log2 = shiftOf n d + 52 := by
    unfold shiftOf at *
    omega
  have nonzero : n / d ≠ 0 := by
    intro zero
    rw [zero, Nat.log2_zero] at exponent
    omega
  have bound := Nat.log2_self_le nonzero
  rw [exponent, Nat.le_div_iff_mul_le positive] at bound
  calc binade * (d <<< shiftOf n d) = 2 ^ (shiftOf n d + 52) * d := by
        rw [Nat.shiftLeft_eq, Nat.pow_add, show binade = 2 ^ 52 from rfl]
        ring
    _ ≤ n := bound

theorem shiftOf_mono (positive : 0 < d) (positive' : 0 < d') (le : n * d' ≤ n' * d) :
    shiftOf n d ≤ shiftOf n' d' := by
  have quotients : n / d ≤ n' / d' := by
    rw [Nat.le_div_iff_mul_le positive']
    refine Nat.le_of_mul_le_mul_right ?_ positive
    calc n / d * d' * d = n / d * d * d' := by ring
      _ ≤ n * d' := Nat.mul_le_mul_right d' (Nat.div_mul_le_self n d)
      _ ≤ n' * d := le
  have logs : (n / d).log2 ≤ (n' / d').log2 := by
    by_cases zero : n / d = 0
    · rw [zero, Nat.log2_zero]
      exact Nat.zero_le _
    · have nonzero : n' / d' ≠ 0 := ((Nat.pos_of_ne_zero zero).trans_le quotients).ne'
      exact (Nat.le_log2 nonzero).2 ((Nat.log2_self_le zero).trans quotients)
  exact Nat.sub_le_sub_right logs 52

theorem shiftLeft_pos (positive : 0 < d) (shift : Nat) : 0 < d <<< shift := by
  rw [Nat.shiftLeft_eq]
  exact Nat.mul_pos positive (Nat.two_pow_pos shift)

/-- Rounding keeps the order of quotients. One that is shifted less stays within its own binades. -/
theorem nearestMagnitude_mono (positive : 0 < d) (positive' : 0 < d') (le : n * d' ≤ n' * d) :
    nearestMagnitude n d ≤ nearestMagnitude n' d' := by
  rw [nearestMagnitude_eq, nearestMagnitude_eq]
  have shifts := shiftOf_mono positive positive' le
  refine min_le_min_right _ ?_
  rcases Nat.eq_or_lt_of_le shifts with same | less
  · rw [same]
    refine Nat.add_le_add_left (divideToEven_mono ?_ ?_ ?_) _
    · exact shiftLeft_pos positive _
    · exact shiftLeft_pos positive' _
    · rw [Nat.shiftLeft_eq, Nat.shiftLeft_eq, ← Nat.mul_assoc, ← Nat.mul_assoc]
      exact Nat.mul_le_mul_right _ le
  · have low : divideToEven n (d <<< shiftOf n d) ≤ 2 * binade :=
      divideToEven_le (shiftLeft_pos positive _) (lt_of_shiftOf positive).le
    have high : binade ≤ divideToEven n' (d' <<< shiftOf n' d') :=
      le_divideToEven (shiftLeft_pos positive' _)
        (le_of_shiftOf_pos positive' (Nat.zero_lt_of_lt less))
    have steps : (shiftOf n d + 1) * binade ≤ shiftOf n' d' * binade := Nat.mul_le_mul_right _ less
    rw [Nat.add_mul] at steps
    omega

theorem nearestMagnitude_le_infinite (n d : Nat) : nearestMagnitude n d ≤ infiniteMagnitude :=
  min_le_right _ _

theorem unitsOf_lt (m : Nat) : unitsOf m < binade * 2 ^ (m / binade) := by
  unfold unitsOf
  split
  case isTrue small =>
    have above : m < binade * (m / binade + 1) := Nat.lt_mul_div_succ m (by decide)
    exact above.trans_le (Nat.mul_le_mul_left _ Nat.lt_two_pow_self)
  case isFalse large =>
    have fraction : m % binade < binade := Nat.mod_lt m (by decide)
    have exponent : 2 ≤ m / binade := by
      rw [Nat.le_div_iff_mul_le (by decide)]
      exact Nat.le_of_not_lt large
    calc (binade + m % binade) <<< (m / binade - 1)
        = (binade + m % binade) * 2 ^ (m / binade - 1) := Nat.shiftLeft_eq _ _
      _ < 2 * binade * 2 ^ (m / binade - 1) := by
        refine Nat.mul_lt_mul_of_pos_right ?_ (Nat.two_pow_pos _)
        omega
      _ = binade * 2 ^ (m / binade - 1 + 1) := by ring
      _ = binade * 2 ^ (m / binade) := by rw [Nat.sub_add_cancel (by omega)]

theorem le_unitsOf (large : binade ≤ m) : binade * 2 ^ (m / binade - 1) ≤ unitsOf m := by
  unfold unitsOf
  split
  case isTrue small =>
    have first : m / binade = 1 := Nat.div_eq_of_lt_le (by omega) (by omega)
    rw [first]
    exact large
  case isFalse =>
    rw [Nat.shiftLeft_eq]
    exact Nat.mul_le_mul_right _ (Nat.le_add_right _ _)

/-- Magnitudes are in the order of what they count. -/
theorem unitsOf_mono (le : m ≤ m') : unitsOf m ≤ unitsOf m' := by
  have exponents : m / binade ≤ m' / binade := Nat.div_le_div_right le
  rcases Nat.eq_or_lt_of_le exponents with same | less
  · have fractions : m % binade ≤ m' % binade := by
      have split := Nat.div_add_mod m binade
      have split' := Nat.div_add_mod m' binade
      rw [same] at split
      omega
    have alike : m < 2 * binade ↔ m' < 2 * binade := by
      rw [← Nat.div_lt_iff_lt_mul (by decide), ← Nat.div_lt_iff_lt_mul (by decide), same]
    simp only [unitsOf, alike, same, Nat.shiftLeft_eq]
    split
    case isTrue => exact le
    case isFalse => exact Nat.mul_le_mul_right _ (Nat.add_le_add_left fractions _)
  · have large : binade ≤ m' := by
      by_contra small
      rw [Nat.div_eq_of_lt (Nat.lt_of_not_le small)] at less
      exact Nat.not_lt_zero _ less
    refine (unitsOf_lt m).le.trans (le_trans ?_ (le_unitsOf large))
    exact Nat.mul_le_mul_left _ (Nat.pow_le_pow_right (by decide) (Nat.le_sub_one_of_lt less))

end ClusterPlacement.Binary64
