import ClusterPlacement.Binary64.Decimal
import ClusterPlacement.Proofs.Binary64.Accuracy
import ClusterPlacement.Proofs.Numeral
/-! The shortest decimal of a magnitude reads back as it. What a decimal reads as depends only on the number it
stands for, however that is split into a coefficient and a power of ten, and every candidate for the shortest
one was read back before it was taken. -/

namespace ClusterPlacement

open Binary64

namespace Binary64

/-- Equal quotients are rounded alike. -/
theorem nearestMagnitude_congr {n d n' d' : Nat} (positive : 0 < d) (positive' : 0 < d')
    (same : n * d' = n' * d) : nearestMagnitude n d = nearestMagnitude n' d' :=
  Nat.le_antisymm (nearestMagnitude_mono positive positive' same.le)
    (nearestMagnitude_mono positive' positive same.ge)

end Binary64

namespace Decimal

variable {d d' : Decimal}

/-- The number that is meant. -/
def value (d : Decimal) : ℚ := d.coefficient * 10 ^ d.exponent

theorem denominator_pos (d : Decimal) : 0 < d.denominator := Numeral.powerOfTen_pos _

theorem value_eq_div (d : Decimal) : d.value = d.numerator / d.denominator := by
  obtain ⟨coefficient, exponent⟩ := d
  obtain ⟨n, rfl | rfl⟩ := Int.eq_nat_or_neg exponent
  · simp [value, numerator, denominator, Numeral.powerOfTen]
  · simp [value, numerator, denominator, Numeral.powerOfTen, div_eq_mul_inv]

theorem coefficient_lt (d : Decimal) : d.coefficient < Numeral.powerOfTen d.width :=
  Numeral.lt_pow_length_digits (by decide) _

theorem toMagnitude_eq (d : Decimal) :
    d.toMagnitude = nearestMagnitude (d.numerator * unitsPerOne) d.denominator := by
  unfold toMagnitude
  split_ifs with zero large small
  · rw [numerator, zero, Nat.zero_mul, Nat.zero_mul, nearestMagnitude_zero d.denominator_pos]
  · -- Every number from 10^310 on is infinite.
    have infinite : nearestMagnitude (Numeral.powerOfTen 310 * unitsPerOne) 1 = infiniteMagnitude := by
      decide +kernel
    have whole : d.denominator = 1 := by
      rw [denominator, show (-d.exponent).toNat = 0 by omega]
      rfl
    have above : Numeral.powerOfTen 310 ≤ d.numerator :=
      calc Numeral.powerOfTen 310 ≤ Numeral.powerOfTen d.exponent.toNat :=
            Numeral.powerOfTen_mono (by omega)
        _ ≤ d.numerator := Nat.le_mul_of_pos_left _ (Nat.pos_of_ne_zero zero)
    refine Nat.le_antisymm ?_ (nearestMagnitude_le_infinite _ _)
    rw [whole, ← infinite]
    exact nearestMagnitude_mono Nat.one_pos Nat.one_pos
      (Nat.mul_le_mul_right _ (Nat.mul_le_mul_right _ above))
  · -- Every number up to 10^-330 is zero.
    have none : nearestMagnitude unitsPerOne (Numeral.powerOfTen 330) = 0 := by decide +kernel
    have fraction : d.numerator = d.coefficient := by
      rw [numerator, show d.exponent.toNat = 0 by omega]
      exact Nat.mul_one _
    have below : d.numerator * Numeral.powerOfTen 330 ≤ d.denominator :=
      calc d.numerator * Numeral.powerOfTen 330 ≤
            Numeral.powerOfTen d.width * Numeral.powerOfTen 330 :=
            Nat.mul_le_mul_right _ (fraction ▸ d.coefficient_lt.le)
        _ = Numeral.powerOfTen (d.width + 330) := (Numeral.powerOfTen_add _ _).symm
        _ ≤ d.denominator := Numeral.powerOfTen_mono (by omega)
    refine Nat.le_antisymm (Nat.zero_le _) ?_
    rw [← none]
    refine nearestMagnitude_mono d.denominator_pos (Numeral.powerOfTen_pos _) ?_
    calc d.numerator * unitsPerOne * Numeral.powerOfTen 330
        = unitsPerOne * (d.numerator * Numeral.powerOfTen 330) := by ring
      _ ≤ unitsPerOne * d.denominator := Nat.mul_le_mul_left _ below
  · rfl

/-- Decimals of the same number read as the same magnitude. -/
theorem toMagnitude_congr (same : d.value = d'.value) : d.toMagnitude = d'.toMagnitude := by
  have positive : (d.denominator : ℚ) ≠ 0 := by exact_mod_cast d.denominator_pos.ne'
  have positive' : (d'.denominator : ℚ) ≠ 0 := by exact_mod_cast d'.denominator_pos.ne'
  rw [value_eq_div, value_eq_div, div_eq_div_iff positive positive'] at same
  have cross : d.numerator * d'.denominator = d'.numerator * d.denominator := by exact_mod_cast same
  rw [toMagnitude_eq, toMagnitude_eq]
  refine nearestMagnitude_congr d.denominator_pos d'.denominator_pos ?_
  rw [Nat.mul_right_comm, cross, Nat.mul_right_comm]

theorem value_trimZeros (steps : Nat) (d : Decimal) : (d.trimZeros steps).value = d.value := by
  fun_induction trimZeros steps d with
  | case1 d => rfl
  | case2 steps d more ih =>
    have whole : d.coefficient = d.coefficient / 10 * 10 := by omega
    have cast : (d.coefficient : ℚ) = (d.coefficient / 10 : ℕ) * 10 := by exact_mod_cast whole
    rw [ih, value, value, zpow_add_one₀ (by norm_num), cast]
    ring
  | case3 => rfl

/-- The digits before and after the point that stand for a decimal. -/
structure Places (d : Decimal) (whole fraction : List Nat) : Prop where
  canonical : Numeral.Canonical whole
  nonempty : fraction ≠ []
  below : ∀ x ∈ fraction, x < 10
  value : Decimal.value ⟨Numeral.ofDigits 10 (whole ++ fraction), -fraction.length⟩ = d.value

theorem replicate_zero_below (n : Nat) : ∀ x ∈ List.replicate n 0, x < 10 := by
  intro x member
  rw [List.eq_of_mem_replicate member]
  decide

/-- A decimal with no places after the point gets one. -/
theorem exists_places_of_nonneg (nonneg : 0 ≤ d.exponent) : ∃ whole, d.Places whole [0] ∧
    d.positional.toList = whole.map Numeral.lowerDigit := by
  obtain ⟨coefficient, exponent⟩ := d
  obtain ⟨n, rfl⟩ := Int.eq_ofNat_of_zero_le nonneg
  have canonical := Numeral.canonical_digits coefficient
  have digits := Numeral.ofDigits_digits 10 coefficient
  obtain ⟨whole, canonical, value', text⟩ : ∃ whole, Numeral.Canonical whole ∧
      Numeral.ofDigits 10 whole = coefficient * 10 ^ n ∧
      (if coefficient = 0 then Numeral.decimalChars coefficient
        else Numeral.decimalChars coefficient ++ List.replicate n '0') = whole.map Numeral.lowerDigit := by
    split
    case isTrue zero => exact ⟨_, canonical, by rw [digits, zero, Nat.zero_mul], rfl⟩
    case isFalse nonzero =>
      refine ⟨Numeral.digits 10 coefficient ++ List.replicate n 0,
        canonical.append ?_ (replicate_zero_below n), ?_, ?_⟩
      · intro zero
        rw [zero] at digits
        exact nonzero digits.symm
      · rw [Numeral.ofDigits_append, digits, Numeral.ofDigits_replicate_zero, List.length_replicate,
          Nat.add_zero]
      · rw [List.map_append, List.map_replicate]
        rfl
  refine ⟨whole, ⟨canonical, List.cons_ne_nil _ _, replicate_zero_below 1, ?_⟩, ?_⟩
  · rw [Numeral.ofDigits_append_single, value', value, value]
    simp
  · rw [← text, positional, if_pos nonneg, String.toList_ofList]
    rfl

/-- A decimal with places after the point has a digit in front of it, which is zero if there is no other. -/
theorem exists_places_of_neg (negative : ¬0 ≤ d.exponent) : ∃ whole fraction, d.Places whole fraction ∧
    d.positional.toList = whole.map Numeral.lowerDigit ++ '.' :: fraction.map Numeral.lowerDigit := by
  obtain ⟨coefficient, exponent⟩ := d
  obtain ⟨places, rfl, positive⟩ : ∃ places : Nat, exponent = -places ∧ 0 < places := by
    refine ⟨exponent.natAbs, ?_, ?_⟩
    all_goals
      dsimp only at negative
      omega
  have canonical := Numeral.canonical_digits coefficient
  have value' := Numeral.ofDigits_padded 10 (places + 1) (Numeral.digits 10 coefficient)
  have text : List.replicate (places + 1 - (Numeral.decimalChars coefficient).length) '0' ++
      Numeral.decimalChars coefficient =
      (Numeral.padded (places + 1) (Numeral.digits 10 coefficient)).map Numeral.lowerDigit := by
    rw [Numeral.padded, List.map_append, List.map_replicate, Numeral.decimalChars, List.length_map]
    rfl
  have size : places < (Numeral.padded (places + 1) (Numeral.digits 10 coefficient)).length := by
    rw [Numeral.padded, List.length_append, List.length_replicate]
    omega
  have below : ∀ x ∈ Numeral.padded (places + 1) _, x < 10 := Numeral.padded_below canonical.below
  have start := canonical.take_padded places
  generalize Numeral.padded (places + 1) (Numeral.digits 10 coefficient) = ds at *
  have count : (ds.drop (ds.length - places)).length = places := by
    rw [List.length_drop]
    omega
  refine ⟨ds.take (ds.length - places), ds.drop (ds.length - places), ⟨start, ?_, ?_, ?_⟩, ?_⟩
  · exact List.ne_nil_of_length_pos (by rwa [count])
  · exact fun x member => below x (List.mem_of_mem_drop member)
  · rw [List.take_append_drop, count, value', Numeral.ofDigits_digits]
  · rw [positional, if_neg negative, String.toList_ofList]
    dsimp only
    rw [neg_neg, Int.toNat_natCast, text, List.length_map, List.map_take, List.map_drop]

/-- With a fraction added to whole numbers, a decimal is written as digits around a point. -/
theorem exists_places (d : Decimal) : ∃ whole fraction, d.Places whole fraction ∧
    (d.positional ++ if 0 ≤ d.exponent then ".0" else "").toList =
      whole.map Numeral.lowerDigit ++ '.' :: fraction.map Numeral.lowerDigit := by
  split
  case isTrue nonneg =>
    obtain ⟨whole, places, text⟩ := exists_places_of_nonneg nonneg
    refine ⟨whole, [0], places, ?_⟩
    rw [String.toList_append, text]
    rfl
  case isFalse negative =>
    obtain ⟨whole, fraction, places, text⟩ := exists_places_of_neg negative
    exact ⟨whole, fraction, places, by rw [String.append_empty, text]⟩

end Decimal

namespace Binary64

variable {m : Nat} {tie : Tie} {d : Decimal}

/-- A significand is shifted back to where it was. -/
theorem shiftOf_significand {shift significand : Nat} (bound : significand < 2 * binade)
    (normal : 0 < shift → binade ≤ significand) : shiftOf (significand * 2 ^ shift) 1 = shift := by
  rw [shiftOf, Nat.div_one]
  rcases Nat.eq_zero_or_pos shift with rfl | shifted
  · rw [Nat.pow_zero, Nat.mul_one]
    rcases Nat.eq_zero_or_pos significand with rfl | positive
    · rfl
    · have log : significand.log2 < 53 := (Nat.log2_lt positive.ne').2 bound
      omega
  · have large := normal shifted
    have positive : 0 < significand := Nat.lt_of_lt_of_le (by decide) large
    have nonzero : significand * 2 ^ shift ≠ 0 := (Nat.mul_pos positive (Nat.two_pow_pos _)).ne'
    have log : (significand * 2 ^ shift).log2 = 52 + shift := by
      refine (Nat.log2_eq_iff nonzero).2 ⟨?_, ?_⟩
      · rw [Nat.pow_add]
        exact Nat.mul_le_mul_right _ large
      · rw [show 52 + shift + 1 = 53 + shift by omega, Nat.pow_add]
        exact Nat.mul_lt_mul_of_pos_right bound (Nat.two_pow_pos _)
    omega

/-- A magnitude is not rounded. -/
theorem nearestMagnitude_unitsOf (finite : m ≤ infiniteMagnitude) : nearestMagnitude (unitsOf m) 1 = m := by
  obtain ⟨shift, significand, rfl, bound, normal⟩ : ∃ shift significand,
      m = shift * binade + significand ∧ significand < 2 * binade ∧ (0 < shift → binade ≤ significand) := by
    rcases Nat.lt_or_ge m (2 * binade) with small | large
    · exact ⟨0, m, by rw [Nat.zero_mul, Nat.zero_add], small, fun none => absurd none (Nat.lt_irrefl 0)⟩
    · have fraction : m % binade < binade := Nat.mod_lt m (by decide)
      have steps : 2 ≤ m / binade := (Nat.le_div_iff_mul_le (by decide)).2 large
      obtain ⟨shift, exponent⟩ := Nat.exists_eq_add_of_le' (show 1 ≤ m / binade by omega)
      refine ⟨shift, binade + m % binade, ?_, by omega, fun _ => Nat.le_add_right _ _⟩
      have split := Nat.div_add_mod' m binade
      rw [exponent, Nat.add_mul, Nat.one_mul] at split
      omega
  rw [unitsOf_significand bound.le normal, nearestMagnitude_eq, shiftOf_significand bound normal,
    Nat.shiftLeft_eq, Nat.one_mul, divideToEven_mul (Nat.two_pow_pos _)]
  exact min_eq_left finite

theorem Tie.choose_eq (tie : Tie) (above below : Decimal) :
    tie.choose above below = above ∨ tie.choose above below = below := by
  cases tie with
  | upward => exact .inl rfl
  | toEven => exact ite_eq_or_eq _ _ _

theorem toMagnitude_of_nearestReadingBack? {exponent : Int}
    (found : nearestReadingBack? tie m exponent = some d) : d.toMagnitude = m := by
  have readsBack : ∀ candidate ∈ readingBack m exponent, candidate.1.toMagnitude = m :=
    fun candidate member => of_decide_eq_true (List.mem_filter.1 member).2
  unfold nearestReadingBack? at found
  generalize readingBack m exponent = candidates at *
  split at found
  case h_1 => cases found
  case h_2 d' _ =>
    cases found
    exact readsBack _ List.mem_cons_self
  case h_3 above distance below distance' rest =>
    have aboveReads := readsBack (above, distance) List.mem_cons_self
    have belowReads := readsBack (below, distance') (List.mem_cons_of_mem _ List.mem_cons_self)
    rw [Option.some.injEq] at found
    subst found
    split_ifs
    · exact aboveReads
    · exact belowReads
    · rcases tie.choose_eq above below with same | same
      · rwa [same]
      · rwa [same]

/-- A magnitude written out in full. -/
theorem toMagnitude_expansion (finite : m ≤ infiniteMagnitude) :
    Decimal.toMagnitude ⟨unitsOf m * Nat.pow 5 unitPlaces, -unitPlaces⟩ = m := by
  have scale : unitsPerOne = 2 ^ unitPlaces := Nat.one_shiftLeft unitPlaces
  have numerator : Decimal.numerator ⟨unitsOf m * Nat.pow 5 unitPlaces, -unitPlaces⟩ =
      unitsOf m * 5 ^ unitPlaces := by
    simp [Decimal.numerator, Numeral.powerOfTen]
  have denominator : Decimal.denominator ⟨unitsOf m * Nat.pow 5 unitPlaces, -unitPlaces⟩ =
      10 ^ unitPlaces := by
    simp [Decimal.denominator, Numeral.powerOfTen]
  calc Decimal.toMagnitude ⟨unitsOf m * Nat.pow 5 unitPlaces, -unitPlaces⟩
      = nearestMagnitude (unitsOf m * 5 ^ unitPlaces * 2 ^ unitPlaces) (10 ^ unitPlaces) := by
        rw [Decimal.toMagnitude_eq, numerator, denominator, scale]
    _ = nearestMagnitude (unitsOf m) 1 := by
        refine nearestMagnitude_congr (Nat.pow_pos (by decide)) Nat.one_pos ?_
        rw [Nat.mul_one, Nat.mul_assoc, ← Nat.mul_pow]
    _ = m := nearestMagnitude_unitsOf finite

/-- The decimal that is written for a magnitude reads back as it. -/
theorem toMagnitude_shortestDecimal (tie : Tie) (finite : m ≤ infiniteMagnitude) :
    (shortestDecimal tie m).toMagnitude = m := by
  unfold shortestDecimal
  split
  case isTrue zero => exact zero.symm
  case isFalse =>
    dsimp only
    split
    case h_1 d found =>
      obtain ⟨n, _, found⟩ := List.exists_of_findSome?_eq_some found
      rw [← toMagnitude_of_nearestReadingBack? found]
      exact Decimal.toMagnitude_congr (Decimal.value_trimZeros 20 d)
    case h_2 => exact toMagnitude_expansion finite

end Binary64

end ClusterPlacement
