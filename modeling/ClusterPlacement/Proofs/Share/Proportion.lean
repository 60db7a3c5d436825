import ClusterPlacement.Proofs.Binary64.Accuracy
import ClusterPlacement.Share
/-! How far proportions can be off. The numbers, the quotient and the product are each rounded, five times in
all, so the number whose whole part is taken is within 2^-50 of the exact one. Heavier entries still
never get a smaller proportion, since every rounding keeps the order. -/

namespace ClusterPlacement.Share

open Binary64 (Between Near Plain binade roundoff unitsPerOne)

variable {replicas replicas' total total' weight weight' : Nat} {entry other : PolicyEntry}

/-- What falls to a weight of one. -/
def perWeight (replicas total : Nat) : Binary64 := (Binary64.ofNat replicas).div (.ofNat total)

/-- What falls to a weight. Its whole part is the proportion. -/
def ratio (replicas total weight : Nat) : Binary64 := (perWeight replicas total).mul (.ofNat weight)

theorem proportion_eq (replicas total : Nat) (entry : PolicyEntry) :
    proportion replicas total entry =
      min (ratio replicas total entry.weight.toNat).floor PolicyEntry.replicaLimit := rfl

theorem plain_ofNat (small : total ≤ 2 ^ 64) : Plain (.ofNat total) := by
  have largest : Plain (.ofNat (2 ^ 64)) := ⟨by decide +kernel, by decide +kernel⟩
  exact largest.of_le (Binary64.isNegative_ofNat _) (Binary64.magnitude_ofNat_mono small)

theorem unitsPerOne_le_units (positive : 0 < total) :
    unitsPerOne ≤ (Binary64.ofNat total).units := by
  have one : (Binary64.ofNat 1).units = unitsPerOne := by decide +kernel
  rw [← one]
  exact Binary64.units_ofNat_mono positive

theorem perWeight_of_le (le : replicas ≤ replicas') (le' : total' ≤ total) (positive : 0 < total')
    (small : replicas' ≤ 2 ^ 64) (small' : total' ≤ 2 ^ 64)
    (finite : Plain (perWeight replicas' total')) : Plain (perWeight replicas total) ∧
      (perWeight replicas total).magnitude ≤ (perWeight replicas' total').magnitude := by
  apply (plain_ofNat small).div_of_le (plain_ofNat small') _ finite
  · exact Binary64.isNegative_ofNat _
  · exact Binary64.isNegative_ofNat _
  · exact Binary64.isNaN_ofMagnitude (Binary64.nearestMagnitude_le_infinite _ _)
  · exact Binary64.magnitude_ofNat_mono le
  · exact Binary64.magnitude_ofNat_mono le'
  · exact (Binary64.unitsPerOne_pos.trans_le (unitsPerOne_le_units positive)).ne'

theorem plain_perWeight (small : replicas ≤ 2 ^ 32) (positive : 0 < total) :
    Plain (perWeight replicas total) := by
  have largest : Plain (perWeight (2 ^ 32) 1) := ⟨by decide +kernel, by decide +kernel⟩
  exact (perWeight_of_le small positive Nat.one_pos (by decide) (by decide) largest).1

theorem plain_ratio (small : replicas ≤ 2 ^ 32) (positive : 0 < total) (small' : weight ≤ 2 ^ 32) :
    Plain (ratio replicas total weight) := by
  have largest : Plain (perWeight (2 ^ 32) 1) := ⟨by decide +kernel, by decide +kernel⟩
  have product : Plain (ratio (2 ^ 32) 1 (2 ^ 32)) := ⟨by decide +kernel, by decide +kernel⟩
  have smaller := perWeight_of_le small positive Nat.one_pos (by decide) (by decide) largest
  have weightPlain : Plain (.ofNat weight) := plain_ofNat (small'.trans (by decide))
  have unsigned : (ratio replicas total weight).isNegative = false := by
    rw [ratio, smaller.1.mul_eq weightPlain]
    exact Binary64.isNegative_ofMagnitude (Binary64.nearestMagnitude_le_infinite _ _)
  apply product.of_le unsigned
  apply largest.magnitude_mul_mono (plain_ofNat (by decide)) smaller.1.unsigned
    weightPlain.unsigned smaller.2
  exact Binary64.magnitude_ofNat_mono small'

theorem floor_mono {x y : Binary64} (le : x.magnitude ≤ y.magnitude) : x.floor ≤ y.floor :=
  Nat.div_le_div_right (Binary64.unitsOf_mono le)

theorem floor_ratio_mono (small : replicas ≤ 2 ^ 32) (positive : 0 < total) (le : weight ≤ weight')
    (small' : weight' ≤ 2 ^ 32) :
    (ratio replicas total weight).floor ≤ (ratio replicas total weight').floor := by
  have plain := plain_perWeight small positive
  apply floor_mono
  apply plain.magnitude_mul_mono (plain_ofNat (small'.trans (by decide))) plain.unsigned
    (Binary64.isNegative_ofNat _) (Nat.le_refl _)
  exact Binary64.magnitude_ofNat_mono le

theorem floor_ratio_anti (small : replicas ≤ 2 ^ 32) (positive : 0 < total') (le : total' ≤ total)
    (small' : total' ≤ 2 ^ 64) (small'' : weight ≤ 2 ^ 32) :
    (ratio replicas total weight).floor ≤ (ratio replicas total' weight).floor := by
  have plain := plain_perWeight small positive
  obtain ⟨plain', smaller⟩ :=
    perWeight_of_le (Nat.le_refl _) le positive (small.trans (by decide)) small' plain
  apply floor_mono
  exact plain.magnitude_mul_mono (plain_ofNat (small''.trans (by decide))) plain'.unsigned
    (Binary64.isNegative_ofNat _) smaller (Nat.le_refl _)

theorem weight_le (entry : PolicyEntry) : entry.weight.toNat ≤ 2 ^ 32 := (entry.weight.toNat_lt).le

/-- Heavier entries get no smaller proportion. -/
theorem proportion_mono (small : replicas ≤ 2 ^ 32) (positive : 0 < total)
    (le : entry.weight.toNat ≤ other.weight.toNat) :
    proportion replicas total entry ≤ proportion replicas total other := by
  rw [proportion_eq, proportion_eq]
  exact min_le_min_right _ (floor_ratio_mono small positive le (weight_le other))

/-- The quotient is zero or not below the smallest normal number. -/
theorem normal_perWeight (small : total ≤ 2 ^ 64) :
    (Binary64.ofNat replicas).units = 0 ∨
      binade * (Binary64.ofNat total).units ≤ (Binary64.ofNat replicas).units * unitsPerOne := by
  rcases Nat.eq_zero_or_pos replicas with rfl | some
  · exact .inl (by decide +kernel)
  · right
    have largest : (Binary64.ofNat (2 ^ 64)).units = 2 ^ 64 * unitsPerOne := by decide +kernel
    calc binade * (Binary64.ofNat total).units
      _ ≤ binade * (2 ^ 64 * unitsPerOne) := by
        rw [← largest]
        exact Nat.mul_le_mul_left _ (Binary64.units_ofNat_mono small)
      _ ≤ unitsPerOne * unitsPerOne := by decide +kernel
      _ ≤ (Binary64.ofNat replicas).units * unitsPerOne :=
        Nat.mul_le_mul_right _ (unitsPerOne_le_units some)

/-- The product too. -/
theorem normal_ratio (small : replicas ≤ 2 ^ 32) (positive : 0 < total) (small' : total ≤ 2 ^ 64) :
    (perWeight replicas total).units * (Binary64.ofNat weight).units = 0 ∨
      binade * unitsPerOne ≤ (perWeight replicas total).units * (Binary64.ofNat weight).units := by
  rcases Nat.eq_zero_or_pos weight with rfl | weighs
  · left
    have none : (Binary64.ofNat 0).units = 0 := by decide +kernel
    rw [none, Nat.mul_zero]
  rcases Nat.eq_zero_or_pos replicas with rfl | some
  · left
    have least : Plain (perWeight 0 1) := ⟨by decide +kernel, by decide +kernel⟩
    have below : (perWeight 0 total).units ≤ (perWeight 0 1).units :=
      Binary64.unitsOf_mono (perWeight_of_le (Nat.le_refl 0) positive Nat.one_pos (by decide)
        (by decide) least).2
    have none : (perWeight 0 1).units = 0 := by decide +kernel
    rw [none, Nat.le_zero] at below
    rw [below, Nat.zero_mul]
  · right
    have least : binade ≤ (perWeight 1 (2 ^ 64)).units := by decide +kernel
    have below := (perWeight_of_le some small' positive (small.trans (by decide)) small'
      (plain_perWeight small positive)).2
    exact Nat.mul_le_mul (least.trans (Binary64.unitsOf_mono below)) (unitsPerOne_le_units weighs)

/-- Five roundings in a row. -/
theorem between_ratio (small : replicas ≤ 2 ^ 32) (positive : 0 < total) (small' : total ≤ 2 ^ 64)
    (small'' : weight ≤ 2 ^ 32) :
    Between (1 - 1 / 2 ^ 50) (1 + 1 / 2 ^ 50) ((replicas : ℚ) * (total : ℚ)⁻¹ * weight)
      (ratio replicas total weight).value := by
  have replicasPlain : Plain (.ofNat replicas) := plain_ofNat (small.trans (by decide))
  have totalPlain : Plain (.ofNat total) := plain_ofNat small'
  have weightPlain : Plain (.ofNat weight) := plain_ofNat (small''.trans (by decide))
  have quotientPlain := plain_perWeight small positive
  have nonzero : (Binary64.ofNat total).units ≠ 0 :=
    (Binary64.unitsPerOne_pos.trans_le (unitsPerOne_le_units positive)).ne'
  have quotient := replicasPlain.near_div totalPlain nonzero quotientPlain
    (normal_perWeight small')
  have product := quotientPlain.near_mul weightPlain (plain_ratio small positive small'')
    (normal_ratio small positive small')
  have low : (0 : ℚ) < 1 - roundoff := by norm_num [roundoff]
  have high : (0 : ℚ) < 1 + roundoff := by norm_num [roundoff]
  have divisor := (Binary64.near_ofNat totalPlain).inv low (by exact_mod_cast positive)
  have parts := (Binary64.near_ofNat replicasPlain).mul divisor low.le (by positivity)
    (by positivity) (by positivity)
  rw [← div_eq_mul_inv (Binary64.value _)] at parts
  have all := ((parts.trans quotient low.le high.le).mul (Binary64.near_ofNat weightPlain)
    (by positivity) low.le (by positivity) (by positivity)).trans product low.le high.le
  apply all.widen (by positivity)
  · norm_num [roundoff]
  · norm_num [roundoff]

theorem floor_le_value (x : Binary64) : (x.floor : ℚ) ≤ x.value := by
  have whole : x.floor * unitsPerOne ≤ x.units := Nat.div_mul_le_self _ _
  rw [Binary64.value, le_div_iff₀ Binary64.unitsPerOne_cast_pos]
  exact_mod_cast whole

theorem value_lt_floor_add_one (x : Binary64) : x.value < x.floor + 1 := by
  have part : x.units < (x.floor + 1) * unitsPerOne := by
    rw [Nat.mul_comm]
    exact Nat.lt_mul_div_succ _ Binary64.unitsPerOne_pos
  rw [Binary64.value, div_lt_iff₀ Binary64.unitsPerOne_cast_pos]
  exact_mod_cast part

/-- The whole part against the exact proportion, multiplied out. -/
theorem floor_ratio_bounds (small : replicas ≤ 2 ^ 32) (positive : 0 < total)
    (small' : total ≤ 2 ^ 64) (small'' : weight ≤ 2 ^ 32) :
    2 ^ 50 * (total * (ratio replicas total weight).floor) ≤
        (2 ^ 50 + 1) * (replicas * weight) ∧
      (2 ^ 50 - 1) * (replicas * weight) ≤
        2 ^ 50 * (total * ((ratio replicas total weight).floor + 1)) := by
  obtain ⟨above, below⟩ := between_ratio small positive small' small''
  have lower := floor_le_value (ratio replicas total weight)
  have upper := value_lt_floor_add_one (ratio replicas total weight)
  generalize (ratio replicas total weight).floor = whole at *
  have positive' : (0 : ℚ) < total := by exact_mod_cast positive
  have exact_mul : (replicas : ℚ) * (total : ℚ)⁻¹ * weight * total = replicas * weight := by
    field_simp
  have most : (whole : ℚ) * total ≤ replicas * weight * (1 + 1 / 2 ^ 50) := by
    calc (whole : ℚ) * total
      _ ≤ replicas * (total : ℚ)⁻¹ * weight * (1 + 1 / 2 ^ 50) * total :=
        mul_le_mul_of_nonneg_right (lower.trans below) positive'.le
      _ = replicas * weight * (1 + 1 / 2 ^ 50) := by rw [← exact_mul]; ring
  have least : (replicas : ℚ) * weight * (1 - 1 / 2 ^ 50) ≤ ((whole : ℚ) + 1) * total := by
    calc (replicas : ℚ) * weight * (1 - 1 / 2 ^ 50)
      _ = replicas * (total : ℚ)⁻¹ * weight * (1 - 1 / 2 ^ 50) * total := by rw [← exact_mul]; ring
      _ ≤ ((whole : ℚ) + 1) * total :=
        mul_le_mul_of_nonneg_right (above.trans upper.le) positive'.le
  constructor
  · have : (2 : ℚ) ^ 50 * (total * whole) ≤ (2 ^ 50 + 1) * (replicas * weight) := by linarith
    exact_mod_cast this
  · have : ((2 : ℚ) ^ 50 - 1) * (replicas * weight) ≤ 2 ^ 50 * (total * (whole + 1)) := by linarith
    have casted : ((2 ^ 50 - 1 : ℕ) : ℚ) = 2 ^ 50 - 1 := by norm_num
    rw [← casted] at this
    exact_mod_cast this

/-- Where the weights sum to more than 2^64, every proportion is less than one and rounded down to
nothing. -/
theorem floor_ratio_eq_zero (replicas weight : UInt32) (large : 2 ^ 64 ≤ total) :
    (ratio replicas.toNat total weight.toNat).floor = 0 := by
  have replicas_lt := replicas.toNat_lt
  have weight_lt := weight.toNat_lt
  have below := floor_ratio_anti replicas_lt.le (by decide) large (Nat.le_refl _) weight_lt.le
  obtain ⟨most, _⟩ :=
    floor_ratio_bounds replicas_lt.le (by decide) (Nat.le_refl (2 ^ 64)) weight_lt.le
  have area : replicas.toNat * weight.toNat ≤ (2 ^ 32 - 1) * (2 ^ 32 - 1) :=
    Nat.mul_le_mul (Nat.le_sub_one_of_lt replicas_lt) (Nat.le_sub_one_of_lt weight_lt)
  generalize replicas.toNat * weight.toNat = product at *
  omega

/-- A proportion against the exact one, multiplied out, whatever the weights sum to. -/
theorem proportion_bounds (replicas : UInt32) (positive : 0 < total)
    (part : entry.weight.toNat ≤ total) :
    2 ^ 50 * (total * proportion replicas.toNat total entry) ≤
        (2 ^ 50 + 1) * (replicas.toNat * entry.weight.toNat) ∧
      (2 ^ 50 - 1) * (replicas.toNat * entry.weight.toNat) ≤
        2 ^ 50 * (total * (proportion replicas.toNat total entry + 1)) := by
  have replicas_lt := replicas.toNat_lt
  have within : replicas.toNat * entry.weight.toNat ≤ total * (PolicyEntry.replicaLimit + 1) := by
    rw [Nat.mul_comm]
    exact Nat.mul_le_mul part replicas_lt.le
  rw [proportion_eq]
  rcases Nat.le_total total (2 ^ 64) with small | large
  · obtain ⟨most, least⟩ := floor_ratio_bounds replicas_lt.le positive small (weight_le entry)
    rcases Nat.le_total (ratio replicas.toNat total entry.weight.toNat).floor
      PolicyEntry.replicaLimit with inside | outside
    · rw [min_eq_left inside]
      exact ⟨most, least⟩
    · rw [min_eq_right outside]
      have cut := Nat.mul_le_mul_left total outside
      omega
  · rw [floor_ratio_eq_zero replicas entry.weight large, Nat.zero_min, Nat.mul_zero]
    have area : replicas.toNat * entry.weight.toNat ≤ 2 ^ 32 * 2 ^ 32 :=
      Nat.mul_le_mul replicas_lt.le (weight_le entry)
    omega

end ClusterPlacement.Share
