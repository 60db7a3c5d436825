import ClusterPlacement.Proofs.Share.Levels
import ClusterPlacement.Proofs.Share.Proportion
import Mathlib.Algebra.BigOperators.Ring.List
/-! Shares against exact quotas, where no entry has a bound. Rounding puts a proportion at most one off
the exact proportion rounded down, and never gives out too much in all. What is left over goes to the
first places in the order of weights, one for each. So a share is its quota or one more unless rounding
lost a replica that its place is not given back, or gained one and the place is given another. -/

namespace ClusterPlacement.Share

variable {replicas weights : Nat} {entries : List PolicyEntry} {entry : PolicyEntry} {i j : Nat}

/-- An entry that can have any number of replicas. -/
def Unbounded (entry : PolicyEntry) : Prop := entry.min = none ∧ entry.max = none

instance (entry : PolicyEntry) : Decidable (Unbounded entry) := inferInstanceAs (Decidable (_ ∧ _))

/-- The exact proportion rounded down. -/
def quota (replicas total : Nat) (entry : PolicyEntry) : Nat := replicas * entry.weight.toNat / total

/-- The proportions as they are rounded. -/
def proportions (replicas : Nat) (entries : List PolicyEntry) : List Nat :=
  entries.map (proportion replicas (totalWeight entries))

/-- The first places in the order of weights, one for each replica that the proportions leave over. -/
def served (replicas : Nat) (entries : List PolicyEntry) : List Nat :=
  (weightOrder entries.length entries).take (replicas - total (proportions replicas entries))

/-- Every share is its quota or one more. -/
def KeepsQuota (replicas : Nat) (entries : List PolicyEntry) (shares : List Nat) : Prop :=
  ∀ (i : Nat) (entry : PolicyEntry) (share : Nat), entries[i]? = some entry → shares[i]? = some share →
    share = quota replicas (totalWeight entries) entry ∨
      share = quota replicas (totalWeight entries) entry + 1

/-- A replica lost to rounding is given back to its place, and a place that has gained one is not
given another. -/
def Recovers (replicas : Nat) (entries : List PolicyEntry) : Prop :=
  ∀ (i : Nat) (entry : PolicyEntry), entries[i]? = some entry →
    (proportion replicas (totalWeight entries) entry < quota replicas (totalWeight entries) entry →
        i ∈ served replicas entries) ∧
      (quota replicas (totalWeight entries) entry < proportion replicas (totalWeight entries) entry →
        i ∉ served replicas entries)

theorem quota_bounds (replicas : Nat) (positive : 0 < weights) (entry : PolicyEntry) :
    weights * quota replicas weights entry ≤ replicas * entry.weight.toNat ∧
      replicas * entry.weight.toNat < weights * (quota replicas weights entry + 1) :=
  ⟨Nat.mul_div_le _ _, Nat.lt_mul_div_succ _ positive⟩

/-- A proportion is at most one off the quota: what rounding can lose or gain is far less than one. -/
theorem proportion_near_quota (replicas : UInt32) (positive : 0 < weights)
    (part : entry.weight.toNat ≤ weights) :
    quota replicas.toNat weights entry ≤ proportion replicas.toNat weights entry + 1 ∧
      proportion replicas.toNat weights entry ≤ quota replicas.toNat weights entry + 1 := by
  obtain ⟨most, least⟩ := proportion_bounds replicas positive part
  obtain ⟨below, above⟩ := quota_bounds replicas.toNat positive entry
  have error : replicas.toNat * entry.weight.toNat < 2 ^ 32 * weights :=
    Nat.mul_lt_mul_of_lt_of_le replicas.toNat_lt part positive
  constructor
  · by_contra short
    have wider : weights * (proportion replicas.toNat weights entry + 2) ≤
        weights * quota replicas.toNat weights entry := Nat.mul_le_mul_left _ (by omega)
    rw [Nat.mul_add] at *
    omega
  · by_contra more
    have wider : weights * (quota replicas.toNat weights entry + 2) ≤
        weights * proportion replicas.toNat weights entry := Nat.mul_le_mul_left _ (by omega)
    rw [Nat.mul_add] at *
    omega

/-- Where the numbers are not too large, rounding gains nothing, and loses nothing unless the exact
proportion is a whole number. -/
theorem proportion_of_small (replicas : UInt32) (positive : 0 < weights)
    (part : entry.weight.toNat ≤ weights) (small : replicas.toNat * entry.weight.toNat < 2 ^ 50) :
    proportion replicas.toNat weights entry ≤ quota replicas.toNat weights entry ∧
      (proportion replicas.toNat weights entry < quota replicas.toNat weights entry →
        weights ∣ replicas.toNat * entry.weight.toNat) := by
  obtain ⟨most, least⟩ := proportion_bounds replicas positive part
  obtain ⟨below, above⟩ := quota_bounds replicas.toNat positive entry
  constructor
  · by_contra more
    have wider : weights * (quota replicas.toNat weights entry + 1) ≤
        weights * proportion replicas.toNat weights entry := Nat.mul_le_mul_left _ (by omega)
    omega
  · intro lost
    have wider : weights * (proportion replicas.toNat weights entry + 1) ≤
        weights * quota replicas.toNat weights entry := Nat.mul_le_mul_left _ lost
    exact ⟨quota replicas.toNat weights entry, by omega⟩

theorem total_eq_sum (values : List Nat) : total values = values.sum := rfl

theorem total_map_mul (factor : Nat) (f : PolicyEntry → Nat) (entries : List PolicyEntry) :
    total (entries.map fun entry => factor * f entry) = factor * total (entries.map f) :=
  List.sum_map_mul_left entries f factor

theorem total_map_add_one (f : PolicyEntry → Nat) (entries : List PolicyEntry) :
    total (entries.map fun entry => f entry + 1) = total (entries.map f) + entries.length := by
  induction entries with
  | nil => rfl
  | cons entry entries ih =>
    simp only [List.map_cons, total_cons, List.length_cons] at ih ⊢
    omega

theorem total_map_le {f g : PolicyEntry → Nat} (below : ∀ entry ∈ entries, f entry ≤ g entry) :
    total (entries.map f) ≤ total (entries.map g) := by
  apply total_mono
  rw [List.forall₂_map_left_iff, List.forall₂_map_right_iff]
  exact List.forall₂_same.2 below

theorem weight_le_totalWeight (member : entry ∈ entries) :
    entry.weight.toNat ≤ totalWeight entries :=
  List.le_sum_of_mem (List.mem_map_of_mem (f := fun entry => entry.weight.toNat) member)

/-- The proportions give out no more than there is, and leave over at most one for each entry. -/
theorem total_proportions (replicas : UInt32) (positive : 0 < totalWeight entries) :
    total (proportions replicas.toNat entries) ≤ replicas.toNat ∧
      replicas.toNat ≤ total (proportions replicas.toNat entries) + entries.length := by
  have each (entry : PolicyEntry) (member : entry ∈ entries) :=
    proportion_bounds replicas positive (weight_le_totalWeight member)
  have most := total_map_le fun entry member => (each entry member).1
  have least := total_map_le fun entry member => (each entry member).2
  simp only [total_map_mul, total_map_add_one] at most least
  change _ * (_ * total (proportions replicas.toNat entries)) ≤ _ * (_ * totalWeight entries) at most
  change _ * (_ * totalWeight entries) ≤
    _ * (_ * (total (proportions replicas.toNat entries) + _)) at least
  have error : replicas.toNat * totalWeight entries < 2 ^ 32 * totalWeight entries :=
    Nat.mul_lt_mul_of_pos_right replicas.toNat_lt positive
  generalize total (proportions replicas.toNat entries) = given at *
  generalize totalWeight entries = weight at *
  rw [Nat.mul_comm replicas.toNat] at *
  constructor
  · by_contra more
    have wider : weight * (replicas.toNat + 1) ≤ weight * given := Nat.mul_le_mul_left _ (by omega)
    rw [Nat.mul_add] at wider
    omega
  · by_contra short
    have wider : weight * (given + entries.length + 1) ≤ weight * replicas.toNat :=
      Nat.mul_le_mul_left _ (by omega)
    rw [Nat.mul_add] at wider
    omega

/-- What comes before one of the first places is one of them too. -/
theorem mem_take_of_precedes {order : List Nat} {count : Nat}
    (ordered : order.Pairwise (Precedes entries)) (member : j ∈ order.take count) (inside : i ∈ order)
    (before : Precedes entries i j) : i ∈ order.take count := by
  rw [← List.take_append_drop count order] at ordered inside
  rcases List.mem_append.1 inside with first | later
  · exact first
  · exact absurd before ((List.pairwise_append.1 ordered).2.2 j member i later).asymm

/-- One more for each place that is served. -/
def extras (replicas : Nat) (entries : List PolicyEntry) : List Nat :=
  (List.range entries.length).map fun i => if i ∈ served replicas entries then 1 else 0

theorem getElem?_extras_eq_some {extra : Nat} : (extras replicas entries)[i]? = some extra ↔
    i < entries.length ∧ extra = if i ∈ served replicas entries then 1 else 0 := by
  rw [extras, List.getElem?_map, Option.map_eq_some_iff]
  constructor
  · rintro ⟨place, found, rfl⟩
    obtain ⟨inside, rfl⟩ := List.getElem?_eq_some_iff.1 found
    rw [List.getElem_range]
    exact ⟨by rwa [List.length_range] at inside, rfl⟩
  · rintro ⟨inside, rfl⟩
    exact ⟨i, List.getElem?_range inside, rfl⟩

theorem total_extras (enough : replicas ≤ total (proportions replicas entries) + entries.length) :
    total (extras replicas entries) = replicas - total (proportions replicas entries) := by
  have order : (weightOrder entries.length entries).Perm (List.range entries.length) :=
    List.mergeSort_perm _ _
  have distinct := nodup_weightOrder entries.length entries
  have length := order.length_eq
  rw [List.length_range] at length
  let count := replicas - total (proportions replicas entries)
  rw [extras, total_eq_sum, ← (order.map _).sum_nat,
    ← List.take_append_drop count (weightOrder entries.length entries), List.map_append,
    List.sum_append]
  have first : ∀ extra ∈ ((weightOrder entries.length entries).take count).map
      (fun i => if i ∈ served replicas entries then 1 else 0), extra = 1 := by
    intro extra member
    obtain ⟨i, place, rfl⟩ := List.mem_map.1 member
    exact if_pos place
  have later : ∀ extra ∈ ((weightOrder entries.length entries).drop count).map
      (fun i => if i ∈ served replicas entries then 1 else 0), extra = 0 := by
    intro extra member
    obtain ⟨i, place, rfl⟩ := List.mem_map.1 member
    exact if_neg fun place' => List.disjoint_take_drop distinct (Nat.le_refl count) place' place
  rw [List.eq_replicate_of_mem first, List.sum_replicate_nat, List.sum_eq_zero later,
    List.length_map, List.length_take, length]
  omega

theorem extras_eq_replicate (none : replicas ≤ total (proportions replicas entries)) :
    extras replicas entries = List.replicate entries.length 0 := by
  have nobody : served replicas entries = [] := by
    rw [served, Nat.sub_eq_zero_of_le none, List.take_zero]
  simp only [extras, nobody, List.not_mem_nil, if_false, List.map_const', List.length_range]

theorem zipWith_add_replicate_zero (values : List Nat) :
    List.zipWith (· + ·) values (List.replicate values.length 0) = values := by
  induction values with
  | nil => rfl
  | cons value values ih =>
    rw [List.length_cons, List.replicate_succ, List.zipWith_cons_cons, ih, Nat.add_zero]

/-- The proportions with the extras. -/
def toppedUp (replicas : Nat) (entries : List PolicyEntry) : List Nat :=
  List.zipWith (· + ·) (proportions replicas entries) (extras replicas entries)

theorem length_toppedUp (replicas : Nat) (entries : List PolicyEntry) :
    (toppedUp replicas entries).length = entries.length := by
  rw [toppedUp, List.length_zipWith, proportions, extras, List.length_map, List.length_map,
    List.length_range, Nat.min_self]

theorem getElem?_toppedUp (replicas : Nat) (here : entries[i]? = some entry) :
    (toppedUp replicas entries)[i]? =
      some (proportion replicas (totalWeight entries) entry +
        if i ∈ served replicas entries then 1 else 0) := by
  refine List.getElem?_zipWith_eq_some.2 ⟨_, _, ?_, ?_, rfl⟩
  · rw [proportions, List.getElem?_map, here, Option.map_some]
  · exact getElem?_extras_eq_some.2 ⟨(List.getElem?_eq_some_iff.1 here).1, rfl⟩

/-- A proportion close to its quota comes within it if what is lost is given back, and only then. -/
theorem add_eq_quota_iff {raw quota : Nat} (low : quota ≤ raw + 1) (high : raw ≤ quota + 1)
    (given : Prop) [Decidable given] :
    (raw + (if given then 1 else 0) = quota ∨ raw + (if given then 1 else 0) = quota + 1) ↔
      (raw < quota → given) ∧ (quota < raw → ¬given) := by
  by_cases gives : given
  · simp only [gives, if_true, implies_true, not_true_eq_false, imp_false, true_and]
    omega
  · simp only [gives, if_false, not_false_eq_true, implies_true, imp_false, and_true]
    omega

theorem keepsQuota_toppedUp_iff (replicas : UInt32) (positive : 0 < totalWeight entries) :
    KeepsQuota replicas.toNat entries (toppedUp replicas.toNat entries) ↔
      Recovers replicas.toNat entries := by
  have each {i : Nat} {entry : PolicyEntry} (here : entries[i]? = some entry) := by
    obtain ⟨low, high⟩ :=
      proportion_near_quota replicas positive (weight_le_totalWeight (List.mem_of_getElem? here))
    exact add_eq_quota_iff low high (i ∈ served replicas.toNat entries)
  constructor
  · intro keeps i entry here
    exact (each here).1 (keeps i entry _ here (getElem?_toppedUp replicas.toNat here))
  · intro recovers i entry share here found
    obtain rfl := Option.some.inj ((getElem?_toppedUp replicas.toNat here).symm.trans found)
    exact (each here).2 (recovers i entry here)

/-- Whole quotas leave nothing over. -/
theorem total_quotas (positive : 0 < totalWeight entries)
    (whole : ∀ entry ∈ entries, totalWeight entries ∣ replicas * entry.weight.toNat) :
    total (entries.map (quota replicas (totalWeight entries))) = replicas := by
  apply Nat.eq_of_mul_eq_mul_left positive
  calc totalWeight entries * total (entries.map (quota replicas (totalWeight entries)))
    _ = total (entries.map fun entry =>
          totalWeight entries * quota replicas (totalWeight entries) entry) :=
        (total_map_mul _ _ _).symm
    _ = total (entries.map fun entry => replicas * entry.weight.toNat) :=
        congrArg total (List.map_congr_left fun entry member =>
          Nat.mul_div_cancel' (whole entry member))
    _ = totalWeight entries * replicas := (total_map_mul _ _ _).trans (Nat.mul_comm _ _)

theorem eq_quotas_iff_keepsQuota {shares : List Nat} (positive : 0 < totalWeight entries)
    (whole : ∀ entry ∈ entries, totalWeight entries ∣ replicas * entry.weight.toNat)
    (length : shares.length = entries.length) (sum : total shares = replicas) :
    shares = entries.map (quota replicas (totalWeight entries)) ↔
      KeepsQuota replicas entries shares := by
  constructor
  · rintro rfl i entry share here found
    rw [List.getElem?_map, here, Option.map_some] at found
    exact .inl (Option.some.inj found).symm
  · intro keeps
    refine (eq_of_le_of_total_eq ?_ ((total_quotas positive whole).trans sum.symm)).symm
    rw [List.forall₂_map_left_iff, List.forall₂_iff_get]
    refine ⟨length.symm, fun i inside inside' => ?_⟩
    have := keeps i _ _ (List.getElem?_eq_getElem inside) (List.getElem?_eq_getElem inside')
    simp only [List.get_eq_getElem]
    omega

theorem proportion_le (replicas total : Nat) (entry : PolicyEntry) :
    proportion replicas total entry ≤ PolicyEntry.replicaLimit := min_le_right _ _

theorem Unbounded.lowerBound_eq (unbounded : Unbounded entry) : entry.lowerBound = 0 := by
  rw [PolicyEntry.lowerBound, unbounded.1, Option.map_none, Option.getD_none]

theorem Unbounded.upperBound_eq (unbounded : Unbounded entry) :
    entry.upperBound = PolicyEntry.replicaLimit := by
  rw [PolicyEntry.upperBound, unbounded.2, Option.map_none, Option.getD_none]

section WithoutBounds

variable (unbounded : ∀ entry ∈ entries, Unbounded entry)

include unbounded

theorem clamped_eq_proportions (replicas : Nat) :
    clamped replicas entries = proportions replicas entries := by
  apply List.map_congr_left
  intro entry member
  have within := proportion_le replicas (totalWeight entries) entry
  simp only [clampTo, (unbounded entry member).lowerBound_eq, (unbounded entry member).upperBound_eq,
    Nat.not_lt_zero, if_false, Nat.not_lt.2 within]

theorem not_unshareable_of_unbounded (positive : 0 < totalWeight entries) :
    ¬Unshareable entries := by
  rintro (⟨entry, member, empty⟩ | none)
  · rw [(unbounded entry member).lowerBound_eq] at empty
    exact absurd empty (Nat.not_lt_zero _)
  · exact absurd none positive.ne'

theorem fits_proportions (replicas : Nat) (positive : 0 < totalWeight entries) :
    Fits (proportions replicas entries) entries := by
  rw [← clamped_eq_proportions unbounded]
  exact fits_clampTo _ (not_unshareable_of_unbounded unbounded positive)

theorem le_greatestTotal_of_unbounded (replicas : UInt32) (positive : 0 < totalWeight entries) :
    replicas.toNat ≤ greatestTotal entries := by
  have nonempty : entries ≠ [] := by
    rintro rfl
    exact absurd positive (Nat.lt_irrefl 0)
  obtain ⟨entry, member⟩ := List.exists_mem_of_ne_nil entries nonempty
  have one := List.le_sum_of_mem (List.mem_map_of_mem (f := (·.upperBound)) member)
  rw [(unbounded entry member).upperBound_eq] at one
  exact (Nat.le_sub_one_of_lt replicas.toNat_lt).trans one

/-- While replicas are left over, every entry has room for one. -/
theorem room_pos_of_unbounded (replicas : UInt32) {room : Nat}
    (spare : total (proportions replicas.toNat entries) < replicas.toNat)
    (found : (roomsFor .up (proportions replicas.toNat entries) entries)[i]? = some room) :
    0 < room := by
  obtain ⟨value, entry, here, there, rfl⟩ := List.getElem?_zipWith_eq_some.1 found
  have limit : replicas.toNat ≤ PolicyEntry.replicaLimit := Nat.le_sub_one_of_lt replicas.toNat_lt
  have part := List.le_sum_of_mem (List.mem_of_getElem? here)
  rw [← total_eq_sum] at part
  rw [Direction.room, (unbounded entry (List.mem_of_getElem? there)).upperBound_eq]
  omega

/-- The extras fill the entries to the first level. -/
theorem extras_fill (replicas : UInt32) (positive : 0 < totalWeight entries)
    (spare : total (proportions replicas.toNat entries) < replicas.toNat) :
    Fills (replicas.toNat - total (proportions replicas.toNat entries)) entries
      (roomsFor .up (proportions replicas.toNat entries) entries) (extras replicas.toNat entries) := by
  have fits := fits_proportions unbounded replicas.toNat positive
  have sum := total_extras (total_proportions replicas positive).2
  have spacious := le_greatestTotal_of_unbounded unbounded replicas positive
  have rooms := total_roomsFor .up fits
  change _ = (greatestTotal entries : Int) at rooms
  simp only [Direction.signed] at rooms
  refine ⟨by omega, 0, ?_, ?_, ?_⟩
  · rw [length_roomsFor .up fits, extras, List.length_map, List.length_range]
  · intro i room move found moved
    obtain ⟨_, rfl⟩ := getElem?_extras_eq_some.1 moved
    have roomy := room_pos_of_unbounded unbounded replicas spare found
    split <;> omega
  · intro i j room before found _ further
    obtain ⟨_, served'⟩ := getElem?_extras_eq_some.1 further
    have first : j ∈ served replicas.toNat entries := by
      by_contra later
      rw [if_neg later] at served'
      omega
    have inside : i < entries.length := by
      rw [← length_roomsFor .up fits]
      exact (List.getElem?_eq_some_iff.1 found).1
    have earlier := mem_take_of_precedes (pairwise_weightOrder _ _) first
      (mem_weightOrder.2 inside) before
    exact getElem?_extras_eq_some.2 ⟨inside, (if_pos earlier).symm⟩

/-- Without bounds a share is the proportion, and one more for each place that is served. -/
theorem weighted_unbounded (replicas : UInt32) (positive : 0 < totalWeight entries) :
    weighted replicas.toNat entries = .ok (toppedUp replicas.toNat entries) := by
  have shareable := not_unshareable_of_unbounded unbounded positive
  have start := clamped_eq_proportions unbounded replicas.toNat
  obtain ⟨most, _⟩ := total_proportions replicas positive
  rcases Nat.lt_or_eq_of_le most with spare | none
  · have fills := extras_fill unbounded replicas positive spare
    let owed : Int := (replicas.toNat : Int) - total (proportions replicas.toNat entries)
    have toward : Direction.toward owed = .up := if_pos (by omega)
    have amount : owed.natAbs = replicas.toNat - total (proportions replicas.toNat entries) := by omega
    rw [← amount, ← toward] at fills
    have shares := weighted_of_fills shareable start rfl fills
    rwa [toward] at shares
  · have length : entries.length = (proportions replicas.toNat entries).length := by
      rw [proportions, List.length_map]
    rw [toppedUp, extras_eq_replicate none.ge, length, zipWith_add_replicate_zero, weighted_eq_ok_iff]
    refine ⟨shareable, ?_⟩
    change _ = redistribute (clamped replicas.toNat entries) entries
      ((replicas.toNat : Int) - total (clamped replicas.toNat entries))
    rw [start, none, Int.sub_self, redistribute_zero]

theorem total_of_weighted (replicas : UInt32) (positive : 0 < totalWeight entries)
    {shares : List Nat} (succeeds : weighted replicas.toNat entries = .ok shares) :
    total shares = replicas.toNat := by
  obtain ⟨shareable, rfl⟩ := weighted_eq_ok_iff.1 succeeds
  have allotted := (ofProportions_allots (proportion replicas.toNat (totalWeight entries))
    replicas.toNat shareable).clamped
  have least := (fits_proportions unbounded replicas.toNat positive).leastTotal_le
  have most := (total_proportions replicas positive).1
  have spacious := le_greatestTotal_of_unbounded unbounded replicas positive
  omega

end WithoutBounds

/-- Without bounds every share is its quota or one more exactly where rounding lost or gained no replica
that the remainder does not make up for. Where every exact proportion is a whole number the shares are
these numbers exactly then. In any case no share is more than one below its quota or two above. -/
theorem keepsQuota_iff (unbounded : ∀ entry ∈ entries, Unbounded entry) (replicas : UInt32)
    (positive : 0 < totalWeight entries) :
    ∃ shares, weighted replicas.toNat entries = .ok shares ∧ shares.length = entries.length ∧
      (KeepsQuota replicas.toNat entries shares ↔ Recovers replicas.toNat entries) ∧
      ((∀ entry ∈ entries, totalWeight entries ∣ replicas.toNat * entry.weight.toNat) →
        (shares = entries.map (quota replicas.toNat (totalWeight entries)) ↔
          Recovers replicas.toNat entries)) ∧
      ∀ (i : Nat) (entry : PolicyEntry) (share : Nat), entries[i]? = some entry →
        shares[i]? = some share →
          quota replicas.toNat (totalWeight entries) entry ≤ share + 1 ∧
            share ≤ quota replicas.toNat (totalWeight entries) entry + 2 := by
  have succeeds := weighted_unbounded unbounded replicas positive
  have keeps := keepsQuota_toppedUp_iff replicas positive
  refine ⟨_, succeeds, length_toppedUp _ _, keeps, ?_, ?_⟩
  · intro whole
    exact (eq_quotas_iff_keepsQuota positive whole (length_toppedUp _ _)
      (total_of_weighted unbounded replicas positive succeeds)).trans keeps
  · intro i entry share here found
    obtain rfl := Option.some.inj ((getElem?_toppedUp replicas.toNat here).symm.trans found)
    have close :=
      proportion_near_quota replicas positive (weight_le_totalWeight (List.mem_of_getElem? here))
    split <;> omega

/-- Nothing has to be made up for where the numbers are not too large and no exact proportion is a whole
number other than zero. -/
theorem recovers_of_small (replicas : UInt32) (positive : 0 < totalWeight entries)
    (small : ∀ entry ∈ entries, replicas.toNat * entry.weight.toNat < 2 ^ 50)
    (fraction : ∀ entry ∈ entries, totalWeight entries ∣ replicas.toNat * entry.weight.toNat →
      replicas.toNat * entry.weight.toNat = 0) : Recovers replicas.toNat entries := by
  intro i entry here
  have member := List.mem_of_getElem? here
  obtain ⟨most, whole⟩ :=
    proportion_of_small replicas positive (weight_le_totalWeight member) (small entry member)
  constructor
  · intro lost
    rw [quota, fraction entry member (whole lost), Nat.zero_div] at lost
    exact absurd lost (Nat.not_lt_zero _)
  · intro gained
    exact absurd most (Nat.not_le.2 gained)

def oneThreeOne : List PolicyEntry :=
  [⟨none, none, 1, none, none⟩, ⟨none, none, 3, none, none⟩, ⟨none, none, 1, none, none⟩]

theorem keepsQuota_iff_oneThreeOne : (∀ entry ∈ oneThreeOne, Unbounded entry) ∧
    0 < totalWeight oneThreeOne ∧ ∃ shares, weighted (7 : UInt32).toNat oneThreeOne = .ok shares ∧
      KeepsQuota (7 : UInt32).toNat oneThreeOne shares := by
  have unbounded : ∀ entry ∈ oneThreeOne, Unbounded entry := by decide
  have positive : 0 < totalWeight oneThreeOne := by decide
  have recovers : Recovers (7 : UInt32).toNat oneThreeOne :=
    recovers_of_small 7 positive (by decide) (by decide)
  obtain ⟨shares, succeeds, _, keeps, _⟩ := keepsQuota_iff unbounded 7 positive
  exact ⟨unbounded, positive, shares, succeeds, keeps.2 recovers⟩

/-- Entries to which 12 replicas fall as exactly 3 and 9. The 3 are rounded down to 2, and the first place
in the order of weights is the second entry. -/
def threeAndNine : List PolicyEntry :=
  [⟨none, none, 47, none, none⟩, ⟨none, none, 141, none, none⟩]

theorem lost_from_threeAndNine :
    (∀ entry ∈ threeAndNine, Unbounded entry ∧
      totalWeight threeAndNine ∣ (12 : UInt32).toNat * entry.weight.toNat) ∧
      threeAndNine.map (quota (12 : UInt32).toNat (totalWeight threeAndNine)) = [3, 9] ∧
      weighted (12 : UInt32).toNat threeAndNine = .ok [2, 10] := by
  have start : clamped 12 threeAndNine = [2, 9] := by decide +kernel
  have fills : Fills (1 : Int).natAbs threeAndNine (roomsFor (.toward 1) [2, 9] threeAndNine) [0, 1] :=
    ⟨by decide, 0, by decide⟩
  exact ⟨by decide, by decide, weighted_of_fills (by decide) start (by decide) fills⟩

end ClusterPlacement.Share
