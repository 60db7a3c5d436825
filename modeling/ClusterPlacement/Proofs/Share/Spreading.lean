import ClusterPlacement.Proofs.Share.Levels
import ClusterPlacement.Proofs.Share.Words
/-! Machine words are enough to spread an amount. As long as the values keep their bounds, and what is owed
now and in the even steps to come is no more than the amount, the next step has a result and keeps both.
Every step is nearer to the end than the one before it, and on the way to the values of exact numbers. -/

namespace ClusterPlacement.Share

namespace Spreading

variable {d : Direction} {entries : List PolicyEntry} {fill : BitVec 64} {value : BitVec 32}
  {entry : PolicyEntry} {s s' : Spreading} {amount place turn : Nat} {order : List Nat}

/-- How much more the even steps to come can add to what is owed. -/
def pending (fill : BitVec 64) (s : Spreading) : Nat :=
  match s.phase with
  | .even place => fill.toNat * (s.values.length - place)
  | _ => 0

/-- The round that a state leads into, in exact numbers. -/
def round (d : Direction) (entries : List PolicyEntry) (fill : BitVec 64) (s : Spreading) : Round :=
  match s.phase with
  | .even place =>
    let ahead := (numbers s.values).drop place
    ⟨(numbers s.values).take place ++ stepAll d fill.toNat ahead (entries.drop place),
      weightOrder s.values.length entries, 0,
      s.owed.toNat + shortfall d fill.toNat ahead (entries.drop place)⟩
  | .ordering => ⟨numbers s.values, weightOrder s.values.length entries, 0, s.owed.toNat⟩
  | .turns order turn => ⟨numbers s.values, order, turn, s.owed.toNat⟩
  | .done => ⟨numbers s.values, [], 0, 0⟩

/-- The values that a state leads to, in exact numbers. -/
def outcome (d : Direction) (entries : List PolicyEntry) (fill : BitVec 64) (s : Spreading) : List Nat :=
  ((s.round d entries fill).run d entries).values

/-- A bound on the steps that can still come. -/
def stepsLeft (fill : BitVec 64) (s : Spreading) : Nat :=
  match s.phase with
  | .even place => s.owed.toNat + s.pending fill + (s.values.length - place) + s.values.length + 3
  | .ordering => s.owed.toNat + s.values.length + 2
  | .turns order _ => s.owed.toNat + order.length + 1
  | .done => 0

/-- The invariant of spreading an amount. -/
structure Sound (entries : List PolicyEntry) (fill : BitVec 64) (amount : Nat) (s : Spreading) : Prop where
  fits : Fits (numbers s.values) entries
  owes : s.owed.toNat + s.pending fill ≤ amount
  inside : ∀ order turn, s.phase = .turns order turn → ∀ place ∈ order, place < s.values.length

/-- A state that is sound after another one, nearer to the end and on the way to the same values. -/
structure Follows (d : Direction) (entries : List PolicyEntry) (fill : BitVec 64) (amount : Nat)
    (s s' : Spreading) : Prop where
  sound : s'.Sound entries fill amount
  nearer : s'.stepsLeft fill < s.stepsLeft fill
  outcome_eq : s'.outcome d entries fill = s.outcome d entries fill

theorem Sound.length_eq (sound : s.Sound entries fill amount) : s.values.length = entries.length :=
  (length_numbers _).symm.trans sound.fits.length_eq

theorem outcome_of_done (phase : s.phase = .done) : s.outcome d entries fill = numbers s.values := by
  rw [outcome, Round.run_of_step_eq_none (Round.step_eq_none (.inr (by simp only [round, phase])))]
  simp only [round, phase]

theorem round_of_turns (phase : s.phase = .turns order turn) :
    s.round d entries fill = ⟨numbers s.values, order, turn, s.owed.toNat⟩ := by
  simp only [round, phase]

theorem Sound.end_turns (sound : s.Sound entries fill amount) (phase : s.phase = .turns order turn)
    (ends : s.owed = 0 ∨ order = []) :
    Follows d entries fill amount s { s with phase := .done } := by
  have owing := sound.owes
  simp only [pending, phase] at owing
  refine ⟨⟨sound.fits, owing, nofun⟩, by simp only [stepsLeft, phase]; omega, ?_⟩
  have stops : (s.round d entries fill).step d entries = none := by
    rw [round_of_turns phase]
    exact Round.step_eq_none (ends.imp_left fun zero => congrArg BitVec.toNat zero)
  rw [outcome_of_done rfl, outcome, Round.run_of_step_eq_none stops, round_of_turns phase]

theorem Sound.next_turns (sound : s.Sound entries fill amount) (phase : s.phase = .turns order turn) :
    ∃ s', s.next d entries fill = .ok (some s') ∧ Follows d entries fill amount s s' := by
  have inside := sound.inside order turn phase
  by_cases ends : s.owed = 0 ∨ order = []
  · refine ⟨_, ?_, sound.end_turns phase ends⟩
    simp only [next, phase, if_pos ends]
    rfl
  · obtain ⟨owes, waits⟩ := not_or.1 ends
    obtain ⟨s', order', turn', taken, phase', exact⟩ :=
      takeTurn_eq d turn sound.fits inside owes waits
    obtain ⟨fits, less, stays⟩ := Round.step_keeps exact sound.fits
    refine ⟨s', ?_, ⟨fits, ?_, ?_⟩, ?_, ?_⟩
    · simp only [next, phase, if_neg ends, taken]
      rfl
    · have owing := sound.owes
      simp only [pending, phase] at owing
      simp only [pending, phase']
      exact Nat.le_trans less owing
    · intro order'' turn'' same place member
      obtain ⟨rfl, rfl⟩ := Phase.turns.inj (phase'.symm.trans same)
      have length : s'.values.length = s.values.length := by
        rw [← length_numbers, ← length_numbers, fits.length_eq, sound.fits.length_eq]
      exact length ▸ inside place (stays place member)
    -- A turn uses up a replica or a place of the order.
    · have used := Round.turnsLeft_step exact
      simp only [Round.turnsLeft] at used
      simp only [stepsLeft, phase, phase']
      omega
    · rw [outcome, outcome, round_of_turns phase, round_of_turns phase', Round.run_of_step_eq_some exact]

theorem Sound.next_ordering (sound : s.Sound entries fill amount) (phase : s.phase = .ordering) :
    ∃ s', s.next d entries fill = .ok (some s') ∧ Follows d entries fill amount s s' := by
  have owing := sound.owes
  simp only [pending, phase] at owing
  have ordered := orderOf_eq (Nat.le_of_eq sound.length_eq)
  refine ⟨{ s with phase := .turns (weightOrder s.values.length entries) 0 }, ?_,
    ⟨sound.fits, owing, ?_⟩, ?_, ?_⟩
  · simp only [next, phase, ordered]
    rfl
  · intro order turn same place member
    obtain ⟨rfl, rfl⟩ := Phase.turns.inj same
    exact mem_weightOrder.1 member
  · have length : (weightOrder s.values.length entries).length = s.values.length := by
      simp [weightOrder]
    simp only [stepsLeft, phase, length]
    omega
  · simp only [outcome, round, phase]

/-- The even step of one value leads into the same round as the even steps of all values from there on. -/
theorem round_even {moved : BitVec 32} {rest : BitVec 64} (phase : s.phase = .even place)
    (here : s.values[place]? = some value) (there : entries[place]? = some entry)
    (moves : moved.toNat = d.move value.toNat (min fill.toNat (d.room value.toNat entry)))
    (leaves : rest.toNat = s.owed.toNat + (fill.toNat - min fill.toNat (d.room value.toNat entry))) :
    round d entries fill ⟨.even (place + 1), s.values.set place moved, rest⟩ =
      s.round d entries fill := by
  obtain ⟨inside, number⟩ := List.getElem?_eq_some_iff.1 (getElem?_numbers here)
  obtain ⟨listed, rfl⟩ := List.getElem?_eq_some_iff.1 there
  have ahead : (numbers s.values).drop place = value.toNat :: (numbers s.values).drop (place + 1) := by
    rw [List.drop_eq_getElem_cons inside, number]
  have front : ((numbers s.values).set place moved.toNat).take (place + 1) =
      (numbers s.values).take place ++ [moved.toNat] := by
    rw [List.take_add_one, List.take_set_of_le (Nat.le_refl place), List.getElem?_set_self inside]
    rfl
  have back : ((numbers s.values).set place moved.toNat).drop (place + 1) =
      (numbers s.values).drop (place + 1) := by
    rw [List.drop_set, if_pos (Nat.lt_succ_self place)]
  simp only [round, phase, numbers_set, front, back, List.length_set, ahead,
    List.drop_eq_getElem_cons listed, stepAll, shortfall, ← moves, leaves]
  simp [Nat.add_assoc]

theorem Sound.end_even (sound : s.Sound entries fill amount) (phase : s.phase = .even place)
    (last : s.values.length ≤ place) :
    Follows d entries fill amount s { s with phase := .ordering } := by
  have owing := sound.owes
  simp only [pending, phase] at owing
  refine ⟨⟨sound.fits, ?_, nofun⟩, by simp only [stepsLeft, phase]; omega, ?_⟩
  · simp only [pending]
    omega
  · rw [← length_numbers] at last
    simp only [outcome, round, phase, List.take_of_length_le last, List.drop_eq_nil_of_le last]
    simp [stepAll, shortfall]

theorem Sound.next_even (sound : s.Sound entries fill amount) (small : amount < 2 ^ 64)
    (phase : s.phase = .even place) :
    ∃ s', s.next d entries fill = .ok (some s') ∧ Follows d entries fill amount s s' := by
  by_cases last : s.values.length ≤ place
  · refine ⟨_, ?_, sound.end_even phase last⟩
    simp only [next, phase, List.getElem?_eq_none_iff.2 last]
    rfl
  · have length := sound.length_eq
    obtain ⟨value, valued⟩ : ∃ value, s.values[place]? = some value :=
      ⟨_, List.getElem?_eq_getElem (Nat.not_le.1 last)⟩
    obtain ⟨entry, listed⟩ : ∃ entry, entries[place]? = some entry :=
      ⟨_, List.getElem?_eq_getElem (length ▸ Nat.not_le.1 last)⟩
    have within := sound.fits.within (getElem?_numbers valued) listed
    have ahead : s.values.length - place = s.values.length - (place + 1) + 1 := by omega
    -- What is owed has room for the whole of this even step, and so for what it leaves over.
    have owing := sound.owes
    simp only [pending, phase, ahead, Nat.mul_succ] at owing
    have roomy : s.owed.toNat + fill.toNat < 2 ^ 64 := by omega
    obtain ⟨moved, rest, stepped, there, left⟩ := evenStep_eq d within roomy
    have fits := sound.fits.set listed (d.move_within within (Nat.min_le_right fill.toNat _))
    rw [← there, ← numbers_set] at fits
    refine ⟨⟨.even (place + 1), s.values.set place moved, rest⟩, ?_, ⟨fits, ?_, nofun⟩, ?_, ?_⟩
    · simp only [next, phase, valued, listed, stepped]
      rfl
    · simp only [pending, List.length_set]
      omega
    · simp only [stepsLeft, pending, phase, List.length_set, ahead, Nat.mul_succ]
      omega
    · rw [outcome, outcome, round_even phase valued listed there left]

/-- A sound state is the last one, or the next one follows it. -/
theorem Sound.next_cases (sound : s.Sound entries fill amount) (small : amount < 2 ^ 64) :
    (s.phase = .done ∧ s.next d entries fill = .ok none) ∨
      ∃ s', s.next d entries fill = .ok (some s') ∧ Follows d entries fill amount s s' := by
  cases phase : s.phase with
  | even place => exact .inr (sound.next_even small phase)
  | ordering => exact .inr (sound.next_ordering phase)
  | turns order turn => exact .inr (sound.next_turns phase)
  | done => exact .inl ⟨rfl, by simp only [next, phase]; rfl⟩

end Spreading

section

variable {values : List (BitVec 32)} {entries : List PolicyEntry} {owed : Int64}

theorem natAbs_lt (owed : Int64) : owed.toInt.natAbs < 2 ^ 64 := by
  have lower := owed.le_toInt
  have upper := owed.toInt_lt
  omega

theorem shortfall_zero (d : Direction) (values : List Nat) (entries : List PolicyEntry) :
    shortfall d 0 values entries = 0 := by
  fun_induction shortfall d 0 values entries with
  | case1 _ _ _ _ ih => rw [ih, Nat.zero_sub]
  | case2 => rfl

namespace Spreading

theorem toNat_fillOf (values : List (BitVec 32)) (owed : Int64) :
    (fillOf values owed).toNat = owed.toInt.natAbs / values.length := by
  have le : owed.toInt.natAbs / values.length ≤ owed.toInt.natAbs := Nat.div_le_self _ _
  exact (BitVec.toNat_ofNat _ _).trans (Nat.mod_eq_of_lt (Nat.lt_of_le_of_lt le (natAbs_lt owed)))

theorem toNat_restOf (values : List (BitVec 32)) (owed : Int64) :
    (restOf values owed).toNat = owed.toInt.natAbs % values.length := by
  have le : owed.toInt.natAbs % values.length ≤ owed.toInt.natAbs := Nat.mod_le _ _
  exact (BitVec.toNat_ofNat _ _).trans (Nat.mod_eq_of_lt (Nat.lt_of_le_of_lt le (natAbs_lt owed)))

/-- The even steps and the rest come to the amount. -/
theorem restOf_add_fillOf (values : List (BitVec 32)) (owed : Int64) :
    (restOf values owed).toNat + (fillOf values owed).toNat * values.length = owed.toInt.natAbs := by
  rw [toNat_fillOf, toNat_restOf]
  exact Nat.mod_add_div' _ _

theorem sound_start (fits : Fits (numbers values) entries) :
    (start values owed).Sound entries (fillOf values owed) owed.toInt.natAbs := by
  have whole := restOf_add_fillOf values owed
  unfold start
  split
  case isTrue => exact ⟨fits, Nat.zero_le _, nofun⟩
  case isFalse =>
    split
    case isTrue =>
      refine ⟨fits, ?_, nofun⟩
      simp only [pending]
      omega
    case isFalse =>
      refine ⟨fits, ?_, nofun⟩
      simp only [pending, Nat.sub_zero]
      omega

theorem outcome_start (values : List (BitVec 32)) (entries : List PolicyEntry) (owed : Int64) :
    (start values owed).outcome (.toward owed.toInt) entries (fillOf values owed) =
      redistribute (numbers values) entries owed.toInt := by
  have nothing : owed = 0 ↔ owed.toInt = 0 := Int64.toInt_inj.symm
  have nobody : values.isEmpty ↔ (numbers values).isEmpty := by simp [numbers]
  unfold start redistribute
  simp only [nothing, nobody]
  split
  case isTrue => rw [outcome_of_done rfl]
  case isFalse =>
    rw [Round.values_finish (nodup_weightOrder _ _), length_numbers]
    split
    case isTrue few =>
      have zero : owed.toInt.natAbs / values.length = 0 := by
        rw [← toNat_fillOf, few]
        rfl
      simp only [outcome, round, toNat_restOf, zero, stepAll_zero, shortfall_zero]
      rfl
    case isFalse =>
      simp only [outcome, round, toNat_restOf, toNat_fillOf, List.take_zero, List.drop_zero,
        List.nil_append]
      rfl

theorem stepsLeft_start (values : List (BitVec 32)) (owed : Int64) :
    (start values owed).stepsLeft (fillOf values owed) ≤ owed.toInt.natAbs + 2 * values.length + 3 := by
  have whole := restOf_add_fillOf values owed
  unfold start
  split
  case isTrue => exact Nat.zero_le _
  case isFalse =>
    split
    case isTrue =>
      simp only [stepsLeft]
      omega
    case isFalse =>
      simp only [stepsLeft, pending, Nat.sub_zero]
      omega

theorem advance_eq (values : List (BitVec 32)) (entries : List PolicyEntry) (owed : Int64) :
    advance values entries owed = next (.toward owed.toInt) entries (fillOf values owed) := by
  funext s
  simp only [advance, Int64.lt_iff_toInt_lt]
  rfl

/-- Spreading an amount in words meets no fault, keeps values in bounds and never owes more than the
amount. It comes to an end, with the values that exact numbers give. -/
structure Safe (values : List (BitVec 32)) (entries : List PolicyEntry) (owed : Int64) : Prop where
  faultless : ∀ n s, Reaches values entries owed n s → ∃ next, advance values entries owed s = .ok next
  fits : ∀ n s, Reaches values entries owed n s → Fits (numbers s.values) entries
  owes : ∀ n s, Reaches values entries owed n s → s.owed.toNat ≤ owed.toInt.natAbs
  bounded : ∀ n s, Reaches values entries owed n s → n ≤ owed.toInt.natAbs + 2 * values.length + 3
  ends : ∃ n s, Reaches values entries owed n s ∧ advance values entries owed s = .ok none ∧
    numbers s.values = redistribute (numbers values) entries owed.toInt

namespace Reaches

variable {n : Nat} {s : Spreading}

theorem sound (reaches : Reaches values entries owed n s) (fits : Fits (numbers values) entries) :
    s.Sound entries (fillOf values owed) owed.toInt.natAbs ∧
      s.outcome (.toward owed.toInt) entries (fillOf values owed) =
        redistribute (numbers values) entries owed.toInt ∧
      n + s.stepsLeft (fillOf values owed) ≤ owed.toInt.natAbs + 2 * values.length + 3 := by
  induction reaches with
  | start =>
    refine ⟨sound_start fits, outcome_start values entries owed, ?_⟩
    rw [Nat.zero_add]
    exact stepsLeft_start values owed
  | next _ stepped ih =>
    obtain ⟨sound, outcome, few⟩ := ih
    rw [advance_eq] at stepped
    rcases sound.next_cases (d := .toward owed.toInt) (natAbs_lt owed) with
      ⟨_, stops⟩ | ⟨after, stepped', follows⟩
    · cases stepped.symm.trans stops
    · obtain rfl := Option.some.inj (Except.ok.inj (stepped.symm.trans stepped'))
      have nearer := follows.nearer
      exact ⟨follows.sound, follows.outcome_eq.trans outcome, by omega⟩

theorem advance_cases (reaches : Reaches values entries owed n s) (fits : Fits (numbers values) entries) :
    (s.phase = .done ∧ advance values entries owed s = .ok none) ∨
      ∃ s', advance values entries owed s = .ok (some s') ∧
        s'.stepsLeft (fillOf values owed) < s.stepsLeft (fillOf values owed) := by
  rw [advance_eq]
  exact ((reaches.sound fits).1.next_cases (natAbs_lt owed)).imp_right
    fun ⟨after, stepped, follows⟩ => ⟨after, stepped, follows.nearer⟩

/-- From every state the end is reached. -/
theorem ends (reaches : Reaches values entries owed n s) (fits : Fits (numbers values) entries) :
    ∃ n s, Reaches values entries owed n s ∧ s.phase = .done ∧
      advance values entries owed s = .ok none := by
  induction left : s.stepsLeft (fillOf values owed) using Nat.strongRecOn generalizing n s with
  | _ left' ih =>
    rcases reaches.advance_cases fits with ⟨done, stops⟩ | ⟨after, stepped, nearer⟩
    · exact ⟨n, s, reaches, done, stops⟩
    · exact ih _ (left ▸ nearer) (reaches.next stepped) rfl

end Reaches

theorem safe_of_fits (fits : Fits (numbers values) entries) : Safe values entries owed where
  faultless n s reaches := by
    rcases reaches.advance_cases fits with ⟨_, stops⟩ | ⟨after, stepped, _⟩
    · exact ⟨none, stops⟩
    · exact ⟨some after, stepped⟩
  fits n s reaches := (reaches.sound fits).1.fits
  owes n s reaches := Nat.le_trans (Nat.le_add_right _ _) (reaches.sound fits).1.owes
  bounded n s reaches := Nat.le_trans (Nat.le_add_right _ _) (reaches.sound fits).2.2
  ends := by
    obtain ⟨n, s, reaches, done, stops⟩ := Reaches.start.ends fits
    refine ⟨n, s, reaches, stops, ?_⟩
    rw [← outcome_of_done done]
    exact (reaches.sound fits).2.1

end Spreading

end

theorem toNat_clampWord (entry : PolicyEntry) (value : BitVec 32) :
    (clampWord entry value).toNat = clampTo entry value.toNat := by
  simp only [clampWord, clampTo, BitVec.lt_def, entry.toNat_lowerWord, entry.toNat_upperWord]
  split
  · exact entry.toNat_lowerWord
  · split
    · exact entry.toNat_upperWord
    · rfl

theorem numbers_clampedWords (raw : PolicyEntry → BitVec 32) (entries : List PolicyEntry) :
    numbers (clampedWords raw entries) = entries.map fun entry => clampTo entry (raw entry).toNat := by
  simp only [numbers, clampedWords, List.map_map, Function.comp_def, toNat_clampWord]

theorem toNat_proportionWord (replicas total : Nat) (entry : PolicyEntry) :
    (proportionWord replicas total entry).toNat = proportion replicas total entry := by
  have le : proportion replicas total entry ≤ PolicyEntry.replicaLimit := Nat.min_le_right _ _
  exact (BitVec.toNat_ofNat _ _).trans (Nat.mod_eq_of_lt (Nat.lt_of_le_of_lt le (by decide)))

theorem total_numbers_le (values : List (BitVec 32)) :
    total (numbers values) ≤ values.length * (2 ^ 32 - 1) := by
  induction values with
  | nil => exact Nat.le_refl _
  | cons value values ih =>
    have small := value.isLt
    simp only [numbers, List.map_cons, total_cons, List.length_cons] at ih ⊢
    omega

section

variable {entries : List PolicyEntry}

theorem numbers_eq_clamped (replicas : Nat) (entries : List PolicyEntry) :
    numbers (clampedWords (proportionWord replicas (totalWeight entries)) entries) =
      clamped replicas entries := by
  simp only [numbers_clampedWords, toNat_proportionWord]
  rfl

/-- Of no more than so many entries, the shares and what they leave are numbers of 64 bits with a sign. -/
theorem exists_owedAfter (replicas : UInt32) (few : entries.length ≤ 2 ^ 31) :
    ∃ owed : Int64, owed.toInt = owedAfter replicas.toNat entries := by
  have sum := total_numbers_le
    (clampedWords (proportionWord replicas.toNat (totalWeight entries)) entries)
  have asked := replicas.toNat_lt
  rw [numbers_eq_clamped, clampedWords, List.length_map] at sum
  refine ⟨.ofInt (owedAfter replicas.toNat entries), Int64.toInt_ofInt_of_le ?_ ?_⟩
  · simp only [owedAfter]
    omega
  · simp only [owedAfter]
    omega

end

/-- Spreading any amount in words is safe where values start within their bounds. They do so when replicas are
shared by weight, whatever the proportions are and whatever amount they are taken to leave. Of up to two to the
power of 31 entries this amount is a word of 64 bits, and spreading it ends with the shares. -/
theorem spreading_safe (entries : List PolicyEntry) :
    (∀ (values : List (BitVec 32)) (owed : Int64), Fits (numbers values) entries →
      Spreading.Safe values entries owed) ∧
    (¬Unshareable entries →
      (∀ (raw : PolicyEntry → BitVec 32) (owed : Int64),
        Spreading.Safe (clampedWords raw entries) entries owed) ∧
      ∀ replicas : UInt32, entries.length ≤ 2 ^ 31 → ∃ owed : Int64,
        owed.toInt = owedAfter replicas.toNat entries ∧
        let start := clampedWords (proportionWord replicas.toNat (totalWeight entries)) entries
        ∃ n s, Spreading.Reaches start entries owed n s ∧
          Spreading.advance start entries owed s = .ok none ∧
          weighted replicas.toNat entries = .ok (numbers s.values)) := by
  have safe : ¬Unshareable entries → ∀ (raw : PolicyEntry → BitVec 32) (owed : Int64),
      Spreading.Safe (clampedWords raw entries) entries owed := by
    intro shareable raw owed
    refine Spreading.safe_of_fits ?_
    rw [numbers_clampedWords]
    exact fits_clampTo (fun entry => (raw entry).toNat) shareable
  refine ⟨fun values owed fits => Spreading.safe_of_fits fits, fun shareable => ⟨safe shareable, ?_⟩⟩
  intro replicas few
  obtain ⟨owed, exact⟩ := exists_owedAfter replicas few
  obtain ⟨n, s, reaches, stops, shares⟩ := (safe shareable
    (proportionWord replicas.toNat (totalWeight entries)) owed).ends
  refine ⟨owed, exact, n, s, reaches, stops, ?_⟩
  rw [shares, numbers_eq_clamped, exact]
  exact weighted_eq_ok_iff.2 ⟨shareable, rfl⟩

/-- The greatest value there is, and a small one that must not go below three. -/
def greatestAndFive : List (BitVec 32) := [.allOnes 32, 5]

def openAndRaised : List PolicyEntry := [⟨none, none, 1, none, none⟩, ⟨none, none, 2, some 3, none⟩]

/-- The largest surplus there is takes back all that the bounds let go. -/
theorem spreading_safe_largestSurplus : Fits (numbers greatestAndFive) openAndRaised ∧
    ¬Unshareable openAndRaised ∧
    (∃ n s, Spreading.Reaches greatestAndFive openAndRaised Int64.minValue n s ∧
      Spreading.advance greatestAndFive openAndRaised Int64.minValue s = .ok none ∧
      numbers s.values = [0, 3]) ∧
    Spreading.Safe (clampedWords (fun _ => 7) openAndRaised) openAndRaised Int64.minValue ∧
    ∃ s : Spreading, weighted (20 : UInt32).toNat openAndRaised = .ok (numbers s.values) := by
  have fits : Fits (numbers greatestAndFive) openAndRaised :=
    .cons (by decide) (.cons (by decide) .nil)
  have shareable : ¬Unshareable openAndRaised := by decide
  have fills : Fills Int64.minValue.toInt.natAbs openAndRaised
      (roomsFor .down (numbers greatestAndFive) openAndRaised) [4294967295, 2] :=
    ⟨by decide, 4294967295, by decide⟩
  obtain ⟨spreads, shares⟩ := spreading_safe openAndRaised
  obtain ⟨anyway, exactly⟩ := shares shareable
  obtain ⟨n, s, reaches, stops, values⟩ := (spreads greatestAndFive Int64.minValue fits).ends
  obtain ⟨_, _, _, s', _, _, shares⟩ := exactly 20 (by decide)
  exact ⟨fits, shareable, ⟨n, s, reaches, stops, values.trans (fills.redistribute_eq fits)⟩,
    anyway _ _, s', shares⟩

end ClusterPlacement.Share
