import ClusterPlacement.Proofs.Share.Bounds
/-! No replica is lost while shares are levelled out: what the values have moved and what is still owed
add up to the same number after the even step and after every turn of a round. A round only stops when
nothing is owed or no value has room, so the shares sum to the replicas asked for, as far as the bounds
let them. None of this depends on how the proportions were rounded. -/

namespace ClusterPlacement.Share

variable {d : Direction} {entries : List PolicyEntry} {values : List Nat}

theorem stepAll_fits (d : Direction) (step : Nat) (fits : Fits values entries) :
    Fits (stepAll d step values entries) entries := by
  induction fits with
  | nil => exact .nil
  | cons within _ ih => exact .cons (d.move_within within (Nat.min_le_right _ _)) ih

/-- What the values that meet their bound leave over makes up for what they do not move. -/
theorem total_stepAll (d : Direction) (step : Nat) (fits : Fits values entries) :
    (total (stepAll d step values entries) : Int) + d.signed (shortfall d step values entries) =
      total values + d.signed (step * values.length) := by
  induction fits with
  | nil => simp [stepAll, shortfall]
  | @cons value entry values entries within _ ih =>
    have moved := d.move_eq_add_signed within (Nat.min_le_right step _)
    have whole : step = min step (d.room value entry) + (step - min step (d.room value entry)) := by
      omega
    have split := congrArg d.signed whole
    rw [Direction.signed_add] at split
    simp only [stepAll, shortfall, total_cons, List.length_cons, Nat.mul_add, Nat.mul_one,
      Direction.signed_add]
    push_cast
    omega

theorem mem_weightOrder {count place : Nat} : place ∈ weightOrder count entries ↔ place < count := by
  simp [weightOrder]

namespace Round

variable {r next : Round} {target : Int}

/-- Everything a turn can do: the place whose turn it is has no room and leaves the order, or its value
moves by one. Past the end of the order the turn is the first place's again. -/
theorem step_cases (h : r.step d entries = some next) :
    ∃ turn place, turn = (if r.order.length ≤ r.turn then 0 else r.turn) ∧
      r.order[turn]? = some place ∧ 0 < r.owed ∧
      ((roomAt d entries r.values place = 0 ∧
          next = { r with order := r.order.eraseIdx turn, turn := turn }) ∨
        ∃ value entry, r.values[place]? = some value ∧ entries[place]? = some entry ∧
          0 < d.room value entry ∧
          next = ⟨r.values.set place (d.move value 1), r.order, turn + 1, r.owed - 1⟩) := by
  unfold step at h
  split at h
  case isTrue => simp at h
  case isFalse owes =>
    simp only at h
    split at h
    case h_1 => simp at h
    case h_2 place found =>
      refine ⟨_, place, rfl, found, Nat.pos_of_ne_zero owes, ?_⟩
      split at h
      case h_1 value entry here there =>
        split at h
        case isTrue full =>
          exact .inl ⟨by simpa only [roomAt, here, there] using full, (Option.some.inj h).symm⟩
        case isFalse room =>
          exact .inr ⟨value, entry, here, there, Nat.pos_of_ne_zero room, (Option.some.inj h).symm⟩
      case h_2 missing =>
        refine .inl ⟨?_, (Option.some.inj h).symm⟩
        unfold roomAt
        split
        case h_1 value entry here there => exact absurd there (missing value entry here)
        case h_2 => rfl

theorem owed_eq_zero_or_order_eq_nil (h : r.step d entries = none) : r.owed = 0 ∨ r.order = [] := by
  unfold step at h
  split at h
  case isTrue nothing => exact .inl nothing
  case isFalse =>
    right
    simp only at h
    split at h
    case h_1 missing =>
      have := List.getElem?_eq_none_iff.1 missing
      apply List.eq_nil_of_length_eq_zero
      split at this <;> omega
    case h_2 => split at h <;> [split at h; skip] <;> simp at h

/-- The invariant of a round: the values fit, what they sum to with what is owed stays the same, and a
place leaves the order only when it has no room. -/
structure Sound (d : Direction) (entries : List PolicyEntry) (target : Int) (r : Round) : Prop where
  fits : Fits r.values entries
  conserves : (total r.values : Int) + d.signed r.owed = target
  waits : ∀ place, 0 < roomAt d entries r.values place → place ∈ r.order

theorem roomAt_set_of_ne {i place new : Nat} (other : i ≠ place) :
    roomAt d entries (values.set i new) place = roomAt d entries values place := by
  unfold roomAt
  rw [List.getElem?_set_ne other]

theorem Sound.step (sound : r.Sound d entries target) (h : r.step d entries = some next) :
    next.Sound d entries target := by
  obtain ⟨turn, place, -, found, owes, ⟨full, rfl⟩ | ⟨value, entry, here, there, room, rfl⟩⟩ :=
    step_cases h
  -- The place that leaves has no room, so every other place with room stays in the order.
  · refine ⟨sound.fits, sound.conserves, fun other roomy => ?_⟩
    have mem := sound.waits other roomy
    have different : other ≠ place := by
      rintro rfl
      exact absurd full (Nat.ne_of_gt roomy)
    obtain ⟨i, bound, same⟩ := List.mem_iff_getElem.1 mem
    refine List.mem_eraseIdx_iff_getElem?.2 ⟨i, ?_, by rw [← same]; exact List.getElem?_eq_getElem bound⟩
    rintro rfl
    rw [List.getElem?_eq_getElem bound, same] at found
    exact different (Option.some.inj found)
  · have room : 1 ≤ d.room value entry := room
    have within := sound.fits.within here there
    have moved := d.move_eq_add_signed within room
    have sum := total_set here (d.move value 1)
    have owed : r.owed = r.owed - 1 + 1 := by omega
    have conserves := sound.conserves
    rw [owed, Direction.signed_add] at conserves
    refine ⟨sound.fits.set there (d.move_within within room), by simp only; omega, ?_⟩
    intro other roomy
    by_cases same : place = other
    · subst same
      exact List.mem_of_getElem? found
    · rw [roomAt_set_of_ne same] at roomy
      exact sound.waits other roomy

theorem Sound.run (sound : r.Sound d entries target) : (r.run d entries).Sound d entries target := by
  fun_induction Round.run d entries r with
  | case1 => exact sound
  | case2 _ _ found ih => exact ih (sound.step found)

theorem step_run : (r.run d entries).step d entries = none := by
  fun_induction Round.run d entries r with
  | case1 _ stops => exact stops
  | case2 _ _ _ ih => exact ih

theorem total_of_no_room (fits : Fits values entries)
    (full : ∀ place, roomAt d entries values place = 0) :
    total values = total (entries.map d.bound) := by
  induction fits with
  | nil => rfl
  | cons within _ ih =>
    have first := d.eq_bound_of_room_eq_zero within (by simpa [roomAt] using full 0)
    have rest := ih fun place => by simpa [roomAt] using full (place + 1)
    simp only [List.map_cons, total_cons, ← first, rest]

/-- Where a round stops, the values sum to what is aimed at, or to the bound that is in the way. -/
theorem Sound.total_eq_clamp (sound : r.Sound d entries target) (stops : r.step d entries = none) :
    (total r.values : Int) = max ↑(leastTotal entries) (min target ↑(greatestTotal entries)) := by
  have least := sound.fits.leastTotal_le
  have greatest := sound.fits.le_greatestTotal
  have conserves := sound.conserves
  rcases owed_eq_zero_or_order_eq_nil stops with nothing | nobody
  · rw [nothing, Direction.signed_zero] at conserves
    omega
  · have full : ∀ place, roomAt d entries r.values place = 0 := by
      intro place
      by_contra room
      have := sound.waits place (Nat.pos_of_ne_zero room)
      simp [nobody] at this
    have meets := total_of_no_room sound.fits full
    cases d with
    | up =>
      change total r.values = greatestTotal entries at meets
      simp only [Direction.signed] at conserves
      omega
    | down =>
      change total r.values = leastTotal entries at meets
      simp only [Direction.signed] at conserves
      omega

end Round

theorem sound_start (d : Direction) (owed : Nat) (fits : Fits values entries) :
    Round.Sound d entries (total values + d.signed owed)
      ⟨stepAll d (owed / values.length) values entries, weightOrder values.length entries, 0,
        owed % values.length + shortfall d (owed / values.length) values entries⟩ := by
  have moved := total_stepAll d (owed / values.length) fits
  have stepped := stepAll_fits d (owed / values.length) fits
  refine ⟨stepped, ?_, fun place room => mem_weightOrder.2 ?_⟩
  · have parts := congrArg d.signed (Nat.div_add_mod' owed values.length)
    rw [Direction.signed_add] at parts
    simp only [Direction.signed_add]
    omega
  · obtain ⟨_, _, here, _⟩ := Round.roomAt_pos room
    have inside := (List.getElem?_eq_some_iff.1 here).1
    rwa [stepped.length_eq, ← fits.length_eq] at inside

theorem redistribute_spec (owed : Int) (fits : Fits values entries) :
    Fits (redistribute values entries owed) entries ∧
      (total (redistribute values entries owed) : Int) =
        max ↑(leastTotal entries) (min (total values + owed) ↑(greatestTotal entries)) := by
  have least := fits.leastTotal_le
  have greatest := fits.le_greatestTotal
  unfold redistribute
  split
  case isTrue idle =>
    refine ⟨fits, ?_⟩
    rcases idle with nobody | nothing
    · have : values = [] := by simpa using nobody
      subst this
      cases fits
      simp only [leastTotal, greatestTotal, List.map_nil, total_nil]
      omega
    · omega
  case isFalse =>
    let d : Direction := if 0 < owed then .up else .down
    have signed : d.signed owed.natAbs = owed := by
      simp only [d]
      split <;> simp only [Direction.signed] <;> omega
    have sound := (sound_start d owed.natAbs fits).run
    rw [signed] at sound
    simp only
    rw [Round.values_finish (nodup_weightOrder _ _)]
    exact ⟨sound.fits, sound.total_eq_clamp Round.step_run⟩

/-- Entries by whose weights nothing can be shared. -/
def Unshareable (entries : List PolicyEntry) : Prop :=
  (∃ entry ∈ entries, entry.upperBound < entry.lowerBound) ∨ totalWeight entries = 0

instance (entries : List PolicyEntry) : Decidable (Unshareable entries) :=
  inferInstanceAs (Decidable (_ ∨ _))

/-- Shares as they should be: within bounds, and in sum what was asked for as far as the sums of the
bounds allow it. -/
structure Allots (replicas : Nat) (entries : List PolicyEntry) (values : List Nat) : Prop where
  fits : Fits values entries
  clamped : total values = max (leastTotal entries) (min replicas (greatestTotal entries))

theorem fault?_eq_none_iff : fault? entries = none ↔ ¬Unshareable entries := by
  have ordered : (∀ pair ∈ entries.zipIdx, pair.1.lowerBound ≤ pair.1.upperBound) ↔
      ∀ entry ∈ entries, entry.lowerBound ≤ entry.upperBound := by
    constructor
    · intro h entry member
      obtain ⟨i, bound, rfl⟩ := List.mem_iff_getElem.1 member
      exact h (entries[i], i) (List.mk_mem_zipIdx_iff_getElem?.2 (List.getElem?_eq_getElem bound))
    · intro h pair member
      exact h pair.1 (List.fst_mem_of_mem_zipIdx member)
  simp only [fault?, Option.or_eq_none_iff, List.findSome?_eq_none_iff, ite_eq_right_iff,
    reduceCtorEq, imp_false, Nat.not_lt, Unshareable, not_or, not_exists, not_and, ← ordered]

theorem clampTo_within {entry : PolicyEntry} (ordered : entry.lowerBound ≤ entry.upperBound)
    (value : Nat) : WithinBounds (clampTo entry value) entry := by
  unfold clampTo WithinBounds
  split <;> [skip; split] <;> omega

/-- Proportions fit once they are brought into the bounds. -/
theorem fits_clampTo (raw : PolicyEntry → Nat) (shareable : ¬Unshareable entries) :
    Fits (entries.map fun entry => clampTo entry (raw entry)) entries := by
  refine List.forall₂_map_left_iff.2 (List.forall₂_same.2 fun entry member => ?_)
  exact clampTo_within (Nat.not_lt.1 fun empty => shareable (.inl ⟨entry, member, empty⟩)) _

/-- Whatever the proportions are, the shares made of them are as they should be. -/
theorem ofProportions_allots (raw : PolicyEntry → Nat) (replicas : Nat)
    (shareable : ¬Unshareable entries) :
    Allots replicas entries (ofProportions raw replicas entries) := by
  obtain ⟨stays, sum⟩ := redistribute_spec
    ((replicas : Int) - total (entries.map fun entry => clampTo entry (raw entry)))
    (fits_clampTo raw shareable)
  refine ⟨stays, ?_⟩
  simp only [ofProportions]
  omega

theorem weighted_eq_ok_iff {replicas : Nat} :
    weighted replicas entries = .ok values ↔
      ¬Unshareable entries ∧
        values = ofProportions (proportion replicas (totalWeight entries)) replicas entries := by
  rw [← fault?_eq_none_iff]
  unfold weighted
  cases fault? entries <;> simp [eq_comm]

theorem weighted_eq_error_iff {replicas : Nat} :
    (∃ fault, weighted replicas entries = .error (.invalidPolicy fault)) ↔ Unshareable entries := by
  rw [← not_iff_not, ← fault?_eq_none_iff]
  unfold weighted
  cases fault? entries <;> simp

/-- Sharing by weight is refused exactly where a range is empty or there is no weight, and succeeds
everywhere else with shares as they should be, however the proportions were rounded. -/
theorem weighted_allots (replicas : UInt32) (entries : List PolicyEntry) :
    ((∃ fault, weighted replicas.toNat entries = .error (.invalidPolicy fault)) ↔
        Unshareable entries) ∧
      (¬Unshareable entries → ∃ values, weighted replicas.toNat entries = .ok values) ∧
      (∀ values, weighted replicas.toNat entries = .ok values →
        values.length = entries.length ∧ Allots replicas.toNat entries values ∧
          (leastTotal entries ≤ replicas.toNat → replicas.toNat ≤ greatestTotal entries →
            total values = replicas.toNat) ∧
          (greatestTotal entries < replicas.toNat → total values = greatestTotal entries) ∧
          (replicas.toNat < leastTotal entries → total values = leastTotal entries)) ∧
      ∀ raw : PolicyEntry → Nat, ¬Unshareable entries →
        Allots replicas.toNat entries (ofProportions raw replicas.toNat entries) := by
  refine ⟨weighted_eq_error_iff, fun shareable => ⟨_, weighted_eq_ok_iff.2 ⟨shareable, rfl⟩⟩, ?_,
    fun raw shareable => ofProportions_allots raw _ shareable⟩
  intro values succeeds
  obtain ⟨shareable, rfl⟩ := weighted_eq_ok_iff.1 succeeds
  have allots := ofProportions_allots (proportion replicas.toNat (totalWeight entries))
    replicas.toNat shareable
  have least := allots.fits.leastTotal_le
  have greatest := allots.fits.le_greatestTotal
  have clamped := allots.clamped
  exact ⟨allots.fits.length_eq, allots, by omega, by omega, by omega⟩

/-- Entries of which the middle one cannot take a third of the replicas. -/
def narrowMiddle : List PolicyEntry :=
  [⟨none, none, 5, some 3, some 15⟩, ⟨none, none, 8, some 4, some 6⟩, ⟨none, none, 5, some 3, some 15⟩]

theorem weighted_allots_narrowMiddle : ¬Unshareable narrowMiddle ∧
    ∃ values, weighted (20 : UInt32).toNat narrowMiddle = .ok values ∧
      values.length = 3 ∧ total values = 20 := by
  have shareable : ¬Unshareable narrowMiddle := by decide
  obtain ⟨_, succeeds, allots, _⟩ := weighted_allots 20 narrowMiddle
  obtain ⟨values, found⟩ := succeeds shareable
  obtain ⟨length, _, met, _⟩ := allots values found
  exact ⟨shareable, values, found, length, met (by decide) (by decide)⟩

end ClusterPlacement.Share
