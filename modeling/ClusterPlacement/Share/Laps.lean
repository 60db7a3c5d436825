import ClusterPlacement.Share.Round
/-! Whole laps of a round at once. As long as no place of the round meets its bound, a lap moves every
place by one, so any number of laps is a single step; `values_finish` says that the result is the one
of taking turns. -/

namespace ClusterPlacement.Share.Round

variable {d : Direction} {entries : List PolicyEntry} {values order : List Nat} {r next : Round}

/-- How far the value at a place can move. There is no room where there is no such place. -/
def roomAt (d : Direction) (entries : List PolicyEntry) (values : List Nat) (place : Nat) : Nat :=
  match values[place]?, entries[place]? with
  | some value, some entry => d.room value entry
  | _, _ => 0

/-- Moves the values at the given places, each by `step`. -/
def moveAt (d : Direction) (step : Nat) (places values : List Nat) : List Nat :=
  values.mapIdx fun place value => if place ∈ places then d.move value step else value

/-- How many laps go by before a place meets its bound or too little is owed for a lap. -/
def laps (d : Direction) (entries : List PolicyEntry) (r : Round) : Nat :=
  (r.order.map (roomAt d entries r.values)).foldl min (r.owed / r.order.length)

def isAtStart (r : Round) : Bool := r.turn = 0 || r.order.length ≤ r.turn

/-- Where a lap begins, takes as many of them as `laps` gives. -/
def skipLaps (d : Direction) (entries : List PolicyEntry) (r : Round) : Round :=
  if r.isAtStart then
    let count := r.laps d entries
    if count = 0 then r
    else { r with values := moveAt d count r.order r.values, owed := r.owed - count * r.order.length }
  else r

theorem turnsLeft_skipLaps : (r.skipLaps d entries).turnsLeft ≤ r.turnsLeft := by
  simp only [skipLaps]
  split
  · split <;> simp only [turnsLeft] <;> omega
  · exact Nat.le_refl _

/-- The end of a round, by whole laps where that is possible. -/
def finish (d : Direction) (entries : List PolicyEntry) (r : Round) : Round :=
  let ahead := r.skipLaps d entries
  match _ : ahead.step d entries with
  | none => ahead
  | some next => finish d entries next
termination_by r.turnsLeft
decreasing_by
  have := turnsLeft_step ‹_›
  have : ahead.turnsLeft ≤ r.turnsLeft := turnsLeft_skipLaps
  omega

theorem getElem?_moveAt (step : Nat) (places : List Nat) (place : Nat) :
    (moveAt d step places values)[place]? =
      values[place]?.map fun value => if place ∈ places then d.move value step else value := by
  simp [moveAt]

theorem roomAt_pos {place : Nat} (h : 0 < roomAt d entries values place) :
    ∃ value entry, values[place]? = some value ∧ entries[place]? = some entry ∧
      0 < d.room value entry := by
  unfold roomAt at h
  split at h
  case h_1 value entry hv he => exact ⟨value, entry, hv, he, h⟩
  case h_2 => simp at h

theorem roomAt_moveAt_one {place k : Nat} (h : k + 1 ≤ roomAt d entries values place) :
    k ≤ roomAt d entries (moveAt d 1 order values) place := by
  obtain ⟨value, entry, hv, he, _⟩ := roomAt_pos (Nat.lt_of_lt_of_le (Nat.succ_pos k) h)
  simp only [roomAt, hv, he] at h
  simp only [roomAt, getElem?_moveAt, hv, he, Option.map_some]
  cases d <;> split <;> simp only [Direction.room, Direction.move] at h ⊢ <;> omega

theorem moveAt_zero (places : List Nat) : moveAt d 0 places values = values := by
  apply List.ext_getElem?
  intro place
  rw [getElem?_moveAt]
  cases d <;> simp [Direction.move]

theorem moveAt_nil (step : Nat) : moveAt d step [] values = values := by
  apply List.ext_getElem?
  intro place
  simp [getElem?_moveAt]

theorem moveAt_moveAt (j k : Nat) (places : List Nat) :
    moveAt d k places (moveAt d j places values) = moveAt d (j + k) places values := by
  apply List.ext_getElem?
  intro place
  simp only [getElem?_moveAt, Option.map_map]
  congr 1
  funext value
  simp only [Function.comp_apply]
  cases d <;> split <;> simp only [Direction.move] <;> omega

theorem run_of_step_eq_none (h : r.step d entries = none) : r.run d entries = r := by
  rw [run]
  split
  case h_1 => rfl
  case h_2 next found => simp [h] at found

theorem run_of_step_eq_some (h : r.step d entries = some next) :
    r.run d entries = next.run d entries := by
  rw [run]
  split
  case h_1 found => simp [h] at found
  case h_2 other found =>
    obtain rfl := Option.some.inj (h.symm.trans found)
    rfl

/-- Past the last place the turn is the first one's again. -/
theorem values_run_of_isAtStart {turn owed : Nat}
    (h : (Round.mk values order turn owed).isAtStart) :
    (run d entries ⟨values, order, turn, owed⟩).values =
      (run d entries ⟨values, order, 0, owed⟩).values := by
  have same : step d entries ⟨values, order, turn, owed⟩ = step d entries ⟨values, order, 0, owed⟩ := by
    simp only [isAtStart, Bool.or_eq_true, decide_eq_true_eq] at h
    rcases h with rfl | h
    · rfl
    · simp [step, h]
  cases found : step d entries ⟨values, order, 0, owed⟩ with
  | none => rw [run_of_step_eq_none found, run_of_step_eq_none (same.trans found)]
  | some next => rw [run_of_step_eq_some found, run_of_step_eq_some (same.trans found)]

/-- A turn in the middle of a lap in which no place meets its bound. -/
theorem step_midLap {owed j : Nat} (distinct : order.Nodup)
    (rooms : ∀ place ∈ order, 1 ≤ roomAt d entries values place) (owes : order.length ≤ owed)
    (h : j < order.length) :
    step d entries ⟨moveAt d 1 (order.take j) values, order, j, owed - j⟩ =
      some ⟨moveAt d 1 (order.take (j + 1)) values, order, j + 1, owed - (j + 1)⟩ := by
  have found : order[j]? = some order[j] := List.getElem?_eq_getElem h
  obtain ⟨value, entry, hv, he, room⟩ := roomAt_pos (rooms order[j] (List.getElem_mem h))
  have fresh : order[j] ∉ order.take j := by
    rw [List.mem_take_iff_getElem]
    rintro ⟨i, hi, same⟩
    have := (List.getElem_inj distinct).1 same
    omega
  have here : (moveAt d 1 (order.take j) values)[order[j]]? = some value := by
    rw [getElem?_moveAt, hv, Option.map_some, if_neg fresh]
  have taken (place : Nat) : place ∈ order.take (j + 1) ↔ place ∈ order.take j ∨ place = order[j] := by
    rw [List.take_add_one, found]
    simp only [Option.toList_some, List.mem_append, List.mem_singleton]
  have moved : (moveAt d 1 (order.take j) values).set order[j] (d.move value 1) =
      moveAt d 1 (order.take (j + 1)) values := by
    apply List.ext_getElem?
    intro place
    have inside := (List.getElem?_eq_some_iff.1 here).1
    rw [List.getElem?_set, getElem?_moveAt, getElem?_moveAt]
    by_cases same : order[j] = place
    · subst same
      rw [if_pos rfl, if_pos inside, hv, Option.map_some, if_pos ((taken _).2 (.inr rfl))]
    · have : place ∈ order.take (j + 1) ↔ place ∈ order.take j := by
        rw [taken, or_iff_left (Ne.symm same)]
      simp only [if_neg same, this]
  have unfinished : ¬owed - j = 0 := by omega
  have inLap : ¬order.length ≤ j := by omega
  have : ¬d.room value entry = 0 := by omega
  simp [step, unfinished, inLap, found, here, he, this, moved, Nat.sub_sub]

theorem run_lap {owed : Nat} (distinct : order.Nodup)
    (rooms : ∀ place ∈ order, 1 ≤ roomAt d entries values place) (owes : order.length ≤ owed) :
    run d entries ⟨values, order, 0, owed⟩ =
      run d entries ⟨moveAt d 1 order values, order, order.length, owed - order.length⟩ := by
  have upTo : ∀ j ≤ order.length, run d entries ⟨values, order, 0, owed⟩ =
      run d entries ⟨moveAt d 1 (order.take j) values, order, j, owed - j⟩ := by
    intro j
    induction j with
    | zero => simp [moveAt_nil]
    | succ j ih =>
      intro h
      rw [ih (by omega), run_of_step_eq_some (step_midLap distinct rooms owes (by omega))]
  simpa using upTo order.length (Nat.le_refl _)

/-- Laps in which no place meets its bound may be taken at once. -/
theorem values_run_moveAt {turn : Nat} (distinct : order.Nodup) (count : Nat) :
    ∀ {values : List Nat} {owed : Nat}, (Round.mk values order turn owed).isAtStart →
      (∀ place ∈ order, count ≤ roomAt d entries values place) → count * order.length ≤ owed →
      (run d entries ⟨moveAt d count order values, order, turn, owed - count * order.length⟩).values =
        (run d entries ⟨values, order, turn, owed⟩).values := by
  induction count with
  | zero => intro values owed _ _ _; simp [moveAt_zero]
  | succ count ih =>
    intro values owed start rooms owes
    rw [Nat.add_mul, Nat.one_mul] at owes
    have ends : (Round.mk (moveAt d 1 order values) order order.length
        (owed - order.length)).isAtStart := by simp [isAtStart]
    have starts : (Round.mk (moveAt d 1 order values) order turn
        (owed - order.length)).isAtStart := start
    calc (run d entries ⟨moveAt d (count + 1) order values, order, turn,
            owed - (count + 1) * order.length⟩).values
      _ = (run d entries ⟨moveAt d count order (moveAt d 1 order values), order, turn,
            owed - order.length - count * order.length⟩).values := by
        rw [moveAt_moveAt, Nat.add_comm 1 count, Nat.sub_sub, Nat.add_mul, Nat.one_mul,
          Nat.add_comm order.length]
      _ = (run d entries ⟨moveAt d 1 order values, order, turn, owed - order.length⟩).values :=
        ih starts (fun place h => roomAt_moveAt_one (rooms place h)) (by omega)
      _ = (run d entries ⟨moveAt d 1 order values, order, order.length, owed - order.length⟩).values := by
        rw [values_run_of_isAtStart starts, values_run_of_isAtStart ends]
      _ = (run d entries ⟨values, order, 0, owed⟩).values := by
        rw [run_lap distinct (fun place h => Nat.le_trans (by omega) (rooms place h)) (by omega)]
      _ = (run d entries ⟨values, order, turn, owed⟩).values := (values_run_of_isAtStart start).symm

theorem foldl_min_le (bounds : List Nat) (start : Nat) :
    bounds.foldl min start ≤ start ∧ ∀ bound ∈ bounds, bounds.foldl min start ≤ bound := by
  induction bounds generalizing start with
  | nil => simp
  | cons bound bounds ih =>
    obtain ⟨below, all⟩ := ih (min start bound)
    simp only [List.foldl_cons, List.mem_cons, forall_eq_or_imp]
    exact ⟨by omega, by omega, all⟩

theorem values_run_skipLaps (distinct : r.order.Nodup) :
    ((r.skipLaps d entries).run d entries).values = (r.run d entries).values := by
  unfold skipLaps
  split
  case isFalse => rfl
  case isTrue start =>
    simp only
    split
    case isTrue => rfl
    case isFalse =>
      obtain ⟨few, rooms⟩ :=
        foldl_min_le (r.order.map (roomAt d entries r.values)) (r.owed / r.order.length)
      exact values_run_moveAt distinct _ start
        (fun place h => rooms _ (List.mem_map_of_mem h))
        (Nat.le_trans (Nat.mul_le_mul_right _ few) (Nat.div_mul_le_self _ _))

theorem nodup_order_step (h : r.step d entries = some next) (distinct : r.order.Nodup) :
    next.order.Nodup := by
  unfold step at h
  split at h
  case isTrue => simp at h
  case isFalse =>
    simp only at h
    split at h
    case h_1 => simp at h
    case h_2 =>
      split at h
      case h_1 =>
        split at h <;> obtain rfl := Option.some.inj h
        · exact distinct.sublist (List.eraseIdx_sublist _ _)
        · exact distinct
      case h_2 => obtain rfl := Option.some.inj h; exact distinct.sublist (List.eraseIdx_sublist _ _)

theorem order_skipLaps : (r.skipLaps d entries).order = r.order := by
  unfold skipLaps
  split
  · simp only; split <;> rfl
  · rfl

/-- Whole laps lead to the same values as single turns. -/
theorem values_finish (distinct : r.order.Nodup) :
    (r.finish d entries).values = (r.run d entries).values := by
  fun_induction finish d entries r with
  | case1 r ahead none =>
    rw [← values_run_skipLaps distinct, run_of_step_eq_none none]
  | case2 r ahead next found ih =>
    have kept : next.order.Nodup := nodup_order_step found (by rw [order_skipLaps]; exact distinct)
    rw [ih kept, ← values_run_skipLaps distinct, run_of_step_eq_some found]

end ClusterPlacement.Share.Round
