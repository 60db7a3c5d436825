import ClusterPlacement.Proofs.Share.Conservation
/-! Spreading an amount fills the entries like vessels of unequal size. Every value moves by one level, or
to its bound where that is nearer, and what does not make a whole further level goes to the first
entries with room for it, heavier ones first. This is what a round in turns comes to, and it leaves no
choice: `eq_redistribute_iff` says both. -/

namespace ClusterPlacement

/-- The direction that values move in to spread an amount, or to take back a surplus. -/
def Direction.toward (owed : Int) : Direction := if 0 < owed then .up else .down

@[simp] theorem Direction.move_zero (d : Direction) (value : Nat) : d.move value 0 = value := by
  cases d <;> rfl

namespace Share

open Round (roomAt)

variable {d : Direction} {entries : List PolicyEntry} {values rooms moves moves' : List Nat}
  {level level' amount i j : Nat}

def weightAt (entries : List PolicyEntry) (i : Nat) : Nat :=
  (entries[i]?.map (·.weight.toNat)).getD 0

/-- An entry is served before another one if it is heavier, or as heavy and listed earlier. -/
def Precedes (entries : List PolicyEntry) (i j : Nat) : Prop :=
  weightAt entries j < weightAt entries i ∨ weightAt entries i = weightAt entries j ∧ i < j

instance (entries : List PolicyEntry) (i j : Nat) : Decidable (Precedes entries i j) :=
  inferInstanceAs (Decidable (_ ∨ _))

theorem precedes_or_precedes (entries : List PolicyEntry) (distinct : i ≠ j) :
    Precedes entries i j ∨ Precedes entries j i := by
  unfold Precedes
  omega

theorem Precedes.ne (precedes : Precedes entries i j) : i ≠ j := by
  rintro rfl
  rcases precedes with less | ⟨_, less⟩ <;> exact Nat.lt_irrefl _ less

theorem Precedes.asymm (precedes : Precedes entries i j) : ¬Precedes entries j i := by
  unfold Precedes at *
  omega

theorem pairwise_weightOrder (count : Nat) (entries : List PolicyEntry) :
    (weightOrder count entries).Pairwise (Precedes entries) := by
  let heavier (i j : Nat) : Bool := weightAt entries j ≤ weightAt entries i
  have trans (i j k : Nat) : heavier i j → heavier j k → heavier i k := by
    simp only [heavier, decide_eq_true_eq]
    omega
  have total (i j : Nat) : heavier i j || heavier j i := by
    simp only [heavier, Bool.or_eq_true, decide_eq_true_eq]
    omega
  -- Sorting the places together with themselves breaks ties by place and gives the same order.
  have sorted := List.pairwise_mergeSort (List.zipIdxLE_trans trans) (List.zipIdxLE_total total)
    (List.range count).zipIdx
  have distinct : ((List.range count).zipIdx.mergeSort (List.zipIdxLE heavier)).Pairwise
      fun a b => a.1 ≠ b.1 := by
    rw [← List.pairwise_map (R := fun a b => a ≠ b), List.mergeSort_zipIdx]
    exact nodup_weightOrder count entries
  have own {pair : Nat × Nat} (member : pair ∈ (List.range count).zipIdx) : pair.1 = pair.2 := by
    obtain ⟨_, same⟩ := List.mem_zipIdx' member
    simpa using same
  change ((List.range count).mergeSort heavier).Pairwise _
  rw [← List.mergeSort_zipIdx, List.pairwise_map]
  apply (sorted.and distinct).imp_of_mem
  intro a b here there ⟨le, different⟩
  have first := own (List.mem_mergeSort.1 here)
  have second := own (List.mem_mergeSort.1 there)
  simp only [List.zipIdxLE, heavier, decide_eq_true_eq] at le
  unfold Precedes
  split at le
  case isTrue =>
    split at le
    case isTrue => simp only [decide_eq_true_eq] at le; omega
    case isFalse => omega
  case isFalse => cases le

/-- How far each value can move. -/
def roomsFor (d : Direction) (values : List Nat) (entries : List PolicyEntry) : List Nat :=
  List.zipWith d.room values entries

/-- Moves that reach a level as far as there is room. Some entries with room for more move one further,
and no entry with room for more comes before them that does not. -/
structure FilledTo (level : Nat) (entries : List PolicyEntry) (rooms moves : List Nat) : Prop where
  length_eq : moves.length = rooms.length
  levelled : ∀ (i room move : Nat), rooms[i]? = some room → moves[i]? = some move →
    move = min room level ∨ move = min room (level + 1)
  first : ∀ (i j room : Nat), Precedes entries i j → rooms[i]? = some room → level < room →
    moves[j]? = some (level + 1) → moves[i]? = some (level + 1)

/-- Moves that spread an amount over rooms, all of it or as much as there is room for. -/
structure Fills (amount : Nat) (entries : List PolicyEntry) (rooms moves : List Nat) : Prop where
  total_eq : total moves = min amount (total rooms)
  filled : ∃ level, FilledTo level entries rooms moves

theorem filledTo_iff : FilledTo level entries rooms moves ↔ moves.length = rooms.length ∧
    (∀ i < rooms.length, ∀ room ∈ rooms[i]?, ∀ move ∈ moves[i]?,
      move = min room level ∨ move = min room (level + 1)) ∧
    ∀ i < rooms.length, ∀ j < rooms.length, ∀ room ∈ rooms[i]?,
      Precedes entries i j ∧ level < room ∧ moves[j]? = some (level + 1) →
        moves[i]? = some (level + 1) := by
  constructor
  · intro filled
    refine ⟨filled.length_eq, ?_, ?_⟩
    · intro i _ room found move moved
      exact filled.levelled i room move found moved
    · intro i _ j _ room found ⟨before, wide, further⟩
      exact filled.first i j room before found wide further
  · rintro ⟨length_eq, levelled, first⟩
    refine ⟨length_eq, ?_, ?_⟩
    · intro i room move found moved
      exact levelled i (List.getElem?_eq_some_iff.1 found).1 room found move moved
    · intro i j room before found wide further
      have inside : j < rooms.length := length_eq ▸ (List.getElem?_eq_some_iff.1 further).1
      exact first i (List.getElem?_eq_some_iff.1 found).1 j inside room found
        ⟨before, wide, further⟩

instance : Decidable (FilledTo level entries rooms moves) := decidable_of_iff' _ filledTo_iff

namespace FilledTo

/-- What is moved at a place, and the room there. -/
theorem exists_room {move : Nat} (filled : FilledTo level entries rooms moves)
    (moved : moves[i]? = some move) : ∃ room, rooms[i]? = some room ∧
      (move = min room level ∨ move = min room (level + 1)) := by
  have inside : i < rooms.length := by
    rw [← filled.length_eq]
    exact (List.getElem?_eq_some_iff.1 moved).1
  have found : rooms[i]? = some rooms[i] := List.getElem?_eq_getElem inside
  exact ⟨_, found, filled.levelled i _ _ found moved⟩

theorem forall₂_le (filled : FilledTo level entries rooms moves)
    (filled' : FilledTo level' entries rooms moves')
    (below : ∀ (i move move' : Nat), moves[i]? = some move → moves'[i]? = some move' → move ≤ move') :
    List.Forall₂ (· ≤ ·) moves moves' := by
  refine List.forall₂_iff_get.2 ⟨filled.length_eq.trans filled'.length_eq.symm, ?_⟩
  intro i inside inside'
  exact below i _ _ (List.getElem?_eq_getElem inside) (List.getElem?_eq_getElem inside')

theorem le_of_lt (filled : FilledTo level entries rooms moves)
    (filled' : FilledTo level' entries rooms moves') (less : level < level') :
    List.Forall₂ (· ≤ ·) moves moves' := by
  apply filled.forall₂_le filled'
  intro i move move' moved moved'
  obtain ⟨room, found, reached⟩ := filled.exists_room moved
  have reached' := filled'.levelled i room move' found moved'
  omega

/-- At one level the entries that move further are the first ones, so of two such moves one does
nowhere more than the other. -/
theorem le_or_le (filled : FilledTo level entries rooms moves)
    (filled' : FilledTo level entries rooms moves') :
    List.Forall₂ (· ≤ ·) moves moves' ∨ List.Forall₂ (· ≤ ·) moves' moves := by
  by_contra neither
  rw [not_or] at neither
  obtain ⟨notBelow, notAbove⟩ := neither
  obtain ⟨i, x, x', moved, moved', more⟩ : ∃ i x x' : Nat,
      moves[i]? = some x ∧ moves'[i]? = some x' ∧ x' < x := by
    by_contra none
    refine notBelow (filled.forall₂_le filled' fun k x x' moved moved' => ?_)
    exact Nat.not_lt.1 fun more => none ⟨k, x, x', moved, moved', more⟩
  obtain ⟨j, y', y, here', here, more'⟩ : ∃ j y' y : Nat,
      moves'[j]? = some y' ∧ moves[j]? = some y ∧ y < y' := by
    by_contra none
    refine notAbove (filled'.forall₂_le filled fun k y' y moved' moved => ?_)
    exact Nat.not_lt.1 fun more => none ⟨k, y', y, moved', moved, more⟩
  obtain ⟨room, found, reached⟩ := filled.exists_room moved
  have reached' := filled'.levelled i room x' found moved'
  obtain ⟨space, there, got⟩ := filled.exists_room here
  have got' := filled'.levelled j space y' there here'
  obtain rfl : x = level + 1 := by omega
  obtain rfl : y' = level + 1 := by omega
  have distinct : i ≠ j := by
    rintro rfl
    rw [moved] at here
    obtain rfl := Option.some.inj here
    omega
  rcases precedes_or_precedes entries distinct with before | before
  · have := filled'.first i j room before found (by omega) here'
    rw [moved'] at this
    exact absurd (Option.some.inj this) (by omega)
  · have := filled.first j i space before there (by omega) moved
    rw [here] at this
    exact absurd (Option.some.inj this) (by omega)

end FilledTo

theorem total_mono (below : List.Forall₂ (· ≤ ·) moves moves') : total moves ≤ total moves' := by
  induction below with
  | nil => exact Nat.le_refl _
  | cons le _ ih => exact Nat.add_le_add le ih

theorem eq_of_le_of_total_eq (below : List.Forall₂ (· ≤ ·) moves moves')
    (same : total moves = total moves') : moves = moves' := by
  induction below with
  | nil => rfl
  | @cons move move' moves moves' le rest ih =>
    have more := total_mono rest
    simp only [total_cons] at same
    obtain rfl : move = move' := by omega
    rw [ih (by omega)]

/-- There is only one way to spread an amount. -/
theorem Fills.unique (fills : Fills amount entries rooms moves)
    (fills' : Fills amount entries rooms moves') : moves = moves' := by
  obtain ⟨level, filled⟩ := fills.filled
  obtain ⟨level', filled'⟩ := fills'.filled
  have same : total moves = total moves' := fills.total_eq.trans fills'.total_eq.symm
  rcases Nat.lt_trichotomy level level' with less | rfl | more
  · exact eq_of_le_of_total_eq (filled.le_of_lt filled' less) same
  · rcases filled.le_or_le filled' with below | above
    · exact eq_of_le_of_total_eq below same
    · exact (eq_of_le_of_total_eq above same.symm).symm
  · exact (eq_of_le_of_total_eq (filled'.le_of_lt filled more) same.symm).symm

/-- With the room left after a step, the step was taken as far as there was room. -/
theorem roomAt_stepAll (d : Direction) (step : Nat) (values : List Nat) (entries : List PolicyEntry)
    (i : Nat) :
    roomAt d entries (stepAll d step values entries) i = roomAt d entries values i - step := by
  induction values generalizing entries i with
  | nil => cases entries <;> simp [stepAll, roomAt]
  | cons value values ih =>
    cases entries with
    | nil => simp [stepAll, roomAt]
    | cons entry entries =>
      cases i with
      | zero =>
        simp only [stepAll, roomAt, List.getElem?_cons_zero]
        cases d <;> simp only [Direction.room, Direction.move] <;> omega
      | succ i => simpa [stepAll, roomAt] using ih entries i

theorem stepAll_zero (d : Direction) (values : List Nat) (entries : List PolicyEntry) :
    stepAll d 0 values entries = values := by
  induction values generalizing entries with
  | nil => cases entries <;> rfl
  | cons value values ih =>
    cases entries with
    | nil => rfl
    | cons entry entries =>
      rw [stepAll, Nat.zero_min, d.move_zero, ih]

theorem room_move_one (d : Direction) (value : Nat) (entry : PolicyEntry) :
    d.room (d.move value 1) entry = d.room value entry - 1 := by
  cases d <;> simp only [Direction.room, Direction.move] <;> omega

namespace Round

variable {r next : Round}

/-- A round that has come to a level: the places before the turn have had their replica beyond it, the
places from the turn on wait for theirs, and the ones that have left the order are full. -/
structure AtLevel (d : Direction) (entries : List PolicyEntry) (values : List Nat) (level : Nat)
    (r : Round) : Prop where
  ordered : r.order.Pairwise (Precedes entries)
  full : ∀ i, i ∉ r.order →
    roomAt d entries values i ≤ level ∧ roomAt d entries r.values i = 0
  served : ∀ k i, k < r.turn → r.order[k]? = some i → level < roomAt d entries values i ∧
    roomAt d entries r.values i = roomAt d entries values i - (level + 1)
  waiting : ∀ k i, r.turn ≤ k → r.order[k]? = some i →
    roomAt d entries r.values i = roomAt d entries values i - level

namespace AtLevel

/-- After the last place the next level begins. -/
theorem wrap (atLevel : AtLevel d entries values level r) : ∃ level',
    AtLevel d entries values level'
      { r with turn := if r.order.length ≤ r.turn then 0 else r.turn } := by
  split
  case isTrue past =>
    refine ⟨level + 1, atLevel.ordered, ?_, ?_, ?_⟩
    · intro i gone
      obtain ⟨narrow, full⟩ := atLevel.full i gone
      exact ⟨Nat.le_succ_of_le narrow, full⟩
    · intro k i before
      exact absurd before (Nat.not_lt_zero k)
    · intro k i _ here
      have inside : k < r.order.length := (List.getElem?_eq_some_iff.1 here).1
      exact (atLevel.served k i (Nat.lt_of_lt_of_le inside past) here).2
  case isFalse => exact ⟨level, atLevel⟩

/-- A place whose turn finds it without room has none for the level, and leaves. -/
theorem erase (atLevel : AtLevel d entries values level r) (found : r.order[r.turn]? = some i)
    (full : roomAt d entries r.values i = 0) :
    AtLevel d entries values level { r with order := r.order.eraseIdx r.turn } := by
  have waited := atLevel.waiting r.turn i (Nat.le_refl _) found
  refine ⟨atLevel.ordered.sublist (List.eraseIdx_sublist _ _), ?_, ?_, ?_⟩
  · intro j gone
    by_cases same : j = i
    · subst same
      exact ⟨by omega, full⟩
    · apply atLevel.full
      intro member
      obtain ⟨k, here⟩ := List.mem_iff_getElem?.1 member
      refine gone (List.mem_eraseIdx_iff_getElem?.2 ⟨k, ?_, here⟩)
      rintro rfl
      exact same (Option.some.inj (here.symm.trans found))
  · intro k j before here
    rw [List.getElem?_eraseIdx_of_lt before] at here
    exact atLevel.served k j before here
  · intro k j after here
    rw [List.getElem?_eraseIdx_of_ge after] at here
    exact atLevel.waiting (k + 1) j (Nat.le_succ_of_le after) here

/-- A place that moves has had its replica beyond the level. -/
theorem serve {value owed : Nat} {entry : PolicyEntry} (atLevel : AtLevel d entries values level r)
    (found : r.order[r.turn]? = some i) (here : r.values[i]? = some value)
    (there : entries[i]? = some entry) (room : 0 < d.room value entry) :
    AtLevel d entries values level
      ⟨r.values.set i (d.move value 1), r.order, r.turn + 1, owed⟩ := by
  have waited := atLevel.waiting r.turn i (Nat.le_refl _) found
  have left : roomAt d entries r.values i = d.room value entry := by simp only [roomAt, here, there]
  have inside : i < r.values.length := (List.getElem?_eq_some_iff.1 here).1
  have moved : roomAt d entries (r.values.set i (d.move value 1)) i = d.room value entry - 1 := by
    simp only [roomAt, List.getElem?_set_self inside, there, room_move_one]
  -- The places of the order differ, so what stands at other turns stays as it was.
  have others {k j : Nat} (other : k ≠ r.turn) (at' : r.order[k]? = some j) : i ≠ j := by
    rintro rfl
    have distinct : r.order.Nodup := atLevel.ordered.imp Precedes.ne
    have bound : k < r.order.length := (List.getElem?_eq_some_iff.1 at').1
    exact other ((List.getElem?_inj bound distinct).1 (at'.trans found.symm))
  refine ⟨atLevel.ordered, ?_, ?_, ?_⟩
  · intro j gone
    have different : i ≠ j := fun same => gone (same ▸ List.mem_of_getElem? found)
    rw [roomAt_set_of_ne different]
    exact atLevel.full j gone
  · intro k j before at'
    by_cases same : k = r.turn
    · subst same
      obtain rfl := Option.some.inj (found.symm.trans at')
      exact ⟨by omega, by rw [moved]; omega⟩
    · rw [roomAt_set_of_ne (others same at')]
      exact atLevel.served k j (by simp only at before; omega) at'
  · intro k j after at'
    simp only at after
    rw [roomAt_set_of_ne (others (by omega) at')]
    exact atLevel.waiting k j (by omega) at'

theorem step (atLevel : AtLevel d entries values level r) (h : r.step d entries = some next) :
    ∃ level', AtLevel d entries values level' next := by
  obtain ⟨level', atLevel'⟩ := atLevel.wrap
  obtain ⟨turn, place, rfl, found, _, ⟨full, rfl⟩ | ⟨value, entry, here, there, room, rfl⟩⟩ :=
    step_cases h
  · exact ⟨level', atLevel'.erase found full⟩
  · exact ⟨level', atLevel'.serve found here there room⟩

theorem run (atLevel : AtLevel d entries values level r) :
    ∃ level', AtLevel d entries values level' (r.run d entries) := by
  fun_induction Round.run d entries r generalizing level with
  | case1 => exact ⟨level, atLevel⟩
  | case2 _ _ found ih =>
    obtain ⟨_, atLevel'⟩ := atLevel.step found
    exact ih atLevel'

/-- What is left of the room at a place. -/
theorem roomAt_cases (atLevel : AtLevel d entries values level r) (i : Nat) :
    roomAt d entries r.values i = roomAt d entries values i - level ∨
      roomAt d entries r.values i = roomAt d entries values i - (level + 1) := by
  by_cases waits : i ∈ r.order
  · obtain ⟨k, here⟩ := List.mem_iff_getElem?.1 waits
    rcases Nat.lt_or_ge k r.turn with before | after
    · exact .inr (atLevel.served k i before here).2
    · exact .inl (atLevel.waiting k i after here)
  · obtain ⟨narrow, none⟩ := atLevel.full i waits
    exact .inl (by omega)

theorem roomAt_le (atLevel : AtLevel d entries values level r) (i : Nat) :
    roomAt d entries r.values i ≤ roomAt d entries values i := by
  rcases atLevel.roomAt_cases i with left | left <;> omega

/-- The room that a round has used up at a place is a level or one more. -/
theorem used_eq (atLevel : AtLevel d entries values level r) (i : Nat) :
    roomAt d entries values i - roomAt d entries r.values i =
        min (roomAt d entries values i) level ∨
      roomAt d entries values i - roomAt d entries r.values i =
        min (roomAt d entries values i) (level + 1) := by
  rcases atLevel.roomAt_cases i with left | left <;> omega

/-- A place before one that has moved beyond the level has moved beyond it too, if it has the room. -/
theorem used_eq_succ (atLevel : AtLevel d entries values level r) (before : Precedes entries i j)
    (room : level < roomAt d entries values i)
    (further : roomAt d entries values j - roomAt d entries r.values j = level + 1) :
    roomAt d entries values i - roomAt d entries r.values i = level + 1 := by
  have waits : i ∈ r.order := by
    by_contra gone
    have := atLevel.full i gone
    omega
  have waits' : j ∈ r.order := by
    by_contra gone
    have := atLevel.full j gone
    omega
  obtain ⟨k, here⟩ := List.mem_iff_getElem?.1 waits
  obtain ⟨k', here'⟩ := List.mem_iff_getElem?.1 waits'
  have turned : k' < r.turn := by
    by_contra after
    have := atLevel.waiting k' j (Nat.not_lt.1 after) here'
    omega
  have earlier : k < k' := by
    obtain ⟨bound, at'⟩ := List.getElem?_eq_some_iff.1 here
    obtain ⟨bound', at''⟩ := List.getElem?_eq_some_iff.1 here'
    rcases Nat.lt_trichotomy k k' with less | rfl | more
    · exact less
    · exact absurd (at'.symm.trans at'') before.ne
    · have after := List.pairwise_iff_getElem.1 atLevel.ordered k' k bound' bound more
      rw [at', at''] at after
      exact absurd after before.asymm
  have := atLevel.served k i (Nat.lt_trans earlier turned) here
  omega

end AtLevel

theorem atLevel_start (d : Direction) (entries : List PolicyEntry) (values : List Nat)
    (step owed : Nat) : AtLevel d entries values step
      ⟨stepAll d step values entries, weightOrder values.length entries, 0, owed⟩ := by
  refine ⟨pairwise_weightOrder _ _, ?_, ?_, ?_⟩
  · intro i gone
    rw [mem_weightOrder, Nat.not_lt] at gone
    have none : roomAt d entries values i = 0 := by
      simp only [roomAt, List.getElem?_eq_none_iff.2 gone]
    simp only [roomAt_stepAll, none]
    exact ⟨Nat.zero_le _, Nat.zero_sub _⟩
  · intro k i before
    exact absurd before (Nat.not_lt_zero k)
  · intro k i _ _
    exact roomAt_stepAll d step values entries i

end Round

variable {values' : List Nat}

/-- How far each value has moved on the way to another one. -/
def movesTo (d : Direction) (entries : List PolicyEntry) (values values' : List Nat) : List Nat :=
  List.zipWith (· - ·) (roomsFor d values entries) (roomsFor d values' entries)

theorem eq_roomAt {room : Nat} (found : (roomsFor d values entries)[i]? = some room) :
    room = roomAt d entries values i := by
  obtain ⟨value, entry, here, there, rfl⟩ := List.getElem?_zipWith_eq_some.1 found
  simp only [roomAt, here, there]

theorem eq_of_getElem?_movesTo {move : Nat}
    (moved : (movesTo d entries values values')[i]? = some move) :
    move = roomAt d entries values i - roomAt d entries values' i := by
  obtain ⟨room, room', before, after, rfl⟩ := List.getElem?_zipWith_eq_some.1 moved
  rw [eq_roomAt before, eq_roomAt after]

theorem length_roomsFor (d : Direction) (fits : Fits values entries) :
    (roomsFor d values entries).length = entries.length := by
  rw [roomsFor, List.length_zipWith, fits.length_eq, Nat.min_self]

theorem length_movesTo (d : Direction) (fits : Fits values entries) (fits' : Fits values' entries) :
    (movesTo d entries values values').length = entries.length := by
  rw [movesTo, List.length_zipWith, length_roomsFor d fits, length_roomsFor d fits', Nat.min_self]

theorem Round.AtLevel.filledTo {r : Round} (atLevel : r.AtLevel d entries values level)
    (fits : Fits values entries) (fits' : Fits r.values entries) :
    FilledTo level entries (roomsFor d values entries) (movesTo d entries values r.values) := by
  refine ⟨?_, ?_, ?_⟩
  · rw [length_movesTo d fits fits', length_roomsFor d fits]
  · intro i room move found moved
    rw [eq_roomAt found, eq_of_getElem?_movesTo moved]
    exact atLevel.used_eq i
  · intro i j room before found wide further
    have inside : i < (movesTo d entries values r.values).length := by
      rw [length_movesTo d fits fits', ← length_roomsFor d fits]
      exact (List.getElem?_eq_some_iff.1 found).1
    have moved := List.getElem?_eq_getElem inside
    rw [moved, eq_of_getElem?_movesTo moved]
    rw [eq_roomAt found] at wide
    exact congrArg some (atLevel.used_eq_succ before wide (eq_of_getElem?_movesTo further).symm)

/-- The moves lead from the one values to the others. -/
theorem zipWith_move_movesTo (fits : Fits values entries) (fits' : Fits values' entries)
    (narrower : ∀ i, roomAt d entries values' i ≤ roomAt d entries values i) :
    List.zipWith d.move values (movesTo d entries values values') = values' := by
  induction fits generalizing values' with
  | nil =>
    cases fits'
    rfl
  | @cons value entry values entries within _ ih =>
    cases fits' with
    | @cons value' _ values' _ within' fits' =>
      have first : d.room value' entry ≤ d.room value entry := by simpa [roomAt] using narrower 0
      have rest := ih fits' fun i => by simpa [roomAt] using narrower (i + 1)
      have arrives : d.move value (d.room value entry - d.room value' entry) = value' := by
        obtain ⟨lower, upper⟩ := within
        obtain ⟨lower', upper'⟩ := within'
        cases d <;> simp only [Direction.room, Direction.move] at * <;> omega
      simp only [movesTo, roomsFor, List.zipWith_cons_cons, arrives, List.cons.injEq, true_and]
      exact rest

/-- Moved by all its room, every value is at its bound. -/
theorem total_roomsFor (d : Direction) (fits : Fits values entries) :
    (total values : Int) + d.signed (total (roomsFor d values entries)) =
      total (entries.map d.bound) := by
  induction fits with
  | nil => simp [roomsFor]
  | @cons value entry values entries within _ ih =>
    have whole : (value : Int) + d.signed (d.room value entry) = d.bound entry := by
      obtain ⟨lower, upper⟩ := within
      cases d <;> simp only [Direction.room, Direction.signed, Direction.bound] <;> omega
    simp only [roomsFor, List.zipWith_cons_cons, List.map_cons, total_cons,
      Direction.signed_add] at ih ⊢
    push_cast
    omega

theorem total_movesTo (fits : Fits values entries) (fits' : Fits values' entries)
    (narrower : ∀ i, roomAt d entries values' i ≤ roomAt d entries values i) :
    total (movesTo d entries values values') + total (roomsFor d values' entries) =
      total (roomsFor d values entries) := by
  induction fits generalizing values' with
  | nil =>
    cases fits'
    rfl
  | @cons value entry values entries _ _ ih =>
    cases fits' with
    | @cons value' _ values' _ _ fits' =>
      have first : d.room value' entry ≤ d.room value entry := by simpa [roomAt] using narrower 0
      have rest := ih fits' fun i => by simpa [roomAt] using narrower (i + 1)
      simp only [movesTo, roomsFor, List.zipWith_cons_cons, total_cons] at rest ⊢
      omega

theorem redistribute_zero (values : List Nat) (entries : List PolicyEntry) :
    redistribute values entries 0 = values := if_pos (.inr rfl)

/-- What is left after an amount was spread is a round that has come to some level. -/
theorem exists_atLevel (owed : Int) (values : List Nat) (entries : List PolicyEntry) :
    ∃ level r, Round.AtLevel (.toward owed) entries values level r ∧
      r.values = redistribute values entries owed := by
  unfold redistribute
  split
  case isTrue =>
    refine ⟨0, ⟨values, weightOrder values.length entries, 0, 0⟩, ?_, rfl⟩
    have start := Round.atLevel_start (.toward owed) entries values 0 0
    rwa [stepAll_zero] at start
  case isFalse =>
    obtain ⟨level, atLevel⟩ := (Round.atLevel_start (.toward owed) entries values
      (owed.natAbs / values.length) _).run
    refine ⟨level, _, atLevel, ?_⟩
    rw [Round.values_finish (nodup_weightOrder _ _)]
    rfl

/-- An amount is spread by moves that fill the rooms. -/
theorem redistribute_fills (owed : Int) (fits : Fits values entries) : ∃ moves,
    Fills owed.natAbs entries (roomsFor (.toward owed) values entries) moves ∧
      redistribute values entries owed = List.zipWith (Direction.toward owed).move values moves := by
  obtain ⟨level, r, atLevel, same⟩ := exists_atLevel owed values entries
  obtain ⟨fits', sum⟩ := redistribute_spec owed fits
  rw [← same] at fits' sum ⊢
  refine ⟨movesTo (.toward owed) entries values r.values, ⟨?_, level, atLevel.filledTo fits fits'⟩,
    (zipWith_move_movesTo fits fits' atLevel.roomAt_le).symm⟩
  have before := total_roomsFor (.toward owed) fits
  have after := total_roomsFor (.toward owed) fits'
  have moved := total_movesTo fits fits' atLevel.roomAt_le
  have least := fits.leastTotal_le
  have greatest := fits.le_greatestTotal
  rcases Int.lt_or_le 0 owed with up | down
  · have toward : Direction.toward owed = .up := if_pos up
    rw [toward] at before after moved ⊢
    change _ = (greatestTotal entries : Int) at before after
    simp only [Direction.signed] at before after
    omega
  · have toward : Direction.toward owed = .down := if_neg (Int.not_lt.2 down)
    rw [toward] at before after moved ⊢
    change _ = (leastTotal entries : Int) at before after
    simp only [Direction.signed] at before after
    omega

theorem Fills.redistribute_eq {owed : Int}
    (fills : Fills owed.natAbs entries (roomsFor (.toward owed) values entries) moves)
    (fits : Fits values entries) :
    redistribute values entries owed = List.zipWith (Direction.toward owed).move values moves := by
  obtain ⟨others, fills', spread⟩ := redistribute_fills owed fits
  rw [spread, fills'.unique fills]

/-- Values within their bounds come out moved so that the rooms are filled, and no other values do. -/
theorem eq_redistribute_iff (owed : Int) (fits : Fits values entries) (result : List Nat) :
    result = redistribute values entries owed ↔ ∃ moves,
      Fills owed.natAbs entries (roomsFor (.toward owed) values entries) moves ∧
        result = List.zipWith (Direction.toward owed).move values moves := by
  constructor
  · rintro rfl
    exact redistribute_fills owed fits
  · rintro ⟨moves, fills, rfl⟩
    exact (fills.redistribute_eq fits).symm

/-- Entries of which the first has room for two replicas only. -/
def narrowFirst : List PolicyEntry :=
  [⟨none, none, 1, none, some 3⟩, ⟨none, none, 5, none, none⟩, ⟨none, none, 2, none, none⟩]

theorem eq_redistribute_narrowFirst : Fits [1, 0, 4] narrowFirst ∧
    [3, 4, 7] = redistribute [1, 0, 4] narrowFirst 9 := by
  have fits : Fits [1, 0, 4] narrowFirst :=
    .cons (by decide) (.cons (by decide) (.cons (by decide) .nil))
  have fills : Fills 9 narrowFirst (roomsFor .up [1, 0, 4] narrowFirst) [2, 4, 3] :=
    ⟨by decide, 3, by decide⟩
  exact ⟨fits, (eq_redistribute_iff 9 fits [3, 4, 7]).2 ⟨[2, 4, 3], fills, rfl⟩⟩

/-- The proportions within the bounds, from which shares start. -/
def clamped (replicas : Nat) (entries : List PolicyEntry) : List Nat :=
  entries.map fun entry => clampTo entry (proportion replicas (totalWeight entries) entry)

/-- What the proportions leave to be spread, or have given out in excess. -/
def owedAfter (replicas : Nat) (entries : List PolicyEntry) : Int :=
  (replicas : Int) - total (clamped replicas entries)

theorem exists_fills_of_weighted {replicas : Nat} {shares : List Nat}
    (succeeds : weighted replicas entries = .ok shares) : ∃ moves,
      Fills (owedAfter replicas entries).natAbs entries
        (roomsFor (.toward (owedAfter replicas entries)) (clamped replicas entries) entries) moves ∧
      shares = List.zipWith (Direction.toward (owedAfter replicas entries)).move
        (clamped replicas entries) moves := by
  obtain ⟨shareable, rfl⟩ := weighted_eq_ok_iff.1 succeeds
  exact redistribute_fills (owedAfter replicas entries) (fits_clampTo _ shareable)

theorem weighted_of_fills {replicas : Nat} {owed : Int} (shareable : ¬Unshareable entries)
    (start : clamped replicas entries = values) (owes : (replicas : Int) - total values = owed)
    (fills : Fills owed.natAbs entries (roomsFor (.toward owed) values entries) moves) :
    weighted replicas entries = .ok (List.zipWith (Direction.toward owed).move values moves) := by
  subst start owes
  rw [weighted_eq_ok_iff, ← fills.redistribute_eq (fits_clampTo _ shareable)]
  exact ⟨shareable, rfl⟩

end Share

end ClusterPlacement
