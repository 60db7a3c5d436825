import ClusterPlacement.Proofs.Except
import ClusterPlacement.Proofs.Share.Conservation
import ClusterPlacement.Share.Words
/-! Words as exact as the numbers they stand for. Within its bounds a value has a room, and up to that room it
can be moved, without a fault; so an even step has a result, and a turn in words is a turn in numbers. -/

namespace ClusterPlacement

namespace Word

variable {w : Nat} {a b : BitVec w}

theorem sub_of_le (le : b.toNat ≤ a.toNat) :
    ∃ c, sub a b = .ok c ∧ c.toNat = a.toNat - b.toNat :=
  ⟨a - b, if_pos le, BitVec.toNat_sub_of_le le⟩

theorem add_of_lt (small : a.toNat + b.toNat < 2 ^ w) :
    ∃ c, add a b = .ok c ∧ c.toNat = a.toNat + b.toNat :=
  ⟨a + b, if_pos small, BitVec.toNat_add_of_lt small⟩

theorem narrow_of_lt (width : Nat) (small : a.toNat < 2 ^ width) :
    ∃ c, narrow a width = .ok c ∧ c.toNat = a.toNat :=
  ⟨a.setWidth width, if_pos small, (BitVec.toNat_setWidth _ _).trans (Nat.mod_eq_of_lt small)⟩

theorem fetch_of_getElem? {α : Type} {xs : List α} {place : Nat} {x : α} (found : xs[place]? = some x) :
    fetch xs place = .ok x := by
  rw [fetch, found]

end Word

namespace PolicyEntry

theorem toNat_lowerWord (e : PolicyEntry) : e.lowerWord.toNat = e.lowerBound := by
  unfold lowerWord lowerBound
  cases e.min <;> rfl

theorem toNat_upperWord (e : PolicyEntry) : e.upperWord.toNat = e.upperBound := by
  unfold upperWord upperBound
  cases e.max <;> rfl

theorem upperBound_lt (e : PolicyEntry) : e.upperBound < 2 ^ 32 := by
  rw [← e.toNat_upperWord]
  exact e.upperWord.isLt

end PolicyEntry

namespace Share

variable {d : Direction} {entries : List PolicyEntry} {fill owed : BitVec 64} {value step : BitVec 32}
  {entry : PolicyEntry} {s : Spreading} {place turn : Nat} {order : List Nat}

/-- What some words stand for. -/
def numbers (values : List (BitVec 32)) : List Nat := values.map BitVec.toNat

theorem length_numbers (values : List (BitVec 32)) : (numbers values).length = values.length :=
  List.length_map _

theorem getElem?_numbers {values : List (BitVec 32)} (found : values[place]? = some value) :
    (numbers values)[place]? = some value.toNat := by
  rw [numbers, List.getElem?_map, found, Option.map_some]

theorem numbers_set (values : List (BitVec 32)) (place : Nat) (value : BitVec 32) :
    numbers (values.set place value) = (numbers values).set place value.toNat := List.map_set

namespace Spreading

theorem roomOf_eq (d : Direction) (within : WithinBounds value.toNat entry) :
    ∃ room, roomOf d value entry = .ok room ∧ room.toNat = d.room value.toNat entry := by
  obtain ⟨lower, upper⟩ := within
  have wide (gap : BitVec 32) : (gap.setWidth 64).toNat = gap.toNat :=
    BitVec.toNat_setWidth_of_le (by decide)
  cases d with
  | up =>
    obtain ⟨gap, found, number⟩ := Word.sub_of_le (entry.toNat_upperWord.symm ▸ upper)
    refine ⟨gap.setWidth 64, by simp only [roomOf, found]; rfl, ?_⟩
    rw [wide, number, entry.toNat_upperWord, Direction.room]
  | down =>
    obtain ⟨gap, found, number⟩ := Word.sub_of_le (entry.toNat_lowerWord.symm ▸ lower)
    refine ⟨gap.setWidth 64, by simp only [roomOf, found]; rfl, ?_⟩
    rw [wide, number, entry.toNat_lowerWord, Direction.room]

theorem room_lt (d : Direction) (value : BitVec 32) (entry : PolicyEntry) :
    d.room value.toNat entry < 2 ^ 32 := by
  have bound := entry.upperBound_lt
  have small := value.isLt
  cases d <;> simp only [Direction.room] <;> omega

theorem moveBy_eq (d : Direction) (within : WithinBounds value.toNat entry)
    (room : step.toNat ≤ d.room value.toNat entry) :
    ∃ moved, moveBy d value step = .ok moved ∧ moved.toNat = d.move value.toNat step.toNat := by
  obtain ⟨lower, upper⟩ := within
  have bound := entry.upperBound_lt
  cases d with
  | up =>
    simp only [Direction.room] at room
    exact Word.add_of_lt (by omega)
  | down =>
    simp only [Direction.room] at room
    exact Word.sub_of_le (by omega)

theorem evenStep_eq (d : Direction) (within : WithinBounds value.toNat entry)
    (small : owed.toNat + fill.toNat < 2 ^ 64) : ∃ moved rest,
      evenStep d fill entry value owed = .ok (moved, rest) ∧
      moved.toNat = d.move value.toNat (min fill.toNat (d.room value.toNat entry)) ∧
      rest.toNat = owed.toNat + (fill.toNat - min fill.toNat (d.room value.toNat entry)) := by
  obtain ⟨room, roomy, number⟩ := roomOf_eq d within
  have limit := room_lt d value entry
  let step := if fill ≤ room then fill else room
  have least : step.toNat = min fill.toNat (d.room value.toNat entry) := by
    simp only [step, BitVec.le_def, number]
    split <;> omega
  obtain ⟨narrowed, narrows, same⟩ := Word.narrow_of_lt (a := step) 32 (by omega)
  obtain ⟨moved, moves, there⟩ := moveBy_eq d within (same.trans least ▸ Nat.min_le_right _ _)
  obtain ⟨left, leaves, unused⟩ := Word.sub_of_le (a := fill) (b := step) (by omega)
  obtain ⟨rest, adds, sum⟩ := Word.add_of_lt (a := owed) (b := left) (by omega)
  refine ⟨moved, rest, ?_, by rw [there, same, least], by rw [sum, unused, least]⟩
  simp only [evenStep, Except.bind_eq_ok_iff, Except.pure_eq_ok_iff]
  exact ⟨room, roomy, narrowed, narrows, moved, moves, left, leaves, rest, adds, rfl⟩

theorem orderOf_eq {count : Nat} (enough : count ≤ entries.length) :
    orderOf count entries = .ok (weightOrder count entries) := by
  have reads : ∀ place ∈ List.range count, ∃ entry, Word.fetch entries place = .ok entry := by
    intro place inside
    have here : place < entries.length := Nat.lt_of_lt_of_le (List.mem_range.1 inside) enough
    exact ⟨_, Word.fetch_of_getElem? (List.getElem?_eq_getElem here)⟩
  obtain ⟨read, found⟩ := Except.exists_mapM_eq_ok_iff.2 reads
  exact Except.bind_eq_ok_iff.2 ⟨read, found, rfl⟩

end Spreading

namespace Round

variable {r next : Round}

theorem step_eq_some {value : Nat} (whose : turn = if r.order.length ≤ r.turn then 0 else r.turn)
    (owes : r.owed ≠ 0) (placed : r.order[turn]? = some place) (here : r.values[place]? = some value)
    (there : entries[place]? = some entry) : r.step d entries =
      some (if d.room value entry = 0 then { r with order := r.order.eraseIdx turn, turn := turn }
        else ⟨r.values.set place (d.move value 1), r.order, turn + 1, r.owed - 1⟩) := by
  simp only [step, if_neg owes, ← whose, placed, here, there]
  split <;> rfl

theorem step_eq_none (ends : r.owed = 0 ∨ r.order = []) : r.step d entries = none := by
  rcases ends with nothing | nobody
  · exact if_pos nothing
  · simp [step, nobody]

/-- A turn keeps the bounds of the values, and nobody joins the order. -/
theorem step_keeps (stepped : r.step d entries = some next) (fits : Fits r.values entries) :
    Fits next.values entries ∧ next.owed ≤ r.owed ∧ ∀ place ∈ next.order, place ∈ r.order := by
  obtain ⟨turn, place, -, found, owes, ⟨full, rfl⟩ | ⟨value, entry, here, there, room, rfl⟩⟩ :=
    step_cases stepped
  · exact ⟨fits, Nat.le_refl _, fun _ => List.mem_of_mem_eraseIdx⟩
  · exact ⟨fits.set there (d.move_within (fits.within here there) room), Nat.sub_le _ _, fun _ => id⟩

end Round

namespace Spreading

theorem serve_eq (d : Direction) (order : List Nat) (turn place : Nat)
    (within : WithinBounds value.toNat entry) (owes : s.owed.toNat ≠ 0) :
    ∃ s' order' turn', serve d entry order turn place value s = .ok s' ∧
      s'.phase = .turns order' turn' ∧
      Round.mk (numbers s'.values) order' turn' s'.owed.toNat =
        if d.room value.toNat entry = 0 then
          ⟨numbers s.values, order.eraseIdx turn, turn, s.owed.toNat⟩
        else
          ⟨(numbers s.values).set place (d.move value.toNat 1), order, turn + 1, s.owed.toNat - 1⟩ := by
  obtain ⟨room, roomy, gap⟩ := roomOf_eq d within
  have full_iff : room = 0 ↔ d.room value.toNat entry = 0 := by
    rw [← gap, BitVec.toNat_eq]
    rfl
  by_cases full : room = 0
  · refine ⟨{ s with phase := .turns (order.eraseIdx turn) turn }, _, _, ?_, rfl, ?_⟩
    · refine Except.bind_eq_ok_iff.2 ⟨room, roomy, ?_⟩
      rw [if_pos full]
      rfl
    · rw [if_pos (full_iff.1 full)]
  · have roomier := fun none => full (full_iff.2 none)
    obtain ⟨moved, moves, there⟩ := moveBy_eq d within (show (1 : BitVec 32).toNat ≤ _ from
      Nat.pos_of_ne_zero roomier)
    obtain ⟨rest, leaves, fewer⟩ := Word.sub_of_le (a := s.owed) (b := 1) (Nat.pos_of_ne_zero owes)
    refine ⟨⟨.turns order (turn + 1), s.values.set place moved, rest⟩, _, _, ?_, rfl, ?_⟩
    · refine Except.bind_eq_ok_iff.2 ⟨room, roomy, ?_⟩
      rw [if_neg full]
      exact Except.bind_eq_ok_iff.2 ⟨moved, moves, Except.bind_eq_ok_iff.2 ⟨rest, leaves, rfl⟩⟩
    · rw [if_neg roomier, numbers_set, there, fewer]
      rfl

/-- A turn in words is a turn in numbers. -/
theorem takeTurn_eq (d : Direction) (turn : Nat) (fits : Fits (numbers s.values) entries)
    (inside : ∀ place ∈ order, place < s.values.length) (owes : s.owed ≠ 0) (waits : order ≠ []) :
    ∃ s' order' turn', takeTurn d entries order turn s = .ok s' ∧ s'.phase = .turns order' turn' ∧
      Round.step d entries ⟨numbers s.values, order, turn, s.owed.toNat⟩ =
        some ⟨numbers s'.values, order', turn', s'.owed.toNat⟩ := by
  have owing : s.owed.toNat ≠ 0 := fun zero => owes (BitVec.eq_of_toNat_eq zero)
  obtain ⟨turn', whose⟩ : ∃ turn', turn' = if order.length ≤ turn then 0 else turn := ⟨_, rfl⟩
  have here : turn' < order.length := by
    have := List.length_pos_iff.2 waits
    split at whose <;> omega
  obtain ⟨place, placed⟩ : ∃ place, order[turn']? = some place := ⟨_, List.getElem?_eq_getElem here⟩
  have bound : place < s.values.length := inside _ (List.mem_of_getElem? placed)
  have length : s.values.length = entries.length := (length_numbers _).symm.trans fits.length_eq
  obtain ⟨value, valued⟩ : ∃ value, s.values[place]? = some value :=
    ⟨_, List.getElem?_eq_getElem bound⟩
  obtain ⟨entry, listed⟩ : ∃ entry, entries[place]? = some entry :=
    ⟨_, List.getElem?_eq_getElem (length ▸ bound)⟩
  have number := getElem?_numbers valued
  obtain ⟨s', order', turn'', served, phase, same⟩ :=
    serve_eq d order turn' place (fits.within number listed) owing
  refine ⟨s', order', turn'', ?_, phase, ?_⟩
  · simp only [takeTurn, Except.bind_eq_ok_iff, ← whose]
    exact ⟨_, Word.fetch_of_getElem? placed, _, Word.fetch_of_getElem? valued, _,
      Word.fetch_of_getElem? listed, served⟩
  · rw [same]
    exact Round.step_eq_some whose owing placed number listed

end Spreading

end Share

end ClusterPlacement
