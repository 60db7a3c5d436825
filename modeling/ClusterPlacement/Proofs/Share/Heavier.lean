import ClusterPlacement.Proofs.Share.Levels
import ClusterPlacement.Proofs.Share.Proportion
/-! What more weight is worth. Of two entries with the same bounds the heavier one starts from no
smaller proportion and comes first whenever single replicas are handed out, so it gets no smaller share.
A surplus is taken back in the same order, and may cost the heavier of two even entries one replica more
than the lighter one: no more than that, and only there. -/

namespace ClusterPlacement.Share

variable {replicas : Nat} {entries : List PolicyEntry} {values moves shares : List Nat}
  {a b : PolicyEntry} {level i j value value' x y : Nat}

theorem clampTo_mono (lower : a.lowerBound = b.lowerBound) (upper : a.upperBound = b.upperBound)
    (ordered : b.lowerBound ≤ b.upperBound) (le : x ≤ y) : clampTo a x ≤ clampTo b y := by
  simp only [clampTo, lower, upper]
  split
  case isTrue =>
    obtain ⟨least, _⟩ := clampTo_within ordered y
    simpa only [clampTo] using least
  case isFalse => split <;> split <;> (try split) <;> omega

theorem getElem?_clamped (replicas : Nat) (here : entries[i]? = some a) :
    (clamped replicas entries)[i]? =
      some (clampTo a (proportion replicas (totalWeight entries) a)) := by
  rw [clamped, List.getElem?_map, here, Option.map_some]

theorem weightAt_eq (here : entries[i]? = some a) : weightAt entries i = a.weight.toNat := by
  rw [weightAt, here, Option.map_some, Option.getD_some]

/-- A share is what its entry starts from, moved as far as the level allows. -/
theorem FilledTo.exists_start {d : Direction}
    (filled : FilledTo level entries (roomsFor d values entries) moves) (here : entries[i]? = some a)
    (share : (List.zipWith d.move values moves)[i]? = some x) :
    ∃ value move, values[i]? = some value ∧ moves[i]? = some move ∧ x = d.move value move ∧
      (roomsFor d values entries)[i]? = some (d.room value a) ∧
      (move = min (d.room value a) level ∨ move = min (d.room value a) (level + 1)) := by
  obtain ⟨value, move, start, moved, rfl⟩ := List.getElem?_zipWith_eq_some.1 share
  have room : (roomsFor d values entries)[i]? = some (d.room value a) :=
    List.getElem?_zipWith_eq_some.2 ⟨value, a, start, here, rfl⟩
  exact ⟨value, move, start, moved, rfl, room, filled.levelled i _ _ room moved⟩

section TwoEntries

variable (here : entries[i]? = some a) (there : entries[j]? = some b)
  (start : values[i]? = some value) (start' : values[j]? = some value') (more : value' ≤ value)

include here there start start' more

/-- Raised to a level, an entry that is served first and starts from no smaller value ends there. -/
theorem FilledTo.raised_le (filled : FilledTo level entries (roomsFor .up values entries) moves)
    (fits : Fits values entries) (before : Precedes entries i j) (upper : a.upperBound = b.upperBound)
    (share : (List.zipWith Direction.up.move values moves)[i]? = some x)
    (share' : (List.zipWith Direction.up.move values moves)[j]? = some y) : y ≤ x := by
  obtain ⟨_, move, same, moved, rfl, room, reached⟩ := filled.exists_start here share
  obtain ⟨_, move', same', moved', rfl, _, reached'⟩ := filled.exists_start there share'
  obtain rfl := Option.some.inj (start.symm.trans same)
  obtain rfl := Option.some.inj (start'.symm.trans same')
  obtain ⟨_, most⟩ := fits.within start here
  have served := filled.first i j _ before room
  simp only [moved, moved', Option.some.injEq, Direction.room, Direction.move] at *
  omega

/-- Lowered to a level, it ends at most one below, and not below unless both start from one value. -/
theorem FilledTo.lowered_le (filled : FilledTo level entries (roomsFor .down values entries) moves)
    (lower : a.lowerBound = b.lowerBound)
    (share : (List.zipWith Direction.down.move values moves)[i]? = some x)
    (share' : (List.zipWith Direction.down.move values moves)[j]? = some y) :
    y ≤ x + 1 ∧ (x < y → value = value') := by
  obtain ⟨_, move, same, _, rfl, _, reached⟩ := filled.exists_start here share
  obtain ⟨_, move', same', _, rfl, _, reached'⟩ := filled.exists_start there share'
  obtain rfl := Option.some.inj (start.symm.trans same)
  obtain rfl := Option.some.inj (start'.symm.trans same')
  simp only [Direction.room, Direction.move] at *
  omega

end TwoEntries

/-- Heavier entries start from no smaller value. -/
theorem clamped_mono (replicas : UInt32) (shareable : ¬Unshareable entries)
    (here : entries[i]? = some a) (there : entries[j]? = some b) (heavier : b.weight < a.weight)
    (lower : a.lowerBound = b.lowerBound) (upper : a.upperBound = b.upperBound) :
    ∃ value value', (clamped replicas.toNat entries)[i]? = some value ∧
      (clamped replicas.toNat entries)[j]? = some value' ∧ value' ≤ value := by
  refine ⟨_, _, getElem?_clamped _ here, getElem?_clamped _ there, ?_⟩
  have positive : 0 < totalWeight entries := Nat.pos_of_ne_zero fun none => shareable (.inr none)
  have fits := fits_clampTo (proportion replicas.toNat (totalWeight entries)) shareable
  obtain ⟨least, most⟩ := fits.within (getElem?_clamped _ here) here
  exact clampTo_mono lower.symm upper.symm (least.trans most)
    (proportion_mono replicas.toNat_lt.le positive (UInt32.lt_iff_toNat_lt.1 heavier).le)

/-- The heavier of two entries with the same bounds gets no smaller share, unless a surplus is taken
back and both start from the same value: then its share can be smaller by one. -/
theorem heavier_share (replicas : UInt32) (succeeds : weighted replicas.toNat entries = .ok shares)
    (here : entries[i]? = some a) (there : entries[j]? = some b) (heavier : b.weight < a.weight)
    (lower : a.lowerBound = b.lowerBound) (upper : a.upperBound = b.upperBound)
    (share : shares[i]? = some x) (share' : shares[j]? = some y) :
    y ≤ x + 1 ∧ (x < y → replicas.toNat < total (clamped replicas.toNat entries) ∧
      (clamped replicas.toNat entries)[i]? = (clamped replicas.toNat entries)[j]?) := by
  obtain ⟨shareable, _⟩ := weighted_eq_ok_iff.1 succeeds
  obtain ⟨moves, fills, rfl⟩ := exists_fills_of_weighted succeeds
  obtain ⟨value, value', start, start', more⟩ :=
    clamped_mono replicas shareable here there heavier lower upper
  obtain ⟨level, filled⟩ := fills.filled
  have fits : Fits (clamped replicas.toNat entries) entries := fits_clampTo _ shareable
  have before : Precedes entries i j := by
    refine .inl ?_
    rw [weightAt_eq here, weightAt_eq there]
    exact UInt32.lt_iff_toNat_lt.1 heavier
  rw [start, start', Option.some.injEq]
  rcases Int.lt_trichotomy 0 (owedAfter replicas.toNat entries) with up | none | down
  · rw [Direction.toward, if_pos up] at filled share share'
    have := filled.raised_le here there start start' more fits before upper share share'
    omega
  · rw [← fills.redistribute_eq fits, ← none, redistribute_zero] at share share'
    obtain rfl := Option.some.inj (start.symm.trans share)
    obtain rfl := Option.some.inj (start'.symm.trans share')
    omega
  · rw [Direction.toward, if_neg (Int.not_lt.2 down.le)] at filled share share'
    obtain ⟨most, even⟩ := filled.lowered_le here there start start' more lower share share'
    rw [owedAfter] at down
    exact ⟨most, fun less => ⟨by omega, even less⟩⟩

/-- Entries of which the first gets more than its proportion, so the others have to give one back. -/
def raisedFirst : List PolicyEntry :=
  [⟨none, none, 0, some 2, none⟩, ⟨none, none, 3, none, none⟩, ⟨none, none, 2, none, none⟩]

theorem weighted_raisedFirst : weighted (3 : UInt32).toNat raisedFirst = .ok [2, 0, 1] := by
  have start : clamped 3 raisedFirst = [2, 1, 1] := by decide +kernel
  have fills : Fills (-1 : Int).natAbs raisedFirst
      (roomsFor (.toward (-1)) [2, 1, 1] raisedFirst) [0, 1, 0] := ⟨by decide, 0, by decide⟩
  exact weighted_of_fills (by decide) start (by decide) fills

theorem heavier_share_raisedFirst : weighted (3 : UInt32).toNat raisedFirst = .ok [2, 0, 1] ∧
    (3 : UInt32).toNat < total (clamped (3 : UInt32).toNat raisedFirst) ∧
    (clamped (3 : UInt32).toNat raisedFirst)[1]? = (clamped (3 : UInt32).toNat raisedFirst)[2]? := by
  obtain ⟨_, surplus⟩ := heavier_share (i := 1) (j := 2) 3 weighted_raisedFirst rfl rfl
    (by decide) (by decide) (by decide) rfl rfl
  exact ⟨weighted_raisedFirst, surplus (by decide)⟩

/-- The second entry is heavier than the third one and has the same bounds, and gives back more. -/
theorem surplus_from_heavier : weighted (3 : UInt32).toNat raisedFirst = .ok [2, 0, 1] ∧
    ∃ a b, raisedFirst[1]? = some a ∧ raisedFirst[2]? = some b ∧ b.weight < a.weight ∧
      a.lowerBound = b.lowerBound ∧ a.upperBound = b.upperBound :=
  ⟨weighted_raisedFirst, _, _, rfl, rfl, by decide, by decide, by decide⟩

end ClusterPlacement.Share
