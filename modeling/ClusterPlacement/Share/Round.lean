import ClusterPlacement.Policy
/-! Handing out single replicas in turn. The places of a round take one replica each, again and again,
until nothing is owed; a place whose value has met its bound leaves the round. -/

namespace ClusterPlacement

/-- Which way values move towards a bound. -/
inductive Direction where
  | up
  | down
deriving DecidableEq

namespace Direction

/-- How far a value can move before it meets its bound. -/
def room (d : Direction) (value : Nat) (entry : PolicyEntry) : Nat :=
  match d with
  | up => entry.upperBound - value
  | down => value - entry.lowerBound

def move (d : Direction) (value step : Nat) : Nat :=
  match d with
  | up => value + step
  | down => value - step

end Direction

namespace Share

/-- A round under way. -/
structure Round where
  values : List Nat
  /-- The places that may still take one, in turn. -/
  order : List Nat
  /-- Whose turn it is. -/
  turn : Nat
  /-- How many replicas are left. -/
  owed : Nat
deriving DecidableEq

namespace Round

/-- One turn, if there is one: a value moves by one, or a place without room leaves the order. -/
def step (d : Direction) (entries : List PolicyEntry) (r : Round) : Option Round :=
  if r.owed = 0 then none
  else
    let turn := if r.order.length ≤ r.turn then 0 else r.turn
    match r.order[turn]? with
    | none => none
    | some place =>
      match r.values[place]?, entries[place]? with
      | some value, some entry =>
        if d.room value entry = 0 then some { r with order := r.order.eraseIdx turn, turn }
        else some ⟨r.values.set place (d.move value 1), r.order, turn + 1, r.owed - 1⟩
      | _, _ => some { r with order := r.order.eraseIdx turn, turn }

/-- Turns that can still come. Each turn uses up a replica or a place. -/
def turnsLeft (r : Round) : Nat := r.owed + r.order.length

theorem turnsLeft_step {d : Direction} {entries : List PolicyEntry} {r next : Round}
    (h : r.step d entries = some next) : next.turnsLeft + 1 = r.turnsLeft := by
  unfold step at h
  split at h
  case isTrue => simp at h
  case isFalse owes =>
    simp only at h
    split at h
    case h_1 => simp at h
    case h_2 place found =>
      have inside := (List.getElem?_eq_some_iff.1 found).1
      have erased := List.length_eraseIdx_of_lt inside
      split at h
      case h_1 =>
        split at h <;> obtain rfl := Option.some.inj h <;> simp only [turnsLeft] <;> omega
      case h_2 => obtain rfl := Option.some.inj h; simp only [turnsLeft]; omega

/-- Takes turns until there are no more. -/
def run (d : Direction) (entries : List PolicyEntry) (r : Round) : Round :=
  match _ : r.step d entries with
  | none => r
  | some next => run d entries next
termination_by r.turnsLeft
decreasing_by have := turnsLeft_step ‹_›; omega

end Round

end Share

end ClusterPlacement
