import ClusterPlacement.Share
import Mathlib.Data.List.Forall2
/-! Shares within their bounds. The sum of such shares lies between the sums of the bounds, and meets
the one they move towards exactly when no share has room left. -/

namespace ClusterPlacement.Share

open Round (roomAt)

variable {d : Direction} {entries : List PolicyEntry} {values : List Nat}

def WithinBounds (value : Nat) (entry : PolicyEntry) : Prop :=
  entry.lowerBound ≤ value ∧ value ≤ entry.upperBound

instance (value : Nat) (entry : PolicyEntry) : Decidable (WithinBounds value entry) :=
  inferInstanceAs (Decidable (_ ∧ _))

/-- One value for each entry, within its bounds. -/
def Fits (values : List Nat) (entries : List PolicyEntry) : Prop :=
  List.Forall₂ WithinBounds values entries

def leastTotal (entries : List PolicyEntry) : Nat := total (entries.map (·.lowerBound))

def greatestTotal (entries : List PolicyEntry) : Nat := total (entries.map (·.upperBound))

@[simp] theorem total_nil : total [] = 0 := rfl

@[simp] theorem total_cons (value : Nat) (values : List Nat) :
    total (value :: values) = value + total values := rfl

theorem total_set {i old : Nat} (h : values[i]? = some old) (new : Nat) :
    total (values.set i new) + old = total values + new := by
  induction values generalizing i with
  | nil => simp at h
  | cons value values ih =>
    cases i with
    | zero =>
      obtain rfl : value = old := by simpa using h
      simp only [List.set_cons_zero, total_cons]
      omega
    | succ i =>
      have rest := ih (i := i) (by simpa using h)
      simp only [List.set_cons_succ, total_cons]
      omega

namespace Fits

theorem length_eq (fits : Fits values entries) : values.length = entries.length :=
  List.Forall₂.length_eq fits

theorem leastTotal_le (fits : Fits values entries) : leastTotal entries ≤ total values := by
  induction fits with
  | nil => exact Nat.le_refl _
  | cons within _ ih =>
    obtain ⟨lower, _⟩ := within
    simp only [leastTotal, List.map_cons, total_cons] at ih ⊢
    omega

theorem le_greatestTotal (fits : Fits values entries) : total values ≤ greatestTotal entries := by
  induction fits with
  | nil => exact Nat.le_refl _
  | cons within _ ih =>
    obtain ⟨_, upper⟩ := within
    simp only [greatestTotal, List.map_cons, total_cons] at ih ⊢
    omega

theorem within {i value : Nat} {entry : PolicyEntry} (fits : Fits values entries)
    (here : values[i]? = some value) (there : entries[i]? = some entry) :
    WithinBounds value entry := by
  induction fits generalizing i with
  | nil => simp at here
  | cons first _ ih =>
    cases i with
    | zero =>
      obtain rfl := by simpa using here
      obtain rfl := by simpa using there
      exact first
    | succ i => exact ih (by simpa using here) (by simpa using there)

theorem set {i value : Nat} {entry : PolicyEntry} (fits : Fits values entries)
    (there : entries[i]? = some entry) (within : WithinBounds value entry) :
    Fits (values.set i value) entries := by
  induction fits generalizing i with
  | nil => exact .nil
  | cons first rest ih =>
    cases i with
    | zero =>
      obtain rfl := by simpa using there
      exact .cons within rest
    | succ i => exact .cons first (ih (by simpa using there))

end Fits

end ClusterPlacement.Share

namespace ClusterPlacement.Direction

open Share (WithinBounds)

variable {value step : Nat} {entry : PolicyEntry}

/-- The bound that values move towards. -/
def bound (d : Direction) (entry : PolicyEntry) : Nat :=
  match d with
  | up => entry.upperBound
  | down => entry.lowerBound

/-- What a move of so many replicas adds to a value. -/
def signed (d : Direction) (step : Nat) : Int :=
  match d with
  | up => step
  | down => -step

theorem signed_add (d : Direction) (a b : Nat) : d.signed (a + b) = d.signed a + d.signed b := by
  cases d <;> simp only [signed] <;> omega

@[simp] theorem signed_zero (d : Direction) : d.signed 0 = 0 := by cases d <;> rfl

theorem move_within (d : Direction) (within : WithinBounds value entry)
    (room : step ≤ d.room value entry) : WithinBounds (d.move value step) entry := by
  obtain ⟨lower, upper⟩ := within
  cases d <;> simp only [Direction.room] at room <;>
    exact ⟨by simp only [move]; omega, by simp only [move]; omega⟩

theorem move_eq_add_signed (d : Direction) (within : WithinBounds value entry)
    (room : step ≤ d.room value entry) : (d.move value step : Int) = value + d.signed step := by
  obtain ⟨lower, upper⟩ := within
  cases d <;> simp only [Direction.room] at room <;> simp only [move, signed] <;> omega

theorem eq_bound_of_room_eq_zero (d : Direction) (within : WithinBounds value entry)
    (full : d.room value entry = 0) : value = d.bound entry := by
  obtain ⟨lower, upper⟩ := within
  cases d <;> simp only [Direction.room] at full <;> simp only [bound] <;> omega

end ClusterPlacement.Direction
