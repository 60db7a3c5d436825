import ClusterPlacement.Binary64
import ClusterPlacement.Directory
import ClusterPlacement.Share.Laps
/-! Sharing replicas by weight. Every entry gets its rounded-down proportion, brought into its bounds;
what is then still owed, or was given out in excess, is spread in two passes that keep every value in
bounds: an even step for all, then single replicas in turn, heavier entries first. -/

namespace ClusterPlacement.Share

/-- Moves every value by `step`, or up to its bound where that is nearer. -/
def stepAll (d : Direction) (step : Nat) : List Nat → List PolicyEntry → List Nat
  | value :: values, entry :: entries =>
    d.move value (min step (d.room value entry)) :: stepAll d step values entries
  | values, _ => values

/-- What the values that meet their bound leave over of an even step. -/
def shortfall (d : Direction) (step : Nat) : List Nat → List PolicyEntry → Nat
  | value :: values, entry :: entries =>
    (step - min step (d.room value entry)) + shortfall d step values entries
  | _, _ => 0

/-- The places of values, heavier entries first and equally heavy ones by place. -/
def weightOrder (count : Nat) (entries : List PolicyEntry) : List Nat :=
  let weight (i : Nat) : Nat := (entries[i]?.map (·.weight.toNat)).getD 0
  (List.range count).mergeSort fun i j => weight j ≤ weight i

theorem nodup_weightOrder (count : Nat) (entries : List PolicyEntry) :
    (weightOrder count entries).Nodup :=
  (List.mergeSort_perm _ _).nodup_iff.2 List.nodup_range

/-- Spreads what is owed over the values, or takes back a surplus if it is negative. It stops short
where every value has met its bound. -/
def redistribute (values : List Nat) (entries : List PolicyEntry) (owed : Int) : List Nat :=
  if values.isEmpty ∨ owed = 0 then values
  else
    let d : Direction := if 0 < owed then .up else .down
    let step := owed.natAbs / values.length
    let rest := owed.natAbs % values.length + shortfall d step values entries
    (Round.finish d entries
      ⟨stepAll d step values entries, weightOrder values.length entries, 0, rest⟩).values

def total (values : List Nat) : Nat := values.foldr (· + ·) 0

def totalWeight (entries : List PolicyEntry) : Nat := total (entries.map (·.weight.toNat))

/-- The proportion of an entry, rounded down. The quotient and the product are each rounded to
binary64, so the result can differ from the exact proportion. -/
def proportion (replicas total : Nat) (entry : PolicyEntry) : Nat :=
  let perWeight := (Binary64.ofNat replicas).div (Binary64.ofNat total)
  min (perWeight.mul (Binary64.ofNat entry.weight.toNat)).floor PolicyEntry.replicaLimit

def clampTo (entry : PolicyEntry) (value : Nat) : Nat :=
  if value < entry.lowerBound then entry.lowerBound
  else if entry.upperBound < value then entry.upperBound
  else value

/-- The shares that come from given proportions. -/
def ofProportions (proportion : PolicyEntry → Nat) (replicas : Nat) (entries : List PolicyEntry) :
    List Nat :=
  let values := entries.map fun entry => clampTo entry (proportion entry)
  redistribute values entries ((replicas : Int) - total values)

/-- What forbids sharing by the weights of these entries. -/
def fault? (entries : List PolicyEntry) : Option PolicyFault :=
  let emptyRange? : PolicyEntry × Nat → Option PolicyFault := fun (entry, i) =>
    if entry.upperBound < entry.lowerBound then
      some (.emptyRange i entry.lowerBound entry.upperBound)
    else none
  (entries.zipIdx.findSome? emptyRange?).or (if totalWeight entries = 0 then some .noWeight else none)

/-- The replicas of each entry, by weight and within bounds. -/
def weighted (replicas : Nat) (entries : List PolicyEntry) : Except PlacementError (List Nat) :=
  match fault? entries with
  | some fault => .error (.invalidPolicy fault)
  | none => .ok (ofProportions (proportion replicas (totalWeight entries)) replicas entries)

end ClusterPlacement.Share
