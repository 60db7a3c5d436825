import ClusterPlacement.Share
import Mathlib.Algebra.Group.Nat.Defs
/-! Spreading in machine words, one iteration of a pass after the other. Values have 32 bits and amounts have
64, so differences can fall below zero, sums can outgrow their word and digits can be cut off. A step in
which that happens, or which reads a place that is not there, has no result. -/

namespace ClusterPlacement

/-- What goes wrong with words and places, and not with numbers. -/
inductive WordFault where
  /-- A difference is below zero. -/
  | negative
  /-- A sum is too large for its word. -/
  | overflow
  /-- A number is too large for the word that it is narrowed to. -/
  | narrowing
  /-- A list has no such place. -/
  | noPlace (place : Nat)
deriving DecidableEq

namespace Word

variable {w : Nat}

def sub (a b : BitVec w) : Except WordFault (BitVec w) :=
  if b ≤ a then .ok (a - b) else .error .negative

def add (a b : BitVec w) : Except WordFault (BitVec w) :=
  if a.toNat + b.toNat < 2 ^ w then .ok (a + b) else .error .overflow

def narrow (a : BitVec w) (width : Nat) : Except WordFault (BitVec width) :=
  if a.toNat < 2 ^ width then .ok (a.setWidth width) else .error .narrowing

def fetch {α : Type} (xs : List α) (place : Nat) : Except WordFault α :=
  match xs[place]? with
  | some x => .ok x
  | none => .error (.noPlace place)

end Word

namespace PolicyEntry

def lowerWord (e : PolicyEntry) : BitVec 32 := (e.min.map UInt32.toBitVec).getD 0

def upperWord (e : PolicyEntry) : BitVec 32 := (e.max.map UInt32.toBitVec).getD (.allOnes 32)

end PolicyEntry

namespace Share

/-- What comes next. -/
inductive Phase where
  /-- The even step of a value. -/
  | even (place : Nat)
  /-- The order of the turns. -/
  | ordering
  /-- A turn, or the end of the turns. -/
  | turns (order : List Nat) (turn : Nat)
  | done
deriving DecidableEq

/-- Spreading under way. -/
structure Spreading where
  phase : Phase
  values : List (BitVec 32)
  /-- How many replicas are left for the turns. -/
  owed : BitVec 64
deriving DecidableEq

namespace Spreading

def roomOf (d : Direction) (value : BitVec 32) (entry : PolicyEntry) :
    Except WordFault (BitVec 64) := do
  let gap ← match d with
    | .up => Word.sub entry.upperWord value
    | .down => Word.sub value entry.lowerWord
  return gap.setWidth 64

def moveBy (d : Direction) (value step : BitVec 32) : Except WordFault (BitVec 32) :=
  match d with
  | .up => Word.add value step
  | .down => Word.sub value step

/-- The even step of one value: where it comes to, and what is owed with what it leaves over. -/
def evenStep (d : Direction) (fill : BitVec 64) (entry : PolicyEntry) (value : BitVec 32)
    (owed : BitVec 64) : Except WordFault (BitVec 32 × BitVec 64) := do
  let room ← roomOf d value entry
  let step := if fill ≤ room then fill else room
  let moved ← moveBy d value (← Word.narrow step 32)
  let rest ← Word.sub fill step
  return (moved, ← Word.add owed rest)

/-- The order of the turns. Comparing the weights of two places reads their entries. -/
def orderOf (count : Nat) (entries : List PolicyEntry) : Except WordFault (List Nat) := do
  let _ ← (List.range count).mapM (Word.fetch entries)
  return weightOrder count entries

/-- A turn of a place: its value moves by one, or the place leaves the order if it has no room. -/
def serve (d : Direction) (entry : PolicyEntry) (order : List Nat) (turn place : Nat) (value : BitVec 32)
    (s : Spreading) : Except WordFault Spreading := do
  if (← roomOf d value entry) = 0 then return { s with phase := .turns (order.eraseIdx turn) turn }
  else
    let moved ← moveBy d value 1
    return ⟨.turns order (turn + 1), s.values.set place moved, ← Word.sub s.owed 1⟩

/-- The next turn. Past the end of the order it is the first place's again. -/
def takeTurn (d : Direction) (entries : List PolicyEntry) (order : List Nat) (turn : Nat)
    (s : Spreading) : Except WordFault Spreading := do
  let turn := if order.length ≤ turn then 0 else turn
  let place ← Word.fetch order turn
  let value ← Word.fetch s.values place
  let entry ← Word.fetch entries place
  serve d entry order turn place value s

/-- What comes after a state; nothing once spreading is done. -/
def next (d : Direction) (entries : List PolicyEntry) (fill : BitVec 64) (s : Spreading) :
    Except WordFault (Option Spreading) :=
  match s.phase with
  | .even place =>
    match s.values[place]?, entries[place]? with
    | some value, some entry => do
      let (moved, owed) ← evenStep d fill entry value s.owed
      return some ⟨.even (place + 1), s.values.set place moved, owed⟩
    | _, _ => return some { s with phase := .ordering }
  | .ordering => do
    let order ← orderOf s.values.length entries
    return some { s with phase := .turns order 0 }
  | .turns order turn =>
    if s.owed = 0 ∨ order = [] then return some { s with phase := .done }
    else do return some (← takeTurn d entries order turn s)
  | .done => return none

/-- The even step of every value. -/
def fillOf (values : List (BitVec 32)) (owed : Int64) : BitVec 64 :=
  .ofNat 64 (owed.toInt.natAbs / values.length)

/-- What is owed when every value has taken its even step. -/
def restOf (values : List (BitVec 32)) (owed : Int64) : BitVec 64 :=
  .ofNat 64 (owed.toInt.natAbs % values.length)

/-- Where spreading starts. There is no even step where less is owed than one for each value. -/
def start (values : List (BitVec 32)) (owed : Int64) : Spreading :=
  if values.isEmpty ∨ owed = 0 then ⟨.done, values, 0⟩
  else if fillOf values owed = 0 then ⟨.ordering, values, restOf values owed⟩
  else ⟨.even 0, values, restOf values owed⟩

/-- The next state while an amount is spread. -/
def advance (values : List (BitVec 32)) (entries : List PolicyEntry) (owed : Int64) (s : Spreading) :
    Except WordFault (Option Spreading) :=
  s.next (if 0 < owed then .up else .down) entries (fillOf values owed)

/-- The states that spreading an amount comes to, with the number of steps up to there. -/
inductive Reaches (values : List (BitVec 32)) (entries : List PolicyEntry) (owed : Int64) :
    Nat → Spreading → Prop where
  | start : Reaches values entries owed 0 (start values owed)
  | next {n : Nat} {s s' : Spreading} : Reaches values entries owed n s →
      advance values entries owed s = .ok (some s') → Reaches values entries owed (n + 1) s'

end Spreading

def clampWord (entry : PolicyEntry) (value : BitVec 32) : BitVec 32 :=
  if value < entry.lowerWord then entry.lowerWord
  else if entry.upperWord < value then entry.upperWord
  else value

/-- The words that sharing by weight starts from, where the proportions are as given. -/
def clampedWords (raw : PolicyEntry → BitVec 32) (entries : List PolicyEntry) : List (BitVec 32) :=
  entries.map fun entry => clampWord entry (raw entry)

def proportionWord (replicas total : Nat) (entry : PolicyEntry) : BitVec 32 :=
  .ofNat 32 (proportion replicas total entry)

end Share

end ClusterPlacement
