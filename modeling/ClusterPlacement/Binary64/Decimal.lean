import ClusterPlacement.Binary64
import ClusterPlacement.Text.Numeral
/-! Decimal fractions and binary64 numbers. Reading rounds a decimal once, exactly; writing finds the
decimal with the fewest digits that reads back as the same number. -/

namespace ClusterPlacement

/-- The decimal fraction `coefficient * 10 ^ exponent`. -/
structure Decimal where
  coefficient : Nat
  exponent : Int
deriving DecidableEq

namespace Decimal

/-- The quotient of whole numbers that a decimal stands for. -/
def numerator (d : Decimal) : Nat := d.coefficient * Numeral.powerOfTen d.exponent.toNat

def denominator (d : Decimal) : Nat := Numeral.powerOfTen (-d.exponent).toNat

/-- The number of decimal digits of the coefficient. -/
def width (d : Decimal) : Nat := (Numeral.digits 10 d.coefficient).length

/-- The magnitude nearest to a decimal. The first three cases give what the last one would, without
raising ten to a power that no finite number needs: above 10^310 everything is infinite, and below
10^-330 everything is zero. -/
def toMagnitude (d : Decimal) : Nat :=
  if d.coefficient = 0 then 0
  else if 310 < d.exponent then Binary64.infiniteMagnitude
  else if d.exponent + d.width < -330 then 0
  else Binary64.nearestMagnitude (d.numerator * Binary64.unitsPerOne) d.denominator

/-- Moves trailing zeros of the coefficient into the exponent, at most `steps` of them. -/
def trimZeros : Nat → Decimal → Decimal
  | 0, d => d
  | steps + 1, d =>
    if d.coefficient ≠ 0 ∧ d.coefficient % 10 = 0 then
      trimZeros steps ⟨d.coefficient / 10, d.exponent + 1⟩
    else d

end Decimal

namespace Binary64

def ofDecimal (negative : Bool) (d : Decimal) : Binary64 := ofMagnitude negative d.toMagnitude

/-- The exponent `e` with `10^(e-1) ≤ value < 10^e`, for a magnitude that is not zero. Every such
value is at least 10^-400, so scaling by 10^400 leaves a whole part whose digits can be counted. -/
def decimalExponent (magnitude : Nat) : Int :=
  (Numeral.digits 10 (unitsOf magnitude * Numeral.powerOfTen 400 / unitsPerOne)).length - 400

/-- The whole multiples of `10 ^ exponent` next to a value, below and above, each with its distance
from the value on a common scale. -/
def neighbours (magnitude : Nat) (exponent : Int) : List (Decimal × Nat) :=
  let numerator := unitsOf magnitude * Numeral.powerOfTen (-exponent).toNat
  let denominator := unitsPerOne * Numeral.powerOfTen exponent.toNat
  let below := numerator / denominator
  [(⟨below + 1, exponent⟩, denominator - numerator % denominator),
    (⟨below, exponent⟩, numerator % denominator)]

/-- Those of them that read back as the magnitude. -/
def readingBack (magnitude : Nat) (exponent : Int) : List (Decimal × Nat) :=
  (neighbours magnitude exponent).filter fun candidate => candidate.1.toMagnitude = magnitude

/-- Which of two equally near decimals is written. -/
inductive Tie where
  /-- The larger one. -/
  | upward
  /-- The one with the even last digit. -/
  | toEven

/-- The choice between the two neighbours of a value that lies halfway between them. -/
def Tie.choose (above below : Decimal) : Tie → Decimal
  | upward => above
  | toEven => if above.coefficient % 2 = 0 then above else below

/-- The nearest of the decimals of one precision that read back as the magnitude. -/
def nearestReadingBack? (tie : Tie) (magnitude : Nat) (exponent : Int) : Option Decimal :=
  match readingBack magnitude exponent with
  | [] => none
  | [(d, _)] => some d
  | (above, distance) :: (below, distance') :: _ =>
    some <|
      if distance < distance' then above
      else if distance' < distance then below
      else tie.choose above below

/-- The decimal places of one unit. -/
def unitPlaces : Nat := 1074

/-- The decimal with the fewest digits that reads back as the magnitude. Seventeen digits always
suffice; the exact expansion stands behind them, so that the result reads back in any case. -/
def shortestDecimal (tie : Tie) (magnitude : Nat) : Decimal :=
  if magnitude = 0 then ⟨0, 0⟩
  else
    let e := decimalExponent magnitude
    match (List.range 17).findSome? (fun n => nearestReadingBack? tie magnitude (e - (n + 1 : Nat))) with
    | some d => d.trimZeros 20
    | none => ⟨unitsOf magnitude * Nat.pow 5 unitPlaces, -unitPlaces⟩

end Binary64

namespace Decimal

/-- The digits around the point, without an exponent: `1500`, `1.5`, `0.015`. -/
def positional (d : Decimal) : String :=
  let ds := Numeral.decimalChars d.coefficient
  if 0 ≤ d.exponent then
    String.ofList (if d.coefficient = 0 then ds else ds ++ List.replicate d.exponent.toNat '0')
  else
    let places := (-d.exponent).toNat
    let ds := List.replicate (places + 1 - ds.length) '0' ++ ds
    String.ofList (ds.take (ds.length - places) ++ '.' :: ds.drop (ds.length - places))

/-- One digit, a fraction if there are more, and the power of ten with its sign: `1e+16`,
`1.25e-7`. -/
def scientific (d : Decimal) : String :=
  let ds := Numeral.decimalChars d.coefficient
  let power := d.exponent + ds.length - 1
  String.ofList (ds.take 1 ++ if ds.length ≤ 1 then [] else '.' :: ds.drop 1) ++
    (if power < 0 then "e" else "e+") ++ Numeral.integer power

end Decimal

namespace Binary64

/-- How the numbers that have no digits are spelled, and whether a whole number gets a `.0`. -/
structure Spelling where
  nan : String
  infinity : String
  wholeSuffix : String

/-- The text of a number without an exponent, however long that is. Of two equally near decimals the
larger is written. -/
def positionalText (spelling : Spelling) (x : Binary64) : String :=
  if x.isNaN then spelling.nan
  else
    let sign := if x.isNegative then "-" else ""
    if x.isInfinite then sign ++ spelling.infinity
    else
      let d := shortestDecimal .upward x.magnitude
      sign ++ d.positional ++ if 0 ≤ d.exponent then spelling.wholeSuffix else ""

/-- `-2`, `0.5`, `NaN`, `inf`. -/
def plainSpelling : Spelling := ⟨"NaN", "inf", ""⟩

/-- The text of a number in a message. -/
def plainText (x : Binary64) : String := positionalText plainSpelling x

/-- The text of a number in a data format that tells fractions from whole numbers: positional from
10^-5 up to 10^16, always with a fraction, and with an exponent outside that range. Of two equally
near decimals the one with the even last digit is written. -/
def markedText (x : Binary64) : String :=
  let d := shortestDecimal .toEven x.magnitude
  let point := d.exponent + d.width
  let sign := if x.isNegative then "-" else ""
  if d.coefficient = 0 ∨ (-5 < point ∧ point ≤ 16) then
    sign ++ d.positional ++ if 0 ≤ d.exponent then ".0" else ""
  else sign ++ d.scientific

end Binary64

end ClusterPlacement
