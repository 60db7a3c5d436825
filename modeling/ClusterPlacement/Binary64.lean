/-! Binary64 numbers by their bits, with exactly rounded arithmetic. Every finite number is a whole
count of the unit 2^-1074, so an operation is computed on the units and rounded once, to the nearest
number, ties to the even one. Nothing here depends on the machine's own floating point. -/

namespace ClusterPlacement

/-- A binary64 number: a sign bit over 63 magnitude bits. Equality is equality of bits, so the two
zeros differ and every NaN equals itself. -/
structure Binary64 where
  bits : UInt64
deriving DecidableEq, Inhabited

namespace Binary64

/-- How many units make one. -/
def unitsPerOne : Nat := 1 <<< 1074

/-- The magnitude of infinity. Smaller magnitudes are finite and larger ones are NaNs. -/
def infiniteMagnitude : Nat := 0x7ff0000000000000

def signWeight : Nat := 0x8000000000000000

/-- How many numbers there are from one power of two up to the next: 2^52. -/
def binade : Nat := 0x10000000000000

def ofMagnitude (negative : Bool) (magnitude : Nat) : Binary64 :=
  ⟨UInt64.ofNat ((if negative then signWeight else 0) + magnitude)⟩

def isNegative (x : Binary64) : Bool := signWeight ≤ x.bits.toNat

def magnitude (x : Binary64) : Nat := x.bits.toNat % signWeight

def isNaN (x : Binary64) : Bool := infiniteMagnitude < x.magnitude

def isInfinite (x : Binary64) : Bool := x.magnitude = infiniteMagnitude

def isFinite (x : Binary64) : Bool := x.magnitude < infiniteMagnitude

def nan : Binary64 := ofMagnitude false 0x7ff8000000000000

def infinity (negative : Bool) : Binary64 := ofMagnitude negative infiniteMagnitude

/-- The units of a finite magnitude. The magnitudes below 2^53 count units directly; above that the
high bits give the power of two that the 53-bit significand is scaled by. -/
def unitsOf (magnitude : Nat) : Nat :=
  if magnitude < 2 * binade then magnitude
  else (binade + magnitude % binade) <<< (magnitude / binade - 1)

def units (x : Binary64) : Nat := unitsOf x.magnitude

/-- The whole number nearest to a quotient, ties to the even one. -/
def divideToEven (numerator denominator : Nat) : Nat :=
  let quotient := numerator / denominator
  let remainder := numerator % denominator
  if 2 * remainder < denominator ∨ (2 * remainder = denominator ∧ quotient % 2 = 0) then quotient
  else quotient + 1

/-- The magnitude nearest to `numerator / denominator` units. A significand that rounds up to 2^53
carries into the exponent bits by plain addition, and a quotient past the largest finite number
becomes infinite. -/
def nearestMagnitude (numerator denominator : Nat) : Nat :=
  let shift := (numerator / denominator).log2 - 52
  min (shift * binade + divideToEven numerator (denominator <<< shift)) infiniteMagnitude

/-- The number nearest to the rational `numerator / denominator`. -/
def ofRatio (negative : Bool) (numerator denominator : Nat) : Binary64 :=
  ofMagnitude negative (nearestMagnitude (numerator * unitsPerOne) denominator)

def ofNat (n : Nat) : Binary64 := ofRatio false n 1

def ofInt (n : Int) : Binary64 := ofRatio (n < 0) n.natAbs 1

/-- Units with their sign, which order the finite numbers; both zeros are 0. Infinity comes out
larger than every finite number. -/
def orderKey (x : Binary64) : Int := if x.isNegative then -(x.magnitude : Int) else x.magnitude

/-- The order of the numbers. A NaN is neither below nor above anything. -/
def lt (x y : Binary64) : Bool := !x.isNaN && !y.isNaN && x.orderKey < y.orderKey

def neg (x : Binary64) : Binary64 := ofMagnitude (!x.isNegative) x.magnitude

def mul (x y : Binary64) : Binary64 :=
  let negative := x.isNegative != y.isNegative
  if x.isNaN || y.isNaN then nan
  else if x.isInfinite || y.isInfinite then
    if x.units = 0 || y.units = 0 then nan else infinity negative
  else ofMagnitude negative (nearestMagnitude (x.units * y.units) unitsPerOne)

def div (x y : Binary64) : Binary64 :=
  let negative := x.isNegative != y.isNegative
  if x.isNaN || y.isNaN then nan
  else if x.isInfinite then if y.isInfinite then nan else infinity negative
  else if y.isInfinite then ofMagnitude negative 0
  else if y.units = 0 then if x.units = 0 then nan else infinity negative
  else ofMagnitude negative (nearestMagnitude (x.units * unitsPerOne) y.units)

/-- The sum of two finite numbers that are not negative. -/
def addMagnitudes (x y : Binary64) : Binary64 :=
  ofMagnitude false (nearestMagnitude (x.units + y.units) 1)

def max (x y : Binary64) : Binary64 := if x.lt y then y else x

/-- Brings a number into `low … high`; a NaN compares with nothing and stays. -/
def clamp (x low high : Binary64) : Binary64 :=
  if x.lt low then low else if high.lt x then high else x

/-- The whole part of a number that is finite and not negative. -/
def floor (x : Binary64) : Nat := x.units / unitsPerOne

end Binary64

end ClusterPlacement
