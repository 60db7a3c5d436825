import ClusterPlacement.Binary64
/-! Spans of time in whole nanoseconds, and their exchange with seconds as binary64 numbers. -/

namespace ClusterPlacement

structure Duration where
  nanoseconds : Nat
deriving DecidableEq, Inhabited

namespace Duration

def nanosecondsPerSecond : Nat := 1000000000

def zero : Duration := ⟨0⟩

def ofSeconds (n : Nat) : Duration := ⟨n * nanosecondsPerSecond⟩

def ofMilliseconds (n : Nat) : Duration := ⟨n * 1000000⟩

def wholeSeconds (d : Duration) : Nat := d.nanoseconds / nanosecondsPerSecond

def subsecondNanoseconds (d : Duration) : Nat := d.nanoseconds % nanosecondsPerSecond

/-- The seconds of a span as a binary64 number: the whole seconds and the fraction are each rounded,
and so is their sum. -/
def toSeconds (d : Duration) : Binary64 :=
  Binary64.addMagnitudes (Binary64.ofNat d.wholeSeconds)
    (Binary64.div (Binary64.ofNat d.subsecondNanoseconds) (Binary64.ofNat nanosecondsPerSecond))

/-- Below this many seconds a span can be represented. -/
def secondsLimit : Nat := UInt64.size

/-- The span nearest to a number of seconds, ties to the even nanosecond. Negative numbers, NaN and
numbers from 2^64 on have none. -/
def ofBinary64? (x : Binary64) : Option Duration :=
  if x.isFinite && !x.lt (Binary64.ofNat 0) && x.lt (Binary64.ofNat secondsLimit) then
    some ⟨Binary64.divideToEven (x.units * nanosecondsPerSecond) Binary64.unitsPerOne⟩
  else none

def max (a b : Duration) : Duration := if a.nanoseconds ≤ b.nanoseconds then b else a

def min (a b : Duration) : Duration := if a.nanoseconds ≤ b.nanoseconds then a else b

end Duration

end ClusterPlacement
