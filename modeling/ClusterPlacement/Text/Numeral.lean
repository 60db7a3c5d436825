/-! Positional numerals: the digits of a number, most significant first, and the number that digits
denote. `ofDigits_digits` says that the two fit together. -/

namespace ClusterPlacement.Numeral

/-- The digits of `n`, most significant first and without leading zeros; zero is the single digit
zero. A base below two has no positional form, and the number stands as its own only digit. -/
def digits (base n : Nat) : List Nat :=
  if _ : n < base ∨ base < 2 then [n] else digits base (n / base) ++ [n % base]
termination_by n
decreasing_by exact Nat.div_lt_self (by omega) (by omega)

def ofDigits (base : Nat) (ds : List Nat) : Nat := ds.foldl (fun n d => n * base + d) 0

theorem ofDigits_append_single (base : Nat) (ds : List Nat) (d : Nat) :
    ofDigits base (ds ++ [d]) = ofDigits base ds * base + d := by
  simp [ofDigits]

theorem ofDigits_digits (base n : Nat) : ofDigits base (digits base n) = n := by
  fun_induction digits base n with
  | case1 n h => simp [ofDigits]
  | case2 n h ih => rw [ofDigits_append_single, ih]; exact Nat.div_add_mod' n base

/-- What a one with `n` zeros after it denotes. -/
def powerOfTen (n : Nat) : Nat := Nat.pow 10 n

/-- The character of a digit up to fifteen. -/
def lowerDigit (d : Nat) : Char := Char.ofNat (if d < 10 then 48 + d else 87 + d)

def upperDigit (d : Nat) : Char := Char.ofNat (if d < 10 then 48 + d else 55 + d)

def isDecimalDigit (c : Char) : Bool := '0' ≤ c && c ≤ '9'

/-- The value of a hexadecimal digit in either case. -/
def digitValue? (c : Char) : Option Nat :=
  if isDecimalDigit c then some (c.toNat - 48)
  else if 'a' ≤ c && c ≤ 'f' then some (c.toNat - 87)
  else if 'A' ≤ c && c ≤ 'F' then some (c.toNat - 55)
  else none

/-- The value of a digit of a base up to sixteen. -/
def digitBelow? (base : Nat) (c : Char) : Option Nat :=
  (digitValue? c).filter (· < base)

def decimalChars (n : Nat) : List Char := (digits 10 n).map lowerDigit

/-- The decimal text of a number. -/
def decimal (n : Nat) : String := String.ofList (decimalChars n)

def integer (n : Int) : String := if n < 0 then "-" ++ decimal n.natAbs else decimal n.natAbs

/-- Pads with zeros on the left up to `width` digits. -/
def padded (width : Nat) (ds : List Nat) : List Nat := List.replicate (width - ds.length) 0 ++ ds

def lowerHex (width n : Nat) : String :=
  String.ofList ((padded width (digits 16 n)).map lowerDigit)

def upperHex (width n : Nat) : String :=
  String.ofList ((padded width (digits 16 n)).map upperDigit)

end ClusterPlacement.Numeral
