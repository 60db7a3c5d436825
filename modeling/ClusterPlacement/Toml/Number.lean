import ClusterPlacement.Toml.Value
/-! TOML numbers, dates and times, and how numbers are written. -/

namespace ClusterPlacement.Toml

/-- Further digits of a number. An underscore stands between two digits. -/
def moreDigits (base : Nat) : List Char → Option (List Nat × List Char)
  | [] => some ([], [])
  | ['_'] => none
  | '_' :: c :: rest =>
    match Numeral.digitBelow? base c with
    | some d => (moreDigits base rest).map fun (ds, rest) => (d :: ds, rest)
    | none => none
  | c :: rest =>
    match Numeral.digitBelow? base c with
    | some d => (moreDigits base rest).map fun (ds, rest) => (d :: ds, rest)
    | none => some ([], c :: rest)

/-- Digits, at least one. -/
def readDigits (base : Nat) : List Char → Option (List Nat × List Char)
  | [] => none
  | c :: rest => do
    let d ← Numeral.digitBelow? base c
    let (ds, rest) ← moreDigits base rest
    return (d :: ds, rest)

/-- A whole number without leading zeros. -/
def readWhole : List Char → Option (List Nat × List Char)
  | '0' :: rest => some ([0], rest)
  | text => readDigits 10 text

/-- A decimal number of exactly so many digits. -/
def readFixed (count : Nat) (text : List Char) : Option (Nat × List Char) := do
  let ds ← (text.take count).mapM (Numeral.digitBelow? 10)
  if ds.length = count then some (Numeral.ofDigits 10 ds, text.drop count) else none

/-- The text after a character that must be there. -/
def expect (c : Char) : List Char → Option (List Char)
  | d :: rest => if c = d then some rest else none
  | [] => none

def isLeapYear (year : Nat) : Bool := year % 4 = 0 && (year % 100 ≠ 0 || year % 400 = 0)

def daysInMonth (year month : Nat) : Nat :=
  if month = 2 then if isLeapYear year then 29 else 28
  else if month ∈ [4, 6, 9, 11] then 30
  else 31

def readDate (text : List Char) : Option (List Char) := do
  let (year, text) ← readFixed 4 text
  let (month, text) ← readFixed 2 (← expect '-' text)
  let (day, text) ← readFixed 2 (← expect '-' text)
  if 1 ≤ month ∧ month ≤ 12 ∧ 1 ≤ day ∧ day ≤ daysInMonth year month then some text else none

def readHourMinute (text : List Char) : Option (List Char) := do
  let (hour, text) ← readFixed 2 text
  let (minute, text) ← readFixed 2 (← expect ':' text)
  if hour ≤ 23 ∧ minute ≤ 59 then some text else none

/-- A time of day with an optional fraction of a second. A second may be a leap second. -/
def readTime (text : List Char) : Option (List Char) := do
  let text ← readHourMinute text
  let (second, text) ← readFixed 2 (← expect ':' text)
  if 60 < second then none
  match text with
  | '.' :: rest =>
    if (rest.takeWhile Numeral.isDecimalDigit).isEmpty then none
    else some (rest.dropWhile Numeral.isDecimalDigit)
  | text => some text

/-- The offset of a time, which may be left out. -/
def readOffset : List Char → Option (List Char)
  | 'Z' :: rest | 'z' :: rest => some rest
  | '+' :: rest | '-' :: rest => readHourMinute rest
  | text => some text

/-- The text after a date, a time, or both. -/
def readMoment (text : List Char) : Option (List Char) :=
  match readDate text with
  | none => readTime text
  | some rest =>
    match rest with
    | c :: after =>
      if c = 'T' ∨ c = 't' ∨ c = ' ' then
        match readTime after with
        | some rest => readOffset rest
        | none => some rest
      else some rest
    | [] => some []

/-- Splits off a sign. -/
def readSign : List Char → Bool × List Char
  | '-' :: rest => (true, rest)
  | '+' :: rest => (false, rest)
  | text => (false, text)

def integer? (n : Int) : Option Toml := if fitsInteger n then some (.integer (.ofInt n)) else none

/-- A float. One that is too large is refused, but too far below zero it becomes infinite. -/
def float? (negative : Bool) (d : Decimal) : Option Toml :=
  let x := Binary64.ofDecimal negative d
  if x.isInfinite && !negative then none else some (.float x)

/-- Reads an exponent after its letter. -/
def readExponent (text : List Char) : Option (Int × List Char) := do
  let (negative, text) := readSign text
  let (ds, text) ← readDigits 10 text
  let size : Int := Numeral.ofDigits 10 ds
  return (if negative then -size else size, text)

/-- Reads what may follow the digits of a float. -/
def readScale (text : List Char) : Option (Int × List Char) :=
  match text with
  | 'e' :: rest | 'E' :: rest => readExponent rest
  | text => some (0, text)

/-- Reads on after the whole part of a number. A fraction or an exponent makes it a float. -/
def readAfterWhole (negative : Bool) (whole : List Nat) : List Char → Option (Toml × List Char)
  | '.' :: rest => do
    let (fraction, text) ← readDigits 10 rest
    let (scale, text) ← readScale text
    let d : Decimal := ⟨Numeral.ofDigits 10 (whole ++ fraction), scale - fraction.length⟩
    return (← float? negative d, text)
  | 'e' :: rest | 'E' :: rest => do
    let (scale, text) ← readExponent rest
    return (← float? negative ⟨Numeral.ofDigits 10 whole, scale⟩, text)
  | text => do
    let size : Int := Numeral.ofDigits 10 whole
    return (← integer? (if negative then -size else size), text)

def readDecimal (negative : Bool) (text : List Char) : Option (Toml × List Char) := do
  let (whole, text) ← readWhole text
  readAfterWhole negative whole text

def readRadix (base : Nat) (text : List Char) : Option (Toml × List Char) := do
  let (ds, text) ← readDigits base text
  return (← integer? (Numeral.ofDigits base ds), text)

/-- Reads a number or a moment. -/
def readNumber (text : List Char) : Option (Toml × List Char) :=
  match readMoment text with
  | some rest => some (.moment, rest)
  | none =>
    match text with
    | '0' :: 'x' :: rest => readRadix 16 rest
    | '0' :: 'o' :: rest => readRadix 8 rest
    | '0' :: 'b' :: rest => readRadix 2 rest
    | text =>
      let (negative, text) := readSign text
      match text with
      | 'i' :: 'n' :: 'f' :: rest => some (.float (.infinity negative), rest)
      | 'n' :: 'a' :: 'n' :: rest => some (.float (if negative then Binary64.nan.neg else .nan), rest)
      | text => readDecimal negative text

/-- Floats have a fraction, so that they do not read back as integers. The sign of a NaN is not
written. -/
def floatSpelling : Binary64.Spelling := ⟨"nan", "inf", ".0"⟩

def writeFloat (x : Binary64) : List Char := (x.positionalText floatSpelling).toList

/-- Integers of more than 63 bits cannot be written. -/
def writeInteger? (n : Nat) : Option (List Char) :=
  if fitsInteger n then some (Numeral.decimalChars n) else none

end ClusterPlacement.Toml
