import ClusterPlacement.Json.Document
/-! Reading a text as a JSON document. Each function returns what it read and the text after it, or
no text where reading breaks off. -/

namespace ClusterPlacement.Document

open Json (Number)

def isBlank (c : Char) : Bool := c = ' ' || c = '\n' || c = '\t' || c = '\r'

def dropBlanks (text : List Char) : List Char := text.dropWhile isBlank

abbrev Reading := Document × Option (List Char)

/-- Reads the rest of a word such as `null`. -/
def readWord (meaning : Document) : List Char → List Char → Reading
  | [], text => (meaning, some text)
  | _ :: _, [] => (.garbled .ended .ended, none)
  | c :: word, d :: text =>
    if c = d then readWord meaning word text else (.garbled .malformed .malformed, none)

def maxUnsigned : Nat := UInt64.size - 1

/-- The size of the smallest integer that fits 64 bits with a sign. -/
def maxNegative : Nat := 0x8000000000000000

/-- The significand that keeps taking decimal digits for as long as it fits 64 bits, and the digits
that no longer fit. -/
def absorb (significand : Nat) : List Nat → Nat × List Nat
  | [] => (significand, [])
  | d :: ds =>
    if significand * 10 + d ≤ maxUnsigned then absorb (significand * 10 + d) ds
    else (significand, d :: ds)

/-- Scales a significand by a power of ten in binary64: by one multiplication or division, after
dividing by 10^308 for as long as the exponent is below -308. A result that is infinite is an
error. -/
def scale : Nat → Binary64 → Int → Option Binary64
  | 0, x, _ => some x
  | steps + 1, x, exponent =>
    if exponent.natAbs ≤ 308 then
      let power := Binary64.ofNat (Numeral.powerOfTen exponent.natAbs)
      if 0 ≤ exponent then
        let y := x.mul power
        if y.isInfinite then none else some y
      else some (x.div power)
    else if x.units = 0 then some x
    else if 0 ≤ exponent then none
    else scale steps (x.div (Binary64.ofNat (Numeral.powerOfTen 308))) (exponent + 308)

/-- The number with a sign, a significand and a power of ten. Three divisions by 10^308 bring every
64-bit significand down to zero. -/
def floatValue (negative : Bool) (significand : Nat) (exponent : Int) : Except Fault Number :=
  match scale 4 (Binary64.ofNat significand) exponent with
  | some x => .ok (.float (if negative then x.neg else x))
  | none => .error .malformed

/-- The parts of a number as written. -/
structure NumberParts where
  negative : Bool
  whole : List Nat
  fraction : Option (List Nat)
  /-- The sign of the exponent and its digits. -/
  exponent : Option (Bool × List Nat)

/-- The largest exponent that is read as a number; beyond it a value is zero or out of range. -/
def maxExponent : Nat := 0x7fffffff

def NumberParts.value (p : NumberParts) : Except Fault Number :=
  let (significand, surplus) := absorb 0 p.whole
  let start : Int := surplus.length
  let (significand, point) :=
    match p.fraction with
    | none => (significand, start)
    | some ds =>
      let (significand, left) := absorb significand ds
      (significand, start - (ds.length - left.length))
  match p.exponent with
  | some (negativeExponent, ds) =>
    let size := Numeral.ofDigits 10 ds
    if maxExponent < size then
      if significand ≠ 0 ∧ !negativeExponent then .error .malformed
      else .ok (.float (Binary64.ofMagnitude p.negative 0))
    else floatValue p.negative significand (if negativeExponent then point - size else point + size)
  | none =>
    if p.fraction.isSome || !surplus.isEmpty then floatValue p.negative significand point
    else if !p.negative then .ok (.integer significand)
    else if significand = 0 ∨ maxNegative < significand then
      .ok (.float (Binary64.ofNat significand).neg)
    else .ok (.integer (-significand))

/-- Decimal digits at the start of a text. -/
def spanDigits (text : List Char) : List Nat × List Char :=
  ((text.takeWhile Numeral.isDecimalDigit).map (fun c => c.toNat - 48),
    text.dropWhile Numeral.isDecimalDigit)

/-- Where digits are missing: the end of the text is told apart only by who wants the value. -/
def missingDigits (text : List Char) : Document :=
  .garbled (if text.isEmpty then .ended else .malformed) .malformed

def readExponent (parts : NumberParts) (text : List Char) : Reading :=
  let (negative, text) :=
    match text with
    | '+' :: rest => (false, rest)
    | '-' :: rest => (true, rest)
    | _ => (false, text)
  match spanDigits text with
  | ([], text) => (missingDigits text, none)
  | (ds, text) => (.number { parts with exponent := some (negative, ds) }.value, some text)

def readAfterFraction (parts : NumberParts) : List Char → Reading
  | 'e' :: text | 'E' :: text => readExponent parts text
  | text => (.number parts.value, some text)

def readAfterWhole (parts : NumberParts) : List Char → Reading
  | '.' :: text =>
    match spanDigits text with
    | ([], text) => (missingDigits text, none)
    | (ds, text) => readAfterFraction { parts with fraction := some ds } text
  | text => readAfterFraction parts text

/-- Reads a number after its sign. A zero is followed by no further digit. -/
def readNumber (negative : Bool) (text : List Char) : Reading :=
  match spanDigits text with
  | ([], text) => (missingDigits text, none)
  | (0 :: _ :: _, _) => (.garbled .malformed .malformed, none)
  | (ds, text) => readAfterWhole ⟨negative, ds, none, none⟩ text

/-- A piece of a string: a character, or a 16-bit unit given by four hexadecimal digits. -/
inductive Piece where
  | char (c : Char)
  /-- A character written with a backslash. -/
  | escaped (c : Char)
  | unit (n : Nat)

/-- How the pieces of a string end: at its closing quote, or where reading breaks off. -/
inductive Closing where
  | closed (rest : List Char)
  | broken (fault : Fault)

def escapedChar? : Char → Option Char
  | '"' => some '"'
  | '\\' => some '\\'
  | '/' => some '/'
  | 'b' => some '\x08'
  | 'f' => some '\x0c'
  | 'n' => some '\n'
  | 'r' => some '\r'
  | 't' => some '\t'
  | _ => none

def hexUnit? (a b c d : Char) : Option Nat := do
  let a ← Numeral.digitValue? a
  let b ← Numeral.digitValue? b
  let c ← Numeral.digitValue? c
  let d ← Numeral.digitValue? d
  return Numeral.ofDigits 16 [a, b, c, d]

/-- A unit with fewer than four characters left. The text counts as ended only if it has fewer than
four bytes left. -/
def shortUnit (text : List Char) : Fault :=
  if (String.ofList text).utf8ByteSize < 4 then .ended else .malformed

/-- The pieces of a string after its opening quote. -/
def pieces : List Char → List Piece × Closing
  | [] => ([], .broken .ended)
  | '"' :: text => ([], .closed text)
  | '\\' :: 'u' :: a :: b :: c :: d :: text =>
    match hexUnit? a b c d with
    | some n => let (ps, closing) := pieces text; (.unit n :: ps, closing)
    | none => ([], .broken .malformed)
  | '\\' :: 'u' :: text => ([], .broken (shortUnit text))
  | '\\' :: c :: text =>
    match escapedChar? c with
    | some c => let (ps, closing) := pieces text; (.escaped c :: ps, closing)
    | none => ([], .broken .malformed)
  | ['\\'] => ([], .broken .ended)
  | c :: text =>
    if c < ' ' then ([], .broken .malformed)
    else let (ps, closing) := pieces text; (.char c :: ps, closing)

def isHighSurrogate (n : Nat) : Bool := 0xd800 ≤ n && n ≤ 0xdbff

def isLowSurrogate (n : Nat) : Bool := 0xdc00 ≤ n && n ≤ 0xdfff

/-- Joins pieces into text. A high surrogate must be followed at once by a low one; where the string
breaks off right after it, the break itself is the fault. -/
def join (closing : Closing) : List Piece → Except Fault (List Char)
  | [] => match closing with
    | .closed _ => .ok []
    | .broken fault => .error fault
  | .char c :: ps | .escaped c :: ps => (join closing ps).map (c :: ·)
  | .unit high :: ps =>
    if isLowSurrogate high then .error .malformed
    else if isHighSurrogate high then
      match ps with
      | .unit low :: ps =>
        if isLowSurrogate low then
          (join closing ps).map (Char.ofNat (0x10000 + (high - 0xd800) * 0x400 + (low - 0xdc00)) :: ·)
        else .error .malformed
      | [] => match closing with
        | .closed _ => .error .malformed
        | .broken fault => .error fault
      | _ => .error .malformed
    else (join closing ps).map (Char.ofNat high :: ·)

/-- Reads a string after its opening quote. -/
def readString (text : List Char) : Except Fault String × Closing :=
  let (ps, closing) := pieces text
  ((join closing ps).map String.ofList, closing)

/-- The fault met when a string that breaks off is wanted. -/
def wantedFault (value : Except Fault String) (skipped : Fault) : Fault :=
  match value with
  | .ok _ => skipped
  | .error fault => fault

/-- Where a comma or a closing bracket is missing. -/
def unclosed (text : List Char) : Fault := if text.isEmpty then .ended else .malformed

abbrev Field := Except Fault String × Document

/-- How the fields of an object end. -/
inductive FieldsEnding where
  | closed (rest : List Char)
  | unclosed (fault : Fault)
  /-- Something other than a string in the place of a key. -/
  | stray (wanted skipped : Fault)

def FieldsEnding.finish (fields : List Field) : FieldsEnding → Reading
  | .closed rest => (.object fields none, some rest)
  | .unclosed fault => (.object fields (some fault), none)
  | .stray wanted skipped => (.keyless fields wanted skipped, none)

mutual

/-- Reads a value. Every call either uses up a character or comes right after one that did, so twice
the length of the text, and a little more, bounds the number of nested calls. -/
def readValue : Nat → List Char → Reading
  | 0, _ => (.absent, none)
  | bound + 1, text =>
    match dropBlanks text with
    | [] => (.absent, none)
    | 'n' :: text => readWord .null ['u', 'l', 'l'] text
    | 't' :: text => readWord (.boolean true) ['r', 'u', 'e'] text
    | 'f' :: text => readWord (.boolean false) ['a', 'l', 's', 'e'] text
    | '-' :: text => readNumber true text
    | '"' :: text =>
      match readString text with
      | (value, .closed rest) => (.string value, some rest)
      | (value, .broken skipped) => (.brokenString (wantedFault value skipped) skipped, none)
    | '[' :: text =>
      match dropBlanks text with
      | ']' :: text => (.array [] none, some text)
      | [] => (.array [] (some .ended), none)
      | text =>
        let (items, ending, rest) := readItems bound text
        (.array items ending, rest)
    | '\x7b' :: text =>
      match dropBlanks text with
      | '\x7d' :: text => (.object [] none, some text)
      | [] => (.object [] (some .ended), none)
      | text =>
        let (fields, ending) := readFields bound text
        ending.finish fields
    | c :: text =>
      if Numeral.isDecimalDigit c then readNumber false (c :: text)
      else (.garbled .malformed .malformed, none)

/-- Reads the items of an array, at least one. -/
def readItems : Nat → List Char → List Document × Option Fault × Option (List Char)
  | 0, _ => ([], some .ended, none)
  | bound + 1, text =>
    match readValue bound text with
    | (item, none) => ([item], some .malformed, none)
    | (item, some text) =>
      match dropBlanks text with
      | ',' :: text =>
        let (items, ending, rest) := readItems bound text
        (item :: items, ending, rest)
      | ']' :: text => ([item], none, some text)
      | text => ([item], some (unclosed text), none)

/-- Reads the fields of an object, at least one. -/
def readFields : Nat → List Char → List Field × FieldsEnding
  | 0, _ => ([], .unclosed .ended)
  | bound + 1, text =>
    match dropBlanks text with
    | [] => ([], .stray .ended .ended)
    | '"' :: text =>
      match readString text with
      | (key, .broken skipped) => ([], .stray (wantedFault key skipped) skipped)
      | (key, .closed text) =>
        match dropBlanks text with
        | ':' :: text =>
          match readValue bound text with
          | (value, none) => ([(key, value)], .unclosed .malformed)
          | (value, some text) =>
            match dropBlanks text with
            | ',' :: text =>
              let (fields, ending) := readFields bound text
              ((key, value) :: fields, ending)
            | '\x7d' :: text => ([(key, value)], .closed text)
            | text => ([(key, value)], .unclosed (unclosed text))
        | [] => ([(key, .absent)], .unclosed .malformed)
        | _ => ([(key, .garbled .malformed .malformed)], .unclosed .malformed)
    | _ => ([], .stray .malformed .malformed)

end

/-- Reads the document at the start of a text. -/
def read (text : List Char) : Reading := readValue (2 * text.length + 4) text

end ClusterPlacement.Document
