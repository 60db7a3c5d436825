import ClusterPlacement.Text.Numeral
/-! TOML strings: the four notations, how each is read, and which one a text is written in. -/

namespace ClusterPlacement.Toml

/-- A character that may stand for itself in a string: no control character but the tab. -/
def isPlain (c : Char) : Bool := c = '\t' || (' ' ≤ c && c ≠ '\x7f')

def isBlank (c : Char) : Bool := c = ' ' || c = '\t'

def unescape? : Char → Option Char
  | 'b' => some '\x08'
  | 't' => some '\t'
  | 'n' => some '\n'
  | 'f' => some '\x0c'
  | 'r' => some '\r'
  | '"' => some '"'
  | '\\' => some '\\'
  | _ => none

/-- The character with a code point given in hexadecimal. Surrogates are no characters. -/
def codePoint? (digits : List Char) : Option Char := do
  let ds ← digits.mapM Numeral.digitValue?
  let n := Numeral.ofDigits 16 ds
  if n.isValidChar then some (Char.ofNat n) else none

/-- Puts a character in front of what was read after it. -/
def prepend (c : Char) : Option (List Char × List Char) → Option (List Char × List Char) :=
  Option.map fun (s, rest) => (c :: s, rest)

/-- Reads `"..."` after its opening quote. -/
def readBasic : List Char → Option (List Char × List Char)
  | [] => none
  | '"' :: rest => some ([], rest)
  | '\\' :: 'u' :: a :: b :: c :: d :: rest => do
    prepend (← codePoint? [a, b, c, d]) (readBasic rest)
  | '\\' :: 'U' :: a :: b :: c :: d :: e :: f :: g :: h :: rest => do
    prepend (← codePoint? [a, b, c, d, e, f, g, h]) (readBasic rest)
  | '\\' :: c :: rest => do prepend (← unescape? c) (readBasic rest)
  | c :: rest => if isPlain c then prepend c (readBasic rest) else none

/-- Reads `'...'` after its opening quote. -/
def readLiteral : List Char → Option (List Char × List Char)
  | [] => none
  | '\'' :: rest => some ([], rest)
  | c :: rest => if isPlain c then prepend c (readLiteral rest) else none

/-- Whether a line ends after blanks. -/
def endsLine (text : List Char) : Bool :=
  match text.dropWhile isBlank with
  | '\n' :: _ | '\r' :: '\n' :: _ => true
  | _ => false

/-- The quotes that belong to a string right before its closing delimiter, of which there may be
two. -/
def closingQuotes (quote : Char) : List Char → List Char × List Char
  | a :: b :: rest =>
    if a = quote ∧ b = quote then ([quote, quote], rest)
    else if a = quote then ([quote], b :: rest)
    else ([], a :: b :: rest)
  | [a] => if a = quote then ([quote], []) else ([], [a])
  | [] => ([], [])

/-- Reads `"""..."""` after its opening delimiter. While `skipping`, after a backslash at the end of a
line, blanks and line breaks are left out. -/
def readMultiline (skipping : Bool) : List Char → Option (List Char × List Char)
  | [] => none
  | '"' :: '"' :: '"' :: rest => some (closingQuotes '"' rest)
  | '\r' :: '\n' :: rest =>
    if skipping then readMultiline true rest else prepend '\n' (readMultiline false rest)
  | '\n' :: rest =>
    if skipping then readMultiline true rest else prepend '\n' (readMultiline false rest)
  | '\\' :: 'u' :: a :: b :: c :: d :: rest => do
    prepend (← codePoint? [a, b, c, d]) (readMultiline false rest)
  | '\\' :: 'U' :: a :: b :: c :: d :: e :: f :: g :: h :: rest => do
    prepend (← codePoint? [a, b, c, d, e, f, g, h]) (readMultiline false rest)
  | '\\' :: c :: rest =>
    match unescape? c with
    | some c => prepend c (readMultiline false rest)
    | none =>
      if (isBlank c || c = '\n' || c = '\r') && endsLine (c :: rest) then
        readMultiline true rest
      else none
  | c :: rest =>
    if skipping && isBlank c then readMultiline true rest
    else if isPlain c then prepend c (readMultiline false rest)
    else none

/-- Reads `'''...'''` after its opening delimiter. -/
def readMultilineLiteral : List Char → Option (List Char × List Char)
  | [] => none
  | '\'' :: '\'' :: '\'' :: rest => some (closingQuotes '\'' rest)
  | '\r' :: '\n' :: rest => prepend '\n' (readMultilineLiteral rest)
  | c :: rest =>
    if c = '\n' || isPlain c then prepend c (readMultilineLiteral rest) else none

/-- A line break right after the opening delimiter does not belong to the string. -/
def dropLineBreak : List Char → List Char
  | '\n' :: rest | '\r' :: '\n' :: rest => rest
  | text => text

/-- Reads a string in any notation; nothing where no string begins. -/
def readString : List Char → Option (List Char × List Char)
  | '"' :: '"' :: '"' :: rest => readMultiline false (dropLineBreak rest)
  | '\'' :: '\'' :: '\'' :: rest => readMultilineLiteral (dropLineBreak rest)
  | '"' :: rest => readBasic rest
  | '\'' :: rest => readLiteral rest
  | _ => none

inductive Notation where
  | basic
  | literal
  | multiline
  | multilineLiteral
deriving DecidableEq

/-- A control character that no notation shows as it is, unlike the tab and the line break. -/
def isHidden (c : Char) : Bool := (c < ' ' && c ≠ '\t' && c ≠ '\n') || c = '\x7f'

/-- Counts one more character, with the occurrences of `c` in a row so far and the most of them. -/
def countRun (c : Char) (counts : Nat × Nat) (d : Char) : Nat × Nat :=
  let run := if d = c then counts.1 + 1 else 0
  (run, max run counts.2)

/-- The most occurrences of a character in a row. -/
def longestRun (c : Char) (s : List Char) : Nat := (s.foldl (countRun c) (0, 0)).2

/-- The notation that a text is written in: the plainest one in which it needs no escape, other than
of tabs. -/
def Notation.choose (s : List Char) : Notation :=
  let escapes := s.any isHidden
  let backslash := s.contains '\\'
  let lineBreak := s.contains '\n'
  let quotes := longestRun '"' s
  let apostrophes := longestRun '\'' s
  if !escapes && !backslash && quotes = 0 && !lineBreak then basic
  else if !escapes && apostrophes = 0 && !lineBreak then literal
  else if !escapes && !backslash && quotes ≤ 2 then multiline
  else if !escapes && apostrophes ≤ 2 then multilineLiteral
  else if lineBreak then multiline
  else basic

/-- What stands for one character other than a quote or a line break. -/
def escapeChar (c : Char) : List Char :=
  match c with
  | '\x08' => ['\\', 'b']
  | '\t' => ['\\', 't']
  | '\x0c' => ['\\', 'f']
  | '\r' => ['\\', 'r']
  | '\\' => ['\\', '\\']
  | c =>
    if c < ' ' ∨ c = '\x7f' then '\\' :: 'u' :: (Numeral.upperHex 4 c.toNat).toList else [c]

def escapeBasic (s : List Char) : List Char :=
  s.flatMap fun c => if c = '"' then ['\\', '"'] else if c = '\n' then ['\\', 'n'] else escapeChar c

/-- Two quotes in a row stand for themselves; `run` counts those before. -/
def escapeMultiline : Nat → List Char → List Char
  | _, [] => []
  | run, '"' :: s =>
    if run = 2 then '\\' :: '"' :: escapeMultiline 0 s else '"' :: escapeMultiline (run + 1) s
  | _, '\n' :: s => '\n' :: escapeMultiline 0 s
  | _, c :: s => escapeChar c ++ escapeMultiline 0 s

/-- A text of several lines starts on a line of its own. -/
def leadingBreak (s : List Char) : List Char := if s.contains '\n' then ['\n'] else []

def writeAs : Notation → List Char → List Char
  | .basic, s => '"' :: escapeBasic s ++ ['"']
  | .literal, s => '\'' :: s ++ ['\'']
  | .multiline, s => ['"', '"', '"'] ++ leadingBreak s ++ escapeMultiline 0 s ++ ['"', '"', '"']
  | .multilineLiteral, s => ['\'', '\'', '\''] ++ leadingBreak s ++ s ++ ['\'', '\'', '\'']

def writeString (s : List Char) : List Char := writeAs (Notation.choose s) s

end ClusterPlacement.Toml
