import ClusterPlacement.Toml.Number
import ClusterPlacement.Toml.Text
/-! Reading a text as TOML statements. Each function returns what it read with the text after it, and
nothing where the text is not TOML. -/

namespace ClusterPlacement.Toml

/-- A value as written. An inline table lists its entries with their dotted keys. -/
inductive Expr where
  | plain (v : Toml)
  | array (items : List Expr)
  | inlineTable (entries : List (List String × Expr))

inductive Statement where
  /-- `[path]` -/
  | table (path : List String)
  /-- `[[path]]` -/
  | element (path : List String)
  /-- `path = value` -/
  | entry (path : List String) (value : Expr)

def dropBlanks (text : List Char) : List Char := text.dropWhile isBlank

/-- The nesting of values and the parts of a key stay below this. -/
def depthLimit : Nat := 80

def isBareKeyChar (c : Char) : Bool :=
  ('a' ≤ c && c ≤ 'z') || ('A' ≤ c && c ≤ 'Z') || Numeral.isDecimalDigit c || c = '-' || c = '_'

/-- One part of a key, bare or quoted. -/
def readKeyPart (text : List Char) : Option (String × List Char) :=
  match text with
  | '"' :: rest => (readBasic rest).map fun (s, rest) => (String.ofList s, rest)
  | '\'' :: rest => (readLiteral rest).map fun (s, rest) => (String.ofList s, rest)
  | text =>
    match text.takeWhile isBareKeyChar with
    | [] => none
    | part => some (String.ofList part, text.dropWhile isBareKeyChar)

/-- The parts of a key between dots, with blanks around them. There are at most `bound`. -/
def readKey : Nat → List Char → Option (List String × List Char)
  | 0, _ => none
  | bound + 1, text => do
    let (part, text) ← readKeyPart (dropBlanks text)
    match dropBlanks text with
    | '.' :: text =>
      let (parts, text) ← readKey bound text
      return (part :: parts, text)
    | text => return ([part], text)

/-- The text after a line break; nothing where there is none. -/
def lineBreak? : List Char → Option (List Char)
  | '\n' :: rest | '\r' :: '\n' :: rest => some rest
  | _ => none

/-- Leaves out a comment. A comment holds no control character but the tab. -/
def dropComment : List Char → List Char
  | '#' :: rest => rest.dropWhile isPlain
  | text => text

/-- The text after the rest of a line that holds nothing more. The last line needs no break. -/
def endLine (text : List Char) : Option (List Char) :=
  match dropComment (dropBlanks text) with
  | [] => some []
  | text => lineBreak? text

/-- Leaves out blanks, line breaks and comments between the items of an array. -/
def dropSpace : Nat → List Char → List Char
  | 0, text => text
  | bound + 1, text =>
    let text := dropComment (dropBlanks text)
    match lineBreak? text with
    | some rest => dropSpace bound rest
    | none => text

mutual

/-- Reads a value that is nested `depth` deep. The bound is on nested calls, of which every second
one at least uses up a character. -/
def readValue : Nat → Nat → List Char → Option (Expr × List Char)
  | 0, _, _ => none
  | bound + 1, depth, text =>
    match text with
    | '[' :: rest => do
      if depthLimit ≤ depth + 1 then none
      let (items, rest) ← readItems bound (depth + 1) rest
      return (.array items, rest)
    | '\x7b' :: rest => do
      if depthLimit ≤ depth + 1 then none
      match dropBlanks rest with
      | '\x7d' :: rest => return (.inlineTable [], rest)
      | rest =>
        let (entries, rest) ← readEntries bound (depth + 1) rest
        return (.inlineTable entries, rest)
    | '"' :: _ | '\'' :: _ => do
      let (s, rest) ← readString text
      return (.plain (.string (String.ofList s)), rest)
    | 't' :: 'r' :: 'u' :: 'e' :: rest => some (.plain (.boolean true), rest)
    | 'f' :: 'a' :: 'l' :: 's' :: 'e' :: rest => some (.plain (.boolean false), rest)
    | text => do
      let (v, rest) ← readNumber text
      return (.plain v, rest)

/-- Reads the items of an array up to its closing bracket. A comma may follow the last item. -/
def readItems : Nat → Nat → List Char → Option (List Expr × List Char)
  | 0, _, _ => none
  | bound + 1, depth, text => do
    match dropSpace text.length text with
    | ']' :: rest => return ([], rest)
    | text =>
      let (item, rest) ← readValue bound depth text
      match dropSpace rest.length rest with
      | ']' :: rest => return ([item], rest)
      | ',' :: rest =>
        let (items, rest) ← readItems bound depth rest
        return (item :: items, rest)
      | _ => none

/-- Reads the entries of an inline table, at least one, up to its closing brace. -/
def readEntries : Nat → Nat → List Char → Option (List (List String × Expr) × List Char)
  | 0, _, _ => none
  | bound + 1, depth, text => do
    let (key, rest) ← readKey (depthLimit - 1) text
    let (value, rest) ← readValue bound depth (dropBlanks (← expect '=' rest))
    match dropBlanks rest with
    | '\x7d' :: rest => return ([(key, value)], rest)
    | ',' :: rest =>
      let (entries, rest) ← readEntries bound depth rest
      return ((key, value) :: entries, rest)
    | _ => none

end

/-- Reads a statement to the end of its line. -/
def readStatement (text : List Char) : Option (Statement × List Char) :=
  match text with
  | '[' :: '[' :: rest => do
    let (path, rest) ← readKey (depthLimit - 1) rest
    let rest ← expect ']' (← expect ']' rest)
    return (.element path, ← endLine rest)
  | '[' :: rest => do
    let (path, rest) ← readKey (depthLimit - 1) rest
    return (.table path, ← endLine (← expect ']' rest))
  | text => do
    let (path, rest) ← readKey (depthLimit - 1) text
    let rest ← expect '=' rest
    let (value, rest) ← readValue (2 * rest.length + 2) 0 (dropBlanks rest)
    return (.entry path value, ← endLine rest)

/-- Reads the statements of a text, of which there are at most `bound`, counting empty lines. -/
def readStatements : Nat → List Char → Option (List Statement)
  | 0, text => if text.isEmpty then some [] else none
  | bound + 1, text =>
    match dropBlanks text with
    | [] => some []
    | '#' :: rest => do readStatements bound (← endLine ('#' :: rest))
    | text =>
      match lineBreak? text with
      | some rest => readStatements bound rest
      | none => do
        let (statement, rest) ← readStatement text
        return statement :: (← readStatements bound rest)

/-- A byte order mark may stand in front of everything else. -/
def dropMark : List Char → List Char
  | '\ufeff' :: text => text
  | text => text

def readDocument (text : List Char) : Option (List Statement) :=
  let text := dropMark text
  readStatements (text.length + 1) text

end ClusterPlacement.Toml
