import ClusterPlacement.Json.Value
/-! The text of JSON values, on one line or indented by two blanks a level. -/

namespace ClusterPlacement.Json

/-- What stands for one character of a string. Only quotes, backslashes and controls are escaped. -/
def escapeChar : Char → List Char
  | '"' => ['\\', '"']
  | '\\' => ['\\', '\\']
  | '\x08' => ['\\', 'b']
  | '\x0c' => ['\\', 'f']
  | '\n' => ['\\', 'n']
  | '\r' => ['\\', 'r']
  | '\t' => ['\\', 't']
  | c => if c < ' ' then '\\' :: 'u' :: (Numeral.lowerHex 4 c.toNat).toList else [c]

def stringText (s : String) : String := String.ofList ('"' :: s.toList.flatMap escapeChar ++ ['"'])

def numberText : Number → String
  | .integer n => Numeral.integer n
  | .float x => x.markedText

/-- Brackets around comma-separated parts, each on a line of its own if there is an indentation. -/
def enclose (opening closing : String) (pretty : Bool) (depth : Nat) (parts : List String) : String :=
  let line (depth : Nat) := if pretty then "\n" ++ String.ofList (List.replicate (2 * depth) ' ') else ""
  if parts.isEmpty then opening ++ closing
  else
    opening ++ line (depth + 1) ++ ("," ++ line (depth + 1)).intercalate parts ++ line depth ++ closing

mutual

def textAt (pretty : Bool) (depth : Nat) : Json → String
  | null => "null"
  | boolean b => if b then "true" else "false"
  | number n => numberText n
  | string s => stringText s
  | array items => enclose "[" "]" pretty depth (itemTexts pretty (depth + 1) items)
  | object fields => enclose "\x7b" "\x7d" pretty depth (fieldTexts pretty (depth + 1) fields)

def itemTexts (pretty : Bool) (depth : Nat) : List Json → List String
  | [] => []
  | item :: rest => textAt pretty depth item :: itemTexts pretty depth rest

def fieldTexts (pretty : Bool) (depth : Nat) : List (String × Json) → List String
  | [] => []
  | (key, value) :: rest =>
    (stringText key ++ (if pretty then ": " else ":") ++ textAt pretty depth value) ::
      fieldTexts pretty depth rest

end

/-- The text on one line, without blanks. -/
def compactText (v : Json) : String := textAt false 0 v

/-- The text over several lines. -/
def prettyText (v : Json) : String := textAt true 0 v

end ClusterPlacement.Json
