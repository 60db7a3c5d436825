import ClusterPlacement.Json.Value
/-! JSON documents: what a text holds, as far as it can be read. Where reading breaks off, the
document says so at that place, so that a decoder that walks it in order meets the first problem
first. A part that a decoder has no use for is passed over, and some texts can be passed over
although they have no value, such as a number out of range. -/

namespace ClusterPlacement

/-- Why reading breaks off: the text ends too early, or it is not JSON. -/
inductive Fault where
  | ended
  | malformed
deriving DecidableEq

/-- A document, possibly incomplete. `wanted` is the fault met when the value is wanted and
`skipped` the one met when it is passed over. -/
inductive Document where
  | null
  | boolean (b : Bool)
  | number (value : Except Fault Json.Number)
  | string (value : Except Fault String)
  /-- The fault stands where a comma or the closing bracket should. -/
  | array (items : List Document) (unclosed : Option Fault)
  /-- A key that is no text to anyone who wants it can still be passed over. -/
  | object (fields : List (Except Fault String × Document)) (unclosed : Option Fault)
  /-- After the fields something other than a string stands in the place of a key. -/
  | keyless (fields : List (Except Fault String × Document)) (wanted skipped : Fault)
  /-- The text ends where a value should begin. -/
  | absent
  /-- A word or a number that breaks off, or a character that begins no value. -/
  | garbled (wanted skipped : Fault)
  | brokenString (wanted skipped : Fault)

namespace Document

mutual

/-- The fault met when a document is passed over. -/
def skip : Document → Option Fault
  | null | boolean _ | number _ | string _ => none
  | array items unclosed => (skipItems items).or unclosed
  | object fields unclosed => (skipFields fields).or unclosed
  | keyless fields _ skipped => (skipFields fields).or (some skipped)
  | absent => some .ended
  | garbled _ skipped | brokenString _ skipped => some skipped

def skipItems : List Document → Option Fault
  | [] => none
  | item :: rest => (skip item).or (skipItems rest)

def skipFields : List (Except Fault String × Document) → Option Fault
  | [] => none
  | (_, value) :: rest => (skip value).or (skipFields rest)

end

mutual

/-- The complete document of a value. An object has each key once, with the last value given for it,
and its keys ascend. -/
def ofJson : Json → Document
  | .null => .null
  | .boolean b => .boolean b
  | .number n => .number (.ok n)
  | .string s => .string (.ok s)
  | .array items => .array (ofItems items) none
  | .object fields =>
    .object ((Table.ofList (ofFields fields)).entries.map fun (key, value) => (.ok key, value)) none

def ofItems : List Json → List Document
  | [] => []
  | item :: rest => ofJson item :: ofItems rest

def ofFields : List (String × Json) → List (String × Document)
  | [] => []
  | (key, value) :: rest => (key, ofJson value) :: ofFields rest

end

mutual

/-- The value of a complete document. -/
def toJson? : Document → Option Json
  | .null => some .null
  | .boolean b => some (.boolean b)
  | .number (.ok n) => some (.number n)
  | .string (.ok s) => some (.string s)
  | .array items none => (toItems? items).map .array
  | .object fields none => (toFields? fields).map .object
  | _ => none

def toItems? : List Document → Option (List Json)
  | [] => some []
  | item :: rest => do return (← toJson? item) :: (← toItems? rest)

def toFields? : List (Except Fault String × Document) → Option (List (String × Json))
  | [] => some []
  | (.ok key, value) :: rest => do return (key, ← toJson? value) :: (← toFields? rest)
  | (.error _, _) :: _ => none

end

end Document

end ClusterPlacement
