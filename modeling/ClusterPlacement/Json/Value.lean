import ClusterPlacement.Binary64.Decimal
import ClusterPlacement.Table
/-! JSON values. A whole number keeps its exact value as long as it fits 64 bits, signed or unsigned;
every other number is a binary64 number. -/

namespace ClusterPlacement

inductive Json.Number where
  | integer (n : Int)
  | float (x : Binary64)
deriving DecidableEq

inductive Json where
  | null
  | boolean (b : Bool)
  | number (n : Json.Number)
  | string (s : String)
  | array (items : List Json)
  | object (fields : List (String × Json))
deriving Inhabited

namespace Json

def natural (n : Nat) : Json := .number (.integer n)

/-- A value, or null where there is none. -/
def ofOption {α : Type} (encode : α → Json) : Option α → Json
  | some a => encode a
  | none => .null

/-- An array of names, for programs that answer in JSON. No codec needs it. -/
def strings (names : List String) : Json := .array (names.map .string)

mutual

/-- The same value with the keys of every object in order. Of several entries with one key the last
one stays. -/
def sortKeys : Json → Json
  | .array items => .array (sortItems items)
  | .object fields => .object (Table.ofList (sortFields fields)).entries
  | v => v

def sortItems : List Json → List Json
  | [] => []
  | item :: rest => sortKeys item :: sortItems rest

def sortFields : List (String × Json) → List (String × Json)
  | [] => []
  | (key, value) :: rest => (key, sortKeys value) :: sortFields rest

end

/-- The value of a key; of several entries with it the last one counts. This is for programs that are sent
requests in JSON. A record is read through its codec, which refuses a key that comes twice. -/
def field? (fields : List (String × Json)) (key : String) : Option Json :=
  fields.reverse.lookup key

end Json

end ClusterPlacement
