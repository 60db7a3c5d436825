import ClusterPlacement.Binary64.Decimal
/-! TOML values. Dates and times carry no content here: no setting is one. -/

namespace ClusterPlacement

inductive Toml where
  | string (s : String)
  /-- Integers are signed and have 64 bits. -/
  | integer (n : Int64)
  | float (x : Binary64)
  | boolean (b : Bool)
  | moment
  | array (items : List Toml)
  | table (entries : List (String × Toml))
deriving Inhabited

namespace Toml

/-- Whether a number is in the range of the integers. -/
def fitsInteger (n : Int) : Bool := -0x8000000000000000 ≤ n && n < 0x8000000000000000

end Toml

end ClusterPlacement
