import ClusterPlacement.Text.Numeral
import ClusterPlacement.Text.Unprintable
import ClusterPlacement.Text.Extending
/-! Quoted text for messages: a string between double quotes in which every character stays visible.
Characters that cannot be seen, or that would attach themselves to the one before, are written by
their code point. -/

namespace ClusterPlacement.Text

/-- What stands for one character between the quotes. -/
def quoteChar (c : Char) : List Char :=
  match c with
  | '"' => ['\\', '"']
  | '\\' => ['\\', '\\']
  | '\n' => ['\\', 'n']
  | '\r' => ['\\', 'r']
  | '\t' => ['\\', 't']
  | '\x00' => ['\\', '0']
  | c =>
    if ' ' ≤ c && c ≤ '~' then [c]
    else if Unprintable.contains c || Extending.contains c then
      ['\\', 'u', '\x7b'] ++ (Numeral.digits 16 c.toNat).map Numeral.lowerDigit ++ ['\x7d']
    else [c]

def quoted (s : String) : String := String.ofList ('"' :: s.toList.flatMap quoteChar ++ ['"'])

/-- A bracketed list of quoted names. -/
def quotedList (names : List String) : String := "[" ++ ", ".intercalate (names.map quoted) ++ "]"

end ClusterPlacement.Text
