import Switchboard.Text.Percent
import Switchboard.Text.Pieces

namespace Switchboard.Form

def unescape (cs : List Char) : String :=
  let spaced := String.ofList (cs.map fun c => if c = '+' then ' ' else c)
  Utf8.decodeLossy (Percent.decodeBytes (Utf8.encode spaced))

def pair (piece : List Char) : String × String :=
  match Text.cut? '=' piece with
  | some (name, value) => (unescape name, unescape value)
  | none => (unescape piece, "")

/-- The names and values of a query in the order in which they are written. Empty pieces say
nothing. -/
def parse (query : String) : List (String × String) :=
  ((Text.pieces '&' query.toList).filter (· ≠ [])).map pair

end Switchboard.Form
