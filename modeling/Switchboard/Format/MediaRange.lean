import Switchboard.Format.Quality
import Switchboard.Format.Registry

namespace Switchboard

/-- Media types with a common type and subtype, either of which may be `*`, and how welcome they
are. -/
structure MediaRange where
  kind : String
  subtype : String
  quality : Quality
  deriving DecidableEq, Repr

namespace MediaRange

/-- The quality among the parameters of a range; a parameter `q` that is no quality spoils it. -/
def quality? : Quality → List (List Char) → Option Quality
  | q, [] => some q
  | q, param :: rest =>
    match Text.cut? '=' param with
    | none => quality? q rest
    | some (name, value) =>
      if Text.equalIgnoringCase (Text.trim (String.ofList name)) "q" then
        (Quality.ofText? (Text.trim (String.ofList value))).bind fun q => quality? q rest
      else quality? q rest

/-- One entry of the header: type and subtype, then parameters. -/
def ofEntry? (entry : List Char) : Option MediaRange :=
  match Text.pieces ';' entry with
  | [] => none
  | name :: params =>
    match Text.cut? '/' (Text.trimList name) with
    | none => none
    | some (kind, subtype) =>
      let kind := Text.lowercase (Text.trim (String.ofList kind))
      let subtype := Text.lowercase (Text.trim (String.ofList subtype))
      if kind = "" ∨ subtype = "" then none
      else (quality? .one params).map fun quality => ⟨kind, subtype, quality⟩

/-- The ranges of a header in order; entries that are none are passed over. -/
def parse (accept : String) : List MediaRange :=
  (Text.pieces ',' accept.toList).filterMap ofEntry?

def covers (range : MediaRange) (essence : String) : Bool :=
  match Text.cut? '/' essence.toList with
  | none => false
  | some (kind, subtype) =>
    (range.kind == "*" || range.kind == String.ofList kind) &&
      (range.subtype == "*" || range.subtype == String.ofList subtype)

/-- A range of any type says least, a range of one type and any subtype more. -/
def specificity (range : MediaRange) : Nat :=
  if range.kind = "*" then 0 else if range.subtype = "*" then 1 else 2

def isAny (range : MediaRange) : Bool := range.kind == "*"

/-- The last of the ranges with the highest specificity. -/
def mostSpecific? : List MediaRange → Option MediaRange
  | [] => none
  | range :: rest =>
    match mostSpecific? rest with
    | none => some range
    | some best => if best.specificity < range.specificity then some range else some best

def best? (ranges : List MediaRange) (mediaType : String) : Option MediaRange :=
  mostSpecific? (ranges.filter (·.covers (essence mediaType)))

def excludes (ranges : List MediaRange) (mediaType : String) : Bool :=
  (best? ranges mediaType).any (·.quality.isZero)

def welcomes (ranges : List MediaRange) (mediaType : String) : Bool :=
  (best? ranges mediaType).any (·.quality.isPositive)

end MediaRange

end Switchboard
