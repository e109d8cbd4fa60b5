import Switchboard.Text.Printable
import Switchboard.Value.Printer

namespace Switchboard

/-- What a reader expects of a value. A record names its fields with what stands for a field that is
missing and the shape of one that is there. -/
inductive Shape where
  | any
  | bool
  | text
  | unsigned (bits : Nat)
  | signed (bits : Nat)
  | optional (inner : Shape)
  | list (item : Shape)
  | record (name : String) (fields : List (String × Option Value × Shape))

inductive ShapeFault where
  | wrongKind (found : Value) (expected : String)
  | outOfRange (n : Int) (expected : String)
  | missing (field : String)
  | tooManyItems (count : Nat)
  | tooFewItems (count : Nat) (record : String) (fields : Nat)

namespace ShapeFault

def kindText : Value → String
  | .null => "null"
  | .bool b => "boolean `" ++ (if b then "true" else "false") ++ "`"
  | .number (.integer n) => "integer `" ++ toString n ++ "`"
  | .number (.binary x) => "floating point `" ++ x.text ++ "`"
  | .text s => "string " ++ Text.shown s
  | .list _ => "sequence"
  | .object _ => "map"

def message : ShapeFault → String
  | wrongKind found expected => "invalid type: " ++ kindText found ++ ", expected " ++ expected
  | outOfRange n expected => "invalid value: integer `" ++ toString n ++ "`, expected " ++ expected
  | missing field => "missing field `" ++ field ++ "`"
  | tooManyItems count =>
    "invalid length " ++ toString count ++ ", expected fewer elements in array"
  | tooFewItems count record fields =>
    "invalid length " ++ toString count ++ ", expected struct " ++ record ++ " with " ++
      toString fields ++ " elements"

end ShapeFault

namespace Shape

def expected : Shape → String
  | any => "any value"
  | bool => "a boolean"
  | text => "a string"
  | unsigned bits => "u" ++ toString bits
  | signed bits => "i" ++ toString bits
  | optional inner => inner.expected
  | list _ => "a sequence"
  | record name _ => "struct " ++ name

def readWhole (low high : Int) (expected : String) : Value → Except ShapeFault Value
  | .number (.integer n) =>
    if low ≤ n ∧ n < high then .ok (.number (.integer n)) else .error (.outOfRange n expected)
  | found => .error (.wrongKind found expected)

def fill (fields : List (String × Option Value × Shape)) (found : List (String × Value)) :
    Except ShapeFault (List (String × Value)) :=
  match fields with
  | [] => .ok []
  | (name, default, shape) :: rest =>
    match found.lookup name, default, shape with
    | some v, _, _ => (fill rest found).map ((name, v) :: ·)
    | none, some v, _ => (fill rest found).map ((name, v) :: ·)
    | none, none, optional _ => (fill rest found).map ((name, .null) :: ·)
    | none, none, _ => .error (.missing name)

mutual

def read : Shape → Value → Except ShapeFault Value
  | any, v => .ok v
  | bool, v =>
    match v with
    | .bool b => .ok (.bool b)
    | found => .error (.wrongKind found "a boolean")
  | text, v =>
    match v with
    | .text s => .ok (.text s)
    | found => .error (.wrongKind found "a string")
  | unsigned bits, v => readWhole 0 (Nat.pow 2 bits) (expected (unsigned bits)) v
  | signed bits, v =>
    let half : Int := Nat.pow 2 (bits - 1)
    readWhole (-half) half (expected (signed bits)) v
  | optional inner, v =>
    match v with
    | .null => .ok .null
    | v => read inner v
  | list item, v =>
    match v with
    | .list items => (items.mapM (read item)).map .list
    | found => .error (.wrongKind found "a sequence")
  | record name fields, v =>
    match v with
    | .list items => do
      let (values, left) ← readPositions name fields.length 0 fields items
      match left with
      | [] => .ok (Value.ofFields values)
      | _ => .error (.tooManyItems items.length)
    | .object given => do
      let found ← given.foldlM (readField fields) []
      (Value.ofFields ·) <$> fill fields found
    | found => .error (.wrongKind found ("struct " ++ name))

/-- Reads one field by its name; a field that the record does not know says nothing. -/
def readField (fields : List (String × Option Value × Shape))
    (found : List (String × Value)) (given : String × Value) :
    Except ShapeFault (List (String × Value)) :=
  match fields with
  | [] => .ok found
  | (name, _, shape) :: rest =>
    if given.1 = name then (read shape given.2).map fun v => (name, v) :: found
    else readField rest found given

/-- Reads fields in their order; what is missing at the end is filled in where it can be. -/
def readPositions (record : String) (total : Nat) (index : Nat) :
    List (String × Option Value × Shape) → List Value →
      Except ShapeFault (List (String × Value) × List Value)
  | [], left => .ok ([], left)
  | (name, default, shape) :: rest, items =>
    match items with
    | v :: items => do
      let v ← read shape v
      let (more, left) ← readPositions record total (index + 1) rest items
      .ok ((name, v) :: more, left)
    | [] =>
      match default with
      | some v => do
        let (more, left) ← readPositions record total (index + 1) rest []
        .ok ((name, v) :: more, left)
      | none => .error (.tooFewItems index record total)

end

end Shape

end Switchboard
