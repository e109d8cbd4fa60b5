import Switchboard.Value.Basic

namespace Switchboard.Toml

/-- A value after an equals sign. Tables in braces are whole as they stand. -/
inductive Scalar where
  | text (s : String)
  | whole (n : Int)
  | float (x : Option Binary64)
  | bool (b : Bool)
  | date (s : String)
  | list (items : List Scalar)
  | table (fields : List (String × Scalar))

/-- What stands under a key: a value, a table, or the tables of a repeated header, the latest first.
An implicit table has not been opened by a header of its own, a dotted one was made by a key. -/
inductive Item where
  | scalar (v : Scalar)
  | table (implicit dotted : Bool) (fields : List (String × Item))
  | series (tables : List (List (String × Item)))

abbrev Fields := List (String × Item)

def put (key : String) (item : Item) : Fields → Fields
  | [] => [(key, item)]
  | (other, old) :: rest =>
    if other = key then (key, item) :: rest else (other, old) :: put key item rest

def erase (key : String) (fields : Fields) : Fields := fields.filter (·.1 ≠ key)

structure Table where
  implicit : Bool := false
  dotted : Bool := false
  fields : Fields := []

/-- Goes down a path, opening tables on the way, and changes the table at its end. A dotted path
does not pass through a table that a header opened. -/
def descend (dotted : Bool) (change : Table → Option Table) :
    List String → Table → Option Table
  | [], t => change t
  | key :: path, t =>
    match (t.fields.lookup key).getD (.table true dotted []) with
    | .scalar _ => none
    | .series [] => none
    | .series (latest :: earlier) =>
      (descend dotted change path ⟨false, false, latest⟩).map fun inner =>
        { t with fields := put key (.series (inner.fields :: earlier)) t.fields }
    | .table implicit wasDotted fields =>
      if dotted && !implicit then none
      else
        (descend dotted change path ⟨implicit, wasDotted, fields⟩).map fun inner =>
          { t with fields := put key (.table inner.implicit inner.dotted inner.fields) t.fields }

/-- Adds a value under a new key; `plain` for a key without points. -/
def addKey (plain : Bool) (key : String) (item : Item) (t : Table) : Option Table :=
  if t.dotted == plain then none
  else
    match t.fields.lookup key with
    | some _ => none
    | none => some { t with fields := t.fields ++ [(key, item)] }

def addPath (path : List String) (item : Item) (t : Table) : Option Table :=
  match path.getLast? with
  | none => none
  | some key => descend true (addKey path.dropLast.isEmpty key item) path.dropLast t

/-- The tables finished so far and the one being filled, with its path. -/
structure Document where
  root : Table := {}
  current : Table := {}
  path : List String := []
  repeated : Bool := false

namespace Document

def close (d : Document) : Option Table :=
  match d.path.getLast? with
  | none => some d.current
  | some key =>
    let place (t : Table) : Option Table :=
      if d.repeated then
        match t.fields.lookup key with
        | some (.series tables) =>
          some { t with fields := put key (.series (d.current.fields :: tables)) t.fields }
        | some _ => none
        | none => some { t with fields := t.fields ++ [(key, .series [d.current.fields])] }
      else
        some { t with
          fields := put key (.table d.current.implicit d.current.dotted d.current.fields) t.fields }
    descend false place d.path.dropLast d.root

/-- What a header finds under its key: nothing, or a table that only deeper headers mentioned. -/
def opened? (key : String) (t : Table) : Option Table :=
  match t.fields.lookup key with
  | none => some {}
  | some (.table true false fields) => some { fields }
  | some _ => none

def lookup? : List String → Table → Option Table
  | [], t => some t
  | key :: path, t =>
    match t.fields.lookup key with
    | none => some {}
    | some (.scalar _) => none
    | some (.series []) => none
    | some (.series (latest :: _)) => lookup? path ⟨false, false, latest⟩
    | some (.table implicit dotted fields) => lookup? path ⟨implicit, dotted, fields⟩

def openTable (d : Document) (path : List String) : Option Document := do
  let root ← d.close
  let key ← path.getLast?
  let parent ← lookup? path.dropLast root
  let current ← opened? key parent
  let without (t : Table) : Option Table := some { t with fields := erase key t.fields }
  let root ← descend false without path.dropLast root
  some { root, current := { current with implicit := false, dotted := false }, path }

def openNext (d : Document) (path : List String) : Option Document := do
  let root ← d.close
  let key ← path.getLast?
  let parent ← lookup? path.dropLast root
  match parent.fields.lookup key with
  | none => some { root, path, repeated := true }
  | some (.series _) => some { root, path, repeated := true }
  | some _ => none

def add (d : Document) (path : List String) (value : Scalar) : Option Document :=
  (addPath path (.scalar value) d.current).map fun current => { d with current }

end Document

mutual

/-- The structured value of a value. A date becomes an object of one field, and a float that is no
number becomes null. -/
def Scalar.toValue : Scalar → Value
  | .text s => .text s
  | .whole n => .number (.integer n)
  | .float (some x) => .number (.binary x)
  | .float none => .null
  | .bool b => .bool b
  | .date s => .object [("date", .text s)]
  | .list items => .list (Scalar.toValues items)
  | .table fields => Value.ofFields (Scalar.toFields fields)

def Scalar.toValues : List Scalar → List Value
  | [] => []
  | item :: rest => item.toValue :: Scalar.toValues rest

def Scalar.toFields : List (String × Scalar) → List (String × Value)
  | [] => []
  | (key, item) :: rest => (key, item.toValue) :: Scalar.toFields rest

end

mutual

def Item.toValue : Item → Value
  | .scalar v => v.toValue
  | .table _ _ fields => Value.ofFields (Item.toFields fields)
  | .series tables => .list (Item.toObjects tables).reverse

def Item.toFields : List (String × Item) → List (String × Value)
  | [] => []
  | (key, item) :: rest => (key, item.toValue) :: Item.toFields rest

def Item.toObjects : List (List (String × Item)) → List Value
  | [] => []
  | fields :: rest => Value.ofFields (Item.toFields fields) :: Item.toObjects rest

end

def Document.toValue? (d : Document) : Option Value :=
  d.close.map fun root => Value.ofFields (Item.toFields root.fields)

end Switchboard.Toml
