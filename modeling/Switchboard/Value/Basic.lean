import Switchboard.Decimal.Binary64

namespace Switchboard

inductive Number where
  | integer (n : Int)
  | binary (x : Binary64)
  deriving DecidableEq, Repr

inductive Value where
  | null
  | bool (b : Bool)
  | number (n : Number)
  | text (s : String)
  | list (items : List Value)
  | object (fields : List (String × Value))
  deriving Inhabited

namespace Value

/-- Puts a field where the order of names wants it; a field of the same name gives way. -/
def insertField (name : String) (value : Value) :
    List (String × Value) → List (String × Value)
  | [] => [(name, value)]
  | (other, old) :: rest =>
    if name = other then (name, value) :: rest
    else if name < other then (name, value) :: (other, old) :: rest
    else (other, old) :: insertField name value rest

/-- The object with these fields; of two fields with one name the later counts. -/
def ofFields (fields : List (String × Value)) : Value :=
  .object (fields.foldl (fun sorted (name, value) => insertField name value sorted) [])

def ofNat (n : Nat) : Value := .number (.integer n)

def ofText? : Option String → Value
  | some s => .text s
  | none => .null

def field? (value : Value) (name : String) : Option Value :=
  match value with
  | .object fields => fields.lookup name
  | _ => none

def text? : Value → Option String
  | .text s => some s
  | _ => none

theorem lookup_insertField (name : String) (value : Value) (fields : List (String × Value)) :
    (insertField name value fields).lookup name = some value := by
  induction fields with
  | nil => simp [insertField]
  | cons field rest ih =>
    obtain ⟨other, old⟩ := field
    simp only [insertField]
    split
    · simp
    · split
      · simp
      · next h _ => simp [List.lookup_cons, beq_eq_false_iff_ne.mpr h, ih]

end Value

end Switchboard
