namespace Switchboard

inductive Ip where
  | v4 (a b c d : Nat)
  | v6 (groups : List Nat)
  deriving DecidableEq, Repr

/-- An IP address with a service number; a zone other than zero belongs to long addresses. -/
structure Address where
  ip : Ip
  zone : Nat
  portNumber : Nat
  deriving DecidableEq, Repr

namespace Address

def digit? (radix : Nat) (c : Char) : Option Nat :=
  let n := c.toNat
  let value? :=
    if 0x30 ≤ n ∧ n ≤ 0x39 then some (n - 0x30)
    else if 0x61 ≤ n ∧ n ≤ 0x66 then some (n - 0x61 + 10)
    else if 0x41 ≤ n ∧ n ≤ 0x46 then some (n - 0x41 + 10)
    else none
  value?.filter (· < radix)

def digits (radix : Nat) : List Char → List Nat × List Char
  | [] => ([], [])
  | c :: rest =>
    match digit? radix c with
    | some d => let (ds, left) := digits radix rest; (d :: ds, left)
    | none => ([], c :: rest)

/-- A number of at least one and at most `most` digits below `bound`. Without `zeros`, a longer
number does not begin with a zero. -/
def number? (radix : Nat) (most : Option Nat) (zeros : Bool) (bound : Nat) (cs : List Char) :
    Option (Nat × List Char) :=
  let (ds, rest) := digits radix cs
  let value := ds.foldl (fun n d => n * radix + d) 0
  if ds.isEmpty then none
  else if most.any (· < ds.length) then none
  else if !zeros && ds.head? == some 0 && 1 < ds.length then none
  else if bound ≤ value then none
  else some (value, rest)

def expect? (c : Char) : List Char → Option (List Char)
  | [] => none
  | d :: rest => if d = c then some rest else none

def octet? (cs : List Char) : Option (Nat × List Char) := number? 10 (some 3) false 256 cs

def v4? (cs : List Char) : Option ((Nat × Nat × Nat × Nat) × List Char) := do
  let (a, cs) ← octet? cs
  let (b, cs) ← octet? (← expect? '.' cs)
  let (c, cs) ← octet? (← expect? '.' cs)
  let (d, cs) ← octet? (← expect? '.' cs)
  some ((a, b, c, d), cs)

def separator? (first : Bool) (cs : List Char) : Option (List Char) :=
  if first then some cs else expect? ':' cs

/-- Up to `limit` groups; the last two may be written as four octets, which is reported. -/
def groups (first : Bool) : Nat → List Char → List Nat × Bool × List Char
  | 0, cs => ([], false, cs)
  | limit + 1, cs =>
    let short? := if limit = 0 then none else (separator? first cs).bind v4?
    match short? with
    | some ((a, b, c, d), rest) => ([a * 256 + b, c * 256 + d], true, rest)
    | none =>
      match (separator? first cs).bind (number? 16 (some 4) true 65536) with
      | none => ([], false, cs)
      | some (group, rest) =>
        let (more, embedded, left) := groups false limit rest
        (group :: more, embedded, left)

def v6? (cs : List Char) : Option (List Nat × List Char) :=
  let (front, embedded, rest) := groups true 8 cs
  if front.length = 8 then some (front, rest)
  else if embedded then none
  else do
    let rest ← expect? ':' rest
    let rest ← expect? ':' rest
    let (back, _, rest) := groups true (8 - (front.length + 1)) rest
    some (front ++ List.replicate (8 - front.length - back.length) 0 ++ back, rest)

def portNumber? (cs : List Char) : Option (Nat × List Char) := do
  number? 10 none true 65536 (← expect? ':' cs)

def zone? (cs : List Char) : Option (Nat × List Char) := do
  number? 10 none true (Nat.pow 2 32) (← expect? '%' cs)

def ofList? (cs : List Char) : Option Address :=
  let short : Option (Address × List Char) := do
    let ((a, b, c, d), cs) ← v4? cs
    let (portNumber, cs) ← portNumber? cs
    some (⟨.v4 a b c d, 0, portNumber⟩, cs)
  let long : Option (Address × List Char) := do
    let cs ← expect? '[' cs
    let (groups, cs) ← v6? cs
    let (zone, cs) := (zone? cs).getD (0, cs)
    let cs ← expect? ']' cs
    let (portNumber, cs) ← portNumber? cs
    some (⟨.v6 groups, zone, portNumber⟩, cs)
  match short.or long with
  | some (address, []) => some address
  | _ => none

/-- The address that a text writes: `a.b.c.d:number` or `[groups]:number`. -/
def ofString? (s : String) : Option Address := ofList? s.toList

def hexText (n : Nat) : String := String.ofList (Nat.toDigits 16 n)

def v4Text (a b c d : Nat) : String :=
  toString a ++ "." ++ toString b ++ "." ++ toString c ++ "." ++ toString d

def zeroRun (groups : List Nat) : Nat × Nat :=
  let runAt (i : Nat) : Nat := ((groups.drop i).takeWhile (· = 0)).length
  (List.range groups.length).foldl
    (fun best i => if best.2 < runAt i then (i, runAt i) else best) (0, 0)

def v6Text (groups : List Nat) : String :=
  match groups with
  | [0, 0, 0, 0, 0, 65535, high, low] =>
    "::ffff:" ++ v4Text (high / 256) (high % 256) (low / 256) (low % 256)
  | _ =>
    let (start, length) := zeroRun groups
    let joined (part : List Nat) : String := ":".intercalate (part.map hexText)
    if 1 < length then joined (groups.take start) ++ "::" ++ joined (groups.drop (start + length))
    else joined groups

def text (address : Address) : String :=
  match address.ip with
  | .v4 a b c d => v4Text a b c d ++ ":" ++ toString address.portNumber
  | .v6 groups =>
    let zone := if address.zone = 0 then "" else "%" ++ toString address.zone
    "[" ++ v6Text groups ++ zone ++ "]:" ++ toString address.portNumber

end Address

end Switchboard
