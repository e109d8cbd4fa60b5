import Switchboard.Decimal.Rounding
import Switchboard.Text.Ascii
import Switchboard.Text.Pieces

namespace Switchboard

/-- A multiple of the least positive number of the 32-bit format, or no number. -/
inductive Quality where
  | nan
  | units (n : Nat)
  deriving DecidableEq, Repr

namespace Quality

def unit : Nat := Nat.pow 2 149

def one : Quality := units unit

def isZero : Quality → Bool
  | nan => false
  | units n => n == 0

def isPositive : Quality → Bool
  | nan => false
  | units n => 0 < n

def exceeds : Quality → Quality → Bool
  | units m, units n => n < m
  | _, _ => false

def digitValue (c : Char) : Nat := c.toNat - '0'.toNat

def number (ds : List Char) : Nat := ds.foldl (fun n c => n * 10 + digitValue c) 0

/-- The quality of `digits · 10 ^ exponent`. Whatever is far below the least unit is zero. -/
def ofDecimal (digits : Nat) (exponent : Int) : Quality :=
  if digits = 0 then units 0
  else
    let count : Int := (toString digits).length
    if 1 ≤ count + exponent then one
    else if count + exponent < -60 then units 0
    else
      match Precision.binary32.round? digits (powerDen 10 exponent) with
      | some (significand, place) => units (min unit (significand * powerNum 2 (place + 149)))
      | none => one

/-- The sign at the head of a text: whether it is a minus. -/
def sign : List Char → Bool × List Char
  | '-' :: rest => (true, rest)
  | '+' :: rest => (false, rest)
  | cs => (false, cs)

/-- The exponent that ends a decimal; an exponent needs digits. -/
def exponent? : List Char → Option Int
  | [] => some 0
  | c :: rest =>
    if c = 'e' ∨ c = 'E' then
      let (negative, ds) := sign rest
      if ds.isEmpty || !ds.all Char.isDigit then none
      else some (if negative then -number ds else number ds)
    else none

/-- A decimal without a sign: digits on at least one side of the point, and an exponent. -/
def decimal? (cs : List Char) : Option Quality := do
  let whole := cs.takeWhile Char.isDigit
  let rest := cs.dropWhile Char.isDigit
  let (fraction, rest) :=
    match rest with
    | '.' :: rest => (rest.takeWhile Char.isDigit, rest.dropWhile Char.isDigit)
    | rest => ([], rest)
  if whole.isEmpty && fraction.isEmpty then none
  else
    let exponent ← exponent? rest
    some (ofDecimal (number (whole ++ fraction)) (exponent - fraction.length))

/-- The quality that a text writes: a decimal, an infinity or `nan`, with or without a sign. -/
def ofText? (s : String) : Option Quality :=
  let (negative, cs) := sign s.toList
  let word := String.ofList (cs.map Char.toLower)
  if word = "nan" then some nan
  else if word = "inf" ∨ word = "infinity" then some (if negative then units 0 else one)
  else (decimal? cs).map fun q => if negative then units 0 else q

end Quality

end Switchboard
