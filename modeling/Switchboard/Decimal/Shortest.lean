import Switchboard.Decimal.Binary64

namespace Switchboard

/-- The number `digits · 10 ^ exponent`. -/
structure Decimal where
  digits : Nat
  exponent : Int
  deriving DecidableEq, Repr

namespace Decimal

def trimmed (digits : Nat) (exponent : Int) : Decimal :=
  if h : 0 < digits ∧ digits % 10 = 0 then trimmed (digits / 10) (exponent + 1)
  else ⟨digits, exponent⟩
termination_by digits
decreasing_by omega

end Decimal

namespace Binary64

/-- Four times the number, in units of a quarter of its last place, with the ends of the interval of
reals that round to it: the lower half is only half as wide at a power of two. -/
def interval (x : Binary64) : Nat × Nat × Nat :=
  let low :=
    if x.significand = Nat.pow 2 52 ∧ Precision.binary64.least < x.exponent then 1 else 2
  (4 * x.significand - low, 4 * x.significand, 4 * x.significand + 2)

/-- The exponent of the highest power of ten that does not exceed `num / den`. -/
def decimalMagnitude (num den : Nat) : Int :=
  let reaches (p : Int) : Bool := den * powerNum 10 p ≤ num * powerDen 10 p
  let guess : Int := (((Nat.log2 num : Int) - Nat.log2 den) * 30103) / 100000
  if reaches (guess + 1) then guess + 1 else if reaches guess then guess else guess - 1

/-- Among the two multiples of `10 ^ place` around the number, the one that lies in its interval,
the nearer if both do. -/
def neighbour? (x : Binary64) (place : Int) : Option Nat :=
  let (low, mid, high) := x.interval
  -- all three in common units: `scale` turns quarters of the last place into multiples of `unit`
  let two := x.exponent - 2
  let scale := powerNum 2 two * powerDen 10 place
  let unit := powerDen 2 two * powerNum 10 place
  let within (n : Nat) : Bool :=
    if x.significand % 2 = 0 then low * scale ≤ n * unit && n * unit ≤ high * scale
    else low * scale < n * unit && n * unit < high * scale
  let below := mid * scale / unit
  let above := below + 1
  if within below then
    if within above then
      let down := mid * scale - below * unit
      let up := above * unit - mid * scale
      if down < up ∨ (down = up ∧ below % 2 = 0) then some below else some above
    else some below
  else if within above then some above
  else none

def firstHit (x : Binary64) (top : Int) : Nat → Nat → Decimal
  | _, 0 => ⟨0, 0⟩
  | count, tries + 1 =>
    let place := top - count + 1
    match x.neighbour? place with
    | some digits => Decimal.trimmed digits place
    | none => firstHit x top (count + 1) tries

/-- The shortest decimal that reads back as the number, nearest to it among the shortest. -/
def shortest (x : Binary64) : Decimal :=
  if x.isZero then ⟨0, 0⟩
  else
    let (num, den) := x.fraction
    firstHit x (decimalMagnitude num den) 1 17

end Binary64

end Switchboard
