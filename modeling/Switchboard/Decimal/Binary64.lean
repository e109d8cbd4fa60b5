import Switchboard.Decimal.Rounding

namespace Switchboard

/-- The number `± significand · 2 ^ exponent`. -/
structure Binary64 where
  negative : Bool
  significand : Nat
  exponent : Int
  deriving DecidableEq, Repr

namespace Binary64

def zero : Binary64 := ⟨false, 0, Precision.binary64.least⟩

def ofQuotient? (negative : Bool) (num den : Nat) : Option Binary64 :=
  (Precision.binary64.round? num den).map fun (significand, exponent) =>
    ⟨negative, significand, exponent⟩

def fraction (x : Binary64) : Nat × Nat :=
  (x.significand * powerNum 2 x.exponent, powerDen 2 x.exponent)

def isZero (x : Binary64) : Bool := x.significand == 0

def ofNat? (n : Nat) : Option Binary64 := ofQuotient? false n 1

def mul? (x y : Binary64) : Option Binary64 :=
  let (a, b) := x.fraction
  let (c, d) := y.fraction
  ofQuotient? (x.negative != y.negative) (a * c) (b * d)

def div? (x y : Binary64) : Option Binary64 :=
  let (a, b) := x.fraction
  let (c, d) := y.fraction
  if c = 0 then none else ofQuotient? (x.negative != y.negative) (a * d) (b * c)

def neg (x : Binary64) : Binary64 := { x with negative := !x.negative }

def powerOfTen? (n : Nat) : Option Binary64 := ofNat? (Nat.pow 10 n)

def timesPower? (x : Binary64) (n : Nat) : Option Binary64 := (powerOfTen? n).bind x.mul?

def overPower? (x : Binary64) (n : Nat) : Option Binary64 := (powerOfTen? n).bind x.div?

/-- Scales a number by a power of ten in the steps that a table of the powers up to `1e308` allows,
rounding after each; nothing when the result is not finite. The result can differ from the number
nearest to the exact product in its last place. -/
def scaled? (x : Binary64) (exponent : Int) : Option Binary64 :=
  if x.isZero then some x
  else if 308 < exponent then none
  else if 0 ≤ exponent then x.timesPower? exponent.toNat
  else if -308 ≤ exponent then x.overPower? (-exponent).toNat
  else (x.overPower? 308).bind fun y => scaled? y (exponent + 308)
termination_by (-exponent).toNat

end Binary64

end Switchboard
