namespace Switchboard

/-- The natural number nearest to `num / den`; a half goes to the even neighbour. -/
def roundDiv (num den : Nat) : Nat :=
  let quotient := num / den
  let rest := num % den
  if 2 * rest < den then quotient
  else if den < 2 * rest then quotient + 1
  else if quotient % 2 = 0 then quotient
  else quotient + 1

theorem roundDiv_near {num den : Nat} (h : 0 < den) :
    2 * num ≤ 2 * (den * roundDiv num den) + den ∧
      2 * (den * roundDiv num den) ≤ 2 * num + den := by
  have hd := Nat.div_add_mod num den
  have hr := Nat.mod_lt num h
  simp only [roundDiv]
  split
  · omega
  · split
    · rw [Nat.mul_add, Nat.mul_one]
      omega
    · split
      · omega
      · rw [Nat.mul_add, Nat.mul_one]
        omega

/-- The numerator of the power with an exponent of either sign: one if that is negative. -/
def powerNum (base : Nat) (exponent : Int) : Nat := Nat.pow base exponent.toNat

/-- The denominator of the power with an exponent of either sign: one unless that is negative. -/
def powerDen (base : Nat) (exponent : Int) : Nat := Nat.pow base (-exponent).toNat

/-- A binary format: how many bits a significand has, and the exponents of its last place. -/
structure Precision where
  bits : Nat
  least : Int
  greatest : Int

namespace Precision

def binary64 : Precision := ⟨53, -1074, 971⟩

def binary32 : Precision := ⟨24, -149, 104⟩

/-- The exponent of the highest power of two that does not exceed `num / den`. -/
def magnitude (num den : Nat) : Int :=
  let guess : Int := (Nat.log2 num : Int) - Nat.log2 den
  if num * powerDen 2 guess < den * powerNum 2 guess then guess - 1 else guess

/-- The significand and exponent nearest to `num / den`, or nothing when that lies beyond the
format's greatest value. Significands have full width unless the exponent is the least. -/
def round? (format : Precision) (num den : Nat) : Option (Nat × Int) :=
  if num = 0 then some (0, format.least)
  else
    let exponent := max format.least (magnitude num den - format.bits + 1)
    let significand := roundDiv (num * powerDen 2 exponent) (den * powerNum 2 exponent)
    let (significand, exponent) :=
      if significand = Nat.pow 2 format.bits then (Nat.pow 2 (format.bits - 1), exponent + 1)
      else (significand, exponent)
    if format.greatest < exponent then none else some (significand, exponent)

end Precision

end Switchboard
