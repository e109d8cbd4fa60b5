import Switchboard.Text.Pieces

namespace Switchboard.Domain.Punycode

def digit? (c : Char) : Option Nat :=
  if c.isDigit then some (c.toNat - '0'.toNat + 26)
  else if 'a' ≤ c ∧ c ≤ 'z' then some (c.toNat - 'a'.toNat)
  else none

/-- Least digit that ends a number at its place `k`, counted in steps of 36. -/
def threshold (bias k : Nat) : Nat :=
  if k ≤ bias then 1 else if bias + 26 ≤ k then 26 else k - bias

def biasOf (delta k : Nat) : Nat :=
  if 455 < delta then biasOf (delta / 35) (k + 36) else k + 36 * delta / (delta + 38)
termination_by delta
decreasing_by exact Nat.div_lt_self (by omega) (by omega)

/-- The bias after a number; the first one of a label is far larger than the others. -/
def adapt (delta points : Nat) (first : Bool) : Nat :=
  let delta := if first then delta / 700 else delta / 2
  biasOf (delta + delta / points) 0

def isBounded (n : Nat) : Bool := n < Nat.pow 2 32

def number? (bias sum weight k : Nat) : List Char → Option (Nat × List Char)
  | [] => none
  | c :: rest =>
    match digit? c with
    | none => none
    | some d =>
      let t := threshold bias k
      if !isBounded (sum + d * weight) then none
      else if d < t then some (sum + d * weight, rest)
      else if !isBounded (weight * (36 - t)) then none
      else number? bias (sum + d * weight) (weight * (36 - t)) (k + 36) rest

theorem number?_length_lt {bias sum weight k n : Nat} {cs rest : List Char}
    (h : number? bias sum weight k cs = some (n, rest)) : rest.length < cs.length := by
  induction cs generalizing sum weight k with
  | nil => simp [number?] at h
  | cons c cs ih =>
    simp only [number?] at h
    split at h
    · simp at h
    · split at h
      · simp at h
      · split at h
        · simp at h
          simp [h.2]
        · split at h
          · simp at h
          · have := ih h
            simp only [List.length_cons]
            omega

/-- Inserts characters into those in `done`. Digits count the places passed over, round and round,
from `place` on; each round goes over to the next code point after `code`. -/
def insert? (done : List Char) (code place bias : Nat) (cs : List Char) : Option (List Char) :=
  if cs.isEmpty then some done
  else
    match h : number? bias place 1 36 cs with
    | none => none
    | some (sum, rest) =>
      have := number?_length_lt h
      let points := done.length + 1
      let code := code + sum / points
      let found := sum % points
      if code.isValidChar then
        insert? (done.take found ++ Char.ofNat code :: done.drop found) code (found + 1)
          (adapt (sum - place) points (place == 0)) rest
      else none
termination_by cs.length

/-- The label that a text writes. A hyphen in front of everything does not end the ASCII part. -/
def decode? (cs : List Char) : Option (List Char) :=
  match Text.cutLast? '-' cs with
  | some (c :: basic, rest) => insert? (c :: basic) 128 0 72 rest
  | _ => insert? [] 128 0 72 cs

end Switchboard.Domain.Punycode
