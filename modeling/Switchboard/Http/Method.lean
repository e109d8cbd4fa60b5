import Switchboard.Text.Ascii

namespace Switchboard

def isTokenChar (c : Char) : Bool := Text.isAlphanumeric c || "!#$%&'*+-.^_`|~".toList.contains c

theorem isTokenChar_bounds {c : Char} (h : isTokenChar c = true) :
    0x21 ≤ c.toNat ∧ c.toNat ≤ 0x7E := by
  have hval : c.toNat = c.val.toNat := rfl
  unfold isTokenChar at h
  rcases Bool.or_eq_true_iff.mp h with halnum | hmark
  · change (decide (65 ≤ c.val ∧ c.val ≤ 90) || (decide (97 ≤ c.val) && decide (c.val ≤ 122)) ||
      (decide (48 ≤ c.val) && decide (c.val ≤ 57))) = true at halnum
    simp only [Bool.or_eq_true, Bool.and_eq_true, decide_eq_true_eq, UInt32.le_iff_toNat_le]
      at halnum
    simp at halnum
    omega
  · have hmarks : "!#$%&'*+-.^_`|~".toList.all
        (fun c => 0x21 ≤ c.toNat && c.toNat ≤ 0x7E) = true := by cbv
    have hbounds := List.all_eq_true.mp hmarks c (List.contains_iff_mem.mp hmark)
    simpa using hbounds

structure Method where
  name : String
  isToken : (name.toList ≠ [] ∧ name.toList.all isTokenChar) := by decide
  deriving DecidableEq

namespace Method

def ofString? (name : String) : Option Method :=
  if h : name.toList ≠ [] ∧ name.toList.all isTokenChar then some ⟨name, h⟩ else none

def get : Method := { name := "GET" }

def post : Method := { name := "POST" }

def put : Method := { name := "PUT" }

def delete : Method := { name := "DELETE" }

def head : Method := { name := "HEAD" }

def connect : Method := { name := "CONNECT" }

end Method

end Switchboard
