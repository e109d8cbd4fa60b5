import Switchboard.Value.Printer

namespace Switchboard

/-- Holds nothing but what the text of a number is made of. -/
def IsNumeral (s : String) : Prop := ∀ c ∈ s.toList, c.isDigit ∨ c ∈ ['.', 'e', '+', '-']

instance (s : String) : Decidable (IsNumeral s) := List.decidableBAll _ s.toList

theorem IsNumeral.append {s t : String} (hs : IsNumeral s) (ht : IsNumeral t) :
    IsNumeral (s ++ t) := by
  intro c hc
  rw [String.toList_append] at hc
  rcases List.mem_append.mp hc with hc | hc
  · exact hs c hc
  · exact ht c hc

theorem IsNumeral.ofList {s : String} (hs : IsNumeral s) {cs : List Char}
    (hcs : ∀ c ∈ cs, c ∈ s.toList ∨ c = '.') : IsNumeral (String.ofList cs) := by
  intro c hc
  rw [String.toList_ofList] at hc
  rcases hcs c hc with hin | rfl
  · exact hs c hin
  · decide

theorem isNumeral_toString (n : Nat) : IsNumeral (toString n) := by
  intro c hc
  rw [Nat.toString_eq_repr, Nat.toList_repr] at hc
  exact .inl (Nat.isDigit_of_mem_toDigits (by decide) (by decide) hc)

theorem isNumeral_zeros (n : Nat) : IsNumeral (String.ofList (List.replicate n '0')) := by
  have hzero : IsNumeral "0" := by decide
  refine hzero.ofList fun c hc => .inl ?_
  obtain rfl := List.eq_of_mem_replicate hc
  decide

theorem Decimal.isNumeral_text (d : Decimal) : IsNumeral d.text := by
  have hdigits := isNumeral_toString d.digits
  unfold Decimal.text
  dsimp only
  split
  next =>
    have hpoint : IsNumeral ".0" := by decide
    exact (hdigits.append (isNumeral_zeros _)).append hpoint
  next =>
    split
    next =>
      have hpoint : IsNumeral "." := by decide
      refine (IsNumeral.append ?_ hpoint).append ?_
      · exact hdigits.ofList fun c hc => .inl (List.mem_of_mem_take hc)
      · exact hdigits.ofList fun c hc => .inl (List.mem_of_mem_drop hc)
    next =>
      split
      next =>
        have hpoint : IsNumeral "0." := by decide
        exact (hpoint.append (isNumeral_zeros _)).append hdigits
      next =>
        have hletter : IsNumeral "e" := by decide
        refine ((IsNumeral.append ?_ hletter).append ?_).append (isNumeral_toString _)
        · split
          next => decide
          next c hone => exact hdigits.ofList fun d hd => .inl (hone ▸ hd)
          next c rest hmore =>
            refine hdigits.ofList fun d hd => ?_
            rw [hmore]
            simp only [List.mem_cons] at hd ⊢
            rcases hd with hfirst | hpoint | hrest
            · exact .inl (.inl hfirst)
            · exact .inr hpoint
            · exact .inl (.inr hrest)
        · split <;> decide

theorem Number.isNumeral_text (n : Number) : IsNumeral n.text := by
  have hminus : IsNumeral "-" := by decide
  cases n with
  | integer n =>
    show IsNumeral (toString n)
    rw [Int.toString_eq_repr, Int.repr_eq_if, ← Nat.toString_eq_repr, ← Nat.toString_eq_repr]
    split
    next => exact isNumeral_toString _
    next => exact hminus.append (isNumeral_toString _)
  | binary x =>
    refine IsNumeral.append ?_ x.shortest.isNumeral_text
    split
    next => exact hminus
    next => decide

end Switchboard
