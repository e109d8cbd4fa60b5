import Mathlib.Data.List.Basic

namespace Switchboard

theorem countP_set_add {α : Type} (p : α → Bool) {xs : List α} {i : Nat} {x : α}
    (hi : xs[i]? = some x) (y : α) :
    (xs.set i y).countP p + (if p x then 1 else 0) = xs.countP p + if p y then 1 else 0 := by
  obtain ⟨hlt, hx⟩ := List.getElem?_eq_some_iff.mp hi
  have hset := List.countP_set (p := p) (a := y) hlt
  have hone : p x = true → 0 < xs.countP p := fun hp =>
    List.countP_pos_iff.mpr ⟨x, List.mem_of_getElem? hi, hp⟩
  rw [hset, hx]
  by_cases hp : p x = true
  · have := hone hp
    simp only [hp, ↓reduceIte]
    omega
  · simp only [hp, Bool.false_eq_true, ↓reduceIte]
    omega

variable {S M : Type} {step? : S → M → Option S}

theorem foldlM_cons_eq_some {s s' : S} {move : M} {moves : List M} :
    (move :: moves).foldlM step? s = some s' ↔
      ∃ between, step? s move = some between ∧ moves.foldlM step? between = some s' := by
  rw [List.foldlM_cons]
  exact Option.bind_eq_some_iff

theorem foldlM_append_eq_some {s s' : S} {moves later : List M} :
    (moves ++ later).foldlM step? s = some s' ↔
      ∃ between, moves.foldlM step? s = some between ∧ later.foldlM step? between = some s' := by
  rw [List.foldlM_append]
  exact Option.bind_eq_some_iff

/-- A way in which every step leads on from where it starts, from start to end of a run. -/
theorem foldlM_leads {R : S → S → Prop} (hrefl : ∀ s, R s s)
    (htrans : ∀ {a b c}, R a b → R b c → R a c)
    (hstep : ∀ {s s'} move, step? s move = some s' → R s s') {moves : List M} {s s' : S}
    (h : moves.foldlM step? s = some s') : R s s' := by
  induction moves generalizing s with
  | nil =>
    obtain rfl : s = s' := Option.some.inj h
    exact hrefl s
  | cons move moves ih =>
    obtain ⟨between, hfirst, hrest⟩ := foldlM_cons_eq_some.mp h
    exact htrans (hstep move hfirst) (ih hrest)

theorem foldlM_keeps {P : S → Prop} (hstep : ∀ {s s'} move, P s → step? s move = some s' → P s')
    {moves : List M} {s s' : S} (hs : P s) (h : moves.foldlM step? s = some s') : P s' :=
  foldlM_leads (R := fun s s' => P s → P s') (fun _ hs => hs) (fun hab hbc ha => hbc (hab ha))
    (fun move h hs => hstep move hs h) h hs

end Switchboard
