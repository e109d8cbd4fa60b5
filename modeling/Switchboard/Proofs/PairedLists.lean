import Mathlib.Data.List.Forall2

namespace Switchboard

variable {α β γ δ : Type} {R : α → β → Prop} {S : γ → δ → Prop}

theorem forall₂_zipIdx {xs : List α} {ys : List β} (h : List.Forall₂ R xs ys) (n : Nat) :
    List.Forall₂ (fun x y => R x.1 y.1 ∧ x.2 = y.2) (xs.zipIdx n) (ys.zipIdx n) := by
  induction h generalizing n with
  | nil => exact .nil
  | cons hxy _ ih => exact .cons ⟨hxy, rfl⟩ (ih (n + 1))

theorem find?_rel {xs : List α} {ys : List β} {p : α → Bool} {q : β → Bool}
    (h : List.Forall₂ R xs ys) (hpq : ∀ x y, R x y → p x = q y) :
    Option.Rel R (xs.find? p) (ys.find? q) := by
  induction h with
  | nil => exact .none
  | @cons x y _ _ hxy _ ih =>
    have heq := hpq x y hxy
    cases hp : p x with
    | true =>
      rw [List.find?_cons_of_pos hp, List.find?_cons_of_pos (heq ▸ hp)]
      exact .some hxy
    | false =>
      rw [List.find?_cons_of_neg (by simp [hp]), List.find?_cons_of_neg (by simp [← heq, hp])]
      exact ih

theorem takeWhile_rel {xs : List α} {ys : List β} {p : α → Bool} {q : β → Bool}
    (h : List.Forall₂ R xs ys) (hpq : ∀ x y, R x y → p x = q y) :
    List.Forall₂ R (xs.takeWhile p) (ys.takeWhile q) := by
  induction h with
  | nil => exact .nil
  | @cons x y _ _ hxy _ ih =>
    rw [List.takeWhile_cons, List.takeWhile_cons, ← hpq x y hxy]
    split
    · exact .cons hxy ih
    · exact .nil

theorem dropWhile_rel {xs : List α} {ys : List β} {p : α → Bool} {q : β → Bool}
    (h : List.Forall₂ R xs ys) (hpq : ∀ x y, R x y → p x = q y) :
    List.Forall₂ R (xs.dropWhile p) (ys.dropWhile q) := by
  induction h with
  | nil => exact .nil
  | @cons x y _ _ hxy hrest ih =>
    rw [List.dropWhile_cons, List.dropWhile_cons, ← hpq x y hxy]
    split
    · exact ih
    · exact .cons hxy hrest

theorem head?_rel {xs : List α} {ys : List β} (h : List.Forall₂ R xs ys) :
    Option.Rel R xs.head? ys.head? := by
  cases h with
  | nil => exact .none
  | cons hxy _ => exact .some hxy

theorem getLast?_rel {xs : List α} {ys : List β} (h : List.Forall₂ R xs ys) :
    Option.Rel R xs.getLast? ys.getLast? := by
  rw [← List.head?_reverse, ← List.head?_reverse]
  exact head?_rel (List.rel_reverse h)

theorem forall₂_concat_iff {xs : List α} {ys : List β} {x : α} {y : β} :
    List.Forall₂ R (xs ++ [x]) (ys ++ [y]) ↔ List.Forall₂ R xs ys ∧ R x y := by
  rw [← List.forall₂_reverse_iff, List.reverse_concat, List.reverse_concat, List.forall₂_cons,
    List.forall₂_reverse_iff, and_comm]

theorem exists_concat_of_rel {xs : List α} {x : α} {zs : List β}
    (h : List.Forall₂ R (xs ++ [x]) zs) : ∃ ys y, zs = ys ++ [y] ∧ List.Forall₂ R xs ys ∧ R x y := by
  rcases List.eq_nil_or_concat' zs with rfl | ⟨ys, y, rfl⟩
  · simp at h
  · exact ⟨ys, y, rfl, forall₂_concat_iff.mp h⟩

theorem findSome?_rel {xs : List α} {ys : List β} {f : α → Option γ} {g : β → Option δ}
    (h : List.Forall₂ R xs ys) (hfg : ∀ x y, R x y → Option.Rel S (f x) (g y)) :
    Option.Rel S (xs.findSome? f) (ys.findSome? g) := by
  induction h with
  | nil => exact .none
  | @cons x y _ _ hxy _ ih =>
    have hrel := hfg x y hxy
    rw [List.findSome?_cons, List.findSome?_cons]
    cases hf : f x <;> cases hg : g y <;> rw [hf, hg] at hrel
    · exact ih
    · cases hrel
    · cases hrel
    · exact hrel

theorem map_eq_of_rel {xs : List α} {ys : List β} {f : α → γ} {g : β → γ}
    (h : List.Forall₂ R xs ys) (hfg : ∀ x y, R x y → f x = g y) : xs.map f = ys.map g := by
  induction h with
  | nil => rfl
  | cons hxy _ ih => rw [List.map_cons, List.map_cons, hfg _ _ hxy, ih]

theorem any_eq_of_rel {xs : List α} {ys : List β} {p : α → Bool} {q : β → Bool}
    (h : List.Forall₂ R xs ys) (hpq : ∀ x y, R x y → p x = q y) : xs.any p = ys.any q := by
  induction h with
  | nil => rfl
  | cons hxy _ ih => rw [List.any_cons, List.any_cons, hpq _ _ hxy, ih]

theorem exists_of_mem_right {xs : List α} {ys : List β} {y : β} (h : List.Forall₂ R xs ys)
    (hy : y ∈ ys) : ∃ x ∈ xs, R x y := by
  induction h with
  | nil => cases hy
  | @cons x z _ _ hxz _ ih =>
    rcases List.mem_cons.mp hy with rfl | hin
    · exact ⟨x, List.mem_cons_self .., hxz⟩
    · obtain ⟨w, hw, hrel⟩ := ih hin
      exact ⟨w, List.mem_cons_of_mem _ hw, hrel⟩

theorem pairwise_of_rel {xs : List α} {ys : List β} {P : α → α → Prop} {Q : β → β → Prop}
    (h : List.Forall₂ R xs ys) (hPQ : ∀ x y x' y', R x y → R x' y' → P x x' → Q y y')
    (hP : xs.Pairwise P) : ys.Pairwise Q := by
  induction h with
  | nil => exact .nil
  | @cons x y _ _ hxy hrest ih =>
    obtain ⟨hfirst, hothers⟩ := List.pairwise_cons.mp hP
    refine List.pairwise_cons.mpr ⟨fun y' hy' => ?_, ih hothers⟩
    obtain ⟨x', hx', hrel⟩ := exists_of_mem_right hrest hy'
    exact hPQ x y x' y' hxy hrel (hfirst x' hx')

theorem bind_rel {a : Option α} {b : Option β} {f : α → Option γ} {g : β → Option δ}
    (h : Option.Rel R a b) (hfg : ∀ x y, R x y → Option.Rel S (f x) (g y)) :
    Option.Rel S (a.bind f) (b.bind g) := by
  cases h with
  | none => exact .none
  | some hxy => exact hfg _ _ hxy

theorem or_rel {a a' : Option α} {b b' : Option β} (h : Option.Rel R a b)
    (h' : Option.Rel R a' b') : Option.Rel R (a.or a') (b.or b') := by
  cases h with
  | none => simpa using h'
  | some hxy => exact .some hxy

end Switchboard
