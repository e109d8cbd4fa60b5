import Mathlib.Data.List.Basic
import Switchboard.Route.Pattern

namespace Switchboard

namespace Text

theorem intercalate_concat {sep : List Char} {parts : List (List Char)} (hne : parts ≠ [])
    (last : List Char) :
    List.intercalate sep (parts ++ [last]) = List.intercalate sep parts ++ sep ++ last := by
  induction parts with
  | nil => exact absurd rfl hne
  | cons part rest ih =>
    cases rest with
    | nil => simp
    | cons next others =>
      have hrest := ih (List.cons_ne_nil next others)
      rw [List.cons_append, List.cons_append, List.intercalate_cons_cons, ← List.cons_append, hrest,
        List.intercalate_cons_cons]
      simp only [List.append_assoc]

theorem intercalate_concat_append (sep : List Char) (parts : List (List Char))
    (last more : List Char) :
    List.intercalate sep (parts ++ [last]) ++ more =
      List.intercalate sep (parts ++ [last ++ more]) := by
  by_cases hparts : parts = []
  · simp [hparts]
  · rw [intercalate_concat hparts, intercalate_concat hparts, List.append_assoc]

end Text

namespace Path

theorem dropTrailingSlash_append (cs : List Char) : dropTrailingSlash (cs ++ ['/']) = cs := by
  unfold dropTrailingSlash
  rw [if_pos (by simp), List.dropLast_concat]

theorem segments_of_trimmed {cs : List Char} {parts : List (List Char)}
    (htrimmed : dropTrailingSlash (dropLeadingSlash cs) = List.intercalate ['/'] parts)
    (hne : parts ≠ [[]]) (h : ∀ part ∈ parts, '/' ∉ part) : segments cs = parts := by
  unfold segments
  rw [htrimmed]
  cases parts with
  | nil => rfl
  | cons part rest =>
    have hpieces := Text.pieces_intercalate (List.cons_ne_nil part rest) h
    split
    next hnil =>
      rw [hnil] at hpieces
      exact absurd hpieces.symm hne
    next heq =>
      rw [← heq]
      exact hpieces

/-- The parts of a path, each behind a slash. -/
def joined (parts : List (List Char)) : List Char := '/' :: List.intercalate ['/'] parts

theorem segments_joined_slash {parts : List (List Char)} (hne : parts ≠ [[]])
    (h : ∀ part ∈ parts, '/' ∉ part) : segments (joined parts ++ ['/']) = parts :=
  segments_of_trimmed (dropTrailingSlash_append _) hne h

theorem getLast?_intercalate {sep : Char} {parts : List (List Char)} {last : List Char}
    (hlast : parts.getLast? = some last) (hne : last ≠ []) :
    (List.intercalate [sep] parts).getLast? = last.getLast? := by
  obtain ⟨front, rfl⟩ := List.getLast?_eq_some_iff.mp hlast
  by_cases hfront : front = []
  · simp [hfront]
  · rw [Text.intercalate_concat hfront, List.getLast?_append_of_ne_nil _ hne]

theorem getLast?_intercalate_ne_slash {parts : List (List Char)} (hlast : parts.getLast? ≠ some [])
    (h : ∀ part ∈ parts, '/' ∉ part) : (List.intercalate ['/'] parts).getLast? ≠ some '/' := by
  intro hslash
  cases hparts : parts.getLast? with
  | none =>
    obtain rfl := List.getLast?_eq_none_iff.mp hparts
    cases hslash
  | some last =>
    have hne : last ≠ [] := fun hnil => hlast (hnil ▸ hparts)
    rw [getLast?_intercalate hparts hne] at hslash
    exact h last (List.mem_of_getLast? hparts) (List.mem_of_getLast? hslash)

/-- Without a slash at its end, a path keeps its parts if the last is not empty. -/
theorem segments_joined {parts : List (List Char)} (hlast : parts.getLast? ≠ some [])
    (h : ∀ part ∈ parts, '/' ∉ part) : segments (joined parts) = parts := by
  refine segments_of_trimmed ?_ (fun hsingle => hlast (by rw [hsingle]; rfl)) h
  exact if_neg (getLast?_intercalate_ne_slash hlast h)

/-- The pieces that a text lists: each stands behind a slash, and one more slash may stand at the
end. Without that slash the last piece is not empty. -/
inductive Lists : List Char → List (List Char) → Prop where
  | plain {parts : List (List Char)} (hslash : ∀ part ∈ parts, '/' ∉ part)
      (hlast : parts.getLast? ≠ some []) : Lists (joined parts) parts
  | slashed {parts : List (List Char)} (hslash : ∀ part ∈ parts, '/' ∉ part)
      (hne : parts ≠ [[]]) : Lists (joined parts ++ ['/']) parts

theorem Lists.segments_eq {cs : List Char} {parts : List (List Char)} (h : Lists cs parts) :
    segments cs = parts := by
  cases h with
  | plain hslash hlast => exact segments_joined hlast hslash
  | slashed hslash hne => exact segments_joined_slash hne hslash

theorem Lists.ne {cs : List Char} {parts : List (List Char)} (h : Lists cs parts) :
    parts ≠ [[]] := by
  cases h with
  | plain hslash hlast => exact fun hsingle => hlast (hsingle ▸ rfl)
  | slashed hslash hne => exact hne

theorem Lists.head? {cs : List Char} {parts : List (List Char)} (h : Lists cs parts) :
    cs.head? = some '/' := by
  cases h <;> rfl

theorem getLast?_pieces_ne {cs : List Char} (hne : cs ≠ []) (hslash : cs.getLast? ≠ some '/') :
    (Text.pieces '/' cs).getLast? ≠ some [] := by
  intro hlast
  obtain ⟨front, hfront⟩ := List.getLast?_eq_some_iff.mp hlast
  have hjoined := Text.intercalate_pieces '/' cs
  rw [hfront] at hjoined
  by_cases hempty : front = []
  · subst hempty
    exact hne hjoined.symm
  · rw [Text.intercalate_concat hempty, List.append_nil] at hjoined
    apply hslash
    rw [← hjoined]
    simp

/-- A text is put together from its pieces. The empty text has none. -/
theorem exists_pieces (cs : List Char) :
    ∃ parts, cs = List.intercalate ['/'] parts ∧ (∀ part ∈ parts, '/' ∉ part) ∧ parts ≠ [[]] ∧
      (cs.getLast? ≠ some '/' → parts.getLast? ≠ some []) := by
  by_cases hcs : cs = []
  · exact ⟨[], hcs, by simp, by simp, by simp⟩
  · have hjoined := Text.intercalate_pieces '/' cs
    refine ⟨Text.pieces '/' cs, hjoined.symm, fun part => Text.not_mem_of_mem_pieces, ?_,
      getLast?_pieces_ne hcs⟩
    intro hsingle
    rw [hsingle] at hjoined
    exact hcs hjoined.symm

theorem Lists.exists_last {cs : List Char} {parts : List (List Char)} (h : Lists cs parts)
    (hend : cs.getLast? ≠ some '/') : ∃ front last, parts = front ++ [last] ∧ '/' :: last <:+ cs := by
  cases h with
  | slashed => simp at hend
  | plain hslash hlast =>
    rcases parts.eq_nil_or_concat with rfl | ⟨front, last, rfl⟩
    · exact absurd rfl hend
    · refine ⟨front, last, List.concat_eq_append, ?_⟩
      rw [List.concat_eq_append]
      by_cases hfront : front = []
      · subst hfront
        exact ⟨[], by simp [joined]⟩
      · have hjoined : joined (front ++ [last]) = joined front ++ '/' :: last := by
          rw [joined, joined, Text.intercalate_concat hfront]
          simp
        rw [hjoined]
        exact List.suffix_append ..

/-- Every text that begins with a slash lists pieces. -/
theorem exists_lists {cs : List Char} (h : cs.head? = some '/') : ∃ parts, Lists cs parts := by
  obtain ⟨rest, rfl⟩ := List.head?_eq_some_iff.mp h
  by_cases hend : rest.getLast? = some '/'
  · obtain ⟨inner, rfl⟩ := List.getLast?_eq_some_iff.mp hend
    obtain ⟨parts, rfl, hslash, hne, -⟩ := exists_pieces inner
    exact ⟨parts, .slashed hslash hne⟩
  · obtain ⟨parts, rfl, hslash, -, hlast⟩ := exists_pieces rest
    exact ⟨parts, .plain hslash (hlast hend)⟩

theorem Lists.pieces_eq {cs : List Char} {parts : List (List Char)} (h : Lists cs parts)
    (hend : cs.getLast? ≠ some '/') : Text.pieces '/' cs = [] :: parts := by
  cases h with
  | slashed => simp at hend
  | plain hslash hlast =>
    have hne : parts ≠ [] := by
      rintro rfl
      exact hend rfl
    rw [joined, Text.pieces, if_pos rfl, Text.pieces_intercalate hne hslash]

theorem Lists.pieces_of_slash {cs : List Char} {parts : List (List Char)} (h : Lists cs parts)
    (hend : cs.getLast? = some '/') :
    ∃ middle, Text.pieces '/' cs = [] :: (middle ++ [[]]) ∧ parts.length ≤ middle.length := by
  cases h with
  | plain hslash hlast =>
    have hnil : List.intercalate ['/'] parts = [] := by
      by_contra hne
      rw [joined, List.getLast?_cons_of_ne_nil hne] at hend
      exact getLast?_intercalate_ne_slash hlast hslash hend
    obtain rfl : parts = [] := by
      by_contra hne
      have hpieces := Text.pieces_intercalate hne hslash
      rw [hnil] at hpieces
      exact hlast (hpieces ▸ rfl)
    exact ⟨[], rfl, Nat.le_refl 0⟩
  | slashed hslash hne =>
    refine ⟨Text.pieces '/' (List.intercalate ['/'] parts), ?_, ?_⟩
    · rw [joined, List.cons_append, Text.pieces, if_pos rfl, Text.pieces_append_cons]
      rfl
    · by_cases hparts : parts = []
      · simp [hparts]
      · exact Nat.le_of_eq (congrArg List.length (Text.pieces_intercalate hparts hslash)).symm

end Path

end Switchboard
