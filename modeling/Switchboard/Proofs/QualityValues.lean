import Mathlib.Algebra.Order.Field.Basic
import Mathlib.Algebra.Order.Field.Rat
import Switchboard.Format.MediaRange

namespace Switchboard

namespace Quality

def value? : Quality → Option ℚ
  | nan => none
  | units n => some (n / unit)

/-- The quality is a number from zero to one, and every test of it is one of that number. -/
structure Is (q : Quality) (x : ℚ) : Prop where
  value : q.value? = some x
  nonneg : 0 ≤ x
  le_one : x ≤ 1
  isZero : q.isZero = true ↔ x ≤ 0
  isPositive : q.isPositive = true ↔ 0 < x
  exceeds : ∀ other y, other.value? = some y → (q.exceeds other = true ↔ y < x)

/-- The quality is no number, and every test of it fails, from whichever side. -/
structure IsUnordered (q : Quality) : Prop where
  value : q.value? = none
  isZero : q.isZero = false
  isPositive : q.isPositive = false
  exceeds : ∀ other, q.exceeds other = false
  exceeded : ∀ other : Quality, other.exceeds q = false

/-- The text is the word `nan` in any case, with or without a sign. -/
def WritesNan (text : String) : Prop :=
  ∃ mark ∈ ["", "+", "-"], ∃ word, text = mark ++ word ∧ Text.lowercase word = "nan"

variable {q : Quality} {text : String}

theorem isUnordered_nan : IsUnordered nan := by
  refine ⟨rfl, rfl, rfl, fun other => ?_, fun other => ?_⟩
  · cases other <;> rfl
  · cases other <;> rfl

theorem unit_pos : (0 : ℚ) < unit := by
  have : 0 < unit := by decide +kernel
  exact_mod_cast this

theorem Is.not_isUnordered {x : ℚ} (h : q.Is x) : ¬q.IsUnordered := by
  intro hunordered
  cases h.value.symm.trans hunordered.value

theorem is_units {n : Nat} (h : n ≤ unit) : (units n).Is (n / unit) := by
  have hunit := unit_pos
  have hpos : (0 : ℚ) < n / unit ↔ 0 < n := by
    rw [div_pos_iff_of_pos_right hunit, Nat.cast_pos]
  refine ⟨rfl, ?_, ?_, ?_, ?_, fun other y hy => ?_⟩
  · exact div_nonneg n.cast_nonneg hunit.le
  · rw [div_le_one₀ hunit]
    exact_mod_cast h
  · rw [← not_lt, hpos]
    simp [Quality.isZero]
  · rw [hpos]
    simp [Quality.isPositive]
  · cases other with
    | nan => cases hy
    | units m =>
      obtain rfl := Option.some.inj hy
      rw [div_lt_div_iff_of_pos_right hunit, Nat.cast_lt]
      simp [Quality.exceeds]

theorem ofDecimal_bounded (digits : Nat) (exponent : Int) :
    ∃ n ≤ unit, ofDecimal digits exponent = units n := by
  unfold ofDecimal
  dsimp only
  split
  next => exact ⟨0, Nat.zero_le _, rfl⟩
  next =>
    split
    next => exact ⟨unit, le_rfl, rfl⟩
    next =>
      split
      next => exact ⟨0, Nat.zero_le _, rfl⟩
      next =>
        split
        next => exact ⟨_, min_le_left _ _, rfl⟩
        next => exact ⟨unit, le_rfl, rfl⟩

theorem decimal?_bounded {cs : List Char} (h : decimal? cs = some q) :
    ∃ n ≤ unit, q = units n := by
  simp only [decimal?, Option.ite_none_left_eq_some, Option.bind_eq_bind,
    Option.bind_eq_some_iff, Option.some.injEq] at h
  obtain ⟨-, exponent, -, rfl⟩ := h
  exact ofDecimal_bounded _ _

theorem exists_sign (cs : List Char) :
    ∃ mark ∈ ["", "+", "-"], cs = mark.toList ++ (sign cs).2 := by
  unfold sign
  split
  next => exact ⟨"-", by simp, rfl⟩
  next => exact ⟨"+", by simp, rfl⟩
  next => exact ⟨"", by simp, rfl⟩

theorem sign_append {mark word : String} (hmark : mark ∈ ["", "+", "-"])
    (hword : Text.lowercase word = "nan") : (sign (mark ++ word).toList).2 = word.toList := by
  simp only [List.mem_cons, List.not_mem_nil, or_false] at hmark
  rw [String.toList_append]
  rcases hmark with rfl | rfl | rfl
  · have hletters : word.toList.map Char.toLower = ['n', 'a', 'n'] := by
      simpa [Text.lowercase] using congrArg String.toList hword
    obtain ⟨c, rest, hsplit, hc, -⟩ := List.map_eq_cons_iff.mp hletters
    show (sign word.toList).2 = word.toList
    rw [hsplit]
    unfold sign
    split
    next heq =>
      obtain ⟨rfl, -⟩ := List.cons.inj heq
      cases hc
    next heq =>
      obtain ⟨rfl, -⟩ := List.cons.inj heq
      cases hc
    next => rfl
  · rfl
  · rfl

def letters (text : String) : String := String.ofList ((sign text.toList).2.map Char.toLower)

theorem letters_eq_nan_iff : letters text = "nan" ↔ WritesNan text := by
  have hletters : letters text = Text.lowercase (String.ofList (sign text.toList).2) := by
    rw [letters, Text.lowercase, String.toList_ofList]
  rw [hletters]
  constructor
  · intro h
    obtain ⟨mark, hmark, hsplit⟩ := exists_sign text.toList
    refine ⟨mark, hmark, _, ?_, h⟩
    rw [← String.toList_inj, String.toList_append, String.toList_ofList]
    exact hsplit
  · rintro ⟨mark, hmark, word, rfl, h⟩
    rw [sign_append hmark h, String.ofList_toList, h]

theorem ofText?_of_writesNan (h : WritesNan text) : ofText? text = some nan :=
  if_pos (letters_eq_nan_iff.mpr h)

theorem ofText?_bounded (hnan : ¬WritesNan text) (h : ofText? text = some q) :
    ∃ n ≤ unit, q = units n := by
  have hletters : String.ofList ((sign text.toList).2.map Char.toLower) ≠ "nan" :=
    mt letters_eq_nan_iff.mp hnan
  unfold ofText? at h
  dsimp only at h
  rw [if_neg hletters] at h
  -- A minus leaves nothing of an infinity, nor of a decimal.
  have hsigned {r : Quality} (hr : ∃ n ≤ unit, r = units n) (negative : Bool) :
      ∃ n ≤ unit, (if negative then units 0 else r) = units n := by
    cases negative with
    | true => exact ⟨0, Nat.zero_le _, rfl⟩
    | false => exact hr
  split at h
  next =>
    obtain rfl := Option.some.inj h
    exact hsigned ⟨unit, le_rfl, rfl⟩ _
  next =>
    obtain ⟨r, hr, rfl⟩ := Option.map_eq_some_iff.mp h
    exact hsigned (decimal?_bounded hr) _

theorem exists_is (h : ofText? text = some q) (hnan : ¬WritesNan text) : ∃ x, q.Is x := by
  obtain ⟨n, hn, rfl⟩ := ofText?_bounded hnan h
  exact ⟨_, is_units hn⟩

end Quality

namespace MediaRange

/-- What a parameter of the name `q` gives as the quality. -/
def qualityText? (param : List Char) : Option String :=
  (Text.cut? '=' param).bind fun (name, value) =>
    if Text.equalIgnoringCase (Text.trim (String.ofList name)) "q" then
      some (Text.trim (String.ofList value))
    else none

/-- What the last parameter `q` of an entry gives. -/
def lastQuality? (entry : List Char) : Option String :=
  ((Text.pieces ';' entry).tail.filterMap qualityText?).getLast?

/-- The last parameter `q` of the entry writes `nan`. -/
def EndsInNan (entry : List Char) : Prop :=
  ∃ text, lastQuality? entry = some text ∧ Quality.WritesNan text

variable {q quality : Quality} {entry : List Char} {range : MediaRange}
  {params : List (List Char)}

theorem quality?_cons (q : Quality) (param : List Char) (params : List (List Char)) :
    quality? q (param :: params) =
      match qualityText? param with
      | none => quality? q params
      | some text => (Quality.ofText? text).bind fun q => quality? q params := by
  rw [quality?]
  unfold qualityText?
  cases Text.cut? '=' param with
  | none => rfl
  | some pair =>
    obtain ⟨name, value⟩ := pair
    dsimp only [Option.bind_some]
    split <;> rfl

/-- The last of the parameters decides, and the quality so far if there is none. -/
theorem quality?_eq_some (h : quality? q params = some quality) :
    (params.filterMap qualityText?).getLast?.elim (some q) Quality.ofText? = some quality := by
  induction params generalizing q with
  | nil => exact h
  | cons param params ih =>
    rw [quality?_cons] at h
    cases hparam : qualityText? param with
    | none =>
      rw [hparam] at h
      rw [List.filterMap_cons_none hparam]
      exact ih h
    | some text =>
      rw [hparam] at h
      obtain ⟨sofar, hsofar, hrest⟩ := Option.bind_eq_some_iff.mp h
      rw [List.filterMap_cons_some hparam, List.getLast?_cons]
      have hlast := ih hrest
      cases hget : (params.filterMap qualityText?).getLast? with
      | none =>
        rw [hget] at hlast
        exact hsofar.trans hlast
      | some last =>
        rw [hget] at hlast
        exact hlast

theorem quality_of_ofEntry? (h : ofEntry? entry = some range) :
    (lastQuality? entry).elim (some .one) Quality.ofText? = some range.quality := by
  unfold ofEntry? at h
  unfold lastQuality?
  cases hpieces : Text.pieces ';' entry with
  | nil => exact absurd hpieces (Text.pieces_ne_nil ';' entry)
  | cons name params =>
    simp only [hpieces] at h
    split at h
    next => cases h
    next =>
      split at h
      next => cases h
      next =>
        obtain ⟨quality, hquality, rfl⟩ := Option.map_eq_some_iff.mp h
        exact quality?_eq_some hquality

theorem isUnordered_of_endsInNan (h : ofEntry? entry = some range) (hnan : EndsInNan entry) :
    range.quality.IsUnordered := by
  obtain ⟨text, htext, hwrites⟩ := hnan
  have hquality := quality_of_ofEntry? h
  rw [htext, Option.elim_some, Quality.ofText?_of_writesNan hwrites] at hquality
  rw [← Option.some.inj hquality]
  exact Quality.isUnordered_nan

theorem exists_is_of_not_endsInNan (h : ofEntry? entry = some range) (hnan : ¬EndsInNan entry) :
    ∃ x, range.quality.Is x := by
  have hquality := quality_of_ofEntry? h
  cases hlast : lastQuality? entry with
  | none =>
    rw [hlast] at hquality
    rw [← Option.some.inj hquality]
    exact ⟨_, Quality.is_units le_rfl⟩
  | some text =>
    rw [hlast] at hquality
    exact Quality.exists_is hquality fun hwrites => hnan ⟨text, hlast, hwrites⟩

/-- The quality of a range is a number from zero to one and compares as it, unless the last
parameter `q` of its entry writes `nan`: no test of the quality holds then. Where that parameter
writes anything else that is no such number, the entry is no range. -/
theorem ofEntry?_quality (entry : List Char) :
    (∀ range, ofEntry? entry = some range →
      ((∃ x, range.quality.Is x) ↔ ¬EndsInNan entry) ∧
        (range.quality.IsUnordered ↔ EndsInNan entry)) ∧
    ∀ text, lastQuality? entry = some text → ¬Quality.WritesNan text →
      (¬∃ q x, Quality.ofText? text = some q ∧ q.Is x) → ofEntry? entry = none := by
  refine ⟨fun range hrange => ⟨⟨?_, ?_⟩, ?_, ?_⟩, fun text htext hnan hnumber => ?_⟩
  · rintro ⟨x, hx⟩ hnan
    exact hx.not_isUnordered (isUnordered_of_endsInNan hrange hnan)
  · exact exists_is_of_not_endsInNan hrange
  · intro hunordered
    by_contra hnan
    obtain ⟨x, hx⟩ := exists_is_of_not_endsInNan hrange hnan
    exact hx.not_isUnordered hunordered
  · exact isUnordered_of_endsInNan hrange
  · refine Option.eq_none_iff_forall_ne_some.mpr fun range hrange => hnumber ?_
    have hquality := quality_of_ofEntry? hrange
    rw [htext] at hquality
    obtain ⟨x, hx⟩ := Quality.exists_is hquality hnan
    exact ⟨range.quality, x, hquality, hx⟩

/-- What stands last writes `nan` in the first entry and a number in the second, and in the third it
is no quality. -/
theorem ofEntry?_quality_html :
    let nanEntry := "text/html;q=0.4;level=1;Q= -NaN".toList
    let oneEntry := "text/html;q=nan;q=1".toList
    let spoiltEntry := "text/html;q=0.4;q=high".toList
    (∃ range, ofEntry? nanEntry = some range ∧ range.quality.IsUnordered) ∧
      (∃ range x, ofEntry? oneEntry = some range ∧ range.quality.Is x) ∧
      ofEntry? spoiltEntry = none := by
  intro nanEntry oneEntry spoiltEntry
  have hnanEntry : ofEntry? nanEntry = some ⟨"text", "html", .nan⟩ := by decide +kernel
  have honeEntry : ofEntry? oneEntry = some ⟨"text", "html", .one⟩ := by decide +kernel
  have hends : EndsInNan nanEntry :=
    ⟨"-NaN", by decide +kernel, "-", by decide, "NaN", by decide, by decide⟩
  have hone : ¬EndsInNan oneEntry := by
    rintro ⟨text, htext, hwrites⟩
    have hlast : lastQuality? oneEntry = some "1" := by decide +kernel
    obtain rfl := Option.some.inj (hlast.symm.trans htext)
    have hread : Quality.ofText? "1" = some .one := by decide +kernel
    rw [Quality.ofText?_of_writesNan hwrites] at hread
    cases hread
  have hspoilt : lastQuality? spoiltEntry = some "high" := by decide +kernel
  have hunread : Quality.ofText? "high" = none := by decide +kernel
  obtain ⟨x, hx⟩ := ((ofEntry?_quality oneEntry).1 _ honeEntry).1.mpr hone
  refine ⟨⟨_, hnanEntry, ((ofEntry?_quality nanEntry).1 _ hnanEntry).2.mpr hends⟩,
    ⟨_, x, honeEntry, hx⟩, (ofEntry?_quality spoiltEntry).2 "high" hspoilt ?_ ?_⟩
  · intro hwrites
    rw [Quality.ofText?_of_writesNan hwrites] at hunread
    cases hunread
  · rintro ⟨q, x, hq, -⟩
    rw [hunread] at hq
    cases hq

end MediaRange
end Switchboard
