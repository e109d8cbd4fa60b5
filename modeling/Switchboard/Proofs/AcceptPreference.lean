import Mathlib.Data.List.Induction
import Switchboard.Proofs.RangePrecedence

namespace Switchboard

namespace Quality

/-- How many of the least units a quality is; `nan` is none. -/
def amount : Quality → Nat
  | nan => 0
  | units n => n

variable {q other : Quality}

theorem isZero_iff : q.isZero = true ↔ q = units 0 := by
  cases q with
  | nan => simp [isZero]
  | units n => simp [isZero]

theorem amount_pos (hq : q ≠ nan) (h : q.isZero = false) : 0 < q.amount := by
  cases q with
  | nan => exact absurd rfl hq
  | units n =>
    have hn : n ≠ 0 := by simpa [isZero] using h
    exact Nat.pos_of_ne_zero hn

theorem exceeds_iff (hq : q ≠ nan) (hother : other ≠ nan) :
    q.exceeds other = true ↔ other.amount < q.amount := by
  cases q with
  | nan => exact absurd rfl hq
  | units n =>
    cases other with
    | nan => exact absurd rfl hother
    | units m => simp [exceeds, amount]

end Quality

namespace Registry

open MediaRange (Counts)

variable {r : Registry} {ranges : List MediaRange} {choices seen : List Settings}
  {best : Option (MediaRange × Settings)} {range : MediaRange} {s t : Settings}

/-- A further choice is passed over if no range covers it, or one that rules it out or does not
exceed that of the choice so far. Else it takes the place of that choice. -/
theorem better_cases (ranges : List MediaRange) (best : Option (MediaRange × Settings))
    (t : Settings) :
    (better ranges best t = best ∧ ∀ range, Counts ranges t.mediaType range →
        range.quality.isZero = true ∨
          ∃ sofar s, best = some (sofar, s) ∧ range.quality.exceeds sofar.quality = false) ∨
      ∃ range, better ranges best t = some (range, t) ∧ Counts ranges t.mediaType range ∧
        range.quality.isZero = false ∧
        ∀ sofar s, best = some (sofar, s) → range.quality.exceeds sofar.quality = true := by
  unfold better
  cases hown : MediaRange.best? ranges t.mediaType with
  | none =>
    refine .inl ⟨rfl, fun range hcounts => ?_⟩
    rw [MediaRange.best?_eq_some_iff.mpr hcounts] at hown
    cases hown
  | some own =>
    have hcounts := MediaRange.best?_eq_some_iff.mp hown
    by_cases hzero : own.quality.isZero = true
    · refine .inl ⟨by simp [hzero], fun range hrange => .inl ?_⟩
      rw [hrange.eq hcounts]
      exact hzero
    · cases best with
      | none => exact .inr ⟨own, by simp [hzero], hcounts, by simpa using hzero, nofun⟩
      | some pair =>
        obtain ⟨sofar, s⟩ := pair
        by_cases hexceeds : own.quality.exceeds sofar.quality = true
        · refine .inr ⟨own, by simp [hzero, hexceeds], hcounts, by simpa using hzero, ?_⟩
          intro _ _ hbest
          obtain ⟨rfl, rfl⟩ := Prod.mk.inj (Option.some.inj hbest)
          exact hexceeds
        · refine .inl ⟨by simp [hzero, hexceeds], fun range hrange => .inr ⟨sofar, s, rfl, ?_⟩⟩
          rw [hrange.eq hcounts]
          simpa using hexceeds

section Exclusion

theorem counts_of_foldl (h : choices.foldl (better ranges) none = some (range, s)) :
    Counts ranges s.mediaType range ∧ range.quality.isZero = false := by
  induction choices using List.reverseRecOn with
  | nil => cases h
  | append_singleton choices t ih =>
    -- The last choice is taken up last, and what the others came to is kept or replaced.
    rw [List.foldl_append] at h
    change better ranges (choices.foldl (better ranges) none) t = _ at h
    rcases better_cases ranges (choices.foldl (better ranges) none) t with
      ⟨hkept, -⟩ | ⟨own, htaken, hcounts, hzero, -⟩
    · exact ih (hkept ▸ h)
    · obtain ⟨rfl, rfl⟩ := Prod.mk.inj (Option.some.inj (htaken.symm.trans h))
      exact ⟨hcounts, hzero⟩

theorem excludes_iff {mediaType : String} :
    MediaRange.excludes ranges mediaType = true ↔
      ∃ range, Counts ranges mediaType range ∧ range.quality = .units 0 := by
  unfold MediaRange.excludes
  rw [Option.any_eq_true]
  exact exists_congr fun range => and_congr MediaRange.best?_eq_some_iff Quality.isZero_iff

theorem excludes_of_fromAccept? (h : r.fromAccept? ranges = some s) :
    MediaRange.excludes ranges s.mediaType = false := by
  unfold fromAccept? at h
  split at h
  next range chosen hfold =>
    obtain ⟨hcounts, hzero⟩ := counts_of_foldl hfold
    obtain rfl : chosen = s := by
      split at h
      next => cases h
      next => exact Option.some.inj h
    unfold MediaRange.excludes
    rw [MediaRange.best?_eq_some_iff.mpr hcounts]
    exact hzero
  next => cases h

theorem excludes_of_firstAcceptable? {policy : Option FormatPolicy}
    (h : r.firstAcceptable? ranges policy = some s) :
    MediaRange.excludes ranges s.mediaType = false := by
  have hfound := List.find?_some h
  simp only [Bool.and_eq_true] at hfound
  exact MediaRange.excludes_of_welcomes hfound.2

/-- What a request without a format of its own is answered with is not ruled out by the range that
counts for it. -/
theorem quality_ne_zero_of_resolve {policy : Option FormatPolicy} {request : Request}
    (hfree : request.requestedFormat? = none)
    (h : (r.resolve request policy false).result = .ok s)
    (hcounts : Counts request.acceptRanges s.mediaType range) : range.quality ≠ .units 0 := by
  have hkept : MediaRange.excludes request.acceptRanges s.mediaType = false := by
    unfold resolve at h
    rw [hfree] at h
    rcases forRanges_eq_ok_iff.mp h with ⟨haccept, -⟩ | ⟨-, d, -, hchosen⟩
    · exact excludes_of_fromAccept? haccept
    · rcases unlessExcluded_eq_ok_iff.mp hchosen with ⟨rfl, hdefault⟩ | ⟨hfirst, -⟩
      · exact hdefault
      · exact excludes_of_firstAcceptable? hfirst
  intro hzero
  have hexcluded := excludes_iff.mpr ⟨range, hcounts, hzero⟩
  rw [hkept] at hexcluded
  cases hexcluded

/-- JSON, the default, is ruled out, and XML is answered with as any other type. -/
theorem standard_resolve_not_excluded :
    let request := accepting "application/json;q=0, */*"
    ∃ s range, request.requestedFormat? = none ∧
      (standard.resolve request none false).result = .ok s ∧
      s.mediaType = "application/xml; charset=UTF-8" ∧
      Counts request.acceptRanges s.mediaType range ∧ range.quality ≠ .units 0 := by
  intro request
  have hanswer : (standard.resolve request none false).result.toOption.map (·.mediaType) =
      some "application/xml; charset=UTF-8" := by decide +kernel
  have hbest : MediaRange.best? request.acceptRanges "application/xml; charset=UTF-8" =
      some ⟨"*", "*", .one⟩ := by decide +kernel
  cases hresolve : (standard.resolve request none false).result with
  | error e =>
    rw [hresolve] at hanswer
    cases hanswer
  | ok s =>
    rw [hresolve] at hanswer
    have htype : s.mediaType = "application/xml; charset=UTF-8" := Option.some.inj hanswer
    have hcounts := MediaRange.best?_eq_some_iff.mp (htype ▸ hbest)
    exact ⟨s, _, rfl, rfl, htype, hcounts, quality_ne_zero_of_resolve rfl hresolve hcounts⟩

end Exclusion

/-- Of the choices this is the first of the most welcome ones, by the range that counts for it. -/
structure Prefers (ranges : List MediaRange) (choices : List Settings) (range : MediaRange)
    (s : Settings) : Prop where
  counts : Counts ranges s.mediaType range
  welcome : 0 < range.quality.amount
  greatest : ∀ t ∈ choices, ∀ other, Counts ranges t.mediaType other →
    other.quality.amount ≤ range.quality.amount
  first : ∃ before after, choices = before ++ s :: after ∧
    ∀ t ∈ before, ∀ other, Counts ranges t.mediaType other →
      other.quality.amount < range.quality.amount

/-- How welcome the choice so far is. -/
def reached : Option (MediaRange × Settings) → Nat
  | none => 0
  | some (range, _) => range.quality.amount

/-- What the search for a preference has come to behind some of the choices. -/
structure Stands (ranges : List MediaRange) (seen : List Settings)
    (best : Option (MediaRange × Settings)) : Prop where
  le : ∀ t ∈ seen, ∀ range, Counts ranges t.mediaType range →
    range.quality.amount ≤ reached best
  prefers : ∀ range s, best = some (range, s) → Prefers ranges seen range s

section Preference

theorem Stands.pass (h : Stands ranges seen best)
    (hle : ∀ range, Counts ranges t.mediaType range → range.quality.amount ≤ reached best) :
    Stands ranges (seen ++ [t]) best := by
  have hall : ∀ u ∈ seen ++ [t], ∀ range, Counts ranges u.mediaType range →
      range.quality.amount ≤ reached best := by
    intro u hu range hrange
    rcases List.mem_append.mp hu with hin | hlast
    · exact h.le u hin range hrange
    · obtain rfl := List.mem_singleton.mp hlast
      exact hle range hrange
  refine ⟨hall, fun range s hbest => ?_⟩
  obtain ⟨hcounts, hwelcome, -, before, after, rfl, hfirst⟩ := h.prefers range s hbest
  subst hbest
  exact ⟨hcounts, hwelcome, hall, before, after ++ [t], by simp, hfirst⟩

theorem Stands.lead (h : Stands ranges seen best) (hcounts : Counts ranges t.mediaType range)
    (hlt : reached best < range.quality.amount) :
    Stands ranges (seen ++ [t]) (some (range, t)) := by
  have hless : ∀ u ∈ seen, ∀ other, Counts ranges u.mediaType other →
      other.quality.amount < range.quality.amount := by
    intro u hu other hother
    have := h.le u hu other hother
    omega
  have hall : ∀ u ∈ seen ++ [t], ∀ other, Counts ranges u.mediaType other →
      other.quality.amount ≤ range.quality.amount := by
    intro u hu other hother
    rcases List.mem_append.mp hu with hin | hlast
    · exact Nat.le_of_lt (hless u hin other hother)
    · obtain rfl := List.mem_singleton.mp hlast
      exact Nat.le_of_eq (by rw [hother.eq hcounts])
  refine ⟨hall, fun _ _ hbest => ?_⟩
  obtain ⟨rfl, rfl⟩ := Prod.mk.inj (Option.some.inj hbest)
  exact ⟨hcounts, by omega, hall, seen, [], rfl, hless⟩

variable (hnumbers : ∀ range ∈ ranges, range.quality ≠ .nan)
include hnumbers

theorem Stands.step (h : Stands ranges seen best) (t : Settings) :
    Stands ranges (seen ++ [t]) (better ranges best t) := by
  have hnumber {sofar : MediaRange} {s : Settings} (hbest : best = some (sofar, s)) :
      sofar.quality ≠ .nan := hnumbers sofar (h.prefers sofar s hbest).counts.mem
  rcases better_cases ranges best t with
    ⟨hkept, hreason⟩ | ⟨range, htaken, hcounts, hzero, hexceeds⟩
  · rw [hkept]
    refine h.pass fun range hcounts => ?_
    rcases hreason range hcounts with hzero | ⟨sofar, s, hbest, hexceeds⟩
    · rw [Quality.isZero_iff.mp hzero]
      exact Nat.zero_le _
    · have hiff := Quality.exceeds_iff (hnumbers range hcounts.mem) (hnumber hbest)
      have hle : range.quality.amount ≤ sofar.quality.amount := by simpa [hexceeds] using hiff
      rw [hbest]
      exact hle
  · rw [htaken]
    refine h.lead hcounts ?_
    cases hbest : best with
    | none => exact Quality.amount_pos (hnumbers range hcounts.mem) hzero
    | some pair =>
      obtain ⟨sofar, s⟩ := pair
      exact (Quality.exceeds_iff (hnumbers range hcounts.mem) (hnumber hbest)).mp
        (hexceeds sofar s hbest)

theorem stands_foldl (choices : List Settings) :
    Stands ranges choices (choices.foldl (better ranges) none) := by
  induction choices using List.reverseRecOn with
  | nil => exact ⟨nofun, nofun⟩
  | append_singleton choices t ih =>
    rw [List.foldl_append]
    exact ih.step hnumbers t

/-- Where all qualities are numbers the header finds the first of its most welcome types, unless
that is welcome only as any type is. -/
theorem fromAccept?_optimal (r : Registry) :
    (∀ s, r.fromAccept? ranges = some s →
      ∃ range, Prefers ranges r.choices range s ∧ range.kind ≠ "*") ∧
    (r.fromAccept? ranges = none →
      (∀ s ∈ r.choices, ∀ range, Counts ranges s.mediaType range → range.quality.amount = 0) ∨
        ∃ range s, Prefers ranges r.choices range s ∧
          ∀ other ∈ ranges, other.covers (essence s.mediaType) = true → other.kind = "*") := by
  have hstands := stands_foldl hnumbers r.choices
  unfold fromAccept?
  cases hfold : r.choices.foldl (better ranges) none with
  | none =>
    rw [hfold] at hstands
    refine ⟨nofun, fun _ => .inl fun s hs range hcounts => ?_⟩
    exact Nat.le_zero.mp (hstands.le s hs range hcounts)
  | some best =>
    obtain ⟨range, s⟩ := best
    have hprefers := hstands.prefers range s hfold
    dsimp only
    by_cases hany : range.kind = "*"
    · rw [if_pos (MediaRange.isAny_iff.mpr hany)]
      refine ⟨nofun, fun _ => .inr ⟨range, s, hprefers, fun other hother hcovers => ?_⟩⟩
      -- Nothing is more specific than the range that counts, and a range of any type is least so.
      have hle := hprefers.counts.le hother hcovers
      have hzero := MediaRange.specificity_eq_zero_iff.mpr hany
      exact MediaRange.specificity_eq_zero_iff.mp (by omega)
    · rw [if_neg (mt MediaRange.isAny_iff.mp hany)]
      refine ⟨fun chosen hchosen => ?_, nofun⟩
      obtain rfl := Option.some.inj hchosen
      exact ⟨range, hprefers, hany⟩

end Preference

/-- The entry for JSON counts against it, and of the types of XML, which are equally welcome, the
first is preferred. -/
theorem standard_fromAccept?_optimal :
    let ranges := MediaRange.parse "text/xml, application/xml, application/json;q=0"
    (∀ range ∈ ranges, range.quality ≠ .nan) ∧
      ∃ s range, standard.fromAccept? ranges = some s ∧
        s.mediaType = "application/xml; charset=UTF-8" ∧
        Prefers ranges standard.choices range s ∧ range.kind ≠ "*" := by
  intro ranges
  have hnumbers : ∀ range ∈ ranges, range.quality ≠ .nan := by decide +kernel
  have hfound : (standard.fromAccept? ranges).map (·.mediaType) =
      some "application/xml; charset=UTF-8" := by decide +kernel
  obtain ⟨s, haccept, htype⟩ := Option.map_eq_some_iff.mp hfound
  obtain ⟨range, hprefers, hkind⟩ := (fromAccept?_optimal hnumbers standard).1 s haccept
  exact ⟨hnumbers, s, range, haccept, htype, hprefers, hkind⟩

end Registry

end Switchboard
