import Switchboard.Proofs.AcceptedFormats

namespace Switchboard

namespace MediaRange

/-- Of the ranges that cover the media type none is more specific, and none behind this one is as
specific. -/
structure Counts (ranges : List MediaRange) (mediaType : String) (range : MediaRange) : Prop where
  covers : range.covers (essence mediaType) = true
  place : ∃ before after, ranges = before ++ range :: after ∧
    (∀ other ∈ before, other.covers (essence mediaType) = true →
      other.specificity ≤ range.specificity) ∧
    ∀ other ∈ after, other.covers (essence mediaType) = true →
      other.specificity < range.specificity

section Search

variable {ranges : List MediaRange} {mediaType : String} {range : MediaRange}

theorem mostSpecific?_eq_none (h : mostSpecific? ranges = none) : ranges = [] := by
  cases ranges with
  | nil => rfl
  | cons first rest =>
    rw [mostSpecific?] at h
    split at h
    next => cases h
    next => split at h <;> cases h

theorem split_of_mostSpecific? (h : mostSpecific? ranges = some range) :
    ∃ before after, ranges = before ++ range :: after ∧
      (∀ other ∈ before, other.specificity ≤ range.specificity) ∧
      ∀ other ∈ after, other.specificity < range.specificity := by
  induction ranges generalizing range with
  | nil => cases h
  | cons first rest ih =>
    rw [mostSpecific?] at h
    cases hbest : mostSpecific? rest with
    | none =>
      rw [hbest] at h
      obtain rfl := Option.some.inj h
      obtain rfl := mostSpecific?_eq_none hbest
      exact ⟨[], [], rfl, nofun, nofun⟩
    | some best =>
      rw [hbest] at h
      obtain ⟨before, after, rfl, hbefore, hafter⟩ := ih hbest
      -- A tie goes to the later range, so the first is kept only if it is strictly more specific.
      by_cases hless : best.specificity < first.specificity
      · obtain rfl : first = range := by simpa [hless] using h
        refine ⟨[], _, rfl, nofun, fun other hother => ?_⟩
        rcases List.mem_append.mp hother with hin | hin
        · have := hbefore other hin
          omega
        · rcases List.mem_cons.mp hin with rfl | hin
          · exact hless
          · have := hafter other hin
            omega
      · obtain rfl : best = range := by simpa [hless] using h
        refine ⟨first :: before, after, rfl, fun other hother => ?_, hafter⟩
        rcases List.mem_cons.mp hother with rfl | hin
        · omega
        · exact hbefore other hin

theorem mostSpecific?_of_split {before after : List MediaRange}
    (hbefore : ∀ other ∈ before, other.specificity ≤ range.specificity)
    (hafter : ∀ other ∈ after, other.specificity < range.specificity) :
    mostSpecific? (before ++ range :: after) = some range := by
  induction before with
  | nil =>
    rw [List.nil_append, mostSpecific?]
    cases hbest : mostSpecific? after with
    | none => rfl
    | some best =>
      obtain ⟨earlier, later, hsplit, -, -⟩ := split_of_mostSpecific? hbest
      have hmem : best ∈ after := by rw [hsplit]; simp
      exact if_pos (hafter best hmem)
  | cons other before ih =>
    have hrest := ih fun earlier hearlier => hbefore earlier (List.mem_cons_of_mem _ hearlier)
    have hle := hbefore other (List.mem_cons_self ..)
    rw [List.cons_append, mostSpecific?, hrest]
    exact if_neg (Nat.not_lt.mpr hle)

theorem best?_eq_some_iff :
    best? ranges mediaType = some range ↔ Counts ranges mediaType range := by
  unfold best?
  constructor
  · intro h
    obtain ⟨before, after, hfilter, hbefore, hafter⟩ := split_of_mostSpecific? h
    obtain ⟨first, second, rfl, rfl, hsecond⟩ := List.filter_eq_append_iff.mp hfilter
    obtain ⟨skipped, rest, rfl, hskipped, hcovers, rfl⟩ := List.filter_eq_cons_iff.mp hsecond
    refine ⟨hcovers, first ++ skipped, rest, by rw [List.append_assoc], ?_, ?_⟩
    · intro other hother hcovered
      rcases List.mem_append.mp hother with hin | hin
      · exact hbefore other (List.mem_filter.mpr ⟨hin, hcovered⟩)
      · exact absurd hcovered (hskipped other hin)
    · intro other hother hcovered
      exact hafter other (List.mem_filter.mpr ⟨hother, hcovered⟩)
  · rintro ⟨hcovers, before, after, rfl, hbefore, hafter⟩
    rw [List.filter_append, List.filter_cons, if_pos hcovers]
    apply mostSpecific?_of_split
    · intro other hother
      obtain ⟨hin, hcovered⟩ := List.mem_filter.mp hother
      exact hbefore other hin hcovered
    · intro other hother
      obtain ⟨hin, hcovered⟩ := List.mem_filter.mp hother
      exact hafter other hin hcovered

theorem Counts.mem (h : Counts ranges mediaType range) : range ∈ ranges := by
  obtain ⟨before, after, rfl, -, -⟩ := h.place
  exact List.mem_append_right _ (List.mem_cons_self ..)

theorem Counts.le (h : Counts ranges mediaType range) {other : MediaRange} (hother : other ∈ ranges)
    (hcovers : other.covers (essence mediaType) = true) :
    other.specificity ≤ range.specificity := by
  obtain ⟨before, after, rfl, hbefore, hafter⟩ := h.place
  rcases List.mem_append.mp hother with hin | hin
  · exact hbefore other hin hcovers
  · rcases List.mem_cons.mp hin with rfl | hin
    · exact Nat.le_refl _
    · exact Nat.le_of_lt (hafter other hin hcovers)

theorem Counts.eq {other : MediaRange} (h : Counts ranges mediaType range)
    (hother : Counts ranges mediaType other) : range = other :=
  Option.some.inj ((best?_eq_some_iff.mpr h).symm.trans (best?_eq_some_iff.mpr hother))

end Search

/-- Ranges of any type, of one type with any subtype, or of one type and subtype, all different. -/
structure Distinct (ranges : List MediaRange) : Prop where
  forms : ∀ range ∈ ranges, range.kind = "*" → range.subtype = "*"
  different : ranges.Pairwise fun a b => a.kind ≠ b.kind ∨ a.subtype ≠ b.subtype

theorem covers_iff {range : MediaRange} {essence : String} :
    range.covers essence = true ↔
      ∃ kind subtype, Text.cut? '/' essence.toList = some (kind, subtype) ∧
        (range.kind = "*" ∨ range.kind = String.ofList kind) ∧
        (range.subtype = "*" ∨ range.subtype = String.ofList subtype) := by
  unfold covers
  cases Text.cut? '/' essence.toList with
  | none => simp
  | some parts =>
    constructor
    · intro h
      exact ⟨parts.1, parts.2, rfl, by simpa using h⟩
    · rintro ⟨kind, subtype, hcut, h⟩
      obtain rfl := Option.some.inj hcut
      simpa using h

theorem isAny_iff {range : MediaRange} : range.isAny = true ↔ range.kind = "*" := beq_iff_eq

theorem specificity_eq_zero_iff {range : MediaRange} :
    range.specificity = 0 ↔ range.kind = "*" := by
  unfold specificity
  split
  next hany => simp [hany]
  next hany => split <;> simp [hany]

theorem specificity_eq_one_iff {range : MediaRange} (h : range.kind ≠ "*") :
    range.specificity = 1 ↔ range.subtype = "*" := by
  unfold specificity
  rw [if_neg h]
  split
  next hwild => simp [hwild]
  next hwild => simp [hwild]

theorem same_of_covers {a b : MediaRange} {essence : String}
    (ha : a.kind = "*" → a.subtype = "*") (hb : b.kind = "*" → b.subtype = "*")
    (hcovers : a.covers essence = true) (hcovered : b.covers essence = true)
    (hspecific : a.specificity = b.specificity) : a.kind = b.kind ∧ a.subtype = b.subtype := by
  obtain ⟨kind, subtype, hcut, hakind, hasubtype⟩ := covers_iff.mp hcovers
  obtain ⟨other, others, hcuts, hbkind, hbsubtype⟩ := covers_iff.mp hcovered
  obtain ⟨rfl, rfl⟩ := Prod.mk.inj (Option.some.inj (hcuts.symm.trans hcut))
  have hkinds : a.kind = "*" ↔ b.kind = "*" := by
    rw [← specificity_eq_zero_iff, hspecific, specificity_eq_zero_iff]
  by_cases hany : a.kind = "*"
  · have hany' := hkinds.mp hany
    exact ⟨hany.trans hany'.symm, (ha hany).trans (hb hany').symm⟩
  · have hany' : b.kind ≠ "*" := fun h => hany (hkinds.mpr h)
    have hsubtypes : a.subtype = "*" ↔ b.subtype = "*" := by
      rw [← specificity_eq_one_iff hany, hspecific, specificity_eq_one_iff hany']
    refine ⟨(hakind.resolve_left hany).trans (hbkind.resolve_left hany').symm, ?_⟩
    by_cases hwild : a.subtype = "*"
    · exact hwild.trans (hsubtypes.mp hwild).symm
    · have hwild' : b.subtype ≠ "*" := fun h => hwild (hsubtypes.mpr h)
      exact (hasubtype.resolve_left hwild).trans (hbsubtype.resolve_left hwild').symm

section Order

variable {ranges permuted : List MediaRange} {mediaType : String} {range : MediaRange}

theorem Distinct.perm (h : Distinct ranges) (hperm : ranges.Perm permuted) :
    Distinct permuted where
  forms other hother := h.forms other (hperm.mem_iff.mpr hother)
  different := (hperm.pairwise_iff fun hab => hab.imp Ne.symm Ne.symm).mp h.different

/-- Among ranges that are all different, no range has to stand behind another to count. -/
theorem Distinct.counts_iff (h : Distinct ranges) :
    Counts ranges mediaType range ↔
      range ∈ ranges ∧ range.covers (essence mediaType) = true ∧
        ∀ other ∈ ranges, other.covers (essence mediaType) = true →
          other.specificity ≤ range.specificity := by
  constructor
  · intro hcounts
    exact ⟨hcounts.mem, hcounts.covers, fun other hother => hcounts.le hother⟩
  · rintro ⟨hmem, hcovers, hgreatest⟩
    obtain ⟨before, after, rfl⟩ := List.append_of_mem hmem
    refine ⟨hcovers, before, after, rfl, fun other hother => ?_, fun other hother hcovered => ?_⟩
    · exact hgreatest other (List.mem_append_left _ hother)
    · have hin : other ∈ before ++ range :: after := by simp [hother]
      have hle := hgreatest other hin hcovered
      have hne : other.specificity ≠ range.specificity := by
        -- An equally specific one would be for the same types, and no two of the ranges are.
        intro hspecific
        obtain ⟨hkind, hsubtype⟩ := same_of_covers (h.forms other hin) (h.forms range hmem)
          hcovered hcovers hspecific
        have hbehind := (List.pairwise_append.mp h.different).2.1
        rcases (List.pairwise_cons.mp hbehind).1 other hother with hother | hother
        · exact hother hkind.symm
        · exact hother hsubtype.symm
      omega

theorem Distinct.best?_perm (h : Distinct ranges) (hperm : ranges.Perm permuted) :
    best? permuted = best? ranges := by
  funext mediaType
  ext range
  rw [best?_eq_some_iff, best?_eq_some_iff, h.counts_iff, (h.perm hperm).counts_iff]
  simp only [hperm.mem_iff]

end Order

end MediaRange

namespace Registry

variable {r : Registry} {ranges permuted : List MediaRange}

section Alike

variable (h : MediaRange.best? permuted = MediaRange.best? ranges)
include h

theorem fromAccept?_congr : r.fromAccept? permuted = r.fromAccept? ranges := by
  have hbetter : better permuted = better ranges := by
    funext best settings
    unfold better
    rw [h]
  unfold fromAccept?
  rw [hbetter]

theorem excludes_congr : MediaRange.excludes permuted = MediaRange.excludes ranges := by
  funext mediaType
  unfold MediaRange.excludes
  rw [h]

theorem firstAcceptable?_congr (policy : Option FormatPolicy) :
    r.firstAcceptable? permuted policy = r.firstAcceptable? ranges policy := by
  have hwelcomes : MediaRange.welcomes permuted = MediaRange.welcomes ranges := by
    funext mediaType
    unfold MediaRange.welcomes
    rw [h]
  unfold firstAcceptable?
  rw [excludes_congr h, hwelcomes]

theorem forRanges_congr (policy : Option FormatPolicy) (force : Bool) :
    r.forRanges permuted policy force = r.forRanges ranges policy force := by
  have hdefault : r.unlessExcluded permuted policy force =
      r.unlessExcluded ranges policy force := by
    funext default
    unfold unlessExcluded
    rw [excludes_congr h, firstAcceptable?_congr h]
  unfold forRanges
  rw [fromAccept?_congr h, hdefault]

end Alike

end Registry

namespace Request

/-- What stands between the commas of the `Accept` header, if it can be read. -/
def acceptEntries (r : Request) : List (List Char) :=
  ((r.headers.text? .accept).map fun accept => Text.pieces ',' accept.toList).getD []

theorem acceptRanges_eq (r : Request) :
    r.acceptRanges = r.acceptEntries.filterMap MediaRange.ofEntry? := by
  unfold acceptRanges acceptEntries
  cases r.headers.text? .accept <;> rfl

end Request

namespace Registry

/-- A header whose ranges are all different says the same whatever the order of its entries. -/
theorem resolve_of_permuted {r : Registry} {request other : Request}
    (hfree : request.requestedFormat? = none) (hfree' : other.requestedFormat? = none)
    (hdistinct : MediaRange.Distinct request.acceptRanges)
    (hperm : request.acceptEntries.Perm other.acceptEntries) (policy : Option FormatPolicy)
    (force : Bool) : r.resolve request policy force = r.resolve other policy force := by
  have hranges : request.acceptRanges.Perm other.acceptRanges := by
    rw [request.acceptRanges_eq, other.acceptRanges_eq]
    exact hperm.filterMap MediaRange.ofEntry?
  unfold resolve
  rw [hfree, hfree']
  exact (forRanges_congr (hdistinct.best?_perm hranges) policy force).symm

/-- Entries that are no ranges may change places too. -/
theorem standard_resolve_of_permuted :
    let request := accepting "application/json;q=0,nonsense,*/*;q=0.1,text/xml;q=0.05"
    let other := accepting "text/xml;q=0.05,*/*;q=0.1,application/json;q=0,nonsense"
    request.requestedFormat? = none ∧ other.requestedFormat? = none ∧
      MediaRange.Distinct request.acceptRanges ∧
      request.acceptEntries.Perm other.acceptEntries ∧
      standard.resolve request none false = standard.resolve other none false := by
  intro request other
  have hdistinct : MediaRange.Distinct request.acceptRanges :=
    ⟨by decide +kernel, by decide +kernel⟩
  have hperm : request.acceptEntries.Perm other.acceptEntries := by decide +kernel
  exact ⟨rfl, rfl, hdistinct, hperm, resolve_of_permuted rfl rfl hdistinct hperm none false⟩

end Registry

end Switchboard
