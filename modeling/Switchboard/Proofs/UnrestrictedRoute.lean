import Switchboard.Proofs.AcceptPreference
import Switchboard.Proofs.ForcedChoice

namespace Switchboard

theorem Serializer.isAllowed_unlisted_iff {s : Serializer} :
    s.isAllowed (some {}) = true ↔ s.formats ≠ [] := by
  unfold isAllowed FormatPolicy.allows
  cases s.formats <;> simp

/-- A search that asks for more comes to the same exactly if what is found passes that too. -/
theorem find?_and_eq_iff {α : Type} (p q : α → Bool) (xs : List α) :
    (xs.find? fun x => p x && q x) = xs.find? q ↔
      ∀ x, xs.find? q = some x → p x = true := by
  constructor
  · intro hsame x hx
    have hboth := List.find?_some (hsame.trans hx)
    rw [Bool.and_eq_true] at hboth
    exact hboth.1
  · intro hpassed
    cases hfound : xs.find? q with
    | none =>
      rw [List.find?_eq_none] at hfound ⊢
      intro x hx
      simp [hfound x hx]
    | some x =>
      obtain ⟨hx, before, after, hsplit, hbefore⟩ := List.find?_eq_some_iff_append.mp hfound
      refine List.find?_eq_some_iff_append.mpr ⟨?_, before, after, hsplit, fun y hy => ?_⟩
      · rw [hpassed x hfound, hx]
        rfl
      · have hnot : q y = false := by simpa using hbefore y hy
        rw [hnot, Bool.and_false]
        rfl

namespace Registry

variable {r : Registry} {ranges : List MediaRange} {policy : Option FormatPolicy} {force : Bool}
  {d s : Settings}

theorem forRequested_unlisted {token : String} :
    r.forRequested token (some {}) force = r.forRequested token none force := by
  unfold forRequested
  cases r.forFormat? token <;> rfl

theorem firstAcceptable?_eq_iff :
    r.firstAcceptable? ranges policy = r.firstAcceptable? ranges none ↔
      ∀ t, r.firstAcceptable? ranges none = some t → t.serializer.isAllowed policy = true := by
  unfold firstAcceptable?
  simp only [Bool.and_assoc]
  exact find?_and_eq_iff (fun t => t.serializer.isAllowed policy) _ r.choices

theorem restrict_eq_ok_self_iff {allowed : Bool} :
    (r.restrict s allowed policy force).result = .ok s ↔
      allowed = true ∨ (force = true ∧ r.defaultFor? policy = some s) := by
  rw [← toOption_eq_some_iff, toOption_restrict]
  exact (filter_or_eq_iff (b := true)).trans (or_congr_right Option.ite_none_right_eq_some)

theorem defaultFor?_none : r.defaultFor? none = r.default? := rfl

theorem defaultFor?_unlisted : r.defaultFor? (some {}) = r.default? := rfl

/-- Where the default is ruled out, two policies come to the same exactly if they find the same
instead. -/
theorem unlessExcluded_eq_iff {other : Option FormatPolicy} :
    r.unlessExcluded ranges policy force d = r.unlessExcluded ranges other force d ↔
      force = true ∨ MediaRange.excludes ranges d.mediaType = false ∨
        r.firstAcceptable? ranges policy = r.firstAcceptable? ranges other := by
  unfold unlessExcluded
  cases force with
  | true => exact iff_of_true rfl (.inl rfl)
  | false =>
    cases MediaRange.excludes ranges d.mediaType with
    | false => exact iff_of_true rfl (.inr (.inl rfl))
    | true =>
      cases r.firstAcceptable? ranges policy <;> cases r.firstAcceptable? ranges other <;> simp

theorem unlessExcluded_unlisted_iff :
    r.unlessExcluded ranges (some {}) force d = r.unlessExcluded ranges none force d ↔
      ∀ s, r.unlessExcluded ranges none force d = .ok s → s.serializer.formats = [] → s = d := by
  rw [unlessExcluded_eq_iff, firstAcceptable?_eq_iff, ← or_assoc]
  simp only [Serializer.isAllowed_unlisted_iff]
  by_cases hkept : force = true ∨ MediaRange.excludes ranges d.mediaType = false
  · have hd : r.unlessExcluded ranges none force d = .ok d := by
      unfold unlessExcluded
      exact if_pos (by simpa using hkept)
    rw [hd]
    exact iff_of_true (.inl hkept) fun s hs _ => (Except.ok.inj hs).symm
  · obtain ⟨hforce, hexcluded⟩ := not_or.mp hkept
    obtain rfl := eq_false_of_ne_true hforce
    have hexcludes := eq_true_of_ne_false hexcluded
    constructor
    · intro hnamed s hs hformats
      rcases unlessExcluded_eq_ok_iff.mp hs with ⟨-, hwelcome⟩ | ⟨hfirst, -⟩
      · exact absurd hwelcome hexcluded
      · exact absurd hformats (hnamed.resolve_left hkept s hfirst)
    · refine fun hall => .inr fun t hfirst hformats => ?_
      -- What is welcome instead of the default is not the default, which is ruled out.
      obtain rfl := hall t (unlessExcluded_eq_ok_iff.mpr (.inr ⟨hfirst, hexcludes⟩)) hformats
      exact hexcluded (excludes_of_firstAcceptable? hfirst)

/-- Without a token in the request a route without a list treats one serializer in a way of its own:
that which is chosen without a route, if it has no token. -/
theorem forRanges_unlisted_iff :
    (r.forRanges ranges (some {}) force).result = (r.forRanges ranges none force).result ↔
      ∀ s, (r.forRanges ranges none force).result = .ok s → s.serializer.formats = [] →
        r.default? = some s ∧ (force = true ∨ r.fromAccept? ranges = none) := by
  unfold forRanges
  cases haccept : r.fromAccept? ranges with
  | some t =>
    have hchosen : (r.restrict t (t.serializer.isAllowed none) none force).result = .ok t := rfl
    dsimp only
    rw [hchosen, restrict_eq_ok_self_iff, Serializer.isAllowed_unlisted_iff]
    constructor
    · intro hsame s hs hformats
      obtain rfl := Except.ok.inj hs
      obtain ⟨hforce, hdefault⟩ := hsame.resolve_left (absurd hformats)
      exact ⟨hdefault, .inl hforce⟩
    · intro hall
      by_cases hformats : t.serializer.formats = []
      · obtain ⟨hdefault, hforce⟩ := hall t rfl hformats
        exact .inr ⟨hforce.resolve_right nofun, hdefault⟩
      · exact .inl hformats
  | none =>
    dsimp only
    rw [result_fallback, result_fallback, defaultFor?_unlisted, defaultFor?_none]
    cases r.default? with
    | none => exact iff_of_true rfl nofun
    | some d =>
      refine unlessExcluded_unlisted_iff.trans (forall_congr' fun s => ?_)
      refine imp_congr_right fun _ => imp_congr_right fun _ => ?_
      simp [eq_comm]

/-- A route that lists no formats and names no default comes to the same as no route, unless the
`Accept` header is what decides for a serializer without a token. Even then a forced choice comes to
the same where that serializer is the default too. -/
theorem resolve_unlisted_eq_iff (r : Registry) (request : Request) (force : Bool) :
    (r.resolve request (some { supported := [], default := none }) force).result =
        (r.resolve request none force).result ↔
      ∀ s, (r.resolve request none force).result = .ok s →
        request.requestedFormat? = none → s.serializer.formats = [] →
          r.default? = some s ∧ (force = true ∨ r.fromAccept? request.acceptRanges = none) := by
  unfold resolve
  cases request.requestedFormat? with
  | some token => exact iff_of_true (congrArg Logged.result forRequested_unlisted) nofun
  | none =>
    dsimp only
    rw [forRanges_unlisted_iff]
    simp only [true_imp_iff]

/-- A serializer that is asked for by its media type only. -/
def nameless : Serializer := { Serializer.json with formats := [], mediaTypes := ["text/csv"] }

/-- A route that lists no formats refuses a serializer without a token that is asked for. -/
theorem nameless_refused :
    let r : Registry := { serializers := [nameless] }
    (r.resolve (accepting "text/csv") (some { supported := [], default := none }) false).result ≠
      (r.resolve (accepting "text/csv") none false).result := by
  intro r hsame
  have hfound : (r.fromAccept? (accepting "text/csv").acceptRanges).map (·.serializer.formats) =
      some [] := by decide +kernel
  obtain ⟨s, haccept, hformats⟩ := Option.map_eq_some_iff.mp hfound
  have hfree : (accepting "text/csv").requestedFormat? = none := rfl
  have hchosen : (r.resolve (accepting "text/csv") none false).result = .ok s := by
    unfold resolve
    rw [hfree]
    exact forRanges_eq_ok_iff.mpr (.inl ⟨haccept, rfl⟩)
  obtain ⟨-, hforce | hnone⟩ :=
    (resolve_unlisted_eq_iff r _ false).mp hsame s hchosen hfree hformats
  · cases hforce
  · rw [haccept] at hnone
    cases hnone

end Registry

end Switchboard
