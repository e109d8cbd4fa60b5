import Switchboard.Format.Negotiation

namespace Switchboard

/-- The list names a token of the serializer. -/
def FormatPolicy.Lists (p : FormatPolicy) (s : Serializer) : Prop :=
  ∃ token ∈ s.formats, token ∈ p.supported

instance (p : FormatPolicy) (s : Serializer) : Decidable (p.Lists s) :=
  inferInstanceAs (Decidable (∃ token ∈ s.formats, token ∈ p.supported))

theorem FormatPolicy.allows_iff_mem {p : FormatPolicy} (hp : p.supported ≠ []) (token : String) :
    p.allows token = true ↔ token ∈ p.supported := by
  simp [allows, hp]

theorem Serializer.isAllowed_iff_lists {p : FormatPolicy} (hp : p.supported ≠ [])
    (s : Serializer) : s.isAllowed (some p) = true ↔ p.Lists s := by
  unfold isAllowed FormatPolicy.Lists
  rw [Option.all_some, List.any_eq_true]
  simp only [FormatPolicy.allows_iff_mem hp]

namespace Registry

variable {r : Registry} {s : Settings} {policy : Option FormatPolicy} {ranges : List MediaRange}

theorem restrict_eq_ok_iff {t : Settings} {allowed : Bool} :
    (r.restrict t allowed policy false).result = .ok s ↔ t = s ∧ allowed = true := by
  unfold restrict
  cases allowed <;> simp [Logged.silent]

theorem mem_formats_of_forFormat? {token : String} (h : r.forFormat? token = some s) :
    Text.lowercase token ∈ s.serializer.formats := by
  obtain ⟨entry, hentry, hprimary⟩ := Option.bind_eq_some_iff.mp h
  obtain ⟨m, -, rfl⟩ := Option.map_eq_some_iff.mp hprimary
  have hfound := List.find?_some hentry
  exact List.contains_iff_mem.mp hfound

theorem isAllowed_of_firstAcceptable? (h : r.firstAcceptable? ranges policy = some s) :
    s.serializer.isAllowed policy = true := by
  have hfound := List.find?_some h
  simp only [Bool.and_eq_true] at hfound
  exact hfound.1.1

theorem forRequested_eq_ok_iff {token : String} :
    (r.forRequested token policy false).result = .ok s ↔
      r.forFormat? token = some s ∧ policy.all (·.allows token) = true := by
  unfold forRequested
  cases r.forFormat? token with
  | none => simp [Logged.silent]
  | some t =>
    dsimp only
    rw [restrict_eq_ok_iff, Option.some.injEq]

theorem unlessExcluded_eq_ok_iff {d : Settings} :
    r.unlessExcluded ranges policy false d = .ok s ↔
      (d = s ∧ MediaRange.excludes ranges d.mediaType = false) ∨
      (r.firstAcceptable? ranges policy = some s ∧
        MediaRange.excludes ranges d.mediaType = true) := by
  unfold unlessExcluded
  cases MediaRange.excludes ranges d.mediaType with
  | false => simp
  | true => cases r.firstAcceptable? ranges policy <;> simp

/-- Without a token, settings come from the `Accept` header, from the defaults, or from what the
header leaves where it rules the default out. -/
theorem forRanges_eq_ok_iff :
    (r.forRanges ranges policy false).result = .ok s ↔
      (r.fromAccept? ranges = some s ∧ s.serializer.isAllowed policy = true) ∨
      (r.fromAccept? ranges = none ∧ ∃ d, r.defaultFor? policy = some d ∧
        r.unlessExcluded ranges policy false d = .ok s) := by
  unfold forRanges
  cases r.fromAccept? ranges with
  | some t =>
    dsimp only
    rw [restrict_eq_ok_iff]
    constructor
    · rintro ⟨rfl, hallowed⟩
      exact .inl ⟨rfl, hallowed⟩
    · rintro (⟨heq, hallowed⟩ | ⟨heq, -⟩)
      · cases heq
        exact ⟨rfl, hallowed⟩
      · cases heq
  | none =>
    dsimp only
    rw [result_fallback]
    cases r.defaultFor? policy <;> simp [Except.bind]

/-- Settings that serve nothing on the route's list are chosen in two cases: a token in other than
lower case is on the list and asks for them, or nothing asks for a format and they are the default of
the route or of the service. -/
theorem resolve_unlisted_iff {p : FormatPolicy} (hp : p.supported ≠ []) (r : Registry)
    (request : Request) (s : Settings) :
    (r.resolve request (some p) false).result = .ok s ∧ ¬p.Lists s.serializer ↔
      ((∃ token, request.requestedFormat? = some token ∧ r.forFormat? token = some s ∧
          token ∈ p.supported ∧ Text.lowercase token ≠ token) ∨
        (request.requestedFormat? = none ∧ r.fromAccept? request.acceptRanges = none ∧
          r.defaultFor? (some p) = some s ∧
          MediaRange.excludes request.acceptRanges s.mediaType = false)) ∧
      ¬p.Lists s.serializer := by
  refine and_congr_left fun hs => ?_
  unfold resolve
  cases request.requestedFormat? with
  | some token =>
    dsimp only
    rw [forRequested_eq_ok_iff, Option.all_some, FormatPolicy.allows_iff_mem hp]
    constructor
    · rintro ⟨hfound, hlisted⟩
      refine .inl ⟨token, rfl, hfound, hlisted, fun hlower => hs ?_⟩
      exact ⟨token, hlower ▸ mem_formats_of_forFormat? hfound, hlisted⟩
    · rintro (⟨_, heq, hfound, hlisted, -⟩ | ⟨heq, -⟩)
      · cases heq
        exact ⟨hfound, hlisted⟩
      · cases heq
  | none =>
    dsimp only
    rw [forRanges_eq_ok_iff]
    constructor
    · rintro (⟨-, hallowed⟩ | ⟨hnone, d, hdefault, hchosen⟩)
      · exact absurd ((Serializer.isAllowed_iff_lists hp _).mp hallowed) hs
      · rcases unlessExcluded_eq_ok_iff.mp hchosen with ⟨rfl, hwelcome⟩ | ⟨hfirst, -⟩
        · exact .inr ⟨rfl, hnone, hdefault, hwelcome⟩
        · have hallowed := isAllowed_of_firstAcceptable? hfirst
          exact absurd ((Serializer.isAllowed_iff_lists hp _).mp hallowed) hs
    · rintro (⟨_, heq, -⟩ | ⟨-, hnone, hdefault, hwelcome⟩)
      · cases heq
      · exact .inr ⟨hnone, s, hdefault, unlessExcluded_eq_ok_iff.mpr (.inl ⟨rfl, hwelcome⟩)⟩

/-- A request that asks for nothing gets JSON from a route that answers in XML only. -/
theorem standard_resolve_unlisted :
    let policy : FormatPolicy := { supported := ["xml"] }
    let json : Settings := ⟨"application/json; charset=UTF-8", .json, 0⟩
    policy.supported ≠ [] ∧
      (standard.resolve (.ofTarget .get ⟨"/x", none⟩) (some policy) false).result = .ok json ∧
      ¬policy.Lists json.serializer := by
  refine ⟨List.cons_ne_nil _ _, (resolve_unlisted_iff (List.cons_ne_nil _ _) _ _ _).mpr ⟨?_, ?_⟩⟩
  · exact .inr ⟨rfl, rfl, rfl, rfl⟩
  · decide

end Registry

end Switchboard
