import Switchboard.Proofs.FormatList

namespace Switchboard

/-- The route answers in a format of the serializer: it lists none at all, or one of its tokens. -/
def FormatPolicy.Admits (p : FormatPolicy) (s : Serializer) : Prop :=
  p.supported = [] ∨ p.Lists s

theorem Serializer.isAllowed_iff_admits {p : FormatPolicy} {s : Serializer}
    (h : p.supported = [] → s.formats ≠ []) : s.isAllowed (some p) = true ↔ p.Admits s := by
  unfold FormatPolicy.Admits
  by_cases hp : p.supported = []
  · obtain ⟨token, htoken⟩ := List.exists_mem_of_ne_nil _ (h hp)
    have hallowed : s.isAllowed (some p) = true := by
      unfold isAllowed FormatPolicy.allows
      rw [Option.all_some, List.any_eq_true]
      exact ⟨token, htoken, by rw [hp]; rfl⟩
    exact iff_of_true hallowed (.inl hp)
  · rw [isAllowed_iff_lists hp]
    exact ⟨.inr, fun hadmits => hadmits.resolve_left hp⟩

theorem Quality.isZero_of_isPositive {q : Quality} (h : q.isPositive = true) :
    q.isZero = false := by
  cases q with
  | nan => rfl
  | units n =>
    have hpositive : 0 < n := by simpa [isPositive] using h
    simpa [isZero] using Nat.ne_of_gt hpositive

theorem MediaRange.excludes_of_welcomes {ranges : List MediaRange} {mediaType : String}
    (h : welcomes ranges mediaType = true) : excludes ranges mediaType = false := by
  unfold welcomes at h
  unfold excludes
  cases hbest : best? ranges mediaType with
  | none => rfl
  | some range =>
    rw [hbest] at h
    exact Quality.isZero_of_isPositive h

namespace Registry

variable {r : Registry} {ranges : List MediaRange} {t : Settings}

theorem mem_choices_iff :
    t ∈ r.choices ↔
      r.serializers[t.slot]? = some t.serializer ∧ t.mediaType ∈ t.serializer.mediaTypes := by
  unfold choices
  rw [List.mem_flatMap]
  constructor
  · rintro ⟨⟨s, slot⟩, hentry, ht⟩
    obtain ⟨m, hm, rfl⟩ := List.mem_map.mp ht
    exact ⟨List.mk_mem_zipIdx_iff_getElem?.mp hentry, hm⟩
  · rintro ⟨hslot, hm⟩
    exact ⟨(t.serializer, t.slot), List.mk_mem_zipIdx_iff_getElem?.mpr hslot,
      List.mem_map.mpr ⟨t.mediaType, hm, rfl⟩⟩

theorem exists_firstAcceptable? {policy : Option FormatPolicy} {s : Serializer} {m : String}
    (hs : s ∈ r.serializers) (hallowed : s.isAllowed policy = true)
    (hm : s.mediaTypes.head? = some m) (hwelcome : MediaRange.welcomes ranges m = true) :
    ∃ chosen, r.firstAcceptable? ranges policy = some chosen := by
  obtain ⟨slot, hslot⟩ := List.mem_iff_getElem?.mp hs
  have hchoice : ⟨m, s, slot⟩ ∈ r.choices := mem_choices_iff.mpr ⟨hslot, List.mem_of_head? hm⟩
  have hfound : (r.firstAcceptable? ranges policy).isSome = true := by
    refine List.find?_isSome.mpr ⟨_, hchoice, ?_⟩
    rw [hallowed, hm, Option.all_some, MediaRange.excludes_of_welcomes hwelcome, hwelcome]
    rfl
  exact Option.isSome_iff_exists.mp hfound

section Kinds

variable {policy : Option FormatPolicy} {force : Bool} {e : ServiceError}

theorem kind_of_fallback (h : (r.fallback policy).result = .error e) :
    e.kind = .notAcceptable := by
  rw [result_fallback] at h
  split at h
  next => cases h
  next =>
    obtain rfl := Except.error.inj h
    rfl

theorem kind_of_restrict {allowed : Bool}
    (h : (r.restrict t allowed policy force).result = .error e) : e.kind = .notAcceptable := by
  unfold restrict at h
  split at h
  next => cases h
  next =>
    split at h
    next => exact kind_of_fallback h
    next =>
      obtain rfl := Except.error.inj h
      rfl

theorem kind_of_unlessExcluded (h : r.unlessExcluded ranges policy force t = .error e) :
    e.kind = .notAcceptable := by
  unfold unlessExcluded at h
  split at h
  next => cases h
  next =>
    split at h
    next => cases h
    next =>
      obtain rfl := Except.error.inj h
      rfl

theorem kind_of_forRanges (h : (r.forRanges ranges policy force).result = .error e) :
    e.kind = .notAcceptable := by
  unfold forRanges at h
  split at h
  next => exact kind_of_restrict h
  next =>
    dsimp only at h
    cases hdefault : (r.fallback policy).result with
    | error other =>
      rw [hdefault] at h
      obtain rfl := Except.error.inj h
      exact kind_of_fallback hdefault
    | ok d =>
      rw [hdefault] at h
      exact kind_of_unlessExcluded h

end Kinds

/-- Of the types that the route serves a welcome one is enough, but only if the header prefers none
that the route does not serve. -/
theorem resolve_ok_iff_of_welcome {p : FormatPolicy} {request : Request} {s : Serializer}
    {m : String}
    (hfree : request.requestedFormat? = none) (hs : s ∈ r.serializers) (hadmits : p.Admits s)
    (hm : s.mediaTypes.head? = some m)
    (hwelcome : MediaRange.welcomes request.acceptRanges m = true)
    (htoken : p.supported = [] → s.formats ≠ [])
    (htokens : p.supported = [] →
      ∀ t, r.fromAccept? request.acceptRanges = some t → t.serializer.formats ≠ [])
    (hdefault : r.defaultFor? (some p) ≠ none) :
    ((∃ chosen, (r.resolve request (some p) false).result = .ok chosen) ↔
      ∀ t, r.fromAccept? request.acceptRanges = some t → p.Admits t.serializer) ∧
    ∀ e, (r.resolve request (some p) false).result = .error e → e.kind = .notAcceptable := by
  have hresolve : r.resolve request (some p) false =
      r.forRanges request.acceptRanges (some p) false := by
    unfold resolve
    rw [hfree]
  have hallowed {t : Settings} (ht : r.fromAccept? request.acceptRanges = some t) :
      t.serializer.isAllowed (some p) = true ↔ p.Admits t.serializer :=
    Serializer.isAllowed_iff_admits fun hlist => htokens hlist t ht
  rw [hresolve]
  refine ⟨⟨?_, ?_⟩, fun e => kind_of_forRanges⟩
  · rintro ⟨chosen, hchosen⟩ t ht
    rcases forRanges_eq_ok_iff.mp hchosen with ⟨hpreferred, htallowed⟩ | ⟨hnone, -⟩
    · obtain rfl := Option.some.inj (hpreferred.symm.trans ht)
      exact (hallowed ht).mp htallowed
    · rw [hnone] at ht
      cases ht
  · intro hpreferred
    cases haccept : r.fromAccept? request.acceptRanges with
    | some t =>
      have ht := (hallowed haccept).mpr (hpreferred t haccept)
      exact ⟨t, forRanges_eq_ok_iff.mpr (.inl ⟨haccept, ht⟩)⟩
    | none =>
      -- Without a preference the default is taken, or else the first type that is still welcome.
      obtain ⟨d, hd⟩ := Option.ne_none_iff_exists'.mp hdefault
      cases hexcluded : MediaRange.excludes request.acceptRanges d.mediaType with
      | false =>
        have hchosen : r.unlessExcluded request.acceptRanges (some p) false d = .ok d :=
          unlessExcluded_eq_ok_iff.mpr (.inl ⟨rfl, hexcluded⟩)
        exact ⟨d, forRanges_eq_ok_iff.mpr (.inr ⟨haccept, d, hd, hchosen⟩)⟩
      | true =>
        have hserved := (Serializer.isAllowed_iff_admits htoken).mpr hadmits
        obtain ⟨other, hother⟩ := exists_firstAcceptable? hs hserved hm hwelcome
        have hchosen := unlessExcluded_eq_ok_iff.mpr (.inr ⟨hother, hexcluded⟩)
        exact ⟨other, forRanges_eq_ok_iff.mpr (.inr ⟨haccept, d, hd, hchosen⟩)⟩

/-- A request for a page that says what it accepts. -/
def accepting (accept : String) : Request :=
  { Request.ofTarget .get ⟨"/x", none⟩ with headers := ⟨[(.accept, .ofText accept)]⟩ }

/-- A service that has JSON for its default answers in XML where JSON is ruled out. -/
theorem standard_resolve_of_welcome :
    let request := accepting "application/json;q=0, */*;q=0.1"
    let p : FormatPolicy := { supported := ["xml"] }
    request.requestedFormat? = none ∧ Serializer.xml ∈ standard.serializers ∧ p.Admits .xml ∧
      Serializer.xml.mediaTypes.head? = some "application/xml; charset=UTF-8" ∧
      MediaRange.welcomes request.acceptRanges "application/xml; charset=UTF-8" = true ∧
      p.supported ≠ [] ∧ standard.defaultFor? (some p) ≠ none ∧
      ((∃ chosen, (standard.resolve request (some p) false).result = .ok chosen) ↔
        ∀ t, standard.fromAccept? request.acceptRanges = some t → p.Admits t.serializer) ∧
      ∀ e, (standard.resolve request (some p) false).result = .error e →
        e.kind = .notAcceptable := by
  intro request p
  have hs : Serializer.xml ∈ standard.serializers := List.mem_cons_of_mem _ (List.mem_cons_self ..)
  have hadmits : p.Admits .xml := .inr (by decide)
  have hwelcome :
      MediaRange.welcomes request.acceptRanges "application/xml; charset=UTF-8" = true := by
    decide +kernel
  have hdefault : standard.defaultFor? (some p) ≠ none :=
    Option.isSome_iff_ne_none.mp (by decide +kernel)
  exact ⟨rfl, hs, hadmits, rfl, hwelcome, nofun, hdefault,
    resolve_ok_iff_of_welcome rfl hs hadmits rfl hwelcome nofun nofun hdefault⟩

/-- A header that takes JSON and XML alike gets neither from a route that answers in XML only: the
preference goes to JSON, which is registered first. -/
theorem standard_resolve_refuses_xml :
    let request := accepting "application/json, application/xml"
    let p : FormatPolicy := { supported := ["xml"] }
    request.requestedFormat? = none ∧ Serializer.xml ∈ standard.serializers ∧ p.Admits .xml ∧
      Serializer.xml.mediaTypes.head? = some "application/xml; charset=UTF-8" ∧
      MediaRange.welcomes request.acceptRanges "application/xml; charset=UTF-8" = true ∧
      ∃ e, (standard.resolve request (some p) false).result = .error e ∧
        e.kind = .notAcceptable := by
  intro request p
  have hwelcome :
      MediaRange.welcomes request.acceptRanges "application/xml; charset=UTF-8" = true := by
    decide +kernel
  have hrefused : (standard.forRanges request.acceptRanges (some p) false).result.isOk = false := by
    decide +kernel
  refine ⟨rfl, List.mem_cons_of_mem _ (List.mem_cons_self ..), .inr (by decide), rfl, hwelcome, ?_⟩
  cases hresult : (standard.forRanges request.acceptRanges (some p) false).result with
  | ok chosen =>
    rw [hresult] at hrefused
    cases hrefused
  | error e => exact ⟨e, hresult, kind_of_forRanges hresult⟩

end Registry

end Switchboard
