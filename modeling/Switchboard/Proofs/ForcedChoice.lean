import Switchboard.Proofs.FormatList

namespace Switchboard

theorem toOption_eq_some_iff {ε α : Type} {result : Except ε α} {a : α} :
    result.toOption = some a ↔ result = .ok a := by
  cases result <;> simp [Except.toOption]

/-- Whether something is let through makes no difference only if it takes its own place. -/
theorem filter_or_eq_iff {α : Type} {a b : Bool} {x : α} {rest : Option α} :
    ((some x).filter fun _ => a).or rest = ((some x).filter fun _ => b).or rest ↔
      a = b ∨ rest = some x := by
  cases a with
  | true =>
    cases b with
    | true => exact iff_of_true rfl (.inl rfl)
    | false => simp [Option.filter_some, eq_comm]
  | false =>
    cases b with
    | true => simp [Option.filter_some]
    | false => exact iff_of_true rfl (.inl rfl)

namespace Registry

/-- What the request asks for by a token or by its `Accept` header, if the policy allows it. -/
def granted? (r : Registry) (request : Request) (policy : Option FormatPolicy) : Option Settings :=
  match request.requestedFormat? with
  | some token => (r.forFormat? token).filter fun _ => policy.all (·.allows token)
  | none => (r.fromAccept? request.acceptRanges).filter fun s => s.serializer.isAllowed policy

/-- A default that can be served: that of the route, that of the service, or the serializer that is
registered first. -/
inductive HasDefault (r : Registry) (policy : Option FormatPolicy) : Prop where
  | route {p : FormatPolicy} {token : String} (hroute : policy = some p)
    (hdefault : p.default = some token) (hserved : r.supportsFormat token = true)
  | service {token : String} (hdefault : r.defaultFormat = some token)
    (hserved : r.supportsFormat token = true)
  | first {s : Serializer} {rest : List Serializer} (hregistered : r.serializers = s :: rest)
    (hmedia : s.mediaTypes ≠ [])

variable {r : Registry} {policy : Option FormatPolicy} {request : Request} {s : Settings}

section Default

theorem isSome_bind_forFormat?_iff {default : Option String} :
    (default.bind r.forFormat?).isSome = true ↔
      ∃ token, default = some token ∧ r.supportsFormat token = true := by
  cases default with
  | none => simp
  | some token => simp [supportsFormat]

theorem isSome_first_iff :
    (r.serializers.zipIdx.head?.bind primary?).isSome = true ↔
      ∃ s rest, r.serializers = s :: rest ∧ s.mediaTypes ≠ [] := by
  cases r.serializers with
  | nil => simp
  | cons s rest => simp [primary?]

theorem isSome_defaultFor?_iff : (r.defaultFor? policy).isSome = true ↔ r.HasDefault policy := by
  unfold defaultFor? default?
  rw [Option.isSome_or, Option.isSome_or, Bool.or_eq_true, Bool.or_eq_true,
    isSome_bind_forFormat?_iff, isSome_bind_forFormat?_iff, isSome_first_iff]
  constructor
  · rintro (⟨token, hroute, hserved⟩ | ⟨token, hdefault, hserved⟩ | ⟨s, rest, hregistered, hmedia⟩)
    · obtain ⟨p, hp, hdefault⟩ := Option.bind_eq_some_iff.mp hroute
      exact .route hp hdefault hserved
    · exact .service hdefault hserved
    · exact .first hregistered hmedia
  · rintro (⟨rfl, hdefault, hserved⟩ | ⟨hdefault, hserved⟩ | ⟨hregistered, hmedia⟩)
    · exact .inl ⟨_, hdefault, hserved⟩
    · exact .inr (.inl ⟨_, hdefault, hserved⟩)
    · exact .inr (.inr ⟨_, _, hregistered, hmedia⟩)

end Default

section Choice

variable {allowed force : Bool} {token : String}

theorem toOption_fallback : (r.fallback policy).result.toOption = r.defaultFor? policy := by
  rw [result_fallback]
  cases r.defaultFor? policy <;> rfl

/-- What is not allowed is replaced by the default, if the choice is forced. -/
theorem toOption_restrict :
    (r.restrict s allowed policy force).result.toOption =
      ((some s).filter fun _ => allowed).or (if force then r.defaultFor? policy else none) := by
  unfold restrict
  cases allowed with
  | true => rfl
  | false =>
    cases force with
    | true => exact toOption_fallback
    | false => rfl

theorem toOption_forRequested :
    (r.forRequested token policy force).result.toOption =
      ((r.forFormat? token).filter fun _ => policy.all (·.allows token)).or
        (if force then r.defaultFor? policy else none) := by
  unfold forRequested
  cases r.forFormat? token with
  | some s => exact toOption_restrict
  | none =>
    cases force with
    | true => exact toOption_fallback
    | false => rfl

theorem toOption_forRanges_forced {ranges : List MediaRange} :
    (r.forRanges ranges policy true).result.toOption =
      ((r.fromAccept? ranges).filter fun s => s.serializer.isAllowed policy).or
        (r.defaultFor? policy) := by
  unfold forRanges
  cases r.fromAccept? ranges with
  | some s => exact toOption_restrict
  | none =>
    dsimp only
    rw [result_fallback]
    cases r.defaultFor? policy <;> rfl

theorem toOption_resolve_forced :
    (r.resolve request policy true).result.toOption =
      (r.granted? request policy).or (r.defaultFor? policy) := by
  unfold resolve granted?
  cases request.requestedFormat? with
  | some token => exact toOption_forRequested
  | none => exact toOption_forRanges_forced

end Choice

theorem fromAccept?_nil : r.fromAccept? [] = none := by
  have hfold (choices : List Settings) : choices.foldl (better []) none = none := by
    induction choices with
    | nil => rfl
    | cons s rest ih => exact ih
  unfold fromAccept?
  rw [hfold]

/-- A forced choice is always made exactly where there is a default. Where there is none, it is made
for the requests that ask for something that the policy allows. -/
theorem resolve_forced_iff (r : Registry) (policy : Option FormatPolicy) :
    ((∀ request, ∃ s, (r.resolve request policy true).result = .ok s) ↔ r.HasDefault policy) ∧
      ∀ request, (∃ s, (r.resolve request policy true).result = .ok s) ↔
        r.HasDefault policy ∨ ∃ s, r.granted? request policy = some s := by
  have hrequest (request : Request) : (∃ s, (r.resolve request policy true).result = .ok s) ↔
      r.HasDefault policy ∨ ∃ s, r.granted? request policy = some s := by
    simp only [← toOption_eq_some_iff, ← Option.isSome_iff_exists]
    rw [toOption_resolve_forced, Option.isSome_or, Bool.or_eq_true, isSome_defaultFor?_iff]
    exact or_comm
  refine ⟨⟨fun hall => ?_, fun hdefault request => (hrequest request).mpr (.inl hdefault)⟩, hrequest⟩
  -- A request that asks for nothing is granted nothing.
  let plain : Request := .ofTarget .get ⟨"/", none⟩
  have hnothing : r.granted? plain policy = none := by
    change (r.fromAccept? []).filter _ = none
    rw [fromAccept?_nil]
    rfl
  rcases (hrequest plain).mp (hall plain) with hdefault | ⟨s, hs⟩
  · exact hdefault
  · rw [hnothing] at hs
    cases hs

/-- A serializer without a media type to answer with. -/
def typeless : Serializer := { Serializer.json with formats := ["none"], mediaTypes := [] }

/-- JSON is registered behind a serializer without a media type, and a forced choice fails. -/
theorem typeless_not_forced :
    let r : Registry := { serializers := [typeless, .json] }
    Serializer.json ∈ r.serializers ∧ Serializer.json.mediaTypes ≠ [] ∧
      ¬∃ s, (r.resolve (.ofTarget .get ⟨"/x", none⟩) none true).result = .ok s := by
  intro r
  refine ⟨List.mem_cons_of_mem _ (List.mem_cons_self ..), List.cons_ne_nil _ _, fun hforced => ?_⟩
  rcases ((resolve_forced_iff r none).2 _).mp hforced with hdefault | ⟨s, hs⟩
  · cases hdefault with
    | route hroute => cases hroute
    | service hdefault => cases hdefault
    | first hregistered hmedia =>
      obtain ⟨rfl, -⟩ := List.cons_eq_cons.mp hregistered
      exact hmedia rfl
  · cases hs

end Registry

end Switchboard
