import Switchboard.Format.MediaRange

namespace Switchboard

/-- The formats that a route answers in; none listed means any. -/
structure FormatPolicy where
  supported : List String := []
  default : Option String := none
  deriving DecidableEq, Repr

namespace FormatPolicy

def allows (p : FormatPolicy) (format : String) : Bool :=
  p.supported.isEmpty || p.supported.contains format

end FormatPolicy

/-- Whether the policy of a route, if there is one, allows one of the serializer's tokens. -/
def Serializer.isAllowed (s : Serializer) (policy : Option FormatPolicy) : Bool :=
  policy.all fun p => s.formats.any p.allows

namespace Request

def formatParam : String := "format"

def requestedFormat? (r : Request) : Option String :=
  (r.format.or (r.queryParam? formatParam)).filter (· ≠ "")

def acceptRanges (r : Request) : List MediaRange :=
  ((r.headers.text? .accept).map MediaRange.parse).getD []

end Request

namespace Registry

def notAcceptable (message : String) : ServiceError := ⟨.notAcceptable, message, {}, none⟩

/-- The default of the route if some serializer serves it, else the default of the service. -/
def fallback (r : Registry) (policy : Option FormatPolicy) :
    Logged (Except ServiceError Settings) :=
  let service :=
    match r.default? with
    | some settings => .ok settings
    | none => .error (notAcceptable "No serializer is registered")
  match policy.bind (·.default) with
  | none => .silent service
  | some format =>
    match r.forFormat? format with
    | some settings => .silent (.ok settings)
    | none => ⟨service, [.formatUnserved format]⟩

def defaultFor? (r : Registry) (policy : Option FormatPolicy) : Option Settings :=
  ((policy.bind (·.default)).bind r.forFormat?).or r.default?

theorem result_fallback (r : Registry) (policy : Option FormatPolicy) :
    (r.fallback policy).result =
      match r.defaultFor? policy with
      | some settings => .ok settings
      | none => .error (notAcceptable "No serializer is registered") := by
  unfold fallback defaultFor?
  dsimp only
  cases policy.bind (·.default) with
  | none => cases r.default? <;> rfl
  | some format =>
    simp only [Option.bind_some]
    cases r.forFormat? format <;> cases r.default? <;> rfl

/-- The settings found, unless the route does not allow them. -/
def restrict (r : Registry) (settings : Settings) (allowed : Bool) (policy : Option FormatPolicy)
    (force : Bool) : Logged (Except ServiceError Settings) :=
  if allowed then .silent (.ok settings)
  else if force then r.fallback policy
  else
    let supported := ", ".intercalate ((policy.map (·.supported)).getD [])
    .silent (.error (notAcceptable
      ("Format " ++ settings.label ++ " is not supported here (supported: " ++ supported ++ ")")))

/-- The choice so far, improved by one more media type if a range welcomes it more. -/
def better (ranges : List MediaRange) (best : Option (MediaRange × Settings))
    (settings : Settings) : Option (MediaRange × Settings) :=
  match MediaRange.best? ranges settings.mediaType with
  | none => best
  | some range =>
    if range.quality.isZero then best
    else
      match best with
      | none => some (range, settings)
      | some (other, _) =>
        if range.quality.exceeds other.quality then some (range, settings) else best

/-- The most welcome media type, the earliest of equally welcome ones. A choice that rests on a
range of any type states no preference. -/
def fromAccept? (r : Registry) (ranges : List MediaRange) : Option Settings :=
  match r.choices.foldl (better ranges) none with
  | some (range, settings) => if range.isAny then none else some settings
  | none => none

/-- The first media type that is welcome and allowed, passing over serializers whose first media
type is ruled out. -/
def firstAcceptable? (r : Registry) (ranges : List MediaRange) (policy : Option FormatPolicy) :
    Option Settings :=
  r.choices.find? fun settings =>
    settings.serializer.isAllowed policy &&
      settings.serializer.mediaTypes.head?.all (fun m => !MediaRange.excludes ranges m) &&
      MediaRange.welcomes ranges settings.mediaType

def forRequested (r : Registry) (format : String) (policy : Option FormatPolicy) (force : Bool) :
    Logged (Except ServiceError Settings) :=
  match r.forFormat? format with
  | some settings => r.restrict settings (policy.all (·.allows format)) policy force
  | none =>
    if force then r.fallback policy
    else
      .silent (.error (notAcceptable
        ("Requested representation format not supported: " ++ format)))

/-- The default, or what else the ranges welcome if they rule it out. -/
def unlessExcluded (r : Registry) (ranges : List MediaRange) (policy : Option FormatPolicy)
    (force : Bool) (default : Settings) : Except ServiceError Settings :=
  if force || !MediaRange.excludes ranges default.mediaType then .ok default
  else
    match r.firstAcceptable? ranges policy with
    | some other => .ok other
    | none =>
      .error (notAcceptable
        ("Default format " ++ default.label ++ " is excluded by the Accept header"))

def forRanges (r : Registry) (ranges : List MediaRange) (policy : Option FormatPolicy)
    (force : Bool) : Logged (Except ServiceError Settings) :=
  match r.fromAccept? ranges with
  | some settings => r.restrict settings (settings.serializer.isAllowed policy) policy force
  | none =>
    let default := r.fallback policy
    ⟨default.result.bind (r.unlessExcluded ranges policy force), default.events⟩

/-- The settings for the response to a request on a route with the given policy. -/
def resolve (r : Registry) (request : Request) (policy : Option FormatPolicy) (force : Bool) :
    Logged (Except ServiceError Settings) :=
  match request.requestedFormat? with
  | some format => r.forRequested format policy force
  | none => r.forRanges request.acceptRanges policy force

end Registry

end Switchboard
