import Switchboard.Format.Negotiation
import Switchboard.Route.Pattern

namespace Switchboard

structure Registration (H : Type) where
  template : String
  method : Method
  handler : H
  name : Option String := none
  supportedFormats : List String := []
  defaultFormat : Option String := none
  flags : List String := []
  parameters : List (String × Value) := []
  baseUrl : Option String := none
  serializesResponse : Bool := true

structure Route (H : Type) where
  pattern : Pattern
  method : Method
  handler : H
  name : Option String
  formats : FormatPolicy
  flags : List String
  parameters : List (String × Value)
  baseUrl : String
  serializesResponse : Bool

namespace Registration

variable {H : Type}

def supporting (r : Registration H) (formats : List String) : Registration H :=
  let add (listed : List String) (format : String) : List String :=
    if listed.contains format then listed else listed ++ [format]
  { r with supportedFormats := formats.foldl add r.supportedFormats }

def withParameter (r : Registration H) (key : String) (value : Value) : Registration H :=
  { r with parameters := (key, value) :: r.parameters }

def givenName? (r : Registration H) : Option String := r.name.filter fun n => Text.trim n ≠ ""

def toRoute (r : Registration H) : Except PatternError (Route H) :=
  (Pattern.compile r.template).map fun pattern =>
    { pattern
      method := r.method
      handler := r.handler
      name := r.givenName?
      formats := ⟨r.supportedFormats, r.defaultFormat⟩
      flags := r.flags
      parameters := r.parameters
      baseUrl := r.baseUrl.getD ""
      serializesResponse := r.serializesResponse }

end Registration

/-- What registrations that leave something open are given. -/
structure Defaults where
  baseUrl : Option String := none
  defaultFormat : Option String := none
  supportedFormats : List String := []

def Defaults.apply {H : Type} (d : Defaults) (r : Registration H) : Registration H :=
  { r with
    baseUrl := r.baseUrl.or d.baseUrl
    defaultFormat := r.defaultFormat.or d.defaultFormat
    supportedFormats :=
      if r.supportedFormats.isEmpty then d.supportedFormats else r.supportedFormats }

namespace Route

variable {H : Type}

def fullPath (r : Route H) : String := r.baseUrl ++ r.pattern.path

def hasFlag (r : Route H) (flag : String) : Bool := r.flags.contains flag

def parameter? (r : Route H) (key : String) : Option Value := r.parameters.lookup key

end Route

inductive TableError where
  | pattern (method : Method) (template : String) (fault : PatternError)
  | duplicateRoute (method : Method) (template earlier : String)
  | duplicateName (name : String)
  deriving DecidableEq

def TableError.text : TableError → String
  | pattern method template fault =>
    "invalid route " ++ method.name ++ " " ++ template ++ ": " ++ fault.text
  | duplicateRoute method template earlier =>
    "route " ++ method.name ++ " " ++ template ++ " duplicates " ++ earlier
  | duplicateName name => "route name '" ++ name ++ "' is registered more than once"

/-- What is looked up in a table: its routes by method, the places of its named routes, and its
methods in order of their first route. -/
structure Index (H : Type) where
  byMethod : List (Method × List (Route H)) := []
  byName : List (String × Nat) := []
  methods : List Method := []

namespace Index

variable {H : Type}

def enlist (route : Route H) : List (Method × List (Route H)) → List (Method × List (Route H))
  | [] => [(route.method, [route])]
  | (method, listed) :: rest =>
    if method = route.method then (method, listed ++ [route]) :: rest
    else (method, listed) :: enlist route rest

def listMethod (listed : List Method) (method : Method) : List Method :=
  if method ∈ listed then listed else listed ++ [method]

def enter (index : Index H) (place : Nat) (route : Route H) : Index H where
  byMethod := enlist route index.byMethod
  byName := route.name.toList.map (·, place) ++ index.byName
  methods := listMethod index.methods route.method

def ofRoutes (routes : List (Route H)) : Index H :=
  routes.zipIdx.foldl (fun index (route, place) => index.enter place route) {}

theorem ofRoutes_append (routes : List (Route H)) (route : Route H) :
    ofRoutes (routes ++ [route]) = (ofRoutes routes).enter routes.length route := by
  unfold ofRoutes
  rw [List.zipIdx_append, List.foldl_append, Nat.zero_add]
  rfl

end Index

/-- Routes in order of registration, with an index that is kept in step with them. -/
structure Table (H : Type) where
  routes : List (Route H) := []
  index : Index H := .ofRoutes routes
  index_eq : index = .ofRoutes routes := by rfl

namespace Table

variable {H : Type}

def routesFor (t : Table H) (method : Method) : List (Route H) :=
  (t.index.byMethod.lookup method).getD []

def methods (t : Table H) : List Method := t.index.methods

def named? (t : Table H) (name : String) : Option (Route H) :=
  (t.index.byName.lookup name).bind (t.routes[·]?)

def knows (t : Table H) (name : String) : Bool := (t.index.byName.lookup name).isSome

def push (t : Table H) (route : Route H) : Table H where
  routes := t.routes ++ [route]
  index := t.index.enter t.routes.length route
  index_eq := by rw [t.index_eq, Index.ofRoutes_append]

/-- A line in the log for a route that an earlier one covers. -/
def shadowNotice (t : Table H) (route : Route H) : List Event :=
  match (t.routesFor route.method).find? fun r => route.pattern.isShadowedBy r.pattern with
  | some earlier =>
    [.shadowed route.method.name route.pattern.template earlier.pattern.template]
  | none => []

/-- Adds a route if it keeps the table free of duplicates. A route whose name is taken has been
noticed by then. -/
def add (t : Table H) (r : Registration H) : Except (Logged TableError) (Logged (Table H)) :=
  match r.toRoute with
  | .error fault => .error (.silent (.pattern r.method r.template fault))
  | .ok route =>
    match (t.routesFor r.method).find? fun earlier => earlier.pattern.sameShape route.pattern with
    | some earlier =>
      .error (.silent (.duplicateRoute r.method r.template earlier.pattern.template))
    | none =>
      match route.name.filter t.knows with
      | some name => .error ⟨.duplicateName name, t.shadowNotice route⟩
      | none => .ok ⟨t.push route, t.shadowNotice route⟩

def addAll (t : Table H) : List (Registration H) → Except (Logged TableError) (Logged (Table H))
  | [] => .ok (.silent t)
  | r :: rest =>
    match t.add r with
    | .error e => .error e
    | .ok ⟨t, events⟩ =>
      match addAll t rest with
      | .error e => .error (e.after events)
      | .ok done => .ok (done.after events)

def build (d : Defaults) (registrations : List (Registration H)) :
    Except (Logged TableError) (Logged (Table H)) :=
  (addAll {} (registrations.map d.apply)).map fun done =>
    ⟨done.result, done.events ++ [.tableSealed done.result.routes.length]⟩

end Table

end Switchboard
