import Switchboard.Journal.Event
import Switchboard.Route.Resolution

namespace Switchboard

/-- How a call ends. The payload of a panic counts only if it is text. -/
inductive Ending (α : Type) where
  | done (result : α)
  | failed (failure : Failure)
  | panicked (payload : Option String)

namespace Ending

def unknownPanic : String := "unknown panic"

def succeeds {α : Type} : Ending α → Bool
  | done _ => true
  | failed _ => false
  | panicked _ => false

/-- The result of a hook; a panic is a failure too. -/
def guarded {α : Type} : Ending α → Except Failure α
  | done result => .ok result
  | failed failure => .error failure
  | panicked payload => .error (.ofText ("hook panicked: " ++ payload.getD unknownPanic))

end Ending

/-- What a call leaves behind: the subject it worked on, the application's state, what it logged and
how long it took in milliseconds. -/
structure Outcome (σ α : Type) where
  subject : α
  state : σ
  ending : Ending Unit
  events : List Event := []
  duration : Nat := 0

abbrev Preprocessor (σ : Type) := Request → σ → Outcome σ Request

/-- Runs after the handler, or after the response is written. -/
abbrev Postprocessor (σ : Type) := Request → Response → σ → Outcome σ Response

/-- Something a handler does while it runs: how long after its start, what becomes of the
application's state, and what it logs. -/
structure Moment (σ : Type) where
  time : Nat
  change : σ → σ
  events : List Event := []

/-- A whole run of a handler. A body it returns replaces that of the response. -/
structure HandlerRun (σ : Type) where
  request : Request
  response : Response
  ending : Ending (Option Body)
  moments : List (Moment σ) := []
  duration : Nat := 0

abbrev Handler (σ : Type) := Request → Response → σ → HandlerRun σ

namespace Handler

variable {σ : Type}

def failing (failure : Request → Failure) : Handler σ := fun request response _ =>
  { request, response, ending := .failed (failure request) }

def returning (body : Body) : Handler σ := fun request response _ =>
  { request, response, ending := .done (some body) }

def notImplementedFailure (request : Request) : Failure :=
  .ofService
    ⟨.notImplemented, request.method.name ++ " " ++ request.path ++ " is not implemented", {}, none⟩

def notImplemented : Handler σ := failing notImplementedFailure

end Handler

/-- A resource with an action for each of the four methods that create, read, change and delete
it. -/
structure Controller (H : Type) where
  create : Option H := none
  read : Option H := none
  update : Option H := none
  delete : Option H := none

namespace Controller

def action? {H : Type} (c : Controller H) (method : Method) : Option H :=
  if method = .post then c.create
  else if method = .get then c.read
  else if method = .put then c.update
  else if method = .delete then c.delete
  else none

/-- A registration for each of the methods. What the resource lacks is answered as not
implemented. -/
def registrations {σ : Type} (c : Controller (Handler σ)) (template : String)
    (methods : List Method) : List (Registration (Handler σ)) :=
  methods.map fun method =>
    { template, method, handler := (c.action? method).getD Handler.notImplemented }

end Controller

end Switchboard
