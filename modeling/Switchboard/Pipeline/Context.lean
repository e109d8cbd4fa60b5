import Switchboard.Journal.Entry
import Switchboard.Pipeline.Hook

namespace Switchboard

structure Context (H : Type) where
  request : Request
  response : Response := {}
  action : Option (Action H) := none
  settings : Option Settings := none
  stage : Stage := .received
  failure : Option Failure := none

namespace Context

variable {H : Type}

def hasFailure (c : Context H) : Bool := c.failure.isSome

def bindAction (c : Context H) (action : Action H) : Context H :=
  { c with
    request := c.request.withMatch action.found action.route.name
    action := some action }

def policy? (c : Context H) : Option FormatPolicy := c.action.map (·.route.formats)

/-- Chooses the settings once: what has been chosen stays. -/
def negotiate (c : Context H) (registry : Registry) (force : Bool) :
    Logged (Context H × Except ServiceError Settings) :=
  match c.settings with
  | some settings => .silent (c, .ok settings)
  | none =>
    let chosen := registry.resolve c.request c.policy? force
    match chosen.result with
    | .ok settings => ⟨({ c with settings := some settings }, .ok settings), chosen.events⟩
    | .error e => ⟨(c, .error e), chosen.events⟩

def routeLabel (c : Context H) : String :=
  (c.action.map (·.route.pattern.template)).getD "none"

end Context

/-- Watches a request at the four moments. Its failures are reported and change nothing. -/
structure Observer (σ : Type) where
  received : Context (Handler σ) → σ → Outcome σ Unit
  exception : Context (Handler σ) → Failure → σ → Outcome σ Unit
  success : Context (Handler σ) → σ → Outcome σ Unit
  complete : Context (Handler σ) → σ → Outcome σ Unit

namespace Observer

variable {σ : Type}

def idle (state : σ) : Outcome σ Unit := { subject := (), state, ending := .done () }

def silent : Observer σ where
  received _ := idle
  exception _ _ := idle
  success _ := idle
  complete _ := idle

def completionEvent (c : Context (Handler σ)) : Event :=
  match c.failure with
  | some failure =>
    .completedWithFailure c.request.method.name c.request.path c.response.status.code failure.text
  | none =>
    .completed c.request.method.name c.request.path (c.request.routeName.getD "-")
      c.response.status.code

def logging : Observer σ :=
  { silent with
    complete := fun c state => { idle state with events := [completionEvent c] } }

def call (o : Observer σ) (callback : Callback) (c : Context (Handler σ)) (state : σ) :
    Outcome σ Unit :=
  match callback with
  | .received => o.received c state
  | .success => o.success c state
  | .complete => o.complete c state
  | .exception =>
    match c.failure with
    | some failure => o.exception c failure state
    | none => idle state

end Observer

end Switchboard
