import Switchboard.Config.Schema
import Switchboard.Pipeline.Answer
import Switchboard.Pipeline.Session

namespace Switchboard

structure Pipeline (σ : Type) where
  table : Table (Handler σ)
  registry : Registry := .standard
  mapping : Mapping := {}
  preprocessors : List (Preprocessor σ) := []
  postprocessors : List (Postprocessor σ) := []
  finallyHooks : List (Postprocessor σ) := []
  observers : List (Observer σ) := []
  workers : Workers := {}
  /-- What goes on the wire for a finished response. -/
  writer : Request → Response → Wire := Wire.ofResponse true

namespace Pipeline

variable {σ : Type}

def configure (p : Pipeline σ) (c : Config) : Pipeline σ :=
  { p with
    registry := Registry.standard.withDefault c.serialization.defaultFormat
    workers := ⟨c.executor.workerThreads,
      if c.executor.handlerTimeout = 0 then none else some c.executor.handlerTimeout⟩
    writer := Wire.ofResponse c.server.keepAlive }

def notices (p : Pipeline σ) : List Event :=
  if p.registry.isEmpty then [.withoutSerializers] else []

def world (p : Pipeline σ) (state : σ) : World σ := { state, pool := p.workers.pool? }

/-- A step of a run: it goes on, or it ends in a failure. -/
abbrev Step (σ : Type) := Session σ → Session σ × Except Failure Unit

/-- One step after another, as long as none fails. -/
def Step.andThen (first second : Step σ) : Step σ := fun s =>
  match first s with
  | (s, .ok ()) => second s
  | (s, .error failure) => (s, .error failure)

def reached (stage : Stage) : Step σ := fun s => (s.enter stage, .ok ())

def negotiation (p : Pipeline σ) : Step σ := fun s =>
  match s.negotiate p.registry false with
  | (s, .ok _) => (s, .ok ())
  | (s, .error e) => (s, .error (.ofService e))

def concluded (place : String) (ending : Ending Unit) : Step σ := fun s =>
  match ending.guarded with
  | .ok _ => (s, .ok ())
  | .error failure => (s.note (.sample (.hookFailure place)), .error failure)

def preprocessing (index : Nat) (hook : Preprocessor σ) : Step σ := fun s =>
  let outcome := hook s.context.request s.world.state
  let called := (s.afterCall (.preprocessor index) outcome).withRequest outcome.subject
  concluded "preprocessor" outcome.ending called

def postprocessing (index : Nat) (hook : Postprocessor σ) : Step σ := fun s =>
  let outcome := hook s.context.request s.context.response s.world.state
  let called := (s.afterCall (.postprocessor index) outcome).withResponse outcome.subject
  concluded "postprocessor" outcome.ending called

/-- Calls hooks in order, up to the first that fails. -/
def inOrder {H : Type} (step : Nat → H → Step σ) : Nat → List H → Step σ
  | _, [] => fun s => (s, .ok ())
  | index, hook :: rest => (step index hook).andThen (inOrder step (index + 1) rest)

def preprocess (p : Pipeline σ) : Step σ := inOrder preprocessing 0 p.preprocessors

def postprocess (p : Pipeline σ) : Step σ := inOrder postprocessing 0 p.postprocessors

def rewinding : Step σ := fun s => (s.withRequest s.context.request.rewind, .ok ())

def invocation (p : Pipeline σ) (route : Route (Handler σ)) (s : Session σ) : Invocation σ :=
  Invocation.run p.workers route.handler route.pattern.template s.context.request
    { s.context.response with serialized := route.serializesResponse } s.world

/-- The response after the handler: a body that was returned replaces that of the response. -/
def answered (response : Response) : Except Failure (Option Body) → Response
  | .ok (some body) => { response with body }
  | .ok none => response
  | .error _ => response

def handling (p : Pipeline σ) (route : Route (Handler σ)) : Step σ := fun s =>
  let c := s.context
  let invocation := p.invocation route s
  let called :=
    if invocation.began then
      s.note (.called (.handler c.request.remaining) invocation.succeeded)
    else s
  let s := { called.noteEvents invocation.events with world := invocation.world }
  let (request, response) := invocation.parts.getD
    (c.request, { c.response with serialized := route.serializesResponse })
  let s := (s.withRequest request).withResponse (answered response invocation.result)
  (s, invocation.result.map fun _ => ())

def binding (action : Action (Handler σ)) : Step σ := fun s =>
  (s.withContext (s.context.bindAction action), .ok ())

/-- From resolution through postprocessing. -/
def process (p : Pipeline σ) : Step σ := fun s =>
  match p.table.resolve s.context.request.method s.context.request.path with
  | .error e => (s, .error (.ofService e))
  | .ok action =>
    ((binding action).andThen <|
      (reached .resolved).andThen <|
      p.negotiation.andThen <|
      p.preprocess.andThen <|
      rewinding.andThen <|
      (reached .preprocessed).andThen <|
      (p.handling action.route).andThen <|
      (reached .invoked).andThen <|
      p.postprocess.andThen <|
      reached .postprocessed) s

def failureEvent (c : Context (Handler σ)) (failure : Failure) (reply : ErrorReply) : Event :=
  let code := reply.status.code
  if reply.status.isServerError then
    .failed c.request.method.name c.request.path code failure.text reply.rootCause
  else .rejected code failure.text

def fail (p : Pipeline σ) (failure : Failure) (s : Session σ) : Session σ :=
  let s := s.enter .excepted
  let told := p.mapping.reply failure
  let reply := told.result
  let s := s.noteEvents told.events
  let s := s.note (.event (failureEvent s.context failure reply))
  let s := s.note (.sample (.failure reply.status.code))
  let response := s.context.response.failedWith reply
  let s := s.withContext { s.context with response, failure := some failure }
  s.notify .exception p.observers

def render (settings : Option Settings) (s : Session σ) :
    Session σ × Except SerializationError Unit :=
  let attempt := s.context.response.rendered settings s.context.hasFailure
  (s.reshape ⟨attempt.result.1, attempt.events⟩, attempt.result.2)

def renderPlain (s : Session σ) : Session σ := s.reshape s.context.response.plain

/-- Renders the body of a failure, or tells of it in plain text. -/
def tell (settings : Option Settings) (s : Session σ) : Session σ :=
  match render settings s with
  | (s, .ok ()) => s
  | (s, .error _) => renderPlain s

/-- The settings to render with. The default is forced once a failure has been captured, and a
negotiation that fails before is a failure of its own. -/
def settingsFor (p : Pipeline σ) (s : Session σ) : Session σ × Option Settings :=
  match s.negotiate p.registry s.context.hasFailure with
  | (s, .ok settings) => (s, some settings)
  | (s, .error e) =>
    if s.context.hasFailure then (s, none)
    else
      let forced := (p.fail (.ofService e) s).negotiate p.registry true
      (forced.1, forced.2.toOption)

/-- Renders the body, and the body of the failure if that fails. -/
def rendering (p : Pipeline σ) (settings : Option Settings) (s : Session σ) : Session σ :=
  match render settings s with
  | (s, .ok ()) => s
  | (s, .error e) =>
    if s.context.hasFailure then renderPlain (s.note (.event (.errorUnrendered e.text)))
    else tell settings (p.fail (.ofSerialization e) s)

def typed (s : Session σ) : Session σ :=
  s.reshape (s.context.response.typed Response.plainText)

def serialize (p : Pipeline σ) (s : Session σ) : Session σ :=
  let (s, settings) := p.settingsFor s
  let s := typed (p.rendering settings s)
  (s.reshape s.context.response.enforce).enter .serialized

/-- Calls the finally hooks one after the other, whatever becomes of them. -/
def runFinally : Nat → List (Postprocessor σ) → Session σ → Session σ
  | _, [], s => s
  | index, hook :: rest, s =>
    let outcome := hook s.context.request s.context.response s.world.state
    let called := (s.afterCall (.finallyHook index) outcome).withResponse outcome.subject
    match outcome.ending.guarded with
    | .ok _ => runFinally (index + 1) rest called
    | .error failure =>
      runFinally (index + 1) rest (called.noteHookFailure "finally" "finally" failure)

def arrived (p : Pipeline σ) (s : Session σ) : Session σ :=
  let request := s.context.request
  (s.note (.event (.dispatching request.method.name request.path))).notify .received p.observers

def processed (p : Pipeline σ) (s : Session σ) : Session σ :=
  match p.process s with
  | (s, .ok ()) => s
  | (s, .error failure) => p.fail failure s

/-- From the arrival of a request to the response that is ready to be written. -/
def prepare (p : Pipeline σ) (s : Session σ) : Session σ := p.serialize (p.processed (p.arrived s))

/-- What happens once the response is written. -/
def finish (p : Pipeline σ) (wire : Wire) (s : Session σ) : Session σ :=
  let s := (s.note (.wrote wire)).enter .written
  let s := if s.context.hasFailure then s else s.notify .success p.observers
  let s := runFinally 0 p.finallyHooks s
  let s := (s.notify .complete p.observers).enter .completed
  s.note (.sample
    (.request s.context.request.method.name wire.status.code s.context.routeLabel))

/-- Runs a request to its end; returns what was written and how everything went. -/
def run (p : Pipeline σ) (context : Context (Handler σ)) (world : World σ) : Wire × Session σ :=
  let s := p.prepare { context, world }
  let wire := p.writer s.context.request s.context.response
  (wire, p.finish wire s)

def execute (p : Pipeline σ) (request : Request) (world : World σ) : Wire × Session σ :=
  p.run { request } world

end Pipeline

end Switchboard
