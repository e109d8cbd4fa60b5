import Switchboard.Pipeline.Workers

namespace Switchboard

structure Session (σ : Type) where
  context : Context (Handler σ)
  world : World σ
  journal : Journal := []

namespace Session

variable {σ : Type}

def note (s : Session σ) (e : Entry) : Session σ := { s with journal := s.journal ++ [e] }

def noteEvents (s : Session σ) (events : List Event) : Session σ :=
  { s with journal := s.journal ++ events.map .event }

def enter (s : Session σ) (stage : Stage) : Session σ :=
  let moved := s.note (.event (.transition s.context.stage stage))
  { moved with context := { moved.context with stage } }

def withContext (s : Session σ) (c : Context (Handler σ)) : Session σ := { s with context := c }

def withRequest (s : Session σ) (request : Request) : Session σ :=
  { s with context := { s.context with request } }

def withResponse (s : Session σ) (response : Response) : Session σ :=
  { s with context := { s.context with response } }

def reshape (s : Session σ) (shaped : Logged Response) : Session σ :=
  (s.withResponse shaped.result).noteEvents shaped.events

def negotiate (s : Session σ) (registry : Registry) (force : Bool) :
    Session σ × Except ServiceError Settings :=
  let chosen := s.context.negotiate registry force
  ((s.withContext chosen.result.1).noteEvents chosen.events, chosen.result.2)

/-- Records a call with what it logged, and takes over the application's state after it. -/
def afterCall {α : Type} (s : Session σ) (call : Call) (o : Outcome σ α) : Session σ :=
  let called := (s.note (.called call o.ending.succeeds)).noteEvents o.events
  let (world, events) := { called.world with state := o.state }.spend o.duration
  { called with world }.noteEvents events

def noteHookFailure (s : Session σ) (place stage : String) (failure : Failure) : Session σ :=
  (s.note (.sample (.hookFailure place))).note (.event (.hookFailed stage failure.text))

def notifyOne (s : Session σ) (callback : Callback) (index : Nat) (o : Observer σ) : Session σ :=
  let c := s.context
  let outcome := o.call callback c s.world.state
  let told := s.afterCall (.observer index callback c.stage c.response.status) outcome
  match outcome.ending.guarded with
  | .ok _ => told
  | .error failure => told.noteHookFailure "observer" callback.text failure

def notifyFrom (callback : Callback) : Nat → List (Observer σ) → Session σ → Session σ
  | _, [], s => s
  | index, o :: rest, s => notifyFrom callback (index + 1) rest (s.notifyOne callback index o)

def notify (s : Session σ) (callback : Callback) (observers : List (Observer σ)) : Session σ :=
  notifyFrom callback 0 observers s

end Session

end Switchboard
