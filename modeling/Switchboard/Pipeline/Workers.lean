import Switchboard.Pipeline.Context

namespace Switchboard

/-- The slots of a pool and how many of them nobody holds. -/
structure Pool where
  size : Nat
  free : Nat
  deriving DecidableEq, Repr

namespace Pool

def ofSize (size : Nat) : Pool := ⟨size, size⟩

def acquire? (p : Pool) : Option Pool :=
  if 0 < p.free then some { p with free := p.free - 1 } else none

def release (p : Pool) : Pool := { p with free := p.free + 1 }

end Pool

/-- How many slots there are, none for running on the spot, and how many milliseconds a caller
waits. -/
structure Workers where
  slots : Nat := 16
  limit : Option Nat := some 2000
  deriving DecidableEq, Repr

namespace Workers

def onTheSpot : Workers := ⟨0, none⟩

def pool? (w : Workers) : Option Pool := if w.slots = 0 then none else some (.ofSize w.slots)

end Workers

/-- Something that will happen at a time: a change of the application's state, lines in the log, and
perhaps a slot that becomes free. -/
structure Due (σ : Type) where
  time : Nat
  change : σ → σ
  events : List Event
  freesSlot : Bool

/-- What outlives a request: the application's state, the time in milliseconds, the slots, and what
handlers that were not waited for will still do, in order of time. -/
structure World (σ : Type) where
  state : σ
  clock : Nat := 0
  pool : Option Pool := none
  due : List (Due σ) := []

namespace World

variable {σ : Type}

def available (w : World σ) : Option Nat := w.pool.map (·.free)

def insertDue (d : Due σ) : List (Due σ) → List (Due σ)
  | [] => [d]
  | other :: rest => if d.time < other.time then d :: other :: rest else other :: insertDue d rest

def schedule (w : World σ) (d : Due σ) : World σ := { w with due := insertDue d w.due }

def happen (w : World σ) (d : Due σ) : World σ :=
  { w with
    state := d.change w.state
    pool := if d.freesSlot then w.pool.map (·.release) else w.pool }

/-- Lets everything happen that is due up to the time, and makes it that time. -/
def advance (w : World σ) (time : Nat) : World σ × List Event :=
  let now := w.due.takeWhile (·.time ≤ time)
  let later := w.due.dropWhile (·.time ≤ time)
  let moved := now.foldl happen w
  ({ moved with clock := time, due := later }, now.flatMap (·.events))

def spend (w : World σ) (duration : Nat) : World σ × List Event := w.advance (w.clock + duration)

def settle (w : World σ) : World σ × List Event :=
  w.advance ((w.due.map (·.time)).foldl max w.clock)

def nextSlot (w : World σ) : Nat :=
  if w.pool.any (0 < ·.free) then w.clock
  else ((w.due.find? (·.freesSlot)).map (·.time)).getD w.clock

/-- Takes a slot for a run that begins now, and schedules what the run will do. -/
def start (w : World σ) (run : HandlerRun σ) (last : List Event) : World σ :=
  let taken := { w with pool := w.pool.map fun p : Pool => p.acquire?.getD p }
  let scheduled := run.moments.foldl
    (fun w m => w.schedule ⟨w.clock + m.time, m.change, m.events, false⟩) taken
  scheduled.schedule ⟨w.clock + run.duration, id, last, true⟩

end World

/-- The result of a handler for its caller: what became of the request and the response, or nothing
if the caller did not wait. -/
structure Invocation (σ : Type) where
  parts : Option (Request × Response)
  result : Except Failure (Option Body)
  world : World σ
  events : List Event
  /-- Whether the handler was called, even if nobody waited for its end. -/
  began : Bool := true

namespace Invocation

variable {σ : Type}

/-- Whether the handler returned in time and did not fail. -/
def succeeded (i : Invocation σ) : Bool :=
  match i.result with
  | .ok _ => true
  | .error _ => false

def panicFailure : Failure := .ofService ⟨.internal, "Handler panicked", {}, none⟩

/-- What the pipeline makes of a handler's ending. -/
def resultOf : Ending (Option Body) → Except Failure (Option Body)
  | .done body => .ok body
  | .failed failure => .error failure
  | .panicked _ => .error panicFailure

def panicEvents (route : String) : Ending (Option Body) → List Event
  | .panicked payload => [.handlerPanicked route (payload.getD Ending.unknownPanic)]
  | _ => []

def onTheSpot (handler : Handler σ) (route : String) (request : Request) (response : Response)
    (world : World σ) : Invocation σ :=
  let run := handler request response world.state
  let changed := run.moments.foldl (fun w m => { w with state := m.change w.state }) world
  let (world, events) := changed.spend run.duration
  { parts := some (run.request, run.response)
    result := resultOf run.ending
    world
    events := run.moments.flatMap (·.events) ++ events ++ panicEvents route run.ending }

def lateFailure (limit : Nat) : Failure :=
  .ofService
    ⟨.unavailable, "Handler did not complete within " ++ toString limit ++ " ms", {}, none⟩

def late (route : String) (limit time : Nat) (world : World σ) (before : List Event)
    (began : Bool) : Invocation σ :=
  let (world, events) := world.advance time
  { parts := none
    result := .error (lateFailure limit)
    world
    events := before ++ events ++ [.handlerTimedOut route limit]
    began }

/-- Attends a run that begins now in a slot, for a caller who asked for it at a time and waits no
longer than the limit. -/
def attended (limit : Option Nat) (route : String) (asked : Nat) (run : HandlerRun σ)
    (world : World σ) (before : List Event) : Invocation σ :=
  let ends := world.clock + run.duration
  let started := world.start run (panicEvents route run.ending)
  match limit.filter fun limit => asked + limit < ends with
  | some limit => late route limit (asked + limit) started before true
  | none =>
    let done := started.advance ends
    { parts := some (run.request, run.response)
      result := resultOf run.ending
      world := done.1
      events := before ++ done.2 }

/-- Waits for a slot and runs a handler in it, for as long as the limit allows. A free slot is taken
however short the limit is. -/
def pooled (limit : Option Nat) (handler : Handler σ) (route : String) (request : Request)
    (response : Response) (world : World σ) : Invocation σ :=
  let asked := world.clock
  let begin := world.nextSlot
  match limit.filter fun limit => asked < begin && asked + limit ≤ begin with
  | some limit => late route limit (asked + limit) world [] false
  | none =>
    let waited := world.advance begin
    attended limit route asked (handler request response waited.1.state) waited.1 waited.2

def run (workers : Workers) (handler : Handler σ) (route : String) (request : Request)
    (response : Response) (world : World σ) : Invocation σ :=
  if workers.slots = 0 then onTheSpot handler route request response world
  else pooled workers.limit handler route request response world

end Invocation

end Switchboard
