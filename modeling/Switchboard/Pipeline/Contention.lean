import Switchboard.Pipeline.Workers

namespace Switchboard

/-- How far an invocation has come. -/
inductive Phase where
  | queued
  | granted
  | admitted
  | running
  | ended
  deriving DecidableEq, Repr

namespace Phase

def waits : Phase → Bool
  | queued | granted | admitted => true
  | running | ended => false

def holdsSlot : Phase → Bool
  | granted | admitted | running => true
  | queued | ended => false

end Phase

/-- An invocation and what its caller has been told, nothing as long as it waits. -/
structure Turn where
  phase : Phase := .queued
  told : Option (Except Failure (Option Body)) := none

inductive Turn.Act where
  | grant
  | spawn
  | begin
  | conclude (ending : Ending (Option Body))
  | giveUp

namespace Turn

/-- The caller goes away. Its task is dropped with it, and so is a slot that is still the task's
own. -/
def abandon (t : Turn) (limit : Nat) (p : Pool) : Turn × Pool :=
  let told := some (.error (Invocation.lateFailure limit))
  match t.phase with
  | .queued => ({ phase := .ended, told }, p)
  | .granted => ({ phase := .ended, told }, p.release)
  | phase => ({ phase, told }, p)

/-- The handler ends. That matters to a caller that still waits only. -/
def conclude (t : Turn) (ending : Ending (Option Body)) : Turn :=
  { phase := .ended, told := some (t.told.getD (Invocation.resultOf ending)) }

/-- What a step makes of the invocation and of the pool. Only a caller that waits, and not for ever,
gives up. -/
def act? (limit : Option Nat) (t : Turn) (p : Pool) : Act → Option (Turn × Pool)
  | .grant =>
    if t.phase = .queued then p.acquire?.map ({ t with phase := .granted }, ·) else none
  | .spawn => if t.phase = .granted then some ({ t with phase := .admitted }, p) else none
  | .begin => if t.phase = .admitted then some ({ t with phase := .running }, p) else none
  | .conclude ending =>
    if t.phase = .running then some (t.conclude ending, p.release) else none
  | .giveUp => if t.told.isNone then limit.map (t.abandon · p) else none

end Turn

/-- The pool and all invocations there have been, in the order in which they came. -/
structure Contention where
  pool : Pool
  turns : List Turn := []

inductive Contention.Move where
  | arrive
  | act (turn : Nat) (act : Turn.Act)

namespace Contention

def step? (limit : Option Nat) (c : Contention) : Move → Option Contention
  | .arrive => some { c with turns := c.turns ++ [{}] }
  | .act i act =>
    match c.turns[i]? with
    | some t => (t.act? limit c.pool act).map fun (t, pool) => ⟨pool, c.turns.set i t⟩
    | none => none

def run? (limit : Option Nat) (c : Contention) (moves : List Move) : Option Contention :=
  moves.foldlM (step? limit) c

end Contention

end Switchboard
