import Switchboard.Http.Framing
import Switchboard.Journal.Event
import Switchboard.Journal.Metrics

namespace Switchboard

inductive Callback where
  | received
  | exception
  | success
  | complete
  deriving DecidableEq, Repr

def Callback.text : Callback → String
  | received => "on_received"
  | exception => "on_exception"
  | success => "on_success"
  | complete => "on_complete"

/-- A call of application code. The handler's call shows what was left to read of the body, an
observer's the stage and the status at the time. -/
inductive Call where
  | preprocessor (index : Nat)
  | handler (remaining : Bytes)
  | postprocessor (index : Nat)
  | finallyHook (index : Nat)
  | observer (index : Nat) (callback : Callback) (stage : Stage) (status : Status)
  deriving DecidableEq

inductive Entry where
  | event (e : Event)
  | sample (s : Sample)
  | called (c : Call) (succeeded : Bool)
  | wrote (w : Wire)
  deriving DecidableEq

namespace Entry

def event? : Entry → Option Event
  | event e => some e
  | _ => none

def sample? : Entry → Option Sample
  | sample s => some s
  | _ => none

def call? : Entry → Option (Call × Bool)
  | called c succeeded => some (c, succeeded)
  | _ => none

end Entry

abbrev Journal := List Entry

namespace Journal

def events (j : Journal) : List Event := j.filterMap Entry.event?

def samples (j : Journal) : List Sample := j.filterMap Entry.sample?

def calls (j : Journal) : List (Call × Bool) := j.filterMap Entry.call?

end Journal

end Switchboard
