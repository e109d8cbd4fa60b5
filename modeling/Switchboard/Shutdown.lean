namespace Switchboard

/-- The flag, the live subscriptions from the oldest on with whether a message waits for each, and
the number of the next subscription. -/
structure Shutdown where
  triggered : Bool := false
  subscriptions : List (Nat × Bool) := []
  next : Nat := 0
  deriving DecidableEq, Repr

namespace Shutdown

def subscribe (s : Shutdown) : Nat × Shutdown :=
  (s.next, { s with subscriptions := s.subscriptions ++ [(s.next, false)], next := s.next + 1 })

def unsubscribe (s : Shutdown) (id : Nat) : Shutdown :=
  { s with subscriptions := s.subscriptions.filter (·.1 ≠ id) }

def dropOldest (s : Shutdown) : Shutdown := { s with subscriptions := s.subscriptions.drop 1 }

/-- Sets the flag; returns whether it was set before. -/
def swap (s : Shutdown) : Bool × Shutdown := (s.triggered, { s with triggered := true })

def send (s : Shutdown) : Shutdown :=
  { s with subscriptions := s.subscriptions.map fun (id, _) => (id, true) }

/-- Gives the signal. Only the first time matters. -/
def trigger (s : Shutdown) : Shutdown :=
  match s.swap with
  | (true, s) => s
  | (false, s) => s.send

/-- Takes the messages of all subscriptions; tells for each whether there was one. -/
def poll (s : Shutdown) : List Bool × Shutdown :=
  (s.subscriptions.map (·.2),
    { s with subscriptions := s.subscriptions.map fun (id, _) => (id, false) })

def receiverCount (s : Shutdown) : Nat := s.subscriptions.length

def hasMessage (s : Shutdown) (id : Nat) : Bool := (s.subscriptions.lookup id).getD false

/-- A waiter subscribes, looks at the flag and only then waits for its message: whether it goes on,
when `meanwhile` happens between. -/
def waitDuring (meanwhile : Shutdown → Shutdown) (s : Shutdown) : Bool × Shutdown :=
  let (id, s) := s.subscribe
  let seen := s.triggered
  let s := meanwhile s
  (seen || s.hasMessage id, s.unsubscribe id)

def wait (s : Shutdown) : Bool × Shutdown := s.waitDuring id

end Shutdown

end Switchboard
