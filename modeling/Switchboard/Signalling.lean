import Switchboard.Shutdown

namespace Switchboard

/-- A call that gives the signal. It owes the messages if it is the one that set the flag. -/
inductive Giver where
  | called
  | owing
  | returned
  deriving DecidableEq, Repr

/-- A call that waits for the signal, with its subscription as long as there is one, and what it
returned on. -/
inductive Waiter where
  | called
  | subscribed (id : Nat)
  | listening (id : Nat)
  | sawFlag
  | gotMessage
  deriving DecidableEq, Repr

structure Signalling where
  signal : Shutdown := {}
  givers : List Giver := []
  waiters : List Waiter := []
  deriving DecidableEq, Repr

namespace Signalling

inductive Move where
  | give
  | wait
  | swap (giver : Nat)
  | send (giver : Nat)
  | subscribe (waiter : Nat)
  | look (waiter : Nat)
  | receive (waiter : Nat)
  deriving DecidableEq, Repr

def setGiver (c : Signalling) (i : Nat) (g : Giver) (signal : Shutdown) : Signalling :=
  { c with signal, givers := c.givers.set i g }

def setWaiter (c : Signalling) (j : Nat) (w : Waiter) (signal : Shutdown) : Signalling :=
  { c with signal, waiters := c.waiters.set j w }

def swap? (c : Signalling) (i : Nat) : Option Signalling :=
  match c.givers[i]? with
  | some .called =>
    match c.signal.swap with
    | (true, signal) => some (c.setGiver i .returned signal)
    | (false, signal) => some (c.setGiver i .owing signal)
  | _ => none

def send? (c : Signalling) (i : Nat) : Option Signalling :=
  match c.givers[i]? with
  | some .owing => some (c.setGiver i .returned c.signal.send)
  | _ => none

def subscribe? (c : Signalling) (j : Nat) : Option Signalling :=
  match c.waiters[j]? with
  | some .called =>
    let (id, signal) := c.signal.subscribe
    some (c.setWaiter j (.subscribed id) signal)
  | _ => none

/-- Who finds the flag set returns, and with that its subscription ends. -/
def look? (c : Signalling) (j : Nat) : Option Signalling :=
  match c.waiters[j]? with
  | some (.subscribed id) =>
    if c.signal.triggered then some (c.setWaiter j .sawFlag (c.signal.unsubscribe id))
    else some (c.setWaiter j (.listening id) c.signal)
  | _ => none

def receive? (c : Signalling) (j : Nat) : Option Signalling :=
  match c.waiters[j]? with
  | some (.listening id) =>
    if c.signal.hasMessage id then some (c.setWaiter j .gotMessage (c.signal.unsubscribe id))
    else none
  | _ => none

def step? (c : Signalling) : Move → Option Signalling
  | .give => some { c with givers := c.givers ++ [.called] }
  | .wait => some { c with waiters := c.waiters ++ [.called] }
  | .swap i => c.swap? i
  | .send i => c.send? i
  | .subscribe j => c.subscribe? j
  | .look j => c.look? j
  | .receive j => c.receive? j

def run? (c : Signalling) (moves : List Move) : Option Signalling := moves.foldlM step? c

end Signalling

end Switchboard
