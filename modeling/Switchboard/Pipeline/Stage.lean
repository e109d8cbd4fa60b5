namespace Switchboard

/-- Where a request is between its arrival and its end. -/
inductive Stage where
  | received
  | resolved
  | preprocessed
  | invoked
  | postprocessed
  | serialized
  | written
  | completed
  | excepted
  deriving DecidableEq, Repr

namespace Stage

def text : Stage → String
  | received => "received"
  | resolved => "resolved"
  | preprocessed => "preprocessed"
  | invoked => "invoked"
  | postprocessed => "postprocessed"
  | serialized => "serialized"
  | written => "written"
  | completed => "completed"
  | excepted => "excepted"

def isTerminal (s : Stage) : Bool := s == completed

end Stage

end Switchboard
