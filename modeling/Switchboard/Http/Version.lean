namespace Switchboard

inductive Version where
  | http09
  | http10
  | http11
  | http2
  | http3
  deriving DecidableEq, Repr

namespace Version

def text : Version → String
  | http09 => "HTTP/0.9"
  | http10 => "HTTP/1.0"
  | http11 => "HTTP/1.1"
  | http2 => "HTTP/2.0"
  | http3 => "HTTP/3.0"

def persistsByDefault : Version → Bool
  | http09 | http10 => false
  | _ => true

/-- Connection fields belong to the message only up to version 1.1. -/
def hasConnectionFields : Version → Bool
  | http2 | http3 => false
  | _ => true

end Version

end Switchboard
