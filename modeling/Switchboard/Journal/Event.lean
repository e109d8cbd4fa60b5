import Switchboard.Pipeline.Stage
import Switchboard.Value.Basic

namespace Switchboard

inductive Level where
  | trace
  | debug
  | info
  | warn
  | error
  deriving DecidableEq, Repr

inductive Event where
  | dispatching (method path : String)
  | transition (source target : Stage)
  | shadowed (method route earlier : String)
  | tableSealed (routes : Nat)
  | withoutSerializers
  | formatUnserved (format : String)
  | contentTypeIgnored (mediaType : String)
  | bodyDropped (status : String)
  | bodyRefused (method path : String) (limit : Nat) (error : String)
  | handlerTimedOut (route : String) (limit : Nat)
  | handlerPanicked (route payload : String)
  | unmapped (rootCause : String)
  | failed (method path : String) (status : Nat) (error rootCause : String)
  | rejected (status : Nat) (error : String)
  | errorUnrendered (error : String)
  | hookFailed (stage error : String)
  | completed (method path route : String) (status : Nat)
  | completedWithFailure (method path : String) (status : Nat) (error : String)
  deriving DecidableEq, Repr

namespace Event

def level : Event → Level
  | transition .. => .trace
  | dispatching .. | tableSealed .. | bodyDropped .. | unmapped .. | rejected .. => .debug
  | completed .. | completedWithFailure .. => .info
  | shadowed .. | withoutSerializers | formatUnserved .. | contentTypeIgnored .. | bodyRefused .. |
    handlerTimedOut .. | hookFailed .. => .warn
  | handlerPanicked .. | failed .. | errorUnrendered .. => .error

def message : Event → String
  | dispatching .. => "Dispatching request"
  | transition .. => "Pipeline transition"
  | shadowed .. => "Route can never match, an earlier route covers every path"
  | tableSealed .. => "Route table sealed"
  | withoutSerializers =>
    "No serializers registered, structured bodies will be written as raw JSON"
  | formatUnserved .. => "Route default format has no serializer"
  | contentTypeIgnored .. => "Ignoring invalid content type"
  | bodyDropped .. => "Dropping body not permitted for status"
  | bodyRefused .. => "Rejecting request body"
  | handlerTimedOut .. => "Handler timed out"
  | handlerPanicked .. => "Handler panicked"
  | unmapped .. => "Unmapped failure translated to 500"
  | failed .. => "Request failed"
  | rejected .. => "Request rejected"
  | errorUnrendered .. => "Failed to render error body"
  | hookFailed .. => "Hook failed, continuing"
  | completed .. => "Request completed"
  | completedWithFailure .. => "Request completed with failure"

def fields : Event → List (String × Value)
  | dispatching method path => [("method", .text method), ("path", .text path)]
  | transition source target => [("from", .text source.text), ("to", .text target.text)]
  | shadowed method route earlier =>
    [("method", .text method), ("route", .text route), ("shadowed_by", .text earlier)]
  | tableSealed routes => [("routes", .ofNat routes)]
  | withoutSerializers => []
  | formatUnserved format => [("format", .text format)]
  | contentTypeIgnored mediaType => [("media_type", .text mediaType)]
  | bodyDropped status => [("status", .text status)]
  | bodyRefused method path limit error =>
    [("error", .text error), ("limit", .ofNat limit), ("method", .text method),
     ("path", .text path)]
  | handlerTimedOut route limit => [("route", .text route), ("timeout_ms", .ofNat limit)]
  | handlerPanicked route payload => [("panic", .text payload), ("route", .text route)]
  | unmapped rootCause => [("root_cause", .text rootCause)]
  | failed method path status error rootCause =>
    [("error", .text error), ("method", .text method), ("path", .text path),
     ("root_cause", .text rootCause), ("status", .ofNat status)]
  | rejected status error => [("error", .text error), ("status", .ofNat status)]
  | errorUnrendered error => [("error", .text error)]
  | hookFailed stage error => [("error", .text error), ("stage", .text stage)]
  | completed method path route status =>
    [("method", .text method), ("path", .text path), ("route", .text route),
     ("status", .ofNat status)]
  | completedWithFailure method path status error =>
    [("error", .text error), ("method", .text method), ("path", .text path),
     ("status", .ofNat status)]

end Event

/-- A result with what was logged on the way to it. -/
structure Logged (α : Type) where
  result : α
  events : List Event

namespace Logged

variable {α ε : Type}

def silent (result : α) : Logged α := ⟨result, []⟩

def after (logged : Logged α) (events : List Event) : Logged α :=
  ⟨logged.result, events ++ logged.events⟩

/-- Errors may be taken without what was logged before them. -/
instance : Coe (Except (Logged ε) α) (Except ε α) := ⟨Except.mapError result⟩

theorem after_append (logged : Logged α) (first second : List Event) :
    logged.after (first ++ second) = (logged.after second).after first :=
  congrArg (Logged.mk logged.result) (List.append_assoc ..)

end Logged

end Switchboard
