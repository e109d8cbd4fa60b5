import Switchboard.Failure.Basic

namespace Switchboard

inductive CauseType where
  | application (type : String)
  | serialization
  deriving DecidableEq, Repr

def CauseType.matches (t : CauseType) (c : Cause) : Bool :=
  match t, c with
  | .application type, .application found _ => type == found
  | .serialization, .serialization _ => true
  | _, _ => false

/-- Registered types with the kind of service error they stand for, in order of registration. -/
structure Mapping where
  entries : List (CauseType × ErrorKind) := []

/-- The service error of the earliest entry whose type occurs in the chain, with the text of the
outermost cause of that type. -/
def Mapping.lookup? (m : Mapping) (f : Failure) : Option ServiceError :=
  m.entries.findSome? fun (type, kind) =>
    (f.chain.find? type.matches).map fun cause => ⟨kind, cause.text, {}, none⟩

structure ErrorPayload where
  status : Status
  message : String
  details : Option Value := none

def ErrorPayload.value (p : ErrorPayload) : Value :=
  let details := p.details.toList.map fun v => ("details", v)
  Value.ofFields <|
    ("code", .ofNat p.status.code) :: details ++
      [("message", .text p.message), ("status", .text p.status.reason)]

/-- Status, headers and body of an error response, and the deepest cause for the log. -/
structure ErrorReply where
  status : Status
  headers : Headers
  payload : ErrorPayload
  rootCause : String

namespace ErrorReply

def ofServiceError (e : ServiceError) (rootCause : String) : ErrorReply :=
  ⟨e.status, e.headers, ⟨e.status, e.message, e.details⟩, rootCause⟩

/-- The answer to a failure that must not be told. -/
def generic (rootCause : String) : ErrorReply :=
  let status := ErrorKind.internal.status
  ⟨status, {}, ⟨status, Failure.genericMessage, none⟩, rootCause⟩

def apply (reply : ErrorReply) (r : Response) : Response :=
  { r with
    status := reply.status
    headers := r.headers.appendAll reply.headers
    body := .value reply.payload.value }

end ErrorReply

/-- The reply to a failure; one that nobody described is reported. -/
def Mapping.reply (m : Mapping) (f : Failure) : Logged ErrorReply :=
  let root := f.rootCause.text
  match f.chain.findSome? Cause.service? with
  | some e => .silent (.ofServiceError e root)
  | none =>
    match m.lookup? f with
    | some e => .silent (.ofServiceError e root)
    | none => ⟨.generic root, [.unmapped root]⟩

end Switchboard
