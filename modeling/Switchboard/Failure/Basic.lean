import Switchboard.Http.Response

namespace Switchboard

/-- What kind of failure a service error is, which fixes its status. -/
inductive ErrorKind where
  | badRequest
  | unauthorized
  | forbidden
  | notFound
  | methodNotAllowed
  | notAcceptable
  | conflict
  | unsupportedMediaType
  | internal
  | notImplemented
  | unavailable
  | other (status : Status)
  deriving DecidableEq, Repr

namespace ErrorKind

def status : ErrorKind → Status
  | badRequest => { code := 400 }
  | unauthorized => { code := 401 }
  | forbidden => { code := 403 }
  | notFound => { code := 404 }
  | methodNotAllowed => { code := 405 }
  | notAcceptable => { code := 406 }
  | conflict => { code := 409 }
  | unsupportedMediaType => { code := 415 }
  | internal => { code := 500 }
  | notImplemented => { code := 501 }
  | unavailable => { code := 503 }
  | other s => s

def text (k : ErrorKind) : String := toString k.status.code ++ " " ++ k.status.reason

end ErrorKind

/-- A failure that knows its status, and what it adds to the response. -/
structure ServiceError where
  kind : ErrorKind
  message : String
  headers : Headers := {}
  details : Option Value := none

namespace ServiceError

def status (e : ServiceError) : Status := e.kind.status

def text (e : ServiceError) : String := e.kind.text ++ ": " ++ e.message

def addHeader (e : ServiceError) (name : HeaderName) (value : HeaderValue) : ServiceError :=
  { e with headers := e.headers.append name value }

/-- The wrong method for a path; the methods that would do are listed in the `Allow` header. -/
def wrongMethod (method : Method) (path : String) (allowed : List Method) : ServiceError :=
  let list := ", ".intercalate (allowed.map (·.name))
  let error : ServiceError :=
    ⟨.methodNotAllowed,
      method.name ++ " is not supported for " ++ path ++ " (allowed: " ++ list ++ ")", {}, none⟩
  match HeaderValue.ofText? list with
  | some value => error.addHeader .allow value
  | none => error

def augment (e : ServiceError) (r : Response) : Response :=
  { r with status := e.status, headers := r.headers.appendAll e.headers }

end ServiceError

inductive SerializationError where
  | encode (format message : String)
  | decode (format message : String)
  | unsupported (format : String)
  deriving DecidableEq, Repr

def SerializationError.text : SerializationError → String
  | .encode format message => "failed to render response as " ++ format ++ ": " ++ message
  | .decode format message => "failed to read request body as " ++ format ++ ": " ++ message
  | .unsupported format => format ++ " request bodies are not supported"

/-- One link of a failure. Errors of the application carry the name of their type. -/
inductive Cause where
  | service (e : ServiceError)
  | serialization (e : SerializationError)
  | application (type message : String)
  | plain (message : String)

namespace Cause

def text : Cause → String
  | service e => e.text
  | serialization e => e.text
  | application _ message => message
  | plain message => message

def service? : Cause → Option ServiceError
  | service e => some e
  | _ => none

end Cause

structure Failure where
  cause : Cause
  sources : List Cause := []

namespace Failure

/-- The causes from the outermost to the deepest. -/
def chain (f : Failure) : List Cause := f.cause :: f.sources

def text (f : Failure) : String := f.cause.text

def rootCause (f : Failure) : Cause := f.sources.getLastD f.cause

def ofService (e : ServiceError) : Failure := ⟨.service e, []⟩

def ofText (message : String) : Failure := ⟨.plain message, []⟩

def wrap (f : Failure) (outer : Cause) : Failure := ⟨outer, f.chain⟩

def genericMessage : String := "Internal Server Error"

/-- The service error for a serialization error, with that error under it. What a renderer says
stays out of the message. -/
def ofSerialization (e : SerializationError) : Failure :=
  let outer : ServiceError :=
    match e with
    | .decode .. => ⟨.badRequest, e.text, {}, none⟩
    | .unsupported .. => ⟨.unsupportedMediaType, e.text, {}, none⟩
    | .encode .. => ⟨.internal, genericMessage, {}, none⟩
  ⟨.service outer, [.serialization e]⟩

@[simp] theorem chain_wrap (f : Failure) (outer : Cause) :
    (f.wrap outer).chain = outer :: f.chain := rfl

theorem getLast?_chain (f : Failure) : f.chain.getLast? = some f.rootCause := by
  simp [chain, rootCause, List.getLast?_cons, List.getLastD_eq_getLast?]

end Failure

end Switchboard
