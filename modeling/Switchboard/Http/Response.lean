import Switchboard.Http.Headers
import Switchboard.Http.Status
import Switchboard.Journal.Event
import Switchboard.Value.Printer

namespace Switchboard

inductive Body where
  | empty
  | value (v : Value)
  | text (s : String)
  | bytes (b : Bytes)
  deriving Inhabited

namespace Body

/-- A structured body is never empty, not even one that holds null. -/
def isEmpty : Body → Bool
  | empty => true
  | value _ => false
  | text s => s.isEmpty
  | bytes b => b.isEmpty

/-- Whether a serializer can render it. -/
def isStructured : Body → Bool
  | value _ => true
  | _ => false

def value? : Body → Option Value
  | value v => some v
  | _ => none

/-- The octets on the wire when no serializer was asked. -/
def toBytes : Body → Bytes
  | empty => []
  | value v => Utf8.encode v.compact
  | text s => Utf8.encode s
  | bytes b => b

end Body

structure Response where
  status : Status := .ok
  headers : Headers := {}
  body : Body := .empty
  /-- Whether a structured body is meant for the serializer. -/
  serialized : Bool := true

namespace Response

/-- The content type of bodies that no serializer rendered. -/
def plainText : String := "text/plain; charset=UTF-8"

def contentType? (r : Response) : Option String := r.headers.text? .contentType

def setHeader (r : Response) (name : HeaderName) (value : HeaderValue) : Response :=
  { r with headers := r.headers.insert name value }

def addHeader (r : Response) (name : HeaderName) (value : HeaderValue) : Response :=
  { r with headers := r.headers.append name value }

def removeHeader (r : Response) (name : HeaderName) : Response :=
  { r with headers := r.headers.remove name }

/-- Sets the content type. A text that no header can carry is reported and changes nothing. -/
def setContentType (r : Response) (mediaType : String) : Logged Response :=
  match HeaderValue.ofText? mediaType with
  | some value => .silent (r.setHeader .contentType value)
  | none => ⟨r, [.contentTypeIgnored mediaType]⟩

def typed (r : Response) (mediaType : String) : Logged Response :=
  match r.contentType? with
  | some _ => .silent r
  | none => r.setContentType mediaType

def hasBody (r : Response) : Bool := !r.body.isEmpty

def enforced (r : Response) : Response :=
  if r.status.allowsContent then r
  else { r with body := .empty, headers := r.headers.remove .contentLength }

/-- `enforced`, with a line in the log when that drops a body. -/
def enforce (r : Response) : Logged Response :=
  let dropsBody := !r.status.allowsContent && r.hasBody
  ⟨r.enforced, if dropsBody then [.bodyDropped r.status.text] else []⟩

end Response

end Switchboard
