import Switchboard.Failure.Basic
import Switchboard.Value.Reader
import Switchboard.Xml.Writer

namespace Switchboard

structure Serializer where
  /-- The tokens that ask for it. -/
  formats : List String
  /-- The media types that ask for it; the first is the one it answers with. -/
  mediaTypes : List String
  /-- The text of a response body, or nothing if there is nothing to render. -/
  serialize : Response → Except SerializationError (Option String)
  deserialize : Bytes → Except SerializationError Value

namespace Serializer

def jsonMediaTypes : List String :=
  ["application/json; charset=UTF-8", "application/javascript; charset=UTF-8",
   "text/javascript; charset=UTF-8"]

/-- The value of a JSON text; no text at all reads as null. -/
def readJson (body : Bytes) : Except SerializationError Value :=
  if body.isEmpty then .ok .null
  else (Value.ofJson body).mapError fun e => .decode "json" e.message

def json : Serializer where
  formats := ["json"]
  mediaTypes := jsonMediaTypes
  serialize r := .ok (r.body.value?.map Value.compact)
  deserialize := readJson

def indentedJson : Serializer :=
  { json with serialize := fun r => .ok (r.body.value?.map Value.indented) }

/-- XML is written and never read. -/
def xml : Serializer where
  formats := ["xml"]
  mediaTypes := ["application/xml; charset=UTF-8", "text/xml; charset=UTF-8"]
  serialize r := .ok (r.body.value?.map Xml.document)
  deserialize _ := .error (.unsupported "xml")

end Serializer

end Switchboard
