import Switchboard.Failure.Reply
import Switchboard.Format.Registry

namespace Switchboard.Response

/-- The response that tells of a failure. Of what earlier stages made, only their header fields stay,
and of these not the content type. -/
def failedWith (r : Response) (reply : ErrorReply) : Response :=
  reply.apply { r.removeHeader .contentType with serialized := true }

/-- Whether the body waits for a serializer. That of a failure always does. -/
def awaitsRendering (r : Response) (failed : Bool) : Bool :=
  r.status.allowsContent && (failed || r.serialized) && r.body.isStructured

def withText (r : Response) : Except SerializationError (Option String) → Response
  | .ok (some text) => { r with body := .text text }
  | .ok none => r
  | .error _ => r

/-- Renders a body that waits for it, where there are settings to render with. -/
def rendered (r : Response) (settings : Option Settings) (failed : Bool) :
    Logged (Response × Except SerializationError Unit) :=
  if r.awaitsRendering failed then
    match settings with
    | none => .silent (r, .ok ())
    | some settings =>
      let attempt := settings.render r
      ⟨(attempt.result.1.withText attempt.result.2, attempt.result.2.map fun _ => ()),
        attempt.events⟩
  else .silent (r, .ok ())

/-- The message of an error body, or else the reason of the status. -/
def plainMessage (r : Response) : String :=
  ((r.body.value?.bind (·.field? "message")).bind (·.text?)).getD (r.status.reason?.getD "Error")

def plain (r : Response) : Logged Response :=
  { r with body := .text r.plainMessage }.setContentType plainText

end Switchboard.Response
