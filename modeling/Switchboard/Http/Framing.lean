import Switchboard.Http.Request
import Switchboard.Http.Response

namespace Switchboard

structure Wire where
  status : Status
  headers : Headers
  body : Bytes
  deriving DecidableEq

namespace Wire

def content (r : Response) : Bytes :=
  if r.hasBody && r.status.allowsContent then r.body.toBytes else []

def ownHeaders (r : Response) : Headers :=
  (r.headers.remove .contentLength).remove .connection

/-- Whether the end of the connection is not announced: either the version has no such field, or
both sides keep the connection open. -/
def staysOpen (keepAlive : Bool) (request : Request) : Bool :=
  !request.version.hasConnectionFields || (keepAlive && request.keepsAlive)

def withLength (status : Status) (length : Nat) (h : Headers) : Headers :=
  if status.allowsLength then h.insert .contentLength (.ofText (toString length)) else h

/-- An old connection that stays open says so. -/
def withPersistence (version : Version) (h : Headers) : Headers :=
  if version = .http10 then h.insert .connection (.ofText "keep-alive") else h

def ofResponse (keepAlive : Bool) (request : Request) (r : Response) : Wire :=
  let body := content r
  let headers :=
    if staysOpen keepAlive request then
      withPersistence request.version (withLength r.status body.length (ownHeaders r))
    else (ownHeaders r).insert .connection (.ofText "close")
  ⟨r.status, headers, body⟩

end Wire

end Switchboard
