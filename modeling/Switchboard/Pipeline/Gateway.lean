import Switchboard.Pipeline.Run

namespace Switchboard

structure Arrival where
  method : Method
  target : Target
  version : Version := .http11
  headers : Headers := {}
  body : Bytes := []
  peer : Option Address := none

namespace Arrival

def toRequest (a : Arrival) : Request :=
  .ofParts a.method a.target a.version a.headers a.body a.peer

def size? (s : String) : Option Nat :=
  let ds := match s.toList with
    | '+' :: rest => rest
    | cs => cs
  let n := ds.foldl (fun n c => n * 10 + (c.toNat - '0'.toNat)) 0
  if ds.isEmpty || !ds.all Char.isDigit || Nat.pow 2 64 ≤ n then none else some n

def announced? (a : Arrival) : Option Nat := (a.headers.text? .contentLength).bind size?

end Arrival

namespace Gateway

def overflowText : String := "length limit exceeded"

def refusal (text : String) : Wire where
  status := .payloadTooLarge
  headers := Headers.empty.insert .contentType (.ofText "text/plain; charset=utf-8")
  body := Utf8.encode text

/-- Refuses an announced length over the limit at once, and a body longer than announced or allowed
once it has been read. -/
def accept (limit : Nat) (a : Arrival) : Logged (Except Wire Request) :=
  let allowed := match a.announced? with
    | some n => min n limit
    | none => limit
  if a.announced?.any (limit < ·) then .silent (.error (refusal overflowText))
  else if allowed < a.body.length then
    ⟨.error (refusal ("Request body exceeds " ++ toString limit ++ " bytes")),
      [.bodyRefused a.method.name a.target.path limit overflowText]⟩
  else .silent (.ok a.toRequest)

/-- The answer for the transport: its length is announced, and only that of the answer to `HEAD`. A
successful answer to `CONNECT` has neither. -/
def finished (method : Method) (w : Wire) : Wire :=
  if method = .connect ∧ w.status.isSuccess then
    if w.headers.contains .contentLength || w.headers.contains ⟨"transfer-encoding"⟩ ||
      !w.body.isEmpty then { w with body := [] }
    else w
  else
    let headers :=
      if w.headers.contains .contentLength then w.headers
      else w.headers.insert .contentLength (.ofText (toString w.body.length))
    { w with headers, body := if method = .head then [] else w.body }

def serve {σ : Type} (p : Pipeline σ) (limit : Nat) (a : Arrival) (world : World σ) :
    Wire × World σ × Journal :=
  let ⟨accepted, events⟩ := accept limit a
  match accepted with
  | .error wire => (finished a.method wire, world, events.map .event)
  | .ok request =>
    let (wire, s) := p.execute request world
    (finished a.method wire, s.world, s.journal)

end Gateway

end Switchboard
