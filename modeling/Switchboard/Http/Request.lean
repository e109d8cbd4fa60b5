import Switchboard.Http.Address
import Switchboard.Http.Headers
import Switchboard.Http.Target
import Switchboard.Http.Version
import Switchboard.Text.Blank
import Switchboard.Text.Form
import Switchboard.Value.Basic

namespace Switchboard

structure Request where
  method : Method
  target : Target
  /-- The identifier that the client gave; a request without one gets an identifier of its own. -/
  clientId : Option String := none
  version : Version := .http11
  headers : Headers := {}
  query : List (String × String) := []
  body : Bytes := []
  /-- How many octets of the body have been read. -/
  position : Nat := 0
  peer : Option Address := none
  params : List (String × String) := []
  format : Option String := none
  routeName : Option String := none
  /-- What earlier hooks left for later ones. -/
  attachment : Option Value := none

namespace Request

def ofTarget (method : Method) (target : Target) : Request :=
  { method, target, query := (target.query.map Form.parse).getD [] }

/-- A request as it arrives. An identifier in its headers is taken over. -/
def ofParts (method : Method) (target : Target) (version : Version) (headers : Headers)
    (body : Bytes) (peer : Option Address) : Request :=
  { ofTarget method target with
    version, headers, body, peer
    clientId := (headers.text? .requestId).filter (· ≠ "") }

def path (r : Request) : String := r.target.path

def queryParam? (r : Request) (name : String) : Option String := r.query.lookup name

def queryParams (r : Request) (name : String) : List String :=
  (r.query.filter fun p => p.1 = name).map (·.2)

def hasBody (r : Request) : Bool := !r.body.isEmpty

def remaining (r : Request) : Bytes := r.body.drop r.position

def read (r : Request) (count : Nat) : Bytes × Request :=
  let bytes := r.remaining.take count
  (bytes, { r with position := r.position + bytes.length })

def rewind (r : Request) : Request := { r with position := 0 }

def withBody (r : Request) (body : Bytes) : Request := { r with body, position := 0 }

/-- The words of all readable `Connection` fields, in lower case. -/
def connectionTokens (r : Request) : List String :=
  (r.headers.texts .connection).flatMap fun line =>
    (Text.split ',' line).map fun token => Text.lowercase (Text.trim token)

def keepsAlive (r : Request) : Bool :=
  if r.connectionTokens.contains "close" then false
  else r.version.persistsByDefault || r.connectionTokens.contains "keep-alive"

@[simp] theorem remaining_rewind (r : Request) : r.rewind.remaining = r.body := by
  simp [rewind, remaining]

theorem read_append_remaining (r : Request) (count : Nat) :
    (r.read count).1 ++ (r.read count).2.remaining = r.remaining := by
  simp only [read, remaining, ← List.drop_drop]
  generalize r.body.drop r.position = left
  by_cases h : count ≤ left.length
  · rw [List.length_take, Nat.min_eq_left h, List.take_append_drop]
  · rw [List.take_of_length_le (by omega), List.drop_length, List.append_nil]

end Request

end Switchboard
