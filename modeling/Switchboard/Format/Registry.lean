import Switchboard.Format.Serializer
import Switchboard.Http.Request
import Switchboard.Text.Blank
import Switchboard.Text.Pieces
import Switchboard.Value.Shape

namespace Switchboard

/-- Type and subtype of a media type in lower case, without parameters. -/
def essence (mediaType : String) : String :=
  Text.lowercase (Text.trim (String.ofList (mediaType.toList.takeWhile (· ≠ ';'))))

/-- A media type and the serializer that produces it, with the place at which that is registered. -/
structure Settings where
  mediaType : String
  serializer : Serializer
  slot : Nat

namespace Settings

def same (s t : Settings) : Bool := s.mediaType == t.mediaType && s.slot == t.slot

def format? (s : Settings) : Option String := s.serializer.formats.head?

/-- The first token, or the media type where there is none. -/
def label (s : Settings) : String := s.format?.getD s.mediaType

def render (s : Settings) (r : Response) :
    Logged (Response × Except SerializationError (Option String)) :=
  let typed := r.typed s.mediaType
  ⟨(typed.result, s.serializer.serialize typed.result), typed.events⟩

def readValue (s : Settings) (request : Request) : Except Failure Value :=
  (s.serializer.deserialize request.body).mapError Failure.ofSerialization

def shapeFailure (fault : ShapeFault) : Failure :=
  ⟨.service ⟨.badRequest, "Invalid request body: " ++ fault.message, {}, none⟩,
    [.plain fault.message]⟩

def readShape (s : Settings) (shape : Shape) (request : Request) : Except Failure Value := do
  let v ← s.readValue request
  (shape.read v).mapError shapeFailure

end Settings

/-- Serializers in order of registration, and the token of the one to use without a preference. -/
structure Registry where
  serializers : List Serializer := []
  defaultFormat : Option String := none

namespace Registry

def register (r : Registry) (s : Serializer) : Registry :=
  { r with serializers := r.serializers ++ [s] }

def withDefault (r : Registry) (format : String) : Registry :=
  { r with defaultFormat := some format }

def standard : Registry := ⟨[.json, .xml], some "json"⟩

def isEmpty (r : Registry) : Bool := r.serializers.isEmpty

def primary? (entry : Serializer × Nat) : Option Settings :=
  entry.1.mediaTypes.head?.map fun m => ⟨m, entry.1, entry.2⟩

/-- The settings for a format token, asked for in any case. -/
def forFormat? (r : Registry) (format : String) : Option Settings :=
  let wanted := Text.lowercase format
  (r.serializers.zipIdx.find? fun entry => entry.1.formats.contains wanted).bind primary?

def supportsFormat (r : Registry) (format : String) : Bool := (r.forFormat? format).isSome

def forMediaType? (r : Registry) (mediaType : String) : Option Settings :=
  let wanted := essence mediaType
  r.serializers.zipIdx.findSome? fun (s, slot) =>
    (s.mediaTypes.find? fun m => essence m == wanted).map fun m => ⟨m, s, slot⟩

/-- Settings for every claimed media type, in order of registration. -/
def choices (r : Registry) : List Settings :=
  r.serializers.zipIdx.flatMap fun (s, slot) => s.mediaTypes.map fun m => ⟨m, s, slot⟩

/-- The settings for the default format, or else those of the serializer registered first. -/
def default? (r : Registry) : Option Settings :=
  (r.defaultFormat.bind r.forFormat?).or (r.serializers.zipIdx.head?.bind primary?)

end Registry

end Switchboard
