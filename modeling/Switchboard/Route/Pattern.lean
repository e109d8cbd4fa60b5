import Switchboard.Text.Ascii
import Switchboard.Text.Percent
import Switchboard.Text.Pieces

namespace Switchboard

inductive Segment where
  | literal (text : String)
  | parameter (name : String)
  deriving DecidableEq, Repr

inductive PatternError where
  | noLeadingSlash (template : String)
  | unbalancedBraces (segment : String)
  | badName (template name : String)
  | repeatedName (template name : String)
  deriving DecidableEq, Repr

def PatternError.text : PatternError → String
  | noLeadingSlash template => "URL template must start with '/': " ++ template
  | unbalancedBraces segment => "unbalanced braces in URL template segment '" ++ segment ++ "'"
  | badName template name =>
    "invalid placeholder name '" ++ name ++ "' in URL template " ++ template
  | repeatedName template name =>
    "placeholder '" ++ name ++ "' appears more than once in URL template " ++ template

/-- What a path says about the placeholders of a pattern, in their order, and its format. -/
structure Match where
  params : List (String × String)
  format : Option String
  deriving DecidableEq, Repr

def Match.param? (m : Match) (name : String) : Option String := m.params.lookup name

structure Pattern where
  template : String
  /-- The template without its format suffix. -/
  path : String
  segments : List Segment
  declaresFormat : Bool
  deriving DecidableEq, Repr

namespace Path

def dropLeadingSlash : List Char → List Char
  | '/' :: rest => rest
  | cs => cs

def dropTrailingSlash (cs : List Char) : List Char :=
  if cs.getLast? = some '/' then cs.dropLast else cs

/-- The parts of a path between slashes, without the slash at its start and one at its end. -/
def segments (cs : List Char) : List (List Char) :=
  match dropTrailingSlash (dropLeadingSlash cs) with
  | [] => []
  | c :: rest => Text.pieces '/' (c :: rest)

def isFormatChar (c : Char) : Bool := Text.isAlphanumeric c || c == '_'

/-- Cuts a segment at its last point if a word follows it and something stands before it. -/
def splitFormat? (segment : List Char) : Option (List Char × List Char) :=
  match Text.cutLast? '.' segment with
  | none => none
  | some (bare, format) =>
    if bare.isEmpty || format.isEmpty || !format.all isFormatChar then none
    else some (bare, format)

def decode (raw : List Char) : String := Percent.decode (String.ofList raw)

end Path

namespace Segment

def isNameChar (c : Char) : Bool := Text.isAlphanumeric c || c == '_' || c == '-'

def braced? : List Char → Option (List Char)
  | '\x7b' :: rest => if rest.getLast? = some '\x7d' then some rest.dropLast else none
  | _ => none

def ofPart (template : String) (part : List Char) : Except PatternError Segment :=
  let opens := part.count '\x7b'
  let closes := part.count '\x7d'
  if opens = 0 ∧ closes = 0 then .ok (.literal (String.ofList part))
  else
    match braced? part with
    | none => .error (.unbalancedBraces (String.ofList part))
    | some name =>
      if opens ≠ 1 ∨ closes ≠ 1 then .error (.unbalancedBraces (String.ofList part))
      else if name.isEmpty || !name.all isNameChar then
        .error (.badName template (String.ofList name))
      else .ok (.parameter (String.ofList name))

def name? : Segment → Option String
  | parameter name => some name
  | literal _ => none

end Segment

namespace Pattern

/-- The placeholder at the end of a template that stands for the format. -/
def formatSuffix : List Char := ".\x7bformat\x7d".toList

def beforeSuffix? (suffix cs : List Char) : Option (List Char) :=
  if suffix <:+ cs then some (cs.take (cs.length - suffix.length)) else none

/-- Compiles the parts of a template from left to right; no name may occur twice. -/
def compileParts (template : String) : List Segment → List (List Char) →
    Except PatternError (List Segment)
  | done, [] => .ok done.reverse
  | done, part :: rest =>
    match Segment.ofPart template part with
    | .error e => .error e
    | .ok (.parameter name) =>
      if done.contains (.parameter name) then .error (.repeatedName template name)
      else compileParts template (.parameter name :: done) rest
    | .ok (.literal text) => compileParts template (.literal text :: done) rest

def compile (template : String) : Except PatternError Pattern :=
  let cs := template.toList
  if cs.head? ≠ some '/' then .error (.noLeadingSlash template)
  else
    let bare := beforeSuffix? formatSuffix cs
    let path := bare.getD cs
    (compileParts template [] (Path.segments path)).map fun segments =>
      { template
        path := if path.isEmpty then "/" else String.ofList path
        segments
        declaresFormat := bare.isSome }

def parameterNames (p : Pattern) : List String := p.segments.filterMap Segment.name?

/-- Matches the parts of a path one by one: a literal wants its own text, a placeholder
something. -/
def bind? : List Segment → List (List Char) → Option (List (String × String))
  | [], [] => some []
  | .literal text :: segments, raw :: parts =>
    if text = Path.decode raw then bind? segments parts else none
  | .parameter name :: segments, raw :: parts =>
    if raw.isEmpty then none
    else (bind? segments parts).map fun params => (name, Path.decode raw) :: params
  | _, _ => none

/-- Matches a path. Its format suffix is cut off if the rest then matches, and otherwise stays. -/
def match? (p : Pattern) (path : String) : Option Match :=
  let parts := Path.segments path.toList
  let whole := (bind? p.segments parts).map fun params => ⟨params, none⟩
  match parts.getLast?.bind Path.splitFormat? with
  | none => whole
  | some (bare, format) =>
    match bind? p.segments (parts.dropLast ++ [bare]) with
    | some params => some ⟨params, some (String.ofList format)⟩
    | none => whole

def matchesPath (p : Pattern) (path : String) : Bool := (p.match? path).isSome

def alike (agree : Segment → Segment → Bool) : List Segment → List Segment → Bool
  | [], [] => true
  | a :: as, b :: bs => agree a b && alike agree as bs
  | _, _ => false

/-- The same segments but for the names of placeholders. -/
def sameShape (p q : Pattern) : Bool :=
  alike (fun
    | .parameter _, .parameter _ => true
    | .literal a, .literal b => a == b
    | _, _ => false) p.segments q.segments

/-- Wherever `p` has a literal, `q` has the same or a placeholder, and where `p` has a placeholder, `q`
has one. -/
def isShadowedBy (p q : Pattern) : Bool :=
  alike (fun
    | _, .parameter _ => true
    | .literal a, .literal b => a == b
    | _, _ => false) p.segments q.segments

end Pattern

end Switchboard
