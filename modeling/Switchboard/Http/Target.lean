import Switchboard.Text.Ascii
import Switchboard.Text.Pieces

namespace Switchboard

structure Target where
  path : String
  query : Option String
  deriving DecidableEq, Repr

namespace Target

def isPathChar (c : Char) : Bool :=
  let n := c.toNat
  n == 0x21 || (0x24 ≤ n && n ≤ 0x3B) || n == 0x3D || (0x40 ≤ n && n ≤ 0x5F) ||
    (0x61 ≤ n && n ≤ 0x7A) || n == 0x7C || n == 0x7E || 0x80 ≤ n ||
    c == '"' || c == '\x7b' || c == '\x7d'

def isQueryChar (c : Char) : Bool :=
  let n := c.toNat
  n == 0x21 || (0x24 ≤ n && n ≤ 0x3B) || n == 0x3D || (0x3F ≤ n && n ≠ 0x7F)

/-- A path and a query; an empty path is `/`. -/
def ofPath? (cs : List Char) : Option Target :=
  let cs := cs.takeWhile (· ≠ '#')
  let path := cs.takeWhile (· ≠ '?')
  let query := cs.dropWhile (· ≠ '?')
  if !path.all isPathChar then none
  else if !(query.drop 1).all isQueryChar then none
  else
    some
      { path := if path.isEmpty then "/" else String.ofList path
        query := if query.isEmpty then none else some (String.ofList (query.drop 1)) }

def isSchemeChar (c : Char) : Bool := Text.isAlphanumeric c || "+-.~".toList.contains c

def isAuthorityChar (c : Char) : Bool :=
  Text.isAlphanumeric c || "!$&'()*+,-.:;=@[]_~".toList.contains c

structure AuthorityState where
  colons : Nat := 0
  opened : Bool := false
  closed : Bool := false
  percent : Bool := false
  atEnd : Bool := false

/-- One more character of an authority. A user's name may hold colons and encoded characters, a host
in brackets colons. -/
def AuthorityState.step (s : AuthorityState) (c : Char) : Option AuthorityState :=
  let s := { s with atEnd := c == '@' }
  match c with
  | ':' => if 8 ≤ s.colons then none else some { s with colons := s.colons + 1 }
  | '[' => if s.percent || s.opened then none else some { s with opened := true }
  | ']' =>
    if !s.opened || s.closed then none
    else some { s with closed := true, colons := 0, percent := false }
  | '@' => some { s with colons := 0, percent := false }
  | '%' => some { s with percent := true }
  | c => if isAuthorityChar c then some s else none

def AuthorityState.isComplete (s : AuthorityState) : Bool :=
  s.opened == s.closed && s.colons ≤ 1 && !s.atEnd && !s.percent

def isAuthority (cs : List Char) : Bool :=
  (cs.foldlM AuthorityState.step {}).any (·.isComplete)

def authority? (cs : List Char) : Option (List Char × List Char) :=
  let ends (c : Char) : Bool := c == '/' || c == '?' || c == '#'
  let authority := cs.takeWhile (!ends ·)
  if isAuthority authority then some (authority, cs.drop authority.length) else none

/-- What follows `scheme://`, if the text begins so; a scheme of more than 64 characters is
refused. -/
def afterScheme? (cs : List Char) : Except Unit (Option (List Char)) :=
  let scheme := cs.takeWhile isSchemeChar
  match cs.drop scheme.length with
  | ':' :: '/' :: '/' :: rest =>
    if cs.length ≤ 3 then .ok none
    else if 64 < scheme.length then .error ()
    else .ok (some rest)
  | _ => .ok none

def sizeLimit : Nat := 65534

def ofString? (s : String) : Option Target :=
  let cs := s.toList
  if sizeLimit < s.utf8ByteSize then none
  else
    match cs with
    | [] => none
    | ['*'] => some ⟨"*", none⟩
    | '/' :: _ => ofPath? cs
    | _ =>
      match afterScheme? cs with
      | .error _ => none
      | .ok none => if isAuthority cs then some ⟨"", none⟩ else none
      | .ok (some rest) =>
        match authority? rest with
        | some (_ :: _, rest) => ofPath? rest
        | _ => none

end Target

end Switchboard
