import Switchboard.Domain.Name
import Switchboard.Http.Address
import Switchboard.Text.Ascii
import Switchboard.Text.Percent
import Switchboard.Text.Pieces

namespace Switchboard.WebAddress

/-- The text without controls and blanks at its ends, and without tabs and line ends anywhere. -/
def cleaned (cs : List Char) : List Char :=
  let isEdge (c : Char) : Bool := c.toNat ≤ 0x20
  let inner := ((cs.dropWhile isEdge).reverse.dropWhile isEdge).reverse
  inner.filter fun c => c ≠ '\t' && c ≠ '\n' && c ≠ '\r'

def isSchemeChar (c : Char) : Bool := Text.isAlphanumeric c || c == '+' || c == '-' || c == '.'

def scheme? (cs : List Char) : Option (String × List Char) :=
  let scheme := cs.takeWhile isSchemeChar
  match scheme.head?, cs.drop scheme.length with
  | some first, ':' :: rest =>
    if first.isAlpha then some (Text.lowercase (String.ofList scheme), rest) else none
  | _, _ => none

def endsAuthority (c : Char) : Bool := c == '/' || c == '\\' || c == '?' || c == '#'

/-- A part of a short address: decimal, octal after a zero, hexadecimal after `0x`. Nothing inside
means a number that is too large. -/
def part? (cs : List Char) : Option (Option Nat) :=
  let digits (radix : Nat) (ds : List Char) : Option (Option Nat) :=
    (ds.mapM (Address.digit? radix)).map fun ds =>
      let n := ds.foldl (fun n d => n * radix + d) 0
      if n < Nat.pow 2 32 then some n else none
  match cs with
  | [] => none
  | '0' :: 'x' :: rest => digits 16 rest
  | '0' :: 'X' :: rest => digits 16 rest
  | '0' :: c :: rest => digits 8 (c :: rest)
  | cs => digits 10 cs

def parts (labels : List (List Char)) : List (List Char) :=
  if 1 < labels.length ∧ labels.getLast? = some [] then labels.dropLast else labels

def endsInNumber (labels : List (List Char)) : Bool :=
  match (parts labels).getLast? with
  | none => false
  | some last => (!last.isEmpty && last.all Char.isDigit) || (part? last).isSome

/-- Up to four parts, the last of which fills what the others leave. -/
def isShortAddress (labels : List (List Char)) : Bool :=
  match (parts labels).mapM fun p => (part? p).join with
  | none => false
  | some numbers =>
    numbers.length ≤ 4 && numbers.dropLast.all (· ≤ 255) &&
      (numbers.getLast?.getD 0) < Nat.pow 256 (5 - numbers.length)

def isHost (cs : List Char) : Bool :=
  match cs with
  | '[' :: rest =>
    rest.getLast? == some ']' &&
      match Address.v6? rest.dropLast with
      | some (_, []) => true
      | _ => false
  | cs =>
    match Utf8.decode? (Percent.decodeBytes (Utf8.encode (String.ofList cs))) with
    | none => false
    | some s =>
      match Domain.labels? s.toList with
      | none => false
      | some labels => labels ≠ [[]] && (!endsInNumber labels || isShortAddress labels)

def afterUser (authority : List Char) : List Char :=
  match Text.cutLast? '@' authority with
  | some (_, rest) => rest
  | none => authority

/-- The host up to the colon of a number; a colon in brackets belongs to the host. -/
def hostPart (inside : Bool) : List Char → List Char
  | [] => []
  | c :: rest =>
    if c == ':' && !inside then []
    else if c == '[' then c :: hostPart true rest
    else if c == ']' then c :: hostPart false rest
    else c :: hostPart inside rest

def isPortNumber : List Char → Bool
  | [] => true
  | ':' :: ds =>
    ds.all Char.isDigit && ds.foldl (fun n c => n * 10 + (c.toNat - '0'.toNat)) 0 < 65536
  | _ => false

/-- Whether a text is an absolute address of one of the two schemes. -/
def isValid (s : String) : Bool :=
  match scheme? (cleaned s.toList) with
  | none => false
  | some (scheme, rest) =>
    (scheme == "http" || scheme == "https") &&
      let rest := rest.dropWhile fun c => c == '/' || c == '\\'
      let place := afterUser (rest.takeWhile (!endsAuthority ·))
      let host := hostPart false place
      isHost host && isPortNumber (place.drop host.length)

end Switchboard.WebAddress
