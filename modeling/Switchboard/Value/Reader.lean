import Switchboard.Text.Utf8
import Switchboard.Value.Basic

namespace Switchboard

inductive JsonFault where
  | endInList
  | endInObject
  | endInText
  | endInValue
  | colonExpected
  | listEndExpected
  | objectEndExpected
  | identifierExpected
  | valueExpected
  | nameExpected
  | badEscape
  | badNumber
  | numberTooLarge
  | badCodePoint
  | controlCharacter
  | loneSurrogate
  | surrogateCutShort
  | trailingComma
  | trailingCharacters
  | tooDeep
  deriving DecidableEq, Repr

namespace JsonFault

def text : JsonFault → String
  | endInList => "EOF while parsing a list"
  | endInObject => "EOF while parsing an object"
  | endInText => "EOF while parsing a string"
  | endInValue => "EOF while parsing a value"
  | colonExpected => "expected `:`"
  | listEndExpected => "expected `,` or `]`"
  | objectEndExpected => "expected `,` or `\x7d`"
  | identifierExpected => "expected ident"
  | valueExpected => "expected value"
  | nameExpected => "key must be a string"
  | badEscape => "invalid escape"
  | badNumber => "invalid number"
  | numberTooLarge => "number out of range"
  | badCodePoint => "invalid unicode code point"
  | controlCharacter => "control character (\\u0000-\\u001F) found while parsing a string"
  | loneSurrogate => "lone leading surrogate in hex escape"
  | surrogateCutShort => "unexpected end of hex escape"
  | trailingComma => "trailing comma"
  | trailingCharacters => "trailing characters"
  | tooDeep => "recursion limit exceeded"

end JsonFault

structure JsonError where
  fault : JsonFault
  line : Nat
  column : Nat
  deriving DecidableEq, Repr

def JsonError.message (e : JsonError) : String :=
  e.fault.text ++ " at line " ++ toString e.line ++ " column " ++ toString e.column

namespace Json

/-- The octets still to be read, and how many lines and columns came before them. -/
structure Cursor where
  rest : Bytes
  line : Nat
  column : Nat

namespace Cursor

def start (bytes : Bytes) : Cursor := ⟨bytes, 1, 0⟩

def next (c : Cursor) : Cursor :=
  match c.rest with
  | [] => c
  | b :: rest => if b = 0x0A then ⟨rest, c.line + 1, 0⟩ else ⟨rest, c.line, c.column + 1⟩

def skip : Nat → Cursor → Cursor
  | 0, c => c
  | n + 1, c => skip n c.next

def peek? (c : Cursor) : Option UInt8 := c.rest.head?

def fail {α : Type} (c : Cursor) (fault : JsonFault) : Except JsonError α :=
  .error ⟨fault, c.line, c.column⟩

def failNext {α : Type} (c : Cursor) (fault : JsonFault) : Except JsonError α := c.next.fail fault

end Cursor

def skipBlank (c : Cursor) : Cursor := go c c.rest
where
  go (c : Cursor) : Bytes → Cursor
    | [] => c
    | b :: rest =>
      if b = 0x20 ∨ b = 0x0A ∨ b = 0x09 ∨ b = 0x0D then go c.next rest else c

def word (value : Value) : Bytes → Cursor → Except JsonError (Value × Cursor)
  | [], c => .ok (value, c)
  | expected :: more, c =>
    match c.peek? with
    | none => c.fail .endInValue
    | some b => if b = expected then word value more c.next else c.next.fail .identifierExpected

def hexDigit? (b : UInt8) : Option Nat :=
  let n := b.toNat
  if 0x30 ≤ n ∧ n ≤ 0x39 then some (n - 0x30)
  else if 0x61 ≤ n ∧ n ≤ 0x66 then some (n - 0x61 + 10)
  else if 0x41 ≤ n ∧ n ≤ 0x46 then some (n - 0x41 + 10)
  else none

def fourDigits (c : Cursor) : Except JsonError (Nat × Cursor) :=
  match c.rest with
  | a :: b :: d :: e :: _ =>
    let after := c.skip 4
    match hexDigit? a, hexDigit? b, hexDigit? d, hexDigit? e with
    | some a, some b, some d, some e => .ok (a * 4096 + b * 256 + d * 16 + e, after)
    | _, _, _, _ => after.fail .badEscape
  | short => (c.skip short.length).fail .endInText

def expectOctet (b : UInt8) (c : Cursor) : Except JsonError Cursor :=
  match c.peek? with
  | none => c.fail .endInText
  | some found => if found = b then .ok c.next else c.next.fail .surrogateCutShort

def unicodeEscape (c : Cursor) : Except JsonError (Char × Cursor) := do
  let (first, c) ← fourDigits c
  if 0xDC00 ≤ first ∧ first ≤ 0xDFFF then c.fail .loneSurrogate
  else if first < 0xD800 ∨ 0xDBFF < first then .ok (Char.ofNat first, c)
  else
    let c ← expectOctet 0x5C c
    let c ← expectOctet 0x75 c
    let (second, c) ← fourDigits c
    if second < 0xDC00 ∨ 0xDFFF < second then c.fail .loneSurrogate
    else .ok (Char.ofNat ((first - 0xD800) * 1024 + (second - 0xDC00) + 0x10000), c)

def escape (c : Cursor) : Except JsonError (Char × Cursor) :=
  match c.peek? with
  | none => c.fail .endInText
  | some b =>
    if b = 0x22 then .ok ('"', c.next)
    else if b = 0x5C then .ok ('\\', c.next)
    else if b = 0x2F then .ok ('/', c.next)
    else if b = 0x62 then .ok ('\x08', c.next)
    else if b = 0x66 then .ok ('\x0c', c.next)
    else if b = 0x6E then .ok ('\n', c.next)
    else if b = 0x72 then .ok ('\r', c.next)
    else if b = 0x74 then .ok ('\t', c.next)
    else if b = 0x75 then unicodeEscape c.next
    else c.next.fail .badEscape

/-- Reads a text up to its closing quotation mark. `broken` counts the octets of the decoded text
from the first one on that is not UTF-8; a text with such an octet is refused as many columns before
its end. -/
def textFrom : Nat → List Char → Option Nat → Cursor → Except JsonError (String × Cursor)
  | 0, _, _, c => c.fail .endInText
  | fuel + 1, read, broken, c =>
    match c.peek? with
    | none => c.fail .endInText
    | some b =>
      if b = 0x22 then
        match broken with
        | some n => .error ⟨.badCodePoint, c.line, c.next.column - n⟩
        | none => .ok (String.ofList read.reverse, c.next)
      else if b = 0x5C then
        match escape c.next with
        | .error e => .error e
        | .ok (char, c) => textFrom fuel (char :: read) (broken.map (· + char.utf8Size)) c
      else if b < 0x20 then c.next.fail .controlCharacter
      else
        match Utf8.character b (c.rest.drop 1) with
        | .ok (char, _) =>
          textFrom fuel (char :: read) (broken.map (· + char.utf8Size)) (c.skip char.utf8Size)
        | .error rest =>
          let count := c.rest.length - rest.length
          textFrom fuel read (some (broken.getD 0 + count)) (c.skip count)

def text (c : Cursor) : Except JsonError (String × Cursor) :=
  textFrom (c.rest.length + 1) [] none c

def isDigit (b : UInt8) : Bool := 0x30 ≤ b && b ≤ 0x39

def digits (c : Cursor) : List Nat := (c.rest.takeWhile isDigit).map fun b => b.toNat - 0x30

/-- The longest run of digits that a significand of 64 bits can take up, how many those were, and
whether digits were left over. -/
def accumulate (significand : Nat) : List Nat → Nat × Nat × Bool
  | [] => (significand, 0, false)
  | d :: rest =>
    if significand * 10 + d < Nat.pow 2 64 then
      let (result, taken, left) := accumulate (significand * 10 + d) rest
      (result, taken + 1, left)
    else (significand, 0, true)

def binaryFrom (negative : Bool) (significand : Nat) (exponent : Int) (c : Cursor) :
    Except JsonError (Number × Cursor) :=
  match (Binary64.ofNat? significand).bind (·.scaled? exponent) with
  | some x => .ok (.binary (if negative then x.neg else x), c)
  | none => c.fail .numberTooLarge

/-- The size of an exponent as far as 31 bits hold it, how many digits were taken up, and whether
the last of them was too much. -/
def exponentSize (size taken : Nat) : List Nat → Nat × Nat × Bool
  | [] => (size, taken, false)
  | d :: rest =>
    if size * 10 + d < Nat.pow 2 31 then exponentSize (size * 10 + d) (taken + 1) rest
    else (size, taken + 1, true)

def exponentPart (negative : Bool) (significand : Nat) (start : Int) (c : Cursor) :
    Except JsonError (Number × Cursor) :=
  let c := c.next
  let (minus, c) :=
    match c.peek? with
    | some 0x2B => (false, c.next)
    | some 0x2D => (true, c.next)
    | _ => (false, c)
  match c.peek? with
  | none => c.fail .endInValue
  | some b =>
    if !isDigit b then c.next.fail .badNumber
    else
      let ds := digits c
      let (size, taken, overflow) := exponentSize 0 0 ds
      if overflow then
        if significand ≠ 0 ∧ !minus then (c.skip taken).fail .numberTooLarge
        else .ok (.binary { Binary64.zero with negative }, c.skip ds.length)
      else
        let exponent := if minus then start - size else start + size
        binaryFrom negative significand exponent (c.skip ds.length)

def afterDigits (negative : Bool) (significand : Nat) (exponent : Int) (c : Cursor) :
    Except JsonError (Number × Cursor) :=
  match c.peek? with
  | some 0x65 => exponentPart negative significand exponent c
  | some 0x45 => exponentPart negative significand exponent c
  | _ => binaryFrom negative significand exponent c

/-- Reads the digits after a point, from the point on. Digits that no longer fit the significand are
dropped. -/
def fractionPart (negative : Bool) (significand : Nat) (start : Int) (c : Cursor) :
    Except JsonError (Number × Cursor) :=
  let c := c.next
  let ds := digits c
  let (result, taken, _) := accumulate significand ds
  if ds.isEmpty then
    match c.peek? with
    | none => c.failNext .endInValue
    | some _ => c.failNext .badNumber
  else afterDigits negative result (start - taken) (c.skip ds.length)

def number (negative : Bool) (c : Cursor) : Except JsonError (Number × Cursor) :=
  match c.peek? with
  | none => c.fail .endInValue
  | some b =>
    if !isDigit b then c.next.fail .badNumber
    else
      let ds := digits c
      if b = 0x30 ∧ 1 < ds.length then c.next.failNext .badNumber
      else
        let (significand, taken, left) := accumulate 0 ds
        let dropped : Nat := ds.length - taken
        let c := c.skip ds.length
        match c.peek? with
        | some 0x2E => fractionPart negative significand dropped c
        | some 0x65 => exponentPart negative significand dropped c
        | some 0x45 => exponentPart negative significand dropped c
        | _ =>
          if left then binaryFrom negative significand dropped c
          else if !negative then .ok (.integer significand, c)
          else if 0 < significand ∧ significand ≤ Nat.pow 2 63 then .ok (.integer (-significand), c)
          else binaryFrom true significand 0 c

def depthLimit : Nat := 127

mutual

/-- Reads a value; `depth` more levels of nesting are allowed. -/
def value (fuel : Nat) (depth : Nat) (c : Cursor) : Except JsonError (Value × Cursor) :=
  match fuel with
  | 0 => c.fail .endInValue
  | fuel + 1 =>
    let c := skipBlank c
    match c.peek? with
    | none => c.failNext .endInValue
    | some b =>
      if b = 0x6E then word .null (Utf8.encode "ull") c.next
      else if b = 0x74 then word (.bool true) (Utf8.encode "rue") c.next
      else if b = 0x66 then word (.bool false) (Utf8.encode "alse") c.next
      else if b = 0x2D then (number true c.next).map fun (n, c) => (.number n, c)
      else if isDigit b then (number false c).map fun (n, c) => (.number n, c)
      else if b = 0x22 then (text c.next).map fun (s, c) => (.text s, c)
      else if b = 0x5B then
        match depth with
        | 0 => c.failNext .tooDeep
        | depth + 1 => (items fuel depth true [] c.next).map fun (vs, c) => (.list vs, c)
      else if b = 0x7B then
        match depth with
        | 0 => c.failNext .tooDeep
        | depth + 1 =>
          (fields fuel depth true [] c.next).map fun (fs, c) => (Value.ofFields fs, c)
      else c.failNext .valueExpected

/-- Reads the rest of a list; `first` before its first item. -/
def items (fuel : Nat) (depth : Nat) (first : Bool) (read : List Value) (c : Cursor) :
    Except JsonError (List Value × Cursor) :=
  match fuel with
  | 0 => c.fail .endInList
  | fuel + 1 => do
    let c := skipBlank c
    match c.peek? with
    | none => c.failNext .endInList
    | some b =>
      if b = 0x5D then .ok (read.reverse, c.next)
      else if first then
        let (v, c) ← value fuel depth c
        items fuel depth false (v :: read) c
      else if b = 0x2C then
        let c := skipBlank c.next
        match c.peek? with
        | none => c.failNext .endInValue
        | some 0x5D => c.failNext .trailingComma
        | some _ =>
          let (v, c) ← value fuel depth c
          items fuel depth false (v :: read) c
      else c.failNext .listEndExpected

/-- Reads the rest of an object; `first` before its first field. -/
def fields (fuel : Nat) (depth : Nat) (first : Bool) (read : List (String × Value)) (c : Cursor) :
    Except JsonError (List (String × Value) × Cursor) :=
  match fuel with
  | 0 => c.fail .endInObject
  | fuel + 1 => do
    let c := skipBlank c
    match c.peek? with
    | none => c.failNext .endInObject
    | some b =>
      if b = 0x7D then .ok (read.reverse, c.next)
      else if first then
        if b = 0x22 then
          let (f, c) ← field fuel depth c.next
          fields fuel depth false (f :: read) c
        else c.failNext .nameExpected
      else if b = 0x2C then
        let c := skipBlank c.next
        match c.peek? with
        | none => c.failNext .endInValue
        | some 0x22 =>
          let (f, c) ← field fuel depth c.next
          fields fuel depth false (f :: read) c
        | some 0x7D => c.failNext .trailingComma
        | some _ => c.failNext .nameExpected
      else c.failNext .objectEndExpected

def field (fuel : Nat) (depth : Nat) (c : Cursor) :
    Except JsonError ((String × Value) × Cursor) :=
  match fuel with
  | 0 => c.fail .endInObject
  | fuel + 1 => do
    let (name, c) ← text c
    let c := skipBlank c
    match c.peek? with
    | none => c.failNext .endInObject
    | some b =>
      if b = 0x3A then
        let (v, c) ← value fuel depth c.next
        .ok ((name, v), c)
      else c.failNext .colonExpected

end

end Json

/-- The value that the octets write. Every step of the reader takes up an octet or one of the three
steps that lead to the next, so the fuel outlasts the text. -/
def Value.ofJson (bytes : Bytes) : Except JsonError Value := do
  let (v, c) ← Json.value (3 * bytes.length + 3) Json.depthLimit (Json.Cursor.start bytes)
  let c := Json.skipBlank c
  match c.peek? with
  | none => .ok v
  | some _ => c.failNext .trailingCharacters

end Switchboard
