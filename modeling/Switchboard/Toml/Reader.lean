import Switchboard.Text.Ascii
import Switchboard.Toml.Document

namespace Switchboard.Toml

def isSpace (c : Char) : Bool := c == ' ' || c == '\t'

def skipSpace (cs : List Char) : List Char := cs.dropWhile isSpace

def isPlain (c : Char) : Bool := c == '\t' || (0x20 ≤ c.toNat && c.toNat ≤ 0x7E) || 0x80 ≤ c.toNat

def newline? : List Char → Option (List Char)
  | '\n' :: rest => some rest
  | '\r' :: '\n' :: rest => some rest
  | _ => none

def skipComment : List Char → List Char
  | '#' :: rest => rest.dropWhile isPlain
  | cs => cs

def endLine? (cs : List Char) : Option (List Char) :=
  match skipComment (skipSpace cs) with
  | [] => some []
  | rest => newline? rest

def skipLines : Nat → List Char → Option (List Char)
  | 0, _ => none
  | fuel + 1, cs =>
    match skipSpace cs with
    | '#' :: rest => (newline? (rest.dropWhile isPlain)).bind (skipLines fuel)
    | rest =>
      match newline? rest with
      | some rest => skipLines fuel rest
      | none => some rest

def hex? (c : Char) : Option Nat :=
  if c.isDigit then some (c.toNat - '0'.toNat)
  else if 'a' ≤ c ∧ c ≤ 'f' then some (c.toNat - 'a'.toNat + 10)
  else if 'A' ≤ c ∧ c ≤ 'F' then some (c.toNat - 'A'.toNat + 10)
  else none

def codePoint? (count : Nat) (cs : List Char) : Option (Char × List Char) := do
  let ds ← (cs.take count).mapM hex?
  let code := ds.foldl (fun n d => n * 16 + d) 0
  if ds.length = count ∧ code.isValidChar then some (Char.ofNat code, cs.drop count) else none

def escape? : List Char → Option (Char × List Char)
  | 'b' :: rest => some ('\x08', rest)
  | 't' :: rest => some ('\t', rest)
  | 'n' :: rest => some ('\n', rest)
  | 'f' :: rest => some ('\x0c', rest)
  | 'r' :: rest => some ('\r', rest)
  | '"' :: rest => some ('"', rest)
  | '\\' :: rest => some ('\\', rest)
  | 'u' :: rest => codePoint? 4 rest
  | 'U' :: rest => codePoint? 8 rest
  | _ => none

def basic? : Nat → List Char → List Char → Option (String × List Char)
  | 0, _, _ => none
  | fuel + 1, done, cs =>
    match cs with
    | '"' :: rest => some (String.ofList done.reverse, rest)
    | '\\' :: rest => (escape? rest).bind fun (c, rest) => basic? fuel (c :: done) rest
    | c :: rest => if isPlain c then basic? fuel (c :: done) rest else none
    | [] => none

def literal? (cs : List Char) : Option (String × List Char) :=
  let body := cs.takeWhile fun c => isPlain c && c != '\''
  match cs.drop body.length with
  | '\'' :: rest => some (String.ofList body, rest)
  | _ => none

/-- The end of a text of many lines: three quotes, before which one or two more belong to the
text. -/
def closing? (quote : Char) (cs : List Char) : Option (Nat × List Char) :=
  let count := (cs.takeWhile (· == quote)).length
  if count < 3 then none
  else
    let extra := min (count - 3) 2
    some (extra, cs.drop (3 + extra))

def skipSpaceLines : List Char → List Char
  | '\n' :: rest => skipSpaceLines rest
  | '\r' :: '\n' :: rest => skipSpaceLines rest
  | c :: rest => if isSpace c then skipSpaceLines rest else c :: rest
  | [] => []

/-- A backslash at the end of a line swallows all spaces and line ends up to the next text. -/
def foldedLine? (cs : List Char) : Option (List Char) :=
  (newline? (skipSpace cs)).map skipSpaceLines

/-- The rest of a text of many lines; `escapes` in double quotes. -/
def manyLines? (quote : Char) (escapes : Bool) :
    Nat → List Char → List Char → Option (String × List Char)
  | 0, _, _ => none
  | fuel + 1, done, cs =>
    match closing? quote cs with
    | some (extra, rest) =>
      some (String.ofList (List.replicate extra quote ++ done).reverse, rest)
    | none =>
      match newline? cs with
      | some rest => manyLines? quote escapes fuel ('\n' :: done) rest
      | none =>
        match cs with
        | [] => none
        | c :: rest =>
          if escapes && c == '\\' then
            match foldedLine? rest with
            | some rest => manyLines? quote escapes fuel done rest
            | none =>
              (escape? rest).bind fun (c, rest) => manyLines? quote escapes fuel (c :: done) rest
          else if isPlain c then manyLines? quote escapes fuel (c :: done) rest
          else none

/-- The text after an opening of three quotes; a line end right after it does not count. -/
def block? (quote : Char) (escapes : Bool) (cs : List Char) : Option (String × List Char) :=
  manyLines? quote escapes (cs.length + 1) [] ((newline? cs).getD cs)

def isBareKeyChar (c : Char) : Bool := Text.isAlphanumeric c || c == '_' || c == '-'

def simpleKey? : List Char → Option (String × List Char)
  | '"' :: rest => basic? (rest.length + 1) [] rest
  | '\'' :: rest => literal? rest
  | cs =>
    let key := cs.takeWhile isBareKeyChar
    if key.isEmpty then none else some (String.ofList key, cs.drop key.length)

def nestingLimit : Nat := 79

def keyLimit : Nat := 79

def keyPath? : Nat → List Char → Option (List String × List Char)
  | 0, _ => none
  | fuel + 1, cs => do
    let (key, rest) ← simpleKey? (skipSpace cs)
    match skipSpace rest with
    | '.' :: rest => (keyPath? fuel rest).map fun (keys, rest) => (key :: keys, rest)
    | rest => some ([key], rest)

def digitRun (isDigit : Char → Bool) : List Char → List Char × List Char
  | [] => ([], [])
  | c :: rest =>
    if isDigit c then
      let (ds, left) := digitRun isDigit rest
      (c :: ds, left)
    else
      match c, rest with
      | '_', d :: rest =>
        if isDigit d then
          let (ds, left) := digitRun isDigit rest
          (d :: ds, left)
        else ([], c :: d :: rest)
      | _, _ => ([], c :: rest)

def digits? (isDigit : Char → Bool) (cs : List Char) : Option (List Char × List Char) :=
  match cs with
  | c :: _ => if isDigit c then some (digitRun isDigit cs) else none
  | [] => none

def numberOf (radix : Nat) (ds : List Char) : Nat :=
  ds.foldl (fun n c => n * radix + (hex? c).getD 0) 0

def sign : List Char → Bool × List Char
  | '-' :: rest => (true, rest)
  | '+' :: rest => (false, rest)
  | cs => (false, cs)

/-- Decimal digits without a zero in front of others. -/
def decimal? (cs : List Char) : Option (List Char × List Char) :=
  match cs with
  | '0' :: rest => some (['0'], rest)
  | _ => digits? Char.isDigit cs

def whole (negative : Bool) (n : Nat) : Option Scalar :=
  if negative then if n ≤ Nat.pow 2 63 then some (.whole (-n)) else none
  else if n < Nat.pow 2 63 then some (.whole n) else none

def radix? (isDigit : Char → Bool) (radix : Nat) (cs : List Char) :
    Option (Scalar × List Char) := do
  let (ds, rest) ← digits? isDigit cs
  let v ← whole false (numberOf radix ds)
  some (v, rest)

def integer? (cs : List Char) : Option (Scalar × List Char) :=
  match cs with
  | '0' :: 'x' :: rest => radix? (fun c => (hex? c).isSome) 16 rest
  | '0' :: 'o' :: rest => radix? (fun c => '0' ≤ c && c ≤ '7') 8 rest
  | '0' :: 'b' :: rest => radix? (fun c => c == '0' || c == '1') 2 rest
  | _ => do
    let (negative, cs) := sign cs
    let (ds, rest) ← decimal? cs
    let v ← whole negative (numberOf 10 ds)
    some (v, rest)

/-- The number nearest to `digits · 10 ^ exponent`; a number too large counts as endless. -/
def floatOf (negative : Bool) (digits : List Char) (exponent : Int) : Option Binary64 :=
  let n := numberOf 10 digits
  let size : Int := (toString n).length + exponent
  if n = 0 ∨ size < -400 then some { Binary64.zero with negative }
  else if 400 < size then none
  else Binary64.ofQuotient? negative (n * powerNum 10 exponent) (powerDen 10 exponent)

def exponentPart? : List Char → Option (Int × List Char)
  | c :: rest =>
    if c = 'e' ∨ c = 'E' then do
      let (negative, rest) := sign rest
      let (ds, rest) ← digits? Char.isDigit rest
      let n := numberOf 10 ds
      some (if negative then -n else n, rest)
    else none
  | [] => none

/-- A decimal with a fraction or an exponent. Nothing above the greatest number is accepted. -/
def float? (cs : List Char) : Option (Scalar × List Char) := do
  let (negative, cs) := sign cs
  match cs with
  | 'i' :: 'n' :: 'f' :: rest => some (.float none, rest)
  | 'n' :: 'a' :: 'n' :: rest => some (.float none, rest)
  | _ =>
    let (whole, rest) ← decimal? cs
    let (fraction, exponent, rest) ←
      match rest with
      | '.' :: rest => do
        let (fraction, rest) ← digits? Char.isDigit rest
        match exponentPart? rest with
        | some (exponent, rest) => some (fraction, exponent, rest)
        | none => some (fraction, 0, rest)
      | rest => (exponentPart? rest).map fun (exponent, rest) => ([], exponent, rest)
    let x := floatOf negative (whole ++ fraction) (exponent - fraction.length)
    if x.isNone && !negative then none else some (.float x, rest)

def fixed? (count low high : Nat) (cs : List Char) : Option (Nat × List Char) :=
  let ds := cs.take count
  let n := numberOf 10 ds
  if ds.length = count ∧ ds.all Char.isDigit ∧ low ≤ n ∧ n ≤ high then some (n, cs.drop count)
  else none

def expect? (c : Char) : List Char → Option (List Char)
  | [] => none
  | d :: rest => if d = c then some rest else none

def isLeap (year : Nat) : Bool := year % 4 == 0 && (year % 100 != 0 || year % 400 == 0)

def daysIn (year month : Nat) : Nat :=
  if month = 2 then if isLeap year then 29 else 28
  else if month ∈ [4, 6, 9, 11] then 30
  else 31

def day? (cs : List Char) : Option (List Char) := do
  let (year, cs) ← fixed? 4 0 9999 cs
  let (month, cs) ← fixed? 2 1 12 (← expect? '-' cs)
  let (_, cs) ← fixed? 2 1 (daysIn year month) (← expect? '-' cs)
  some cs

def time? (cs : List Char) : Option (List Char) := do
  let (_, cs) ← fixed? 2 0 23 cs
  let (_, cs) ← fixed? 2 0 59 (← expect? ':' cs)
  let (_, cs) ← fixed? 2 0 60 (← expect? ':' cs)
  match cs with
  | '.' :: rest =>
    let ds := rest.takeWhile Char.isDigit
    if ds.isEmpty then some cs else some (rest.drop ds.length)
  | cs => some cs

def offset? : List Char → Option (List Char)
  | 'Z' :: rest => some rest
  | 'z' :: rest => some rest
  | c :: rest =>
    if c = '+' ∨ c = '-' then do
      let (_, cs) ← fixed? 2 0 23 rest
      let (_, cs) ← fixed? 2 0 59 (← expect? ':' cs)
      some cs
    else none
  | [] => none

def date? (cs : List Char) : Option (Scalar × List Char) :=
  let ending : Option (List Char) :=
    match day? cs with
    | some rest =>
      match rest with
      | c :: after =>
        if c = 'T' ∨ c = 't' ∨ c = ' ' then
          match time? after with
          | some rest => some ((offset? rest).getD rest)
          | none => some rest
        else some rest
      | [] => some []
    | none => time? cs
  ending.map fun rest => (.date (String.ofList (cs.take (cs.length - rest.length))), rest)

def number? (cs : List Char) : Option (Scalar × List Char) :=
  ((date? cs).or (float? cs)).or (integer? cs)

def addInline (path : List String) (v : Scalar) (t : Table) : Option Table :=
  addPath path (.scalar v) t

mutual

def Item.toScalar : Item → Scalar
  | .scalar v => v
  | .table _ _ fields => .table (Item.toScalars fields)
  | .series _ => .table []

def Item.toScalars : List (String × Item) → List (String × Scalar)
  | [] => []
  | (key, item) :: rest => (key, item.toScalar) :: Item.toScalars rest

end

mutual

/-- A value; `depth` more levels of nesting are allowed. -/
def value? (fuel depth : Nat) (cs : List Char) : Option (Scalar × List Char) :=
  match fuel with
  | 0 => none
  | fuel + 1 =>
    match cs with
    | '"' :: '"' :: '"' :: rest => (block? '"' true rest).map fun (s, rest) => (.text s, rest)
    | '"' :: rest => (basic? (rest.length + 1) [] rest).map fun (s, rest) => (.text s, rest)
    | '\'' :: '\'' :: '\'' :: rest =>
      (block? '\'' false rest).map fun (s, rest) => (.text s, rest)
    | '\'' :: rest => (literal? rest).map fun (s, rest) => (.text s, rest)
    | '[' :: rest =>
      match depth with
      | 0 => none
      | depth + 1 => (items? fuel depth [] rest).map fun (vs, rest) => (.list vs, rest)
    | '\x7b' :: rest =>
      match depth with
      | 0 => none
      | depth + 1 =>
        match skipSpace rest with
        | '\x7d' :: rest => some (.table [], rest)
        | rest =>
          (pairs? fuel depth {} rest).map fun (t, rest) => (.table (Item.toScalars t.fields), rest)
    | 't' :: 'r' :: 'u' :: 'e' :: rest => some (.bool true, rest)
    | 'f' :: 'a' :: 'l' :: 's' :: 'e' :: rest => some (.bool false, rest)
    | cs => number? cs

def items? (fuel depth : Nat) (done : List Scalar) (cs : List Char) :
    Option (List Scalar × List Char) :=
  match fuel with
  | 0 => none
  | fuel + 1 => do
    let cs ← skipLines (cs.length + 1) cs
    match cs with
    | ']' :: rest => some (done.reverse, rest)
    | cs =>
      let (v, rest) ← value? fuel depth cs
      let rest ← skipLines (rest.length + 1) rest
      match rest with
      | ',' :: rest => items? fuel depth (v :: done) rest
      | ']' :: rest => some ((v :: done).reverse, rest)
      | _ => none

def pairs? (fuel depth : Nat) (t : Table) (cs : List Char) : Option (Table × List Char) :=
  match fuel with
  | 0 => none
  | fuel + 1 => do
    let (path, rest) ← keyPath? keyLimit cs
    let rest ← expect? '=' rest
    let (v, rest) ← value? fuel depth (skipSpace rest)
    let t ← addInline path v t
    match skipSpace rest with
    | ',' :: rest => pairs? fuel depth t rest
    | '\x7d' :: rest => some (t, rest)
    | _ => none

end

def line? (d : Document) (cs : List Char) : Option (Document × List Char) :=
  match cs with
  | '[' :: '[' :: rest => do
    let (path, rest) ← keyPath? keyLimit rest
    let rest ← expect? ']' rest
    let rest ← expect? ']' rest
    let d ← d.openNext path
    some (d, rest)
  | '[' :: rest => do
    let (path, rest) ← keyPath? keyLimit rest
    let rest ← expect? ']' rest
    let d ← d.openTable path
    some (d, rest)
  | cs => do
    let (path, rest) ← keyPath? keyLimit cs
    let rest ← expect? '=' rest
    let rest := skipSpace rest
    let (v, rest) ← value? (3 * rest.length + 3) nestingLimit rest
    let d ← d.add path v
    some (d, rest)

def lines? : Nat → Document → List Char → Option Document
  | 0, _, _ => none
  | fuel + 1, d, cs =>
    match skipComment (skipSpace cs) with
    | [] => some d
    | rest =>
      match newline? rest with
      | some rest => lines? fuel d rest
      | none =>
        match line? d rest with
        | none => none
        | some (d, rest) =>
          match endLine? rest with
          | none => none
          | some rest => lines? fuel d rest

/-- The structured value of a TOML text. A mark of the byte order at its start is passed over. -/
def read? (s : String) : Option Value :=
  let cs := match s.toList with
    | '\uFEFF' :: rest => rest
    | cs => cs
  (lines? (cs.length + 1) {} cs).bind Document.toValue?

end Switchboard.Toml
