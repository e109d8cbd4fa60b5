import Switchboard.Domain.Mapping
import Switchboard.Domain.Punycode
import Switchboard.Text.Composition
import Switchboard.Text.Direction
import Switchboard.Text.Joining

namespace Switchboard.Domain

def isDenied (c : Char) : Bool :=
  c.toNat ≤ 0x20 || c.toNat == 0x7F || "%#/:<>?@[\\]^|".toList.contains c

def isAscii (c : Char) : Bool := c.toNat < 0x80

def labelLimit : Nat := 1000

def encodedLimit : Nat := 2000

def isFolded (label : List Char) : Bool :=
  label.all (fun c => isPlain c && !isDenied c) && Text.composed label == label

def label? : List Char → Option (List Char)
  | 'x' :: 'n' :: '-' :: '-' :: encoded =>
    if encoded.all isAscii && (encoded.getLast?.any (· ≠ '-')) && encoded.length ≤ encodedLimit then
      (Punycode.decode? encoded).filter isFolded
    else none
  | label => some label

def isTied (tied : Text.Joining → Bool) : List Char → Bool
  | [] => false
  | c :: rest => tied (Text.joining c) || (Text.joining c == .transparent && isTied tied rest)

/-- Whether a joiner may stand between the text `before` it, read backwards, and the text after it.
Both joiners follow a virama, and U+200C parts two letters that would be joined. -/
def joinerFits (c : Char) (before after : List Char) : Bool :=
  before.head?.any Text.isVirama ||
    (c.toNat == 0x200C && isTied (fun j => j == .after || j == .both) before &&
      isTied (fun j => j == .before || j == .both) after)

/-- Whether every joiner of a text fits into it; `before` is read backwards. -/
def joinersFit (before : List Char) : List Char → Bool
  | [] => true
  | c :: rest =>
    ((c.toNat ≠ 0x200C && c.toNat ≠ 0x200D) || joinerFits c before rest) &&
      joinersFit (c :: before) rest

/-- Whether a label begins with no mark, holds joiners only where they show, and is not too long. -/
def isLabel (label : List Char) : Bool :=
  !label.head?.any Text.isMark && joinersFit [] label &&
    (label.all isAscii || label.length ≤ labelLimit)

/-- Whether a label of a name with text from right to left reads one way only: it begins with a
letter, keeps to the direction of that letter up to its end, and mixes no two kinds of numbers if
it runs from right to left. -/
def readsOneWay (label : List Char) : Bool :=
  let ds := label.map Text.direction
  let body := ((ds.drop 1).reverse.dropWhile (· == .mark)).reverse
  match ds.head? with
  | none => true
  | some .left =>
    body.all (fun d => d ≠ .right && d ≠ .arabicNumber) &&
      body.getLast?.all fun d => d == .left || d == .europeanNumber
  | some .right =>
    body.all (· ≠ .left) &&
      body.getLast?.all (fun d => d ≠ .neutral) &&
      !(body.contains .europeanNumber && body.contains .arabicNumber)
  | some _ => false

def isRightToLeft (labels : List (List Char)) : Bool :=
  labels.any fun label => label.any fun c =>
    Text.direction c == .right || Text.direction c == .arabicNumber

/-- The labels of a name, if it is one. Labels may be empty. -/
def labels? (cs : List Char) : Option (List (List Char)) := do
  let images ← cs.mapM image?
  let folded := Text.composed images.flatten
  if folded.any isDenied then none
  else
    let labels ← (Text.pieces '.' folded).mapM label?
    if labels.all isLabel && (!isRightToLeft labels || labels.all readsOneWay) then some labels
    else none

end Switchboard.Domain
