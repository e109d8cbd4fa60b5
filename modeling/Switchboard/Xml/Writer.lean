import Switchboard.Text.Ascii
import Switchboard.Value.Printer

namespace Switchboard.Xml

/-- A character that a name keeps; every other becomes a low line. -/
def isNameChar (c : Char) : Bool := Text.isAlphanumeric c || c == '_' || c == '-' || c == '.'

def startsName (c : Char) : Bool := c.isAlpha || c == '_'

/-- The element name for a key: legal whatever the key holds. -/
def elementName (key : List Char) : List Char :=
  let name := key.map fun c => if isNameChar c then c else '_'
  match name with
  | [] => ['_']
  | c :: rest => if startsName c then c :: rest else '_' :: c :: rest

def escape (c : Char) : List Char :=
  match c with
  | '&' => "&amp;".toList
  | '<' => "&lt;".toList
  | '>' => "&gt;".toList
  | '"' => "&quot;".toList
  | '\'' => "&apos;".toList
  | c => [c]

def openTag (name : List Char) : List Char := '<' :: name ++ ['>']

def closeTag (name : List Char) : List Char := ['<', '/'] ++ name ++ ['>']

def emptyTag (name : List Char) : List Char := '<' :: name ++ ['/', '>']

def enclosed (name content : List Char) : List Char := openTag name ++ content ++ closeTag name

def itemName : List Char := "item".toList

def rootName : List Char := "response".toList

mutual

def element (name : List Char) : Value → List Char
  | .null => emptyTag name
  | .bool b => enclosed name (if b then "true" else "false").toList
  | .number n => enclosed name n.text.toList
  | .text s => enclosed name (s.toList.flatMap escape)
  | .list items => enclosed name (itemElements items)
  | .object fields => enclosed name (fieldElements fields)

def itemElements : List Value → List Char
  | [] => []
  | item :: rest => element itemName item ++ itemElements rest

def fieldElements : List (String × Value) → List Char
  | [] => []
  | (key, value) :: rest => element (elementName key.toList) value ++ fieldElements rest

end

def document (value : Value) : String := String.ofList (element rootName value)

end Switchboard.Xml
