import Switchboard.Proofs.XmlStructure

namespace Switchboard

namespace Value

mutual

/-- The texts in a value, at whatever depth, in their order. The names of fields are none of
them. -/
def texts : Value → List String
  | .null => []
  | .bool _ => []
  | .number _ => []
  | .text s => [s]
  | .list items => itemTexts items
  | .object fields => fieldTexts fields

def itemTexts : List Value → List String
  | [] => []
  | item :: rest => texts item ++ itemTexts rest

def fieldTexts : List (String × Value) → List String
  | [] => []
  | (_, value) :: rest => texts value ++ fieldTexts rest

end

end Value

namespace Xml

/-- A `Char` of XML 1.0. -/
def IsLegal (c : Char) : Prop :=
  c ∈ ['\t', '\n', '\r'] ∨ 0x20 ≤ c.toNat ∧ c.toNat ≤ 0xD7FF ∨ 0xE000 ≤ c.toNat ∧ c.toNat ≤ 0xFFFD ∨
    0x10000 ≤ c.toNat ∧ c.toNat ≤ 0x10FFFF

instance : DecidablePred IsLegal := fun c => by
  unfold IsLegal
  infer_instance

def illegals (cs : List Char) : List Char := cs.filter fun c => ¬IsLegal c

theorem illegals_append (cs ds : List Char) :
    illegals (cs ++ ds) = illegals cs ++ illegals ds :=
  List.filter_append ..

theorem illegals_eq_nil_iff {cs : List Char} : illegals cs = [] ↔ ∀ c ∈ cs, IsLegal c := by
  simp [illegals, List.filter_eq_nil_iff]

theorem isLegal_of_isAlphanum {c : Char} (h : c.isAlphanum) : IsLegal c := by
  have htoken : isTokenChar c = true := by simp [isTokenChar, Text.isAlphanumeric, h]
  obtain ⟨hlow, hhigh⟩ := isTokenChar_bounds htoken
  exact .inr (.inl ⟨by omega, by omega⟩)

theorem IsName.illegals_eq_nil {name : List Char} (hname : IsName name) : illegals name = [] := by
  refine illegals_eq_nil_iff.mpr fun c hc => ?_
  rcases hname.of_mem hc with halnum | hmark
  · exact isLegal_of_isAlphanum halnum
  · have hmarks : illegals ['_', '.', '-'] = [] := by decide
    exact illegals_eq_nil_iff.mp hmarks c hmark

theorem illegals_numeral {s : String} (hs : IsNumeral s) : illegals s.toList = [] := by
  refine illegals_eq_nil_iff.mpr fun c hc => ?_
  rcases hs c hc with hdigit | hmark
  · exact isLegal_of_isAlphanum (by simp [Char.isAlphanum, hdigit])
  · have hmarks : illegals ['.', 'e', '+', '-'] = [] := by decide
    exact illegals_eq_nil_iff.mp hmarks c hmark

/-- Escaping changes legal characters only, and into legal ones. -/
theorem illegals_escape (c : Char) : illegals (escape c) = illegals [c] := by
  unfold escape
  split
  case h_6 => rfl
  all_goals decide

theorem illegals_text (cs : List Char) : illegals (cs.flatMap escape) = illegals cs := by
  induction cs with
  | nil => rfl
  | cons c rest ih =>
    rw [List.flatMap_cons, illegals_append, illegals_escape, ih, ← illegals_append,
      List.singleton_append]

section Elements

variable {name : List Char} (hname : IsName name)
include hname

theorem illegals_emptyTag : illegals (emptyTag name) = [] := by
  have hopen : illegals ['<'] = [] := by decide
  have hclose : illegals ['/', '>'] = [] := by decide
  show illegals (['<'] ++ name ++ ['/', '>']) = []
  simp only [illegals_append, hname.illegals_eq_nil, hopen, hclose, List.append_nil]

theorem illegals_enclosed (content : List Char) :
    illegals (enclosed name content) = illegals content := by
  have hopen : illegals ['<'] = [] := by decide
  have hslash : illegals ['<', '/'] = [] := by decide
  have hclose : illegals ['>'] = [] := by decide
  show illegals (['<'] ++ name ++ ['>'] ++ content ++ (['<', '/'] ++ name ++ ['>'])) = _
  simp only [illegals_append, hname.illegals_eq_nil, hopen, hslash, hclose, List.append_nil,
    List.nil_append]

end Elements

-- By induction on the value; the names of elements stay names all the way down.
mutual

theorem illegals_element {name : List Char} (hname : IsName name) : ∀ v : Value,
    illegals (element name v) = v.texts.flatMap (illegals ·.toList)
  | .null => illegals_emptyTag hname
  | .bool false => illegals_enclosed hname _
  | .bool true => illegals_enclosed hname _
  | .number n => (illegals_enclosed hname _).trans (illegals_numeral n.isNumeral_text)
  | .text s => by
    rw [element, illegals_enclosed hname, illegals_text, Value.texts, List.flatMap_singleton]
  | .list items => (illegals_enclosed hname _).trans (illegals_itemElements items)
  | .object fields => (illegals_enclosed hname _).trans (illegals_fieldElements fields)

theorem illegals_itemElements : ∀ items : List Value,
    illegals (itemElements items) = (Value.itemTexts items).flatMap (illegals ·.toList)
  | [] => rfl
  | item :: rest => by
    have hname : IsName itemName := by decide
    rw [itemElements, illegals_append, illegals_element hname item, illegals_itemElements rest,
      Value.itemTexts, List.flatMap_append]

theorem illegals_fieldElements : ∀ fields : List (String × Value),
    illegals (fieldElements fields) = (Value.fieldTexts fields).flatMap (illegals ·.toList)
  | [] => rfl
  | (key, value) :: rest => by
    rw [fieldElements, illegals_append, illegals_element (isName_elementName key.toList) value,
      illegals_fieldElements rest, Value.fieldTexts, List.flatMap_append]

end

/-- The illegal characters of a document are those of the texts in its value, in their order. So the
document is legal exactly if all of these are, whatever the keys. -/
theorem serialized_legal_iff (r : Response) (v : Value) :
    ∃ text, Serializer.xml.serialize { r with body := .value v } = .ok (some text) ∧
      illegals text.toList = v.texts.flatMap (illegals ·.toList) ∧
      ((∀ c ∈ text.toList, IsLegal c) ↔ ∀ s ∈ v.texts, ∀ c ∈ s.toList, IsLegal c) := by
  have hillegals : illegals (document v).toList = v.texts.flatMap (illegals ·.toList) := by
    have hname : IsName rootName := by decide
    rw [document, String.toList_ofList, illegals_element hname v]
  refine ⟨document v, rfl, hillegals, ?_⟩
  rw [← illegals_eq_nil_iff, hillegals, List.flatMap_eq_nil_iff]
  simp only [illegals_eq_nil_iff]

example : illegals (document (.object [("\x01", .text "a\x01")])).toList = ['\x01'] := by decide

end Xml

end Switchboard
