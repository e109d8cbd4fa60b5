import Mathlib.Data.List.Basic
import Switchboard.Format.Serializer
import Switchboard.Proofs.Numerals
import Switchboard.Proofs.XmlReader

namespace Switchboard.Xml

/-- A text between two tags; where there is none, no node stands for it. -/
def textNodes : List Char → List Node
  | [] => []
  | c :: rest => [.text (c :: rest)]

mutual

/-- The element that shows a value under a name. -/
def tree (name : List Char) : Value → Node
  | .null => .element name []
  | .bool b => .element name (textNodes (if b then "true" else "false").toList)
  | .number n => .element name (textNodes n.text.toList)
  | .text s => .element name (textNodes s.toList)
  | .list items => .element name (itemTrees items)
  | .object fields => .element name (fieldTrees fields)

def itemTrees : List Value → List Node
  | [] => []
  | item :: rest => tree "item".toList item :: itemTrees rest

def fieldTrees : List (String × Value) → List Node
  | [] => []
  | (key, value) :: rest => tree (elementName key.toList) value :: fieldTrees rest

end

theorem mem_of_isNameChar {c : Char} (h : isNameChar c) :
    c.isAlphanum ∨ c ∈ ['_', '.', '-'] := by
  unfold isNameChar Text.isAlphanumeric at h
  simp only [Bool.or_eq_true, beq_iff_eq] at h
  rcases h with ((halpha | rfl) | rfl) | rfl
  · exact .inl halpha
  all_goals exact .inr (by decide)

theorem isName_elementName (key : List Char) : IsName (elementName key) := by
  have hkept : ∀ d ∈ key.map fun c => if isNameChar c then c else '_',
      d.isAlphanum ∨ d ∈ ['_', '.', '-'] := by
    intro d hd
    obtain ⟨c, -, rfl⟩ := List.mem_map.mp hd
    split
    next hc => exact mem_of_isNameChar hc
    next => exact .inr (by decide)
  unfold elementName
  dsimp only
  generalize (key.map fun c => if isNameChar c then c else '_') = name at hkept ⊢
  cases name with
  | nil => decide
  | cons c rest =>
    dsimp only
    split
    next hstart =>
      unfold startsName at hstart
      simp only [Bool.or_eq_true, beq_iff_eq] at hstart
      exact ⟨hstart, (List.forall_mem_cons.mp hkept).2⟩
    next => exact ⟨.inr rfl, hkept⟩

theorem escape_numeral {s : String} (hs : IsNumeral s) :
    s.toList.flatMap escape = s.toList := by
  have hself : ∀ c ∈ s.toList, escape c = [c] := by
    intro c hc
    have hplain := hs c hc
    unfold escape
    split
    case h_6 => rfl
    all_goals exact absurd hplain (by decide)
  rw [List.flatMap_congr hself, List.flatMap_singleton']

namespace Position

variable {nodes : List Node} {outer : List (List Char × List Node)}

section Elements

variable {name : List Char} (hname : IsName name)
include hname

theorem run_openTag :
    run ⟨.content, nodes, outer⟩ (openTag name) = some ⟨.content, [], (name, nodes) :: outer⟩ :=
  run_tag (fun h => (hname.mem h).2 rfl) (tag?_opening hname) rfl

theorem run_closeTag {before : List Node} :
    run ⟨.content, nodes, (name, before) :: outer⟩ (closeTag name) =
      some ⟨.content, .element name nodes.reverse :: before, outer⟩ := by
  have hbracket : '>' ∉ '/' :: name :=
    List.not_mem_cons_of_ne_of_not_mem (by decide) fun h => (hname.mem h).2 rfl
  exact run_tag hbracket (tag?_closing hname) (if_pos rfl)

theorem run_emptyTag :
    run ⟨.content, nodes, outer⟩ (emptyTag name) =
      some ⟨.content, .element name [] :: nodes, outer⟩ := by
  have hbracket : '>' ∉ name ++ ['/'] := by
    intro h
    rcases List.mem_append.mp h with h | h
    · exact (hname.mem h).2 rfl
    · exact absurd h (by decide)
  have htag : emptyTag name = '<' :: (name ++ ['/']) ++ ['>'] := by simp [emptyTag]
  rw [htag]
  exact run_tag hbracket (tag?_empty hname) rfl

/-- What is read between an element's tags becomes its content. -/
theorem run_enclosed {content : List Char} {children : List Node}
    (h : run ⟨.content, [], (name, nodes) :: outer⟩ content =
      some ⟨.content, children.reverse, (name, nodes) :: outer⟩) :
    run ⟨.content, nodes, outer⟩ (enclosed name content) =
      some ⟨.content, .element name children :: nodes, outer⟩ := by
  unfold enclosed
  rw [List.append_assoc, run_append (run_openTag hname), run_append h, run_closeTag hname,
    List.reverse_reverse]

end Elements

theorem run_escape (c : Char) :
    run ⟨.content, nodes, outer⟩ (escape c) = some ⟨.content, addChar nodes c, outer⟩ := by
  unfold escape
  split
  case h_6 _ hamp hlt _ _ _ =>
    have hstep : step ⟨.content, nodes, outer⟩ c = some ⟨.content, addChar nodes c, outer⟩ :=
      (if_neg hlt).trans (if_neg hamp)
    exact run_cons hstep
  all_goals rfl

theorem run_text (cs : List Char) :
    run ⟨.content, nodes, outer⟩ (cs.flatMap escape) =
      some ⟨.content, cs.foldl addChar nodes, outer⟩ := by
  induction cs generalizing nodes with
  | nil => rfl
  | cons c rest ih => rw [List.flatMap_cons, run_append (run_escape c), ih, List.foldl_cons]

theorem foldl_addChar {cs soFar : List Char} :
    cs.foldl addChar (.text soFar :: nodes) = .text (soFar ++ cs) :: nodes := by
  induction cs generalizing soFar with
  | nil =>
    rw [List.append_nil]
    rfl
  | cons c rest ih =>
    show rest.foldl addChar (.text (soFar ++ [c]) :: nodes) = _
    rw [ih, List.append_assoc]
    rfl

theorem foldl_addChar_nil (cs : List Char) : cs.foldl addChar [] = textNodes cs := by
  cases cs with
  | nil => rfl
  | cons c rest => exact foldl_addChar

theorem run_enclosedText {name : List Char} (hname : IsName name) (cs : List Char) :
    run ⟨.content, nodes, outer⟩ (enclosed name (cs.flatMap escape)) =
      some ⟨.content, .element name (textNodes cs) :: nodes, outer⟩ := by
  have hreverse : (textNodes cs).reverse = textNodes cs := by cases cs <;> rfl
  refine run_enclosed hname ?_
  rw [run_text, foldl_addChar_nil, hreverse]

theorem run_enclosedNumeral {name : List Char} (hname : IsName name) {s : String}
    (hs : IsNumeral s) :
    run ⟨.content, nodes, outer⟩ (enclosed name s.toList) =
      some ⟨.content, .element name (textNodes s.toList) :: nodes, outer⟩ := by
  rw [← run_enclosedText hname, escape_numeral hs]

-- By induction on the value, at every position, since elements stand inside of others.
mutual

/-- Reading the element of a value puts its tree behind the nodes before it. -/
theorem run_element {name : List Char} (hname : IsName name) {nodes : List Node}
    {outer : List (List Char × List Node)} : ∀ v : Value,
    run ⟨.content, nodes, outer⟩ (element name v) = some ⟨.content, tree name v :: nodes, outer⟩
  | .null => run_emptyTag hname
  | .bool false => run_enclosedText hname "false".toList
  | .bool true => run_enclosedText hname "true".toList
  | .number n => run_enclosedNumeral hname n.isNumeral_text
  | .text s => run_enclosedText hname s.toList
  | .list items => run_enclosed hname (by rw [run_itemElements items, List.append_nil])
  | .object fields => run_enclosed hname (by rw [run_fieldElements fields, List.append_nil])

theorem run_itemElements {nodes : List Node} {outer : List (List Char × List Node)} :
    ∀ items : List Value,
    run ⟨.content, nodes, outer⟩ (itemElements items) =
      some ⟨.content, (itemTrees items).reverse ++ nodes, outer⟩
  | [] => rfl
  | item :: rest => by
    have hname : IsName itemName := by decide
    rw [itemElements, run_append (run_element hname item), run_itemElements rest, itemTrees,
      List.reverse_cons, List.append_assoc]
    rfl

theorem run_fieldElements {nodes : List Node} {outer : List (List Char × List Node)} :
    ∀ fields : List (String × Value),
    run ⟨.content, nodes, outer⟩ (fieldElements fields) =
      some ⟨.content, (fieldTrees fields).reverse ++ nodes, outer⟩
  | [] => rfl
  | (key, value) :: rest => by
    have hname := isName_elementName key.toList
    rw [fieldElements, run_append (run_element hname value), run_fieldElements rest, fieldTrees,
      List.reverse_cons, List.append_assoc]
    rfl

end

end Position

theorem read?_document (v : Value) :
    read? (document v).toList = some (tree "response".toList v) := by
  have hname : IsName rootName := by decide
  unfold document read?
  rw [String.toList_ofList, Position.run_element hname v]
  cases v <;> rfl

/-- The XML text of a body has the structure of its value, and each of its elements a name. -/
theorem read?_serialized (r : Response) (v : Value) :
    ∃ text, Serializer.xml.serialize { r with body := .value v } = .ok (some text) ∧
      read? text.toList = some (tree "response".toList v) ∧
      (tree "response".toList v).WellNamed :=
  ⟨document v, rfl, read?_document v, wellNamed_of_read? (read?_document v)⟩

end Switchboard.Xml
