namespace Switchboard.Xml

/-- A letter or a low line, then letters, digits, low lines, points and hyphens, all of ASCII. -/
def IsName : List Char → Prop
  | [] => False
  | c :: rest => (c.isAlpha ∨ c = '_') ∧ ∀ d ∈ rest, d.isAlphanum ∨ d ∈ ['_', '.', '-']

instance (cs : List Char) : Decidable (IsName cs) :=
  match cs with
  | [] => instDecidableFalse
  | _ :: rest => @instDecidableAnd _ _ inferInstance (List.decidableBAll _ rest)

inductive Node where
  | element (name : List Char) (children : List Node)
  | text (content : List Char)

/-- Every element of the tree has a name. -/
inductive Node.WellNamed : Node → Prop where
  | element {name : List Char} {children : List Node} (hname : IsName name)
      (hchildren : ∀ child ∈ children, WellNamed child) : WellNamed (.element name children)
  | text (content : List Char) : WellNamed (.text content)

inductive Tag where
  | opening (name : List Char)
  | closing (name : List Char)
  | empty (name : List Char)

def Tag.name : Tag → List Char
  | opening name => name
  | closing name => name
  | empty name => name

/-- The tag with these characters between its brackets. -/
def tag? (cs : List Char) : Option Tag :=
  if IsName cs then some (.opening cs)
  else if cs.head? = some '/' ∧ IsName cs.tail then some (.closing cs.tail)
  else if cs.getLast? = some '/' ∧ IsName cs.dropLast then some (.empty cs.dropLast)
  else none

def entities : List (List Char × Char) :=
  [("amp".toList, '&'), ("lt".toList, '<'), ("gt".toList, '>'), ("quot".toList, '"'),
    ("apos".toList, '\'')]

/-- Between tags, or behind a `<` or an `&` with what has followed it. -/
inductive Place where
  | content
  | tag (soFar : List Char)
  | entity (soFar : List Char)

/-- How far a reader has come. -/
structure Position where
  place : Place
  /-- What the innermost open element holds so far, last first. -/
  nodes : List Node
  /-- The names of the open elements, innermost first, each with the nodes that stand before it. -/
  outer : List (List Char × List Node)

def addChar : List Node → Char → List Node
  | .text cs :: before, c => .text (cs ++ [c]) :: before
  | nodes, c => .text [c] :: nodes

namespace Position

/-- The position behind a tag. A closing tag wants the name of the innermost open element. -/
def behind? (p : Position) : Tag → Option Position
  | .opening name => some ⟨.content, [], (name, p.nodes) :: p.outer⟩
  | .empty name => some ⟨.content, .element name [] :: p.nodes, p.outer⟩
  | .closing name =>
    match p.outer with
    | [] => none
    | (opened, before) :: outer =>
      if opened = name then some ⟨.content, .element name p.nodes.reverse :: before, outer⟩
      else none

def step (p : Position) (c : Char) : Option Position :=
  match p.place with
  | .content =>
    if c = '<' then some { p with place := .tag [] }
    else if c = '&' then some { p with place := .entity [] }
    else some { p with nodes := addChar p.nodes c }
  | .tag soFar =>
    if c = '>' then (tag? soFar).bind p.behind?
    else some { p with place := .tag (soFar ++ [c]) }
  | .entity soFar =>
    if c = ';' then
      (entities.lookup soFar).map fun named => ⟨.content, addChar p.nodes named, p.outer⟩
    else some { p with place := .entity (soFar ++ [c]) }

def run (p : Position) (cs : List Char) : Option Position := cs.foldlM step p

/-- The names known at a position, those of open elements included, are names. -/
def WellNamed (p : Position) : Prop :=
  (∀ node ∈ p.nodes, node.WellNamed) ∧
    ∀ frame ∈ p.outer, IsName frame.1 ∧ ∀ node ∈ frame.2, node.WellNamed

end Position

/-- The tree of a document, which is one element from its first character to its last. -/
def read? (cs : List Char) : Option Node :=
  match Position.run ⟨.content, [], []⟩ cs with
  | some ⟨.content, [.element name children], []⟩ => some (.element name children)
  | _ => none

section Tags

variable {name : List Char} (hname : IsName name)
include hname

theorem IsName.of_mem {c : Char} (hc : c ∈ name) : c.isAlphanum ∨ c ∈ ['_', '.', '-'] := by
  cases name with
  | nil => cases hname
  | cons first rest =>
    obtain ⟨hfirst, hrest⟩ := hname
    rcases List.mem_cons.mp hc with rfl | hc
    · rcases hfirst with halpha | rfl
      · exact .inl (by simp [Char.isAlphanum, halpha])
      · decide
    · exact hrest c hc

theorem IsName.mem {c : Char} (hc : c ∈ name) : c ≠ '/' ∧ c ≠ '>' := by
  have hlegal := hname.of_mem hc
  constructor
  · rintro rfl
    exact absurd hlegal (by decide)
  · rintro rfl
    exact absurd hlegal (by decide)

theorem tag?_opening : tag? name = some (.opening name) := if_pos hname

theorem tag?_closing : tag? ('/' :: name) = some (.closing name) := by
  have hslash : ¬IsName ('/' :: name) := fun h => (h.mem (List.mem_cons_self ..)).1 rfl
  exact (if_neg hslash).trans (if_pos ⟨rfl, hname⟩)

theorem tag?_empty : tag? (name ++ ['/']) = some (.empty name) := by
  have hslash : ¬IsName (name ++ ['/']) := fun h => (h.mem (by simp)).1 rfl
  have hfirst : ¬((name ++ ['/']).head? = some '/' ∧ IsName (name ++ ['/']).tail) := by
    rintro ⟨hhead, -⟩
    cases name with
    | nil => cases hname
    | cons c rest => exact (hname.mem (List.mem_cons_self ..)).1 (Option.some.inj hhead)
  unfold tag?
  rw [if_neg hslash, if_neg hfirst, List.dropLast_concat, if_pos ⟨by simp, hname⟩]

end Tags

namespace Position

variable {p q : Position} {nodes : List Node} {outer : List (List Char × List Node)}

theorem run_cons {c : Char} {rest : List Char} (h : p.step c = some q) :
    p.run (c :: rest) = q.run rest := by
  unfold run
  rw [List.foldlM_cons, h]
  rfl

theorem run_append {cs rest : List Char} (h : p.run cs = some q) :
    p.run (cs ++ rest) = q.run rest := by
  unfold run at h ⊢
  rw [List.foldlM_append, h]
  rfl

theorem run_inside {cs soFar : List Char} (h : '>' ∉ cs) :
    run ⟨.tag soFar, nodes, outer⟩ cs = some ⟨.tag (soFar ++ cs), nodes, outer⟩ := by
  induction cs generalizing soFar with
  | nil =>
    rw [List.append_nil]
    rfl
  | cons c rest ih =>
    have hstep : step ⟨.tag soFar, nodes, outer⟩ c = some ⟨.tag (soFar ++ [c]), nodes, outer⟩ :=
      if_neg (List.ne_of_not_mem_cons h).symm
    rw [run_cons hstep, ih (List.not_mem_of_not_mem_cons h), List.append_assoc]
    rfl

/-- A tag is read as a whole. -/
theorem run_tag {cs : List Char} {t : Tag} (h : '>' ∉ cs) (ht : tag? cs = some t)
    (hq : behind? ⟨.tag cs, nodes, outer⟩ t = some q) :
    run ⟨.content, nodes, outer⟩ ('<' :: cs ++ ['>']) = some q := by
  have hopen : step ⟨.content, nodes, outer⟩ '<' = some ⟨.tag [], nodes, outer⟩ := rfl
  have hclose : step ⟨.tag cs, nodes, outer⟩ '>' = some q := by
    show (tag? cs).bind (behind? ⟨.tag cs, nodes, outer⟩) = some q
    rw [ht]
    exact hq
  rw [List.cons_append, run_cons hopen, run_append (run_inside h), List.nil_append,
    run_cons hclose]
  rfl

end Position

theorem isName_of_tag? {cs : List Char} {t : Tag} (h : tag? cs = some t) : IsName t.name := by
  unfold tag? at h
  split at h
  next hname =>
    obtain rfl := Option.some.inj h
    exact hname
  next =>
    split at h
    next hclosing =>
      obtain rfl := Option.some.inj h
      exact hclosing.2
    next =>
      split at h
      next hempty =>
        obtain rfl := Option.some.inj h
        exact hempty.2
      next => cases h

theorem wellNamed_addChar {nodes : List Node} (h : ∀ node ∈ nodes, node.WellNamed) (c : Char) :
    ∀ node ∈ addChar nodes c, node.WellNamed := by
  unfold addChar
  split
  next => exact List.forall_mem_cons.mpr ⟨.text _, (List.forall_mem_cons.mp h).2⟩
  next => exact List.forall_mem_cons.mpr ⟨.text _, h⟩

namespace Position

theorem wellNamed_behind? {p q : Position} {t : Tag} (hp : p.WellNamed) (ht : IsName t.name)
    (h : p.behind? t = some q) : q.WellNamed := by
  obtain ⟨place, nodes, outer⟩ := p
  obtain ⟨hnodes, houter⟩ := hp
  cases t with
  | opening name =>
    obtain rfl := Option.some.inj h
    exact ⟨fun node hnode => absurd hnode List.not_mem_nil,
      List.forall_mem_cons.mpr ⟨⟨ht, hnodes⟩, houter⟩⟩
  | empty name =>
    obtain rfl := Option.some.inj h
    have hnode : Node.WellNamed (.element name []) :=
      .element ht fun child hchild => absurd hchild List.not_mem_nil
    exact ⟨List.forall_mem_cons.mpr ⟨hnode, hnodes⟩, houter⟩
  | closing name =>
    cases outer with
    | nil => cases h
    | cons frame rest =>
      obtain ⟨⟨hopened, hbefore⟩, hrest⟩ := List.forall_mem_cons.mp houter
      unfold behind? at h
      dsimp only at h
      split at h
      next =>
        obtain rfl := Option.some.inj h
        have hnode : Node.WellNamed (.element name nodes.reverse) :=
          .element ht fun child hchild => hnodes child (List.mem_reverse.mp hchild)
        exact ⟨List.forall_mem_cons.mpr ⟨hnode, hbefore⟩, hrest⟩
      next => cases h

theorem wellNamed_step {p q : Position} {c : Char} (hp : p.WellNamed) (h : p.step c = some q) :
    q.WellNamed := by
  unfold step at h
  split at h
  next =>
    split at h
    next =>
      obtain rfl := Option.some.inj h
      exact hp
    next =>
      split at h
      next =>
        obtain rfl := Option.some.inj h
        exact hp
      next =>
        obtain rfl := Option.some.inj h
        exact ⟨wellNamed_addChar hp.1 c, hp.2⟩
  next =>
    split at h
    next =>
      obtain ⟨t, ht, hbehind⟩ := Option.bind_eq_some_iff.mp h
      exact wellNamed_behind? hp (isName_of_tag? ht) hbehind
    next =>
      obtain rfl := Option.some.inj h
      exact hp
  next =>
    split at h
    next =>
      obtain ⟨named, -, rfl⟩ := Option.map_eq_some_iff.mp h
      exact ⟨wellNamed_addChar hp.1 named, hp.2⟩
    next =>
      obtain rfl := Option.some.inj h
      exact hp

theorem wellNamed_run {p q : Position} {cs : List Char} (hp : p.WellNamed)
    (h : p.run cs = some q) : q.WellNamed := by
  induction cs generalizing p with
  | nil =>
    obtain rfl := Option.some.inj h
    exact hp
  | cons c rest ih =>
    obtain ⟨next, hnext, hrest⟩ := Option.bind_eq_some_iff.mp h
    exact ih (wellNamed_step hp hnext) hrest

end Position

/-- No document is read with an element whose name is none. -/
theorem wellNamed_of_read? {cs : List Char} {node : Node} (h : read? cs = some node) :
    node.WellNamed := by
  unfold read? at h
  split at h
  next name children hrun =>
    obtain rfl := Option.some.inj h
    have hstart : Position.WellNamed ⟨.content, [], []⟩ :=
      ⟨fun node hnode => absurd hnode List.not_mem_nil,
        fun frame hframe => absurd hframe List.not_mem_nil⟩
    exact (Position.wellNamed_run hstart hrun).1 _ (List.mem_singleton_self _)
  next => cases h

example : (read? "<a b='c'/>".toList).isNone := by decide

end Switchboard.Xml
