import Switchboard.Proofs.BoundParts

namespace Switchboard

theorem Segment.CoveredBy.antisymm {a b : Segment} (h : CoveredBy a b) (h' : CoveredBy b a) :
    a.literal? = b.literal? := by
  cases h with
  | same text => rfl
  | placeholder segment name =>
    cases h' with
    | placeholder _ other => rfl

theorem Segment.Takes.of_literal?_eq {a b : Segment} (h : a.literal? = b.literal?)
    {raw : List Char} (htakes : a.Takes raw) : b.Takes raw := by
  cases a with
  | literal text =>
    cases b with
    | literal other =>
      obtain rfl := Option.some.inj h
      exact htakes
    | parameter name => cases h
  | parameter name =>
    cases b with
    | literal text => cases h
    | parameter other => exact htakes

namespace Path

theorem Stripped.unique {parts stripped other : List (List Char)} {format : Option String}
    (h : Stripped parts format stripped) (h' : Stripped parts format other) : stripped = other := by
  cases h with
  | whole =>
    cases h' with
    | whole => rfl
  | @bare front last bare _ hparts hlast =>
    generalize hformat : some (String.ofList _) = told at h'
    cases h' with
    | whole => cases hformat
    | bare hparts' hlast' =>
      obtain ⟨rfl, hsame⟩ := List.append_inj' (hparts.symm.trans hparts') rfl
      obtain rfl := List.singleton_inj.mp hsame
      rw [(hlast.unique hlast').1]

end Path

namespace Pattern

variable {p q : Pattern}

theorem shape_eq_of_shadowed (h : p.isShadowedBy q = true) (h' : q.isShadowedBy p = true) :
    p.shape = q.shape := by
  have hcovered := isShadowedBy_iff.mp h
  have hcovers := (isShadowedBy_iff.mp h').flip
  unfold shape
  generalize p.segments = mine at hcovered hcovers ⊢
  generalize q.segments = theirs at hcovered hcovers ⊢
  induction hcovered with
  | nil => rfl
  | cons hsegment _ ih =>
    obtain ⟨hback, hrest⟩ := List.forall₂_cons.mp hcovers
    rw [List.map_cons, List.map_cons, hsegment.antisymm hback, ih hrest]

/-- What segments take depends on their literals and on the places of the others alone. -/
theorem takes_of_shape_eq {mine theirs : List Segment}
    (hshape : mine.map Segment.literal? = theirs.map Segment.literal?)
    {parts : List (List Char)} (h : List.Forall₂ Segment.Takes mine parts) :
    List.Forall₂ Segment.Takes theirs parts := by
  induction h generalizing theirs with
  | nil =>
    obtain rfl := List.map_eq_nil_iff.mp hshape.symm
    exact .nil
  | @cons segment raw rest others hraw _ ih =>
    obtain ⟨other, more, rfl, hother, hmore⟩ := List.map_eq_cons_iff.mp hshape.symm
    exact .cons (hraw.of_literal?_eq hother.symm) (ih hmore.symm)

theorem matchesPath_of_shape_eq (hshape : p.shape = q.shape) {path : String}
    (h : p.matchesPath path = true) : q.matchesPath path = true := by
  obtain ⟨parts, hparts, htakes⟩ := matchesPath_iff.mp h
  exact matchesPath_iff.mpr ⟨parts, hparts, takes_of_shape_eq hshape htakes⟩

theorem sameShape_iff_forall_matchesPath {s t : String} (hp : compile s = .ok p)
    (hq : compile t = .ok q) :
    p.sameShape q = true ↔ ∀ path, p.matchesPath path = q.matchesPath path := by
  rw [sameShape_iff]
  constructor
  · intro hshape path
    exact Bool.eq_iff_iff.mpr
      ⟨matchesPath_of_shape_eq hshape, matchesPath_of_shape_eq hshape.symm⟩
  · intro hsame
    have hwithin : p.Within q := fun path hpath => (hsame path).symm.trans hpath
    have hcontains : q.Within p := fun path hpath => (hsame path).trans hpath
    exact shape_eq_of_shadowed ((within_iff hp).mp hwithin).1 ((within_iff hq).mp hcontains).1

/-- A pattern that takes a path without its format does so for every pattern of its shape. -/
theorem format_eq_of_carries (hshape : p.shape = q.shape) {path : String} {found other : Match}
    (hother : q.match? path = some other) {front : List (List Char)} {last bare format : List Char}
    (hparts : Path.segments path.toList = front ++ [last])
    (hcarries : Path.Carries last bare format) (hformat : found.format = some (String.ofList format))
    (hbind : bind? p.segments (front ++ [bare]) = some found.params) :
    found.format = other.format := by
  rcases match?_cases hother with
    ⟨front', last', bare', format', hparts', hcarries', hformat', -⟩ | ⟨-, -, hnobare⟩
  · obtain ⟨-, hsame⟩ := List.append_inj' (hparts.symm.trans hparts') rfl
    obtain rfl := List.singleton_inj.mp hsame
    rw [hformat, hformat', (hcarries.unique hcarries').2]
  · have htakes := takes_of_shape_eq hshape (bind?_eq_some_iff.mp hbind).1
    have hsome := bind?_isSome_iff.mpr htakes
    rw [hnobare front last bare format hparts hcarries] at hsome
    cases hsome

theorem format_eq_of_shape_eq (hshape : p.shape = q.shape) {path : String} {found other : Match}
    (hfound : p.match? path = some found) (hother : q.match? path = some other) :
    found.format = other.format := by
  rcases match?_cases hfound with
    ⟨front, last, bare, format, hparts, hcarries, hformat, hbind⟩ | ⟨hnone, -, -⟩
  · exact format_eq_of_carries hshape hother hparts hcarries hformat hbind
  · rcases match?_cases hother with
      ⟨front, last, bare, format, hparts, hcarries, hformat, hbind⟩ | ⟨hnone', -, -⟩
    · exact (format_eq_of_carries hshape.symm hfound hparts hcarries hformat hbind).symm
    · rw [hnone, hnone']

theorem exists_parameter_of_shape_eq (hshape : p.shape = q.shape) {i : Nat} {name : String}
    (hname : p.segments[i]? = some (.parameter name)) :
    ∃ counterpart, q.segments[i]? = some (.parameter counterpart) := by
  have hgap : q.shape[i]? = some none := by
    rw [← hshape, shape, List.getElem?_map, hname]
    rfl
  rw [shape, List.getElem?_map] at hgap
  obtain ⟨segment, hsegment, hliteral⟩ := Option.map_eq_some_iff.mp hgap
  cases segment with
  | literal text => cases hliteral
  | parameter counterpart => exact ⟨counterpart, hsegment⟩

/-- Two patterns are of one shape exactly if they match the same paths. Then they tell the same format
of every path they match, and bind the placeholders at each place to the same value. -/
theorem sameShape_exact {s t : String} (hp : compile s = .ok p) (hq : compile t = .ok q) :
    (p.sameShape q = true ↔ ∀ path, p.matchesPath path = q.matchesPath path) ∧
      (p.sameShape q = true → ∀ path found other,
        p.match? path = some found → q.match? path = some other →
          found.format = other.format ∧
            ∀ (i : Nat) name, p.segments[i]? = some (.parameter name) →
              ∃ counterpart value, q.segments[i]? = some (.parameter counterpart) ∧
                found.param? name = some value ∧ other.param? counterpart = some value) := by
  refine ⟨sameShape_iff_forall_matchesPath hp hq, fun hsame path found other hfound hother => ?_⟩
  have hshape := sameShape_iff.mp hsame
  have hformat := format_eq_of_shape_eq hshape hfound hother
  refine ⟨hformat, fun i name hname => ?_⟩
  obtain ⟨parts, hparts, hbinds⟩ := exists_binds hp hfound
  obtain ⟨parts', hparts', hbinds'⟩ := exists_binds hq hother
  obtain rfl := hparts.unique (hformat ▸ hparts')
  obtain ⟨counterpart, hcounterpart⟩ := exists_parameter_of_shape_eq hshape hname
  obtain ⟨part, hpart, hvalue⟩ := hbinds.values i name hname
  obtain ⟨part', hpart', hvalue'⟩ := hbinds'.values i counterpart hcounterpart
  obtain rfl := Option.some.inj (hpart.symm.trans hpart')
  exact ⟨counterpart, _, hcounterpart, hvalue, hvalue'⟩

/-- The shape of `bookOnShelf` with other names, and a format suffix. -/
def workOfAuthor : Pattern where
  template := "/books/\x7bauthor\x7d/\x7bwork\x7d.\x7bformat\x7d"
  path := "/books/\x7bauthor\x7d/\x7bwork\x7d"
  segments := [.literal "books", .parameter "author", .parameter "work"]
  declaresFormat := true

/-- Neither names nor a format suffix tell patterns apart. -/
theorem workOfAuthor_sameShape :
    (compile bookOnShelf.template = .ok bookOnShelf ∧
      compile workOfAuthor.template = .ok workOfAuthor) ∧
      ∀ path, bookOnShelf.matchesPath path = workOfAuthor.matchesPath path := by
  have hbook : compile bookOnShelf.template = .ok bookOnShelf := by decide +kernel
  have hwork : compile workOfAuthor.template = .ok workOfAuthor := by decide +kernel
  exact ⟨⟨hbook, hwork⟩, (sameShape_exact hbook hwork).1.mp (by decide)⟩

end Pattern

end Switchboard
