import Mathlib.Data.List.Induction
import Mathlib.Data.List.Nodup
import Switchboard.Proofs.PairedLists
import Switchboard.Proofs.PathPieces

namespace Switchboard

namespace Segment

/-- A name is some letters, digits, low lines and hyphens. -/
structure IsName (name : List Char) : Prop where
  ne : name ≠ []
  chars : ∀ c ∈ name, isNameChar c = true

/-- A text between a brace at its start and one at its end, and no brace in it. -/
structure Braced (name part : List Char) : Prop where
  text : part = '\x7b' :: (name ++ ['\x7d'])
  noOpen : '\x7b' ∉ name
  noClose : '\x7d' ∉ name

/-- A piece without braces stands for itself, and a name in braces for a placeholder. -/
inductive Denotes : List Char → Segment → Prop where
  | literal {part : List Char} (hopen : '\x7b' ∉ part) (hclose : '\x7d' ∉ part) :
    Denotes part (.literal (String.ofList part))
  | parameter {part name : List Char} (hbraced : Braced name part) (hname : IsName name) :
    Denotes part (.parameter (String.ofList name))

theorem mem_names_iff {segments : List Segment} {name : String} :
    name ∈ segments.filterMap name? ↔ .parameter name ∈ segments := by
  rw [List.mem_filterMap]
  constructor
  · rintro ⟨segment, hsegment, hname⟩
    cases segment with
    | literal text => cases hname
    | parameter other =>
      obtain rfl := Option.some.inj hname
      exact hsegment
  · intro h
    exact ⟨_, h, rfl⟩

/-- What is wrong with a piece of a template that denotes nothing. -/
inductive Malformed (template : String) : List Char → PatternError → Prop where
  | unbalanced {part : List Char} (hbrace : '\x7b' ∈ part ∨ '\x7d' ∈ part)
      (hunbraced : ∀ name, ¬ Braced name part) :
    Malformed template part (.unbalancedBraces (String.ofList part))
  | badName {part name : List Char} (hbraced : Braced name part) (hname : ¬ IsName name) :
    Malformed template part (.badName template (String.ofList name))

theorem isName_iff {name : List Char} :
    IsName name ↔ (name.isEmpty || !name.all isNameChar) = false := by
  rw [Bool.or_eq_false_iff, Bool.not_eq_false', List.isEmpty_eq_false_iff, List.all_eq_true]
  exact ⟨fun h => ⟨h.ne, h.chars⟩, fun h => ⟨h.1, h.2⟩⟩

theorem braced?_eq_some_iff {part name : List Char} :
    braced? part = some name ↔ part = '\x7b' :: (name ++ ['\x7d']) := by
  constructor
  · intro h
    unfold braced? at h
    split at h
    next rest =>
      split at h
      next hlast =>
        obtain ⟨front, rfl⟩ := List.getLast?_eq_some_iff.mp hlast
        rw [List.dropLast_concat] at h
        rw [Option.some.inj h]
      next => cases h
    next => cases h
  · rintro rfl
    simp [braced?]

theorem braced_iff {name part : List Char} :
    Braced name part ↔
      braced? part = some name ∧ part.count '\x7b' = 1 ∧ part.count '\x7d' = 1 := by
  have hcounts : ∀ brace ∈ ['\x7b', '\x7d'],
      ('\x7b' :: (name ++ ['\x7d'])).count brace = 1 ↔ brace ∉ name := by
    intro brace hbrace
    rw [← List.count_eq_zero]
    rcases List.mem_pair.mp hbrace with rfl | rfl
    · simp
    · simp
  rw [braced?_eq_some_iff]
  constructor
  · rintro ⟨rfl, hopen, hclose⟩
    exact ⟨rfl, (hcounts _ (by simp)).mpr hopen, (hcounts _ (by simp)).mpr hclose⟩
  · rintro ⟨rfl, hopen, hclose⟩
    exact ⟨rfl, (hcounts _ (by simp)).mp hopen, (hcounts _ (by simp)).mp hclose⟩

theorem ofPart_of_braced {name part : List Char} (h : Braced name part) (template : String) :
    ofPart template part =
      if name.isEmpty || !name.all isNameChar then .error (.badName template (String.ofList name))
      else .ok (.parameter (String.ofList name)) := by
  obtain ⟨hbraced, hopen, hclose⟩ := braced_iff.mp h
  unfold ofPart
  simp [hopen, hclose, hbraced]

theorem ofPart_of_denotes {part : List Char} {segment : Segment} (h : Denotes part segment)
    (template : String) : ofPart template part = .ok segment := by
  cases h with
  | literal hopen hclose =>
    unfold ofPart
    exact if_pos ⟨List.count_eq_zero.mpr hopen, List.count_eq_zero.mpr hclose⟩
  | parameter hbraced hname =>
    rw [ofPart_of_braced hbraced, isName_iff.mp hname]
    rfl

theorem ofPart_of_malformed {template : String} {part : List Char} {e : PatternError}
    (h : Malformed template part e) : ofPart template part = .error e := by
  cases h with
  | unbalanced hbrace hunbraced =>
    have hsome : ¬(part.count '\x7b' = 0 ∧ part.count '\x7d' = 0) := by
      rintro ⟨hopen, hclose⟩
      rcases hbrace with hin | hin
      · exact List.count_eq_zero.mp hopen hin
      · exact List.count_eq_zero.mp hclose hin
    unfold ofPart
    dsimp only
    rw [if_neg hsome]
    cases hbraced : braced? part with
    | none => rfl
    | some name =>
      refine if_pos ?_
      by_contra hcounts
      rw [not_or, not_not, not_not] at hcounts
      exact hunbraced name (braced_iff.mpr ⟨hbraced, hcounts⟩)
  | badName hbraced hname =>
    rw [isName_iff, Bool.not_eq_false] at hname
    rw [ofPart_of_braced hbraced, hname]
    rfl

theorem Denotes.unique {part : List Char} {segment other : Segment}
    (h : Denotes part segment) (h' : Denotes part other) : segment = other :=
  Except.ok.inj ((ofPart_of_denotes h "").symm.trans (ofPart_of_denotes h' ""))

theorem Denotes.eq_nil {part : List Char} (h : Denotes part (.literal "")) : part = [] := by
  generalize hempty : Segment.literal "" = segment at h
  cases h with
  | literal => exact String.ofList_eq_empty_iff.mp (Segment.literal.inj hempty).symm
  | parameter => cases hempty

theorem denotes_or_malformed (template : String) (part : List Char) :
    (∃ segment, Denotes part segment) ∨ ∃ e, Malformed template part e := by
  by_cases hbrace : '\x7b' ∈ part ∨ '\x7d' ∈ part
  · by_cases hbraced : ∃ name, Braced name part
    · obtain ⟨name, hname⟩ := hbraced
      by_cases hgood : IsName name
      · exact .inl ⟨_, .parameter hname hgood⟩
      · exact .inr ⟨_, .badName hname hgood⟩
    · exact .inr ⟨_, .unbalanced hbrace (not_exists.mp hbraced)⟩
  · rw [not_or] at hbrace
    exact .inl ⟨_, .literal hbrace.1 hbrace.2⟩

end Segment

namespace Pattern

/-- Pieces that denote segments, among them no two placeholders of one name. -/
structure Composes (parts : List (List Char)) (segments : List Segment) : Prop where
  denotes : List.Forall₂ Segment.Denotes parts segments
  names : (segments.filterMap Segment.name?).Nodup

/-- Why a piece cannot stand behind those of the given segments. -/
inductive Offends (template : String) (before : List Segment) (part : List Char) :
    PatternError → Prop where
  | malformed {e : PatternError} (h : Segment.Malformed template part e) :
    Offends template before part e
  | repeated {name : String} (hpart : Segment.Denotes part (.parameter name))
      (hused : .parameter name ∈ before) :
    Offends template before part (.repeatedName template name)

/-- The first piece that cannot stand behind those before it, and why. -/
def FirstOffence (template : String) (parts : List (List Char)) (e : PatternError) : Prop :=
  ∃ before part after segments, parts = before ++ part :: after ∧ Composes before segments ∧
    Offends template segments part e

/-- Pieces that denote segments are compiled to these, if their names are new. -/
theorem compileParts_append {template : String} {before rest : List (List Char)}
    {done segments : List Segment} (h : List.Forall₂ Segment.Denotes before segments)
    (hnames : ((segments.reverse ++ done).filterMap Segment.name?).Nodup) :
    compileParts template done (before ++ rest) =
      compileParts template (segments.reverse ++ done) rest := by
  induction h generalizing done with
  | nil => rfl
  | @cons part segment parts others hpart _ ih =>
    have hsplit : (segment :: others).reverse ++ done = others.reverse ++ segment :: done := by simp
    rw [hsplit] at hnames ⊢
    rw [← ih hnames, List.cons_append, compileParts, Segment.ofPart_of_denotes hpart]
    cases segment with
    | literal text => rfl
    | parameter name =>
      refine if_neg fun hused => ?_
      have hname := Segment.mem_names_iff.mpr (List.contains_iff_mem.mp hused)
      have hcons : (Segment.parameter name :: done).filterMap Segment.name? =
          name :: done.filterMap Segment.name? := rfl
      rw [List.filterMap_append, hcons, List.nodup_middle] at hnames
      exact (List.nodup_cons.mp hnames).1 (List.mem_append_right _ hname)

theorem Composes.names_reverse {parts : List (List Char)} {segments : List Segment}
    (h : Composes parts segments) :
    ((segments.reverse ++ []).filterMap Segment.name?).Nodup := by
  rw [List.append_nil, List.filterMap_reverse, List.nodup_reverse]
  exact h.names

theorem Composes.compileParts_eq {parts : List (List Char)} {segments : List Segment}
    (h : Composes parts segments) (template : String) :
    compileParts template [] parts = .ok segments := by
  have hall : compileParts template [] (parts ++ []) =
      compileParts template (segments.reverse ++ []) [] :=
    compileParts_append h.denotes h.names_reverse
  rw [List.append_nil, List.append_nil] at hall
  rw [hall, compileParts, List.reverse_reverse]

theorem FirstOffence.compileParts_eq {template : String} {parts : List (List Char)}
    {e : PatternError} (h : FirstOffence template parts e) :
    compileParts template [] parts = .error e := by
  obtain ⟨before, part, after, segments, rfl, hbefore, hpart⟩ := h
  rw [compileParts_append hbefore.denotes hbefore.names_reverse, List.append_nil]
  cases hpart with
  | malformed h => rw [compileParts, Segment.ofPart_of_malformed h]
  | repeated hpart hused =>
    rw [compileParts, Segment.ofPart_of_denotes hpart]
    exact if_pos (List.contains_iff_mem.mpr (List.mem_reverse.mpr hused))

/-- Pieces compose segments unless one of them is the first to offend. -/
theorem composes_or_offends (template : String) (parts : List (List Char)) :
    (∃ segments, Composes parts segments) ∨ ∃ e, FirstOffence template parts e := by
  induction parts using List.reverseRecOn with
  | nil => exact .inl ⟨[], .nil, List.nodup_nil⟩
  | append_singleton front part ih =>
    rcases ih with ⟨segments, hfront⟩ | ⟨e, before, other, after, segments, rfl, hbefore, hother⟩
    · rcases Segment.denotes_or_malformed template part with ⟨segment, hpart⟩ | ⟨e, hpart⟩
      · have hdenotes := List.rel_append hfront.denotes (.cons hpart .nil)
        cases segment with
        | literal text =>
          refine .inl ⟨_, hdenotes, ?_⟩
          have hnames : (segments ++ [Segment.literal text]).filterMap Segment.name? =
              segments.filterMap Segment.name? := List.filterMap_append.trans (List.append_nil _)
          rw [hnames]
          exact hfront.names
        | parameter name =>
          by_cases hused : .parameter name ∈ segments
          · exact .inr ⟨_, front, part, [], segments, rfl, hfront, .repeated hpart hused⟩
          · have hnew : name ∉ segments.filterMap Segment.name? :=
              fun hname => hused (Segment.mem_names_iff.mp hname)
            refine .inl ⟨_, hdenotes, ?_⟩
            have hnames : (segments ++ [Segment.parameter name]).filterMap Segment.name? =
                segments.filterMap Segment.name? ++ [name] := List.filterMap_append
            rw [hnames, ← List.concat_eq_append]
            exact hfront.names.concat hnew
      · exact .inr ⟨e, front, part, [], segments, rfl, hfront, .malformed hpart⟩
    · refine .inr ⟨e, before, other, after ++ [part], segments, ?_, hbefore, hother⟩
      rw [List.append_assoc, List.cons_append]

/-- A template, what it is without one format suffix at its end, and whether it has that. -/
inductive Bare : List Char → List Char → Bool → Prop where
  | declared (path : List Char) : Bare (path ++ formatSuffix) path true
  | plain {cs : List Char} (h : ¬ formatSuffix <:+ cs) : Bare cs cs false

theorem exists_bare (cs : List Char) : ∃ path declares, Bare cs path declares := by
  by_cases h : formatSuffix <:+ cs
  · obtain ⟨path, rfl⟩ := h
    exact ⟨path, true, .declared path⟩
  · exact ⟨cs, false, .plain h⟩

theorem Bare.eq_of_suffix {path other : List Char} {declares : Bool}
    (h : Bare (path ++ formatSuffix) other declares) : other = path := by
  generalize htext : path ++ formatSuffix = cs at h
  cases h with
  | declared => exact (List.append_cancel_right htext).symm
  | plain hsuffix => exact absurd (htext ▸ List.suffix_append ..) hsuffix

theorem Bare.beforeSuffix?_eq {cs path : List Char} {declares : Bool} (h : Bare cs path declares) :
    (beforeSuffix? formatSuffix cs).getD cs = path ∧
      (beforeSuffix? formatSuffix cs).isSome = declares := by
  cases h with
  | declared =>
    have hcut : beforeSuffix? formatSuffix (path ++ formatSuffix) = some path := by
      unfold beforeSuffix?
      rw [if_pos (List.suffix_append ..)]
      simp
    rw [hcut]
    exact ⟨rfl, rfl⟩
  | plain hsuffix =>
    have hnone : beforeSuffix? formatSuffix cs = none := if_neg hsuffix
    rw [hnone]
    exact ⟨rfl, rfl⟩

theorem Bare.head?_iff {cs path : List Char} {declares : Bool} (h : Bare cs path declares) :
    cs.head? = some '/' ↔ path.head? = some '/' := by
  cases h with
  | plain => rfl
  | declared =>
    cases path with
    | nil => decide
    | cons c rest => simp

/-- What a template compiles to. -/
structure Describes (template : String) (p : Pattern) : Prop where
  text : p.template = template
  bare : Bare template.toList p.path.toList p.declaresFormat
  parts : ∃ parts, Path.Lists p.path.toList parts ∧ Composes parts p.segments

/-- Why a template does not compile: it does not begin with a slash, or one of its pieces is the
first to offend. -/
inductive Refused (template : String) : PatternError → Prop where
  | noLeadingSlash (h : template.toList.head? ≠ some '/') :
    Refused template (.noLeadingSlash template)
  | piece {path : List Char} {declares : Bool} {parts : List (List Char)} {e : PatternError}
      (hbare : Bare template.toList path declares) (hparts : Path.Lists path parts)
      (hoffence : FirstOffence template parts e) : Refused template e

theorem compile_of_lists {template : String} {path : List Char} {declares : Bool}
    {parts : List (List Char)} (hbare : Bare template.toList path declares)
    (hparts : Path.Lists path parts) :
    compile template = (compileParts template [] parts).map fun segments =>
      ⟨template, String.ofList path, segments, declares⟩ := by
  obtain ⟨hpath, hdeclares⟩ := hbare.beforeSuffix?_eq
  have hhead := hbare.head?_iff.mpr hparts.head?
  have hne : path.isEmpty = false := by
    rw [List.isEmpty_eq_false_iff]
    rintro rfl
    cases hparts.head?
  unfold compile
  dsimp only
  rw [if_neg (not_not.mpr hhead), hpath, hdeclares, hparts.segments_eq, hne]
  rfl

theorem Describes.compile_eq {template : String} {p : Pattern} (h : Describes template p) :
    compile template = .ok p := by
  obtain ⟨htemplate, hbare, parts, hparts, hcomposes⟩ := h
  rw [compile_of_lists hbare hparts, hcomposes.compileParts_eq, String.ofList_toList, ← htemplate]
  rfl

theorem Refused.compile_eq {template : String} {e : PatternError} (h : Refused template e) :
    compile template = .error e := by
  cases h with
  | noLeadingSlash h =>
    unfold compile
    exact if_pos h
  | piece hbare hparts hoffence =>
    rw [compile_of_lists hbare hparts, hoffence.compileParts_eq]
    rfl

theorem describes_or_refused (template : String) :
    (∃ p, Describes template p) ∨ ∃ e, Refused template e := by
  obtain ⟨path, declares, hbare⟩ := exists_bare template.toList
  by_cases hhead : path.head? = some '/'
  · obtain ⟨parts, hparts⟩ := Path.exists_lists hhead
    rcases composes_or_offends template parts with ⟨segments, hcomposes⟩ | ⟨e, hoffence⟩
    · refine .inl ⟨⟨template, String.ofList path, segments, declares⟩, rfl, ?_, parts, ?_, hcomposes⟩
      · rw [String.toList_ofList]
        exact hbare
      · rw [String.toList_ofList]
        exact hparts
    · exact .inr ⟨e, .piece hbare hparts hoffence⟩
  · exact .inr ⟨_, .noLeadingSlash fun h => hhead (hbare.head?_iff.mp h)⟩

theorem compile_eq_ok_iff {template : String} {p : Pattern} :
    compile template = .ok p ↔ Describes template p := by
  refine ⟨fun h => ?_, fun h => h.compile_eq⟩
  rcases describes_or_refused template with ⟨q, hdescribes⟩ | ⟨e, hrefused⟩
  · rw [hdescribes.compile_eq] at h
    exact Except.ok.inj h ▸ hdescribes
  · rw [hrefused.compile_eq] at h
    cases h

theorem compile_eq_error_iff {template : String} {e : PatternError} :
    compile template = .error e ↔ Refused template e := by
  refine ⟨fun h => ?_, fun h => h.compile_eq⟩
  rcases describes_or_refused template with ⟨p, hdescribes⟩ | ⟨fault, hrefused⟩
  · rw [hdescribes.compile_eq] at h
    cases h
  · rw [hrefused.compile_eq] at h
    exact Except.error.inj h ▸ hrefused

theorem nodup_parameterNames {template : String} {p : Pattern} (h : compile template = .ok p) :
    p.parameterNames.Nodup := by
  obtain ⟨-, -, parts, -, hcomposes⟩ := compile_eq_ok_iff.mp h
  exact hcomposes.names

theorem segments_ne_of_compile {template : String} {p : Pattern} (h : compile template = .ok p) :
    p.segments ≠ [.literal ""] := by
  obtain ⟨-, -, parts, hparts, hcomposes⟩ := compile_eq_ok_iff.mp h
  intro hsingle
  have hdenotes := hcomposes.denotes
  rw [hsingle] at hdenotes
  obtain ⟨part, rest, hpart, hrest, rfl⟩ := List.forall₂_cons_right_iff.mp hdenotes
  obtain rfl := List.forall₂_nil_right_iff.mp hrest
  obtain rfl := hpart.eq_nil
  exact hparts.ne rfl

theorem not_formatSuffix_of_denotes {part : List Char} {segment : Segment}
    (h : Segment.Denotes part segment) : ¬ formatSuffix <:+ part := by
  intro hsuffix
  cases h with
  | literal hopen hclose => exact hopen (hsuffix.subset (by decide))
  | @parameter name hbraced hname =>
    have hpoint : '.' ∈ '\x7b' :: (name ++ ['\x7d']) := hbraced.text ▸ hsuffix.subset (by decide)
    have hin : '.' ∈ name := by simpa using hpoint
    have hchar := hname.chars _ hin
    revert hchar
    decide

/-- A second format suffix would be part of a piece, and no piece may have it. -/
theorem Describes.not_formatSuffix {template : String} {p : Pattern} (h : Describes template p) :
    ¬ formatSuffix <:+ p.path.toList := by
  intro hsuffix
  obtain ⟨-, -, parts, hparts, hcomposes⟩ := h
  have hend : p.path.toList.getLast? ≠ some '/' := by
    obtain ⟨front, hfront⟩ := hsuffix
    have hbrace : formatSuffix.getLast? = some '\x7d' := by decide
    rw [← hfront, List.getLast?_append, hbrace]
    simp
  obtain ⟨front, last, rfl, hlast⟩ := hparts.exists_last hend
  have hpart : formatSuffix <:+ last := by
    -- The suffix has no slash, so it lies within what stands behind the last one.
    have hslash : '/' ∉ formatSuffix := by decide
    rcases List.suffix_or_suffix_of_suffix hsuffix hlast with hshort | hlong
    · rcases List.suffix_cons_iff.mp hshort with heq | hwithin
      · exact absurd (heq ▸ List.mem_cons_self ..) hslash
      · exact hwithin
    · exact absurd (hlong.subset (List.mem_cons_self ..)) hslash
  obtain ⟨segment, -, hdenotes⟩ :=
    exists_of_mem_right hcomposes.denotes.flip (List.mem_append_right _ (List.mem_singleton_self last))
  exact not_formatSuffix_of_denotes hdenotes hpart

theorem Describes.bare_template {template : String} {p : Pattern} (h : Describes template p) :
    Describes p.path { p with template := p.path, declaresFormat := false } where
  text := rfl
  bare := .plain h.not_formatSuffix
  parts := h.parts

/-- A template compiles to what it describes, or is refused for the first of its pieces that
offends. Without its format suffix it compiles to the same segments. -/
theorem compile_exact (template : String) :
    (∀ p, compile template = .ok p ↔ Describes template p) ∧
      (∀ e, compile template = .error e ↔ Refused template e) ∧
      ∀ p, compile template = .ok p →
        compile p.path = .ok { p with template := p.path, declaresFormat := false } := by
  refine ⟨fun p => compile_eq_ok_iff, fun e => compile_eq_error_iff, fun p hp => ?_⟩
  have hdescribes := compile_eq_ok_iff.mp hp
  exact hdescribes.bare_template.compile_eq

end Pattern

end Switchboard
