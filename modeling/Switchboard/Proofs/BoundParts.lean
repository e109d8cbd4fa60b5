import Switchboard.Proofs.ShadowedRoutes

namespace Switchboard

namespace Text

theorem not_mem_of_cutLast? {sep : Char} {cs : List Char} (h : cutLast? sep cs = none) :
    sep ∉ cs := by
  induction cs with
  | nil => exact List.not_mem_nil
  | cons c rest ih =>
    unfold cutLast? at h
    split at h
    next => cases h
    next hrest =>
      split at h
      next => cases h
      next hc => exact List.not_mem_cons_of_ne_of_not_mem (Ne.symm hc) (ih hrest)

theorem cutLast?_eq_some_iff {sep : Char} {cs before after : List Char} :
    cutLast? sep cs = some (before, after) ↔ cs = before ++ sep :: after ∧ sep ∉ after := by
  constructor
  · intro h
    induction cs generalizing before with
    | nil => cases h
    | cons c rest ih =>
      unfold cutLast? at h
      split at h
      next front back hcut =>
        obtain ⟨rfl, rfl⟩ := Prod.mk.inj (Option.some.inj h)
        obtain ⟨hrest, hafter⟩ := ih hcut
        exact ⟨by rw [hrest, List.cons_append], hafter⟩
      next hcut =>
        split at h
        next hc =>
          obtain ⟨rfl, rfl⟩ := Prod.mk.inj (Option.some.inj h)
          exact ⟨by rw [hc, List.nil_append], not_mem_of_cutLast? hcut⟩
        next => cases h
  · rintro ⟨rfl, hafter⟩
    induction before with
    | nil => simp [cutLast?, cutLast?_of_not_mem hafter]
    | cons c rest ih => simp [cutLast?, ih]

end Text

theorem lookup_of_mem_nodup {α β : Type} [BEq α] [LawfulBEq α] {entries : List (α × β)} {key : α}
    {value : β} (hmem : (key, value) ∈ entries) (hnodup : (entries.map Prod.fst).Nodup) :
    entries.lookup key = some value := by
  obtain ⟨before, after, rfl⟩ := List.append_of_mem hmem
  refine List.lookup_eq_some_iff.mpr ⟨before, after, rfl, fun entry hentry => ?_⟩
  rw [List.map_append, List.map_cons, List.nodup_middle, List.nodup_cons] at hnodup
  rw [bne_iff_ne]
  intro hkey
  exact hnodup.1 (List.mem_append_left _ (List.mem_map.mpr ⟨entry, hentry, hkey.symm⟩))

namespace Path

/-- A part of a path carries a format: a word behind a point, and something in front of the point. -/
structure Carries (part bare format : List Char) : Prop where
  text : part = bare ++ '.' :: format
  bare_ne : bare ≠ []
  format_ne : format ≠ []
  word : ∀ c ∈ format, isFormatChar c = true

theorem Carries.point_notMem {part bare format : List Char} (h : Carries part bare format) :
    '.' ∉ format := by
  intro hin
  have hchar := h.word _ hin
  revert hchar
  decide

theorem splitFormat?_eq_some_iff {part bare format : List Char} :
    splitFormat? part = some (bare, format) ↔ Carries part bare format := by
  constructor
  · intro h
    unfold splitFormat? at h
    split at h
    next => cases h
    next front word hcut =>
      split at h
      next => cases h
      next hsound =>
        obtain ⟨rfl, rfl⟩ := Prod.mk.inj (Option.some.inj h)
        simp only [Bool.or_eq_true, not_or, List.isEmpty_iff, Bool.not_eq_true', Bool.not_eq_false,
          List.all_eq_true] at hsound
        exact ⟨(Text.cutLast?_eq_some_iff.mp hcut).1, hsound.1.1, hsound.1.2, hsound.2⟩
  · intro h
    unfold splitFormat?
    rw [Text.cutLast?_eq_some_iff.mpr ⟨h.text, h.point_notMem⟩]
    refine if_neg ?_
    simp only [Bool.or_eq_true, not_or, List.isEmpty_iff, Bool.not_eq_true', Bool.not_eq_false,
      List.all_eq_true]
    exact ⟨⟨h.bare_ne, h.format_ne⟩, h.word⟩

theorem Carries.unique {part bare format bare' format' : List Char} (h : Carries part bare format)
    (h' : Carries part bare' format') : bare = bare' ∧ format = format' := by
  have hsplit := splitFormat?_eq_some_iff.mpr h
  rw [splitFormat?_eq_some_iff.mpr h'] at hsplit
  obtain ⟨hbare, hformat⟩ := Prod.mk.inj (Option.some.inj hsplit)
  exact ⟨hbare.symm, hformat.symm⟩

/-- The parts of a path with the format that was found taken from the last of them. -/
inductive Stripped (parts : List (List Char)) : Option String → List (List Char) → Prop where
  | whole : Stripped parts none parts
  | bare {front : List (List Char)} {last bare format : List Char} (hparts : parts = front ++ [last])
      (hlast : Carries last bare format) :
    Stripped parts (some (String.ofList format)) (front ++ [bare])

end Path

namespace Pattern

/-- The placeholders among segments, each with the text of the part at its place. -/
def bindings : List Segment → List (List Char) → List (String × String)
  | .parameter name :: segments, raw :: parts => (name, Path.decode raw) :: bindings segments parts
  | .literal _ :: segments, _ :: parts => bindings segments parts
  | _, _ => []

theorem eq_bindings_of_bind? {segments : List Segment} {parts : List (List Char)}
    {params : List (String × String)} (h : bind? segments parts = some params) :
    params = bindings segments parts := by
  induction segments generalizing parts params with
  | nil =>
    cases parts with
    | nil => exact (Option.some.inj h).symm
    | cons raw parts => cases h
  | cons segment rest ih =>
    cases parts with
    | nil => cases segment <;> cases h
    | cons raw parts =>
      cases segment with
      | literal text =>
        unfold bind? at h
        split at h
        next => exact ih h
        next => cases h
      | parameter name =>
        unfold bind? at h
        split at h
        next => cases h
        next =>
          obtain ⟨inner, hinner, rfl⟩ := Option.map_eq_some_iff.mp h
          rw [ih hinner]
          rfl

theorem bind?_eq_some_iff {segments : List Segment} {parts : List (List Char)}
    {params : List (String × String)} :
    bind? segments parts = some params ↔
      List.Forall₂ Segment.Takes segments parts ∧ params = bindings segments parts := by
  rw [← bind?_isSome_iff]
  constructor
  · intro h
    exact ⟨Option.isSome_of_eq_some h, eq_bindings_of_bind? h⟩
  · rintro ⟨hsome, rfl⟩
    obtain ⟨params, hparams⟩ := Option.isSome_iff_exists.mp hsome
    rw [hparams, eq_bindings_of_bind? hparams]

theorem names_bindings {segments : List Segment} {parts : List (List Char)}
    (h : segments.length = parts.length) :
    (bindings segments parts).map Prod.fst = segments.filterMap Segment.name? := by
  induction segments generalizing parts with
  | nil => rfl
  | cons segment rest ih =>
    cases parts with
    | nil => cases h
    | cons raw parts =>
      have hrest := ih (Nat.succ.inj h)
      cases segment with
      | literal text => exact hrest
      | parameter name => exact congrArg (name :: ·) hrest

theorem mem_bindings {segments : List Segment} {parts : List (List Char)} {i : Nat} {name : String}
    {raw : List Char} (hsegment : segments[i]? = some (.parameter name))
    (hpart : parts[i]? = some raw) : (name, Path.decode raw) ∈ bindings segments parts := by
  induction segments generalizing parts i with
  | nil => cases hsegment
  | cons segment rest ih =>
    cases parts with
    | nil => cases hpart
    | cons other parts =>
      cases i with
      | zero =>
        obtain rfl := Option.some.inj hsegment
        obtain rfl := Option.some.inj hpart
        exact List.mem_cons_self ..
      | succ i =>
        have hrest : (name, Path.decode raw) ∈ bindings rest parts := ih hsegment hpart
        cases segment with
        | literal text => exact hrest
        | parameter other => exact List.mem_cons_of_mem _ hrest

theorem match?_of_carries {p : Pattern} {path : String} {front : List (List Char)}
    {last bare format : List Char} {params : List (String × String)}
    (hparts : Path.segments path.toList = front ++ [last]) (hcarries : Path.Carries last bare format)
    (hbind : bind? p.segments (front ++ [bare]) = some params) :
    p.match? path = some ⟨params, some (String.ofList format)⟩ := by
  unfold match?
  dsimp only
  rw [hparts, List.getLast?_concat, Option.bind_some, Path.splitFormat?_eq_some_iff.mpr hcarries,
    List.dropLast_concat]
  dsimp only
  rw [hbind]

theorem match?_of_not_carries {p : Pattern} {path : String} {front : List (List Char)}
    {last : List Char} (hparts : Path.segments path.toList = front ++ [last])
    (hnone : ∀ bare format, ¬ Path.Carries last bare format) :
    p.match? path = (bind? p.segments (front ++ [last])).map fun params => ⟨params, none⟩ := by
  have hsplit : Path.splitFormat? last = none := by
    rw [Option.eq_none_iff_forall_ne_some]
    rintro ⟨bare, format⟩ hcut
    exact hnone bare format (Path.splitFormat?_eq_some_iff.mp hcut)
  unfold match?
  dsimp only
  rw [hparts, List.getLast?_concat, Option.bind_some, hsplit]

/-- The placeholders of a pattern are bound once each, by the parts at their places. -/
structure Binds (p : Pattern) (parts : List (List Char)) (found : Match) : Prop where
  names : found.params.map Prod.fst = p.parameterNames
  once : p.parameterNames.Nodup
  length : p.segments.length = parts.length
  values : ∀ (i : Nat) (name : String), p.segments[i]? = some (.parameter name) →
    ∃ part, parts[i]? = some part ∧ found.param? name = some (Path.decode part)

/-- How a match came about: with the format taken from the last part, or else on the whole path. -/
theorem match?_cases {p : Pattern} {path : String} {found : Match}
    (h : p.match? path = some found) :
    (∃ front last bare format, Path.segments path.toList = front ++ [last] ∧
        Path.Carries last bare format ∧ found.format = some (String.ofList format) ∧
        bind? p.segments (front ++ [bare]) = some found.params) ∨
      (found.format = none ∧ bind? p.segments (Path.segments path.toList) = some found.params ∧
        ∀ front last bare format, Path.segments path.toList = front ++ [last] →
          Path.Carries last bare format → bind? p.segments (front ++ [bare]) = none) := by
  unfold match? at h
  dsimp only at h
  generalize Path.segments path.toList = parts at h ⊢
  split at h
  next hnone =>
    obtain ⟨params, hparams, rfl⟩ := Option.map_eq_some_iff.mp h
    refine .inr ⟨rfl, hparams, fun front last bare format hparts hcarries => ?_⟩
    rw [hparts, List.getLast?_concat, Option.bind_some,
      Path.splitFormat?_eq_some_iff.mpr hcarries] at hnone
    cases hnone
  next bare format hcut =>
    obtain ⟨last, hlast, hsplit⟩ := Option.bind_eq_some_iff.mp hcut
    obtain ⟨front, rfl⟩ := List.getLast?_eq_some_iff.mp hlast
    have hcarries := Path.splitFormat?_eq_some_iff.mp hsplit
    rw [List.dropLast_concat] at h
    split at h
    next params hparams =>
      obtain rfl := Option.some.inj h
      exact .inl ⟨front, last, bare, format, rfl, hcarries, rfl, hparams⟩
    next hbare =>
      obtain ⟨params, hparams, rfl⟩ := Option.map_eq_some_iff.mp h
      refine .inr ⟨rfl, hparams, fun front' last' bare' format' hparts hcarries' => ?_⟩
      obtain ⟨rfl, hsame⟩ := List.append_inj' hparts rfl
      obtain rfl := List.singleton_inj.mp hsame
      rw [Path.splitFormat?_eq_some_iff.mpr hcarries'] at hsplit
      obtain ⟨rfl, -⟩ := Prod.mk.inj (Option.some.inj hsplit)
      exact hbare

theorem binds_of_bind? {template : String} {p : Pattern} (h : compile template = .ok p)
    {parts : List (List Char)} {found : Match} (hbind : bind? p.segments parts = some found.params) :
    p.Binds parts found := by
  obtain ⟨htakes, hparams⟩ := bind?_eq_some_iff.mp hbind
  have hlength := htakes.length_eq
  have hnames : found.params.map Prod.fst = p.parameterNames := by
    rw [hparams, names_bindings hlength]
    rfl
  have honce := nodup_parameterNames h
  refine ⟨hnames, honce, hlength, fun i name hi => ?_⟩
  obtain ⟨hlt, -⟩ := List.getElem?_eq_some_iff.mp hi
  have hpart := List.getElem?_eq_getElem (hlength ▸ hlt)
  refine ⟨_, hpart, lookup_of_mem_nodup ?_ (hnames ▸ honce)⟩
  rw [hparams]
  exact mem_bindings hi hpart

theorem exists_binds {template path : String} {p : Pattern} {found : Match}
    (h : compile template = .ok p) (hfound : p.match? path = some found) :
    ∃ parts, Path.Stripped (Path.segments path.toList) found.format parts ∧ p.Binds parts found := by
  rcases match?_cases hfound with
    ⟨front, last, bare, format, hparts, hcarries, hformat, hbind⟩ | ⟨hformat, hbind, -⟩
  · rw [hformat]
    exact ⟨_, .bare hparts hcarries, binds_of_bind? h hbind⟩
  · rw [hformat]
    exact ⟨_, .whole, binds_of_bind? h hbind⟩

/-- A placeholder at the end is bound by the last part. -/
theorem Binds.last {p : Pattern} {front : List (List Char)} {part : List Char} {found : Match}
    (h : p.Binds (front ++ [part]) found) {name : String}
    (hname : p.segments.getLast? = some (.parameter name)) :
    found.param? name = some (Path.decode part) := by
  have hlength := h.length
  rw [List.length_append, List.length_singleton] at hlength
  rw [List.getLast?_eq_getElem?, hlength, Nat.add_sub_cancel] at hname
  obtain ⟨other, hother, hvalue⟩ := h.values _ name hname
  rw [List.getElem?_concat_length] at hother
  rw [hvalue, Option.some.inj hother]

theorem exists_last_of_binds {p : Pattern} {parts : List (List Char)} {found : Match}
    (h : p.Binds parts found) {segment : Segment} (hlast : p.segments.getLast? = some segment) :
    ∃ front last, parts = front ++ [last] := by
  obtain ⟨before, hsegments⟩ := List.getLast?_eq_some_iff.mp hlast
  have hlength := h.length
  rcases List.eq_nil_or_concat' parts with hnil | hsome
  · simp [hnil, hsegments] at hlength
  · exact hsome

theorem takes_of_carries {segments : List Segment} {front : List (List Char)}
    {last bare : List Char} {name : String} (hname : segments.getLast? = some (.parameter name))
    (h : List.Forall₂ Segment.Takes segments (front ++ [last])) (hbare : bare ≠ []) :
    List.Forall₂ Segment.Takes segments (front ++ [bare]) := by
  obtain ⟨before, rfl⟩ := List.getLast?_eq_some_iff.mp hname
  exact forall₂_concat_iff.mpr ⟨(forall₂_concat_iff.mp h).1, hbare⟩

/-- A match binds each placeholder of its pattern once, to what the part at its place decodes to. If
a placeholder ends the pattern and the last part carries a format, the match has this format and the
placeholder is bound without it; otherwise there is no format and the placeholder has all of the
part. -/
theorem match?_binds {template path : String} {p : Pattern} {found : Match}
    (h : compile template = .ok p) (hfound : p.match? path = some found) :
    (∃ parts, Path.Stripped (Path.segments path.toList) found.format parts ∧
        p.Binds parts found) ∧
      ∀ name, p.segments.getLast? = some (.parameter name) →
        ∃ last, (Path.segments path.toList).getLast? = some last ∧
          (∀ bare format, Path.Carries last bare format →
            found.format = some (String.ofList format) ∧
              found.param? name = some (Path.decode bare)) ∧
          ((∀ bare format, ¬ Path.Carries last bare format) →
            found.format = none ∧ found.param? name = some (Path.decode last)) := by
  obtain ⟨parts, hstripped, hbinds⟩ := exists_binds h hfound
  refine ⟨⟨parts, hstripped, hbinds⟩, fun name hname => ?_⟩
  rcases match?_cases hfound with
    ⟨front, last, bare, format, hparts, hcarries, hformat, hbind⟩ | ⟨hformat, hbind, hnobare⟩
  · rw [hparts, hformat]
    refine ⟨last, List.getLast?_concat, fun bare' format' hcarries' => ?_, fun hnone => ?_⟩
    · obtain ⟨rfl, rfl⟩ := hcarries.unique hcarries'
      exact ⟨rfl, (binds_of_bind? h hbind).last hname⟩
    · exact absurd hcarries (hnone bare format)
  · obtain ⟨front, last, hparts⟩ := exists_last_of_binds (binds_of_bind? h hbind) hname
    rw [hparts] at hbind ⊢
    refine ⟨last, List.getLast?_concat, fun bare format hcarries => ?_, fun hnone => ?_⟩
    · -- The placeholder would have taken the part without its format.
      have htakes := takes_of_carries hname (bind?_eq_some_iff.mp hbind).1 hcarries.bare_ne
      have hsome := bind?_isSome_iff.mpr htakes
      rw [hnobare front last bare format hparts hcarries] at hsome
      cases hsome
    · exact ⟨hformat, (binds_of_bind? h hbind).last hname⟩

/-- The pattern of a book by its shelf and its title. -/
def bookOnShelf : Pattern where
  template := "/books/\x7bshelf\x7d/\x7btitle\x7d"
  path := "/books/\x7bshelf\x7d/\x7btitle\x7d"
  segments := [.literal "books", .parameter "shelf", .parameter "title"]
  declaresFormat := false

/-- Of several points in a title, only the last begins the format. -/
theorem bookOnShelf_binds :
    compile bookOnShelf.template = .ok bookOnShelf ∧
      ∃ found, bookOnShelf.match? "/books/a%2Fb/v1.2%2e0.json/" = some found ∧
        found.format = some "json" ∧ found.param? "title" = some "v1.2.0" := by
  have hcompile : compile bookOnShelf.template = .ok bookOnShelf := by decide +kernel
  have hmatches : (bookOnShelf.match? "/books/a%2Fb/v1.2%2e0.json/").isSome = true := by
    decide +kernel
  obtain ⟨found, hfound⟩ := Option.isSome_iff_exists.mp hmatches
  obtain ⟨last, hlast, hformat, -⟩ := (match?_binds hcompile hfound).2 "title" rfl
  have hpart : (Path.segments "/books/a%2Fb/v1.2%2e0.json/".toList).getLast? =
      some "v1.2%2e0.json".toList := by decide +kernel
  obtain rfl := Option.some.inj (hlast.symm.trans hpart)
  have hcarries : Path.Carries "v1.2%2e0.json".toList "v1.2%2e0".toList "json".toList :=
    ⟨by decide, by decide, by decide, List.all_eq_true.mp (by decide)⟩
  have hdecode : Path.decode "v1.2%2e0".toList = "v1.2.0" := by decide +kernel
  obtain ⟨hfound_format, htitle⟩ := hformat _ _ hcarries
  exact ⟨hcompile, found, hfound, hfound_format, htitle.trans (congrArg some hdecode)⟩

end Pattern

end Switchboard
