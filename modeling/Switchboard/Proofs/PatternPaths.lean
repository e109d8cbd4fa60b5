import Switchboard.Proofs.TemplateGrammar

namespace Switchboard

namespace Path

/-- The path of texts between slashes. The slash at its end keeps an empty last text apart. -/
def ofTexts (texts : List String) : String :=
  String.ofList ('/' :: (List.intercalate ['/'] (texts.map Percent.encode) ++ ['/']))

section Written

variable {written : List (List Char)} {texts : List String}
  (hwritten : List.Forall₂ Percent.Spells written texts)
include hwritten

theorem exists_text_of_written {part : List Char} (hpart : part ∈ written) :
    ∃ text, Percent.Spells part text := by
  obtain ⟨text, -, hspells⟩ := exists_of_mem_right hwritten.flip hpart
  exact ⟨text, hspells⟩

theorem slash_notMem_of_written : ∀ part ∈ written, '/' ∉ part := by
  intro part hpart hslash
  obtain ⟨text, hspells⟩ := exists_text_of_written hwritten hpart
  exact (hspells.mem hslash).2.2 rfl

theorem splitFormat?_of_written {part : List Char} (hpart : part ∈ written) :
    splitFormat? part = none := by
  obtain ⟨text, hspells⟩ := exists_text_of_written hwritten hpart
  unfold splitFormat?
  rw [Text.cutLast?_of_not_mem fun hpoint => (hspells.mem hpoint).2.1 rfl]

theorem segments_written_slash (hne : texts ≠ [""]) :
    segments (joined written ++ ['/']) = written := by
  refine segments_joined_slash (fun hsingle => hne ?_) (slash_notMem_of_written hwritten)
  subst hsingle
  obtain ⟨text, rest, htext, hrest, rfl⟩ := List.forall₂_cons_left_iff.mp hwritten
  rw [htext.eq_nil_iff.mp rfl, List.forall₂_nil_left_iff.mp hrest]

theorem segments_written (hlast : texts.getLast? ≠ some "") :
    segments (joined written) = written := by
  refine segments_joined (fun hempty => hlast ?_) (slash_notMem_of_written hwritten)
  have hrel := getLast?_rel hwritten
  rw [hempty] at hrel
  cases hend : texts.getLast? with
  | none =>
    rw [hend] at hrel
    cases hrel
  | some text =>
    rw [hend] at hrel
    cases hrel with
    | some htext => rw [htext.eq_nil_iff.mp rfl]

end Written

/-- A part of a path is read as a text, and is empty only where the text is. -/
structure ReadsAs (part : List Char) (text : String) : Prop where
  decode : decode part = text
  empty : part = [] → text = ""

end Path

/-- A literal's own text, and the given one for a placeholder. -/
def Segment.textWith (value : String) : Segment → String
  | .literal text => text
  | .parameter _ => value

/-- A literal's own text, and the one assigned to the name of a placeholder. -/
def Segment.textOf (value : String → String) : Segment → String
  | .literal text => text
  | .parameter name => value name

namespace Pattern

/-- A pattern binds its placeholders to the texts assigned to them, however these are written. -/
theorem bind?_readsAs {value : String → String} {segments : List Segment}
    {written : List (List Char)}
    (hwritten : List.Forall₂ Path.ReadsAs written (segments.map (·.textOf value)))
    (hvalue : ∀ name ∈ segments.filterMap Segment.name?, value name ≠ "") :
    bind? segments written =
      some ((segments.filterMap Segment.name?).map fun name => (name, value name)) := by
  induction segments generalizing written with
  | nil =>
    obtain rfl := List.forall₂_nil_right_iff.mp hwritten
    rfl
  | cons segment rest ih =>
    obtain ⟨part, parts, hpart, hparts, rfl⟩ := List.forall₂_cons_right_iff.mp hwritten
    cases segment with
    | literal text =>
      have hrest := ih hparts fun name hname => hvalue name hname
      exact (if_pos hpart.decode.symm).trans hrest
    | parameter name =>
      have hrest := ih hparts fun other hother => hvalue other (List.mem_cons_of_mem _ hother)
      have hsomething : ¬part.isEmpty := by
        rw [List.isEmpty_iff]
        exact fun hnil => hvalue name (List.mem_cons_self ..) (hpart.empty hnil)
      have hdecode : Path.decode part = value name := hpart.decode
      refine (if_neg hsomething).trans ?_
      rw [hrest, hdecode]
      rfl

theorem bind?_written {value : String → String} {segments : List Segment}
    {written : List (List Char)}
    (hwritten : List.Forall₂ Percent.Spells written (segments.map (·.textOf value)))
    (hvalue : ∀ name ∈ segments.filterMap Segment.name?, value name ≠ "") :
    bind? segments written =
      some ((segments.filterMap Segment.name?).map fun name => (name, value name)) :=
  bind?_readsAs (hwritten.imp fun _ _ h => ⟨h.decode_eq, h.eq_nil_iff.mp⟩) hvalue

theorem match?_written (p : Pattern) {written : List (List Char)} {texts : List String}
    (hwritten : List.Forall₂ Percent.Spells written texts) {path : List Char}
    (hpath : Path.segments path = written) :
    p.match? (String.ofList path) =
      (bind? p.segments written).map fun params => ⟨params, none⟩ := by
  have hnone : written.getLast?.bind Path.splitFormat? = none := by
    cases hlast : written.getLast? with
    | none => rfl
    | some part => exact Path.splitFormat?_of_written hwritten (List.mem_of_getLast? hlast)
  unfold match?
  dsimp only
  rw [String.toList_ofList, hpath, hnone]

theorem spells_map_encode (texts : List String) :
    List.Forall₂ Percent.Spells (texts.map Percent.encode) texts :=
  List.forall₂_map_left_iff.mpr (List.forall₂_same.mpr fun text _ => Percent.spells_encode text)

theorem match?_ofTexts (p : Pattern) {texts : List String} (hne : texts ≠ [""]) :
    p.match? (Path.ofTexts texts) =
      (bind? p.segments (texts.map Percent.encode)).map fun params => ⟨params, none⟩ :=
  p.match?_written (spells_map_encode texts)
    (Path.segments_written_slash (spells_map_encode texts) hne)

end Pattern

end Switchboard
