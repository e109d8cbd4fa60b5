import Switchboard.Proofs.BoundParts
import Switchboard.Proofs.LinkRoundTrip
import Switchboard.Proofs.MixedSpellings

namespace Switchboard

namespace Pattern

/-- How a request writes a piece of a template: a name in braces gives way to its value, and the text
is percent-encoded, slashes at any rate. -/
def Fills (value : String → String) (part written : List Char) : Prop :=
  ∃ segment, Segment.Denotes part segment ∧
    Percent.Writes written (segment.textOf value).toList ∧ '/' ∉ written

/-- A request for a format: the filled pieces of a template between slashes, a point and the format. -/
def requestPath (written : List (List Char)) (format : List Char) : String :=
  String.ofList (List.intercalate ['/'] written ++ '.' :: format)

section Filled

variable {value : String → String} {parts written : List (List Char)}

theorem Fills.readsAs {part filled : List Char} (h : Fills value part filled) {segment : Segment}
    (hpart : Segment.Denotes part segment) : Path.ReadsAs filled (segment.textOf value) := by
  obtain ⟨other, hother, hwrites, -⟩ := h
  obtain rfl := hother.unique hpart
  refine ⟨?_, fun hnil => ?_⟩
  · rw [Path.decode, hwrites.decode_eq, String.ofList_toList]
  · exact String.toList_eq_nil_iff.mp (hwrites.eq_nil_iff.mp hnil)

theorem readsAs_of_fills {segments : List Segment}
    (hdenotes : List.Forall₂ Segment.Denotes parts segments)
    (h : List.Forall₂ (Fills value) parts written) :
    List.Forall₂ Path.ReadsAs written (segments.map (·.textOf value)) := by
  induction hdenotes generalizing written with
  | nil =>
    obtain rfl := List.forall₂_nil_left_iff.mp h
    exact .nil
  | cons hpart _ ih =>
    obtain ⟨filled, others, hfilled, hothers, rfl⟩ := List.forall₂_cons_left_iff.mp h
    exact .cons (hfilled.readsAs hpart) (ih hothers)

theorem slash_notMem_of_fills (h : List.Forall₂ (Fills value) parts written) :
    ∀ filled ∈ written, '/' ∉ filled := by
  intro filled hfilled
  obtain ⟨part, -, segment, -, -, hslash⟩ := exists_of_mem_right h hfilled
  exact hslash

theorem eq_nil_of_fills_nil {filled : List Char} (h : Fills value [] filled) : filled = [] := by
  have hnil : Segment.Denotes [] (.literal "") := .literal (by simp) (by simp)
  obtain ⟨segment, hdenotes, hwrites, -⟩ := h
  obtain rfl := hdenotes.unique hnil
  exact hwrites.eq_nil_iff.mpr rfl

/-- With the slash in front, the format is written behind the last of the filled pieces. -/
theorem toList_requestPath (front : List (List Char)) (last format : List Char) :
    (requestPath ([] :: (front ++ [last])) format).toList =
      Path.joined (front ++ [last ++ '.' :: format]) := by
  have hne (piece : List Char) : front ++ [piece] ≠ [] := by simp
  rw [requestPath, String.toList_ofList, List.intercalate_cons_of_ne_nil (hne last),
    Path.joined, List.append_assoc, Text.intercalate_concat_append]
  rfl

variable {format : List Char}

theorem segments_requestPath {front : List (List Char)} {last : List Char}
    (hfront : ∀ filled ∈ front, '/' ∉ filled) (hlast : '/' ∉ last)
    (hword : ∀ c ∈ format, Path.isFormatChar c = true) :
    Path.segments (requestPath ([] :: (front ++ [last])) format).toList =
      front ++ [last ++ '.' :: format] := by
  have hformat : '/' ∉ format := by
    intro hin
    have hchar := hword _ hin
    revert hchar
    decide
  rw [toList_requestPath]
  refine Path.segments_joined ?_ fun filled hfilled => ?_
  · rw [List.getLast?_concat]
    simp
  · rcases List.mem_append.mp hfilled with hin | hin
    · exact hfront filled hin
    · obtain rfl := List.mem_singleton.mp hin
      simp [hlast, hformat]

end Filled

theorem lists_of_declared {template : String} {p : Pattern} {body : List Char}
    (h : compile template = .ok p) (htemplate : template.toList = body ++ formatSuffix) :
    ∃ parts, Path.Lists body parts ∧ Composes parts p.segments := by
  obtain ⟨-, hbare, hparts⟩ := compile_eq_ok_iff.mp h
  rw [htemplate] at hbare
  obtain rfl : p.path.toList = body := hbare.eq_of_suffix
  exact hparts

section Requested

variable {template : String} {p : Pattern} {parts front : List (List Char)} {format : List Char}
  {value : String → String}

/-- Behind a slash the format would be a part of its own, with nothing in front of its point. -/
theorem match?_requestPath_of_slash (hcomposes : Composes parts p.segments)
    (hfront : ∀ filled ∈ front, '/' ∉ filled) (hlength : parts.length ≤ front.length)
    (hword : ∀ c ∈ format, Path.isFormatChar c = true) :
    p.match? (requestPath ([] :: (front ++ [[]])) format) = none := by
  have hsegments := segments_requestPath hfront List.not_mem_nil hword
  rw [List.nil_append] at hsegments
  have hnone : ∀ bare word, ¬ Path.Carries ('.' :: format) bare word := by
    intro bare word hcarries
    obtain ⟨c, rest, rfl⟩ := List.exists_cons_of_ne_nil hcarries.bare_ne
    obtain ⟨-, hrest⟩ := List.cons.inj hcarries.text
    have hpoint : Path.isFormatChar '.' = true := hword '.' (by rw [hrest]; simp)
    revert hpoint
    decide
  rw [match?_of_not_carries hsegments hnone, Option.map_eq_none_iff,
    Option.eq_none_iff_forall_ne_some]
  intro params hbind
  have htakes := (bind?_eq_some_iff.mp hbind).1.length_eq
  have hpieces := hcomposes.denotes.length_eq
  rw [List.length_append, List.length_singleton] at htakes
  omega

theorem ne_nil_of_fills {part filled : List Char} {segment : Segment}
    (hvalue : ∀ name ∈ p.parameterNames, value name ≠ "") (hsegment : segment ∈ p.segments)
    (hdenotes : Segment.Denotes part segment) (h : Fills value part filled) (hpart : part ≠ []) :
    filled ≠ [] := by
  intro hnil
  obtain rfl := eq_literal_of_textOf hvalue hsegment ((h.readsAs hdenotes).empty hnil)
  exact hpart hdenotes.eq_nil

end Requested

/-- A request for a format that a template declares, written from the text of the template, is matched
with this format and the assigned values, unless the suffix stands behind a slash; then it is not
matched at all. -/
theorem match?_requestPath {template : String} {p : Pattern} {body format : List Char}
    {value : String → String} {written : List (List Char)} (h : compile template = .ok p)
    (htemplate : template.toList = body ++ formatSuffix) (hformat : format ≠ [])
    (hword : ∀ c ∈ format, Path.isFormatChar c = true)
    (hvalue : ∀ name ∈ p.parameterNames, value name ≠ "")
    (hwritten : List.Forall₂ (Fills value) (Text.pieces '/' body) written) :
    p.match? (requestPath written format) =
      if body.getLast? = some '/' then none
      else some ⟨p.parameterNames.map fun name => (name, value name),
        some (String.ofList format)⟩ := by
  obtain ⟨parts, hparts, hcomposes⟩ := lists_of_declared h htemplate
  by_cases hend : body.getLast? = some '/'
  · rw [if_pos hend]
    obtain ⟨middle, hpieces, hlength⟩ := hparts.pieces_of_slash hend
    rw [hpieces] at hwritten
    obtain ⟨first, others, hfirst, hothers, rfl⟩ := List.forall₂_cons_left_iff.mp hwritten
    obtain ⟨front, last, rfl, hfront, hlast⟩ := exists_concat_of_rel hothers
    obtain rfl := eq_nil_of_fills_nil hfirst
    obtain rfl := eq_nil_of_fills_nil hlast
    exact match?_requestPath_of_slash hcomposes (slash_notMem_of_fills hfront)
      (hfront.length_eq ▸ hlength) hword
  · rw [if_neg hend]
    obtain ⟨before, part, rfl, hsuffix⟩ := hparts.exists_last hend
    rw [hparts.pieces_eq hend] at hwritten
    obtain ⟨first, others, hfirst, hothers, rfl⟩ := List.forall₂_cons_left_iff.mp hwritten
    obtain rfl := eq_nil_of_fills_nil hfirst
    have hbind := bind?_readsAs (readsAs_of_fills hcomposes.denotes hothers) hvalue
    obtain ⟨front, last, rfl, hfront, hlast⟩ := exists_concat_of_rel hothers
    have hne : last ≠ [] := by
      obtain ⟨segments, segment, hsegments, -, hdenotes⟩ := exists_concat_of_rel hcomposes.denotes
      have hsegment : segment ∈ p.segments := by simp [hsegments]
      refine ne_nil_of_fills hvalue hsegment hdenotes hlast ?_
      rintro rfl
      obtain ⟨text, rfl⟩ := hsuffix
      exact hend List.getLast?_concat
    obtain ⟨segment, -, -, hslash⟩ := hlast
    have hsegments := segments_requestPath (slash_notMem_of_fills hfront) hslash hword
    exact match?_of_carries hsegments ⟨rfl, hne, hformat, hword⟩ hbind

/-- The root, which has no segment to put a format on. -/
def rootInFormat : Pattern where
  template := "/.\x7bformat\x7d"
  path := "/"
  segments := []
  declaresFormat := true

def itemInFormat : Pattern where
  template := "/items/\x7bid\x7d.\x7bformat\x7d"
  path := "/items/\x7bid\x7d"
  segments := [.literal "items", .parameter "id"]
  declaresFormat := true

def itemNumber (_ : String) : String := "a/1"

theorem fills_itemNumber :
    List.Forall₂ (Fills itemNumber) (Text.pieces '/' itemInFormat.path.toList)
      [[], ['i', 't', '%', '6', '5', 'm', 's'], ['a', '%', '2', 'F', '1']] := by
  have hitems : Percent.Writes ['i', 't', '%', '6', '5', 'm', 's'] ['i', 't', 'e', 'm', 's'] := by
    have hspelled : Percent.Writes (['%', '6', '5'] ++ ['m', 's']) ['e', 'm', 's'] :=
      .escaped (by decide +kernel) (.kept (by decide) (.kept (by decide) .nil))
    exact .kept (by decide) (.kept (by decide) hspelled)
  have hnumber : Percent.Writes ['a', '%', '2', 'F', '1'] ['a', '/', '1'] := by
    have hspelled : Percent.Writes (['%', '2', 'F'] ++ ['1']) ['/', '1'] :=
      .escaped (by decide +kernel) (.kept (by decide) .nil)
    exact .kept (by decide) hspelled
  have hid : Segment.Denotes ['\x7b', 'i', 'd', '\x7d'] (.parameter (String.ofList ['i', 'd'])) :=
    .parameter ⟨rfl, by decide, by decide⟩ ⟨by decide, List.all_eq_true.mp (by decide)⟩
  have hpieces : Text.pieces '/' itemInFormat.path.toList =
      [[], ['i', 't', 'e', 'm', 's'], ['\x7b', 'i', 'd', '\x7d']] := by decide +kernel
  rw [hpieces]
  refine .cons ⟨_, .literal (by simp) (by simp), ?_, by simp⟩
    (.cons ⟨_, .literal (by decide) (by decide), ?_, by decide⟩ (.cons ⟨_, hid, ?_, by decide⟩ .nil))
  · exact .nil
  · exact hitems
  · exact hnumber

/-- The format that the root declares cannot be requested. That of an item can. -/
theorem rootInFormat_unanswered :
    (compile rootInFormat.template = .ok rootInFormat ∧ rootInFormat.match? "/.json" = none) ∧
      compile itemInFormat.template = .ok itemInFormat ∧
      itemInFormat.match? "/it%65ms/a%2F1.json" = some ⟨[("id", "a/1")], some "json"⟩ := by
  have hroot : compile rootInFormat.template = .ok rootInFormat := by decide +kernel
  have hitem : compile itemInFormat.template = .ok itemInFormat := by decide +kernel
  have hword : ∀ c ∈ ['j', 's', 'o', 'n'], Path.isFormatChar c = true :=
    List.all_eq_true.mp (by decide)
  have hnothing : Fills itemNumber [] [] :=
    ⟨.literal "", .literal (by simp) (by simp), .nil, by simp⟩
  have hpieces : List.Forall₂ (Fills itemNumber) (Text.pieces '/' ['/']) [[], []] :=
    .cons hnothing (.cons hnothing .nil)
  have hrootPath : rootInFormat.match? "/.json" = none :=
    match?_requestPath hroot (by decide) (by decide) hword (by decide) hpieces
  have hitemPath :=
    match?_requestPath hitem (by decide) (by decide) hword (by decide) fills_itemNumber
  exact ⟨⟨hroot, hrootPath⟩, hitem, hitemPath⟩

end Pattern

end Switchboard
