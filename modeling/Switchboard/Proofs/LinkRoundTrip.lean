import Switchboard.Proofs.PatternPaths

namespace Switchboard.Pattern

section Values

variable {p : Pattern} {value : String → String}
  (hvalue : ∀ name ∈ p.parameterNames, value name ≠ "")
include hvalue

theorem eq_literal_of_textOf {segment : Segment} (hsegment : segment ∈ p.segments)
    (htext : segment.textOf value = "") : segment = .literal "" := by
  cases segment with
  | literal text => exact congrArg Segment.literal htext
  | parameter name =>
    exact absurd htext (hvalue name (List.mem_filterMap.mpr ⟨_, hsegment, rfl⟩))

theorem getLast?_texts (hlast : p.segments.getLast? ≠ some (.literal "")) :
    (p.segments.map (·.textOf value)).getLast? ≠ some "" := by
  rw [List.getLast?_map]
  intro hempty
  obtain ⟨segment, hsegment, htext⟩ := Option.map_eq_some_iff.mp hempty
  obtain rfl := eq_literal_of_textOf hvalue (List.mem_of_getLast? hsegment) htext
  exact hlast hsegment

theorem texts_ne_of_compile {template : String} (h : compile template = .ok p) :
    p.segments.map (·.textOf value) ≠ [""] := by
  intro hsingle
  obtain ⟨segment, hsegment, htext⟩ := List.map_eq_singleton_iff.mp hsingle
  have hmem : segment ∈ p.segments := hsegment ▸ List.mem_singleton_self segment
  obtain rfl := eq_literal_of_textOf hvalue hmem htext
  exact segments_ne_of_compile h hsegment

end Values

/-- A link's path binds each placeholder of its pattern once, to the value put for it, and has no
format. Its slash at the end may be left out unless the last segment is empty. -/
theorem match?_link {template : String} {p : Pattern} {value : String → String}
    {written : List (List Char)} (h : compile template = .ok p)
    (hvalue : ∀ name ∈ p.parameterNames, value name ≠ "")
    (hwritten : List.Forall₂ Percent.Spells written (p.segments.map (·.textOf value))) :
    p.parameterNames.Nodup ∧
      p.match? (String.ofList (Path.joined written ++ ['/'])) =
        some ⟨p.parameterNames.map fun name => (name, value name), none⟩ ∧
      (p.segments.getLast? ≠ some (.literal "") →
        p.match? (String.ofList (Path.joined written)) =
          some ⟨p.parameterNames.map fun name => (name, value name), none⟩) := by
  have hmatch {path : List Char} (hpath : Path.segments path = written) :
      p.match? (String.ofList path) =
        some ⟨p.parameterNames.map fun name => (name, value name), none⟩ := by
    rw [p.match?_written hwritten hpath, bind?_written hwritten hvalue]
    rfl
  refine ⟨nodup_parameterNames h, hmatch ?_, fun hlast => hmatch ?_⟩
  · exact Path.segments_written_slash hwritten (texts_ne_of_compile hvalue h)
  · exact Path.segments_written hwritten (getLast?_texts hvalue hlast)

/-- The pattern of a book on a shelf, with an empty literal in its middle. -/
def shelfAndTitle : Pattern where
  template := "/books/\x7bshelf\x7d//\x7btitle\x7d.\x7bformat\x7d"
  path := "/books/\x7bshelf\x7d//\x7btitle\x7d"
  segments := [.literal "books", .parameter "shelf", .literal "", .parameter "title"]
  declaresFormat := true

/-- Slashes, points and letters of several octets come back in the values. -/
theorem match?_link_of_title :
    compile shelfAndTitle.template = .ok shelfAndTitle ∧
      shelfAndTitle.match? "/%62%6F%6f%6B%73/%61%2f%62//%6A%6f%73%c3%A9%2e%6A%73%6F%6e" =
        some ⟨[("shelf", "a/b"), ("title", "josé.json")], none⟩ := by
  have hcompile : compile shelfAndTitle.template = .ok shelfAndTitle := by decide +kernel
  let value (name : String) : String := if name = "shelf" then "a/b" else "josé.json"
  have hvalue : ∀ name ∈ shelfAndTitle.parameterNames, value name ≠ "" := by decide
  have hwritten : List.Forall₂ Percent.Spells
      (["%62%6F%6f%6B%73", "%61%2f%62", "", "%6A%6f%73%c3%A9%2e%6A%73%6F%6e"].map String.toList)
      (shelfAndTitle.segments.map (·.textOf value)) := by decide +kernel
  exact ⟨hcompile, (match?_link hcompile hvalue hwritten).2.2 (by decide)⟩

end Switchboard.Pattern
