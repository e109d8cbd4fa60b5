import Mathlib.Data.List.Forall2
import Switchboard.Route.Pattern

namespace Switchboard

namespace Segment

def literal? : Segment → Option String
  | literal text => some text
  | parameter _ => none

/-- A literal stands for itself, a placeholder for anything. -/
inductive CoveredBy : Segment → Segment → Prop where
  | same (text : String) : CoveredBy (literal text) (literal text)
  | placeholder (segment : Segment) (name : String) : CoveredBy segment (parameter name)

end Segment

namespace Pattern

theorem alike_iff {agree : Segment → Segment → Bool} {as bs : List Segment} :
    alike agree as bs = true ↔ List.Forall₂ (agree · · = true) as bs := by
  induction as generalizing bs with
  | nil => cases bs <;> simp [alike]
  | cons a as ih => cases bs <;> simp [alike, ih]

/-- The literals of a pattern, and gaps where it has placeholders. -/
def shape (p : Pattern) : List (Option String) := p.segments.map Segment.literal?

theorem sameShape_iff {p q : Pattern} : p.sameShape q = true ↔ p.shape = q.shape := by
  unfold sameShape shape
  rw [alike_iff, ← List.forall₂_eq_eq_eq, List.forall₂_map_left_iff, List.forall₂_map_right_iff]
  refine iff_of_eq (congrArg (List.Forall₂ · _ _) ?_)
  funext a b
  cases a <;> cases b <;> simp [Segment.literal?]

theorem isShadowedBy_iff {p q : Pattern} :
    p.isShadowedBy q = true ↔ List.Forall₂ Segment.CoveredBy p.segments q.segments := by
  unfold isShadowedBy
  rw [alike_iff]
  refine iff_of_eq (congrArg (List.Forall₂ · _ _) ?_)
  funext a b
  refine propext ⟨fun h => ?_, fun h => ?_⟩
  · cases b with
    | parameter name => exact .placeholder a name
    | literal text =>
      cases a with
      | parameter name => cases h
      | literal other =>
        obtain rfl : other = text := by simpa using h
        exact .same other
  · cases h with
    | same text => simp
    | placeholder segment name => rfl

end Pattern

end Switchboard
