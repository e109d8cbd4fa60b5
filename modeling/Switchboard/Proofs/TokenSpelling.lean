import Switchboard.Proofs.ForcedChoice

namespace Switchboard

theorem FormatPolicy.allows_eq_iff {p : FormatPolicy} {token spelling : String} :
    p.allows token = p.allows spelling ↔ (token ∈ p.supported ↔ spelling ∈ p.supported) := by
  by_cases hp : p.supported = []
  · simp [allows, hp]
  · rw [Bool.eq_iff_iff, allows_iff_mem hp, allows_iff_mem hp]

namespace Registry

variable {r : Registry} {policy : Option FormatPolicy} {request other : Request} {force : Bool}
  {token spelling : String}

theorem forFormat?_of_respelled (h : Text.equalIgnoringCase token spelling = true) :
    r.forFormat? token = r.forFormat? spelling := by
  unfold forFormat?
  rw [beq_iff_eq.mp h]

theorem toOption_resolve_of_requested (h : request.requestedFormat? = some token) :
    (r.resolve request policy force).result.toOption =
      ((r.forFormat? token).filter fun _ => policy.all (·.allows token)).or
        (if force then r.defaultFor? policy else none) := by
  unfold resolve
  rw [h]
  exact toOption_forRequested

/-- A request for a format comes to the same in another spelling, unless some serializer serves the
format and the list of the route has one of the spellings only. Even then a forced choice comes to
the same where that serializer is the default too. -/
theorem resolve_respelled_iff (hrequest : request.requestedFormat? = some token)
    (hother : other.requestedFormat? = some spelling)
    (hspelling : Text.equalIgnoringCase token spelling = true) :
    (r.resolve request policy force).result.toOption =
        (r.resolve other policy force).result.toOption ↔
      ∀ s, r.forFormat? token = some s →
        (∀ p ∈ policy, token ∈ p.supported ↔ spelling ∈ p.supported) ∨
          (force = true ∧ r.defaultFor? policy = some s) := by
  rw [toOption_resolve_of_requested hrequest, toOption_resolve_of_requested hother,
    ← forFormat?_of_respelled hspelling]
  have hallows : policy.all (·.allows token) = policy.all (·.allows spelling) ↔
      ∀ p ∈ policy, token ∈ p.supported ↔ spelling ∈ p.supported := by
    cases policy with
    | none => simp
    | some p => simpa using FormatPolicy.allows_eq_iff
  cases r.forFormat? token with
  | none => simp
  | some s =>
    rw [filter_or_eq_iff, hallows, Option.ite_none_right_eq_some]
    simp only [Option.some.injEq, forall_eq']

/-- XML is asked for in lower case and in upper case, and the route lists it in lower case. -/
theorem standard_resolve_respelled :
    let policy : Option FormatPolicy := some { supported := ["xml"] }
    let request : Request := .ofTarget .get ⟨"/x", some "format=xml"⟩
    let other : Request := .ofTarget .get ⟨"/x", some "format=XML"⟩
    request.requestedFormat? = some "xml" ∧ other.requestedFormat? = some "XML" ∧
      Text.equalIgnoringCase "xml" "XML" = true ∧
      (standard.resolve request policy false).result.toOption ≠
        (standard.resolve other policy false).result.toOption := by
  intro policy request other
  have hrequest : request.requestedFormat? = some "xml" := by decide +kernel
  have hother : other.requestedFormat? = some "XML" := by decide +kernel
  have hspelling : Text.equalIgnoringCase "xml" "XML" = true := by decide +kernel
  refine ⟨hrequest, hother, hspelling, fun hsame => ?_⟩
  have hserved : (standard.forFormat? "xml").isSome = true := by decide +kernel
  obtain ⟨s, hs⟩ := Option.isSome_iff_exists.mp hserved
  rcases (resolve_respelled_iff hrequest hother hspelling).mp hsame s hs with hlist | ⟨hforce, -⟩
  · have hboth := hlist _ rfl
    revert hboth
    decide
  · cases hforce

end Registry

end Switchboard
