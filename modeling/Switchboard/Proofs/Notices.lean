import Switchboard.Pipeline.Run

namespace Switchboard

namespace Event

/-- A line that tells neither of a change of the stage nor of the end of a request. -/
def isNotice : Event → Bool
  | transition .. => false
  | completed .. => false
  | completedWithFailure .. => false
  | _ => true

end Event

/-- A result on the way to which nothing but notices was logged. -/
def Logged.Notices {α : Type} (l : Logged α) : Prop := ∀ e ∈ l.events, e.isNotice = true

namespace Logged.Notices

variable {α : Type}

theorem silent (result : α) : (Logged.silent result).Notices := nofun

theorem single {e : Event} (h : e.isNotice = true) (result : α) : Notices ⟨result, [e]⟩ := by
  intro other hother
  obtain rfl := List.mem_singleton.mp hother
  exact h

end Logged.Notices

namespace Response

variable (r : Response)

theorem notices_setContentType (mediaType : String) : (r.setContentType mediaType).Notices := by
  unfold setContentType
  split
  · exact .silent _
  · exact .single rfl _

theorem notices_typed (mediaType : String) : (r.typed mediaType).Notices := by
  unfold typed
  split
  · exact .silent _
  · exact r.notices_setContentType mediaType

theorem notices_enforce : r.enforce.Notices := by
  unfold enforce
  dsimp only
  split
  · exact .single rfl _
  · exact .silent _

theorem notices_plain : r.plain.Notices := notices_setContentType _ _

theorem notices_rendered (settings : Option Settings) (failed : Bool) :
    (r.rendered settings failed).Notices := by
  unfold rendered
  split
  · split
    · exact .silent _
    · exact r.notices_typed _
  · exact .silent _

end Response

theorem Mapping.notices_reply (m : Mapping) (failure : Failure) : (m.reply failure).Notices := by
  unfold Mapping.reply
  dsimp only
  split
  · exact .silent _
  · split
    · exact .silent _
    · exact .single rfl _

namespace Registry

variable (r : Registry) (policy : Option FormatPolicy) (force : Bool)

theorem notices_fallback : (r.fallback policy).Notices := by
  unfold fallback
  dsimp only
  split
  · exact .silent _
  · split
    · exact .silent _
    · exact .single rfl _

theorem notices_restrict (settings : Settings) (allowed : Bool) :
    (r.restrict settings allowed policy force).Notices := by
  unfold restrict
  split
  · exact .silent _
  · split
    · exact r.notices_fallback policy
    · exact .silent _

theorem notices_resolve (request : Request) : (r.resolve request policy force).Notices := by
  unfold resolve
  split
  · unfold forRequested
    split
    · exact r.notices_restrict policy force _ _
    · split
      · exact r.notices_fallback policy
      · exact .silent _
  · unfold forRanges
    split
    · exact r.notices_restrict policy force _ _
    · exact r.notices_fallback policy

end Registry

theorem Context.notices_negotiate {H : Type} (c : Context H) (registry : Registry) (force : Bool) :
    (c.negotiate registry force).Notices := by
  have hresolve := registry.notices_resolve c.policy? force c.request
  unfold Context.negotiate
  split
  · exact .silent _
  · dsimp only
    split
    · exact hresolve
    · exact hresolve

end Switchboard
