import Switchboard.Proofs.SessionJournal

namespace Switchboard

/-- Calls of hooks and handlers, and writes. Observers only watch. -/
def Entry.isDeed : Entry → Bool
  | .event _ => false
  | .sample _ => false
  | .called (.observer ..) _ => false
  | .called _ _ => true
  | .wrote _ => true

def Journal.deeds (j : Journal) : Journal := j.filter Entry.isDeed

theorem Entry.overlooks_isDeed : Overlooks isDeed := ⟨fun _ => rfl, fun _ => rfl⟩

theorem filter_round_isDeed (callback : Callback) (stage : Stage) (status : Status)
    (ends : List Bool) : (round callback stage status ends).filter Entry.isDeed = [] :=
  filter_numbered_of_not (fun _ _ => rfl) 0 ends

namespace Session

variable {σ : Type}

def deeds (s : Session σ) : Journal := s.journal.deeds

theorem unmoved_deeds : Unmoved fun s : Session σ => s.deeds :=
  unmoved_kept Entry.overlooks_isDeed

variable (s : Session σ)

theorem deeds_note (e : Entry) : (s.note e).deeds = s.deeds ++ [e].filter Entry.isDeed :=
  s.kept_note e

@[simp] theorem deeds_note_event (e : Event) : (s.note (.event e)).deeds = s.deeds :=
  unmoved_deeds.note s e

@[simp] theorem deeds_note_sample (m : Sample) : (s.note (.sample m)).deeds = s.deeds :=
  s.kept_note_of_not rfl

@[simp] theorem deeds_noteEvents (events : List Event) : (s.noteEvents events).deeds = s.deeds :=
  unmoved_deeds.noteEvents s events

@[simp] theorem deeds_enter (stage : Stage) : (s.enter stage).deeds = s.deeds :=
  unmoved_deeds.enter s stage

@[simp] theorem deeds_negotiate (registry : Registry) (force : Bool) :
    (s.negotiate registry force).1.deeds = s.deeds :=
  unmoved_deeds.negotiate s registry force

theorem deeds_afterCall {α : Type} (call : Call) (o : Outcome σ α) :
    (s.afterCall call o).deeds =
      s.deeds ++ [.called call o.ending.succeeds].filter Entry.isDeed :=
  s.kept_afterCall Entry.overlooks_isDeed call o

@[simp] theorem deeds_notify (callback : Callback) (observers : List (Observer σ)) :
    (s.notify callback observers).deeds = s.deeds := by
  refine (s.kept_notify Entry.overlooks_isDeed callback observers).trans ?_
  rw [filter_round_isDeed]
  exact List.append_nil _

end Session

namespace Pipeline

variable {σ : Type} (p : Pipeline σ)

section Serialization

variable (s : Session σ)

@[simp] theorem deeds_fail (failure : Failure) : (p.fail failure s).deeds = s.deeds := by
  rw [p.fail_eq, Session.deeds_notify]
  exact (p.kept_capture Entry.overlooks_isDeed s failure).trans (List.append_nil _)

theorem deeds_settingsFor : (p.settingsFor s).1.deeds = s.deeds := by
  have hnegotiate := s.deeds_negotiate p.registry s.context.hasFailure
  obtain heq | ⟨e, heq⟩ := p.settingsFor_cases s
  · rw [heq]
    exact hnegotiate
  · rw [heq, Session.deeds_negotiate, deeds_fail]
    exact hnegotiate

theorem deeds_rendering (settings : Option Settings) :
    (p.rendering settings s).deeds = s.deeds := by
  have hrender : (render settings s).1.deeds = s.deeds :=
    unmoved_render Session.unmoved_deeds s settings
  obtain heq | ⟨error, heq⟩ | ⟨-, e, heq⟩ := p.rendering_cases settings s
  · rw [heq]
    exact hrender
  · rw [heq]
    exact (Session.unmoved_deeds.reshape _ _).trans ((Session.deeds_note_event _ _).trans hrender)
  · rw [heq]
    exact (unmoved_tell Session.unmoved_deeds _ settings).trans ((p.deeds_fail _ _).trans hrender)

theorem deeds_serialize : (p.serialize s).deeds = s.deeds :=
  (p.unmoved_serialize Session.unmoved_deeds s).trans <|
    (p.deeds_rendering _ _).trans (p.deeds_settingsFor s)

end Serialization

theorem deeds_arrived (c : Context (Handler σ)) (world : World σ) :
    (p.arrived { context := c, world }).deeds = [] := by
  unfold arrived
  rw [Session.deeds_notify, Session.deeds_note_event]
  rfl

end Pipeline

end Switchboard
