import Switchboard.Proofs.HookTurns
import Switchboard.Proofs.RenderedResponse

namespace Switchboard

/-- A kind of entries to which no line in the log belongs and no counted failure of a hook. -/
structure Entry.Overlooks (keep : Entry → Bool) : Prop where
  event (e : Event) : keep (.event e) = false
  hookFailure (place : String) : keep (.sample (.hookFailure place)) = false

/-- Calls of hooks that follow each other in their list, by how each ended. -/
def numbered (call : Nat → Call) : Nat → List Bool → Journal
  | _, [] => []
  | index, succeeded :: rest => .called (call index) succeeded :: numbered call (index + 1) rest

/-- The calls of all observers at one moment. -/
def round (callback : Callback) (stage : Stage) (status : Status) (ends : List Bool) : Journal :=
  numbered (.observer · callback stage status) 0 ends

section Numbered

variable {keep : Entry → Bool} {call : Nat → Call}

theorem filter_numbered_of_not (h : ∀ index ok, keep (.called (call index) ok) = false)
    (index : Nat) (ends : List Bool) : (numbered call index ends).filter keep = [] := by
  induction ends generalizing index with
  | nil => rfl
  | cons ok rest ih =>
    unfold numbered
    rw [List.filter_cons_of_neg (by simp [h]), ih]

theorem filter_numbered (h : ∀ index ok, keep (.called (call index) ok) = true) (index : Nat)
    (ends : List Bool) : (numbered call index ends).filter keep = numbered call index ends := by
  induction ends generalizing index with
  | nil => rfl
  | cons ok rest ih =>
    unfold numbered
    rw [List.filter_cons_of_pos (h index ok), ih]

theorem mem_numbered (call : Nat → Call) (index : Nat) {ends : List Bool} {ok : Bool}
    (h : ok ∈ ends) : ∃ i, .called (call i) ok ∈ numbered call index ends := by
  induction ends generalizing index with
  | nil => cases h
  | cons first rest ih =>
    rcases List.mem_cons.mp h with rfl | hin
    · exact ⟨index, List.mem_cons_self ..⟩
    · obtain ⟨i, hi⟩ := ih (index + 1) hin
      exact ⟨i, List.mem_cons_of_mem _ hi⟩

theorem exists_of_mem_numbered {index : Nat} {ends : List Bool} {e : Entry}
    (h : e ∈ numbered call index ends) : ∃ i, ∃ ok ∈ ends, e = .called (call i) ok := by
  induction ends generalizing index with
  | nil => cases h
  | cons first rest ih =>
    rcases List.mem_cons.mp h with rfl | hin
    · exact ⟨index, first, List.mem_cons_self .., rfl⟩
    · obtain ⟨i, ok, hok, rfl⟩ := ih hin
      exact ⟨i, ok, List.mem_cons_of_mem _ hok, rfl⟩

end Numbered

namespace Session

variable {σ β : Type} {keep : Entry → Bool}

/-- A view of a session to which neither lines in the log belong nor what the request carries. -/
structure Unmoved (view : Session σ → β) : Prop where
  noteEvents (s : Session σ) (events : List Event) : view (s.noteEvents events) = view s
  withContext (s : Session σ) (c : Context (Handler σ)) : view (s.withContext c) = view s

namespace Unmoved

variable {view : Session σ → β} (h : Unmoved view) (s : Session σ)
include h

theorem note (e : Event) : view (s.note (.event e)) = view s := h.noteEvents s [e]

theorem enter (stage : Stage) : view (s.enter stage) = view s :=
  (h.withContext _ _).trans (h.note s _)

theorem reshape (shaped : Logged Response) : view (s.reshape shaped) = view s :=
  (h.noteEvents _ _).trans (h.withContext s _)

theorem negotiate (registry : Registry) (force : Bool) :
    view (s.negotiate registry force).1 = view s :=
  (h.noteEvents _ _).trans (h.withContext s _)

end Unmoved

theorem unmoved_world : Unmoved fun s : Session σ => s.world := ⟨fun _ _ => rfl, fun _ _ => rfl⟩

/-- The entries of a kind that the journal has so far. -/
def kept (keep : Entry → Bool) (s : Session σ) : Journal := s.journal.filter keep

theorem kept_note (s : Session σ) (e : Entry) :
    (s.note e).kept keep = s.kept keep ++ [e].filter keep :=
  List.filter_append ..

theorem kept_note_of_not {e : Entry} (he : keep e = false) (s : Session σ) :
    (s.note e).kept keep = s.kept keep := by
  rw [kept_note, List.filter_cons_of_neg (by simp [he])]
  exact List.append_nil _

variable (h : Entry.Overlooks keep) (s : Session σ)
include h

theorem unmoved_kept : Unmoved fun s : Session σ => s.kept keep where
  noteEvents s events := by
    unfold kept noteEvents
    rw [List.filter_append, List.append_right_eq_self, List.filter_eq_nil_iff]
    intro e he
    obtain ⟨event, -, rfl⟩ := List.mem_map.mp he
    rw [h.event]
    exact Bool.false_ne_true
  withContext _ _ := rfl

theorem kept_afterCall {α : Type} (call : Call) (o : Outcome σ α) :
    (s.afterCall call o).kept keep =
      s.kept keep ++ [.called call o.ending.succeeds].filter keep := by
  rw [← kept_note, ← (unmoved_kept h).noteEvents (s.note _) o.events]
  exact (unmoved_kept h).noteEvents { (s.note _).noteEvents _ with world := _ } _

theorem kept_noteHookFailure (place stage : String) (failure : Failure) :
    (s.noteHookFailure place stage failure).kept keep = s.kept keep := by
  unfold noteHookFailure
  rw [(unmoved_kept h).note, kept_note_of_not (h.hookFailure _)]

theorem kept_notifyOne (callback : Callback) (index : Nat) (o : Observer σ) :
    (s.notifyOne callback index o).kept keep = s.kept keep ++
      [.called (.observer index callback s.context.stage s.context.response.status)
        (HookTurn.ofCallback (o.call callback) s.point).1].filter keep := by
  have hcalled := kept_afterCall h s
    (.observer index callback s.context.stage s.context.response.status)
    (o.call callback s.context s.world.state)
  unfold notifyOne
  dsimp only
  split
  next => exact hcalled
  next => exact (kept_noteHookFailure h _ _ _ _).trans hcalled

theorem kept_notifyFrom (callback : Callback) (index : Nat) (observers : List (Observer σ)) :
    (notifyFrom callback index observers s).kept keep = s.kept keep ++
      (numbered (.observer · callback s.context.stage s.context.response.status) index
        (HookTurn.throughout (observers.map fun o => .ofCallback (o.call callback))
          s.point).1).filter keep := by
  induction observers generalizing index s with
  | nil => exact (List.append_nil _).symm
  | cons o rest ih =>
    have hrest := ih (s.notifyOne callback index o) (index + 1)
    rw [context_notifyOne, kept_notifyOne h, point_notifyOne, List.append_assoc,
      ← List.filter_append] at hrest
    exact hrest

/-- Every observer is called once, with the stage and the status at the time. -/
theorem kept_notify (callback : Callback) (observers : List (Observer σ)) :
    (s.notify callback observers).kept keep = s.kept keep ++
      (round callback s.context.stage s.context.response.status
        (HookTurn.throughout (observers.map fun o => .ofCallback (o.call callback))
          s.point).1).filter keep :=
  kept_notifyFrom h s callback 0 observers

end Session

namespace Pipeline

variable {σ β : Type} {keep : Entry → Bool} (p : Pipeline σ)

/-- The request in progress once a failure is captured, before anybody is told. -/
def capture (failure : Failure) (s : Session σ) : Session σ :=
  let told := p.mapping.reply failure
  let s := (s.enter .excepted).noteEvents told.events
  let s := s.note (.event (failureEvent s.context failure told.result))
  (s.note (.sample (.failure told.result.status.code))).withContext
    { s.context with
      response := s.context.response.failedWith told.result
      failure := some failure }

theorem fail_eq (failure : Failure) (s : Session σ) :
    p.fail failure s = (p.capture failure s).notify .exception p.observers := rfl

section Answer

variable {view : Session σ → β} (h : Session.Unmoved view) (s : Session σ)
include h

theorem unmoved_negotiation : view (p.negotiation s).1 = view s := by
  rw [fst_negotiation]
  exact h.negotiate s p.registry false

theorem unmoved_render (settings : Option Settings) : view (render settings s).1 = view s :=
  h.reshape s _

theorem unmoved_tell (settings : Option Settings) : view (tell settings s) = view s := by
  have hrender := unmoved_render h s settings
  obtain heq | heq := tell_cases settings s
  · rw [heq]
    exact hrender
  · rw [heq]
    exact (h.reshape _ _).trans hrender

theorem unmoved_serialize :
    view (p.serialize s) = view (p.rendering (p.settingsFor s).2 (p.settingsFor s).1) := by
  unfold serialize typed
  dsimp only
  rw [h.enter, h.reshape, h.reshape]

theorem unmoved_rendering_of_failure (settings : Option Settings) {s : Session σ}
    (hs : s.context.hasFailure = true) : view (p.rendering settings s) = view s := by
  have hrender := unmoved_render h s settings
  obtain heq | ⟨error, heq⟩ | ⟨hgood, -⟩ := p.rendering_cases settings s
  · rw [heq]
    exact hrender
  · rw [heq]
    exact (h.reshape _ _).trans ((h.note _ _).trans hrender)
  · rw [hs] at hgood
    cases hgood

/-- Once a failure is captured, getting the response ready adds nothing. -/
theorem unmoved_serialize_of_failure {s : Session σ} (hs : s.context.hasFailure = true) :
    view (p.serialize s) = view s := by
  have hfailed : (s.negotiate p.registry true).1.context.hasFailure = true := by
    rw [Session.context_negotiate]
    exact hs
  rw [p.unmoved_serialize h, settingsFor_of_failure p hs, p.unmoved_rendering_of_failure h _ hfailed,
    h.negotiate]

end Answer

section Steps

variable (h : Entry.Overlooks keep) (s : Session σ)
include h

theorem kept_concluded (place : String) (ending : Ending Unit) :
    (concluded place ending s).1.kept keep = s.kept keep := by
  unfold concluded
  split
  next => rfl
  next => exact Session.kept_note_of_not (h.hookFailure _) s

/-- Every finally hook is called, whatever becomes of those before it. -/
theorem kept_runFinally (index : Nat) (hooks : List (Postprocessor σ)) :
    (runFinally index hooks s).kept keep = s.kept keep ++
      (numbered .finallyHook index
        (HookTurn.throughout (hooks.map .ofPostprocessor) s.point).1).filter keep := by
  induction hooks generalizing index s with
  | nil => exact (List.append_nil _).symm
  | cons hook rest ih =>
    have hcalled := Session.kept_afterCall h s (.finallyHook index)
      (hook s.context.request s.context.response s.world.state)
    have hnext (t : Session σ) (hpoint : t.point = (HookTurn.ofPostprocessor hook s.point).2)
        (ht : t.kept keep = s.kept keep ++ [.called (.finallyHook index)
          (HookTurn.ofPostprocessor hook s.point).1].filter keep) :
        (runFinally (index + 1) rest t).kept keep = s.kept keep ++
          (numbered .finallyHook index (HookTurn.throughout
            ((hook :: rest).map .ofPostprocessor) s.point).1).filter keep := by
      have hrest := ih t (index + 1)
      rw [ht, hpoint, List.append_assoc, ← List.filter_append] at hrest
      exact hrest
    unfold runFinally
    dsimp only
    split
    next => exact hnext _ rfl hcalled
    next => exact hnext _ rfl ((Session.kept_noteHookFailure h _ _ _ _).trans hcalled)

theorem kept_capture (failure : Failure) :
    (p.capture failure s).kept keep = s.kept keep ++
      [.sample (.failure (p.mapping.reply failure).result.status.code)].filter keep := by
  have hunmoved := Session.unmoved_kept (σ := σ) h
  unfold capture
  dsimp only
  rw [hunmoved.withContext, Session.kept_note, hunmoved.note, hunmoved.noteEvents, hunmoved.enter]

end Steps

end Pipeline

end Switchboard
