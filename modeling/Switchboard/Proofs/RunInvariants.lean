import Switchboard.Proofs.SessionJournal

namespace Switchboard

namespace Pipeline

variable {σ : Type} (p : Pipeline σ)

/-- One of the finally hooks, and the note of its failure. -/
def finalizing (index : Nat) (hook : Postprocessor σ) (s : Session σ) : Session σ :=
  let outcome := hook s.context.request s.context.response s.world.state
  let called := (s.afterCall (.finallyHook index) outcome).withResponse outcome.subject
  match outcome.ending.guarded with
  | .ok _ => called
  | .error failure => called.noteHookFailure "finally" "finally" failure

theorem runFinally_cons (index : Nat) (hook : Postprocessor σ) (rest : List (Postprocessor σ))
    (s : Session σ) :
    runFinally index (hook :: rest) s = runFinally (index + 1) rest (finalizing index hook s) := by
  unfold finalizing
  rw [runFinally]
  dsimp only
  cases (hook s.context.request s.context.response s.world.state).ending.guarded <;> rfl

/-- A property of a run in progress that lasts through all its parts. -/
structure Lasting (inv : Session σ → Prop) : Prop where
  withContext (s : Session σ) (c : Context (Handler σ)) : inv s → inv (s.withContext c)
  noteEvents (s : Session σ) (events : List Event) : inv s → inv (s.noteEvents events)
  noteFailure (s : Session σ) (status : Nat) : inv s → inv (s.note (.sample (.failure status)))
  noteRequest (s : Session σ) (method : String) (status : Nat) (route : String) :
    inv s → inv (s.note (.sample (.request method status route)))
  noteWire (s : Session σ) (wire : Wire) : inv s → inv (s.note (.wrote wire))
  observed (callback : Callback) (index : Nat) :
    ∀ o ∈ p.observers, ∀ s : Session σ, inv s → inv (s.notifyOne callback index o)
  preprocessing (index : Nat) :
    ∀ hook ∈ p.preprocessors, (preprocessing index hook).Maintains inv
  handling : ∀ route ∈ p.table.routes, (p.handling route).Maintains inv
  postprocessing (index : Nat) :
    ∀ hook ∈ p.postprocessors, (postprocessing index hook).Maintains inv
  finalizing (index : Nat) :
    ∀ hook ∈ p.finallyHooks, ∀ s, inv s → inv (finalizing index hook s)

namespace Lasting

variable {p} {inv : Session σ → Prop} (h : p.Lasting inv) {s : Session σ}
include h

theorem note (e : Event) (hs : inv s) : inv (s.note (.event e)) := h.noteEvents s [e] hs

theorem enter (stage : Stage) (hs : inv s) : inv (s.enter stage) :=
  h.withContext _ _ (h.note _ hs)

theorem reshape (shaped : Logged Response) (hs : inv s) : inv (s.reshape shaped) :=
  h.noteEvents _ _ (h.withContext _ _ hs)

theorem negotiate (registry : Registry) (force : Bool) (hs : inv s) :
    inv (s.negotiate registry force).1 :=
  h.noteEvents _ _ (h.withContext _ _ hs)

theorem notify (callback : Callback) (hs : inv s) : inv (s.notify callback p.observers) := by
  suffices hfrom : ∀ (observers : List (Observer σ)) (index : Nat) (s : Session σ),
      (∀ o ∈ observers, o ∈ p.observers) → inv s →
        inv (Session.notifyFrom callback index observers s) from
    hfrom p.observers 0 s (fun _ ho => ho) hs
  intro observers
  induction observers with
  | nil => exact fun _ _ _ hs => hs
  | cons o rest ih =>
    intro index s hsub hs
    refine ih _ _ (fun other ho => hsub other (List.mem_cons_of_mem _ ho)) ?_
    exact h.observed callback index o (hsub o (List.mem_cons_self ..)) s hs

theorem negotiation : p.negotiation.Maintains inv := by
  intro s hs
  rw [p.fst_negotiation]
  exact h.negotiate p.registry false hs

theorem process : p.process.Maintains inv :=
  p.process_maintains
    { binding := fun _ s hs => h.withContext s _ hs
      reached := fun stage _ hs => h.enter stage hs
      negotiation := h.negotiation
      preprocess := (Step.maintains_chained inv).inOrder 0 h.preprocessing
      rewinding := fun s hs => h.withContext s _ hs
      handling := h.handling
      postprocess := (Step.maintains_chained inv).inOrder 0 h.postprocessing }

theorem fail (failure : Failure) (hs : inv s) : inv (p.fail failure s) := by
  have htold := h.noteEvents _ (p.mapping.reply failure).events (h.enter .excepted hs)
  have hcounted := h.noteFailure _ (p.mapping.reply failure).result.status.code
    (h.note (failureEvent (s.enter .excepted).context failure (p.mapping.reply failure).result)
      htold)
  exact h.notify .exception (h.withContext _ _ hcounted)

theorem settingsFor (hs : inv s) : inv (p.settingsFor s).1 := by
  have hnegotiate := h.negotiate p.registry s.context.hasFailure hs
  obtain heq | ⟨e, heq⟩ := p.settingsFor_cases s
  · rw [heq]
    exact hnegotiate
  · rw [heq]
    exact h.negotiate p.registry true (h.fail _ hnegotiate)

theorem render (settings : Option Settings) (hs : inv s) : inv (render settings s).1 :=
  h.reshape _ hs

theorem tell (settings : Option Settings) (hs : inv s) : inv (tell settings s) := by
  have hrender := h.render settings hs
  obtain heq | heq := tell_cases settings s
  · rw [heq]
    exact hrender
  · rw [heq]
    exact h.reshape _ hrender

theorem rendering (settings : Option Settings) (hs : inv s) : inv (p.rendering settings s) := by
  have hrender := h.render settings hs
  obtain heq | ⟨error, heq⟩ | ⟨-, e, heq⟩ := p.rendering_cases settings s
  · rw [heq]
    exact hrender
  · rw [heq]
    exact h.reshape _ (h.note _ hrender)
  · rw [heq]
    exact h.tell settings (h.fail _ hrender)

theorem serialize (hs : inv s) : inv (p.serialize s) :=
  h.enter .serialized (h.reshape _ (h.reshape _ (h.rendering _ (h.settingsFor hs))))

theorem prepare (hs : inv s) : inv (p.prepare s) := by
  have harrived := h.notify .received (h.note
    (.dispatching s.context.request.method.name s.context.request.path) hs)
  have hprocess := h.process (p.arrived s) harrived
  refine h.serialize ?_
  obtain heq | ⟨failure, heq⟩ := p.processed_cases (p.arrived s)
  · rw [heq]
    exact hprocess
  · rw [heq]
    exact h.fail _ hprocess

theorem runFinally (hs : inv s) : inv (runFinally 0 p.finallyHooks s) := by
  suffices hfrom : ∀ (hooks : List (Postprocessor σ)) (index : Nat) (s : Session σ),
      (∀ hook ∈ hooks, hook ∈ p.finallyHooks) → inv s → inv (Pipeline.runFinally index hooks s) from
    hfrom p.finallyHooks 0 s (fun _ ho => ho) hs
  intro hooks
  induction hooks with
  | nil => exact fun _ _ _ hs => hs
  | cons hook rest ih =>
    intro index s hsub hs
    rw [runFinally_cons]
    refine ih _ _ (fun other ho => hsub other (List.mem_cons_of_mem _ ho)) ?_
    exact h.finalizing index hook (hsub hook (List.mem_cons_self ..)) s hs

theorem finish (wire : Wire) (hs : inv s) : inv (p.finish wire s) := by
  have hwritten := h.enter .written (h.noteWire _ wire hs)
  unfold Pipeline.finish
  refine h.noteRequest _ _ _ _ (h.enter .completed (h.notify .complete (h.runFinally ?_)))
  split
  · exact hwritten
  · exact h.notify .success hwritten

theorem run {c : Context (Handler σ)} {world : World σ} (hs : inv { context := c, world }) :
    inv (p.run c world).2 :=
  h.finish _ (h.prepare hs)

end Lasting

/-- A property of the world that lasts as time passes and through the handlers. -/
theorem lasting_of_world {inv : World σ → Prop}
    (hspend : ∀ (w : World σ) state duration, inv w → inv ({ w with state }.spend duration).1)
    (hhandler : ∀ route ∈ p.table.routes, ∀ request response (w : World σ), inv w →
      inv (Invocation.run p.workers route.handler route.pattern.template request response w).world) :
    p.Lasting fun s => inv s.world where
  withContext _ _ hs := hs
  noteEvents _ _ hs := hs
  noteFailure _ _ hs := hs
  noteRequest _ _ _ _ hs := hs
  noteWire _ _ hs := hs
  observed callback index o _ s hs := by
    rw [Session.world_notifyOne]
    exact hspend _ _ _ hs
  preprocessing index hook _ s hs := by
    have hcalled := hspend s.world (hook s.context.request s.world.state).state
      (hook s.context.request s.world.state).duration hs
    unfold preprocessing concluded
    dsimp only
    split <;> exact hcalled
  handling route hroute s hs := hhandler route hroute _ _ _ hs
  postprocessing index hook _ s hs := by
    have hcalled := hspend s.world
      (hook s.context.request s.context.response s.world.state).state
      (hook s.context.request s.context.response s.world.state).duration hs
    unfold postprocessing concluded
    dsimp only
    split <;> exact hcalled
  finalizing index hook _ s hs := by
    have hcalled := hspend s.world
      (hook s.context.request s.context.response s.world.state).state
      (hook s.context.request s.context.response s.world.state).duration hs
    unfold finalizing
    dsimp only
    split <;> exact hcalled

end Pipeline

end Switchboard
