import Switchboard.Proofs.CompletionLine
import Switchboard.Proofs.PinnedSettings
import Switchboard.Proofs.RunFrame
import Switchboard.Proofs.RunInvariants

namespace Switchboard

namespace Stage

/-- The stages behind the arrival of a request in which its response is made. -/
def regular : List Stage := [resolved, preprocessed, invoked, postprocessed]

/-- The transitions from a stage through others, one after the other. -/
def links : Stage → List Stage → Journal
  | _, [] => []
  | source, target :: rest => .event (.transition source target) :: links target rest

theorem links_concat (source : Stage) (stages : List Stage) (target : Stage) :
    links source (stages ++ [target]) =
      links source stages ++ [.event (.transition (stages.getLastD source) target)] := by
  induction stages generalizing source with
  | nil => rfl
  | cons stage rest ih =>
    rw [List.getLastD_cons, List.cons_append]
    unfold links
    rw [ih, List.cons_append]

end Stage

def Event.isTransition : Event → Bool
  | transition .. => true
  | _ => false

theorem Session.grows_afterCall {σ α : Type} (s : Session σ) (call : Call) (o : Outcome σ α) :
    s.journal <+: (s.afterCall call o).journal :=
  (List.prefix_append _ _).trans ((List.prefix_append _ _).trans (List.prefix_append _ _))

namespace Pipeline

variable {σ : Type}

/-- A kind of transitions of which the application logs none itself. -/
structure Reticent (p : Pipeline σ) (world : World σ) (kind : Event → Bool) : Prop where
  transitions : ∀ e : Event, kind e = true → e.isTransition = true
  application : p.Quiet kind
  observers : ∀ o ∈ p.observers, ∀ callback, o.Quiet kind callback
  world : world.Quiet kind

theorem Reticent.notices {p : Pipeline σ} {world : World σ} {kind : Event → Bool}
    (h : p.Reticent world kind) (e : Event) (he : e.isNotice = true) : kind e = false := by
  cases hkind : kind e with
  | false => rfl
  | true =>
    have htransition := h.transitions e hkind
    cases e <;>
      first | exact absurd htransition Bool.false_ne_true | exact absurd he Bool.false_ne_true

/-- A run that has passed these stages since it began in this world. Its journal has the transitions
between them, and none besides but those that the application logs. -/
structure Passed (p : Pipeline σ) (start : World σ) (stages : List Stage) (s : Session σ) :
    Prop where
  stage : s.context.stage = stages.getLastD .received
  within : (Stage.received.links stages).Sublist s.journal
  alone (kind : Event → Bool) : p.Reticent start kind →
    s.Holds kind ((Stage.received.links stages).filter (Entry.logs kind))

theorem lasting_journal (p : Pipeline σ) (lines : Journal) :
    p.Lasting fun s => lines <+: s.journal where
  withContext _ _ h := h
  noteEvents _ _ h := h.trans (List.prefix_append _ _)
  noteFailure _ _ h := h.trans (List.prefix_append _ _)
  noteRequest _ _ _ _ h := h.trans (List.prefix_append _ _)
  noteWire _ _ h := h.trans (List.prefix_append _ _)
  observed callback index o _ s h := by
    have hcalled := s.grows_afterCall
      (.observer index callback s.context.stage s.context.response.status)
      (o.call callback s.context s.world.state)
    unfold Session.notifyOne
    dsimp only
    split
    · exact h.trans hcalled
    · exact (h.trans hcalled).trans
        ((List.prefix_append _ _).trans (List.prefix_append _ _))
  preprocessing index hook _ s h := by
    have hcalled := s.grows_afterCall (.preprocessor index) (hook s.context.request s.world.state)
    unfold preprocessing concluded
    dsimp only
    split
    · exact h.trans hcalled
    · exact (h.trans hcalled).trans (List.prefix_append _ _)
  handling route _ s h := by
    unfold handling
    dsimp only
    refine List.IsPrefix.trans ?_ (List.prefix_append _ _)
    split
    · exact h.trans (List.prefix_append _ _)
    · exact h
  postprocessing index hook _ s h := by
    have hcalled := s.grows_afterCall (.postprocessor index)
      (hook s.context.request s.context.response s.world.state)
    unfold postprocessing concluded
    dsimp only
    split
    · exact h.trans hcalled
    · exact (h.trans hcalled).trans (List.prefix_append _ _)
  finalizing index hook _ s h := by
    have hcalled := s.grows_afterCall (.finallyHook index)
      (hook s.context.request s.context.response s.world.state)
    unfold finalizing
    dsimp only
    split
    · exact h.trans hcalled
    · exact (h.trans hcalled).trans
        ((List.prefix_append _ _).trans (List.prefix_append _ _))

section Passing

variable {p : Pipeline σ} {start : World σ} {stages : List Stage} {s t : Session σ}

theorem passed_start {c : Context (Handler σ)} (hc : c.stage = .received) :
    p.Passed start [] { context := c, world := start } where
  stage := hc
  within := List.Sublist.refl _
  alone _ hkind := ⟨rfl, hkind.world⟩

namespace Passed

variable (h : p.Passed start stages s)
include h

/-- What leaves the stage and adds no transitions passes none. -/
theorem stay (hstage : t.context.stage = s.context.stage) (hgrows : s.journal <+: t.journal)
    (halone : ∀ kind lines, p.Reticent start kind → s.Holds kind lines → t.Holds kind lines) :
    p.Passed start stages t where
  stage := hstage.trans h.stage
  within := h.within.trans hgrows.sublist
  alone kind hkind := halone kind _ hkind (h.alone kind hkind)

theorem enter (stage : Stage) : p.Passed start (stages ++ [stage]) (s.enter stage) where
  stage := List.getLastD_concat.symm
  within := by
    rw [Stage.links_concat, ← h.stage]
    exact h.within.append (List.Sublist.refl _)
  alone kind hkind := by
    rw [Stage.links_concat, List.filter_append, ← h.stage]
    exact ((h.alone kind hkind).note _).withContext _

theorem withContext (c : Context (Handler σ)) (hstage : c.stage = s.context.stage) :
    p.Passed start stages (s.withContext c) :=
  h.stay hstage List.prefix_rfl fun _ _ _ hs => hs.withContext c

theorem note {e : Entry} (he : ∀ kind, p.Reticent start kind → Entry.logs kind e = false) :
    p.Passed start stages (s.note e) :=
  h.stay rfl (List.prefix_append _ _) fun kind _ hkind hs => hs.note_of_not (he kind hkind)

theorem log {e : Event} (he : e.isNotice = true) : p.Passed start stages (s.note (.event e)) :=
  h.note fun _ hkind => hkind.notices e he

theorem noteEvents {events : List Event} (hevents : ∀ e ∈ events, e.isNotice = true) :
    p.Passed start stages (s.noteEvents events) :=
  h.stay rfl (List.prefix_append _ _) fun _ _ hkind hs =>
    hs.noteEvents_of_lacks fun e he => hkind.notices e (hevents e he)

theorem reshape {shaped : Logged Response} (hshaped : shaped.Notices) :
    p.Passed start stages (s.reshape shaped) :=
  (h.withContext { s.context with response := shaped.result } rfl).noteEvents hshaped

theorem negotiate (registry : Registry) (force : Bool) :
    p.Passed start stages (s.negotiate registry force).1 := by
  have hstage := congrArg Context.stage (s.context_negotiate registry force)
  exact (h.withContext (s.context.negotiate registry force).result.1 hstage).noteEvents
    (s.context.notices_negotiate registry force)

theorem notify (callback : Callback) : p.Passed start stages (s.notify callback p.observers) :=
  h.stay (by rw [Session.context_notify])
    ((p.lasting_journal s.journal).notify callback List.prefix_rfl)
    fun _ _ hkind hs => hs.notify hkind.notices fun o ho => hkind.observers o ho callback

theorem fail (failure : Failure) : p.Passed start (stages ++ [.excepted]) (p.fail failure s) := by
  have htold := (h.enter .excepted).noteEvents (p.mapping.notices_reply failure)
  have hlogged := htold.log
    (isNotice_failureEvent (s.enter .excepted).context failure (p.mapping.reply failure).result)
  have hcounted := hlogged.note
    (e := .sample (.failure (p.mapping.reply failure).result.status.code)) fun _ _ => rfl
  have hcaptured : p.Passed start (stages ++ [.excepted]) (p.capture failure s) := by
    refine hcounted.withContext _ ?_
    rfl
  rw [p.fail_eq]
  exact hcaptured.notify .exception

section Rendering

variable (settings : Option Settings)

theorem render : p.Passed start stages (render settings s).1 :=
  h.reshape (s.context.response.notices_rendered settings s.context.hasFailure)

theorem renderPlain : p.Passed start stages (renderPlain s) :=
  h.reshape s.context.response.notices_plain

theorem tell : p.Passed start stages (tell settings s) := by
  have hrender := h.render settings
  obtain heq | heq := tell_cases settings s
  · rw [heq]
    exact hrender
  · rw [heq]
    exact hrender.renderPlain

theorem rendering_of_failure (hs : s.context.hasFailure = true) :
    p.Passed start stages (p.rendering settings s) := by
  have hrender := h.render settings
  obtain heq | ⟨error, heq⟩ | ⟨hgood, -⟩ := p.rendering_cases settings s
  · rw [heq]
    exact hrender
  · rw [heq]
    exact (hrender.log rfl).renderPlain
  · cases hs.symm.trans hgood

end Rendering

omit h in
theorem serialize
    (hrendered : p.Passed start stages (p.rendering (p.settingsFor s).2 (p.settingsFor s).1)) :
    p.Passed start (stages ++ [.serialized]) (p.serialize s) :=
  ((hrendered.reshape (Response.notices_typed _ _)).reshape (Response.notices_enforce _)).enter _

theorem serialize_of_failure (hs : s.context.hasFailure = true) :
    p.Passed start (stages ++ [.serialized]) (p.serialize s) := by
  have hfailed : (s.negotiate p.registry true).1.context.hasFailure = true := by
    rw [Session.context_negotiate]
    exact hs
  refine Passed.serialize ?_
  rw [settingsFor_of_failure p hs]
  exact (h.negotiate p.registry true).rendering_of_failure _ hfailed

section Pinned

variable {settings : Settings} (hpinned : s.context.settings = some settings)
include hpinned

theorem render_of_pinned :
    p.Passed start stages (Pipeline.render (p.settingsFor s).2 (p.settingsFor s).1).1 := by
  have hready : p.Passed start stages (p.settingsFor s).1 := by
    rw [settingsFor_of_ok p (Context.choice_of_settings hpinned p.registry s.context.hasFailure)]
    exact h.negotiate _ _
  exact hready.render _

theorem serialize_of_rendered
    (hrender : Pipeline.render (p.settingsFor s).2 (p.settingsFor s).1 = (t, .ok ())) :
    p.Passed start (stages ++ [.serialized]) (p.serialize s) := by
  have hrendered := h.render_of_pinned hpinned
  rw [hrender] at hrendered
  refine Passed.serialize ?_
  rw [p.rendering_of_ok hrender]
  exact hrendered

theorem serialize_of_unrendered (hnone : s.context.failure = none) {e : SerializationError}
    (hrender : Pipeline.render (p.settingsFor s).2 (p.settingsFor s).1 = (t, .error e)) :
    p.Passed start (stages ++ [.excepted] ++ [.serialized]) (p.serialize s) := by
  have hrendered := h.render_of_pinned hpinned
  rw [hrender] at hrendered
  refine Passed.serialize ?_
  rw [p.rendering_of_error (p.hasFailure_settingsFor hpinned hnone) hrender]
  exact (hrendered.fail _).tell _

end Pinned

theorem runFinally : p.Passed start stages (runFinally 0 p.finallyHooks s) :=
  h.stay (runFinally_keeps Context.stage (fun _ _ => rfl) 0 p.finallyHooks s)
    ((p.lasting_journal s.journal).runFinally List.prefix_rfl)
    fun _ _ hkind hs => runFinally_holds hkind.notices hkind.application.finallyHooks 0 hs

theorem closed (wire : Wire) : p.Passed start (stages ++ [.completed]) (p.closed wire s) :=
  ((h.runFinally.notify .complete).enter .completed).note fun _ _ => rfl

theorem finish (wire : Wire) :
    p.Passed start (stages ++ [.written] ++ [.completed]) (p.finish wire s) := by
  have hwritten := (h.note (e := .wrote wire) fun _ _ => rfl).enter .written
  rw [p.finish_eq]
  unfold announced
  split
  · exact hwritten.closed wire
  · exact (hwritten.notify .success).closed wire

omit h in
/-- The stages of a run that has come so far, once its response is ready. -/
theorem answered (hfresh : s.context.failure = none)
    (hprocess : p.Passed start stages (p.process s).1) :
    p.Passed start
      (stages ++
          (if (p.serialize (p.processed s)).context.failure.isSome then [.excepted] else []) ++
        [.serialized])
      (p.serialize (p.processed s)) := by
  have hkept := p.process_keeps_failure s
  rcases heq : p.process s with ⟨t, failure | _⟩ <;> rw [heq] at hprocess hkept
  · have hanswered := (hprocess.fail failure).serialize_of_failure (p.hasFailure_fail failure t)
    rw [(p.context_of_failed_process heq).1, p.processed_of_error heq]
    exact hanswered
  · -- Settings are pinned now, so it is only the body that may not be rendered.
    have hnone : t.context.failure = none := hkept.trans hfresh
    obtain ⟨settings, hpinned⟩ := p.settings_of_process heq
    rcases hrender : Pipeline.render (p.settingsFor t).2 (p.settingsFor t).1 with ⟨u, e | _⟩
    · have hanswered := hprocess.serialize_of_unrendered hpinned hnone hrender
      rw [(p.context_of_failed_render heq hpinned hnone hrender).1, p.processed_of_ok heq]
      exact hanswered
    · have hanswered := hprocess.serialize_of_rendered hpinned hrender
      rw [← List.append_nil stages] at hanswered
      rw [p.failure_of_rendered heq hpinned hnone hrender, p.processed_of_ok heq]
      exact hanswered

end Passed

/-- A step behind which these stages are passed if the run goes on, and those if it fails. -/
def Step.Advances (p : Pipeline σ) (start : World σ) (before after stopped : List Stage)
    (step : Step σ) : Prop :=
  ∀ s, p.Passed start before s →
    p.Passed start (if (step s).2.isOk then after else stopped) (step s).1

section Steps

variable {before between after stopped : List Stage} {first second step : Step σ}

theorem Step.Advances.andThen (hf : first.Advances p start before between stopped)
    (hs : second.Advances p start between after stopped) :
    (first.andThen second).Advances p start before after stopped := by
  intro s h
  have hfirst := hf s h
  rcases heq : first s with ⟨t, _ | _⟩ <;> rw [heq] at hfirst
  · rw [Step.andThen_of_error heq]
    exact hfirst
  · rw [Step.andThen_of_ok heq]
    exact hs t hfirst

theorem reached_advances (stage : Stage) :
    (reached stage).Advances p start before (before ++ [stage]) stopped :=
  fun _ h => h.enter stage

theorem binding_advances (action : Action (Handler σ)) :
    (binding action).Advances p start before before stopped :=
  fun _ h => h.withContext _ rfl

/-- A step that enters no stage passes none, whether it fails or not. -/
theorem Step.advances_of_keeps (hstage : step.Keeps Context.stage)
    (hgrows : ∀ lines, step.Maintains fun s => lines <+: s.journal)
    (halone : ∀ kind, p.Reticent start kind → ∀ lines, step.Maintains (Session.Holds kind lines)) :
    step.Advances p start before before before := by
  intro s h
  rw [ite_self]
  exact h.stay (hstage s) (hgrows s.journal s List.prefix_rfl)
    fun kind lines hkind hs => halone kind hkind lines s hs

theorem negotiation_advances : p.negotiation.Advances p start before before before :=
  Step.advances_of_keeps (p.negotiation_keeps fun _ _ => rfl)
    (fun lines => (p.lasting_journal lines).negotiation)
    fun _ hkind _ => negotiation_holds hkind.notices

theorem preprocess_advances : p.preprocess.Advances p start before before before :=
  Step.advances_of_keeps (p.preprocess_keeps fun _ _ => rfl)
    (fun lines => (Step.maintains_chained _).inOrder 0 (p.lasting_journal lines).preprocessing)
    fun _ hkind _ => preprocess_holds hkind.application

theorem postprocess_advances : p.postprocess.Advances p start before before before :=
  Step.advances_of_keeps (p.postprocess_keeps fun _ _ => rfl)
    (fun lines => (Step.maintains_chained _).inOrder 0 (p.lasting_journal lines).postprocessing)
    fun _ hkind _ => postprocess_holds hkind.application

theorem rewinding_advances : rewinding.Advances p start before before before :=
  Step.advances_of_keeps (rewinding_keeps fun _ _ => rfl) (fun _ _ h => h)
    fun _ _ _ _ hs => hs.withRequest _

theorem handling_advances {route : Route (Handler σ)} (hroute : route ∈ p.table.routes) :
    (p.handling route).Advances p start before before before :=
  Step.advances_of_keeps (p.handling_keeps route fun _ _ _ => rfl)
    (fun lines => (p.lasting_journal lines).handling route hroute)
    fun _ hkind _ => handling_holds hkind.notices hkind.application hroute

theorem approach_advances (action : Action (Handler σ)) :
    (p.approach action).Advances p start [] [.resolved, .preprocessed] [.resolved] :=
  (binding_advances action).andThen <| (reached_advances .resolved).andThen <|
  negotiation_advances.andThen <| preprocess_advances.andThen <|
  rewinding_advances.andThen (reached_advances .preprocessed)

theorem departure_advances {route : Route (Handler σ)} (hroute : route ∈ p.table.routes)
    (h : p.Passed start [.resolved, .preprocessed] s) :
    p.Passed start
      (if (p.invocation route s).succeeded then
        if (p.departure route s).2.isOk then Stage.regular
        else [.resolved, .preprocessed, .invoked]
      else [.resolved, .preprocessed])
      (p.departure route s).1 := by
  have hrest :
      ((reached .invoked).andThen (p.postprocess.andThen (reached .postprocessed))).Advances p start
        [.resolved, .preprocessed] Stage.regular [.resolved, .preprocessed, .invoked] :=
    (reached_advances .invoked).andThen <| postprocess_advances.andThen <|
    reached_advances .postprocessed
  have hhandled := handling_advances hroute s h
  have hsucceeded := p.isOk_handling route s
  rw [ite_self] at hhandled
  unfold departure
  rcases heq : p.handling route s with ⟨t, _ | _⟩ <;> rw [heq] at hhandled hsucceeded <;>
    rw [← hsucceeded]
  · rw [Step.andThen_of_error heq]
    exact hhandled
  · rw [Step.andThen_of_ok heq]
    exact hrest t hhandled

end Steps

end Passing

end Pipeline

end Switchboard
