import Switchboard.Proofs.RunPoints

namespace Switchboard

theorem Invocation.request_of_parts {σ : Type} {workers : Workers} {handler : Handler σ}
    {route : String} {request : Request} {response : Response} {world : World σ}
    {parts : Request × Response}
    (h : (run workers handler route request response world).parts = some parts) :
    ∃ state, parts.1 = (handler request response state).request := by
  obtain ⟨hparts, -, -, -⟩ | ⟨hnone, -⟩ := run_cases workers handler route request response world
  · obtain rfl := Option.some.inj (hparts.symm.trans h)
    exact ⟨_, rfl⟩
  · cases hnone.symm.trans h

namespace Pipeline

variable {σ β : Type} (p : Pipeline σ)

section Views

variable {view : Context (Handler σ) → β}
  (hview : ∀ c stage settings response failure,
    view { c with stage, settings, response, failure } = view c)
include hview

theorem fail_keeps (failure : Failure) (s : Session σ) :
    view (p.fail failure s).context = view s.context := by
  rw [context_fail]
  exact hview s.context _ s.context.settings _ _

theorem negotiate_keeps (force : Bool) (s : Session σ) :
    view (s.negotiate p.registry force).1.context = view s.context := by
  rw [Session.context_negotiate]
  exact hview s.context s.context.stage _ s.context.response s.context.failure

theorem settingsFor_keeps (s : Session σ) : view (p.settingsFor s).1.context = view s.context := by
  have hnegotiate := p.negotiate_keeps hview s.context.hasFailure s
  obtain heq | ⟨e, heq⟩ := p.settingsFor_cases s
  · rw [heq]
    exact hnegotiate
  · rw [heq]
    exact (p.negotiate_keeps hview true _).trans ((p.fail_keeps hview _ _).trans hnegotiate)

theorem reshape_keeps (shaped : Logged Response) (s : Session σ) :
    view (s.reshape shaped).context = view s.context := by
  rw [Session.context_reshape]
  exact hview s.context s.context.stage s.context.settings _ s.context.failure

theorem render_keeps (settings : Option Settings) (s : Session σ) :
    view (render settings s).1.context = view s.context :=
  reshape_keeps hview _ s

theorem tell_keeps (settings : Option Settings) (s : Session σ) :
    view (tell settings s).context = view s.context := by
  have hrender := render_keeps hview settings s
  obtain heq | heq := tell_cases settings s
  · rw [heq]
    exact hrender
  · rw [heq]
    exact (reshape_keeps hview _ _).trans hrender

theorem rendering_keeps (settings : Option Settings) (s : Session σ) :
    view (p.rendering settings s).context = view s.context := by
  have hrender := render_keeps hview settings s
  obtain heq | ⟨error, heq⟩ | ⟨-, e, heq⟩ := p.rendering_cases settings s
  · rw [heq]
    exact hrender
  · rw [heq]
    exact (reshape_keeps hview _ _).trans hrender
  · rw [heq]
    exact (tell_keeps hview _ _).trans ((p.fail_keeps hview _ _).trans hrender)

theorem serialize_keeps (s : Session σ) : view (p.serialize s).context = view s.context := by
  rw [context_serialize]
  refine (hview _ _ (p.rendering (p.settingsFor s).2 (p.settingsFor s).1).context.settings _
    (p.rendering (p.settingsFor s).2 (p.settingsFor s).1).context.failure).trans ?_
  exact (p.rendering_keeps hview _ _).trans (p.settingsFor_keeps hview s)

variable (view) in
/-- What is left of a view of the context once the process is over, the run leaves. -/
theorem run_keeps (c : Context (Handler σ)) (world : World σ) :
    view (p.run c world).2.context =
      view (p.process (p.arrived { context := c, world })).1.context := by
  have hfinish :
      view (p.run c world).2.context = view (p.prepare { context := c, world }).context :=
    p.finish_keeps view
      (fun c stage => hview c stage c.settings c.response c.failure)
      (fun c response => hview c c.stage c.settings response c.failure) _ _
  rw [hfinish]
  unfold prepare
  rw [p.serialize_keeps hview]
  obtain heq | ⟨failure, heq⟩ := p.processed_cases (p.arrived { context := c, world })
  · rw [heq]
  · rw [heq]
    exact p.fail_keeps hview _ _

end Views

theorem action_process (s : Session σ) :
    (p.process s).1.context.action =
      match p.table.resolve s.context.request.method s.context.request.path with
      | .error _ => s.context.action
      | .ok action => some action := by
  rw [p.process_eq]
  cases p.table.resolve s.context.request.method s.context.request.path with
  | error e => rfl
  | ok action =>
    have hrest : ((reached .resolved).andThen <| p.negotiation.andThen <| p.preprocess.andThen <|
        rewinding.andThen <| reached .preprocessed).Keeps
          fun c : Context (Handler σ) => c.action :=
      (reached_keeps .resolved fun _ _ => rfl).andThen <|
      (p.negotiation_keeps fun _ _ => rfl).andThen <|
      (p.preprocess_keeps fun _ _ => rfl).andThen <|
      (rewinding_keeps fun _ _ => rfl).andThen <|
      reached_keeps .preprocessed fun _ _ => rfl
    have hdeparture : (p.departure action.route).Keeps fun c : Context (Handler σ) => c.action :=
      p.departure_keeps action.route (fun _ _ => rfl) fun _ _ _ => rfl
    have hkept := hrest.andThen hdeparture (s.withContext (s.context.bindAction action))
    unfold approach
    dsimp only
    rw [Step.andThen_assoc]
    exact hkept

/-- The template of the route that a request is resolved to, or that there is none. -/
def templateOf (request : Request) : String :=
  match p.table.resolve request.method request.path with
  | .error _ => "none"
  | .ok action => action.route.pattern.template

theorem routeLabel_run {c : Context (Handler σ)} (hfresh : c.action = none) (world : World σ) :
    (p.run c world).2.context.routeLabel = p.templateOf c.request := by
  have hkept := p.run_keeps Context.routeLabel (fun _ _ _ _ _ => rfl) c world
  have haction := p.action_process (p.arrived { context := c, world })
  rw [context_arrived] at haction
  rw [hkept]
  unfold templateOf Context.routeLabel
  rw [haction]
  cases p.table.resolve c.request.method c.request.path with
  | error e =>
    dsimp only
    rw [hfresh]
    rfl
  | ok action => rfl

/-- Preprocessors and handlers that leave the method of the request as it is. -/
structure KeepsMethod : Prop where
  preprocessors : ∀ hook ∈ p.preprocessors, ∀ request state,
    (hook request state).subject.method = request.method
  handlers : ∀ route ∈ p.table.routes, ∀ request response state,
    (route.handler request response state).request.method = request.method

theorem method_run (h : p.KeepsMethod) (c : Context (Handler σ)) (world : World σ) :
    (p.run c world).2.context.request.method = c.request.method := by
  have hnegotiation : p.negotiation.Keeps fun c : Context (Handler σ) => c.request.method :=
    p.negotiation_keeps fun _ _ => rfl
  have hpostprocess : p.postprocess.Keeps fun c : Context (Handler σ) => c.request.method :=
    p.postprocess_keeps fun _ _ => rfl
  have hsteps : p.EachStep (Step.Preserves fun s => s.context.request.method) :=
    { binding := fun _ _ => rfl
      reached := fun _ _ => rfl
      negotiation := hnegotiation
      preprocess := by
        refine (Step.preserves_chained _).inOrder 0 fun index hook hmem s => ?_
        unfold preprocessing
        dsimp only
        rw [context_concluded]
        exact h.preprocessors hook hmem _ _
      rewinding := fun _ => rfl
      handling := by
        intro route hroute s
        dsimp only
        rw [context_handling]
        dsimp only
        unfold handled
        cases hparts : (p.invocation route s).parts with
        | none => rfl
        | some parts =>
          obtain ⟨state, hrequest⟩ := Invocation.request_of_parts hparts
          rw [Option.getD_some, hrequest]
          exact h.handlers route hroute _ _ _
      postprocess := hpostprocess }
  have hprocess := p.process_preserves hsteps (p.arrived { context := c, world })
  rw [p.run_keeps (fun c => c.request.method) (fun _ _ _ _ _ => rfl) c world, hprocess,
    context_arrived]

theorem status_of_failure {c : Context (Handler σ)} (hfresh : c.failure = none) {world : World σ}
    {failure : Failure} (hfailure : (p.run c world).2.context.failure = some failure) :
    (p.prepare { context := c, world }).context.response.status =
      (p.mapping.reply failure).result.status := by
  have harrived : (p.arrived { context := c, world }).context.failure = none := by
    rw [context_arrived]
    exact hfresh
  have hspec := p.captured_spec harrived
  have hprepared : (p.prepare { context := c, world }).context.failure = some failure :=
    (p.failure_finish _ _).symm.trans hfailure
  unfold prepare at hprepared ⊢
  split at hspec
  next =>
    rw [hspec] at hprepared
    cases hprepared
  next =>
    obtain ⟨hother, hresponse⟩ := hspec
    obtain rfl := Option.some.inj (hother.symm.trans hprepared)
    rw [hresponse, Response.status_finished, Response.status_told_failedWith]

end Pipeline

end Switchboard
