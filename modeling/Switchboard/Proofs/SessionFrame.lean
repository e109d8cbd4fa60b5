import Switchboard.Pipeline.Run
import Switchboard.Proofs.RouteResolution

namespace Switchboard

/-- A route for the root of the service with a handler and nothing else. -/
def Route.bare {H : Type} (method : Method) (handler : H) : Route H where
  pattern := ⟨"/", "/", [], false⟩
  method := method
  handler := handler
  name := none
  formats := {}
  flags := []
  parameters := []
  baseUrl := ""
  serializesResponse := true

namespace Session

variable {σ : Type}

@[simp] theorem context_note (s : Session σ) (e : Entry) : (s.note e).context = s.context := rfl

@[simp] theorem world_note (s : Session σ) (e : Entry) : (s.note e).world = s.world := rfl

@[simp] theorem context_noteEvents (s : Session σ) (events : List Event) :
    (s.noteEvents events).context = s.context := rfl

@[simp] theorem world_noteEvents (s : Session σ) (events : List Event) :
    (s.noteEvents events).world = s.world := rfl

@[simp] theorem context_enter (s : Session σ) (stage : Stage) :
    (s.enter stage).context = { s.context with stage } := rfl

@[simp] theorem world_enter (s : Session σ) (stage : Stage) : (s.enter stage).world = s.world := rfl

@[simp] theorem context_withContext (s : Session σ) (c : Context (Handler σ)) :
    (s.withContext c).context = c := rfl

@[simp] theorem world_withContext (s : Session σ) (c : Context (Handler σ)) :
    (s.withContext c).world = s.world := rfl

@[simp] theorem context_withRequest (s : Session σ) (request : Request) :
    (s.withRequest request).context = { s.context with request } := rfl

@[simp] theorem world_withRequest (s : Session σ) (request : Request) :
    (s.withRequest request).world = s.world := rfl

@[simp] theorem context_withResponse (s : Session σ) (response : Response) :
    (s.withResponse response).context = { s.context with response } := rfl

@[simp] theorem world_withResponse (s : Session σ) (response : Response) :
    (s.withResponse response).world = s.world := rfl

@[simp] theorem context_reshape (s : Session σ) (shaped : Logged Response) :
    (s.reshape shaped).context = { s.context with response := shaped.result } := rfl

@[simp] theorem context_afterCall {α : Type} (s : Session σ) (call : Call) (o : Outcome σ α) :
    (s.afterCall call o).context = s.context := rfl

@[simp] theorem world_afterCall {α : Type} (s : Session σ) (call : Call) (o : Outcome σ α) :
    (s.afterCall call o).world = ({ s.world with state := o.state }.spend o.duration).1 := rfl

@[simp] theorem context_noteHookFailure (s : Session σ) (place stage : String)
    (failure : Failure) : (s.noteHookFailure place stage failure).context = s.context := rfl

@[simp] theorem world_noteHookFailure (s : Session σ) (place stage : String)
    (failure : Failure) : (s.noteHookFailure place stage failure).world = s.world := rfl

@[simp] theorem context_notifyOne (s : Session σ) (callback : Callback) (index : Nat)
    (o : Observer σ) : (s.notifyOne callback index o).context = s.context := by
  unfold notifyOne
  dsimp only
  split <;> rfl

theorem world_notifyOne (s : Session σ) (callback : Callback) (index : Nat) (o : Observer σ) :
    (s.notifyOne callback index o).world =
      ({ s.world with state := (o.call callback s.context s.world.state).state }.spend
        (o.call callback s.context s.world.state).duration).1 := by
  unfold notifyOne
  dsimp only
  split <;> rfl

@[simp] theorem context_notifyFrom (callback : Callback) (index : Nat) (observers : List (Observer σ))
    (s : Session σ) : (notifyFrom callback index observers s).context = s.context := by
  induction observers generalizing index s with
  | nil => rfl
  | cons o rest ih =>
    unfold notifyFrom
    rw [ih, context_notifyOne]

@[simp] theorem context_notify (s : Session σ) (callback : Callback)
    (observers : List (Observer σ)) : (s.notify callback observers).context = s.context :=
  context_notifyFrom callback 0 observers s

end Session

namespace Pipeline

variable {σ : Type} {β : Type}

/-- A property that a chain of steps has if each of them has it. -/
structure Step.Chained (P : Step σ → Prop) : Prop where
  skip : P fun s => (s, .ok ())
  andThen {first second : Step σ} : P first → P second → P (first.andThen second)

/-- What holds of a session and still does behind a step, also where that fails. -/
def Step.Maintains (inv : Session σ → Prop) (step : Step σ) : Prop :=
  ∀ s, inv s → inv (step s).1

theorem Step.maintains_chained (inv : Session σ → Prop) : Step.Chained (Step.Maintains inv) where
  skip := fun _ h => h
  andThen := by
    intro first second hf hs s h
    have hfirst := hf s h
    unfold Step.andThen
    split
    next t heq =>
      rw [heq] at hfirst
      exact hs t hfirst
    next t failure heq =>
      rw [heq] at hfirst
      exact hfirst

/-- A view of a session that a step leaves as it is, also where it fails. -/
def Step.Preserves (view : Session σ → β) (step : Step σ) : Prop :=
  ∀ s, view (step s).1 = view s

/-- To leave a view as it is is to maintain every value of it. -/
theorem Step.preserves_iff {view : Session σ → β} {step : Step σ} :
    step.Preserves view ↔ ∀ b, step.Maintains (view · = b) :=
  ⟨fun h _ s hs => (h s).trans hs, fun h s => h (view s) s rfl⟩

theorem Step.preserves_chained (view : Session σ → β) :
    Step.Chained (Step.Preserves view) where
  skip := fun _ => rfl
  andThen := fun hf hs => preserves_iff.mpr fun b =>
    (maintains_chained _).andThen (preserves_iff.mp hf b) (preserves_iff.mp hs b)

/-- A view of what the request carries that a step leaves as it is, also where it fails. -/
def Step.Keeps (view : Context (Handler σ) → β) (step : Step σ) : Prop :=
  ∀ s, view (step s).1.context = view s.context

theorem Step.Keeps.andThen {view : Context (Handler σ) → β} {first second : Step σ}
    (hf : first.Keeps view) (hs : second.Keeps view) : (first.andThen second).Keeps view :=
  (Step.preserves_chained fun s => view s.context).andThen hf hs

theorem Step.andThen_assoc (first second third : Step σ) :
    (first.andThen second).andThen third = first.andThen (second.andThen third) := by
  funext s
  unfold Step.andThen
  rcases first s with ⟨t, _ | _⟩ <;> rfl

theorem Step.andThen_of_ok {first second : Step σ} {s t : Session σ}
    (h : first s = (t, .ok ())) : first.andThen second s = second t := by
  unfold Step.andThen
  rw [h]

theorem Step.andThen_of_error {first second : Step σ} {s t : Session σ} {failure : Failure}
    (h : first s = (t, .error failure)) : first.andThen second s = (t, .error failure) := by
  unfold Step.andThen
  rw [h]

theorem Step.andThen_eq_ok {first second : Step σ} {s u : Session σ}
    (h : first.andThen second s = (u, .ok ())) :
    ∃ t, first s = (t, .ok ()) ∧ second t = (u, .ok ()) := by
  unfold Step.andThen at h
  split at h
  next t heq => exact ⟨t, heq, h⟩
  next => simp at h

theorem reached_keeps (stage : Stage) {view : Context (Handler σ) → β}
    (hview : ∀ c stage, view { c with stage } = view c) : (reached stage).Keeps view :=
  fun s => hview s.context stage

theorem binding_keeps (action : Action (Handler σ)) {view : Context (Handler σ) → β}
    (hview : ∀ c request, view { c with request, action := some action } = view c) :
    (binding action).Keeps view :=
  fun s => hview s.context (s.context.request.withMatch action.found action.route.name)

theorem rewinding_keeps {view : Context (Handler σ) → β}
    (hview : ∀ c request, view { c with request } = view c) : rewinding.Keeps view :=
  fun s => hview s.context s.context.request.rewind

theorem Step.Chained.inOrder {P : Step σ → Prop} (hchained : Step.Chained P) {H : Type}
    {step : Nat → H → Step σ} (index : Nat) {hooks : List H}
    (h : ∀ index, ∀ hook ∈ hooks, P (step index hook)) : P (inOrder step index hooks) := by
  induction hooks generalizing index with
  | nil => exact hchained.skip
  | cons hook rest ih =>
    have hfirst := h index hook (List.mem_cons_self ..)
    have hrest := ih (index + 1) fun i other ho => h i other (List.mem_cons_of_mem _ ho)
    exact hchained.andThen hfirst hrest

theorem inOrder_keeps {H : Type} {view : Context (Handler σ) → β} {step : Nat → H → Step σ}
    (index : Nat) {hooks : List H} (h : ∀ index, ∀ hook ∈ hooks, (step index hook).Keeps view) :
    (inOrder step index hooks).Keeps view :=
  (Step.preserves_chained fun s => view s.context).inOrder index h

@[simp] theorem context_concluded (place : String) (ending : Ending Unit) (s : Session σ) :
    (concluded place ending s).1.context = s.context := by
  unfold concluded
  split <;> rfl

theorem preprocess_keeps (p : Pipeline σ) {view : Context (Handler σ) → β}
    (hview : ∀ c request, view { c with request } = view c) : p.preprocess.Keeps view := by
  refine inOrder_keeps 0 fun index hook _ s => ?_
  unfold preprocessing
  dsimp only
  rw [context_concluded]
  exact hview _ _

theorem postprocess_keeps (p : Pipeline σ) {view : Context (Handler σ) → β}
    (hview : ∀ c response, view { c with response } = view c) : p.postprocess.Keeps view := by
  refine inOrder_keeps 0 fun index hook _ s => ?_
  unfold postprocessing
  dsimp only
  rw [context_concluded]
  exact hview _ _

/-- What the handler leaves of the request and the response. -/
def handled (p : Pipeline σ) (route : Route (Handler σ)) (s : Session σ) : Request × Response :=
  (p.invocation route s).parts.getD
    (s.context.request, { s.context.response with serialized := route.serializesResponse })

theorem context_handling (p : Pipeline σ) (route : Route (Handler σ)) (s : Session σ) :
    (p.handling route s).1.context =
      { s.context with
        request := (p.handled route s).1
        response := answered (p.handled route s).2 (p.invocation route s).result } := by
  unfold handling
  dsimp only
  split <;> rfl

theorem world_handling (p : Pipeline σ) (route : Route (Handler σ)) (s : Session σ) :
    (p.handling route s).1.world = (p.invocation route s).world := rfl

theorem result_handling (p : Pipeline σ) (route : Route (Handler σ)) (s : Session σ) :
    (p.handling route s).2 = (p.invocation route s).result.map fun _ => () := rfl

theorem handling_keeps (p : Pipeline σ) (route : Route (Handler σ))
    {view : Context (Handler σ) → β}
    (hview : ∀ c request response, view { c with request, response } = view c) :
    (p.handling route).Keeps view := by
  intro s
  rw [context_handling]
  exact hview s.context _ _

theorem runFinally_keeps (view : Context (Handler σ) → β)
    (hview : ∀ c response, view { c with response } = view c) (index : Nat)
    (hooks : List (Postprocessor σ)) (s : Session σ) :
    view (runFinally index hooks s).context = view s.context := by
  induction hooks generalizing index s with
  | nil => rfl
  | cons hook rest ih =>
    unfold runFinally
    dsimp only
    split <;>
    · rw [ih]
      exact hview s.context _

/-- Behind the write only the stage still changes, and what the finally hooks change. -/
theorem finish_leaves (p : Pipeline σ) (view : Context (Handler σ) → β)
    (hstage : ∀ c stage, view { c with stage } = view c)
    (hfinally : ∀ s, view (runFinally 0 p.finallyHooks s).context = view s.context) (wire : Wire)
    (s : Session σ) : view (p.finish wire s).context = view s.context := by
  unfold finish
  dsimp only
  rw [Session.context_note, Session.context_enter, hstage, Session.context_notify, hfinally]
  split
  · exact hstage s.context .written
  · rw [Session.context_notify]
    exact hstage s.context .written

theorem finish_keeps (p : Pipeline σ) (view : Context (Handler σ) → β)
    (hstage : ∀ c stage, view { c with stage } = view c)
    (hresponse : ∀ c response, view { c with response } = view c) (wire : Wire) (s : Session σ) :
    view (p.finish wire s).context = view s.context :=
  p.finish_leaves view hstage (runFinally_keeps view hresponse 0 p.finallyHooks) wire s

theorem context_arrived (p : Pipeline σ) (s : Session σ) : (p.arrived s).context = s.context :=
  Session.context_notify _ _ _

/-- Resolution, once it has succeeded, through the preprocessors. -/
def approach (p : Pipeline σ) (action : Action (Handler σ)) : Step σ :=
  (binding action).andThen <|
  (reached .resolved).andThen <|
  p.negotiation.andThen <|
  p.preprocess.andThen <|
  rewinding.andThen <|
  reached .preprocessed

/-- The handler and what follows it. -/
def departure (p : Pipeline σ) (route : Route (Handler σ)) : Step σ :=
  (p.handling route).andThen <|
  (reached .invoked).andThen <|
  p.postprocess.andThen <|
  reached .postprocessed

theorem process_eq (p : Pipeline σ) (s : Session σ) :
    p.process s =
      match p.table.resolve s.context.request.method s.context.request.path with
      | .error e => (s, .error (.ofService e))
      | .ok action => ((p.approach action).andThen (p.departure action.route)) s := by
  unfold process
  cases p.table.resolve s.context.request.method s.context.request.path with
  | error e => rfl
  | ok action =>
    unfold approach departure
    simp only [Step.andThen_assoc]

/-- A property of every step from resolution through postprocessing. -/
structure EachStep (p : Pipeline σ) (P : Step σ → Prop) : Prop where
  binding (action : Action (Handler σ)) : P (binding action)
  reached (stage : Stage) : P (reached stage)
  negotiation : P p.negotiation
  preprocess : P p.preprocess
  rewinding : P rewinding
  handling : ∀ route ∈ p.table.routes, P (p.handling route)
  postprocess : P p.postprocess

theorem EachStep.course {p : Pipeline σ} {P : Step σ → Prop} (h : p.EachStep P)
    (hchained : Step.Chained P) {action : Action (Handler σ)}
    (hroute : action.route ∈ p.table.routes) :
    P ((p.approach action).andThen (p.departure action.route)) := by
  have happroach : P (p.approach action) :=
    hchained.andThen (h.binding action) <| hchained.andThen (h.reached .resolved) <|
    hchained.andThen h.negotiation <| hchained.andThen h.preprocess <|
    hchained.andThen h.rewinding (h.reached .preprocessed)
  have hdeparture : P (p.departure action.route) :=
    hchained.andThen (h.handling action.route hroute) <| hchained.andThen (h.reached .invoked) <|
    hchained.andThen h.postprocess (h.reached .postprocessed)
  exact hchained.andThen happroach hdeparture

/-- What each step maintains, the whole of them maintains. -/
theorem process_maintains (p : Pipeline σ) {inv : Session σ → Prop}
    (h : p.EachStep (Step.Maintains inv)) : p.process.Maintains inv := by
  intro s hs
  rw [p.process_eq]
  split
  next => exact hs
  next action hfound =>
    exact h.course (Step.maintains_chained inv) (Table.mem_of_resolve hfound) s hs

theorem process_preserves (p : Pipeline σ) {view : Session σ → β}
    (h : p.EachStep (Step.Preserves view)) : p.process.Preserves view := by
  intro s
  rw [p.process_eq]
  split
  next => rfl
  next action hfound =>
    exact h.course (Step.preserves_chained view) (Table.mem_of_resolve hfound) s

theorem departure_keeps (p : Pipeline σ) (route : Route (Handler σ))
    {view : Context (Handler σ) → β} (hstage : ∀ c stage, view { c with stage } = view c)
    (hview : ∀ c request response, view { c with request, response } = view c) :
    (p.departure route).Keeps view :=
  (p.handling_keeps route hview).andThen <|
  (reached_keeps .invoked hstage).andThen <|
  (p.postprocess_keeps fun c response => hview c c.request response).andThen <|
  reached_keeps .postprocessed hstage

end Pipeline

end Switchboard
