import Switchboard.Proofs.FailedRun
import Switchboard.Proofs.SessionJournal

namespace Switchboard

variable {σ : Type}

/-- The world in which a handler begins: at once on the spot, and in a pool once a slot is free. -/
def Workers.begun (w : Workers) (world : World σ) : World σ :=
  if w.slots = 0 then world else world.atSlot

/-- The response as a handler that returned leaves it. -/
def HandlerRun.answer (run : HandlerRun σ) : Response :=
  match run.ending with
  | .done (some body) => { run.response with body }
  | .done none | .failed _ | .panicked _ => run.response

/-- The world behind a handler's own run that its caller waits for. -/
def Workers.ended (w : Workers) (world : World σ) (route : String) (own : HandlerRun σ) : World σ :=
  if w.slots = 0 then
    let changed := own.moments.foldl (fun w m => { w with state := m.change w.state }) world
    (changed.spend own.duration).1
  else
    let started := world.atSlot.start own (Invocation.panicEvents route own.ending)
    (started.advance (world.atSlot.clock + own.duration)).1

/-- A handler comes to what its own run comes to, or else its caller has given up and takes that for
a failure. -/
theorem Invocation.run_cases (workers : Workers) (handler : Handler σ) (route : String)
    (request : Request) (response : Response) (world : World σ) :
    let i := run workers handler route request response world
    let own := handler request response (workers.begun world).state
    (i.parts = some (own.request, own.response) ∧ i.result = resultOf own.ending ∧
        i.began = true ∧ i.world = workers.ended world route own) ∨
      (i.parts = none ∧ i.succeeded = false) := by
  unfold run pooled attended Workers.begun Workers.ended
  dsimp only
  split
  next => exact .inl ⟨rfl, rfl, rfl, rfl⟩
  next =>
    split
    next => exact .inr ⟨rfl, rfl⟩
    next =>
      split
      next => exact .inr ⟨rfl, rfl⟩
      next => exact .inl ⟨rfl, rfl, rfl, rfl⟩

namespace Pipeline

variable (p : Pipeline σ)

/-- The turns of the observers when all are told in the same way. -/
def watchers (tell : Observer σ → Context (Handler σ) → σ → Outcome σ Unit) : List (HookTurn σ) :=
  p.observers.map fun o => .ofCallback (tell o)

/-- Where the observers have been told of the arrival. -/
def greeted (c : Context (Handler σ)) (world : World σ) : Point σ :=
  (HookTurn.throughout (p.watchers Observer.received) ⟨c, world⟩).2

/-- The route of a request and the settings for its response, if there are both. -/
def admitted? (c : Context (Handler σ)) : Option (Action (Handler σ) × Settings) :=
  match p.table.resolve c.request.method c.request.path with
  | .error _ => none
  | .ok action =>
    match (c.bindAction action).choice p.registry false with
    | .error _ => none
    | .ok settings => some (action, settings)

def threshold (x : Point σ) (action : Action (Handler σ)) (settings : Settings) : Point σ :=
  { x with
    context := { x.context.bindAction action with stage := .resolved, settings := some settings } }

/-- How the preprocessors that are called end, and where they lead. -/
def preprocessed (c : Context (Handler σ)) (world : World σ) : List Bool × Point σ :=
  match p.admitted? c with
  | none => ([], p.greeted c world)
  | some (action, settings) =>
    HookTurn.upToFailure (p.preprocessors.map .ofPreprocessor)
      (threshold (p.greeted c world) action settings)

/-- Behind the preprocessors the body can be read from its start again. -/
def rewound (x : Point σ) : Point σ :=
  { x with
    context := { x.context with request := x.context.request.rewind, stage := .preprocessed } }

/-- The route whose handler is called and the point at which it is, if all goes well until then. -/
def entrusted? (c : Context (Handler σ)) (world : World σ) :
    Option (Route (Handler σ) × Point σ) :=
  match p.admitted? c with
  | none => none
  | some (action, _) =>
    if (p.preprocessed c world).1.all id then
      some (action.route, rewound (p.preprocessed c world).2)
    else none

/-- The run of a route's handler itself, on the request and the response it is called with and in
the state in which it begins. -/
def handlerRun (route : Route (Handler σ)) (x : Point σ) : HandlerRun σ :=
  route.handler x.context.request
    { x.context.response with serialized := route.serializesResponse }
    (p.workers.begun x.world).state

/-- How the handler's caller fares who waits for it as long as the pipeline allows. -/
def invocationAt (route : Route (Handler σ)) (x : Point σ) : Invocation σ :=
  p.invocation route { context := x.context, world := x.world }

/-- Where the postprocessors begin, if the handler returns in time. -/
def back? (route : Route (Handler σ)) (x : Point σ) : Option (Point σ) :=
  if (p.invocationAt route x).parts.isSome && (p.handlerRun route x).ending.succeeds then
    some
      { context :=
          { x.context with
            request := (p.handlerRun route x).request
            response := (p.handlerRun route x).answer
            stage := .invoked }
        world := (p.invocationAt route x).world }
  else none

def returned? (c : Context (Handler σ)) (world : World σ) : Option (Point σ) :=
  (p.entrusted? c world).bind fun call => p.back? call.1 call.2

/-- How the postprocessors end that are called behind a handler, and where they lead. -/
def concluding (x : Point σ) : List Bool × Point σ :=
  HookTurn.upToFailure (p.postprocessors.map .ofPostprocessor) x

def postprocessed (c : Context (Handler σ)) (world : World σ) : List Bool :=
  ((p.returned? c world).map fun x => (p.concluding x).1).getD []

/-- The world that the calls leave from the arrival of a request until its response is rendered. -/
def departed (c : Context (Handler σ)) (world : World σ) : World σ :=
  match p.returned? c world, p.entrusted? c world with
  | some x, _ => (p.concluding x).2.world
  | none, some (route, x) => (p.invocationAt route x).world
  | none, none => (p.preprocessed c world).2.world

/-- Where the observers are told of a failure. -/
def struck (failure : Failure) (x : Point σ) : Point σ :=
  { x with
    context :=
      { x.context with
        stage := .excepted
        response := x.context.response.failedWith (p.mapping.reply failure).result
        failure := some failure } }

/-- The failure that a run captures, and where the observers are told of it. -/
def excepted? (c : Context (Handler σ)) (world : World σ) : Option (Failure × Point σ) :=
  (p.captured? (p.arrived { context := c, world })).map fun captured =>
    (captured.2, p.struck captured.2 captured.1.point)

/-- Where the response has just been written. -/
def written (c : Context (Handler σ)) (world : World σ) : Point σ :=
  let s := p.prepare { context := c, world }
  { context := { s.context with stage := .written }, world := s.world }

/-- Where the finally hooks begin. Without a failure the observers have been told of success. -/
def cheered (x : Point σ) : Point σ :=
  if x.context.hasFailure then x else (HookTurn.throughout (p.watchers Observer.success) x).2

/-- How the finally hooks end behind the write, and where they lead. -/
def closing (x : Point σ) : List Bool × Point σ :=
  HookTurn.throughout (p.finallyHooks.map .ofPostprocessor) (p.cheered x)

section Approach

variable {action : Action (Handler σ)} {s : Session σ}

theorem point_arrived (c : Context (Handler σ)) (world : World σ) :
    (p.arrived { context := c, world }).point = p.greeted c world :=
  Session.point_notify _ _ _

theorem context_greeted (c : Context (Handler σ)) (world : World σ) :
    (p.greeted c world).context = c :=
  HookTurn.context_throughout _ _ _

def bound (action : Action (Handler σ)) (s : Session σ) : Session σ :=
  (s.withContext (s.context.bindAction action)).enter .resolved

theorem approach_eq (action : Action (Handler σ)) (s : Session σ) :
    p.approach action s =
      (p.negotiation.andThen <| p.preprocess.andThen <| rewinding.andThen <|
        reached .preprocessed) (bound action s) := rfl

theorem negotiation_bound (action : Action (Handler σ)) (s : Session σ) :
    match (s.context.bindAction action).choice p.registry false with
    | .error e =>
      (p.negotiation (bound action s)).2 = .error (.ofService e) ∧
        (p.negotiation (bound action s)).1.world = s.world
    | .ok settings =>
      (p.negotiation (bound action s)).2 = .ok () ∧
        (p.negotiation (bound action s)).1.point = threshold s.point action settings := by
  have hresult := p.result_negotiation (bound action s)
  have hcontext := p.context_negotiation (bound action s)
  have hworld := p.unmoved_negotiation Session.unmoved_world (bound action s)
  have hchoice : (bound action s).context.choice p.registry false =
      (s.context.bindAction action).choice p.registry false := rfl
  rw [hchoice] at hresult hcontext
  split
  next e heq =>
    rw [heq] at hresult
    exact ⟨hresult, hworld⟩
  next settings heq =>
    rw [heq] at hresult hcontext
    refine ⟨hresult, ?_⟩
    unfold Session.point
    rw [hcontext, hworld]
    rfl

theorem approach_of_unchosen {e : ServiceError}
    (h : (s.context.bindAction action).choice p.registry false = .error e) :
    (p.approach action s).1.world = s.world ∧ (p.approach action s).2.isOk = false := by
  have hnegotiation := p.negotiation_bound action s
  rw [h] at hnegotiation
  obtain ⟨hresult, hworld⟩ := hnegotiation
  rw [p.approach_eq, Step.andThen_of_error (Prod.ext rfl hresult)]
  exact ⟨hworld, rfl⟩

/-- With settings chosen, the preprocessors decide how far the run comes. -/
theorem approach_of_chosen {settings : Settings}
    (h : (s.context.bindAction action).choice p.registry false = .ok settings) :
    let passed := HookTurn.upToFailure (p.preprocessors.map .ofPreprocessor)
      (threshold s.point action settings)
    (p.approach action s).2.isOk = passed.1.all id ∧
      (p.approach action s).1.point = if passed.1.all id then rewound passed.2 else passed.2 := by
  intro passed
  have hnegotiation := p.negotiation_bound action s
  rw [h] at hnegotiation
  obtain ⟨hresult, hthreshold⟩ := hnegotiation
  obtain ⟨hpoint, hok⟩ : (p.preprocess (p.negotiation (bound action s)).1).1.point = _ ∧
      (p.preprocess (p.negotiation (bound action s)).1).2.isOk = _ :=
    inOrder_turns preprocessing_isTurn 0 p.preprocessors _
  rw [hthreshold] at hpoint hok
  rw [p.approach_eq, Step.andThen_of_ok (Prod.ext rfl hresult), ← hok]
  rcases hpre : p.preprocess (p.negotiation (bound action s)).1 with ⟨t, failure | _⟩ <;>
    rw [hpre] at hpoint
  · rw [Step.andThen_of_error hpre]
    exact ⟨rfl, hpoint⟩
  · rw [Step.andThen_of_ok hpre]
    refine ⟨rfl, ?_⟩
    show rewound t.point = _
    rw [hpoint]
    rfl

end Approach

section Departure

variable (route : Route (Handler σ)) (s : Session σ)

theorem invocation_cases :
    ((p.invocation route s).parts =
          some ((p.handlerRun route s.point).request, (p.handlerRun route s.point).response) ∧
        (p.invocation route s).result =
          Invocation.resultOf (p.handlerRun route s.point).ending ∧
        (p.invocation route s).began = true ∧
        (p.invocation route s).world =
          p.workers.ended s.world route.pattern.template (p.handlerRun route s.point)) ∨
      ((p.invocation route s).parts = none ∧ (p.invocation route s).succeeded = false) :=
  Invocation.run_cases ..

theorem succeeded_of_parts (h : (p.invocation route s).parts.isSome = true) :
    (p.invocation route s).succeeded = (p.handlerRun route s.point).ending.succeeds := by
  obtain ⟨-, hresult, -, -⟩ | ⟨hparts, -⟩ := p.invocation_cases route s
  · unfold Invocation.succeeded
    rw [hresult]
    cases (p.handlerRun route s.point).ending <;> rfl
  · rw [hparts] at h
    cases h

theorem isSome_back? : (p.back? route s.point).isSome = (p.invocation route s).succeeded := by
  unfold back?
  rw [show p.invocationAt route s.point = p.invocation route s from rfl]
  obtain ⟨hparts, -, -, -⟩ | ⟨hparts, hsucceeded⟩ := p.invocation_cases route s
  · rw [p.succeeded_of_parts route s (by rw [hparts]; rfl), hparts]
    cases (p.handlerRun route s.point).ending.succeeds <;> rfl
  · rw [hparts, hsucceeded]
    rfl

theorem point_handling {x : Point σ} (h : p.back? route s.point = some x) :
    ((p.handling route s).1.enter .invoked).point = x := by
  unfold back? at h
  split at h
  next hback =>
    obtain ⟨hparts, -⟩ := Bool.and_eq_true_iff.mp hback
    have hanswer : answered (p.handlerRun route s.point).response
        (Invocation.resultOf (p.handlerRun route s.point).ending) =
          (p.handlerRun route s.point).answer := by
      unfold HandlerRun.answer
      cases hending : (p.handlerRun route s.point).ending with
      | done body => cases body <;> rfl
      | failed | panicked => rfl
    obtain rfl := Option.some.inj h
    obtain ⟨hhandled, hresult, -, -⟩ | ⟨hnone, -⟩ := p.invocation_cases route s
    · have hcontext := p.context_handling route s
      rw [hresult, handled, hhandled, Option.getD_some] at hcontext
      rw [← hanswer]
      unfold Session.point
      rw [Session.context_enter, hcontext]
      rfl
    · rw [show p.invocationAt route s.point = p.invocation route s from rfl, hnone] at hparts
      cases hparts
  next => cases h

theorem isOk_handling :
    (p.handling route s).2.isOk = (p.invocation route s).succeeded := by
  rw [p.result_handling]
  unfold Invocation.succeeded
  cases (p.invocation route s).result <;> rfl

theorem departure_turns :
    (p.departure route s).2.isOk =
        ((p.back? route s.point).any fun x => (p.concluding x).1.all id) ∧
      (p.departure route s).1.world =
        ((p.back? route s.point).map fun x => (p.concluding x).2.world).getD
          (p.invocationAt route s.point).world := by
  have hhandled := p.isOk_handling route s
  rw [← p.isSome_back?] at hhandled
  unfold departure
  rcases heq : p.handling route s with ⟨t, failure | _⟩ <;> rw [heq] at hhandled
  · have hnone : p.back? route s.point = none :=
      Option.isNone_iff_eq_none.mp (Option.isSome_eq_false_iff.mp hhandled.symm)
    have hworld := p.world_handling route s
    rw [heq] at hworld
    rw [Step.andThen_of_error heq, hnone]
    exact ⟨rfl, hworld⟩
  · obtain ⟨x, hx⟩ := Option.isSome_iff_exists.mp hhandled.symm
    have hback := p.point_handling route s hx
    rw [heq] at hback
    obtain ⟨hpoint, hok⟩ : (p.postprocess (t.enter .invoked)).1.point = _ ∧
        (p.postprocess (t.enter .invoked)).2.isOk = _ :=
      inOrder_turns postprocessing_isTurn 0 p.postprocessors _
    rw [hback] at hpoint hok
    rw [Step.andThen_of_ok heq, hx]
    show ((p.postprocess.andThen (reached .postprocessed)) _).2.isOk = _ ∧
      ((p.postprocess.andThen (reached .postprocessed)) _).1.world = _
    rcases hpost : p.postprocess (t.enter .invoked) with ⟨u, failure | _⟩ <;>
      rw [hpost] at hpoint hok
    · rw [Step.andThen_of_error hpost]
      exact ⟨hok, congrArg Point.world hpoint⟩
    · rw [Step.andThen_of_ok hpost]
      exact ⟨hok, congrArg Point.world hpoint⟩

end Departure

section Process

variable {c : Context (Handler σ)} {world : World σ} {action : Action (Handler σ)}

theorem admitted?_of_unfound {e : ServiceError}
    (hfound : p.table.resolve c.request.method c.request.path = .error e) :
    p.admitted? c = none := by
  unfold admitted?
  rw [hfound]

section Found

variable (hfound : p.table.resolve c.request.method c.request.path = .ok action)
include hfound

theorem admitted?_of_unchosen {e : ServiceError}
    (hchoice : (c.bindAction action).choice p.registry false = .error e) :
    p.admitted? c = none := by
  unfold admitted?
  rw [hfound]
  dsimp only
  rw [hchoice]

theorem admitted?_of_chosen {settings : Settings}
    (hchoice : (c.bindAction action).choice p.registry false = .ok settings) :
    p.admitted? c = some (action, settings) := by
  unfold admitted?
  rw [hfound]
  dsimp only
  rw [hchoice]

end Found

theorem calls_of_unadmitted (h : p.admitted? c = none) (world : World σ) :
    p.preprocessed c world = ([], p.greeted c world) ∧ p.entrusted? c world = none := by
  unfold entrusted? preprocessed
  rw [h]
  exact ⟨rfl, rfl⟩

theorem entrusted?_of_admitted {settings : Settings} (h : p.admitted? c = some (action, settings))
    (world : World σ) :
    p.entrusted? c world =
      if (p.preprocessed c world).1.all id then
        some (action.route, rewound (p.preprocessed c world).2)
      else none := by
  unfold entrusted?
  rw [h]

theorem preprocessed_of_admitted {settings : Settings}
    (h : p.admitted? c = some (action, settings)) :
    p.preprocessed c world = HookTurn.upToFailure (p.preprocessors.map .ofPreprocessor)
      (threshold (p.greeted c world) action settings) := by
  unfold preprocessed
  rw [h]

theorem calls_of_unentrusted (h : p.entrusted? c world = none) :
    p.returned? c world = none ∧ p.postprocessed c world = [] ∧
      p.departed c world = (p.preprocessed c world).2.world := by
  have hnone : p.returned? c world = none := by
    unfold returned?
    rw [h]
    rfl
  unfold postprocessed departed
  rw [hnone, h]
  exact ⟨rfl, rfl, rfl⟩

theorem calls_of_entrusted {route : Route (Handler σ)} {x : Point σ}
    (h : p.entrusted? c world = some (route, x)) :
    p.returned? c world = p.back? route x ∧
      p.postprocessed c world =
        ((p.back? route x).map fun y => (p.concluding y).1).getD [] ∧
      p.departed c world =
        ((p.back? route x).map fun y => (p.concluding y).2.world).getD
          (p.invocationAt route x).world := by
  have hreturned : p.returned? c world = p.back? route x := by
    unfold returned?
    rw [h]
    rfl
  unfold postprocessed departed
  rw [hreturned, h]
  cases p.back? route x <;> exact ⟨rfl, rfl, rfl⟩

/-- A route's handler is called exactly if the run comes that far, and from where it is then. -/
theorem approach_turns (world : World σ)
    (hfound : p.table.resolve c.request.method c.request.path = .ok action) :
    match p.approach action (p.arrived { context := c, world }) with
    | (t, .ok ()) => p.entrusted? c world = some (action.route, t.point)
    | (t, .error _) =>
      p.entrusted? c world = none ∧ t.world = (p.preprocessed c world).2.world := by
  cases hchoice : (c.bindAction action).choice p.registry false with
  | error e =>
    obtain ⟨hpre, hnone⟩ := p.calls_of_unadmitted (p.admitted?_of_unchosen hfound hchoice) world
    obtain ⟨hworld, hok⟩ := p.approach_of_unchosen (s := p.arrived { context := c, world })
      (by rw [context_arrived]; exact hchoice)
    generalize p.approach action (p.arrived { context := c, world }) = result at hworld hok ⊢
    rcases result with ⟨t, _ | _⟩
    · refine ⟨hnone, hworld.trans ?_⟩
      rw [hpre]
      exact congrArg Point.world (p.point_arrived c world)
    · cases hok
  | ok settings =>
    have hadmitted := p.admitted?_of_chosen hfound hchoice
    have hentrusted := p.entrusted?_of_admitted hadmitted world
    obtain ⟨hok, hpoint⟩ := p.approach_of_chosen (s := p.arrived { context := c, world })
      (by rw [context_arrived]; exact hchoice)
    rw [point_arrived, ← p.preprocessed_of_admitted hadmitted] at hok hpoint
    generalize p.approach action (p.arrived { context := c, world }) = result at hok hpoint ⊢
    cases hall : (p.preprocessed c world).1.all id <;> rw [hall] at hentrusted hok hpoint <;>
      rcases result with ⟨t, _ | _⟩
    · exact ⟨hentrusted, congrArg Point.world hpoint⟩
    · cases hok
    · cases hok
    · rw [hentrusted]
      exact congrArg (fun x => some (action.route, x)) hpoint.symm

/-- How far the process comes, and the world it leaves. -/
theorem process_turns (c : Context (Handler σ)) (world : World σ) :
    (p.process (p.arrived { context := c, world })).2.isOk =
        ((p.returned? c world).any fun x => (p.concluding x).1.all id) ∧
      (p.process (p.arrived { context := c, world })).1.world = p.departed c world := by
  have hprocess := p.process_eq (p.arrived { context := c, world })
  rw [context_arrived] at hprocess
  cases hfound : p.table.resolve c.request.method c.request.path with
  | error e =>
    obtain ⟨hpre, hnone⟩ := p.calls_of_unadmitted (p.admitted?_of_unfound hfound) world
    obtain ⟨hreturned, -, hdeparted⟩ := p.calls_of_unentrusted hnone
    rw [hfound] at hprocess
    rw [hprocess, hreturned, hdeparted, hpre]
    exact ⟨rfl, congrArg Point.world (p.point_arrived c world)⟩
  | ok action =>
    have happroach := p.approach_turns world hfound
    rw [hfound] at hprocess
    rw [hprocess]
    dsimp only
    split at happroach
    next t heq =>
      obtain ⟨hreturned, -, hdeparted⟩ := p.calls_of_entrusted happroach
      rw [Step.andThen_of_ok heq, hreturned, hdeparted]
      exact p.departure_turns action.route t
    next t failure heq =>
      obtain ⟨hreturned, -, hdeparted⟩ := p.calls_of_unentrusted happroach.1
      rw [Step.andThen_of_error heq, hreturned, hdeparted]
      exact ⟨rfl, happroach.2⟩

end Process

theorem response_written (c : Context (Handler σ)) (world : World σ) :
    (p.written c world).context.response =
      (p.prepare { context := c, world }).context.response := by
  unfold written
  dsimp only

/-- The write, and behind it the news of success if there is any. -/
def announced (wire : Wire) (s : Session σ) : Session σ :=
  if s.context.hasFailure then (s.note (.wrote wire)).enter .written
  else ((s.note (.wrote wire)).enter .written).notify .success p.observers

def closed (wire : Wire) (s : Session σ) : Session σ :=
  let s := ((runFinally 0 p.finallyHooks s).notify .complete p.observers).enter .completed
  s.note (.sample (.request s.context.request.method.name wire.status.code s.context.routeLabel))

theorem finish_eq (wire : Wire) (s : Session σ) :
    p.finish wire s = p.closed wire (p.announced wire s) := rfl

theorem point_announced (wire : Wire) (s : Session σ) :
    (p.announced wire s).point =
      p.cheered { context := { s.context with stage := .written }, world := s.world } := by
  unfold announced cheered
  split
  next h => exact (if_pos h).symm
  next h => exact (Session.point_notify _ _ _).trans (if_neg h).symm

theorem closed_leaves (wire : Wire) (s : Session σ) :
    (p.closed wire s).context =
        { (HookTurn.throughout (p.finallyHooks.map .ofPostprocessor) s.point).2.context with
          stage := .completed } ∧
      (p.closed wire s).world =
        (HookTurn.throughout (p.watchers Observer.complete)
          (HookTurn.throughout (p.finallyHooks.map .ofPostprocessor) s.point).2).2.world := by
  rw [← point_runFinally 0]
  generalize hclosing : runFinally 0 p.finallyHooks s = t
  have htold := t.point_notify .complete p.observers
  unfold closed
  rw [hclosing]
  refine ⟨?_, congrArg Point.world htold⟩
  rw [Session.context_note, Session.context_enter, Session.context_notify]
  rfl

theorem wire_run (c : Context (Handler σ)) (world : World σ) :
    (p.run c world).1 =
      p.writer (p.written c world).context.request (p.written c world).context.response := by
  unfold run written
  dsimp only

theorem session_run (c : Context (Handler σ)) (world : World σ) :
    (p.run c world).2 = p.closed (p.run c world).1
      (p.announced (p.run c world).1 (p.prepare { context := c, world })) := by
  unfold run
  dsimp only
  exact p.finish_eq _ _

/-- The context and the world that a run leaves behind its last calls. -/
theorem run_leaves (c : Context (Handler σ)) (world : World σ) :
    (p.run c world).2.context =
        { (p.closing (p.written c world)).2.context with stage := .completed } ∧
      (p.run c world).2.world =
        (HookTurn.throughout (p.watchers Observer.complete)
          (p.closing (p.written c world)).2).2.world := by
  have hclosed := p.closed_leaves (p.run c world).1
    (p.announced (p.run c world).1 (p.prepare { context := c, world }))
  rw [p.point_announced, ← session_run] at hclosed
  exact hclosed

end Pipeline

end Switchboard
