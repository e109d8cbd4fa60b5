import Switchboard.Proofs.RunPoints
import Switchboard.Proofs.SessionDeeds

namespace Switchboard

namespace Pipeline

variable {σ : Type} (p : Pipeline σ)

/-- What a step does from a session on, and whether the run goes on after it. -/
def Step.Does (step : Step σ) (s : Session σ) (deeds : Journal) (goesOn : Bool) : Prop :=
  (step s).1.deeds = s.deeds ++ deeds ∧ (step s).2.isOk = goesOn

section Steps

variable {first second : Step σ} {s : Session σ} {deeds more : Journal} {goesOn : Bool}

theorem Step.Does.andThen (hf : first.Does s deeds true)
    (hs : second.Does (first s).1 more goesOn) :
    (first.andThen second).Does s (deeds ++ more) goesOn := by
  obtain ⟨hdeeds, hok⟩ := hf
  obtain ⟨hmore, hgoes⟩ := hs
  unfold Step.Does Step.andThen
  rcases hfirst : first s with ⟨t, _ | _⟩
  · rw [hfirst] at hok
    cases hok
  · rw [hfirst] at hdeeds hmore hgoes
    refine ⟨?_, hgoes⟩
    rw [← List.append_assoc, ← hdeeds]
    exact hmore

theorem Step.Does.andThen_of_stop (hf : first.Does s deeds false) :
    (first.andThen second).Does s deeds false := by
  obtain ⟨hdeeds, hok⟩ := hf
  unfold Step.Does Step.andThen
  rcases hfirst : first s with ⟨t, _ | _⟩
  · rw [hfirst] at hdeeds hok
    exact ⟨hdeeds, hok⟩
  · rw [hfirst] at hok
    cases hok

theorem Step.Does.andThen_quiet (hf : first.Does s deeds goesOn)
    (hs : ∀ t, second.Does t [] true) : (first.andThen second).Does s deeds goesOn := by
  cases goesOn with
  | true =>
    have hboth := hf.andThen (hs (first s).1)
    rwa [List.append_nil] at hboth
  | false => exact hf.andThen_of_stop

theorem reached_does (stage : Stage) (s : Session σ) : (reached stage).Does s [] true := by
  refine ⟨?_, rfl⟩
  rw [List.append_nil]
  exact s.deeds_enter stage

theorem rewinding_does (s : Session σ) : rewinding.Does s [] true :=
  ⟨(List.append_nil _).symm, rfl⟩

theorem negotiation_does (s : Session σ) :
    p.negotiation.Does s [] (s.context.choice p.registry false).isOk := by
  unfold Step.Does
  rw [result_negotiation, List.append_nil]
  exact ⟨p.unmoved_negotiation Session.unmoved_deeds s,
    by cases s.context.choice p.registry false <;> rfl⟩

theorem concluded_does (place : String) (ending : Ending Unit) (s : Session σ) :
    (concluded place ending).Does s [] ending.succeeds := by
  unfold Step.Does
  rw [List.append_nil]
  exact ⟨kept_concluded Entry.overlooks_isDeed s place ending, by cases ending <;> rfl⟩

theorem preprocessing_does (index : Nat) (hook : Preprocessor σ) (s : Session σ) :
    (preprocessing index hook).Does s
      [.called (.preprocessor index) (HookTurn.ofPreprocessor hook s.point).1]
      (HookTurn.ofPreprocessor hook s.point).1 := by
  have hcalled := s.deeds_afterCall (.preprocessor index) (hook s.context.request s.world.state)
  obtain ⟨hdeeds, hok⟩ := concluded_does "preprocessor"
    (hook s.context.request s.world.state).ending
    ((s.afterCall (.preprocessor index) (hook s.context.request s.world.state)).withRequest
      (hook s.context.request s.world.state).subject)
  rw [List.append_nil] at hdeeds
  exact ⟨hdeeds.trans hcalled, hok⟩

theorem postprocessing_does (index : Nat) (hook : Postprocessor σ) (s : Session σ) :
    (postprocessing index hook).Does s
      [.called (.postprocessor index) (HookTurn.ofPostprocessor hook s.point).1]
      (HookTurn.ofPostprocessor hook s.point).1 := by
  have hcalled := s.deeds_afterCall (.postprocessor index)
    (hook s.context.request s.context.response s.world.state)
  obtain ⟨hdeeds, hok⟩ := concluded_does "postprocessor"
    (hook s.context.request s.context.response s.world.state).ending
    ((s.afterCall (.postprocessor index)
      (hook s.context.request s.context.response s.world.state)).withResponse
        (hook s.context.request s.context.response s.world.state).subject)
  rw [List.append_nil] at hdeeds
  exact ⟨hdeeds.trans hcalled, hok⟩

/-- Hooks that are called one by one are called up to the first that fails. -/
theorem inOrder_does {H : Type} {step : Nat → H → Step σ} {turn : H → HookTurn σ}
    {call : Nat → Call}
    (hturn : ∀ index hook, (step index hook).IsTurn (turn hook))
    (h : ∀ index hook s,
      (step index hook).Does s [.called (call index) (turn hook s.point).1] (turn hook s.point).1)
    (index : Nat) (hooks : List H) (s : Session σ) :
    (inOrder step index hooks).Does s
      (numbered call index (HookTurn.upToFailure (hooks.map turn) s.point).1)
      ((HookTurn.upToFailure (hooks.map turn) s.point).1.all id) := by
  induction hooks generalizing index s with
  | nil => exact ⟨(List.append_nil _).symm, rfl⟩
  | cons hook rest ih =>
    have hhook := h index hook s
    rw [List.map_cons]
    cases hok : (turn hook s.point).1 with
    | false =>
      rw [hok] at hhook
      rw [HookTurn.upToFailure_of_failed hok]
      exact hhook.andThen_of_stop
    | true =>
      have hrest := ih (index + 1) (step index hook s).1
      rw [(hturn index hook s).1] at hrest
      rw [hok] at hhook
      rw [HookTurn.upToFailure_of_succeeded hok]
      exact hhook.andThen hrest

/-- The call of a handler. There is none if its caller gave up before a slot was free. -/
def handlerCall (route : Route (Handler σ)) (x : Point σ) : Journal :=
  if (p.invocationAt route x).began then
    [.called (.handler x.context.request.remaining) (p.invocationAt route x).succeeded]
  else []

theorem handling_does (route : Route (Handler σ)) (s : Session σ) :
    (p.handling route).Does s (p.handlerCall route s.point)
      (p.invocation route s).succeeded := by
  unfold Step.Does
  constructor
  · unfold handling handlerCall
    rw [show p.invocationAt route s.point = p.invocation route s from rfl]
    dsimp only
    split
    · have hcalled := s.deeds_note
        (.called (.handler s.context.request.remaining) (p.invocation route s).succeeded)
      rw [← Session.deeds_noteEvents _ (p.invocation route s).events] at hcalled
      exact hcalled
    · exact (s.deeds_noteEvents _).trans (List.append_nil _).symm
  · exact p.isOk_handling route s

end Steps

section Process

variable {c : Context (Handler σ)} {world : World σ} {action : Action (Handler σ)}

theorem approach_does (world : World σ)
    (hfound : p.table.resolve c.request.method c.request.path = .ok action) :
    (p.approach action).Does (p.arrived { context := c, world })
      (numbered .preprocessor 0 (p.preprocessed c world).1) (p.entrusted? c world).isSome := by
  have hbound : (bound action (p.arrived { context := c, world })).deeds =
      (p.arrived { context := c, world }).deeds :=
    Session.deeds_enter _ _
  have hchosen := p.negotiation_does (bound action (p.arrived { context := c, world }))
  have hnegotiation := p.negotiation_bound action (p.arrived { context := c, world })
  rw [show (bound action (p.arrived { context := c, world })).context.choice p.registry false =
      ((p.arrived { context := c, world }).context.bindAction action).choice p.registry false
    from rfl] at hchosen
  rw [context_arrived] at hchosen hnegotiation
  unfold Step.Does
  rw [p.approach_eq, ← hbound]
  cases hsettings : (c.bindAction action).choice p.registry false with
  | error e =>
    obtain ⟨hpre, hnone⟩ :=
      p.calls_of_unadmitted (p.admitted?_of_unchosen hfound hsettings) world
    rw [hsettings] at hchosen
    rw [hpre, hnone]
    exact hchosen.andThen_of_stop
  | ok settings =>
    have hadmitted := p.admitted?_of_chosen hfound hsettings
    have hentrusted : (p.entrusted? c world).isSome = (p.preprocessed c world).1.all id := by
      rw [p.entrusted?_of_admitted hadmitted]
      cases (p.preprocessed c world).1.all id <;> rfl
    have hpre : p.preprocess.Does _ _ _ := inOrder_does preprocessing_isTurn preprocessing_does 0
      p.preprocessors (p.negotiation (bound action (p.arrived { context := c, world }))).1
    rw [hsettings] at hchosen hnegotiation
    rw [hnegotiation.2, point_arrived, ← p.preprocessed_of_admitted hadmitted] at hpre
    rw [hentrusted]
    refine hchosen.andThen (hpre.andThen_quiet fun t => ?_)
    exact (rewinding_does t).andThen_quiet (reached_does .preprocessed)

theorem departure_does (route : Route (Handler σ)) (s : Session σ) :
    (p.departure route).Does s
      (p.handlerCall route s.point ++ numbered .postprocessor 0
        (((p.back? route s.point).map fun x => (p.concluding x).1).getD []))
      ((p.back? route s.point).any fun x => (p.concluding x).1.all id) := by
  have hhandled := p.handling_does route s
  rw [← p.isSome_back?] at hhandled
  cases hback : p.back? route s.point with
  | none =>
    rw [hback] at hhandled
    show (p.departure route).Does s (_ ++ []) false
    rw [List.append_nil]
    exact hhandled.andThen_of_stop
  | some x =>
    have hpost : p.postprocess.Does _ _ _ := inOrder_does postprocessing_isTurn postprocessing_does
      0 p.postprocessors ((p.handling route s).1.enter .invoked)
    rw [p.point_handling route s hback] at hpost
    rw [hback] at hhandled
    refine hhandled.andThen ((reached_does .invoked _).andThen ?_)
    exact hpost.andThen_quiet (reached_does .postprocessed)

/-- The call of the handler in a run that comes so far. -/
def handlerCalls (c : Context (Handler σ)) (world : World σ) : Journal :=
  ((p.entrusted? c world).map fun call => p.handlerCall call.1 call.2).getD []

theorem mem_handlerCalls {c : Context (Handler σ)} {world : World σ} {e : Entry}
    (h : e ∈ p.handlerCalls c world) :
    ∃ remaining ok, e = .called (.handler remaining) ok := by
  unfold handlerCalls at h
  cases hentrusted : p.entrusted? c world with
  | none =>
    rw [hentrusted] at h
    cases h
  | some call =>
    rw [hentrusted] at h
    dsimp only [Option.map_some, Option.getD_some] at h
    unfold handlerCall at h
    split at h
    · exact ⟨_, _, List.mem_singleton.mp h⟩
    · cases h

/-- The calls of a run until its response is rendered. -/
theorem process_does (c : Context (Handler σ)) (world : World σ) :
    p.process.Does (p.arrived { context := c, world })
      (numbered .preprocessor 0 (p.preprocessed c world).1 ++
        (p.handlerCalls c world ++ numbered .postprocessor 0 (p.postprocessed c world)))
      ((p.returned? c world).any fun x => (p.concluding x).1.all id) := by
  have hprocess := p.process_eq (p.arrived { context := c, world })
  rw [context_arrived] at hprocess
  unfold Step.Does handlerCalls
  rw [hprocess]
  cases hfound : p.table.resolve c.request.method c.request.path with
  | error e =>
    obtain ⟨hpre, hnone⟩ := p.calls_of_unadmitted (p.admitted?_of_unfound hfound) world
    obtain ⟨hreturned, hpost, -⟩ := p.calls_of_unentrusted hnone
    rw [hpre, hnone, hreturned, hpost]
    exact ⟨(List.append_nil _).symm, rfl⟩
  | ok action =>
    have happroach := p.approach_does world hfound
    have hturns := p.approach_turns world hfound
    dsimp only
    split at hturns
    next t heq =>
      have hdeparture := p.departure_does action.route t
      obtain ⟨hreturned, hpost, -⟩ := p.calls_of_entrusted hturns
      rw [hturns] at happroach ⊢
      rw [hreturned, hpost]
      apply happroach.andThen
      rw [heq]
      exact hdeparture
    next t failure heq =>
      obtain ⟨hreturned, hpost, -⟩ := p.calls_of_unentrusted hturns.1
      rw [hturns.1] at happroach ⊢
      rw [hreturned, hpost]
      show _ = _ ++ (_ ++ []) ∧ _
      rw [List.append_nil]
      exact happroach.andThen_of_stop

end Process

theorem deeds_runFinally (index : Nat) (hooks : List (Postprocessor σ)) (s : Session σ) :
    (runFinally index hooks s).deeds = s.deeds ++
      numbered .finallyHook index (HookTurn.throughout (hooks.map .ofPostprocessor) s.point).1 := by
  have hfinally := kept_runFinally Entry.overlooks_isDeed s index hooks
  rw [filter_numbered fun _ _ => rfl] at hfinally
  exact hfinally

theorem deeds_closed (wire : Wire) (s : Session σ) :
    (p.closed wire s).deeds = s.deeds ++ numbered .finallyHook 0
      (HookTurn.throughout (p.finallyHooks.map .ofPostprocessor) s.point).1 := by
  unfold closed
  dsimp only
  rw [Session.deeds_note_sample, Session.deeds_enter, Session.deeds_notify, deeds_runFinally]

theorem deeds_announced (wire : Wire) (s : Session σ) :
    (p.announced wire s).deeds = s.deeds ++ [.wrote wire] := by
  have hwrote := s.deeds_note (.wrote wire)
  unfold announced
  split
  · exact (Session.deeds_enter _ _).trans hwrote
  · exact (Session.deeds_notify _ _ _).trans ((Session.deeds_enter _ _).trans hwrote)

theorem deeds_processed {s : Session σ} {deeds : Journal} {goesOn : Bool}
    (h : p.process.Does s deeds goesOn) : (p.processed s).deeds = s.deeds ++ deeds := by
  obtain ⟨hdeeds, -⟩ := h
  obtain heq | ⟨failure, heq⟩ := p.processed_cases s
  · rw [heq]
    exact hdeeds
  · rw [heq, deeds_fail]
    exact hdeeds

/-- The calls of a run, behind those until its response is ready the write and the finally hooks. -/
theorem deeds_of_run {c : Context (Handler σ)} {world : World σ} {deeds : Journal} {goesOn : Bool}
    (h : p.process.Does (p.arrived { context := c, world }) deeds goesOn) :
    (p.run c world).2.deeds =
      deeds ++ .wrote (p.run c world).1 ::
        numbered .finallyHook 0 (p.closing (p.written c world)).1 := by
  have hprepared : (p.prepare { context := c, world }).deeds = deeds := by
    unfold prepare
    rw [deeds_serialize, p.deeds_processed h, deeds_arrived]
    rfl
  have hclosed := p.deeds_closed (p.run c world).1
    (p.announced (p.run c world).1 (p.prepare { context := c, world }))
  rw [← session_run, deeds_announced, hprepared, point_announced, List.append_assoc] at hclosed
  exact hclosed

/-- The route whose handler is called, and the request in progress as it is then. -/
def ready? (c : Context (Handler σ)) (world : World σ) :
    Option (Route (Handler σ) × Session σ) :=
  match p.table.resolve c.request.method c.request.path with
  | .error _ => none
  | .ok action =>
    match p.approach action (p.arrived { context := c, world }) with
    | (s, .ok ()) => some (action.route, s)
    | (_, .error _) => none

theorem ready?_eq_some_iff {c : Context (Handler σ)} {world : World σ}
    {route : Route (Handler σ)} {s : Session σ} :
    p.ready? c world = some (route, s) ↔
      ∃ action, p.table.resolve c.request.method c.request.path = .ok action ∧
        p.approach action (p.arrived { context := c, world }) = (s, .ok ()) ∧
        action.route = route := by
  unfold ready?
  constructor
  · intro h
    split at h
    next => cases h
    next action hfound =>
      split at h
      next t happroach =>
        obtain ⟨rfl, rfl⟩ := Prod.mk.inj (Option.some.inj h)
        exact ⟨action, hfound, happroach, rfl⟩
      next => cases h
  · rintro ⟨action, hfound, happroach, rfl⟩
    rw [hfound]
    dsimp only
    rw [happroach]

/-- Where a handler is called, told by the hooks before it or by the run in progress. -/
theorem entrusted?_eq_ready? (c : Context (Handler σ)) (world : World σ) :
    p.entrusted? c world = (p.ready? c world).map fun call => (call.1, call.2.point) := by
  unfold ready?
  cases hfound : p.table.resolve c.request.method c.request.path with
  | error e => exact (p.calls_of_unadmitted (p.admitted?_of_unfound hfound) world).2
  | ok action =>
    have hturns := p.approach_turns world hfound
    dsimp only
    generalize p.approach action (p.arrived { context := c, world }) = result at hturns ⊢
    rcases result with ⟨s, _ | _⟩
    · exact hturns.1
    · exact hturns

/-- Nobody gives up waiting for the handler. -/
def Timely (c : Context (Handler σ)) (world : World σ) : Prop :=
  ∀ route s, p.ready? c world = some (route, s) → (p.invocation route s).parts.isSome = true

end Pipeline

/-- What a run does: how the calls of hooks ended, what the handler found of the body and how it
ended, and what was written. -/
structure Course where
  preprocessors : List Bool
  handler : Option (Bytes × Bool)
  postprocessors : List Bool
  wire : Wire
  finallyHooks : List Bool

namespace Course

def handlerEntries : Option (Bytes × Bool) → Journal
  | some (remaining, succeeded) => [.called (.handler remaining) succeeded]
  | none => []

def entries (course : Course) : Journal :=
  numbered .preprocessor 0 course.preprocessors ++
    (handlerEntries course.handler ++ numbered .postprocessor 0 course.postprocessors) ++
    .wrote course.wire :: numbered .finallyHook 0 course.finallyHooks

end Course

namespace Pipeline

variable {σ : Type} (p : Pipeline σ)

/-- The course of a run, told by what the hooks and the handler themselves come to when they are
called where those before them lead. -/
def course (c : Context (Handler σ)) (world : World σ) : Course where
  preprocessors := (p.preprocessed c world).1
  handler := (p.entrusted? c world).map fun call =>
    (call.2.context.request.remaining, (p.handlerRun call.1 call.2).ending.succeeds)
  postprocessors := p.postprocessed c world
  wire := p.writer (p.written c world).context.request (p.written c world).context.response
  finallyHooks := (p.closing (p.written c world)).1

/-- Preprocessors that leave the body as it is, whatever they read of it. -/
def KeepsBody : Prop :=
  ∀ hook ∈ p.preprocessors, ∀ request state, (hook request state).subject.body = request.body

variable {c : Context (Handler σ)} {world : World σ}

theorem handlerCalls_of_timely (htimely : p.Timely c world) :
    p.handlerCalls c world = Course.handlerEntries (p.course c world).handler := by
  have hready := p.entrusted?_eq_ready? c world
  unfold handlerCalls course
  dsimp only
  cases hsome : p.ready? c world with
  | none =>
    rw [hsome] at hready
    rw [hready]
    rfl
  | some call =>
    obtain ⟨route, s⟩ := call
    rw [hsome] at hready
    have hparts := htimely route s hsome
    have hsucceeded := p.succeeded_of_parts route s hparts
    obtain ⟨-, -, hbegan, -⟩ | ⟨hnone, -⟩ := p.invocation_cases route s
    · rw [hready]
      dsimp only [Option.map_some, Option.getD_some]
      unfold handlerCall
      rw [show p.invocationAt route s.point = p.invocation route s from rfl, if_pos hbegan,
        hsucceeded]
      rfl
    · rw [hnone] at hparts
      cases hparts

/-- The handler finds the whole body, and that of the request if the preprocessors keep it. -/
theorem body_of_entrusted {route : Route (Handler σ)} {x : Point σ}
    (h : p.entrusted? c world = some (route, x)) :
    x.context.request.remaining = x.context.request.body ∧
      (p.KeepsBody → x.context.request.body = c.request.body) := by
  cases hadmitted : p.admitted? c with
  | none =>
    rw [(p.calls_of_unadmitted hadmitted world).2] at h
    cases h
  | some found =>
    obtain ⟨action, settings⟩ := found
    rw [p.entrusted?_of_admitted hadmitted] at h
    split at h
    next =>
      obtain ⟨-, rfl⟩ := Prod.mk.inj (Option.some.inj h)
      refine ⟨Request.remaining_rewind _, fun hkeeps => ?_⟩
      show (p.preprocessed c world).2.context.request.body = _
      rw [p.preprocessed_of_admitted hadmitted,
        HookTurn.upToFailure_keeps (fun x => x.context.request.body)]
      · show (p.greeted c world).context.request.body = _
        rw [context_greeted]
      · intro turn hturn y
        obtain ⟨hook, hhook, rfl⟩ := List.mem_map.mp hturn
        exact hkeeps hook hhook _ _
    next => cases h

theorem world_of_timely (htimely : p.Timely c world) {route : Route (Handler σ)} {x : Point σ}
    (h : p.entrusted? c world = some (route, x)) :
    (p.invocationAt route x).world =
      p.workers.ended x.world route.pattern.template (p.handlerRun route x) := by
  rw [p.entrusted?_eq_ready?, Option.map_eq_some_iff] at h
  obtain ⟨⟨other, s⟩, hready, heq⟩ := h
  obtain ⟨rfl, rfl⟩ := Prod.mk.inj heq
  have hparts := htimely other s hready
  obtain ⟨-, -, -, hworld⟩ | ⟨hnone, -⟩ := p.invocation_cases other s
  · exact hworld
  · rw [hnone] at hparts
    cases hparts

/-- Hooks, handler, write and finally hooks are called in the order of the stages, each as far as
those before it let the run come and each ending as it does itself, and the run leaves what these
calls leave. -/
theorem deeds_run (htimely : p.Timely c world) :
    (p.run c world).2.deeds = (p.course c world).entries ∧
      (p.run c world).1 = (p.course c world).wire ∧
      (∀ route x, p.entrusted? c world = some (route, x) →
        x.context.request.remaining = x.context.request.body ∧
          (p.KeepsBody → x.context.request.body = c.request.body) ∧
          (p.invocationAt route x).world =
            p.workers.ended x.world route.pattern.template (p.handlerRun route x)) ∧
      (p.process (p.arrived { context := c, world })).1.world = p.departed c world ∧
      (p.run c world).2.context =
        { (p.closing (p.written c world)).2.context with stage := .completed } ∧
      (p.run c world).2.world =
        (HookTurn.throughout (p.watchers Observer.complete)
          (p.closing (p.written c world)).2).2.world := by
  obtain ⟨hcontext, hworld⟩ := p.run_leaves c world
  have hdeeds := p.deeds_of_run (p.process_does c world)
  rw [p.handlerCalls_of_timely htimely, p.wire_run] at hdeeds
  refine ⟨hdeeds, p.wire_run c world, fun route x h => ?_, (p.process_turns c world).2, hcontext,
    hworld⟩
  obtain ⟨hwhole, hkept⟩ := p.body_of_entrusted h
  exact ⟨hwhole, hkept, p.world_of_timely htimely h⟩

theorem timely_of_slots (h : p.workers.slots = 0) (c : Context (Handler σ)) (world : World σ) :
    p.Timely c world := by
  intro route s _
  unfold invocation Invocation.run
  rw [if_pos h]
  rfl

/-- A pipeline whose preprocessor reads a part of the body, and whose postprocessor panics. -/
def nibbling : Pipeline Unit where
  table.routes := [.bare .post (.returning .empty)]
  preprocessors := [fun request state => ⟨(request.read 2).2, state, .done (), [], 0⟩]
  postprocessors :=
    [fun _ response state => ⟨response, state, .panicked none, [], 0⟩,
     fun _ response state => ⟨response, state, .done (), [], 0⟩]
  finallyHooks :=
    [fun _ response state => ⟨response, state, .panicked none, [], 0⟩,
     fun _ response state => ⟨response, state, .done (), [], 0⟩]
  workers := .onTheSpot

def nibbled : Context (Handler Unit) :=
  { request := { Request.ofTarget .post ⟨"/", none⟩ with body := [1, 2, 3, 4] } }

theorem deeds_nibbling :
    let run := nibbling.run nibbled ⟨(), 0, none, []⟩
    let course := nibbling.course nibbled ⟨(), 0, none, []⟩
    nibbling.Timely nibbled ⟨(), 0, none, []⟩ ∧ run.2.deeds = course.entries ∧
      course.preprocessors = [true] ∧ course.handler = some ([1, 2, 3, 4], true) ∧
      course.postprocessors = [false] ∧ course.finallyHooks = [false, true] := by
  have htimely := nibbling.timely_of_slots rfl nibbled ⟨(), 0, none, []⟩
  exact ⟨htimely, (nibbling.deeds_run htimely).1, rfl, rfl, rfl, rfl⟩

example : (nibbling.run nibbled ⟨(), 0, none, []⟩).2.journal.calls =
    [(.preprocessor 0, true), (.handler [1, 2, 3, 4], true), (.postprocessor 0, false),
     (.finallyHook 0, false), (.finallyHook 1, true)] := by
  rfl

end Pipeline

end Switchboard
