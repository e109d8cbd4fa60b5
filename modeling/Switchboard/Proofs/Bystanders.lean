import Switchboard.Proofs.DelayedWorlds
import Switchboard.Proofs.PinnedSettings

namespace Switchboard

variable {σ τ : Type}

/-- Hooks and handlers that see no more of the application's state than the view shows. -/
structure Pipeline.Confined (p : Pipeline σ) (view : σ → τ) : Prop where
  preprocessors : ∀ hook ∈ p.preprocessors, ∀ request s t, view s = view t →
    (hook request s).Looks view (hook request t)
  handlers : ∀ route ∈ p.table.routes, ∀ request response s t, view s = view t →
    (route.handler request response s).Looks view (route.handler request response t)
  postprocessors : ∀ hook ∈ p.postprocessors, ∀ request response s t, view s = view t →
    (hook request response s).Looks view (hook request response t)

theorem Pipeline.confined_id (p : Pipeline σ) : p.Confined id where
  preprocessors := by
    rintro hook - request s t rfl
    exact ⟨rfl, rfl, rfl, rfl⟩
  handlers := by
    rintro route - request response s t rfl
    have hmoments : List.Forall₂ (Moment.Looks id) (route.handler request response s).moments
        (route.handler request response s).moments :=
      List.forall₂_same.mpr fun m _ => ⟨rfl, fun _ _ h => congrArg m.change h⟩
    exact ⟨rfl, rfl, rfl, rfl, hmoments⟩
  postprocessors := by
    rintro hook - request response s t rfl
    exact ⟨rfl, rfl, rfl, rfl⟩

/-- An observer whose notice of an arrival does not show. What else it does may be anything. -/
def Observer.Discreet (view : σ → τ) (o : Observer σ) : Prop :=
  ∀ c state, view (o.received c state).state = view state

def Observer.Prompt (o : Observer σ) : Prop := ∀ c state, (o.received c state).duration = 0

/-- A world in which arrivals are noticed in nobody's way: as long as something of earlier requests
is still to happen, that lies ahead, and noticing an arrival takes no time. -/
def World.Open (w : World σ) (view : σ → τ) (observers : List (Observer σ)) : Prop :=
  ∀ d ∈ w.due, LookAlike view d.change d.change ∧ w.clock < d.time ∧ ∀ o ∈ observers, o.Prompt

variable {view : σ → τ} {delay : Nat}

theorem World.Open.of_subset {w : World σ} {observers others : List (Observer σ)}
    (h : w.Open view others) (hsub : observers ⊆ others) : w.Open view observers := by
  intro d hd
  obtain ⟨hchange, hahead, hprompt⟩ := h d hd
  exact ⟨hchange, hahead, fun o ho => hprompt o (hsub ho)⟩

/-- One request in progress, the second time some time later. -/
structure Session.Delayed (view : σ → τ) (delay : Nat) (s t : Session σ) : Prop where
  context : s.context = t.context
  world : s.world.Delayed view delay t.world

namespace Pipeline

/-- A step that comes to the same some time later. -/
def Step.Steady (view : σ → τ) (step : Step σ) : Prop :=
  ∀ delay s t, s.Delayed view delay t →
    (step s).1.Delayed view delay (step t).1 ∧ (step s).2 = (step t).2

theorem Step.steady_chained (view : σ → τ) : Step.Chained (Step.Steady view) where
  skip := fun _ _ _ h => ⟨h, rfl⟩
  andThen := by
    intro first second hf hs delay s t h
    obtain ⟨hfirst, hresult⟩ := hf delay s t h
    unfold Step.andThen
    generalize first s = x, first t = y at hfirst hresult ⊢
    obtain ⟨s', a⟩ := x
    obtain ⟨t', b⟩ := y
    obtain rfl : a = b := hresult
    cases a with
    | ok _ => exact hs delay s' t' hfirst
    | error failure => exact ⟨hfirst, rfl⟩

theorem reached_steady (stage : Stage) : (reached stage : Step σ).Steady view := by
  intro delay s t h
  have hcontext : (s.enter stage).context = (t.enter stage).context := by
    rw [Session.context_enter, Session.context_enter, h.context]
  exact ⟨⟨hcontext, h.world⟩, rfl⟩

theorem rewinding_steady : (rewinding : Step σ).Steady view := by
  intro delay s t h
  have hcontext : (s.withRequest s.context.request.rewind).context =
      (t.withRequest t.context.request.rewind).context := by
    rw [Session.context_withRequest, Session.context_withRequest, h.context]
  exact ⟨⟨hcontext, h.world⟩, rfl⟩

theorem binding_steady (action : Action (Handler σ)) : (binding action).Steady view := by
  intro delay s t h
  have hcontext : s.context.bindAction action = t.context.bindAction action := by
    rw [h.context]
  exact ⟨⟨hcontext, h.world⟩, rfl⟩

theorem world_negotiation (p : Pipeline σ) (s : Session σ) :
    (p.negotiation s).1.world = s.world := by
  have hworld := s.world_negotiate p.registry false
  unfold negotiation
  split
  next heq =>
    rw [heq] at hworld
    exact hworld
  next heq =>
    rw [heq] at hworld
    exact hworld

theorem negotiation_steady (p : Pipeline σ) : p.negotiation.Steady view := by
  intro delay s t h
  refine ⟨⟨?_, ?_⟩, ?_⟩
  · rw [context_negotiation, context_negotiation, h.context]
  · rw [world_negotiation, world_negotiation]
    exact h.world
  · rw [result_negotiation, result_negotiation, h.context]

theorem concluded_delayed (place : String) (ending : Ending Unit) {s t : Session σ}
    (h : s.Delayed view delay t) :
    (concluded place ending s).1.Delayed view delay (concluded place ending t).1 ∧
      (concluded place ending s).2 = (concluded place ending t).2 := by
  unfold concluded
  split
  · exact ⟨h, rfl⟩
  · exact ⟨⟨h.context, h.world⟩, rfl⟩

theorem world_afterCall_delayed {α : Type} {o o' : Outcome σ α} (ho : o.Looks view o')
    {s t : Session σ} (h : s.Delayed view delay t) (call call' : Call) :
    (s.afterCall call o).world.Delayed view delay (t.afterCall call' o').world := by
  have hcalled : { s.world with state := o.state }.Delayed view delay
      { t.world with state := o'.state } := { h.world with state := ho.state }
  rw [Session.world_afterCall, Session.world_afterCall, ho.duration]
  exact hcalled.spend o'.duration

theorem preprocessing_steady {hook : Preprocessor σ}
    (hlooks : ∀ request s t, view s = view t →
      (hook request s).Looks view (hook request t)) (index : Nat) :
    (preprocessing index hook).Steady view := by
  intro delay s t h
  have ho := hlooks s.context.request _ _ h.world.state
  unfold preprocessing
  dsimp only
  rw [← h.context, ← ho.ending]
  refine concluded_delayed _ _ ⟨?_, world_afterCall_delayed ho h _ _⟩
  rw [Session.context_withRequest, Session.context_withRequest, Session.context_afterCall,
    Session.context_afterCall, ho.subject, h.context]

theorem postprocessing_steady {hook : Postprocessor σ}
    (hlooks : ∀ request response s t, view s = view t →
      (hook request response s).Looks view (hook request response t)) (index : Nat) :
    (postprocessing index hook).Steady view := by
  intro delay s t h
  have ho := hlooks s.context.request s.context.response _ _ h.world.state
  unfold postprocessing
  dsimp only
  rw [← h.context, ← ho.ending]
  refine concluded_delayed _ _ ⟨?_, world_afterCall_delayed ho h _ _⟩
  rw [Session.context_withResponse, Session.context_withResponse, Session.context_afterCall,
    Session.context_afterCall, ho.subject, h.context]

section Confined

variable {p : Pipeline σ} (h : p.Confined view)
include h

theorem handling_steady {route : Route (Handler σ)} (hroute : route ∈ p.table.routes) :
    (p.handling route).Steady view := by
  intro delay s t hst
  have hinvocation : (p.invocation route s).Delayed view delay (p.invocation route t) := by
    unfold invocation
    rw [← hst.context]
    exact run_delayed hst.world (h.handlers route hroute _ _) _ _
  have hhandled : p.handled route s = p.handled route t := by
    unfold handled
    rw [hinvocation.parts, hst.context]
  refine ⟨⟨?_, hinvocation.world⟩, ?_⟩
  · rw [context_handling, context_handling, hhandled, hinvocation.result, hst.context]
  · rw [result_handling, result_handling, hinvocation.result]

theorem process_steady : p.process.Steady view := by
  intro delay s t hst
  rw [p.process_eq, p.process_eq, ← hst.context]
  cases hfound : p.table.resolve s.context.request.method s.context.request.path with
  | error e => exact ⟨hst, rfl⟩
  | ok action =>
    have hsteps : p.EachStep (Step.Steady view) :=
      { binding := binding_steady
        reached := reached_steady
        negotiation := p.negotiation_steady
        preprocess := (Step.steady_chained view).inOrder 0 fun index hook hhook =>
          preprocessing_steady (h.preprocessors hook hhook) index
        rewinding := rewinding_steady
        handling := fun _ => handling_steady h
        postprocess := (Step.steady_chained view).inOrder 0 fun index hook hhook =>
          postprocessing_steady (h.postprocessors hook hhook) index }
    exact hsteps.course (Step.steady_chained view) (Table.mem_of_resolve hfound) delay s t hst

theorem context_processed_of_delayed {s t : Session σ} (hst : s.Delayed view delay t) :
    (p.processed t).context = (p.processed s).context := by
  obtain ⟨hprocess, hresult⟩ := process_steady h delay s t hst
  unfold processed
  generalize p.process s = x, p.process t = y at hprocess hresult ⊢
  obtain ⟨s', a⟩ := x
  obtain ⟨t', b⟩ := y
  obtain rfl : a = b := hresult
  cases a with
  | ok _ => exact hprocess.context.symm
  | error failure =>
    rw [context_fail, context_fail, hprocess.context]

end Confined

/-- Discreet observers that notice an arrival leave nothing behind but the time it took. -/
theorem world_notifyFrom_received {observers : List (Observer σ)} (index : Nat) {s : Session σ}
    (hdiscreet : ∀ o ∈ observers, o.Discreet view)
    (hahead : ∀ d ∈ s.world.due, s.world.clock < d.time ∧ ∀ o ∈ observers, o.Prompt) :
    ∃ state delay, view state = view s.world.state ∧ (∀ d ∈ s.world.due, delay = 0) ∧
      (Session.notifyFrom .received index observers s).world =
        { s.world with state, clock := s.world.clock + delay } := by
  induction observers generalizing index s with
  | nil => exact ⟨s.world.state, 0, rfl, fun _ _ => rfl, rfl⟩
  | cons o rest ih =>
    -- As long as something is due no time passes, so what is ahead stays ahead for the others.
    have hprompt : ∀ d ∈ s.world.due, (o.received s.context s.world.state).duration = 0 :=
      fun d hd => (hahead d hd).2 o (List.mem_cons_self ..) _ _
    have hworld : (s.notifyOne .received index o).world =
        { s.world with
          state := (o.received s.context s.world.state).state
          clock := s.world.clock + (o.received s.context s.world.state).duration } := by
      rw [Session.world_notifyOne]
      apply World.spend_of_ahead
      intro d hd
      dsimp only [Observer.call]
      rw [hprompt d hd]
      exact (hahead d hd).1
    have hrest : ∀ d ∈ (s.notifyOne .received index o).world.due,
        (s.notifyOne .received index o).world.clock < d.time ∧ ∀ o ∈ rest, o.Prompt := by
      rw [hworld]
      intro d hd
      obtain ⟨hlt, hothers⟩ := hahead d hd
      dsimp only
      rw [hprompt d hd]
      exact ⟨hlt, fun other ho => hothers other (List.mem_cons_of_mem _ ho)⟩
    obtain ⟨state, delay, hstate, hdelay, hend⟩ := ih (index + 1)
      (fun other ho => hdiscreet other (List.mem_cons_of_mem _ ho)) hrest
    rw [hworld] at hstate hdelay hend
    refine ⟨state, (o.received s.context s.world.state).duration + delay, ?_, ?_, ?_⟩
    · exact hstate.trans (hdiscreet o (List.mem_cons_self ..) _ _)
    · intro d hd
      rw [hprompt d hd, hdelay d hd]
    · exact hend.trans (by rw [Nat.add_assoc])

theorem arrived_delayed (p : Pipeline σ) {s : Session σ}
    (hdiscreet : ∀ o ∈ p.observers, o.Discreet view) (hopen : s.world.Open view p.observers) :
    ∃ delay, s.Delayed view delay (p.arrived s) := by
  obtain ⟨state, delay, hstate, hdelay, hworld⟩ := world_notifyFrom_received 0
    (s := s.note (.event (.dispatching s.context.request.method.name s.context.request.path)))
    hdiscreet fun d hd => (hopen d hd).2
  refine ⟨delay, (p.context_arrived s).symm, ?_⟩
  unfold arrived Session.notify
  rw [hworld]
  refine ⟨hstate.symm, rfl, rfl, List.forall₂_same.mpr fun d hd => ?_⟩
  have htime : d.time = d.time + delay := by
    rw [hdelay d hd]
    rfl
  exact ⟨htime, (hopen d hd).1, rfl⟩

/-- The request in progress when a run is about to render its response is the one it would be without
any observers. -/
theorem context_processed_arrived {p : Pipeline σ} (h : p.Confined view) {s : Session σ}
    (hdiscreet : ∀ o ∈ p.observers, o.Discreet view) (hopen : s.world.Open view p.observers) :
    (p.processed (p.arrived s)).context = (p.processed s).context := by
  obtain ⟨delay, hdelayed⟩ := p.arrived_delayed hdiscreet hopen
  exact context_processed_of_delayed h hdelayed

/-- Finally hooks and observers play no part in what a run comes to. -/
theorem context_processed_with (p : Pipeline σ) (finallyHooks : List (Postprocessor σ))
    (observers : List (Observer σ)) (s : Session σ) :
    ({ p with finallyHooks, observers }.processed s).context = (p.processed s).context := by
  have hsame : { p with finallyHooks, observers }.process s = p.process s := rfl
  rcases hprocess : p.process s with ⟨t, failure | _⟩
  · rw [p.processed_of_error hprocess, processed_of_error _ (hsame.trans hprocess), context_fail,
      context_fail]
  · rw [p.processed_of_ok hprocess, processed_of_ok _ (hsame.trans hprocess)]

/-- The same response is written whatever finally hooks and observers there are, if only those that
notice the arrival of a request leave alone what hooks and handlers see of the state. -/
theorem wire_of_bystanders {p : Pipeline σ} (h : p.Confined view)
    (finallyHooks : List (Postprocessor σ)) (observers : List (Observer σ))
    (hdiscreet : ∀ o ∈ p.observers ++ observers, o.Discreet view) {world : World σ}
    (hopen : world.Open view (p.observers ++ observers)) (request : Request) :
    ({ p with finallyHooks, observers }.execute request world).1 =
      (p.execute request world).1 := by
  -- Both runs are compared with the one that nobody notices.
  have hbystanders : { p with finallyHooks, observers }.Confined view :=
    ⟨h.preprocessors, h.handlers, h.postprocessors⟩
  have hp := context_processed_arrived h (s := { context := { request }, world })
    (fun o ho => hdiscreet o (List.mem_append_left _ ho))
    (hopen.of_subset (List.subset_append_left ..))
  have hq := context_processed_arrived hbystanders (s := { context := { request }, world })
    (fun o ho => hdiscreet o (List.mem_append_right _ ho))
    (hopen.of_subset (List.subset_append_right ..))
  have hsame := p.context_processed_with finallyHooks observers { context := { request }, world }
  rw [wire_execute, wire_execute, hq.trans (hsame.trans hp.symm)]
  rfl

/-- A pipeline whose handler answers how many visits the state counts, and counts one more. -/
def counting : Pipeline (Nat × Nat) where
  table.routes :=
    [.bare .get fun request response visits =>
      { request
        response
        ending := .done (some (.text ("visit " ++ toString visits.1)))
        moments := [⟨0, fun s => (s.1 + 1, s.2), []⟩]
        duration := 5 }]

/-- An observer that is slow and panics, and that forgets all visits, but not while a request
arrives. -/
def meddler : Observer (Nat × Nat) where
  received _ s := ⟨(), (s.1, s.2 + 1), .panicked none, [], 30⟩
  exception _ _ _ := ⟨(), (0, 0), .panicked none, [], 30⟩
  success _ _ := ⟨(), (0, 0), .panicked none, [], 30⟩
  complete _ _ := ⟨(), (0, 0), .panicked none, [], 30⟩

theorem counting_confined : counting.Confined Prod.fst where
  preprocessors := nofun
  handlers := by
    intro route hroute request response s t hst
    obtain rfl := List.mem_singleton.mp hroute
    refine ⟨rfl, rfl, ?_, rfl, .cons ⟨rfl, fun s t hst => congrArg (· + 1) hst⟩ .nil⟩
    show Ending.done (some (Body.text ("visit " ++ toString s.1))) = _
    rw [hst]
    rfl
  postprocessors := nofun

theorem meddler_discreet : meddler.Discreet Prod.fst := fun _ _ => rfl

theorem counting_wire_eq :
    let request : Request := .ofTarget .get ⟨"/", none⟩
    let world := counting.world (6, 0)
    let hooks : List (Postprocessor (Nat × Nat)) :=
      [fun _ response _ => ⟨{ response with status := .noContent }, (0, 0), .panicked none, [], 0⟩]
    counting.Confined Prod.fst ∧
      (∀ o ∈ counting.observers ++ [meddler], o.Discreet Prod.fst) ∧
      world.Open Prod.fst (counting.observers ++ [meddler]) ∧
      ({ counting with finallyHooks := hooks, observers := [meddler] }.execute request world).1 =
        (counting.execute request world).1 := by
  have hdiscreet : ∀ o ∈ counting.observers ++ [meddler], o.Discreet Prod.fst := by
    intro o ho
    obtain rfl := List.mem_singleton.mp ho
    exact meddler_discreet
  have hopen : (counting.world (6, 0)).Open Prod.fst (counting.observers ++ [meddler]) := nofun
  exact ⟨counting_confined, hdiscreet, hopen,
    wire_of_bystanders counting_confined _ _ hdiscreet hopen _⟩

end Pipeline

end Switchboard
