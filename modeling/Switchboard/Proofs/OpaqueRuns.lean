import Switchboard.Proofs.ConcealedFailures
import Switchboard.Proofs.RenderedResponse

namespace Switchboard

variable {σ : Type} {m : Mapping}

/-- What two requests in progress have to share to be answered alike. -/
structure Context.Alike {σ : Type} (c d : Context (Handler σ)) : Prop where
  request : c.request = d.request
  response : c.response = d.response
  policy : c.policy? = d.policy?
  settings : Option.Rel Settings.Alike c.settings d.settings
  failed : c.hasFailure = d.hasFailure

namespace Pipeline

/-- Steps that keep two requests in progress alike, and their worlds one as long as they succeed. -/
def Step.Alike (m : Mapping) (first second : Step σ) : Prop :=
  ∀ s t : Session σ, s.context.Alike t.context → s.world = t.world →
    (first s).1.context.Alike (second t).1.context ∧
      Switchboard.Alike m.TellsAlike (fun _ _ => (first s).1.world = (second t).1.world)
        (first s).2 (second t).2

theorem Step.Alike.andThen {f f' g g' : Step σ} (hf : f.Alike m f') (hg : g.Alike m g') :
    (f.andThen g).Alike m (f'.andThen g') := by
  intro s t hcontext hworld
  obtain ⟨hfirst, hresult⟩ := hf s t hcontext hworld
  unfold Step.andThen
  generalize f s = x, f' t = y at hfirst hresult ⊢
  obtain ⟨s', a⟩ := x
  obtain ⟨t', b⟩ := y
  cases hresult with
  | ok hsame => exact hg s' t' hfirst hsame
  | error htold => exact ⟨hfirst, .error htold⟩

theorem reached_alike (stage : Stage) : (reached stage : Step σ).Alike m (reached stage) := by
  intro s t hcontext hworld
  exact ⟨{ hcontext with }, .ok hworld⟩

theorem rewinding_alike : (rewinding : Step σ).Alike m rewinding := by
  intro s t hcontext hworld
  exact ⟨{ hcontext with request := congrArg Request.rewind hcontext.request }, .ok hworld⟩

/-- Of a route that is bound its name and its formats matter, until its handler is called. -/
theorem binding_alike {a b : Action (Handler σ)} (hfound : a.found = b.found)
    (hname : b.route.name = a.route.name) (hformats : b.route.formats = a.route.formats) :
    (binding a).Alike m (binding b) := by
  intro s t hcontext hworld
  have hrequest : s.context.request.withMatch a.found a.route.name =
      t.context.request.withMatch b.found b.route.name := by
    rw [hcontext.request, hfound, hname]
  have hpolicy : some a.route.formats = some b.route.formats := congrArg some hformats.symm
  exact ⟨{ hcontext with request := hrequest, policy := hpolicy }, .ok hworld⟩

theorem choice_alike {p q : Pipeline σ} (h : p.Alike q) {c d : Context (Handler σ)}
    (hcd : c.Alike d) (force : Bool) :
    Switchboard.Alike Eq Settings.Alike (c.choice p.registry force)
      (d.choice q.registry force) := by
  unfold Context.choice
  have hsettings := hcd.settings
  generalize c.settings = a, d.settings = b at hsettings ⊢
  cases hsettings with
  | some hs => exact .ok hs
  | none =>
    dsimp only
    rw [hcd.request, hcd.policy]
    exact h.registry.resolve _ _ force

theorem toOption_alike {a b : Except ServiceError Settings}
    (h : Switchboard.Alike Eq Settings.Alike a b) :
    Option.Rel Settings.Alike a.toOption b.toOption := by
  cases h with
  | ok hs => exact .some hs
  | error _ => exact .none

theorem negotiate_alike {p q : Pipeline σ} (h : p.Alike q) {s t : Session σ}
    (hcontext : s.context.Alike t.context) (force : Bool) :
    (s.negotiate p.registry force).1.context.Alike (t.negotiate q.registry force).1.context := by
  rw [Session.context_negotiate, Session.context_negotiate]
  exact { hcontext with settings := toOption_alike (choice_alike h hcontext force) }

theorem negotiation_alike {p q : Pipeline σ} (h : p.Alike q) :
    p.negotiation.Alike m q.negotiation := by
  intro s t hcontext hworld
  have hsession := negotiate_alike h hcontext false
  have hchoice := choice_alike h hcontext false
  rw [← Session.result_negotiate, ← Session.result_negotiate] at hchoice
  have hs := s.world_negotiate p.registry false
  have ht := t.world_negotiate q.registry false
  unfold negotiation
  generalize s.negotiate p.registry false = x, t.negotiate q.registry false = y
    at hsession hchoice hs ht ⊢
  obtain ⟨s', a⟩ := x
  obtain ⟨t', b⟩ := y
  cases hchoice with
  | ok _ => exact ⟨hsession, .ok (hs.trans (hworld.trans ht.symm))⟩
  | error he =>
    obtain rfl := he
    exact ⟨hsession, .error (m.tellsAlike_refl _)⟩

theorem inOrder_alike {H : Type} {step step' : Nat → H → Step σ} {hooks hooks' : List H}
    (h : List.Forall₂
      (fun hook hook' => ∀ index, (step index hook).Alike m (step' index hook')) hooks hooks')
    (index : Nat) : (inOrder step index hooks).Alike m (inOrder step' index hooks') := by
  induction h generalizing index with
  | nil => exact fun s t hcontext hworld => ⟨hcontext, .ok hworld⟩
  | cons hhook _ ih => exact (hhook index).andThen (ih (index + 1))

theorem concluded_alike (place : String) {a b : Ending Unit} (h : a.Alike m b) {s t : Session σ}
    (hcontext : s.context.Alike t.context) (hworld : s.world = t.world) :
    (concluded place a s).1.context.Alike (concluded place b t).1.context ∧
      Switchboard.Alike m.TellsAlike
        (fun _ _ => (concluded place a s).1.world = (concluded place b t).1.world)
        (concluded place a s).2 (concluded place b t).2 := by
  have hresult := h.guarded
  unfold concluded
  generalize a.guarded = x, b.guarded = y at hresult ⊢
  cases hresult with
  | ok _ => exact ⟨hcontext, .ok hworld⟩
  | error htold => exact ⟨hcontext, .error htold⟩

theorem world_afterCall_alike {α : Type} {o o' : Outcome σ α} (ho : o.Alike m o')
    {s t : Session σ} (hworld : s.world = t.world) (call : Call) :
    (s.afterCall call o).world = (t.afterCall call o').world := by
  rw [Session.world_afterCall, Session.world_afterCall, hworld, ho.state, ho.duration]

theorem preprocessing_alike {hook hook' : Preprocessor σ}
    (h : ∀ request state, (hook request state).Alike m (hook' request state)) (index : Nat) :
    (preprocessing index hook).Alike m (preprocessing index hook') := by
  intro s t hcontext hworld
  have ho := h s.context.request s.world.state
  unfold preprocessing
  rw [← hcontext.request, ← hworld]
  apply concluded_alike _ ho.ending
  · exact { hcontext with request := ho.subject }
  · exact world_afterCall_alike ho hworld _

theorem postprocessing_alike {hook hook' : Postprocessor σ}
    (h : ∀ request response state,
      (hook request response state).Alike m (hook' request response state)) (index : Nat) :
    (postprocessing index hook).Alike m (postprocessing index hook') := by
  intro s t hcontext hworld
  have ho := h s.context.request s.context.response s.world.state
  unfold postprocessing
  rw [← hcontext.request, ← hcontext.response, ← hworld]
  apply concluded_alike _ ho.ending
  · exact { hcontext with response := ho.subject }
  · exact world_afterCall_alike ho hworld _

theorem invocation_alike {p q : Pipeline σ} (h : p.Alike q) {r r' : Route (Handler σ)}
    (hr : r.Alike m r') {s t : Session σ} (hcontext : s.context.Alike t.context)
    (hworld : s.world = t.world) : (p.invocation r s).Alike m (q.invocation r' t) := by
  unfold invocation
  rw [h.workers, hr.pattern, hr.serializesResponse, ← hcontext.request, ← hcontext.response,
    ← hworld]
  exact run_alike _ (hr.handler _ _) _

theorem handling_alike {p q : Pipeline σ} (h : p.Alike q) {r r' : Route (Handler σ)}
    (hr : r.Alike m r') : (p.handling r).Alike m (q.handling r') := by
  intro s t hcontext hworld
  obtain ⟨hparts, hresult⟩ := invocation_alike h hr hcontext hworld
  have hhandled : p.handled r s = q.handled r' t := by
    unfold handled
    rw [hparts, hcontext.request, hcontext.response, hr.serializesResponse]
  rw [context_handling, context_handling, world_handling, world_handling, result_handling,
    result_handling, hhandled]
  generalize (p.invocation r s).result = a, (q.invocation r' t).result = b at hresult ⊢
  cases hresult with
  | ok hbody =>
    obtain ⟨rfl, hsame⟩ := hbody
    exact ⟨{ hcontext with request := rfl, response := rfl }, .ok hsame⟩
  | error htold =>
    -- The worlds may differ from here on: nothing that a failed run still does reads them.
    exact ⟨{ hcontext with request := rfl, response := rfl }, .error htold⟩

theorem approach_alike {p q : Pipeline σ} (h : p.Alike q) {a b : Action (Handler σ)}
    (hbinding : (binding a).Alike p.mapping (binding b)) :
    (p.approach a).Alike p.mapping (q.approach b) := by
  have hpre : p.preprocess.Alike p.mapping q.preprocess :=
    inOrder_alike (h.preprocessors.imp fun _ _ => preprocessing_alike) 0
  exact hbinding.andThen <|
    (reached_alike .resolved).andThen <|
    (negotiation_alike h).andThen <|
    hpre.andThen <|
    rewinding_alike.andThen <|
    reached_alike .preprocessed

theorem departure_alike {p q : Pipeline σ} (h : p.Alike q) {r r' : Route (Handler σ)}
    (hr : r.Alike p.mapping r') : (p.departure r).Alike p.mapping (q.departure r') := by
  have hpost : p.postprocess.Alike p.mapping q.postprocess :=
    inOrder_alike (h.postprocessors.imp fun _ _ => postprocessing_alike) 0
  exact (handling_alike h hr).andThen <|
    (reached_alike .invoked).andThen <|
    hpost.andThen <|
    reached_alike .postprocessed

theorem process_alike {p q : Pipeline σ} (h : p.Alike q) : p.process.Alike p.mapping q.process := by
  intro s t hcontext hworld
  have hfound := resolve_alike h.table s.context.request.method s.context.request.path
  rw [p.process_eq, q.process_eq, ← hcontext.request]
  generalize p.table.resolve s.context.request.method s.context.request.path = a,
    q.table.resolve s.context.request.method s.context.request.path = b at hfound ⊢
  cases hfound with
  | error he =>
    obtain rfl := he
    exact ⟨hcontext, .error (p.mapping.tellsAlike_refl _)⟩
  | ok haction =>
    have happroach := approach_alike h
      (binding_alike haction.found haction.route.name haction.route.formats)
    exact happroach.andThen (departure_alike h haction.route) s t hcontext hworld

theorem world_notify_alike {observers observers' : List (Observer σ)}
    (h : List.Forall₂ Observer.Alike observers observers') (index : Nat) {s t : Session σ}
    (hcontext : s.context = t.context) (hworld : s.world = t.world) :
    (Session.notifyFrom .received index observers s).world =
      (Session.notifyFrom .received index observers' t).world := by
  induction h generalizing index s t with
  | nil => exact hworld
  | @cons o o' rest rest' ho _ ih =>
    unfold Session.notifyFrom
    apply ih
    · rw [Session.context_notifyOne, Session.context_notifyOne, hcontext]
    · rw [Session.world_notifyOne, Session.world_notifyOne, hcontext, hworld]
      dsimp only [Observer.call]
      rw [ho.state, ho.duration]

theorem fail_alike {p q : Pipeline σ} (h : p.Alike q) {f g : Failure}
    (hfg : p.mapping.TellsAlike f g) {s t : Session σ} (hcontext : s.context.Alike t.context) :
    (p.fail f s).context.Alike (q.fail g t).context := by
  rw [context_fail, context_fail, h.mapping, ← hcontext.response, hfg]
  exact { hcontext with response := rfl, failed := rfl }

theorem settingsFor_alike {p q : Pipeline σ} (h : p.Alike q) {s t : Session σ}
    (hcontext : s.context.Alike t.context) :
    (p.settingsFor s).1.context.Alike (q.settingsFor t).1.context ∧
      Option.Rel Settings.Alike (p.settingsFor s).2 (q.settingsFor t).2 := by
  have hsession := negotiate_alike h hcontext t.context.hasFailure
  have hchoice := choice_alike h hcontext t.context.hasFailure
  rw [← Session.result_negotiate, ← Session.result_negotiate] at hchoice
  unfold settingsFor
  rw [hcontext.failed]
  generalize s.negotiate p.registry t.context.hasFailure = x,
    t.negotiate q.registry t.context.hasFailure = y at hsession hchoice ⊢
  obtain ⟨s', a⟩ := x
  obtain ⟨t', b⟩ := y
  cases hchoice with
  | ok hs => exact ⟨hsession, .some hs⟩
  | @error e _ he =>
    subst he
    dsimp only at hsession ⊢
    rw [hsession.failed]
    split
    · exact ⟨hsession, .none⟩
    · have hfailed := fail_alike h (p.mapping.tellsAlike_refl (.ofService e)) hsession
      refine ⟨negotiate_alike h hfailed true, ?_⟩
      rw [Session.result_negotiate, Session.result_negotiate]
      exact toOption_alike (choice_alike h hfailed true)

theorem rendered_alike {settings settings' : Option Settings}
    (h : Option.Rel Settings.Alike settings settings') (r : Response) (failed : Bool) :
    (r.rendered settings failed).result.1 = (r.rendered settings' failed).result.1 ∧
      Switchboard.Alike SerializationError.Alike Eq (r.rendered settings failed).result.2
        (r.rendered settings' failed).result.2 := by
  unfold Response.rendered
  split
  · cases h with
    | none => exact ⟨rfl, .ok rfl⟩
    | @some s s' hs =>
      dsimp only [Settings.render]
      rw [hs.mediaType]
      have htext := hs.serializer.serialize (r.typed s'.mediaType).result
      generalize s.serializer.serialize (r.typed s'.mediaType).result = a,
        s'.serializer.serialize (r.typed s'.mediaType).result = b at htext ⊢
      cases htext with
      | ok heq =>
        obtain rfl := heq
        exact ⟨rfl, .ok rfl⟩
      | error he => exact ⟨rfl, .error he⟩
  · exact ⟨rfl, .ok rfl⟩

theorem told_alike {settings settings' : Option Settings}
    (h : Option.Rel Settings.Alike settings settings') (r : Response) :
    r.told settings = r.told settings' := by
  obtain ⟨hresponse, hresult⟩ := rendered_alike h r true
  unfold Response.told
  generalize (r.rendered settings true).result = x, (r.rendered settings' true).result = y
    at hresponse hresult ⊢
  obtain ⟨a, a'⟩ := x
  obtain ⟨b, b'⟩ := y
  obtain rfl : a = b := hresponse
  cases hresult <;> rfl

theorem tell_alike {settings settings' : Option Settings}
    (h : Option.Rel Settings.Alike settings settings') {s t : Session σ}
    (hcontext : s.context.Alike t.context) (hfailed : s.context.hasFailure = true) :
    (tell settings s).context.Alike (tell settings' t).context := by
  rw [context_tell settings hfailed, context_tell settings' (hcontext.failed ▸ hfailed),
    told_alike h, hcontext.response]
  exact { hcontext with response := rfl }

theorem render_alike {settings settings' : Option Settings}
    (h : Option.Rel Settings.Alike settings settings') {s t : Session σ}
    (hcontext : s.context.Alike t.context) :
    (render settings s).1.context.Alike (render settings' t).1.context ∧
      Switchboard.Alike SerializationError.Alike Eq (render settings s).2 (render settings' t).2 := by
  rw [context_render, context_render, result_render, result_render, ← hcontext.response,
    ← hcontext.failed]
  obtain ⟨hresponse, hresult⟩ := rendered_alike h s.context.response s.context.hasFailure
  exact ⟨{ hcontext with response := hresponse }, hresult⟩

theorem rendering_alike {p q : Pipeline σ} (h : p.Alike q) {settings settings' : Option Settings}
    (hsettings : Option.Rel Settings.Alike settings settings') {s t : Session σ}
    (hcontext : s.context.Alike t.context) :
    (p.rendering settings s).context.Alike (q.rendering settings' t).context := by
  obtain ⟨hrendered, hresult⟩ := render_alike hsettings hcontext
  rcases hs : render settings s with ⟨s', a⟩
  rcases ht : render settings' t with ⟨t', b⟩
  rw [hs, ht] at hrendered hresult
  cases hresult with
  | ok _ =>
    rw [rendering_of_ok p hs, rendering_of_ok q ht]
    exact hrendered
  | error he =>
    cases hfailure : s.context.hasFailure with
    | true =>
      have hother := hcontext.failed ▸ hfailure
      rw [context_rendering_of_failure p settings hfailure,
        context_rendering_of_failure q settings' hother, told_alike hsettings, hcontext.response]
      exact { hcontext with response := rfl }
    | false =>
      have hother := hcontext.failed ▸ hfailure
      rw [rendering_of_error p hfailure hs, rendering_of_error q hother ht]
      apply tell_alike hsettings
      · exact fail_alike h (p.mapping.tellsAlike_ofSerialization he) hrendered
      · rw [context_fail]
        rfl

theorem serialize_alike {p q : Pipeline σ} (h : p.Alike q) {s t : Session σ}
    (hcontext : s.context.Alike t.context) :
    (p.serialize s).context.Alike (q.serialize t).context := by
  obtain ⟨hready, hsettings⟩ := settingsFor_alike h hcontext
  have hrendered := rendering_alike h hsettings hready
  rw [context_serialize, context_serialize, hrendered.response]
  exact { hrendered with response := rfl }

theorem processed_alike {p q : Pipeline σ} (h : p.Alike q) {s t : Session σ}
    (hcontext : s.context.Alike t.context) (hworld : s.world = t.world) :
    (p.processed s).context.Alike (q.processed t).context := by
  obtain ⟨hprocess, hresult⟩ := process_alike h s t hcontext hworld
  unfold processed
  generalize p.process s = x, q.process t = y at hprocess hresult ⊢
  obtain ⟨s', a⟩ := x
  obtain ⟨t', b⟩ := y
  cases hresult with
  | ok _ => exact hprocess
  | error htold => exact fail_alike h htold hprocess

end Pipeline

theorem Context.alike_refl (c : Context (Handler σ)) : c.Alike c := by
  refine ⟨rfl, rfl, rfl, ?_, rfl⟩
  cases c.settings with
  | none => exact .none
  | some settings => exact .some ⟨rfl, settings.serializer.alike_refl⟩

/-- What a failure, a panic or an encoder says, and may not be told, shows nowhere in the status,
the header fields or the octets of the response. -/
theorem Pipeline.wire_eq_of_alike {p q : Pipeline σ} (h : p.Alike q) (c : Context (Handler σ))
    (world : World σ) : (p.run c world).1 = (q.run c world).1 := by
  have hworld : (p.arrived ⟨c, world, []⟩).world = (q.arrived ⟨c, world, []⟩).world :=
    world_notify_alike h.observers 0 rfl rfl
  have hcontext : (p.arrived ⟨c, world, []⟩).context.Alike (q.arrived ⟨c, world, []⟩).context := by
    rw [context_arrived, context_arrived]
    exact c.alike_refl
  have hprepared : (p.prepare ⟨c, world, []⟩).context.Alike (q.prepare ⟨c, world, []⟩).context :=
    serialize_alike h (processed_alike h hcontext hworld)
  show p.writer _ _ = q.writer _ _
  rw [h.writer, hprepared.request, hprepared.response]

/-- A pipeline with a single route whose handler fails, and whose encoder then fails too, each in
words of its own. -/
def mumbling (failure encoder : String) : Pipeline Unit where
  table.routes :=
    [.bare .get <| .failing fun _ => (Failure.ofText failure).wrap (.application "A" failure)]
  registry.serializers :=
    [{ Serializer.json with serialize := fun _ => .error (.encode "json" encoder) }]
  finallyHooks := [fun _ response state => ⟨response, state, .panicked (some failure), [], 0⟩]

theorem mumbling_alike (f e f' e' : String) : (mumbling f e).Alike (mumbling f' e') where
  mapping := rfl
  table := by
    refine .cons ⟨rfl, fun request response state => ⟨rfl, ?_⟩⟩ .nil
    have hconceals (words : String) :
        Mapping.Conceals {} ((Failure.ofText words).wrap (.application "A" words)) :=
      (Mapping.conceals_ofText {} words).wrap rfl nofun
    exact .concealed (hconceals f) (hconceals f')
  registry := ⟨.cons ⟨rfl, rfl, fun _ => .error (.encode ..)⟩ .nil, rfl⟩
  preprocessors := .nil
  postprocessors := .nil
  observers := .nil
  workers := rfl
  writer := rfl

theorem mumbling_wire_eq :
    let first := mumbling "disk full" "bad number"
    let second := mumbling "no such table" "lone surrogate"
    let context : Context (Handler Unit) := { request := .ofTarget .get ⟨"/", none⟩ }
    first.Alike second ∧ (first.run context ⟨(), 0, none, []⟩).1 =
      (second.run context ⟨(), 0, none, []⟩).1 :=
  ⟨mumbling_alike _ _ _ _, Pipeline.wire_eq_of_alike (mumbling_alike _ _ _ _) _ _⟩

end Switchboard
