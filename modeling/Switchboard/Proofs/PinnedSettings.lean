import Switchboard.Proofs.FailedRun

namespace Switchboard

/-- What can happen to a request in progress: its settings are asked for, its route is bound, or its
request and response are changed. -/
inductive Move (H : Type) where
  | negotiate (force : Bool)
  | bind (action : Action H)
  | edit (change : Request → Response → Request × Response)

namespace Context

variable {H : Type} (registry : Registry)

/-- What the moves make of a request in progress, and what each negotiation among them came to. -/
def play : Context H → List (Move H) → Context H × List (Except ServiceError Settings)
  | c, [] => (c, [])
  | c, .negotiate force :: rest =>
    let tried := (c.negotiate registry force).result
    let played := tried.1.play rest
    (played.1, tried.2 :: played.2)
  | c, .bind action :: rest => (c.bindAction action).play rest
  | c, .edit change :: rest =>
    let changed := change c.request c.response
    { c with request := changed.1, response := changed.2 }.play rest

/-- Settings that are pinned are what every negotiation comes to. -/
theorem play_of_pinned {c : Context H} {settings : Settings} (h : c.settings = some settings)
    (moves : List (Move H)) :
    (c.play registry moves).1.settings = some settings ∧
      ∃ count, (c.play registry moves).2 = List.replicate count (.ok settings) := by
  induction moves generalizing c with
  | nil => exact ⟨h, 0, rfl⟩
  | cons move rest ih =>
    cases move with
    | negotiate force =>
      have hresult := c.result_negotiate registry force
      rw [choice_of_settings h] at hresult
      unfold play
      rw [hresult]
      obtain ⟨hsettings, count, hcount⟩ := ih (c := { c with settings := some settings }) rfl
      exact ⟨hsettings, count + 1, congrArg (.ok settings :: ·) hcount⟩
    | bind action => exact ih (c := c.bindAction action) h
    | edit change => exact ih (c := { c with request := _, response := _ }) h

/-- The first negotiation that succeeds pins what all later ones come to; those before it pin
nothing. -/
theorem play_cases (c : Context H) (h : c.settings = none) (moves : List (Move H)) :
    (∃ errors : List ServiceError, (c.play registry moves).2 = errors.map .error ∧
        (c.play registry moves).1.settings = none) ∨
      ∃ (errors : List ServiceError) (settings : Settings) (count : Nat),
        (c.play registry moves).2 =
          errors.map .error ++ List.replicate (count + 1) (.ok settings) ∧
        (c.play registry moves).1.settings = some settings := by
  induction moves generalizing c with
  | nil => exact .inl ⟨[], rfl, h⟩
  | cons move rest ih =>
    cases move with
    | negotiate force =>
      have hresult := c.result_negotiate registry force
      unfold play
      rw [hresult]
      cases hchoice : c.choice registry force with
      | ok settings =>
        obtain ⟨hsettings, count, hcount⟩ :=
          play_of_pinned registry (c := { c with settings := some settings }) rfl rest
        exact .inr ⟨[], settings, count, congrArg (.ok settings :: ·) hcount, hsettings⟩
      | error e =>
        rcases ih { c with settings := none } rfl with
          ⟨errors, herrors, hnone⟩ | ⟨errors, settings, count, hcount, hsettings⟩
        · exact .inl ⟨e :: errors, congrArg (.error e :: ·) herrors, hnone⟩
        · exact .inr ⟨e :: errors, settings, count, congrArg (.error e :: ·) hcount, hsettings⟩
    | bind action => exact ih (c.bindAction action) h
    | edit change => exact ih { c with request := _, response := _ } h

end Context

/-- The response that is written for what a run has made of it by then: rendered with the settings, if
there are any, and with the failure in its place if that does not succeed. -/
def Response.answer (r : Response) (mapping : Mapping) (settings : Option Settings)
    (failed : Bool) : Response :=
  if failed then (r.told settings).finished
  else
    match (r.rendered settings false).result with
    | (rendered, .ok ()) => rendered.finished
    | (rendered, .error e) =>
      ((rendered.failedWith (mapping.reply (.ofSerialization e)).result).told settings).finished

namespace Pipeline

variable {σ : Type} (p : Pipeline σ)

/-- The settings for a request with what the match of its route says about it, where there is one: a
free choice on a route, or else a forced one. -/
def settled? (request : Request) : Option Settings :=
  match p.table.resolve request.method request.path with
  | .error _ => (p.registry.resolve request none true).result.toOption
  | .ok action =>
    let matched := request.withMatch action.found action.route.name
    let policy := some action.route.formats
    match (p.registry.resolve matched policy false).result with
    | .ok settings => some settings
    | .error _ => (p.registry.resolve matched policy true).result.toOption

def located (s : Session σ) (action : Action (Handler σ)) : Session σ :=
  (s.withContext (s.context.bindAction action)).enter .resolved

theorem choice_located (s : Session σ) (action : Action (Handler σ)) (registry : Registry)
    (force : Bool) : (located s action).context.choice registry force =
      (s.context.bindAction action).choice registry force := rfl

def admitted (route : Route (Handler σ)) : Step σ :=
  p.preprocess.andThen <| rewinding.andThen <| (reached .preprocessed).andThen (p.departure route)

section Process

variable {s : Session σ} {action : Action (Handler σ)}
  (hfound : p.table.resolve s.context.request.method s.context.request.path = .ok action)
include hfound

theorem process_of_found :
    p.process s = p.negotiation.andThen (p.admitted action.route) (located s action) := by
  rw [p.process_eq, hfound]
  unfold approach admitted
  simp only [Step.andThen_assoc]
  rfl

theorem process_of_unchosen (hfresh : s.context.settings = none) {e : ServiceError}
    (hchoice : (s.context.bindAction action).choice p.registry false = .error e) :
    ∃ t, p.process s = (t, .error (.ofService e)) ∧
      t.context = { s.context.bindAction action with stage := .resolved } := by
  have hcontext := p.context_negotiation (located s action)
  have hresult := p.result_negotiation (located s action)
  rw [choice_located, hchoice] at hcontext hresult
  refine ⟨_, (p.process_of_found hfound).trans (Step.andThen_of_error (Prod.ext rfl hresult)), ?_⟩
  have hunpinned : (located s action).context.settings = none := hfresh
  rw [hcontext]
  dsimp only [Except.toOption]
  rw [← hunpinned]
  rfl

theorem settings_of_chosen {settings : Settings}
    (hchoice : (s.context.bindAction action).choice p.registry false = .ok settings) :
    (p.process s).1.context.settings = some settings := by
  have hcontext := p.context_negotiation (located s action)
  have hresult := p.result_negotiation (located s action)
  rw [choice_located, hchoice] at hcontext hresult
  have hkept : (p.admitted action.route).Keeps fun c : Context (Handler σ) => c.settings :=
    (p.preprocess_keeps fun _ _ => rfl).andThen <|
    (rewinding_keeps fun _ _ => rfl).andThen <|
    (reached_keeps .preprocessed fun _ _ => rfl).andThen <|
    p.departure_keeps action.route (fun _ _ => rfl) fun _ _ _ => rfl
  rw [p.process_of_found hfound, Step.andThen_of_ok (Prod.ext rfl hresult)]
  refine (hkept _).trans ?_
  dsimp only
  rw [hcontext]
  rfl

end Process

/-- Wherever a run stops, a forced negotiation comes to the settings for the request that arrived. -/
theorem choice_of_process {request : Request} {s : Session σ} (hs : s.context = { request }) :
    ((p.process s).1.context.choice p.registry true).toOption = p.settled? request := by
  unfold settled?
  cases hfound : p.table.resolve request.method request.path with
  | error e =>
    have hprocess := p.process_eq s
    rw [hs, hfound] at hprocess
    rw [hprocess, hs]
    rfl
  | ok action =>
    have hat : p.table.resolve s.context.request.method s.context.request.path = .ok action := by
      rw [hs]
      exact hfound
    have hchoice : (s.context.bindAction action).choice p.registry false =
        (p.registry.resolve (request.withMatch action.found action.route.name)
          (some action.route.formats) false).result := by
      rw [hs]
      rfl
    dsimp only
    rw [← hchoice]
    cases hchosen : (s.context.bindAction action).choice p.registry false with
    | ok settings =>
      rw [Context.choice_of_settings (p.settings_of_chosen hat hchosen)]
      rfl
    | error e =>
      obtain ⟨t, hprocess, hcontext⟩ := p.process_of_unchosen hat (by rw [hs]) hchosen
      rw [hprocess, hcontext, hs]
      rfl

section Serialize

variable {s t : Session σ}

theorem context_rendering_of_success (settings : Option Settings)
    (hgood : s.context.hasFailure = false) :
    (p.rendering settings s).context.request = s.context.request ∧
      (p.rendering settings s).context.settings = s.context.settings ∧
      (p.rendering settings s).context.response.finished =
        s.context.response.answer p.mapping settings false := by
  have hcontext := context_render settings s
  have hresult := result_render settings s
  rw [hgood] at hcontext hresult
  unfold Response.answer
  rcases hrendered : (s.context.response.rendered settings false).result with ⟨r, e | _⟩ <;>
    rw [hrendered] at hcontext hresult <;>
    rcases hrender : render settings s with ⟨t, result⟩ <;>
    rw [hrender] at hcontext hresult <;>
    obtain rfl := hresult
  · rw [p.rendering_of_error hgood hrender, context_tell _ (p.hasFailure_fail _ t), p.context_fail]
    dsimp only
    rw [hcontext]
    exact ⟨rfl, rfl, rfl⟩
  · rw [p.rendering_of_ok hrender, hcontext]
    exact ⟨rfl, rfl, rfl⟩

/-- What a request in progress has become when its response is ready, answered with the settings. -/
def Answers (settings : Option Settings) (before after : Context (Handler σ)) : Prop :=
  after.request = before.request ∧ after.settings = settings ∧
    after.response = before.response.answer p.mapping settings before.hasFailure

theorem answers_of_failed_process {failure : Failure} (h : p.process s = (t, .error failure)) :
    p.Answers (t.context.choice p.registry true).toOption (p.processed s).context
      (p.serialize (p.processed s)).context := by
  have hfailed := p.hasFailure_fail failure t
  unfold Answers
  rw [p.processed_of_error h, context_serialize_of_failure p hfailed, choice_fail, hfailed]
  exact ⟨rfl, rfl, rfl⟩

theorem answers_of_pinned {settings : Settings} (hpinned : s.context.settings = some settings)
    (hnone : s.context.failure = none) :
    p.Answers (some settings) s.context (p.serialize s).context := by
  obtain ⟨hready, hsettings⟩ := p.settingsFor_of_pinned hpinned
  have hgood := Context.hasFailure_of_none hnone
  obtain ⟨hrequest, hkept, hresponse⟩ :=
    p.context_rendering_of_success (some settings) (p.hasFailure_settingsFor hpinned hnone)
  rw [hready] at hrequest hkept hresponse
  unfold Answers
  rw [context_serialize, hsettings, hgood]
  exact ⟨hrequest, hkept.trans hpinned, hresponse⟩

/-- The settings that were decided on when the request arrived are those it is answered with. -/
theorem answers_prepare (request : Request) (world : World σ) :
    p.Answers (p.settled? request)
      (p.processed (p.arrived { context := { request }, world })).context
      (p.prepare { context := { request }, world }).context := by
  have hs : (p.arrived { context := { request }, world }).context = { request } :=
    p.context_arrived _
  have hkept := p.process_keeps_failure (p.arrived { context := { request }, world })
  rw [← p.choice_of_process hs]
  unfold prepare
  generalize p.arrived { context := { request }, world } = s at hs hkept
  rcases hprocess : p.process s with ⟨t, failure | _⟩
  · exact p.answers_of_failed_process hprocess
  · obtain ⟨settings, hpinned⟩ := p.settings_of_process hprocess
    rw [hprocess, hs] at hkept
    rw [p.processed_of_ok hprocess, Context.choice_of_settings hpinned]
    exact p.answers_of_pinned hpinned hkept

end Serialize

theorem wire_execute (request : Request) (world : World σ) :
    let before := (p.processed (p.arrived { context := { request }, world })).context
    (p.execute request world).1 = p.writer before.request
      (before.response.answer p.mapping (p.settled? request) before.hasFailure) := by
  obtain ⟨hrequest, -, hresponse⟩ := p.answers_prepare request world
  show p.writer _ _ = _
  rw [hrequest, hresponse]

/-- Settings are decided on once: a run is answered with those for the request that arrived, and of
any number of negotiations for one request all from the first success on come to the same. -/
theorem settled_once (request : Request) (world : World σ) (c : Context (Handler σ))
    (moves : List (Move (Handler σ))) :
    let before := (p.processed (p.arrived { context := { request }, world })).context
    let played := { c with settings := none }.play p.registry moves
    ((p.execute request world).1 = p.writer before.request
        (before.response.answer p.mapping (p.settled? request) before.hasFailure) ∧
      (p.execute request world).2.context.settings = p.settled? request) ∧
    ((∃ errors : List ServiceError, played.2 = errors.map .error ∧ played.1.settings = none) ∨
      ∃ (errors : List ServiceError) (settings : Settings) (count : Nat),
        played.2 = errors.map .error ++ List.replicate (count + 1) (.ok settings) ∧
        played.1.settings = some settings) := by
  obtain ⟨-, hsettings, -⟩ := p.answers_prepare request world
  have hkept := p.finish_keeps (fun c => c.settings) (fun _ _ => rfl) (fun _ _ => rfl)
    (p.execute request world).1 (p.prepare { context := { request }, world })
  exact ⟨⟨p.wire_execute request world, hkept.trans hsettings⟩,
    Context.play_cases p.registry _ rfl moves⟩

end Pipeline

end Switchboard
