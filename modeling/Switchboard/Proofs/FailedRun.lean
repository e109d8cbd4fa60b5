import Switchboard.Proofs.ErrorAnswer

namespace Switchboard

namespace Pipeline

variable {σ : Type} (p : Pipeline σ)

/-- The failure that a run captures, and the request in progress when that happens. -/
def captured? (s : Session σ) : Option (Session σ × Failure) :=
  match p.process s with
  | (t, .error failure) => some (t, failure)
  | (t, .ok ()) =>
    match render (p.settingsFor t).2 (p.settingsFor t).1 with
    | (_, .ok ()) => none
    | (u, .error e) => some (u, .ofSerialization e)

/-- No step captures its failure itself. -/
theorem process_keeps_failure : p.process.Keeps fun c : Context (Handler σ) => c.failure := by
  have hsteps : p.EachStep (Step.Preserves fun s => s.context.failure) :=
    { binding := fun action => binding_keeps action fun _ _ => rfl
      reached := fun stage => reached_keeps stage fun _ _ => rfl
      negotiation := p.negotiation_keeps fun _ _ => rfl
      preprocess := p.preprocess_keeps fun _ _ => rfl
      rewinding := rewinding_keeps fun _ _ => rfl
      handling := fun route _ => p.handling_keeps route fun _ _ _ => rfl
      postprocess := p.postprocess_keeps fun _ _ => rfl }
  exact p.process_preserves hsteps

theorem settings_of_approach {action : Action (Handler σ)} {s t : Session σ}
    (h : p.approach action s = (t, .ok ())) : ∃ settings, t.context.settings = some settings := by
  obtain ⟨bound, -, h⟩ := Step.andThen_eq_ok h
  obtain ⟨resolved, -, h⟩ := Step.andThen_eq_ok h
  obtain ⟨chosen, hchosen, h⟩ := Step.andThen_eq_ok h
  have hrest : (p.preprocess.andThen (rewinding.andThen (reached .preprocessed))).Keeps
      fun c : Context (Handler σ) => c.settings :=
    (p.preprocess_keeps fun _ _ => rfl).andThen <|
    (rewinding_keeps fun _ _ => rfl).andThen <|
    reached_keeps .preprocessed fun _ _ => rfl
  have hkept := hrest chosen
  have hcontext := p.context_negotiation resolved
  have hresult := p.result_negotiation resolved
  rw [h] at hkept
  rw [hchosen] at hcontext hresult
  cases hchoice : resolved.context.choice p.registry false with
  | error e =>
    rw [hchoice] at hresult
    cases hresult
  | ok settings =>
    refine ⟨settings, hkept.trans ?_⟩
    dsimp only
    rw [hcontext, hchoice]
    rfl

/-- A run that comes through has its settings pinned. -/
theorem settings_of_process {s t : Session σ} (h : p.process s = (t, .ok ())) :
    ∃ settings, t.context.settings = some settings := by
  rw [p.process_eq] at h
  split at h
  next => cases h
  next action _ =>
    obtain ⟨u, happroach, hdeparture⟩ := Step.andThen_eq_ok h
    obtain ⟨settings, hsettings⟩ := p.settings_of_approach happroach
    have hkept : (p.departure action.route).Keeps fun c : Context (Handler σ) => c.settings :=
      p.departure_keeps action.route (fun _ _ => rfl) fun _ _ _ => rfl
    have hlast := hkept u
    rw [hdeparture] at hlast
    exact ⟨settings, hlast.trans hsettings⟩

theorem failure_finish (wire : Wire) (s : Session σ) :
    (p.finish wire s).context.failure = s.context.failure :=
  p.finish_keeps (fun c => c.failure) (fun _ _ => rfl) (fun _ _ => rfl) wire s

theorem choice_fail (failure : Failure) (s : Session σ) (force : Bool) :
    (p.fail failure s).context.choice p.registry force = s.context.choice p.registry force := by
  rw [context_fail]
  rfl

theorem processed_of_error {s t : Session σ} {failure : Failure}
    (h : p.process s = (t, .error failure)) : p.processed s = p.fail failure t := by
  unfold processed
  rw [h]

theorem context_of_failed_process {s t : Session σ} {failure : Failure}
    (h : p.process s = (t, .error failure)) :
    (p.serialize (p.processed s)).context.failure = some failure ∧
      (p.serialize (p.processed s)).context.response =
        ((t.context.response.failedWith (p.mapping.reply failure).result).told
          (t.context.choice p.registry true).toOption).finished := by
  rw [p.processed_of_error h, context_serialize_of_failure p (p.hasFailure_fail failure t),
    choice_fail, p.context_fail]
  exact ⟨rfl, rfl⟩

section Completed

variable {s t : Session σ} {settings : Settings}

theorem processed_of_ok (h : p.process s = (t, .ok ())) : p.processed s = t := by
  unfold processed
  rw [h]

theorem settingsFor_of_pinned (h : t.context.settings = some settings) :
    (p.settingsFor t).1.context = t.context ∧ (p.settingsFor t).2 = some settings := by
  have hchoice := Context.choice_of_settings h p.registry t.context.hasFailure
  have hcontext := t.context_negotiate p.registry t.context.hasFailure
  rw [settingsFor_of_ok p hchoice]
  refine ⟨?_, rfl⟩
  dsimp only
  rw [hcontext, hchoice]
  dsimp only [Except.toOption]
  rw [← h]

theorem result_render_of_pinned (hpinned : t.context.settings = some settings)
    (hnone : t.context.failure = none) :
    (render (p.settingsFor t).2 (p.settingsFor t).1).2 =
      (t.context.response.rendered t.context.settings false).result.2 := by
  obtain ⟨hready, hsettings⟩ := p.settingsFor_of_pinned hpinned
  rw [result_render, hready, hsettings, ← hpinned, Context.hasFailure_of_none hnone]

theorem hasFailure_settingsFor (hpinned : t.context.settings = some settings)
    (hnone : t.context.failure = none) : (p.settingsFor t).1.context.hasFailure = false := by
  rw [(p.settingsFor_of_pinned hpinned).1]
  exact Context.hasFailure_of_none hnone

theorem failure_of_rendered {u : Session σ} (hprocess : p.process s = (t, .ok ()))
    (hpinned : t.context.settings = some settings) (hnone : t.context.failure = none)
    (hrender : render (p.settingsFor t).2 (p.settingsFor t).1 = (u, .ok ())) :
    (p.serialize (p.processed s)).context.failure = none := by
  obtain ⟨hready, -⟩ := p.settingsFor_of_pinned hpinned
  have hcontext := context_render (p.settingsFor t).2 (p.settingsFor t).1
  rw [hrender, hready] at hcontext
  rw [p.processed_of_ok hprocess, context_serialize, p.rendering_of_ok hrender, hcontext]
  exact hnone

theorem context_of_failed_render {u : Session σ} {e : SerializationError}
    (hprocess : p.process s = (t, .ok ())) (hpinned : t.context.settings = some settings)
    (hnone : t.context.failure = none)
    (hrender : render (p.settingsFor t).2 (p.settingsFor t).1 = (u, .error e)) :
    (p.serialize (p.processed s)).context.failure = some (.ofSerialization e) ∧
      (p.serialize (p.processed s)).context.response =
        ((u.context.response.failedWith (p.mapping.reply (.ofSerialization e)).result).told
          (u.context.choice p.registry true).toOption).finished := by
  obtain ⟨hready, hsettings⟩ := p.settingsFor_of_pinned hpinned
  have hcontext := context_render (p.settingsFor t).2 (p.settingsFor t).1
  rw [hrender, hready] at hcontext
  have hchoice : u.context.choice p.registry true = .ok settings := by
    apply Context.choice_of_settings
    rw [hcontext]
    exact hpinned
  rw [p.processed_of_ok hprocess, context_serialize,
    p.rendering_of_error (p.hasFailure_settingsFor hpinned hnone) hrender,
    context_tell _ (p.hasFailure_fail _ u), p.context_fail, hsettings, hchoice]
  exact ⟨rfl, rfl⟩

end Completed

theorem captured_spec {s : Session σ} (hfresh : s.context.failure = none) :
    match p.captured? s with
    | none => (p.serialize (p.processed s)).context.failure = none
    | some (point, failure) =>
      (p.serialize (p.processed s)).context.failure = some failure ∧
        (p.serialize (p.processed s)).context.response =
          ((point.context.response.failedWith (p.mapping.reply failure).result).told
            (point.context.choice p.registry true).toOption).finished := by
  have hkept := p.process_keeps_failure s
  rcases hprocess : p.process s with ⟨t, failure | _⟩
  · have hcaptured : p.captured? s = some (t, failure) := by
      unfold captured?
      rw [hprocess]
    rw [hcaptured]
    exact p.context_of_failed_process hprocess
  · -- Only the serializer can fail now, and with pinned settings negotiation cannot.
    rw [hprocess] at hkept
    have hnone : t.context.failure = none := hkept.trans hfresh
    obtain ⟨settings, hpinned⟩ := p.settings_of_process hprocess
    rcases hrender : render (p.settingsFor t).2 (p.settingsFor t).1 with ⟨u, e | _⟩
    · have hcaptured : p.captured? s = some (u, .ofSerialization e) := by
        unfold captured?
        rw [hprocess]
        dsimp only
        rw [hrender]
      rw [hcaptured]
      exact p.context_of_failed_render hprocess hpinned hnone hrender
    · have hcaptured : p.captured? s = none := by
        unfold captured?
        rw [hprocess]
        dsimp only
        rw [hrender]
      rw [hcaptured]
      exact p.failure_of_rendered hprocess hpinned hnone hrender

/-- A run that captures a failure tells of it, by the settings that were pinned before or else by
those of a forced choice. -/
theorem wire_of_failure {keepAlive : Bool} (hwriter : p.writer = Wire.ofResponse keepAlive)
    {request : Request} {world : World σ} {failure : Failure}
    (hfailure : (p.execute request world).2.context.failure = some failure) :
    ∃ point, p.captured? (p.arrived { context := { request }, world }) = some (point, failure) ∧
      (p.execute request world).1.Tells point.context.response (p.mapping.reply failure).result
        (point.context.choice p.registry true).toOption := by
  have hfresh : (p.arrived { context := { request }, world }).context.failure = none := by
    rw [context_arrived]
  have hspec := p.captured_spec hfresh
  have hprepared : (p.prepare { context := { request }, world }).context.failure = some failure :=
    (p.failure_finish _ _).symm.trans hfailure
  unfold prepare at hprepared
  cases hcaptured : p.captured? (p.arrived { context := { request }, world }) with
  | none =>
    rw [hcaptured] at hspec
    rw [hspec] at hprepared
    cases hprepared
  | some captured =>
    obtain ⟨point, other⟩ := captured
    rw [hcaptured] at hspec
    obtain ⟨hother, hresponse⟩ := hspec
    obtain rfl : other = failure := Option.some.inj (hother.symm.trans hprepared)
    refine ⟨point, rfl, ?_⟩
    show (p.writer _ (p.serialize _).context.response).Tells _ _ _
    rw [hwriter, hresponse]
    exact Wire.tells_ofResponse _ _ _ _ _

/-- The failure of a handler that finds what it was to make. -/
def conflict : Failure := .ofService ⟨.conflict, "exists", {}, some (.text "id 7")⟩

/-- A pipeline whose only handler makes a page and then fails. -/
def clashing : Pipeline Unit where
  table.routes :=
    [{ Route.bare Method.get fun request response _ =>
        { request
          response :=
            { response.setHeader .contentType (.ofText "text/html") with
              status := .noContent
              body := .text "made" }
          ending := .failed conflict } with
       serializesResponse := false }]

theorem wire_of_clash :
    clashing.writer = Wire.ofResponse true ∧
      (clashing.execute (.ofTarget .get ⟨"/", none⟩) ⟨(), 0, none, []⟩).2.context.failure =
        some conflict ∧
      ∃ point, clashing.captured? (clashing.arrived
          { context := { request := .ofTarget .get ⟨"/", none⟩ }, world := ⟨(), 0, none, []⟩ }) =
            some (point, conflict) ∧
        (clashing.execute (.ofTarget .get ⟨"/", none⟩) ⟨(), 0, none, []⟩).1.Tells
          point.context.response (clashing.mapping.reply conflict).result
          (point.context.choice clashing.registry true).toOption :=
  ⟨rfl, rfl, clashing.wire_of_failure rfl rfl⟩

end Pipeline

end Switchboard
