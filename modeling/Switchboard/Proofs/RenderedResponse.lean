import Switchboard.Proofs.SessionFrame

namespace Switchboard

namespace Response

/-- The response of a failed run, rendered or else told in plain text. -/
def told (r : Response) (settings : Option Settings) : Response :=
  match (r.rendered settings true).result with
  | (rendered, .ok ()) => rendered
  | (rendered, .error _) => rendered.plain.result

/-- The response as it is written. -/
def finished (r : Response) : Response := (r.typed plainText).result.enforced

end Response

namespace Context

variable {H : Type}

theorem hasFailure_of_none {c : Context H} (h : c.failure = none) : c.hasFailure = false := by
  unfold hasFailure
  rw [h]
  rfl

theorem hasFailure_of_some {c : Context H} {failure : Failure} (h : c.failure = some failure) :
    c.hasFailure = true := by
  unfold hasFailure
  rw [h]
  rfl

/-- The settings that a negotiation comes to: those pinned before, or else a new choice. -/
def choice (c : Context H) (registry : Registry) (force : Bool) : Except ServiceError Settings :=
  match c.settings with
  | some settings => .ok settings
  | none => (registry.resolve c.request c.policy? force).result

theorem choice_of_settings {c : Context H} {settings : Settings} (h : c.settings = some settings)
    (registry : Registry) (force : Bool) : c.choice registry force = .ok settings := by
  simp only [choice, h]

theorem choice_of_none {c : Context H} (h : c.settings = none) (registry : Registry)
    (force : Bool) :
    c.choice registry force = (registry.resolve c.request c.policy? force).result := by
  simp only [choice, h]

theorem result_negotiate (c : Context H) (registry : Registry) (force : Bool) :
    (c.negotiate registry force).result =
      ({ c with settings := (c.choice registry force).toOption }, c.choice registry force) := by
  unfold negotiate
  cases hs : c.settings with
  | some settings =>
    rw [choice_of_settings hs]
    dsimp only [Logged.silent, Except.toOption]
    rw [← hs]
  | none =>
    rw [choice_of_none hs]
    dsimp only
    split
    next heq =>
      rw [heq]
      rfl
    next heq =>
      rw [heq]
      dsimp only [Except.toOption]
      rw [← hs]

end Context

namespace Session

variable {σ : Type}

@[simp] theorem context_negotiate (s : Session σ) (registry : Registry) (force : Bool) :
    (s.negotiate registry force).1.context =
      { s.context with settings := (s.context.choice registry force).toOption } := by
  have h := Context.result_negotiate s.context registry force
  exact congrArg Prod.fst h

@[simp] theorem result_negotiate (s : Session σ) (registry : Registry) (force : Bool) :
    (s.negotiate registry force).2 = s.context.choice registry force := by
  have h := Context.result_negotiate s.context registry force
  exact congrArg Prod.snd h

@[simp] theorem world_negotiate (s : Session σ) (registry : Registry) (force : Bool) :
    (s.negotiate registry force).1.world = s.world := rfl

end Session

namespace Pipeline

variable {σ : Type} (p : Pipeline σ)

theorem fst_negotiation (s : Session σ) :
    (p.negotiation s).1 = (s.negotiate p.registry false).1 := by
  unfold negotiation
  rcases s.negotiate p.registry false with ⟨t, _ | _⟩ <;> rfl

theorem context_negotiation (s : Session σ) :
    (p.negotiation s).1.context =
      { s.context with settings := (s.context.choice p.registry false).toOption } := by
  rw [← Session.context_negotiate]
  unfold negotiation
  split
  next heq => rw [heq]
  next heq => rw [heq]

theorem negotiation_keeps {β : Type} {view : Context (Handler σ) → β}
    (hview : ∀ c settings, view { c with settings } = view c) : p.negotiation.Keeps view := by
  intro s
  rw [context_negotiation]
  exact hview s.context _

theorem result_negotiation (s : Session σ) :
    (p.negotiation s).2 =
      match s.context.choice p.registry false with
      | .ok _ => .ok ()
      | .error e => .error (.ofService e) := by
  rw [← Session.result_negotiate]
  unfold negotiation
  split
  next heq => rw [heq]
  next heq => rw [heq]

theorem context_fail (failure : Failure) (s : Session σ) :
    (p.fail failure s).context =
      { s.context with
        stage := .excepted
        response := s.context.response.failedWith (p.mapping.reply failure).result
        failure := some failure } := by
  unfold fail
  rw [Session.context_notify]
  rfl

theorem hasFailure_fail (failure : Failure) (s : Session σ) :
    (p.fail failure s).context.hasFailure = true := by
  rw [context_fail]
  rfl

theorem context_render (settings : Option Settings) (s : Session σ) :
    (render settings s).1.context =
      { s.context with
        response := (s.context.response.rendered settings s.context.hasFailure).result.1 } := rfl

theorem result_render (settings : Option Settings) (s : Session σ) :
    (render settings s).2 =
      (s.context.response.rendered settings s.context.hasFailure).result.2 := rfl

theorem context_tell (settings : Option Settings) {s : Session σ}
    (h : s.context.hasFailure = true) :
    (tell settings s).context =
      { s.context with response := s.context.response.told settings } := by
  have hcontext := context_render settings s
  have hresult := result_render settings s
  rw [h] at hcontext hresult
  unfold tell Response.told
  rcases hr : (s.context.response.rendered settings true).result with ⟨response, result⟩
  rw [hr] at hcontext hresult
  split
  next t heq =>
    rw [heq] at hcontext hresult
    subst hresult
    exact hcontext
  next t e heq =>
    rw [heq] at hcontext hresult
    subst hresult
    unfold renderPlain
    rw [Session.context_reshape, hcontext]

/-- Once a failure is captured, rendering cannot fail again. -/
theorem context_rendering_of_failure (settings : Option Settings) {s : Session σ}
    (h : s.context.hasFailure = true) :
    (p.rendering settings s).context =
      { s.context with response := s.context.response.told settings } := by
  rw [← context_tell settings h]
  unfold rendering tell
  split
  next => rfl
  next t e heq =>
    have hcontext := context_render settings s
    rw [heq] at hcontext
    have hfailed : t.context.hasFailure = true := by
      rw [hcontext]
      exact h
    rw [if_pos hfailed]
    rfl

theorem tell_cases (settings : Option Settings) (s : Session σ) :
    tell settings s = (render settings s).1 ∨
      tell settings s = renderPlain (render settings s).1 := by
  unfold tell
  rcases render settings s with ⟨t, _ | _⟩
  · exact .inr rfl
  · exact .inl rfl

/-- What rendering leaves, or behind that the plain text of a failure that was captured before, or
the failure to render it, captured now. -/
theorem rendering_cases (settings : Option Settings) (s : Session σ) :
    p.rendering settings s = (render settings s).1 ∨
      (∃ error, p.rendering settings s =
        renderPlain ((render settings s).1.note (.event (.errorUnrendered error)))) ∨
      s.context.hasFailure = false ∧ ∃ e, p.rendering settings s =
        tell settings (p.fail (.ofSerialization e) (render settings s).1) := by
  have hsame : (render settings s).1.context.hasFailure = s.context.hasFailure := rfl
  unfold rendering
  rcases heq : render settings s with ⟨t, e | _⟩
  · rw [heq] at hsame
    dsimp only at hsame ⊢
    rw [hsame]
    cases s.context.hasFailure with
    | true => exact .inr (.inl ⟨_, rfl⟩)
    | false => exact .inr (.inr ⟨rfl, _, rfl⟩)
  · exact .inl rfl

theorem rendering_of_ok {settings : Option Settings} {s t : Session σ}
    (h : render settings s = (t, .ok ())) : p.rendering settings s = t := by
  unfold rendering
  rw [h]

/-- A body that cannot be rendered makes way for that of a failure, rendered with the same
settings. -/
theorem rendering_of_error {settings : Option Settings} {s t : Session σ}
    {e : SerializationError} (hs : s.context.hasFailure = false)
    (h : render settings s = (t, .error e)) :
    p.rendering settings s = tell settings (p.fail (.ofSerialization e) t) := by
  have hcontext := context_render settings s
  rw [h] at hcontext
  have hgood : t.context.hasFailure = false := by
    rw [hcontext]
    exact hs
  unfold rendering
  rw [h]
  dsimp only
  rw [hgood]
  rfl

theorem settingsFor_cases (s : Session σ) :
    (p.settingsFor s).1 = (s.negotiate p.registry s.context.hasFailure).1 ∨
      ∃ e, (p.settingsFor s).1 =
        ((p.fail (.ofService e) (s.negotiate p.registry s.context.hasFailure).1).negotiate
          p.registry true).1 := by
  unfold settingsFor
  rcases s.negotiate p.registry s.context.hasFailure with ⟨t, e | _⟩
  · dsimp only
    split
    · exact .inl rfl
    · exact .inr ⟨_, rfl⟩
  · exact .inl rfl

/-- What the process leaves, or behind that its failure. -/
theorem processed_cases (s : Session σ) :
    p.processed s = (p.process s).1 ∨ ∃ failure, p.processed s = p.fail failure (p.process s).1 := by
  unfold processed
  rcases p.process s with ⟨t, failure | _⟩
  · exact .inr ⟨_, rfl⟩
  · exact .inl rfl

theorem settingsFor_of_ok {s : Session σ} {settings : Settings}
    (h : s.context.choice p.registry s.context.hasFailure = .ok settings) :
    p.settingsFor s =
      ((s.negotiate p.registry s.context.hasFailure).1, some settings) := by
  have hresult := s.result_negotiate p.registry s.context.hasFailure
  unfold settingsFor
  split
  next heq =>
    rw [heq] at hresult ⊢
    cases hresult.trans h
    rfl
  next heq =>
    rw [heq] at hresult
    cases hresult.trans h

theorem settingsFor_of_failure {s : Session σ} (h : s.context.hasFailure = true) :
    p.settingsFor s =
      ((s.negotiate p.registry true).1, (s.context.choice p.registry true).toOption) := by
  have hresult := s.result_negotiate p.registry true
  have hcontext := s.context_negotiate p.registry true
  unfold settingsFor
  rw [h]
  split
  next heq =>
    rw [heq] at hresult ⊢
    rw [← hresult]
    rfl
  next t e heq =>
    rw [heq] at hresult hcontext ⊢
    have hfailed : t.context.hasFailure = true := by
      rw [hcontext]
      exact h
    rw [if_pos hfailed, ← hresult]
    rfl

theorem context_serialize (s : Session σ) :
    (p.serialize s).context =
      { (p.rendering (p.settingsFor s).2 (p.settingsFor s).1).context with
        stage := .serialized
        response :=
          (p.rendering (p.settingsFor s).2 (p.settingsFor s).1).context.response.finished } := by
  rcases h : p.settingsFor s with ⟨t, settings⟩
  unfold serialize
  rw [h]
  rfl

theorem context_serialize_of_failure {s : Session σ} (h : s.context.hasFailure = true) :
    (p.serialize s).context =
      { s.context with
        stage := .serialized
        settings := (s.context.choice p.registry true).toOption
        response :=
          (s.context.response.told (s.context.choice p.registry true).toOption).finished } := by
  have hcontext := s.context_negotiate p.registry true
  have hfailed : (s.negotiate p.registry true).1.context.hasFailure = true := by
    rw [hcontext]
    exact h
  rw [context_serialize, settingsFor_of_failure p h, context_rendering_of_failure p _ hfailed,
    hcontext]

end Pipeline

end Switchboard
