import Switchboard.Proofs.RunMilestones

namespace Switchboard

namespace Pipeline

variable {σ : Type}

/-- What can go wrong before a response is written, and the stage in which it does. A hook or a
handler goes wrong that fails or panics itself, and a handler also if nobody waits for its end. -/
inductive Mishap (p : Pipeline σ) (c : Context (Handler σ)) (world : World σ) : Stage → Prop where
  | resolution {e : ServiceError} :
    p.table.resolve c.request.method c.request.path = .error e → Mishap p c world .received
  | negotiation {action : Action (Handler σ)} {e : ServiceError} :
    p.table.resolve c.request.method c.request.path = .ok action →
    (c.bindAction action).choice p.registry false = .error e → Mishap p c world .resolved
  | preprocessor : false ∈ (p.preprocessed c world).1 → Mishap p c world .resolved
  | handler {route : Route (Handler σ)} {x : Point σ} :
    p.entrusted? c world = some (route, x) →
    (p.invocationAt route x).parts = none ∨ (p.handlerRun route x).ending.succeeds = false →
    Mishap p c world .preprocessed
  | postprocessor : false ∈ p.postprocessed c world → Mishap p c world .invoked
  | serializer {s : Session σ} {e : SerializationError} :
    p.process (p.arrived { context := c, world }) = (s, .ok ()) →
    (s.context.response.rendered s.context.settings false).result.2 = .error e →
    Mishap p c world .postprocessed

variable (p : Pipeline σ) {c : Context (Handler σ)} {world : World σ}

theorem excepted?_of_stop
    (h : (p.process (p.arrived { context := c, world })).2.isOk = false) :
    (p.excepted? c world).isSome = true := by
  unfold excepted? captured?
  rcases hprocess : p.process (p.arrived { context := c, world }) with ⟨t, failure | _⟩ <;>
    rw [hprocess] at h
  · rfl
  · cases h

/-- A run that comes through its process captures the failure of the serializer alone. -/
theorem excepted?_of_ok (hfresh : c.failure = none) {t : Session σ}
    (hprocess : p.process (p.arrived { context := c, world }) = (t, .ok ())) :
    (p.excepted? c world).isSome = true ↔
      ∃ e, (t.context.response.rendered t.context.settings false).result.2 = .error e := by
  have hkept := p.process_keeps_failure (p.arrived { context := c, world })
  rw [hprocess] at hkept
  have hnone : t.context.failure = none := hkept.trans (p.fresh_arrived hfresh world)
  obtain ⟨settings, hpinned⟩ := p.settings_of_process hprocess
  rw [← p.result_render_of_pinned hpinned hnone]
  unfold excepted? captured?
  rw [hprocess]
  dsimp only
  rcases render (p.settingsFor t).2 (p.settingsFor t).1 with ⟨u, e | _⟩
  · exact ⟨fun _ => ⟨e, rfl⟩, fun _ => rfl⟩
  · exact ⟨nofun, nofun⟩

theorem back?_eq_none_iff {route : Route (Handler σ)} {x : Point σ} :
    p.back? route x = none ↔
      (p.invocationAt route x).parts = none ∨ (p.handlerRun route x).ending.succeeds = false := by
  unfold back?
  cases (p.invocationAt route x).parts <;> cases (p.handlerRun route x).ending.succeeds <;> simp

/-- The last stage that a run enters before its response is rendered. -/
def lastStage (c : Context (Handler σ)) (world : World σ) : Stage :=
  match p.table.resolve c.request.method c.request.path, p.entrusted? c world,
    p.returned? c world with
  | .error _, _, _ => .received
  | .ok _, none, _ => .resolved
  | .ok _, some _, none => .preprocessed
  | .ok _, some _, some x => if (p.concluding x).1.all id then .postprocessed else .invoked

theorem exists_found_of_admitted {found : Action (Handler σ) × Settings}
    (h : p.admitted? c = some found) :
    p.table.resolve c.request.method c.request.path = .ok found.1 := by
  unfold admitted? at h
  split at h
  next => cases h
  next action hfound =>
    split at h
    next => cases h
    next =>
      obtain rfl := Option.some.inj h
      exact hfound

theorem exists_found_of_entrusted {call : Route (Handler σ) × Point σ}
    (h : p.entrusted? c world = some call) :
    ∃ action, p.table.resolve c.request.method c.request.path = .ok action := by
  cases hadmitted : p.admitted? c with
  | none =>
    rw [(p.calls_of_unadmitted hadmitted world).2] at h
    cases h
  | some found => exact ⟨found.1, p.exists_found_of_admitted hadmitted⟩

theorem exists_entrusted_of_returned {x : Point σ} (h : p.returned? c world = some x) :
    ∃ call, p.entrusted? c world = some call := by
  obtain ⟨call, hcall, -⟩ := Option.bind_eq_some_iff.mp h
  exact ⟨call, hcall⟩

/-- A run that stops before its response is rendered has met with a mishap where it is. -/
theorem mishap_of_stop (h : (p.process (p.arrived { context := c, world })).2.isOk = false) :
    p.Mishap c world (p.lastStage c world) := by
  rw [(p.process_turns c world).1] at h
  unfold lastStage
  cases hfound : p.table.resolve c.request.method c.request.path with
  | error e => exact .resolution hfound
  | ok action =>
    cases hchoice : (c.bindAction action).choice p.registry false with
    | error e =>
      have hunadmitted := p.admitted?_of_unchosen hfound hchoice
      rw [(p.calls_of_unadmitted hunadmitted world).2]
      exact .negotiation hfound hchoice
    | ok settings =>
      have hentrusted := p.entrusted?_of_admitted
        (p.admitted?_of_chosen hfound hchoice) world
      split at hentrusted
      next =>
        have hreturned := (p.calls_of_entrusted hentrusted).1
        rw [hentrusted]
        cases hback : p.returned? c world with
        | none => exact .handler hentrusted (p.back?_eq_none_iff.mp (hreturned.symm.trans hback))
        | some y =>
          rw [hback] at h
          have hall : (p.concluding y).1.all id = false := h
          have hpost : p.postprocessed c world = (p.concluding y).1 := by
            unfold postprocessed
            rw [hback]
            rfl
          dsimp only
          rw [if_neg (by rw [hall]; exact Bool.false_ne_true)]
          refine .postprocessor ?_
          rw [hpost]
          simpa using hall
      next hall =>
        rw [hentrusted]
        exact .preprocessor (by simpa using hall)

/-- Nothing goes wrong in another stage than the last, and if all goes well until the response is
rendered, only that can go wrong. -/
theorem stage_of_mishap {stage : Stage} (h : p.Mishap c world stage) :
    p.lastStage c world = stage ∧
      ((p.process (p.arrived { context := c, world })).2.isOk = true →
        ∃ s e, p.process (p.arrived { context := c, world }) = (s, .ok ()) ∧
          (s.context.response.rendered s.context.settings false).result.2 = .error e) := by
  have hturns := (p.process_turns c world).1
  have hunreturned (hnone : p.returned? c world = none) :
      ¬(p.process (p.arrived { context := c, world })).2.isOk = true := by
    rw [hturns, hnone]
    exact Bool.false_ne_true
  unfold lastStage
  cases h with
  | resolution hfound =>
    have hnone := (p.calls_of_unadmitted (p.admitted?_of_unfound hfound) world).2
    rw [hfound]
    exact ⟨rfl, fun hgoes => absurd hgoes (hunreturned (p.calls_of_unentrusted hnone).1)⟩
  | negotiation hfound hchoice =>
    have hnone := (p.calls_of_unadmitted (p.admitted?_of_unchosen hfound hchoice) world).2
    rw [hfound, hnone]
    exact ⟨rfl, fun hgoes => absurd hgoes (hunreturned (p.calls_of_unentrusted hnone).1)⟩
  | preprocessor hfailed =>
    cases hadmitted : p.admitted? c with
    | none =>
      rw [(p.calls_of_unadmitted hadmitted world).1] at hfailed
      cases hfailed
    | some found =>
      have hnone : p.entrusted? c world = none := by
        rw [p.entrusted?_of_admitted hadmitted, if_neg (by simpa using hfailed)]
      rw [p.exists_found_of_admitted hadmitted, hnone]
      exact ⟨rfl, fun hgoes => absurd hgoes (hunreturned (p.calls_of_unentrusted hnone).1)⟩
  | handler hentrusted hfailed =>
    have hnone := (p.calls_of_entrusted hentrusted).1.trans (p.back?_eq_none_iff.mpr hfailed)
    obtain ⟨action, hfound⟩ := p.exists_found_of_entrusted hentrusted
    rw [hfound, hentrusted, hnone]
    exact ⟨rfl, fun hgoes => absurd hgoes (hunreturned hnone)⟩
  | postprocessor hfailed =>
    unfold postprocessed at hfailed
    cases hreturned : p.returned? c world with
    | none =>
      rw [hreturned] at hfailed
      cases hfailed
    | some y =>
      rw [hreturned] at hfailed hturns
      have hall : (p.concluding y).1.all id = false := by simpa using hfailed
      obtain ⟨call, hentrusted⟩ := p.exists_entrusted_of_returned hreturned
      obtain ⟨action, hfound⟩ := p.exists_found_of_entrusted hentrusted
      rw [hfound, hentrusted, hturns]
      dsimp only [Option.any_some]
      rw [hall]
      exact ⟨rfl, nofun⟩
  | serializer hprocess hunrendered =>
    rw [hprocess] at hturns
    obtain ⟨y, hreturned, hall⟩ := Option.any_eq_true _ _ |>.mp hturns.symm
    obtain ⟨call, hentrusted⟩ := p.exists_entrusted_of_returned hreturned
    obtain ⟨action, hfound⟩ := p.exists_found_of_entrusted hentrusted
    rw [hfound, hentrusted, hreturned]
    exact ⟨if_pos hall, fun _ => ⟨_, _, hprocess, hunrendered⟩⟩

/-- A run captures a failure exactly if something goes wrong on its way, and that is in the stage
which it entered last. -/
theorem mishap_iff (hfresh : c.failure = none) (world : World σ) (stage : Stage) :
    p.Mishap c world stage ↔
      (p.run c world).2.context.failure.isSome = true ∧ p.lastStage c world = stage := by
  rw [p.failure_run hfresh, Option.isSome_map]
  rcases hprocess : p.process (p.arrived { context := c, world }) with ⟨t, failure | _⟩
  · have hstop : (p.process (p.arrived { context := c, world })).2.isOk = false := by
      rw [hprocess]
      rfl
    refine ⟨fun h => ⟨p.excepted?_of_stop hstop, (p.stage_of_mishap h).1⟩, ?_⟩
    rintro ⟨-, rfl⟩
    exact p.mishap_of_stop hstop
  · have hgoes : (p.process (p.arrived { context := c, world })).2.isOk = true := by
      rw [hprocess]
      rfl
    rw [p.excepted?_of_ok hfresh hprocess]
    constructor
    · intro h
      obtain ⟨hstage, hunrendered⟩ := p.stage_of_mishap h
      obtain ⟨s, e, hother, herror⟩ := hunrendered hgoes
      obtain ⟨rfl, -⟩ := Prod.mk.inj (hprocess.symm.trans hother)
      exact ⟨⟨e, herror⟩, hstage⟩
    · rintro ⟨⟨e, herror⟩, rfl⟩
      have hmishap := Mishap.serializer hprocess herror
      rw [(p.stage_of_mishap hmishap).1]
      exact hmishap

theorem failure_iff_mishap (hfresh : c.failure = none) (world : World σ) :
    (p.run c world).2.context.failure.isSome = true ↔ ∃ stage, p.Mishap c world stage :=
  ⟨fun h => ⟨_, (p.mishap_iff hfresh world _).mpr ⟨h, rfl⟩⟩,
    fun ⟨_, h⟩ => ((p.mishap_iff hfresh world _).mp h).1⟩

end Pipeline

end Switchboard
