import Switchboard.Proofs.RunPoints

namespace Switchboard

/-- Captured failures, writes, ends of requests, and what observers are told. -/
def Entry.isMilestone : Entry → Bool
  | .event _ => false
  | .sample (.hookFailure _) => false
  | .sample _ => true
  | .called (.observer ..) _ => true
  | .called _ _ => false
  | .wrote _ => true

def Journal.milestones (j : Journal) : Journal := j.filter Entry.isMilestone

theorem Entry.overlooks_isMilestone : Overlooks isMilestone := ⟨fun _ => rfl, fun _ => rfl⟩

theorem filter_round (callback : Callback) (stage : Stage) (status : Status) (ends : List Bool) :
    (round callback stage status ends).filter Entry.isMilestone =
      round callback stage status ends :=
  filter_numbered (fun _ _ => rfl) 0 ends

namespace Session

variable {σ : Type} (s : Session σ)

def milestones : Journal := s.journal.milestones

theorem unmoved_milestones : Unmoved fun s : Session σ => s.milestones :=
  unmoved_kept Entry.overlooks_isMilestone

theorem milestones_afterCall {α : Type} (call : Call)
    (hcall : ∀ ok, Entry.isMilestone (.called call ok) = false) (o : Outcome σ α) :
    (s.afterCall call o).milestones = s.milestones := by
  have hcalled := s.kept_afterCall Entry.overlooks_isMilestone call o
  rw [List.filter_cons_of_neg (by simp [hcall])] at hcalled
  exact hcalled.trans (List.append_nil _)

theorem milestones_notify (callback : Callback) (observers : List (Observer σ)) :
    (s.notify callback observers).milestones = s.milestones ++
      round callback s.context.stage s.context.response.status
        (HookTurn.throughout (observers.map fun o => .ofCallback (o.call callback)) s.point).1 := by
  have hnotify := s.kept_notify Entry.overlooks_isMilestone callback observers
  rw [filter_round] at hnotify
  exact hnotify

end Session

namespace Pipeline

variable {σ β : Type} (p : Pipeline σ)

section Process

theorem preprocess_milestones : p.preprocess.Preserves Session.milestones := by
  refine (Step.preserves_chained Session.milestones).inOrder 0 fun index hook _ s => ?_
  exact (kept_concluded Entry.overlooks_isMilestone _ _ _).trans
    (s.milestones_afterCall _ (fun _ => rfl) _)

theorem postprocess_milestones : p.postprocess.Preserves Session.milestones := by
  refine (Step.preserves_chained Session.milestones).inOrder 0 fun index hook _ s => ?_
  exact (kept_concluded Entry.overlooks_isMilestone _ _ _).trans
    (s.milestones_afterCall _ (fun _ => rfl) _)

theorem handling_milestones (route : Route (Handler σ)) :
    (p.handling route).Preserves Session.milestones := by
  intro s
  unfold handling
  dsimp only
  refine (Session.unmoved_milestones.noteEvents _ (p.invocation route s).events).trans ?_
  split
  · exact s.kept_note_of_not rfl
  · rfl

theorem process_milestones : p.process.Preserves Session.milestones :=
  p.process_preserves
    { binding := fun _ _ => rfl
      reached := fun stage s => Session.unmoved_milestones.enter s stage
      negotiation := p.unmoved_negotiation Session.unmoved_milestones
      preprocess := p.preprocess_milestones
      rewinding := fun _ => rfl
      handling := fun route _ => p.handling_milestones route
      postprocess := p.postprocess_milestones }

end Process

/-- The observers' turns when they are told of a failure. -/
def mourners (failure : Failure) : List (HookTurn σ) := p.watchers fun o c => o.exception c failure

theorem throughout_mourners (failure : Failure) (x : Point σ) :
    HookTurn.throughout (p.observers.map fun o => .ofCallback (o.call .exception))
        (p.struck failure x) =
      HookTurn.throughout (p.mourners failure) (p.struck failure x) :=
  HookTurn.throughout_congr _ (fun o c => o.exception c failure) (fun _ _ => rfl) p.observers

/-- A failure is counted, and then every observer is told, with the translated status in place. -/
theorem milestones_fail (failure : Failure) (s : Session σ) :
    (p.fail failure s).milestones = s.milestones ++
      .sample (.failure (p.mapping.reply failure).result.status.code) ::
        round .exception .excepted (p.mapping.reply failure).result.status
          (HookTurn.throughout (p.mourners failure) (p.struck failure s.point)).1 := by
  have htold := (p.capture failure s).milestones_notify .exception p.observers
  have hcaptured : (p.capture failure s).milestones = s.milestones ++ [.sample _] :=
    p.kept_capture Entry.overlooks_isMilestone s failure
  rw [hcaptured, List.append_assoc, show (p.capture failure s).point = p.struck failure s.point
    from rfl, p.throughout_mourners] at htold
  exact htold

theorem point_fail (failure : Failure) (s : Session σ) :
    (p.fail failure s).point =
      (HookTurn.throughout (p.mourners failure) (p.struck failure s.point)).2 := by
  rw [← p.throughout_mourners]
  exact (p.capture failure s).point_notify .exception p.observers

section Serialize

variable {view : Session σ → β} (h : Session.Unmoved view)
include h

theorem unmoved_settingsFor {t : Session σ} {settings : Settings}
    (hpinned : t.context.settings = some settings) : view (p.settingsFor t).1 = view t := by
  rw [settingsFor_of_ok p (Context.choice_of_settings hpinned p.registry t.context.hasFailure)]
  exact h.negotiate t p.registry t.context.hasFailure

/-- What a run adds behind its process belongs to a captured failure. -/
theorem unmoved_answered {s : Session σ} (hfresh : s.context.failure = none) :
    match p.captured? s with
    | none => view (p.serialize (p.processed s)) = view (p.process s).1
    | some (t, failure) =>
      view t = view (p.process s).1 ∧
        view (p.serialize (p.processed s)) = view (p.fail failure t) := by
  have hkept := p.process_keeps_failure s
  unfold captured?
  rcases hprocess : p.process s with ⟨t, failure | _⟩ <;> rw [hprocess] at hkept
  · rw [p.processed_of_error hprocess]
    exact ⟨rfl, p.unmoved_serialize_of_failure h (p.hasFailure_fail failure t)⟩
  · -- Settings are pinned now, so negotiation cannot fail again: the serializer alone can.
    have hnone : t.context.failure = none := hkept.trans hfresh
    obtain ⟨settings, hpinned⟩ := p.settings_of_process hprocess
    have hrendered := unmoved_render h (p.settingsFor t).1 (p.settingsFor t).2
    have hserialize := p.unmoved_serialize h t
    rw [p.unmoved_settingsFor h hpinned] at hrendered
    rw [p.processed_of_ok hprocess]
    dsimp only
    rcases hrender : render (p.settingsFor t).2 (p.settingsFor t).1 with ⟨u, e | _⟩ <;>
      rw [hrender] at hrendered
    · rw [p.rendering_of_error (p.hasFailure_settingsFor hpinned hnone) hrender,
        unmoved_tell h] at hserialize
      exact ⟨hrendered, hserialize⟩
    · rw [p.rendering_of_ok hrender] at hserialize
      exact hserialize.trans hrendered

end Serialize

section Run

variable {c : Context (Handler σ)} (hfresh : c.failure = none) (world : World σ)
include hfresh

theorem fresh_arrived : (p.arrived { context := c, world }).context.failure = none := by
  rw [context_arrived]
  exact hfresh

theorem failure_prepare :
    (p.prepare { context := c, world }).context.failure = (p.excepted? c world).map (·.1) := by
  have hspec := p.captured_spec (p.fresh_arrived hfresh world)
  unfold excepted? prepare
  split at hspec
  next heq =>
    rw [heq]
    exact hspec
  next heq =>
    rw [heq]
    exact hspec.1

theorem failure_run :
    (p.run c world).2.context.failure = (p.excepted? c world).map (·.1) :=
  (p.failure_finish _ _).trans (p.failure_prepare hfresh world)

/-- Between the process and the write nothing is called but observers that are told of a failure. -/
theorem world_written :
    (p.written c world).world =
        ((p.excepted? c world).map fun told =>
          (HookTurn.throughout (p.mourners told.1) told.2).2.world).getD (p.departed c world) ∧
      ∀ failure x, p.excepted? c world = some (failure, x) → x.world = p.departed c world := by
  have hanswered := p.unmoved_answered Session.unmoved_world (p.fresh_arrived hfresh world)
  rw [← (p.process_turns c world).2]
  unfold written prepare excepted?
  split at hanswered
  next heq =>
    rw [heq, Option.map_none, Option.map_none, Option.getD_none]
    exact ⟨hanswered, fun _ _ hsome => by cases hsome⟩
  next t failure heq =>
    obtain ⟨hbefore, hafter⟩ := hanswered
    rw [heq, Option.map_some, Option.map_some, Option.getD_some]
    refine ⟨hafter.trans (congrArg Point.world (p.point_fail failure t)), ?_⟩
    intro other x hsome
    rw [Option.some.injEq, Prod.mk.injEq] at hsome
    rw [← hsome.2]
    exact hbefore

end Run

section Write

variable (wire : Wire)

theorem milestones_announced (s : Session σ) :
    (p.announced wire s).milestones = s.milestones ++
      .wrote wire :: if s.context.hasFailure then [] else
        round .success .written s.context.response.status
          (HookTurn.throughout (p.watchers Observer.success)
            { context := { s.context with stage := .written }, world := s.world }).1 := by
  have hwrote :
      ((s.note (.wrote wire)).enter .written).milestones = s.milestones ++ [.wrote wire] :=
    (Session.unmoved_milestones.enter _ _).trans (s.kept_note _)
  unfold announced
  split
  · exact hwrote
  · refine (((s.note (.wrote wire)).enter .written).milestones_notify _ _).trans ?_
    rw [hwrote, List.append_assoc]
    rfl

theorem milestones_closed {s : Session σ} (hs : s.context.stage = .written) :
    let x := (HookTurn.throughout (p.finallyHooks.map .ofPostprocessor) s.point).2
    (p.closed wire s).milestones = s.milestones ++
      (round .complete .written x.context.response.status
          (HookTurn.throughout (p.watchers Observer.complete) x).1 ++
        [.sample (.request (p.closed wire s).context.request.method.name wire.status.code
          (p.closed wire s).context.routeLabel)]) := by
  intro x
  have hpoint : (runFinally 0 p.finallyHooks s).point = x := point_runFinally 0 p.finallyHooks s
  have hstage := runFinally_keeps (fun c : Context (Handler σ) => c.stage)
    (fun _ _ => rfl) 0 p.finallyHooks s
  have hquiet : (runFinally 0 p.finallyHooks s).milestones = s.milestones := by
    refine (kept_runFinally Entry.overlooks_isMilestone s 0 p.finallyHooks).trans ?_
    rw [filter_numbered_of_not fun _ _ => rfl]
    exact List.append_nil _
  have htold := (runFinally 0 p.finallyHooks s).milestones_notify .complete p.observers
  rw [hpoint, hquiet, hstage.trans hs,
    show (runFinally 0 p.finallyHooks s).context = x.context from congrArg Point.context hpoint]
    at htold
  unfold closed
  dsimp only
  rw [Session.context_note, ← List.append_assoc]
  refine (Session.kept_note _ _).trans (congrArg (· ++ _) ?_)
  exact (Session.unmoved_milestones.enter _ .completed).trans htold

/-- The milestones around the write: before it the failure that was captured, and else behind it the
success. -/
def verdict (c : Context (Handler σ)) (world : World σ) : Journal :=
  match p.excepted? c world with
  | some (failure, x) =>
    .sample (.failure (p.mapping.reply failure).result.status.code) ::
      (round .exception .excepted (p.mapping.reply failure).result.status
          (HookTurn.throughout (p.mourners failure) x).1 ++
        [.wrote (p.run c world).1])
  | none =>
    .wrote (p.run c world).1 ::
      round .success .written (p.written c world).context.response.status
        (HookTurn.throughout (p.watchers Observer.success) (p.written c world)).1

/-- How a run ends in its milestones. -/
def finale (c : Context (Handler σ)) (world : World σ) : Journal :=
  round .complete .written (p.closing (p.written c world)).2.context.response.status
      (HookTurn.throughout (p.watchers Observer.complete) (p.closing (p.written c world)).2).1 ++
    [.sample (.request (p.run c world).2.context.request.method.name
      (p.run c world).1.status.code (p.run c world).2.context.routeLabel)]

end Write

theorem milestones_arrived (c : Context (Handler σ)) (world : World σ) :
    (p.arrived { context := c, world }).milestones =
      round .received c.stage c.response.status
        (HookTurn.throughout (p.watchers Observer.received) ⟨c, world⟩).1 :=
  Session.milestones_notify _ _ _

theorem hasFailure_prepare {c : Context (Handler σ)} (hfresh : c.failure = none)
    (world : World σ) :
    (p.prepare { context := c, world }).context.hasFailure = (p.excepted? c world).isSome := by
  unfold Context.hasFailure
  rw [p.failure_prepare hfresh, Option.isSome_map]

theorem milestones_prepare {c : Context (Handler σ)} (hfresh : c.failure = none)
    (world : World σ) :
    (p.prepare { context := c, world }).milestones =
      round .received c.stage c.response.status
          (HookTurn.throughout (p.watchers Observer.received) ⟨c, world⟩).1 ++
        match p.excepted? c world with
        | some (failure, x) =>
          .sample (.failure (p.mapping.reply failure).result.status.code) ::
            round .exception .excepted (p.mapping.reply failure).result.status
              (HookTurn.throughout (p.mourners failure) x).1
        | none => [] := by
  have hanswered := p.unmoved_answered Session.unmoved_milestones (p.fresh_arrived hfresh world)
  rw [p.process_milestones, p.milestones_arrived] at hanswered
  unfold prepare excepted?
  split at hanswered
  next heq =>
    rw [hanswered, heq]
    exact (List.append_nil _).symm
  next t failure heq =>
    rw [hanswered.2, p.milestones_fail, hanswered.1, heq]
    rfl

/-- All milestones of a run. -/
theorem milestones_run {c : Context (Handler σ)} (hfresh : c.failure = none) (world : World σ) :
    (p.run c world).2.milestones =
      round .received c.stage c.response.status
          (HookTurn.throughout (p.watchers Observer.received) ⟨c, world⟩).1 ++
        (p.verdict c world ++ p.finale c world) := by
  have hannounced := p.milestones_announced (p.run c world).1 (p.prepare { context := c, world })
  have hpoint : (p.announced (p.run c world).1 (p.prepare { context := c, world })).point =
      p.cheered (p.written c world) :=
    p.point_announced _ _
  have hstage : (p.announced (p.run c world).1
      (p.prepare { context := c, world })).context.stage = .written := by
    unfold announced
    split
    · rfl
    · rw [Session.context_notify]
      rfl
  have hclosed := p.milestones_closed (p.run c world).1 hstage
  rw [← session_run, hpoint, hannounced, p.milestones_prepare hfresh, p.hasFailure_prepare hfresh]
    at hclosed
  refine hclosed.trans ?_
  unfold verdict
  cases p.excepted? c world <;> simp only [List.append_assoc, List.cons_append] <;> rfl

end Pipeline

end Switchboard
