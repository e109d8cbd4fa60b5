import Switchboard.Proofs.SessionFrame

namespace Switchboard

variable {σ : Type}

/-- What application code meets when it is called: what a request carries, and what outlives it. -/
structure Point (σ : Type) where
  context : Context (Handler σ)
  world : World σ

namespace World

/-- The world behind a call: the state as the call leaves it, once the time it took has passed. -/
def after {α : Type} (w : World σ) (o : Outcome σ α) : World σ :=
  ({ w with state := o.state }.spend o.duration).1

/-- The world in which a slot is free, once all has happened that is due until then. -/
def atSlot (w : World σ) : World σ := (w.advance w.nextSlot).1

end World

/-- A call of application code: whether it succeeds, and the point behind it. -/
abbrev HookTurn (σ : Type) := Point σ → Bool × Point σ

namespace HookTurn

def ofPreprocessor (hook : Preprocessor σ) : HookTurn σ := fun x =>
  let o := hook x.context.request x.world.state
  (o.ending.succeeds,
    { context := { x.context with request := o.subject }, world := x.world.after o })

def ofPostprocessor (hook : Postprocessor σ) : HookTurn σ := fun x =>
  let o := hook x.context.request x.context.response x.world.state
  (o.ending.succeeds,
    { context := { x.context with response := o.subject }, world := x.world.after o })

def ofCallback (tell : Context (Handler σ) → σ → Outcome σ Unit) : HookTurn σ := fun x =>
  let o := tell x.context x.world.state
  (o.ending.succeeds, { x with world := x.world.after o })

/-- All turns in order, whatever becomes of those before. -/
def throughout : List (HookTurn σ) → Point σ → List Bool × Point σ
  | [], x => ([], x)
  | turn :: rest, x =>
    let (ok, y) := turn x
    let (ends, z) := throughout rest y
    (ok :: ends, z)

/-- Turns in order up to the first that fails, which is the last to be taken. -/
def upToFailure : List (HookTurn σ) → Point σ → List Bool × Point σ
  | [], x => ([], x)
  | turn :: rest, x =>
    match turn x with
    | (false, y) => ([false], y)
    | (true, y) =>
      let (ends, z) := upToFailure rest y
      (true :: ends, z)

section Taken

variable {turn : HookTurn σ} {rest : List (HookTurn σ)} {x : Point σ}

theorem upToFailure_of_failed (h : (turn x).1 = false) :
    upToFailure (turn :: rest) x = ([false], (turn x).2) := by
  unfold upToFailure
  rcases hturn : turn x with ⟨ok, y⟩
  rw [hturn] at h
  obtain rfl : ok = false := h
  rfl

theorem upToFailure_of_succeeded (h : (turn x).1 = true) :
    upToFailure (turn :: rest) x =
      (true :: (upToFailure rest (turn x).2).1, (upToFailure rest (turn x).2).2) := by
  rw [upToFailure]
  rcases hturn : turn x with ⟨ok, y⟩
  rw [hturn] at h
  obtain rfl : ok = true := h
  rfl

/-- Each turn begins where those before it lead. -/
theorem getElem?_throughout (turns : List (HookTurn σ)) (x : Point σ) (i : Nat) :
    (throughout turns x).1[i]? =
      turns[i]?.map fun turn => (turn (throughout (turns.take i) x).2).1 := by
  induction turns generalizing x i with
  | nil => rfl
  | cons turn rest ih =>
    cases i with
    | zero => rfl
    | succ i => exact ih (turn x).2 i

end Taken

theorem upToFailure_keeps {β : Type} (view : Point σ → β) {turns : List (HookTurn σ)}
    (h : ∀ turn ∈ turns, ∀ x, view (turn x).2 = view x) (x : Point σ) :
    view (upToFailure turns x).2 = view x := by
  induction turns generalizing x with
  | nil => rfl
  | cons turn rest ih =>
    have hfirst := h turn (List.mem_cons_self ..) x
    cases hok : (turn x).1 with
    | false =>
      rw [upToFailure_of_failed hok]
      exact hfirst
    | true =>
      rw [upToFailure_of_succeeded hok]
      exact (ih (fun other ho => h other (List.mem_cons_of_mem _ ho)) _).trans hfirst

theorem context_throughout (tell : Observer σ → Context (Handler σ) → σ → Outcome σ Unit)
    (observers : List (Observer σ)) (x : Point σ) :
    (throughout (observers.map fun o => ofCallback (tell o)) x).2.context = x.context := by
  induction observers generalizing x with
  | nil => rfl
  | cons o rest ih => exact ih _

theorem throughout_congr (tell tell' : Observer σ → Context (Handler σ) → σ → Outcome σ Unit)
    {x : Point σ} (h : ∀ o state, tell o x.context state = tell' o x.context state)
    (observers : List (Observer σ)) :
    throughout (observers.map fun o => ofCallback (tell o)) x =
      throughout (observers.map fun o => ofCallback (tell' o)) x := by
  induction observers generalizing x with
  | nil => rfl
  | cons o rest ih =>
    have hfirst : ofCallback (tell o) x = ofCallback (tell' o) x := by
      unfold ofCallback
      rw [h]
    have hrest := ih (x := (ofCallback (tell' o) x).2) h
    rw [List.map_cons, List.map_cons, throughout, throughout, hfirst]
    dsimp only
    rw [hrest]

end HookTurn

namespace Session

def point (s : Session σ) : Point σ := ⟨s.context, s.world⟩

theorem point_notifyOne (s : Session σ) (callback : Callback) (index : Nat) (o : Observer σ) :
    (s.notifyOne callback index o).point = (HookTurn.ofCallback (o.call callback) s.point).2 := by
  unfold point
  rw [context_notifyOne, world_notifyOne]
  rfl

theorem point_notifyFrom (callback : Callback) (index : Nat) (observers : List (Observer σ))
    (s : Session σ) :
    (notifyFrom callback index observers s).point =
      (HookTurn.throughout (observers.map fun o => .ofCallback (o.call callback)) s.point).2 := by
  induction observers generalizing index s with
  | nil => rfl
  | cons o rest ih =>
    unfold notifyFrom
    rw [ih, point_notifyOne]
    rfl

theorem point_notify (s : Session σ) (callback : Callback) (observers : List (Observer σ)) :
    (s.notify callback observers).point =
      (HookTurn.throughout (observers.map fun o => .ofCallback (o.call callback)) s.point).2 :=
  point_notifyFrom callback 0 observers s

end Session

namespace Pipeline

/-- A step that takes one turn and goes on if that succeeds. -/
def Step.IsTurn (step : Step σ) (turn : HookTurn σ) : Prop :=
  ∀ s, (step s).1.point = (turn s.point).2 ∧ (step s).2.isOk = (turn s.point).1

theorem concluded_isTurn (place : String) (ending : Ending Unit) :
    (concluded place ending).IsTurn fun x : Point σ => (ending.succeeds, x) := by
  intro s
  unfold concluded
  cases ending <;> exact ⟨rfl, rfl⟩

theorem preprocessing_isTurn (index : Nat) (hook : Preprocessor σ) :
    (preprocessing index hook).IsTurn (.ofPreprocessor hook) :=
  fun _ => concluded_isTurn "preprocessor" _ _

theorem postprocessing_isTurn (index : Nat) (hook : Postprocessor σ) :
    (postprocessing index hook).IsTurn (.ofPostprocessor hook) :=
  fun _ => concluded_isTurn "postprocessor" _ _

/-- Steps in order lead where their turns lead up to the first that fails. -/
theorem inOrder_turns {H : Type} {step : Nat → H → Step σ} {turn : H → HookTurn σ}
    (h : ∀ index hook, (step index hook).IsTurn (turn hook)) (index : Nat) (hooks : List H)
    (s : Session σ) :
    (inOrder step index hooks s).1.point = (HookTurn.upToFailure (hooks.map turn) s.point).2 ∧
      (inOrder step index hooks s).2.isOk =
        (HookTurn.upToFailure (hooks.map turn) s.point).1.all id := by
  induction hooks generalizing index s with
  | nil => exact ⟨rfl, rfl⟩
  | cons hook rest ih =>
    obtain ⟨hpoint, hok⟩ := h index hook s
    unfold inOrder
    rw [List.map_cons]
    rcases hstep : step index hook s with ⟨t, failure | _⟩ <;> rw [hstep] at hpoint hok
    · rw [Step.andThen_of_error hstep, HookTurn.upToFailure_of_failed hok.symm]
      exact ⟨hpoint, rfl⟩
    · obtain ⟨hrest, hgoes⟩ := ih (index + 1) t
      rw [Step.andThen_of_ok hstep, HookTurn.upToFailure_of_succeeded hok.symm, ← hpoint]
      exact ⟨hrest, hgoes⟩

theorem point_runFinally (index : Nat) (hooks : List (Postprocessor σ)) (s : Session σ) :
    (runFinally index hooks s).point =
      (HookTurn.throughout (hooks.map .ofPostprocessor) s.point).2 := by
  induction hooks generalizing index s with
  | nil => rfl
  | cons hook rest ih =>
    unfold runFinally
    dsimp only
    split <;>
    · rw [ih]
      rfl

end Pipeline

end Switchboard
