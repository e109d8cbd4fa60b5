import Switchboard.Pipeline.Run
import Switchboard.Proofs.PairedLists

namespace Switchboard

section Looks

variable {σ τ : Type} (view : σ → τ)

/-- Changes of a state that come to the same, as far as the view shows it. -/
def LookAlike (change change' : σ → σ) : Prop :=
  ∀ s t, view s = view t → view (change s) = view (change' t)

/-- Calls that come to the same, as far as the view shows it. What they log does not matter. -/
structure Outcome.Looks {α : Type} (o o' : Outcome σ α) : Prop where
  subject : o.subject = o'.subject
  state : view o.state = view o'.state
  ending : o.ending = o'.ending
  duration : o.duration = o'.duration

structure Moment.Looks (m m' : Moment σ) : Prop where
  time : m.time = m'.time
  change : LookAlike view m.change m'.change

structure HandlerRun.Looks (run run' : HandlerRun σ) : Prop where
  request : run.request = run'.request
  response : run.response = run'.response
  ending : run.ending = run'.ending
  duration : run.duration = run'.duration
  moments : List.Forall₂ (Moment.Looks view) run.moments run'.moments

/-- The same at a later time. -/
structure Due.Delayed (delay : Nat) (d d' : Due σ) : Prop where
  time : d'.time = d.time + delay
  change : LookAlike view d.change d'.change
  freesSlot : d'.freesSlot = d.freesSlot

/-- A world and one that is behind it by some time, and in no other way as far as the view shows. -/
structure World.Delayed (delay : Nat) (w w' : World σ) : Prop where
  state : view w.state = view w'.state
  clock : w'.clock = w.clock + delay
  pool : w'.pool = w.pool
  due : List.Forall₂ (Due.Delayed view delay) w.due w'.due

/-- Invocations with one result, of which one comes later. -/
structure Invocation.Delayed (delay : Nat) (i i' : Invocation σ) : Prop where
  parts : i.parts = i'.parts
  result : i.result = i'.result
  world : i.world.Delayed view delay i'.world

end Looks

variable {σ τ : Type} {view : σ → τ} {delay : Nat}

theorem World.spend_of_ahead {w : World σ} {duration : Nat}
    (h : ∀ d ∈ w.due, w.clock + duration < d.time) :
    (w.spend duration).1 = { w with clock := w.clock + duration } := by
  have hnow : w.due.takeWhile (·.time ≤ w.clock + duration) = [] ∧
      w.due.dropWhile (·.time ≤ w.clock + duration) = w.due := by
    cases hdue : w.due with
    | nil => exact ⟨rfl, rfl⟩
    | cons d rest =>
      have hd := h d (by rw [hdue]; exact List.mem_cons_self ..)
      exact ⟨List.takeWhile_cons_of_neg (by simpa using hd),
        List.dropWhile_cons_of_neg (by simpa using hd)⟩
  unfold World.spend World.advance
  dsimp only
  rw [hnow.1, hnow.2]
  rfl

namespace World.Delayed

variable {w w' : World σ}

theorem insertDue {d d' : Due σ} (hd : d.Delayed view delay d') {ds ds' : List (Due σ)}
    (h : List.Forall₂ (Due.Delayed view delay) ds ds') :
    List.Forall₂ (Due.Delayed view delay) (World.insertDue d ds) (World.insertDue d' ds') := by
  induction h with
  | nil => exact .cons hd .nil
  | @cons other other' _ _ hother hrest ih =>
    have hbefore : d'.time < other'.time ↔ d.time < other.time := by
      rw [hd.time, hother.time]
      omega
    unfold World.insertDue
    simp only [hbefore]
    split
    · exact .cons hd (.cons hother hrest)
    · exact .cons hother ih

theorem schedule (h : w.Delayed view delay w') {d d' : Due σ} (hd : d.Delayed view delay d') :
    (w.schedule d).Delayed view delay (w'.schedule d') :=
  { h with due := insertDue hd h.due }

theorem happen (h : w.Delayed view delay w') {d d' : Due σ} (hd : d.Delayed view delay d') :
    (w.happen d).Delayed view delay (w'.happen d') := by
  refine { h with state := hd.change _ _ h.state, pool := ?_ }
  unfold World.happen
  dsimp only
  rw [hd.freesSlot, h.pool]

theorem change (h : w.Delayed view delay w') {f f' : σ → σ} (hf : LookAlike view f f') :
    { w with state := f w.state }.Delayed view delay { w' with state := f' w'.state } :=
  { h with state := hf _ _ h.state }

/-- What is due by a time in one world is due as much later in the other. -/
theorem advance (h : w.Delayed view delay w') (time : Nat) :
    (w.advance time).1.Delayed view delay (w'.advance (time + delay)).1 := by
  have hnow : ∀ d d' : Due σ, d.Delayed view delay d' →
      decide (d.time ≤ time) = decide (d'.time ≤ time + delay) := by
    intro d d' hd
    rw [hd.time, decide_eq_decide]
    omega
  have hhappen : Relator.LiftFun (World.Delayed view delay)
      (Relator.LiftFun (Due.Delayed view delay) (World.Delayed view delay))
      World.happen World.happen := fun _ _ h _ _ hd => h.happen hd
  have hmoved := List.rel_foldl hhappen h (takeWhile_rel h.due hnow)
  exact { hmoved with clock := rfl, due := dropWhile_rel h.due hnow }

theorem spend (h : w.Delayed view delay w') (duration : Nat) :
    (w.spend duration).1.Delayed view delay (w'.spend duration).1 := by
  have hclock : w'.clock + duration = w.clock + duration + delay := by
    rw [h.clock]
    omega
  unfold World.spend
  rw [hclock]
  exact h.advance _

theorem nextSlot (h : w.Delayed view delay w') : w'.nextSlot = w.nextSlot + delay := by
  have hfirst := find?_rel h.due (p := (·.freesSlot)) (q := (·.freesSlot))
    fun _ _ hd => hd.freesSlot.symm
  unfold World.nextSlot
  rw [h.pool]
  split
  · exact h.clock
  · generalize w.due.find? (·.freesSlot) = a, w'.due.find? (·.freesSlot) = b at hfirst ⊢
    cases hfirst with
    | none => exact h.clock
    | some hd => exact hd.time

theorem start (h : w.Delayed view delay w') {run run' : HandlerRun σ} (hrun : run.Looks view run')
    (last last' : List Event) :
    (w.start run last).Delayed view delay (w'.start run' last') := by
  have hmoment : Relator.LiftFun (World.Delayed view delay)
      (Relator.LiftFun (Moment.Looks view) (World.Delayed view delay))
      (fun w m => w.schedule ⟨w.clock + m.time, m.change, m.events, false⟩)
      (fun w m => w.schedule ⟨w.clock + m.time, m.change, m.events, false⟩) := by
    intro w w' h m m' hm
    refine h.schedule ⟨?_, hm.change, rfl⟩
    dsimp only
    rw [h.clock, hm.time]
    omega
  have htaken : { w with pool := w.pool.map fun p : Pool => p.acquire?.getD p }.Delayed view delay
      { w' with pool := w'.pool.map fun p : Pool => p.acquire?.getD p } :=
    { h with pool := congrArg (Option.map _) h.pool }
  have hscheduled := List.rel_foldl hmoment htaken hrun.moments
  refine hscheduled.schedule ⟨?_, fun _ _ hst => hst, rfl⟩
  dsimp only
  rw [h.clock, hrun.duration]
  omega

end World.Delayed

section Invocations

variable {w w' : World σ} (h : w.Delayed view delay w')
include h

theorem late_delayed (route : String) (limit time : Nat) (before before' : List Event)
    (began : Bool) :
    (Invocation.late route limit time w before began).Delayed view delay
      (Invocation.late route limit (time + delay) w' before' began) :=
  ⟨rfl, rfl, h.advance time⟩

theorem attended_delayed {run run' : HandlerRun σ} (hrun : run.Looks view run')
    (limit : Option Nat) (route : String) (asked : Nat) (before before' : List Event) :
    (Invocation.attended limit route asked run w before).Delayed view delay
      (Invocation.attended limit route (asked + delay) run' w' before') := by
  have hends : w'.clock + run'.duration = w.clock + run.duration + delay := by
    rw [h.clock, hrun.duration]
    omega
  -- The caller asked as much later as the run ends later, so it waits for the same time.
  have hlate : (limit.filter fun limit => asked + delay + limit < w'.clock + run'.duration) =
      limit.filter fun limit => asked + limit < w.clock + run.duration := by
    congr 1
    funext limit
    rw [hends, decide_eq_decide]
    omega
  have hstarted := h.start hrun (Invocation.panicEvents route run.ending)
    (Invocation.panicEvents route run'.ending)
  unfold Invocation.attended
  dsimp only
  rw [hlate]
  split
  next limit _ =>
    rw [show asked + delay + limit = asked + limit + delay by omega]
    exact late_delayed hstarted ..
  next =>
    refine ⟨?_, congrArg Invocation.resultOf hrun.ending, ?_⟩
    · dsimp only
      rw [hrun.request, hrun.response]
    · rw [hends]
      exact hstarted.advance _

section Handlers

variable {handler : Handler σ} {request : Request} {response : Response}
  (hhandler : ∀ s t, view s = view t →
    (handler request response s).Looks view (handler request response t))
include hhandler

theorem onTheSpot_delayed (route : String) :
    (Invocation.onTheSpot handler route request response w).Delayed view delay
      (Invocation.onTheSpot handler route request response w') := by
  have hrun := hhandler _ _ h.state
  have hmoment : Relator.LiftFun (World.Delayed view delay)
      (Relator.LiftFun (Moment.Looks view) (World.Delayed view delay))
      (fun w m => { w with state := m.change w.state })
      (fun w m => { w with state := m.change w.state }) := fun _ _ h _ _ hm => h.change hm.change
  have hchanged := List.rel_foldl hmoment h hrun.moments
  unfold Invocation.onTheSpot
  refine ⟨?_, congrArg Invocation.resultOf hrun.ending, ?_⟩
  · dsimp only
    rw [hrun.request, hrun.response]
  · dsimp only
    rw [hrun.duration]
    exact hchanged.spend _

theorem pooled_delayed (limit : Option Nat) (route : String) :
    (Invocation.pooled limit handler route request response w).Delayed view delay
      (Invocation.pooled limit handler route request response w') := by
  have hlate : (limit.filter fun limit =>
        w'.clock < w'.nextSlot && w'.clock + limit ≤ w'.nextSlot) =
      limit.filter fun limit => w.clock < w.nextSlot && w.clock + limit ≤ w.nextSlot := by
    congr 1
    funext limit
    rw [h.clock, h.nextSlot]
    congr 1 <;> rw [decide_eq_decide] <;> omega
  unfold Invocation.pooled
  dsimp only
  rw [hlate]
  split
  next limit _ =>
    rw [h.clock, show w.clock + delay + limit = w.clock + limit + delay by omega]
    exact late_delayed h ..
  next =>
    have hwaited := h.advance w.nextSlot
    rw [h.clock, h.nextSlot]
    exact attended_delayed hwaited (hhandler _ _ hwaited.state) ..

theorem run_delayed (workers : Workers) (route : String) :
    (Invocation.run workers handler route request response w).Delayed view delay
      (Invocation.run workers handler route request response w') := by
  unfold Invocation.run
  split
  · exact onTheSpot_delayed h hhandler route
  · exact pooled_delayed h hhandler workers.limit route

end Handlers

end Invocations

end Switchboard
