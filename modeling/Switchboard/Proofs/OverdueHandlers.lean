import Switchboard.Proofs.FailedRun
import Switchboard.Proofs.OpaqueRuns
import Switchboard.Proofs.StageOrder

namespace Switchboard

variable {σ : Type}

namespace Invocation

/-- No slot becomes free for a caller that waits so long. -/
def Stranded (limit : Nat) (w : World σ) : Prop :=
  w.clock < w.nextSlot ∧ w.clock + limit ≤ w.nextSlot

/-- The caller waits so long and sees no slot become free, or the run in it not end. -/
def Overdue (limit : Nat) (w : World σ) (run : HandlerRun σ) : Prop :=
  Stranded limit w ∨ w.clock + limit < w.nextSlot + run.duration

section Pool

variable {limit : Option Nat} {handler : Handler σ} {route : String} {request : Request}
  {response : Response} {w : World σ}

theorem attended_of_late {limit asked : Nat} {run : HandlerRun σ} {before : List Event}
    (h : asked + limit < w.clock + run.duration) :
    attended (some limit) route asked run w before =
      late route limit (asked + limit) (w.start run (panicEvents route run.ending)) before
        true := by
  unfold attended
  dsimp only
  rw [Option.filter_some, if_pos (decide_eq_true h)]

theorem attended_in_time {asked : Nat} {run : HandlerRun σ} {before : List Event}
    (h : ∀ l, limit = some l → ¬asked + l < w.clock + run.duration) :
    (attended limit route asked run w before).parts = some (run.request, run.response) ∧
      (attended limit route asked run w before).result = resultOf run.ending := by
  have hnone : limit.filter (fun l => asked + l < w.clock + run.duration) = none :=
    Option.filter_eq_none_iff.mpr (by simpa using h)
  unfold attended
  dsimp only
  rw [hnone]
  exact ⟨rfl, rfl⟩

theorem pooled_of_stranded {limit : Nat} (h : Stranded limit w) :
    pooled (some limit) handler route request response w =
      late route limit (w.clock + limit) w [] false := by
  have hwaits : (w.clock < w.nextSlot && w.clock + limit ≤ w.nextSlot) = true := by
    simpa [Stranded] using h
  unfold pooled
  dsimp only
  rw [Option.filter_some, if_pos hwaits]

theorem pooled_at_slot (h : ∀ l, limit = some l → ¬Stranded l w) :
    pooled limit handler route request response w =
      attended limit route w.clock (handler request response w.atSlot.state) w.atSlot
        (w.advance w.nextSlot).2 := by
  have hnone : limit.filter (fun l => w.clock < w.nextSlot && w.clock + l ≤ w.nextSlot) = none :=
    Option.filter_eq_none_iff.mpr (by simpa [Stranded] using h)
  unfold pooled
  dsimp only
  rw [hnone]
  rfl

theorem pooled_overdue {limit : Nat}
    (h : Overdue limit w (handler request response w.atSlot.state)) (route : String) :
    (pooled (some limit) handler route request response w).parts = none ∧
      (pooled (some limit) handler route request response w).result =
        .error (lateFailure limit) := by
  by_cases hstranded : Stranded limit w
  · rw [pooled_of_stranded hstranded]
    exact ⟨rfl, rfl⟩
  · have hslot : ∀ l, some limit = some l → ¬Stranded l w := by
      rintro l hl
      obtain rfl := Option.some.inj hl
      exact hstranded
    rw [pooled_at_slot hslot, attended_of_late (h.resolve_left hstranded)]
    exact ⟨rfl, rfl⟩

theorem pooled_in_time
    (h : ∀ l, limit = some l → ¬Overdue l w (handler request response w.atSlot.state))
    (route : String) :
    (pooled limit handler route request response w).parts =
        some ((handler request response w.atSlot.state).request,
          (handler request response w.atSlot.state).response) ∧
      (pooled limit handler route request response w).result =
        resultOf (handler request response w.atSlot.state).ending := by
  rw [pooled_at_slot fun l hl hstranded => h l hl (.inl hstranded)]
  exact attended_in_time fun l hl hlate => h l hl (.inr hlate)

end Pool

end Invocation

namespace Pipeline

def unpooled (p : Pipeline σ) : Pipeline σ := { p with workers := .onTheSpot }

/-- What the handler is called for: the response is marked as the route wants it. -/
def called (route : Route (Handler σ)) (s : Session σ) : Context (Handler σ) :=
  { s.context with
    response := { s.context.response with serialized := route.serializesResponse } }

/-- What the handler does if it begins in this state of the application. -/
def runIn (state : σ) (route : Route (Handler σ)) (s : Session σ) : HandlerRun σ :=
  route.handler (called route s).request (called route s).response state

/-- Whoever called the handler waits so long and gives up. -/
def GivesUp (p : Pipeline σ) (limit : Nat) (route : Route (Handler σ)) (s : Session σ) : Prop :=
  p.workers.limit = some limit ∧
    Invocation.Overdue limit s.world (runIn s.world.atSlot.state route s)

/-- The run gives up on its handler. -/
def Abandons (p : Pipeline σ) (c : Context (Handler σ)) (world : World σ) : Prop :=
  ∃ limit route s, p.ready? c world = some (route, s) ∧ p.GivesUp limit route s

def withTable (p : Pipeline σ) (table : Table (Handler σ)) : Pipeline σ := { p with table }

/-- The same routes, but for their handlers. -/
def Rehandled (t u : Table (Handler σ)) : Prop :=
  List.Forall₂ (fun r r' => r' = { r with handler := r'.handler }) t.routes u.routes

variable {p : Pipeline σ} {route : Route (Handler σ)} {s t : Session σ}

theorem invocation_unpooled (p : Pipeline σ) (route : Route (Handler σ)) (t : Session σ) :
    let run := runIn t.world.state route t
    (p.unpooled.invocation route t).result = Invocation.resultOf run.ending ∧
      p.unpooled.handled route t = (run.request, run.response) :=
  ⟨rfl, rfl⟩

/-- Until a handler is called, no handler has a part in the run. -/
theorem ready?_alike {c : Context (Handler σ)} {world : World σ} {u : Table (Handler σ)}
    {route' : Route (Handler σ)} (hu : Rehandled p.table u)
    (hready : p.ready? c world = some (route, s))
    (hready' : (p.withTable u).ready? c world = some (route', t)) :
    s.context.Alike t.context ∧ route'.serializesResponse = route.serializesResponse := by
  obtain ⟨a, hfound, happroach, rfl⟩ := p.ready?_eq_some_iff.mp hready
  obtain ⟨b, hfound', happroach', rfl⟩ := (p.withTable u).ready?_eq_some_iff.mp hready'
  have hactions := resolve_rel hu (fun _ _ hr => by rw [hr]) (fun _ _ hr => by rw [hr])
    c.request.method c.request.path
  change u.resolve _ _ = _ at hfound'
  rw [hfound, hfound'] at hactions
  cases hactions with
  | ok hactions =>
    obtain ⟨hroute, hsame⟩ := hactions
    have hbinding : (binding a).Alike p.mapping (binding b) :=
      binding_alike hsame (by rw [hroute]) (by rw [hroute])
    obtain ⟨hends, -⟩ := approach_alike p.alike_refl hbinding (p.arrived ⟨c, world, []⟩) _
      (Context.alike_refl _) rfl
    change p.approach b (p.arrived ⟨c, world, []⟩) = _ at happroach'
    rw [happroach, happroach'] at hends
    exact ⟨hends, by rw [hroute]⟩

section Pooled

variable (hslots : p.workers.slots ≠ 0)
include hslots

theorem invocation_eq_pooled (route : Route (Handler σ)) (s : Session σ) :
    p.invocation route s =
      Invocation.pooled p.workers.limit route.handler route.pattern.template
        (called route s).request (called route s).response s.world :=
  if_neg hslots

theorem invocation_of_givesUp {limit : Nat} (h : p.GivesUp limit route s) :
    (p.invocation route s).result = .error (Invocation.lateFailure limit) ∧
      p.handled route s = ((called route s).request, (called route s).response) := by
  obtain ⟨hlimit, hoverdue⟩ := h
  obtain ⟨hparts, hresult⟩ := Invocation.pooled_overdue hoverdue route.pattern.template
  unfold handled
  rw [invocation_eq_pooled hslots, hlimit, hparts, hresult]
  exact ⟨rfl, rfl⟩

theorem invocation_in_time (h : ∀ limit, ¬p.GivesUp limit route s) :
    let run := runIn s.world.atSlot.state route s
    (p.invocation route s).result = Invocation.resultOf run.ending ∧
      p.handled route s = (run.request, run.response) := by
  obtain ⟨hparts, hresult⟩ := Invocation.pooled_in_time
    (fun limit hlimit hoverdue => h limit ⟨hlimit, hoverdue⟩) route.pattern.template
  unfold handled
  rw [invocation_eq_pooled hslots, hparts, hresult]
  exact ⟨rfl, rfl⟩

theorem context_handling_of_givesUp {limit : Nat} (h : p.GivesUp limit route s) :
    (p.handling route s).1.context = called route s := by
  obtain ⟨hresult, hhandled⟩ := invocation_of_givesUp hslots h
  rw [context_handling, hhandled, hresult]
  rfl

/-- A run that gives up on its handler fails there. -/
theorem processed_of_givesUp {c : Context (Handler σ)} {world : World σ} {limit : Nat}
    (hready : p.ready? c world = some (route, s)) (h : p.GivesUp limit route s) :
    p.processed (p.arrived { context := c, world }) =
      p.fail (Invocation.lateFailure limit) (p.handling route s).1 := by
  obtain ⟨action, hfound, happroach, rfl⟩ := p.ready?_eq_some_iff.mp hready
  have hfailed : p.handling action.route s =
      ((p.handling action.route s).1, .error (Invocation.lateFailure limit)) := by
    refine Prod.ext rfl ?_
    rw [result_handling, (invocation_of_givesUp hslots h).1]
    rfl
  refine p.processed_of_error ?_
  rw [p.process_eq, context_arrived, hfound]
  dsimp only
  rw [Step.andThen_of_ok happroach]
  exact Step.andThen_of_error hfailed

theorem wire_eq_of_abandons {c : Context (Handler σ)} {world : World σ} {u : Table (Handler σ)}
    (hu : Rehandled p.table u) (hp : p.Abandons c world)
    (hq : (p.withTable u).Abandons c world) :
    (p.run c world).1 = ((p.withTable u).run c world).1 := by
  obtain ⟨limit, route, s, hreadyp, hgives⟩ := hp
  obtain ⟨limit', route', t, hreadyq, hgives'⟩ := hq
  obtain rfl : limit = limit' := Option.some.inj (hgives.1.symm.trans hgives'.1)
  obtain ⟨hready, hserializes⟩ := ready?_alike hu hreadyp hreadyq
  have hgaveUp : (p.handling route s).1.context.Alike
      ((p.withTable u).handling route' t).1.context := by
    rw [context_handling_of_givesUp hslots hgives,
      context_handling_of_givesUp (p := p.withTable u) hslots hgives']
    refine { hready with response := ?_ }
    unfold called
    rw [hserializes, hready.response]
  have hfailed : (p.processed (p.arrived ⟨c, world, []⟩)).context.Alike
      ((p.withTable u).processed ((p.withTable u).arrived ⟨c, world, []⟩)).context := by
    rw [processed_of_givesUp hslots hreadyp hgives,
      processed_of_givesUp (p := p.withTable u) hslots hreadyq hgives']
    exact fail_alike p.alike_refl (p.mapping.tellsAlike_refl _) hgaveUp
  have hprepared : (p.prepare ⟨c, world, []⟩).context.Alike
      ((p.withTable u).prepare ⟨c, world, []⟩).context := serialize_alike p.alike_refl hfailed
  show p.writer _ _ = p.writer _ _
  rw [hprepared.request, hprepared.response]

end Pooled

/-- A handler in a pool that is waited for comes to the same as on the spot, beginning in the same
state of the application: to the same result, and to the same request and response, whatever it
ends in. One that is given up on fails as unavailable and leaves everything as it found it, and what
is written then is the same whatever handlers the routes have. -/
theorem invocation_pooled (p : Pipeline σ) (hslots : p.workers.slots ≠ 0) :
    (∀ route s, (∀ limit, ¬p.GivesUp limit route s) →
      ∀ t : Session σ, t.context = s.context → t.world.state = s.world.atSlot.state →
        (p.invocation route s).result = (p.unpooled.invocation route t).result ∧
          p.handled route s = p.unpooled.handled route t) ∧
    (∀ limit route s, p.GivesUp limit route s →
      (∃ e, (p.invocation route s).result = .error (.ofService e) ∧ e.kind = .unavailable) ∧
        (p.handling route s).1.context = called route s) ∧
    ∀ (u : Table (Handler σ)) c world, Rehandled p.table u → p.Abandons c world →
      (p.withTable u).Abandons c world → (p.run c world).1 = ((p.withTable u).run c world).1 := by
  refine ⟨fun route s hwaits t hcontext hstate => ?_, fun limit route s hgives => ?_,
    fun u c world hu => wire_eq_of_abandons hslots hu⟩
  · obtain ⟨hresult, hhandled⟩ := invocation_in_time hslots hwaits
    obtain ⟨hspot, hleft⟩ := p.invocation_unpooled route t
    have hrun : runIn t.world.state route t = runIn s.world.atSlot.state route s := by
      unfold runIn called
      rw [hcontext, hstate]
    rw [hresult, hhandled, hspot, hleft, hrun]
    exact ⟨rfl, rfl⟩
  · obtain ⟨hresult, -⟩ := invocation_of_givesUp hslots hgives
    exact ⟨⟨_, hresult, rfl⟩, context_handling_of_givesUp hslots hgives⟩

/-- A pipeline with a single slot, whose handler sets the status, takes its time and panics. -/
def dawdling (status : Status) (duration : Nat) : Pipeline Unit where
  table.routes := [.bare .get fun request response _ =>
    { request, response := { response with status }, ending := .panicked none, duration }]
  workers := ⟨1, some 50⟩

def awaited : Context (Handler Unit) × World Unit :=
  ({ request := .ofTarget .get ⟨"/", none⟩ }, ⟨(), 0, some (.ofSize 1), []⟩)

theorem ready_dawdling (status : Status) (duration : Nat) :
    ∃ route s, (dawdling status duration).ready? awaited.1 awaited.2 = some (route, s) ∧
      (runIn () route s).response.status = status ∧
      ∀ limit, (dawdling status duration).GivesUp limit route s ↔ limit = 50 ∧ 50 < duration := by
  refine ⟨_, _, rfl, rfl, fun limit => ?_⟩
  -- The slot is free at once, so only the handler itself can take too long.
  show some 50 = some limit ∧ ((0 < 0 ∧ 0 + limit ≤ 0) ∨ 0 + limit < 0 + duration) ↔ _
  constructor
  · rintro ⟨hlimit, hstranded | hlate⟩
    · omega
    · obtain rfl := Option.some.inj hlimit
      exact ⟨rfl, by omega⟩
  · rintro ⟨rfl, hlate⟩
    exact ⟨rfl, .inr (by omega)⟩

theorem abandons_dawdling {status : Status} {duration : Nat} (h : 50 < duration) :
    (dawdling status duration).Abandons awaited.1 awaited.2 := by
  obtain ⟨route, s, hready, -, hgivesUp⟩ := ready_dawdling status duration
  exact ⟨50, route, s, hready, (hgivesUp 50).mpr ⟨rfl, h⟩⟩

/-- What the handler does within its time shows as on the spot, though it panics in the end, and
what it does in more time than it has does not show at all. -/
theorem invocation_pooled_dawdling :
    let hasty := dawdling { code := 418 } 20
    let slow := dawdling { code := 418 } 300
    let slower := dawdling { code := 202 } 9000
    (∃ route s, hasty.ready? awaited.1 awaited.2 = some (route, s) ∧
        (∀ limit, ¬hasty.GivesUp limit route s) ∧
        (hasty.invocation route s).result = (hasty.unpooled.invocation route s).result ∧
        hasty.handled route s = hasty.unpooled.handled route s ∧
        (hasty.handled route s).2.status = { code := 418 }) ∧
      (∃ route s, slow.ready? awaited.1 awaited.2 = some (route, s) ∧ slow.GivesUp 50 route s ∧
        (slow.handling route s).1.context = called route s) ∧
      (slow.run awaited.1 awaited.2).1 =
        ((slow.withTable slower.table).run awaited.1 awaited.2).1 := by
  intro hasty slow slower
  have hslots : hasty.workers.slots ≠ 0 := Nat.one_ne_zero
  have hrehandled : Rehandled slow.table slower.table := .cons rfl .nil
  obtain ⟨route, s, hready, hstatus, hgivesUp⟩ := ready_dawdling { code := 418 } 20
  have hwaits : ∀ limit, ¬hasty.GivesUp limit route s := by
    intro limit hgives
    have := (hgivesUp limit).mp hgives
    omega
  obtain ⟨hresult, hhandled⟩ := (invocation_pooled hasty hslots).1 route s hwaits s rfl rfl
  obtain ⟨route', s', hready', -, hgivesUp'⟩ := ready_dawdling { code := 418 } 300
  have hgives : slow.GivesUp 50 route' s' := (hgivesUp' 50).mpr ⟨rfl, by decide⟩
  obtain ⟨-, hlate, hwire⟩ := invocation_pooled slow hslots
  refine ⟨⟨route, s, hready, hwaits, hresult, hhandled, ?_⟩,
    ⟨route', s', hready', hgives, (hlate 50 route' s' hgives).2⟩,
    hwire slower.table awaited.1 awaited.2 hrehandled (abandons_dawdling (by decide))
      (abandons_dawdling (by decide))⟩
  rw [hhandled]
  exact hstatus

end Pipeline

end Switchboard
