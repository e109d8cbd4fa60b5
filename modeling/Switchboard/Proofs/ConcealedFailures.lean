import Switchboard.Pipeline.Run
import Switchboard.Proofs.NegotiationAlike
import Switchboard.Proofs.RouteIndex

namespace Switchboard

/-- No cause of the failure knows its own status, and none has a registered type. -/
def Mapping.Conceals (m : Mapping) (f : Failure) : Prop :=
  ∀ c ∈ f.chain, c.service? = none ∧ ∀ e ∈ m.entries, e.1.matches c = false

/-- Failures that put the same on every response. -/
def Mapping.TellsAlike (m : Mapping) (f g : Failure) : Prop :=
  ∀ r : Response, r.failedWith (m.reply f).result = r.failedWith (m.reply g).result

namespace Mapping

variable {m : Mapping} {f g : Failure}

theorem lookup?_eq_none_iff :
    m.lookup? f = none ↔ ∀ e ∈ m.entries, ∀ c ∈ f.chain, e.1.matches c = false := by
  simp [lookup?, List.findSome?_eq_none_iff, List.find?_eq_none]

theorem Conceals.result_reply (h : m.Conceals f) :
    (m.reply f).result = .generic f.rootCause.text := by
  have hservice : f.chain.findSome? Cause.service? = none :=
    List.findSome?_eq_none_iff.mpr fun c hc => (h c hc).1
  have hlookup : m.lookup? f = none :=
    lookup?_eq_none_iff.mpr fun e he c hc => (h c hc).2 e he
  unfold reply
  simp only [hservice, hlookup]

theorem tellsAlike_of_conceals (hf : m.Conceals f) (hg : m.Conceals g) : m.TellsAlike f g := by
  intro r
  rw [hf.result_reply, hg.result_reply]
  rfl

theorem tellsAlike_refl (m : Mapping) (f : Failure) : m.TellsAlike f f := fun _ => rfl

theorem conceals_ofText (m : Mapping) (message : String) : m.Conceals (.ofText message) := by
  intro c hc
  obtain rfl : c = .plain message := by simpa [Failure.chain, Failure.ofText] using hc
  refine ⟨rfl, ?_⟩
  intro e _
  obtain ⟨type, kind⟩ := e
  cases type <;> rfl

/-- A concealed failure stays so under a cause that describes it to nobody. -/
theorem Conceals.wrap (h : m.Conceals f) {c : Cause} (hservice : c.service? = none)
    (hentries : ∀ e ∈ m.entries, e.1.matches c = false) : m.Conceals (f.wrap c) := by
  intro d hd
  rw [Failure.chain_wrap] at hd
  rcases List.mem_cons.mp hd with rfl | hd
  · exact ⟨hservice, hentries⟩
  · exact h d hd

theorem tellsAlike_ofSerialization (m : Mapping) {e e' : SerializationError} (h : e.Alike e') :
    m.TellsAlike (.ofSerialization e) (.ofSerialization e') := by
  cases h with
  | same => exact m.tellsAlike_refl _
  | encode => exact fun _ => rfl

end Mapping

/-- Endings that differ in nothing that may be told. -/
inductive Ending.Alike (m : Mapping) {α : Type} : Ending α → Ending α → Prop where
  | done (result : α) : Alike m (.done result) (.done result)
  | failed (failure : Failure) : Alike m (.failed failure) (.failed failure)
  | concealed {f g : Failure} : m.Conceals f → m.Conceals g → Alike m (.failed f) (.failed g)
  | panicked (payload other : Option String) : Alike m (.panicked payload) (.panicked other)

/-- Calls that have one effect and end alike; what they log does not matter. -/
structure Outcome.Alike (m : Mapping) {σ α : Type} (o o' : Outcome σ α) : Prop where
  subject : o.subject = o'.subject
  state : o.state = o'.state
  duration : o.duration = o'.duration
  ending : o.ending.Alike m o'.ending

/-- Runs of handlers that do the same and end alike. -/
structure HandlerRun.Alike (m : Mapping) {σ : Type} (run run' : HandlerRun σ) : Prop where
  same : run' = { run with ending := run'.ending }
  ending : run.ending.Alike m run'.ending

structure Route.Alike (m : Mapping) {σ : Type} (r r' : Route (Handler σ)) : Prop where
  same : r' = { r with handler := r'.handler }
  handler (request : Request) (response : Response) (state : σ) :
    (r.handler request response state).Alike m (r'.handler request response state)

/-- Observers that do the same when a request arrives. What they do later does not matter. -/
structure Observer.Alike {σ : Type} (o o' : Observer σ) : Prop where
  state (c : Context (Handler σ)) (state : σ) :
    (o.received c state).state = (o'.received c state).state
  duration (c : Context (Handler σ)) (state : σ) :
    (o.received c state).duration = (o'.received c state).duration

/-- Pipelines whose application code acts alike on every request, and differs in no more than what
failures, panics and encoders say. The finally hooks may be any. -/
structure Pipeline.Alike {σ : Type} (p q : Pipeline σ) : Prop where
  mapping : q.mapping = p.mapping
  table : List.Forall₂ (Route.Alike p.mapping) p.table.routes q.table.routes
  registry : p.registry.Alike q.registry
  preprocessors : List.Forall₂
    (fun hook hook' => ∀ request state, (hook request state).Alike p.mapping (hook' request state))
    p.preprocessors q.preprocessors
  postprocessors : List.Forall₂
    (fun hook hook' => ∀ request response state,
      (hook request response state).Alike p.mapping (hook' request response state))
    p.postprocessors q.postprocessors
  observers : List.Forall₂ Observer.Alike p.observers q.observers
  workers : q.workers = p.workers
  writer : q.writer = p.writer

variable {σ : Type} {m : Mapping}

theorem Ending.alike_refl {α : Type} (e : Ending α) : e.Alike m e := by
  cases e with
  | done result => exact .done result
  | failed failure => exact .failed failure
  | panicked payload => exact .panicked payload payload

theorem Outcome.alike_refl {α : Type} (o : Outcome σ α) : o.Alike m o :=
  ⟨rfl, rfl, rfl, o.ending.alike_refl⟩

theorem Pipeline.alike_refl (p : Pipeline σ) : p.Alike p where
  mapping := rfl
  table := List.forall₂_same.mpr fun _ _ => ⟨rfl, fun _ _ _ => ⟨rfl, Ending.alike_refl _⟩⟩
  registry := p.registry.alike_refl
  preprocessors := List.forall₂_same.mpr fun _ _ _ _ => Outcome.alike_refl _
  postprocessors := List.forall₂_same.mpr fun _ _ _ _ _ => Outcome.alike_refl _
  observers := List.forall₂_same.mpr fun _ _ => ⟨fun _ _ => rfl, fun _ _ => rfl⟩
  workers := rfl
  writer := rfl

theorem Ending.Alike.guarded {α : Type} {a b : Ending α} (h : a.Alike m b) :
    Switchboard.Alike m.TellsAlike Eq a.guarded b.guarded := by
  cases h with
  | done result => exact .ok rfl
  | failed failure => exact .error (m.tellsAlike_refl failure)
  | concealed hf hg => exact .error (Mapping.tellsAlike_of_conceals hf hg)
  | panicked payload other =>
    exact .error (Mapping.tellsAlike_of_conceals (m.conceals_ofText _) (m.conceals_ofText _))

/-- Either nothing tells the endings of two handlers apart, or both fail and are told alike. -/
theorem Ending.Alike.eq_or_fails {a b : Ending (Option Body)} (h : a.Alike m b) :
    a = b ∨ ∃ f g, Invocation.resultOf a = .error f ∧ Invocation.resultOf b = .error g ∧
      m.TellsAlike f g := by
  cases h with
  | done result => exact Or.inl rfl
  | failed failure => exact Or.inl rfl
  | concealed hf hg => exact Or.inr ⟨_, _, rfl, rfl, Mapping.tellsAlike_of_conceals hf hg⟩
  | panicked payload other => exact Or.inr ⟨_, _, rfl, rfl, m.tellsAlike_refl _⟩

/-- Results of invocations that are told alike, and of which one that succeeds leaves one world. -/
def Invocation.Alike (m : Mapping) (i j : Invocation σ) : Prop :=
  i.parts = j.parts ∧
    Switchboard.Alike m.TellsAlike (fun a b => a = b ∧ i.world = j.world) i.result j.result

theorem Invocation.Alike.refl (m : Mapping) (i : Invocation σ) : i.Alike m i := by
  refine ⟨rfl, ?_⟩
  cases i.result with
  | ok body => exact .ok ⟨rfl, rfl⟩
  | error failure => exact .error (m.tellsAlike_refl failure)

section Invocations

variable {handler handler' : Handler σ} {request : Request} {response : Response}

theorem onTheSpot_alike {world : World σ}
    (h : (handler request response world.state).Alike m (handler' request response world.state))
    (route : String) :
    (Invocation.onTheSpot handler route request response world).Alike m
      (Invocation.onTheSpot handler' route request response world) := by
  have hsame := h.same
  unfold Invocation.onTheSpot
  generalize handler request response world.state = run,
    handler' request response world.state = run' at h hsame ⊢
  rcases h.ending.eq_or_fails with heq | ⟨f, g, hf, hg, htold⟩
  · obtain rfl : run' = run := by rw [hsame, ← heq]
    exact .refl m _
  · rw [hsame]
    refine ⟨rfl, ?_⟩
    dsimp only
    rw [hf, hg]
    exact .error htold

theorem attended_alike {run run' : HandlerRun σ} (h : run.Alike m run') (limit : Option Nat)
    (route : String) (asked : Nat) (world : World σ) (before : List Event) :
    (Invocation.attended limit route asked run world before).Alike m
      (Invocation.attended limit route asked run' world before) := by
  have hsame := h.same
  rcases h.ending.eq_or_fails with heq | ⟨f, g, hf, hg, htold⟩
  · obtain rfl : run' = run := by rw [hsame, ← heq]
    exact .refl m _
  · rw [hsame]
    unfold Invocation.attended
    dsimp only
    split
    · exact ⟨rfl, .error (m.tellsAlike_refl _)⟩
    · refine ⟨rfl, ?_⟩
      dsimp only
      rw [hf, hg]
      exact .error htold

theorem run_alike (workers : Workers) {world : World σ}
    (h : ∀ state, (handler request response state).Alike m (handler' request response state))
    (route : String) :
    (Invocation.run workers handler route request response world).Alike m
      (Invocation.run workers handler' route request response world) := by
  unfold Invocation.run
  split
  · exact onTheSpot_alike (h world.state) route
  · unfold Invocation.pooled
    dsimp only
    split
    · exact .refl m _
    · exact attended_alike (h _) _ _ _ _ _

end Invocations

structure Action.Alike (m : Mapping) (a b : Action (Handler σ)) : Prop where
  route : a.route.Alike m b.route
  found : a.found = b.found

namespace Route.Alike

variable {r r' : Route (Handler σ)} (h : r.Alike m r')

include h

theorem pattern : r'.pattern = r.pattern := by rw [h.same]

theorem method : r'.method = r.method := by rw [h.same]

theorem name : r'.name = r.name := by rw [h.same]

theorem formats : r'.formats = r.formats := by rw [h.same]

theorem serializesResponse : r'.serializesResponse = r.serializesResponse := by
  rw [h.same]

end Route.Alike

section Resolution

variable {H : Type} {R : Route H → Route H → Prop} {t u : Table H}
  (hroutes : List.Forall₂ R t.routes u.routes)
  (hpattern : ∀ r r', R r r' → r'.pattern = r.pattern)
  (hmethod : ∀ r r', R r r' → r'.method = r.method)

include hroutes hmethod

theorem routesFor_rel (method : Method) :
    List.Forall₂ R (t.routesFor method) (u.routesFor method) := by
  rw [t.routesFor_eq, u.routesFor_eq]
  refine List.rel_filter ?_ hroutes
  intro r r' hr
  simp only [hmethod r r' hr]

theorem methods_eq_of_rel : t.methods = u.methods := by
  rw [t.methods_eq, u.methods_eq, map_eq_of_rel hroutes fun r r' hr => (hmethod r r' hr).symm]

include hpattern

theorem allowedMethods_eq_of_rel (path : String) :
    t.allowedMethods path = u.allowedMethods path := by
  unfold Table.allowedMethods
  rw [methods_eq_of_rel hroutes hmethod]
  congr 1
  funext method
  apply any_eq_of_rel (routesFor_rel hroutes hmethod method)
  intro r r' hr
  rw [hpattern r r' hr]

theorem resolve_rel (method : Method) (path : String) :
    Switchboard.Alike Eq (fun a b => R a.route b.route ∧ a.found = b.found)
      (t.resolve method path) (u.resolve method path) := by
  have hfirst : Option.Rel (fun a b => R a.route b.route ∧ a.found = b.found)
      (Table.firstMatch? path (t.routesFor method))
      (Table.firstMatch? path (u.routesFor method)) := by
    refine findSome?_rel (routesFor_rel hroutes hmethod method) ?_
    intro r r' hr
    rw [hpattern r r' hr]
    cases r.pattern.match? path with
    | none => exact .none
    | some found => exact .some ⟨hr, rfl⟩
  unfold Table.resolve
  rw [allowedMethods_eq_of_rel hroutes hpattern hmethod]
  generalize Table.firstMatch? path (t.routesFor method) = a,
    Table.firstMatch? path (u.routesFor method) = b at hfirst ⊢
  cases hfirst with
  | some haction => exact .ok haction
  | none =>
    dsimp only
    split <;> exact .error rfl

end Resolution

/-- Handlers play no part in resolution. -/
theorem resolve_alike {t u : Table (Handler σ)}
    (h : List.Forall₂ (Route.Alike m) t.routes u.routes) (method : Method) (path : String) :
    Switchboard.Alike Eq (Action.Alike m) (t.resolve method path) (u.resolve method path) :=
  (resolve_rel h (fun _ _ hr => hr.pattern) (fun _ _ hr => hr.method) method path).imp
    fun _ _ haction => ⟨haction.1, haction.2⟩

end Switchboard
