import Switchboard.Proofs.Notices
import Switchboard.Proofs.SessionJournal

namespace Switchboard

variable {σ : Type} {kind : Event → Bool}

/-- The entries for lines of a kind. -/
def Entry.logs (kind : Event → Bool) : Entry → Bool
  | .event e => kind e
  | _ => false

def Lacks (kind : Event → Bool) (events : List Event) : Prop := ∀ e ∈ events, kind e = false

theorem Lacks.append {events others : List Event} (h : Lacks kind events)
    (ho : Lacks kind others) : Lacks kind (events ++ others) :=
  fun e he => (List.mem_append.mp he).elim (h e) (ho e)

theorem Lacks.flatMap {α : Type} {f : α → List Event} {xs : List α}
    (h : ∀ x ∈ xs, Lacks kind (f x)) : Lacks kind (xs.flatMap f) := by
  intro e he
  obtain ⟨x, hx, hin⟩ := List.mem_flatMap.mp he
  exact h x hx e hin

theorem Lacks.single {e : Event} (h : kind e = false) : Lacks kind [e] := by
  intro other hother
  obtain rfl := List.mem_singleton.mp hother
  exact h

theorem Logged.Notices.lacks {α : Type} {l : Logged α} (h : l.Notices)
    (hkind : ∀ e : Event, e.isNotice = true → kind e = false) : Lacks kind l.events :=
  fun e he => hkind e (h e he)

theorem filter_logs_of_lacks {events : List Event} (h : Lacks kind events) :
    (events.map Entry.event).filter (Entry.logs kind) = [] := by
  rw [List.filter_eq_nil_iff]
  intro e he
  obtain ⟨event, hin, rfl⟩ := List.mem_map.mp he
  rw [show Entry.logs kind (.event event) = kind event from rfl, h event hin]
  exact Bool.false_ne_true

def Outcome.Quiet {α : Type} (kind : Event → Bool) (o : Outcome σ α) : Prop := Lacks kind o.events

def HandlerRun.Quiet (kind : Event → Bool) (run : HandlerRun σ) : Prop :=
  ∀ m ∈ run.moments, Lacks kind m.events

def Observer.Quiet (kind : Event → Bool) (callback : Callback) (o : Observer σ) : Prop :=
  ∀ c state, (o.call callback c state).Quiet kind

/-- Hooks and handlers that log nothing of the kind. -/
structure Pipeline.Quiet (kind : Event → Bool) (p : Pipeline σ) : Prop where
  preprocessors : ∀ hook ∈ p.preprocessors, ∀ request state, (hook request state).Quiet kind
  handlers : ∀ route ∈ p.table.routes, ∀ request response state,
    (route.handler request response state).Quiet kind
  postprocessors : ∀ hook ∈ p.postprocessors, ∀ request response state,
    (hook request response state).Quiet kind
  finallyHooks : ∀ hook ∈ p.finallyHooks, ∀ request response state,
    (hook request response state).Quiet kind

/-- A world in which nothing of the kind is about to be logged. -/
def World.Quiet (kind : Event → Bool) (w : World σ) : Prop := ∀ d ∈ w.due, Lacks kind d.events

namespace World

variable {w : World σ}

theorem mem_insertDue {d other : Due σ} {ds : List (Due σ)} (h : other ∈ insertDue d ds) :
    other = d ∨ other ∈ ds := by
  induction ds with
  | nil => exact .inl (List.mem_singleton.mp h)
  | cons first rest ih =>
    unfold insertDue at h
    split at h
    · exact List.mem_cons.mp h
    · rcases List.mem_cons.mp h with rfl | hin
      · exact .inr (List.mem_cons_self ..)
      · exact (ih hin).imp_right (List.mem_cons_of_mem _)

theorem Quiet.schedule (h : w.Quiet kind) {d : Due σ} (hd : Lacks kind d.events) :
    (w.schedule d).Quiet kind := by
  intro other hother
  rcases mem_insertDue hother with rfl | hin
  · exact hd
  · exact h other hin

theorem Quiet.advance (h : w.Quiet kind) (time : Nat) :
    (w.advance time).1.Quiet kind ∧ Lacks kind (w.advance time).2 :=
  ⟨fun d hd => h d ((List.dropWhile_sublist _).mem hd),
    .flatMap fun d hd => h d ((List.takeWhile_sublist _).mem hd)⟩

theorem Quiet.start (h : w.Quiet kind) {run : HandlerRun σ} (hrun : run.Quiet kind)
    {last : List Event} (hlast : Lacks kind last) : (w.start run last).Quiet kind := by
  refine Quiet.schedule ?_ hlast
  exact List.foldlRecOn run.moments _ h fun _ hw m hm => Quiet.schedule hw (hrun m hm)

end World

/-- An invocation that logs nothing of the kind, at once or later. -/
structure Invocation.Quiet (kind : Event → Bool) (i : Invocation σ) : Prop where
  world : i.world.Quiet kind
  events : Lacks kind i.events

section Invocations

variable (hkind : ∀ e : Event, e.isNotice = true → kind e = false) {w : World σ}
  (h : w.Quiet kind)
include hkind

theorem lacks_panicEvents (route : String) (ending : Ending (Option Body)) :
    Lacks kind (Invocation.panicEvents route ending) := by
  cases ending with
  | done _ => exact nofun
  | failed _ => exact nofun
  | panicked _ => exact .single (hkind _ rfl)

include h

theorem quiet_late (route : String) (limit time : Nat) {before : List Event}
    (hbefore : Lacks kind before) (began : Bool) :
    (Invocation.late route limit time w before began).Quiet kind := by
  obtain ⟨hworld, hevents⟩ := h.advance time
  exact ⟨hworld, (hbefore.append hevents).append (.single (hkind _ rfl))⟩

theorem quiet_attended {run : HandlerRun σ} (hrun : run.Quiet kind) (limit : Option Nat)
    (route : String) (asked : Nat) {before : List Event} (hbefore : Lacks kind before) :
    (Invocation.attended limit route asked run w before).Quiet kind := by
  have hstarted := h.start hrun (lacks_panicEvents hkind route run.ending)
  unfold Invocation.attended
  dsimp only
  split
  · exact quiet_late hkind hstarted _ _ _ hbefore _
  · obtain ⟨hworld, hevents⟩ := hstarted.advance (w.clock + run.duration)
    exact ⟨hworld, hbefore.append hevents⟩

section Handlers

variable {handler : Handler σ} {request : Request} {response : Response}
  (hhandler : ∀ state, (handler request response state).Quiet kind)
include hhandler

theorem quiet_onTheSpot (route : String) :
    (Invocation.onTheSpot handler route request response w).Quiet kind := by
  have hchanged := List.foldlRecOn (motive := World.Quiet kind)
    (handler request response w.state).moments
    (fun w m => { w with state := m.change w.state }) h fun _ hw _ _ => hw
  obtain ⟨hworld, hevents⟩ := hchanged.advance _
  exact ⟨hworld, (Lacks.append (.flatMap (hhandler w.state)) hevents).append
    (lacks_panicEvents hkind _ _)⟩

theorem quiet_run (workers : Workers) (route : String) :
    (Invocation.run workers handler route request response w).Quiet kind := by
  unfold Invocation.run
  split
  · exact quiet_onTheSpot hkind h hhandler route
  · unfold Invocation.pooled
    dsimp only
    split
    · exact quiet_late hkind h _ _ _ (List.forall_mem_nil _) _
    · obtain ⟨hworld, hevents⟩ := h.advance w.nextSlot
      exact quiet_attended hkind hworld (hhandler _) _ _ _ hevents

end Handlers

end Invocations

/-- A session whose journal has these lines of the kind, and in which no others are about to be
logged. -/
structure Session.Holds (kind : Event → Bool) (lines : Journal) (s : Session σ) : Prop where
  lines : s.kept (Entry.logs kind) = lines
  world : s.world.Quiet kind

namespace Session.Holds

variable {s : Session σ} {lines : Journal} (h : s.Holds kind lines)
include h

theorem frame {t : Session σ} (hjournal : t.journal = s.journal) (hworld : t.world.Quiet kind) :
    t.Holds kind lines := by
  refine ⟨?_, hworld⟩
  rw [← h.lines]
  unfold kept
  rw [hjournal]

theorem withContext (c : Context (Handler σ)) : (s.withContext c).Holds kind lines :=
  h.frame rfl h.world

theorem withRequest (request : Request) : (s.withRequest request).Holds kind lines :=
  h.frame rfl h.world

theorem withResponse (response : Response) : (s.withResponse response).Holds kind lines :=
  h.frame rfl h.world

theorem note (e : Entry) : (s.note e).Holds kind (lines ++ [e].filter (Entry.logs kind)) :=
  ⟨(s.kept_note e).trans (by rw [h.lines]), h.world⟩

theorem note_of_not {e : Entry} (he : Entry.logs kind e = false) : (s.note e).Holds kind lines :=
  ⟨(s.kept_note_of_not he).trans h.lines, h.world⟩

theorem noteEvents (events : List Event) :
    (s.noteEvents events).Holds kind
      (lines ++ (events.map .event).filter (Entry.logs kind)) := by
  refine ⟨?_, h.world⟩
  rw [← h.lines]
  exact List.filter_append ..

theorem noteEvents_of_lacks {events : List Event} (hevents : Lacks kind events) :
    (s.noteEvents events).Holds kind lines := by
  have hnoted := h.noteEvents events
  rw [filter_logs_of_lacks hevents, List.append_nil] at hnoted
  exact hnoted

/-- A call adds what it logs. Time passes, but nothing of the kind comes due. -/
theorem afterCall {α : Type} (call : Call) (o : Outcome σ α) :
    (s.afterCall call o).Holds kind
      (lines ++ (o.events.map .event).filter (Entry.logs kind)) := by
  have hcalled := (h.note_of_not (e := .called call o.ending.succeeds) rfl).noteEvents o.events
  have hworld : { s.world with state := o.state }.Quiet kind := h.world
  obtain ⟨hafter, hevents⟩ := hworld.advance (s.world.clock + o.duration)
  have hspent := hcalled.frame
    (t := { (s.note (.called call o.ending.succeeds)).noteEvents o.events with
      world := ({ s.world with state := o.state }.spend o.duration).1 }) rfl hafter
  exact hspent.noteEvents_of_lacks hevents

theorem afterCall_of_quiet {α : Type} {o : Outcome σ α} (ho : o.Quiet kind) (call : Call) :
    (s.afterCall call o).Holds kind lines := by
  have hcalled := h.afterCall call o
  rw [filter_logs_of_lacks ho, List.append_nil] at hcalled
  exact hcalled

section Notices

variable (hkind : ∀ e : Event, e.isNotice = true → kind e = false)
include hkind

theorem reshape {shaped : Logged Response} (hshaped : shaped.Notices) :
    (s.reshape shaped).Holds kind lines :=
  (h.withResponse shaped.result).noteEvents_of_lacks (hshaped.lacks hkind)

theorem negotiate (registry : Registry) (force : Bool) :
    (s.negotiate registry force).1.Holds kind lines :=
  (h.withContext (s.context.negotiate registry force).result.1).noteEvents_of_lacks
    ((s.context.notices_negotiate registry force).lacks hkind)

theorem noteHookFailure (place stage : String) (failure : Failure) :
    (s.noteHookFailure place stage failure).Holds kind lines :=
  (h.note_of_not rfl).note_of_not (hkind _ rfl)

theorem notifyOne {callback : Callback} {o : Observer σ} (ho : o.Quiet kind callback)
    (index : Nat) : (s.notifyOne callback index o).Holds kind lines := by
  have htold := h.afterCall_of_quiet (ho s.context s.world.state)
    (.observer index callback s.context.stage s.context.response.status)
  unfold Session.notifyOne
  dsimp only
  split
  · exact htold
  · exact htold.noteHookFailure hkind _ _ _

theorem notifyFrom {callback : Callback} {observers : List (Observer σ)}
    (ho : ∀ o ∈ observers, o.Quiet kind callback) (index : Nat) :
    (Session.notifyFrom callback index observers s).Holds kind lines := by
  induction observers generalizing index s with
  | nil => exact h
  | cons o rest ih =>
    have hfirst := h.notifyOne hkind (ho o (List.mem_cons_self ..)) index
    exact ih hfirst (fun other hin => ho other (List.mem_cons_of_mem _ hin)) (index + 1)

theorem notify {callback : Callback} {observers : List (Observer σ)}
    (ho : ∀ o ∈ observers, o.Quiet kind callback) :
    (s.notify callback observers).Holds kind lines :=
  h.notifyFrom hkind ho 0

end Notices

end Session.Holds

namespace Pipeline

variable {p : Pipeline σ} {lines : Journal}

section Hooks

theorem concluded_holds {s : Session σ} (h : s.Holds kind lines) (place : String)
    (ending : Ending Unit) : (concluded place ending s).1.Holds kind lines := by
  unfold concluded
  split
  · exact h
  · exact h.note_of_not rfl

variable (hquiet : p.Quiet kind)
include hquiet

theorem preprocess_holds : p.preprocess.Maintains (Session.Holds kind lines) := by
  refine (Step.maintains_chained (Session.Holds kind lines)).inOrder 0 fun index hook hhook s h => ?_
  have hcalled := h.afterCall_of_quiet
    (hquiet.preprocessors hook hhook s.context.request s.world.state)
    (.preprocessor index)
  exact concluded_holds (hcalled.withRequest _) _ _

theorem postprocess_holds : p.postprocess.Maintains (Session.Holds kind lines) := by
  refine (Step.maintains_chained (Session.Holds kind lines)).inOrder 0 fun index hook hhook s h => ?_
  have hcalled := h.afterCall_of_quiet
    (hquiet.postprocessors hook hhook s.context.request s.context.response s.world.state)
    (.postprocessor index)
  exact concluded_holds (hcalled.withResponse _) _ _

end Hooks

section Notices

variable (hkind : ∀ e : Event, e.isNotice = true → kind e = false)
include hkind

theorem negotiation_holds : p.negotiation.Maintains (Session.Holds kind lines) := by
  intro s h
  have hnegotiate := h.negotiate hkind p.registry false
  unfold negotiation
  split
  next heq =>
    rw [heq] at hnegotiate
    exact hnegotiate
  next heq =>
    rw [heq] at hnegotiate
    exact hnegotiate

theorem handling_holds (hquiet : p.Quiet kind) {route : Route (Handler σ)}
    (hroute : route ∈ p.table.routes) :
    (p.handling route).Maintains (Session.Holds kind lines) := by
  intro s h
  obtain ⟨hworld, hevents⟩ := quiet_run hkind h.world
    (hquiet.handlers route hroute s.context.request
      { s.context.response with serialized := route.serializesResponse }) p.workers
    route.pattern.template
  have hcalled : (if (p.invocation route s).began then
        s.note (.called (.handler s.context.request.remaining) (p.invocation route s).succeeded)
      else s).Holds kind lines := by
    split
    · exact h.note_of_not rfl
    · exact h
  exact (hcalled.noteEvents_of_lacks hevents).frame rfl hworld

theorem runFinally_holds {hooks : List (Postprocessor σ)}
    (hhooks : ∀ hook ∈ hooks, ∀ request response state, (hook request response state).Quiet kind)
    (index : Nat) {s : Session σ} (h : s.Holds kind lines) :
    (runFinally index hooks s).Holds kind lines := by
  induction hooks generalizing index s with
  | nil => exact h
  | cons hook rest ih =>
    have hcalled := h.afterCall_of_quiet
      (hhooks hook (List.mem_cons_self ..) s.context.request s.context.response s.world.state)
      (.finallyHook index)
    have hrest := fun other hin => hhooks other (List.mem_cons_of_mem hook hin)
    unfold runFinally
    dsimp only
    split
    · exact ih hrest _ (hcalled.withResponse _)
    · exact ih hrest _ ((hcalled.withResponse _).noteHookFailure hkind _ _ _)

section Rendering

variable {s : Session σ} (h : s.Holds kind lines)
include h

theorem render_holds (settings : Option Settings) :
    (render settings s).1.Holds kind lines :=
  h.reshape hkind (s.context.response.notices_rendered settings s.context.hasFailure)

theorem renderPlain_holds : (renderPlain s).Holds kind lines :=
  h.reshape hkind s.context.response.notices_plain

theorem tell_holds (settings : Option Settings) : (tell settings s).Holds kind lines := by
  have hrender := render_holds hkind h settings
  unfold tell
  split
  next heq =>
    rw [heq] at hrender
    exact hrender
  next heq =>
    rw [heq] at hrender
    exact renderPlain_holds hkind hrender

end Rendering

end Notices

end Pipeline

end Switchboard
