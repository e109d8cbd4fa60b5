import Switchboard.Proofs.LoggedLines
import Switchboard.Proofs.ReportedOutcome

namespace Switchboard

namespace Event

def isCompletion : Event → Bool
  | completed .. => true
  | completedWithFailure .. => true
  | _ => false

def completionStatus? : Event → Option Nat
  | completed _ _ _ status => some status
  | completedWithFailure _ _ status _ => some status
  | _ => none

theorem isCompletion_of_isNotice (e : Event) (h : e.isNotice = true) : e.isCompletion = false := by
  cases e <;> first | rfl | cases h

end Event

theorem Status.code_inj {s t : Status} : s.code = t.code ↔ s = t := by
  refine ⟨fun h => ?_, congrArg Status.code⟩
  obtain ⟨code, _⟩ := s
  obtain ⟨other, _⟩ := t
  obtain rfl : code = other := h
  rfl

def Entry.isRequest : Entry → Bool
  | .sample (.request ..) => true
  | _ => false

variable {σ : Type}

namespace Observer

theorem isCompletion_completionEvent (c : Context (Handler σ)) :
    (completionEvent c).isCompletion = true := by
  unfold completionEvent
  split <;> rfl

theorem completionStatus_completionEvent (c : Context (Handler σ)) :
    (completionEvent c).completionStatus? = some c.response.status.code := by
  unfold completionEvent
  split <;> rfl

theorem quiet_logging {callback : Callback} (h : callback ≠ .complete) (kind : Event → Bool) :
    (logging : Observer σ).Quiet kind callback := by
  intro c state
  cases callback with
  | received => exact nofun
  | exception =>
    unfold call
    dsimp only
    split <;> exact nofun
  | success => exact nofun
  | complete => exact absurd rfl h

end Observer

/-- A session that has logged these ends of requests, and in which no others are about to be. -/
abbrev Session.HoldsCompletions (lines : Journal) (s : Session σ) : Prop :=
  s.Holds Event.isCompletion lines

namespace Session

variable {s : Session σ} {lines : Journal}

theorem HoldsCompletions.enter (h : s.HoldsCompletions lines) (stage : Stage) :
    (s.enter stage).HoldsCompletions lines :=
  (h.note_of_not rfl).withContext _

theorem notifyFrom_append (callback : Callback) (index : Nat) (observers others : List (Observer σ))
    (s : Session σ) :
    notifyFrom callback index (observers ++ others) s =
      notifyFrom callback (index + observers.length) others
        (notifyFrom callback index observers s) := by
  induction observers generalizing index s with
  | nil => rfl
  | cons o rest ih =>
    rw [List.length_cons, Nat.add_comm rest.length, ← Nat.add_assoc]
    exact ih (index + 1) _

theorem HoldsCompletions.notifyOne_logging (h : s.HoldsCompletions lines) (index : Nat) :
    (s.notifyOne .complete index .logging).HoldsCompletions
      (lines ++ [.event (Observer.completionEvent s.context)]) := by
  have htold := h.afterCall
    (.observer index .complete s.context.stage s.context.response.status)
    (Observer.logging.call .complete s.context s.world.state)
  have hline : ([Observer.completionEvent s.context].map Entry.event).filter
      (Entry.logs Event.isCompletion) = [.event (Observer.completionEvent s.context)] :=
    List.filter_cons_of_pos (Observer.isCompletion_completionEvent s.context)
  exact hline ▸ htold

/-- At the end of a request one line is added, by the one observer that logs. -/
theorem HoldsCompletions.notify_complete (h : s.HoldsCompletions lines)
    {before after : List (Observer σ)}
    (hothers : ∀ o ∈ before ++ after, o.Quiet Event.isCompletion .complete) :
    (s.notify .complete (before ++ .logging :: after)).HoldsCompletions
      (lines ++ [.event (Observer.completionEvent s.context)]) := by
  have hbefore := h.notifyFrom Event.isCompletion_of_isNotice
    (fun o ho => hothers o (List.mem_append_left _ ho)) 0
  have hlogged := HoldsCompletions.notifyOne_logging hbefore (0 + before.length)
  rw [context_notifyFrom] at hlogged
  unfold notify
  rw [notifyFrom_append]
  exact hlogged.notifyFrom Event.isCompletion_of_isNotice
    (fun o ho => hothers o (List.mem_append_right _ ho)) _

end Session

namespace Pipeline

variable {p : Pipeline σ} {lines : Journal}

/-- Observers that log no end of a request while it is in progress. -/
def QuietUntilEnd (observers : List (Observer σ)) : Prop :=
  ∀ callback, callback ≠ .complete → ∀ o ∈ observers, o.Quiet Event.isCompletion callback

theorem process_completions (hquiet : p.Quiet Event.isCompletion) :
    p.process.Maintains (Session.HoldsCompletions lines) :=
  p.process_maintains
    { binding := fun _ _ h => h.withContext _
      reached := fun stage _ h => h.enter stage
      negotiation := negotiation_holds Event.isCompletion_of_isNotice
      preprocess := preprocess_holds hquiet
      rewinding := fun _ h => h.withRequest _
      handling := fun _ => handling_holds Event.isCompletion_of_isNotice hquiet
      postprocess := postprocess_holds hquiet }

theorem isNotice_failureEvent (c : Context (Handler σ)) (failure : Failure) (reply : ErrorReply) :
    (failureEvent c failure reply).isNotice = true := by
  unfold failureEvent
  dsimp only
  split <;> rfl

section Observed

variable (hobservers : QuietUntilEnd p.observers)
include hobservers

theorem fail_completions (failure : Failure) {s : Session σ} (h : s.HoldsCompletions lines) :
    (p.fail failure s).HoldsCompletions lines := by
  have htold := (h.enter .excepted).noteEvents_of_lacks
    ((p.mapping.notices_reply failure).lacks Event.isCompletion_of_isNotice)
  have hcaptured : (p.capture failure s).HoldsCompletions lines := by
    refine Session.Holds.withContext (Session.Holds.note_of_not (htold.note_of_not ?_) rfl) _
    exact Event.isCompletion_of_isNotice _ (isNotice_failureEvent ..)
  rw [p.fail_eq]
  exact hcaptured.notify Event.isCompletion_of_isNotice (hobservers .exception nofun)

theorem settingsFor_completions {s : Session σ} (h : s.HoldsCompletions lines) :
    (p.settingsFor s).1.HoldsCompletions lines := by
  have hnegotiate := h.negotiate Event.isCompletion_of_isNotice p.registry s.context.hasFailure
  unfold settingsFor
  split
  next heq =>
    rw [heq] at hnegotiate
    exact hnegotiate
  next heq =>
    rw [heq] at hnegotiate
    split
    · exact hnegotiate
    · exact (fail_completions hobservers _ hnegotiate).negotiate Event.isCompletion_of_isNotice _ _

theorem rendering_completions {s : Session σ} (h : s.HoldsCompletions lines)
    (settings : Option Settings) : (p.rendering settings s).HoldsCompletions lines := by
  have hrender := render_holds Event.isCompletion_of_isNotice h settings
  unfold rendering
  split
  next heq =>
    rw [heq] at hrender
    exact hrender
  next heq =>
    rw [heq] at hrender
    split
    · exact renderPlain_holds Event.isCompletion_of_isNotice (hrender.note_of_not rfl)
    · exact tell_holds Event.isCompletion_of_isNotice (fail_completions hobservers _ hrender) _

theorem serialize_completions {s : Session σ} (h : s.HoldsCompletions lines) :
    (p.serialize s).HoldsCompletions lines := by
  have hrendered := rendering_completions hobservers (settingsFor_completions hobservers h)
    (p.settingsFor s).2
  have htyped : (typed (p.rendering (p.settingsFor s).2 (p.settingsFor s).1)).HoldsCompletions
      lines :=
    hrendered.reshape Event.isCompletion_of_isNotice (Response.notices_typed _ _)
  exact Session.HoldsCompletions.enter
    (htyped.reshape Event.isCompletion_of_isNotice (Response.notices_enforce _)) .serialized

theorem arrived_completions {s : Session σ} (h : s.HoldsCompletions lines) :
    (p.arrived s).HoldsCompletions lines :=
  Session.Holds.notify (h.note_of_not rfl) Event.isCompletion_of_isNotice
    (hobservers .received nofun)

theorem prepare_completions (hquiet : p.Quiet Event.isCompletion) {s : Session σ}
    (h : s.HoldsCompletions lines) : (p.prepare s).HoldsCompletions lines := by
  have hprocess := process_completions hquiet _ (arrived_completions hobservers h)
  refine serialize_completions hobservers ?_
  unfold processed
  split
  next heq =>
    rw [heq] at hprocess
    exact hprocess
  next heq =>
    rw [heq] at hprocess
    exact fail_completions hobservers _ hprocess

end Observed

section Logging

variable {before after : List (Observer σ)} (hobservers : p.observers = before ++ .logging :: after)
  (hothers : ∀ o ∈ before ++ after, ∀ callback, o.Quiet Event.isCompletion callback)
include hobservers hothers

theorem quietUntilEnd_of_logging : QuietUntilEnd p.observers := by
  intro callback hcallback o ho
  rw [hobservers] at ho
  rcases List.mem_append.mp ho with hin | hin
  · exact hothers o (List.mem_append_left _ hin) callback
  · rcases List.mem_cons.mp hin with rfl | hin
    · exact Observer.quiet_logging hcallback _
    · exact hothers o (List.mem_append_right _ hin) callback

/-- The line about the end tells of the request as the finally hooks leave it. -/
theorem closed_completions (hquiet : p.Quiet Event.isCompletion) (wire : Wire) {s : Session σ}
    (h : s.HoldsCompletions lines) :
    (p.closed wire s).HoldsCompletions
      (lines ++ [.event (Observer.completionEvent (p.closed wire s).context)]) := by
  have hfinally := runFinally_holds Event.isCompletion_of_isNotice hquiet.finallyHooks 0 h
  have hcomplete := Session.HoldsCompletions.notify_complete hfinally
    fun o ho => hothers o ho .complete
  rw [← hobservers] at hcomplete
  -- Behind the hooks only the stage changes, which the line does not tell.
  have hcontext : (p.closed wire s).context =
      { (runFinally 0 p.finallyHooks s).context with stage := .completed } := by
    unfold closed
    rw [Session.context_note, Session.context_enter, Session.context_notify]
  rw [hcontext]
  exact (hcomplete.enter .completed).note_of_not rfl

theorem finish_completions (hquiet : p.Quiet Event.isCompletion) (wire : Wire) {s : Session σ}
    (h : s.HoldsCompletions lines) :
    (p.finish wire s).HoldsCompletions
      (lines ++ [.event (Observer.completionEvent (p.finish wire s).context)]) := by
  have hwritten : ((s.note (.wrote wire)).enter .written).HoldsCompletions lines :=
    Session.HoldsCompletions.enter (h.note_of_not rfl) .written
  rw [p.finish_eq]
  unfold announced
  split
  · exact closed_completions hobservers hothers hquiet wire hwritten
  · have htold := hwritten.notify Event.isCompletion_of_isNotice
      (quietUntilEnd_of_logging hobservers hothers .success nofun)
    exact closed_completions hobservers hothers hquiet wire htold

end Logging

theorem requests_round (callback : Callback) (stage : Stage) (status : Status) (ends : List Bool) :
    (round callback stage status ends).filter Entry.isRequest = [] :=
  filter_numbered_of_not (fun _ _ => rfl) 0 ends

theorem requests_run (p : Pipeline σ) {c : Context (Handler σ)} (hfresh : c.failure = none)
    (world : World σ) :
    (p.run c world).2.journal.filter Entry.isRequest =
      [.sample (.request (p.run c world).2.context.request.method.name
        (p.run c world).1.status.code (p.run c world).2.context.routeLabel)] := by
  have hverdict : (p.verdict c world).filter Entry.isRequest = [] := by
    unfold verdict
    cases p.excepted? c world with
    | none =>
      dsimp only
      rw [List.filter_cons_of_neg Bool.false_ne_true, requests_round]
    | some told =>
      dsimp only
      rw [List.filter_cons_of_neg Bool.false_ne_true, List.filter_append, requests_round]
      rfl
  have hmilestone : ∀ e : Entry, e.isRequest = true → e.isMilestone = true := by
    intro e he
    unfold Entry.isRequest at he
    split at he
    · rfl
    · cases he
  rw [← Journal.filter_milestones hmilestone,
    show (p.run c world).2.journal.milestones = (p.run c world).2.milestones from rfl,
    p.milestones_run hfresh, List.filter_append, List.filter_append, requests_round, hverdict]
  unfold finale
  rw [List.filter_append, requests_round]
  rfl

/-- Finally hooks that leave the status of the response as it is. -/
def KeepsStatus (hooks : List (Postprocessor σ)) : Prop :=
  ∀ hook ∈ hooks, ∀ request response state,
    (hook request response state).subject.status = response.status

theorem status_runFinally {hooks : List (Postprocessor σ)} (hkeeps : KeepsStatus hooks)
    (index : Nat) (s : Session σ) :
    (runFinally index hooks s).context.response.status = s.context.response.status := by
  induction hooks generalizing index s with
  | nil => rfl
  | cons hook rest ih =>
    have hfirst := hkeeps hook (List.mem_cons_self ..) s.context.request s.context.response
      s.world.state
    have hrest : KeepsStatus rest := fun other ho => hkeeps other (List.mem_cons_of_mem _ ho)
    unfold runFinally
    dsimp only
    split <;>
    · rw [ih hrest]
      exact hfirst

theorem status_finish (p : Pipeline σ) (hkeeps : KeepsStatus p.finallyHooks) (wire : Wire)
    (s : Session σ) :
    (p.finish wire s).context.response.status = s.context.response.status :=
  p.finish_leaves (fun c => c.response.status) (fun _ _ => rfl) (status_runFinally hkeeps 0) wire s

/-- A run logs its end once, by the status that the finally hooks leave, and counts it once, by the
status that was written. These are the same if and only if the hooks leave the status as it was. -/
theorem completion_of_run (p : Pipeline σ) {before after : List (Observer σ)}
    (hobservers : p.observers = before ++ .logging :: after)
    (hothers : ∀ o ∈ before ++ after, ∀ callback, o.Quiet Event.isCompletion callback)
    (hquiet : p.Quiet Event.isCompletion) {keepAlive : Bool}
    (hwriter : p.writer = Wire.ofResponse keepAlive) {world : World σ}
    (hworld : world.Quiet Event.isCompletion) (request : Request) :
    let wire := (p.execute request world).1
    let last := (p.execute request world).2.context
    (p.execute request world).2.journal.filter (Entry.logs Event.isCompletion) =
        [.event (Observer.completionEvent last)] ∧
      (p.execute request world).2.journal.filter Entry.isRequest =
        [.sample (.request last.request.method.name wire.status.code last.routeLabel)] ∧
      ((Observer.completionEvent last).completionStatus? = some wire.status.code ↔
        last.response.status =
          (p.prepare { context := { request }, world }).context.response.status) ∧
      (KeepsStatus p.finallyHooks →
        (Observer.completionEvent last).completionStatus? = some wire.status.code) := by
  intro wire last
  have hbegun : ({ context := { request }, world } : Session σ).HoldsCompletions [] :=
    ⟨rfl, hworld⟩
  have hprepared := prepare_completions (quietUntilEnd_of_logging hobservers hothers) hquiet hbegun
  have hfinished := finish_completions hobservers hothers hquiet wire hprepared
  have hwire : wire.status =
      (p.prepare { context := { request }, world }).context.response.status := by
    show (p.writer _ _).status = _
    rw [hwriter]
    rfl
  have hlogged : (Observer.completionEvent last).completionStatus? = some wire.status.code ↔
      last.response.status =
        (p.prepare { context := { request }, world }).context.response.status := by
    rw [Observer.completionStatus_completionEvent, Option.some.injEq, Status.code_inj, hwire]
  exact ⟨hfinished.lines, p.requests_run rfl world, hlogged,
    fun hkeeps => hlogged.mpr (p.status_finish hkeeps wire _)⟩

/-- A pipeline with a hook that puts another status on the response once that is written. -/
def relabelling : Pipeline Unit where
  table.routes := [.bare .get (.returning (.text "done"))]
  finallyHooks :=
    [fun _ response state =>
      ⟨{ response with status := { code := 599 } }, state, .done (), [], 0⟩]
  observers := [.logging]

theorem relabelling_quiet : relabelling.Quiet Event.isCompletion where
  preprocessors := nofun
  handlers := by
    intro route hroute request response state
    obtain rfl := List.mem_singleton.mp hroute
    exact nofun
  postprocessors := nofun
  finallyHooks := by
    intro hook hhook request response state
    obtain rfl := List.mem_singleton.mp hhook
    exact nofun

theorem completion_of_relabelled :
    let request : Request := .ofTarget .get ⟨"/", none⟩
    let wire := (relabelling.execute request ⟨(), 0, none, []⟩).1
    let run := (relabelling.execute request ⟨(), 0, none, []⟩).2
    relabelling.observers = [] ++ .logging :: [] ∧ relabelling.Quiet Event.isCompletion ∧
      relabelling.writer = Wire.ofResponse true ∧
      run.journal.filter (Entry.logs Event.isCompletion) =
        [.event (Observer.completionEvent run.context)] ∧
      run.journal.filter Entry.isRequest =
        [.sample (.request run.context.request.method.name wire.status.code
          run.context.routeLabel)] ∧
      wire.status.code = 200 ∧
      (Observer.completionEvent run.context).completionStatus? = some 599 := by
  intro request wire run
  have hobservers : relabelling.observers = [] ++ .logging :: [] := rfl
  have hworld : World.Quiet Event.isCompletion (⟨(), 0, none, []⟩ : World Unit) := nofun
  obtain ⟨hlogged, hcounted, -, -⟩ :=
    relabelling.completion_of_run hobservers nofun relabelling_quiet rfl hworld request
  exact ⟨hobservers, relabelling_quiet, rfl, hlogged, hcounted, by decide +kernel,
    by decide +kernel⟩

end Pipeline

end Switchboard
