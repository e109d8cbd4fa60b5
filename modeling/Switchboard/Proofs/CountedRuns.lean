import Switchboard.Pipeline.History
import Switchboard.Proofs.CompletionLine
import Switchboard.Proofs.MetricTotals
import Switchboard.Proofs.ReportedOutcome
import Switchboard.Proofs.RunFrame
import Switchboard.Proofs.RunInvariants
import Switchboard.Proofs.StageOrder

namespace Switchboard

/-- The place under which a failed call is counted. A handler's failure is none of a hook. -/
def Call.place? : Call → Option String
  | preprocessor _ => some "preprocessor"
  | postprocessor _ => some "postprocessor"
  | finallyHook _ => some "finally"
  | observer .. => some "observer"
  | handler _ => none

namespace Entry

def failedPlace? : Entry → Option String
  | called call false => call.place?
  | called _ true | event _ | sample _ | wrote _ => none

def countedPlace? : Entry → Option String
  | sample s => s.hookFailure?
  | called .. | event _ | wrote _ => none

end Entry

variable {σ : Type}

theorem Ending.succeeds_of_guarded {α : Type} {ending : Ending α} {result : α}
    (h : ending.guarded = .ok result) : ending.succeeds = true := by
  cases ending with
  | done => rfl
  | failed | panicked => cases h

theorem Ending.fails_of_guarded {α : Type} {ending : Ending α} {failure : Failure}
    (h : ending.guarded = .error failure) : ending.succeeds = false := by
  cases ending with
  | done => cases h
  | failed | panicked => rfl

namespace Session

/-- The failed calls of hooks have all been counted, in their order. -/
def Tallied (s : Session σ) : Prop :=
  s.journal.filterMap Entry.countedPlace? = s.journal.filterMap Entry.failedPlace?

theorem Tallied.append {s t : Session σ} (h : s.Tallied) {entries : Journal}
    (hjournal : t.journal = s.journal ++ entries)
    (hentries : entries.filterMap Entry.countedPlace? = entries.filterMap Entry.failedPlace?) :
    t.Tallied := by
  unfold Tallied at h ⊢
  rw [hjournal, List.filterMap_append, List.filterMap_append, h, hentries]

theorem filterMap_events {f : Entry → Option String} (hf : ∀ e, f (.event e) = none)
    (events : List Event) : (events.map Entry.event).filterMap f = [] := by
  rw [List.filterMap_map]
  exact List.filterMap_eq_nil_iff.mpr fun e _ => hf e

theorem journal_afterCall {α : Type} (s : Session σ) (call : Call) (o : Outcome σ α) :
    ∃ events : List Event, (s.afterCall call o).journal =
      s.journal ++ .called call o.ending.succeeds :: events.map .event := by
  refine ⟨o.events ++ ({ s.world with state := o.state }.spend o.duration).2, ?_⟩
  rw [List.map_append]
  show ((s.journal ++ [_]) ++ o.events.map .event) ++ _ = _
  simp only [List.append_assoc, List.cons_append, List.nil_append]
  rfl

section Called

variable {α : Type} {s : Session σ} (h : s.Tallied) {call : Call} (o : Outcome σ α)
include h

theorem Tallied.afterCall {result : Unit} (hending : o.ending.guarded = .ok result) :
    (s.afterCall call o).Tallied := by
  obtain ⟨events, hjournal⟩ := s.journal_afterCall call o
  rw [Ending.succeeds_of_guarded hending] at hjournal
  refine h.append hjournal ?_
  rw [List.filterMap_cons_none rfl, List.filterMap_cons_none rfl, filterMap_events fun _ => rfl,
    filterMap_events fun _ => rfl]

theorem Tallied.afterFailed {place : String} (hplace : call.place? = some place)
    {failure : Failure} (hending : o.ending.guarded = .error failure) :
    ((s.afterCall call o).note (.sample (.hookFailure place))).Tallied := by
  obtain ⟨events, hjournal⟩ := s.journal_afterCall call o
  rw [Ending.fails_of_guarded hending] at hjournal
  have hnoted : ((s.afterCall call o).note (.sample (.hookFailure place))).journal =
      s.journal ++
        (.called call false :: (events.map .event ++ [.sample (.hookFailure place)])) := by
    show (s.afterCall call o).journal ++ _ = _
    rw [hjournal, List.append_assoc, List.cons_append]
  have hfailed : Entry.failedPlace? (.called call false) = some place := hplace
  refine h.append hnoted ?_
  rw [List.filterMap_cons_none rfl, List.filterMap_cons_some hfailed, List.filterMap_append,
    List.filterMap_append, filterMap_events fun _ => rfl, filterMap_events fun _ => rfl]
  rfl

end Called

end Session

namespace Pipeline

variable (p : Pipeline σ)

/-- Wherever a hook is called, its failure is counted before anything else goes on. -/
theorem lasting_tallied : p.Lasting Session.Tallied where
  withContext _ _ h := h
  noteEvents s events h := h.append rfl (by
    rw [Session.filterMap_events fun _ => rfl, Session.filterMap_events fun _ => rfl])
  noteFailure _ _ h := h.append rfl rfl
  noteRequest _ _ _ _ h := h.append rfl rfl
  noteWire _ _ h := h.append rfl rfl
  observed callback index o _ s h := by
    unfold Session.notifyOne
    dsimp only
    split
    next hending => exact h.afterCall _ hending
    next hending => exact (h.afterFailed _ rfl hending).append rfl rfl
  preprocessing index hook _ s h := by
    unfold preprocessing concluded
    dsimp only
    split
    next hending => exact h.afterCall _ hending
    next hending => exact h.afterFailed _ rfl hending
  handling route _ s h := by
    unfold handling
    dsimp only
    refine Session.Tallied.append (s := if (p.invocation route s).began then
      s.note (.called (.handler s.context.request.remaining) (p.invocation route s).succeeded)
      else s) ?_ rfl ?_
    · split
      · refine h.append rfl ?_
        cases (p.invocation route s).succeeded <;> rfl
      · exact h
    · rw [Session.filterMap_events fun _ => rfl, Session.filterMap_events fun _ => rfl]
  postprocessing index hook _ s h := by
    unfold postprocessing concluded
    dsimp only
    split
    next hending => exact h.afterCall _ hending
    next hending => exact h.afterFailed _ rfl hending
  finalizing index hook _ s h := by
    unfold finalizing
    dsimp only
    split
    next hending => exact h.afterCall _ hending
    next hending => exact (h.afterFailed _ rfl hending).append rfl rfl

theorem samples_filter {α : Type} {kind? : Sample → Option α} {keep : Entry → Bool}
    (hkeep : ∀ s, (kind? s).isSome = true → keep (.sample s) = true) (j : Journal) :
    (Journal.samples (j.filter keep)).filterMap kind? = j.samples.filterMap kind? := by
  unfold Journal.samples
  rw [List.filterMap_filterMap, List.filterMap_filterMap, List.filterMap_filter]
  refine List.filterMap_congr fun e _ => ?_
  cases hkept : keep e with
  | true => rfl
  | false =>
    cases e with
    | sample s =>
      cases hs : kind? s with
      | none => simp [Entry.sample?, hs]
      | some a =>
        have hkept' := hkeep s (by rw [hs]; rfl)
        rw [hkept] at hkept'
        cases hkept'
    | event | called | wrote => rfl

section Run

variable {c : Context (Handler σ)} (hfresh : c.failure = none) (world : World σ)
include hfresh

theorem requests_of_run (haction : c.action = none) :
    (p.run c world).2.journal.samples.filterMap Sample.request? =
      [((p.run c world).2.context.request.method.name, (p.run c world).1.status.code,
        p.templateOf c.request)] := by
  have hkeep : ∀ s : Sample, s.request?.isSome = true → Entry.isRequest (.sample s) = true := by
    intro s hs
    cases s with
    | request => rfl
    | failure | hookFailure => cases hs
  rw [← samples_filter hkeep, p.requests_run hfresh world, p.routeLabel_run haction world]
  rfl

theorem failures_of_run :
    (p.run c world).2.journal.samples.filterMap Sample.failure? =
      (p.run c world).2.context.failure.toList.map fun failure =>
        (p.mapping.reply failure).result.status.code := by
  have hkeep : ∀ s : Sample, s.failure?.isSome = true → Entry.isCapture (.sample s) = true := by
    intro s hs
    cases s with
    | failure => rfl
    | request | hookFailure => cases hs
  rw [← samples_filter hkeep, p.captures_run hfresh world]
  cases (p.run c world).2.context.failure <;> rfl

/-- The failure of a run is counted under the status of the response that it writes. -/
theorem failures_of_written :
    (p.run c world).2.journal.samples.filterMap Sample.failure? =
      if (p.run c world).2.context.hasFailure then
        [(p.written c world).context.response.status.code]
      else [] := by
  rw [p.failures_of_run hfresh]
  cases hfailure : (p.run c world).2.context.failure with
  | none =>
    rw [Context.hasFailure_of_none hfailure]
    rfl
  | some failure =>
    rw [Context.hasFailure_of_some hfailure, p.response_written,
      p.status_of_failure hfresh hfailure]
    rfl

end Run

/-- The failures of hooks are counted once for every call that failed. -/
theorem hookFailures_of_run (c : Context (Handler σ)) (world : World σ) :
    (p.run c world).2.journal.samples.filterMap Sample.hookFailure? =
      (p.run c world).2.journal.filterMap Entry.failedPlace? := by
  have htallied : (p.run c world).2.Tallied := p.lasting_tallied.run rfl
  refine Eq.trans ?_ htallied
  unfold Journal.samples
  rw [List.filterMap_filterMap]
  refine List.filterMap_congr fun e _ => ?_
  cases e <;> rfl

/-- The hooks and observers that are called in a run, by the place under which they are counted if
they fail, each with how its own call ends. -/
def callEndings (c : Context (Handler σ)) (world : World σ) : List (String × Bool) :=
  let told := match p.excepted? c world with
    | some (failure, x) => HookTurn.throughout (p.mourners failure) x
    | none => HookTurn.throughout (p.watchers Observer.success) (p.written c world)
  let closing := p.closing (p.written c world)
  (p.preprocessed c world).1.map (Prod.mk "preprocessor") ++
    (p.postprocessed c world).map (Prod.mk "postprocessor") ++
    closing.1.map (Prod.mk "finally") ++
    ((HookTurn.throughout (p.watchers Observer.received) ⟨c, world⟩).1 ++ told.1 ++
      (HookTurn.throughout (p.watchers Observer.complete) closing.2).1).map (Prod.mk "observer")

section FailedCalls

variable {q : Option String → Bool} (hq : q none = false)
include hq

theorem countP_numbered (call : Nat → Call) {place : String}
    (hplace : ∀ index, (call index).place? = some place) (index : Nat) (ends : List Bool) :
    (numbered call index ends).countP (fun e => q e.failedPlace?) =
      (ends.map (Prod.mk place)).countP fun x => !x.2 && q (some x.1) := by
  induction ends generalizing index with
  | nil => rfl
  | cons ok rest ih =>
    unfold numbered
    rw [List.countP_cons, List.map_cons, List.countP_cons, ih]
    cases ok with
    | true => simp [Entry.failedPlace?, hq]
    | false => simp [Entry.failedPlace?, hplace]

theorem countP_handlerCalls (c : Context (Handler σ)) (world : World σ) :
    (p.handlerCalls c world).countP (fun e => q e.failedPlace?) = 0 := by
  rw [List.countP_eq_zero]
  intro e he
  obtain ⟨remaining, ok, rfl⟩ := p.mem_handlerCalls he
  cases ok <;> simp [Entry.failedPlace?, Call.place?, hq]

theorem countP_failedPlace (j : Journal) :
    j.countP (fun e => q e.failedPlace?) =
      j.deeds.countP (fun e => q e.failedPlace?) +
        j.milestones.countP (fun e => q e.failedPlace?) := by
  rw [List.countP_eq_countP_filter_add j _ Entry.isDeed]
  unfold Journal.deeds Journal.milestones
  rw [Nat.add_left_cancel_iff, List.countP_filter, List.countP_filter]
  refine List.countP_congr fun e _ => ?_
  cases e with
  | called call ok =>
    cases ok with
    | true => simp [Entry.failedPlace?, hq]
    | false =>
      cases call <;>
        simp [Entry.failedPlace?, Call.place?, Entry.isDeed, Entry.isMilestone, hq]
  | event | sample | wrote => simp [Entry.failedPlace?, hq]

theorem countP_deeds_run (c : Context (Handler σ)) (world : World σ) :
    (p.run c world).2.deeds.countP (fun e => q e.failedPlace?) =
      ((p.preprocessed c world).1.map (Prod.mk "preprocessor") ++
        (p.postprocessed c world).map (Prod.mk "postprocessor") ++
        (p.closing (p.written c world)).1.map (Prod.mk "finally")).countP
          fun x => !x.2 && q (some x.1) := by
  have hwrote : q (Entry.wrote (p.run c world).1).failedPlace? = false := hq
  rw [p.deeds_of_run (p.process_does c world)]
  simp only [List.countP_append, List.countP_cons, hwrote, p.countP_handlerCalls hq,
    countP_numbered hq .preprocessor (fun _ => rfl),
    countP_numbered hq .postprocessor (fun _ => rfl),
    countP_numbered hq .finallyHook (fun _ => rfl)]
  simp

theorem countP_milestones_run {c : Context (Handler σ)} (hfresh : c.failure = none)
    (world : World σ) :
    (p.run c world).2.milestones.countP (fun e => q e.failedPlace?) =
      (((HookTurn.throughout (p.watchers Observer.received) ⟨c, world⟩).1 ++
          (match p.excepted? c world with
            | some (failure, x) => HookTurn.throughout (p.mourners failure) x
            | none => HookTurn.throughout (p.watchers Observer.success) (p.written c world)).1 ++
          (HookTurn.throughout (p.watchers Observer.complete)
            (p.closing (p.written c world)).2).1).map (Prod.mk "observer")).countP
          fun x => !x.2 && q (some x.1) := by
  have hround (callback : Callback) (stage : Stage) (status : Status) (ends : List Bool) :
      (round callback stage status ends).countP (fun e => q e.failedPlace?) =
        (ends.map (Prod.mk "observer")).countP fun x => !x.2 && q (some x.1) :=
    countP_numbered hq _ (fun _ => rfl) 0 ends
  have hsample (s : Sample) : q (Entry.sample s).failedPlace? = false := hq
  have hwrote (w : Wire) : q (Entry.wrote w).failedPlace? = false := hq
  rw [p.milestones_run hfresh]
  unfold verdict finale
  cases p.excepted? c world <;>
  · simp only [List.countP_append, List.countP_cons, List.countP_nil, List.map_append, hround,
      hsample, hwrote]
    simp [mourners, Nat.add_assoc]

/-- The failed calls that the journal of a run has are those that fail themselves. -/
theorem countP_failed_run {c : Context (Handler σ)} (hfresh : c.failure = none)
    (world : World σ) :
    (p.run c world).2.journal.countP (fun e => q e.failedPlace?) =
      (p.callEndings c world).countP fun x => !x.2 && q (some x.1) := by
  rw [countP_failedPlace hq]
  unfold callEndings
  rw [List.countP_append]
  exact congrArg₂ (· + ·) (p.countP_deeds_run hq c world) (p.countP_milestones_run hq hfresh world)

end FailedCalls

/-- A writer that puts the status of the response on the wire, as the standard one does. -/
def WritesStatus : Prop := ∀ request response, (p.writer request response).status = response.status

theorem writesStatus_ofResponse {keepAlive : Bool} (h : p.writer = Wire.ofResponse keepAlive) :
    p.WritesStatus := by
  intro request response
  rw [h]
  rfl

end Pipeline

/-- A request as it comes, and the world to which it comes. -/
structure Occasion (σ : Type) where
  request : Request
  world : World σ

namespace Pipeline

variable (p : Pipeline σ)

/-- The requests of a history with the worlds to which they come. -/
def occasions : List (Dispatch σ) → World σ → List (Occasion σ)
  | [], _ => []
  | dispatch :: rest, world =>
    ⟨dispatch.request, dispatch.before world⟩ ::
      occasions rest (p.execute dispatch.request (dispatch.before world)).2.world

def visit (a : Occasion σ) : Visit σ :=
  ⟨a.request, (p.execute a.request a.world).1, (p.execute a.request a.world).2⟩

/-- What a request has come to when its response is written. -/
def writtenFor (a : Occasion σ) : Context (Handler σ) :=
  (p.written { request := a.request } a.world).context

/-- What a visit is counted as: its method, the status on the wire and the template of its route. -/
def outcome (v : Visit σ) : String × Nat × String :=
  (v.session.context.request.method.name, v.wire.status.code, p.templateOf v.request)

/-- Counters that say of the requests what became of them. -/
structure AddUp (occasions : List (Occasion σ)) (m : Metrics) : Prop where
  requests : m.sum "dispatch_requests_total" = occasions.length
  durations : m.sum "dispatch_request_duration_seconds" = occasions.length
  requestsOf (method : String) (status : Nat) (route : String) :
    m.total ⟨"dispatch_requests_total",
        [("method", method), ("route", route), ("status", toString status)]⟩ =
      occasions.countP fun a => p.outcome (p.visit a) = (method, status, route)
  durationsOf (method : String) (status : Nat) (route : String) :
    m.total ⟨"dispatch_request_duration_seconds",
        [("method", method), ("route", route), ("status", toString status)]⟩ =
      occasions.countP fun a => p.outcome (p.visit a) = (method, status, route)
  wires : ∀ a ∈ occasions,
    (p.visit a).wire = p.writer (p.writtenFor a).request (p.writtenFor a).response
  failures :
    m.sum "dispatch_failures_total" =
      occasions.countP fun a => (p.visit a).session.context.hasFailure
  failuresOf (status : Nat) :
    m.total ⟨"dispatch_failures_total", [("status", toString status)]⟩ =
      occasions.countP fun a =>
        (p.visit a).session.context.hasFailure && (p.writtenFor a).response.status.code = status
  /-- A writer may put another status on the wire than that of the response. -/
  failuresOnWire (status : Nat) : p.WritesStatus →
    m.total ⟨"dispatch_failures_total", [("status", toString status)]⟩ =
      occasions.countP fun a =>
        (p.visit a).session.context.hasFailure && (p.visit a).wire.status.code = status
  hookFailures :
    m.sum "dispatch_hook_failures_total" =
      (occasions.flatMap fun a => p.callEndings { request := a.request } a.world).countP (!·.2)
  hookFailuresOf (place : String) :
    m.total ⟨"dispatch_hook_failures_total", [("stage", place)]⟩ =
      (occasions.flatMap fun a => p.callEndings { request := a.request } a.world).countP
        (· = (place, false))

theorem requests_occasions (dispatches : List (Dispatch σ)) (world : World σ) :
    (p.occasions dispatches world).map (·.request) = dispatches.map (·.request) := by
  induction dispatches generalizing world with
  | nil => rfl
  | cons dispatch rest ih => exact congrArg (dispatch.request :: ·) (ih _)

/-- Every visit is a run of its own, from a world of its own. -/
theorem visits_serve (dispatches : List (Dispatch σ)) (world : World σ) (m : Metrics) :
    (p.serve dispatches world m).1 = (p.occasions dispatches world).map p.visit := by
  induction dispatches generalizing world m with
  | nil => rfl
  | cons dispatch rest ih =>
    exact congrArg (p.visit ⟨dispatch.request, dispatch.before world⟩ :: ·) (ih _ _)

def recorded (occasions : List (Occasion σ)) : List Sample :=
  occasions.flatMap fun a => (p.visit a).session.journal.samples

theorem metrics_serve (dispatches : List (Dispatch σ)) (world : World σ) (m : Metrics) :
    (p.serve dispatches world m).2 = m.recordAll (p.recorded (p.occasions dispatches world)) := by
  induction dispatches generalizing world m with
  | nil => rfl
  | cons dispatch rest ih =>
    refine (ih _ _).trans ?_
    rw [← Metrics.recordAll_append]
    rfl

section Occasions

variable (occasions : List (Occasion σ))

theorem requests_of_occasions :
    (p.recorded occasions).filterMap Sample.request? =
      occasions.map fun a => p.outcome (p.visit a) := by
  unfold recorded
  rw [List.filterMap_flatMap, List.map_eq_flatMap]
  exact List.flatMap_congr fun a _ =>
    p.requests_of_run (c := { request := a.request }) rfl a.world rfl

theorem failures_of_occasions :
    (p.recorded occasions).filterMap Sample.failure? =
      (occasions.filter fun a => (p.visit a).session.context.hasFailure).map fun a =>
        (p.writtenFor a).response.status.code := by
  induction occasions with
  | nil => rfl
  | cons a rest ih =>
    have hcounted := p.failures_of_written (c := { request := a.request }) rfl a.world
    have hrecorded : p.recorded (a :: rest) =
        (p.run { request := a.request } a.world).2.journal.samples ++ p.recorded rest := rfl
    rw [List.filter_cons, hrecorded, List.filterMap_append, ih]
    cases hfailed : (p.run { request := a.request } a.world).2.context.hasFailure <;>
      rw [hfailed] at hcounted
    · rw [if_neg (by rw [show (p.visit a).session.context.hasFailure = false from hfailed]; simp)]
      exact congrArg (· ++ _) hcounted
    · rw [if_pos (show (p.visit a).session.context.hasFailure = true from hfailed)]
      exact congrArg (· ++ _) hcounted

theorem countP_hookFailures {q : Option String → Bool} (hq : q none = false) :
    ((p.recorded occasions).filterMap Sample.hookFailure?).countP (fun place => q (some place)) =
      (occasions.flatMap fun a => p.callEndings { request := a.request } a.world).countP
        fun x => !x.2 && q (some x.1) := by
  unfold recorded
  rw [List.filterMap_flatMap, List.countP_flatMap, List.countP_flatMap]
  refine congrArg List.sum (List.map_congr_left fun a _ => ?_)
  have hfailed := p.countP_failed_run hq (c := { request := a.request }) rfl a.world
  refine Eq.trans ?_ hfailed
  show ((p.run { request := a.request } a.world).2.journal.samples.filterMap _).countP _ = _
  rw [p.hookFailures_of_run, List.countP_filterMap]
  refine List.countP_congr fun e _ => ?_
  cases e.failedPlace? <;> simp [hq]

theorem addUp_of_runs : p.AddUp occasions (({} : Metrics).recordAll (p.recorded occasions)) := by
  have hrequests := p.requests_of_occasions occasions
  have hfailures := p.failures_of_occasions occasions
  have heach (name : String) (hkind : ∀ s : Sample, s.series.filter (·.name = name) =
      s.request?.toList.map (Metrics.requestSeries name)) (method : String) (status : Nat)
      (route : String) :
      (({} : Metrics).recordAll (p.recorded occasions)).total
        (Metrics.requestSeries name (method, status, route)) =
          occasions.countP fun a => p.outcome (p.visit a) = (method, status, route) := by
    rw [Metrics.total_recorded hkind (fun _ => rfl) (Metrics.requestSeries_injective name),
      hrequests, List.countP_map]
    rfl
  have hfailed (status : Nat) :
      (({} : Metrics).recordAll (p.recorded occasions)).total (Metrics.failureSeries status) =
        occasions.countP fun a =>
          (p.visit a).session.context.hasFailure &&
            (p.writtenFor a).response.status.code = status := by
    rw [Metrics.total_recorded Metrics.filter_failures (fun _ => rfl)
      Metrics.failureSeries_injective, hfailures, List.countP_map, List.countP_filter]
    refine List.countP_congr fun a _ => ?_
    simp [and_comm]
  exact
    { requests := by
        rw [Metrics.sum_recorded Metrics.filter_requests, hrequests, List.length_map]
      durations := by
        rw [Metrics.sum_recorded Metrics.filter_durations, hrequests, List.length_map]
      requestsOf := heach _ Metrics.filter_requests
      durationsOf := heach _ Metrics.filter_durations
      wires := fun a _ => p.wire_run { request := a.request } a.world
      failures := by
        rw [Metrics.sum_recorded Metrics.filter_failures, hfailures, List.length_map,
          List.countP_eq_length_filter]
      failuresOf := hfailed
      failuresOnWire := by
        intro status hwriter
        have hwire (a : Occasion σ) :
            (p.visit a).wire.status = (p.writtenFor a).response.status :=
          hwriter _ _
        simp only [hwire]
        exact hfailed status
      hookFailures := by
        rw [Metrics.sum_recorded Metrics.filter_hookFailures, ← List.countP_true]
        exact (p.countP_hookFailures occasions (q := Option.isSome) rfl).trans (by simp)
      hookFailuresOf := by
        intro place
        show Metrics.total _ (Metrics.hookFailureSeries place) = _
        rw [Metrics.total_recorded Metrics.filter_hookFailures (fun _ => rfl)
          Metrics.hookFailureSeries_injective]
        have hcounted := p.countP_hookFailures occasions (q := fun o => o = some place) (by simp)
        simp only [Option.some.injEq] at hcounted
        rw [hcounted]
        refine List.countP_congr fun x _ => ?_
        obtain ⟨other, ok⟩ := x
        cases ok <;> simp }

end Occasions

/-- However many requests are served, and whatever becomes of the world between them, the counters
add up: every run is counted once and under what it was, every captured failure once and under the
status that was written, and every call of a hook that fails once and under its place. -/
theorem metrics_add_up (dispatches : List (Dispatch σ)) (world : World σ) :
    let served := p.serve dispatches world {}
    let occasions := p.occasions dispatches world
    occasions.map (·.request) = dispatches.map (·.request) ∧ served.1 = occasions.map p.visit ∧
      p.AddUp occasions served.2 ∧
      (p.KeepsMethod →
        ∀ v ∈ served.1, v.session.context.request.method = v.request.method) := by
  intro served occasions
  have hvisits : served.1 = occasions.map p.visit := p.visits_serve dispatches world {}
  refine ⟨p.requests_occasions dispatches world, hvisits, ?_, fun hkeeps v hv => ?_⟩
  · show p.AddUp occasions (p.serve dispatches world {}).2
    rw [p.metrics_serve]
    exact p.addUp_of_runs occasions
  · rw [hvisits] at hv
    obtain ⟨a, -, rfl⟩ := List.mem_map.mp hv
    exact p.method_run hkeeps { request := a.request } a.world

/-- A request whose postprocessor panics and one without a route. The first of the finally hooks
panics in both. -/
example :
    let m := (nibbling.serve [⟨nibbled.request, id⟩, ⟨.ofTarget .get ⟨"/x", none⟩, id⟩]
      ⟨(), 0, none, []⟩ {}).2
    (m.sum "dispatch_requests_total", m.sum "dispatch_failures_total",
      m.sum "dispatch_hook_failures_total") = (2, 2, 3) := by
  rfl

end Pipeline

end Switchboard
