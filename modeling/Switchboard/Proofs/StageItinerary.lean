import Switchboard.Proofs.Mishaps
import Switchboard.Proofs.StageOrder
import Switchboard.Proofs.StageTrail

namespace Switchboard

namespace Stage

/-- The stages behind the arrival of a request. A captured failure adds one of its own. -/
def itinerary (reached : List Stage) (failed : Bool) : List Stage :=
  reached ++ (if failed then [excepted] else []) ++ [serialized, written, completed]

/-- The stages behind the arrival up to one in which a response is made. -/
def through : Stage → List Stage
  | received => []
  | resolved => [resolved]
  | preprocessed => [resolved, preprocessed]
  | invoked => [resolved, preprocessed, invoked]
  | postprocessed | serialized | written | completed | excepted => regular

theorem through_prefix (stage : Stage) : stage.through <+: regular := by
  cases stage <;> decide

theorem getLastD_itinerary (reached : List Stage) (failed : Bool) (source : Stage) :
    (itinerary reached failed).getLastD source = completed := by
  unfold itinerary
  rw [List.getLastD_eq_getLast?, List.getLast?_append]
  rfl

/-- No stage comes twice. -/
theorem nodup_itinerary {reached : List Stage} (h : reached <+: regular) (failed : Bool) :
    (received :: itinerary reached failed).Nodup := by
  have hsub : (itinerary reached failed).Sublist (itinerary regular failed) :=
    (h.sublist.append_right _).append_right _
  have hall : (received :: itinerary regular failed).Nodup := by
    cases failed <;> decide
  exact hall.sublist (hsub.cons_cons received)

end Stage

namespace Pipeline

variable {σ : Type}

/-- The stage in which something goes wrong. -/
inductive MishapAt (p : Pipeline σ) (c : Context (Handler σ)) (world : World σ) : Stage → Prop where
  | resolution {e : ServiceError} :
    p.table.resolve c.request.method c.request.path = .error e → MishapAt p c world .received
  | negotiation {action : Action (Handler σ)} {e : ServiceError} :
    p.table.resolve c.request.method c.request.path = .ok action →
    (c.bindAction action).choice p.registry false = .error e → MishapAt p c world .resolved
  | preprocessor {index : Nat} :
    .called (.preprocessor index) false ∈ (p.run c world).2.journal → MishapAt p c world .resolved
  | handler {route : Route (Handler σ)} {s : Session σ} :
    p.ready? c world = some (route, s) → (p.invocation route s).succeeded = false →
    MishapAt p c world .preprocessed
  | postprocessor {index : Nat} :
    .called (.postprocessor index) false ∈ (p.run c world).2.journal → MishapAt p c world .invoked
  | serializer {s : Session σ} {e : SerializationError} :
    p.process (p.arrived { context := c, world }) = (s, .ok ()) →
    (s.context.response.rendered s.context.settings false).result.2 = .error e →
    MishapAt p c world .postprocessed

variable (p : Pipeline σ) {c : Context (Handler σ)} {world : World σ}

section Called

/-- A failed call is in the journal of a run exactly if it is among those until its response is
rendered, unless it is one of the finally hooks. -/
theorem mem_journal_iff (call : Call) (hdeed : Entry.isDeed (.called call false) = true)
    (hfinally : ∀ index, call ≠ .finallyHook index) :
    .called call false ∈ (p.run c world).2.journal ↔
      .called call false ∈ numbered .preprocessor 0 (p.preprocessed c world).1 ++
        (p.handlerCalls c world ++ numbered .postprocessor 0 (p.postprocessed c world)) := by
  have hmem : .called call false ∈ (p.run c world).2.deeds ↔
      .called call false ∈ (p.run c world).2.journal :=
    List.mem_filter.trans (and_iff_left hdeed)
  rw [← hmem, p.deeds_of_run (p.process_does c world), List.mem_append]
  refine or_iff_left ?_
  intro hin
  rcases List.mem_cons.mp hin with heq | hin
  · cases heq
  · obtain ⟨index, ok, -, heq⟩ := exists_of_mem_numbered hin
    exact absurd (Entry.called.inj heq).1 (hfinally index)

theorem called_preprocessor_iff :
    (∃ index, .called (.preprocessor index) false ∈ (p.run c world).2.journal) ↔
      false ∈ (p.preprocessed c world).1 := by
  constructor
  · rintro ⟨index, h⟩
    rw [p.mem_journal_iff (.preprocessor index) rfl nofun] at h
    rcases List.mem_append.mp h with hin | hin
    · obtain ⟨_, ok, hok, heq⟩ := exists_of_mem_numbered hin
      obtain ⟨-, rfl⟩ := Entry.called.inj heq
      exact hok
    · rcases List.mem_append.mp hin with hin | hin
      · obtain ⟨_, _, heq⟩ := p.mem_handlerCalls hin
        cases heq
      · obtain ⟨_, _, -, heq⟩ := exists_of_mem_numbered hin
        cases heq
  · intro h
    obtain ⟨index, hindex⟩ := mem_numbered .preprocessor 0 h
    refine ⟨index, (p.mem_journal_iff (.preprocessor index) rfl nofun).mpr ?_⟩
    exact List.mem_append_left _ hindex

theorem called_postprocessor_iff :
    (∃ index, .called (.postprocessor index) false ∈ (p.run c world).2.journal) ↔
      false ∈ p.postprocessed c world := by
  constructor
  · rintro ⟨index, h⟩
    rw [p.mem_journal_iff (.postprocessor index) rfl nofun] at h
    rcases List.mem_append.mp h with hin | hin
    · obtain ⟨_, _, -, heq⟩ := exists_of_mem_numbered hin
      cases heq
    · rcases List.mem_append.mp hin with hin | hin
      · obtain ⟨_, _, heq⟩ := p.mem_handlerCalls hin
        cases heq
      · obtain ⟨_, ok, hok, heq⟩ := exists_of_mem_numbered hin
        obtain ⟨-, rfl⟩ := Entry.called.inj heq
        exact hok
  · intro h
    obtain ⟨index, hindex⟩ := mem_numbered .postprocessor 0 h
    refine ⟨index, (p.mem_journal_iff (.postprocessor index) rfl nofun).mpr ?_⟩
    exact List.mem_append_right _ (List.mem_append_right _ hindex)

end Called

/-- The journal and the run in progress tell where something goes wrong as the hooks and the handler
do. -/
theorem mishapAt_iff {stage : Stage} : p.MishapAt c world stage ↔ p.Mishap c world stage := by
  constructor
  · intro h
    cases h with
    | resolution hfound => exact .resolution hfound
    | negotiation hfound hchoice => exact .negotiation hfound hchoice
    | preprocessor hcalled => exact .preprocessor (p.called_preprocessor_iff.mp ⟨_, hcalled⟩)
    | @handler route s hready hfailed =>
      have hentrusted : p.entrusted? c world = some (route, s.point) := by
        rw [p.entrusted?_eq_ready?, hready]
        rfl
      rw [← p.isSome_back?] at hfailed
      refine .handler hentrusted (p.back?_eq_none_iff.mp ?_)
      exact Option.isNone_iff_eq_none.mp (Option.isSome_eq_false_iff.mp hfailed)
    | postprocessor hcalled => exact .postprocessor (p.called_postprocessor_iff.mp ⟨_, hcalled⟩)
    | serializer hprocess hunrendered => exact .serializer hprocess hunrendered
  · intro h
    cases h with
    | resolution hfound => exact .resolution hfound
    | negotiation hfound hchoice => exact .negotiation hfound hchoice
    | preprocessor hfailed =>
      obtain ⟨index, hcalled⟩ := p.called_preprocessor_iff.mpr hfailed
      exact .preprocessor hcalled
    | handler hentrusted hfailed =>
      rw [p.entrusted?_eq_ready?] at hentrusted
      obtain ⟨⟨route, s⟩, hready, heq⟩ := Option.map_eq_some_iff.mp hentrusted
      obtain ⟨rfl, rfl⟩ := Prod.mk.inj heq
      refine .handler hready ?_
      rw [← p.isSome_back?, p.back?_eq_none_iff.mpr hfailed]
      rfl
    | postprocessor hfailed =>
      obtain ⟨index, hcalled⟩ := p.called_postprocessor_iff.mpr hfailed
      exact .postprocessor hcalled
    | serializer hprocess hunrendered => exact .serializer hprocess hunrendered

theorem getLastD_through_lastStage :
    (p.lastStage c world).through.getLastD .received = p.lastStage c world := by
  unfold lastStage
  split
  · rfl
  · rfl
  · rfl
  · split <;> rfl

theorem lastStage_of_returned {x : Point σ} (h : p.returned? c world = some x) :
    p.lastStage c world = if (p.concluding x).1.all id then .postprocessed else .invoked := by
  obtain ⟨call, hentrusted⟩ := p.exists_entrusted_of_returned h
  obtain ⟨action, hfound⟩ := p.exists_found_of_entrusted hentrusted
  unfold lastStage
  rw [hfound, hentrusted, h]

theorem lastStage_of_sound (hfresh : c.failure = none)
    (h : (p.run c world).2.context.failure = none) : p.lastStage c world = .postprocessed := by
  rw [p.failure_run hfresh, Option.map_eq_none_iff] at h
  have hgoes : (p.process (p.arrived { context := c, world })).2.isOk = true := by
    cases hok : (p.process (p.arrived { context := c, world })).2.isOk with
    | true => rfl
    | false =>
      have hsome := p.excepted?_of_stop hok
      rw [h] at hsome
      cases hsome
  rw [(p.process_turns c world).1] at hgoes
  obtain ⟨x, hreturned, hall⟩ := Option.any_eq_true _ _ |>.mp hgoes
  rw [p.lastStage_of_returned hreturned, if_pos hall]

/-- How far a run comes before its response is rendered, with the stages it passes on the way. -/
theorem process_passes (hc : c.stage = .received) (world : World σ) :
    p.Passed world (p.lastStage c world).through
      (p.process (p.arrived { context := c, world })).1 := by
  have harrived : p.Passed world [] (p.arrived { context := c, world }) :=
    Passed.notify ((passed_start hc).log rfl) .received
  have hprocess := p.process_eq (p.arrived { context := c, world })
  rw [context_arrived] at hprocess
  rw [hprocess]
  cases hfound : p.table.resolve c.request.method c.request.path with
  | error e =>
    unfold lastStage
    rw [hfound]
    exact harrived
  | ok action =>
    have hturns := p.approach_turns world hfound
    have hpassed := approach_advances action _ harrived
    dsimp only
    split at hturns
    next t heq =>
      rw [heq] at hpassed
      have hdeparted := departure_advances (Table.mem_of_resolve hfound) hpassed
      have hreturned := (p.calls_of_entrusted hturns).1
      rw [(p.departure_turns action.route t).1, ← p.isSome_back?, ← hreturned] at hdeparted
      rw [Step.andThen_of_ok heq]
      cases hback : p.returned? c world with
      | none =>
        unfold lastStage
        rw [hback] at hdeparted ⊢
        rw [hfound, hturns]
        exact hdeparted
      | some x =>
        rw [hback] at hdeparted
        rw [p.lastStage_of_returned hback]
        cases hall : (p.concluding x).1.all id <;>
        · rw [Option.any_some, hall] at hdeparted
          exact hdeparted
    next t failure heq =>
      rw [heq] at hpassed
      unfold lastStage
      rw [Step.andThen_of_error heq, hfound, hturns.1]
      exact hpassed

theorem passed_run (hfresh : c.failure = none) {reached : List Stage}
    (h : p.Passed world reached (p.process (p.arrived { context := c, world })).1) :
    p.Passed world (Stage.itinerary reached (p.run c world).2.context.failure.isSome)
      (p.run c world).2 := by
  have hfailure : (p.run c world).2.context.failure =
      (p.serialize (p.processed (p.arrived { context := c, world }))).context.failure :=
    p.failure_finish _ _
  have hanswered := Passed.answered (by rw [context_arrived]; exact hfresh) h
  rw [← hfailure] at hanswered
  have hfinished := Passed.finish hanswered (p.run c world).1
  rw [List.append_assoc, List.append_assoc] at hfinished
  exact hfinished

/-- A run passes stages one after the other and none of them twice: those in which its response is
made, up to the one in which something goes wrong, then that of the failure, if there is one, and
those of the answer. Besides the transitions between these, its journal has only such as the
application logs itself. -/
theorem stages_execute (request : Request) (world : World σ) :
    let last := (p.execute request world).2
    ∃ reached, reached <+: Stage.regular ∧
      (last.context.failure = none → reached = Stage.regular) ∧
      (∀ stage, p.MishapAt { request } world stage ↔
        last.context.failure.isSome = true ∧ reached.getLastD .received = stage) ∧
      let passed := Stage.itinerary reached last.context.failure.isSome
      (Stage.received :: passed).Nodup ∧ last.context.stage = .completed ∧
      (Stage.received.links passed).Sublist last.journal ∧
      ∀ kind, p.Reticent world kind →
        last.journal.filter (Entry.logs kind) =
          (Stage.received.links passed).filter (Entry.logs kind) := by
  intro last
  have hprocess := p.process_passes (c := { request }) rfl world
  have hpassed := p.passed_run (c := { request }) rfl hprocess
  have hmishap := p.mishap_iff (c := { request }) rfl world
  refine ⟨_, (Stage.through_prefix _), ?_, ?_, Stage.nodup_itinerary (Stage.through_prefix _) _,
    ?_, hpassed.within, fun kind hkind => (hpassed.alone kind hkind).lines⟩
  · intro hnone
    rw [p.lastStage_of_sound rfl hnone]
    rfl
  · intro stage
    rw [p.mishapAt_iff, hmishap, p.getLastD_through_lastStage]
    exact Iff.rfl
  · have hstage := hpassed.stage
    rw [Stage.getLastD_itinerary] at hstage
    exact hstage

example :
    (nibbling.run nibbled ⟨(), 0, none, []⟩).2.journal.filter (Entry.logs Event.isTransition) =
      Stage.received.links (Stage.itinerary [.resolved, .preprocessed, .invoked] true) := by
  rfl

end Pipeline

end Switchboard
