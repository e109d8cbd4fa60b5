import Switchboard.Proofs.Mishaps

namespace Switchboard

namespace Entry

/-- What concerns one observer: its own calls, captured failures, and writes. -/
def concerns (observer : Nat) : Entry → Bool
  | .called (.observer index ..) _ => index = observer
  | .sample (.failure _) => true
  | .wrote _ => true
  | _ => false

def isCapture : Entry → Bool
  | .sample (.failure _) => true
  | _ => false

theorem isMilestone_of_concerns {observer : Nat} {e : Entry} (h : e.concerns observer = true) :
    e.isMilestone = true := by
  unfold concerns at h
  split at h
  next => rfl
  next => rfl
  next => rfl
  next => cases h

theorem isMilestone_of_isCapture {e : Entry} (h : e.isCapture = true) : e.isMilestone = true := by
  unfold isCapture at h
  split at h
  next => rfl
  next => cases h

end Entry

/-- A kind of milestones can be looked for among the milestones alone. -/
theorem Journal.filter_milestones {keep : Entry → Bool}
    (h : ∀ e : Entry, keep e = true → e.isMilestone = true) (j : Journal) :
    j.milestones.filter keep = j.filter keep := by
  unfold milestones
  rw [List.filter_filter]
  refine List.filter_congr fun e _ => ?_
  cases hkeep : keep e with
  | true => exact h e hkeep
  | false => rfl

section Round

variable {callback : Callback} {stage : Stage} {status : Status} {observer : Nat}

theorem concerns_numbered_of_lt {index : Nat} (h : observer < index) (ends : List Bool) :
    (numbered (.observer · callback stage status) index ends).filter (Entry.concerns observer) =
      [] := by
  induction ends generalizing index with
  | nil => rfl
  | cons ok rest ih =>
    unfold numbered
    rw [List.filter_cons_of_neg (by simp [Entry.concerns]; omega)]
    exact ih (Nat.lt_succ_of_lt h)

theorem concerns_numbered {index : Nat} {ends : List Bool} {ok : Bool} (hle : index ≤ observer)
    (hok : ends[observer - index]? = some ok) :
    (numbered (.observer · callback stage status) index ends).filter (Entry.concerns observer) =
      [.called (.observer observer callback stage status) ok] := by
  induction ends generalizing index with
  | nil => cases hok
  | cons first rest ih =>
    unfold numbered
    rcases Nat.eq_or_lt_of_le hle with rfl | hbefore
    · rw [Nat.sub_self] at hok
      obtain rfl : first = ok := Option.some.inj hok
      rw [List.filter_cons_of_pos (by simp [Entry.concerns]),
        concerns_numbered_of_lt (Nat.lt_succ_self index)]
    · rw [List.filter_cons_of_neg (by simp [Entry.concerns]; omega)]
      refine ih hbefore ?_
      rwa [show observer - index = observer - (index + 1) + 1 by omega] at hok

theorem concerns_round (callback : Callback) (stage : Stage) (status : Status) {ends : List Bool}
    {ok : Bool} (hok : ends[observer]? = some ok) :
    (round callback stage status ends).filter (Entry.concerns observer) =
      [.called (.observer observer callback stage status) ok] :=
  concerns_numbered (Nat.zero_le _) hok

end Round

namespace Pipeline

variable {σ : Type} (p : Pipeline σ)

/-- How a callback of one observer ends that is told in this way at a point, behind the observers
before it. -/
def heard (tell : Observer σ → Context (Handler σ) → σ → Outcome σ Unit)
    (observer : Fin p.observers.length) (x : Point σ) : Bool :=
  let before := (HookTurn.throughout ((p.watchers tell).take observer) x).2
  (tell p.observers[observer] x.context before.world.state).ending.succeeds

theorem getElem?_watchers (tell : Observer σ → Context (Handler σ) → σ → Outcome σ Unit)
    (observer : Fin p.observers.length) (x : Point σ) :
    (HookTurn.throughout (p.watchers tell) x).1[observer.val]? =
      some (p.heard tell observer x) := by
  have hcontext :
      (HookTurn.throughout ((p.watchers tell).take observer) x).2.context = x.context := by
    unfold watchers
    rw [← List.map_take]
    exact HookTurn.context_throughout tell _ x
  have hturn : (p.watchers tell)[observer.val]? =
      some (HookTurn.ofCallback (tell p.observers[observer])) := by
    unfold watchers
    rw [List.getElem?_map, List.getElem?_eq_getElem observer.isLt]
    rfl
  rw [HookTurn.getElem?_throughout, hturn, Option.map_some]
  unfold heard HookTurn.ofCallback
  dsimp only
  rw [hcontext]

/-- What an observer is told in a run, with the capture of a failure and the write where they come:
of a failure before the write, of success behind it, of the arrival first and of the end last. Each
call ends as the observer's own callback does. -/
inductive Informs (c : Context (Handler σ)) (world : World σ) (observer : Fin p.observers.length) :
    Option Failure → Journal → Prop where
  | success : p.excepted? c world = none →
    Informs c world observer none
      [.called (.observer observer .received .received c.response.status)
        (p.heard Observer.received observer ⟨c, world⟩),
       .wrote (p.run c world).1,
       .called (.observer observer .success .written (p.written c world).context.response.status)
        (p.heard Observer.success observer (p.written c world)),
       .called (.observer observer .complete .written
          (p.closing (p.written c world)).2.context.response.status)
        (p.heard Observer.complete observer (p.closing (p.written c world)).2)]
  | exception {failure : Failure} {x : Point σ} : p.excepted? c world = some (failure, x) →
    Informs c world observer (some failure)
      [.called (.observer observer .received .received c.response.status)
        (p.heard Observer.received observer ⟨c, world⟩),
       .sample (.failure (p.mapping.reply failure).result.status.code),
       .called (.observer observer .exception .excepted (p.mapping.reply failure).result.status)
        (p.heard (fun o c => o.exception c failure) observer x),
       .wrote (p.run c world).1,
       .called (.observer observer .complete .written
          (p.closing (p.written c world)).2.context.response.status)
        (p.heard Observer.complete observer (p.closing (p.written c world)).2)]

theorem informs_run {c : Context (Handler σ)} (hfresh : c.failure = none)
    (hreceived : c.stage = .received) (world : World σ) (observer : Fin p.observers.length) :
    p.Informs c world observer (p.run c world).2.context.failure
      ((p.run c world).2.journal.filter (Entry.concerns observer)) := by
  have hfirst := concerns_round .received c.stage c.response.status
    (p.getElem?_watchers Observer.received observer ⟨c, world⟩)
  have hlast := concerns_round .complete .written
    (p.closing (p.written c world)).2.context.response.status
    (p.getElem?_watchers Observer.complete observer (p.closing (p.written c world)).2)
  have hfinale : (p.finale c world).filter (Entry.concerns observer) =
      [.called (.observer observer .complete .written
          (p.closing (p.written c world)).2.context.response.status)
        (p.heard Observer.complete observer (p.closing (p.written c world)).2)] := by
    unfold finale
    rw [List.filter_append, hlast]
    rfl
  rw [← Journal.filter_milestones (fun _ => Entry.isMilestone_of_concerns),
    show (p.run c world).2.journal.milestones = (p.run c world).2.milestones from rfl,
    p.milestones_run hfresh, List.filter_append, List.filter_append, hfirst, hfinale, hreceived,
    p.failure_run hfresh]
  unfold verdict
  cases hexcepted : p.excepted? c world with
  | none =>
    have hsecond := concerns_round .success .written (p.written c world).context.response.status
      (p.getElem?_watchers Observer.success observer (p.written c world))
    dsimp only
    rw [List.filter_cons_of_pos rfl, hsecond]
    exact .success hexcepted
  | some told =>
    obtain ⟨failure, x⟩ := told
    have hsecond := concerns_round .exception .excepted (p.mapping.reply failure).result.status
      (p.getElem?_watchers (fun o c => o.exception c failure) observer x)
    dsimp only
    rw [List.filter_cons_of_pos rfl, List.filter_append, mourners, hsecond]
    exact .exception hexcepted

theorem captures_round (callback : Callback) (stage : Stage) (status : Status) (ends : List Bool) :
    (round callback stage status ends).filter Entry.isCapture = [] :=
  filter_numbered_of_not (fun _ _ => rfl) 0 ends

theorem captures_run {c : Context (Handler σ)} (hfresh : c.failure = none) (world : World σ) :
    (p.run c world).2.journal.filter Entry.isCapture =
      (p.run c world).2.context.failure.toList.map fun failure =>
        .sample (.failure (p.mapping.reply failure).result.status.code) := by
  have hfinale : (p.finale c world).filter Entry.isCapture = [] := by
    unfold finale
    rw [List.filter_append, captures_round]
    rfl
  rw [← Journal.filter_milestones (fun _ => Entry.isMilestone_of_isCapture),
    show (p.run c world).2.journal.milestones = (p.run c world).2.milestones from rfl,
    p.milestones_run hfresh, List.filter_append, List.filter_append, captures_round, hfinale,
    List.append_nil, List.nil_append, p.failure_run hfresh]
  unfold verdict
  cases p.excepted? c world with
  | none => exact captures_round ..
  | some told =>
    dsimp only
    rw [List.filter_cons_of_pos rfl, List.filter_append, captures_round]
    rfl

/-- The world behind each round of observers is what their own callbacks leave: they are called then
and at no other time. -/
structure Attends (c : Context (Handler σ)) (world : World σ) : Prop where
  arrival : (p.arrived { context := c, world }).world =
    (HookTurn.throughout (p.watchers Observer.received) ⟨c, world⟩).2.world
  process : (p.process (p.arrived { context := c, world })).1.world = p.departed c world
  failure (failure : Failure) (x : Point σ) : p.excepted? c world = some (failure, x) →
    x.world = p.departed c world ∧
      (p.prepare { context := c, world }).world =
        (HookTurn.throughout (p.watchers fun o c => o.exception c failure) x).2.world
  success : p.excepted? c world = none →
    (p.prepare { context := c, world }).world = p.departed c world
  completion : (p.run c world).2.world =
    (HookTurn.throughout (p.watchers Observer.complete) (p.closing (p.written c world)).2).2.world

theorem attends_run {c : Context (Handler σ)} (hfresh : c.failure = none) (world : World σ) :
    p.Attends c world := by
  obtain ⟨hwritten, hbefore⟩ := p.world_written hfresh world
  have hprepared : (p.prepare { context := c, world }).world = (p.written c world).world := rfl
  exact
    { arrival := congrArg Point.world (p.point_arrived c world)
      process := (p.process_turns c world).2
      failure := by
        intro failure x hexcepted
        rw [hexcepted] at hwritten
        exact ⟨hbefore failure x hexcepted, hprepared.trans hwritten⟩
      success := by
        intro hnone
        rw [hnone] at hwritten
        exact hprepared.trans hwritten
      completion := (p.run_leaves c world).2 }

/-- Every observer is told of a failure or of success, by what the context holds in the end, and by
its own callbacks; a failure is captured once, and if and only if something went wrong. -/
theorem execute_reports (request : Request) (world : World σ) :
    (∀ observer : Fin p.observers.length,
      p.Informs { request } world observer (p.execute request world).2.context.failure
        ((p.execute request world).2.journal.filter (Entry.concerns observer))) ∧
    p.Attends { request } world ∧
    (p.execute request world).2.journal.filter Entry.isCapture =
      ((p.execute request world).2.context.failure.toList.map fun failure =>
        .sample (.failure (p.mapping.reply failure).result.status.code)) ∧
    ((p.execute request world).2.context.failure.isSome = true ↔
      ∃ stage, p.Mishap { request } world stage) :=
  ⟨fun observer => p.informs_run rfl rfl world observer, p.attends_run rfl world,
    p.captures_run rfl world, p.failure_iff_mishap rfl world⟩

/-- A pipeline without routes whose observer panics at every call. -/
def startled : Pipeline Unit where
  table := {}
  observers :=
    let panic (state : Unit) : Outcome Unit Unit := ⟨(), state, .panicked none, [], 0⟩
    [⟨fun _ => panic, fun _ _ => panic, fun _ => panic, fun _ => panic⟩]

example : (startled.execute (.ofTarget .get ⟨"/", none⟩) ⟨(), 0, none, []⟩).2.journal.calls =
    [(.observer 0 .received .received .ok, false),
     (.observer 0 .exception .excepted ErrorKind.notFound.status, false),
     (.observer 0 .complete .written ErrorKind.notFound.status, false)] := by
  rfl

end Pipeline

end Switchboard
