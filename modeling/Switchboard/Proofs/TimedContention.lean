import Switchboard.Proofs.DueHandlers
import Switchboard.Proofs.RunInvariants

namespace Switchboard

variable {σ : Type}

namespace Turn

structure Left (t : Turn) : Prop where
  told : t.told.isSome = true
  phase : t.phase = .running ∨ t.phase = .ended

theorem left_conclude (t : Turn) (ending : Ending (Option Body)) : (t.conclude ending).Left :=
  ⟨rfl, .inr rfl⟩

end Turn

/-- A contention in which nobody waits, and a world in which the handlers run that still run in
it. -/
structure World.Settled (slots : Nat) (w : World σ) (c : Contention) : Prop where
  follows : ∃ order, w.Follows slots c order
  left : ∀ t ∈ c.turns, t.Left

namespace Invocation

/-- Contention allows what an invocation of its own comes to, and goes on as the world does. -/
def Allowed (limit : Option Nat) (slots : Nat) (c : Contention) (own : Nat)
    (i : Invocation σ) : Prop :=
  ∃ moves c' t, c.run? limit moves = some c' ∧ i.world.Settled slots c' ∧
    c'.turns[own]? = some t ∧ t.told = some i.result

variable {limit : Option Nat} {slots own : Nat} {w : World σ} {c : Contention}
  {order : List Nat} {t : Turn}

theorem Allowed.after {i : Invocation σ} {c' : Contention} (h : i.Allowed limit slots c' own)
    {moves : List Contention.Move} (hrun : c.run? limit moves = some c') :
    i.Allowed limit slots c own := by
  obtain ⟨more, c'', t, hmore, hrest⟩ := h
  exact ⟨moves ++ more, c'', t, foldlM_append_eq_some.mpr ⟨c', hrun, hmore⟩, hrest⟩

/-- Everybody but one has left. -/
def LeftBut (own : Nat) (c : Contention) : Prop :=
  ∀ i t, i ≠ own → c.turns[i]? = some t → t.Left

theorem LeftBut.set (h : LeftBut own c) (hown : own < c.turns.length) {t : Turn}
    (ht : t.Left) : ∀ u ∈ c.turns.set own t, u.Left := by
  intro u hu
  obtain ⟨i, hi⟩ := List.mem_iff_getElem?.mp hu
  by_cases heq : i = own
  · subst heq
    rw [List.getElem?_set_self hown] at hi
    exact Option.some.inj hi ▸ ht
  · rw [List.getElem?_set_ne (Ne.symm heq)] at hi
    exact h i u heq hi

theorem LeftBut.conclude (h : LeftBut own c) {c' : Contention} {is : List Nat}
    {ending : Nat → Ending (Option Body)}
    (hturns : ∀ i, c'.turns[i]? =
      if i ∈ is then (c.turns[i]?).map (·.conclude (ending i)) else c.turns[i]?) :
    LeftBut own c' := by
  intro i t hi ht
  rw [hturns] at ht
  split at ht
  · obtain ⟨before, -, rfl⟩ := Option.map_eq_some_iff.mp ht
    exact before.left_conclude _
  · exact h i t hi ht

/-- The caller gives up when it has waited for too long, unless the handler has ended by then. -/
theorem late_allowed {limit : Nat} (h : w.Follows slots c order) (hothers : LeftBut own c)
    (hown : c.turns[own]? = some t) (htold : t.told = none)
    (hphase : t.phase = .queued ∨ t.phase = .running) {time : Nat}
    (hstays : own ∉ order.take (w.returning time)) (route : String) (before : List Event)
    (began : Bool) : (late route limit time w before began).Allowed (some limit) slots c own := by
  obtain ⟨c', hrun, hfollows, -, hturns⟩ := h.advance (some limit) time fun _ => .done none
  have hown' : c'.turns[own]? = some t := by rw [hturns, if_neg hstays, hown]
  obtain ⟨hlt, -⟩ := List.getElem?_eq_some_iff.mp hown'
  have hothers' : LeftBut own c' := hothers.conclude hturns
  obtain ⟨t', hgiven, hleft, hsame, htold'⟩ : ∃ t', t.abandon limit c'.pool = (t', c'.pool) ∧
      t'.Left ∧ (t'.phase = .running ↔ t.phase = .running) ∧
      t'.told = some (.error (lateFailure limit)) := by
    obtain hqueued | hrunning := hphase
    · refine ⟨⟨.ended, some (.error (lateFailure limit))⟩, ?_, ⟨rfl, .inr rfl⟩, ?_, rfl⟩
      · simp only [Turn.abandon, hqueued]
      · simp [hqueued]
    · refine ⟨⟨.running, some (.error (lateFailure limit))⟩, ?_, ⟨rfl, .inl rfl⟩, ?_, rfl⟩
      · simp only [Turn.abandon, hrunning]
      · simp [hrunning]
  have hgiveUp : c'.run? (some limit) [.act own .giveUp] =
      some { c' with turns := c'.turns.set own t' } := by
    refine foldlM_cons_eq_some.mpr ⟨_, Contention.step?_act hown' ?_, rfl⟩
    rw [Turn.act?, if_pos (by rw [htold]; rfl), Option.map_some, hgiven]
  refine Allowed.after ⟨_, _, t', hgiveUp, ?_, List.getElem?_set_self hlt, htold'⟩ hrun
  exact ⟨⟨_, hfollows.set hown' hsame⟩, hothers'.set hlt hleft⟩

theorem run?_begins (limit : Option Nat) {p : Pool} (hp : c.pool.acquire? = some p)
    (hown : c.turns[own]? = some {}) :
    c.run? limit [.act own .grant, .act own .spawn, .act own .begin] =
      some ⟨p, c.turns.set own { phase := .running }⟩ := by
  obtain ⟨hlt, -⟩ := List.getElem?_eq_some_iff.mp hown
  have hset (t t' : Turn) : (c.turns.set own t).set own t' = c.turns.set own t' := List.set_set ..
  have hgrant : c.step? limit (.act own .grant) =
      some ⟨p, c.turns.set own { phase := .granted }⟩ := by
    refine Contention.step?_act hown ?_
    rw [Turn.act?, if_pos rfl, hp]
    rfl
  have hspawn : (⟨p, c.turns.set own { phase := .granted }⟩ : Contention).step? limit
      (.act own .spawn) = some ⟨p, c.turns.set own { phase := .admitted }⟩ := by
    rw [← hset { phase := .granted } { phase := .admitted }]
    exact Contention.step?_act (List.getElem?_set_self hlt) rfl
  have hbegin : (⟨p, c.turns.set own { phase := .admitted }⟩ : Contention).step? limit
      (.act own .begin) = some ⟨p, c.turns.set own { phase := .running }⟩ := by
    rw [← hset { phase := .admitted } { phase := .running }]
    exact Contention.step?_act (List.getElem?_set_self hlt) rfl
  exact foldlM_cons_eq_some.mpr ⟨_, hgrant,
    foldlM_cons_eq_some.mpr ⟨_, hspawn, foldlM_cons_eq_some.mpr ⟨_, hbegin, rfl⟩⟩⟩

theorem not_mem_take {n k : Nat} (hown : own ∉ order) (hk : k ≤ n) (hn : n ≤ order.length) :
    own ∉ (order.take n ++ own :: order.drop n).take k := by
  rw [List.take_append_of_le_length (by rw [List.length_take]; omega)]
  exact fun hmem => hown (List.mem_of_mem_take (List.mem_of_mem_take hmem))

theorem mem_take {n k : Nat} (hk : n < k) (hn : n ≤ order.length) :
    own ∈ (order.take n ++ own :: order.drop n).take k := by
  have hlength : (order.take n).length = n := by
    rw [List.length_take]
    omega
  rw [List.take_append, hlength, List.take_cons (by omega)]
  simp

/-- An invocation that waits for nothing but its handler's slot, which is free. -/
theorem attended_allowed (h : w.Follows slots c order) (hfree : 0 < c.pool.free)
    (hothers : LeftBut own c) (hown : c.turns[own]? = some {}) (limit : Option Nat)
    (route : String) (asked : Nat) (run : HandlerRun σ) (before : List Event) :
    (attended limit route asked run w before).Allowed limit slots c own := by
  obtain ⟨hlt, -⟩ := List.getElem?_eq_some_iff.mp hown
  have hbegins := run?_begins limit (Pool.acquire?_of_free hfree) hown
  obtain ⟨earlier, later, hdue, hle, hstarted⟩ :=
    h.start hfree hown nofun run (panicEvents route run.ending)
  have hown' := List.getElem?_set_self (a := ({ phase := .running } : Turn)) hlt
  have hothers' : LeftBut own
      ⟨{ c.pool with free := c.pool.free - 1 }, c.turns.set own { phase := .running }⟩ := by
    intro i t hi ht
    rw [List.getElem?_set_ne (Ne.symm hi)] at ht
    exact hothers i t hi ht
  have hnot : own ∉ order := by
    intro hmem
    obtain ⟨t, ht, hphase⟩ := (h.running own).mp hmem
    rw [hown] at ht
    obtain rfl := Option.some.inj ht
    cases hphase
  refine Allowed.after ?_ hbegins
  unfold attended
  dsimp only
  split
  next limit hlimit =>
    obtain ⟨rfl, hlate⟩ := Option.filter_eq_some_iff.mp hlimit
    have hends : asked + limit < w.clock + run.duration := of_decide_eq_true hlate
    have hreturning := World.returning_le_of_ahead hdue hends
    exact late_allowed hstarted hothers' hown' rfl (.inr rfl) (not_mem_take hnot hreturning hle) ..
  next =>
    have hreturning := World.lt_returning hstarted.inTime hdue rfl
    obtain ⟨c', hrun, hfollows, -, hturns⟩ :=
      hstarted.advance limit (w.clock + run.duration) fun _ => run.ending
    have hconcluded :
        c'.turns[own]? = some (({ phase := .running } : Turn).conclude run.ending) := by
      rw [hturns, if_pos (mem_take hreturning hle), hown']
      rfl
    refine ⟨_, c', _, hrun, ⟨⟨_, hfollows⟩, fun t ht => ?_⟩, hconcluded, rfl⟩
    obtain ⟨i, hi⟩ := List.mem_iff_getElem?.mp ht
    by_cases heq : i = own
    · subst heq
      rw [hconcluded] at hi
      exact Option.some.inj hi ▸ Turn.left_conclude _ _
    · exact hothers'.conclude hturns i t heq hi

/-- A run in a pool of a world that follows the clock is one of the courses that contention allows
for one more invocation. -/
theorem pooled_allowed (h : w.Settled slots c) (hslots : 0 < slots) (limit : Option Nat)
    (handler : Handler σ) (route : String) (request : Request) (response : Response) :
    (pooled limit handler route request response w).Allowed limit slots c c.turns.length := by
  obtain ⟨⟨order, hfollows⟩, hleft⟩ := h
  have harrive : c.run? limit [.arrive] = some { c with turns := c.turns ++ [{}] } := rfl
  have hown : (c.turns ++ [({} : Turn)])[c.turns.length]? = some {} := List.getElem?_concat_length
  have hothers : LeftBut c.turns.length { c with turns := c.turns ++ [{}] } := by
    intro i t hi ht
    obtain hmem | hmem := List.mem_append.mp (List.mem_of_getElem? ht)
    · exact hleft t hmem
    · obtain ⟨hlt, -⟩ := List.getElem?_eq_some_iff.mp ht
      rw [List.length_append, List.length_singleton] at hlt
      rw [List.getElem?_append_left (by omega)] at ht
      exact hleft t (List.mem_of_getElem? ht)
  have harrived := hfollows.arrive
  have hnot : c.turns.length ∉ order := by
    intro hmem
    obtain ⟨t, ht, hphase⟩ := (harrived.running _).mp hmem
    rw [hown] at ht
    obtain rfl := Option.some.inj ht
    cases hphase
  refine Allowed.after ?_ harrive
  unfold pooled
  dsimp only
  split
  next limit hlimit =>
    obtain ⟨rfl, -⟩ := Option.filter_eq_some_iff.mp hlimit
    exact late_allowed harrived hothers hown rfl (.inl rfl)
      (fun hmem => hnot (List.mem_of_mem_take hmem)) ..
  next =>
    obtain ⟨c', hrun, hwaited, hfree, hturns⟩ :=
      harrived.advance limit w.nextSlot fun _ => .done none
    have hpos := World.free_of_nextSlot harrived hslots
    refine Allowed.after ?_ hrun
    refine attended_allowed hwaited (by omega) (hothers.conclude hturns) ?_ ..
    rw [hturns, if_neg fun hmem => hnot (List.mem_of_mem_take hmem), hown]

end Invocation

/-- A world that the clock leads to from one in which every slot is free. -/
def World.Possible (workers : Workers) (w : World σ) : Prop :=
  ∃ moves c, (⟨.ofSize workers.slots, []⟩ : Contention).run? workers.limit moves = some c ∧
    w.Settled workers.slots c

namespace World.Possible

variable {workers : Workers} {w : World σ}

theorem spend (h : w.Possible workers) (state : σ) (duration : Nat) :
    ({ w with state }.spend duration).1.Possible workers := by
  obtain ⟨moves, c, hrun, ⟨order, hfollows⟩, hleft⟩ := h
  obtain ⟨c', hmore, hfollows', -, hturns⟩ := (hfollows.withState state).advance workers.limit
    (w.clock + duration) fun _ => .done none
  refine ⟨_, c', foldlM_append_eq_some.mpr ⟨c, hrun, hmore⟩, ⟨_, hfollows'⟩, fun t ht => ?_⟩
  obtain ⟨i, hi⟩ := List.mem_iff_getElem?.mp ht
  rw [hturns] at hi
  split at hi
  · obtain ⟨before, -, rfl⟩ := Option.map_eq_some_iff.mp hi
    exact before.left_conclude _
  · exact hleft t (List.mem_of_getElem? hi)

theorem run (h : w.Possible workers) (hslots : 0 < workers.slots) (handler : Handler σ)
    (route : String) (request : Request) (response : Response) :
    (Invocation.run workers handler route request response w).world.Possible workers := by
  obtain ⟨moves, c, hrun, hsettled⟩ := h
  obtain ⟨more, c', -, hmore, hsettled', -⟩ := Invocation.pooled_allowed hsettled hslots
    workers.limit handler route request response
  unfold Invocation.run
  rw [if_neg (by omega)]
  exact ⟨moves ++ more, c', foldlM_append_eq_some.mpr ⟨c, hrun, hmore⟩, hsettled'⟩

/-- The slots that are not free are those of the handlers that still have to end. -/
theorem available (h : w.Possible workers) :
    ∃ free, w.available = some free ∧ free + w.due.countP (·.freesSlot) = workers.slots := by
  obtain ⟨moves, c, -, ⟨order, hfollows⟩, -⟩ := h
  refine ⟨c.pool.free, ?_, ?_⟩
  · unfold World.available
    rw [hfollows.pool]
    rfl
  · rw [hfollows.ends]
    exact hfollows.slots

end World.Possible

namespace Pipeline

variable (p : Pipeline σ)

theorem world_possible (hslots : 0 < p.workers.slots) (state : σ) :
    (p.world state).Possible p.workers := by
  refine ⟨[], _, rfl, ⟨[], ?_⟩, nofun⟩
  have hpool : p.workers.pool? = some (.ofSize p.workers.slots) := if_neg (by omega)
  refine ⟨hpool, .nil, rfl, rfl, .nil, fun i => ?_⟩
  simp

/-- After any number of requests, the slots that are not free are those of the handlers that still
have to end, and all of it is one of the courses that contention allows. -/
theorem possible_after (hslots : 0 < p.workers.slots) (state : σ)
    (contexts : List (Context (Handler σ))) :
    (contexts.foldl (fun w c => (p.run c w).2.world) (p.world state)).Possible p.workers := by
  have hlasting : p.Lasting fun s => s.world.Possible p.workers :=
    p.lasting_of_world (fun _ state duration h => h.spend state duration)
      fun _ _ request response _ h => h.run hslots _ _ request response
  refine List.foldlRecOn contexts _ (p.world_possible hslots state) fun w hw c _ => ?_
  exact hlasting.run hw

end Pipeline

end Switchboard
