import Switchboard.Proofs.SlotAccounts

namespace Switchboard

variable {σ : Type}

namespace World

theorem insertDue_split (d : Due σ) (ds : List (Due σ)) :
    ∃ earlier later, ds = earlier ++ later ∧ insertDue d ds = earlier ++ d :: later := by
  induction ds with
  | nil => exact ⟨[], [], rfl, rfl⟩
  | cons other rest ih =>
    obtain ⟨earlier, later, hrest, hinsert⟩ := ih
    by_cases hlt : d.time < other.time
    · exact ⟨[], other :: rest, rfl, if_pos hlt⟩
    · refine ⟨other :: earlier, later, by rw [hrest, List.cons_append], ?_⟩
      rw [insertDue, if_neg hlt, hinsert, List.cons_append]

theorem mem_insertDue_iff {d other : Due σ} {ds : List (Due σ)} :
    other ∈ insertDue d ds ↔ other = d ∨ other ∈ ds := by
  obtain ⟨earlier, later, rfl, hinsert⟩ := insertDue_split d ds
  rw [hinsert]
  simp only [List.mem_append, List.mem_cons]
  tauto

/-- What is due, in order of time. -/
def InTime (ds : List (Due σ)) : Prop := ds.Pairwise (·.time ≤ ·.time)

theorem InTime.insertDue {ds : List (Due σ)} (h : InTime ds) (d : Due σ) :
    InTime (insertDue d ds) := by
  unfold InTime at h ⊢
  induction h with
  | nil => exact List.pairwise_singleton _ _
  | @cons other rest hfirst hrest ih =>
    by_cases hlt : d.time < other.time
    · rw [World.insertDue, if_pos hlt]
      refine .cons (fun e he => ?_) (.cons hfirst hrest)
      obtain rfl | he := List.mem_cons.mp he
      · omega
      · have := hfirst e he
        omega
    · rw [World.insertDue, if_neg hlt]
      refine .cons (fun e he => ?_) ih
      obtain rfl | he := mem_insertDue_iff.mp he
      · omega
      · exact hfirst e he

theorem countP_insertDue (d : Due σ) (ds : List (Due σ)) :
    (insertDue d ds).countP (·.freesSlot) =
      ds.countP (·.freesSlot) + if d.freesSlot then 1 else 0 := by
  obtain ⟨earlier, later, rfl, hinsert⟩ := insertDue_split d ds
  rw [hinsert, List.countP_append, List.countP_append, List.countP_cons]
  omega

theorem pool_foldl_happen (ds : List (Due σ)) (w : World σ) :
    (ds.foldl happen w).pool =
      w.pool.map fun p => { p with free := p.free + ds.countP (·.freesSlot) } := by
  induction ds generalizing w with
  | nil => cases hpool : w.pool <;> simp [hpool]
  | cons d rest ih =>
    rw [List.foldl_cons, ih, List.countP_cons]
    cases hpool : w.pool with
    | none => simp [happen, hpool]
    | some p =>
      cases hfrees : d.freesSlot with
      | false => simp [happen, hpool, hfrees]
      | true =>
        simp [happen, hpool, hfrees, Pool.release]
        omega

end World

namespace Contention

variable {limit : Option Nat} {c : Contention} {i : Nat} {t : Turn}

theorem step?_act {act : Turn.Act} {t' : Turn} {pool : Pool} (hi : c.turns[i]? = some t)
    (hact : t.act? limit c.pool act = some (t', pool)) :
    c.step? limit (.act i act) = some ⟨pool, c.turns.set i t'⟩ := by
  unfold step?
  simp only [hi, hact, Option.map_some]

/-- The end of an invocation's handler, as the endings have it. -/
def ends (ending : Nat → Ending (Option Body)) (i : Nat) : Move := .act i (.conclude (ending i))

theorem run?_ends (limit : Option Nat) (ending : Nat → Ending (Option Body)) {is : List Nat}
    (hnodup : is.Nodup) {c : Contention}
    (hrunning : ∀ i ∈ is, ∃ t, c.turns[i]? = some t ∧ t.phase = .running) :
    ∃ c', c.run? limit (is.map (ends ending)) = some c' ∧
      c'.pool = { c.pool with free := c.pool.free + is.length } ∧
      ∀ i, c'.turns[i]? =
        if i ∈ is then (c.turns[i]?).map (·.conclude (ending i)) else c.turns[i]? := by
  induction is generalizing c with
  | nil => exact ⟨c, rfl, rfl, fun i => rfl⟩
  | cons i rest ih =>
    obtain ⟨hnew, hnodup⟩ := List.nodup_cons.mp hnodup
    obtain ⟨t, ht, hphase⟩ := hrunning i (List.mem_cons_self ..)
    obtain ⟨hlt, -⟩ := List.getElem?_eq_some_iff.mp ht
    have hfirst : c.step? limit (ends ending i) =
        some ⟨c.pool.release, c.turns.set i (t.conclude (ending i))⟩ :=
      step?_act ht (if_pos hphase)
    have hothers : ∀ j ∈ rest, (c.turns.set i (t.conclude (ending i)))[j]? = c.turns[j]? := by
      intro j hj
      exact List.getElem?_set_ne (by rintro rfl; exact hnew hj)
    obtain ⟨c', hrun, hpool, hturns⟩ := ih hnodup
      (c := ⟨c.pool.release, c.turns.set i (t.conclude (ending i))⟩) fun j hj => by
        rw [hothers j hj]
        exact hrunning j (List.mem_cons_of_mem _ hj)
    refine ⟨c', foldlM_cons_eq_some.mpr ⟨_, hfirst, hrun⟩, ?_, fun j => ?_⟩
    · rw [hpool, List.length_cons]
      simp only [Pool.release, Pool.mk.injEq, true_and]
      omega
    · rw [hturns j]
      by_cases hj : j = i
      · subst hj
        rw [if_neg hnew, if_pos (List.mem_cons_self ..), List.getElem?_set_self hlt, ht]
        rfl
      · rw [List.getElem?_set_ne (Ne.symm hj)]
        simp [hj]

end Contention

namespace World

variable {limit : Option Nat} {slots : Nat} {w : World σ} {c : Contention} {order : List Nat}

/-- The slots that come back by a time. -/
def returning (w : World σ) (time : Nat) : Nat :=
  (w.due.takeWhile (·.time ≤ time)).countP (·.freesSlot)

/-- The invocations whose handlers run, in the order in which the world will have them end. -/
structure Follows (slots : Nat) (w : World σ) (c : Contention) (order : List Nat) : Prop where
  pool : w.pool = some c.pool
  inTime : InTime w.due
  ends : w.due.countP (·.freesSlot) = order.length
  slots : c.pool.free + order.length = slots
  nodup : order.Nodup
  running (i : Nat) : i ∈ order ↔ ∃ t, c.turns[i]? = some t ∧ t.phase = .running

theorem Follows.schedule (h : w.Follows slots c order) {d : Due σ} (hd : d.freesSlot = false) :
    (w.schedule d).Follows slots c order := by
  refine { h with inTime := h.inTime.insertDue d, ends := ?_ }
  unfold World.schedule
  rw [countP_insertDue, hd, h.ends]
  rfl

theorem Follows.withState (h : w.Follows slots c order) (state : σ) :
    { w with state }.Follows slots c order :=
  { h with }

theorem returning_le (h : w.Follows slots c order) (time : Nat) :
    w.returning time ≤ order.length :=
  h.ends ▸ (List.takeWhile_sublist _).countP_le

/-- As time passes, the handlers end that are due to, and no other. -/
theorem Follows.advance (h : w.Follows slots c order) (limit : Option Nat) (time : Nat)
    (ending : Nat → Ending (Option Body)) :
    ∃ c', c.run? limit ((order.take (w.returning time)).map (Contention.ends ending)) = some c' ∧
      (w.advance time).1.Follows slots c' (order.drop (w.returning time)) ∧
      c'.pool.free = c.pool.free + w.returning time ∧
      ∀ i, c'.turns[i]? =
        if i ∈ order.take (w.returning time) then (c.turns[i]?).map (·.conclude (ending i))
        else c.turns[i]? := by
  have hle := returning_le h time
  have hlength : (order.take (w.returning time)).length = w.returning time := by
    rw [List.length_take]
    omega
  obtain ⟨c', hrun, hpool, hturns⟩ := Contention.run?_ends limit ending
    (h.nodup.sublist (List.take_sublist (w.returning time) order)) (c := c)
    fun i hi => (h.running i).mp (List.mem_of_mem_take hi)
  rw [hlength] at hpool
  refine ⟨c', hrun, ?_, by rw [hpool], hturns⟩
  have hcount := h.ends
  rw [← List.takeWhile_append_dropWhile (p := fun d : Due σ => decide (d.time ≤ time)) (l := w.due),
    List.countP_append] at hcount
  have hslots := h.slots
  have hfree : c'.pool.free = c.pool.free + w.returning time := by rw [hpool]
  have hdrop : (order.drop (w.returning time)).length = order.length - w.returning time :=
    List.length_drop
  refine ⟨?_, h.inTime.sublist (List.dropWhile_sublist _), ?_, by omega,
    h.nodup.sublist (List.drop_sublist _ _), fun i => ?_⟩
  · rw [hpool]
    show (List.foldl happen w _).pool = _
    rw [pool_foldl_happen, h.pool]
    rfl
  · show (w.due.dropWhile _).countP _ = _
    unfold returning at hdrop ⊢
    omega
  · rw [hturns i]
    have hnodup := h.nodup
    rw [← List.take_append_drop (w.returning time) order] at hnodup
    have hapart := (List.nodup_append.mp hnodup).2.2
    have hsplit : i ∈ order ↔
        i ∈ order.take (w.returning time) ∨ i ∈ order.drop (w.returning time) := by
      rw [← List.mem_append, List.take_append_drop]
    by_cases hi : i ∈ order.take (w.returning time)
    · rw [if_pos hi]
      refine iff_of_false (fun hlater => hapart i hi i hlater rfl) ?_
      rintro ⟨t, ht, hphase⟩
      obtain ⟨before, -, rfl⟩ := Option.map_eq_some_iff.mp ht
      cases hphase
    · rw [if_neg hi, ← h.running i, hsplit]
      exact ⟨Or.inr, fun hor => hor.resolve_left hi⟩

theorem returning_le_of_ahead {time : Nat} {earlier later : List (Due σ)} {d : Due σ}
    (hdue : w.due = earlier ++ d :: later) (hlate : time < d.time) :
    w.returning time ≤ earlier.countP (·.freesSlot) := by
  have hnot : ¬ decide (d.time ≤ time) = true := by simpa using hlate
  unfold returning
  rw [hdue, List.takeWhile_append]
  split
  · exact Nat.le_of_eq (by rw [List.takeWhile_cons, if_neg hnot, List.append_nil])
  · exact (List.takeWhile_sublist _).countP_le

theorem lt_returning {earlier later : List (Due σ)} {d : Due σ} (hin : InTime w.due)
    (hdue : w.due = earlier ++ d :: later) (hfrees : d.freesSlot = true) :
    earlier.countP (·.freesSlot) < w.returning d.time := by
  unfold InTime at hin
  rw [hdue, List.pairwise_append] at hin
  have hearlier : ∀ e ∈ earlier, decide (e.time ≤ d.time) = true := fun e he =>
    decide_eq_true (hin.2.2 e he d (List.mem_cons_self ..))
  unfold returning
  rw [hdue, List.takeWhile_append_of_pos hearlier,
    List.takeWhile_cons, if_pos (decide_eq_true (Nat.le_refl _)), List.countP_append,
    List.countP_cons, if_pos hfrees]
  omega

/-- By the time the next slot is due to be free, one is. -/
theorem free_of_nextSlot (h : w.Follows slots c order) (hslots : 0 < slots) :
    0 < c.pool.free + w.returning w.nextSlot := by
  unfold nextSlot
  split
  next hany =>
    have hfree : 0 < c.pool.free := by simpa [h.pool] using hany
    omega
  next hany =>
    have hfree : c.pool.free = 0 := by simpa [h.pool] using hany
    have hall := h.slots
    have hcount : 0 < w.due.countP (·.freesSlot) := by
      rw [h.ends]
      omega
    obtain ⟨e, he, hfrees⟩ := List.countP_pos_iff.mp hcount
    cases hfind : w.due.find? (·.freesSlot) with
    | none => simp [List.find?_eq_none.mp hfind e he] at hfrees
    | some d =>
      obtain ⟨hd, before, after, hdue, -⟩ := List.find?_eq_some_iff_append.mp hfind
      have hreturning := lt_returning h.inTime hdue hd
      simp only [Option.map_some, Option.getD_some]
      omega

theorem Follows.arrive (h : w.Follows slots c order) :
    w.Follows slots { c with turns := c.turns ++ [{}] } order := by
  refine { h with running := fun i => ?_ }
  rw [h.running i]
  by_cases hi : i < c.turns.length
  · rw [List.getElem?_append_left hi]
  · have hnone : c.turns[i]? = none := List.getElem?_eq_none (by omega)
    refine iff_of_false (by simp [hnone]) ?_
    rintro ⟨t, ht, hphase⟩
    rw [List.getElem?_append_right (by omega)] at ht
    obtain rfl := List.mem_singleton.mp (List.mem_of_getElem? ht)
    cases hphase

theorem Follows.set (h : w.Follows slots c order) {i : Nat} {t t' : Turn}
    (hi : c.turns[i]? = some t) (hphase : t'.phase = .running ↔ t.phase = .running) :
    w.Follows slots { c with turns := c.turns.set i t' } order := by
  obtain ⟨hlt, -⟩ := List.getElem?_eq_some_iff.mp hi
  refine { h with running := fun j => ?_ }
  rw [h.running j]
  by_cases hj : j = i
  · subst hj
    simp [List.getElem?_set_self hlt, hi, hphase]
  · rw [List.getElem?_set_ne (Ne.symm hj)]

theorem foldl_schedule (moments : List (Moment σ)) (w : World σ) (h : InTime w.due) :
    let scheduled := moments.foldl
      (fun w m => w.schedule ⟨w.clock + m.time, m.change, m.events, false⟩) w
    scheduled.clock = w.clock ∧ scheduled.pool = w.pool ∧ InTime scheduled.due ∧
      scheduled.due.countP (·.freesSlot) = w.due.countP (·.freesSlot) := by
  induction moments generalizing w with
  | nil => exact ⟨rfl, rfl, h, rfl⟩
  | cons m rest ih =>
    obtain ⟨hclock, hpool, hin, hcount⟩ := ih
      (w.schedule ⟨w.clock + m.time, m.change, m.events, false⟩) (h.insertDue _)
    refine ⟨hclock, hpool, hin, hcount.trans ?_⟩
    unfold World.schedule
    rw [countP_insertDue]
    rfl

/-- A handler that begins takes its place among those that run, by the time of its end. -/
theorem Follows.start (h : w.Follows slots c order) (hfree : 0 < c.pool.free) {i : Nat} {t : Turn}
    (hi : c.turns[i]? = some t) (hphase : t.phase ≠ .running) (run : HandlerRun σ)
    (last : List Event) :
    ∃ earlier later,
      (w.start run last).due =
        earlier ++ ⟨w.clock + run.duration, id, last, true⟩ :: later ∧
      earlier.countP (·.freesSlot) ≤ order.length ∧
      (w.start run last).Follows slots
        ⟨{ c.pool with free := c.pool.free - 1 }, c.turns.set i { t with phase := .running }⟩
        (order.take (earlier.countP (·.freesSlot)) ++
          i :: order.drop (earlier.countP (·.freesSlot))) := by
  obtain ⟨hlt, -⟩ := List.getElem?_eq_some_iff.mp hi
  have hscheduled := foldl_schedule run.moments
    { w with pool := w.pool.map fun p : Pool => p.acquire?.getD p } h.inTime
  unfold World.start
  dsimp only at hscheduled ⊢
  generalize run.moments.foldl _ _ = scheduled at hscheduled ⊢
  obtain ⟨-, hpool, hin, hcount⟩ := hscheduled
  obtain ⟨earlier, later, hdue, hinsert⟩ :=
    insertDue_split ⟨w.clock + run.duration, id, last, true⟩ scheduled.due
  have hall : earlier.countP (·.freesSlot) + later.countP (·.freesSlot) = order.length := by
    rw [← List.countP_append, ← hdue, hcount, h.ends]
  have hnot : i ∉ order := fun hmem => by
    obtain ⟨u, hu, hrunning⟩ := (h.running i).mp hmem
    rw [hi] at hu
    obtain rfl := Option.some.inj hu
    exact hphase hrunning
  refine ⟨earlier, later, hinsert, by omega, ?_, hin.insertDue _, ?_, ?_, ?_, fun j => ?_⟩
  · show scheduled.pool = _
    rw [hpool, h.pool, Option.map_some, Pool.acquire?_of_free hfree]
    rfl
  · show (insertDue _ scheduled.due).countP _ = _
    rw [countP_insertDue, hcount, h.ends]
    simp only [↓reduceIte, List.length_append, List.length_take, List.length_cons,
      List.length_drop]
    omega
  · have hslots := h.slots
    simp only [List.length_append, List.length_take, List.length_cons, List.length_drop]
    omega
  · rw [List.perm_middle.nodup_iff, List.take_append_drop]
    exact List.nodup_cons.mpr ⟨hnot, h.nodup⟩
  · rw [List.mem_append, List.mem_cons, or_left_comm, ← List.mem_append, List.take_append_drop]
    by_cases hj : j = i
    · subst hj
      simp [List.getElem?_set_self hlt]
    · rw [List.getElem?_set_ne (Ne.symm hj), ← h.running j]
      simp [hj]

end World

end Switchboard
