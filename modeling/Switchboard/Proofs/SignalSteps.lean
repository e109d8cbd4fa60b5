import Switchboard.Signalling
import Switchboard.Proofs.Interleavings

namespace Switchboard

namespace Shutdown

variable {s : Shutdown} {id other : Nat}

/-- Who subscribes to a signal stays subscribed until it leaves. -/
def Enrolled (s : Shutdown) (id : Nat) : Prop := (s.subscriptions.lookup id).isSome = true

theorem lookup_send (s : Shutdown) (id : Nat) :
    s.send.subscriptions.lookup id = (s.subscriptions.lookup id).map fun _ => true := by
  unfold send
  dsimp only
  induction s.subscriptions with
  | nil => rfl
  | cons entry rest ih =>
    obtain ⟨first, message⟩ := entry
    rw [List.map_cons, List.lookup_cons, List.lookup_cons, ih]
    cases id == first <;> rfl

theorem hasMessage_send (h : s.Enrolled id) : s.send.hasMessage id = true := by
  unfold hasMessage
  rw [lookup_send]
  obtain ⟨message, hmessage⟩ := Option.isSome_iff_exists.mp h
  rw [hmessage]
  rfl

theorem lookup_unsubscribe (s : Shutdown) (h : id ≠ other) :
    (s.unsubscribe other).subscriptions.lookup id = s.subscriptions.lookup id := by
  unfold unsubscribe
  dsimp only
  induction s.subscriptions with
  | nil => rfl
  | cons entry rest ih =>
    obtain ⟨first, message⟩ := entry
    by_cases hfirst : first = other
    · subst hfirst
      rw [List.filter_cons_of_neg (by simp), ih, List.lookup_cons, beq_eq_false_iff_ne.mpr h]
    · rw [List.filter_cons_of_pos (by simpa using hfirst), List.lookup_cons, List.lookup_cons, ih]

theorem lookup_unsubscribe_of_none (s : Shutdown) (other : Nat)
    (h : s.subscriptions.lookup id = none) :
    (s.unsubscribe other).subscriptions.lookup id = none := by
  by_cases heq : id = other
  · rw [List.lookup_eq_none_iff] at h ⊢
    exact fun entry hentry => h entry (List.mem_of_mem_filter hentry)
  · rw [lookup_unsubscribe s heq, h]

theorem lookup_subscribe (s : Shutdown) (id : Nat) :
    s.subscribe.2.subscriptions.lookup id =
      (s.subscriptions.lookup id).or (if id = s.next then some false else none) := by
  unfold subscribe
  dsimp only
  rw [List.lookup_append, List.lookup_cons]
  by_cases h : id = s.next
  · simp [h]
  · simp [h, beq_eq_false_iff_ne.mpr h]

theorem lookup_subscribe_of_enrolled (h : s.Enrolled id) :
    s.subscribe.2.subscriptions.lookup id = s.subscriptions.lookup id := by
  obtain ⟨message, hmessage⟩ := Option.isSome_iff_exists.mp h
  rw [lookup_subscribe, hmessage]
  rfl

end Shutdown

namespace Waiter

def id? : Waiter → Option Nat
  | subscribed id | listening id => some id
  | called | sawFlag | gotMessage => none

def returned : Waiter → Bool
  | sawFlag | gotMessage => true
  | called | subscribed _ | listening _ => false

end Waiter

namespace Signalling

/-- What each move does and when it is possible. -/
inductive Steps (c : Signalling) : Move → Signalling → Prop where
  | give : Steps c .give { c with givers := c.givers ++ [.called] }
  | wait : Steps c .wait { c with waiters := c.waiters ++ [.called] }
  | swapLate {i : Nat} : c.givers[i]? = some .called → c.signal.triggered = true →
    Steps c (.swap i) (c.setGiver i .returned { c.signal with triggered := true })
  | swapFirst {i : Nat} : c.givers[i]? = some .called → c.signal.triggered = false →
    Steps c (.swap i) (c.setGiver i .owing { c.signal with triggered := true })
  | send {i : Nat} : c.givers[i]? = some .owing →
    Steps c (.send i) (c.setGiver i .returned c.signal.send)
  | subscribe {j : Nat} : c.waiters[j]? = some .called →
    Steps c (.subscribe j) (c.setWaiter j (.subscribed c.signal.next) c.signal.subscribe.2)
  | lookFinding {j id : Nat} : c.waiters[j]? = some (.subscribed id) → c.signal.triggered = true →
    Steps c (.look j) (c.setWaiter j .sawFlag (c.signal.unsubscribe id))
  | lookMissing {j id : Nat} : c.waiters[j]? = some (.subscribed id) →
    c.signal.triggered = false → Steps c (.look j) (c.setWaiter j (.listening id) c.signal)
  | receive {j id : Nat} : c.waiters[j]? = some (.listening id) →
    c.signal.hasMessage id = true →
    Steps c (.receive j) (c.setWaiter j .gotMessage (c.signal.unsubscribe id))

variable {c c' : Signalling}

theorem swap?_cases {i : Nat} (h : c.swap? i = some c') : Steps c (.swap i) c' := by
  unfold swap? at h
  split at h
  next hgiver =>
    cases hflag : c.signal.triggered with
    | true =>
      simp only [Shutdown.swap, hflag, Option.some.injEq] at h
      subst h
      have hstep := Steps.swapLate hgiver hflag
      exact hstep
    | false =>
      simp only [Shutdown.swap, hflag, Option.some.injEq] at h
      subst h
      exact .swapFirst hgiver hflag
  next => cases h

theorem look?_cases {j : Nat} (h : c.look? j = some c') : Steps c (.look j) c' := by
  unfold look? at h
  split at h
  next id hwaiter =>
    split at h
    next hflag =>
      obtain rfl := Option.some.inj h
      exact .lookFinding hwaiter hflag
    next hflag =>
      obtain rfl := Option.some.inj h
      exact .lookMissing hwaiter (Bool.not_eq_true _ ▸ hflag)
  next => cases h

theorem receive?_cases {j : Nat} (h : c.receive? j = some c') : Steps c (.receive j) c' := by
  unfold receive? at h
  split at h
  next id hwaiter =>
    obtain ⟨hmessage, h⟩ := Option.ite_none_right_eq_some.mp h
    obtain rfl := Option.some.inj h
    exact .receive hwaiter hmessage
  next => cases h

theorem step?_cases {move : Move} (h : c.step? move = some c') : Steps c move c' := by
  cases move with
  | give =>
    obtain rfl := Option.some.inj h
    exact .give
  | wait =>
    obtain rfl := Option.some.inj h
    exact .wait
  | swap i => exact swap?_cases h
  | send i =>
    change c.send? i = some c' at h
    unfold send? at h
    split at h
    next hgiver =>
      obtain rfl := Option.some.inj h
      exact .send hgiver
    next => cases h
  | subscribe j =>
    change c.subscribe? j = some c' at h
    unfold subscribe? at h
    split at h
    next hwaiter =>
      obtain rfl := Option.some.inj h
      exact .subscribe hwaiter
    next => cases h
  | look j => exact look?_cases h
  | receive j => exact receive?_cases h

def Move.isSend : Move → Bool
  | send _ => true
  | give | wait | swap _ | subscribe _ | look _ | receive _ => false

/-- The messages that can still be sent: one for the flag if it is not set, and one for whoever set
it and has not sent it yet. -/
def debt (c : Signalling) : Nat :=
  (if c.signal.triggered then 0 else 1) + c.givers.countP (· = .owing)

theorem debt_setGiver {i : Nat} {g : Giver} (hi : c.givers[i]? = some g) (g' : Giver)
    (signal : Shutdown) :
    (c.setGiver i g' signal).debt + (if c.signal.triggered then 0 else 1) +
        (if g = .owing then 1 else 0) =
      c.debt + (if signal.triggered then 0 else 1) + if g' = .owing then 1 else 0 := by
  have hset := countP_set_add (fun g => decide (g = Giver.owing)) hi g'
  simp only [decide_eq_true_eq] at hset
  unfold debt setGiver
  dsimp only
  omega

theorem debt_step {move : Move} (h : Steps c move c') :
    c'.debt + (if move.isSend then 1 else 0) = c.debt := by
  cases h with
  | give => simp [debt, Move.isSend]
  | wait => rfl
  | swapLate hgiver hflag =>
    have hset := debt_setGiver hgiver .returned { c.signal with triggered := true }
    simpa [Move.isSend, hflag] using hset
  | swapFirst hgiver hflag =>
    have hset := debt_setGiver hgiver .owing { c.signal with triggered := true }
    simpa [Move.isSend, hflag] using hset
  | send hgiver =>
    have hset := debt_setGiver hgiver .returned c.signal.send
    have hflag : c.signal.send.triggered = c.signal.triggered := rfl
    simp only [hflag, reduceCtorEq, ↓reduceIte] at hset
    simp only [Move.isSend, ↓reduceIte]
    omega
  | subscribe hwaiter => rfl
  | lookFinding hwaiter hflag => rfl
  | lookMissing hwaiter hflag => rfl
  | receive hwaiter hmessage => rfl

theorem debt_run {moves : List Move} (h : c.run? moves = some c') :
    c'.debt + moves.countP Move.isSend = c.debt := by
  induction moves generalizing c with
  | nil =>
    obtain rfl := Option.some.inj h
    rfl
  | cons move moves ih =>
    obtain ⟨between, hfirst, hrest⟩ := foldlM_cons_eq_some.mp h
    have hstep := debt_step (step?_cases hfirst)
    have hmore := ih hrest
    rw [List.countP_cons]
    omega

/-- The flag stays set. -/
theorem triggered_run (moves : List Move) (h : c.run? moves = some c')
    (hflag : c.signal.triggered = true) : c'.signal.triggered = true := by
  refine foldlM_keeps (P := fun c : Signalling => c.signal.triggered = true) ?_ hflag h
  intro c c' move hflag hstep
  cases step?_cases hstep with
  | give | wait => exact hflag
  | swapLate | swapFirst => rfl
  | send | subscribe | lookFinding | lookMissing | receive => exact hflag

def idOf (c : Signalling) (j : Nat) : Option Nat := c.waiters[j]?.bind Waiter.id?

theorem idOf_of_getElem {j : Nat} {w : Waiter} (h : c.waiters[j]? = some w) : c.idOf j = w.id? := by
  unfold idOf
  rw [h]
  rfl

theorem getElem_setWaiter {j : Nat} {old : Waiter} (h : c.waiters[j]? = some old) (w : Waiter)
    (signal : Shutdown) (k : Nat) :
    (c.setWaiter j w signal).waiters[k]? = if k = j then some w else c.waiters[k]? := by
  obtain ⟨hlt, -⟩ := List.getElem?_eq_some_iff.mp h
  unfold setWaiter
  by_cases hk : k = j
  · subst hk
    rw [if_pos rfl, List.getElem?_set_self hlt]
  · rw [if_neg hk, List.getElem?_set_ne (Ne.symm hk)]

theorem idOf_setWaiter {j : Nat} {old : Waiter} (h : c.waiters[j]? = some old) (w : Waiter)
    (signal : Shutdown) (k : Nat) :
    (c.setWaiter j w signal).idOf k = if k = j then w.id? else c.idOf k := by
  unfold idOf
  rw [getElem_setWaiter h]
  split <;> rfl

theorem getElem_wait (c : Signalling) (j : Nat) :
    (c.waiters ++ [.called])[j]? = c.waiters[j]? ∨
      c.waiters[j]? = none ∧ (c.waiters ++ [.called])[j]? = some .called := by
  by_cases hlt : j < c.waiters.length
  · exact .inl (List.getElem?_append_left hlt)
  · have hnone : c.waiters[j]? = none := List.getElem?_eq_none (by omega)
    by_cases heq : j = c.waiters.length
    · subst heq
      exact .inr ⟨hnone, List.getElem?_concat_length⟩
    · refine .inl (hnone ▸ List.getElem?_eq_none ?_)
      rw [List.length_append, List.length_singleton]
      omega

theorem idOf_wait (c : Signalling) (j : Nat) :
    ({ c with waiters := c.waiters ++ [.called] } : Signalling).idOf j = c.idOf j := by
  unfold idOf
  obtain h | ⟨hnone, hcalled⟩ := c.getElem_wait j
  · rw [h]
  · rw [hnone, hcalled]
    rfl

theorem idOf_listening {j id : Nat} (h : c.waiters[j]? = some (.subscribed id)) (k : Nat) :
    (c.setWaiter j (.listening id) c.signal).idOf k = c.idOf k := by
  rw [idOf_setWaiter h]
  split
  next heq =>
    subst heq
    exact (idOf_of_getElem h).symm
  next => rfl

/-- Every waiter that is subscribed has a subscription of its own, which is there. -/
structure Sound (c : Signalling) : Prop where
  fresh (id : Nat) : c.signal.next ≤ id → c.signal.subscriptions.lookup id = none
  enrolled (j id : Nat) : c.idOf j = some id → c.signal.Enrolled id
  apart (j k id : Nat) : c.idOf j = some id → c.idOf k = some id → j = k

namespace Sound

theorem lt_next (h : c.Sound) {j id : Nat} (hid : c.idOf j = some id) : id < c.signal.next := by
  have henrolled := h.enrolled j id hid
  by_contra hle
  unfold Shutdown.Enrolled at henrolled
  rw [h.fresh id (by omega)] at henrolled
  cases henrolled

theorem leave (h : c.Sound) {j id : Nat} {w w' : Waiter} (hj : c.waiters[j]? = some w)
    (hid : w.id? = some id) (hdone : w'.id? = none) :
    (c.setWaiter j w' (c.signal.unsubscribe id)).Sound := by
  have hkeeps (k other : Nat)
      (hk : (c.setWaiter j w' (c.signal.unsubscribe id)).idOf k = some other) :
      c.idOf k = some other ∧ other ≠ id := by
    rw [idOf_setWaiter hj] at hk
    split at hk
    next =>
      rw [hdone] at hk
      cases hk
    next hne =>
      refine ⟨hk, ?_⟩
      rintro rfl
      exact hne (h.apart k j other hk ((idOf_of_getElem hj).trans hid))
  refine ⟨fun other hle => ?_, fun k other hk => ?_, fun k l other hk hl => ?_⟩
  · exact Shutdown.lookup_unsubscribe_of_none _ _ (h.fresh other hle)
  · obtain ⟨hk, hne⟩ := hkeeps k other hk
    have henrolled := h.enrolled k other hk
    unfold Shutdown.Enrolled setWaiter at *
    rwa [Shutdown.lookup_unsubscribe _ hne]
  · exact h.apart k l other (hkeeps k other hk).1 (hkeeps l other hl).1

theorem subscribe (h : c.Sound) {j : Nat} (hj : c.waiters[j]? = some .called) :
    (c.setWaiter j (.subscribed c.signal.next) c.signal.subscribe.2).Sound := by
  have hcases (k id : Nat)
      (hk : (c.setWaiter j (.subscribed c.signal.next) c.signal.subscribe.2).idOf k = some id) :
      k = j ∧ id = c.signal.next ∨ k ≠ j ∧ c.idOf k = some id := by
    rw [idOf_setWaiter hj] at hk
    split at hk
    next heq => exact .inl ⟨heq, (Option.some.inj hk).symm⟩
    next hne => exact .inr ⟨hne, hk⟩
  refine ⟨fun id hle => ?_, fun k id hk => ?_, fun k l id hk hl => ?_⟩
  · have hlt : c.signal.next < id := hle
    show c.signal.subscribe.2.subscriptions.lookup id = none
    rw [Shutdown.lookup_subscribe, h.fresh id (by omega), if_neg (by omega)]
    rfl
  · show (c.signal.subscribe.2.subscriptions.lookup id).isSome = true
    obtain ⟨-, rfl⟩ | ⟨-, hk⟩ := hcases k id hk
    · rw [Shutdown.lookup_subscribe, if_pos rfl]
      cases c.signal.subscriptions.lookup c.signal.next <;> rfl
    · rw [Shutdown.lookup_subscribe_of_enrolled (h.enrolled k id hk)]
      exact h.enrolled k id hk
  · obtain ⟨rfl, rfl⟩ | ⟨-, hk⟩ := hcases k id hk
    · obtain ⟨rfl, -⟩ | ⟨-, hl⟩ := hcases l _ hl
      · rfl
      · have := h.lt_next hl
        omega
    · obtain ⟨-, rfl⟩ | ⟨-, hl⟩ := hcases l id hl
      · have := h.lt_next hk
        omega
      · exact h.apart k l id hk hl

theorem step {move : Move} (h : c.Sound) (hstep : Steps c move c') : c'.Sound := by
  cases hstep with
  | give => exact ⟨h.fresh, h.enrolled, h.apart⟩
  | wait =>
    refine ⟨h.fresh, fun j id hj => ?_, fun j k id hj hk => ?_⟩
    · rw [idOf_wait] at hj
      exact h.enrolled j id hj
    · rw [idOf_wait] at hj hk
      exact h.apart j k id hj hk
  | swapLate => exact ⟨h.fresh, h.enrolled, h.apart⟩
  | swapFirst => exact ⟨h.fresh, h.enrolled, h.apart⟩
  | send =>
    refine ⟨fun id hle => ?_, fun j id hj => ?_, h.apart⟩
    · show c.signal.send.subscriptions.lookup id = none
      rw [Shutdown.lookup_send, h.fresh id hle]
      rfl
    · show (c.signal.send.subscriptions.lookup id).isSome = true
      rw [Shutdown.lookup_send, Option.isSome_map]
      exact h.enrolled j id hj
  | subscribe hwaiter => exact h.subscribe hwaiter
  | lookFinding hwaiter => exact h.leave hwaiter rfl rfl
  | lookMissing hwaiter =>
    refine ⟨h.fresh, fun k id hk => ?_, fun k l id hk hl => ?_⟩
    · rw [idOf_listening hwaiter] at hk
      exact h.enrolled k id hk
    · rw [idOf_listening hwaiter] at hk hl
      exact h.apart k l id hk hl
  | receive hwaiter => exact h.leave hwaiter rfl rfl

end Sound

theorem sound_start : ({} : Signalling).Sound := ⟨fun _ _ => rfl, nofun, nofun⟩

theorem Sound.run {moves : List Move} (h : c.Sound) (hrun : c.run? moves = some c') : c'.Sound :=
  foldlM_keeps (fun _ h hstep => h.step (step?_cases hstep)) h hrun

/-- A waiter that has subscribed at some time. -/
def Begun (c : Signalling) (j : Nat) : Prop := ∃ w, c.waiters[j]? = some w ∧ w ≠ .called

theorem begun_setWaiter {j : Nat} {old w : Waiter} (hj : c.waiters[j]? = some old)
    {signal : Shutdown} (hw : w ≠ .called) (k : Nat) :
    (c.setWaiter j w signal).Begun k ↔ c.Begun k ∨ k = j := by
  unfold Begun
  rw [getElem_setWaiter hj]
  by_cases hk : k = j
  · simp [hk, hw]
  · simp [hk]

/-- A waiter that goes on has subscribed before. -/
theorem begun_onward {j : Nat} {old w : Waiter} (hj : c.waiters[j]? = some old)
    {signal : Shutdown} (hold : old ≠ .called) (hw : w ≠ .called) (k : Nat) :
    (c.setWaiter j w signal).Begun k ↔ c.Begun k := by
  rw [begun_setWaiter hj hw]
  refine or_iff_left_of_imp ?_
  rintro rfl
  exact ⟨old, hj, hold⟩

theorem begun_step {move : Move} (hstep : Steps c move c') (j : Nat) :
    c'.Begun j ↔ c.Begun j ∨ move = .subscribe j := by
  cases hstep with
  | give => simp [Begun]
  | wait =>
    unfold Begun
    obtain h | ⟨hnone, hcalled⟩ := c.getElem_wait j
    · simp [h]
    · simp [hnone, hcalled]
  | swapLate => simp [Begun, setGiver]
  | swapFirst => simp [Begun, setGiver]
  | send => simp [Begun, setGiver]
  | subscribe hwaiter => simp [begun_setWaiter hwaiter, eq_comm]
  | lookFinding hwaiter => simp [begun_onward hwaiter]
  | lookMissing hwaiter => simp [begun_onward hwaiter]
  | receive hwaiter => simp [begun_onward hwaiter]

theorem begun_run {moves : List Move} (h : c.run? moves = some c') (j : Nat) :
    c'.Begun j ↔ c.Begun j ∨ .subscribe j ∈ moves := by
  induction moves generalizing c with
  | nil =>
    obtain rfl := Option.some.inj h
    simp
  | cons move moves ih =>
    obtain ⟨between, hfirst, hrest⟩ := foldlM_cons_eq_some.mp h
    rw [ih hrest, begun_step (step?_cases hfirst), List.mem_cons, or_assoc, eq_comm (a := move)]

end Signalling

end Switchboard
