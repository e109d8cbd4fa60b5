import Switchboard.Proofs.SignalSteps

namespace Switchboard

namespace Signalling

variable {c c' : Signalling}

/-- The waiter has seen the flag set or has the message, in its receiver or already taken from
it. -/
def Informed (c : Signalling) (j : Nat) : Prop :=
  c.waiters[j]? = some .sawFlag ∨ c.waiters[j]? = some .gotMessage ∨
    ∃ id, c.idOf j = some id ∧ c.signal.hasMessage id = true

theorem hasMessage_eq_of_lookup {s t : Shutdown} {id : Nat}
    (h : t.subscriptions.lookup id = s.subscriptions.lookup id) :
    t.hasMessage id = s.hasMessage id := by
  unfold Shutdown.hasMessage
  rw [h]

theorem Informed.of_same {j : Nat} (h : c.Informed j) (hwaiter : c'.waiters[j]? = c.waiters[j]?)
    (hsignal : ∀ id, c.idOf j = some id → c.signal.hasMessage id = true →
      c'.signal.hasMessage id = true) : c'.Informed j := by
  have hid : c'.idOf j = c.idOf j := congrArg (·.bind Waiter.id?) hwaiter
  obtain hsaw | hgot | ⟨id, hj, hmessage⟩ := h
  · exact .inl (hwaiter.trans hsaw)
  · exact .inr (.inl (hwaiter.trans hgot))
  · exact .inr (.inr ⟨id, hid.trans hj, hsignal id hj hmessage⟩)

theorem Informed.leave {j k id : Nat} {w w' : Waiter} (h : c.Informed j) (hsound : c.Sound)
    (hk : c.waiters[k]? = some w) (hid : w.id? = some id) (hne : j ≠ k) :
    (c.setWaiter k w' (c.signal.unsubscribe id)).Informed j := by
  refine h.of_same ?_ fun other hj hmessage => ?_
  · rw [getElem_setWaiter hk, if_neg hne]
  · have hother : other ≠ id := by
      rintro rfl
      exact hne (hsound.apart j k other hj ((idOf_of_getElem hk).trans hid))
    rw [← hmessage]
    exact hasMessage_eq_of_lookup (Shutdown.lookup_unsubscribe c.signal hother)

theorem Informed.step {j : Nat} {move : Move} (h : c.Informed j) (hsound : c.Sound)
    (hstep : Steps c move c') : c'.Informed j := by
  cases hstep with
  | give => exact h.of_same rfl fun _ _ hmessage => hmessage
  | wait =>
    refine h.of_same ?_ fun _ _ hmessage => hmessage
    obtain hsame | ⟨hnone, -⟩ := c.getElem_wait j
    · exact hsame
    · unfold Informed idOf at h
      rw [hnone] at h
      simp at h
  | swapLate => exact h.of_same rfl fun _ _ hmessage => hmessage
  | swapFirst => exact h.of_same rfl fun _ _ hmessage => hmessage
  | send => exact h.of_same rfl fun id hj _ => Shutdown.hasMessage_send (hsound.enrolled j id hj)
  | @subscribe k hwaiter =>
    have hne : j ≠ k := by
      rintro rfl
      unfold Informed at h
      rw [idOf_of_getElem hwaiter, hwaiter] at h
      simp [Waiter.id?] at h
    refine h.of_same ?_ fun id hj hmessage => ?_
    · rw [getElem_setWaiter hwaiter, if_neg hne]
    · rw [← hmessage]
      exact hasMessage_eq_of_lookup
        (Shutdown.lookup_subscribe_of_enrolled (hsound.enrolled j id hj))
  | @lookFinding k id hwaiter =>
    by_cases heq : j = k
    · subst heq
      refine .inl ?_
      rw [getElem_setWaiter hwaiter, if_pos rfl]
    · exact h.leave hsound hwaiter rfl heq
  | @lookMissing k id hwaiter =>
    by_cases heq : j = k
    · subst heq
      have hid := idOf_of_getElem hwaiter
      obtain hsaw | hgot | ⟨other, hother, hmessage⟩ := h
      · rw [hwaiter] at hsaw
        cases hsaw
      · rw [hwaiter] at hgot
        cases hgot
      · exact .inr (.inr ⟨other, (idOf_listening hwaiter j).trans hother, hmessage⟩)
    · refine h.of_same ?_ fun _ _ hmessage => hmessage
      rw [getElem_setWaiter hwaiter, if_neg heq]
  | @receive k id hwaiter =>
    by_cases heq : j = k
    · subst heq
      refine .inr (.inl ?_)
      rw [getElem_setWaiter hwaiter, if_pos rfl]
    · exact h.leave hsound hwaiter rfl heq

theorem Informed.run {j : Nat} {moves : List Move} (h : c.Informed j) (hsound : c.Sound)
    (hrun : c.run? moves = some c') : c'.Informed j := by
  refine (foldlM_keeps (P := fun c : Signalling => c.Sound ∧ c.Informed j) ?_ ⟨hsound, h⟩ hrun).2
  intro c c' move h hstep
  exact ⟨h.1.step (step?_cases hstep), h.2.step h.1 (step?_cases hstep)⟩

/-- Who has subscribed when the messages are sent has one, unless it has returned. -/
theorem informed_of_send {i j : Nat} (hsound : c.Sound) (hbegun : c.Begun j) :
    (c.setGiver i .returned c.signal.send).Informed j := by
  obtain ⟨w, hw, hcalled⟩ := hbegun
  have hid := idOf_of_getElem hw
  have hmessage (id : Nat) (hj : c.idOf j = some id) : c.signal.send.hasMessage id = true :=
    Shutdown.hasMessage_send (hsound.enrolled j id hj)
  cases w with
  | called => exact absurd rfl hcalled
  | subscribed id => exact .inr (.inr ⟨id, hid, hmessage id hid⟩)
  | listening id => exact .inr (.inr ⟨id, hid, hmessage id hid⟩)
  | sawFlag => exact .inl hw
  | gotMessage => exact .inr (.inl hw)

/-- The waiter has its answer from the flag or will have it from there. -/
def ReliesOnFlag (c : Signalling) (j : Nat) : Prop :=
  ∀ w, c.waiters[j]? = some w → w = .called ∨ w = .sawFlag ∨ ∃ id, w = .subscribed id

theorem ReliesOnFlag.of_same {j : Nat} (h : c.ReliesOnFlag j)
    (hwaiter : c'.waiters[j]? = c.waiters[j]?) : c'.ReliesOnFlag j := by
  unfold ReliesOnFlag
  rw [hwaiter]
  exact h

theorem reliesOnFlag_of_getElem {j : Nat} {w : Waiter} (h : c.waiters[j]? = some w)
    (hw : w = .called ∨ w = .sawFlag ∨ ∃ id, w = .subscribed id) : c.ReliesOnFlag j := by
  intro other hother
  rw [h] at hother
  exact Option.some.inj hother ▸ hw

/-- Whoever comes when the flag is set finds it set. -/
theorem ReliesOnFlag.step {j : Nat} {move : Move} (h : c.ReliesOnFlag j)
    (hflag : c.signal.triggered = true) (hstep : Steps c move c') : c'.ReliesOnFlag j := by
  cases hstep with
  | give | swapLate | swapFirst | send => exact h.of_same rfl
  | wait =>
    obtain hsame | ⟨-, hcalled⟩ := c.getElem_wait j
    · exact h.of_same hsame
    · exact reliesOnFlag_of_getElem hcalled (.inl rfl)
  | @subscribe k hwaiter =>
    have hset := getElem_setWaiter hwaiter (.subscribed c.signal.next) c.signal.subscribe.2 j
    split at hset
    · exact reliesOnFlag_of_getElem hset (.inr (.inr ⟨_, rfl⟩))
    · exact h.of_same hset
  | @lookFinding k id hwaiter =>
    have hset := getElem_setWaiter hwaiter .sawFlag (c.signal.unsubscribe id) j
    split at hset
    · exact reliesOnFlag_of_getElem hset (.inr (.inl rfl))
    · exact h.of_same hset
  | lookMissing hwaiter hmissing =>
    rw [hflag] at hmissing
    cases hmissing
  | @receive k id hwaiter =>
    have hne : j ≠ k := by
      rintro rfl
      obtain hw | hw | ⟨_, hw⟩ := h _ hwaiter <;> cases hw
    refine h.of_same ?_
    rw [getElem_setWaiter hwaiter, if_neg hne]

theorem ReliesOnFlag.run {j : Nat} {moves : List Move} (h : c.ReliesOnFlag j)
    (hflag : c.signal.triggered = true) (hrun : c.run? moves = some c') : c'.ReliesOnFlag j := by
  refine (foldlM_keeps (P := fun c : Signalling =>
    c.signal.triggered = true ∧ c.ReliesOnFlag j) ?_ ⟨hflag, h⟩ hrun).2
  intro c c' move h hstep
  have hflag' : c'.signal.triggered = true :=
    triggered_run [move] (foldlM_cons_eq_some.mpr ⟨c', hstep, rfl⟩) h.1
  exact ⟨hflag', h.2.step h.1 (step?_cases hstep)⟩

def Move.waiter? : Move → Option Nat
  | subscribe j | look j | receive j => some j
  | give | wait | swap _ | send _ => none

/-- The waiter returns if it takes its own steps, and needs no step of anybody else for that. -/
def Finishes (c : Signalling) (j : Nat) : Prop :=
  ∃ own c' w, (∀ move ∈ own, move.waiter? = some j) ∧ c.run? own = some c' ∧
    c'.waiters[j]? = some w ∧ w.returned = true

theorem look_of_flag {j id : Nat} (hflag : c.signal.triggered = true)
    (hj : c.waiters[j]? = some (.subscribed id)) :
    c.step? (.look j) = some (c.setWaiter j .sawFlag (c.signal.unsubscribe id)) := by
  show c.look? j = _
  unfold look?
  simp only [hj]
  exact if_pos hflag

theorem finishes_of_flag {j : Nat} {w : Waiter} (hflag : c.signal.triggered = true)
    (hj : c.waiters[j]? = some w)
    (hlistening : ∀ id, w = .listening id → c.signal.hasMessage id = true) : c.Finishes j := by
  have hset (c : Signalling) (w w' : Waiter) (signal : Shutdown) (hw : c.waiters[j]? = some w) :
      (c.setWaiter j w' signal).waiters[j]? = some w' := by
    rw [getElem_setWaiter hw, if_pos rfl]
  cases w with
  | called =>
    have hsubscribe : c.step? (.subscribe j) =
        some (c.setWaiter j (.subscribed c.signal.next) c.signal.subscribe.2) := by
      show c.subscribe? j = _
      unfold subscribe?
      simp only [hj]
      rfl
    have hsubscribed := hset c _ (.subscribed c.signal.next) c.signal.subscribe.2 hj
    have hlook := look_of_flag
      (c := c.setWaiter j (.subscribed c.signal.next) c.signal.subscribe.2) hflag hsubscribed
    refine ⟨[.subscribe j, .look j], _, .sawFlag, by simp [Move.waiter?],
      foldlM_cons_eq_some.mpr ⟨_, hsubscribe, foldlM_cons_eq_some.mpr ⟨_, hlook, rfl⟩⟩,
      hset _ _ _ _ hsubscribed, rfl⟩
  | subscribed id =>
    exact ⟨[.look j], _, .sawFlag, by simp [Move.waiter?],
      foldlM_cons_eq_some.mpr ⟨_, look_of_flag hflag hj, rfl⟩, hset _ _ _ _ hj, rfl⟩
  | listening id =>
    have hreceive : c.step? (.receive j) =
        some (c.setWaiter j .gotMessage (c.signal.unsubscribe id)) := by
      show c.receive? j = _
      unfold receive?
      simp only [hj]
      exact if_pos (hlistening id rfl)
    exact ⟨[.receive j], _, .gotMessage, by simp [Move.waiter?],
      foldlM_cons_eq_some.mpr ⟨_, hreceive, rfl⟩, hset _ _ _ _ hj, rfl⟩
  | sawFlag => exact ⟨[], c, .sawFlag, nofun, rfl, hj, rfl⟩
  | gotMessage => exact ⟨[], c, .gotMessage, nofun, rfl, hj, rfl⟩

/-- However the steps of any number of calls come, at most one send is among them and the flag stays
set. Behind the send, everybody who had subscribed before has seen the flag set or has the message,
whoever subscribes later finds the flag set, and nobody who waits is stuck. -/
theorem signal_heard (moves : List Move) (hrun : ({} : Signalling).run? moves = some c) :
    moves.countP Move.isSend ≤ 1 ∧
      (∀ before after c', moves = before ++ after → ({} : Signalling).run? before = some c' →
        c'.signal.triggered = true → c.signal.triggered = true) ∧
      ∀ before i after, moves = before ++ .send i :: after →
        c.signal.triggered = true ∧
        (∀ j, .subscribe j ∈ before → c.Informed j) ∧
        (∀ j, .subscribe j ∉ before → c.ReliesOnFlag j) ∧
        ∀ j < c.waiters.length, c.Finishes j := by
  have hdebt := debt_run hrun
  have hone : ({} : Signalling).debt = 1 := rfl
  refine ⟨by omega, ?_, ?_⟩
  · rintro before after c' rfl hbefore hflag
    obtain ⟨between, hfirst, hrest⟩ := foldlM_append_eq_some.mp hrun
    obtain rfl := Option.some.inj (hfirst.symm.trans hbefore)
    exact triggered_run after hrest hflag
  · rintro before i after rfl
    obtain ⟨c₁, hbefore, hrest⟩ := foldlM_append_eq_some.mp hrun
    obtain ⟨c₂, hsend, hafter⟩ := foldlM_cons_eq_some.mp hrest
    have hsound : c₁.Sound := sound_start.run hbefore
    have hbegun (j : Nat) : c₁.Begun j ↔ .subscribe j ∈ before := by
      rw [begun_run hbefore]
      exact or_iff_right (by simp [Begun])
    have hstep := step?_cases hsend
    have hsound' := hsound.step hstep
    -- Behind the only send nothing is owed, and that includes the flag.
    have hflag : c₂.signal.triggered = true := by
      have hdebt₁ := debt_run hbefore
      have hdebt₂ := debt_step hstep
      simp only [Move.isSend, ↓reduceIte] at hdebt₂
      by_contra hnot
      have hfull : 1 ≤ c₂.debt := by
        unfold debt
        rw [if_neg hnot]
        omega
      omega
    have hinformed (j : Nat) (hj : .subscribe j ∈ before) : c.Informed j := by
      cases hstep with
      | send => exact (informed_of_send hsound ((hbegun j).mpr hj)).run hsound' hafter
    have hrelies (j : Nat) (hj : .subscribe j ∉ before) : c.ReliesOnFlag j := by
      refine ReliesOnFlag.run (fun w hw => .inl ?_) hflag hafter
      by_contra hcalled
      cases hstep with
      | send => exact hj ((hbegun j).mp ⟨w, hw, hcalled⟩)
    have hset : c.signal.triggered = true := triggered_run after hafter hflag
    refine ⟨hset, hinformed, hrelies, fun j hj => ?_⟩
    refine finishes_of_flag hset (List.getElem?_eq_getElem hj) fun id hid => ?_
    have hlistening : c.waiters[j]? = some (.listening id) :=
      (List.getElem?_eq_getElem hj).trans (congrArg some hid)
    by_cases hearly : .subscribe j ∈ before
    · obtain hsaw | hgot | ⟨other, hother, hmessage⟩ := hinformed j hearly
      · cases hlistening.symm.trans hsaw
      · cases hlistening.symm.trans hgot
      · rw [idOf_of_getElem hlistening] at hother
        exact Option.some.inj hother ▸ hmessage
    · obtain hw | hw | ⟨_, hw⟩ := hrelies j hearly _ hlistening <;> cases hw

/-- Two calls that give the signal and three that wait for it: the first listens before the flag is
set, the second looks between the flag and the messages, the third subscribes behind them. -/
def rush : List Move :=
  [.give, .wait, .wait, .wait, .give, .subscribe 0, .look 0, .subscribe 1, .swap 0, .swap 1, .look 1,
   .send 0, .subscribe 2, .receive 0]

def rushed : Signalling :=
  ⟨⟨true, [(2, false)], 3⟩, [.returned, .returned], [.gotMessage, .sawFlag, .subscribed 2]⟩

theorem signal_heard_rush :
    ({} : Signalling).run? rush = some rushed ∧
      rush.countP Move.isSend ≤ 1 ∧
      (∀ before after c', rush = before ++ after → ({} : Signalling).run? before = some c' →
        c'.signal.triggered = true → rushed.signal.triggered = true) ∧
      ∀ before i after, rush = before ++ .send i :: after →
        rushed.signal.triggered = true ∧
        (∀ j, .subscribe j ∈ before → rushed.Informed j) ∧
        (∀ j, .subscribe j ∉ before → rushed.ReliesOnFlag j) ∧
        ∀ j < rushed.waiters.length, rushed.Finishes j :=
  ⟨by decide, signal_heard rush (by decide)⟩

theorem run?_trigger (c : Signalling) :
    ∃ moves, c.run? moves =
      some { c with signal := c.signal.trigger, givers := c.givers ++ [.returned] } := by
  have hcalled : (c.givers ++ [Giver.called])[c.givers.length]? = some .called :=
    List.getElem?_concat_length
  have hset (g g' : Giver) : (c.givers ++ [g]).set c.givers.length g' = c.givers ++ [g'] := by
    rw [List.set_append_right _ _ (Nat.le_refl _), Nat.sub_self, List.set_cons_zero]
  cases hflag : c.signal.triggered with
  | true =>
    have hswap : ({ c with givers := c.givers ++ [.called] } : Signalling).step?
        (.swap c.givers.length) =
          some { c with signal := c.signal.trigger, givers := c.givers ++ [.returned] } := by
      show swap? _ _ = _
      unfold swap?
      simp only [hcalled, Shutdown.swap, hflag, setGiver, hset, Shutdown.trigger]
    exact ⟨[.give, .swap c.givers.length],
      foldlM_cons_eq_some.mpr ⟨_, rfl, foldlM_cons_eq_some.mpr ⟨_, hswap, rfl⟩⟩⟩
  | false =>
    have hswap : ({ c with givers := c.givers ++ [.called] } : Signalling).step?
        (.swap c.givers.length) = some
          { c with signal := { c.signal with triggered := true }
                   givers := c.givers ++ [.owing] } := by
      show swap? _ _ = _
      unfold swap?
      simp only [hcalled, Shutdown.swap, hflag, setGiver, hset]
    have howing : (c.givers ++ [Giver.owing])[c.givers.length]? = some .owing :=
      List.getElem?_concat_length
    have hsend : ({ c with signal := { c.signal with triggered := true }
                           givers := c.givers ++ [.owing] } : Signalling).step?
        (.send c.givers.length) =
          some { c with signal := c.signal.trigger, givers := c.givers ++ [.returned] } := by
      show send? _ _ = _
      unfold send?
      simp only [howing, setGiver, hset, Shutdown.trigger, Shutdown.swap, hflag]
    exact ⟨[.give, .swap c.givers.length, .send c.givers.length],
      foldlM_cons_eq_some.mpr ⟨_, rfl, foldlM_cons_eq_some.mpr
        ⟨_, hswap, foldlM_cons_eq_some.mpr ⟨_, hsend, rfl⟩⟩⟩⟩

theorem waiter_of_other {j : Nat} {w : Waiter} {move : Move} (hj : c.waiters[j]? = some w)
    (hother : move.waiter? ≠ some j) (hstep : Steps c move c') : c'.waiters[j]? = some w := by
  have hne {k : Nat} {old w' : Waiter} {signal : Shutdown} (hk : c.waiters[k]? = some old)
      (hk' : some k ≠ some j) : (c.setWaiter k w' signal).waiters[j]? = some w := by
    rw [getElem_setWaiter hk, if_neg fun heq => hk' (congrArg some heq.symm)]
    exact hj
  cases hstep with
  | give | swapLate | swapFirst | send => exact hj
  | wait =>
    obtain hsame | ⟨hnone, -⟩ := c.getElem_wait j
    · exact hsame.trans hj
    · rw [hnone] at hj
      cases hj
  | subscribe hk => exact hne hk hother
  | lookFinding hk => exact hne hk hother
  | lookMissing hk => exact hne hk hother
  | receive hk => exact hne hk hother

theorem waiter_of_others {j : Nat} {w : Waiter} {moves : List Move}
    (hj : c.waiters[j]? = some w) (hothers : ∀ move ∈ moves, move.waiter? ≠ some j)
    (hrun : c.run? moves = some c') : c'.waiters[j]? = some w := by
  induction moves generalizing c with
  | nil =>
    obtain rfl := Option.some.inj hrun
    exact hj
  | cons move moves ih =>
    obtain ⟨between, hfirst, hrest⟩ := foldlM_cons_eq_some.mp hrun
    have hbetween := waiter_of_other hj (hothers move (List.mem_cons_self ..)) (step?_cases hfirst)
    exact ih hbetween (fun m hm => hothers m (List.mem_cons_of_mem _ hm)) hrest

/-- To wait in one go, with steps of others behind a look that missed, goes on exactly where the
message can then be received. -/
theorem waitDuring_goesOn {j : Nat} (hj : c.waiters[j]? = some .called)
    (hflag : c.signal.triggered = false) {others : List Move}
    (hothers : ∀ move ∈ others, move.waiter? ≠ some j)
    (hrun : c.run? (.subscribe j :: .look j :: others) = some c')
    {meanwhile : Shutdown → Shutdown}
    (hmeanwhile : meanwhile c.signal.subscribe.2 = c'.signal) :
    (c.signal.waitDuring meanwhile).1 = (c'.step? (.receive j)).isSome := by
  obtain ⟨c₁, hsubscribe, hrest⟩ := foldlM_cons_eq_some.mp hrun
  obtain ⟨c₂, hlook, hrest⟩ := foldlM_cons_eq_some.mp hrest
  have hlistening : c₂.waiters[j]? = some (.listening c.signal.next) := by
    cases step?_cases hsubscribe with
    | subscribe =>
      have hsubscribed := getElem_setWaiter hj (.subscribed c.signal.next) c.signal.subscribe.2 j
      rw [if_pos rfl] at hsubscribed
      cases step?_cases hlook with
      | lookFinding _ hset =>
        exact absurd (hset.symm.trans hflag) nofun
      | lookMissing hwaiter =>
        obtain ⟨rfl⟩ := Option.some.inj (hsubscribed.symm.trans hwaiter)
        rw [getElem_setWaiter hwaiter, if_pos rfl]
  have hstill := waiter_of_others hlistening hothers hrest
  have hreceive : (c'.step? (.receive j)).isSome = c'.signal.hasMessage c.signal.next := by
    show (receive? c' j).isSome = _
    unfold receive?
    simp only [hstill]
    cases c'.signal.hasMessage c.signal.next <;> rfl
  rw [hreceive, ← hmeanwhile]
  unfold Shutdown.waitDuring
  have hmissed : c.signal.subscribe.2.triggered = false := hflag
  simp only [Shutdown.subscribe] at hmissed ⊢
  rw [hmissed, Bool.false_or]

end Signalling

end Switchboard
