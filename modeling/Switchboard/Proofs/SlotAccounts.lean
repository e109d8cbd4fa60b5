import Switchboard.Pipeline.Contention
import Switchboard.Proofs.Interleavings

namespace Switchboard

namespace Pool

theorem size_of_acquire? {p p' : Pool} (h : p.acquire? = some p') : p'.size = p.size := by
  unfold acquire? at h
  split at h
  · cases h
    rfl
  · cases h

theorem free_of_acquire? {p p' : Pool} (h : p.acquire? = some p') : p'.free + 1 = p.free := by
  unfold acquire? at h
  split at h
  · cases h
    dsimp only
    omega
  · cases h

theorem acquire?_of_free {p : Pool} (h : 0 < p.free) :
    p.acquire? = some { p with free := p.free - 1 } :=
  if_pos h

end Pool

namespace Turn

def share (t : Turn) : Nat := if t.phase.holdsSlot then 1 else 0

variable {limit : Option Nat} {t t' : Turn} {p p' : Pool}

/-- What a step gives to an invocation it takes from the pool, and the other way round. -/
structure Balanced (t : Turn) (p : Pool) (t' : Turn) (p' : Pool) : Prop where
  size : p'.size = p.size
  slots : p'.free + t'.share = p.free + t.share

theorem abandon_balanced (t : Turn) (limit : Nat) (p : Pool) :
    t.Balanced p (t.abandon limit p).1 (t.abandon limit p).2 := by
  obtain ⟨phase, told⟩ := t
  cases phase with
  | queued => exact ⟨rfl, rfl⟩
  | granted => exact ⟨rfl, rfl⟩
  | admitted => exact ⟨rfl, rfl⟩
  | running => exact ⟨rfl, rfl⟩
  | ended => exact ⟨rfl, rfl⟩

theorem act?_balanced {act : Act} (h : t.act? limit p act = some (t', p')) :
    t.Balanced p t' p' := by
  cases act with
  | grant =>
    obtain ⟨hphase, h⟩ := (Option.ite_none_right_eq_some).mp h
    obtain ⟨taken, htaken, heq⟩ := Option.map_eq_some_iff.mp h
    cases heq
    have hfree := Pool.free_of_acquire? htaken
    refine ⟨Pool.size_of_acquire? htaken, ?_⟩
    simp [share, Phase.holdsSlot, hphase, hfree]
  | spawn =>
    obtain ⟨hphase, h⟩ := (Option.ite_none_right_eq_some).mp h
    cases h
    refine ⟨rfl, ?_⟩
    simp [share, Phase.holdsSlot, hphase]
  | begin =>
    obtain ⟨hphase, h⟩ := (Option.ite_none_right_eq_some).mp h
    cases h
    refine ⟨rfl, ?_⟩
    simp [share, Phase.holdsSlot, hphase]
  | conclude ending =>
    obtain ⟨hphase, h⟩ := (Option.ite_none_right_eq_some).mp h
    cases h
    refine ⟨rfl, ?_⟩
    simp [share, conclude, Phase.holdsSlot, hphase, Pool.release]
  | giveUp =>
    obtain ⟨-, h⟩ := (Option.ite_none_right_eq_some).mp h
    obtain ⟨limit, -, heq⟩ := Option.map_eq_some_iff.mp h
    have hbalanced := abandon_balanced t limit p
    rw [heq] at hbalanced
    exact hbalanced

end Turn

namespace Contention

/-- The slots that invocations have. -/
def held (c : Contention) : Nat := c.turns.countP (·.phase.holdsSlot)

/-- The handlers that run, those nobody waits for included. -/
def running (c : Contention) : Nat := c.turns.countP (·.phase = .running)

variable {limit : Option Nat} {c c' : Contention} {slots : Nat}

/-- Every slot is free or has an owner. -/
structure Accounted (slots : Nat) (c : Contention) : Prop where
  size : c.pool.size = slots
  slots : c.pool.free + c.held = slots

theorem accounted_ofSize (slots : Nat) : (⟨.ofSize slots, []⟩ : Contention).Accounted slots :=
  ⟨rfl, rfl⟩

theorem held_set {i : Nat} {t : Turn} (hi : c.turns[i]? = some t) (t' : Turn) (pool : Pool) :
    (⟨pool, c.turns.set i t'⟩ : Contention).held + t.share = c.held + t'.share :=
  countP_set_add (fun t : Turn => t.phase.holdsSlot) hi t'

theorem Accounted.step? (h : c.Accounted slots) (move : Move)
    (hstep : c.step? limit move = some c') : c'.Accounted slots := by
  cases move with
  | arrive =>
    cases Option.some.inj hstep
    refine ⟨h.size, ?_⟩
    have hslots := h.slots
    unfold held at hslots ⊢
    simpa [Phase.holdsSlot] using hslots
  | act i act =>
    cases hi : c.turns[i]? with
    | none => simp [Contention.step?, hi] at hstep
    | some t =>
      have hmoved : (t.act? limit c.pool act).map
          (fun moved => (⟨moved.2, c.turns.set i moved.1⟩ : Contention)) = some c' := by
        simpa [Contention.step?, hi] using hstep
      obtain ⟨⟨t', pool⟩, hact, rfl⟩ := Option.map_eq_some_iff.mp hmoved
      have hbalanced := Turn.act?_balanced hact
      have hheld := held_set hi t' pool
      have hslots := h.slots
      have hturn := hbalanced.slots
      refine ⟨hbalanced.size.trans h.size, ?_⟩
      dsimp only
      omega

theorem Accounted.run? (h : c.Accounted slots) {moves : List Move}
    (hrun : c.run? limit moves = some c') : c'.Accounted slots :=
  foldlM_keeps (fun move h hstep => h.step? move hstep) h hrun

theorem running_le_held (c : Contention) : c.running ≤ c.held :=
  List.countP_mono_left fun t _ ht => by
    rw [of_decide_eq_true ht]
    rfl

theorem held_of_idle (h : ∀ t ∈ c.turns, t.phase ≠ .running ∧ t.phase.waits = false) :
    c.held = 0 := by
  refine List.countP_eq_zero.mpr fun t ht hholds => ?_
  obtain ⟨hnot, hwaits⟩ := h t ht
  cases hphase : t.phase with
  | queued => simp [hphase, Phase.holdsSlot] at hholds
  | granted => simp [hphase, Phase.waits] at hwaits
  | admitted => simp [hphase, Phase.waits] at hwaits
  | running => exact hnot hphase
  | ended => simp [hphase, Phase.holdsSlot] at hholds

/-- Over the slots of a pool, no more handlers run than there are slots, the ones left alone by
their callers included; the free slots and the ones that are held are all slots; and when nothing
runs or waits, all are free. -/
theorem slots_accounted (workers : Workers) (moves : List Move) {pool : Pool}
    (hpool : workers.pool? = some pool)
    (hrun : (⟨pool, []⟩ : Contention).run? workers.limit moves = some c) :
    c.running ≤ workers.slots ∧ c.pool.free + c.held = workers.slots ∧
      ((∀ t ∈ c.turns, t.phase ≠ .running ∧ t.phase.waits = false) →
        c.pool.free = workers.slots) := by
  have hfull : pool = .ofSize workers.slots := by
    unfold Workers.pool? at hpool
    split at hpool
    · cases hpool
    · exact (Option.some.inj hpool).symm
  subst hfull
  have hslots := ((accounted_ofSize workers.slots).run? hrun).slots
  have hrunning := running_le_held c
  refine ⟨by omega, hslots, fun hidle => ?_⟩
  rw [held_of_idle hidle] at hslots
  exact hslots

/-- Two callers at one slot who both give up, one of them on a handler that goes on until it panics,
and a third whose slot is granted when it gives up too. -/
def crowded : List Move :=
  [.arrive, .arrive, .act 0 .grant, .act 0 .spawn, .act 0 .begin, .act 0 .giveUp, .arrive,
   .act 1 .giveUp, .act 0 (.conclude (.panicked none)), .act 2 .grant, .act 2 .giveUp]

def cleared : Contention :=
  ⟨.ofSize 1, List.replicate 3 ⟨.ended, some (.error (Invocation.lateFailure 50))⟩⟩

theorem slots_accounted_crowded :
    (⟨1, some 50⟩ : Workers).pool? = some (.ofSize 1) ∧
      (⟨.ofSize 1, []⟩ : Contention).run? (some 50) crowded = some cleared ∧
      cleared.running ≤ 1 ∧ cleared.pool.free + cleared.held = 1 ∧
      ((∀ t ∈ cleared.turns, t.phase ≠ .running ∧ t.phase.waits = false) →
        cleared.pool.free = 1) :=
  ⟨rfl, rfl, slots_accounted ⟨1, some 50⟩ crowded rfl rfl⟩

example : ((⟨.ofSize 1, []⟩ : Contention).run? (some 50) (crowded.take 8)).map
    (fun c => (c.running, c.held, c.pool.free)) = some (1, 1, 0) := by
  rfl

end Contention

end Switchboard
