import Switchboard.Value.Basic

namespace Switchboard

inductive Sample where
  | request (method : String) (status : Nat) (route : String)
  | failure (status : Nat)
  | hookFailure (place : String)
  deriving DecidableEq, Repr

/-- A named counter with labels, in the order of the labels' names. -/
structure Series where
  name : String
  labels : List (String × String)
  deriving DecidableEq, Repr

/-- The series that a sample adds to. A request counts once as such and once among the durations. -/
def Sample.series : Sample → List Series
  | request method status route =>
    let labels := [("method", method), ("route", route), ("status", toString status)]
    [⟨"dispatch_requests_total", labels⟩, ⟨"dispatch_request_duration_seconds", labels⟩]
  | failure status => [⟨"dispatch_failures_total", [("status", toString status)]⟩]
  | hookFailure place => [⟨"dispatch_hook_failures_total", [("stage", place)]⟩]

structure Metrics where
  enabled : Bool := true
  totals : List (Series × Nat) := []

namespace Metrics

def count (series : Series) : List (Series × Nat) → List (Series × Nat)
  | [] => [(series, 1)]
  | (other, n) :: rest =>
    if other = series then (other, n + 1) :: rest else (other, n) :: count series rest

def record (m : Metrics) (s : Sample) : Metrics :=
  if m.enabled then { m with totals := s.series.foldl (fun totals x => count x totals) m.totals }
  else m

def recordAll (m : Metrics) (samples : List Sample) : Metrics := samples.foldl record m

def total (m : Metrics) (series : Series) : Nat := (m.totals.lookup series).getD 0

theorem lookup_count_self (series : Series) (totals : List (Series × Nat)) :
    (count series totals).lookup series = some ((totals.lookup series).getD 0 + 1) := by
  induction totals with
  | nil => simp [count]
  | cons entry rest ih =>
    obtain ⟨other, n⟩ := entry
    by_cases h : other = series
    · simp [count, h]
    · simp [count, h, List.lookup_cons, beq_eq_false_iff_ne.mpr (Ne.symm h), ih]

theorem lookup_count_ne {series other : Series} (h : other ≠ series)
    (totals : List (Series × Nat)) :
    (count series totals).lookup other = totals.lookup other := by
  induction totals with
  | nil => simp [count, List.lookup_cons, beq_eq_false_iff_ne.mpr h]
  | cons entry rest ih =>
    obtain ⟨found, n⟩ := entry
    by_cases hf : found = series
    · subst hf
      simp [count, List.lookup_cons, beq_eq_false_iff_ne.mpr h]
    · simp [count, hf, List.lookup_cons, ih]

end Metrics

end Switchboard
