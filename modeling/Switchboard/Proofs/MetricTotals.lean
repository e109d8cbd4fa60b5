import Switchboard.Journal.Metrics
import Mathlib.Data.List.Count

namespace Switchboard

namespace Sample

/-- What a request is counted as: its method, its status and its route. -/
def request? : Sample → Option (String × Nat × String)
  | request method status route => some (method, status, route)
  | failure _ | hookFailure _ => none

def failure? : Sample → Option Nat
  | failure status => some status
  | request .. | hookFailure _ => none

def hookFailure? : Sample → Option String
  | hookFailure place => some place
  | request .. | failure _ => none

end Sample

namespace Metrics

def sumOf (name : String) : List (Series × Nat) → Nat
  | [] => 0
  | entry :: rest => (if entry.1.name = name then entry.2 else 0) + sumOf name rest

def sum (m : Metrics) (name : String) : Nat := sumOf name m.totals

def requestSeries (name : String) (r : String × Nat × String) : Series :=
  ⟨name, [("method", r.1), ("route", r.2.2), ("status", toString r.2.1)]⟩

def failureSeries (status : Nat) : Series :=
  ⟨"dispatch_failures_total", [("status", toString status)]⟩

def hookFailureSeries (place : String) : Series :=
  ⟨"dispatch_hook_failures_total", [("stage", place)]⟩

theorem recordAll_append (m : Metrics) (samples others : List Sample) :
    m.recordAll (samples ++ others) = (m.recordAll samples).recordAll others :=
  List.foldl_append

theorem totals_recordAll {m : Metrics} (h : m.enabled = true) (samples : List Sample) :
    (m.recordAll samples).totals =
      (samples.flatMap Sample.series).foldl (fun totals x => count x totals) m.totals := by
  induction samples generalizing m with
  | nil => rfl
  | cons s rest ih =>
    have hrecord : m.record s =
        { m with totals := s.series.foldl (fun totals x => count x totals) m.totals } := if_pos h
    have henabled : (m.record s).enabled = true := by
      rw [hrecord]
      exact h
    rw [List.flatMap_cons, List.foldl_append]
    refine (ih henabled).trans ?_
    rw [hrecord]

theorem lookup_foldl_count (series : Series) (xs : List Series) (totals : List (Series × Nat)) :
    ((xs.foldl (fun totals x => count x totals) totals).lookup series).getD 0 =
      (totals.lookup series).getD 0 + xs.count series := by
  induction xs generalizing totals with
  | nil => rfl
  | cons x rest ih =>
    rw [List.foldl_cons, ih, List.count_cons]
    by_cases h : x = series
    · subst h
      rw [lookup_count_self, if_pos (beq_self_eq_true x), Option.getD_some]
      omega
    · rw [lookup_count_ne (Ne.symm h), if_neg (by simpa using h)]
      omega

theorem sumOf_count (name : String) (x : Series) (totals : List (Series × Nat)) :
    sumOf name (count x totals) = sumOf name totals + if x.name = name then 1 else 0 := by
  induction totals with
  | nil => simp [count, sumOf]
  | cons entry rest ih =>
    obtain ⟨other, n⟩ := entry
    by_cases h : other = x
    · subst h
      rw [count, if_pos rfl, sumOf, sumOf]
      split <;> omega
    · rw [count, if_neg h, sumOf, sumOf, ih]
      omega

theorem sumOf_foldl_count (name : String) (xs : List Series) (totals : List (Series × Nat)) :
    sumOf name (xs.foldl (fun totals x => count x totals) totals) =
      sumOf name totals + xs.countP (·.name = name) := by
  induction xs generalizing totals with
  | nil => rfl
  | cons x rest ih =>
    rw [List.foldl_cons, ih, sumOf_count, List.countP_cons]
    simp only [decide_eq_true_eq]
    omega

/-- The series of one name that samples add to, if only one kind of sample has series of that
name. -/
theorem filter_series {α : Type} {name : String} {kind? : Sample → Option α} {f : α → Series}
    (hkind : ∀ s : Sample, s.series.filter (·.name = name) = (kind? s).toList.map f)
    (samples : List Sample) :
    (samples.flatMap Sample.series).filter (·.name = name) = (samples.filterMap kind?).map f := by
  induction samples with
  | nil => rfl
  | cons s rest ih =>
    rw [List.flatMap_cons, List.filter_append, hkind, ih, ← List.map_append]
    cases hs : kind? s <;> simp [hs]

section Recorded

variable {α : Type} {name : String} {kind? : Sample → Option α} {f : α → Series}
  (hkind : ∀ s : Sample, s.series.filter (·.name = name) = (kind? s).toList.map f)
include hkind

theorem sum_recorded (samples : List Sample) :
    (({} : Metrics).recordAll samples).sum name = (samples.filterMap kind?).length := by
  have hfilter := filter_series hkind samples
  unfold sum
  rw [totals_recordAll rfl, sumOf_foldl_count, List.countP_eq_length_filter, hfilter,
    List.length_map]
  exact Nat.zero_add _

theorem total_recorded [DecidableEq α] (hname : ∀ a, (f a).name = name)
    (hf : Function.Injective f) (samples : List Sample) (a : α) :
    (({} : Metrics).recordAll samples).total (f a) =
      (samples.filterMap kind?).countP (· = a) := by
  have hfilter := filter_series hkind samples
  have hcount := List.count_map_of_injective (samples.filterMap kind?) f hf a
  rw [← hfilter, List.count_filter (by simp [hname])] at hcount
  unfold total
  rw [totals_recordAll rfl, lookup_foldl_count, hcount]
  exact Nat.zero_add _

end Recorded

theorem filter_requests (s : Sample) :
    s.series.filter (·.name = "dispatch_requests_total") =
      s.request?.toList.map (requestSeries "dispatch_requests_total") := by
  cases s <;> rfl

theorem filter_durations (s : Sample) :
    s.series.filter (·.name = "dispatch_request_duration_seconds") =
      s.request?.toList.map (requestSeries "dispatch_request_duration_seconds") := by
  cases s <;> rfl

theorem filter_failures (s : Sample) :
    s.series.filter (·.name = "dispatch_failures_total") =
      s.failure?.toList.map failureSeries := by
  cases s <;> rfl

theorem filter_hookFailures (s : Sample) :
    s.series.filter (·.name = "dispatch_hook_failures_total") =
      s.hookFailure?.toList.map hookFailureSeries := by
  cases s <;> rfl

theorem toString_injective : Function.Injective (toString : Nat → String) := by
  intro m n h
  rw [Nat.toString_eq_repr, Nat.toString_eq_repr] at h
  have hdigits := congrArg String.toList h
  rw [Nat.toList_repr, Nat.toList_repr] at hdigits
  have hread := congrArg (Nat.ofDigitChars 10 · 0) hdigits
  simpa only [Nat.ofDigitChars_ten_toDigits] using hread

theorem requestSeries_injective (name : String) : Function.Injective (requestSeries name) := by
  rintro ⟨method, status, route⟩ ⟨method', status', route'⟩ h
  simp only [requestSeries, Series.mk.injEq, List.cons.injEq, Prod.mk.injEq, true_and, and_true]
    at h
  obtain ⟨rfl, rfl, hstatus⟩ := h
  rw [toString_injective hstatus]

theorem failureSeries_injective : Function.Injective failureSeries := by
  intro status status' h
  simp only [failureSeries, Series.mk.injEq, List.cons.injEq, Prod.mk.injEq, true_and, and_true]
    at h
  exact toString_injective h

theorem hookFailureSeries_injective : Function.Injective hookFailureSeries := by
  intro place place' h
  simpa [hookFailureSeries] using h

end Metrics

end Switchboard
