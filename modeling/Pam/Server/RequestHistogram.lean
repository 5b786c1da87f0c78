import Mathlib.Algebra.BigOperators.Fin

namespace Pam.Server

open List

/-! The request-duration histogram of a worker and of the cluster. A request is
counted where it begins, its duration where it finishes. Counters are natural
numbers: none comes near its end. -/

structure RequestMetrics where
  requests : Nat
  requestDurationMicros : Nat
  requestDurationBuckets : Fin 11 → Nat

def requestDurationUpperBoundsMicros : List Nat :=
  [100, 500, 1000, 5000, 10000, 50000, 100000, 500000, 1000000, 5000000]

def durationBucket (micros : Nat) : Fin 11 :=
  ⟨requestDurationUpperBoundsMicros.findIdx (micros ≤ ·), Nat.lt_succ_of_le List.findIdx_le_length⟩

inductive RequestEvent where
  | begun
  | finished (micros : Nat)
  | dropped

def RequestMetrics.record (metrics : RequestMetrics) : RequestEvent → RequestMetrics
  | .begun => { metrics with requests := metrics.requests + 1 }
  | .finished micros => { metrics with
      requestDurationMicros := metrics.requestDurationMicros + micros
      requestDurationBuckets :=
        metrics.requestDurationBuckets + Pi.single (durationBucket micros) 1 }
  | .dropped => metrics

/-- The metrics after the events of a worker's requests, the latest first. -/
def workerMetrics : List RequestEvent → RequestMetrics
  | [] => ⟨0, 0, 0⟩
  | event :: events => (workerMetrics events).record event

def clusterMetrics (workers : List RequestMetrics) : RequestMetrics where
  requests := (workers.map RequestMetrics.requests).sum
  requestDurationMicros := (workers.map RequestMetrics.requestDurationMicros).sum
  requestDurationBuckets bucket := (workers.map (·.requestDurationBuckets bucket)).sum

def cumulative (total : Nat) : List Nat → List Nat
  | [] => []
  | bucket :: buckets => (total + bucket) :: cumulative (total + bucket) buckets

def RequestMetrics.rendered (metrics : RequestMetrics) : List Nat :=
  cumulative 0 (List.ofFn metrics.requestDurationBuckets)

/-- The rendered buckets never decrease, the last one is the count, and the
count is the number of requests whose durations are in the sum. -/
structure RequestMetrics.Consistent (metrics : RequestMetrics) (included : Nat) : Prop where
  ordered : metrics.rendered.IsChain (· ≤ ·)
  infinite : metrics.rendered.getLastD 0 = metrics.requests
  count : metrics.requests = included

def begunIn (events : List RequestEvent) : Nat := events.countP fun event => event matches .begun

def finishedIn (events : List RequestEvent) : Nat :=
  events.countP fun event => event matches .finished _

theorem cumulative_last (total : Nat) : (total :: cumulative total buckets).IsChain (· ≤ ·) ∧
      (cumulative total buckets).getLastD total = total + buckets.sum := by
  induction buckets generalizing total with
  | nil => simp [cumulative]
  | cons bucket buckets induction =>
    obtain ⟨ordered, last⟩ := induction (total + bucket)
    refine ⟨.cons_cons (Nat.le_add_right _ _) ordered, ?_⟩
    rw [cumulative, getLastD_cons, last, sum_cons, Nat.add_assoc]

theorem consistent_iff {metrics : RequestMetrics} : metrics.Consistent included ↔
      ∑ bucket, metrics.requestDurationBuckets bucket = metrics.requests ∧
        metrics.requests = included := by
  obtain ⟨ordered, last⟩ := cumulative_last 0
  rw [Nat.zero_add] at last
  constructor
  · rintro ⟨-, infinite, count⟩
    exact ⟨last.symm.trans infinite, count⟩
  · rintro ⟨infinite, count⟩
    exact ⟨ordered.tail, last.trans infinite, count⟩

theorem workerMetrics_counts : (workerMetrics events).requests = begunIn events ∧
      ∑ bucket, (workerMetrics events).requestDurationBuckets bucket = finishedIn events := by
  induction events with
  | nil => exact ⟨rfl, Finset.sum_const_zero⟩
  | cons event events induction =>
    obtain ⟨begun, finished⟩ := induction
    cases event with
    | dropped => exact ⟨begun, finished⟩
    | begun => exact ⟨by simp [workerMetrics, RequestMetrics.record, begun, begunIn], finished⟩
    | finished micros =>
      refine ⟨begun, ?_⟩
      simp [workerMetrics, RequestMetrics.record, Finset.sum_add_distrib, finished, finishedIn]

theorem clusterMetrics_counts (workers : List (List RequestEvent)) :
    (clusterMetrics (workers.map workerMetrics)).requests = (workers.map begunIn).sum ∧
      ∑ bucket, (clusterMetrics (workers.map workerMetrics)).requestDurationBuckets bucket =
        (workers.map finishedIn).sum := by
  induction workers with
  | nil => simp [clusterMetrics]
  | cons events workers induction =>
    simp [clusterMetrics, Finset.sum_add_distrib, workerMetrics_counts] at induction ⊢
    exact induction

theorem histogram_consistent_iff (workers : List (List RequestEvent)) :
    ((∀ events ∈ workers, (workerMetrics events).Consistent (finishedIn events)) ∧
        (clusterMetrics (workers.map workerMetrics)).Consistent (workers.map finishedIn).sum) ↔
      ∀ events ∈ workers, begunIn events = finishedIn events := by
  simp only [consistent_iff, workerMetrics_counts, clusterMetrics_counts]
  constructor
  · rintro ⟨complete, -⟩ events member
    exact (complete events member).2
  · intro complete
    rw [map_congr_left complete]
    exact ⟨fun events member => ⟨(complete events member).symm, complete events member⟩, rfl, rfl⟩

theorem dropped_request_counted : ¬ ∀ events : List RequestEvent,
    (workerMetrics events).Consistent (finishedIn events) := by
  intro consistent
  exact absurd (consistent [.dropped, .begun]).count (by decide)

end Pam.Server
