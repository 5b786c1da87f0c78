import Pam.Foundation.Table
import Pam.Foundation.TokenBucket

namespace Pam.Api

open Foundation

structure MemoryRateLimitStore where
  maxBuckets : Nat
  idleTtlSeconds : ℚ

structure RateLimit where
  requestsPerSecond : Nat
  capacity : Nat
  requestsPerSecond_pos : 0 < requestsPerSecond
  capacity_pos : 0 < capacity

def RateLimit.allowance (limit : RateLimit) : Allowance :=
  ⟨limit.requestsPerSecond, limit.capacity, Nat.cast_nonneg _, Nat.cast_nonneg _⟩

structure RateLimitDecision where
  allowed : Bool
  limit : Nat
  remaining : Int
  retryAfterSeconds : Int

structure Consumption (Key : Type) where
  key : Key
  now : ℚ

variable [DecidableEq Key]

def drawBucket (limit : RateLimit) (buckets : Table Key TokenBucket) (call : Consumption Key) :
    RateLimitDecision × Table Key TokenBucket :=
  let (granted, bucket) := limit.allowance.draw call.now (buckets.lookup call.key)
  let decision := if granted then ⟨true, limit.capacity, bucket.tokens.floor, 0⟩
    else ⟨false, limit.capacity, 0, max 1 ((1 - bucket.tokens) / limit.requestsPerSecond).ceil⟩
  (decision, buckets.insert call.key bucket)

def consume (store : MemoryRateLimitStore) (limit : RateLimit) (buckets : Table Key TokenBucket)
    (call : Consumption Key) : RateLimitDecision × Table Key TokenBucket :=
  if call.key ∉ buckets ∧ store.maxBuckets ≤ buckets.size then
    let threshold := call.now - store.idleTtlSeconds
    let buckets := buckets.retain fun _ bucket => threshold ≤ bucket.updated
    if store.maxBuckets ≤ buckets.size then (⟨false, limit.capacity, 0, 1⟩, buckets)
    else drawBucket limit buckets call
  else drawBucket limit buckets call

def rateLimitStore (store : MemoryRateLimitStore) (limit : RateLimit) :
    Machine (Table Key TokenBucket) (Consumption Key) where
  start := ∅
  next buckets call := some (consume store limit buckets call).2

def admits (store : MemoryRateLimitStore) (limit : RateLimit) (key : Key)
    (buckets : Table Key TokenBucket) (call : Consumption Key) : Bool :=
  decide (call.key = key) && (consume store limit buckets call).1.allowed

/-- Where the call makes room, the key's bucket is either recent enough to stay
or has refilled by now. -/
def EvictsRefilled (store : MemoryRateLimitStore) (limit : RateLimit) (key : Key)
    (buckets : Table Key TokenBucket) (call : Consumption Key) : Prop :=
  call.key ∉ buckets → store.maxBuckets ≤ buckets.size → ∀ bucket ∈ buckets.lookup key,
    ¬ call.now - store.idleTtlSeconds ≤ bucket.updated →
      limit.allowance.capacity ≤ limit.allowance.level call.now (some bucket)

theorem evictsRefilled_of_idle {store : MemoryRateLimitStore} {limit : RateLimit}
    (slow : limit.capacity ≤ store.idleTtlSeconds * limit.requestsPerSecond)
    (call : Consumption Key) : EvictsRefilled store limit key buckets call := by
  intro _ _ bucket _ idle
  have refilled := mul_le_mul_of_nonneg_right
    (show store.idleTtlSeconds ≤ call.now - bucket.updated by linarith) limit.allowance.rate_nonneg
  exact (limit.allowance.level_of_idle (slow.trans refilled)).ge

variable {limit : RateLimit}

theorem spends_drawBucket (call : Consumption Key) :
    limit.allowance.Spends call.now (buckets.lookup key)
      (decide (call.key = key) && (drawBucket limit buckets call).1.allowed)
      ((drawBucket limit buckets call).2.lookup key) := by
  have drawn := limit.allowance.spends_draw call.now (buckets.lookup call.key)
  by_cases same : key = call.key
  · subst same
    simp only [drawBucket]
    split <;> simp_all
  · simp [drawBucket, Ne.symm same, AList.lookup_insert_ne same, Allowance.Spends]

theorem spends_consume {store : MemoryRateLimitStore} {buckets : Table Key TokenBucket}
    {call : Consumption Key} (refilled : EvictsRefilled store limit key buckets call) :
    limit.allowance.Spends call.now (buckets.lookup key) (admits store limit key buckets call)
      ((consume store limit buckets call).2.lookup key) := by
  unfold admits consume
  split
  next full =>
    have evicted : limit.allowance.level call.now ((buckets.retain fun _ bucket =>
        decide (call.now - store.idleTtlSeconds ≤ bucket.updated)).lookup key) ≤
          limit.allowance.level call.now (buckets.lookup key) := by
      rw [Table.lookup_retain]
      cases found : buckets.lookup key with
      | none => simp
      | some bucket =>
        rw [Option.filter]
        split
        · exact le_rfl
        next idle =>
          rw [decide_eq_true_eq] at idle
          simpa using refilled full.1 full.2 bucket found idle
    dsimp only
    split
    · simpa [Allowance.Spends] using evicted
    · exact (spends_drawBucket call).trans evicted
  · exact spends_drawBucket call

theorem api_rate_limit_bound (store : MemoryRateLimitStore) (limit : RateLimit) (key : Key)
    (earlier calls : List (Consumption Key)) {first last : ℚ} (window : first ≤ last)
    (ordered : calls.Pairwise fun first second => first.now ≤ second.now)
    (within : ∀ call ∈ calls, first ≤ call.now ∧ call.now ≤ last) :
    let consumed := (rateLimitStore store limit).transitions
      ((rateLimitStore store limit).finish ∅ earlier) calls
    (∀ step ∈ consumed, EvictsRefilled store limit key step.source step.label) →
      (consumed.countP fun step => admits store limit key step.source step.label) ≤
        limit.capacity + limit.requestsPerSecond * (last - first) := by
  intro consumed refilled
  refine (limit.allowance.granted_le (rateLimitStore store limit) (·.lookup key)
    Consumption.now (admits store limit key) _ (fun step member => ?_) ordered within
      window).trans (add_le_add_left (limit.allowance.level_le_capacity first _) _)
  rw [← Option.some.inj (Machine.next_of_mem_transitions _ member)]
  exact spends_consume (refilled step member)

theorem sample_api_rate_limit_bound :
    ((rateLimitStore ⟨1, 1⟩ ⟨1, 1, Nat.one_pos, Nat.one_pos⟩).transitions ∅
      [⟨0, 0⟩, ⟨1, 2⟩, ⟨0, 4⟩]).countP (fun step =>
        admits ⟨1, 1⟩ ⟨1, 1, Nat.one_pos, Nat.one_pos⟩ 0 step.source step.label) ≤ (5 : ℚ) := by
  have bound := api_rate_limit_bound ⟨1, 1⟩ ⟨1, 1, Nat.one_pos, Nat.one_pos⟩ 0 []
    [⟨0, 0⟩, ⟨1, 2⟩, ⟨0, 4⟩] (show (0 : ℚ) ≤ 4 by simp) (by decide +kernel) (by decide +kernel)
    (fun step _ => evictsRefilled_of_idle (by simp) step.label)
  norm_num at bound ⊢
  exact bound

/-- Two other callers push a drained bucket out of the table. -/
theorem evicted_bucket_refilled : ¬ ∀ (store : MemoryRateLimitStore) (limit : RateLimit) (key : Nat)
    (earlier calls : List (Consumption Nat)) (first last : ℚ), first ≤ last →
    (calls.Pairwise fun first second => first.now ≤ second.now) →
    (∀ call ∈ calls, first ≤ call.now ∧ call.now ≤ last) →
    ((((rateLimitStore store limit).transitions ((rateLimitStore store limit).finish ∅ earlier)
      calls).countP fun step => admits store limit key step.source step.label : Nat) : ℚ) ≤
        limit.capacity + limit.requestsPerSecond * (last - first) := by
  intro bounded
  have broken := bounded ⟨1, 1⟩ ⟨1, 5, Nat.one_pos, by decide⟩ 0 []
    (List.replicate 5 ⟨0, 0⟩ ++ ⟨1, 2⟩ :: List.replicate 5 ⟨0, 4⟩) 0 4
  revert broken
  decide +kernel

end Pam.Api
