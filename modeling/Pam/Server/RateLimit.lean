import Pam.Foundation.TokenBucket

namespace Pam.Server

open Foundation List

structure Arrival (Client : Type) where
  client : Client
  now : ℚ

abbrev RateLimits (Client : Type) := Client → Option TokenBucket

def rateAllowance (limit : Nat) : Allowance :=
  ⟨limit, limit, Nat.cast_nonneg limit, Nat.cast_nonneg limit⟩

def retainRecent (now : ℚ) (windows : RateLimits Client) : RateLimits Client := fun client =>
  (windows client).filter fun bucket => max 0 (now - bucket.updated) < 2

theorem level_retainRecent (order : now ≤ later) :
    (rateAllowance limit).level later (retainRecent now windows client) =
      (rateAllowance limit).level later (windows client) := by
  cases found : windows client with
  | none => simp [retainRecent, found]
  | some bucket =>
    by_cases recent : max 0 (now - bucket.updated) < 2
    · simp [retainRecent, found, Option.filter, recent]
    -- Two seconds refill any bucket, so a dropped one counts as a missing one.
    have elapsed : 2 ≤ now - bucket.updated := by simpa using recent
    have idle : (rateAllowance limit).level later (some bucket) = (rateAllowance limit).capacity :=
      Allowance.level_of_idle _ (le_mul_of_one_le_left (Nat.cast_nonneg limit) (by linarith))
    simp [retainRecent, found, Option.filter, recent, idle]

variable [DecidableEq Client] (retain : ℚ → RateLimits Client → RateLimits Client)

/-- One request at the limiter. `rate_limited` retains recent buckets only;
with `fun _ => id` it would keep all of them. -/
def rateLimited (limit : Nat) (windows : RateLimits Client) (arrival : Arrival Client) :
    Bool × RateLimits Client :=
  if limit = 0 then (false, windows)
  else
    let windows := retain arrival.now windows
    let (granted, bucket) := (rateAllowance limit).draw arrival.now (windows arrival.client)
    (!granted, Function.update windows arrival.client (some bucket))

def rateLimiter (limit : Nat) : Machine (RateLimits Client) (Arrival Client) where
  start := fun _ => none
  next windows arrival := some (rateLimited retain limit windows arrival).2

def verdicts (limit : Nat) (windows : RateLimits Client) (arrivals : List (Arrival Client)) :
    List Bool := ((rateLimiter retain limit).transitions windows arrivals).map fun step =>
    (rateLimited retain limit step.source step.label).1

def admits (limit : Nat) (client : Client) (windows : RateLimits Client)
    (arrival : Arrival Client) : Bool :=
  decide (arrival.client = client) && !(rateLimited retainRecent limit windows arrival).1

theorem spends_rateLimited (positive : 0 < limit) (arrival : Arrival Client) :
    (rateAllowance limit).Spends arrival.now (windows client) (admits limit client windows arrival)
      ((rateLimited retainRecent limit windows arrival).2 client) := by
  simp only [admits, rateLimited, positive.ne']
  by_cases same : client = arrival.client
  · subst same
    have drawn := (rateAllowance limit).spends_draw arrival.now
      (retainRecent arrival.now windows arrival.client)
    simpa [Allowance.Spends, level_retainRecent le_rfl] using drawn
  · simp [Ne.symm same, Allowance.Spends, Function.update_of_ne same, level_retainRecent le_rfl]

def SameLevels (limit : Nat) (now : ℚ) (pruned kept : RateLimits Client) : Prop :=
  ∀ later, now ≤ later → ∀ client, (rateAllowance limit).level later (pruned client) =
    (rateAllowance limit).level later (kept client)

theorem SameLevels.rateLimited {arrival : Arrival Client}
    (same : SameLevels limit arrival.now pruned kept) :
    (rateLimited retainRecent limit pruned arrival).1 =
        (rateLimited (fun _ => id) limit kept arrival).1 ∧
      SameLevels limit arrival.now (rateLimited retainRecent limit pruned arrival).2
        (rateLimited (fun _ => id) limit kept arrival).2 := by
  unfold Server.rateLimited
  split
  · exact ⟨rfl, same⟩
  have drawn := (rateAllowance limit).draw_congr
    ((level_retainRecent le_rfl).trans (same _ le_rfl arrival.client))
  simp only [drawn, id, true_and]
  intro later order client
  simp only [Function.update_apply]
  split
  · rfl
  exact (level_retainRecent order).trans (same later order client)

theorem verdicts_eq {kept : RateLimits Client}
    (same : ∀ arrival ∈ arrivals, SameLevels limit arrival.now pruned kept)
    (ordered : arrivals.Pairwise fun first second => first.now ≤ second.now) :
    verdicts retainRecent limit pruned arrivals = verdicts (fun _ => id) limit kept arrivals := by
  induction arrivals generalizing pruned kept with
  | nil => rfl
  | cons arrival arrivals induction =>
    obtain ⟨verdict, next⟩ := (same arrival mem_cons_self).rateLimited
    exact congrArg₂ cons verdict (induction (fun other member later order =>
      next later ((rel_of_pairwise_cons ordered member).trans order)) ordered.of_cons)

/-- Over a clock that never runs back, any window of a run admits no more of
one client's requests than its length allows, and a limiter that never dropped
a bucket would decide every request alike. -/
theorem rate_limit_bound (positive : 0 < limit) (client : Client) {first last : ℚ}
    (window : first ≤ last) (earlier arrivals : List (Arrival Client))
    (ordered : (earlier ++ arrivals).Pairwise fun first second => first.now ≤ second.now)
    (within : ∀ arrival ∈ arrivals, first ≤ arrival.now ∧ arrival.now ≤ last) :
    let limiter := rateLimiter retainRecent limit
    ((limiter.transitions (limiter.finish limiter.start earlier) arrivals).countP fun step =>
        admits limit client step.source step.label) ≤ limit * (last - first + 1) ∧
      verdicts retainRecent limit (fun _ => none) (earlier ++ arrivals) =
        verdicts (fun _ => id) limit (fun _ => none) (earlier ++ arrivals) := by
  intro limiter
  refine ⟨?_, verdicts_eq (fun _ _ _ _ _ => rfl) ordered⟩
  have granted := (rateAllowance limit).granted_le limiter (· client) Arrival.now
    (admits limit client) (limiter.finish limiter.start earlier) (fun step member => by
      rw [← Option.some.inj (limiter.next_of_mem_transitions member)]
      exact spends_rateLimited positive step.label) (pairwise_append.mp ordered).2.1 within window
  have initial := (rateAllowance limit).level_le_capacity first
    (limiter.finish limiter.start earlier client)
  simp only [rateAllowance] at granted initial
  linarith

theorem sample_rate_limit_bound :
    verdicts retainRecent 1 (fun _ => none) [⟨(), 0⟩, ⟨(), 3⟩, ⟨(), 3⟩] = [false, false, true] :=
  (rate_limit_bound Nat.one_pos () (le_refl 3) [⟨(), 0⟩] [⟨(), 3⟩, ⟨(), 3⟩] (by simp)
    (by simp)).2.trans (by decide +kernel)

end Pam.Server
