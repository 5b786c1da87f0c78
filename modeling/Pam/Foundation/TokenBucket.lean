import Mathlib.Algebra.Order.Field.Rat
import Mathlib.Tactic.Linarith
import Mathlib.Tactic.Positivity
import Pam.Foundation.Run

namespace Pam.Foundation

open List

/-! Token buckets in exact rational time. The level of an entry is what it can
still grant; a missing entry is a full bucket. -/

structure Allowance where
  rate : ℚ
  capacity : ℚ
  rate_nonneg : 0 ≤ rate
  capacity_nonneg : 0 ≤ capacity

structure TokenBucket where
  tokens : ℚ
  updated : ℚ
  tokens_nonneg : 0 ≤ tokens

namespace Allowance

variable (allowance : Allowance)

def full (now : ℚ) : TokenBucket := ⟨allowance.capacity, now, allowance.capacity_nonneg⟩

def level (now : ℚ) (entry : Option TokenBucket) : ℚ :=
  let bucket := entry.getD (allowance.full now)
  min allowance.capacity (bucket.tokens + max 0 (now - bucket.updated) * allowance.rate)

@[simp] theorem level_none : allowance.level now none = allowance.capacity := by
  simp [level, full]

theorem level_nonneg : 0 ≤ allowance.level now entry := by
  have refill := mul_nonneg (le_max_left 0 (now - (entry.getD (allowance.full now)).updated))
    allowance.rate_nonneg
  exact le_min allowance.capacity_nonneg (add_nonneg (TokenBucket.tokens_nonneg _) refill)

theorem level_le_capacity (now : ℚ) (entry : Option TokenBucket) :
    allowance.level now entry ≤ allowance.capacity := min_le_left _ _

theorem level_later (order : now ≤ later) (entry : Option TokenBucket) :
    allowance.level later entry ≤ allowance.level now entry + allowance.rate * (later - now) := by
  have gained := mul_nonneg allowance.rate_nonneg (sub_nonneg.mpr order)
  cases entry with
  | none => simpa using gained
  | some bucket =>
    have elapsed : max 0 (later - bucket.updated) ≤ max 0 (now - bucket.updated) + (later - now) :=
      max_le (by linarith [le_max_left 0 (now - bucket.updated)])
        (by linarith [le_max_right 0 (now - bucket.updated)])
    have refilled := mul_le_mul_of_nonneg_right elapsed allowance.rate_nonneg
    rw [level, level, ← min_add_add_right]
    exact min_le_min (by linarith) (by simp only [Option.getD_some]; linarith)

theorem level_of_idle (idle : allowance.capacity ≤ (now - bucket.updated) * allowance.rate) :
    allowance.level now (some bucket) = allowance.capacity := by
  have elapsed := mul_le_mul_of_nonneg_right (le_max_right 0 (now - bucket.updated))
    allowance.rate_nonneg
  exact min_eq_left (by simp only [Option.getD_some]; linarith [bucket.tokens_nonneg])

/-- Takes one token where there is one. Either way the bucket is refilled and
carries the time of the attempt. -/
def draw (now : ℚ) (entry : Option TokenBucket) : Bool × TokenBucket :=
  if enough : 1 ≤ allowance.level now entry then
    (true, ⟨allowance.level now entry - 1, now, sub_nonneg.mpr enough⟩)
  else (false, ⟨allowance.level now entry, now, allowance.level_nonneg⟩)

def Spends (now : ℚ) (before : Option TokenBucket) (granted : Bool)
    (after : Option TokenBucket) : Prop :=
  granted.toNat + allowance.level now after ≤ allowance.level now before

theorem spends_draw (now : ℚ) (entry : Option TokenBucket) :
    allowance.Spends now entry (allowance.draw now entry).1
      (some (allowance.draw now entry).2) := by
  unfold draw
  split <;> simp [Spends, level]

theorem draw_congr (same : allowance.level now first = allowance.level now second) :
    allowance.draw now first = allowance.draw now second := by
  simp only [draw, same]

theorem budget_nonneg (window : now ≤ later) :
    0 ≤ allowance.level now entry + allowance.rate * (later - now) :=
  add_nonneg allowance.level_nonneg (mul_nonneg allowance.rate_nonneg (sub_nonneg.mpr window))

theorem granted_le {State : Type u} {Label : Type v} (machine : Machine State Label)
    (entry : State → Option TokenBucket) (clock : Label → ℚ) (granted : State → Label → Bool)
    (state : State) {labels : List Label} {first last : ℚ}
    (spends : ∀ step ∈ machine.transitions state labels, allowance.Spends (clock step.label)
      (entry step.source) (granted step.source step.label) (entry step.target))
    (ordered : labels.Pairwise fun earlier later => clock earlier ≤ clock later)
    (within : ∀ label ∈ labels, first ≤ clock label ∧ clock label ≤ last) (window : first ≤ last) :
    ((machine.transitions state labels).countP fun step => granted step.source step.label) ≤
      allowance.level first (entry state) + allowance.rate * (last - first) := by
  -- The window shrinks to the time of its first call, whose grant the level there pays for.
  induction labels generalizing state first with
  | nil => simpa using allowance.budget_nonneg window
  | cons label labels induction =>
    cases step : machine.next state label with
    | none => simpa [machine.transitions_stuck step] using allowance.budget_nonneg window
    | some target =>
      rw [machine.transitions_step step] at spends ⊢
      have paid := spends _ mem_cons_self
      obtain ⟨begun, unfinished⟩ := within label mem_cons_self
      have now := allowance.level_later begun (entry state)
      have later := induction target (fun step member => spends step (mem_cons_of_mem _ member))
        ordered.of_cons (fun other member => ⟨rel_of_pairwise_cons ordered member,
          (within other (mem_cons_of_mem _ member)).2⟩) unfinished
      simp only [Spends] at paid
      cases admitted : granted state label <;> simp [admitted] at paid ⊢ <;> linarith

end Allowance

end Pam.Foundation
