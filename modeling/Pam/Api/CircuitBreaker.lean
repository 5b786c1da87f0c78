import Pam.Foundation.Run

namespace Pam.Api

open Foundation

inductive CircuitState where
  | closed
  | opened
  | halfOpen
  deriving DecidableEq

structure CircuitBreaker where
  failureThreshold : Nat
  cooldownSeconds : Nat
  positive : 0 < failureThreshold ∧ 0 < cooldownSeconds

/-- The fields of a breaker, the operations inside `call` and the time of the
last step. -/
structure Circuit where
  state : CircuitState
  failures : Nat
  openedAt : Nat
  inFlight : Nat
  time : Nat

inductive CircuitEvent where
  | observed
  | called
  | succeeded
  | failed
  deriving DecidableEq

namespace CircuitBreaker

variable (breaker : CircuitBreaker)

def state (now : Nat) (circuit : Circuit) : Circuit :=
  if circuit.state = .opened ∧ breaker.cooldownSeconds + circuit.openedAt ≤ now then
    { circuit with state := .halfOpen }
  else circuit

def perform (now : Nat) (circuit : Circuit) : CircuitEvent → Circuit
  | .observed => breaker.state now circuit
  | .called =>
    let circuit := breaker.state now circuit
    if circuit.state = .opened then circuit else { circuit with inFlight := circuit.inFlight + 1 }
  | .succeeded => { circuit with state := .closed, failures := 0, inFlight := circuit.inFlight - 1 }
  | .failed =>
    let circuit := { circuit with
      failures := circuit.failures + 1, inFlight := circuit.inFlight - 1 }
    if breaker.failureThreshold ≤ circuit.failures then
      { circuit with state := .opened, openedAt := now }
    else circuit

/-- Calls start and finish in any order, at times that never run back. -/
def machine : Machine Circuit (Nat × CircuitEvent) where
  start := ⟨.closed, 0, 0, 0, 0⟩
  next circuit step :=
    if step.1 < circuit.time ∨
        (step.2 = .succeeded ∨ step.2 = .failed) ∧ circuit.inFlight = 0 then none
    else some { breaker.perform step.1 circuit step.2 with time := step.1 }

def Lasts (opening : Nat) (circuit : Circuit) : Prop :=
  opening ≤ circuit.time ∧ (circuit.state = .opened ∧ opening ≤ circuit.openedAt ∨
    breaker.cooldownSeconds + opening ≤ circuit.time)

/-- No operation succeeds while the breaker is open and cooling down. -/
def NoLateSuccess (circuit : Circuit) (step : Nat × CircuitEvent) : Prop :=
  step.2 = .succeeded → circuit.state = .opened →
    breaker.cooldownSeconds + circuit.openedAt ≤ step.1

variable {breaker}

theorem Lasts.next (lasts : breaker.Lasts opening circuit)
    (allowed : breaker.NoLateSuccess circuit step)
    (stepped : breaker.machine.next circuit step = some target) :
    breaker.Lasts opening target ∧ (circuit.inFlight < target.inFlight →
      breaker.cooldownSeconds + opening ≤ step.1) := by
  obtain ⟨now, event⟩ := step
  simp only [machine] at stepped
  split at stepped
  · cases stepped
  cases event <;> grind [Lasts, NoLateSuccess, perform, state]

theorem open_circuit_lasts (earlier later : List (Nat × CircuitEvent)) {opening : Nat}
    {target : Circuit} (failed : breaker.machine.next
      (breaker.machine.finish breaker.machine.start earlier) (opening, .failed) = some target)
    (opened : target.state = .opened ∧ target.openedAt = opening)
    (allowed : ∀ step ∈ breaker.machine.transitions target later,
      breaker.NoLateSuccess step.source step.label) :
    ∀ step ∈ breaker.machine.transitions target later, step.source.inFlight < step.target.inFlight →
        breaker.cooldownSeconds + opening ≤ step.label.1 := by
  have time : target.time = opening := by
    simp only [machine] at failed
    split at failed <;> cases failed
    rfl
  exact breaker.machine.transitions_of_guarded (breaker.Lasts opening) breaker.NoLateSuccess
    (fun circuit step target => circuit.inFlight < target.inFlight →
      breaker.cooldownSeconds + opening ≤ step.1) Lasts.next
    ⟨Nat.le_of_eq time.symm, .inl ⟨opened.1, Nat.le_of_eq opened.2.symm⟩⟩ allowed

def quickBreaker : CircuitBreaker := ⟨1, 2, by decide⟩

/-- A call comes too early, an operation fails late, and one succeeds after the
cooldown. -/
def afterOpening : List (Nat × CircuitEvent) :=
  [(1, .called), (1, .failed), (4, .succeeded), (4, .called)]

theorem sample_open_circuit_lasts :
    (quickBreaker.machine.finish ⟨.opened, 1, 0, 2, 0⟩ afterOpening).inFlight = 1 ∧
    ∀ step ∈ quickBreaker.machine.transitions ⟨.opened, 1, 0, 2, 0⟩ afterOpening,
      step.source.inFlight < step.target.inFlight → 2 ≤ step.label.1 :=
  ⟨by decide, open_circuit_lasts [(0, .called), (0, .called), (0, .called)] afterOpening rfl
    ⟨rfl, rfl⟩ (by simp only [NoLateSuccess]; decide)⟩

theorem late_success_closes : ¬ ∀ (breaker : CircuitBreaker)
    (earlier later : List (Nat × CircuitEvent)) (opening : Nat) (target : Circuit),
    breaker.machine.next (breaker.machine.finish breaker.machine.start earlier)
      (opening, .failed) = some target → target.state = .opened ∧ target.openedAt = opening →
    ∀ step ∈ breaker.machine.transitions target later, step.source.inFlight < step.target.inFlight →
        breaker.cooldownSeconds + opening ≤ step.label.1 := by
  intro lasts
  have early := lasts ⟨1, 30, by decide⟩ [(0, .called), (0, .called)]
    [(0, .succeeded), (1, .called)] 0 _ rfl
  exact absurd early (by decide)

/-- The failures since the last success. -/
def recentFailures (steps : List (Nat × CircuitEvent)) : Nat :=
  steps.foldl (fun failures step => match step.2 with
    | .succeeded => 0
    | .failed => failures + 1
    | _ => failures) 0

def lastFailure (steps : List (Nat × CircuitEvent)) : Nat :=
  steps.foldl (fun last step => if step.2 = .failed then step.1 else last) 0

structure Counted (breaker : CircuitBreaker) (steps : List (Nat × CircuitEvent))
    (circuit : Circuit) : Prop where
  failures : circuit.failures = recentFailures steps
  closed : circuit.state = .closed ↔ recentFailures steps < breaker.failureThreshold
  opened : breaker.failureThreshold ≤ recentFailures steps → circuit.openedAt = lastFailure steps
  cooled : circuit.state = .halfOpen → breaker.cooldownSeconds + circuit.openedAt ≤ circuit.time

theorem Counted.next (counted : breaker.Counted steps circuit)
    (stepped : breaker.machine.next circuit step = some target) :
    breaker.Counted (steps ++ [step]) target := by
  obtain ⟨now, event⟩ := step
  have positive := breaker.positive
  obtain ⟨failures, closed, opened, cooled⟩ := counted
  simp only [machine] at stepped
  split at stepped
  · cases stepped
  constructor <;> simp only [recentFailures, lastFailure, List.foldl_append, List.foldl_cons,
    List.foldl_nil] at * <;> cases event <;> grind [perform, state]

/-- A call is refused exactly if the failures since the last success reach the
threshold and the last of them is not yet the cooldown ago. -/
theorem call_refused_iff (breaker : CircuitBreaker) (steps : List (Nat × CircuitEvent))
    (followed : breaker.machine.follow breaker.machine.start steps = some circuit)
    (called : breaker.machine.next circuit (now, .called) = some target) :
    target.inFlight = circuit.inFlight ↔ breaker.failureThreshold ≤ recentFailures steps ∧
      now < breaker.cooldownSeconds + lastFailure steps := by
  have start : breaker.Counted [] breaker.machine.start :=
    ⟨rfl, iff_of_true rfl breaker.positive.1, fun _ => rfl, nofun⟩
  obtain ⟨_, closed, opened, cooled⟩ :=
    breaker.machine.follow_of_kept breaker.Counted Counted.next start followed
  rw [List.nil_append] at closed opened
  simp only [machine] at called
  split at called
  · cases called
  cases phase : circuit.state <;> grind [perform, state]

def twiceFailed : List (Nat × CircuitEvent) :=
  [(0, .called), (0, .called), (0, .called), (1, .succeeded), (2, .failed), (3, .failed)]

def patientBreaker : CircuitBreaker := ⟨2, 30, by decide⟩

theorem call_refused_after_two :
    2 ≤ recentFailures twiceFailed ∧ 32 < 30 + lastFailure twiceFailed := by
  have followed : patientBreaker.machine.follow patientBreaker.machine.start twiceFailed =
      some ⟨.opened, 2, 3, 0, 3⟩ := rfl
  have called : patientBreaker.machine.next ⟨.opened, 2, 3, 0, 3⟩ (32, .called) =
      some ⟨.opened, 2, 3, 0, 32⟩ := rfl
  exact (call_refused_iff patientBreaker twiceFailed followed called).mp rfl

end CircuitBreaker

end Pam.Api
