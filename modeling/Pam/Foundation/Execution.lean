import Pam.Foundation.Program

namespace Pam.Foundation

/-! A big-step execution of programs, by what an action may answer and what it
makes of the state. -/

namespace Program

variable {Action : Type} {Answer : Action → Type} {Result State : Type}

inductive Runs (answers : State → (action : Action) → Answer action → State → Prop) :
    State → Program Action Answer Result → Result → State → Prop where
  | done {state : State} {result : Result} : Runs answers state (.done result) result state
  | perform {state middle target : State} {action : Action}
      {next : Answer action → Program Action Answer Result}
      {answer : Answer action} {result : Result} (answered : answers state action answer middle)
      (rest : Runs answers middle (next answer) result target) :
      Runs answers state (.perform action next) result target

@[simp] theorem runs_done :
    Runs answers state (.done value : Program Action Answer Result) result target ↔
      result = value ∧ target = state := by
  constructor
  · intro runs
    cases runs
    exact ⟨rfl, rfl⟩
  intro same
  obtain ⟨rfl, rfl⟩ := same
  exact .done

theorem runs_perform : Runs answers state (.perform action next) result target ↔
      ∃ answer middle, answers state action answer middle ∧
        Runs answers middle (next answer) result target := by
  constructor
  · intro runs
    cases runs with
    | perform answered rest => exact ⟨_, _, answered, rest⟩
  intro runs
  obtain ⟨answer, middle, answered, rest⟩ := runs
  exact .perform answered rest

theorem runs_call : Runs answers state (call action) answer target ↔
      answers state action answer target := by
  simp only [call, runs_perform, runs_done]
  constructor
  · intro runs
    obtain ⟨given, middle, answered, rfl, rfl⟩ := runs
    exact answered
  · intro answered
    exact ⟨answer, target, answered, rfl, rfl⟩

theorem runs_bind {result : Other} : Runs answers state (program.bind rest) result target ↔
      ∃ value middle, Runs answers state program value middle ∧
        Runs answers middle (rest value) result target := by
  induction program generalizing state with
  | done value =>
    constructor
    · intro runs
      exact ⟨value, state, .done, runs⟩
    intro runs
    obtain ⟨given, middle, finished, later⟩ := runs
    cases finished
    exact later
  | perform action next induction =>
    simp only [bind_perform, runs_perform, induction]
    constructor
    · intro runs
      obtain ⟨answer, middle, answered, value, last, first, later⟩ := runs
      exact ⟨value, last, ⟨answer, middle, answered, first⟩, later⟩
    intro runs
    obtain ⟨value, last, ⟨answer, middle, answered, first⟩, later⟩ := runs
    exact ⟨answer, middle, answered, value, last, first, later⟩

theorem Runs.invariant {property : State → Prop} (keeps : ∀ {before after : State} {action : Action}
      {answer : Answer action}, property before →
      answers before action answer after → property after)
    (runs : Runs answers state program result target) (holds : property state) :
    property target := by
  induction runs with
  | done => exact holds
  | perform answered rest induction => exact induction (keeps holds answered)

theorem Runs.kept (property : State → Prop) (runs : Runs answers state program result target)
    (obeys : (Monitor.only permitted).Obeys () program)
    (keeps : ∀ {before after : State} {action : Action}
      {answer : Answer action}, permitted action → property before →
      answers before action answer after → property after)
    (holds : property state) : property target := by
  induction runs with
  | done => exact holds
  | perform answered rest induction =>
    exact induction (obeys.step rfl) (keeps obeys.permits holds answered)

theorem Runs.meets {monitor : Monitor Action Answer Knowledge} {post : Knowledge → Result → Prop}
    (admitted : ∀ known action answer, ∃ learned, monitor.learns known action answer = some learned)
    (runs : Runs answers state program result target) (holds : monitor.wp post known program) :
    ∃ learned, post learned result := by
  induction runs generalizing known with
  | done => exact ⟨known, holds⟩
  | perform answered rest induction =>
    obtain ⟨learned, learns⟩ := admitted known _ _
    exact induction (holds.2 _ learned learns)

theorem Runs.mono (implies : ∀ {before after : State} {action : Action}
      {answer : Answer action}, answers before action answer after →
      more before action answer after) (runs : Runs answers state program result target) :
    Runs more state program result target := by
  induction runs with
  | done => exact .done
  | perform answered rest induction => exact .perform (implies answered) induction

/-- A run is followed by one in a related state, access by access. -/
theorem Runs.simulated {Other : Type} (related : State → Other → Prop)
    {simulates : Other → (action : Action) → Answer action → Other → Prop}
    (runs : Runs answers state program result target) {other : Other} (start : related state other)
    (step : ∀ first second after action answer, related first second →
      answers first action answer after →
      ∃ target, simulates second action answer target ∧ related after target) :
    ∃ final, Runs simulates other program result final ∧ related target final := by
  induction runs generalizing other with
  | done => exact ⟨other, .done, start⟩
  | perform answered rest induction =>
    obtain ⟨middle, simulated, still⟩ := step _ _ _ _ _ start answered
    obtain ⟨final, later, ends⟩ := induction still
    exact ⟨final, .perform simulated later, ends⟩

theorem exists_runs (answered : ∀ (state : State) (action : Action),
      ∃ answer target, answers state action answer target)
    (program : Program Action Answer Result) (state : State) :
    ∃ result target, Runs answers state program result target := by
  induction program generalizing state with
  | done result => exact ⟨result, state, .done⟩
  | perform action next induction =>
    obtain ⟨answer, middle, step⟩ := answered state action
    obtain ⟨result, target, rest⟩ := induction answer middle
    exact ⟨result, target, .perform step rest⟩

def evaluate (handle : State → (action : Action) → Answer action × State) :
    Program Action Answer Result → State → Result × State
  | .done result, state => (result, state)
  | .perform action next, state =>
    evaluate handle (next (handle state action).1) (handle state action).2

def admits (handle : State → (action : Action) → Answer action × State)
    (admitted : State → Action → Bool) : Program Action Answer Result → State → Bool
  | .done _, _ => true
  | .perform action next, state =>
    admitted state action && admits handle admitted (next (handle state action).1)
        (handle state action).2

variable {handle : State → (action : Action) → Answer action × State}

theorem runs_evaluate (allowed : ∀ state action, admitted state action = true →
      answers state action (handle state action).1 (handle state action).2)
    {state : State} (admits : admits handle admitted program state = true) :
    Runs answers state program (evaluate handle program state).1
      (evaluate handle program state).2 := by
  induction program generalizing state with
  | done result => exact .done
  | perform action next induction =>
    obtain ⟨first, rest⟩ := Bool.and_eq_true_iff.mp admits
    exact .perform (allowed state action first) (induction _ rest)

theorem admits_all (program : Program Action Answer Result) (state : State) :
    admits handle (fun _ _ => true) program state = true := by
  induction program generalizing state with
  | done result => rfl
  | perform action next induction => exact induction _ _

theorem runs_pure : Runs answers state
        (pure value : ExceptT Error (Program Action Answer) Result).run outcome target ↔
      outcome = .ok value ∧ target = state := runs_done

theorem runs_throw : Runs answers state
        (throw error : ExceptT Error (Program Action Answer) Result).run outcome target ↔
      outcome = .error error ∧ target = state := runs_done

theorem runs_andThen {program : ExceptT Error (Program Action Answer) Result}
    {outcome : Except Error Other} : Runs answers state (program >>= rest).run outcome target ↔
      (∃ value middle, Runs answers state program.run (.ok value) middle ∧
        Runs answers middle (rest value).run outcome target) ∨
      ∃ error, outcome = .error error ∧ Runs answers state program.run (.error error) target := by
  have unfolded : (program >>= rest).run = program.run.bind (ExceptT.bindCont rest) := rfl
  rw [unfolded, runs_bind]
  constructor
  · intro runs
    obtain ⟨given, middle, first, later⟩ := runs
    cases given with
    | ok value => exact .inl ⟨value, middle, first, later⟩
    | error error =>
      obtain ⟨rfl, rfl⟩ := runs_done.mp later
      exact .inr ⟨error, rfl, first⟩
  · intro runs
    rcases runs with ⟨value, middle, first, later⟩ | ⟨error, rfl, failed⟩
    · exact ⟨.ok value, middle, first, later⟩
    · exact ⟨.error error, target, failed, .done⟩

theorem runs_andThen_ok {program : ExceptT Error (Program Action Answer) Result} {result : Other} :
    Runs answers state (program >>= rest).run (.ok result) target ↔
      ∃ value middle, Runs answers state program.run (.ok value) middle ∧
        Runs answers middle (rest value).run (.ok result) target := by
  rw [runs_andThen]
  simp

theorem runs_pure_ok : Runs answers state
        (pure value : ExceptT Error (Program Action Answer) Result).run (.ok result) target ↔
      result = value ∧ target = state := runs_pure.trans (by rw [Except.ok.injEq])

section Looks

variable {program : ExceptT Error (Program Action Answer) Result}

theorem runs_andThen_pure {next : Result → Other} : Runs answers state
        (program >>= fun value => pure (next value)).run (.ok last) target ↔
      ∃ value, Runs answers state program.run (.ok value) target ∧ last = next value := by
  simp only [runs_andThen_ok, runs_pure_ok]
  constructor
  · intro runs
    obtain ⟨value, middle, first, same, rfl⟩ := runs
    exact ⟨value, first, same⟩
  · intro runs
    obtain ⟨value, first, same⟩ := runs
    exact ⟨value, target, first, same, rfl⟩

theorem runs_look_andThen (looks : ∀ {value : Result} {middle : State},
      Runs answers state program.run (.ok value) middle ↔ value = seen ∧ middle = state) :
    Runs answers state (program >>= rest).run (.ok last) target ↔
      Runs answers state (rest seen).run (.ok last) target := by
  simp only [runs_andThen_ok, looks, and_assoc, exists_and_left, exists_eq_left]

theorem runs_find_andThen (finds : ∀ {value : Result} {middle : State},
      Runs answers state program.run (.ok value) middle ↔ stored = some value ∧ middle = state) :
    Runs answers state (program >>= rest).run (.ok last) target ↔
      ∃ value, stored = some value ∧ Runs answers state (rest value).run (.ok last) target := by
  simp only [runs_andThen_ok, finds, and_assoc, exists_and_left, exists_eq_left]

end Looks

theorem runs_lift : Runs answers state
        (ExceptT.lift program : ExceptT Error _ Result).run outcome target ↔
      ∃ value, outcome = .ok value ∧ Runs answers state program value target := by
  have unfolded : (ExceptT.lift program : ExceptT Error _ Result).run =
      program.bind fun value => .done (.ok value) := rfl
  rw [unfolded, runs_bind]
  constructor
  · intro runs
    obtain ⟨value, middle, first, later⟩ := runs
    obtain ⟨rfl, rfl⟩ := runs_done.mp later
    exact ⟨value, rfl, first⟩
  · intro runs
    obtain ⟨value, rfl, first⟩ := runs
    exact ⟨value, target, first, .done⟩

theorem runs_lift_ok : Runs answers state
        (ExceptT.lift program : ExceptT Error _ Result).run (.ok value) target ↔
      Runs answers state program value target := by
  rw [runs_lift]
  simp

theorem runs_lift_andThen {outcome : Except Error Other} : Runs answers state
        ((ExceptT.lift program : ExceptT Error _ Result) >>= rest).run outcome target ↔
      ∃ value middle, Runs answers state (ExceptT.lift program : ExceptT Error _ Result).run
            (.ok value) middle ∧ Runs answers middle (rest value).run outcome target := by
  rw [runs_andThen]
  constructor
  · intro runs
    rcases runs with first | ⟨error, _, failed⟩
    · exact first
    · obtain ⟨value, same, _⟩ := runs_lift.mp failed
      cases same
  · exact .inl

end Program

end Pam.Foundation
