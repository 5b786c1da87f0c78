import Mathlib.Data.List.Basic

namespace Pam.Foundation

open List

universe u v

/-! Programs as trees of actions, each going on with its answer. What an action
does to the world is left open, so a program can run alone or among others. -/

inductive Program (Action : Type) (Answer : Action → Type) (Result : Type) where
  | done (result : Result)
  | perform (action : Action) (next : Answer action → Program Action Answer Result)

namespace Program

variable {Action : Type} {Answer : Action → Type} {Result : Type}

def bind (program : Program Action Answer Result) (rest : Result → Program Action Answer Other) :
    Program Action Answer Other :=
  match program with
  | .done result => rest result
  | .perform action next => .perform action fun answer => (next answer).bind rest

instance : Monad (Program Action Answer) where
  pure := .done
  bind := bind

def call (action : Action) : Program Action Answer (Answer action) := .perform action .done

@[simp] theorem bind_perform {next : Answer action → Program Action Answer Result} :
    (perform action next).bind rest = .perform action fun answer => (next answer).bind rest := rfl

theorem bind_done (program : Program Action Answer Result) : program.bind .done = program := by
  induction program with
  | done result => rfl
  | perform action next induction => exact congrArg (perform action) (funext induction)

theorem bind_assoc (program : Program Action Answer Result)
    (rest : Result → Program Action Answer Other) (last : Other → Program Action Answer Last) :
    (program.bind rest).bind last = program.bind fun result => (rest result).bind last := by
  induction program with
  | done result => rfl
  | perform action next induction => exact congrArg (perform action) (funext induction)

instance : LawfulMonad (Program Action Answer) :=
  LawfulMonad.mk' _ bind_done (fun _ _ => rfl) bind_assoc

end Program

/-- A monitor follows a program: it permits actions by what it knows and learns
from their answers. Answers after which it knows nothing are assumed away. -/
structure Monitor (Action : Type) (Answer : Action → Type) (Knowledge : Type) where
  permits : Knowledge → Action → Prop
  learns : Knowledge → (action : Action) → Answer action → Option Knowledge

namespace Monitor

variable {Action Knowledge Result : Type} {Answer : Action → Type}
  (monitor : Monitor Action Answer Knowledge)

/-- The weakest precondition: every action is permitted and the result meets
`post`, whatever the admitted answers are. -/
def wp (post : Knowledge → Result → Prop) : Knowledge → Program Action Answer Result → Prop
  | known, .done result => post known result
  | known, .perform action next => monitor.permits known action ∧
      ∀ answer learned, monitor.learns known action answer = some learned →
        wp post learned (next answer)

def only (permitted : Action → Prop) : Monitor Action Answer Unit where
  permits _ := permitted
  learns _ _ _ := some ()

def Obeys (known : Knowledge) (program : Program Action Answer Result) : Prop :=
  monitor.wp (fun _ _ => True) known program

variable {monitor} {action : Action} {next : Answer action → Program Action Answer Result}

@[simp] theorem wp_perform : monitor.wp post known (.perform action next) ↔
      monitor.permits known action ∧
        ∀ answer learned, monitor.learns known action answer = some learned →
          monitor.wp post learned (next answer) := Iff.rfl

theorem wp_mono (implies : ∀ known result, strong known result → weak known result)
    (holds : monitor.wp strong known program) : monitor.wp weak known program := by
  induction program generalizing known with
  | done result => exact implies known result holds
  | perform action next induction =>
    refine ⟨holds.1, ?_⟩
    intro answer learned learns
    exact induction answer (holds.2 answer learned learns)

theorem wp_bind : monitor.wp post known (program.bind rest) ↔
      monitor.wp (fun learned result => monitor.wp post learned (rest result)) known program := by
  induction program generalizing known with
  | done result => exact Iff.rfl
  | perform action next induction => simp [induction]

theorem Obeys.step (obeys : monitor.Obeys known (.perform action next))
    (learns : monitor.learns known action answer = some learned) :
    monitor.Obeys learned (next answer) := obeys.2 answer learned learns

theorem Obeys.permits (obeys : monitor.Obeys known (.perform action next)) :
    monitor.permits known action := obeys.1

theorem only_bind (first : (only permitted).Obeys () program)
    (later : ∀ result, (only permitted).Obeys () (rest result)) :
    (only permitted).Obeys () (program.bind rest) :=
  wp_bind.mpr (wp_mono (fun _ result _ => later result) first)

theorem only_call (allowed : permitted action) :
    (only permitted).Obeys () (Program.call action : Program Action Answer _) :=
  ⟨allowed, fun _ _ _ => trivial⟩

theorem Obeys.relax {laxer : Monitor Action Answer Weaker} (related : Knowledge → Weaker → Prop)
    (permitted : ∀ {known other action}, related known other →
      monitor.permits known action → laxer.permits other action)
    (admitted : ∀ {known other action answer next}, related known other →
      laxer.learns other action answer = some next →
      ∃ learned, monitor.learns known action answer = some learned ∧
        related learned next) (relation : related known other)
    (obeys : monitor.Obeys known program) : laxer.Obeys other program := by
  induction program generalizing known other with
  | done result => trivial
  | perform action next induction =>
    refine ⟨permitted relation obeys.1, ?_⟩
    intro answer after learns
    obtain ⟨learned, strict, stays⟩ := admitted relation learns
    exact induction answer stays (obeys.2 answer learned strict)

variable {Error : Type}

variable {program : ExceptT Error (Program Action Answer) Result}
  {rest : Result → ExceptT Error (Program Action Answer) Other}

theorem wp_andThen {known : Knowledge} :
    monitor.wp post known (program >>= rest).run ↔ monitor.wp (fun learned outcome =>
        match outcome with
        | .ok result => monitor.wp post learned (rest result).run
        | .error error => post learned (.error error)) known program.run := by
  have unfolded : (program >>= rest).run = program.run.bind (ExceptT.bindCont rest) := rfl
  rw [unfolded, wp_bind]
  constructor
  · apply wp_mono
    intro learned outcome holds
    cases outcome <;> exact holds
  apply wp_mono
  intro learned outcome holds
  cases outcome <;> exact holds

theorem wp_lift {post : Knowledge → Except Error Result → Prop}
    {known : Knowledge} {program : Program Action Answer Result} :
    monitor.wp post known (ExceptT.lift program : ExceptT Error _ Result).run ↔
      monitor.wp (fun learned result => post learned (.ok result)) known program := wp_bind

theorem only_andThen (first : (only permitted).Obeys () program.run)
    (later : ∀ result, (only permitted).Obeys () (rest result).run) :
    (only permitted).Obeys () (program >>= rest).run := by
  apply only_bind first
  intro outcome
  cases outcome with
  | ok result => exact later result
  | error error => trivial

theorem only_lift {program : Program Action Answer Result}
    (obeys : (only permitted).Obeys () program) :
    (only permitted).Obeys () (ExceptT.lift program : ExceptT Error _ Result).run :=
  only_bind obeys fun _ => trivial

variable (monitor)

def Ensures (program : ExceptT Error (Program Action Answer) Result)
    (good : Result → Prop) : Prop :=
  ∀ known, monitor.wp (fun _ outcome => ∀ result, outcome = .ok result → good result) known
    program.run

abbrev Passes (program : ExceptT Error (Program Action Answer) Result) : Prop :=
  monitor.Ensures program fun _ => True

variable {monitor}

theorem ensures_pure (meets : good result) : monitor.Ensures
      (pure result : ExceptT Error (Program Action Answer) Result) good := by
  intro known other same
  cases same
  exact meets

theorem ensures_throw : monitor.Ensures
      (throw error : ExceptT Error (Program Action Answer) Result) good := by
  intro known other same
  cases same

theorem Ensures.bind (first : monitor.Ensures program middle)
    (later : ∀ result, middle result → monitor.Ensures (rest result) good) :
    monitor.Ensures (program >>= rest) good := by
  intro known
  rw [wp_andThen]
  refine wp_mono ?_ (first known)
  intro learned outcome holds
  cases outcome with
  | ok result => exact later result (holds result rfl) learned
  | error error =>
    intro result same
    cases same

theorem Ensures.thenPure (first : monitor.Ensures program middle) :
    monitor.Passes (program >>= fun _ => pure value) := first.bind fun _ _ => ensures_pure trivial

theorem Ensures.weaken (ensures : monitor.Ensures program strong)
    (implies : ∀ result, strong result → weak result) : monitor.Ensures program weak := by
  intro known
  refine wp_mono ?_ (ensures known)
  intro learned outcome holds result same
  exact implies result (holds result same)

theorem Ensures.outcome (ensures : monitor.Ensures program good) : monitor.Ensures
      (ExceptT.lift program.run : ExceptT Error _ (Except Error Result))
      (fun outcome => ∀ result, outcome = .ok result → good result) := by
  intro known
  rw [wp_lift]
  refine wp_mono ?_ (ensures known)
  intro learned outcome holds other same
  cases same
  exact holds

theorem ensures_forM {items : List Item} (each : ∀ item ∈ items, monitor.Passes (body item)) :
    monitor.Passes (items.forM body) := by
  induction items with
  | nil => exact ensures_pure trivial
  | cons item items induction =>
    apply Ensures.bind (each item mem_cons_self)
    intro _ _
    exact induction fun other member => each other (mem_cons_of_mem _ member)

theorem ensures_foldlM {items : List Item} (each : ∀ item ∈ items, ∀ state,
      monitor.Passes (body state item)) : monitor.Passes (items.foldlM body start) := by
  induction items generalizing start with
  | nil => exact ensures_pure trivial
  | cons item items induction =>
    apply Ensures.bind (each item mem_cons_self start)
    intro next _
    exact induction fun other member => each other (mem_cons_of_mem _ member)

theorem ensures_of_obeys (obeys : ∀ known, monitor.Obeys known program.run) :
    monitor.Passes program := by
  intro known
  exact wp_mono (fun _ _ _ _ _ => trivial) (obeys known)

theorem Ensures.obeys (ensures : monitor.Ensures program good)
    (known : Knowledge) : monitor.Obeys known program.run :=
  wp_mono (fun _ _ _ => trivial) (ensures known)

end Monitor

end Pam.Foundation
