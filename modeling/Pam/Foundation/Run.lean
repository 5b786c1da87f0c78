import Mathlib.Data.List.Basic

namespace Pam.Foundation

open List

universe u v

/-! Runs of a machine whose nondeterminism is carried by its labels. A label
that is not enabled ends the run, so every list of labels names one run: its
longest enabled initial part. -/

structure Machine (State : Type u) (Label : Type v) where
  start : State
  next : State → Label → Option State

structure Transition (State : Type u) (Label : Type v) where
  source : State
  label : Label
  target : State

namespace Machine

variable {State : Type u} {Label : Type v} (machine : Machine State Label)

def transitions (state : State) : List Label → List (Transition State Label)
  | [] => []
  | label :: labels =>
    match machine.next state label with
    | none => []
    | some target => ⟨state, label, target⟩ :: transitions target labels

def visited (state : State) (labels : List Label) : List State :=
  state :: (machine.transitions state labels).map Transition.target

def finish (state : State) : List Label → State
  | [] => state
  | label :: labels =>
    match machine.next state label with
    | none => state
    | some target => finish target labels

@[simp] theorem transitions_nil : machine.transitions state [] = [] := rfl

theorem transitions_stuck (stuck : machine.next state label = none) :
    machine.transitions state (label :: labels) = [] := by
  simp [transitions, stuck]

theorem transitions_step (step : machine.next state label = some target) :
    machine.transitions state (label :: labels) =
      ⟨state, label, target⟩ :: machine.transitions target labels := by
  simp [transitions, step]

theorem mem_transitions (member : transition ∈ machine.transitions state labels) :
    machine.next transition.source transition.label = some transition.target ∧
      transition.label ∈ labels := by
  induction labels generalizing state with
  | nil => simp at member
  | cons label labels induction =>
    cases step : machine.next state label with
    | none => simp [machine.transitions_stuck step] at member
    | some target =>
      rw [machine.transitions_step step] at member
      rcases mem_cons.mp member with rfl | later
      · exact ⟨step, mem_cons_self⟩
      · exact (induction later).imp_right (mem_cons_of_mem _)

theorem next_of_mem_transitions {labels : List Label}
    (member : transition ∈ machine.transitions state labels) :
    machine.next transition.source transition.label = some transition.target :=
  (machine.mem_transitions member).1

theorem label_mem_of_mem_transitions {labels : List Label}
    (member : transition ∈ machine.transitions state labels) : transition.label ∈ labels :=
  (machine.mem_transitions member).2

theorem source_mem_visited (member : transition ∈ machine.transitions state labels) :
    transition.source ∈ machine.visited state labels := by
  induction labels generalizing state with
  | nil => cases member
  | cons label labels induction =>
    cases step : machine.next state label with
    | none => simp [machine.transitions_stuck step] at member
    | some target =>
      rw [visited, machine.transitions_step step] at *
      rcases mem_cons.mp member with rfl | later
      · exact mem_cons_self
      · exact mem_cons_of_mem _ (induction later)

theorem finish_mem_visited (state : State) (labels : List Label) :
    machine.finish state labels ∈ machine.visited state labels := by
  induction labels generalizing state with
  | nil => simp [finish, visited]
  | cons label labels induction =>
    cases step : machine.next state label with
    | none => simp [finish, visited, step]
    | some target =>
      have later := induction target
      simp only [visited, mem_cons] at later
      simp only [finish, step, visited, machine.transitions_step step, map_cons, mem_cons]
      exact .inr later

def follow (state : State) : List Label → Option State
  | [] => some state
  | label :: labels => (machine.next state label).bind fun target => follow target labels

theorem follow_append {first : List Label} (followed : machine.follow state first = some middle) :
    machine.follow state (first ++ second) = machine.follow middle second := by
  induction first generalizing state with
  | nil =>
    cases followed
    rfl
  | cons label labels induction =>
    obtain ⟨target, step, rest⟩ := Option.bind_eq_some_iff.mp followed
    simp only [cons_append, follow, step]
    exact induction rest

/-- What every step keeps, of the labels so far and the state, holds after a run. -/
theorem follow_of_kept (invariant : List Label → State → Prop)
    (keeps : ∀ {done state label target}, invariant done state →
      machine.next state label = some target → invariant (done ++ [label]) target)
    (base : invariant done state) (followed : machine.follow state labels = some target) :
    invariant (done ++ labels) target := by
  induction labels generalizing done state with
  | nil =>
    cases followed
    rwa [append_nil]
  | cons label labels induction =>
    obtain ⟨middle, step, rest⟩ := Option.bind_eq_some_iff.mp followed
    rw [append_cons]
    exact induction (keeps base step) rest

theorem mem_transitions_of_follow (followed : machine.follow state first = some middle)
    (later : transition ∈ machine.transitions middle second) :
    transition ∈ machine.transitions state (first ++ second) := by
  induction first generalizing state with
  | nil =>
    cases followed
    exact later
  | cons label labels induction =>
    obtain ⟨target, step, rest⟩ := Option.bind_eq_some_iff.mp followed
    rw [cons_append, machine.transitions_step step]
    exact mem_cons_of_mem _ (induction rest)

variable (invariant : State → Prop) (guard : State → Label → Prop)

variable (property : State → Label → State → Prop)

/-- A run whose steps all meet the guard keeps every invariant that guarded
steps keep, and each step has what guarded steps have. -/
theorem transitions_of_guarded
    (keeps : ∀ {state label target}, invariant state → guard state label →
      machine.next state label = some target →
      invariant target ∧ property state label target) (base : invariant state)
    (guarded : ∀ transition ∈ machine.transitions state labels,
      guard transition.source transition.label) : ∀ transition ∈ machine.transitions state labels,
      property transition.source transition.label transition.target := by
  induction labels generalizing state with
  | nil => simp
  | cons label labels induction =>
    cases step : machine.next state label with
    | none => simp [machine.transitions_stuck step]
    | some target =>
      rw [machine.transitions_step step] at guarded ⊢
      obtain ⟨first, later⟩ := forall_mem_cons.mp guarded
      obtain ⟨kept, satisfied⟩ := keeps base first step
      exact forall_mem_cons.mpr ⟨satisfied, induction kept later⟩

theorem visited_of_guarded (property : State → Prop)
    (holds : ∀ {state}, invariant state → property state)
    (keeps : ∀ {state label target}, invariant state → guard state label →
      machine.next state label = some target → invariant target) (base : invariant state)
    (guarded : ∀ transition ∈ machine.transitions state labels,
      guard transition.source transition.label) :
    ∀ passed ∈ machine.visited state labels, property passed := by
  simp only [visited, forall_mem_cons, forall_mem_map]
  refine ⟨holds base, machine.transitions_of_guarded invariant guard
    (fun _ _ target => property target) (fun kept allowed step => ?_) base guarded⟩
  have after := keeps kept allowed step
  exact ⟨after, holds after⟩

theorem finish_of_kept (keeps : ∀ {state label target}, invariant state →
      machine.next state label = some target → invariant target) (base : invariant state) :
    ∀ labels, invariant (machine.finish state labels) := by
  intro labels
  refine machine.visited_of_guarded invariant (fun _ _ => True) invariant id ?_ base ?_ _
    (machine.finish_mem_visited state labels)
  · exact fun kept _ => keeps kept
  · exact fun _ _ => trivial

/-- The guard is exact for a property of steps: guarded steps keep the
invariant and have the property, unguarded ones lack it. -/
theorem transitions_iff_guarded
    (keeps : ∀ {state label target}, invariant state → guard state label →
      machine.next state label = some target → invariant target ∧ property state label target)
    (breaks : ∀ {state label target}, invariant state → ¬ guard state label →
      machine.next state label = some target → ¬ property state label target)
    (base : invariant state) (labels : List Label) :
    (∀ transition ∈ machine.transitions state labels,
        property transition.source transition.label transition.target) ↔
      ∀ transition ∈ machine.transitions state labels,
        guard transition.source transition.label := by
  induction labels generalizing state with
  | nil => simp
  | cons label labels induction =>
    cases step : machine.next state label with
    | none => simp [machine.transitions_stuck step]
    | some target =>
      rw [machine.transitions_step step]
      simp only [forall_mem_cons]
      -- Only a guarded first step carries the invariant to the rest.
      by_cases guarded : guard state label
      · obtain ⟨kept, satisfied⟩ := keeps base guarded step
        simp only [satisfied, guarded, true_and]
        exact induction kept
      · simp [breaks base guarded step, guarded]

theorem visited_iff_guarded (property : State → Prop)
    (holds : ∀ {state}, invariant state → property state)
    (keeps : ∀ {state label target}, invariant state → guard state label →
      machine.next state label = some target → invariant target)
    (breaks : ∀ {state label target}, invariant state → ¬ guard state label →
      machine.next state label = some target → ¬ property target)
    (base : invariant state) (labels : List Label) :
    (∀ passed ∈ machine.visited state labels, property passed) ↔
      ∀ transition ∈ machine.transitions state labels,
        guard transition.source transition.label := by
  have steps : (∀ transition ∈ machine.transitions state labels, property transition.target) ↔
        ∀ transition ∈ machine.transitions state labels, guard transition.source transition.label :=
    machine.transitions_iff_guarded invariant guard (fun _ _ target => property target)
      (fun kept guarded step => ⟨keeps kept guarded step, holds (keeps kept guarded step)⟩)
      breaks base labels
  rw [← steps]
  simp only [visited, forall_mem_cons, forall_mem_map]
  exact and_iff_right (holds base)

universe w

variable {Note : Type w} (takes : State → Label → Note → Note)

def recorded (note : Note) : Machine (State × Note) Label where
  start := (machine.start, note)
  next state label := (machine.next state.1 label).map fun target =>
      (target, takes state.1 label state.2)

end Machine

end Pam.Foundation
