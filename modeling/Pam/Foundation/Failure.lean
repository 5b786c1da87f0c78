import Mathlib.Data.List.Basic

namespace Pam.Foundation

universe u v w

/-! Computations that may fail, taken apart at their result. -/

variable {Error : Type u} {First : Type v}

theorem ok_bind : ((.ok value : Except Error First) >>= rest) = rest value := rfl

theorem bind_eq_ok {rest : First → Except Error Second} : (first >>= rest) = .ok result ↔
      ∃ value, first = .ok value ∧ rest value = .ok result := by
  cases first with
  | error error => exact ⟨nofun, fun ⟨_, failed, _⟩ => nomatch failed⟩
  | ok value =>
    constructor
    · intro later
      exact ⟨value, rfl, later⟩
    intro ⟨_, same, later⟩
    cases same
    exact later

theorem foldlM_marks {step : State → Item → Except Error State} {marked : State → Prop}
    {marks : Item → Prop} {items : List Item} (done : items.foldlM step before = .ok after)
    (each : ∀ {before item after}, step before item = .ok after →
      (marked after ↔ marks item ∨ marked before)) :
    marked after ↔ (∃ item ∈ items, marks item) ∨ marked before := by
  induction items generalizing before with
  | nil =>
    cases done
    simp
  | cons item items induction =>
    obtain ⟨middle, first, rest⟩ := bind_eq_ok.mp done
    rw [induction rest, each first, List.exists_mem_cons_iff, or_assoc]
    exact or_left_comm

theorem foldlM_keeps {step : State → Item → Option State} (property : State → Prop)
    (keeps : ∀ {before item after}, property before →
      step before item = some after → property after) {items : List Item} (base : property before)
    (done : items.foldlM step before = some after) : property after := by
  induction items generalizing before with
  | nil =>
    cases done
    exact base
  | cons item items induction =>
    obtain ⟨middle, first, rest⟩ := Option.bind_eq_some_iff.mp done
    exact induction (keeps base first) rest

theorem foldlM_each {step : State → Item → Except Error State} {items : List Item}
    (done : items.foldlM step before = .ok after) :
    ∀ item ∈ items, ∃ reached next, step reached item = .ok next := by
  induction items generalizing before with
  | nil => exact List.forall_mem_nil _
  | cons item items induction =>
    obtain ⟨middle, first, rest⟩ := bind_eq_ok.mp done
    exact List.forall_mem_cons.mpr ⟨⟨before, middle, first⟩, induction rest⟩

end Pam.Foundation
