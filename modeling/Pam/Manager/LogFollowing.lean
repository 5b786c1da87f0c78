import Pam.Foundation.Run

namespace Pam.Manager

open Pam.Foundation List

/-! `follow_logs` on one log. A poll checks the length and, if that is beyond
the offset, reads the file to its end. -/

/-- `checked` is the length found by a poll that has not read yet, `rotated`
says that the file is a new one, and `appended` are the bytes since the
following began. -/
structure Following where
  file : List UInt8
  offset : Nat
  checked : Option Nat
  rotated : Bool
  printed : List UInt8
  appended : List UInt8

inductive FollowStep where
  | append (bytes : List UInt8)
  /-- The log is renamed; until it is appended to, it has no length. -/
  | rotate
  | check
  | read

namespace Following

def initial (file : List UInt8) : Following := ⟨file, file.length, none, false, [], []⟩

def next (state : Following) : FollowStep → Option Following
  | .append bytes => some { state with
      file := state.file ++ bytes
      appended := state.appended ++ bytes }
  | .rotate =>
    if state.checked.isSome then none else some { state with file := [], rotated := true }
  | .check =>
    if state.checked.isSome then none
    else
      let length := state.file.length
      let offset := if length < state.offset then 0 else state.offset
      some { state with
        offset := offset
        rotated := false
        checked := if offset < length then some length else none }
  | .read => state.checked.map fun length => { state with
        printed := state.printed ++ state.file.drop state.offset
        offset := length
        checked := none }

end Following

def followMachine (file : List UInt8) : Machine Following FollowStep where
  start := .initial file
  next := Following.next

/-- When a poll is over, every byte is printed once and in order. -/
def ExactlyOnce (step : FollowStep) (target : Following) : Prop :=
  step = .check ∨ step = .read → target.checked = none → target.printed = target.appended

/-- Nothing is appended while a poll reads, the log is rotated only when all of
it is printed, and the first poll of a new log finds it shorter than what was
read of the old one. -/
def Undisturbed (state : Following) : FollowStep → Prop
  | .append _ => True
  | .rotate => state.printed = state.appended
  | .check => state.rotated = true → state.file.length < state.offset ∨ state.offset = 0
  | .read => ∀ length ∈ state.checked, length = state.file.length

structure Tracked (state : Following) : Prop where
  complete : state.appended = state.printed ++
    if state.rotated then state.file else state.file.drop state.offset
  offset_le : state.rotated = false → state.offset ≤ state.file.length
  polling : state.checked.isSome → state.rotated = false

theorem Tracked.next (tracked : Tracked state) (undisturbed : Undisturbed state step)
    (moves : state.next step = some target) : Tracked target ∧ ExactlyOnce step target := by
  obtain ⟨complete, offset_le, polling⟩ := tracked
  cases step with
  | append bytes =>
    cases moves
    refine ⟨⟨?_, fun same => ?_, polling⟩, nofun⟩
    · cases rotated : state.rotated with
      | true => simp [complete, rotated]
      | false => simp [complete, rotated, drop_append_of_le_length (offset_le rotated)]
    · have := offset_le same
      simp only [length_append]
      omega
  | rotate =>
    simp only [Following.next] at moves
    split at moves
    · cases moves
    next idle =>
    cases moves
    exact ⟨⟨by simp [undisturbed.symm], nofun, fun polls => absurd polls idle⟩, nofun⟩
  | check =>
    simp only [Following.next] at moves
    split at moves
    · cases moves
    cases moves
    -- The poll begins where the printed bytes end.
    have unread : state.appended = state.printed ++ state.file.drop
        (if state.file.length < state.offset then 0 else state.offset) := by
      cases rotated : state.rotated with
      | true =>
        rcases undisturbed rotated with shorter | fresh
        · simp [complete, rotated, shorter]
        · simp [complete, fresh]
      | false => simp [complete, rotated, Nat.not_lt.mpr (offset_le rotated)]
    have bound : (if state.file.length < state.offset then 0
        else state.offset) ≤ state.file.length := by
      split <;> omega
    generalize (if state.file.length < state.offset then 0
      else state.offset) = offset at unread bound ⊢
    refine ⟨⟨unread, fun _ => bound, fun _ => rfl⟩, fun _ finished => ?_⟩
    have atEnd : state.file.length ≤ offset := by
      by_contra before
      simp [Nat.not_le.mp before] at finished
    rw [unread, drop_eq_nil_of_le atEnd, append_nil]
  | read =>
    obtain ⟨length, isChecked, rfl⟩ := Option.map_eq_some_iff.mp moves
    have current := polling (by rw [isChecked]; rfl)
    simp only [current] at complete
    cases undisturbed length isChecked
    refine ⟨⟨?_, fun _ => Nat.le_refl _, nofun⟩, fun _ _ => complete.symm⟩
    simp [complete, current]

theorem followed_exactly_once (file : List UInt8) (steps : List FollowStep)
    (undisturbed : ∀ transition ∈ (followMachine file).transitions (.initial file) steps,
      Undisturbed transition.source transition.label) :
    ∀ transition ∈ (followMachine file).transitions (.initial file) steps,
      ExactlyOnce transition.label transition.target :=
  Machine.transitions_of_guarded _ Tracked Undisturbed
    (fun _ step target => ExactlyOnce step target)
    (fun tracked undisturbed moves => tracked.next undisturbed moves)
    ⟨by simp [Following.initial], fun _ => Nat.le_refl _, nofun⟩ undisturbed

theorem followed_over_rotation : ((followMachine [1]).transitions (.initial [1])
        [.append [2], .check, .read, .rotate, .append [3], .check, .read]).length = 7 ∧
      ∀ transition ∈ (followMachine [1]).transitions (.initial [1])
          [.append [2], .check, .read, .rotate, .append [3], .check, .read],
        ExactlyOnce transition.label transition.target := by
  refine ⟨rfl, followed_exactly_once _ _ ?_⟩
  simp [Machine.transitions, followMachine, Following.next, Following.initial, Undisturbed]

/-- A byte appended between the check and the reading is printed twice. -/
theorem byte_printed_twice : ¬ ∀ transition ∈ (followMachine []).transitions (.initial [])
        [.append [1], .check, .append [2], .read, .check, .read],
      ExactlyOnce transition.label transition.target := by
  intro once
  have printed := once _ (mem_of_getElem? (i := 5) rfl) (.inr rfl) rfl
  cases printed

end Pam.Manager
