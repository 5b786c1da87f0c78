import Pam.Foundation.Run

namespace Pam.Runtime

open Pam.Foundation List

/-! `Pam\Async\Mutex`. A fiber runs alone from one `delay` to the next; its
operation may suspend anywhere. -/

/-- `waiting` are the fibers in the delay of a `synchronized`, `inside` those
whose operation is under way. -/
structure Mutex where
  locked : Bool
  waiting : List Nat
  inside : List Nat

/-- A turn begins with a call or after a delay, out of which a fiber may also
be thrown. -/
inductive MutexLabel where
  | turn (fiber : Nat)
  | abandon (fiber : Nat)
  | leave (fiber : Nat)

/-- A fiber that waits in its own operation does not leave it. -/
def Mutex.next (mutex : Mutex) : MutexLabel → Option Mutex
  | .turn fiber =>
    let waiting := mutex.waiting.erase fiber
    some (if mutex.locked then { mutex with waiting := fiber :: waiting }
      else ⟨true, waiting, fiber :: mutex.inside⟩)
  | .abandon fiber => some { mutex with waiting := mutex.waiting.erase fiber }
  | .leave fiber =>
    if fiber ∈ mutex.inside ∧ fiber ∉ mutex.waiting then
      some { mutex with locked := false, inside := mutex.inside.erase fiber }
    else none

def mutexMachine : Machine Mutex MutexLabel where
  start := ⟨false, [], []⟩
  next := Mutex.next

namespace Mutex

def Exclusive (mutex : Mutex) : Prop := mutex.inside.length = if mutex.locked then 1 else 0

theorem Exclusive.next {mutex : Mutex} (exclusive : mutex.Exclusive)
    (step : mutex.next label = some target) : target.Exclusive := by
  cases label <;> grind [Mutex.next, Exclusive]

/-- The operation of the fiber waits for its own end. -/
def WaitsForItself (fiber : Nat) (mutex : Mutex) : Prop :=
  mutex.locked ∧ mutex.inside = [fiber] ∧ fiber ∈ mutex.waiting

theorem WaitsForItself.next (waits : WaitsForItself fiber mutex) (stays : label ≠ .abandon fiber)
    (step : mutex.next label = some target) : target.WaitsForItself fiber := by
  -- Only the fiber that is inside could leave, and it waits.
  cases label <;> grind [Mutex.next, WaitsForItself]

end Mutex

/-- However the fibers are interleaved, the mutex is locked exactly while one
operation is under way, and never two are. -/
theorem mutex_exclusive (labels : List MutexLabel) :
    (mutexMachine.finish mutexMachine.start labels).Exclusive := by
  apply mutexMachine.finish_of_kept Mutex.Exclusive Mutex.Exclusive.next
  rfl

/-- A fiber that calls `synchronized` in its own operation waits from then on,
and no other one gets in. -/
theorem nested_call_waits (earlier later : List MutexLabel)
    (inside : fiber ∈ (mutexMachine.finish mutexMachine.start earlier).inside)
    (stays : .abandon fiber ∉ later) :
    (mutexMachine.finish (mutexMachine.finish mutexMachine.start earlier)
      (.turn fiber :: later)).WaitsForItself fiber := by
  have exclusive : (mutexMachine.finish mutexMachine.start earlier).Exclusive := by
    apply mutexMachine.finish_of_kept Mutex.Exclusive Mutex.Exclusive.next
    rfl
  generalize mutexMachine.finish mutexMachine.start earlier = mutex at inside exclusive ⊢
  have calls : ∀ {target}, mutex.next (.turn fiber) = some target →
      target.WaitsForItself fiber := by
    grind [Mutex.next, Mutex.Exclusive, Mutex.WaitsForItself, length_eq_one_iff]
  refine mutexMachine.visited_of_guarded (·.WaitsForItself fiber) (fun _ => (· ≠ .abandon fiber))
    _ id .next (calls rfl) ?_ _ (mutexMachine.finish_mem_visited _ later)
  rintro step member abandoned
  exact stays (abandoned ▸ mutexMachine.label_mem_of_mem_transitions member)

theorem nested_call_of_one :
    (mutexMachine.finish ⟨true, [], [1]⟩ [.turn 1, .turn 2, .turn 1]).WaitsForItself 1 :=
  nested_call_waits [.turn 1] [.turn 2, .turn 1] (by decide) (by simp)

end Pam.Runtime
