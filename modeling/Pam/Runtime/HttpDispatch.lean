import Mathlib.Logic.Function.Basic

namespace Pam.Runtime

open Option Function

/-! `Runtime::$httpDispatches`, the table of the unfinished request fibers, and
the three entry points that work on it. -/

inductive FiberState where
  | unstarted
  | suspended
  | terminated
  deriving DecidableEq

/-- `owner` identifies the object: the request whose `beginHttpDispatch` made
it. `advances` counts the calls of `advanceHttpDispatch` on it. -/
structure PendingHttpDispatch where
  owner : Nat
  fiber : FiberState
  advances : Nat
  deriving DecidableEq

abbrev HttpDispatches := String → Option PendingHttpDispatch

inductive HttpDispatchState where
  | complete
  | suspended

/-- Where running the fiber ends. A failure leaves `advanceHttpDispatch` after
the fiber ran: while the suspension is encoded, the error response made or the
captured output merged. -/
inductive FiberOutcome where
  | suspends (failure : Option String)
  | finishes (failure : Option String)

abbrev DispatchResult := HttpDispatches × Except String HttpDispatchState

def advanceHttpDispatch (httpDispatches : HttpDispatches) (requestId : String)
    (dispatch : PendingHttpDispatch) : FiberOutcome → DispatchResult
  | .suspends failure =>
    let advanced := { dispatch with fiber := .suspended, advances := dispatch.advances + 1 }
    (Function.update httpDispatches requestId (some advanced), match failure with
      | none => .ok .suspended
      | some error => .error error)
  | .finishes none => (Function.update httpDispatches requestId none, .ok .complete)
  | .finishes (some error) =>
    let advanced := { dispatch with fiber := .terminated, advances := dispatch.advances + 1 }
    (Function.update httpDispatches requestId (some advanced), .error error)

def beginHttpDispatch (httpDispatches : HttpDispatches) (requestId : String)
    (owner : Nat) (outcome : FiberOutcome) : DispatchResult :=
  if requestId = "" then (httpDispatches, .error "HTTP dispatch request IDs cannot be empty.")
  else if (httpDispatches requestId).isSome then
    (httpDispatches, .error s!"HTTP dispatch {requestId} already exists.")
  else
    advanceHttpDispatch httpDispatches requestId
      { owner := owner, fiber := .unstarted, advances := 0 } outcome

def resumeHttpDispatch (httpDispatches : HttpDispatches) (requestId : String)
    (invalid : Option String) (outcome : FiberOutcome) : DispatchResult :=
  match httpDispatches requestId with
  | none => (httpDispatches, .error s!"HTTP dispatch {requestId} does not exist.")
  | some dispatch =>
    if dispatch.fiber = .suspended then
      match invalid with
      | some error => (httpDispatches, .error error)
      | none => advanceHttpDispatch httpDispatches requestId dispatch outcome
    else (httpDispatches, .error s!"HTTP dispatch {requestId} is not suspended.")

/-- A suspended fiber is advanced with the cancellation thrown into it; it may
catch that and suspend again. -/
def cancelHttpDispatch (httpDispatches : HttpDispatches) (requestId : String)
    (outcome : FiberOutcome) : HttpDispatches :=
  match httpDispatches requestId with
  | none => httpDispatches
  | some dispatch =>
    if dispatch.fiber = .suspended then
      (advanceHttpDispatch httpDispatches requestId dispatch outcome).1
    else Function.update httpDispatches requestId none

variable {other : String}

section

variable (different : other ≠ requestId)
include different

variable (httpDispatches : HttpDispatches)
include httpDispatches

theorem advanceHttpDispatch_of_ne :
    (advanceHttpDispatch httpDispatches requestId dispatch outcome).1 other =
      httpDispatches other := by
  rcases outcome with failure | failure
  · simp [advanceHttpDispatch, different]
  · cases failure <;> simp [advanceHttpDispatch, different]

theorem beginHttpDispatch_of_ne :
    (beginHttpDispatch httpDispatches requestId owner outcome).1 other = httpDispatches other := by
  unfold beginHttpDispatch
  split
  · rfl
  split
  · rfl
  · exact advanceHttpDispatch_of_ne different _

theorem resumeHttpDispatch_of_ne :
    (resumeHttpDispatch httpDispatches requestId invalid outcome).1 other =
      httpDispatches other := by
  unfold resumeHttpDispatch
  split
  · rfl
  split
  · split
    · rfl
    · exact advanceHttpDispatch_of_ne different _
  · rfl

theorem cancelHttpDispatch_of_ne :
    cancelHttpDispatch httpDispatches requestId outcome other = httpDispatches other := by
  cases found : httpDispatches requestId with
  | none => simp [cancelHttpDispatch, found]
  | some dispatch =>
    simp only [cancelHttpDispatch, found]
    split
    · exact advanceHttpDispatch_of_ne different _
    · exact update_of_ne different _ _

end

def OwnedBy (httpDispatches : HttpDispatches) (requestId : String) (owner : Nat) : Prop :=
  ∀ dispatch, httpDispatches requestId = some dispatch → dispatch.owner = owner

theorem advanceHttpDispatch_ownedBy :
    OwnedBy (advanceHttpDispatch httpDispatches requestId dispatch outcome).1
      requestId dispatch.owner := by
  intro left found
  rcases outcome with failure | failure
  · simp only [advanceHttpDispatch, update_self, some.injEq] at found
    rw [← found]
  cases failure with
  | none => simp [advanceHttpDispatch] at found
  | some error =>
    simp only [advanceHttpDispatch, update_self, some.injEq] at found
    rw [← found]

theorem advanceHttpDispatch_suspended
    (replied : (advanceHttpDispatch httpDispatches requestId dispatch outcome).2 = .ok .suspended) :
    (advanceHttpDispatch httpDispatches requestId dispatch outcome).1 requestId ≠ none := by
  rcases outcome with failure | failure
  · simp [advanceHttpDispatch]
  · cases failure <;> simp [advanceHttpDispatch] at replied

theorem beginHttpDispatch_ownedBy (vacant : httpDispatches requestId = none)
    (owner : Nat) (outcome : FiberOutcome) :
    OwnedBy (beginHttpDispatch httpDispatches requestId owner outcome).1 requestId owner := by
  unfold beginHttpDispatch
  split
  · intro dispatch found
    simp [vacant] at found
  · simp only [vacant]
    exact advanceHttpDispatch_ownedBy

theorem beginHttpDispatch_suspended
    (replied : (beginHttpDispatch httpDispatches requestId owner outcome).2 = .ok .suspended) :
    (beginHttpDispatch httpDispatches requestId owner outcome).1 requestId ≠ none := by
  unfold beginHttpDispatch at replied ⊢
  split at replied
  · cases replied
  split at replied
  · cases replied
  next nonempty vacant =>
    simp only [nonempty, vacant]
    exact advanceHttpDispatch_suspended replied

theorem beginHttpDispatch_of_pending (found : httpDispatches requestId = some pending) (owner : Nat)
    (outcome : FiberOutcome) : ∃ error, beginHttpDispatch httpDispatches requestId owner outcome =
      (httpDispatches, .error error) := by
  unfold beginHttpDispatch
  split
  · exact ⟨_, rfl⟩
  · simp only [found]
    exact ⟨_, rfl⟩

theorem resumeHttpDispatch_ownedBy
    (owned : OwnedBy httpDispatches requestId owner) (invalid : Option String)
    (outcome : FiberOutcome) :
    OwnedBy (resumeHttpDispatch httpDispatches requestId invalid outcome).1 requestId owner := by
  unfold resumeHttpDispatch
  split
  · exact owned
  next dispatch found =>
  split
  · split
    · exact owned
    · rw [← owned dispatch found]
      exact advanceHttpDispatch_ownedBy
  · exact owned

theorem resumeHttpDispatch_suspended (replied : (resumeHttpDispatch httpDispatches requestId invalid
      outcome).2 = .ok .suspended) :
    (resumeHttpDispatch httpDispatches requestId invalid outcome).1 requestId ≠ none := by
  unfold resumeHttpDispatch at replied ⊢
  cases found : httpDispatches requestId with
  | none => simp [found] at replied
  | some dispatch =>
    simp only [found] at replied ⊢
    split at replied
    · cases invalid with
      | some error => cases replied
      | none =>
        simp only [*]
        exact advanceHttpDispatch_suspended replied
    · cases replied

theorem cancelHttpDispatch_ownedBy (owned : OwnedBy httpDispatches requestId owner) :
    OwnedBy (cancelHttpDispatch httpDispatches requestId outcome) requestId owner := by
  unfold cancelHttpDispatch
  split
  · exact owned
  next dispatch found =>
  split
  · rw [← owned dispatch found]
    exact advanceHttpDispatch_ownedBy
  · intro left leftFound
    simp at leftFound

theorem cancelHttpDispatch_ne_of_pending (found : httpDispatches requestId = some pending) :
    cancelHttpDispatch httpDispatches requestId outcome requestId ≠ some pending := by
  unfold cancelHttpDispatch
  simp only [found]
  split
  · intro same
    rcases outcome with failure | failure
    · simp only [advanceHttpDispatch, update_self, some.injEq] at same
      have counted := congrArg PendingHttpDispatch.advances same
      simp at counted
    · cases failure with
      | none => simp [advanceHttpDispatch] at same
      | some error =>
        simp only [advanceHttpDispatch, update_self, some.injEq] at same
        have counted := congrArg PendingHttpDispatch.advances same
        simp at counted
  · simp

end Pam.Runtime
