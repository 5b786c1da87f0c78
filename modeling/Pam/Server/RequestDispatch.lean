import Pam.Foundation.Run
import Pam.Runtime.HttpDispatch

namespace Pam.Server

open Pam.Foundation Pam.Runtime List Option

/-! The drivers of `invoke_php_http_local` and `PhpResponseStream::drive`.
Between two waits a driver runs alone, so a call into PHP and the drop of its
`PhpHttpDispatchGuard` on failure are one step. -/

inductive RequestPhase where
  | accepted
  | driving
  | finished
  deriving DecidableEq

structure HttpRequest where
  requestId : String
  phase : RequestPhase

structure DispatchConfig where
  requestIdPrefix : String
  maxConcurrentRequests : Nat

structure DispatchState where
  nextRequestId : Nat
  requests : List HttpRequest
  httpDispatches : HttpDispatches

def DispatchState.initial : DispatchState where
  nextRequestId := 1
  requests := []
  httpDispatches := fun _ => none

def requestIdentifier (header : Option String) : Option String := header.filter fun value =>
    value.utf8ByteSize ≤ 128 && !value.isEmpty && value.toList.all fun character =>
        character.isAlphanum || character == '-' || character == '_' ||
          character == '.' || character == ':'

/-- The request is named by its position in `requests`. `traceIds` is the
number of sequence numbers its `traceparent` takes from the same counter. -/
def acceptRequest (config : DispatchConfig) (state : DispatchState)
    (header : Option String) (traceIds : Nat) : DispatchState :=
  match requestIdentifier header with
  | some requestId => { state with
      nextRequestId := state.nextRequestId + traceIds
      requests := state.requests ++ [⟨requestId, .accepted⟩] }
  | none =>
    let requestId := s!"{config.requestIdPrefix}-{state.nextRequestId}"
    { state with
      nextRequestId := state.nextRequestId + 1 + traceIds
      requests := state.requests ++ [⟨requestId, .accepted⟩] }

/-- The environment's part of a call into PHP: where the fiber ends, whether
`parse_dispatch_envelope` accepts the reply, and where the fiber ends when the
guard cancels it. -/
structure PhpCall where
  outcome : FiberOutcome
  parses : Bool
  whenCancelled : FiberOutcome

/-- The table after a call and the drop of the guard on failure, and the phase
the driver is in then. `Complete` disarms the guard. -/
def settleCall (requestId : String) (call : PhpCall) :
    DispatchResult → HttpDispatches × RequestPhase
  | (httpDispatches, .ok .complete) =>
    if call.parses then (httpDispatches, .finished)
    else (cancelHttpDispatch httpDispatches requestId call.whenCancelled, .finished)
  | (httpDispatches, .ok .suspended) =>
    if call.parses then (httpDispatches, .driving)
    else (cancelHttpDispatch httpDispatches requestId call.whenCancelled, .finished)
  | (httpDispatches, .error _) =>
    (cancelHttpDispatch httpDispatches requestId call.whenCancelled, .finished)

def DispatchState.settle (state : DispatchState) (number : Nat)
    (requestId : String) (settled : HttpDispatches × RequestPhase) : DispatchState := { state with
    httpDispatches := settled.1
    requests := state.requests.set number ⟨requestId, settled.2⟩ }

def DispatchState.slotsInUse (state : DispatchState) : Nat :=
  state.requests.countP fun request => request.phase == .driving

inductive DispatchLabel where
  | accept (header : Option String) (traceIds : Nat)
  | begin (request webSocketSlots : Nat) (call : PhpCall)
  | resume (request : Nat) (invalid : Option String) (call : PhpCall)
  | abandon (request : Nat) (whenCancelled : FiberOutcome)

/-- WebSocket events hold slots of the same semaphore. Every way a driver leaves
before `Complete` drops its guard. -/
def dispatchNext (config : DispatchConfig) (state : DispatchState) :
    DispatchLabel → Option DispatchState
  | .accept header traceIds => some (acceptRequest config state header traceIds)
  | .begin number webSocketSlots call =>
    match state.requests[number]? with
    | some ⟨requestId, .accepted⟩ =>
      if state.slotsInUse + webSocketSlots < config.maxConcurrentRequests then
        some (state.settle number requestId (settleCall requestId call
            (beginHttpDispatch state.httpDispatches requestId number call.outcome)))
      else some (state.settle number requestId (state.httpDispatches, .finished))
    | _ => none
  | .resume number invalid call =>
    match state.requests[number]? with
    | some ⟨requestId, .driving⟩ => some (state.settle number requestId (settleCall requestId call
          (resumeHttpDispatch state.httpDispatches requestId invalid call.outcome)))
    | _ => none
  | .abandon number whenCancelled =>
    match state.requests[number]? with
    | some ⟨requestId, .driving⟩ => some (state.settle number requestId
        (cancelHttpDispatch state.httpDispatches requestId whenCancelled, .finished))
    | _ => none

def dispatchMachine (config : DispatchConfig) : Machine DispatchState DispatchLabel where
  start := .initial
  next := dispatchNext config

def DispatchLabel.actor : DispatchLabel → Option Nat
  | .accept _ _ => none
  | .begin number _ _ => some number
  | .resume number _ _ => some number
  | .abandon number _ => some number

/-- The step neither advances nor removes a dispatch of another request. -/
def LeavesOthers (state : DispatchState) (label : DispatchLabel) (target : DispatchState) : Prop :=
  ∀ requestId dispatch, state.httpDispatches requestId = some dispatch →
    some dispatch.owner ≠ label.actor → target.httpDispatches requestId = some dispatch

/-- A request begins its dispatch under an id that is not pending, or finds no
slot to begin it. -/
def BeginsVacant (config : DispatchConfig) (state : DispatchState) : DispatchLabel → Prop
  | .begin number webSocketSlots _ => ∀ request, state.requests[number]? = some request →
      state.slotsInUse + webSocketSlots < config.maxConcurrentRequests →
      state.httpDispatches request.requestId = none
  | _ => True

/-! What a settled call does, seen from the request `owner` it runs for. -/

structure Settles (before : HttpDispatches) (requestId : String) (owner : Nat)
    (settled : HttpDispatches × RequestPhase) : Prop where
  elsewhere : ∀ other, other ≠ requestId → settled.1 other = before other
  owned : OwnedBy settled.1 requestId owner
  pending : settled.2 = .driving → settled.1 requestId ≠ none
  begun : settled.2 ≠ .accepted

theorem settles_cancel (elsewhere : ∀ other, other ≠ requestId →
      httpDispatches other = before other)
    (owned : OwnedBy httpDispatches requestId owner) (outcome : FiberOutcome) :
    Settles before requestId owner
      (cancelHttpDispatch httpDispatches requestId outcome, .finished) where
  elsewhere other different :=
    (cancelHttpDispatch_of_ne different _).trans (elsewhere other different)
  owned := cancelHttpDispatch_ownedBy owned
  pending := by simp
  begun := by simp

theorem settles_settleCall (elsewhere : ∀ other, other ≠ requestId → result.1 other = before other)
    (owned : OwnedBy result.1 requestId owner)
    (pending : result.2 = .ok .suspended → result.1 requestId ≠ none) (call : PhpCall) :
    Settles before requestId owner (settleCall requestId call result) := by
  have cancelled := settles_cancel elsewhere owned call.whenCancelled
  obtain ⟨httpDispatches, reply⟩ := result
  rcases reply with error | ⟨_ | _⟩
  · exact cancelled
  · by_cases parses : call.parses
    · simp only [settleCall, parses]
      exact ⟨elsewhere, owned, by simp, by simp⟩
    · simp only [settleCall, parses]
      exact cancelled
  · by_cases parses : call.parses
    · simp only [settleCall, parses]
      exact ⟨elsewhere, owned, fun _ => pending rfl, by simp⟩
    · simp only [settleCall, parses]
      exact cancelled

structure OwnDispatches (state : DispatchState) : Prop where
  owned : ∀ requestId dispatch, state.httpDispatches requestId = some dispatch →
    ∃ request, state.requests[dispatch.owner]? = some request ∧
      request.requestId = requestId ∧ request.phase ≠ .accepted
  driven : ∀ number request, state.requests[number]? = some request → request.phase = .driving →
    ∃ dispatch, state.httpDispatches request.requestId = some dispatch ∧ dispatch.owner = number

theorem ownDispatches_settle (own : OwnDispatches state)
    (found : state.requests[number]? = some ⟨requestId, phase⟩)
    (before : OwnedBy state.httpDispatches requestId number)
    (settles : Settles state.httpDispatches requestId number settled) :
    OwnDispatches (state.settle number requestId settled) := by
  have inside : number < state.requests.length := (List.getElem?_eq_some_iff.mp found).1
  constructor
  · intro other dispatch pending
    simp only [DispatchState.settle] at pending ⊢
    by_cases here : other = requestId
    · subst here
      have owner := settles.owned dispatch pending
      rw [owner, getElem?_set_self inside]
      exact ⟨_, rfl, rfl, settles.begun⟩
    · rw [settles.elsewhere other here] at pending
      obtain ⟨request, requestFound, sameId, begun⟩ := own.owned other dispatch pending
      have different : number ≠ dispatch.owner := by
        rintro rfl
        rw [found] at requestFound
        cases requestFound
        exact here sameId.symm
      rw [getElem?_set_ne different]
      exact ⟨request, requestFound, sameId, begun⟩
  · intro other request requestFound driving
    simp only [DispatchState.settle] at requestFound ⊢
    by_cases here : number = other
    · subst here
      rw [getElem?_set_self inside] at requestFound
      cases requestFound
      obtain ⟨dispatch, pending⟩ := ne_none_iff_exists'.mp (settles.pending driving)
      exact ⟨dispatch, pending, settles.owned dispatch pending⟩
    · rw [getElem?_set_ne here] at requestFound
      obtain ⟨dispatch, pending, owner⟩ := own.driven other request requestFound driving
      have different : request.requestId ≠ requestId := by
        intro same
        rw [same] at pending
        exact here ((before dispatch pending).symm.trans owner)
      rw [settles.elsewhere _ different]
      exact ⟨dispatch, pending, owner⟩

theorem leavesOthers_settle (actor : label.actor = some number)
    (before : OwnedBy state.httpDispatches requestId number)
    (settles : Settles state.httpDispatches requestId number settled) :
    LeavesOthers state label (state.settle number requestId settled) := by
  intro other dispatch pending foreign
  have different : other ≠ requestId := by
    rintro rfl
    rw [actor, before dispatch pending] at foreign
    exact foreign rfl
  simp only [DispatchState.settle]
  rw [settles.elsewhere other different]
  exact pending

theorem ownDispatches_append (own : OwnDispatches state) : OwnDispatches { state with
      nextRequestId := nextRequestId
      requests := state.requests ++ [⟨requestId, .accepted⟩] } := by
  constructor
  · intro other dispatch pending
    obtain ⟨request, found, sameId, begun⟩ := own.owned other dispatch pending
    refine ⟨request, ?_, sameId, begun⟩
    have inside := (List.getElem?_eq_some_iff.mp found).1
    rw [getElem?_append_left inside]
    exact found
  · intro number request found driving
    have earlier : state.requests[number]? = some request := by
      rw [getElem?_append] at found
      split at found
      · exact found
      rw [getElem?_singleton] at found
      split at found
      · cases found
        cases driving
      · cases found
    exact own.driven number request earlier driving

theorem ownDispatches_refuse (own : OwnDispatches state)
    (found : state.requests[number]? = some ⟨requestId, .accepted⟩) :
    OwnDispatches (state.settle number requestId (state.httpDispatches, .finished)) := by
  have inside : number < state.requests.length := (List.getElem?_eq_some_iff.mp found).1
  constructor
  · intro other dispatch pending
    obtain ⟨request, requestFound, sameId, begun⟩ := own.owned other dispatch pending
    have different : number ≠ dispatch.owner := by
      rintro rfl
      rw [found] at requestFound
      cases requestFound
      exact begun rfl
    simp only [DispatchState.settle, getElem?_set_ne different]
    exact ⟨request, requestFound, sameId, begun⟩
  · intro other request requestFound driving
    simp only [DispatchState.settle] at requestFound
    by_cases here : number = other
    · subst here
      rw [getElem?_set_self inside] at requestFound
      cases requestFound
      cases driving
    · rw [getElem?_set_ne here] at requestFound
      exact own.driven other request requestFound driving

theorem ownDispatches_initial : OwnDispatches DispatchState.initial := by
  constructor
  · intro requestId dispatch pending
    cases pending
  · intro number request found
    simp [DispatchState.initial] at found

theorem OwnDispatches.ownedBy (own : OwnDispatches state)
    (found : state.requests[number]? = some ⟨requestId, .driving⟩) :
    OwnedBy state.httpDispatches requestId number := by
  intro dispatch pending
  obtain ⟨driven, drivenPending, owner⟩ := own.driven number _ found rfl
  rw [pending] at drivenPending
  cases drivenPending
  exact owner

theorem ownDispatches_step (own : OwnDispatches state) (guarded : BeginsVacant config state label)
    (step : dispatchNext config state label = some target) :
    OwnDispatches target ∧ LeavesOthers state label target := by
  cases label with
  | accept header traceIds =>
    cases step
    unfold acceptRequest
    split <;> exact ⟨ownDispatches_append own, fun _ _ pending _ => pending⟩
  | begin number webSocketSlots call =>
    simp only [dispatchNext] at step
    split at step
    next requestId found =>
      split at step
      next slots =>
        cases step
        have vacant := guarded _ found slots
        have before : OwnedBy state.httpDispatches requestId number := by
          intro dispatch pending
          rw [vacant] at pending
          cases pending
        have settles := settles_settleCall (fun other different => beginHttpDispatch_of_ne different
            state.httpDispatches)
          (beginHttpDispatch_ownedBy vacant number call.outcome) beginHttpDispatch_suspended call
        exact ⟨ownDispatches_settle own found before settles,
          leavesOthers_settle rfl before settles⟩
      · cases step
        exact ⟨ownDispatches_refuse own found, fun _ _ pending _ => pending⟩
    · cases step
  | resume number invalid call =>
    simp only [dispatchNext] at step
    split at step
    next found =>
      cases step
      have before := own.ownedBy found
      have settles := settles_settleCall (fun other different => resumeHttpDispatch_of_ne different
          state.httpDispatches)
        (resumeHttpDispatch_ownedBy before invalid call.outcome) resumeHttpDispatch_suspended call
      exact ⟨ownDispatches_settle own found before settles, leavesOthers_settle rfl before settles⟩
    · cases step
  | abandon number whenCancelled =>
    simp only [dispatchNext] at step
    split at step
    next found =>
      cases step
      have before := own.ownedBy found
      have settles := settles_cancel (fun _ _ => rfl) before whenCancelled
      exact ⟨ownDispatches_settle own found before settles, leavesOthers_settle rfl before settles⟩
    · cases step

theorem not_leavesOthers_step
    (own : OwnDispatches state) (unguarded : ¬ BeginsVacant config state label)
    (step : dispatchNext config state label = some target) : ¬ LeavesOthers state label target := by
  cases label with
  | begin number webSocketSlots call =>
    simp only [BeginsVacant, not_forall] at unguarded
    obtain ⟨request, found, slots, occupied⟩ := unguarded
    obtain ⟨dispatch, pending⟩ := ne_none_iff_exists'.mp occupied
    obtain ⟨requestId, phase⟩ := request
    cases phase with
    | accepted =>
      simp only [dispatchNext, found, slots, if_true, some.injEq] at step
      subst step
      obtain ⟨error, refused⟩ := beginHttpDispatch_of_pending pending number call.outcome
      intro leaves
      have foreign : some dispatch.owner ≠ some number := by
        intro same
        cases same
        obtain ⟨owner, ownerFound, _, begun⟩ := own.owned requestId dispatch pending
        rw [found] at ownerFound
        cases ownerFound
        exact begun rfl
      have kept := leaves requestId dispatch pending foreign
      simp only [refused] at kept
      exact cancelHttpDispatch_ne_of_pending pending kept
    | driving | finished => simp [dispatchNext, found] at step
  | _ => exact absurd trivial unguarded

theorem leavesOthers_transitions_iff (config : DispatchConfig) (labels : List DispatchLabel) :
    (∀ transition ∈ (dispatchMachine config).transitions .initial labels,
        LeavesOthers transition.source transition.label transition.target) ↔
      ∀ transition ∈ (dispatchMachine config).transitions .initial labels,
        BeginsVacant config transition.source transition.label :=
  (dispatchMachine config).transitions_iff_guarded OwnDispatches
    (BeginsVacant config) LeavesOthers ownDispatches_step
    not_leavesOthers_step ownDispatches_initial labels

def twoSlots : DispatchConfig where
  requestIdPrefix := "0-1"
  maxConcurrentRequests := 2

/-- Two requests carry the same `X-Request-ID`; the first is suspended when the
second begins. -/
def sameRequestId : List DispatchLabel := let suspends : PhpCall :=
    { outcome := .suspends none, parses := true, whenCancelled := .finishes none }
  [.accept (some "a") 0, .accept (some "a") 0, .begin 0 0 suspends, .begin 1 0 suspends]

theorem pending_dispatch_cancelled : ¬ ∀ (config : DispatchConfig) (labels : List DispatchLabel),
      ∀ transition ∈ (dispatchMachine config).transitions .initial labels,
        LeavesOthers transition.source transition.label transition.target := by
  intro always
  have member := mem_of_getElem? (l :=
    (dispatchMachine twoSlots).transitions .initial sameRequestId) (i := 3) rfl
  have kept := always twoSlots sameRequestId _ member "a" ⟨0, .suspended, 1⟩ (by decide) (by decide)
  exact absurd kept (by decide)

end Pam.Server
