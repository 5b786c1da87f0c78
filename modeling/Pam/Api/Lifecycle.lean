import Pam.Api.Container
import Pam.Api.Idempotency
import Pam.Runtime.Telemetry

namespace Pam.Api

open Pam.Foundation Pam.Protocol
open Pam.Runtime (LogAmbient LogValue log log_isSome_iff)

/-! `App::handle`. Observers, the pipeline and the error handler are any code.
-/

structure HttpProblem where
  status : Int
  problemCode : Nat
  title : PhpString
  details : List (PhpString × PhpValue)

inductive Thrown where
  | http (problem : HttpProblem)
  | json
  | other (className message : PhpString)

/-- The objects of a request: the container, the responses by their identity, and
what `Telemetry::log` reads. -/
structure AppWorld where
  container : Container
  responses : Nat → Response
  ambient : LogAmbient

abbrev AppCode (Result : Type) := AppWorld → Except Thrown Result × AppWorld

structure ObserverError where
  className : PhpString
  message : PhpString

structure LifecycleObserver where
  className : PhpString
  starting : Request → AppCode Unit
  finished : Request → Nat → Option Thrown → AppWorld → Option ObserverError × AppWorld

/-- The compiled application. The error handler may return something else than a
response. -/
structure App where
  observers : List LifecycleObserver
  pipeline : Request → Nat → AppCode Nat
  errorHandler : Thrown → Nat → AppCode (Option Nat)

structure HandledRequest where
  fiber : FiberId
  request : Request
  requestObject : Nat
  response : Nat

def ContainerFailure.thrown : ContainerFailure → Thrown
  | .logic before id after =>
    .other (asciiBytes "LogicException") (asciiBytes before ++ id ++ asciiBytes after)
  | .runtime before id after =>
    .other (asciiBytes "RuntimeException") (asciiBytes before ++ id ++ asciiBytes after)

namespace AppWorld

def putResponse (world : AppWorld) (reference : Nat) (response : Response) : AppWorld :=
  { world with responses := Function.update world.responses reference response }

def finalizeResponse (world : AppWorld) (request : Request) (reference : Nat) : AppWorld :=
  if request.method = asciiBytes "HEAD" then
    world.putResponse reference ((world.responses reference).send [])
  else world

end AppWorld

def spreadEntries : Nat → List (PhpString × PhpValue) →
    Table PhpString PhpValue → Table PhpString PhpValue
  | _, [], table => table
  | number, (key, value) :: rest, table =>
    if isIntegerKey key then spreadEntries (number + 1) rest (table.assign (decimal number) value)
    else spreadEntries number rest (table.assign key value)

def HttpProblem.data (problem : HttpProblem) : PhpValue :=
  let details := spreadEntries 0 problem.details ∅
  let typed := details.assign (asciiBytes "type")
    (.string (asciiBytes "https://pam.dev/problems/" ++ decimal problem.problemCode))
  let titled := typed.assign (asciiBytes "title") (.string problem.title)
  let rated := titled.assign (asciiBytes "status") (.integer problem.status)
  let coded := rated.assign (asciiBytes "code") (.integer problem.problemCode)
  .array (coded.entries.map fun entry => (entry.1, entry.2))

section Handle

variable (jsonText : Json → PhpString)

def invalidArgument (message : String) : Thrown :=
  .other (asciiBytes "InvalidArgumentException") (asciiBytes message)

def problemResponse (problem : HttpProblem) (reference : Nat) : AppCode Nat := fun world =>
  match (world.responses reference).status problem.status with
  | none => (.error (invalidArgument "HTTP status must be between 100 and 599."), world)
  | some response =>
    match response.header contentType (asciiBytes "application/json; charset=utf-8") with
    | none => (.error (invalidArgument "HTTP header name is invalid."),
        world.putResponse reference response)
    | some response =>
      match jsonEncode problem.data with
      | none => (.error .json, world.putResponse reference response)
      | some json =>
        let response := { response with body := jsonText json }
        match response.header contentType
          (asciiBytes "application/problem+json; charset=utf-8") with
        | none => (.error (invalidArgument "HTTP header name is invalid."),
            world.putResponse reference response)
        | some response => (.ok reference, world.putResponse reference response)

/-- The loop over the observers, with those whose `starting` has returned. -/
def startObservers (request : Request) : List LifecycleObserver → AppWorld →
    Except Thrown Unit × List LifecycleObserver × AppWorld
  | [], world => (.ok (), [], world)
  | observer :: rest, world =>
    match observer.starting request world with
    | (.error error, world) => (.error error, [], world)
    | (.ok (), world) =>
      let (result, started, world) := startObservers request rest world
      (result, observer :: started, world)

namespace App

def tryHandle (app : App) (handled : HandledRequest) (world : AppWorld) :
    Except Thrown Nat × List LifecycleObserver × AppWorld :=
  match startObservers handled.request app.observers world with
  | (.error error, started, world) => (.error error, started, world)
  | (.ok (), started, world) =>
    match app.pipeline handled.request handled.response world with
    | (.error error, world) => (.error error, started, world)
    | (.ok reference, world) =>
      (.ok reference, started, world.finalizeResponse handled.request reference)

def recover (app : App) (handled : HandledRequest) (error : Thrown) : AppCode Nat := fun world =>
  match error with
  | .http problem =>
    match problemResponse jsonText problem handled.response world with
    | (.error error, world) => (.error error, world)
    | (.ok reference, world) => (.ok reference, world.finalizeResponse handled.request reference)
  | error =>
    match app.errorHandler error handled.response world with
    | (.error error, world) => (.error error, world)
    | (.ok none, world) => (.error (.other (asciiBytes "UnexpectedValueException")
        (asciiBytes "The Pam error handler must return Response.")), world)
    | (.ok (some reference), world) =>
      (.ok reference, world.finalizeResponse handled.request reference)

structure Stage where
  result : Except Thrown Nat
  failure : Option Thrown
  started : List LifecycleObserver
  world : AppWorld

def stage (app : App) (handled : HandledRequest) (world : AppWorld) : Stage :=
  match app.tryHandle handled world with
  | (.ok reference, started, world) => ⟨.ok reference, none, started, world⟩
  | (.error error, started, world) =>
    let (result, world) := app.recover jsonText handled error world
    ⟨result, some error, started, world⟩

end App

def reportFinish (ambient : LogAmbient) (observer : PhpString)
    (error : ObserverError) : Option Json :=
  log ambient (asciiBytes "error") (asciiBytes "PAM request observer failed during cleanup")
    [(asciiBytes "observer", .text observer), (asciiBytes "exception", .text error.className),
      (asciiBytes "message", .text error.message)]

/-- The loop of `finally`: whether it came to its end, and the observers whose
`finished` was called. -/
def finishObservers (handled : HandledRequest) (failure : Option Thrown) :
    List LifecycleObserver → AppWorld → Bool × List LifecycleObserver × AppWorld
  | [], world => (true, [], world)
  | observer :: rest, world =>
    match observer.finished handled.request handled.response failure world with
    | (none, world) =>
      let (complete, finished, world) := finishObservers handled failure rest world
      (complete, observer :: finished, world)
    | (some error, world) =>
      match reportFinish world.ambient observer.className error with
      | none => (false, [observer], world)
      | some _ =>
        let (complete, finished, world) := finishObservers handled failure rest world
        (complete, observer :: finished, world)

def enterRequest (handled : HandledRequest) (container : Container) :
    Except ContainerFailure Container := do
  let container ← container.beginScope handled.fiber
  let container ← container.scopedInstance handled.fiber
    (asciiBytes "Pam\\Http\\Request") handled.requestObject
  container.scopedInstance handled.fiber (asciiBytes "Pam\\Http\\Response") handled.response

/-- What the caller of `handle` gets, the observers that were called to finish,
and whether the scope was ended. -/
structure HandleOutcome where
  result : Except Thrown Nat
  finished : List LifecycleObserver
  scopeEnded : Bool
  world : AppWorld

def App.handle (app : App) (handled : HandledRequest) (world : AppWorld) : HandleOutcome :=
  match enterRequest handled world.container with
  | .error failure => ⟨.error failure.thrown, [], false, world⟩
  | .ok container =>
    let stage := app.stage jsonText handled { world with container := container }
    match finishObservers handled stage.failure stage.started.reverse stage.world with
    | (false, finished, world) => ⟨.error .json, finished, false, world⟩
    | (true, finished, world) => ⟨stage.result, finished, true,
        { world with container := world.container.endScope handled.fiber }⟩

/-- Every started observer is finished once, the last one first; the scope is
ended; and the caller gets what the stage has produced. -/
structure RequestUnwound (handled : HandledRequest) (stage : App.Stage)
    (outcome : HandleOutcome) : Prop where
  finished : outcome.finished = stage.started.reverse
  ended : outcome.scopeEnded = true
  scope : outcome.world.container.currentScope handled.fiber = none
  result : outcome.result = stage.result

def App.Unwinds (app : App) (handled : HandledRequest) (world : AppWorld) : Prop :=
  ∃ container, enterRequest handled world.container = .ok container ∧ RequestUnwound handled
      (app.stage jsonText handled { world with container := container })
      (app.handle jsonText handled world)

structure FinishFailure where
  observer : PhpString
  error : ObserverError
  ambient : LogAmbient

def finishFailures (handled : HandledRequest) (failure : Option Thrown) :
    List LifecycleObserver → AppWorld → List FinishFailure
  | [], _ => []
  | observer :: rest, world =>
    match observer.finished handled.request handled.response failure world with
    | (none, world) => finishFailures handled failure rest world
    | (some error, world) =>
      ⟨observer.className, error, world.ambient⟩ :: finishFailures handled failure rest world

structure FinishFailure.Reportable (failure : FinishFailure) : Prop where
  observer : validUtf8 failure.observer = true
  className : validUtf8 failure.error.className = true
  message : validUtf8 failure.error.message = true
  ambient : failure.ambient.Encodable

/-- The fiber has no scope before the request, and every failure of an observer
to finish can be reported. -/
structure App.Unwindable (app : App) (handled : HandledRequest) (world : AppWorld) : Prop where
  idle : world.container.currentScope handled.fiber = none
  reportable : ∀ container, enterRequest handled world.container = .ok container →
    let stage := app.stage jsonText handled { world with container := container }
    ∀ failure ∈ finishFailures handled stage.failure stage.started.reverse
      stage.world, failure.Reportable

end Handle

theorem reportFinish_isSome_iff : (reportFinish ambient observer error).isSome = true ↔
      FinishFailure.Reportable ⟨observer, error, ambient⟩ := by
  have texts : validUtf8 (strtolower (asciiBytes "error")) = true ∧
      validUtf8 (asciiBytes "PAM request observer failed during cleanup") = true ∧
      0x7B ∉ asciiBytes "PAM request observer failed during cleanup" ∧
      validUtf8 (asciiBytes "observer") = true ∧ validUtf8 (asciiBytes "exception") = true ∧
      validUtf8 (asciiBytes "message") = true := by
    decide +kernel
  obtain ⟨level, message, plain, isObserver, isException, isMessage⟩ := texts
  rw [reportFinish, log_isSome_iff level message plain]
  simp only [List.forall_mem_cons, isObserver, isException, isMessage, true_and]
  constructor
  · rintro ⟨ambient, observer, className, message, _⟩
    exact ⟨observer, className, message, ambient⟩
  intro reportable
  exact ⟨reportable.ambient, reportable.observer, reportable.className,
    reportable.message, List.forall_mem_nil _⟩

variable {app : App} {failure : Option Thrown}

theorem finishObservers_complete_iff (world : AppWorld) :
    (finishObservers handled failure observers world).1 = true ↔
      ∀ failed ∈ finishFailures handled failure observers world, failed.Reportable := by
  induction observers generalizing world with
  | nil => simp [finishObservers, finishFailures]
  | cons observer rest induction =>
    rw [finishObservers, finishFailures]
    cases observer.finished handled.request handled.response failure world with
    | mk thrown after =>
      cases thrown with
      | none => exact induction after
      | some error =>
        dsimp only
        rw [List.forall_mem_cons, ← reportFinish_isSome_iff, ← induction]
        cases reportFinish after.ambient observer.className error with
        | none | some json => simp

theorem finishObservers_finished {observers : List LifecycleObserver}
    (complete : (finishObservers handled failure observers world).1 = true) :
    (finishObservers handled failure observers world).2.1 = observers := by
  induction observers generalizing world with
  | nil => rfl
  | cons observer rest induction =>
    rw [finishObservers] at complete ⊢
    cases finished : observer.finished handled.request handled.response failure world with
    | mk thrown after =>
      rw [finished] at complete
      cases thrown with
      | none =>
        dsimp only at complete ⊢
        rw [induction complete]
      | some error =>
        dsimp only at complete ⊢
        cases reported : reportFinish after.ambient observer.className error with
        | none =>
          rw [reported] at complete
          cases complete
        | some json =>
          rw [reported] at complete
          dsimp only at complete ⊢
          rw [induction complete]

theorem enterRequest_ok_iff : (∃ entered, enterRequest handled container = .ok entered) ↔
      container.currentScope handled.fiber = none := by
  rw [enterRequest, Container.beginScope]
  cases isScope : container.currentScope handled.fiber with
  | some scope => exact iff_of_false (by rintro ⟨_, ⟨⟩⟩) (by rintro ⟨⟩)
  | none =>
    simp only [ok_bind, Container.scopedInstance,
      Container.currentScope_replaceCurrentScope, if_true]
    exact ⟨fun _ => trivial, fun _ => ⟨_, rfl⟩⟩

theorem App.unwinds_of_unwindable (unwindable : app.Unwindable jsonText handled world) :
    app.Unwinds jsonText handled world := by
  obtain ⟨container, entered⟩ := enterRequest_ok_iff.mpr unwindable.idle
  refine ⟨container, entered, ?_⟩
  have complete := (finishObservers_complete_iff _).mpr (unwindable.reportable container entered)
  have finished := finishObservers_finished complete
  rw [App.handle, entered]
  dsimp only
  split
  · next stopped =>
      rw [stopped] at complete
      cases complete
  · next ended =>
      rw [ended] at finished
      exact
        { finished := finished
          ended := rfl
          scope := by rw [Container.currentScope_endScope, if_pos rfl]
          result := rfl }

theorem App.unwindable_of_unwinds (unwinds : app.Unwinds jsonText handled world) :
    app.Unwindable jsonText handled world := by
  obtain ⟨container, entered, unwound⟩ := unwinds
  refine ⟨enterRequest_ok_iff.mp ⟨_, entered⟩, ?_⟩
  intro other same
  cases entered.symm.trans same
  rw [← finishObservers_complete_iff]
  have ended := unwound.ended
  rw [App.handle, entered] at ended
  dsimp only at ended
  split at ended
  · cases ended
  · next complete => rw [complete]

theorem request_unwinds_iff (jsonText : Json → PhpString) (app : App)
    (handled : HandledRequest) (world : AppWorld) :
    app.Unwinds jsonText handled world ↔ app.Unwindable jsonText handled world :=
  ⟨App.unwindable_of_unwinds, App.unwinds_of_unwindable⟩

def quietAmbient : LogAmbient := ⟨0, .null, .null, asciiBytes "standalone"⟩

def failingObserver (message : PhpString) : LifecycleObserver where
  className := asciiBytes "Failing"
  starting _ world := (.ok (), world)
  finished _ _ _ world := (some ⟨asciiBytes "RuntimeException", message⟩, world)

def quietObserver : LifecycleObserver where
  className := asciiBytes "Quiet"
  starting _ world := (.ok (), world)
  finished _ _ _ world := (none, world)

def observedApp (observers : List LifecycleObserver) : App where
  observers := observers
  pipeline _ response world := (.ok response, world)
  errorHandler _ response world := (.ok (some response), world)

def getRoot : HandledRequest where
  fiber := none
  request :=
    { method := asciiBytes "GET"
      path := [0x2F]
      query := []
      headers := ∅
      body := []
      method_line := by decide
      path_line := by decide }
  requestObject := 0
  response := 1

def freshWorld : AppWorld where
  container := ⟨∅, ∅, ∅, none⟩
  responses _ := .initial
  ambient := quietAmbient

theorem plain_failure_unwinds :
    (observedApp [quietObserver, failingObserver (asciiBytes "gone")]).Unwinds
      (fun _ => []) getRoot freshWorld := by
  refine (request_unwinds_iff _ _ _ _).mpr ⟨rfl, ?_⟩
  intro container entered stage failed member
  rcases List.mem_singleton.mp member with rfl
  have texts : validUtf8 (asciiBytes "Failing") = true ∧
      validUtf8 (asciiBytes "RuntimeException") = true ∧ validUtf8 (asciiBytes "gone") = true ∧
      validUtf8 (asciiBytes "standalone") = true := by
    decide +kernel
  exact ⟨texts.1, texts.2.1, texts.2.2.1, ⟨rfl, rfl, texts.2.2.2⟩⟩

/-- A failure whose message is not UTF-8: the other observer is not finished and
the scope stays open. -/
theorem unreportable_failure_leaves_scope :
    ¬ (observedApp [quietObserver, failingObserver [0xFF]]).Unwinds
        (fun _ => []) getRoot freshWorld ∧
      (((observedApp [quietObserver, failingObserver [0xFF]]).handle (fun _ => []) getRoot
        freshWorld).world.container.currentScope none).isSome = true := by
  refine ⟨?_, by decide +kernel⟩
  rintro ⟨container, entered, unwound⟩
  have stopped : ((observedApp [quietObserver, failingObserver
      [0xFF]]).handle (fun _ => []) getRoot freshWorld).scopeEnded = false := by
    decide +kernel
  cases stopped.symm.trans unwound.ended

end Pam.Api
