import Pam.Foundation.Run
import Pam.Runtime.HttpDispatch

namespace Pam.Runtime.Environment

open Pam.Foundation

/-! The request environment of the PHP thread: superglobals, native headers and
native session, which `advanceHttpDispatch` saves at a suspension and restores
after it. -/

abbrev Entries := List (String × String)

inductive PhpValue where
  | array (entries : Entries)
  | other (text : String)
  deriving DecidableEq

def PhpValue.asArray : PhpValue → PhpValue
  | .array entries => .array entries
  | .other _ => .array []

def PhpValue.entries : PhpValue → Entries
  | .array entries => entries
  | .other _ => []

structure Superglobals where
  get : PhpValue
  post : PhpValue
  cookie : PhpValue
  files : PhpValue
  request : PhpValue
  server : PhpValue
  session : PhpValue
  deriving DecidableEq

def Superglobals.empty : Superglobals where
  get := .array []
  post := .array []
  cookie := .array []
  files := .array []
  request := .array []
  server := .array []
  session := .array []

/-- `session_status` and `session_id`; an active session has an id. -/
inductive NativeSession where
  | closed (id : String)
  | active (id : String) (named : id ≠ "")
  deriving DecidableEq

structure HttpEnvironment where
  globals : Superglobals
  /-- `headers_list` -/
  headers : List String
  /-- `http_response_code` -/
  statusCode : Nat
  session : NativeSession
  deriving DecidableEq

def HttpEnvironment.cleared : HttpEnvironment where
  globals := .empty
  headers := []
  statusCode := 200
  session := .closed ""

/-- The PHP thread; `sessions` is the session storage, which returns what was
last written for an id. -/
structure PhpProcess where
  environment : HttpEnvironment
  sessions : String → Entries

def PhpProcess.sessionWriteClose (php : PhpProcess) : PhpProcess :=
  match php.environment.session with
  | .closed _ => php
  | .active id _ =>
    { environment := { php.environment with session := .closed id }
      sessions := Function.update php.sessions id php.environment.globals.session.entries }

def PhpProcess.setSessionId (php : PhpProcess) (id : String) : PhpProcess :=
  match php.environment.session with
  | .closed _ => { php with environment := { php.environment with session := .closed id } }
  | .active _ _ => php

/-- What `session_start` makes of the header list: it sends the session cookie
and the headers of the cache limiter. -/
abbrev StartHeaders := String → List String → List String

def PhpProcess.sessionStart (startHeaders : StartHeaders) (php : PhpProcess)
    (id : String) (named : id ≠ "") : PhpProcess :=
  match php.environment.session with
  | .active _ _ => php
  | .closed _ => { php with environment := { php.environment with
        globals := { php.environment.globals with session := .array (php.sessions id) }
        headers := startHeaders id php.environment.headers
        session := .active id named } }

structure CapturedEnvironment where
  globals : Superglobals
  nativeHeaders : List String
  statusCode : Nat
  /-- `resumeSession` and `sessionId` -/
  session : NativeSession

def clearHttpEnvironment (php : PhpProcess) : PhpProcess :=
  let php := php.sessionWriteClose.setSessionId ""
  { php with environment := { php.environment with
      globals := .empty
      headers := []
      statusCode := 200 } }

def captureHttpEnvironment (php : PhpProcess) : CapturedEnvironment × PhpProcess :=
  let session := php.environment.session
  let php := php.sessionWriteClose
  ({ globals := { php.environment.globals with session := php.environment.globals.session.asArray }
     nativeHeaders := php.environment.headers
     statusCode := php.environment.statusCode
     session := session }, clearHttpEnvironment php)

def Superglobals.asArrays (globals : Superglobals) : Superglobals where
  get := globals.get.asArray
  post := globals.post.asArray
  cookie := globals.cookie.asArray
  files := globals.files.asArray
  request := globals.request.asArray
  server := globals.server.asArray
  session := globals.session.asArray

def restoreHttpEnvironment (startHeaders : StartHeaders) (php : PhpProcess)
    (captured : CapturedEnvironment) : PhpProcess :=
  let php := { php with environment := { php.environment with
      globals := captured.globals.asArrays
      headers := captured.nativeHeaders
      statusCode := captured.statusCode } }
  match captured.session with
  | .closed id => if id ≠ "" then php.setSessionId id else php
  | .active id named => (php.setSessionId id).sessionStart startHeaders id named

/-- `left` is no field of the source: the environment in which the code of the
dispatch last suspended, or that in which it is to start. -/
structure PendingHttpDispatch where
  fiber : FiberState
  captured : Option CapturedEnvironment
  left : HttpEnvironment

/-- What the code of a dispatch does once it has control: `leaves` is the
environment it leaves behind, `writes` what it stored for session ids. A fiber
that suspends through anything but an operation of Pam stalls, and goes on with
an exception thrown into it. `failure` is the error of what follows: the
suspension as JSON, the error response or the merged output. -/
inductive FiberRun where
  | suspends (leaves : HttpEnvironment) (writes : List (String × Entries)) (failure : Option String)
  | stalls (leaves : HttpEnvironment) (writes : List (String × Entries)) (next : FiberRun)
  | throws (leaves : HttpEnvironment) (writes : List (String × Entries)) (failure : Option String)
  /-- `executeHttp` leaves the superglobals and the session cleared. -/
  | returns (headers : List String) (statusCode : Nat)
      (writes : List (String × Entries)) (failure : Option String)

def PhpProcess.store (php : PhpProcess) (writes : List (String × Entries)) : String → Entries :=
  writes.foldl (fun sessions write => Function.update sessions write.1 write.2) php.sessions

def resumedProcess (startHeaders : StartHeaders) (php : PhpProcess)
    (captured : Option CapturedEnvironment) : PhpProcess :=
  match captured with
  | none => php
  | some captured => restoreHttpEnvironment startHeaders php captured

/-- The end of `advanceHttpDispatch`, which an error leaves before the dispatch
is forgotten and the environment cleared. -/
def completeHttpDispatch (captured : Option CapturedEnvironment) (ended : PhpProcess) :
    Option String → PhpProcess × Option PendingHttpDispatch
  | none => (clearHttpEnvironment ended, none)
  | some _ => (ended, some ⟨.terminated, captured, ended.environment⟩)

def advanceHttpDispatch (startHeaders : StartHeaders) (php : PhpProcess)
    (captured : Option CapturedEnvironment) : FiberRun → PhpProcess × Option PendingHttpDispatch
  | .suspends leaves writes _ =>
    let php := resumedProcess startHeaders php captured
    let (captured, php) := captureHttpEnvironment
      { environment := leaves, sessions := php.store writes }
    (php, some ⟨.suspended, some captured, leaves⟩)
  | .stalls leaves writes next =>
    let php := resumedProcess startHeaders php captured
    -- Nothing is captured: the next call restores what it did before.
    advanceHttpDispatch startHeaders
      { environment := leaves, sessions := php.store writes } captured next
  | .throws leaves writes failure =>
    let php := resumedProcess startHeaders php captured
    completeHttpDispatch captured { environment := leaves, sessions := php.store writes } failure
  | .returns headers statusCode writes failure =>
    let php := resumedProcess startHeaders php captured
    completeHttpDispatch captured {
      environment := { HttpEnvironment.cleared with headers := headers, statusCode := statusCode }
      sessions := php.store writes } failure

structure EnvironmentState where
  php : PhpProcess
  httpDispatches : String → Option PendingHttpDispatch

def EnvironmentState.initial : EnvironmentState where
  php := { environment := .cleared, sessions := fun _ => [] }
  httpDispatches := fun _ => none

inductive EnvironmentLabel where
  | begin (requestId : String) (run : FiberRun)
  | resume (requestId : String) (invalid : Option String) (run : FiberRun)
  | cancel (requestId : String) (run : FiberRun)

def PhpProcess.freshHeaders (php : PhpProcess) : PhpProcess := { php with
    environment := { php.environment with headers := [], statusCode := 200 } }

def EnvironmentState.runs (state : EnvironmentState) :
    EnvironmentLabel → Option (String × PhpProcess × PendingHttpDispatch)
  | .begin requestId _ =>
    if requestId = "" ∨ (state.httpDispatches requestId).isSome then none
    else some (requestId, state.php.freshHeaders, ⟨.unstarted, none, .cleared⟩)
  | .resume requestId invalid _ =>
    match state.httpDispatches requestId, invalid with
    | some dispatch, none =>
      if dispatch.fiber = .suspended then some (requestId, state.php.freshHeaders, dispatch)
      else none
    | _, _ => none
  | .cancel requestId _ =>
    match state.httpDispatches requestId with
    | some dispatch =>
      if dispatch.fiber = .suspended then some (requestId, state.php, dispatch) else none
    | none => none

def EnvironmentLabel.run : EnvironmentLabel → FiberRun
  | .begin _ run => run
  | .resume _ _ run => run
  | .cancel _ run => run

def EnvironmentState.refused (state : EnvironmentState) : EnvironmentLabel → EnvironmentState
  | .begin _ _ => { state with php := state.php.freshHeaders }
  | .resume _ _ _ => { state with php := state.php.freshHeaders }
  | .cancel requestId _ =>
    match state.httpDispatches requestId with
    | none => state
    | some _ =>
      { php := clearHttpEnvironment state.php
        httpDispatches := Function.update state.httpDispatches requestId none }

def environmentNext (startHeaders : StartHeaders) (state : EnvironmentState)
    (label : EnvironmentLabel) : Option EnvironmentState :=
  match state.runs label with
  | none => some (state.refused label)
  | some (requestId, php, dispatch) =>
    let (php, pending) := advanceHttpDispatch startHeaders php dispatch.captured label.run
    some {
      php := php
      httpDispatches := Function.update state.httpDispatches requestId pending }

def environmentMachine (startHeaders : StartHeaders) :
    Machine EnvironmentState EnvironmentLabel where
  start := .initial
  next := environmentNext startHeaders

/-- The code that gets control finds the environment that it left, and the
environment is cleared when the call is over. -/
def Isolated (startHeaders : StartHeaders) (state : EnvironmentState)
    (label : EnvironmentLabel) (target : EnvironmentState) : Prop :=
  (∀ running ∈ state.runs label, (resumedProcess startHeaders running.2.1
      running.2.2.captured).environment = running.2.2.left) ∧ target.php.environment = .cleared

/-- What is restored for a suspension in `left` is `left`: the superglobals were
arrays, and an active session holds what is stored for its id and starts without
a change to the headers. -/
def Restorable (startHeaders : StartHeaders) (sessions : String → Entries)
    (left : HttpEnvironment) : Prop :=
  left.globals.asArrays = left.globals ∧ match left.session with
    | .closed _ => True
    | .active id _ =>
      left.globals.session = .array (sessions id) ∧ startHeaders id left.headers = left.headers

def FiberRun.EndsCleared : FiberRun → Prop
  | .suspends _ _ _ => True
  | .stalls _ _ next => next.EndsCleared
  | .throws leaves _ failure => failure = none ∨ leaves = .cleared
  | .returns headers statusCode _ failure => failure = none ∨ (headers = [] ∧ statusCode = 200)

/-- A call goes on with a suspended dispatch only while its environment can be
restored, and every run ends cleared. -/
def keepsEnvironment (startHeaders : StartHeaders) (state : EnvironmentState)
    (label : EnvironmentLabel) : Prop :=
  ∀ running ∈ state.runs label, (running.2.2.fiber = .suspended →
      Restorable startHeaders state.php.sessions running.2.2.left) ∧ label.run.EndsCleared

variable (php : PhpProcess)

@[simp] theorem clearHttpEnvironment_environment :
    (clearHttpEnvironment php).environment = .cleared := by
  cases session : php.environment.session with
  | closed id | active id named => simp [clearHttpEnvironment, PhpProcess.sessionWriteClose,
      PhpProcess.setSessionId, session, HttpEnvironment.cleared]

def HttpEnvironment.captured (environment : HttpEnvironment) : CapturedEnvironment where
  globals := { environment.globals with session := environment.globals.session.asArray }
  nativeHeaders := environment.headers
  statusCode := environment.statusCode
  session := environment.session

theorem captureHttpEnvironment_captured :
    (captureHttpEnvironment php).1 = php.environment.captured := by
  cases session : php.environment.session with
  | closed id | active id named =>
    simp [captureHttpEnvironment, PhpProcess.sessionWriteClose, session, HttpEnvironment.captured]

@[simp] theorem captureHttpEnvironment_environment :
    (captureHttpEnvironment php).2.environment = .cleared :=
  clearHttpEnvironment_environment php.sessionWriteClose

@[simp] theorem PhpValue.asArray_asArray (value : PhpValue) :
    value.asArray.asArray = value.asArray := by
  cases value <;> rfl

variable (startHeaders : StartHeaders)

theorem restore_captured_iff (php : PhpProcess) (cleared : php.environment = .cleared) :
    (restoreHttpEnvironment startHeaders php left.captured).environment = left ↔
      Restorable startHeaders php.sessions left := by
  obtain ⟨globals, headers, statusCode, session⟩ := left
  cases session with
  | closed id =>
    by_cases named : id = ""
    · simp [restoreHttpEnvironment, HttpEnvironment.captured, Restorable,
        named, cleared, HttpEnvironment.cleared, Superglobals.asArrays]
    simp [restoreHttpEnvironment, HttpEnvironment.captured, Restorable,
      named, cleared, HttpEnvironment.cleared, Superglobals.asArrays, PhpProcess.setSessionId]
  | active id named =>
    obtain ⟨get, post, cookie, files, request, server, session⟩ := globals
    simp only [restoreHttpEnvironment, HttpEnvironment.captured, Restorable,
      cleared, HttpEnvironment.cleared, Superglobals.asArrays,
      PhpProcess.setSessionId, PhpProcess.sessionStart,
      HttpEnvironment.mk.injEq, Superglobals.mk.injEq, and_true]
    constructor
    · rintro ⟨⟨get, post, cookie, files, request, server, rfl⟩, headers⟩
      exact ⟨⟨get, post, cookie, files, request, server, rfl⟩, rfl, headers⟩
    · rintro ⟨⟨get, post, cookie, files, request, server, _⟩, rfl, headers⟩
      exact ⟨⟨get, post, cookie, files, request, server, rfl⟩, headers⟩

theorem advanceHttpDispatch_environment (php : PhpProcess) (captured : Option CapturedEnvironment) :
    (advanceHttpDispatch startHeaders php captured run).1.environment = .cleared ↔
      run.EndsCleared := by
  induction run generalizing php with
  | suspends leaves writes failure => simp [advanceHttpDispatch, FiberRun.EndsCleared]
  | stalls leaves writes next induction => exact induction _
  | throws leaves writes failure | returns headers statusCode writes failure =>
    cases failure with
    | none => simp [advanceHttpDispatch, completeHttpDispatch, FiberRun.EndsCleared]
    | some message =>
      simp [advanceHttpDispatch, completeHttpDispatch, FiberRun.EndsCleared,
        HttpEnvironment.cleared]

theorem advanceHttpDispatch_captured (php : PhpProcess)
    (pending : (advanceHttpDispatch startHeaders php captured run).2 =
      some dispatch) (suspended : dispatch.fiber = .suspended) :
    dispatch.captured = some dispatch.left.captured := by
  induction run generalizing php with
  | suspends leaves writes failure =>
    cases pending
    exact congrArg some (captureHttpEnvironment_captured _)
  | stalls leaves writes next induction => exact induction _ pending
  | throws leaves writes failure | returns headers statusCode writes failure =>
    cases failure with
    | none => cases pending
    | some message =>
      cases pending
      cases suspended

structure Parked (state : EnvironmentState) : Prop where
  cleared : state.php.environment = .cleared
  captured : ∀ requestId dispatch, state.httpDispatches requestId = some dispatch →
    dispatch.fiber = .suspended → dispatch.captured = some dispatch.left.captured

theorem Parked.initial : Parked .initial where
  cleared := rfl
  captured := by
    intro requestId dispatch found
    cases found

variable {php : PhpProcess}

theorem Parked.update (parked : Parked state)
    (cleared : php.environment = .cleared) (requestId : String)
    (captured : ∀ dispatch, entry = some dispatch → dispatch.fiber = .suspended →
      dispatch.captured = some dispatch.left.captured) : Parked {
      php := php
      httpDispatches := Function.update state.httpDispatches requestId entry } where
  cleared := cleared
  captured := (Function.forall_update_iff state.httpDispatches fun _ stored =>
    ∀ dispatch, stored = some dispatch → dispatch.fiber = .suspended →
      dispatch.captured = some dispatch.left.captured).mpr
        ⟨captured, fun other _ => parked.captured other⟩

@[simp] theorem PhpProcess.freshHeaders_of_cleared
    (cleared : php.environment = .cleared) : php.freshHeaders = php := by
  obtain ⟨environment, sessions⟩ := php
  cases cleared
  rfl

section

variable (parked : Parked state) (running : state.runs label = some (requestId, php, dispatch))
include parked running

theorem runs_cases :
    php = state.php ∧ (dispatch = ⟨.unstarted, none, .cleared⟩ ∨ (dispatch.fiber = .suspended ∧
          dispatch.captured = some dispatch.left.captured)) := by
  have fresh := PhpProcess.freshHeaders_of_cleared parked.cleared
  cases label with
  | begin identifier run =>
    simp only [EnvironmentState.runs] at running
    split at running
    · cases running
    · simp only [Option.some.injEq, Prod.mk.injEq] at running
      exact ⟨running.2.1 ▸ fresh, .inl running.2.2.symm⟩
  | resume identifier invalid run =>
    simp only [EnvironmentState.runs] at running
    split at running
    case h_1 stored invalidity found =>
      split at running
      case isTrue suspended =>
        obtain ⟨rfl, rfl, rfl⟩ := running
        exact ⟨fresh, .inr ⟨suspended, parked.captured _ _ found suspended⟩⟩
      case isFalse => cases running
    case h_2 => cases running
  | cancel identifier run =>
    simp only [EnvironmentState.runs] at running
    split at running
    case h_1 stored found =>
      split at running
      case isTrue suspended =>
        obtain ⟨rfl, rfl, rfl⟩ := running
        exact ⟨rfl, .inr ⟨suspended, parked.captured _ _ found suspended⟩⟩
      case isFalse => cases running
    case h_2 => cases running

theorem resumed_environment_iff :
    (resumedProcess startHeaders php dispatch.captured).environment = dispatch.left ↔
      (dispatch.fiber = .suspended → Restorable startHeaders state.php.sessions dispatch.left) := by
  obtain ⟨rfl, fresh | ⟨suspended, captured⟩⟩ := runs_cases parked running
  · subst fresh
    simpa [resumedProcess] using parked.cleared
  rw [captured, resumedProcess, restore_captured_iff startHeaders state.php parked.cleared]
  simp [suspended]

end

theorem Parked.refused (parked : Parked state) (label : EnvironmentLabel) :
    Parked (state.refused label) := by
  have fresh := PhpProcess.freshHeaders_of_cleared parked.cleared
  cases label with
  | begin requestId run => simpa [EnvironmentState.refused, fresh] using parked
  | resume requestId invalid run => simpa [EnvironmentState.refused, fresh] using parked
  | cancel requestId run =>
    simp only [EnvironmentState.refused]
    split
    · exact parked
    · exact parked.update (clearHttpEnvironment_environment _) requestId (by simp)

theorem environmentNext_keeps (parked : Parked state)
    (guarded : keepsEnvironment startHeaders state label)
    (step : environmentNext startHeaders state label = some target) :
    Parked target ∧ Isolated startHeaders state label target := by
  simp only [environmentNext] at step
  split at step
  case h_1 idle =>
    cases step
    refine ⟨parked.refused label, ?_, (parked.refused label).cleared⟩
    simp [idle]
  case h_2 requestId php dispatch running =>
    cases step
    obtain ⟨restorable, endsCleared⟩ := guarded _ running
    have cleared := (advanceHttpDispatch_environment startHeaders php
      dispatch.captured).mpr endsCleared
    refine ⟨parked.update cleared requestId ?_, ?_, cleared⟩
    · intro pending found suspended
      exact advanceHttpDispatch_captured startHeaders php found suspended
    · simpa [running] using (resumed_environment_iff startHeaders parked running).mpr restorable

theorem environmentNext_breaks (parked : Parked state)
    (unguarded : ¬ keepsEnvironment startHeaders state label)
    (step : environmentNext startHeaders state label = some target) :
    ¬ Isolated startHeaders state label target := by
  rintro ⟨restored, cleared⟩
  apply unguarded
  rintro ⟨requestId, php, dispatch⟩ running
  replace running : state.runs label = some (requestId, php, dispatch) := running
  simp only [environmentNext, running] at step
  cases step
  exact ⟨(resumed_environment_iff startHeaders parked running).mp (restored _ running),
    (advanceHttpDispatch_environment startHeaders php dispatch.captured).mp cleared⟩

theorem isolated_iff_keepsEnvironment (startHeaders : StartHeaders)
    (labels : List EnvironmentLabel) : (∀ transition ∈ (environmentMachine startHeaders).transitions
        (environmentMachine startHeaders).start labels,
      Isolated startHeaders transition.source transition.label transition.target) ↔
      ∀ transition ∈ (environmentMachine startHeaders).transitions
          (environmentMachine startHeaders).start labels,
        keepsEnvironment startHeaders transition.source transition.label :=
  (environmentMachine startHeaders).transitions_iff_guarded Parked
    (keepsEnvironment startHeaders) (Isolated startHeaders)
    (environmentNext_keeps startHeaders) (environmentNext_breaks startHeaders) .initial labels

/-! Two requests of one session: the first suspends with the session open, while
the second stores a new value. -/

def cartEnvironment (entries : Entries) : HttpEnvironment := { HttpEnvironment.cleared with
    globals := { Superglobals.empty with session := .array entries }
    session := .active "visitor" (by decide) }

def sharedSession : List EnvironmentLabel :=
  [.begin "first" (.suspends (cartEnvironment [("cart", "book")]) [] none),
    .begin "second" (.returns [] 200 [("visitor", [("cart", "empty")])] none),
    .resume "first" none (.returns [] 200 [] none)]

instance (startHeaders : StartHeaders) (state : EnvironmentState)
    (label : EnvironmentLabel) (target : EnvironmentState) :
    Decidable (Isolated startHeaders state label target) := by
  unfold Isolated
  infer_instance

/-- The first request finds the cart that the second one wrote. -/
theorem session_of_second_request_seen_by_first : ∃ transition ∈
        (environmentMachine fun _ headers => headers).transitions
          (environmentMachine fun _ headers => headers).start sharedSession,
      (∃ running ∈ transition.source.runs transition.label,
        running.2.2.left = cartEnvironment [("cart", "book")] ∧
        (resumedProcess (fun _ headers => headers) running.2.1
          running.2.2.captured).environment = cartEnvironment [("cart", "empty")]) ∧
      ¬ Isolated (fun _ headers => headers) transition.source
        transition.label transition.target := by
  decide +kernel

end Pam.Runtime.Environment
