import Pam.Foundation.Failure
import Pam.Runtime.Telemetry

namespace Pam.Runtime

open Pam.Foundation Pam.Protocol List

/-! `RequestScope`: what is deferred to the end of a request, and what the end
leaves behind. -/

inductive ScopeState where
  | active
  | closing
  | closed
  deriving DecidableEq

structure CleanupError where
  className : PhpString
  message : PhpString
  ambient : LogAmbient

/-- A callback: the memory threshold with which it calls `finish` from inside, if
it does, and what it throws in the end. -/
structure Cleanup where
  name : Nat
  finishes : Option Int
  error : Option CleanupError

inductive ScopeFailure where
  | invalidArgument (message : String)
  | logic (message : String)

structure RequestScope where
  id : PhpString
  sampled : Bool
  cleanups : List Cleanup
  values : Table PhpString Nat
  state : ScopeState
  cleanupFailures : Nat
  id_nonempty : id ≠ []

structure LeakDetector where
  activeScopes : Nat
  sampledScopes : Nat
  suspectedLeaks : Nat
  cleanupFailures : Nat
  lastMemoryDelta : Int
  lastResourceDelta : Int

/-- `context` is the scope that the context of the fiber has. -/
structure ScopeWorld where
  context : Option RequestScope
  detector : LeakDetector

/-- What is managed, with what closing it comes to. -/
inductive ManagedResource where
  | stream (close : Cleanup)
  | closable (close : Cleanup)
  | disposable (dispose : Cleanup)
  | other

inductive ScopeCall where
  | set (key : PhpString) (value : Nat)
  | forget (key : PhpString)
  | defer (cleanup : Cleanup)
  | manage (resource : ManagedResource) (cleanup : Option Cleanup)

namespace LeakDetector

def scopeOpened (detector : LeakDetector) : LeakDetector :=
  { detector with activeScopes := detector.activeScopes + 1 }

structure Measured where
  memoryDelta : Int
  resourceDelta : Int
  ambient : LogAmbient

/-- The second result says whether the report of a leak throws. -/
def scopeClosed (detector : LeakDetector) (requestId : PhpString)
    (sampled : Bool) (memoryThresholdBytes : Int) (cleanupFailures : Nat)
    (measured : Measured) : LeakDetector × Bool :=
  let detector := { detector with
      activeScopes := detector.activeScopes - 1
      cleanupFailures := detector.cleanupFailures + cleanupFailures }
  if sampled = false then (detector, false)
  else
    let detector := { detector with
        sampledScopes := detector.sampledScopes + 1
        lastMemoryDelta := measured.memoryDelta
        lastResourceDelta := measured.resourceDelta }
    if measured.memoryDelta ≤ memoryThresholdBytes ∧
        measured.resourceDelta ≤ 0 ∧ cleanupFailures = 0 then
      (detector, false)
    else
      ({ detector with suspectedLeaks := detector.suspectedLeaks + 1 },
        (log measured.ambient (asciiBytes "warning") (asciiBytes "Potential request resource leak")
          [(asciiBytes "requestId", .text requestId),
            (asciiBytes "memoryDeltaBytes", .number measured.memoryDelta),
            (asciiBytes "resourceDelta", .number measured.resourceDelta),
            (asciiBytes "cleanupFailures", .number cleanupFailures)]).isNone)

theorem activeScopes_scopeClosed (detector : LeakDetector) (cleanupFailures : Nat) :
    (detector.scopeClosed requestId sampled memoryThresholdBytes
      cleanupFailures measured).1.activeScopes = detector.activeScopes - 1 := by
  rw [scopeClosed]
  split
  · rfl
  · split <;> rfl

end LeakDetector

namespace RequestScope

def assertActive (scope : RequestScope) : Except ScopeFailure Unit := if scope.state = .active then
    .ok ()
  else .error (.logic "The request scope is no longer active.")

def set (scope : RequestScope) (key : PhpString) (value : Nat) :
    Except ScopeFailure RequestScope := do
  scope.assertActive
  if key = [] then .error (.invalidArgument "Request scope keys cannot be empty.")
  else return { scope with values := scope.values.assign key value }

def forget (scope : RequestScope) (key : PhpString) : RequestScope :=
  { scope with values := scope.values.erase key }

def defer (scope : RequestScope) (cleanup : Cleanup) : Except ScopeFailure RequestScope := do
  scope.assertActive
  return { scope with cleanups := scope.cleanups ++ [cleanup] }

def defaultCleanup : ManagedResource → Except ScopeFailure Cleanup
  | .stream close | .closable close => .ok close
  | .disposable dispose => .ok dispose
  | .other => .error (.invalidArgument
      "Managed values require a cleanup callback, close(), or dispose().")

def manage (scope : RequestScope) (resource : ManagedResource)
    (cleanup : Option Cleanup) : Except ScopeFailure RequestScope := do
  scope.assertActive
  match cleanup with
  | some cleanup => scope.defer cleanup
  | none =>
    let cleanup ← defaultCleanup resource
    scope.defer cleanup

def perform (scope : RequestScope) (call : ScopeCall) : RequestScope := match call with
  | .set key value => (scope.set key value).toOption.getD scope
  | .forget key => scope.forget key
  | .defer cleanup => (scope.defer cleanup).toOption.getD scope
  | .manage resource cleanup => (scope.manage resource cleanup).toOption.getD scope

def begin (world : ScopeWorld) (id : PhpString) (sampleLeaks : Bool) :
    Except ScopeFailure (RequestScope × ScopeWorld) :=
  if nonempty : id = [] then .error (.invalidArgument "Request scope ID cannot be empty.")
  else
    match world.context with
    | some _ => .error (.logic "A request scope is already active in this Fiber.")
    | none =>
      let scope : RequestScope :=
        { id := id
          sampled := sampleLeaks
          cleanups := []
          values := ∅
          state := .active
          cleanupFailures := 0
          id_nonempty := nonempty }
      .ok (scope, ⟨some scope, world.detector.scopeOpened⟩)

def report (id : PhpString) (error : CleanupError) : Option Json :=
  log error.ambient (asciiBytes "error") (asciiBytes "Request cleanup failed")
    [(asciiBytes "requestId", .text id), (asciiBytes "exception", .text error.className),
      (asciiBytes "message", .text error.message)]

/-- A scope while it is closed: the cleanups that are left, the last one first,
and the history of those that ran. -/
structure Unwinding where
  cleanups : List Cleanup
  failures : Nat
  closed : Bool
  inContext : Bool
  detector : LeakDetector
  closings : Nat
  executed : List Cleanup

variable (id : PhpString) (sampled : Bool) (measured : Nat → LeakDetector.Measured)

def Unwinding.complete (memoryThresholdBytes : Int) (unwinding : Unwinding) :
    Unwinding × Bool :=
  let (detector, threw) := unwinding.detector.scopeClosed id sampled memoryThresholdBytes
    unwinding.failures (measured unwinding.closings)
  ({ unwinding with
      closed := true
      detector := detector
      closings := unwinding.closings + 1 }, threw)

def Unwinding.pop (unwinding : Unwinding) (cleanup : Cleanup) (rest : List Cleanup) :
    Unwinding :=
  { unwinding with
    cleanups := rest
    executed := unwinding.executed ++ [cleanup] }

/-- The code of a cleanup. Where it calls `finish` and the context still has the
scope, the rest of the cleanups run in a loop of that call. -/
def invoke (cleanup : Cleanup) (close : Int → Unwinding → Unwinding × Bool)
    (unwinding : Unwinding) : Unwinding :=
  match cleanup.finishes with
  | none => unwinding
  | some memoryThresholdBytes =>
    if unwinding.inContext then
      { (close memoryThresholdBytes unwinding).1 with inContext := false }
    else unwinding

def handle (cleanup : Cleanup) (next : Unwinding → Unwinding × Bool)
    (unwinding : Unwinding) : Unwinding × Bool :=
  match cleanup.error with
  | none => next unwinding
  | some error =>
    let failed := { unwinding with failures := unwinding.failures + 1 }
    if (report id error).isSome then next failed else (failed, true)

/-- The loop of `close`, for at least as many turns as there are cleanups. -/
def unwind : Nat → Int → Unwinding → Unwinding × Bool
  | 0, memoryThresholdBytes, unwinding =>
    unwinding.complete id sampled measured memoryThresholdBytes
  | turns + 1, memoryThresholdBytes, unwinding =>
    match unwinding.cleanups with
    | [] => unwinding.complete id sampled measured memoryThresholdBytes
    | cleanup :: rest =>
      handle id cleanup (unwind turns memoryThresholdBytes)
        (invoke cleanup (unwind turns) (unwinding.pop cleanup rest))

structure Finished where
  scope : RequestScope
  executed : List Cleanup
  threw : Bool
  world : ScopeWorld

def unwinding (scope : RequestScope) (detector : LeakDetector) : Unwinding where
  cleanups := scope.cleanups.reverse
  failures := scope.cleanupFailures
  closed := false
  inContext := true
  detector := detector
  closings := 0
  executed := []

def close (scope : RequestScope) (detector : LeakDetector)
    (memoryThresholdBytes : Int) (measured : Nat → LeakDetector.Measured) : Finished :=
  if scope.state = .closed then ⟨scope, [], false, ⟨some scope, detector⟩⟩
  else
    let (unwound, threw) := unwind scope.id scope.sampled measured scope.cleanups.length
      memoryThresholdBytes (scope.unwinding detector)
    let scope := { scope with
        cleanups := unwound.cleanups.reverse
        values := if unwound.closed then ∅ else scope.values
        state := if unwound.closed then .closed else .closing
        cleanupFailures := unwound.failures }
    ⟨scope, unwound.executed, threw, ⟨some scope, unwound.detector⟩⟩

def finish (scope : RequestScope) (detector : LeakDetector)
    (memoryThresholdBytes : Int) (measured : Nat → LeakDetector.Measured) : Finished :=
  let finished := scope.close detector memoryThresholdBytes measured
  { finished with world := { finished.world with context := none } }

end RequestScope

/-- Every cleanup ran once, the last one first, and nothing of the scope is
left. -/
structure CleanupComplete (registered : List Cleanup) (activeScopes : Nat)
    (finished : RequestScope.Finished) : Prop where
  executed : finished.executed = registered.reverse
  state : finished.scope.state = .closed
  values : finished.scope.values = ∅
  context : finished.world.context = none
  activeScopes : finished.world.detector.activeScopes = activeScopes

structure Reportable (id : PhpString) (error : CleanupError) : Prop where
  id : validUtf8 id = true
  className : validUtf8 error.className = true
  message : validUtf8 error.message = true
  ambient : error.ambient.Encodable

theorem report_isSome_iff (id : PhpString) (error : CleanupError) :
    (RequestScope.report id error).isSome = true ↔ Reportable id error := by
  have texts : validUtf8 (strtolower (asciiBytes "error")) = true ∧
      validUtf8 (asciiBytes "Request cleanup failed") = true ∧
      0x7B ∉ asciiBytes "Request cleanup failed" ∧ validUtf8 (asciiBytes "requestId") = true ∧
      validUtf8 (asciiBytes "exception") = true ∧ validUtf8 (asciiBytes "message") = true := by
    decide +kernel
  obtain ⟨level, message, plain, isId, isException, isMessage⟩ := texts
  rw [RequestScope.report, log_isSome_iff level message plain]
  simp only [forall_mem_cons, isId, isException, isMessage, true_and]
  constructor
  · rintro ⟨ambient, id, className, message, _⟩
    exact ⟨id, className, message, ambient⟩
  intro reportable
  exact ⟨reportable.ambient, reportable.id, reportable.className,
    reportable.message, forall_mem_nil _⟩

instance (id : PhpString) (error : CleanupError) : Decidable (Reportable id error) :=
  decidable_of_iff _ (report_isSome_iff id error)

def Cleanup.unreported (id : PhpString) (cleanup : Cleanup) : Bool :=
  cleanup.error.any fun error => !decide (Reportable id error)

namespace RequestScope

/-- The calls of `finish` from inside while the context has the scope, in the
order of execution: a failure that is not reported ends the first loop, and the
end of a loop takes the scope out of the context. -/
def nestedLoops (id : PhpString) : List Cleanup → Nat
  | [] => 0
  | cleanup :: rest =>
    if cleanup.finishes.isSome then nestedLoops id rest + 1
    else if cleanup.unreported id then 0
    else nestedLoops id rest

variable (id : PhpString) (sampled : Bool) (measured : Nat → LeakDetector.Measured)

structure Unwound (before after : Unwinding) (unreported nested : Nat) : Prop where
  order : after.executed ++ after.cleanups = before.executed ++ before.cleanups
  shorter : after.cleanups.length ≤ before.cleanups.length
  left : after.cleanups.countP (Cleanup.unreported id) = unreported - (nested + 1)
  done : unreported ≤ nested → after.cleanups = []
  closed : after.closed = true ↔ before.closed = true ∨ unreported ≤ nested
  activeScopes : after.detector.activeScopes =
    before.detector.activeScopes - (nested + 1 - unreported)

theorem Unwinding.complete_unwound (empty : before.cleanups = []) :
    Unwound id before (before.complete id sampled measured threshold).1 0 0 where
  order := rfl
  shorter := Nat.le_refl _
  left := by rw [show (before.complete ..).1.cleanups = [] from empty]; rfl
  done _ := empty
  closed := iff_of_true rfl (.inr (Nat.le_refl 0))
  activeScopes := LeakDetector.activeScopes_scopeClosed ..

variable {id} {sampled} {measured} {before middle after : Unwinding} {cleanup : Cleanup}

theorem Unwound.of_pop (isCleanups : before.cleanups = cleanup :: rest)
    (unwound : Unwound id (before.pop cleanup rest) after unreported nested) :
    Unwound id before after unreported nested where
  order := by
    rw [unwound.order, isCleanups, Unwinding.pop, append_assoc]
    rfl
  shorter := by
    rw [isCleanups]
    exact Nat.le_succ_of_le unwound.shorter
  left := unwound.left
  done := unwound.done
  closed := unwound.closed
  activeScopes := unwound.activeScopes

/-- The loop around one that has ended goes on with what is left. -/
theorem Unwound.resumed (inner : Unwound id before middle unreported nested)
    (outer : Unwound id { middle with inContext := false, failures := failures } after
      (unreported - (nested + 1)) 0) : Unwound id before after unreported (nested + 1) where
  order := outer.order.trans inner.order
  shorter := Nat.le_trans outer.shorter inner.shorter
  left := by
    rw [outer.left]
    omega
  done few := outer.done (by omega)
  closed := by
    have ended : unreported ≤ nested ∨ unreported - (nested + 1) ≤ 0 ↔ unreported ≤ nested + 1 := by
      omega
    rw [outer.closed, inner.closed, or_assoc, ended]
  activeScopes := by
    rw [outer.activeScopes, inner.activeScopes]
    omega

theorem Unwound.stopped (inner : Unwound id before middle unreported nested) :
    Unwound id before { middle with inContext := false, failures := failures }
      (unreported + 1) (nested + 1) where
  order := inner.order
  shorter := inner.shorter
  left := by
    rw [inner.left]
    omega
  done few := inner.done (by omega)
  closed := by rw [inner.closed, Nat.add_le_add_iff_right]
  activeScopes := by
    rw [inner.activeScopes]
    omega

/-- The report of a failure is written and the loop goes on, or it throws and
ends the loop. -/
theorem Unwound.handle {next : Unwinding → Unwinding × Bool}
    (resumed : cleanup.unreported id = false → ∀ failures,
      Unwound id before (next { middle with failures := failures }).1 unreported nested)
    (stopped : cleanup.unreported id = true → ∀ failures,
      Unwound id before { middle with failures := failures } unreported nested) :
    Unwound id before (handle id cleanup next middle).1 unreported nested := by
  rw [RequestScope.handle]
  cases isError : cleanup.error with
  | none => exact resumed (by rw [Cleanup.unreported, isError]; rfl) middle.failures
  | some error =>
    have reported := report_isSome_iff id error
    by_cases reportable : Reportable id error
    · simp only [reported.mpr reportable, if_true]
      exact resumed (by simp [Cleanup.unreported, isError, reportable]) _
    · simp only [reported.not.mpr reportable]
      exact stopped (by simp [Cleanup.unreported, isError, reportable]) _

/-- Each report that throws ends one loop, and each call of `finish` from inside
has begun one, up to the end of the first. -/
theorem unwind_unwound (enough : before.cleanups.length ≤ turns) :
    Unwound id before (unwind id sampled measured turns threshold before).1
      (before.cleanups.countP (Cleanup.unreported id))
      (if before.inContext then nestedLoops id before.cleanups else 0) := by
  induction turns generalizing before threshold with
  | zero =>
    have empty := eq_nil_of_length_eq_zero (Nat.le_zero.mp enough)
    have complete := @Unwinding.complete_unwound id sampled measured before threshold empty
    simpa [unwind, empty, nestedLoops] using complete
  | succ turns induction =>
    rw [unwind]
    split
    next empty =>
      have complete := @Unwinding.complete_unwound id sampled measured before threshold empty
      simpa [empty, nestedLoops] using complete
    next cleanup rest isCleanups =>
    have short : rest.length ≤ turns := by simpa [isCleanups] using enough
    apply Unwound.of_pop isCleanups
    rw [isCleanups, countP_cons, nestedLoops]
    have later := fun failures (called : Unwinding) (fewer : called.cleanups.length ≤ turns) =>
      @induction { called with failures := failures } threshold fewer
    have plain : Unwound id (before.pop cleanup rest)
        (handle id cleanup (unwind id sampled measured turns threshold)
          (before.pop cleanup rest)).1
        (rest.countP (Cleanup.unreported id) + if cleanup.unreported id then 1 else 0)
        (if cleanup.unreported id then 0
          else if before.inContext then nestedLoops id rest else 0) := by
      apply Unwound.handle
      · intro reported failures
        obtain ⟨order, shorter, left, done, closed, active⟩ :=
          later failures (before.pop cleanup rest) short
        rw [reported]
        exact ⟨order, shorter, left, done, closed, active⟩
      · intro unreported failures
        simp only [unreported]
        exact ⟨rfl, Nat.le_refl _, rfl, nofun, by simp, by simp⟩
    cases finishes : cleanup.finishes with
    | none =>
      rw [invoke, finishes]
      convert plain using 1
      cases before.inContext <;> simp
    | some inner =>
      rw [invoke, finishes]
      cases inContext : before.inContext with
      | false =>
        simp only [Unwinding.pop, inContext] at plain ⊢
        simpa using plain
      | true =>
        have inside := @induction (before.pop cleanup rest) inner short
        simp only [Unwinding.pop, inContext, if_true] at inside ⊢
        apply Unwound.handle
        · intro reported failures
          have outer := later failures { (unwind id sampled measured turns inner _).1 with
            inContext := false } (Nat.le_trans inside.shorter short)
          simp only [inside.left] at outer
          simpa [reported] using inside.resumed outer
        · intro unreported failures
          simpa [unreported] using inside.stopped

/-- As many loops of `close` are ended by a report that throws as calls of
`finish` from inside begin, or fewer where no other scope is open. -/
structure ClosesOnce (id : PhpString) (registered : List Cleanup) (others : Nat) : Prop where
  closes : registered.countP (Cleanup.unreported id) ≤ nestedLoops id registered.reverse
  once : nestedLoops id registered.reverse = registered.countP (Cleanup.unreported id) ∨ others = 0

variable {scope : RequestScope}

theorem finish_complete_iff (opened : scope.state ≠ .closed) {detector : LeakDetector}
    (counted : detector.activeScopes = others + 1) (memoryThresholdBytes : Int)
    (measured : Nat → LeakDetector.Measured) :
    CleanupComplete scope.cleanups others
        (scope.finish detector memoryThresholdBytes measured) ↔
      ClosesOnce scope.id scope.cleanups others := by
  have unwound := @unwind_unwound scope.id scope.sampled measured (scope.unwinding detector)
    scope.cleanups.length memoryThresholdBytes (Nat.le_of_eq length_reverse)
  rw [finish, close, if_neg opened]
  generalize unwind scope.id scope.sampled measured scope.cleanups.length memoryThresholdBytes
    (scope.unwinding detector) = result at unwound ⊢
  obtain ⟨order, -, -, done, closed, active⟩ := unwound
  simp only [unwinding, countP_reverse, if_true, Bool.false_eq_true, false_or, nil_append, counted]
    at order done closed active
  constructor
  · intro complete
    have closes := closed.mp (by
      by_contra unclosed
      exact absurd ((if_neg unclosed).symm.trans complete.state) (by decide))
    have counts := active.symm.trans complete.activeScopes
    exact ⟨closes, by omega⟩
  · rintro ⟨closes, once⟩
    have isClosed := closed.mpr closes
    exact
      { executed := by simpa [done closes] using order
        state := if_pos isClosed
        values := if_pos isClosed
        context := rfl
        activeScopes := active.trans (by omega) }

def registers : ScopeCall → Option Cleanup
  | .defer cleanup => some cleanup
  | .manage _ (some cleanup) => some cleanup
  | .manage resource none => (defaultCleanup resource).toOption
  | _ => none

structure InUse (scope : RequestScope) (id : PhpString) (registered : List Cleanup) : Prop where
  active : scope.state = .active
  id : scope.id = id
  cleanups : scope.cleanups = registered

theorem InUse.perform (inUse : scope.InUse id registered) (call : ScopeCall) :
    (scope.perform call).InUse id (registered ++ (registers call).toList) := by
  obtain ⟨active, rfl, rfl⟩ := inUse
  have asserted : scope.assertActive = .ok () := if_pos active
  have deferred : ∀ cleanup, scope.defer cleanup =
      .ok { scope with cleanups := scope.cleanups ++ [cleanup] } := by
    intro cleanup
    rw [defer, asserted]
    rfl
  cases call with
  | set key value =>
    rw [RequestScope.perform, set, asserted]
    by_cases empty : key = []
    · subst empty
      exact ⟨active, rfl, (append_nil _).symm⟩
    · simp only [empty]
      exact ⟨active, rfl, (append_nil _).symm⟩
  | forget key => exact ⟨active, rfl, (append_nil _).symm⟩
  | defer cleanup =>
    rw [RequestScope.perform, deferred]
    exact ⟨active, rfl, rfl⟩
  | manage resource given =>
    cases given with
    | some cleanup =>
      rw [RequestScope.perform, manage, asserted, deferred]
      exact ⟨active, rfl, rfl⟩
    | none =>
      rw [RequestScope.perform, manage, asserted, ok_bind]
      cases found : defaultCleanup resource with
      | error failure =>
        simp only [registers, found]
        exact ⟨active, rfl, (append_nil _).symm⟩
      | ok cleanup =>
        rw [ok_bind, deferred]
        simp only [registers, found]
        exact ⟨active, rfl, rfl⟩

theorem InUse.performs (inUse : scope.InUse id registered) (calls : List ScopeCall) :
    (calls.foldl RequestScope.perform scope).InUse id
      (registered ++ calls.filterMap registers) := by
  induction calls generalizing scope registered with
  | nil => simpa using inUse
  | cons call calls induction =>
    have rest := induction (inUse.perform call)
    rw [filterMap_cons]
    cases isCleanup : registers call with
    | none | some cleanup =>
      rw [isCleanup] at rest
      simpa using rest

theorem begin_ok (begun : begin world id sampleLeaks = .ok (scope, opened)) :
    scope.InUse id [] ∧ opened.detector.activeScopes = world.detector.activeScopes + 1 := by
  rw [begin] at begun
  split at begun
  · cases begun
  split at begun
  · cases begun
  · cases begun
    exact ⟨⟨rfl, rfl, rfl⟩, rfl⟩

end RequestScope

theorem request_scope_complete_iff {world opened : ScopeWorld}
    {id : PhpString} {sampleLeaks : Bool} {scope : RequestScope}
    (begun : RequestScope.begin world id sampleLeaks = .ok (scope, opened))
    (calls : List ScopeCall) (memoryThresholdBytes : Int)
    (measured : Nat → LeakDetector.Measured) :
    CleanupComplete (calls.filterMap RequestScope.registers) world.detector.activeScopes
        ((calls.foldl RequestScope.perform scope).finish opened.detector
          memoryThresholdBytes measured) ↔
      RequestScope.ClosesOnce id (calls.filterMap RequestScope.registers)
        world.detector.activeScopes := by
  obtain ⟨fresh, counted⟩ := RequestScope.begin_ok begun
  have inUse := fresh.performs calls
  have iff := RequestScope.finish_complete_iff (by rw [inUse.active]; decide) counted
    memoryThresholdBytes measured
  rw [inUse.cleanups, inUse.id] at iff
  exact iff

def standalone : LogAmbient := ⟨0, .null, .null, asciiBytes "standalone"⟩

/-- Another fiber has a scope open. -/
def busyWorld : ScopeWorld := ⟨none, ⟨1, 0, 0, 0, 0, 0⟩⟩

def twoCleanups (message : PhpString) : List ScopeCall := [.defer ⟨0, none, none⟩,
    .defer ⟨1, none, some ⟨asciiBytes "RuntimeException", message, standalone⟩⟩]

def sampleScope : RequestScope where
  id := [114]
  sampled := false
  cleanups := []
  values := ∅
  state := .active
  cleanupFailures := 0
  id_nonempty := by decide

theorem sampleScope_begun : RequestScope.begin busyWorld [114] false =
      .ok (sampleScope, ⟨some sampleScope, busyWorld.detector.scopeOpened⟩) := rfl

theorem sample_cleanup_complete :
    CleanupComplete [⟨0, none, none⟩, ⟨1, none, some ⟨asciiBytes "RuntimeException",
        asciiBytes "gone", standalone⟩⟩] 1
      (((twoCleanups (asciiBytes "gone")).foldl RequestScope.perform
        sampleScope).finish busyWorld.detector.scopeOpened 0 fun _ => ⟨0, 0, standalone⟩) := by
  refine (request_scope_complete_iff sampleScope_begun
    (twoCleanups (asciiBytes "gone")) 0 fun _ => ⟨0, 0, standalone⟩).mpr ⟨?_, .inl ?_⟩
  · decide +kernel
  · decide +kernel

/-- A failure whose message is not UTF-8: the cleanup registered before it does
not run. -/
theorem unreportable_failure_stops_cleanup :
    ∃ scope opened, RequestScope.begin busyWorld [114] false = .ok (scope, opened) ∧
      ¬ CleanupComplete ((twoCleanups [0xFF]).filterMap RequestScope.registers) 1
        (((twoCleanups [0xFF]).foldl RequestScope.perform scope).finish
          opened.detector 0 fun _ => ⟨0, 0, standalone⟩) := by
  refine ⟨_, _, sampleScope_begun, ?_⟩
  intro complete
  have skipped : (((twoCleanups [0xFF]).foldl RequestScope.perform
      sampleScope).finish busyWorld.detector.scopeOpened 0
      fun _ => ⟨0, 0, standalone⟩).executed.length = 1 := by
    decide +kernel
  rw [complete.executed] at skipped
  cases skipped

end Pam.Runtime
