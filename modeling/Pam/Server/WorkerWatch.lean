import Mathlib.Data.List.MinMax
import Mathlib.Data.Prod.Lex
import Mathlib.Data.String.Basic
import Pam.Foundation.Run

namespace Pam.Server

open Pam.Foundation List Option Nat

/-! The table of active PHP executions and the lifecycle records for the
master's watchdog. The oldest execution is selected under the table's lock and
reported after its release, in two steps. -/

inductive WorkerLifecycle where
  | starting
  | ready
  | busy
  | draining
  deriving DecidableEq

structure WorkerReport where
  lifecycle : WorkerLifecycle
  deadlineAtMillis : Option Nat
  requestId : Option String
  deriving DecidableEq

def maxMillis : Nat := 2 ^ 64 - 1

def saturatingAdd (left right : Nat) : Nat := min (left + right) maxMillis

def workerTimedOut (record : Option WorkerReport) (now grace : Nat) : Bool := match record with
  | none => false
  | some record => record.lifecycle == .busy && match record.deadlineAtMillis with
      | none => false
      | some deadline => decide (saturatingAdd deadline grace ≤ now)

abbrev ActiveExecutions := List (String × Nat)

def ActiveExecutions.insert (executions : ActiveExecutions)
    (requestId : String) (deadline : Nat) : ActiveExecutions :=
  (requestId, deadline) :: executions.filter fun entry => entry.1 != requestId

def ActiveExecutions.remove (executions : ActiveExecutions)
    (requestId : String) : ActiveExecutions := executions.filter fun entry => entry.1 != requestId

def ActiveExecutions.oldest (executions : ActiveExecutions) : Option (String × Nat) :=
  executions.argmin fun entry => toLex (entry.2, entry.1)

/-- What both critical sections report: the oldest execution left, or
readiness. After an insertion there is always one. -/
def ActiveExecutions.report (executions : ActiveExecutions) : WorkerReport :=
  match executions.oldest with
  | some (requestId, deadline) => ⟨.busy, some deadline, some requestId⟩
  | none => ⟨.ready, none, none⟩

/-- `order` is the critical section in which the execution began. -/
structure PhpExecution where
  requestId : String
  deadline : Nat
  order : Nat
  inFlight : Bool

structure PendingReport where
  order : Nat
  report : WorkerReport

structure WatchState where
  activePhpExecutions : ActiveExecutions
  executions : List PhpExecution
  sections : Nat
  inProgress : List PendingReport
  lastReport : Option WorkerReport
  readyReported : Bool
  drainingReported : Bool

def WatchState.initial : WatchState where
  activePhpExecutions := []
  executions := []
  sections := 0
  inProgress := []
  lastReport := none
  readyReported := false
  drainingReported := false

def WatchState.inFlight (state : WatchState) : List PhpExecution :=
  state.executions.filter PhpExecution.inFlight

inductive WatchLabel where
  | begin (requestId : String) (now : Nat)
  | finish (execution : Nat)
  | report (order : Nat)
  | ready
  | drain

def WatchState.enter (state : WatchState)
    (activePhpExecutions : ActiveExecutions) (executions : List PhpExecution) : WatchState :=
  { state with
    activePhpExecutions := activePhpExecutions
    executions := executions
    sections := state.sections + 1
    inProgress := ⟨state.sections, activePhpExecutions.report⟩ :: state.inProgress }

def beginPhpExecution (requestTimeoutMs : Nat) (state : WatchState)
    (requestId : String) (now : Nat) : WatchState :=
  let deadline := saturatingAdd now requestTimeoutMs
  state.enter (state.activePhpExecutions.insert requestId deadline)
    (state.executions ++ [⟨requestId, deadline, state.sections, true⟩])

def finishPhpExecution (state : WatchState) (number : Nat)
    (execution : PhpExecution) : WatchState :=
  state.enter (state.activePhpExecutions.remove execution.requestId)
    (state.executions.set number { execution with inFlight := false })

def reportWorkerState (state : WatchState) (report : WorkerReport) : WatchState :=
  { state with lastReport := some report }

def watchNext (requestTimeoutMs : Nat) (state : WatchState) : WatchLabel → Option WatchState
  | .begin requestId now => some (beginPhpExecution requestTimeoutMs state requestId now)
  | .finish number =>
    match state.executions[number]? with
    | none => none
    | some execution =>
      -- The guard exists only once `begin_php_execution` has returned.
      if execution.inFlight && state.inProgress.all fun pending =>
          pending.order != execution.order then
        some (finishPhpExecution state number execution)
      else none
  | .report order =>
    match state.inProgress.find? fun pending => pending.order == order with
    | none => none
    | some pending => some { reportWorkerState state pending.report with
        inProgress := state.inProgress.filter fun other => other.order != order }
  | .ready =>
    if state.readyReported then none
    else
      some { reportWorkerState state ⟨.ready, none, none⟩ with readyReported := true }
  | .drain =>
    if state.drainingReported then none
    else
      some { reportWorkerState state ⟨.draining, none, none⟩ with drainingReported := true }

def watchMachine (requestTimeoutMs : Nat) : Machine WatchState WatchLabel where
  start := .initial
  next := watchNext requestTimeoutMs

def LeastDeadline (state : WatchState) (deadline : Nat) : Prop :=
  (∃ execution ∈ state.inFlight, execution.deadline = deadline) ∧
    ∀ execution ∈ state.inFlight, deadline ≤ execution.deadline

def WatchdogSees (state : WatchState) : Prop :=
  state.inProgress = [] → state.inFlight ≠ [] → ∃ deadline requestId,
      state.lastReport = some ⟨.busy, some deadline, requestId⟩ ∧ LeastDeadline state deadline ∧
      ∀ execution ∈ state.inFlight, ∀ now grace, saturatingAdd execution.deadline grace ≤ now →
        workerTimedOut state.lastReport now grace = true

/-- An execution begins under an id of its own; the report that leaves no other
in progress is that of the latest critical section; the readiness and draining
records are not made between reports while an execution is in flight. -/
def InOrder (state : WatchState) : WatchLabel → Prop
  | .begin requestId _ => ∀ entry ∈ state.activePhpExecutions, entry.1 ≠ requestId
  | .finish _ => True
  | .report order => (∀ pending ∈ state.inProgress, pending.order = order) →
      state.inFlight ≠ [] → order + 1 = state.sections
  | .ready => state.inFlight = [] ∨ state.inProgress ≠ []
  | .drain => state.inFlight = [] ∨ state.inProgress ≠ []

instance (state : WatchState) (label : WatchLabel) : Decidable (InOrder state label) := by
  cases label <;> dsimp only [InOrder] <;> infer_instance

section

variable {executions : ActiveExecutions}

theorem ActiveExecutions.mem_insert :
    entry ∈ executions.insert requestId deadline ↔ entry = (requestId, deadline) ∨
        (entry ∈ executions ∧ entry.1 ≠ requestId) := by
  simp [ActiveExecutions.insert]

theorem ActiveExecutions.mem_remove :
    entry ∈ executions.remove requestId ↔ entry ∈ executions ∧ entry.1 ≠ requestId := by
  simp [ActiveExecutions.remove]

theorem ActiveExecutions.report_of_ne_nil (nonempty : executions ≠ []) :
    ∃ requestId deadline, executions.report = ⟨.busy, some deadline, some requestId⟩ ∧
      (requestId, deadline) ∈ executions ∧ ∀ entry ∈ executions, deadline ≤ entry.2 := by
  cases found : executions.oldest with
  | none => exact absurd (argmin_eq_none.mp found) nonempty
  | some oldest =>
    obtain ⟨requestId, deadline⟩ := oldest
    refine ⟨requestId, deadline, ?_, argmin_mem found, ?_⟩
    · simp [ActiveExecutions.report, found]
    intro entry member
    have least := le_of_mem_argmin member found
    rcases Prod.Lex.toLex_le_toLex.mp least with less | ⟨same, _⟩
    · exact le_of_lt less
    · exact le_of_eq same

end

theorem saturatingAdd_le_saturatingAdd (least : left ≤ right) :
    saturatingAdd left grace ≤ saturatingAdd right grace := by
  unfold saturatingAdd
  omega

def InFlightAt (executions : List PhpExecution) (number : Nat) (execution : PhpExecution) : Prop :=
  executions[number]? = some execution ∧ execution.inFlight = true

variable {state : WatchState}

theorem WatchState.mem_inFlight : execution ∈ state.inFlight ↔
      ∃ number, InFlightAt state.executions number execution := by
  rw [WatchState.inFlight, mem_filter, mem_iff_getElem?]
  simp [InFlightAt]

theorem inFlightAt_append (flying : added.inFlight = true) :
    InFlightAt (executions ++ [added]) number execution ↔ InFlightAt executions number execution ∨
        (number = executions.length ∧ execution = added) := by
  rcases lt_trichotomy number executions.length with before | rfl | beyond
  · simp [InFlightAt, getElem?_append_left before, Nat.ne_of_lt before]
  · simp only [InFlightAt, getElem?_concat_length, some.injEq, getElem?_length, true_and]
    constructor
    · rintro ⟨rfl, _⟩
      exact .inr rfl
    rintro (⟨missing, _⟩ | rfl)
    · cases missing
    · exact ⟨rfl, flying⟩
  · have outside : executions[number]? = none := getElem?_eq_none_iff.mpr (le_of_lt beyond)
    have missing : (executions ++ [added])[number]? = none := by
      simpa using succ_le_of_lt beyond
    simp [InFlightAt, missing, outside, ne_of_gt beyond]

theorem inFlightAt_land (found : executions[number]? = some landed) :
    InFlightAt (executions.set number { landed with inFlight := false }) other execution ↔
      InFlightAt executions other execution ∧ other ≠ number := by
  have inside := (List.getElem?_eq_some_iff.mp found).1
  by_cases here : number = other
  · subst here
    simp only [InFlightAt, List.getElem?_set_self inside, some.injEq,
      ne_eq, not_true, and_false, iff_false, not_and]
    rintro rfl
    simp
  · have away : other ≠ number := fun same => here same.symm
    simp [InFlightAt, List.getElem?_set_ne here, away]

structure Tracks (state : WatchState) : Prop where
  table : ∀ entry, entry ∈ state.activePhpExecutions ↔
    ∃ number execution, InFlightAt state.executions number execution ∧
      entry = (execution.requestId, execution.deadline)
  distinct : ∀ {number other execution rival}, InFlightAt state.executions number execution →
    InFlightAt state.executions other rival → execution.requestId = rival.requestId → number = other
  bounded : ∀ pending ∈ state.inProgress, pending.order < state.sections
  latest : ∀ pending ∈ state.inProgress, pending.order + 1 = state.sections →
    pending.report = state.activePhpExecutions.report
  reported : (∃ pending ∈ state.inProgress, pending.order + 1 = state.sections) ∨
      (state.inProgress = [] → state.inFlight ≠ [] →
        state.lastReport = some state.activePhpExecutions.report)

theorem tracks_initial : Tracks WatchState.initial where
  table := by simp [WatchState.initial, InFlightAt]
  distinct := by simp [WatchState.initial, InFlightAt]
  bounded := by simp [WatchState.initial]
  latest := by simp [WatchState.initial]
  reported := .inr (by simp [WatchState.initial, WatchState.inFlight])

theorem tracks_enter (tracks : Tracks state) (table : ∀ entry, entry ∈ activePhpExecutions ↔
      ∃ number execution, InFlightAt executions number execution ∧
        entry = (execution.requestId, execution.deadline))
    (distinct : ∀ {number other execution rival}, InFlightAt executions number execution →
      InFlightAt executions other rival → execution.requestId = rival.requestId → number = other) :
    Tracks (state.enter activePhpExecutions executions) where
  table := table
  distinct := distinct
  bounded := by
    intro pending member
    simp only [WatchState.enter, mem_cons] at member ⊢
    rcases member with rfl | earlier
    · exact lt_succ_self _
    · exact lt_succ_of_lt (tracks.bounded pending earlier)
  latest := by
    intro pending member last
    simp only [WatchState.enter, mem_cons] at member last ⊢
    rcases member with rfl | earlier
    · rfl
    · have older := tracks.bounded pending earlier
      omega
  reported := .inl ⟨_, mem_cons_self, rfl⟩

theorem tracks_begin (tracks : Tracks state)
    (fresh : ∀ entry ∈ state.activePhpExecutions, entry.1 ≠ requestId) :
    Tracks (beginPhpExecution requestTimeoutMs state requestId now) := by
  have unused : ∀ {number execution}, InFlightAt state.executions number execution →
      execution.requestId ≠ requestId := by
    rintro number execution flying rfl
    exact fresh _ ((tracks.table _).mpr ⟨number, execution, flying, rfl⟩) rfl
  apply tracks_enter tracks
  · intro entry
    simp only [ActiveExecutions.mem_insert, inFlightAt_append]
    constructor
    · rintro (rfl | ⟨member, _⟩)
      · exact ⟨_, _, .inr ⟨rfl, rfl⟩, rfl⟩
      · obtain ⟨number, execution, flying, same⟩ := (tracks.table entry).mp member
        exact ⟨number, execution, .inl flying, same⟩
    · rintro ⟨number, execution, flying | ⟨_, rfl⟩, rfl⟩
      · exact .inr ⟨(tracks.table _).mpr ⟨number, execution, flying, rfl⟩, unused flying⟩
      · exact .inl rfl
  · intro number other execution rival flying rivalFlying same
    rw [inFlightAt_append rfl] at flying rivalFlying
    rcases flying with flying | ⟨rfl, rfl⟩
    · rcases rivalFlying with rivalFlying | ⟨_, rfl⟩
      · exact tracks.distinct flying rivalFlying same
      · exact absurd same (unused flying)
    rcases rivalFlying with rivalFlying | ⟨rfl, _⟩
    · exact absurd same.symm (unused rivalFlying)
    · rfl

theorem tracks_finish (tracks : Tracks state) {number : Nat}
    (flying : InFlightAt state.executions number execution) :
    Tracks (finishPhpExecution state number execution) := by
  apply tracks_enter tracks
  · intro entry
    simp only [ActiveExecutions.mem_remove, inFlightAt_land flying.1]
    constructor
    · rintro ⟨member, different⟩
      obtain ⟨other, left, leftFlying, rfl⟩ := (tracks.table entry).mp member
      refine ⟨other, left, ⟨leftFlying, ?_⟩, rfl⟩
      rintro rfl
      have same : left = execution := some.inj (leftFlying.1.symm.trans flying.1)
      exact different (congrArg PhpExecution.requestId same)
    · rintro ⟨other, left, ⟨leftFlying, away⟩, rfl⟩
      refine ⟨(tracks.table _).mpr ⟨other, left, leftFlying, rfl⟩, ?_⟩
      intro same
      exact away (tracks.distinct leftFlying flying same)
  · intro first second left rival leftFlying rivalFlying same
    rw [inFlightAt_land flying.1] at leftFlying rivalFlying
    exact tracks.distinct leftFlying.1 rivalFlying.1 same

theorem tracks_report (tracks : Tracks state)
    (found : (state.inProgress.find? fun pending => pending.order == order) =
      some pending) (ordered : InOrder state (.report order)) :
    Tracks { reportWorkerState state pending.report with
      inProgress := state.inProgress.filter fun other => other.order != order } where
  table := tracks.table
  distinct := tracks.distinct
  bounded := by
    intro other member
    exact tracks.bounded other (mem_of_mem_filter member)
  latest := by
    intro other member
    exact tracks.latest other (mem_of_mem_filter member)
  reported := by
    have sameOrder : pending.order = order := by simpa using find?_some found
    have member := mem_of_find?_eq_some found
    by_cases last : order + 1 = state.sections
    · -- The latest report is made: what is recorded is that of the table.
      right
      intro _ _
      simp only [reportWorkerState]
      rw [tracks.latest pending member (by rw [sameOrder]; exact last)]
    · rcases tracks.reported with ⟨newest, newestMember, newestLast⟩ | settled
      · left
        refine ⟨newest, mem_filter.mpr ⟨newestMember, ?_⟩, newestLast⟩
        simp only [bne_iff_ne]
        rintro rfl
        exact last newestLast
      · right
        intro none flying
        have alone : ∀ other ∈ state.inProgress, other.order = order := by
          intro other otherMember
          have removed := filter_eq_nil_iff.mp none other otherMember
          simpa using removed
        exact absurd (ordered alone flying) last

theorem tracks_overwrite (tracks : Tracks state)
    (ordered : state.inFlight = [] ∨ state.inProgress ≠ []) :
    Tracks { reportWorkerState state report with
      readyReported := readyReported
      drainingReported := drainingReported } where
  table := tracks.table
  distinct := tracks.distinct
  bounded := tracks.bounded
  latest := tracks.latest
  reported := by
    rcases tracks.reported with newest | _
    · exact .inl newest
    right
    intro none flying
    rcases ordered with grounded | pending
    · exact absurd grounded flying
    · exact absurd none pending

theorem tracks_step (tracks : Tracks state) (ordered : InOrder state label)
    (step : watchNext requestTimeoutMs state label = some target) : Tracks target := by
  cases label with
  | begin requestId now =>
    cases step
    exact tracks_begin tracks ordered
  | finish number =>
    simp only [watchNext] at step
    split at step
    · cases step
    next found =>
    split at step
    next enabled =>
      cases step
      have flying := (Bool.and_eq_true_iff.mp enabled).1
      exact tracks_finish tracks ⟨found, flying⟩
    · cases step
  | report order =>
    simp only [watchNext] at step
    split at step
    · cases step
    next found =>
      cases step
      exact tracks_report tracks found ordered
  | ready | drain =>
    simp only [watchNext] at step
    split at step
    · cases step
    · cases step
      exact tracks_overwrite tracks ordered

theorem Tracks.watchdogSees (tracks : Tracks state) : WatchdogSees state := by
  intro settled flying
  have lastReport : state.lastReport = some state.activePhpExecutions.report := by
    rcases tracks.reported with ⟨pending, member, _⟩ | made
    · rw [settled] at member
      cases member
    · exact made settled flying
  obtain ⟨first, firstMember⟩ := exists_mem_of_ne_nil _ flying
  obtain ⟨number, firstFlying⟩ := WatchState.mem_inFlight.mp firstMember
  have nonempty : state.activePhpExecutions ≠ [] :=
    ne_nil_of_mem ((tracks.table _).mpr ⟨number, first, firstFlying, rfl⟩)
  obtain ⟨requestId, deadline, report, oldest, least⟩ := ActiveExecutions.report_of_ne_nil nonempty
  have leastInFlight : ∀ execution ∈ state.inFlight, deadline ≤ execution.deadline := by
    intro execution member
    obtain ⟨other, otherFlying⟩ := WatchState.mem_inFlight.mp member
    exact least _ ((tracks.table _).mpr ⟨other, execution, otherFlying, rfl⟩)
  refine ⟨deadline, some requestId, by rw [lastReport, report], ⟨?_, leastInFlight⟩, ?_⟩
  · obtain ⟨other, execution, otherFlying, same⟩ := (tracks.table _).mp oldest
    exact ⟨execution, WatchState.mem_inFlight.mpr ⟨other, otherFlying⟩,
      (congrArg Prod.snd same).symm⟩
  intro execution member now grace expired
  have reached := (saturatingAdd_le_saturatingAdd (leastInFlight execution member)).trans expired
  simp [lastReport, report, workerTimedOut, reached]

theorem watchdogSees_visited (requestTimeoutMs : Nat) (labels : List WatchLabel)
    (ordered : ∀ transition ∈ (watchMachine requestTimeoutMs).transitions .initial labels,
      InOrder transition.source transition.label) :
    ∀ state ∈ (watchMachine requestTimeoutMs).visited .initial labels, WatchdogSees state :=
  (watchMachine requestTimeoutMs).visited_of_guarded Tracks InOrder
    WatchdogSees Tracks.watchdogSees tracks_step tracks_initial ordered

/-- Two executions, the older of which finishes first, each report made before
the next critical section. -/
def twoExecutions : List WatchLabel :=
  [.ready, .begin "a" 0, .report 0, .begin "b" 5, .report 1, .finish 0, .report 2]

theorem watchdogSees_twoExecutions :
    (∀ transition ∈ (watchMachine 30).transitions .initial twoExecutions,
        InOrder transition.source transition.label) ∧
      ∀ state ∈ (watchMachine 30).visited .initial twoExecutions, WatchdogSees state := by
  have ordered : ∀ transition ∈ (watchMachine 30).transitions .initial twoExecutions,
      InOrder transition.source transition.label := by
    decide
  exact ⟨ordered, watchdogSees_visited 30 twoExecutions ordered⟩

/-- The readiness task runs while an execution that began before it is in
flight. -/
def readyDuringExecution : List WatchLabel := [.begin "a" 0, .report 0, .ready]

theorem execution_hidden_by_ready : ¬ ∀ (requestTimeoutMs : Nat) (labels : List WatchLabel),
      ∀ state ∈ (watchMachine requestTimeoutMs).visited .initial labels, WatchdogSees state := by
  intro always
  have sees := always 30 readyDuringExecution _ (Machine.finish_mem_visited _ _ _)
  obtain ⟨deadline, requestId, record, _⟩ := sees (by decide) (by decide)
  cases record

end Pam.Server
