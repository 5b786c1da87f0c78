import Pam.Server.WorkerWatch

namespace Pam.Server

/-- No readiness is on its way when the worker reports that it drains, the
delayed readiness is reported before, and every execution that finishes later
leaves another one. -/
def drainsLast (state : WatchState) : WatchLabel → Bool
  | .finish number => !state.drainingReported || state.executions[number]?.all fun execution =>
      state.activePhpExecutions.remove execution.requestId != []
  | .ready => !state.drainingReported
  | .drain => state.inProgress.all fun pending => pending.report.lifecycle != .ready
  | _ => true

structure DrainFinal (state : WatchState) : Prop where
  last : state.drainingReported = true → ∀ report ∈ state.lastReport, report.lifecycle ≠ .ready
  pending : state.drainingReported = true → ∀ pending ∈ state.inProgress,
    pending.report.lifecycle ≠ .ready

theorem DrainFinal.enter (kept : DrainFinal state)
    {active : ActiveExecutions} (busy : state.drainingReported = true → active ≠ [])
    (executions : List PhpExecution) : DrainFinal (state.enter active executions) where
  last := kept.last
  pending := by
    intro draining
    obtain ⟨_, _, report, -⟩ := ActiveExecutions.report_of_ne_nil (busy draining)
    simpa [WatchState.enter, report] using kept.pending draining

theorem DrainFinal.next {state target : WatchState} (kept : DrainFinal state)
    (allowed : drainsLast state label)
    (step : (watchMachine requestTimeoutMs).next state label = some target) :
    DrainFinal target := by
  cases label with
  | begin requestId now =>
    cases step
    exact kept.enter (fun _ => List.cons_ne_nil _ _) _
  | finish number =>
    simp only [watchMachine, watchNext] at step
    split at step
    · cases step
    next found =>
    split at step <;> cases step
    refine kept.enter (fun draining => ?_) _
    simpa [drainsLast, draining, found] using allowed
  | report order =>
    simp only [watchMachine, watchNext] at step
    split at step <;> cases step
    next pending found =>
    refine ⟨fun draining report same => ?_, fun draining other member => ?_⟩
    · cases same
      exact kept.pending draining pending (List.mem_of_find?_eq_some found)
    · exact kept.pending draining other (List.mem_of_mem_filter member)
  | ready =>
    simp only [watchMachine, watchNext] at step
    split at step <;> cases step
    have working : state.drainingReported = false := by simpa [drainsLast] using allowed
    constructor <;> simp [reportWorkerState, working]
  | drain =>
    simp only [watchMachine, watchNext] at step
    split at step <;> cases step
    exact ⟨by simp [reportWorkerState], by simpa [reportWorkerState, drainsLast] using allowed⟩

theorem draining_is_final (requestTimeoutMs : Nat) (labels : List WatchLabel)
    (ordered : ∀ transition ∈ (watchMachine requestTimeoutMs).transitions .initial labels,
      drainsLast transition.source transition.label) :
    ∀ state ∈ (watchMachine requestTimeoutMs).visited .initial labels,
      state.drainingReported = true → ∀ report ∈ state.lastReport, report.lifecycle ≠ .ready :=
  (watchMachine requestTimeoutMs).visited_of_guarded DrainFinal (drainsLast · ·) _ DrainFinal.last
    DrainFinal.next ⟨nofun, nofun⟩ ordered

def drainedRun : List WatchLabel :=
  [.ready, .begin "a" 0, .report 0, .begin "b" 5, .report 1, .drain, .finish 0, .report 2]

theorem sample_draining_is_final :
    ((watchMachine 30).finish .initial drainedRun).drainingReported = true ∧
    ∀ state ∈ (watchMachine 30).visited .initial drainedRun, state.drainingReported = true →
      ∀ report ∈ state.lastReport, report.lifecycle ≠ .ready :=
  ⟨by decide, draining_is_final 30 drainedRun (by decide)⟩

theorem ready_after_draining : ¬ ∀ (requestTimeoutMs : Nat) (labels : List WatchLabel),
    ∀ state ∈ (watchMachine requestTimeoutMs).visited .initial labels,
      state.drainingReported = true → ∀ report ∈ state.lastReport, report.lifecycle ≠ .ready := by
  intro final
  have last := final 30 [.begin "a" 0, .report 0, .drain, .finish 0, .report 1]
  revert last
  decide

end Pam.Server
