import Pam.Traffic.RolloutEvidence

namespace Pam.Traffic

open Pam.Foundation Option Function Nat

/-! The verdict of `traffic:evaluate` on the counters of the candidate. -/

structure Verdict where
  arguments : EvaluateArguments
  counters : ReleaseCounters
  decision : RolloutDecision

def IngressState.verdict (state : IngressState) : IngressLabel → Option Verdict
  | .closeCommand index now =>
    match state.commands[index]?, state.metricsFile with
    | some (.update (.evaluate arguments) read), some metrics =>
      match trafficEvaluate arguments now read.config (some metrics.counters) with
      | .ok (decision, _) => some ⟨arguments, metrics.counters.candidate, decision⟩
      | .error _ => none
    | _, _ => none
  | _ => none

def Verdict.WithinBudget (verdict : Verdict) : Prop := verdict.counters.errors * 10000 ≤
    verdict.arguments.maximumErrorBasisPoints * verdict.counters.requests

structure Verdict.Sound (verdict : Verdict) : Prop where
  promoted : verdict.decision = .promoted →
    verdict.arguments.minimumRequests ≤ verdict.counters.requests ∧ verdict.WithinBudget
  aborted : verdict.decision = .aborted → ¬ verdict.WithinBudget

theorem ceil_le_iff (positive : 0 < divisor) :
    (dividend + (divisor - 1)) / divisor ≤ bound ↔ dividend ≤ bound * divisor := by
  rw [← Nat.lt_succ_iff, div_lt_iff_lt_mul positive, succ_mul]
  omega

theorem errorBasisPoints_le_iff (paired : counters.errors ≤ counters.requests)
    (counted : 0 < counters.requests) (bound : Nat) :
    errorBasisPoints counters ≤ bound ↔ counters.errors * 10000 ≤ bound * counters.requests := by
  have small : (counters.errors * 10000 + (counters.requests - 1)) / counters.requests ≤ 10000 := by
    rw [ceil_le_iff counted, mul_comm]
    exact mul_le_mul_left 10000 paired
  have fits : (counters.errors * 10000 + (counters.requests - 1)) / counters.requests < 2 ^ 16 :=
    lt_of_le_of_lt small (by decide)
  rw [errorBasisPoints, if_neg (ne_of_gt counted), mod_eq_of_lt fits, ceil_le_iff counted]

theorem rolloutDecision_sound {counters : ReleaseCounters}
    (paired : counters.errors ≤ counters.requests) :
    Verdict.Sound ⟨arguments, counters, rolloutDecision arguments now config counters⟩ := by
  unfold rolloutDecision
  split
  · exact ⟨nofun, nofun⟩
  split
  · exact ⟨nofun, nofun⟩
  next enough =>
  have counted : 0 < counters.requests :=
    lt_of_lt_of_le arguments.positive (Nat.le_of_not_lt enough)
  have rate := errorBasisPoints_le_iff paired counted arguments.maximumErrorBasisPoints
  split
  next within => exact ⟨fun _ => ⟨Nat.le_of_not_lt enough, rate.mp within⟩, nofun⟩
  · next beyond => exact ⟨nofun, fun _ within => beyond (rate.mpr within)⟩

variable {counters : TrafficCounters}

theorem decision_of_trafficEvaluate (run : trafficEvaluate arguments now config (some counters) =
      .ok (decision, written)) :
    decision = rolloutDecision arguments now config counters.candidate := by
  obtain ⟨candidate, _, run⟩ := bind_eq_ok.mp run
  obtain ⟨metrics, found, run⟩ := bind_eq_ok.mp run
  cases found
  split at run
  · cases run
  obtain ⟨concluded, _, run⟩ := bind_eq_ok.mp run
  obtain ⟨rfl, _⟩ := Prod.mk.inj (Except.ok.inj run)
  rfl

def TrafficCounters.Paired (counters : TrafficCounters) : Prop :=
  counters.candidate.errors ≤ counters.candidate.requests ∧ counters.candidate.requests < 2 ^ 64

def countsFit (state : IngressState) : IngressLabel → Bool
  | .respond pid _ _ _ =>
    match state.processes pid with
    | some (.serving proxy) => proxy.counters.candidate.requests + 1 < 2 ^ 64
    | _ => true
  | _ => true

structure Counting (state : IngressState) : Prop where
  proxies : ∀ pid proxy, state.processes pid = some (.serving proxy) → proxy.counters.Paired
  metrics : ∀ metrics ∈ state.metricsFile, metrics.counters.Paired

theorem paired_new : (TrafficCounters.new generation).Paired := ⟨le_refl 0, Nat.two_pow_pos 64⟩

theorem TrafficCounters.Paired.observe (paired : counters.Paired)
    (fits : counters.candidate.requests + 1 < 2 ^ 64) (routed : Routed)
    (error : Bool) : (counters.observe routed error micros).Paired := by
  have errors := paired.1
  have requests : fetchAdd counters.candidate.requests 1 =
      counters.candidate.requests + 1 := mod_eq_of_lt fits
  unfold TrafficCounters.observe
  split
  · exact paired
  split
  · exact paired
  cases error with
  | false =>
    refine ⟨?_, ?_⟩
    · change counters.candidate.errors ≤ fetchAdd _ 1
      rw [requests]
      exact le_succ_of_le errors
    change fetchAdd _ 1 < 2 ^ 64
    rw [requests]
    exact fits
  | true =>
    refine ⟨?_, ?_⟩
    · change fetchAdd counters.candidate.errors 1 ≤ fetchAdd _ 1
      rw [requests]
      exact le_trans (mod_le _ _) (succ_le_succ errors)
    change fetchAdd _ 1 < 2 ^ 64
    rw [requests]
    exact fits

section

variable (counting : Counting state)
include counting

theorem Counting.setProcess (pid : Nat) (process : Option Process)
    (paired : ∀ proxy, process = some (.serving proxy) →
      proxy.counters.Paired) : Counting (state.setProcess pid process) where
  proxies := by
    intro other proxy found
    dsimp only [IngressState.setProcess] at found
    by_cases same : other = pid
    · rw [same, update_self] at found
      exact paired proxy found
    · rw [update_of_ne same] at found
      exact counting.proxies other proxy found
  metrics := counting.metrics

theorem Counting.serving (paired : proxy.counters.Paired) :
    Counting (state.setProcess pid (some (.serving proxy))) := by
  refine counting.setProcess pid _ ?_
  intro other same
  obtain rfl := Process.serving.inj (some.inj same)
  exact paired

theorem Counting.remove (pid : Nat) : Counting (state.setProcess pid none) := by
  apply counting.setProcess
  intro proxy serving
  cases serving

theorem Counting.writeMetrics (paired : proxy.counters.Paired) :
    Counting (state.writeMetrics proxy) where
  proxies := counting.proxies
  metrics := by
    intro metrics written
    cases written
    exact paired

theorem Counting.stop : Counting state.stop := by
  unfold IngressState.stop
  split
  · exact counting
  split
  next proxy found => exact counting.serving (counting.proxies _ proxy found)
  · exact counting

theorem Counting.open (command : Command) : Counting (state.open command) := by
  cases command with
  | stop => exact counting.stop
  | start arguments | update update =>
    dsimp only [IngressState.open]
    split
    · exact counting
    · exact ⟨counting.proxies, counting.metrics⟩

theorem Counting.close (command : OpenCommand) (now : Nat) :
    Counting (state.close command now) := by
  cases command with
  | start arguments =>
    dsimp only [IngressState.close]
    split
    · exact counting
    have starting : Counting (state.setProcess state.spawned (some .starting)) := by
      apply counting.setProcess
      intro proxy serving
      cases serving
    exact ⟨starting.proxies, starting.metrics⟩
  | update update read =>
    dsimp only [IngressState.close]
    split
    · exact counting
    · exact ⟨counting.proxies, counting.metrics⟩

end

section

variable (counting : Counting state)
include counting

theorem Counting.commandNext (step : state.commandNext label = some target) : Counting target := by
  cases label with
  | openCommand command =>
    cases step
    exact counting.open command
  | closeCommand index now =>
    dsimp only [IngressState.commandNext] at step
    split at step
    · cases step
    next command found =>
    cases step
    have closed := counting.close command now
    exact ⟨closed.proxies, closed.metrics⟩
  | abandonCommand index =>
    cases step
    exact ⟨counting.proxies, counting.metrics⟩
  | _ => cases step

theorem Counting.load (pid : Nat) (binds : Bool) : Counting (state.load pid binds) := by
  unfold IngressState.load
  split
  · exact counting.remove pid
  split
  · exact counting.serving paired_new
  · exact counting.remove pid

theorem Counting.serve (found : state.processes pid = some (.serving proxy))
    (labelled : label.pid = some pid) (fits : countsFit state label = true)
    (step : state.serve pid proxy label = some target) : Counting target := by
  have paired := counting.proxies pid proxy found
  cases label with
  | publish other =>
    dsimp only [IngressState.serve] at step
    split at step
    · cases step
    obtain rfl := some.inj step
    have ready : Counting (state.setProcess pid (some (.serving { proxy with ready := true }))) :=
      counting.serving paired
    exact ⟨ready.proxies, ready.metrics⟩
  | watchTick other =>
    obtain ⟨_, same⟩ := ite_none_right_eq_some.mp step
    obtain rfl := some.inj same
    apply counting.serving
    unfold Proxy.watch
    split
    · exact paired
    split
    · exact paired_new
    · exact paired
  | route other bucket =>
    obtain ⟨_, same⟩ := ite_none_right_eq_some.mp step
    obtain rfl := some.inj same
    exact counting.serving paired
  | respond other index error micros =>
    obtain rfl := some.inj labelled
    dsimp only [IngressState.serve] at step
    split at step
    · cases step
    next routed sent =>
    obtain rfl := some.inj step
    rw [countsFit, found] at fits
    exact counting.serving (paired.observe (of_decide_eq_true fits) routed error)
  | flush other =>
    obtain ⟨_, same⟩ := ite_none_right_eq_some.mp step
    obtain rfl := some.inj same
    exact counting.writeMetrics paired
  | exit other ending =>
    cases ending with
    | shutdown =>
      obtain ⟨_, same⟩ := ite_none_right_eq_some.mp step
      obtain rfl := some.inj same
      have removed := (counting.writeMetrics paired).remove pid
      exact ⟨removed.proxies, removed.metrics⟩
    | error =>
      obtain rfl := some.inj step
      have removed := counting.remove pid
      exact ⟨removed.proxies, removed.metrics⟩
    | killed =>
      obtain rfl := some.inj step
      exact counting.remove pid
  | _ => cases step

theorem Counting.next (fits : countsFit state label = true)
    (step : ingressNext state label = some target) : Counting target := by
  unfold ingressNext at step
  split at step
  · exact counting.commandNext step
  next pid labelled =>
  unfold IngressState.processNext at step
  split at step
  · cases step
    exact counting.load pid _
  · cases step
    exact counting.remove pid
  · next found => exact counting.serve found labelled fits step
  · cases step

end

theorem Counting.initial : Counting .initial where
  proxies := by
    intro pid proxy found
    cases found
  metrics := by
    intro metrics found
    cases found

theorem Counting.sound (counting : Counting state) :
    ∀ verdict ∈ state.verdict label, verdict.Sound := by
  intro verdict reached
  cases label with
  | closeCommand index now =>
    dsimp only [IngressState.verdict] at reached
    split at reached
    next metrics _ file =>
      split at reached
      next evaluated =>
        cases reached
        rw [decision_of_trafficEvaluate evaluated]
        exact rolloutDecision_sound (counting.metrics metrics file).1
      · cases reached
    · cases reached
  | _ => cases reached

theorem verdicts_sound (labels : List IngressLabel)
    (fits : ∀ transition ∈ ingressMachine.transitions .initial labels,
      countsFit transition.source transition.label = true) :
    ∀ transition ∈ ingressMachine.transitions .initial labels,
      ∀ verdict ∈ transition.source.verdict transition.label, verdict.Sound := by
  refine ingressMachine.transitions_of_guarded Counting
    (fun state label => countsFit state label = true)
    (fun state label _ => ∀ verdict ∈ state.verdict label, verdict.Sound) ?_ .initial fits
  intro state label target counting fits step
  exact ⟨counting.next fits step, counting.sound⟩

theorem verdicts_sound_candidateAnswers : (∀ transition ∈ ingressMachine.transitions .initial
        (candidateAnswers (loopback 8082) ++ evaluates),
      countsFit transition.source transition.label = true) ∧
    (∀ transition ∈ ingressMachine.transitions .initial
        (candidateAnswers (loopback 8082) ++ evaluates),
      ∀ verdict ∈ transition.source.verdict transition.label, verdict.Sound) ∧
    ∃ transition ∈ ingressMachine.transitions .initial
        (candidateAnswers (loopback 8082) ++ evaluates),
      (transition.source.verdict transition.label).map Verdict.decision = some .promoted := by
  have fits : ∀ transition ∈ ingressMachine.transitions .initial
      (candidateAnswers (loopback 8082) ++ evaluates),
      countsFit transition.source transition.label = true := by
    decide +kernel
  exact ⟨fits, verdicts_sound _ fits, by decide +kernel⟩

def startedConfig : StoredConfig where
  config := {
    generation := 1
    listen := loopback 8080
    stable := loopback 8081
    candidate := some (loopback 8082)
    candidateWeightBasisPoints := 10000
    rolloutPhase := .evaluating
    rolloutDeadlineMillis := some 300000
    lastRolloutDecision := none
    lastEvaluatedAtMillis := none
    lastEvaluatedCandidateRequests := none
    lastEvaluatedCandidateErrors := none }
  life := 1
  version := 1

def startedProxy (counters : TrafficCounters) : Proxy where
  stored := startedConfig
  counters := counters
  inFlight := []
  ready := true
  terminating := false

structure Serves (state : IngressState) (counters : TrafficCounters) : Prop where
  process : state.processes 0 = some (.serving (startedProxy counters))
  configFile : state.configFile = some startedConfig
  commands : state.commands = []

def begins : List IngressLabel :=
  [.openCommand (.start (startWith (loopback 8082))), .closeCommand 0 0, .load 0 true, .publish 0]

theorem serves_of_begins : ∃ state, ingressMachine.follow .initial begins = some state ∧
      Serves state (.new 1) := by
  have serving : (ingressMachine.follow .initial begins).map (fun state =>
      (state.processes 0, state.configFile, state.commands)) =
        some (some (.serving (startedProxy (.new 1))), some startedConfig, []) := by
    decide +kernel
  obtain ⟨state, followed, same⟩ := map_eq_some_iff.mp serving
  simp only [Prod.mk.injEq] at same
  exact ⟨state, followed, same.1, same.2.1, same.2.2⟩

def answer (error : Bool) : List IngressLabel := [.route 0 0, .respond 0 0 error 0]

def TrafficCounters.answered (counters : TrafficCounters) (error : Bool) : TrafficCounters :=
  counters.observe ⟨startedConfig, 0⟩ error 0

theorem processes_setProcess (state : IngressState) :
    (state.setProcess pid process).processes pid = process := by
  dsimp only [IngressState.setProcess]
  rw [update_self]

theorem next_of_serving {pid : Nat} {proxy : Proxy} {label : IngressLabel}
    (serving : state.processes pid = some (.serving proxy)) (labelled : label.pid = some pid) :
    ingressMachine.next state label = state.serve pid proxy label := by
  simp [ingressMachine, ingressNext, labelled, IngressState.processNext, serving]

theorem Serves.answer (serves : Serves state counters) :
    ∃ next, ingressMachine.follow state (answer error) = some next ∧
      Serves next (counters.answered error) := by
  let proxy : Proxy := { startedProxy counters with inFlight := [⟨startedConfig, 0⟩] }
  have routed : ingressMachine.next state (.route 0 0) =
      some (state.setProcess 0 (some (.serving proxy))) := next_of_serving serves.process rfl
  refine ⟨((state.setProcess 0 (some (.serving proxy))).setProcess 0
    (some (.serving (startedProxy (counters.answered error))))), ?_,
    processes_setProcess .., serves.configFile, serves.commands⟩
  simp only [Traffic.answer, Machine.follow, routed]
  rfl

def answers (error : Bool) (count : Nat) : List IngressLabel :=
  (List.replicate count (answer error)).flatten

structure Grown (counters grown : TrafficCounters) (requests errors : Nat) : Prop where
  generation : grown.generation = counters.generation
  requests : grown.candidate.requests = (counters.candidate.requests + requests) % 2 ^ 64
  errors : grown.candidate.errors = (counters.candidate.errors + errors) % 2 ^ 64

theorem Grown.refl (requests : counters.candidate.requests < 2 ^ 64)
    (errors : counters.candidate.errors < 2 ^ 64) : Grown counters counters 0 0 where
  generation := rfl
  requests := (mod_eq_of_lt requests).symm
  errors := (mod_eq_of_lt errors).symm

theorem Grown.trans (first : Grown counters middle firstRequests firstErrors)
    (later : Grown middle grown laterRequests laterErrors) :
    Grown counters grown (firstRequests + laterRequests) (firstErrors + laterErrors) where
  generation := later.generation.trans first.generation
  requests := by rw [later.requests, first.requests, mod_add_mod, add_assoc]
  errors := by rw [later.errors, first.errors, mod_add_mod, add_assoc]

theorem Grown.requests_lt {requests errors : Nat} (more : Grown counters grown requests errors) :
    grown.candidate.requests < 2 ^ 64 := by
  rw [more.requests]
  exact mod_lt _ (Nat.two_pow_pos 64)

theorem Grown.errors_lt {requests errors : Nat} (more : Grown counters grown requests errors) :
    grown.candidate.errors < 2 ^ 64 := by
  rw [more.errors]
  exact mod_lt _ (Nat.two_pow_pos 64)

theorem grown_answered (active : counters.generation = 1)
    (errorsFit : counters.candidate.errors < 2 ^ 64) (error : Bool) :
    Grown counters (counters.answered error) 1 (if error then 1 else 0) := by
  have observed : counters.answered error = { counters with
      candidate := counters.candidate.add error 0
      observed := ⟨1, loopback 8082, error⟩ :: counters.observed } := if_neg (not_not.mpr active)
  rw [observed]
  refine ⟨rfl, rfl, ?_⟩
  cases error with
  | false => exact (mod_eq_of_lt errorsFit).symm
  | true => rfl

theorem Serves.answers (serves : Serves state counters) (active : counters.generation = 1)
    (requestsFit : counters.candidate.requests < 2 ^ 64)
    (errorsFit : counters.candidate.errors < 2 ^ 64) (error : Bool) (count : Nat) :
    ∃ next grown, ingressMachine.follow state (answers error count) =
        some next ∧ Serves next grown ∧
      Grown counters grown count (if error then count else 0) := by
  induction count generalizing state counters with
  | zero =>
    refine ⟨state, counters, rfl, serves, ?_⟩
    rw [ite_self]
    exact .refl requestsFit errorsFit
  | succ count induction =>
    obtain ⟨next, followed, after⟩ := serves.answer
    have one := grown_answered active errorsFit error
    obtain ⟨last, grown, rest, serving, more⟩ := induction after
      (one.generation.trans active) one.requests_lt one.errors_lt
    refine ⟨last, grown, ?_, serving, ?_⟩
    · exact (ingressMachine.follow_append followed).trans rest
    have both := one.trans more
    rw [add_comm 1 count] at both
    cases error with
    | false => exact both
    | true =>
      rw [if_pos rfl, if_pos rfl, add_comm 1 count] at both
      exact both

/-- So many answers that the count of requests is 1 again, the last seven of
them errors. -/
def wrappedAnswers : List IngressLabel := begins ++ (answers false (2 ^ 64 - 6) ++ answers true 7)

theorem serves_of_wrappedAnswers : ∃ state counters,
      ingressMachine.follow .initial wrappedAnswers = some state ∧
        Serves state counters ∧ counters.generation = 1 ∧
        counters.candidate.requests = 1 ∧ counters.candidate.errors = 7 := by
  obtain ⟨begun, followed, serves⟩ := serves_of_begins
  obtain ⟨middle, counted, succeeded, serving, first⟩ :=
    serves.answers rfl (Nat.two_pow_pos 64) (Nat.two_pow_pos 64) false (2 ^ 64 - 6)
  obtain ⟨last, wrapped, failed, atLast, second⟩ :=
    serving.answers first.generation first.requests_lt first.errors_lt true 7
  have all := first.trans second
  refine ⟨last, wrapped, ?_, atLast, all.generation, ?_, ?_⟩
  · rw [wrappedAnswers, ingressMachine.follow_append followed,
      ingressMachine.follow_append succeeded, failed]
  · rw [all.requests]
    decide
  · rw [all.errors]
    decide

def halfBudget : EvaluateArguments where
  minimumRequests := 1
  positive := Nat.one_pos
  maximumErrorBasisPoints := 5000

def evaluatesHalf : List IngressLabel :=
  [.flush 0, .openCommand (.update (.evaluate halfBudget)), .closeCommand 0 1000]

theorem rolloutDecision_wrapped {counters : ReleaseCounters}
    (requests : counters.requests = 1) (errors : counters.errors = 7) :
    rolloutDecision halfBudget 1000 startedConfig.config counters = .promoted := by
  have rate : errorBasisPoints counters = 4464 := by
    rw [errorBasisPoints, requests, errors]
    decide
  rw [rolloutDecision, requests, rate]
  decide

theorem trafficEvaluate_wrapped (active : counters.generation = 1)
    (requests : counters.candidate.requests = 1) (errors : counters.candidate.errors = 7) :
    ∃ written, trafficEvaluate halfBudget 1000 startedConfig.config
      (some counters) = .ok (.promoted, written) := by
  have decided := rolloutDecision_wrapped requests errors
  cases run : trafficEvaluate halfBudget 1000 startedConfig.config (some counters) with
  | ok result =>
    obtain ⟨decision, written⟩ := result
    rw [decision_of_trafficEvaluate run, decided]
    exact ⟨written, rfl⟩
  | error error =>
    -- The generation is the current one, and there is a next one.
    change (if counters.generation ≠ 1 then _ else _) = _ at run
    rw [if_neg (not_not.mpr active)] at run
    rw [decided] at run
    cases run

theorem Serves.promoted (serves : Serves state counters) (active : counters.generation = 1)
    (requests : counters.candidate.requests = 1) (errors : counters.candidate.errors = 7) :
    ∃ transition ∈ ingressMachine.transitions state evaluatesHalf,
      transition.source.verdict transition.label =
        some ⟨halfBudget, counters.candidate, .promoted⟩ := by
  have flushed : ingressMachine.next state (.flush 0) =
      some (state.writeMetrics (startedProxy counters)) := next_of_serving serves.process rfl
  let opened : IngressState := { state.writeMetrics (startedProxy counters) with
      commands := [.update (.evaluate halfBudget) startedConfig] }
  have opens : ingressMachine.next (state.writeMetrics (startedProxy counters))
      (.openCommand (.update (.evaluate halfBudget))) = some opened := by
    simp [ingressMachine, ingressNext, IngressLabel.pid,
      IngressState.commandNext, IngressState.open, IngressState.writeMetrics,
      serves.configFile, serves.commands, opened]
  obtain ⟨target, closes⟩ : ∃ target,
      ingressMachine.next opened (.closeCommand 0 1000) = some target := ⟨_, rfl⟩
  refine ⟨⟨opened, .closeCommand 0 1000, target⟩, ?_, ?_⟩
  · rw [evaluatesHalf, ingressMachine.transitions_step flushed,
      ingressMachine.transitions_step opens, ingressMachine.transitions_step closes]
    exact List.mem_cons_of_mem _ (List.mem_cons_of_mem _ List.mem_cons_self)
  · obtain ⟨written, evaluated⟩ := trafficEvaluate_wrapped active requests errors
    have commands : opened.commands[0]? = some (.update (.evaluate halfBudget) startedConfig) := rfl
    have metrics : opened.metricsFile = some ⟨counters, startedConfig⟩ := rfl
    simp [IngressState.verdict, commands, metrics, evaluated]

theorem overrun_budget_promoted :
    ¬ ∀ labels, ∀ transition ∈ ingressMachine.transitions .initial labels,
      ∀ verdict ∈ transition.source.verdict transition.label, verdict.Sound := by
  intro always
  obtain ⟨state, counters, followed, serves, active, requests, errors⟩ := serves_of_wrappedAnswers
  obtain ⟨transition, member, promoted⟩ := serves.promoted active requests errors
  have sound := always (wrappedAnswers ++ evaluatesHalf) transition
    (ingressMachine.mem_transitions_of_follow followed member) _ promoted
  have within := (sound.promoted rfl).2
  dsimp only [Verdict.WithinBudget] at within
  rw [requests, errors] at within
  exact absurd within (by decide)

end Pam.Traffic
