import Pam.Traffic.RolloutEvidence

namespace Pam.Traffic

open Pam.Foundation Option Except

/-! The configurations that the commands write, one command after another. -/

def RolloutPhase.isTerminal (phase : RolloutPhase) : Bool := phase == .promoted || phase == .aborted

/-- The TLS files of a configuration are those of its start. Whether they pass
their check is asked anew by each validation. -/
inductive TrafficCommand where
  | start (arguments : StartArguments) (now : Nat) (tlsValid : Bool)
  | update (update : Update) (now : Nat) (metrics : Option StoredMetrics) (tlsValid : Bool)
  /-- The proxy process ends. -/
  | stopped

def TrafficCommand.tlsValid : TrafficCommand → Bool
  | .start _ _ valid => valid
  | .update _ _ _ valid => valid
  | .stopped => true

structure TrafficFile where
  config : Option TrafficConfig
  running : Bool

def Update.validates : Update → Bool
  | .set _ => true
  | _ => false

/-- Only commands that succeed. -/
def TrafficFile.next (state : TrafficFile) : TrafficCommand → Option TrafficFile
  | .start arguments now tlsValid =>
    if state.running || !tlsValid then none
    else
      match trafficStart arguments now with
      | .ok config => some ⟨some config, true⟩
      | .error _ => none
  | .update update now metrics tlsValid =>
    if update.validates && !tlsValid then none
    else
      match state.config.map fun config => update.apply now config metrics with
      | some (.ok written) => some { state with config := some written }
      | _ => none
  | .stopped => some { state with running := false }

def trafficMachine : Machine TrafficFile TrafficCommand where
  start := ⟨none, false⟩
  next := TrafficFile.next

structure TrafficConfig.Regular (config : TrafficConfig) : Prop where
  valid : validateConfig config = .ok ()
  weighted : 0 < config.candidateWeightBasisPoints →
    config.candidate.isSome ∧ config.rolloutPhase = .evaluating ∧
      config.rolloutDeadlineMillis.isSome
  terminal : config.rolloutPhase.isTerminal →
    config.candidate = none ∧ config.candidateWeightBasisPoints = 0 ∧
      config.rolloutDeadlineMillis = none

def TrafficConfig.routing (config : TrafficConfig) : SocketAddr × Option SocketAddr × Nat :=
  (config.stable, config.candidate, config.candidateWeightBasisPoints)

/-- What is written is regular, and while the proxy runs a change of the routing
has a larger generation. -/
structure WritesRegular (source : TrafficFile) (command : TrafficCommand)
    (target : TrafficFile) : Prop where
  regular : ∀ config ∈ target.config, config.Regular
  tls : command.tlsValid = true
  generation : source.running = true → ∀ before ∈ source.config,
    ∀ after ∈ target.config, after.routing ≠ before.routing → before.generation < after.generation

/-- No candidate is set without a weight once a rollout is over, and the TLS
files still pass when a command writes without validating. -/
def KeepsRegular (state : TrafficFile) : TrafficCommand → Prop
  | .update (.set arguments) _ _ _ => ∀ config ∈ state.config,
    config.rolloutPhase.isTerminal → arguments.candidate.isSome → 0 < arguments.weight.getD 0
  | .update _ _ _ tlsValid => tlsValid = true
  | _ => True

theorem validateConfig_eq_ok_iff : validateConfig config = .ok () ↔
    config.generation ≠ 0 ∧ config.candidateWeightBasisPoints ≤ 10000 ∧
      (config.candidate = none → config.candidateWeightBasisPoints = 0) ∧
      config.listen ≠ config.stable ∧ config.candidate ≠ some config.listen ∧
      (config.listen.ip.isLoopback = false →
        config.stable.ip.isUnspecified = false ∧ ∀ candidate ∈ config.candidate,
            candidate.ip.isUnspecified = false) := by
  unfold validateConfig
  cases config.candidate <;> split_ifs <;> grind

structure Concludes (config written : TrafficConfig) : Prop where
  generation : written.generation = config.generation + 1
  listen : written.listen = config.listen
  stable : written.stable = config.stable ∨ config.candidate = some written.stable
  candidate : written.candidate = none
  weight : written.candidateWeightBasisPoints = 0
  deadline : written.rolloutDeadlineMillis = none

theorem Concludes.regular (concludes : Concludes config written)
    (regular : config.Regular) : written.Regular := by
  have valid := validateConfig_eq_ok_iff.mp regular.valid
  refine ⟨validateConfig_eq_ok_iff.mpr ?_, ?_, fun _ =>
    ⟨concludes.candidate, concludes.weight, concludes.deadline⟩⟩
  · have := concludes.generation
    have := concludes.listen
    have := concludes.candidate
    have := concludes.weight
    rcases concludes.stable with same | promoted <;> grind
  · intro weighted
    rw [concludes.weight] at weighted
    cases weighted

theorem terminal_concludes (run : updateTrafficTerminal promote config = .ok written) :
    Concludes config written := by
  obtain ⟨stable, chosen, run⟩ := bind_eq_ok.mp run
  obtain ⟨generation, advanced, run⟩ := bind_eq_ok.mp run
  cases run
  refine ⟨nextGeneration_eq advanced, rfl, ?_, rfl, rfl, rfl⟩
  cases promote with
  | false => exact .inl (ok.inj chosen).symm
  | true =>
    cases isCandidate : config.candidate with
    | none => simp [terminalStable, isCandidate] at chosen
    | some candidate => simp_all [terminalStable]

theorem evaluate_concludes (run : trafficEvaluate arguments now config metrics =
      .ok (decision, written)) :
    Concludes config written ∨ ∃ decision moment requests errors, written = { config with
        lastRolloutDecision := decision
        lastEvaluatedAtMillis := moment
        lastEvaluatedCandidateRequests := requests
        lastEvaluatedCandidateErrors := errors } := by
  obtain ⟨candidate, evaluated, run⟩ := bind_eq_ok.mp run
  obtain ⟨counters, found, run⟩ := bind_eq_ok.mp run
  split at run
  · cases run
  obtain ⟨concluded, conclusion, run⟩ := bind_eq_ok.mp run
  obtain ⟨rfl, rfl⟩ := Prod.mk.inj (ok.inj run)
  unfold concludeRollout at conclusion
  split at conclusion
  · exact .inr ⟨_, _, _, _, (ok.inj conclusion).symm⟩
  obtain ⟨generation, advanced, conclusion⟩ := bind_eq_ok.mp conclusion
  cases conclusion
  refine .inl ⟨nextGeneration_eq advanced, rfl, ?_, rfl, rfl, rfl⟩
  split
  · unfold candidateEvaluated at evaluated
    split at evaluated <;> simp_all
  · exact .inl rfl

theorem trafficSet_ok (run : trafficSet arguments now config = .ok written) :
    validateConfig written = .ok () ∧ written.generation = config.generation + 1 ∧
      written.candidate = arguments.candidate.orElse (fun _ => config.candidate) ∧
      written.candidateWeightBasisPoints = arguments.weight.getD config.candidateWeightBasisPoints ∧
      if written.candidate.isSome ∧ 0 < written.candidateWeightBasisPoints then
        written.rolloutPhase = .evaluating ∧ written.rolloutDeadlineMillis.isSome
      else written.rolloutPhase = config.rolloutPhase ∧
        written.rolloutDeadlineMillis = config.rolloutDeadlineMillis := by
  unfold trafficSet at run
  by_cases weighted : (arguments.candidate.orElse fun _ => config.candidate).isSome ∧
        0 < arguments.weight.getD config.candidateWeightBasisPoints
  · simp only [if_pos weighted] at run
    obtain ⟨generation, advanced, run⟩ := bind_eq_ok.mp run
    obtain ⟨_, valid, run⟩ := bind_eq_ok.mp run
    cases run
    refine ⟨valid, nextGeneration_eq advanced, rfl, rfl, ?_⟩
    rw [if_pos weighted]
    exact ⟨rfl, rfl⟩
  · simp only [if_neg weighted] at run
    obtain ⟨generation, advanced, run⟩ := bind_eq_ok.mp run
    obtain ⟨_, valid, run⟩ := bind_eq_ok.mp run
    cases run
    refine ⟨valid, nextGeneration_eq advanced, rfl, rfl, ?_⟩
    rw [if_neg weighted]
    exact ⟨rfl, rfl⟩

theorem trafficSet_regular (regular : config.Regular)
    (keeps : config.rolloutPhase.isTerminal → arguments.candidate.isSome →
      0 < arguments.weight.getD 0) (run : trafficSet arguments now config = .ok written) :
    written.Regular := by
  obtain ⟨valid, _, candidate, weight, phases⟩ := trafficSet_ok run
  have least := (validateConfig_eq_ok_iff.mp valid).2.2.1
  have ended := regular.terminal
  refine ⟨valid, ?_, ?_⟩
  · cases isCandidate : written.candidate <;> grind
  intro terminal
  split at phases
  · rw [phases.1] at terminal
    cases terminal
  · cases given : arguments.candidate <;> cases chosen : arguments.weight <;> simp_all

theorem trafficStart_regular
    (run : trafficStart arguments now = .ok written) : written.Regular := by
  obtain ⟨listen, _, run⟩ := bind_eq_ok.mp run
  obtain ⟨stable, _, run⟩ := bind_eq_ok.mp run
  obtain ⟨_, valid, run⟩ := bind_eq_ok.mp run
  cases run
  have least := (validateConfig_eq_ok_iff.mp valid).2.2.1
  refine ⟨valid, ?_, ?_⟩
  · intro weighted
    cases given : arguments.candidate with
    | none => exact absurd (least given) weighted.ne'
    | some candidate => simp_all
  · intro terminal
    split at terminal <;> cases terminal

theorem apply_regular {update : Update} {now : Nat}
    {metrics : Option StoredMetrics} {file : TrafficFile} {tlsValid : Bool}
    (regular : config.Regular) (read : file.config = some config)
    (keeps : KeepsRegular file (.update update now metrics tlsValid))
    (run : update.apply now config metrics = .ok written) :
    written.Regular ∧ (written.routing ≠ config.routing →
      config.generation < written.generation) := by
  have concluded (concludes : Concludes config written) : written.Regular ∧
      (written.routing ≠ config.routing → config.generation < written.generation) :=
    ⟨concludes.regular regular, fun _ => by rw [concludes.generation]; omega⟩
  cases update with
  | set arguments =>
    refine ⟨trafficSet_regular regular (keeps config read) run, fun _ => ?_⟩
    rw [(trafficSet_ok run).2.1]
    omega
  | terminal promote => exact concluded (terminal_concludes run)
  | evaluate arguments =>
    simp only [Update.apply, Except.map] at run
    split at run
    · cases run
    next evaluated =>
    cases run
    rcases evaluate_concludes evaluated with concludes | ⟨_, _, _, _, pending⟩
    · exact concluded concludes
    rw [pending]
    exact ⟨⟨regular.valid, regular.weighted, regular.terminal⟩, fun changed => absurd rfl changed⟩

def TrafficFile.Regular (file : TrafficFile) : Prop := ∀ config ∈ file.config, config.Regular

theorem keeps_regular (regular : file.Regular) (keeps : KeepsRegular file command)
    (step : file.next command = some target) :
    target.Regular ∧ WritesRegular file command target := by
  cases command with
  | start arguments now tlsValid =>
    simp only [TrafficFile.next] at step
    split at step
    · cases step
    next stopped =>
    split at step
    case h_2 => cases step
    next config started =>
    cases step
    simp only [Bool.or_eq_true, Bool.not_eq_true', not_or, Bool.not_eq_false] at stopped
    have written : TrafficFile.Regular ⟨some config, true⟩ := by
      rintro _ ⟨⟩
      exact trafficStart_regular started
    exact ⟨written, written, stopped.2, fun runs => absurd runs stopped.1⟩
  | update update now metrics tlsValid =>
    simp only [TrafficFile.next] at step
    split at step
    · cases step
    next validated =>
    split at step
    case h_2 => cases step
    next written applied =>
    cases step
    obtain ⟨config, read, run⟩ := map_eq_some_iff.mp applied
    obtain ⟨isRegular, advances⟩ := apply_regular (regular config read) read keeps run
    have kept : TrafficFile.Regular ⟨some written, file.running⟩ := by
      rintro _ ⟨⟩
      exact isRegular
    refine ⟨kept, kept, ?_, ?_⟩
    · cases update with
      | set arguments => simpa [Update.validates, TrafficCommand.tlsValid] using validated
      | terminal promote | evaluate arguments => exact keeps
    · rintro _ before isBefore _ ⟨⟩
      cases read.symm.trans isBefore
      exact advances
  | stopped =>
    cases step
    refine ⟨regular, regular, rfl, ?_⟩
    rintro _ before isBefore after isAfter changed
    cases isBefore.symm.trans isAfter
    exact absurd rfl changed

theorem breaks_regular (regular : file.Regular) (careless : ¬ KeepsRegular file command)
    (step : file.next command = some target) : ¬ WritesRegular file command target := by
  intro writes
  cases command with
  | start arguments now tlsValid | stopped => exact careless trivial
  | update update now metrics tlsValid =>
    cases update with
    | terminal promote | evaluate arguments => exact careless writes.tls
    | set arguments =>
      apply careless
      intro config read terminal given
      by_contra unweighted
      simp only [TrafficFile.next] at step
      split at step
      · cases step
      split at step
      case h_2 => cases step
      next written applied =>
      cases step
      obtain ⟨_, same, run⟩ := map_eq_some_iff.mp applied
      cases read.symm.trans same
      obtain ⟨_, _, candidate, weight, phases⟩ := trafficSet_ok run
      have zero : written.candidateWeightBasisPoints = 0 := by
        rw [weight, (regular config read).terminal terminal |>.2.1]
        exact Nat.eq_zero_of_not_pos unweighted
      rw [if_neg (by rw [zero]; exact fun both => nomatch both.2)] at phases
      have unset := ((writes.regular written rfl).terminal (phases.1 ▸ terminal)).1
      obtain ⟨address, isGiven⟩ := isSome_iff_exists.mp given
      rw [unset, isGiven] at candidate
      cases candidate

theorem configurations_regular_iff (commands : List TrafficCommand) :
    (∀ transition ∈ trafficMachine.transitions ⟨none, false⟩ commands,
        WritesRegular transition.source transition.label transition.target) ↔
      ∀ transition ∈ trafficMachine.transitions ⟨none, false⟩ commands,
        KeepsRegular transition.source transition.label :=
  trafficMachine.transitions_iff_guarded TrafficFile.Regular KeepsRegular
    WritesRegular keeps_regular breaks_regular (by rintro _ ⟨⟩) commands

/-- A rollout is aborted, and the next candidate named without a weight. -/
theorem candidate_in_terminal_phase : ¬ ∀ transition ∈ trafficMachine.transitions ⟨none, false⟩
        [.start (startWith (loopback 3)) 0 true, .update (.terminal false) 0 none true,
          .update (.set ⟨some (loopback 4), none, 300⟩) 0 none true],
      WritesRegular transition.source transition.label transition.target := by
  intro regular
  have written := (regular _ (List.mem_of_getElem? (i := 2) rfl)).regular _ rfl
  exact absurd (written.terminal rfl).1 (by decide)

end Pam.Traffic
