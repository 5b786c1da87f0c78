import Pam.Foundation.Failure
import Pam.Traffic.Ingress

namespace Pam.Traffic

open Pam.Foundation List Except

/-! Provenance of the evidence on which `traffic:evaluate` decides. -/

/-- What the counters of the candidate count: responses of its upstream to
requests routed under the configuration. -/
@[mk_iff]
structure TrafficCounters.CountOnly (counters : TrafficCounters)
    (stored : StoredConfig) : Prop where
  version : ∀ observation ∈ counters.observed, observation.version = stored.version
  upstream : ∀ observation ∈ counters.observed, stored.config.candidate = some observation.upstream
  requests : counters.candidate.requests = counters.observed.length % 2 ^ 64
  errors : counters.candidate.errors =
    (counters.observed.countP fun observation => observation.error) % 2 ^ 64

def IngressState.evaluation (state : IngressState) : IngressLabel → Option RolloutDecision
  | .closeCommand index now =>
    match state.commands[index]? with
    | some (.update (.evaluate arguments) read) =>
      match trafficEvaluate arguments now read.config
          (state.metricsFile.map StoredMetrics.counters) with
      | .ok (decision, _) => some decision
      | .error _ => none
    | _ => none
  | _ => none

/-- An evaluation that decides on the rate of errors counts responses to
requests routed under the configuration in the file. -/
def EvidenceCurrent (state : IngressState) (label : IngressLabel) : Prop :=
  ∀ decision ∈ state.evaluation label, decision = .promoted ∨ decision = .aborted →
      ∃ stored ∈ state.configFile, ∃ metrics ∈ state.metricsFile, metrics.counters.CountOnly stored

def OpenCommand.evaluates : OpenCommand → Bool
  | .update (.evaluate _) _ => true
  | _ => false

/-- Commands do not overlap, and an evaluation finds a metrics file of the
generation in the configuration file only if a proxy wrote it under a
configuration of the latest `traffic:start`. -/
def evidenceKept (state : IngressState) : IngressLabel → Prop
  | .openCommand command => command = .stop ∨ state.commands = []
  | .closeCommand index _ => ∀ command ∈ state.commands[index]?, command.evaluates →
      ∀ metrics ∈ state.metricsFile, ∀ stored ∈ state.configFile,
        metrics.counters.generation = stored.config.generation → metrics.origin.life = stored.life
  | _ => True

def Succeeds (config written : TrafficConfig) : Prop :=
  written.generation = config.generation + 1 ∨ (written.generation = config.generation ∧
      written.candidate = config.candidate)

theorem nextGeneration_eq {next : Nat} (advanced : nextGeneration generation = .ok next) :
    next = generation + 1 := by
  unfold nextGeneration at advanced
  split at advanced
  · exact (ok.inj advanced).symm
  · cases advanced

theorem trafficSet_succeeds (run : trafficSet arguments now config = .ok written) :
    Succeeds config written := by
  obtain ⟨generation, advanced, run⟩ := bind_eq_ok.mp run
  obtain ⟨_, _, run⟩ := bind_eq_ok.mp run
  cases run
  left
  have next := nextGeneration_eq advanced
  split at next <;> exact next

theorem updateTrafficTerminal_succeeds (run : updateTrafficTerminal promote config = .ok written) :
    Succeeds config written := by
  obtain ⟨stable, _, run⟩ := bind_eq_ok.mp run
  obtain ⟨generation, advanced, run⟩ := bind_eq_ok.mp run
  cases run
  exact .inl (nextGeneration_eq advanced)

theorem concludeRollout_succeeds (run : concludeRollout decision candidate config = .ok written) :
    Succeeds config written := by
  unfold concludeRollout at run
  split at run
  · cases run
    exact .inr ⟨rfl, rfl⟩
  obtain ⟨generation, advanced, run⟩ := bind_eq_ok.mp run
  cases run
  exact .inl (nextGeneration_eq advanced)

theorem trafficEvaluate_ok (run : trafficEvaluate arguments now config metrics =
      .ok (decision, written)) : (∃ counters ∈ metrics, counters.generation = config.generation) ∧
      Succeeds config written := by
  obtain ⟨candidate, _, run⟩ := bind_eq_ok.mp run
  obtain ⟨counters, found, run⟩ := bind_eq_ok.mp run
  cases metrics with
  | none => cases found
  | some stored =>
    obtain rfl := ok.inj found
    split at run
    case isTrue => cases run
    case isFalse same =>
      obtain ⟨concluded, conclusion, run⟩ := bind_eq_ok.mp run
      obtain ⟨rfl, rfl⟩ := Prod.mk.inj (ok.inj run)
      have succeeds := concludeRollout_succeeds conclusion
      exact ⟨⟨_, rfl, not_not.mp same⟩, succeeds⟩

theorem apply_succeeds {update : Update} (run : update.apply now config metrics = .ok written) :
    Succeeds config written := by
  cases update with
  | set arguments => exact trafficSet_succeeds run
  | terminal promote => exact updateTrafficTerminal_succeeds run
  | evaluate arguments =>
    simp only [Update.apply] at run
    cases evaluated : trafficEvaluate arguments now config (metrics.map StoredMetrics.counters) with
    | error message =>
      rw [evaluated] at run
      cases run
    | ok outcome =>
      rw [evaluated] at run
      cases run
      exact (trafficEvaluate_ok evaluated).2

/-- A configuration that was the latest at some time: it is of an earlier life,
or of an earlier generation, or it routes as the latest does. -/
structure Behind (latest stored : StoredConfig) : Prop where
  life : stored.life ≤ latest.life
  generation : stored.life = latest.life → stored.config.generation ≤ latest.config.generation
  routing : stored.life = latest.life → stored.config.generation = latest.config.generation →
    stored.version = latest.version ∧ stored.config.candidate = latest.config.candidate

theorem Behind.refl : Behind stored stored where
  life := Nat.le_refl _
  generation := fun _ => Nat.le_refl _
  routing := fun _ _ => ⟨rfl, rfl⟩

theorem Behind.restart (behind : Behind latest stored) {next : StoredConfig}
    (later : latest.life < next.life) : Behind next stored where
  life := Nat.le_of_lt (Nat.lt_of_le_of_lt behind.life later)
  generation := by
    have := behind.life
    omega
  routing := by
    have := behind.life
    omega

def StoredConfig.next (read : StoredConfig) (config : TrafficConfig)
    (version : Nat) : StoredConfig where
  config := config
  life := read.life
  version := if config.generation = read.config.generation then read.version
    else version

theorem Behind.next {read stored : StoredConfig} (behind : Behind read stored)
    {config : TrafficConfig} (succeeds : Succeeds read.config config)
    (version : Nat) : Behind (read.next config version) stored where
  life := behind.life
  generation := by
    intro same
    have earlier := behind.generation same
    rcases succeeds with advanced | ⟨kept, _⟩
    · exact advanced ▸ Nat.le_succ_of_le earlier
    · exact kept ▸ earlier
  routing := by
    intro same generation
    have earlier := behind.generation same
    simp only [StoredConfig.next] at generation
    rcases succeeds with advanced | ⟨kept, candidate⟩
    · omega
    obtain ⟨version_eq, candidate_eq⟩ := behind.routing same (generation.trans kept)
    simp only [StoredConfig.next, kept]
    exact ⟨version_eq, candidate_eq.trans candidate.symm⟩

def WasStored (file : Option StoredConfig) (stored : StoredConfig) : Prop :=
  ∃ latest ∈ file, Behind latest stored

variable {counters : TrafficCounters}

theorem countOnly_new : (TrafficCounters.new generation).CountOnly stored where
  version := by simp [TrafficCounters.new]
  upstream := by simp [TrafficCounters.new]
  requests := rfl
  errors := rfl

theorem TrafficCounters.CountOnly.congr (counted : counters.CountOnly stored)
    (version : stored.version = other.version)
    (candidate : stored.config.candidate = other.config.candidate) : counters.CountOnly other where
  version := fun observation member => (counted.version observation member).trans version
  upstream := fun observation member => candidate.symm.trans (counted.upstream observation member)
  requests := counted.requests
  errors := counted.errors

theorem observe_generation (error : Bool) :
    (counters.observe routed error micros).generation = counters.generation := by
  unfold TrafficCounters.observe
  split
  · rfl
  · split <;> rfl

theorem TrafficCounters.CountOnly.observe (counted : counters.CountOnly stored)
    (current : counters.generation = routed.stored.config.generation → routed.stored = stored)
    (error : Bool) (micros : Nat) : (counters.observe routed error micros).CountOnly stored := by
  unfold TrafficCounters.observe
  split
  case isTrue => exact counted
  case isFalse same =>
    obtain rfl := current (not_not.mp same)
    split
    case h_1 => exact ⟨counted.version, counted.upstream, counted.requests, counted.errors⟩
    case h_2 upstream routedTo =>
      have candidate : routed.stored.config.candidate = some upstream :=
        (Option.filter_eq_some_iff.mp routedTo).1
      exact {
        version := forall_mem_cons.mpr ⟨rfl, counted.version⟩
        upstream := forall_mem_cons.mpr ⟨candidate, counted.upstream⟩
        requests := by simp [ReleaseCounters.add, fetchAdd, counted.requests]
        errors := by cases error <;> simp [ReleaseCounters.add, fetchAdd, counted.errors] }

structure Proxy.Consistent (proxy : Proxy) : Prop where
  generation : proxy.counters.generation = proxy.stored.config.generation
  counted : proxy.counters.CountOnly proxy.stored
  inFlight : ∀ routed ∈ proxy.inFlight, routed.stored = proxy.stored ∨
    routed.stored.config.generation < proxy.stored.config.generation

structure StoredMetrics.Consistent (metrics : StoredMetrics) : Prop where
  generation : metrics.counters.generation = metrics.origin.config.generation
  counted : metrics.counters.CountOnly metrics.origin

structure Provenance (state : IngressState) : Prop where
  single : state.commands.length ≤ 1
  based : ∀ update read, .update update read ∈ state.commands → state.configFile = some read
  lives : ∀ stored ∈ state.configFile, stored.life ≤ state.lives
  proxies : ∀ pid proxy, state.processes pid = some (.serving proxy) →
    proxy.Consistent ∧ WasStored state.configFile proxy.stored
  metrics : ∀ metrics ∈ state.metricsFile,
    metrics.Consistent ∧ WasStored state.configFile metrics.origin

theorem Provenance.initial : Provenance .initial where
  single := Nat.zero_le _
  based := by simp [IngressState.initial]
  lives := by simp [IngressState.initial]
  proxies := by simp [IngressState.initial]
  metrics := by simp [IngressState.initial]

section Steps

theorem Provenance.setProcess (provenance : Provenance state) (pid : Nat) (process : Option Process)
    (consistent : ∀ proxy, process = some (.serving proxy) →
      proxy.Consistent ∧ WasStored state.configFile proxy.stored) :
    Provenance (state.setProcess pid process) where
  single := provenance.single
  based := provenance.based
  lives := provenance.lives
  proxies := (Function.forall_update_iff state.processes fun _ stored =>
    ∀ proxy, stored = some (.serving proxy) →
      proxy.Consistent ∧ WasStored state.configFile proxy.stored).mpr
        ⟨consistent, fun other _ => provenance.proxies other⟩
  metrics := provenance.metrics

theorem Provenance.setStateFile (provenance : Provenance state) (stateFile : Option Nat) :
    Provenance { state with stateFile := stateFile } := { provenance with }

variable {proxy : Proxy}

section

variable (provenance : Provenance state)
include provenance

theorem Provenance.writeMetrics (consistent : proxy.Consistent)
    (wasStored : WasStored state.configFile proxy.stored) : Provenance (state.writeMetrics proxy) :=
  { provenance with
    metrics := by
      intro metrics written
      cases written
      exact ⟨⟨consistent.generation, consistent.counted⟩, wasStored⟩ }

theorem Provenance.eraseCommand :
    Provenance { state with commands := state.commands.eraseIdx index } := { provenance with
    single := Nat.le_trans (length_eraseIdx_le ..) provenance.single
    based := fun update read member => provenance.based update read (mem_of_mem_eraseIdx member) }

theorem Provenance.setConfigFile (stored : StoredConfig) (lives : Nat) (life : stored.life ≤ lives)
    (behind : ∀ other, WasStored state.configFile other → Behind stored other) (versions : Nat) :
    Provenance { state with
      configFile := some stored
      commands := []
      lives := lives
      versions := versions } where
  single := Nat.zero_le _
  based := by simp
  lives := by
    intro latest written
    cases written
    exact life
  proxies := by
    intro pid proxy found
    obtain ⟨consistent, wasStored⟩ := provenance.proxies pid proxy found
    exact ⟨consistent, stored, rfl, behind proxy.stored wasStored⟩
  metrics := by
    intro metrics found
    obtain ⟨consistent, wasStored⟩ := provenance.metrics metrics found
    exact ⟨consistent, stored, rfl, behind metrics.origin wasStored⟩

theorem Provenance.stop : Provenance state.stop := by
  unfold IngressState.stop
  split
  · exact provenance
  split
  case h_1 proxy found =>
    refine provenance.setProcess _ _ ?_
    intro changed stored
    obtain rfl := Process.serving.inj (Option.some.inj stored)
    obtain ⟨consistent, wasStored⟩ := provenance.proxies _ proxy found
    exact ⟨⟨consistent.generation, consistent.counted, consistent.inFlight⟩, wasStored⟩
  case h_2 => exact provenance

theorem Provenance.open (kept : evidenceKept state (.openCommand command)) :
    Provenance (state.open command) := by
  cases command with
  | stop => exact provenance.stop
  | start arguments =>
    have alone : state.commands = [] := Or.resolve_left kept (by simp)
    simp only [IngressState.open]
    split
    · exact provenance
    exact { provenance with
      single := by simp [alone]
      based := by simp [alone] }
  | update update =>
    have alone : state.commands = [] := Or.resolve_left kept (by simp)
    simp only [IngressState.open]
    split
    case h_1 => exact provenance
    case h_2 read file => exact { provenance with
        single := by simp [alone]
        based := by
          intro other stored member
          simp only [alone, nil_append, mem_singleton, OpenCommand.update.injEq] at member
          rw [file, member.2] }

end

theorem eraseIdx_of_single {elements : List Element} (single : elements.length ≤ 1)
    (found : elements[index]? = some element) : elements.eraseIdx index = [] := by
  have bound := (List.getElem?_eq_some_iff.mp found).1
  apply List.length_eq_zero_iff.mp
  rw [List.length_eraseIdx_of_lt bound]
  omega

section

variable (provenance : Provenance state)
include provenance

theorem Provenance.close {index : Nat} (found : state.commands[index]? = some command) (now : Nat) :
    Provenance { state.close command now with commands := state.commands.eraseIdx index } := by
  have alone := eraseIdx_of_single provenance.single found
  cases command with
  | start arguments =>
    simp only [IngressState.close]
    split
    case h_1 => exact provenance.eraseCommand
    case h_2 config started =>
      have spawned := provenance.setProcess state.spawned (some .starting) (by simp)
      rw [alone]
      refine { spawned.setConfigFile ⟨config, state.lives + 1, state.versions + 1⟩ (state.lives + 1)
        (Nat.le_refl _) ?_ (state.versions + 1) with }
      -- The generation starts again, but the life is a new one.
      rintro other ⟨latest, file, behind⟩
      exact behind.restart (Nat.lt_succ_of_le (provenance.lives latest file))
  | update update read =>
    have file : state.configFile = some read := provenance.based update read (mem_of_getElem? found)
    simp only [IngressState.close]
    split
    case h_1 => exact provenance.eraseCommand
    case h_2 config applied =>
      rw [alone]
      refine provenance.setConfigFile (read.next config (state.versions + 1)) state.lives
        (provenance.lives read file) ?_ (state.versions + 1)
      rintro other ⟨latest, stored, behind⟩
      cases (file.symm.trans stored)
      exact behind.next (apply_succeeds applied) _

theorem Provenance.commandNext (kept : evidenceKept state label)
    (step : state.commandNext label = some target) : Provenance target := by
  cases label with
  | openCommand command => exact Option.some.inj step ▸ provenance.open kept
  | closeCommand index now =>
    simp only [IngressState.commandNext] at step
    split at step
    case h_1 => cases step
    case h_2 command found => exact Option.some.inj step ▸ provenance.close found now
  | abandonCommand index => exact Option.some.inj step ▸ provenance.eraseCommand
  | load pid binds | publish pid | watchTick pid | route pid bucket
  | respond pid index error micros | flush pid | exit pid ending => cases step

theorem Provenance.load (pid : Nat) (binds : Bool) : Provenance (state.load pid binds) := by
  unfold IngressState.load
  split
  case h_1 => exact provenance.setProcess pid none (by simp)
  case h_2 stored file =>
    split
    · refine provenance.setProcess pid _ ?_
      intro proxy loaded
      obtain rfl := Process.serving.inj (Option.some.inj loaded)
      exact ⟨⟨rfl, countOnly_new, by simp⟩, stored, file, .refl⟩
    · exact provenance.setProcess pid none (by simp)

end

theorem Proxy.Consistent.watch (consistent : proxy.Consistent)
    (wasStored : WasStored file proxy.stored) :
    (proxy.watch file).Consistent ∧ WasStored file (proxy.watch file).stored := by
  unfold Proxy.watch
  split
  case h_1 => exact ⟨consistent, wasStored⟩
  case h_2 stored =>
    split
    case isTrue newer =>
      refine ⟨⟨rfl, countOnly_new, ?_⟩, stored, rfl, .refl⟩
      intro routed member
      rcases consistent.inFlight routed member with same | older
      · exact .inr (same ▸ newer.2)
      · exact .inr (Nat.lt_trans older newer.2)
    case isFalse => exact ⟨consistent, wasStored⟩

theorem Proxy.Consistent.respond (consistent : proxy.Consistent) {index : Nat} {routed : Routed}
    (found : proxy.inFlight[index]? = some routed) (error : Bool)
    (micros : Nat) : (proxy.respond index routed error micros).Consistent where
  generation := (observe_generation error).trans consistent.generation
  counted := by
    refine consistent.counted.observe ?_ error micros
    intro current
    rcases consistent.inFlight routed (mem_of_getElem? found) with same | older
    · exact same
    -- A late response: its generation is not that of the counters.
    rw [consistent.generation] at current
    omega
  inFlight := fun other member => consistent.inFlight other (mem_of_mem_eraseIdx member)

variable (provenance : Provenance state)
include provenance

theorem Provenance.serve (found : state.processes pid = some (.serving proxy))
    (step : state.serve pid proxy label = some target) : Provenance target := by
  obtain ⟨consistent, wasStored⟩ := provenance.proxies pid proxy found
  have changed (other : Proxy) (kept : other.Consistent)
      (stored : WasStored state.configFile other.stored) :
      Provenance (state.setProcess pid (some (.serving other))) := by
    refine provenance.setProcess pid _ ?_
    intro serving same
    obtain rfl := Process.serving.inj (Option.some.inj same)
    exact ⟨kept, stored⟩
  have removed := provenance.setProcess pid none (by simp)
  cases label with
  | publish other =>
    simp only [IngressState.serve] at step
    split at step
    · cases step
    cases step
    exact (changed { proxy with ready := true }
      ⟨consistent.generation, consistent.counted, consistent.inFlight⟩
      wasStored).setStateFile (some pid)
  | watchTick other =>
    simp only [IngressState.serve] at step
    split at step
    · cases step
      obtain ⟨watched, stored⟩ := consistent.watch wasStored
      exact changed _ watched stored
    · cases step
  | route other bucket =>
    simp only [IngressState.serve] at step
    split at step
    · cases step
      refine changed { proxy with inFlight := proxy.inFlight ++ [⟨proxy.stored, bucket⟩] }
        ⟨consistent.generation, consistent.counted, ?_⟩ wasStored
      intro routed member
      rcases mem_append.mp member with earlier | new
      · exact consistent.inFlight routed earlier
      · obtain rfl := mem_singleton.mp new
        exact .inl rfl
    · cases step
  | respond other index error micros =>
    simp only [IngressState.serve] at step
    split at step
    case h_1 => cases step
    case h_2 routed sent =>
      cases step
      exact changed _ (consistent.respond sent error micros) wasStored
  | flush other =>
    simp only [IngressState.serve] at step
    split at step
    · cases step
      exact provenance.writeMetrics consistent wasStored
    · cases step
  | exit other ending =>
    cases ending with
    | shutdown =>
      simp only [IngressState.serve, IngressState.exit] at step
      split at step
      · cases step
        exact ((provenance.writeMetrics consistent wasStored).setProcess
          pid none (by simp)).setStateFile none
      · cases step
    | error => exact Option.some.inj step ▸ removed.setStateFile _
    | killed => exact Option.some.inj step ▸ removed
  | openCommand command | closeCommand index now | abandonCommand index
  | load other binds => cases step

theorem Provenance.processNext
    (step : state.processNext pid label = some target) : Provenance target := by
  unfold IngressState.processNext at step
  split at step
  case h_1 => exact Option.some.inj step ▸ provenance.load pid _
  case h_2 => exact Option.some.inj step ▸ provenance.setProcess pid none (by simp)
  case h_3 proxy found => exact provenance.serve found step
  case h_4 => cases step

theorem ingressNext_provenance (kept : evidenceKept state label)
    (step : ingressNext state label = some target) : Provenance target := by
  unfold ingressNext at step
  split at step
  · exact provenance.commandNext kept step
  · exact provenance.processNext step

theorem Provenance.evidenceCurrent (kept : evidenceKept state label) :
    EvidenceCurrent state label := by
  intro decision decided _
  cases label with
  | closeCommand index now =>
    simp only [IngressState.evaluation] at decided
    split at decided
    case h_1 arguments read found =>
      split at decided
      case h_1 outcome config evaluated =>
        obtain ⟨⟨counters, metricsFound, generation⟩, _⟩ := trafficEvaluate_ok evaluated
        obtain ⟨metrics, metricsFile, rfl⟩ := Option.map_eq_some_iff.mp metricsFound
        have file : state.configFile = some read := provenance.based _ read (mem_of_getElem? found)
        have life := kept _ found rfl metrics metricsFile read file generation
        obtain ⟨consistent, latest, stored, behind⟩ := provenance.metrics metrics metricsFile
        cases (file.symm.trans stored)
        obtain ⟨version, candidate⟩ := behind.routing life
          (consistent.generation.symm.trans generation)
        exact ⟨read, file, metrics, metricsFile, consistent.counted.congr version candidate⟩
      case h_2 => cases decided
    case h_2 => cases decided
  | _ => cases decided

end Steps

theorem evidenceCurrent_of_kept (labels : List IngressLabel) (kept : ∀ transition ∈
        ingressMachine.transitions ingressMachine.start labels,
      evidenceKept transition.source transition.label) :
    ∀ transition ∈ ingressMachine.transitions ingressMachine.start labels,
      EvidenceCurrent transition.source transition.label := by
  refine ingressMachine.transitions_of_guarded Provenance evidenceKept
    (fun state label _ => EvidenceCurrent state label) ?_ .initial kept
  intro state label target provenance guarded step
  exact ⟨ingressNext_provenance provenance guarded step, provenance.evidenceCurrent guarded⟩

instance (state : IngressState) (label : IngressLabel) : Decidable (evidenceKept state label) := by
  unfold evidenceKept
  split <;> infer_instance

instance (counters : TrafficCounters) (stored : StoredConfig) :
    Decidable (counters.CountOnly stored) :=
  decidable_of_iff' _ (TrafficCounters.countOnly_iff ..)

instance (state : IngressState) (label : IngressLabel) :
    Decidable (EvidenceCurrent state label) := by
  unfold EvidenceCurrent
  infer_instance

def loopback (port : BitVec 16) : SocketAddr := ⟨.v4 (127 <<< 24 ||| 1), port⟩

def startWith (candidate : SocketAddr) : StartArguments where
  listen := some (loopback 8080)
  stable := some (loopback 8081)
  candidate := some candidate
  weight := 10000
  deadlineSeconds := 300

def candidateAnswers (candidate : SocketAddr) : List IngressLabel :=
  [.openCommand (.start (startWith candidate)), .closeCommand 0 0, .load 0 true,
    .publish 0, .route 0 17, .respond 0 0 false 900, .flush 0]

def evaluates : List IngressLabel :=
  [.openCommand (.update (.evaluate ⟨1, by decide, 0⟩)), .closeCommand 0 1000]

theorem evidenceCurrent_candidateAnswers :
    (∀ transition ∈ ingressMachine.transitions ingressMachine.start
        (candidateAnswers (loopback 8082) ++ evaluates),
      evidenceKept transition.source transition.label) ∧
    (∀ transition ∈ ingressMachine.transitions ingressMachine.start
        (candidateAnswers (loopback 8082) ++ evaluates),
      EvidenceCurrent transition.source transition.label) ∧
    (∃ transition ∈ ingressMachine.transitions ingressMachine.start
        (candidateAnswers (loopback 8082) ++ evaluates),
      transition.source.evaluation transition.label = some .promoted) := by
  have kept : ∀ transition ∈ ingressMachine.transitions ingressMachine.start
      (candidateAnswers (loopback 8082) ++ evaluates),
      evidenceKept transition.source transition.label := by
    decide +kernel
  exact ⟨kept, evidenceCurrent_of_kept _ kept, by decide +kernel⟩

def restartFails : List IngressLabel := [.openCommand .stop, .exit 0 .shutdown,
    .openCommand (.start (startWith (loopback 8083))), .closeCommand 0 0, .load 1 false]

/-- A candidate that never got a request is promoted for the answer of the
candidate of the life before. -/
theorem unseen_candidate_promoted : ∃ transition ∈ ingressMachine.transitions ingressMachine.start
        (candidateAnswers (loopback 8082) ++ restartFails ++ evaluates),
      transition.source.evaluation transition.label = some .promoted ∧
      (transition.source.configFile.bind fun stored =>
        stored.config.candidate) = some (loopback 8083) ∧
      (transition.source.metricsFile.map fun metrics =>
        metrics.counters.observed.map Observation.upstream) = some [loopback 8082] ∧
      ¬ EvidenceCurrent transition.source transition.label := by
  decide +kernel

end Pam.Traffic
