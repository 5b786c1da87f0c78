import Mathlib.Algebra.Order.Ring.Nat
import Pam.Foundation.Run

namespace Pam.Traffic

open Pam.Foundation

/-! The traffic ingress of one name: the `traffic:*` commands, processes that
share only files with the proxy, and the proxy, which routes requests to the
stable and the candidate release. -/

inductive IpAddr where
  | v4 (bits : BitVec 32)
  | v6 (bits : BitVec 128)
  deriving DecidableEq

def IpAddr.isLoopback : IpAddr → Bool
  | .v4 bits => bits >>> 24 = 127
  | .v6 bits => bits = 1

def IpAddr.isUnspecified : IpAddr → Bool
  | .v4 bits => bits = 0
  | .v6 bits => bits = 0

structure SocketAddr where
  ip : IpAddr
  port : BitVec 16
  deriving DecidableEq

inductive RolloutPhase where
  | stable
  | evaluating
  | promoted
  | aborted
  deriving DecidableEq

inductive RolloutDecision where
  | pending
  | promoted
  | aborted
  | deadlineAborted
  deriving DecidableEq

structure TrafficConfig where
  generation : Nat
  listen : SocketAddr
  stable : SocketAddr
  candidate : Option SocketAddr
  candidateWeightBasisPoints : Nat
  rolloutPhase : RolloutPhase
  rolloutDeadlineMillis : Option Nat
  lastRolloutDecision : Option RolloutDecision
  lastEvaluatedAtMillis : Option Nat
  lastEvaluatedCandidateRequests : Option Nat
  lastEvaluatedCandidateErrors : Option Nat
  deriving DecidableEq

def validateConfig (config : TrafficConfig) : Except String Unit := if config.generation = 0 then
    .error "unsupported traffic config contract"
  else if 10000 < config.candidateWeightBasisPoints then
    .error "candidate weight must be 0-10000 basis points"
  else if config.candidate = none ∧ config.candidateWeightBasisPoints ≠ 0 then
    .error "candidate weight requires a candidate upstream"
  else if config.listen = config.stable ∨ config.candidate = some config.listen then
    .error "traffic ingress cannot proxy to its own listener"
  else if ¬ config.listen.ip.isLoopback ∧ (config.stable.ip.isUnspecified ∨
        config.candidate.any fun candidate => candidate.ip.isUnspecified) then
    .error "public traffic ingress requires explicit upstream addresses"
  else .ok ()

def maxU64 : Nat := 2 ^ 64 - 1

def nextGeneration (generation : Nat) : Except String Nat :=
  if generation < maxU64 then .ok (generation + 1) else .error "traffic generation exhausted"

def deadlineAfter (now deadlineSeconds : Nat) : Nat :=
  -- Both operations saturate.
  min (now + min (deadlineSeconds * 1000) maxU64) maxU64

structure ReleaseCounters where
  requests : Nat
  errors : Nat
  latencyMicros : Nat
  deriving DecidableEq

def ReleaseCounters.zero : ReleaseCounters where
  requests := 0
  errors := 0
  latencyMicros := 0

/-- A counted response of a candidate: the version of the routing configuration
and the upstream that answered. Only the counters exist in the source. -/
structure Observation where
  version : Nat
  upstream : SocketAddr
  error : Bool
  deriving DecidableEq

structure TrafficCounters where
  generation : Nat
  stable : ReleaseCounters
  candidate : ReleaseCounters
  observed : List Observation
  deriving DecidableEq

def TrafficCounters.new (generation : Nat) : TrafficCounters where
  generation := generation
  stable := .zero
  candidate := .zero
  observed := []

def fetchAdd (value increment : Nat) : Nat :=
  -- An atomic addition wraps around.
  (value + increment) % 2 ^ 64

def ReleaseCounters.add (counters : ReleaseCounters) (error : Bool)
    (micros : Nat) : ReleaseCounters where
  requests := fetchAdd counters.requests 1
  errors := if error then fetchAdd counters.errors 1 else counters.errors
  latencyMicros := fetchAdd counters.latencyMicros micros

structure StartArguments where
  listen : Option SocketAddr
  stable : Option SocketAddr
  candidate : Option SocketAddr
  weight : Nat
  deadlineSeconds : Nat
  deriving DecidableEq

structure SetArguments where
  candidate : Option SocketAddr
  weight : Option Nat
  deadlineSeconds : Nat
  deriving DecidableEq

structure EvaluateArguments where
  minimumRequests : Nat
  positive : 0 < minimumRequests
  maximumErrorBasisPoints : Nat
  deriving DecidableEq

def trafficStart (arguments : StartArguments) (now : Nat) : Except String TrafficConfig := do
  let evaluating := arguments.candidate.isSome ∧ 0 < arguments.weight
  let listen ← arguments.listen.elim (.error "traffic:start requires --listen") .ok
  let stable ← arguments.stable.elim (.error "traffic:start requires --stable") .ok
  let config : TrafficConfig := {
    generation := 1
    listen := listen
    stable := stable
    candidate := arguments.candidate
    candidateWeightBasisPoints := arguments.weight
    rolloutPhase := if evaluating then .evaluating else .stable
    rolloutDeadlineMillis := if evaluating then some (deadlineAfter now arguments.deadlineSeconds)
      else none
    lastRolloutDecision := none
    lastEvaluatedAtMillis := none
    lastEvaluatedCandidateRequests := none
    lastEvaluatedCandidateErrors := none }
  validateConfig config
  return config

def trafficSet (arguments : SetArguments) (now : Nat)
    (config : TrafficConfig) : Except String TrafficConfig := do
  let config := { config with
    candidate := arguments.candidate.orElse fun _ => config.candidate
    candidateWeightBasisPoints := arguments.weight.getD config.candidateWeightBasisPoints }
  let config := if config.candidate.isSome ∧ 0 < config.candidateWeightBasisPoints then
      { config with
        rolloutPhase := .evaluating
        rolloutDeadlineMillis := some (deadlineAfter now arguments.deadlineSeconds)
        lastRolloutDecision := none
        lastEvaluatedAtMillis := none
        lastEvaluatedCandidateRequests := none
        lastEvaluatedCandidateErrors := none }
    else config
  let generation ← nextGeneration config.generation
  let config := { config with generation := generation }
  validateConfig config
  return config

def terminalStable (promote : Bool) (config : TrafficConfig) : Except String SocketAddr :=
  if promote then config.candidate.elim (.error "traffic ingress has no candidate to promote") .ok
  else .ok config.stable

def updateTrafficTerminal (promote : Bool) (config : TrafficConfig) :
    Except String TrafficConfig := do
  let stable ← terminalStable promote config
  let generation ← nextGeneration config.generation
  return { config with
    generation := generation
    stable := stable
    candidate := none
    candidateWeightBasisPoints := 0
    rolloutPhase := if promote then .promoted else .aborted
    rolloutDeadlineMillis := none
    lastRolloutDecision := some (if promote then .promoted else .aborted) }

def errorBasisPoints (counters : ReleaseCounters) : Nat := if counters.requests = 0 then 0
  else (counters.errors * 10000 + (counters.requests - 1)) / counters.requests % 2 ^ 16

def rolloutDecision (arguments : EvaluateArguments) (now : Nat)
    (config : TrafficConfig) (counters : ReleaseCounters) : RolloutDecision :=
  if config.rolloutDeadlineMillis.any fun deadline => deadline ≤ now then .deadlineAborted
  else if counters.requests < arguments.minimumRequests then .pending
  else if errorBasisPoints counters ≤ arguments.maximumErrorBasisPoints then .promoted
  else .aborted

def candidateEvaluated (config : TrafficConfig) : Except String SocketAddr :=
  match config.candidate, config.rolloutPhase with
  | some candidate, .evaluating => .ok candidate
  | _, _ => .error "traffic ingress has no rollout under evaluation"

def concludeRollout (decision : RolloutDecision) (candidate : SocketAddr)
    (config : TrafficConfig) : Except String TrafficConfig := do
  if decision = .pending then return config
  else
    let generation ← nextGeneration config.generation
    return { config with
      generation := generation
      stable := if decision = .promoted then candidate else config.stable
      rolloutPhase := if decision = .promoted then .promoted else .aborted
      candidate := none
      candidateWeightBasisPoints := 0
      rolloutDeadlineMillis := none }

def trafficEvaluate (arguments : EvaluateArguments) (now : Nat)
    (config : TrafficConfig) (metrics : Option TrafficCounters) :
    Except String (RolloutDecision × TrafficConfig) := do
  let candidate ← candidateEvaluated config
  let metrics ← metrics.elim (.error "invalid traffic metrics file") .ok
  if metrics.generation ≠ config.generation then
    .error "rollout metrics have not reached the active generation"
  else
    let decision := rolloutDecision arguments now config metrics.candidate
    let written ← concludeRollout decision candidate { config with
      lastRolloutDecision := some decision
      lastEvaluatedAtMillis := some now
      lastEvaluatedCandidateRequests := some metrics.candidate.requests
      lastEvaluatedCandidateErrors := some metrics.candidate.errors }
    return (decision, written)

/-- A configuration in the file or in memory. `life` counts the
`traffic:start` commands and `version` the routing changes; neither exists in
the source. -/
structure StoredConfig where
  config : TrafficConfig
  life : Nat
  version : Nat
  deriving DecidableEq

/-- A request on its way, with the configuration of the proxy at the time and
the bucket of the request. -/
structure Routed where
  stored : StoredConfig
  bucket : Nat
  deriving DecidableEq

def Routed.candidate (routed : Routed) : Option SocketAddr :=
  routed.stored.config.candidate.filter fun _ =>
    routed.bucket < routed.stored.config.candidateWeightBasisPoints

/-- `observe`, which drops responses to requests of another generation. -/
def TrafficCounters.observe (counters : TrafficCounters) (routed : Routed)
    (error : Bool) (micros : Nat) : TrafficCounters :=
  if counters.generation ≠ routed.stored.config.generation then counters
  else
    match routed.candidate with
    | none => { counters with stable := counters.stable.add error micros }
    | some upstream => { counters with
        candidate := counters.candidate.add error micros
        observed := ⟨routed.stored.version, upstream, error⟩ :: counters.observed }

structure Proxy where
  stored : StoredConfig
  counters : TrafficCounters
  inFlight : List Routed
  /-- The state file is published, and with it the tasks can run. -/
  ready : Bool
  terminating : Bool
  deriving DecidableEq

inductive Process where
  | starting
  | serving (proxy : Proxy)
  deriving DecidableEq

/-- The metrics file; `origin` is the configuration of the proxy that wrote
it. -/
structure StoredMetrics where
  counters : TrafficCounters
  origin : StoredConfig

inductive Update where
  | set (arguments : SetArguments)
  | terminal (promote : Bool)
  | evaluate (arguments : EvaluateArguments)
  deriving DecidableEq

/-- A command that has read what it needs and has not written yet. -/
inductive OpenCommand where
  | start (arguments : StartArguments)
  | update (update : Update) (read : StoredConfig)
  deriving DecidableEq

structure IngressState where
  configFile : Option StoredConfig
  metricsFile : Option StoredMetrics
  /-- the process in the state file -/
  stateFile : Option Nat
  processes : Nat → Option Process
  spawned : Nat
  commands : List OpenCommand
  lives : Nat
  versions : Nat

def IngressState.initial : IngressState where
  configFile := none
  metricsFile := none
  stateFile := none
  processes := fun _ => none
  spawned := 0
  commands := []
  lives := 0
  versions := 0

inductive Command where
  | start (arguments : StartArguments)
  | stop
  | update (update : Update)
  deriving DecidableEq

inductive Ending where
  | shutdown
  | error
  | killed

inductive IngressLabel where
  | openCommand (command : Command)
  | closeCommand (index : Nat) (now : Nat)
  /-- The command fails or is killed before it writes. -/
  | abandonCommand (index : Nat)
  | load (pid : Nat) (binds : Bool)
  | publish (pid : Nat)
  | watchTick (pid : Nat)
  | route (pid : Nat) (bucket : Nat)
  | respond (pid : Nat) (index : Nat) (error : Bool) (micros : Nat)
  | flush (pid : Nat)
  | exit (pid : Nat) (ending : Ending)

def IngressState.setProcess (state : IngressState) (pid : Nat)
    (process : Option Process) : IngressState :=
  { state with processes := Function.update state.processes pid process }

def IngressState.running (state : IngressState) : Option Nat :=
  state.stateFile.filter fun pid => (state.processes pid).isSome

def IngressState.stop (state : IngressState) : IngressState := match state.running with
  | none => state
  | some pid =>
    match state.processes pid with
    | some (.serving proxy) =>
      state.setProcess pid (some (.serving { proxy with terminating := true }))
    | _ => state

def IngressState.open (state : IngressState) : Command → IngressState
  | .start arguments =>
    if state.running.isSome then state
    else { state with commands := state.commands ++ [.start arguments] }
  | .stop => state.stop
  | .update update =>
    match state.configFile with
    | none => state
    | some read => { state with commands := state.commands ++ [.update update read] }

def Update.apply (update : Update) (now : Nat) (config : TrafficConfig)
    (metrics : Option StoredMetrics) : Except String TrafficConfig :=
  match update with
  | .set arguments => trafficSet arguments now config
  | .terminal promote => updateTrafficTerminal promote config
  | .evaluate arguments =>
    (trafficEvaluate arguments now config (metrics.map StoredMetrics.counters)).map Prod.snd

/-- An evaluation that stays pending changes no routing. -/
def IngressState.write (state : IngressState) (read : StoredConfig)
    (config : TrafficConfig) : IngressState := { state with
    configFile := some {
      config := config
      life := read.life
      version := if config.generation = read.config.generation then read.version
        else state.versions + 1 }
    versions := state.versions + 1 }

def IngressState.close (state : IngressState) (command : OpenCommand) (now : Nat) : IngressState :=
  match command with
  | .start arguments =>
    match trafficStart arguments now with
    | .error _ => state
    | .ok config => { state.setProcess state.spawned (some .starting) with
        configFile := some {
          config := config
          life := state.lives + 1
          version := state.versions + 1 }
        spawned := state.spawned + 1
        lives := state.lives + 1
        versions := state.versions + 1 }
  | .update update read =>
    match update.apply now read.config state.metricsFile with
    | .error _ => state
    | .ok config => state.write read config

def IngressState.load (state : IngressState) (pid : Nat) (binds : Bool) : IngressState :=
  match state.configFile with
  | none => state.setProcess pid none
  | some stored =>
    if binds ∧ (validateConfig stored.config).isOk then
      state.setProcess pid (some (.serving {
        stored := stored
        counters := .new stored.config.generation
        inFlight := []
        ready := false
        terminating := false }))
    else state.setProcess pid none

def Proxy.watch (proxy : Proxy) (file : Option StoredConfig) : Proxy := match file with
  | none => proxy
  | some stored =>
    if (validateConfig stored.config).isOk ∧
        proxy.stored.config.generation < stored.config.generation then
      { proxy with
        stored := stored
        counters := .new stored.config.generation }
    else proxy

def Proxy.respond (proxy : Proxy) (index : Nat) (routed : Routed)
    (error : Bool) (micros : Nat) : Proxy := { proxy with
    counters := proxy.counters.observe routed error micros
    inFlight := proxy.inFlight.eraseIdx index }

def IngressState.writeMetrics (state : IngressState) (proxy : Proxy) : IngressState :=
  -- The proxy has one thread: a snapshot is of one moment.
  { state with metricsFile := some ⟨proxy.counters, proxy.stored⟩ }

def IngressState.exit (state : IngressState) (pid : Nat) (proxy : Proxy) :
    Ending → Option IngressState
  | .shutdown =>
    if proxy.ready ∧ proxy.terminating then
      some { (state.writeMetrics proxy).setProcess pid none with stateFile := none }
    else none
  | .error => some { state.setProcess pid none with
      stateFile := if proxy.ready then none else state.stateFile }
  | .killed => some (state.setProcess pid none)

def IngressState.serve (state : IngressState) (pid : Nat) (proxy : Proxy) :
    IngressLabel → Option IngressState
  | .publish _ =>
    if proxy.ready then none
    else
      some { state.setProcess pid (some (.serving { proxy with ready := true })) with
        stateFile := some pid }
  | .watchTick _ =>
    if proxy.ready then some (state.setProcess pid (some (.serving (proxy.watch state.configFile))))
    else none
  | .route _ bucket =>
    if proxy.ready then
      some (state.setProcess pid (some (.serving { proxy with
        inFlight := proxy.inFlight ++ [⟨proxy.stored, bucket⟩] })))
    else none
  | .respond _ index error micros =>
    match proxy.inFlight[index]? with
    | none => none
    | some routed =>
      some (state.setProcess pid (some (.serving (proxy.respond index routed error micros))))
  | .flush _ => if proxy.ready then some (state.writeMetrics proxy) else none
  | .exit _ ending => state.exit pid proxy ending
  | _ => none

def IngressLabel.pid : IngressLabel → Option Nat
  | .load pid _ => some pid
  | .publish pid => some pid
  | .watchTick pid => some pid
  | .route pid _ => some pid
  | .respond pid _ _ _ => some pid
  | .flush pid => some pid
  | .exit pid _ => some pid
  | _ => none

def IngressState.processNext (state : IngressState) (pid : Nat)
    (label : IngressLabel) : Option IngressState :=
  match state.processes pid, label with
  | some .starting, .load _ binds => some (state.load pid binds)
  | some .starting, .exit _ _ => some (state.setProcess pid none)
  | some (.serving proxy), label => state.serve pid proxy label
  | _, _ => none

def IngressState.commandNext (state : IngressState) : IngressLabel → Option IngressState
  | .openCommand command => some (state.open command)
  | .closeCommand index now =>
    match state.commands[index]? with
    | none => none
    | some command => some { state.close command now with
        commands := state.commands.eraseIdx index }
  | .abandonCommand index => some { state with commands := state.commands.eraseIdx index }
  | _ => none

def ingressNext (state : IngressState) (label : IngressLabel) : Option IngressState :=
  match label.pid with
  | none => state.commandNext label
  | some pid => state.processNext pid label

def ingressMachine : Machine IngressState IngressLabel where
  start := .initial
  next := ingressNext

end Pam.Traffic
