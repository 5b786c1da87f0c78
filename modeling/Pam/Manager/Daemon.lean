import Pam.Foundation.Run
import Pam.Manager.Ecosystem

namespace Pam.Manager

open Pam.Foundation

/-! `pamd` and its clients. The daemon runs one program at a time: the command
of a request, a supervision pass, a batch of health results, or the restoration
at its start. `apply` and an attached `up` run in clients of their own. -/

abbrev ClientId := Nat

inductive LocalCommand where
  | attach (options : UpOptions)
  | apply (applications : List (AppName × EcosystemApplication))
  deriving DecidableEq

def LocalCommand.program : LocalCommand → ManagerM Unit
  | .attach options => up options
  | .apply applications => do
    let _ ← reconcileEcosystem .apply applications
    return ()

structure Request where
  command : ManagerCommand
  client : Option ClientId

inductive Origin where
  | request (command : ManagerCommand)
  | supervision
  | healthResults (results : List HealthProbeResult)
  | start

def superviseOnce : ManagerM Unit := do
  let _ ← superviseApplications
  return ()

def Origin.program : Origin → ManagerM Unit
  | .request command => runLocal command
  | .supervision => superviseOnce
  | .healthResults results => applyHealthProbeResults results
  | .start => restoreSaved

def Origin.automatic : Origin → Bool
  | .request _ => false
  | _ => true

structure DaemonJob where
  origin : Origin
  client : Option ClientId
  program : ManagerProgram (Except String Unit)

/-- `waiting` is set while `pamd` has a command of the client. -/
structure Client where
  command : LocalCommand
  program : ManagerProgram (Except String Unit)
  waiting : Bool

inductive Actor where
  | daemon
  | client (id : ClientId)
  deriving DecidableEq

/-- A launch that has looked for a running master and not yet spawned its own;
`found` is what it saw in the state file. -/
structure Launching where
  actor : Actor
  name : AppName
  found : Option Pid

/-- What the history of a run keeps of the user's intent. -/
inductive ManagerEvent where
  | issued (command : ManagerCommand)
  | issuedLocal (command : LocalCommand)
  | accepted (command : ManagerCommand)
  | clientActed (command : LocalCommand)
  | stopPersisted (name : AppName)
  | savedListRead (applications : List SavedApplication)
  deriving DecidableEq

/-- `launching` and `history`, latest event first, are no state of the source:
they record what a run has done. -/
structure ManagerState where
  world : World
  serving : Bool
  job : Option DaemonJob
  requests : List Request
  clients : Table ClientId Client
  nextClient : ClientId
  launching : List Launching
  history : List ManagerEvent

def ManagerState.initial : ManagerState where
  world := .empty
  serving := false
  job := none
  requests := []
  clients := ∅
  nextClient := 0
  launching := []
  history := []

inductive ManagerLabel where
  | issue (command : ManagerCommand)
  | issueLocal (command : LocalCommand)
  | startDaemon
  | stopDaemon
  | accept (index : Nat)
  | supervise
  | applyHealth (results : List HealthProbeResult)
  | daemonStep (fault : Option String)
  | clientStep (id : ClientId) (fault : Option String)
  | ready (pid : Pid) (workers : Nat)
  | exit (pid : Pid) (graceful : Bool)
  | tick (millis : Nat)

def ManagerCommand.names (name : AppName) : ManagerCommand → Bool
  | .up options => options.name == name
  | .restart other => other == name
  | .scale other _ => other == name
  | .deploy other _ => other == name
  | .rollback other _ => other == name
  | .stop _ => false
  | .delete _ => false
  | .save => false
  | .resurrect => false

def LocalCommand.names (name : AppName) : LocalCommand → Bool
  | .attach options => options.name == name
  | .apply applications => applications.any fun entry => entry.1 == name

def dropActor (launching : List Launching) (actor : Actor) : List Launching :=
  launching.filter fun entry => entry.actor != actor

def launchingAfter (launching : List Launching) (actor : Actor) :
    (action : ManagerAction) → action.Answer → List Launching
  | .findMaster name _, found =>
    ⟨actor, name, found.map MasterState.pid⟩ :: dropActor launching actor
  | .findRecord name, present =>
    match present with
    | true => launching
    | false => ⟨actor, name, none⟩ :: dropActor launching actor
  | .spawn _ _ _, _ => dropActor launching actor
  | _, _ => launching

def Origin.events (origin : Origin) : (action : ManagerAction) → action.Answer → List ManagerEvent
  | .writeRecord _, .ok () =>
    match origin with
    | .request (.stop name) => [.stopPersisted name]
    | _ => []
  | .readSavedList, .ok applications => [.savedListRead applications]
  | _, _ => []

def ManagerState.begin (state : ManagerState) (origin : Origin)
    (client : Option ClientId) : ManagerState := { state with
    serving := true
    job := some ⟨origin, client, origin.program.run⟩ }

def ManagerState.deliver (state : ManagerState) (client : Option ClientId)
    (result : Except String Unit) : Table ClientId Client :=
  match client with
  | none => state.clients
  | some id =>
    match state.clients.lookup id with
    | some { command, program := .perform (.execute _) next
             waiting := true } =>
        state.clients.insert id { command := command, program := next result, waiting := false }
    | _ => state.clients

def ManagerState.daemonStep (state : ManagerState) (fault : Option String) : Option ManagerState :=
  match state.job with
  | none => none
  | some { client, program := .done result, .. } =>
    -- A response that is lost is an error for the client that waits for it.
    some { state with
      job := none
      clients := state.deliver client (fault.elim result Except.error)
      launching := dropActor state.launching .daemon }
  | some { origin, client, program := .perform action next } =>
    let (answer, world) := state.world.perform fault action
    some { state with
      world := world
      job := some ⟨origin, client, next answer⟩
      launching := launchingAfter state.launching .daemon action answer
      history := origin.events action answer ++ state.history }

def ManagerState.clientStep (state : ManagerState) (id : ClientId)
    (fault : Option String) : Option ManagerState :=
  match state.clients.lookup id with
  | none => none
  | some client =>
    match client.program with
    | .done _ => some { state with
        clients := state.clients.erase id
        launching := dropActor state.launching (.client id) }
    | .perform action next =>
      -- A fault on a command is a failure to hand it to `pamd`.
      if client.waiting then none
      else
        match action.executed, fault with
        | some command, none => some { state with
            requests := state.requests ++ [⟨command, some id⟩]
            clients := state.clients.insert id { client with waiting := true }
            history := .clientActed client.command :: state.history }
        | _, _ =>
          let (answer, world) := state.world.perform fault action
          some { state with
            world := world
            clients := state.clients.insert id { client with program := next answer }
            launching := launchingAfter state.launching (.client id) action answer
            history := .clientActed client.command :: state.history }

def managerStep (state : ManagerState) : ManagerLabel → Option ManagerState
  | .issue command => some { state with
      requests := state.requests ++ [⟨command, none⟩]
      history := .issued command :: state.history }
  | .issueLocal command => some { state with
      clients := state.clients.insert state.nextClient ⟨command, command.program.run, false⟩
      nextClient := state.nextClient + 1
      history := .issuedLocal command :: state.history }
  | .startDaemon => if state.serving then none else some (state.begin .start none)
  | .stopDaemon =>
    if state.serving && state.job.isNone then some { state with serving := false } else none
  | .accept index =>
    match state.requests[index]? with
    | none => none
    | some request =>
      if state.serving && state.job.isNone then
        some { state.begin (.request request.command) request.client with
          requests := state.requests.eraseIdx index
          history := .accepted request.command :: state.history }
      else none
  | .supervise =>
    if state.serving && state.job.isNone then some (state.begin .supervision none) else none
  | .applyHealth results =>
    if state.serving && state.job.isNone then some (state.begin (.healthResults results) none)
    else none
  | .daemonStep fault => state.daemonStep fault
  | .clientStep id fault => state.clientStep id fault
  | .ready pid workers =>
    (state.world.becomesReady pid workers).map fun world => { state with world := world }
  | .exit pid graceful =>
    (state.world.exits pid graceful).map fun world => { state with world := world }
  | .tick millis => some { state with
      world := { state.world with clock := state.world.clock + millis } }

def managerMachine : Machine ManagerState ManagerLabel where
  start := .initial
  next := managerStep

variable {state : ManagerState}

theorem lookup_deliver {id : ClientId}
    (found : (state.deliver receiver result).lookup id = some client) :
    state.clients.lookup id = some client ∨ ∃ command executed next answer,
        state.clients.lookup id = some ⟨command, .perform (.execute executed) next, true⟩ ∧
          client = ⟨command, next answer, false⟩ := by
  unfold ManagerState.deliver at found
  split at found
  · exact .inl found
  next waitingId =>
  split at found
  next command executed next waiting =>
    rcases Table.lookup_of_lookup_insert found with ⟨rfl, rfl⟩ | ⟨_, before⟩
    · exact .inr ⟨command, executed, next, _, waiting, rfl⟩
    · exact .inl before
  · exact .inl found

theorem ManagerAction.eq_execute {action : ManagerAction}
    (executed : action.executed = some command) : action = .execute command := by
  cases action with
  | execute other =>
    cases executed
    rfl
  | _ => cases executed

theorem clientStep_cases {id : ClientId} (step : state.clientStep id fault = some target) :
    ∃ client, state.clients.lookup id = some client ∧ (target = { state with
          clients := state.clients.erase id
          launching := dropActor state.launching (.client id) } ∨
        (∃ command next, client.program = .perform (.execute command) next ∧
          client.waiting = false ∧ target = { state with
            requests := state.requests ++ [⟨command, some id⟩]
            clients := state.clients.insert id { client with waiting := true }
            history := .clientActed client.command :: state.history }) ∨
        ∃ action next, client.program = .perform action next ∧
          client.waiting = false ∧ target = { state with
            world := (state.world.perform fault action).2
            clients := state.clients.insert id { client with
              program := next (state.world.perform fault action).1 }
            launching := launchingAfter state.launching (.client id) action
              (state.world.perform fault action).1
            history := .clientActed client.command :: state.history }) := by
  unfold ManagerState.clientStep at step
  split at step
  · cases step
  next client found =>
  refine ⟨client, found, ?_⟩
  split at step
  · cases step
    exact .inl rfl
  next action next program =>
  split at step
  · cases step
  next idle =>
  rw [Bool.not_eq_true] at idle
  split at step
  next command executed =>
    cases step
    cases ManagerAction.eq_execute executed
    exact .inr (.inl ⟨command, next, program, idle, rfl⟩)
  · cases step
    exact .inr (.inr ⟨action, next, program, idle, rfl⟩)

inductive World.Moves (world : World) : World → Prop where
  | stays : world.Moves world
  | ready {pid workers target} (ready : world.becomesReady pid workers =
      some target) : world.Moves target
  | exits {pid graceful target} (exits : world.exits pid graceful =
      some target) : world.Moves target
  | ticks (millis : Nat) : world.Moves { world with clock := world.clock + millis }

inductive ManagerState.Moves (state : ManagerState) : ManagerState → Prop where
  | issue (command : ManagerCommand) : state.Moves { state with
      requests := state.requests ++ [⟨command, none⟩]
      history := .issued command :: state.history }
  | issueLocal (command : LocalCommand) : state.Moves { state with
      clients := state.clients.insert state.nextClient ⟨command, command.program.run, false⟩
      nextClient := state.nextClient + 1
      history := .issuedLocal command :: state.history }
  | accept (request : Request) (requests : List Request) :
      state.Moves { state.begin (.request request.command) request.client with
        requests := requests
        history := .accepted request.command :: state.history }
  | begin (origin : Origin) (automatic : origin.automatic = true) :
      state.Moves (state.begin origin none)
  | outside {world : World} (serving : Bool) (moves : state.world.Moves world) :
      state.Moves { state with world := world, serving := serving }

theorem managerStep_cases (step : managerStep state label = some target) :
    (∃ fault, label = .daemonStep fault ∧ state.daemonStep fault = some target) ∨
      (∃ id fault, label = .clientStep id fault ∧ state.clientStep id fault = some target) ∨
      state.Moves target := by
  have idle : ∀ {next : ManagerState}, state.Moves next →
      (if state.serving && state.job.isNone then some next else none) =
        some target → state.Moves target := by
    intro next moves taken
    split at taken
    · cases taken
      exact moves
    · cases taken
  cases label with
  | daemonStep fault => exact .inl ⟨fault, rfl, step⟩
  | clientStep id fault => exact .inr (.inl ⟨id, fault, rfl, step⟩)
  | issue command =>
    cases step
    exact .inr (.inr (.issue command))
  | issueLocal command =>
    cases step
    exact .inr (.inr (.issueLocal command))
  | startDaemon =>
    dsimp only [managerStep] at step
    split at step
    · cases step
    · cases step
      exact .inr (.inr (.begin .start rfl))
  | stopDaemon => exact .inr (.inr (idle (.outside false .stays) step))
  | accept index =>
    dsimp only [managerStep] at step
    split at step
    · cases step
    next request found => exact .inr (.inr (idle (.accept request _) step))
  | supervise => exact .inr (.inr (idle (.begin .supervision rfl) step))
  | applyHealth results => exact .inr (.inr (idle (.begin (.healthResults results) rfl) step))
  | ready pid workers =>
    obtain ⟨world, ready, rfl⟩ := Option.map_eq_some_iff.mp step
    exact .inr (.inr (.outside state.serving (.ready ready)))
  | exit pid graceful =>
    obtain ⟨world, exits, rfl⟩ := Option.map_eq_some_iff.mp step
    exact .inr (.inr (.outside state.serving (.exits exits)))
  | tick millis =>
    cases step
    exact .inr (.inr (.outside state.serving (.ticks millis)))

def runtimeApplication (directory : Directory) : EcosystemApplication where
  laravel := false
  script := "index.php"
  workers := 2
  cwd := directory
  arguments := []
  identitySha256 := directory
  phpExtensions := []
  phpExtensionIsolation := false
  autostart := true
  envFile := none
  shutdownTimeoutMillis := 20000
  healthCheckAddress := none
  healthCheckPath := none
  healthCheckIntervalMillis := defaultHealthIntervalMillis
  healthCheckTimeoutMillis := defaultHealthTimeoutMillis
  healthCheckStartPeriodMillis := 0
  healthCheckFailureThreshold := defaultHealthFailureThreshold
  autoRestart := true
  restartDelayMillis := 250
  restartBackoffMaxMillis := 15000
  maxUnstableRestarts := 16
  minUptimeMillis := 30000
  memoryWarningBytes := none
  taskWarningCount := none
  memoryMaxBytes := none
  taskMaxCount := none

def shopOptions : UpOptions := { (runtimeApplication "/srv/shop").upOptions "shop" with
  workers := none }

def daemonSteps (count : Nat) : List ManagerLabel := List.replicate count (.daemonStep none)

def clientSteps (id : ClientId) (count : Nat) : List ManagerLabel :=
  List.replicate count (.clientStep id none)

end Pam.Manager
