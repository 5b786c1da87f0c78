import Mathlib.Data.List.Sort
import Pam.Foundation.Program
import Pam.Foundation.Table
import Pam.Manager.Record

namespace Pam.Manager

open Pam.Foundation

/-! What the manager's code works on: its files, the state files of the masters,
and the masters themselves. -/

structure UpOptions where
  name : AppName
  workingDirectory : Directory
  laravel : Bool
  target : String
  workers : Option Nat
  phpExtensions : List String
  phpExtensionIsolation : Bool
  memoryWarningBytes : Option Nat
  taskWarningCount : Option Nat
  memoryMaxBytes : Option Nat
  taskMaxCount : Option Nat
  environmentFile : Option String
  shutdownTimeoutMillis : Nat
  healthCheckAddress : Option String
  healthCheckPath : Option String
  healthCheckIntervalMillis : Nat
  healthCheckTimeoutMillis : Nat
  healthCheckStartPeriodMillis : Nat
  healthCheckFailureThreshold : Nat
  autoRestart : Bool
  restartDelayMillis : Nat
  restartBackoffMaxMillis : Nat
  maxUnstableRestarts : Nat
  minUptimeMillis : Nat
  applicationArguments : List String
  deriving DecidableEq

inductive ManagerCommand where
  | up (options : UpOptions)
  | restart (name : AppName)
  | scale (name : AppName) (workers : Nat)
  | stop (name : AppName)
  | delete (name : AppName)
  | save
  | resurrect
  | deploy (name : AppName) (release : Directory)
  | rollback (name : AppName) (steps : Nat)
  deriving DecidableEq

inductive MasterSignal where
  | stop
  | kill

inductive Readiness where
  | ready (state : MasterState)
  | exited
  | timedOut

structure Launch where
  workingDirectory : Directory
  command : List String

/-- The accesses of the manager's code to the outside. `findRecord` is the
`record_path.exists()` of `up`, `findMaster` the `running_state` of
`restart_record`; `awaitExit` and `awaitReady` are the polling loops of
`terminate_master` and of a launch; `execute` is a command that `apply` has
`pamd` run. -/
inductive ManagerAction where
  | createDirectories
  | recordExists (name : AppName)
  | findRecord (name : AppName)
  | listRecords
  | readRecord (name : AppName)
  | writeRecord (record : ApplicationRecord)
  | removeRecord (name : AppName)
  | savedListExists
  | readSavedList
  | writeSavedList (applications : List SavedApplication)
  | readDeploymentHistory (name : AppName)
  | writeDeploymentHistory (name : AppName) (history : List DeploymentEntry)
  | validateReleaseDirectory (path : Directory)
  | readMasterState (file : StateFile)
  | findMaster (name : AppName) (file : StateFile)
  | masterIsRunning (state : MasterState)
  | signalMaster (state : MasterState) (signal : MasterSignal)
  | awaitExit (state : MasterState)
  | rotateLogs (name : AppName)
  | spawn (name : AppName) (file : StateFile) (launch : Launch)
  | awaitReady (file : StateFile) (pid : Pid)
  | epochMillis
  | execute (command : ManagerCommand)

def ManagerAction.Answer : ManagerAction → Type
  | .createDirectories => Except String Unit
  | .recordExists _ => Bool
  | .findRecord _ => Bool
  | .listRecords => Except String (List AppName)
  | .readRecord _ => Except String ApplicationRecord
  | .writeRecord _ => Except String Unit
  | .removeRecord _ => Except String Unit
  | .savedListExists => Bool
  | .readSavedList => Except String (List SavedApplication)
  | .writeSavedList _ => Except String Unit
  | .readDeploymentHistory _ => Except String (List DeploymentEntry)
  | .writeDeploymentHistory _ _ => Except String Unit
  | .validateReleaseDirectory _ => Except String Directory
  | .readMasterState _ => Option MasterState
  | .findMaster _ _ => Option MasterState
  | .masterIsRunning _ => Bool
  | .signalMaster _ _ => Except String Unit
  | .awaitExit _ => Bool
  | .rotateLogs _ => Except String Unit
  | .spawn _ _ _ => Except String Pid
  | .awaitReady _ _ => Readiness
  | .epochMillis => Nat
  | .execute _ => Except String Unit

def ManagerAction.executed : ManagerAction → Option ManagerCommand
  | .execute command => some command
  | _ => none

/-- A master process: its application, the state file it publishes once it is
ready, its launch, and whether it was sent `SIGKILL`. -/
structure Master where
  name : AppName
  stateFile : StateFile
  launch : Launch
  ready : Bool
  killed : Bool

structure World where
  directories : Bool
  records : Table AppName ApplicationRecord
  savedList : Option (List SavedApplication)
  deployments : Table AppName (List DeploymentEntry)
  stateFiles : Table StateFile MasterState
  masters : Table Pid Master
  nextPid : Pid
  clock : Nat

def World.empty : World where
  directories := false
  records := ∅
  savedList := none
  deployments := ∅
  stateFiles := ∅
  masters := ∅
  nextPid := 1
  clock := 0

def World.running (world : World) (state : MasterState) : Bool :=
  (world.masters.lookup state.pid).isSome

def World.alive (world : World) (name : AppName) : List Pid :=
  (world.masters.entries.filter fun entry => entry.2.name == name && !entry.2.killed).map Sigma.fst

def World.launch (world : World) (name : AppName) (file : StateFile) (launch : Launch) : World :=
  { world with
    masters := world.masters.insert world.nextPid
      { name := name, stateFile := file, launch := launch, ready := false
        killed := false }
    nextPid := world.nextPid + 1 }

def World.kill (world : World) (pid : Pid) : World := { world with
    masters := world.masters.modify pid fun master => { master with killed := true } }

def World.readiness (world : World) (file : StateFile) (pid : Pid) : Readiness :=
  match (world.stateFiles.lookup file).filter world.running with
  | some state => .ready state
  | none => if (world.masters.lookup pid).isSome then .timedOut else .exited

def World.recordNames (world : World) : List AppName :=
  (world.records.keys.insertionSort fun left right => left ++ ".json" ≤ right ++ ".json")

def orError {Value : Type} (message : String) : Option Value → Except String Value
  | some value => .ok value
  | none => .error message

/-- A fault is a failed file operation or system call: the action is answered by
its message and changes nothing. -/
def World.attempt {Value : Type} (world : World) (fault : Option String)
    (outcome : Except String Value × World) : Except String Value × World :=
  match fault with
  | some message => (.error message, world)
  | none => outcome

def World.signal (world : World) (state : MasterState) (signal : MasterSignal) :
    Except String Unit × World :=
  if world.running state then
    match signal with
    | .stop => (.ok (), world)
    | .kill => (.ok (), world.kill state.pid)
  else (.error ("PAM master " ++ toString state.pid ++ " is not running"), world)

def World.perform (world : World) (fault : Option String) :
    (action : ManagerAction) → action.Answer × World
  | .createDirectories => world.attempt fault (.ok (), { world with directories := true })
  | .recordExists name => ((world.records.lookup name).isSome, world)
  | .findRecord name => ((world.records.lookup name).isSome, world)
  | .listRecords => world.attempt fault <| if maxApplications < world.records.keys.length then
        (.error "manager state exceeds 1024 applications", world)
      else (.ok world.recordNames, world)
  | .readRecord name => world.attempt fault
      (orError "cannot read application record" (world.records.lookup name), world)
  | .writeRecord record => world.attempt fault (.ok (), { world with
      records := world.records.insert record.name record })
  | .removeRecord name =>
    world.attempt fault (.ok (), { world with records := world.records.erase name })
  | .savedListExists => (world.savedList.isSome, world)
  | .readSavedList => world.attempt fault (orError "cannot read dump.json" world.savedList, world)
  | .writeSavedList applications =>
    world.attempt fault (.ok (), { world with savedList := some applications })
  | .readDeploymentHistory name =>
    world.attempt fault (.ok ((world.deployments.lookup name).getD []), world)
  | .writeDeploymentHistory name history => world.attempt fault (.ok (), { world with
      deployments := world.deployments.insert name history })
  | .validateReleaseDirectory path => world.attempt fault (.ok path, world)
  | .readMasterState file => (if fault.isSome then none else world.stateFiles.lookup file, world)
  | .findMaster _ file => (if fault.isSome then none else world.stateFiles.lookup file, world)
  | .masterIsRunning state => (world.running state, world)
  | .signalMaster state signal => world.attempt fault (world.signal state signal)
  | .awaitExit state => (!world.running state, world)
  | .rotateLogs _ => world.attempt fault (.ok (), world)
  | .spawn name file launch =>
    world.attempt fault (.ok world.nextPid, world.launch name file launch)
  | .awaitReady file pid => (world.readiness file pid, world)
  | .epochMillis => (world.clock, world)
  | .execute _ => world.attempt fault (.error "pamd runs no command of its own", world)

def World.becomesReady (world : World) (pid : Pid) (workers : Nat) : Option World :=
  match world.masters.lookup pid with
  | some { name, stateFile, launch, ready := false, killed := false } => some { world with
      masters := world.masters.insert pid
        { name := name, stateFile := stateFile, launch := launch
          ready := true, killed := false }
      stateFiles := world.stateFiles.insert stateFile
        { pid := pid, workers := workers
          startedAtMillis := world.clock } }
  | _ => none

/-- A master that leaves by itself removes its state file, whoever wrote it
last; one that crashes leaves it behind. -/
def World.exits (world : World) (pid : Pid) (graceful : Bool) : Option World :=
  match world.masters.lookup pid with
  | none => none
  | some master => some { world with
      masters := world.masters.erase pid
      stateFiles := if graceful && master.ready then world.stateFiles.erase master.stateFile
        else world.stateFiles }

end Pam.Manager
