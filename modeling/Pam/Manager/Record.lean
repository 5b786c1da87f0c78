import Mathlib.Algebra.BigOperators.Group.List.Basic
import Mathlib.Algebra.Order.Ring.Nat

namespace Pam.Manager

/-! Application records of the process manager, and the updates of single ones.
-/

abbrev AppName := String

abbrev Directory := String

abbrev Pid := Nat

def u32Max : Nat := 2 ^ 32 - 1

def u64Max : Nat := 2 ^ 64 - 1

def saturatingAdd (bound left right : Nat) : Nat := min bound (left + right)

def saturatingMul (bound left right : Nat) : Nat := min bound (left * right)

inductive ApplicationKind where
  | runtime
  | laravelOctane
  deriving DecidableEq

inductive ApplicationState where
  | online
  | stopped
  deriving DecidableEq

inductive RecoveryState where
  | healthy
  | backoff
  | stabilizing
  | circuitOpen
  | disabled
  deriving DecidableEq

inductive HealthState where
  | disabled
  | healthy
  | failing
  | unhealthy
  | starting
  deriving DecidableEq

/-- Where a master publishes its state: `NAME.master.json` of the manager's
runtime directory, or `.pam/octane.json` of a Laravel directory. -/
inductive StateFile where
  | runtime (name : AppName)
  | octane (directory : Directory)
  deriving DecidableEq

structure MasterState where
  pid : Pid
  workers : Nat
  startedAtMillis : Nat

/-- `application.json`, without the log files, which only log rotation reads. -/
structure ApplicationRecord where
  schemaVersion : Nat
  name : AppName
  kind : ApplicationKind
  workingDirectory : Directory
  command : List String
  declarativeIdentitySha256 : Option String
  phpExtensions : List String
  phpExtensionIsolation : Bool
  masterStateFile : StateFile
  memoryWarningBytes : Option Nat
  taskWarningCount : Option Nat
  memoryMaxBytes : Option Nat
  taskMaxCount : Option Nat
  environmentFile : Option String
  shutdownTimeoutMillis : Nat
  healthCheckAddress : Option String
  healthCheckPath : Option String
  healthCheckIntervalMillis : Nat
  healthCheckTimeoutMillis : Nat
  healthCheckStartPeriodMillis : Nat
  healthCheckFailureThreshold : Nat
  consecutiveHealthFailures : Nat
  lastHealthCheckAtMillis : Option Nat
  lastHealthSuccessAtMillis : Option Nat
  healthState : HealthState
  totalUnhealthyRestartCount : Nat
  desiredState : ApplicationState
  autoRestart : Bool
  restartDelayMillis : Nat
  restartBackoffMaxMillis : Nat
  maxUnstableRestarts : Nat
  minUptimeMillis : Nat
  unstableRestartCount : Nat
  totalAutoRestartCount : Nat
  lastExitDetectedAtMillis : Option Nat
  lastRecoveryStartedAtMillis : Option Nat
  lastRecoveryReadyAtMillis : Option Nat
  nextRestartAtMillis : Option Nat
  recoveryState : RecoveryState
  createdAtMillis : Nat
  deriving DecidableEq

structure SavedApplication where
  name : AppName
  desiredState : ApplicationState
  deriving DecidableEq

inductive DeploymentEventKind where
  | baseline
  | deploy
  | rollback
  deriving DecidableEq

structure DeploymentEntry where
  releaseDirectory : Directory
  activatedAtMillis : Nat
  eventKind : DeploymentEventKind

def defaultHealthIntervalMillis : Nat := 5000

def defaultHealthTimeoutMillis : Nat := 1000

def defaultHealthFailureThreshold : Nat := 3

def maxApplications : Nat := 1024

def maxDeployHistory : Nat := 50

def appendDeploymentEntry (history : List DeploymentEntry)
    (entry : DeploymentEntry) : List DeploymentEntry :=
  let grown := history ++ [entry]
  grown.drop (grown.length - maxDeployHistory)

def initialHealthState (configured : Bool) (startPeriodMillis : Nat) : HealthState :=
  if !configured then .disabled else if 0 < startPeriodMillis then .starting else .healthy

def initialRecoveryState (autoRestart : Bool) : RecoveryState :=
  if autoRestart then .healthy else .disabled

def resetRecovery (record : ApplicationRecord) : ApplicationRecord := { record with
    desiredState := .online
    unstableRestartCount := 0
    nextRestartAtMillis := none
    recoveryState := initialRecoveryState record.autoRestart
    consecutiveHealthFailures := 0
    healthState := initialHealthState record.healthCheckAddress.isSome
      record.healthCheckStartPeriodMillis }

def stoppedRecord (record : ApplicationRecord) : ApplicationRecord := { record with
    desiredState := .stopped
    recoveryState := .disabled
    unstableRestartCount := 0
    nextRestartAtMillis := none
    consecutiveHealthFailures := 0
    healthState := .disabled }

def scheduleRecovery (record : ApplicationRecord) (now : Nat) : ApplicationRecord :=
  let count := saturatingAdd u32Max record.unstableRestartCount 1
  if record.maxUnstableRestarts < count then
    { record with
      unstableRestartCount := count
      recoveryState := .circuitOpen
      nextRestartAtMillis := none }
  else
    let exponent := min (count - 1) 20
    let delay := min (saturatingMul u64Max record.restartDelayMillis (2 ^ exponent))
      record.restartBackoffMaxMillis
    { record with
      unstableRestartCount := count
      recoveryState := .backoff
      nextRestartAtMillis := some (saturatingAdd u64Max now delay) }

/-- `read_record` on a record of the first schema, by whether its master runs. -/
def migrateRecord (record : ApplicationRecord) (online : Bool) : ApplicationRecord := { record with
    schemaVersion := 2
    desiredState := if online then .online else .stopped
    autoRestart := online
    recoveryState := initialRecoveryState online }

def earliestDeadline : Option Nat → Option Nat → Option Nat
  | some current, some candidate => some (min current candidate)
  | none, candidate => candidate
  | some current, none => some current

def ApplicationRecord.launchStateFile (record : ApplicationRecord) : StateFile :=
  match record.kind with
  | .runtime => record.masterStateFile
  | .laravelOctane => .octane record.workingDirectory

def separatorIndex (command : List String) : Nat :=
  (command.findIdx? fun argument => argument == "--").getD command.length

def setCommandOption (command : List String) (option value : String) : List String :=
  let separator := separatorIndex command
  let spliced := command.take separator ++ [option, value] ++ command.drop separator
  match command.findIdx? fun argument => argument == option with
  | some index =>
    if index + 1 < command.length then command.set (index + 1) value else spliced
  | none => spliced

def setCommandFlag (command : List String) (option : String) (enabled : Bool) : List String :=
  let separator := separatorIndex command
  let kept := (command.take separator).filter fun argument => argument != option
  kept ++ (if enabled then [option] else []) ++ command.drop separator

def removeOptionPairs (option : String) : List String → List String
  | [] => []
  | [argument] => if argument == option then [] else [argument]
  | argument :: value :: rest =>
    if argument == option then removeOptionPairs option rest
    else argument :: removeOptionPairs option (value :: rest)

def setCommandOptions (command : List String) (option : String)
    (values : List String) : List String :=
  let separator := separatorIndex command
  removeOptionPairs option (command.take separator) ++
    values.flatMap (fun value => [option, value]) ++ command.drop separator

@[simp] theorem scheduleRecovery_name : (scheduleRecovery record now).name = record.name := by
  unfold scheduleRecovery
  dsimp only
  split <;> rfl

end Pam.Manager
