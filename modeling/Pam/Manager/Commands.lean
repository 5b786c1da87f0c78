import Pam.Manager.World

namespace Pam.Manager

open Pam.Foundation

/-! The manager's commands and passes, as programs over its accesses to the
outside. What they print is left out. -/

abbrev ManagerProgram (Result : Type) := Program ManagerAction ManagerAction.Answer Result

abbrev ManagerM := ExceptT String (Program ManagerAction ManagerAction.Answer)

def createDirectories : ManagerM Unit := ExceptT.mk (Program.call ManagerAction.createDirectories)

def recordExists (name : AppName) : ManagerM Bool :=
  ExceptT.lift (Program.call (ManagerAction.recordExists name))

def findRecord (name : AppName) : ManagerM Bool :=
  ExceptT.lift (Program.call (ManagerAction.findRecord name))

def listRecords : ManagerM (List AppName) := ExceptT.mk (Program.call ManagerAction.listRecords)

def readRecordFile (name : AppName) : ManagerM ApplicationRecord :=
  ExceptT.mk (Program.call (ManagerAction.readRecord name))

def writeRecord (record : ApplicationRecord) : ManagerM Unit :=
  ExceptT.mk (Program.call (ManagerAction.writeRecord record))

def removeRecord (name : AppName) : ManagerM Unit :=
  ExceptT.mk (Program.call (ManagerAction.removeRecord name))

def savedListExists : ManagerM Bool := ExceptT.lift (Program.call ManagerAction.savedListExists)

def readSavedList : ManagerM (List SavedApplication) :=
  ExceptT.mk (Program.call ManagerAction.readSavedList)

def writeSavedList (applications : List SavedApplication) : ManagerM Unit :=
  ExceptT.mk (Program.call (ManagerAction.writeSavedList applications))

def readDeploymentHistory (name : AppName) : ManagerM (List DeploymentEntry) :=
  ExceptT.mk (Program.call (ManagerAction.readDeploymentHistory name))

def writeDeploymentHistory (name : AppName) (history : List DeploymentEntry) : ManagerM Unit :=
  ExceptT.mk (Program.call (ManagerAction.writeDeploymentHistory name history))

def validateReleaseDirectory (path : Directory) : ManagerM Directory :=
  ExceptT.mk (Program.call (ManagerAction.validateReleaseDirectory path))

def readMasterState (file : StateFile) : ManagerM (Option MasterState) :=
  ExceptT.lift (Program.call (ManagerAction.readMasterState file))

def findMaster (name : AppName) (file : StateFile) : ManagerM (Option MasterState) :=
  ExceptT.lift (Program.call (ManagerAction.findMaster name file))

def masterIsRunning (state : MasterState) : ManagerM Bool :=
  ExceptT.lift (Program.call (ManagerAction.masterIsRunning state))

def signalMaster (state : MasterState) (signal : MasterSignal) : ManagerM Unit :=
  ExceptT.mk (Program.call (ManagerAction.signalMaster state signal))

def awaitExit (state : MasterState) : ManagerM Bool :=
  ExceptT.lift (Program.call (ManagerAction.awaitExit state))

def rotateLogs (name : AppName) : ManagerM Unit :=
  ExceptT.mk (Program.call (ManagerAction.rotateLogs name))

def spawnMaster (name : AppName) (file : StateFile) (launch : Launch) : ManagerM Pid :=
  ExceptT.mk (Program.call (ManagerAction.spawn name file launch))

def awaitReady (file : StateFile) (pid : Pid) : ManagerM Readiness :=
  ExceptT.lift (Program.call (ManagerAction.awaitReady file pid))

def epochMillis : ManagerM Nat := ExceptT.lift (Program.call ManagerAction.epochMillis)

def executeCommand (command : ManagerCommand) : ManagerM Unit :=
  ExceptT.mk (Program.call (ManagerAction.execute command))

/-- An outcome as a value, where the source matches on it. -/
def outcomeOf {Result : Type} (program : ManagerM Result) : ManagerM (Except String Result) :=
  ExceptT.lift program.run

def quoted (name : AppName) : String := "\"" ++ name ++ "\""

def runReconcileCommand (command : ManagerCommand) (name : AppName) : ManagerM Unit := do
  match ← outcomeOf (executeCommand command) with
  | .ok () => return ()
  | .error message => throw ("cannot reconcile " ++ quoted name ++ ": " ++ message)

def runningMaster (file : StateFile) : ManagerM (Option MasterState) := do
  match ← readMasterState file with
  | none => return none
  | some state =>
    if ← masterIsRunning state then return some state else return none

def readRecord (name : AppName) : ManagerM ApplicationRecord := do
  let record ← readRecordFile name
  if record.schemaVersion == 1 then
    let master ← runningMaster record.masterStateFile
    return migrateRecord record master.isSome
  else return record

def readRecords : List AppName → ManagerM (List ApplicationRecord)
  | [] => return []
  | name :: names => do
      let record ← readRecord name
      let records ← readRecords names
      return record :: records

def readAllRecords : ManagerM (List ApplicationRecord) := do
  let names ← listRecords
  readRecords names

def terminateMaster (state : MasterState) : ManagerM Bool := do
  if ← masterIsRunning state then
    signalMaster state .stop
    if ← awaitExit state then return false
    else
      signalMaster state .kill
      if ← awaitExit state then return true
      else throw ("master PID " ++ toString state.pid ++ " remained alive after SIGKILL")
  else return false

def ApplicationRecord.launch (record : ApplicationRecord) : Launch where
  workingDirectory := record.workingDirectory
  command := record.command

def launchRecord (record : ApplicationRecord) : ManagerM MasterState := do
  if record.command.length < 2 then
    throw ("application " ++ quoted record.name ++ " has no restart command")
  else
    rotateLogs record.name
    let pid ← spawnMaster record.name record.launchStateFile record.launch
    match ← awaitReady record.masterStateFile pid with
    | .ready state => return state
    | .exited => throw ("application " ++ quoted record.name ++ " exited before restart readiness")
    | .timedOut =>
      throw ("application " ++ quoted record.name ++ " did not become ready after restart")

def restartRecord (record : ApplicationRecord) : ManagerM MasterState := do
  match ← findMaster record.name record.masterStateFile with
  | none => launchRecord record
  | some state =>
    let _ ← terminateMaster state
    launchRecord record

def launchArguments (options : UpOptions) : List String := (if options.laravel then ["octane:start"]
    else ["start", options.target, "--state-file", options.name ++ ".master.json"])
    ++ (match options.workers with
      | some workers => ["--workers", toString workers]
      | none => []) ++ (if options.phpExtensionIsolation then ["--isolate-php-extensions"]
      else []) ++ options.phpExtensions.flatMap (fun extension => ["--php-extension", extension])
    ++ (if options.applicationArguments.isEmpty then []
      else "--" :: options.applicationArguments)

def UpOptions.launch (options : UpOptions) : Launch where
  workingDirectory := options.workingDirectory
  command := "pam" :: launchArguments options

def upStateFile (options : UpOptions) : StateFile :=
  if options.laravel then .octane options.workingDirectory else .runtime options.name

def upRecord (options : UpOptions) (now : Nat) : ApplicationRecord where
  schemaVersion := 2
  name := options.name
  kind := if options.laravel then .laravelOctane else .runtime
  workingDirectory := options.workingDirectory
  command := options.launch.command
  declarativeIdentitySha256 := none
  phpExtensions := options.phpExtensions
  phpExtensionIsolation := options.phpExtensionIsolation
  masterStateFile := upStateFile options
  memoryWarningBytes := options.memoryWarningBytes
  taskWarningCount := options.taskWarningCount
  memoryMaxBytes := options.memoryMaxBytes
  taskMaxCount := options.taskMaxCount
  environmentFile := options.environmentFile
  shutdownTimeoutMillis := options.shutdownTimeoutMillis
  healthCheckAddress := options.healthCheckAddress
  healthCheckPath := options.healthCheckPath
  healthCheckIntervalMillis := options.healthCheckIntervalMillis
  healthCheckTimeoutMillis := options.healthCheckTimeoutMillis
  healthCheckStartPeriodMillis := options.healthCheckStartPeriodMillis
  healthCheckFailureThreshold := options.healthCheckFailureThreshold
  consecutiveHealthFailures := 0
  lastHealthCheckAtMillis := none
  lastHealthSuccessAtMillis := none
  healthState := initialHealthState options.healthCheckAddress.isSome
    options.healthCheckStartPeriodMillis
  totalUnhealthyRestartCount := 0
  desiredState := .online
  autoRestart := options.autoRestart
  restartDelayMillis := options.restartDelayMillis
  restartBackoffMaxMillis := options.restartBackoffMaxMillis
  maxUnstableRestarts := options.maxUnstableRestarts
  minUptimeMillis := options.minUptimeMillis
  unstableRestartCount := 0
  totalAutoRestartCount := 0
  lastExitDetectedAtMillis := none
  lastRecoveryStartedAtMillis := none
  lastRecoveryReadyAtMillis := none
  nextRestartAtMillis := none
  recoveryState := initialRecoveryState options.autoRestart
  createdAtMillis := now

def up (options : UpOptions) : ManagerM Unit := do
  if ← findRecord options.name then
    let record ← readRecord options.name
    match ← runningMaster record.masterStateFile with
    | some _ => throw ("application " ++ quoted options.name ++ " is already online")
    | none =>
      throw ("application " ++ quoted options.name ++ " already exists; delete or restart it")
  else
    rotateLogs options.name
    let pid ← spawnMaster options.name (upStateFile options) options.launch
    match ← awaitReady (upStateFile options) pid with
    | .exited => throw ("application " ++ quoted options.name ++ " exited before readiness")
    | .timedOut => throw ("application " ++ quoted options.name ++ " did not become ready")
    | .ready _ =>
      let now ← epochMillis
      writeRecord (upRecord options now)

def stop (name : AppName) : ManagerM Unit := do
  let record ← readRecord name
  writeRecord (stoppedRecord record)
  match ← readMasterState record.masterStateFile with
  | none => return ()
  | some state =>
    let _ ← terminateMaster state
    return ()

def restart (name : AppName) : ManagerM Unit := do
  let record ← readRecord name
  writeRecord (resetRecovery record)
  let _ ← restartRecord (resetRecovery record)
  return ()

def scaledRecord (record : ApplicationRecord) (workers : Nat) : ApplicationRecord := { record with
    command := setCommandOption record.command "--workers"
      (toString workers) }

def scale (name : AppName) (workers : Nat) : ManagerM Unit := do
  if 256 < workers then throw "scale workers cannot exceed 256"
  else
    let record ← readRecord name
    writeRecord (scaledRecord record workers)
    let _ ← restartRecord (scaledRecord record workers)
    return ()

def delete (name : AppName) : ManagerM Unit := do
  let record ← readRecord name
  match ← runningMaster record.masterStateFile with
  | some _ => throw ("application " ++ quoted name ++ " is online; stop it first")
  | none => removeRecord name

def save : ManagerM Unit := do
  let records ← readAllRecords
  writeSavedList (records.map fun record =>
    { name := record.name, desiredState := record.desiredState })

def resurrectApplication (saved : SavedApplication) : ManagerM Unit := do
  if saved.desiredState == .online then
    let record ← readRecord saved.name
    writeRecord (resetRecovery record)
    match ← runningMaster record.masterStateFile with
    | some _ => return ()
    | none =>
      let _ ← restartRecord (resetRecovery record)
      return ()
  else return ()

def resurrectSaved : ManagerM Unit := do
  let applications ← readSavedList
  if maxApplications < applications.length then throw "unsupported or oversized saved process list"
  else applications.forM resurrectApplication

def stopRecord (record : ApplicationRecord) : ManagerM Unit := do
  match ← readMasterState record.masterStateFile with
  | none => return ()
  | some state =>
    let _ ← terminateMaster state
    return ()

/-- The record of a release: a Laravel master publishes its state there. -/
def releaseRecord (previous : ApplicationRecord) (release : Directory) : ApplicationRecord :=
  { previous with
    workingDirectory := release
    masterStateFile := match previous.kind with
      | .laravelOctane => .octane release
      | .runtime => previous.masterStateFile }

def activateRelease (previous : ApplicationRecord) (release : Directory) : ManagerM Unit := do
  stopRecord previous
  writeRecord (releaseRecord previous release)
  match ← outcomeOf (restartRecord (releaseRecord previous release)) with
  | .ok _ => return ()
  | .error error =>
    writeRecord previous
    match ← outcomeOf (restartRecord previous) with
    | .ok _ => throw ("release failed readiness and previous release was restored: " ++ error)
    | .error recoveryError => throw ("release failed (" ++ error ++
        "); previous release recovery also failed (" ++ recoveryError ++ ")")

def deploy (name : AppName) (path : Directory) : ManagerM Unit := do
  let release ← validateReleaseDirectory path
  let record ← readRecord name
  if record.workingDirectory == release then return ()
  else
    let history ← readDeploymentHistory name
    let based := if history.isEmpty then
        [{ releaseDirectory := record.workingDirectory
           activatedAtMillis := record.createdAtMillis
           eventKind := .baseline }]
      else history
    activateRelease record release
    let now ← epochMillis
    writeDeploymentHistory name (appendDeploymentEntry based
      { releaseDirectory := release
        activatedAtMillis := now
        eventKind := .deploy })

def rollbackTarget (current : Directory) (history : List DeploymentEntry)
    (steps : Nat) : Option Directory :=
  let others := history.reverse.filter fun entry => entry.releaseDirectory != current
  (others[steps - 1]?).map DeploymentEntry.releaseDirectory

def rollback (name : AppName) (steps : Nat) : ManagerM Unit := do
  let record ← readRecord name
  let history ← readDeploymentHistory name
  match rollbackTarget record.workingDirectory history steps with
  | none => throw ("application " ++ quoted name ++ " has no rollback target for " ++
      toString steps ++ " step(s)")
  | some path =>
    let target ← validateReleaseDirectory path
    activateRelease record target
    let now ← epochMillis
    writeDeploymentHistory name (appendDeploymentEntry history
      { releaseDirectory := target
        activatedAtMillis := now
        eventKind := .rollback })

def runLocal : ManagerCommand → ManagerM Unit
  | .up options => up options
  | .restart name => restart name
  | .scale name workers => scale name workers
  | .stop name => stop name
  | .delete name => delete name
  | .save => save
  | .resurrect => resurrectSaved
  | .deploy name release => deploy name release
  | .rollback name steps => rollback name steps

def recoveredRecord (record : ApplicationRecord) (ready : Nat) : ApplicationRecord := { record with
    lastRecoveryReadyAtMillis := some ready
    totalAutoRestartCount := saturatingAdd u64Max record.totalAutoRestartCount 1
    nextRestartAtMillis := none
    recoveryState := .stabilizing }

def exitDetectedRecord (record : ApplicationRecord) (now : Nat) : ApplicationRecord :=
  scheduleRecovery { record with
      lastExitDetectedAtMillis := some now
      lastRecoveryStartedAtMillis := none
      lastRecoveryReadyAtMillis := none } now

def begunRecord (record : ApplicationRecord) (started : Nat) : ApplicationRecord :=
  { record with lastRecoveryStartedAtMillis := some started }

def stabilizedRecord (record : ApplicationRecord) : ApplicationRecord := { record with
    unstableRestartCount := 0
    nextRestartAtMillis := none
    recoveryState := .healthy }

/-- A due recovery; its failure schedules the next one. -/
def recoverApplication (record : ApplicationRecord)
    (earliest : Option Nat) : ManagerM (Option Nat) := do
  let started ← epochMillis
  let begun := begunRecord record started
  match ← outcomeOf (restartRecord begun) with
  | .ok _ =>
    let ready ← epochMillis
    writeRecord (recoveredRecord begun ready)
    return earliest
  | .error _ =>
    let failed ← epochMillis
    let scheduled := scheduleRecovery begun failed
    writeRecord scheduled
    return earliestDeadline earliest scheduled.nextRestartAtMillis

def superviseApplication (now : Nat) (earliest : Option Nat)
    (record : ApplicationRecord) : ManagerM (Option Nat) := do
  if record.desiredState != .online || !record.autoRestart then return earliest
  else
    match ← runningMaster record.masterStateFile with
    | some state =>
      if record.recoveryState == .stabilizing &&
          record.minUptimeMillis ≤ now - state.startedAtMillis then
        writeRecord (stabilizedRecord record)
        return earliest
      else return earliest
    | none =>
      if record.recoveryState == .circuitOpen then return earliest
      else if record.recoveryState != .backoff || record.nextRestartAtMillis.isNone then
        let scheduled := exitDetectedRecord record now
        writeRecord scheduled
        return earliestDeadline earliest scheduled.nextRestartAtMillis
      else if record.nextRestartAtMillis.any (fun deadline => now < deadline) then
        return earliestDeadline earliest record.nextRestartAtMillis
      else recoverApplication record earliest

/-- The earliest restart that is still to come. -/
def superviseApplications : ManagerM (Option Nat) := do
  let now ← epochMillis
  let records ← readAllRecords
  records.foldlM (superviseApplication now) none

structure HealthProbeResult where
  name : AppName
  pid : Pid
  address : String
  path : String
  checkedAtMillis : Nat
  success : Bool

def healthyRecord (record : ApplicationRecord) (checked : Nat) : ApplicationRecord := { record with
    lastHealthCheckAtMillis := some checked
    consecutiveHealthFailures := 0
    lastHealthSuccessAtMillis := some checked
    healthState := .healthy }

def failingRecord (record : ApplicationRecord) (checked : Nat) : ApplicationRecord := { record with
    lastHealthCheckAtMillis := some checked
    consecutiveHealthFailures := saturatingAdd u32Max record.consecutiveHealthFailures 1
    healthState := .failing }

def unhealthyRecord (record : ApplicationRecord) (checked : Nat) : ApplicationRecord :=
  { failingRecord record checked with
    healthState := .unhealthy
    totalUnhealthyRestartCount := saturatingAdd u64Max record.totalUnhealthyRestartCount 1 }

def HealthProbeResult.concerns (result : HealthProbeResult)
    (record : ApplicationRecord) (state : Option MasterState) : Bool :=
  record.desiredState == .online && record.healthCheckAddress == some result.address &&
    record.healthCheckPath == some result.path && state.map MasterState.pid == some result.pid

def applyHealthProbeResult (result : HealthProbeResult) : ManagerM Unit := do
  match ← outcomeOf (readRecord result.name) with
  | .error _ => return ()
  | .ok record =>
    let state ← readMasterState record.masterStateFile
    if !result.concerns record state then return ()
    else if result.success then writeRecord (healthyRecord record result.checkedAtMillis)
    else
      let failing := failingRecord record result.checkedAtMillis
      if record.healthCheckFailureThreshold ≤ failing.consecutiveHealthFailures then
        writeRecord (unhealthyRecord record result.checkedAtMillis)
        match state with
        | none => return ()
        | some state =>
          if ← masterIsRunning state then signalMaster state .kill else return ()
      else writeRecord failing

def applyHealthProbeResults (results : List HealthProbeResult) : ManagerM Unit :=
  results.forM applyHealthProbeResult

/-- What `daemon_serve` does before its loop; a failure is only reported. -/
def restoreSaved : ManagerM Unit := do
  if ← savedListExists then
    match ← outcomeOf resurrectSaved with
    | .ok () => return ()
    | .error _ => return ()
  else return ()

end Pam.Manager
