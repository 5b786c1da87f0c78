import Pam.Manager.Commands

namespace Pam.Manager

/-! `plan` and `apply`: the reconciliation of the records with an ecosystem
configuration, one function in two modes. It runs in the client, beside `pamd`. -/

/-- An application of the configuration, validated: `phpExtensions` and
`phpExtensionIsolation` are the effective ones, `identitySha256` is its
structural identity, paths are resolved. -/
structure EcosystemApplication where
  laravel : Bool
  script : String
  workers : Nat
  cwd : Directory
  arguments : List String
  identitySha256 : String
  phpExtensions : List String
  phpExtensionIsolation : Bool
  autostart : Bool
  envFile : Option String
  shutdownTimeoutMillis : Nat
  healthCheckAddress : Option String
  healthCheckPath : Option String
  healthCheckIntervalMillis : Nat
  healthCheckTimeoutMillis : Nat
  healthCheckStartPeriodMillis : Nat
  healthCheckFailureThreshold : Nat
  autoRestart : Bool
  restartDelayMillis : Nat
  restartBackoffMaxMillis : Nat
  maxUnstableRestarts : Nat
  minUptimeMillis : Nat
  memoryWarningBytes : Option Nat
  taskWarningCount : Option Nat
  memoryMaxBytes : Option Nat
  taskMaxCount : Option Nat
  deriving DecidableEq

inductive ReconcileAction where
  | created
  | restarted
  | scaled
  | unchanged
  | disabled
  | policyUpdated
  | resourceLimitsUpdated
  | replaced
  deriving DecidableEq

def EcosystemApplication.upOptions (application : EcosystemApplication)
    (name : AppName) : UpOptions where
  name := name
  workingDirectory := application.cwd
  laravel := application.laravel
  target := application.script
  workers := some application.workers
  phpExtensions := application.phpExtensions
  phpExtensionIsolation := application.phpExtensionIsolation
  memoryWarningBytes := application.memoryWarningBytes
  taskWarningCount := application.taskWarningCount
  memoryMaxBytes := application.memoryMaxBytes
  taskMaxCount := application.taskMaxCount
  environmentFile := application.envFile
  shutdownTimeoutMillis := application.shutdownTimeoutMillis
  healthCheckAddress := application.healthCheckAddress
  healthCheckPath := application.healthCheckPath
  -- The health options are given with an address only; without one `up` takes
  -- its defaults.
  healthCheckIntervalMillis := if application.healthCheckAddress.isSome then
      application.healthCheckIntervalMillis
    else defaultHealthIntervalMillis
  healthCheckTimeoutMillis := if application.healthCheckAddress.isSome then
      application.healthCheckTimeoutMillis
    else defaultHealthTimeoutMillis
  healthCheckStartPeriodMillis := if application.healthCheckAddress.isSome then
      application.healthCheckStartPeriodMillis
    else 0
  healthCheckFailureThreshold := if application.healthCheckAddress.isSome then
      application.healthCheckFailureThreshold
    else defaultHealthFailureThreshold
  autoRestart := application.autoRestart
  restartDelayMillis := application.restartDelayMillis
  restartBackoffMaxMillis := application.restartBackoffMaxMillis
  maxUnstableRestarts := application.maxUnstableRestarts
  minUptimeMillis := application.minUptimeMillis
  applicationArguments := application.arguments

def identifiedRecord (record : ApplicationRecord)
    (application : EcosystemApplication) : ApplicationRecord := { record with
    declarativeIdentitySha256 := some application.identitySha256 }

def launchEcosystemApplication (name : AppName)
    (application : EcosystemApplication) : ManagerM Unit := do
  runReconcileCommand (.up (application.upOptions name)) name
  let record ← readRecord name
  writeRecord (identifiedRecord record application)

def replaceOperation (name : AppName) (application : EcosystemApplication)
    (wasRunning : Bool) : ManagerM Unit := do
  if wasRunning then
    runReconcileCommand (.stop name) name
    runReconcileCommand (.delete name) name
    launchEcosystemApplication name application
  else
    runReconcileCommand (.delete name) name
    launchEcosystemApplication name application

def replaceEcosystemApplication (name : AppName)
    (application : EcosystemApplication) (previous : ApplicationRecord) : ManagerM Unit := do
  let master ← runningMaster previous.masterStateFile
  match ← outcomeOf (replaceOperation name application master.isSome) with
  | .ok () => return ()
  | .error error =>
    writeRecord previous
    if master.isSome then
      match ← outcomeOf (restartRecord previous) with
      | .ok _ => throw ("structural replacement of " ++ quoted name ++
          " failed and the previous definition was restored: " ++ error)
      | .error rollbackError => throw ("structural replacement of " ++ quoted name ++
          " failed: " ++ error ++ "; rollback also failed: " ++ rollbackError)
    else
      throw ("structural replacement of " ++ quoted name ++
        " failed and the previous definition was restored: " ++ error)

section Updates

variable (record : ApplicationRecord) (application : EcosystemApplication)

def limitUpdated : Bool := record.memoryMaxBytes != application.memoryMaxBytes ||
    record.taskMaxCount != application.taskMaxCount

def healthUpdated : Bool := record.healthCheckAddress != application.healthCheckAddress ||
    record.healthCheckPath != application.healthCheckPath ||
    record.healthCheckIntervalMillis != application.healthCheckIntervalMillis ||
    record.healthCheckTimeoutMillis != application.healthCheckTimeoutMillis ||
    record.healthCheckStartPeriodMillis != application.healthCheckStartPeriodMillis ||
    record.healthCheckFailureThreshold != application.healthCheckFailureThreshold

def policyUpdated : Bool := record.memoryWarningBytes != application.memoryWarningBytes ||
    record.taskWarningCount != application.taskWarningCount ||
    record.autoRestart != application.autoRestart ||
    record.restartDelayMillis != application.restartDelayMillis ||
    record.restartBackoffMaxMillis != application.restartBackoffMaxMillis ||
    record.maxUnstableRestarts != application.maxUnstableRestarts ||
    record.minUptimeMillis != application.minUptimeMillis ||
    record.shutdownTimeoutMillis != application.shutdownTimeoutMillis

/-- The updates that a running master sees only after a restart. -/
def launchUpdated : Bool := limitUpdated record application ||
    record.environmentFile != application.envFile || healthUpdated record application ||
    record.phpExtensions != application.phpExtensions ||
    record.phpExtensionIsolation != application.phpExtensionIsolation

def updatedRecord : ApplicationRecord := { record with
    memoryWarningBytes := application.memoryWarningBytes
    taskWarningCount := application.taskWarningCount
    memoryMaxBytes := application.memoryMaxBytes
    taskMaxCount := application.taskMaxCount
    autoRestart := application.autoRestart
    restartDelayMillis := application.restartDelayMillis
    restartBackoffMaxMillis := application.restartBackoffMaxMillis
    maxUnstableRestarts := application.maxUnstableRestarts
    minUptimeMillis := application.minUptimeMillis
    shutdownTimeoutMillis := application.shutdownTimeoutMillis
    environmentFile := application.envFile
    phpExtensions := application.phpExtensions
    phpExtensionIsolation := application.phpExtensionIsolation
    command := setCommandOptions (setCommandFlag record.command "--isolate-php-extensions"
        application.phpExtensionIsolation) "--php-extension" application.phpExtensions
    healthCheckAddress := application.healthCheckAddress
    healthCheckPath := application.healthCheckPath
    healthCheckIntervalMillis := application.healthCheckIntervalMillis
    healthCheckTimeoutMillis := application.healthCheckTimeoutMillis
    healthCheckStartPeriodMillis := application.healthCheckStartPeriodMillis
    healthCheckFailureThreshold := application.healthCheckFailureThreshold
    consecutiveHealthFailures := 0
    lastHealthCheckAtMillis := none
    healthState := initialHealthState application.healthCheckAddress.isSome
      application.healthCheckStartPeriodMillis
    recoveryState := if application.autoRestart then record.recoveryState else .disabled
    nextRestartAtMillis := if application.autoRestart then record.nextRestartAtMillis else none }

end Updates

inductive ReconcileMode where
  | plan
  | apply

def ReconcileMode.effect (mode : ReconcileMode) (program : ManagerM Unit) : ManagerM Unit :=
  match mode with
  | .plan => return ()
  | .apply => program

section Modes

variable (mode : ReconcileMode) (name : AppName) (application : EcosystemApplication)

def reconcileMaster (launchChanged limitsChanged policyChanged : Bool)
    (record : ApplicationRecord) : ManagerM ReconcileAction := do
  match ← runningMaster record.masterStateFile with
  | none =>
    mode.effect (runReconcileCommand (.restart name) name)
    return .restarted
  | some state =>
    if launchChanged then
      mode.effect (do
        let _ ← restartRecord record
        return ())
      return if limitsChanged then .resourceLimitsUpdated else .restarted
    else if state.workers != application.workers then
      mode.effect (runReconcileCommand (.scale name application.workers) name)
      return .scaled
    else return if policyChanged then .policyUpdated else .unchanged

def reconcileRecord (record : ApplicationRecord) : ManagerM ReconcileAction := do
  let launchChanged := launchUpdated record application
  let limitsChanged := limitUpdated record application
  let policyChanged := policyUpdated record application
  if policyChanged || launchChanged then
    mode.effect (writeRecord (updatedRecord record application))
    reconcileMaster mode name application launchChanged limitsChanged
      policyChanged (updatedRecord record application)
  else reconcileMaster mode name application launchChanged limitsChanged policyChanged record

/-- The body of the loop of `reconcile_ecosystem`. -/
def reconcileApplication : ManagerM ReconcileAction := do
  if !application.autostart then
    mode.effect (do
      if ← recordExists name then runReconcileCommand (.stop name) name else return ())
    return .disabled
  else if ← recordExists name then
    let record ← readRecord name
    if record.declarativeIdentitySha256 != some application.identitySha256 then
      mode.effect (replaceEcosystemApplication name application record)
      return .replaced
    else reconcileRecord mode name application record
  else
    mode.effect (launchEcosystemApplication name application)
    return .created

end Modes

structure ReconcileResult where
  name : AppName
  action : ReconcileAction
  structuralIdentitySha256 : String
  deriving DecidableEq

def reconcileEach (mode : ReconcileMode) :
    List (AppName × EcosystemApplication) → ManagerM (List ReconcileResult)
  | [] => return []
  | (name, application) :: applications => do
      let action ← reconcileApplication mode name application
      let results ← reconcileEach mode applications
      return ⟨name, action, application.identitySha256⟩ :: results

/-- In the mode `plan` the manager's directories are only located. -/
def reconcileEcosystem (mode : ReconcileMode)
    (applications : List (AppName × EcosystemApplication)) : ManagerM (List ReconcileResult) := do
  mode.effect createDirectories
  reconcileEach mode applications

def changeCount (results : List ReconcileResult) : Nat :=
  (results.filter fun result => result.action != .unchanged).length

end Pam.Manager
