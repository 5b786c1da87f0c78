import Pam.Manager.Bookkeeping
import Pam.Manager.Coherence

namespace Pam.Manager

open Pam.Foundation List Option Function Table Bool

/-! Updates of records by several actors: what an operation changes, and what a
write of a stale copy loses. -/

inductive RecordField where
  | schemaVersion
  | name
  | kind
  | workingDirectory
  | command
  | declarativeIdentitySha256
  | phpExtensions
  | phpExtensionIsolation
  | masterStateFile
  | memoryWarningBytes
  | taskWarningCount
  | memoryMaxBytes
  | taskMaxCount
  | environmentFile
  | shutdownTimeoutMillis
  | healthCheckAddress
  | healthCheckPath
  | healthCheckIntervalMillis
  | healthCheckTimeoutMillis
  | healthCheckStartPeriodMillis
  | healthCheckFailureThreshold
  | consecutiveHealthFailures
  | lastHealthCheckAtMillis
  | lastHealthSuccessAtMillis
  | healthState
  | totalUnhealthyRestartCount
  | desiredState
  | autoRestart
  | restartDelayMillis
  | restartBackoffMaxMillis
  | maxUnstableRestarts
  | minUptimeMillis
  | unstableRestartCount
  | totalAutoRestartCount
  | lastExitDetectedAtMillis
  | lastRecoveryStartedAtMillis
  | lastRecoveryReadyAtMillis
  | nextRestartAtMillis
  | recoveryState
  | createdAtMillis
  deriving DecidableEq

namespace RecordField

@[reducible] def Value : RecordField → Type
  | .schemaVersion => Nat
  | .name => AppName
  | .kind => ApplicationKind
  | .workingDirectory => Directory
  | .command => List String
  | .declarativeIdentitySha256 => Option String
  | .phpExtensions => List String
  | .phpExtensionIsolation => Bool
  | .masterStateFile => StateFile
  | .memoryWarningBytes => Option Nat
  | .taskWarningCount => Option Nat
  | .memoryMaxBytes => Option Nat
  | .taskMaxCount => Option Nat
  | .environmentFile => Option String
  | .shutdownTimeoutMillis => Nat
  | .healthCheckAddress => Option String
  | .healthCheckPath => Option String
  | .healthCheckIntervalMillis => Nat
  | .healthCheckTimeoutMillis => Nat
  | .healthCheckStartPeriodMillis => Nat
  | .healthCheckFailureThreshold => Nat
  | .consecutiveHealthFailures => Nat
  | .lastHealthCheckAtMillis => Option Nat
  | .lastHealthSuccessAtMillis => Option Nat
  | .healthState => HealthState
  | .totalUnhealthyRestartCount => Nat
  | .desiredState => ApplicationState
  | .autoRestart => Bool
  | .restartDelayMillis => Nat
  | .restartBackoffMaxMillis => Nat
  | .maxUnstableRestarts => Nat
  | .minUptimeMillis => Nat
  | .unstableRestartCount => Nat
  | .totalAutoRestartCount => Nat
  | .lastExitDetectedAtMillis => Option Nat
  | .lastRecoveryStartedAtMillis => Option Nat
  | .lastRecoveryReadyAtMillis => Option Nat
  | .nextRestartAtMillis => Option Nat
  | .recoveryState => RecoveryState
  | .createdAtMillis => Nat

def get : (field : RecordField) → ApplicationRecord → field.Value
  | .schemaVersion, record => record.schemaVersion
  | .name, record => record.name
  | .kind, record => record.kind
  | .workingDirectory, record => record.workingDirectory
  | .command, record => record.command
  | .declarativeIdentitySha256, record => record.declarativeIdentitySha256
  | .phpExtensions, record => record.phpExtensions
  | .phpExtensionIsolation, record => record.phpExtensionIsolation
  | .masterStateFile, record => record.masterStateFile
  | .memoryWarningBytes, record => record.memoryWarningBytes
  | .taskWarningCount, record => record.taskWarningCount
  | .memoryMaxBytes, record => record.memoryMaxBytes
  | .taskMaxCount, record => record.taskMaxCount
  | .environmentFile, record => record.environmentFile
  | .shutdownTimeoutMillis, record => record.shutdownTimeoutMillis
  | .healthCheckAddress, record => record.healthCheckAddress
  | .healthCheckPath, record => record.healthCheckPath
  | .healthCheckIntervalMillis, record => record.healthCheckIntervalMillis
  | .healthCheckTimeoutMillis, record => record.healthCheckTimeoutMillis
  | .healthCheckStartPeriodMillis, record => record.healthCheckStartPeriodMillis
  | .healthCheckFailureThreshold, record => record.healthCheckFailureThreshold
  | .consecutiveHealthFailures, record => record.consecutiveHealthFailures
  | .lastHealthCheckAtMillis, record => record.lastHealthCheckAtMillis
  | .lastHealthSuccessAtMillis, record => record.lastHealthSuccessAtMillis
  | .healthState, record => record.healthState
  | .totalUnhealthyRestartCount, record => record.totalUnhealthyRestartCount
  | .desiredState, record => record.desiredState
  | .autoRestart, record => record.autoRestart
  | .restartDelayMillis, record => record.restartDelayMillis
  | .restartBackoffMaxMillis, record => record.restartBackoffMaxMillis
  | .maxUnstableRestarts, record => record.maxUnstableRestarts
  | .minUptimeMillis, record => record.minUptimeMillis
  | .unstableRestartCount, record => record.unstableRestartCount
  | .totalAutoRestartCount, record => record.totalAutoRestartCount
  | .lastExitDetectedAtMillis, record => record.lastExitDetectedAtMillis
  | .lastRecoveryStartedAtMillis, record => record.lastRecoveryStartedAtMillis
  | .lastRecoveryReadyAtMillis, record => record.lastRecoveryReadyAtMillis
  | .nextRestartAtMillis, record => record.nextRestartAtMillis
  | .recoveryState, record => record.recoveryState
  | .createdAtMillis, record => record.createdAtMillis

def all : List RecordField := [.schemaVersion, .name, .kind, .workingDirectory, .command,
    .declarativeIdentitySha256, .phpExtensions, .phpExtensionIsolation,
    .masterStateFile, .memoryWarningBytes, .taskWarningCount, .memoryMaxBytes,
    .taskMaxCount, .environmentFile, .shutdownTimeoutMillis,
    .healthCheckAddress, .healthCheckPath, .healthCheckIntervalMillis,
    .healthCheckTimeoutMillis, .healthCheckStartPeriodMillis,
    .healthCheckFailureThreshold, .consecutiveHealthFailures,
    .lastHealthCheckAtMillis, .lastHealthSuccessAtMillis, .healthState,
    .totalUnhealthyRestartCount, .desiredState, .autoRestart,
    .restartDelayMillis, .restartBackoffMaxMillis, .maxUnstableRestarts,
    .minUptimeMillis, .unstableRestartCount, .totalAutoRestartCount,
    .lastExitDetectedAtMillis, .lastRecoveryStartedAtMillis,
    .lastRecoveryReadyAtMillis, .nextRestartAtMillis, .recoveryState, .createdAtMillis]

theorem mem_all (field : RecordField) : field ∈ all := by cases field <;> decide

instance (field : RecordField) : DecidableEq field.Value := by cases field <;> infer_instance

end RecordField

def AgreeOff (fields : List RecordField) (left right : ApplicationRecord) : Prop :=
  ∀ field, fields.contains field = false → field.get left = field.get right

instance (fields : List RecordField) (left right : ApplicationRecord) :
    Decidable (AgreeOff fields left right) :=
  decidable_of_iff
    (∀ field ∈ RecordField.all, fields.contains field = false → field.get left = field.get right)
    ⟨fun agree field => agree field field.mem_all, fun agree field _ => agree field⟩

namespace AgreeOff

theorem symm (agree : AgreeOff fields first second) : AgreeOff fields second first :=
  fun field unset => (agree field unset).symm

theorem trans (left : AgreeOff fields first second)
    (right : AgreeOff fields second third) : AgreeOff fields first third :=
  fun field unset => (left field unset).trans (right field unset)

end AgreeOff

/-- The changes that are written, one for each place of the source that assigns
fields of a record. -/
inductive RecordEdit where
  | resetRecovery
  | stop
  | scale (workers : Nat)
  | release (directory : Directory) (stateFile : StateFile)
  | stabilize
  | detectExit (now : Nat)
  | recover (started ready : Nat)
  | reschedule (started failed : Nat)
  | healthy (checked : Nat)
  | failing (checked : Nat)
  | unhealthy (checked : Nat)
  | identify (application : EcosystemApplication)
  | configure (application : EcosystemApplication)

namespace RecordEdit

def apply (record : ApplicationRecord) : RecordEdit → ApplicationRecord
  | .resetRecovery => Manager.resetRecovery record
  | .stop => stoppedRecord record
  | .scale workers => scaledRecord record workers
  | .release directory stateFile =>
    { record with workingDirectory := directory, masterStateFile := stateFile }
  | .stabilize => stabilizedRecord record
  | .detectExit now => exitDetectedRecord record now
  | .recover started ready => recoveredRecord (begunRecord record started) ready
  | .reschedule started failed => scheduleRecovery (begunRecord record started) failed
  | .healthy checked => healthyRecord record checked
  | .failing checked => failingRecord record checked
  | .unhealthy checked => unhealthyRecord record checked
  | .identify application => identifiedRecord record application
  | .configure application => updatedRecord record application

def lifecycleFields : List RecordField :=
  [.desiredState, .recoveryState, .unstableRestartCount, .nextRestartAtMillis,
    .consecutiveHealthFailures, .healthState]

def scheduleFields : List RecordField :=
  [.unstableRestartCount, .nextRestartAtMillis, .recoveryState]

def configuredFields : List RecordField :=
  [.memoryWarningBytes, .taskWarningCount, .memoryMaxBytes, .taskMaxCount,
    .autoRestart, .restartDelayMillis, .restartBackoffMaxMillis,
    .maxUnstableRestarts, .minUptimeMillis, .shutdownTimeoutMillis,
    .environmentFile, .phpExtensions, .phpExtensionIsolation, .command,
    .healthCheckAddress, .healthCheckPath, .healthCheckIntervalMillis,
    .healthCheckTimeoutMillis, .healthCheckStartPeriodMillis,
    .healthCheckFailureThreshold, .consecutiveHealthFailures,
    .lastHealthCheckAtMillis, .healthState]

def sets : RecordEdit → List RecordField
  | .resetRecovery => lifecycleFields
  | .stop => lifecycleFields
  | .scale _ => [.command]
  | .release _ _ => [.workingDirectory, .masterStateFile]
  | .stabilize => scheduleFields
  | .detectExit _ => .lastExitDetectedAtMillis :: .lastRecoveryStartedAtMillis ::
      .lastRecoveryReadyAtMillis :: scheduleFields
  | .recover _ _ => [.lastRecoveryStartedAtMillis, .lastRecoveryReadyAtMillis,
      .totalAutoRestartCount, .nextRestartAtMillis, .recoveryState]
  | .reschedule _ _ => .lastRecoveryStartedAtMillis :: scheduleFields
  | .healthy _ => [.lastHealthCheckAtMillis, .consecutiveHealthFailures,
      .lastHealthSuccessAtMillis, .healthState]
  | .failing _ => [.lastHealthCheckAtMillis, .consecutiveHealthFailures, .healthState]
  | .unhealthy _ => [.lastHealthCheckAtMillis, .consecutiveHealthFailures, .healthState,
      .totalUnhealthyRestartCount]
  | .identify _ => [.declarativeIdentitySha256]
  | .configure application => if application.autoRestart then configuredFields
      else .recoveryState :: .nextRestartAtMillis :: configuredFields

variable (record : ApplicationRecord)

theorem agree_scheduleRecovery (now : Nat) :
    AgreeOff scheduleFields (scheduleRecovery record now) record := by
  intro field unset
  unfold scheduleRecovery
  dsimp only
  split <;> cases field <;> first | rfl | cases unset

theorem agree_updatedRecord (application : EcosystemApplication) :
    AgreeOff (RecordEdit.configure application).sets (updatedRecord record application) record := by
  intro field unset
  dsimp only [sets] at unset
  split at unset
  next restarts =>
    cases field with
    | recoveryState | nextRestartAtMillis => simp [RecordField.get, updatedRecord, restarts]
    | _ => first | rfl | cases unset
  · cases field <;> first | rfl | cases unset

/-- An edit changes the fields that it sets and no others. -/
theorem agree_apply (edit : RecordEdit) : AgreeOff edit.sets (edit.apply record) record := by
  intro field unset
  cases edit with
  | configure application => exact agree_updatedRecord record application field unset
  | detectExit now =>
    refine (agree_scheduleRecovery _ now field ?_).trans ?_ <;> cases field <;>
      first | rfl | cases unset
  | reschedule started failed =>
    refine (agree_scheduleRecovery _ failed field ?_).trans ?_ <;> cases field <;>
      first | rfl | cases unset
  | _ => cases field <;> first | rfl | cases unset

theorem keeps_identity (edit : RecordEdit) :
    (edit.apply record).name = record.name ∧
      (edit.apply record).schemaVersion = record.schemaVersion := by
  have unset : edit.sets.contains .name = false ∧ edit.sets.contains .schemaVersion = false := by
    cases edit with
    | configure application =>
      dsimp only [sets]
      split <;> exact ⟨rfl, rfl⟩
    | _ => exact ⟨rfl, rfl⟩
  exact ⟨agree_apply record edit _ unset.1, agree_apply record edit _ unset.2⟩

end RecordEdit

inductive Writer where
  | daemon (origin : Origin)
  | client (command : LocalCommand)

def ManagerCommand.makes : ManagerCommand → RecordEdit → Bool
  | .restart _, .resetRecovery => true
  | .resurrect, .resetRecovery => true
  | .scale _ workers, .scale count => workers == count
  | .stop _, .stop => true
  | .deploy _ _, .release _ _ => true
  | .rollback _ _, .release _ _ => true
  | _, _ => false

def Origin.makes : Origin → RecordEdit → Bool
  | .request command, edit => command.makes edit
  | .start, .resetRecovery => true
  | .supervision, .stabilize => true
  | .supervision, .detectExit _ => true
  | .supervision, .recover _ _ => true
  | .supervision, .reschedule _ _ => true
  | .healthResults _, .healthy _ => true
  | .healthResults _, .failing _ => true
  | .healthResults _, .unhealthy _ => true
  | _, _ => false

def LocalCommand.makes (name : AppName) : LocalCommand → RecordEdit → Bool
  | .apply applications, .identify application => applications.contains (name, application)
  | .apply applications, .configure application => applications.contains (name, application)
  | _, _ => false

def Writer.makes (name : AppName) (edit : RecordEdit) : Writer → Bool
  | .daemon origin => origin.makes edit
  | .client command => command.makes name edit

def Writer.creates : Writer → Bool
  | .daemon (.request (.up _)) => true
  | .client (.attach _) => true
  | _ => false

/-- The copy that was read or written last, and the copies of records that the
actor has had `pamd` replace and may put back. -/
structure Hold where
  copy : Option ApplicationRecord
  replaced : List ApplicationRecord

def Hold.release (hold : Hold) : Hold where
  copy := none
  replaced := hold.copy.toList ++ hold.replaced

abbrev Holds := AppName → Hold

def Holds.noted (holds : Holds) : (action : ManagerAction) → action.Answer → Holds
  | .readRecord name, .ok record =>
    Function.update holds name { holds name with copy := some record }
  | .writeRecord record, .ok () =>
    Function.update holds record.name { holds record.name with copy := some record }
  | .findRecord name, false => Function.update holds name { holds name with copy := none }
  | .execute (.stop name), _ => Function.update holds name (holds name).release
  | .execute (.delete name), _ => Function.update holds name (holds name).release
  | _, _ => holds

/-- What is read of the records of a current manager: stored under their names,
of the current schema, and listed once. -/
def ManagerAction.regular : (action : ManagerAction) → action.Answer → Bool
  | .readRecord name, .ok record => record.name == name && record.schemaVersion != 1
  | .listRecords, .ok names => decide names.Nodup
  | _, _ => true

/-- A record is written back with an edit of the operation, put back as it was,
or created. -/
def Writer.Permits (writer : Writer) (hold : Hold) (record : ApplicationRecord) : Prop :=
  (∃ copy, hold.copy = some copy ∧
      ∃ edit : RecordEdit, writer.makes record.name edit = true ∧ record = edit.apply copy) ∨
    record ∈ hold.replaced ∨ writer.creates = true ∧ hold.copy = none

def bookkeeping (writer : Writer) : Monitor ManagerAction ManagerAction.Answer Holds where
  permits holds action := match action with
    | .writeRecord record => record.schemaVersion ≠ 1 ∧ writer.Permits (holds record.name) record
    | _ => True
  learns holds action answer :=
    if action.regular answer then some (holds.noted action answer) else none

def holdings : Ledger Holds where
  copied holds record := (holds record.name).copy = some record ∧ record.schemaVersion ≠ 1
  restorable holds record := record ∈ (holds record.name).replaced ∧ record.schemaVersion ≠ 1
  absent holds name := (holds name).copy = none

def Writer.Edits (writer : Writer) (edited record : ApplicationRecord) : Prop :=
  ∃ edit : RecordEdit, writer.makes record.name edit = true ∧ edited = edit.apply record

def Writer.Creates (writer : Writer) (record : ApplicationRecord) : Prop :=
  writer.creates = true ∧ record.schemaVersion ≠ 1

variable {action : ManagerAction}

theorem learns_eq (learns : (bookkeeping writer).learns holds action answer = some learned) :
    action.regular answer = true ∧ learned = holds.noted action answer := by
  dsimp only [bookkeeping] at learns
  split at learns
  next regular =>
    cases learns
    exact ⟨regular, rfl⟩
  · cases learns

theorem keeps_update {name : AppName} (replaced : (holds name).replaced ⊆ hold.replaced) :
    holdings.Keeps name holds (update holds name hold) where
  copied := by
    intro other different copied
    refine ⟨?_, copied.2⟩
    rw [update_of_ne different]
    exact copied.1
  restorable := by
    intro record restorable
    refine ⟨?_, restorable.2⟩
    by_cases same : record.name = name
    · subst same
      rw [update_self]
      exact replaced restorable.1
    · rw [update_of_ne same]
      exact restorable.1

theorem keeps_release : holdings.Keeps name holds
      (update holds name (holds name).release) := keeps_update (subset_append_right _ _)

theorem restorable_release (copied : holdings.copied holds record) :
    holdings.restorable (update holds record.name (holds record.name).release) record := by
  refine ⟨?_, copied.2⟩
  rw [update_self, Hold.release, copied.1]
  exact mem_append_left _ (mem_singleton_self record)

theorem bookkeeper : Bookkeeper (bookkeeping writer) holdings writer.Edits writer.Creates where
  passes := by
    intro holds action untouched
    cases action <;> trivial
  passed := by
    intro holds learned action answer untouched learns
    rw [(learns_eq learns).2]
    cases action <;> first | rfl | cases untouched
  listed := by
    intro holds learned names learns
    exact of_decide_eq_true (learns_eq learns).1
  reads := trivial
  keepsRead := by
    intro holds learned name answer learns
    rw [(learns_eq learns).2]
    cases answer with
    | error error => exact .refl _
    | ok record => exact keeps_update (List.Subset.refl _)
  copied := by
    intro holds learned name record learns
    obtain ⟨regular, rfl⟩ := learns_eq learns
    obtain ⟨named, current⟩ := and_eq_true_iff.mp regular
    rw [beq_iff_eq] at named
    rw [bne_iff_ne] at current
    subst named
    refine ⟨rfl, current, ?_, current⟩
    change (update holds record.name _ record.name).copy = _
    rw [update_self]
  writes := by
    rintro holds record _ copied ⟨edit, made, rfl⟩
    obtain ⟨name, version⟩ := edit.keeps_identity record
    refine ⟨?_, .inl ⟨record, ?_, edit, ?_, rfl⟩⟩
    · rw [version]
      exact copied.2
    · rw [name]
      exact copied.1
    · rw [name]
      exact made
  keepsWrite := by
    intro holds learned record answer learns
    rw [(learns_eq learns).2]
    cases answer with
    | error error => exact .refl _
    | ok done => exact keeps_update (List.Subset.refl _)
  written := by
    intro holds learned record permitted learns
    rw [(learns_eq learns).2]
    refine ⟨?_, permitted.1⟩
    change (update holds record.name _ record.name).copy = _
    rw [update_self]
  finds := trivial
  found := by
    intro holds learned name learns
    rw [(learns_eq learns).2]
    change (update holds name _ name).copy = none
    rw [update_self]
  creates := by
    intro holds record absent create
    exact ⟨create.2, .inr (.inr ⟨create.1, absent⟩)⟩
  executes := trivial
  keepsExecute := by
    intro holds learned command answer record learns restorable
    rw [(learns_eq learns).2]
    cases command with
    | stop name => exact keeps_release.restorable record restorable
    | delete name => exact keeps_release.restorable record restorable
    | _ => exact restorable
  replaces := by
    intro holds learned command answer record learns replacing copied
    rw [(learns_eq learns).2]
    rcases replacing with rfl | rfl <;> exact restorable_release copied
  restores := by
    intro holds record restorable
    exact ⟨restorable.2, .inr (.inl restorable.1)⟩

theorem daemon_edits (origin : Origin) : origin.Edits (Writer.daemon origin).Edits
      (Writer.daemon origin).Creates := by
  cases origin with
  | supervision =>
    exact ⟨fun _ => ⟨.stabilize, rfl, rfl⟩, fun _ now => ⟨.detectExit now, rfl, rfl⟩,
      fun _ started ready => ⟨.recover started ready, rfl, rfl⟩,
      fun _ started failed => ⟨.reschedule started failed, rfl, rfl⟩⟩
  | healthResults results =>
    exact ⟨fun _ checked => ⟨.healthy checked, rfl, rfl⟩,
      fun _ checked => ⟨.failing checked, rfl, rfl⟩,
      fun _ checked => ⟨.unhealthy checked, rfl, rfl⟩⟩
  | start => exact fun _ => ⟨.resetRecovery, rfl, rfl⟩
  | request command =>
    cases command with
    | up options => exact fun now => ⟨rfl, Nat.succ_ne_self 1⟩
    | restart name | resurrect => exact fun _ => ⟨.resetRecovery, rfl, rfl⟩
    | scale name workers => exact fun _ _ => ⟨.scale workers, BEq.rfl, rfl⟩
    | stop name => exact fun _ => ⟨.stop, rfl, rfl⟩
    | delete name | save => trivial
    | deploy name release | rollback name steps =>
      exact fun record release => ⟨⟨.release release _, rfl, rfl⟩,
        .release record.workingDirectory record.masterStateFile, rfl, rfl⟩

theorem client_edits (command : LocalCommand) :
    command.Edits (Writer.client command).Edits (Writer.client command).Creates := by
  cases command with
  | attach options => exact fun now => ⟨rfl, Nat.succ_ne_self 1⟩
  | apply applications =>
    rintro ⟨_, application⟩ member record rfl
    have made : applications.contains (record.name, application) = true :=
      contains_iff_mem.mpr member
    exact ⟨⟨.identify application, made, rfl⟩, .configure application, made, rfl⟩

structure Access where
  actor : Actor
  writer : Writer
  action : ManagerAction
  answer : action.Answer

def ManagerState.access (state : ManagerState) : ManagerLabel → Option Access
  | .daemonStep fault =>
    match state.job with
    | some { origin, program := .perform action _, .. } =>
      some ⟨.daemon, .daemon origin, action, (state.world.perform fault action).1⟩
    | _ => none
  | .clientStep id fault =>
    match state.clients.lookup id with
    | some { command, program := .perform action _, .. } =>
      some ⟨.client id, .client command, action, (state.world.perform fault action).1⟩
    | _ => none
  | _ => none

structure Write where
  actor : Actor
  writer : Writer
  record : ApplicationRecord

def Access.write : Access → Option Write
  | ⟨actor, writer, .writeRecord record, .ok ()⟩ => some ⟨actor, writer, record⟩
  | _ => none

def ManagerState.write (state : ManagerState) (label : ManagerLabel) : Option Write :=
  (state.access label).bind Access.write

abbrev Audit := Actor → Holds

def Audit.noted (state : ManagerState) (label : ManagerLabel) (audit : Audit) : Audit :=
  match state.access label with
  | none => audit
  | some access =>
    Function.update audit access.actor ((audit access.actor).noted access.action access.answer)

def Audit.initial : Audit := fun _ _ => ⟨none, []⟩

def auditedMachine : Machine (ManagerState × Audit) ManagerLabel :=
  managerMachine.recorded Audit.noted .initial

/-- A record that is created or put back is written as a whole. -/
def Write.whole (write : Write) (hold : Hold) : Bool :=
  decide (write.record ∈ hold.replaced) || (write.writer.creates && hold.copy.isNone)

def Write.CarriesOut (write : Write) (copy : ApplicationRecord) (edit : RecordEdit) : Prop :=
  write.writer.makes write.record.name edit = true ∧ write.record = edit.apply copy

def Audit.hold (audit : Audit) (write : Write) : Hold := audit write.actor write.record.name

/-- The writes that carry out an edit keep the other fields as they are stored. -/
def KeepsOthers (state : ManagerState × Audit) (label : ManagerLabel) (edit : RecordEdit) : Prop :=
  ∀ write ∈ state.1.write label, ∀ stored ∈ state.1.world.records.lookup write.record.name,
    write.whole (state.2.hold write) = false → ∀ copy ∈ (state.2.hold write).copy,
      write.CarriesOut copy edit → AgreeOff edit.sets write.record stored

instance (state : ManagerState × Audit) (label : ManagerLabel) (edit : RecordEdit) :
    Decidable (KeepsOthers state label edit) := by
  unfold KeepsOthers Write.CarriesOut
  infer_instance

/-- No update is lost: a record is written as a whole, or an edit of the writing
operation is carried out and what it does not set stays as it is stored. -/
structure KeepsUpdates (state : ManagerState × Audit) (label : ManagerLabel) : Prop where
  explained : ∀ write ∈ state.1.write label, write.whole (state.2.hold write) = true ∨
    ∃ copy ∈ (state.2.hold write).copy, ∃ edit, write.CarriesOut copy edit
  others : ∀ edit, KeepsOthers state label edit

/-- What is stored is what the writer has read, except in the fields that the
edit sets. -/
def WritesFresh (state : ManagerState × Audit) (label : ManagerLabel) : Prop :=
  ∀ write ∈ state.1.write label, ∀ stored ∈ state.1.world.records.lookup write.record.name,
    write.whole (state.2.hold write) = false → ∀ copy ∈ (state.2.hold write).copy,
      ∀ edit, write.CarriesOut copy edit → AgreeOff edit.sets stored copy

def World.Current (world : World) : Prop :=
  ∀ name record, world.records.lookup name = some record → record.schemaVersion ≠ 1

variable {world : World} {action : ManagerAction}

theorem World.Current.perform (current : world.Current)
    (written : ∀ record, action = .writeRecord record → record.schemaVersion ≠ 1) :
    (world.perform fault action).2.Current := by
  intro name record found
  rcases lookup_records_perform found with before | ⟨write, _⟩
  · exact current name record before
  · exact written record write

theorem nodup_recordNames : world.recordNames.Nodup :=
  (perm_insertionSort _ _).nodup_iff.mpr world.records.keys_nodup

theorem regular_perform (coherent : world.Coherent) (current : world.Current) :
    action.regular (world.perform fault action).1 = true := by
  cases action with
  | readRecord name =>
    cases fault with
    | some message => rfl
    | none =>
      cases lookup : world.records.lookup name with
      | none => simp [World.perform, World.attempt, lookup, orError, ManagerAction.regular]
      | some record =>
        simp only [World.perform, World.attempt, lookup, orError,
          ManagerAction.regular, coherent.named name record lookup, BEq.rfl,
          Bool.true_and, bne_iff_ne]
        exact current name record lookup
  | listRecords =>
    cases fault with
    | some message => rfl
    | none =>
      simp only [World.perform]
      split
      · rfl
      · exact decide_eq_true nodup_recordNames
  | _ => rfl

structure Client.Booked (client : Client) (holds : Holds) : Prop where
  idle : client.waiting = false → (bookkeeping (.client client.command)).Obeys holds client.program
  waits : client.waiting = true → ∀ {command next},
    client.program = .perform (.execute command) next → ∀ answer,
      (bookkeeping (.client client.command)).Obeys holds (next answer)

structure Booked (state : ManagerState) (audit : Audit) : Prop where
  coherent : state.world.Coherent
  current : state.world.Current
  daemon : ∀ job ∈ state.job, (bookkeeping (.daemon job.origin)).Obeys (audit .daemon) job.program
  clients : ∀ {id client}, state.clients.lookup id = some client →
    client.Booked (audit (.client id))

variable {audit : Audit} {id : ClientId}

theorem booked_originProgram : (bookkeeping (.daemon origin)).Obeys holds origin.program.run :=
  (bookkeeper.originProgram (daemon_edits origin)).obeys holds

theorem booked_localProgram : (bookkeeping (.client command)).Obeys holds command.program.run :=
  (bookkeeper.localProgram (client_edits command)).obeys holds

theorem noted_daemonStep {next : action.Answer → ManagerProgram (Except String Unit)}
    (job : state.job = some ⟨origin, client, .perform action next⟩) :
    audit.noted state (.daemonStep fault) .daemon =
      (audit .daemon).noted action (state.world.perform fault action).1 := by
  simp [Audit.noted, ManagerState.access, job]

theorem noted_daemonStep_client : audit.noted state (.daemonStep fault) (.client id) =
      audit (.client id) := by
  dsimp only [Audit.noted, ManagerState.access]
  split
  · exact update_of_ne Actor.noConfusion _ _
  · rfl

theorem noted_clientStep {next : action.Answer → ManagerProgram (Except String Unit)}
    (found : state.clients.lookup id = some client)
    (program : client.program = .perform action next) :
    audit.noted state (.clientStep id fault) (.client id) =
      (audit (.client id)).noted action (state.world.perform fault action).1 := by
  obtain ⟨command, _, waiting⟩ := client
  cases program
  simp [Audit.noted, ManagerState.access, found]

theorem noted_clientStep_of_ne (other : actor ≠ .client id) :
    audit.noted state (.clientStep id fault) actor = audit actor := by
  dsimp only [Audit.noted, ManagerState.access]
  split
  · exact update_of_ne other _ _
  · rfl

theorem noted_execute (holds : Holds) :
    holds.noted (.execute command) first = holds.noted (.execute command) second := by
  cases command <;> rfl

section

variable (booked : Booked state audit)
include booked

theorem Booked.perform {next : action.Answer → ManagerProgram (Except String Unit)}
    (obeys : (bookkeeping writer).Obeys holds (.perform action next)) :
    (state.world.perform fault action).2.Coherent ∧ (state.world.perform fault action).2.Current ∧
      (bookkeeping writer).Obeys (holds.noted action (state.world.perform fault action).1)
        (next (state.world.perform fault action).1) := by
  refine ⟨booked.coherent.perform fault action, ?_, ?_⟩
  · apply booked.current.perform
    intro record write
    subst write
    exact obeys.permits.1
  · exact obeys.step (if_pos (regular_perform booked.coherent booked.current))

theorem Booked.daemonStep (step : state.daemonStep fault = some target) :
    Booked target (audit.noted state (.daemonStep fault)) := by
  unfold ManagerState.daemonStep at step
  split at step
  · cases step
  next job =>
    cases step
    refine ⟨booked.coherent, booked.current, ?_, ?_⟩
    · intro job member
      cases member
    intro id client found
    rw [noted_daemonStep_client]
    rcases lookup_deliver found with before | ⟨command, executed, next, answer, before, rfl⟩
    · exact booked.clients before
    refine ⟨fun _ => (booked.clients before).waits rfl rfl answer, ?_⟩
    intro waiting
    cases waiting
  next job =>
  cases step
  obtain ⟨coherent, current, obeys⟩ := booked.perform (booked.daemon _ job)
  refine ⟨coherent, current, ?_, ?_⟩
  · intro kept member
    cases member
    rw [noted_daemonStep job]
    exact obeys
  · intro id client found
    rw [noted_daemonStep_client]
    exact booked.clients found

theorem Booked.of_client {clients : Table ClientId Client}
    (coherent : world.Coherent) (current : world.Current)
    (sameWorld : target.world = world) (sameJob : target.job = state.job)
    (sameClients : target.clients = clients)
    (kept : ∀ {other client}, clients.lookup other = some client →
      client.Booked (audit.noted state (.clientStep id fault) (.client other)) ∨
        other ≠ id ∧ state.clients.lookup other = some client) :
    Booked target (audit.noted state (.clientStep id fault)) := by
  subst sameWorld sameClients
  refine ⟨coherent, current, ?_, ?_⟩
  · rw [sameJob, noted_clientStep_of_ne Actor.noConfusion]
    exact booked.daemon
  intro other client found
  rcases kept found with done | ⟨different, before⟩
  · exact done
  · rw [noted_clientStep_of_ne (by simpa using different)]
    exact booked.clients before

theorem Booked.clientStep (step : state.clientStep id fault = some target) :
    Booked target (audit.noted state (.clientStep id fault)) := by
  obtain ⟨client, found, did⟩ := clientStep_cases step
  have clientBooked := booked.clients found
  rcases did with rfl | ⟨command, next, program, idle, rfl⟩ | ⟨action, next, program, idle, rfl⟩
  · refine booked.of_client booked.coherent booked.current rfl rfl rfl ?_
    intro other kept lookup
    obtain ⟨before, different⟩ := lookup_of_lookup_erase lookup
    exact .inr ⟨different, before⟩
  · have obeys := clientBooked.idle idle
    rw [program] at obeys
    refine booked.of_client booked.coherent booked.current rfl rfl rfl ?_
    intro other kept lookup
    rcases lookup_of_lookup_insert lookup with ⟨rfl, rfl⟩ | ⟨different, before⟩
    · left
      rw [noted_clientStep found program]
      refine ⟨nofun, ?_⟩
      intro _ executed following same answer
      -- What the client learns does not depend on the answer of `pamd`.
      cases program.symm.trans same
      rw [noted_execute _]
      exact obeys.step rfl
    · exact .inr ⟨different, before⟩
  · have obeys := clientBooked.idle idle
    rw [program] at obeys
    obtain ⟨coherent, current, rest⟩ := booked.perform obeys
    refine booked.of_client coherent current rfl rfl rfl ?_
    intro other kept lookup
    rcases lookup_of_lookup_insert lookup with ⟨rfl, rfl⟩ | ⟨different, before⟩
    · left
      rw [noted_clientStep found program]
      refine ⟨fun _ => rest, ?_⟩
      intro waiting
      cases idle.symm.trans waiting
    · exact .inr ⟨different, before⟩

theorem Booked.moves (moves : state.Moves target) : Booked target audit := by
  cases moves with
  | issue command => exact ⟨booked.coherent, booked.current, booked.daemon, booked.clients⟩
  | issueLocal command =>
    refine ⟨booked.coherent, booked.current, booked.daemon, ?_⟩
    intro id client found
    rcases lookup_of_lookup_insert found with ⟨_, rfl⟩ | ⟨_, before⟩
    · refine ⟨fun _ => booked_localProgram, ?_⟩
      intro waiting
      cases waiting
    · exact booked.clients before
  | accept request requests | begin origin automatic =>
    refine ⟨booked.coherent, booked.current, ?_, booked.clients⟩
    intro job member
    cases member
    exact booked_originProgram
  | outside serving moves =>
    refine ⟨booked.coherent.moves moves, ?_, booked.daemon, booked.clients⟩
    intro name record found
    rw [records_of_moves moves] at found
    exact booked.current name record found

theorem Booked.next (step : managerStep state label = some target) :
    Booked target (audit.noted state label) := by
  cases label with
  | daemonStep fault => exact booked.daemonStep step
  | clientStep id fault => exact booked.clientStep step
  | _ =>
    rcases managerStep_cases step with ⟨_, ⟨⟩, _⟩ | ⟨_, _, ⟨⟩, _⟩ | moves
    exact booked.moves moves

end

theorem Booked.initial : Booked .initial .initial where
  coherent := World.Coherent.initial
  current := by
    intro name record found
    cases found
  daemon := by
    intro job member
    cases member
  clients := by
    intro id client found
    cases found

theorem Access.write_eq {access : Access} {write : Write} (writes : access.write = some write) :
    access.actor = write.actor ∧ access.writer = write.writer ∧
      access.action = .writeRecord write.record := by
  unfold Access.write at writes
  split at writes
  · cases writes
    exact ⟨rfl, rfl, rfl⟩
  · cases writes

theorem Booked.permits (booked : Booked state audit) (step : managerStep state label = some target)
    (writes : state.write label = some write) :
    write.writer.Permits (audit.hold write) write.record := by
  obtain ⟨access, accesses, written⟩ := bind_eq_some_iff.mp writes
  obtain ⟨actor, writer, action⟩ := Access.write_eq written
  suffices permitted : (bookkeeping access.writer).permits (audit access.actor) access.action by
    rw [actor, writer, action] at permitted
    exact permitted.2
  cases label with
  | daemonStep fault =>
    dsimp only [ManagerState.access] at accesses
    split at accesses
    next job =>
      cases accesses
      exact (booked.daemon _ job).permits
    · cases accesses
  | clientStep id fault =>
    dsimp only [ManagerState.access] at accesses
    split at accesses
    next waiting found =>
      cases accesses
      have idle : waiting = false := by
        by_contra waits
        rw [not_eq_false] at waits
        simp only [managerStep, ManagerState.clientStep, found, waits,
          if_true, reduceCtorEq] at step
      exact ((booked.clients found).idle idle).permits
    · cases accesses
  | _ => cases accesses

theorem Write.CarriesOut.agree_iff {write : Write} (carries : write.CarriesOut copy edit) :
    AgreeOff edit.sets write.record stored ↔ AgreeOff edit.sets stored copy := by
  have agree : AgreeOff edit.sets write.record copy := by
    rw [carries.2]
    exact edit.agree_apply copy
  exact ⟨fun kept => kept.symm.trans agree, fun fresh => agree.trans fresh.symm⟩

theorem Write.explained_of_permits {write : Write}
    (permitted : write.writer.Permits hold write.record) :
    write.whole hold = true ∨ ∃ copy ∈ hold.copy, ∃ edit, write.CarriesOut copy edit := by
  rcases permitted with explained | restored | created
  · exact .inr explained
  · exact .inl (by simp [Write.whole, restored])
  · exact .inl (by simp [Write.whole, created])

theorem Booked.keepsUpdates_iff (booked : Booked state audit)
    (step : managerStep state label = some target) :
    KeepsUpdates (state, audit) label ↔ WritesFresh (state, audit) label := by
  constructor
  · intro kept write writes stored found edited copy copied edit carries
    exact carries.agree_iff.mp
      (kept.others edit write writes stored found edited copy copied carries)
  · intro fresh
    constructor
    · intro write writes
      exact Write.explained_of_permits (booked.permits step writes)
    · intro edit write writes stored found edited copy copied carries
      exact carries.agree_iff.mpr (fresh write writes stored found edited copy copied edit carries)

def recoveringShop : List ManagerLabel := [.startDaemon] ++ daemonSteps 2 ++
    [.issueLocal (.apply [("shop", runtimeApplication "/srv/shop")])] ++
    clientSteps 0 3 ++ [.accept 0] ++ daemonSteps 3 ++ [.ready 1 2] ++
    daemonSteps 4 ++ clientSteps 0 3 ++ [.exit 1 false, .supervise] ++
    daemonSteps 7 ++ [.tick 1000, .supervise] ++ daemonSteps 10

/-- While `pamd` waits for the new master, another `apply` sets its restart
delay, which the record of the recovery puts back. -/
def forgottenDelay : List ManagerLabel := recoveringShop ++ [.issueLocal (.apply [("shop",
      { runtimeApplication "/srv/shop" with restartDelayMillis := 500 })])] ++
    clientSteps 1 4 ++ [.ready 2 2] ++ daemonSteps 3

end Pam.Manager
