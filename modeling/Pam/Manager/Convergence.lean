import Pam.Manager.Prediction

namespace Pam.Manager

open Option

/-! The fixed point of `apply`: what `plan` reports after it. -/

/-- What a launch takes from the configuration can be read back from the
command. -/
structure EcosystemApplication.Launchable (application : EcosystemApplication) : Prop where
  positive : 0 < application.workers
  small : application.workers ≤ 256
  script : isWord application.script = true
  extensions : ∀ extension ∈ application.phpExtensions, extension ∉ reservedArguments

/-- Without an address the health settings are the defaults of `up`. -/
def EcosystemApplication.HealthDefaults (application : EcosystemApplication) : Prop :=
  application.healthCheckAddress = none →
    application.healthCheckIntervalMillis = defaultHealthIntervalMillis ∧
      application.healthCheckTimeoutMillis = defaultHealthTimeoutMillis ∧
      application.healthCheckStartPeriodMillis = 0 ∧
      application.healthCheckFailureThreshold = defaultHealthFailureThreshold

/-- The drift is one that a single action repairs: a launch with all settings, a
restart with the configured workers, or a change of the workers alone. -/
def View.Repairable (cores : Nat) (view : View) (name : AppName)
    (application : EcosystemApplication) : Prop :=
  match view.reads name with
  | none => application.HealthDefaults
  | some record =>
    if record.declarativeIdentitySha256 = some application.identitySha256 then
      ScalableCommand record.command ∧
        (commandWorkers cores record.command = some application.workers ∨
          (view.online record.masterStateFile).isSome = true ∧
            launchUpdated record application = false)
    else application.HealthDefaults

structure View.Settled (view : View) (name : AppName)
    (application : EcosystemApplication) (record : ApplicationRecord) : Prop where
  read : view.reads name = some record
  identity : record.declarativeIdentitySha256 = some application.identitySha256
  launch : launchUpdated record application = false
  policy : policyUpdated record application = false
  workers : ∃ master, view.online record.masterStateFile = some master ∧
    master.state.workers = application.workers

variable {view : View} {application : EcosystemApplication}

theorem View.Settled.action (settled : view.Settled name application record)
    (enabled : application.autostart = true) : view.action name application = .unchanged := by
  obtain ⟨master, online, enough⟩ := settled.workers
  simp [View.action, recordAction, enabled, settled.read, settled.identity,
    online, settled.launch, settled.policy, enough]

theorem launchUpdated_updated :
    launchUpdated (updatedRecord record application) application = false := by
  simp [launchUpdated, limitUpdated, healthUpdated, updatedRecord]

theorem policyUpdated_updated :
    policyUpdated (updatedRecord record application) application = false := by
  simp [policyUpdated, updatedRecord]

theorem editedRecord_settled : launchUpdated (editedRecord record application) application = false ∧
      policyUpdated (editedRecord record application) application = false := by
  unfold editedRecord
  split
  · exact ⟨launchUpdated_updated, policyUpdated_updated⟩
  next settled =>
    simp only [Bool.or_eq_true, not_or, Bool.not_eq_true] at settled
    exact ⟨settled.2, settled.1⟩

theorem editedRecord_identity : (editedRecord record application).declarativeIdentitySha256 =
      record.declarativeIdentitySha256 := by
  unfold editedRecord
  split <;> rfl

theorem editedRecord_schema (current : record.schemaVersion ≠ 1) :
    (editedRecord record application).schemaVersion ≠ 1 := by
  unfold editedRecord
  split <;> exact current

theorem editedRecord_command (scalable : ScalableCommand record.command)
    (launchable : application.Launchable) :
    ScalableCommand (editedRecord record application).command ∧ ∀ cores,
        commandWorkers cores (editedRecord record application).command =
          commandWorkers cores record.command := by
  unfold editedRecord
  split
  · exact scalable.extended launchable.extensions
  · exact ⟨scalable, fun _ => rfl⟩

theorem launched_settled (defaults : application.HealthDefaults) :
    launchUpdated (identifiedRecord (upRecord (application.upOptions name) now) application)
        application = false ∧
      policyUpdated (identifiedRecord (upRecord (application.upOptions name) now) application)
        application = false := by
  constructor
  · cases address : application.healthCheckAddress with
    | none =>
      obtain ⟨interval, timeout, start, failures⟩ := defaults address
      simp [launchUpdated, limitUpdated, healthUpdated, identifiedRecord, upRecord,
        EcosystemApplication.upOptions, interval, timeout, start, failures]
    | some given => simp [launchUpdated, limitUpdated, healthUpdated, identifiedRecord,
        upRecord, EcosystemApplication.upOptions, address]
  · simp [policyUpdated, identifiedRecord, upRecord, EcosystemApplication.upOptions]

theorem launched_workers (launchable : application.Launchable) {state : MasterState}
    (counted : commandWorkers cores
      (application.upOptions name).launch.command = some state.workers) :
    state.workers = application.workers := by
  have given : (application.upOptions name).workers = some application.workers := rfl
  rw [launch_workers given launchable.positive launchable.small
    launchable.script launchable.extensions] at counted
  exact (some.inj counted).symm

theorem settled_of_bring (named : stored.name = name) (current : stored.schemaVersion ≠ 1)
    (identity : stored.declarativeIdentitySha256 = some application.identitySha256)
    (drift : launchUpdated stored application = false ∧ policyUpdated stored application = false)
    (enough : master.state.workers = application.workers) :
    ((view.store stored).bring stored.masterStateFile master).Settled name application stored where
  read := by
    have found : ((view.store stored).bring stored.masterStateFile
        master).records name = some stored := by
      rw [← named]
      exact Function.update_self ..
    rw [View.reads, found, map_some, seen_of_schema current]
  identity := identity
  launch := drift.1
  policy := drift.2
  workers := ⟨master, Function.update_self .., enough⟩

theorem store_bring :
    (view.bring file master).store stored = (view.store stored).bring file master := rfl

theorem View.Applies.settles (applies : view.Applies cores name application after)
    (named : ∀ record, view.reads name = some record → record.name = name)
    (enabled : application.autostart = true) (launchable : application.Launchable)
    (repairable : view.Repairable cores name application) :
    ∃ record, after.Settled name application record ∧
      view.Touches name application record.masterStateFile := by
  have touched {record : ApplicationRecord} (read : view.reads name = some record) :
      view.Touches name application (editedRecord record application).masterStateFile :=
    .inl ⟨record, read, editedRecord_masterStateFile⟩
  unfold View.Repairable at repairable
  cases applies with
  | ignored disabled _ | stopped disabled _ =>
    rw [enabled] at disabled
    cases disabled
  | @created state now _ absent counted =>
    have unread : view.reads name = none := by
      rw [View.reads, absent]
      rfl
    simp only [unread] at repairable
    have creates : view.action name application = .created := by simp [View.action, enabled, unread]
    refine ⟨identifiedRecord (upRecord (application.upOptions name) now)
      application, ?_, .inr ⟨.inl creates, rfl⟩⟩
    rw [store_bring]
    exact settled_of_bring rfl (Nat.succ_ne_self 1) rfl (launched_settled repairable)
      (launched_workers launchable counted)
  | @replaced record state now _ read other counted =>
    simp only [read, other] at repairable
    have replaces : view.action name application = .replaced := by
      simp [View.action, enabled, read, other]
    refine ⟨identifiedRecord (upRecord (application.upOptions name) now)
      application, ?_, .inr ⟨.inr replaces, rfl⟩⟩
    rw [store_bring]
    exact settled_of_bring rfl (Nat.succ_ne_self 1) rfl (launched_settled repairable)
      (launched_workers launchable counted)
  | @restarted record state _ read same offline counted =>
    simp only [read, same, if_true, offline, isSome_none,
      Bool.false_eq_true, false_and, or_false] at repairable
    obtain ⟨_, workers⟩ := editedRecord_command repairable.1 launchable
    rw [workers, repairable.2] at counted
    refine ⟨resetRecovery (editedRecord record application), ?_, touched read⟩
    rw [← editedRecord_masterStateFile]
    exact settled_of_bring (editedRecord_name.trans (named record read))
      (editedRecord_schema (schema_of_reads read))
      (editedRecord_identity.trans same) editedRecord_settled (some.inj counted).symm
  | @relaunched record state master _ read same online changed counted =>
    simp only [read, same, changed, Bool.true_eq_false, and_false, or_false] at repairable
    have edited : editedRecord record application = updatedRecord record application := by
      unfold editedRecord
      rw [changed, Bool.or_true, if_pos rfl]
    obtain ⟨_, workers⟩ := editedRecord_command repairable.1 launchable
    rw [← edited, workers, repairable.2] at counted
    have current : record.schemaVersion ≠ 1 := schema_of_reads read
    refine ⟨updatedRecord record application, ?_, .inl ⟨record, read, rfl⟩⟩
    exact settled_of_bring (named record read) current same
      ⟨launchUpdated_updated, policyUpdated_updated⟩ (some.inj counted).symm
  | @scaled record state master _ read same online unchanged different counted =>
      simp only [read, same] at repairable
      obtain ⟨scalable, _⟩ := editedRecord_command repairable.1 launchable
      have workers := scalable.scaled_workers cores launchable.positive launchable.small
      refine ⟨scaledRecord (editedRecord record application) application.workers, ?_, touched read⟩
      rw [← editedRecord_masterStateFile]
      exact settled_of_bring (editedRecord_name.trans (named record read))
        (editedRecord_schema (schema_of_reads read))
        (editedRecord_identity.trans same) editedRecord_settled
        (some.inj (counted.symm.trans workers))
  | @kept record master _ read same online unchanged enough =>
    have current : record.schemaVersion ≠ 1 := schema_of_reads read
    refine ⟨editedRecord record application, ?_, touched read⟩
    exact
      { read := by
          unfold View.edit editedRecord
          split
          · rw [← named record read]
            exact View.reads_store current
          · exact read
        identity := editedRecord_identity.trans same
        launch := editedRecord_settled.1
        policy := editedRecord_settled.2
        workers := by
          rw [View.online_edit, editedRecord_masterStateFile]
          exact ⟨master, online, enough⟩ }

theorem View.Agrees.repairable {view now : View}
    {name : AppName} {application : EcosystemApplication}
    (agrees : view.Agrees now name application)
    (repairable : view.Repairable cores name application) :
    now.Repairable cores name application := by
  unfold View.Repairable at repairable ⊢
  rw [agrees.reads]
  cases read : view.reads name with
  | none =>
    rw [read] at repairable
    exact repairable
  | some record =>
    rw [read] at repairable
    simp only [agrees.online _ (.inl ⟨record, read, rfl⟩)]
    exact repairable

theorem View.Reconciled.settled {view now : View}
    {name : AppName} {application : EcosystemApplication}
    (reconciled : view.Reconciled cores now name application)
    (named : ∀ record, view.reads name = some record → record.name = name)
    (enabled : application.autostart = true) (launchable : application.Launchable)
    (repairable : view.Repairable cores name application) :
    now.action name application = .unchanged := by
  obtain ⟨before, after, agrees, applies, records, online⟩ := reconciled
  have beforeNamed : ∀ record, before.reads name = some record → record.name = name := by
    rw [agrees.reads]
    exact named
  obtain ⟨record, settled, touched⟩ := applies.settles beforeNamed enabled
    launchable (agrees.repairable repairable)
  have sameFile : now.online record.masterStateFile = after.online record.masterStateFile :=
    online _ (agrees.touches.mp touched)
  have read : now.reads name = some record := by
    have stored := settled.read
    rw [View.reads] at stored ⊢
    rw [records]
    obtain ⟨kept, found, rfl⟩ := map_eq_some_iff.mp stored
    rw [View.seen_masterStateFile] at sameFile
    rw [found, map_some, View.seen, View.seen, sameFile]
  have still : now.Settled name application record := { settled with
      read := read
      workers := by
        rw [sameFile]
        exact settled.workers }
  exact still.action enabled

theorem apply_converges {cores : Nat} {host after : Host}
    {applications : List (AppName × EcosystemApplication)} {results : List ReconcileResult}
    (undisturbed : host.Undisturbed applications)
    (applied : host.AttendedRuns cores World.Later (reconcileEcosystem .apply applications)
      (.ok results) after) {name : AppName} {application : EcosystemApplication}
    (configured : (name, application) ∈ applications) (enabled : application.autostart = true)
    (launchable : application.Launchable)
    (repairable : host.world.view.Repairable cores name application) :
    (∃ planned, after.Runs cores (reconcileEcosystem .plan applications) (.ok planned) after) ∧
      ∀ (final : Host) (planned : List ReconcileResult),
        after.Runs cores (reconcileEcosystem .plan applications) (.ok planned) final →
        ⟨name, .unchanged, application.identitySha256⟩ ∈ planned := by
  refine ⟨⟨_, runs_plan.mpr ⟨rfl, rfl⟩⟩, ?_⟩
  intro final planned plans
  obtain ⟨rfl, rfl⟩ := runs_plan.mp plans
  obtain ⟨alone, runs, millis, same⟩ := applied.alone
  obtain ⟨_, reconciled⟩ := runs_apply undisturbed.sound undisturbed.ready
    undisturbed.separate undisturbed.clear runs
  have settled := (reconciled (name, application) configured).settled
    (fun record read => name_of_reads undisturbed.sound read) enabled launchable repairable
  have view : final.world.view = alone.world.view := by
    rw [same]
    rfl
  apply List.mem_map.mpr
  refine ⟨(name, application), configured, ?_⟩
  rw [view, settled]

theorem runtimeApplication_launchable (directory : Directory) :
    (runtimeApplication directory).Launchable where
  positive := Nat.succ_pos _
  small := by
    change 2 ≤ 256
    decide
  script := by
    change isWord "index.php" = true
    decide
  extensions := nofun

theorem api_converges : ∃ after, idleHost.Runs 4 (reconcileEcosystem .apply apiOnly)
        (.ok [⟨"api", .created, "/srv/api"⟩]) after ∧
      ∀ (final : Host) (planned : List ReconcileResult),
        after.Runs 4 (reconcileEcosystem .plan apiOnly) (.ok planned) final →
        ⟨"api", .unchanged, "/srv/api"⟩ ∈ planned := by
  have applied : idleHost.Runs 4 (reconcileEcosystem .apply apiOnly)
      (.ok [⟨"api", .created, "/srv/api"⟩]) _ := Host.runs_evaluate (by decide +kernel)
  exact ⟨_, applied, (apply_converges idleHost_undisturbed applied.attended
    List.mem_cons_self rfl (runtimeApplication_launchable _) (fun _ => ⟨rfl, rfl, rfl, rfl⟩)).2⟩

def intervalOnly : List (AppName × EcosystemApplication) :=
  [("api", { runtimeApplication "/srv/api" with healthCheckIntervalMillis := 10000 })]

/-- The interval is not given to `up`, so that the next `plan` wants to restart
the application. -/
theorem interval_without_check_drifts : ¬ ∀ (host after final : Host)
        (applications : List (AppName × EcosystemApplication))
        (results planned : List ReconcileResult), host.Undisturbed applications →
      host.Runs 4 (reconcileEcosystem .apply applications) (.ok results) after →
      after.Runs 4 (reconcileEcosystem .plan applications) (.ok planned) final →
      ∀ entry ∈ applications, entry.2.autostart = true → entry.2.Launchable →
        ⟨entry.1, .unchanged, entry.2.identitySha256⟩ ∈ planned := by
  intro claimed
  have applied : idleHost.Runs 4 (reconcileEcosystem .apply intervalOnly)
      (.ok [⟨"api", .created, "/srv/api"⟩]) _ := Host.runs_evaluate (by decide +kernel)
  have plans : (idleHost.evaluate 4 (reconcileEcosystem .apply intervalOnly)).2.Runs 4
      (reconcileEcosystem .plan intervalOnly) (.ok [⟨"api", .restarted, "/srv/api"⟩]) _ :=
    runs_plan.mpr ⟨by decide +kernel, rfl⟩
  have settled := claimed _ _ _ _ _ _ idleHost_undisturbed applied plans _
    List.mem_cons_self rfl { runtimeApplication_launchable "/srv/api" with }
  exact absurd settled (by decide)

end Pam.Manager
