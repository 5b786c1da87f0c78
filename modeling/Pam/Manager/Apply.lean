import Pam.Manager.Plan

namespace Pam.Manager

open Pam.Foundation List Function

/-! What a successful `apply` makes of the view. -/

def editedRecord (record : ApplicationRecord)
    (application : EcosystemApplication) : ApplicationRecord :=
  if policyUpdated record application || launchUpdated record application then
    updatedRecord record application
  else record

def View.edit (view : View) (record : ApplicationRecord)
    (application : EcosystemApplication) : View :=
  if policyUpdated record application || launchUpdated record application then
    view.store (updatedRecord record application)
  else view

inductive View.Applies (cores : Nat) (view : View) (name : AppName)
    (application : EcosystemApplication) : View → Prop where
  | ignored (disabled : application.autostart = false) (absent : view.records name = none) :
      Applies cores view name application view
  | stopped {record : ApplicationRecord} (disabled : application.autostart = false)
      (read : view.reads name = some record) : Applies cores view name application
        ((view.store (stoppedRecord record)).shut record.masterStateFile)
  | created {state : MasterState} {now : Nat} (enabled : application.autostart = true)
      (absent : view.records name = none) (counted : commandWorkers cores
        (application.upOptions name).launch.command = some state.workers) :
      Applies cores view name application ((view.bring (upStateFile (application.upOptions name))
            ⟨state, (application.upOptions name).launch⟩).store
          (identifiedRecord (upRecord (application.upOptions name) now) application))
  | replaced {record : ApplicationRecord} {state : MasterState} {now : Nat}
      (enabled : application.autostart = true) (read : view.reads name = some record)
      (other : record.declarativeIdentitySha256 ≠ some application.identitySha256)
      (counted : commandWorkers cores
        (application.upOptions name).launch.command = some state.workers) :
      Applies cores view name application (((view.shut record.masterStateFile).bring
            (upStateFile (application.upOptions name))
            ⟨state, (application.upOptions name).launch⟩).store
          (identifiedRecord (upRecord (application.upOptions name) now) application))
  | restarted {record : ApplicationRecord} {state : MasterState}
      (enabled : application.autostart = true) (read : view.reads name = some record)
      (same : record.declarativeIdentitySha256 = some application.identitySha256)
      (offline : view.online record.masterStateFile = none) (counted : commandWorkers cores
        (editedRecord record application).command = some state.workers) :
      Applies cores view name application
        ((view.store (resetRecovery (editedRecord record application))).bring record.masterStateFile
          ⟨state, (editedRecord record application).launch⟩)
  | relaunched {record : ApplicationRecord} {state : MasterState}
      {master : RunningMaster} (enabled : application.autostart = true)
      (read : view.reads name = some record) (same : record.declarativeIdentitySha256 =
        some application.identitySha256) (online : view.online record.masterStateFile = some master)
      (changed : launchUpdated record application = true) (counted : commandWorkers cores
        (updatedRecord record application).command = some state.workers) :
      Applies cores view name application ((view.store (updatedRecord record application)).bring
          record.masterStateFile ⟨state, (updatedRecord record application).launch⟩)
  | scaled {record : ApplicationRecord} {state : MasterState}
      {master : RunningMaster} (enabled : application.autostart = true)
      (read : view.reads name = some record) (same : record.declarativeIdentitySha256 =
        some application.identitySha256) (online : view.online record.masterStateFile = some master)
      (unchanged : launchUpdated record application = false)
      (different : master.state.workers ≠ application.workers)
      (counted : commandWorkers cores (scaledRecord
        (editedRecord record application) application.workers).command = some state.workers) :
      Applies cores view name application
        ((view.store (scaledRecord (editedRecord record application)
            application.workers)).bring record.masterStateFile
          ⟨state, (scaledRecord (editedRecord record application) application.workers).launch⟩)
  | kept {record : ApplicationRecord} {master : RunningMaster}
      (enabled : application.autostart = true) (read : view.reads name = some record)
      (same : record.declarativeIdentitySha256 = some application.identitySha256)
      (online : view.online record.masterStateFile = some master)
      (unchanged : launchUpdated record application = false)
      (enough : master.state.workers = application.workers) :
      Applies cores view name application (view.edit record application)

/-- `pamd` listens, or will restore nothing when it is started. -/
def Host.Ready (host : Host) : Prop := host.serving = true ∨ host.world.view.savedList = none

variable {host target : Host}

theorem Host.Ready.of_same (ready : host.Ready) (serving : target.serving = host.serving)
    (saved : target.world.view.savedList = host.world.view.savedList) : target.Ready := by
  unfold Host.Ready
  rw [serving, saved]
  exact ready

theorem runs_restoreSaved {after : World} (unsaved : world.view.savedList = none)
    (runs : world.Runs cores restoreSaved (.ok ()) after) : after = world := by
  obtain ⟨saved, middle, looks, rest⟩ := Program.runs_andThen_ok.mp runs
  obtain ⟨fault, _, performed⟩ := (runs_ask_immediate rfl).mp looks
  cases performed
  have absent : world.savedList.isSome = false := by
    change world.savedList = none at unsaved
    rw [unsaved]
    rfl
  rw [absent] at rest
  exact (Program.runs_pure.mp rest).2

theorem Host.runs_execute (ready : host.Ready)
    (runs : host.Runs cores (executeCommand command) (.ok ()) target) :
    host.world.Runs cores (runLocal command) (.ok ()) target.world ∧ target.serving = true := by
  have executes : host.Executes cores command (.ok ()) target := Program.runs_call.mp runs
  rcases executes with ⟨message, same, _⟩ |
    ⟨started, ended, result, starts, ran, rfl, same | ⟨message, same⟩⟩
  · cases same
  · subst same
    have still : started = host.world := by
      unfold Host.Started at starts
      split at starts
      · exact starts
      next idle =>
      rcases ready with serving | unsaved
      · exact absurd serving idle
      · exact runs_restoreSaved unsaved starts
    rw [still] at ran
    exact ⟨ran, rfl⟩
  · cases same

theorem Host.runs_outcomeOf : host.Runs cores (outcomeOf program) (.ok outcome) target ↔
      host.Runs cores program outcome target := Program.runs_lift_ok

theorem Host.runs_reconcileCommand (ready : host.Ready)
    (runs : host.Runs cores (runReconcileCommand command name) (.ok ()) target) :
    host.world.Runs cores (runLocal command) (.ok ()) target.world ∧ target.serving = true := by
  obtain ⟨outcome, middle, ran, rest⟩ := Program.runs_andThen_ok.mp runs
  cases outcome with
  | ok _ =>
    obtain ⟨_, rfl⟩ := Program.runs_pure.mp rest
    exact Host.runs_execute ready (Host.runs_outcomeOf.mp ran)
  | error message => cases (Program.runs_throw.mp rest).1

theorem Host.runs_writeRecord (runs : host.Runs cores (writeRecord record) (.ok ()) target) :
    target.world = { host.world with records := host.world.records.insert record.name record } ∧
      target.serving = host.serving := by
  have obeys : unassisted.Obeys () (writeRecord record).run := ⟨rfl, fun _ _ _ => trivial⟩
  obtain ⟨wrote, serving⟩ := (Host.runs_unassisted obeys).mp runs
  exact ⟨Manager.runs_writeRecord wrote, serving⟩

variable {host : Host}

section

variable (sound : host.world.Sound)
include sound

theorem name_of_reads (read : host.world.view.reads name = some record) : record.name = name := by
  obtain ⟨stored, found, rfl⟩ := Option.map_eq_some_iff.mp read
  rw [View.seen_name]
  exact sound.named name stored found

theorem runs_launchEcosystemApplication (ready : host.Ready)
    (offline : host.world.view.online (upStateFile (application.upOptions name)) = none)
    (runs : host.Runs cores (launchEcosystemApplication name application) (.ok ()) target) :
    ∃ state now, host.world.view.records name = none ∧
      commandWorkers cores (application.upOptions name).launch.command = some state.workers ∧
      target.world.view = (host.world.view.bring (upStateFile (application.upOptions name))
          ⟨state, (application.upOptions name).launch⟩).store
          (identifiedRecord (upRecord (application.upOptions name) now) application) ∧
      target.world.Sound ∧ target.serving = true := by
  obtain ⟨_, launched, launches, rest⟩ := Program.runs_andThen_ok.mp runs
  obtain ⟨ups, serving⟩ := Host.runs_reconcileCommand ready launches
  obtain ⟨state, now, absent, counted, brought, settled⟩ := runs_up sound offline ups
  obtain ⟨record, found, rest⟩ := (Program.runs_find_andThen Host.runs_readRecord).mp rest
  have current : (upRecord (application.upOptions name) now).schemaVersion ≠ 1 := Nat.succ_ne_self 1
  have stored : ((host.world.view.bring (upStateFile (application.upOptions name))
      ⟨state, (application.upOptions name).launch⟩).store
        (upRecord (application.upOptions name) now)).reads name =
      some (upRecord (application.upOptions name) now) := View.reads_store current
  rw [brought, stored] at found
  cases found
  obtain ⟨written, still⟩ := Host.runs_writeRecord rest
  refine ⟨state, now, absent, counted, ?_, ?_, still.trans serving⟩
  · rw [written, World.view_write, brought]
    exact View.store_store _ rfl
  · rw [written]
    exact settled.write _

theorem runs_replaceEcosystemApplication (ready : host.Ready)
    (read : host.world.view.reads name = some previous)
    (offline : upStateFile (application.upOptions name) ≠ previous.masterStateFile →
      host.world.view.online (upStateFile (application.upOptions name)) = none)
    (runs : host.Runs cores (replaceEcosystemApplication name application previous)
      (.ok ()) target) :
    ∃ state now, commandWorkers cores (application.upOptions name).launch.command =
        some state.workers ∧
      target.world.view = ((host.world.view.shut previous.masterStateFile).bring
          (upStateFile (application.upOptions name))
          ⟨state, (application.upOptions name).launch⟩).store
          (identifiedRecord (upRecord (application.upOptions name) now) application) ∧
      target.world.Sound ∧ target.serving = true := by
  have rest := (Program.runs_look_andThen Host.runs_runningMaster).mp runs
  obtain ⟨outcome, operated, operates, rest⟩ := Program.runs_andThen_ok.mp rest
  cases outcome with
  | error error =>
    -- Whatever the rollback comes to, it ends in an error.
    obtain ⟨_, written, writes, rest⟩ := Program.runs_andThen_ok.mp rest
    split at rest
    · obtain ⟨restored, after, restores, rest⟩ := Program.runs_andThen_ok.mp rest
      cases restored with
      | ok state | error error => cases (Program.runs_throw.mp rest).1
    · cases (Program.runs_throw.mp rest).1
  | ok _ =>
    obtain ⟨_, rfl⟩ := Program.runs_pure.mp rest
    have operation := Host.runs_outcomeOf.mp operates
    have named := name_of_reads sound read
    -- Either way the record and its master are gone before the launch.
    obtain ⟨deleted, launches, cleared, settled, serving⟩ : ∃ deleted : Host, deleted.Runs cores
            (launchEcosystemApplication name application) (.ok ()) target ∧
          deleted.world.view = (host.world.view.shut previous.masterStateFile).remove name ∧
          deleted.world.Sound ∧ deleted.serving = true := by
      unfold replaceOperation at operation
      split at operation
      · obtain ⟨_, stopped, stops, rest⟩ := Program.runs_andThen_ok.mp operation
        obtain ⟨stopping, serves⟩ := Host.runs_reconcileCommand ready stops
        obtain ⟨record, found, _, shut, stoppedSound⟩ := runs_stop sound stopping
        rw [read] at found
        cases found
        obtain ⟨_, deleted, deletes, rest⟩ := Program.runs_andThen_ok.mp rest
        obtain ⟨deleting, serving⟩ := Host.runs_reconcileCommand (.inl serves) deletes
        obtain ⟨removed, settled⟩ := runs_delete stoppedSound deleting
        refine ⟨deleted, rest, ?_, settled, serving⟩
        rw [removed, shut]
        simp [View.store, View.shut, View.remove, stoppedRecord, named]
      next idle =>
      obtain ⟨_, deleted, deletes, rest⟩ := Program.runs_andThen_ok.mp operation
      obtain ⟨deleting, serving⟩ := Host.runs_reconcileCommand ready deletes
      obtain ⟨removed, settled⟩ := runs_delete sound deleting
      refine ⟨deleted, rest, ?_, settled, serving⟩
      have down : host.world.view.online previous.masterStateFile = none := by
        simpa using idle
      rw [removed, View.shut_of_offline _ down]
    have free : deleted.world.view.online (upStateFile (application.upOptions name)) = none := by
      rw [cleared]
      change update host.world.view.online _ none _ = none
      by_cases same : upStateFile (application.upOptions name) = previous.masterStateFile
      · rw [same, update_self]
      · rw [update_of_ne same]
        exact offline same
    obtain ⟨state, now, _, counted, brought, after, still⟩ :=
      runs_launchEcosystemApplication settled (.inl serving) free launches
    refine ⟨state, now, counted, ?_, after, still⟩
    rw [brought, cleared]
    simp [View.remove, View.bring, View.store, identifiedRecord, upRecord,
      EcosystemApplication.upOptions]

end

@[simp] theorem editedRecord_masterStateFile :
    (editedRecord record application).masterStateFile = record.masterStateFile := by
  unfold editedRecord
  split <;> rfl

@[simp] theorem editedRecord_name : (editedRecord record application).name = record.name := by
  unfold editedRecord
  split <;> rfl

theorem View.online_edit (view : View) : (view.edit record application).online = view.online := by
  unfold View.edit
  split <;> rfl

theorem View.store_edit (view : View) (same : stored.name = record.name) :
    (view.edit record application).store stored = view.store stored := by
  unfold View.edit
  split
  · exact View.store_store _ same.symm
  · rfl

theorem runs_editRecord (sound : host.world.Sound) (ready : host.Ready)
    (read : host.world.view.reads name = some record)
    (runs : host.Runs cores (reconcileRecord .apply name application record)
      (.ok action) target) :
    ∃ middle : Host, middle.world.view = host.world.view.edit record application ∧
      middle.world.view.reads name = some (editedRecord record application) ∧
      middle.world.Sound ∧ middle.Ready ∧
      middle.Runs cores (reconcileMaster .apply name application
        (launchUpdated record application) (limitUpdated record application)
        (policyUpdated record application) (editedRecord record application))
        (.ok action) target := by
  have named := name_of_reads sound read
  unfold reconcileRecord at runs
  unfold View.edit editedRecord
  simp only [ReconcileMode.effect] at runs
  split at runs
  next drifted =>
    obtain ⟨_, middle, writes, rest⟩ := Program.runs_andThen_ok.mp runs
    obtain ⟨written, serving⟩ := Host.runs_writeRecord writes
    have view : middle.world.view = host.world.view.store (updatedRecord record application) := by
      rw [written, World.view_write]
    have current : record.schemaVersion ≠ 1 := schema_of_reads read
    simp only [drifted]
    refine ⟨middle, view, ?_, ?_, ?_, rest⟩
    · rw [view, ← named]
      exact View.reads_store current
    · rw [written]
      exact sound.write _
    exact ready.of_same serving (by rw [view]; rfl)
  next settled =>
    simp only [settled]
    exact ⟨host, rfl, read, sound, ready, runs⟩

theorem runs_applyRecord (sound : host.world.Sound) (ready : host.Ready)
    (enabled : application.autostart = true) (read : host.world.view.reads name = some record)
    (same : record.declarativeIdentitySha256 = some application.identitySha256)
    (runs : host.Runs cores (reconcileRecord .apply name application record)
      (.ok action) target) : action = recordAction ((host.world.view.online
        record.masterStateFile).map RunningMaster.state) record application ∧
      host.world.view.Applies cores name application target.world.view ∧
      target.world.Sound ∧ target.Ready := by
  obtain ⟨middle, view, reads, settled, prepared, rest⟩ := runs_editRecord sound ready read runs
  have rest := (Program.runs_look_andThen Host.runs_runningMaster).mp rest
  have online : middle.world.view.online record.masterStateFile =
      host.world.view.online record.masterStateFile := by
    rw [view, View.online_edit]
  rw [editedRecord_masterStateFile, online] at rest
  unfold recordAction
  cases running : host.world.view.online record.masterStateFile with
  | none =>
    rw [running] at rest
    obtain ⟨_, restarts, decided⟩ := Program.runs_andThen_pure.mp rest
    obtain ⟨restarting, serving⟩ := Host.runs_reconcileCommand prepared restarts
    obtain ⟨edited, state, reread, _, counted, brought, after⟩ := runs_restart settled restarting
    rw [reads] at reread
    cases reread
    refine ⟨decided, ?_, after, .inl serving⟩
    have shape := View.Applies.restarted enabled read same running counted
    rw [brought, view, View.store_edit _ (by simp [resetRecovery]), editedRecord_masterStateFile]
    exact shape
  | some master =>
    rw [running] at rest
    simp only [Option.map_some, ReconcileMode.effect, bind_assoc] at rest ⊢
    split at rest
    next changed =>
      obtain ⟨state, restarts, decided⟩ := Program.runs_andThen_pure.mp rest
      obtain ⟨restarting, serving⟩ := (Host.runs_unassisted
        (unassisted_restartRecord.obeys ())).mp restarts
      obtain ⟨_, counted, brought, after⟩ := runs_restartRecord settled restarting
      have edited : editedRecord record application = updatedRecord record application := by
        unfold editedRecord
        rw [changed, Bool.or_true, if_pos rfl]
      rw [edited] at counted brought
      refine ⟨?_, ?_, after, ?_⟩
      · rw [if_pos changed]
        exact decided
      · have shape := View.Applies.relaunched enabled read same running changed counted
        rw [brought, view]
        unfold View.edit
        rw [changed, Bool.or_true]
        exact shape
      · exact prepared.of_same serving (by rw [brought]; rfl)
    next unchanged =>
    have launchKept : launchUpdated record application = false := by simpa using unchanged
    split at rest
    next different =>
      obtain ⟨_, scales, decided⟩ := Program.runs_andThen_pure.mp rest
      obtain ⟨scaling, serving⟩ := Host.runs_reconcileCommand prepared scales
      obtain ⟨edited, state, reread, _, counted, brought, after⟩ := runs_scale settled scaling
      rw [reads] at reread
      cases reread
      refine ⟨?_, ?_, after, .inl serving⟩
      · rw [if_neg unchanged, if_pos different]
        exact decided
      have shape := View.Applies.scaled enabled read same running
        launchKept (by simpa using different) counted
      rw [brought, view, View.store_edit _ (by simp [scaledRecord]), editedRecord_masterStateFile]
      exact shape
    next enough =>
    obtain ⟨decided, rfl⟩ := Program.runs_pure_ok.mp rest
    refine ⟨?_, ?_, settled, prepared⟩
    · rw [if_neg unchanged, if_neg enough]
      exact decided
    rw [view]
    exact .kept enabled read same running launchKept (by simpa using enough)

/-- Nothing runs where an application is about to be launched anew, but the
master that is stopped for it. -/
def View.Clear (view : View) (name : AppName) (application : EcosystemApplication) : Prop :=
  (view.action name application = .created ∨ view.action name application = .replaced) →
  (∀ record, view.reads name = some record →
    upStateFile (application.upOptions name) ≠ record.masterStateFile) →
  view.online (upStateFile (application.upOptions name)) = none

theorem runs_applyApplication (sound : host.world.Sound) (ready : host.Ready)
    (clear : host.world.view.Clear name application)
    (runs : host.Runs cores (reconcileApplication .apply name application) (.ok action) target) :
    action = host.world.view.action name application ∧
      host.world.view.Applies cores name application target.world.view ∧
      target.world.Sound ∧ target.Ready := by
  unfold reconcileApplication at runs
  cases enabled : application.autostart with
  | false =>
    simp only [enabled, ReconcileMode.effect, bind_assoc] at runs
    have rest := (Program.runs_look_andThen Host.runs_recordExists).mp runs
    cases stored : host.world.view.records name with
    | none =>
      rw [stored] at rest
      obtain ⟨decided, rfl⟩ := Program.runs_pure_ok.mp rest
      refine ⟨?_, .ignored enabled stored, sound, ready⟩
      rw [decided]
      simp [View.action, enabled]
    | some kept =>
      simp only [stored] at rest
      obtain ⟨_, stops, decided⟩ := Program.runs_andThen_pure.mp rest
      obtain ⟨stopping, serving⟩ := Host.runs_reconcileCommand ready stops
      obtain ⟨record, read, _, shut, after⟩ := runs_stop sound stopping
      refine ⟨?_, ?_, after, .inl serving⟩
      · rw [decided]
        simp [View.action, enabled]
      · rw [shut]
        exact .stopped enabled read
  | true =>
    simp only [enabled] at runs
    have rest := (Program.runs_look_andThen Host.runs_recordExists).mp runs
    cases stored : host.world.view.records name with
    | none =>
      have unread : host.world.view.reads name = none := by
        rw [View.reads, stored]
        rfl
      simp only [stored] at rest
      obtain ⟨_, launches, decided⟩ := Program.runs_andThen_pure.mp rest
      have creates : host.world.view.action name application = .created := by
        simp [View.action, enabled, unread]
      have free := clear (.inl creates) (by simp [unread])
      obtain ⟨state, now, absent, counted, brought, after, serving⟩ :=
        runs_launchEcosystemApplication sound ready free launches
      refine ⟨decided.trans creates.symm, ?_, after, .inl serving⟩
      rw [brought]
      exact .created enabled absent counted
    | some kept =>
      simp only [stored] at rest
      obtain ⟨record, read, body⟩ := (Program.runs_find_andThen Host.runs_readRecord).mp rest
      split at body
      next other =>
        obtain ⟨_, replaces, decided⟩ := Program.runs_andThen_pure.mp body
        have different : record.declarativeIdentitySha256 ≠ some application.identitySha256 := by
          simpa using other
        have replacing : host.world.view.action name application = .replaced := by
          simp [View.action, enabled, read, different]
        have free : upStateFile (application.upOptions name) ≠
            record.masterStateFile → host.world.view.online
              (upStateFile (application.upOptions name)) = none := by
          intro apart
          apply clear (.inr replacing)
          intro stale same
          rw [read] at same
          cases same
          exact apart
        obtain ⟨state, now, counted, brought, after, serving⟩ :=
          runs_replaceEcosystemApplication sound ready read free replaces
        refine ⟨decided.trans replacing.symm, ?_, after, .inl serving⟩
        rw [brought]
        exact .replaced enabled read different counted
      next same =>
      have identical : record.declarativeIdentitySha256 = some application.identitySha256 := by
        simpa using same
      obtain ⟨decided, applies, after, prepared⟩ :=
        runs_applyRecord sound ready enabled read identical body
      refine ⟨?_, applies, after, prepared⟩
      rw [decided]
      simp [View.action, enabled, read, identical]

def View.Touches (view : View) (name : AppName)
    (application : EcosystemApplication) (file : StateFile) : Prop :=
  (∃ record, view.reads name = some record ∧ file = record.masterStateFile) ∨
    (view.action name application = .created ∨ view.action name application = .replaced) ∧
      file = upStateFile (application.upOptions name)

structure View.SameOff (view after : View) (names : AppName → Prop)
    (files : StateFile → Prop) : Prop where
  records : ∀ name, ¬ names name → after.records name = view.records name
  online : ∀ file, ¬ files file → after.online file = view.online file

namespace View.SameOff

variable {view after : View}

theorem refl : view.SameOff view names files := ⟨fun _ _ => rfl, fun _ _ => rfl⟩

theorem trans (first : view.SameOff middle names files)
    (second : middle.SameOff after names files) : view.SameOff after names files where
  records name outside := (second.records name outside).trans (first.records name outside)
  online file outside := (second.online file outside).trans (first.online file outside)

theorem mono (same : view.SameOff after names files) (wider : ∀ name, names name → more name)
    (wide : ∀ file, files file → others file) : view.SameOff after more others where
  records name outside := same.records name fun inside => outside (wider name inside)
  online file outside := same.online file fun inside => outside (wide file inside)

theorem store (named : names record.name) : view.SameOff (view.store record) names files where
  records name outside := by
    apply update_of_ne
    intro same
    exact outside (same ▸ named)
  online _ _ := rfl

theorem shut (touched : files file) : view.SameOff (view.shut file) names files where
  records _ _ := rfl
  online other outside := by
    apply update_of_ne
    intro same
    exact outside (same ▸ touched)

theorem bring (touched : files file) : view.SameOff (view.bring file master) names files where
  records _ _ := rfl
  online other outside := by
    apply update_of_ne
    intro same
    exact outside (same ▸ touched)

end View.SameOff

section Footprint

variable {view after : View}

theorem View.Applies.sameOff (applies : view.Applies cores name application after)
    (named : ∀ record, view.reads name = some record → record.name = name) :
    view.SameOff after (· = name) (view.Touches name application) := by
  cases applies with
  | ignored disabled absent => exact .refl
  | stopped disabled read =>
    exact (View.SameOff.store (named _ read)).trans (.shut (.inl ⟨_, read, rfl⟩))
  | created enabled absent counted =>
    have unread : view.reads name = none := by
      rw [View.reads, absent]
      rfl
    have creates : view.action name application = .created := by simp [View.action, enabled, unread]
    exact (View.SameOff.bring (.inr ⟨.inl creates, rfl⟩)).trans (.store rfl)
  | replaced enabled read other counted =>
    have replaces : view.action name application = .replaced := by
      simp [View.action, enabled, read, other]
    exact ((View.SameOff.shut (.inl ⟨_, read, rfl⟩)).trans
      (.bring (.inr ⟨.inr replaces, rfl⟩))).trans (.store rfl)
  | restarted enabled read same offline counted
  | scaled enabled read same online unchanged different counted =>
    refine (View.SameOff.store ?_).trans (.bring (.inl ⟨_, read, rfl⟩))
    exact editedRecord_name.trans (named _ read)
  | @relaunched record _ _ enabled read same online changed counted =>
    have own : (updatedRecord record application).name = name := named record read
    exact (View.SameOff.store own).trans (.bring (.inl ⟨_, read, rfl⟩))
  | @kept record _ enabled read same online unchanged enough =>
    have own : (updatedRecord record application).name = name := named record read
    unfold View.edit
    split
    · exact .store own
    · exact .refl

structure View.Agrees (view now : View) (name : AppName)
    (application : EcosystemApplication) : Prop where
  records : now.records name = view.records name
  online : ∀ file, view.Touches name application file → now.online file = view.online file

variable (agrees : view.Agrees after name application)
include agrees

theorem View.Agrees.reads : after.reads name = view.reads name := by
  rw [View.reads, View.reads, agrees.records]
  cases stored : view.records name with
  | none => rfl
  | some record =>
    have touched : view.Touches name application record.masterStateFile := by
      left
      refine ⟨view.seen record, ?_, view.seen_masterStateFile.symm⟩
      rw [View.reads, stored]
      rfl
    simp [View.seen, agrees.online _ touched]

theorem View.Agrees.action : after.action name application = view.action name application := by
  unfold View.action
  rw [agrees.reads]
  cases read : view.reads name with
  | none => rfl
  | some record => simp [agrees.online _ (.inl ⟨record, read, rfl⟩)]

theorem View.Agrees.touches : after.Touches name application file ↔
      view.Touches name application file := by
  unfold View.Touches
  rw [agrees.reads, agrees.action]

theorem View.Agrees.clear (clear : view.Clear name application) : after.Clear name application := by
  unfold View.Clear
  rw [agrees.reads, agrees.action]
  intro anew apart
  rw [agrees.online _ (.inr ⟨anew, rfl⟩)]
  exact clear anew apart

end Footprint

def View.Separate (view : View) (applications : List (AppName × EcosystemApplication)) : Prop :=
  applications.Pairwise fun first second =>
    first.1 ≠ second.1 ∧ ∀ file, ¬ (view.Touches first.1 first.2 file ∧
        view.Touches second.1 second.2 file)

/-- What a successful `apply` has done to an application: its reconciliation,
from a view with its state at the beginning. -/
def View.Reconciled (cores : Nat) (view now : View) (name : AppName)
    (application : EcosystemApplication) : Prop :=
  ∃ before after, view.Agrees before name application ∧
    before.Applies cores name application after ∧ now.records name = after.records name ∧
    ∀ file, view.Touches name application file → now.online file = after.online file

theorem runs_applyEach {view : View} (separate : view.Separate applications)
    (clear : ∀ entry ∈ applications, view.Clear entry.1 entry.2)
    {host target : Host} {results : List ReconcileResult}
    (sound : host.world.Sound) (ready : host.Ready)
    (agrees : ∀ entry ∈ applications, view.Agrees host.world.view entry.1 entry.2)
    (runs : host.Runs cores (reconcileEach .apply applications) (.ok results) target) :
    results = view.results applications ∧ (∀ entry ∈ applications,
        view.Reconciled cores target.world.view entry.1 entry.2) ∧
      host.world.view.SameOff target.world.view (fun name => ∃ entry ∈ applications, name = entry.1)
        (fun file => ∃ entry ∈ applications, view.Touches entry.1 entry.2 file) := by
  induction applications generalizing host results with
  | nil =>
    obtain ⟨same, rfl⟩ := Program.runs_pure_ok.mp runs
    exact ⟨same, by simp, .refl⟩
  | cons entry applications induction =>
    obtain ⟨name, application⟩ := entry
    obtain ⟨first, others⟩ := pairwise_cons.mp separate
    obtain ⟨action, middle, applied, rest⟩ := Program.runs_andThen_ok.mp runs
    obtain ⟨later, each, same⟩ := Program.runs_andThen_pure.mp rest
    have own := agrees (name, application) mem_cons_self
    obtain ⟨decided, applies, settled, prepared⟩ := runs_applyApplication sound ready
        (own.clear (clear (name, application) mem_cons_self)) applied
    have stepOff := applies.sameOff (fun record read => name_of_reads sound read)
    have touched : ∀ file, host.world.view.Touches name application file →
        view.Touches name application file := fun file => own.touches.mp
    have kept : ∀ other ∈ applications, view.Agrees middle.world.view other.1 other.2 := by
      intro other member
      obtain ⟨different, apart⟩ := first other member
      have before := agrees other (mem_cons_of_mem _ member)
      refine ⟨?_, ?_⟩
      · rw [stepOff.records other.1 fun equal => different equal.symm]
        exact before.records
      intro file mine
      rw [stepOff.online file fun touches => apart file ⟨touched file touches, mine⟩]
      exact before.online file mine
    obtain ⟨rfl, reconciled, restOff⟩ := induction others
      (fun other member => clear other (mem_cons_of_mem _ member)) settled prepared kept each
    refine ⟨?_, ?_, ?_⟩
    · rw [same, decided, own.action]
      rfl
    · intro other member
      rcases mem_cons.mp member with rfl | member
      · refine ⟨host.world.view, middle.world.view, own, applies, ?_, ?_⟩
        · apply restOff.records
          intro among
          obtain ⟨other, member, equal⟩ := among
          exact (first other member).1 equal
        · intro file mine
          apply restOff.online
          intro among
          obtain ⟨other, member, touches⟩ := among
          exact (first other member).2 file ⟨mine, touches⟩
      · exact reconciled other member
    · refine (stepOff.mono ?_ ?_).trans (restOff.mono ?_ ?_)
      · intro other equal
        exact ⟨(name, application), mem_cons_self, equal⟩
      · intro file touches
        exact ⟨(name, application), mem_cons_self, touched file touches⟩
      · intro other among
        obtain ⟨entry, member, equal⟩ := among
        exact ⟨entry, mem_cons_of_mem _ member, equal⟩
      intro file among
      obtain ⟨entry, member, touches⟩ := among
      exact ⟨entry, mem_cons_of_mem _ member, touches⟩

theorem runs_apply {host target : Host} {results : List ReconcileResult} (sound : host.world.Sound)
    (ready : host.Ready) (separate : host.world.view.Separate applications)
    (clear : ∀ entry ∈ applications, host.world.view.Clear entry.1 entry.2)
    (runs : host.Runs cores (reconcileEcosystem .apply applications) (.ok results) target) :
    results = host.world.view.results applications ∧ ∀ entry ∈ applications,
        host.world.view.Reconciled cores target.world.view entry.1 entry.2 := by
  obtain ⟨_, middle, creates, rest⟩ := Program.runs_andThen_ok.mp runs
  have obeys : unassisted.Obeys () createDirectories.run := ⟨rfl, fun _ _ _ => trivial⟩
  obtain ⟨created, serving⟩ := (Host.runs_unassisted obeys).mp creates
  have made := runs_createDirectories created
  have still : middle.world.view = host.world.view := by
    rw [made]
    exact World.view_of_same rfl rfl rfl rfl rfl
  have settled : middle.world.Sound := by
    rw [made]
    exact sound.of_same (sound.toCoherent.of_same sound.named rfl rfl rfl) rfl
  obtain ⟨same, reconciled, _⟩ := runs_applyEach separate clear settled
    (ready.of_same serving (by rw [still]))
    (fun entry member => by rw [still]; exact ⟨rfl, fun _ _ => rfl⟩)
    rest
  exact ⟨same, reconciled⟩

end Pam.Manager
