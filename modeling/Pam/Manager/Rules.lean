import Pam.Manager.Daemon

namespace Pam.Manager

open Pam.Foundation

/-! One walk through the commands for every monitor that is content with single
accesses, and with launches for some applications. -/

def ManagerAction.quiet : ManagerAction → Bool
  | .readRecord _ => false
  | .writeRecord _ => false
  | .readSavedList => false
  | .findMaster _ _ => false
  | .findRecord _ => false
  | .spawn _ _ _ => false
  | .execute _ => false
  | _ => true

def ApplicationRecord.Idle (record : ApplicationRecord) : Prop :=
  record.desiredState = .stopped ∧ record.schemaVersion ≠ 1

/-- What is read under a name: `free` applications may be launched, the records
of the others are idle. -/
def ReadAs (free : AppName → Prop) (name : AppName) (record : ApplicationRecord) : Prop :=
  (free name → free record.name) ∧ (free record.name ∨ record.Idle)

theorem ensures_access {monitor : Monitor ManagerAction ManagerAction.Answer Knowledge}
    {action : ManagerAction} {finish : action.Answer → Except String Result}
    (permitted : ∀ known, monitor.permits known action) :
    monitor.Passes (ExceptT.mk (.perform action fun answer => .done (finish answer)) :
        ManagerM Result) := by
  intro known
  exact ⟨permitted known, fun _ _ _ _ _ => trivial⟩

theorem ensures_readRecordFile {monitor : Monitor ManagerAction ManagerAction.Answer Knowledge}
    {name : AppName} {good : ApplicationRecord → Prop}
    (permitted : ∀ known, monitor.permits known (.readRecord name))
    (admitted : ∀ known record learned, monitor.learns known
      (.readRecord name) (.ok record) = some learned → good record) :
    monitor.Ensures (readRecordFile name) good := by
  intro known
  refine ⟨permitted known, ?_⟩
  intro answer learned learns record same
  cases answer with
  | error error => cases same
  | ok read =>
    cases same
    exact admitted known record learned learns

structure Quiet {Knowledge : Type}
    (monitor : Monitor ManagerAction ManagerAction.Answer Knowledge) : Prop where
  access : ∀ {Result : Type} {action : ManagerAction}
    {finish : action.Answer → Except String Result}, action.quiet = true → monitor.Ensures
      (ExceptT.mk (.perform action fun answer => .done (finish answer)) :
        ManagerM Result) fun _ => True

/-- `readable` are the records that may be read; only those of `free`
applications need be. -/
structure Accesses {Knowledge : Type}
    (monitor : Monitor ManagerAction ManagerAction.Answer Knowledge)
    (free readable : AppName → Prop) : Prop extends Quiet monitor where
  reads : ∀ {name}, free name → readable name
  read : ∀ name, readable name → monitor.Ensures (readRecordFile name) (ReadAs free name)
  write : ∀ record : ApplicationRecord, free record.name ∨ record.Idle →
    monitor.Ensures (writeRecord record) fun _ => True
  savedList : (∀ name, readable name) → monitor.Ensures readSavedList fun applications =>
      ∀ saved ∈ applications, saved.desiredState = .online → free saved.name
  execute : ∀ command : ManagerCommand, (∀ name, command.names name = true → free name) →
    monitor.Ensures (executeCommand command) fun _ => True

structure Rules {Knowledge : Type} (monitor : Monitor ManagerAction ManagerAction.Answer Knowledge)
    (free readable : AppName → Prop) : Prop extends Accesses monitor free readable where
  relaunch : ∀ record : ApplicationRecord, free record.name →
    monitor.Ensures (restartRecord record) fun _ => True
  launch : ∀ options : UpOptions, free options.name → monitor.Ensures (up options) fun _ => True

open Monitor

variable {monitor : Monitor ManagerAction ManagerAction.Answer Knowledge}

namespace Quiet

variable (rules : Quiet monitor)

include rules

theorem ask {finish : action.Answer → Except String Result} (quiet : action.quiet = true)
    (later : ∀ value, monitor.Ensures (rest value) good) :
    monitor.Ensures ((ExceptT.mk (.perform action fun answer => .done (finish answer)) :
        ManagerM Result) >>= rest) good := (rules.access quiet).bind fun value _ => later value

theorem runningMaster (file : StateFile) : monitor.Passes (runningMaster file) := by
  refine rules.ask rfl fun state => ?_
  cases state with
  | none => exact ensures_pure trivial
  | some state =>
    refine rules.ask rfl fun running => ?_
    cases running <;> exact ensures_pure trivial

theorem terminateMaster : monitor.Passes (terminateMaster state) := by
  have awaited : monitor.Passes (awaitExit state) := rules.access rfl
  have signalled : ∀ signal, monitor.Passes (signalMaster state signal) :=
    fun signal => rules.access rfl
  refine rules.ask rfl fun running => ?_
  cases running with
  | false => exact ensures_pure trivial
  | true =>
    apply Ensures.bind (signalled .stop)
    intro _ _
    apply Ensures.bind awaited
    intro gone _
    cases gone with
    | true => exact ensures_pure trivial
    | false =>
      apply Ensures.bind (signalled .kill)
      intro _ _
      apply Ensures.bind awaited
      intro gone _
      cases gone with
      | true => exact ensures_pure trivial
      | false => exact ensures_throw

theorem stopRecord (record : ApplicationRecord) : monitor.Passes (stopRecord record) := by
  refine rules.ask rfl fun state => ?_
  cases state with
  | none => exact ensures_pure trivial
  | some state => exact rules.terminateMaster.thenPure

theorem launchRecord (spawns : monitor.Passes
      (spawnMaster record.name record.launchStateFile record.launch)) :
    monitor.Passes (launchRecord record) := by
  unfold Manager.launchRecord
  split
  · exact ensures_throw
  refine rules.ask rfl fun _ => ?_
  apply Ensures.bind spawns
  intro pid _
  refine rules.ask rfl fun readiness => ?_
  cases readiness with
  | ready state => exact ensures_pure trivial
  | exited | timedOut => exact ensures_throw

theorem restartRecord (finds : monitor.Passes (findMaster record.name record.masterStateFile))
    (spawns : monitor.Passes (spawnMaster record.name record.launchStateFile record.launch)) :
    monitor.Passes (restartRecord record) := by
  apply Ensures.bind finds
  intro found _
  cases found with
  | none => exact rules.launchRecord spawns
  | some state =>
    apply Ensures.bind rules.terminateMaster
    intro _ _
    exact rules.launchRecord spawns

end Quiet

namespace Accesses

variable (rules : Accesses monitor free readable)

include rules

theorem readRecord (permitted : readable name) :
    monitor.Ensures (readRecord name) (ReadAs free name) := by
  apply Ensures.bind (rules.read name permitted)
  intro record readAs
  split
  next first =>
    have owned : free record.name := by
      rcases readAs.2 with owned | idle
      · exact owned
      · exact absurd (beq_iff_eq.mp first) idle.2
    apply Ensures.bind (rules.runningMaster record.masterStateFile)
    intro master _
    exact ensures_pure ⟨fun _ => owned, .inl owned⟩
  · exact ensures_pure readAs

theorem readRecords (all : ∀ name, readable name) :
    monitor.Ensures (readRecords names) fun records =>
      ∀ record ∈ records, free record.name ∨ record.Idle := by
  induction names with
  | nil =>
    apply ensures_pure
    simp
  | cons name names induction =>
    apply Ensures.bind (rules.readRecord (all name))
    intro record readAs
    apply Ensures.bind induction
    intro records others
    apply ensures_pure
    exact List.forall_mem_cons.mpr ⟨readAs.2, others⟩

theorem readAllRecords (all : ∀ name, readable name) : monitor.Ensures readAllRecords fun records =>
      ∀ record ∈ records, free record.name ∨ record.Idle := by
  refine rules.ask rfl fun names => ?_
  exact rules.readRecords all

theorem runReconcileCommand (owned : ∀ other, command.names other = true → free other) :
    monitor.Passes (runReconcileCommand command name) := by
  apply Ensures.bind (rules.execute command owned).outcome
  intro outcome _
  cases outcome with
  | ok _ => exact ensures_pure trivial
  | error message => exact ensures_throw

theorem toRules (findsMaster : ∀ name file, monitor.Passes (findMaster name file))
    (findsRecord : ∀ name, monitor.Passes (findRecord name))
    (spawns : ∀ name file launch, free name → monitor.Passes (spawnMaster name file launch)) :
    Rules monitor free readable where
  toAccesses := rules
  relaunch := by
    intro record mine
    exact rules.restartRecord (findsMaster record.name record.masterStateFile)
      (spawns record.name record.launchStateFile record.launch mine)
  launch := by
    intro options mine
    apply Ensures.bind (findsRecord options.name)
    intro present _
    split
    · apply Ensures.bind (rules.readRecord (rules.reads mine))
      intro record _
      apply Ensures.bind (rules.runningMaster record.masterStateFile)
      intro master _
      cases master <;> exact ensures_throw
    · refine rules.ask rfl fun _ => ?_
      apply Ensures.bind (spawns options.name (upStateFile options) options.launch mine)
      intro pid _
      apply Ensures.bind (rules.access rfl : monitor.Passes (awaitReady (upStateFile options) pid))
      rintro (state | _ | _) _
      · refine rules.ask rfl fun now => ?_
        exact rules.write (upRecord options now) (.inl mine)
      · exact ensures_throw
      · exact ensures_throw

end Accesses

namespace Rules

variable (rules : Rules monitor free readable)

include rules

theorem stop (permitted : readable name) : monitor.Passes (stop name) := by
  apply Ensures.bind (rules.readRecord permitted)
  intro record readAs
  have writable : free (stoppedRecord record).name ∨ (stoppedRecord record).Idle := by
    rcases readAs.2 with owned | idle
    · exact .inl owned
    · exact .inr ⟨rfl, idle.2⟩
  apply Ensures.bind (rules.write _ writable)
  intro _ _
  exact rules.stopRecord record

theorem restart (owned : free name) : monitor.Passes (restart name) := by
  apply Ensures.bind (rules.readRecord (rules.reads owned))
  intro record readAs
  have mine := readAs.1 owned
  apply Ensures.bind (rules.write (resetRecovery record) (.inl mine))
  intro _ _
  exact (rules.relaunch (resetRecovery record) mine).thenPure

theorem scale (owned : free name) : monitor.Passes (scale name workers) := by
  unfold Manager.scale
  split
  · exact ensures_throw
  apply Ensures.bind (rules.readRecord (rules.reads owned))
  intro record readAs
  have mine : free (scaledRecord record workers).name := readAs.1 owned
  apply Ensures.bind (rules.write _ (.inl mine))
  intro _ _
  exact (rules.relaunch _ mine).thenPure

theorem delete (permitted : readable name) : monitor.Passes (delete name) := by
  apply Ensures.bind (rules.readRecord permitted)
  intro record _
  apply Ensures.bind (rules.runningMaster record.masterStateFile)
  intro master _
  cases master with
  | some state => exact ensures_throw
  | none => exact rules.access rfl

theorem save (all : ∀ name, readable name) : monitor.Passes save := by
  apply Ensures.bind (rules.readAllRecords all)
  intro records _
  exact rules.access rfl

theorem resurrectApplication (owned : saved.desiredState = .online → free saved.name) :
    monitor.Passes (resurrectApplication saved) := by
  unfold Manager.resurrectApplication
  split
  next online =>
    have named := owned (beq_iff_eq.mp online)
    apply Ensures.bind (rules.readRecord (rules.reads named))
    intro record readAs
    have mine := readAs.1 named
    apply Ensures.bind (rules.write (resetRecovery record) (.inl mine))
    intro _ _
    apply Ensures.bind (rules.runningMaster record.masterStateFile)
    intro master _
    cases master with
    | some state => exact ensures_pure trivial
    | none => exact (rules.relaunch (resetRecovery record) mine).thenPure
  · exact ensures_pure trivial

theorem resurrectSaved (all : ∀ name, readable name) : monitor.Passes resurrectSaved := by
  apply Ensures.bind (rules.savedList all)
  intro applications owned
  split
  · exact ensures_throw
  apply ensures_forM
  intro saved member
  exact rules.resurrectApplication (owned saved member)

theorem activateRelease (owned : free previous.name) :
    monitor.Passes (activateRelease previous release) := by
  apply Ensures.bind (rules.stopRecord previous)
  intro _ _
  have mine : free (releaseRecord previous release).name := owned
  apply Ensures.bind (rules.write _ (.inl mine))
  intro _ _
  apply Ensures.bind (rules.relaunch _ mine).outcome
  intro outcome _
  cases outcome with
  | ok state => exact ensures_pure trivial
  | error error =>
    apply Ensures.bind (rules.write previous (.inl owned))
    intro _ _
    apply Ensures.bind (rules.relaunch previous owned).outcome
    intro outcome _
    cases outcome <;> exact ensures_throw

theorem deploy (owned : free name) : monitor.Passes (deploy name path) := by
  refine rules.ask rfl fun release => ?_
  apply Ensures.bind (rules.readRecord (rules.reads owned))
  intro record readAs
  split
  · exact ensures_pure trivial
  refine rules.ask rfl fun history => ?_
  apply Ensures.bind (rules.activateRelease (readAs.1 owned))
  intro _ _
  refine rules.ask rfl fun now => ?_
  exact rules.access rfl

theorem rollback (owned : free name) : monitor.Passes (rollback name steps) := by
  apply Ensures.bind (rules.readRecord (rules.reads owned))
  intro record readAs
  refine rules.ask rfl fun history => ?_
  split
  · exact ensures_throw
  next found =>
  refine rules.ask rfl fun target => ?_
  apply Ensures.bind (rules.activateRelease (readAs.1 owned))
  intro _ _
  refine rules.ask rfl fun now => ?_
  exact rules.access rfl

theorem runLocal (all : ∀ name, readable name)
    (owned : ∀ name, command.names name = true → free name) :
    monitor.Passes (runLocal command) := by
  cases command with
  | up options => exact rules.launch options (owned _ (beq_self_eq_true _))
  | restart name => exact rules.restart (owned _ (beq_self_eq_true _))
  | scale name workers => exact rules.scale (owned _ (beq_self_eq_true _))
  | stop name => exact rules.stop (all name)
  | delete name => exact rules.delete (all name)
  | save => exact rules.save all
  | resurrect => exact rules.resurrectSaved all
  | deploy name release => exact rules.deploy (owned _ (beq_self_eq_true _))
  | rollback name steps => exact rules.rollback (owned _ (beq_self_eq_true _))

theorem recoverApplication (owned : free record.name) :
    monitor.Passes (recoverApplication record earliest) := by
  have clock : monitor.Passes epochMillis := rules.access rfl
  apply Ensures.bind clock
  intro started _
  have begun : free (begunRecord record started).name := owned
  apply Ensures.bind (rules.relaunch _ begun).outcome
  intro outcome _
  cases outcome with
  | ok state =>
    apply Ensures.bind clock
    intro ready _
    exact (rules.write (recoveredRecord (begunRecord record started) ready)
      (.inl begun)).thenPure
  | error error =>
    apply Ensures.bind clock
    intro failed _
    have scheduled : free (scheduleRecovery (begunRecord record started) failed).name := by
      rw [scheduleRecovery_name]
      exact owned
    exact (rules.write _ (.inl scheduled)).thenPure

theorem superviseApplication (owned : free record.name ∨ record.Idle) (now : Nat) :
    monitor.Passes (superviseApplication now earliest record) := by
  unfold Manager.superviseApplication
  split
  · exact ensures_pure trivial
  next supervised =>
  have mine : free record.name := by
    rcases owned with mine | idle
    · exact mine
    · simp [idle.1] at supervised
  apply Ensures.bind (rules.runningMaster record.masterStateFile)
  intro master _
  cases master with
  | some state =>
    dsimp only
    split
    · apply Ensures.bind (rules.write (stabilizedRecord record) (.inl mine))
      intro _ _
      exact ensures_pure trivial
    · exact ensures_pure trivial
  | none =>
    dsimp only
    split
    · exact ensures_pure trivial
    split
    · have scheduled : free (exitDetectedRecord record now).name := by
        unfold exitDetectedRecord
        rw [scheduleRecovery_name]
        exact mine
      exact (rules.write _ (.inl scheduled)).thenPure
    · split
      · exact ensures_pure trivial
      · exact rules.recoverApplication mine

section

variable (all : ∀ name, readable name)
include all

theorem superviseOnce : monitor.Passes superviseOnce := by
  have pass : monitor.Passes superviseApplications := by
    refine rules.ask rfl fun now => ?_
    apply Ensures.bind (rules.readAllRecords all)
    intro records owned
    apply ensures_foldlM
    intro record member earliest
    exact rules.superviseApplication (owned record member) now
  exact pass.thenPure

theorem applyHealthProbeResult : monitor.Passes (applyHealthProbeResult result) := by
  apply Ensures.bind (rules.readRecord (all result.name)).outcome
  intro outcome readAs
  cases outcome with
  | error error => exact ensures_pure trivial
  | ok record =>
    refine rules.ask rfl fun state => ?_
    dsimp only
    split
    · exact ensures_pure trivial
    next concerned =>
    have mine : free record.name := by
      rcases (readAs record rfl).2 with mine | idle
      · exact mine
      · simp [HealthProbeResult.concerns, idle.1] at concerned
    split
    · exact rules.write (healthyRecord record _) (.inl mine)
    split
    · apply Ensures.bind (rules.write (unhealthyRecord record _) (.inl mine))
      intro _ _
      cases state with
      | none => exact ensures_pure trivial
      | some state =>
        refine rules.ask rfl fun running => ?_
        cases running with
        | true => exact rules.access rfl
        | false => exact ensures_pure trivial
    · exact rules.write (failingRecord record _) (.inl mine)

theorem restoreSaved : monitor.Passes restoreSaved := by
  refine rules.ask rfl fun present => ?_
  cases present with
  | false => exact ensures_pure trivial
  | true =>
    apply Ensures.bind (rules.resurrectSaved all).outcome
    intro outcome _
    cases outcome <;> exact ensures_pure trivial

theorem originProgram {origin : Origin} (owned : ∀ command name, origin = .request command →
      command.names name = true → free name) : monitor.Passes origin.program := by
  cases origin with
  | request command =>
    apply rules.runLocal all
    intro name named
    exact owned command name rfl named
  | supervision => exact rules.superviseOnce all
  | healthResults results =>
    apply ensures_forM
    intro result _
    exact rules.applyHealthProbeResult all
  | start => exact rules.restoreSaved all

end

theorem launchEcosystemApplication (owned : free name) :
    monitor.Passes (launchEcosystemApplication name application) := by
  have executed : monitor.Passes (runReconcileCommand (.up (application.upOptions name)) name) := by
    apply rules.runReconcileCommand
    intro other named
    rw [← beq_iff_eq.mp named]
    exact owned
  apply Ensures.bind executed
  intro _ _
  apply Ensures.bind (rules.readRecord (rules.reads owned))
  intro record readAs
  exact rules.write (identifiedRecord record application) (.inl (readAs.1 owned))

section

variable (owned : free name) (application : EcosystemApplication)
include owned application

theorem replaceOperation :
    monitor.Passes (replaceOperation name application wasRunning) := by
  have unnamed : ∀ command : ManagerCommand, (∀ other, command.names other = false) →
      monitor.Passes (runReconcileCommand command name) := by
    intro command nobody
    apply rules.runReconcileCommand
    intro other named
    rw [nobody other] at named
    cases named
  have replaced : monitor.Passes (do
      runReconcileCommand (.delete name) name
      Manager.launchEcosystemApplication name application) := by
    apply Ensures.bind (unnamed (.delete name) fun _ => rfl)
    intro _ _
    exact rules.launchEcosystemApplication owned
  unfold Manager.replaceOperation
  split
  · apply Ensures.bind (unnamed (.stop name) fun _ => rfl)
    intro _ _
    exact replaced
  · exact replaced

theorem replaceEcosystemApplication (mine : free previous.name) :
    monitor.Passes (replaceEcosystemApplication name application previous) := by
  apply Ensures.bind (rules.runningMaster previous.masterStateFile)
  intro master _
  apply Ensures.bind (rules.replaceOperation owned application).outcome
  intro outcome _
  cases outcome with
  | ok done => exact ensures_pure trivial
  | error error =>
    apply Ensures.bind (rules.write previous (.inl mine))
    intro _ _
    split
    · apply Ensures.bind (rules.relaunch previous mine).outcome
      intro outcome _
      cases outcome <;> exact ensures_throw
    · exact ensures_throw

theorem reconcileMaster (launchChanged limitsChanged policyChanged : Bool)
    {record : ApplicationRecord} (mine : free record.name) :
    monitor.Passes (reconcileMaster .apply name application launchChanged
      limitsChanged policyChanged record) := by
  have named : ∀ command : ManagerCommand, (∀ other, command.names other = true → name = other) →
      monitor.Passes (runReconcileCommand command name) := by
    intro command same
    apply rules.runReconcileCommand
    intro other names
    rw [← same other names]
    exact owned
  apply Ensures.bind (rules.runningMaster record.masterStateFile)
  intro master _
  cases master with
  | none => exact (named (.restart name) fun _ => beq_iff_eq.mp).thenPure
  | some state =>
    dsimp only
    split
    · exact Ensures.thenPure (rules.relaunch record mine).thenPure
    split
    · exact (named (.scale name application.workers) fun _ => beq_iff_eq.mp).thenPure
    · exact ensures_pure trivial

end

theorem reconcileApplication (owned : free name) :
    monitor.Passes (reconcileApplication .apply name application) := by
  unfold Manager.reconcileApplication
  split
  · have stopped : monitor.Passes (runReconcileCommand (.stop name) name) := by
      apply rules.runReconcileCommand
      intro other named
      cases named
    have unstarted : monitor.Passes (do
        if ← recordExists name then runReconcileCommand (.stop name) name else return ()) := by
      refine rules.ask rfl fun present => ?_
      split
      · exact stopped
      · exact ensures_pure trivial
    exact unstarted.thenPure
  refine rules.ask rfl fun present => ?_
  split
  · apply Ensures.bind (rules.readRecord (rules.reads owned))
    intro record readAs
    have mine := readAs.1 owned
    split
    · exact (rules.replaceEcosystemApplication owned application mine).thenPure
    · unfold Manager.reconcileRecord
      dsimp only
      split
      · have updated : free (updatedRecord record application).name := mine
        apply Ensures.bind (rules.write _ (.inl updated))
        intro _ _
        exact rules.reconcileMaster owned application _ _ _ updated
      · exact rules.reconcileMaster owned application _ _ _ mine
  · exact (rules.launchEcosystemApplication owned).thenPure

theorem reconcileEach (owned : ∀ entry ∈ applications, free entry.1) :
    monitor.Passes (reconcileEach .apply applications) := by
  induction applications with
  | nil => exact ensures_pure trivial
  | cons entry applications induction =>
    apply Ensures.bind (rules.reconcileApplication (owned entry List.mem_cons_self))
    intro action _
    apply Ensures.bind (induction fun other member => owned other (List.mem_cons_of_mem _ member))
    intro results _
    exact ensures_pure trivial

theorem localProgram {command : LocalCommand}
    (owned : ∀ name, command.names name = true → free name) : monitor.Passes command.program := by
  cases command with
  | attach options => exact rules.launch options (owned _ (beq_self_eq_true _))
  | apply applications =>
    have each : monitor.Passes (Manager.reconcileEach .apply applications) := by
      apply rules.reconcileEach
      intro entry member
      exact owned _ (List.any_eq_true.mpr ⟨entry, member, beq_self_eq_true _⟩)
    exact Ensures.thenPure (rules.ask rfl fun _ => each)

end Rules

end Pam.Manager
