import Pam.Manager.Rules

namespace Pam.Manager

open Pam.Foundation List
open Monitor

/-! One walk through the commands for monitors of what an actor has read and
written of the records. -/

def ManagerAction.touches : ManagerAction → Bool
  | .readRecord _ => true
  | .writeRecord _ => true
  | .findRecord _ => true
  | .execute _ => true
  | _ => false

def untouching : Monitor ManagerAction ManagerAction.Answer Unit :=
  .only fun action => action.touches = false

theorem quiet_untouching : Quiet untouching where
  access := by
    intro Result action finish quiet
    apply ensures_access
    intro known
    cases action <;> first | rfl | cases quiet

theorem untouching_restartRecord : untouching.Passes (restartRecord record) :=
  quiet_untouching.restartRecord (ensures_access fun _ => rfl) (ensures_access fun _ => rfl)

/-- What a monitor knows about records: the copy of the actor, a copy that it
may put back, and a record that it has seen to be absent. -/
structure Ledger (Knowledge : Type) where
  copied : Knowledge → ApplicationRecord → Prop
  restorable : Knowledge → ApplicationRecord → Prop
  absent : Knowledge → AppName → Prop

structure Ledger.Keeps {Knowledge : Type} (ledger : Ledger Knowledge)
    (name : AppName) (known learned : Knowledge) : Prop where
  copied : ∀ other : ApplicationRecord, other.name ≠ name →
    ledger.copied known other → ledger.copied learned other
  restorable : ∀ record, ledger.restorable known record → ledger.restorable learned record

theorem Ledger.Keeps.refl (ledger : Ledger Knowledge) : ledger.Keeps name known known where
  copied := fun _ _ => id
  restorable := fun _ => id

/-- A copy may be written back as `edits` relates the written record to it, and
`creations` may be written where no record is. -/
structure Bookkeeper (monitor : Monitor ManagerAction ManagerAction.Answer Knowledge)
    (ledger : Ledger Knowledge) (edits : ApplicationRecord → ApplicationRecord → Prop)
    (creations : ApplicationRecord → Prop) : Prop where
  passes : ∀ {known action}, action.touches = false → monitor.permits known action
  passed : ∀ {known learned action answer}, action.touches = false →
    monitor.learns known action answer = some learned → learned = known
  listed : ∀ {known learned names}, monitor.learns known .listRecords (.ok names) = some learned →
    names.Nodup
  reads : ∀ {known name}, monitor.permits known (.readRecord name)
  keepsRead : ∀ {known learned name answer},
    monitor.learns known (.readRecord name) answer = some learned → ledger.Keeps name known learned
  copied : ∀ {known learned name record},
    monitor.learns known (.readRecord name) (.ok record) = some learned →
    record.name = name ∧ record.schemaVersion ≠ 1 ∧ ledger.copied learned record
  writes : ∀ {known record edited}, ledger.copied known record →
    edits edited record → monitor.permits known (.writeRecord edited)
  keepsWrite : ∀ {known learned record answer},
    monitor.learns known (.writeRecord record) answer = some learned →
    ledger.Keeps record.name known learned
  written : ∀ {known learned record}, monitor.permits known (.writeRecord record) →
    monitor.learns known (.writeRecord record) (.ok ()) = some learned →
    ledger.copied learned record
  finds : ∀ {known name}, monitor.permits known (.findRecord name)
  found : ∀ {known learned name}, monitor.learns known (.findRecord name) false = some learned →
    ledger.absent learned name
  creates : ∀ {known record}, ledger.absent known record.name →
    creations record → monitor.permits known (.writeRecord record)
  executes : ∀ {known command}, monitor.permits known (.execute command)
  keepsExecute : ∀ {known learned command answer record},
    monitor.learns known (.execute command) answer = some learned →
    ledger.restorable known record → ledger.restorable learned record
  replaces : ∀ {known learned command answer record},
    monitor.learns known (.execute command) answer = some learned →
    command = .stop record.name ∨ command = .delete record.name →
    ledger.copied known record → ledger.restorable learned record
  restores : ∀ {known record}, ledger.restorable known record →
    monitor.permits known (.writeRecord record)

namespace Bookkeeper

variable {monitor : Monitor ManagerAction ManagerAction.Answer Knowledge}
  (keeper : Bookkeeper monitor ledger edits creations)

include keeper

theorem untouched {program : ManagerProgram Result} (obeys : untouching.Obeys () program) :
    monitor.wp (fun learned _ => learned = known) known program := by
  induction program with
  | done result => exact rfl
  | perform action next induction =>
    refine ⟨keeper.passes obeys.permits, ?_⟩
    intro answer learned learns
    cases keeper.passed obeys.permits learns
    exact induction answer (obeys.step rfl)

variable {post : Knowledge → Except String Other → Prop}

theorem pass (untouched : untouching.Passes program) (failed : ∀ error, post known (.error error))
    (later : ∀ value, monitor.wp post known (rest value).run) :
    monitor.wp post known (program >>= rest).run := by
  rw [wp_andThen]
  refine wp_mono ?_ (keeper.untouched (untouched.obeys ()))
  intro learned outcome same
  cases same
  cases outcome with
  | ok value => exact later value
  | error error => exact failed error

theorem ask {finish : action.Answer → Except String Result} (quiet : action.quiet = true)
    (failed : ∀ error, post known (.error error))
    (later : ∀ value, monitor.wp post known (rest value).run) :
    monitor.wp post known ((ExceptT.mk (.perform action fun answer => .done (finish answer)) :
        ManagerM Result) >>= rest).run := keeper.pass (quiet_untouching.access quiet) failed later

theorem passOutcome (untouched : untouching.Passes program)
    (later : ∀ outcome, monitor.wp post known (rest outcome).run) :
    monitor.wp post known (outcomeOf program >>= rest).run := by
  rw [wp_andThen, outcomeOf, wp_lift]
  refine wp_mono ?_ (keeper.untouched (untouched.obeys ()))
  intro learned outcome same
  cases same
  exact later outcome

theorem readRecord {post : Knowledge → Except String ApplicationRecord → Prop}
    (failed : ∀ learned error, ledger.Keeps name known learned → post learned (.error error))
    (later : ∀ learned record, ledger.Keeps name known learned →
      record.name = name → ledger.copied learned record →
      post learned (.ok record)) : monitor.wp post known (readRecord name).run := by
  rw [Manager.readRecord, wp_andThen]
  refine ⟨keeper.reads, ?_⟩
  intro answer learned learns
  have kept := keeper.keepsRead learns
  cases answer with
  | error error => exact failed learned error kept
  | ok record =>
    obtain ⟨named, current, copied⟩ := keeper.copied learns
    -- A record of the first schema is not admitted, so none is migrated.
    have same : (record.schemaVersion == 1) = false := by simpa using current
    simp only [Monitor.wp, same]
    exact later learned record kept named copied

theorem read
    (failed : ∀ learned error, ledger.Keeps name known learned → post learned (.error error))
    (later : ∀ learned record, ledger.Keeps name known learned →
      record.name = name → ledger.copied learned record →
      monitor.wp post learned (rest record).run) :
    monitor.wp post known (Manager.readRecord name >>= rest).run := by
  rw [wp_andThen]
  exact keeper.readRecord failed later

theorem write (copied : ledger.copied known record) (edit : edits edited record)
    (failed : ∀ learned error, ledger.Keeps edited.name known learned → post learned (.error error))
    (later : ∀ learned, ledger.Keeps edited.name known learned → ledger.copied learned edited →
      monitor.wp post learned (rest ()).run) :
    monitor.wp post known (writeRecord edited >>= rest).run := by
  have permitted := keeper.writes copied edit
  refine ⟨permitted, ?_⟩
  intro answer learned learns
  have kept := keeper.keepsWrite learns
  cases answer with
  | error error => exact failed learned error kept
  | ok done => exact later learned kept (keeper.written permitted learns)

theorem restore (restorable : ledger.restorable known record)
    (failed : ∀ learned error, post learned (.error error))
    (later : ∀ learned, monitor.wp post learned (rest ()).run) :
    monitor.wp post known (writeRecord record >>= rest).run := by
  refine ⟨keeper.restores restorable, ?_⟩
  intro answer learned learns
  cases answer with
  | error error => exact failed learned error
  | ok done => exact later learned

theorem writeLast {post : Knowledge → Except String Unit → Prop}
    (copied : ledger.copied known record) (edit : edits edited record)
    (any : ∀ learned outcome, ledger.Keeps edited.name known learned → post learned outcome) :
    monitor.wp post known (writeRecord edited).run := by
  refine ⟨keeper.writes copied edit, ?_⟩
  intro answer learned learns
  exact any learned answer (keeper.keepsWrite learns)

theorem ends (untouched : untouching.Passes program) : monitor.Obeys known program.run :=
  wp_mono (fun _ _ _ => trivial) (keeper.untouched (untouched.obeys ()))

theorem revise {change : ApplicationRecord → ApplicationRecord}
    {next : ApplicationRecord → ManagerM Other} (allowed : ∀ record, edits (change record) record)
    (untouched : ∀ record, untouching.Passes (next record)) : monitor.Passes (do
      let record ← Manager.readRecord name
      writeRecord (change record)
      next record) := by
  apply ensures_of_obeys
  intro known
  apply keeper.read (fun _ _ _ => trivial)
  intro learned record _ _ copied
  apply keeper.write copied (allowed record) (fun _ _ _ => trivial)
  intro learned _ _
  exact keeper.ends (untouched record)

theorem stop (allowed : ∀ record, edits (stoppedRecord record) record) :
    monitor.Passes (stop name) := keeper.revise allowed quiet_untouching.stopRecord

theorem restart (allowed : ∀ record, edits (resetRecovery record) record) :
    monitor.Passes (restart name) :=
  keeper.revise allowed fun _ => untouching_restartRecord.thenPure

theorem scale (workers : Nat) (allowed : ∀ record, workers ≤ 256 →
      edits (scaledRecord record workers) record) : monitor.Passes (scale name workers) := by
  unfold Manager.scale
  split
  · exact ensures_throw
  next few =>
  apply keeper.revise (fun record => allowed record (Nat.le_of_not_lt few))
  exact fun _ => untouching_restartRecord.thenPure

theorem delete : monitor.Passes (delete name) := by
  apply ensures_of_obeys
  intro known
  apply keeper.read (fun _ _ _ => trivial)
  intro learned record _ _ _
  apply keeper.ends
  apply Ensures.bind (quiet_untouching.runningMaster record.masterStateFile)
  intro master _
  cases master with
  | some state => exact ensures_throw
  | none => exact quiet_untouching.access rfl

theorem readRecords (distinct : names.Nodup)
    {post : Knowledge → Except String (List ApplicationRecord) → Prop}
    (failed : ∀ learned error, post learned (.error error))
    (later : ∀ learned records, (∀ record ∈ records, ledger.copied learned record) →
      records.map ApplicationRecord.name = names →
      (∀ other : ApplicationRecord, other.name ∉ names →
        ledger.copied known other → ledger.copied learned other) →
      post learned (.ok records)) : monitor.wp post known (readRecords names).run := by
  induction names generalizing known post with
  | nil =>
    apply later known [] _ rfl (fun _ _ => id)
    intro record member
    exact absurd member not_mem_nil
  | cons name names induction =>
    obtain ⟨fresh, distinct⟩ := nodup_cons.mp distinct
    apply keeper.read (fun learned error _ => failed learned error)
    intro learned record kept named copied
    rw [wp_andThen]
    apply induction distinct
    · intro last error
      exact failed last error
    intro last records all sameNames others
    have outside : record.name ∉ names := by
      rw [named]
      exact fresh
    refine later last (record :: records) (forall_mem_cons.mpr
      ⟨others record outside copied, all⟩) ?_ ?_
    · rw [map_cons, named, sameNames]
    intro other unnamed before
    obtain ⟨apart, outside⟩ := not_or.mp (mem_cons.not.mp unnamed)
    exact others other outside (kept.copied other apart before)

theorem readAllRecords {post : Knowledge → Except String (List ApplicationRecord) → Prop}
    (failed : ∀ learned error, post learned (.error error))
    (later : ∀ learned records, (∀ record ∈ records, ledger.copied learned record) →
      (records.map ApplicationRecord.name).Nodup →
      post learned (.ok records)) : monitor.wp post known readAllRecords.run := by
  refine ⟨keeper.passes rfl, ?_⟩
  intro answer learned learns
  cases answer with
  | error error => exact failed learned error
  | ok names =>
    have distinct := keeper.listed learns
    apply keeper.readRecords distinct failed
    intro last records all sameNames _
    apply later last records all
    rw [sameNames]
    exact distinct

theorem save : monitor.Passes save := by
  apply ensures_of_obeys
  intro known
  rw [Obeys, Manager.save, wp_andThen]
  apply keeper.readAllRecords (fun _ _ => trivial)
  intro learned records _ _
  exact keeper.ends (quiet_untouching.access rfl)

section

variable (allowed : ∀ record, edits (resetRecovery record) record)
include allowed

theorem resurrectApplication : monitor.Passes (resurrectApplication saved) := by
  unfold Manager.resurrectApplication
  split
  · apply keeper.revise allowed
    intro record
    apply Ensures.bind (quiet_untouching.runningMaster record.masterStateFile)
    intro master _
    cases master with
    | some state => exact ensures_pure trivial
    | none => exact untouching_restartRecord.thenPure
  · exact ensures_pure trivial

theorem resurrectSaved : monitor.Passes resurrectSaved := by
  have list : monitor.Passes readSavedList := ensures_access fun _ => keeper.passes rfl
  apply Ensures.bind list
  intro applications _
  split
  · exact ensures_throw
  apply ensures_forM
  intro saved _
  exact keeper.resurrectApplication allowed

theorem restoreSaved : monitor.Passes restoreSaved := by
  have look : monitor.Passes savedListExists := ensures_access fun _ => keeper.passes rfl
  apply Ensures.bind look
  intro present _
  cases present with
  | false => exact ensures_pure trivial
  | true =>
    apply Ensures.bind (keeper.resurrectSaved allowed).outcome
    intro outcome _
    cases outcome <;> exact ensures_pure trivial

end

theorem activateRelease {post : Knowledge → Except String Unit → Prop}
    (copied : ledger.copied known previous)
    (released : edits (releaseRecord previous release) previous)
    (restored : edits previous (releaseRecord previous release))
    (any : ∀ learned outcome, post learned outcome) :
    monitor.wp post known (activateRelease previous release).run := by
  apply keeper.pass (quiet_untouching.stopRecord previous) (fun _ => any _ _)
  intro _
  apply keeper.write copied released (fun _ _ _ => any _ _)
  intro learned _ candidate
  apply keeper.passOutcome untouching_restartRecord
  intro outcome
  cases outcome with
  | ok state => exact any _ _
  | error error =>
    apply keeper.write candidate restored (fun _ _ _ => any _ _)
    intro learned _ _
    apply keeper.passOutcome untouching_restartRecord
    intro outcome
    cases outcome <;> exact any _ _

section Releases

variable (released : ∀ record release, edits (releaseRecord record release) record)
  (restored : ∀ record release, edits record (releaseRecord record release))

include released restored

theorem release {record : ApplicationRecord} {directory : Directory}
    {name : AppName} {entry : Nat → List DeploymentEntry} (copied : ledger.copied known record) :
    monitor.Obeys known (do
      Manager.activateRelease record directory
      let now ← epochMillis
      writeDeploymentHistory name (entry now) : ManagerM Unit).run := by
  rw [Obeys, wp_andThen]
  apply keeper.activateRelease copied (released record directory) (restored record directory)
  intro learned outcome
  cases outcome with
  | error error => trivial
  | ok done =>
    refine keeper.ask rfl (fun _ => trivial) fun now => ?_
    exact keeper.ends (quiet_untouching.access rfl)

theorem deploy : monitor.Passes (deploy name path) := by
  apply ensures_of_obeys
  intro known
  refine keeper.ask rfl (fun _ => trivial) fun directory => ?_
  apply keeper.read (fun _ _ _ => trivial)
  intro learned record _ _ copied
  split
  · trivial
  · refine keeper.ask rfl (fun _ => trivial) fun history => ?_
    exact keeper.release released restored copied

theorem rollback : monitor.Passes (rollback name steps) := by
  apply ensures_of_obeys
  intro known
  apply keeper.read (fun _ _ _ => trivial)
  intro learned record _ _ copied
  refine keeper.ask rfl (fun _ => trivial) fun history => ?_
  split
  · trivial
  next _ =>
    refine keeper.ask rfl (fun _ => trivial) fun target => ?_
    exact keeper.release released restored copied

end Releases

theorem up (allowed : ∀ now, creations (upRecord options now)) : monitor.Passes (up options) := by
  apply ensures_of_obeys
  intro known
  refine ⟨keeper.finds, ?_⟩
  intro present learned learns
  cases present with
  | true =>
    apply keeper.read (fun _ _ _ => trivial)
    intro learned record _ _ _
    apply keeper.ends
    apply Ensures.bind (quiet_untouching.runningMaster record.masterStateFile)
    intro master _
    cases master <;> exact ensures_throw
  | false =>
    have absent := keeper.found learns
    refine keeper.ask rfl (fun _ => trivial) fun _ => ?_
    apply keeper.pass (ensures_access fun _ => rfl : untouching.Passes
      (spawnMaster options.name (upStateFile options) options.launch)) (fun _ => trivial)
    intro pid
    refine keeper.ask rfl (fun _ => trivial) fun readiness => ?_
    cases readiness with
    | exited | timedOut => trivial
    | ready state =>
      refine keeper.ask rfl (fun _ => trivial) fun now => ?_
      exact ⟨keeper.creates absent (allowed now), fun _ _ _ => trivial⟩

end Bookkeeper

structure SupervisionEdits (edits : ApplicationRecord → ApplicationRecord → Prop) : Prop where
  stabilized : ∀ record, edits (stabilizedRecord record) record
  exitDetected : ∀ record now, edits (exitDetectedRecord record now) record
  recovered : ∀ record started ready,
    edits (recoveredRecord (begunRecord record started) ready) record
  rescheduled : ∀ record started failed,
    edits (scheduleRecovery (begunRecord record started) failed) record

structure HealthEdits (edits : ApplicationRecord → ApplicationRecord → Prop) : Prop where
  healthy : ∀ record checked, edits (healthyRecord record checked) record
  failing : ∀ record checked, edits (failingRecord record checked) record
  unhealthy : ∀ record checked, edits (unhealthyRecord record checked) record

def ManagerCommand.Edits (edits : ApplicationRecord → ApplicationRecord → Prop)
    (creations : ApplicationRecord → Prop) : ManagerCommand → Prop
  | .up options => ∀ now, creations (upRecord options now)
  | .restart _ => ∀ record, edits (resetRecovery record) record
  | .scale _ workers => ∀ record, workers ≤ 256 → edits (scaledRecord record workers) record
  | .stop _ => ∀ record, edits (stoppedRecord record) record
  | .delete _ => True
  | .save => True
  | .resurrect => ∀ record, edits (resetRecovery record) record
  | .deploy _ _ => ∀ record release,
      edits (releaseRecord record release) record ∧ edits record (releaseRecord record release)
  | .rollback _ _ => ∀ record release,
      edits (releaseRecord record release) record ∧ edits record (releaseRecord record release)

def Origin.Edits (edits : ApplicationRecord → ApplicationRecord → Prop)
    (creations : ApplicationRecord → Prop) : Origin → Prop
  | .request command => command.Edits edits creations
  | .supervision => SupervisionEdits edits
  | .healthResults _ => HealthEdits edits
  | .start => ∀ record, edits (resetRecovery record) record

def LocalCommand.Edits (edits : ApplicationRecord → ApplicationRecord → Prop)
    (creations : ApplicationRecord → Prop) : LocalCommand → Prop
  | .attach options => ∀ now, creations (upRecord options now)
  | .apply applications => ∀ entry ∈ applications,
      ∀ record : ApplicationRecord, record.name = entry.1 →
        edits (identifiedRecord record entry.2) record ∧ edits (updatedRecord record entry.2) record

namespace Bookkeeper

variable {monitor : Monitor ManagerAction ManagerAction.Answer Knowledge}
  (keeper : Bookkeeper monitor ledger edits creations)

include keeper

theorem runLocal (allowed : command.Edits edits creations) : monitor.Passes (runLocal command) := by
  cases command with
  | up options => exact keeper.up allowed
  | restart name => exact keeper.restart allowed
  | scale name workers => exact keeper.scale workers allowed
  | stop name => exact keeper.stop allowed
  | delete name => exact keeper.delete
  | save => exact keeper.save
  | resurrect => exact keeper.resurrectSaved allowed
  | deploy name release =>
    exact keeper.deploy (fun record release => (allowed record release).1)
      (fun record release => (allowed record release).2)
  | rollback name steps =>
    exact keeper.rollback (fun record release => (allowed record release).1)
      (fun record release => (allowed record release).2)

section Supervision

variable (allowed : SupervisionEdits edits)

include allowed

theorem recoverApplication (copied : ledger.copied known record) :
    monitor.wp (fun learned _ => ledger.Keeps record.name known learned) known
      (recoverApplication record earliest).run := by
  have clock : untouching.Passes epochMillis := quiet_untouching.access rfl
  apply keeper.pass clock (fun _ => .refl ledger)
  intro started
  apply keeper.passOutcome untouching_restartRecord
  intro outcome
  cases outcome with
  | ok state =>
    apply keeper.pass clock (fun _ => .refl ledger)
    intro ready
    apply keeper.write copied (allowed.recovered record started ready) (fun _ _ kept => kept)
    intro learned kept _
    exact kept
  | error error =>
    apply keeper.pass clock (fun _ => .refl ledger)
    intro failed
    have named : (scheduleRecovery (begunRecord record started) failed).name =
        record.name := scheduleRecovery_name
    apply keeper.write copied (allowed.rescheduled record started failed)
    · intro learned error kept
      exact named ▸ kept
    · intro learned kept _
      exact named ▸ kept

theorem superviseApplication (copied : ledger.copied known record) :
    monitor.wp (fun learned _ => ledger.Keeps record.name known learned) known
      (superviseApplication now earliest record).run := by
  have still : ledger.Keeps record.name known known := .refl ledger
  unfold Manager.superviseApplication
  split
  · exact still
  apply keeper.pass (quiet_untouching.runningMaster record.masterStateFile) (fun _ => still)
  intro master
  cases master with
  | some state =>
    dsimp only
    split
    · apply keeper.write copied (allowed.stabilized record) (fun _ _ kept => kept)
      intro learned kept _
      exact kept
    · exact still
  | none =>
    dsimp only
    split
    · exact still
    split
    · have named : (exitDetectedRecord record now).name = record.name := scheduleRecovery_name
      apply keeper.write copied (allowed.exitDetected record now)
      · intro learned error kept
        exact named ▸ kept
      · intro learned kept _
        exact named ▸ kept
    · split
      · exact still
      · exact keeper.recoverApplication allowed copied

theorem superviseRecords {records : List ApplicationRecord}
    (distinct : (records.map ApplicationRecord.name).Nodup)
    (copied : ∀ record ∈ records, ledger.copied known record) :
    monitor.Obeys known (records.foldlM (Manager.superviseApplication now) earliest).run := by
  induction records generalizing known earliest with
  | nil => trivial
  | cons record records induction =>
    obtain ⟨fresh, distinct⟩ := nodup_cons.mp distinct
    rw [foldlM_cons, Obeys, wp_andThen]
    refine wp_mono ?_ (keeper.superviseApplication allowed (copied record mem_cons_self))
    intro learned outcome kept
    cases outcome with
    | error error => trivial
    | ok next =>
      apply induction distinct
      intro other member
      refine kept.copied other ?_ (copied other (mem_cons_of_mem _ member))
      intro same
      exact fresh (mem_map.mpr ⟨other, member, same⟩)

theorem superviseOnce : monitor.Passes superviseOnce := by
  have pass : monitor.Passes superviseApplications := by
    apply ensures_of_obeys
    intro known
    refine keeper.ask rfl (fun _ => trivial) fun now => ?_
    rw [wp_andThen]
    apply keeper.readAllRecords (fun _ _ => trivial)
    intro learned records copied distinct
    exact keeper.superviseRecords allowed distinct copied
  apply Ensures.bind pass
  intro _ _
  exact ensures_pure trivial

end Supervision

section Health

variable (allowed : HealthEdits edits)

include allowed

theorem applyHealthProbeResult : monitor.Passes (applyHealthProbeResult result) := by
  apply ensures_of_obeys
  intro known
  rw [Obeys, Manager.applyHealthProbeResult, wp_andThen, outcomeOf, wp_lift]
  apply keeper.readRecord (fun _ _ _ => trivial)
  intro learned record _ _ copied
  refine keeper.ask rfl (fun _ => trivial) fun state => ?_
  dsimp only
  split
  · trivial
  split
  · exact keeper.writeLast copied (allowed.healthy record _) (fun _ _ _ => trivial)
  split
  · apply keeper.write copied (allowed.unhealthy record _) (fun _ _ _ => trivial)
    intro learned _ _
    cases state with
    | none => trivial
    | some state =>
      apply keeper.ends
      apply Ensures.bind (quiet_untouching.access rfl : untouching.Passes (masterIsRunning state))
      intro running _
      cases running with
      | true => exact quiet_untouching.access rfl
      | false => exact ensures_pure trivial
  · exact keeper.writeLast copied (allowed.failing record _) (fun _ _ _ => trivial)

theorem applyHealthProbeResults : monitor.Passes (applyHealthProbeResults results) := by
  apply ensures_forM
  intro result _
  exact keeper.applyHealthProbeResult allowed

end Health

theorem originProgram {origin : Origin} (allowed : origin.Edits edits creations) :
    monitor.Passes origin.program := by
  cases origin with
  | request command => exact keeper.runLocal allowed
  | supervision => exact keeper.superviseOnce allowed
  | healthResults results => exact keeper.applyHealthProbeResults allowed
  | start => exact keeper.restoreSaved allowed

theorem command {command : ManagerCommand} {post : Knowledge → Except String Unit → Prop}
    (failed : ∀ answer learned error,
      monitor.learns known (.execute command) answer = some learned →
      post learned (.error error)) (later : ∀ answer learned,
      monitor.learns known (.execute command) answer = some learned →
      monitor.wp post learned (rest ()).run) :
    monitor.wp post known (runReconcileCommand command name >>= rest).run := by
  refine ⟨keeper.executes, ?_⟩
  intro answer learned learns
  cases answer with
  | ok done => exact later _ learned learns
  | error error => exact failed _ learned _ learns

section

variable (identified : ∀ record : ApplicationRecord, record.name = name →
      edits (identifiedRecord record application) record)
include identified

theorem launchEcosystemApplication {previous : ApplicationRecord → Prop}
    (restorable : ∀ record, previous record → ledger.restorable known record) :
    monitor.wp (fun learned _ => ∀ record, previous record → ledger.restorable learned record) known
      (launchEcosystemApplication name application).run := by
  apply keeper.command
  · intro answer learned error learns record mine
    exact keeper.keepsExecute learns (restorable record mine)
  intro answer learned learns
  apply keeper.read
  · intro read error kept record mine
    exact kept.restorable record (keeper.keepsExecute learns (restorable record mine))
  intro read record kept named copied
  apply keeper.writeLast copied (identified record named)
  intro written outcome stays other mine
  exact stays.restorable other (kept.restorable other
    (keeper.keepsExecute learns (restorable other mine)))

theorem replaceOperation (named : previous.name = name) (copied : ledger.copied known previous) :
    monitor.wp (fun learned _ => ledger.restorable learned previous) known
      (replaceOperation name application wasRunning).run := by
  have launches : ∀ {known}, ledger.restorable known previous →
      monitor.wp (fun learned _ => ledger.restorable learned previous) known
        (Manager.launchEcosystemApplication name application).run := by
    intro known restorable
    refine wp_mono ?_ (keeper.launchEcosystemApplication identified
      (fun record (same : record = previous) => same ▸ restorable))
    intro learned outcome kept
    exact kept previous rfl
  cases wasRunning with
  | true =>
    have stops : ManagerCommand.stop name = .stop previous.name := by rw [named]
    apply keeper.command
    · intro answer learned error learns
      exact keeper.replaces learns (.inl stops) copied
    intro answer learned learns
    have restorable := keeper.replaces learns (.inl stops) copied
    apply keeper.command
    · intro answer last error learns
      exact keeper.keepsExecute learns restorable
    · intro answer last learns
      exact launches (keeper.keepsExecute learns restorable)
  | false =>
    have deletes : ManagerCommand.delete name = .delete previous.name := by rw [named]
    apply keeper.command
    · intro answer learned error learns
      exact keeper.replaces learns (.inr deletes) copied
    · intro answer learned learns
      exact launches (keeper.replaces learns (.inr deletes) copied)

theorem replaceEcosystemApplication
    (named : previous.name = name) (copied : ledger.copied known previous) :
    monitor.Obeys known (replaceEcosystemApplication name application previous).run := by
  apply keeper.pass (quiet_untouching.runningMaster previous.masterStateFile) (fun _ => trivial)
  intro master
  rw [wp_andThen]
  refine wp_lift.mpr (wp_mono ?_ (keeper.replaceOperation identified named copied))
  intro learned outcome restorable
  cases outcome with
  | ok done => trivial
  | error error =>
    apply keeper.restore restorable (fun _ _ => trivial)
    intro last
    split
    · apply keeper.passOutcome untouching_restartRecord
      intro outcome
      cases outcome <;> trivial
    · trivial

end

theorem commandLast {command : ManagerCommand} {action : ReconcileAction} : monitor.Obeys known (do
      runReconcileCommand command name
      return action : ManagerM ReconcileAction).run := by
  refine ⟨keeper.executes, ?_⟩
  intro answer learned learns
  cases answer <;> trivial

theorem reconcileMaster : monitor.Obeys known (reconcileMaster .apply name application launchChanged
      limitsChanged policyChanged record).run := by
  apply keeper.pass (quiet_untouching.runningMaster record.masterStateFile) (fun _ => trivial)
  intro master
  cases master with
  | none => exact keeper.commandLast
  | some state =>
    dsimp only
    split
    · exact keeper.ends (Ensures.thenPure (Ensures.thenPure untouching_restartRecord))
    split
    · exact keeper.commandLast
    · trivial

theorem reconcileApplication (allowed : ∀ record : ApplicationRecord, record.name = name →
      edits (identifiedRecord record application) record ∧
        edits (updatedRecord record application) record) :
    monitor.Passes (reconcileApplication .apply name application) := by
  have identified : ∀ record : ApplicationRecord, record.name = name →
      edits (identifiedRecord record application) record :=
    fun record named => (allowed record named).1
  apply ensures_of_obeys
  intro known
  unfold Manager.reconcileApplication
  split
  · simp only [ReconcileMode.effect, bind_assoc]
    refine keeper.ask rfl (fun _ => trivial) fun present => ?_
    split
    · exact keeper.commandLast
    · trivial
  refine keeper.ask rfl (fun _ => trivial) fun present => ?_
  split
  · apply keeper.read (fun _ _ _ => trivial)
    intro learned record _ named copied
    split
    · rw [wp_andThen]
      refine wp_mono ?_ (keeper.replaceEcosystemApplication identified named copied)
      intro last outcome _
      cases outcome <;> trivial
    · unfold reconcileRecord
      dsimp only
      split
      · apply keeper.write copied (allowed record named).2 (fun _ _ _ => trivial)
        intro last _ _
        exact keeper.reconcileMaster
      · exact keeper.reconcileMaster
  · rw [wp_andThen]
    refine wp_mono ?_ (keeper.launchEcosystemApplication identified
      (fun _ (none : False) => none.elim))
    intro learned outcome _
    cases outcome <;> trivial

theorem reconcileEach (allowed : ∀ entry ∈ applications, ∀ record : ApplicationRecord,
      record.name = entry.1 → edits (identifiedRecord record entry.2) record ∧
        edits (updatedRecord record entry.2) record) :
    monitor.Passes (reconcileEach .apply applications) := by
  induction applications with
  | nil => exact ensures_pure trivial
  | cons entry applications induction =>
    apply Ensures.bind (keeper.reconcileApplication (allowed entry mem_cons_self))
    intro action _
    apply Ensures.bind (induction fun other member => allowed other (mem_cons_of_mem _ member))
    intro results _
    exact ensures_pure trivial

theorem localProgram {command : LocalCommand} (allowed : command.Edits edits creations) :
    monitor.Passes command.program := by
  cases command with
  | attach options => exact keeper.up allowed
  | apply applications =>
    have creates : monitor.Passes createDirectories := by
      apply ensures_of_obeys
      intro known
      exact keeper.ends (quiet_untouching.access rfl)
    exact (creates.bind fun _ _ => keeper.reconcileEach allowed).thenPure

end Bookkeeper

end Pam.Manager
