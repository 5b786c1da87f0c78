import Pam.Manager.Alone

namespace Pam.Manager

open Pam.Foundation Program Option Function

/-! What the commands do to the view when they run alone. -/

variable {world : World}

theorem attempt_ok (attempted : world.attempt fault outcome = (.ok value, target)) :
    outcome = (.ok value, target) := by
  cases fault with
  | none => exact attempted
  | some message => cases attempted

def ManagerAction.immediate : ManagerAction → Bool
  | .awaitExit _ => false
  | .awaitReady _ _ => false
  | .epochMillis => false
  | _ => true

theorem answers_immediate (immediate : action.immediate = true) :
    world.Answers cores action answer target ↔ ∃ fault, (action.sees = true → fault = none) ∧
        world.perform fault action = (answer, target) := by
  have still : ∀ {moved : World}, world.Meanwhile cores action moved ↔ moved = world := by
    cases action <;> first | exact Iff.rfl | cases immediate
  constructor
  · intro answered
    obtain ⟨moved, fault, meanwhile, sees, performed⟩ := answered
    rw [still.mp meanwhile] at performed
    exact ⟨fault, sees, performed⟩
  · intro answered
    obtain ⟨fault, sees, performed⟩ := answered
    exact ⟨world, fault, still.mpr rfl, sees, performed⟩

theorem runs_ask : Program.Runs (World.Answers cores) world
        (ExceptT.lift (Program.call action) : ManagerM action.Answer).run (.ok answer) target ↔
      world.Answers cores action answer target := runs_lift_ok.trans runs_call

theorem runs_ask_immediate (immediate : action.immediate = true) :
    Program.Runs (World.Answers cores) world
        (ExceptT.lift (Program.call action) : ManagerM action.Answer).run (.ok answer) target ↔
      ∃ fault, (action.sees = true → fault = none) ∧
        world.perform fault action = (answer, target) :=
  runs_ask.trans (answers_immediate immediate)

theorem runs_try_immediate (immediate : action.immediate = true) :
    Program.Runs (World.Answers cores) world (Program.call action) answer target ↔
      ∃ fault, (action.sees = true → fault = none) ∧
        world.perform fault action = (answer, target) :=
  runs_call.trans (answers_immediate immediate)

theorem runs_look {seen : action.Answer} (immediate : action.immediate = true)
    (looks : ∀ fault, (action.sees = true → fault = none) →
      world.perform fault action = (seen, world)) : Program.Runs (World.Answers cores) world
        (ExceptT.lift (Program.call action) : ManagerM action.Answer).run (.ok answer) target ↔
      answer = seen ∧ target = world := by
  refine (runs_ask_immediate immediate).trans ⟨?_, ?_⟩
  · intro answered
    obtain ⟨fault, sees, performed⟩ := answered
    rw [looks fault sees] at performed
    cases performed
    exact ⟨rfl, rfl⟩
  · intro same
    obtain ⟨rfl, rfl⟩ := same
    exact ⟨none, fun _ => rfl, looks none fun _ => rfl⟩

theorem runs_recordExists : world.Runs cores (recordExists name) (.ok present) target ↔
      present = (world.view.records name).isSome ∧ target = world := runs_look rfl fun _ _ => rfl

theorem runs_findRecord : world.Runs cores (findRecord name) (.ok present) target ↔
      present = (world.view.records name).isSome ∧ target = world := runs_look rfl fun _ _ => rfl

theorem runs_readRecordFile {record : ApplicationRecord} :
    world.Runs cores (readRecordFile name) (.ok record) target ↔
      world.view.records name = some record ∧ target = world := by
  refine (runs_try_immediate rfl).trans ⟨?_, ?_⟩
  · intro answered
    obtain ⟨fault, _, performed⟩ := answered
    have read := attempt_ok performed
    cases found : world.records.lookup name with
    | none =>
      simp only [found] at read
      cases read
    | some stored =>
      simp only [found] at read
      cases read
      exact ⟨found, rfl⟩
  · intro read
    obtain ⟨found, rfl⟩ := read
    have stored : target.records.lookup name = some record := found
    refine ⟨none, fun _ => rfl, ?_⟩
    simp only [World.perform, stored]
    rfl

theorem runs_writeRecord {record : ApplicationRecord}
    (runs : world.Runs cores (writeRecord record) (.ok ()) target) :
    target = { world with records := world.records.insert record.name record } := by
  obtain ⟨fault, _, performed⟩ := (runs_try_immediate rfl).mp runs
  cases attempt_ok performed
  rfl

theorem runs_removeRecord (runs : world.Runs cores (removeRecord name) (.ok ()) target) :
    target = { world with records := world.records.erase name } := by
  obtain ⟨fault, _, performed⟩ := (runs_try_immediate rfl).mp runs
  cases attempt_ok performed
  rfl

theorem runs_createDirectories (runs : world.Runs cores createDirectories (.ok ()) target) :
    target = { world with directories := true } := by
  obtain ⟨fault, _, performed⟩ := (runs_try_immediate rfl).mp runs
  cases attempt_ok performed
  rfl

theorem runs_rotateLogs (runs : world.Runs cores (rotateLogs name) outcome target) :
    target = world := by
  obtain ⟨fault, _, performed⟩ := (runs_try_immediate rfl).mp runs
  cases fault <;> cases performed <;> rfl

theorem runs_readMasterState {file : StateFile} {found : Option MasterState} :
    world.Runs cores (readMasterState file) (.ok found) target ↔
      found = world.stateFiles.lookup file ∧ target = world := runs_look rfl fun _ sees => by
    rw [sees rfl]
    rfl

theorem runs_findMaster {file : StateFile} {found : Option MasterState} :
    world.Runs cores (findMaster name file) (.ok found) target ↔
      found = world.stateFiles.lookup file ∧ target = world := runs_look rfl fun _ sees => by
    rw [sees rfl]
    rfl

theorem runs_masterIsRunning {state : MasterState} {running : Bool} :
    world.Runs cores (masterIsRunning state) (.ok running) target ↔
      running = world.running state ∧ target = world := runs_look rfl fun _ _ => rfl

theorem runs_epochMillis (runs : world.Runs cores epochMillis (.ok now) target) :
    ∃ millis, target = { world with clock := world.clock + millis } := by
  obtain ⟨moved, fault, ⟨millis, rfl⟩, _, performed⟩ := runs_ask.mp runs
  cases performed
  exact ⟨millis, rfl⟩

theorem runs_signalMaster {state : MasterState} {signal : MasterSignal}
    {outcome : Except String Unit}
    (runs : world.Runs cores (signalMaster state signal) outcome target) :
    target.view = world.view ∧ (world.Sound → target.Sound) ∧
      target.stateFiles = world.stateFiles := by
  obtain ⟨fault, _, performed⟩ := (runs_try_immediate rfl).mp runs
  cases fault with
  | some message =>
    cases performed
    exact ⟨rfl, id, rfl⟩
  | none =>
    change world.signal state signal = (outcome, target) at performed
    unfold World.signal at performed
    split at performed
    · cases signal with
      | stop =>
        cases performed
        exact ⟨rfl, id, rfl⟩
      | kill =>
        cases performed
        exact ⟨world.view_kill, fun sound => sound.kill _, rfl⟩
    · cases performed
      exact ⟨rfl, id, rfl⟩

theorem runs_runningMaster : world.Runs cores (runningMaster file) (.ok found) target ↔
      found = (world.view.online file).map RunningMaster.state ∧ target = world := by
  have online : (world.view.online file).map RunningMaster.state =
      (world.stateFiles.lookup file).filter world.running := by
    change (world.online file).map RunningMaster.state = _
    unfold World.online
    cases world.stateFiles.lookup file with
    | none => rfl
    | some state =>
      cases lives : world.masters.lookup state.pid <;> simp [Option.filter, World.running, lives]
  rw [online, World.Runs, runningMaster, runs_look_andThen runs_readMasterState]
  cases world.stateFiles.lookup file with
  | none => exact runs_pure_ok
  | some state =>
    refine (runs_look_andThen runs_masterIsRunning).trans ?_
    cases lives : world.running state with
    | true | false => exact runs_pure_ok.trans (by simp [Option.filter, lives])

theorem runs_readRecord {name : AppName} : world.Runs cores (readRecord name) (.ok record) target ↔
      (∃ stored, world.view.records name = some stored ∧
        record = world.view.seen stored) ∧ target = world := by
  rw [World.Runs, readRecord, runs_find_andThen runs_readRecordFile, ← exists_and_right]
  refine exists_congr fun stored => ?_
  rw [and_assoc]
  refine and_congr_right fun _ => ?_
  split
  next first =>
    refine (runs_look_andThen runs_runningMaster).trans ?_
    exact runs_pure_ok.trans (by simp [View.seen, first])
  next later => exact runs_pure_ok.trans (by simp [View.seen, later])

section

variable (coherent : world.Coherent) (published : world.stateFiles.lookup file = some state)
include coherent published

theorem runs_awaitExit (runs : world.Runs cores (awaitExit state) (.ok gone) target) :
    gone = true ∧ target.view = world.view.shut file ∧ (world.Sound → target.Sound) ∨
      gone = false ∧ target = world := by
  obtain ⟨moved, fault, meanwhile, _, performed⟩ := runs_ask.mp runs
  cases performed
  rcases meanwhile with rfl | ⟨graceful, exits⟩
  · cases lives : target.masters.lookup state.pid with
    | none =>
      left
      refine ⟨?_, ?_, id⟩
      · simp [World.running, lives]
      · exact (View.shut_of_offline _ (World.offline_of_gone published lives)).symm
    | some master =>
      right
      exact ⟨by simp [World.running, lives], rfl⟩
  · left
    refine ⟨?_, coherent.view_exits published exits, fun sound => sound.exits exits⟩
    obtain ⟨master, _, rfl⟩ := World.exits_eq exits
    simp [World.running]

theorem runs_terminateMaster (runs : world.Runs cores (terminateMaster state) outcome target) :
    (world.Sound → target.Sound) ∧ ((∃ forced, outcome = .ok forced) ∧
          target.view = world.view.shut file ∨
        (∃ error, outcome = .error error) ∧ target.view = world.view) := by
  obtain ⟨running, middle, asked, rest⟩ := runs_lift_andThen.mp runs
  obtain ⟨rfl, rfl⟩ := runs_masterIsRunning.mp asked
  cases lives : middle.running state with
  | false =>
    rw [lives] at rest
    obtain ⟨rfl, rfl⟩ := runs_pure.mp rest
    have gone : target.masters.lookup state.pid = none := by
      exact isNone_iff_eq_none.mp (isSome_eq_false_iff.mp lives)
    refine ⟨id, .inl ⟨⟨false, rfl⟩, ?_⟩⟩
    exact (View.shut_of_offline _ (World.offline_of_gone published gone)).symm
  | true =>
    rw [lives] at rest
    rcases runs_andThen.mp rest with ⟨_, stopped, signalled, waiting⟩ | ⟨error, rfl, failed⟩
    · obtain ⟨stopView, stopSound, stopFiles⟩ := runs_signalMaster signalled
      have stopCoherent := coherent.runs signalled
      have stopPublished : stopped.stateFiles.lookup file = some state := by
        rw [stopFiles]
        exact published
      obtain ⟨gone, waited, awaited, later⟩ := runs_lift_andThen.mp waiting
      rcases runs_awaitExit stopCoherent stopPublished awaited with
        ⟨rfl, after, settled⟩ | ⟨rfl, rfl⟩
      · obtain ⟨rfl, rfl⟩ := runs_pure.mp later
        refine ⟨settled ∘ stopSound, .inl ⟨⟨false, rfl⟩, ?_⟩⟩
        rw [after, stopView]
      rcases runs_andThen.mp later with ⟨_, killed, signalled, waiting⟩ | ⟨error, rfl, failed⟩
      · obtain ⟨killView, killSound, killFiles⟩ := runs_signalMaster signalled
        have killCoherent := stopCoherent.runs signalled
        have killPublished : killed.stateFiles.lookup file = some state := by
          rw [killFiles]
          exact stopPublished
        obtain ⟨gone, last, awaited, ending⟩ := runs_lift_andThen.mp waiting
        rcases runs_awaitExit killCoherent killPublished awaited with
          ⟨rfl, after, settled⟩ | ⟨rfl, rfl⟩
        · obtain ⟨rfl, rfl⟩ := runs_pure.mp ending
          refine ⟨settled ∘ killSound ∘ stopSound, .inl ⟨⟨true, rfl⟩, ?_⟩⟩
          rw [after, killView, stopView]
        obtain ⟨rfl, rfl⟩ := runs_throw.mp ending
        refine ⟨killSound ∘ stopSound, .inr ⟨⟨_, rfl⟩, ?_⟩⟩
        rw [killView, stopView]
      · obtain ⟨after, settled, _⟩ := runs_signalMaster failed
        refine ⟨settled ∘ stopSound, .inr ⟨⟨error, rfl⟩, ?_⟩⟩
        rw [after, stopView]
    · obtain ⟨after, settled, _⟩ := runs_signalMaster failed
      exact ⟨settled, .inr ⟨⟨error, rfl⟩, after⟩⟩

end

theorem runs_spawnMaster {name : AppName} {launch : Launch} {outcome : Except String Pid}
    (runs : world.Runs cores (spawnMaster name file launch) outcome target) :
    outcome = .ok world.nextPid ∧ target = world.launch name file launch ∨
      (∃ error, outcome = .error error) ∧ target = world := by
  obtain ⟨fault, _, performed⟩ := (runs_try_immediate rfl).mp runs
  cases fault with
  | none =>
    cases performed
    exact .inl ⟨rfl, rfl⟩
  | some message =>
    cases performed
    exact .inr ⟨⟨message, rfl⟩, rfl⟩

section

variable (sound : world.Sound)
include sound

theorem runs_awaitReady
    (runs : (world.launch name launchFile launch).Runs cores
      (awaitReady file world.nextPid) (.ok readiness) target) :
    (∃ millis, World.Launched cores (world.later millis) name launchFile launch target) ∧
      readiness = target.readiness file world.nextPid := by
  obtain ⟨moved, fault, ⟨millis, starts⟩, _, performed⟩ := runs_ask.mp runs
  cases performed
  exact ⟨⟨millis, World.Starts.launched (sound.later millis) starts .starting⟩, rfl⟩

theorem launched_ready (launched : World.Launched cores world name launchFile launch target)
    (offline : world.view.online file = none)
    (ready : Readiness.ready state = target.readiness file world.nextPid) :
    launchFile = file ∧ commandWorkers cores launch.command = some state.workers ∧
      target.view = world.view.bring file ⟨state, launch⟩ ∧ target.Sound := by
  have online : target.view.online file ≠ none := by
    intro none
    change target.online file = Option.none at none
    rw [World.readiness_eq, none] at ready
    revert ready
    dsimp only
    split <;> nofun
  cases launched with
  | starting =>
    rw [World.view_launch sound] at online
    exact absurd offline online
  | @ready workers counted =>
    have own : launchFile = file := by
      by_contra different
      apply online
      rw [World.view_readied sound]
      simp only [View.bring]
      rw [update_of_ne (Ne.symm different)]
      exact offline
    subst own
    have published : (world.readied name launchFile launch workers).online launchFile =
          some ⟨⟨world.nextPid, workers, world.clock⟩, launch⟩ := by
      simp [World.online, World.readied]
    rw [World.readiness_eq, published] at ready
    cases ready
    exact ⟨rfl, counted, World.view_readied sound, sound.readied workers⟩
  | gone _ _ after =>
    rcases after with same | shut
    · rw [same] at online
      exact absurd offline online
    rw [shut] at online
    apply absurd _ online
    simp only [View.shut]
    by_cases own : file = launchFile
    · rw [own, update_self]
    · rw [update_of_ne own]
      exact offline

theorem runs_launchRecord (offline : world.view.online record.masterStateFile = none)
    (runs : world.Runs cores (launchRecord record) (.ok state) target) :
    record.launchStateFile = record.masterStateFile ∧
      commandWorkers cores record.command = some state.workers ∧
      target.view = world.view.bring record.masterStateFile ⟨state, record.launch⟩ ∧
      target.Sound := by
  unfold launchRecord at runs
  split at runs
  · cases (runs_throw.mp runs).1
  obtain ⟨_, rotated, rotates, rest⟩ := runs_andThen_ok.mp runs
  rw [runs_rotateLogs rotates] at rest
  obtain ⟨pid, spawned, spawns, rest⟩ := runs_andThen_ok.mp rest
  rcases runs_spawnMaster spawns with ⟨same, rfl⟩ | ⟨⟨error, same⟩, _⟩
  · cases same
    obtain ⟨readiness, waited, awaits, rest⟩ := runs_andThen_ok.mp rest
    obtain ⟨⟨millis, launched⟩, answered⟩ := runs_awaitReady sound awaits
    cases readiness with
    | ready found =>
      cases rest
      exact launched_ready (sound.later millis) launched offline answered
    | exited | timedOut => cases (runs_throw.mp rest).1
  · cases same

theorem runs_restartRecord (runs : world.Runs cores (restartRecord record) (.ok state) target) :
    record.launchStateFile = record.masterStateFile ∧
      commandWorkers cores record.command = some state.workers ∧
      target.view = world.view.bring record.masterStateFile ⟨state, record.launch⟩ ∧
      target.Sound := by
  have rest := (runs_look_andThen runs_findMaster).mp runs
  cases published : world.stateFiles.lookup record.masterStateFile with
  | none =>
    rw [published] at rest
    have offline : world.view.online record.masterStateFile = none := by
      change world.online _ = none
      rw [World.online, published]
      rfl
    exact runs_launchRecord sound offline rest
  | some running =>
    rw [published] at rest
    obtain ⟨forced, ended, terminates, rest⟩ := runs_andThen_ok.mp rest
    obtain ⟨settled, ⟨_, shut⟩ | ⟨⟨error, same⟩, _⟩⟩ :=
      runs_terminateMaster sound.toCoherent published terminates
    · have offline : ended.view.online record.masterStateFile = none := by
        rw [shut]
        exact update_self ..
      obtain ⟨own, counted, brought, after⟩ := runs_launchRecord (settled sound) offline rest
      refine ⟨own, counted, ?_, after⟩
      rw [brought, shut, View.shut_bring]
    · cases same

end

def View.reads (view : View) (name : AppName) : Option ApplicationRecord :=
  (view.records name).map view.seen

theorem seen_of_schema {view : View} (current : record.schemaVersion ≠ 1) :
    view.seen record = record := by
  unfold View.seen
  rw [if_neg (by simpa using current)]

theorem schema_of_seen (view : View) : (view.seen record).schemaVersion ≠ 1 := by
  unfold View.seen
  split
  · exact Nat.succ_ne_self 1
  · next current => simpa using current

theorem View.reads_store {view : View} (current : record.schemaVersion ≠ 1) :
    (view.store record).reads record.name = some record := by
  have stored : (view.store record).records record.name = some record := update_self ..
  rw [View.reads, stored, map_some, seen_of_schema current]

theorem schema_of_reads {view : View} (read : view.reads name = some record) :
    record.schemaVersion ≠ 1 := by
  obtain ⟨stored, _, rfl⟩ := map_eq_some_iff.mp read
  exact schema_of_seen view

theorem runs_readRecord_ok (coherent : world.Coherent)
    (runs : world.Runs cores (readRecord name) (.ok record) target) :
    world.view.reads name = some record ∧ record.name = name ∧ target = world := by
  obtain ⟨⟨stored, found, rfl⟩, rfl⟩ := runs_readRecord.mp runs
  refine ⟨?_, ?_, rfl⟩
  · rw [View.reads, found]
    rfl
  · rw [View.seen_name]
    exact coherent.named _ _ found

theorem runs_stopRecord (coherent : world.Coherent)
    (runs : world.Runs cores (stopRecord record) outcome target) :
    (world.Sound → target.Sound) ∧ (outcome = .ok () ∧
          target.view = world.view.shut record.masterStateFile ∨
        (∃ error, outcome = .error error) ∧ target.view = world.view) := by
  obtain ⟨found, middle, reads, rest⟩ := runs_lift_andThen.mp runs
  obtain ⟨rfl, rfl⟩ := runs_readMasterState.mp reads
  cases published : middle.stateFiles.lookup record.masterStateFile with
  | none =>
    rw [published] at rest
    obtain ⟨rfl, rfl⟩ := runs_pure.mp rest
    refine ⟨id, .inl ⟨rfl, (View.shut_of_offline _ ?_).symm⟩⟩
    change target.online _ = none
    rw [World.online, published]
    rfl
  | some state =>
    rw [published] at rest
    rcases runs_andThen.mp rest with
      ⟨forced, ended, terminates, finished⟩ | ⟨error, rfl, terminates⟩
    · obtain ⟨rfl, rfl⟩ := runs_pure.mp finished
      obtain ⟨settled, ⟨_, shut⟩ | ⟨⟨error, same⟩, _⟩⟩ :=
        runs_terminateMaster coherent published terminates
      · exact ⟨settled, .inl ⟨rfl, shut⟩⟩
      · cases same
    · obtain ⟨settled, ⟨⟨forced, same⟩, _⟩ | ⟨_, same⟩⟩ :=
        runs_terminateMaster coherent published terminates
      · cases same
      · exact ⟨settled, .inr ⟨⟨error, rfl⟩, same⟩⟩

variable (sound : world.Sound)
include sound

theorem runs_stop (runs : world.Runs cores (stop name) (.ok ()) target) :
    ∃ record, world.view.reads name = some record ∧ record.name = name ∧
      target.view = (world.view.store (stoppedRecord record)).shut record.masterStateFile ∧
      target.Sound := by
  obtain ⟨record, middle, reads, rest⟩ := runs_andThen_ok.mp runs
  obtain ⟨read, named, rfl⟩ := runs_readRecord_ok sound.toCoherent reads
  obtain ⟨_, written, writes, rest⟩ := runs_andThen_ok.mp rest
  cases runs_writeRecord writes
  have stops : World.Runs cores _ (stopRecord record) (.ok ()) target := rest
  obtain ⟨settled, ⟨_, shut⟩ | ⟨⟨error, same⟩, _⟩⟩ :=
    runs_stopRecord (sound.write _).toCoherent stops
  · refine ⟨record, read, named, ?_, settled (sound.write _)⟩
    rw [shut, World.view_write]
  · cases same

theorem runs_editAndRestart (edit : ApplicationRecord → ApplicationRecord)
    (keeps : ∀ record, (edit record).masterStateFile = record.masterStateFile)
    (runs : world.Runs cores (do
      let record ← readRecord name
      writeRecord (edit record)
      let _ ← restartRecord (edit record)
      return ()) (.ok ()) target) :
    ∃ record state, world.view.reads name = some record ∧ record.name = name ∧
      commandWorkers cores (edit record).command = some state.workers ∧
      target.view = (world.view.store (edit record)).bring record.masterStateFile
        ⟨state, (edit record).launch⟩ ∧ target.Sound := by
  obtain ⟨record, middle, reads, rest⟩ := runs_andThen_ok.mp runs
  obtain ⟨read, named, rfl⟩ := runs_readRecord_ok sound.toCoherent reads
  obtain ⟨_, written, writes, rest⟩ := runs_andThen_ok.mp rest
  cases runs_writeRecord writes
  obtain ⟨state, restarts, _⟩ := runs_andThen_pure.mp rest
  obtain ⟨_, counted, brought, settled⟩ := runs_restartRecord (sound.write _) restarts
  refine ⟨record, state, read, named, counted, ?_, settled⟩
  rw [brought, World.view_write, keeps]

theorem runs_restart (runs : world.Runs cores (restart name) (.ok ()) target) :
    ∃ record state, world.view.reads name = some record ∧ record.name = name ∧
      commandWorkers cores record.command = some state.workers ∧
      target.view = (world.view.store (resetRecovery record)).bring
        record.masterStateFile ⟨state, record.launch⟩ ∧ target.Sound :=
  runs_editAndRestart sound resetRecovery (fun _ => rfl) runs

theorem runs_scale (runs : world.Runs cores (scale name workers) (.ok ()) target) :
    ∃ record state, world.view.reads name = some record ∧ record.name = name ∧
      commandWorkers cores (scaledRecord record workers).command = some state.workers ∧
      target.view = (world.view.store (scaledRecord record workers)).bring
        record.masterStateFile ⟨state, (scaledRecord record workers).launch⟩ ∧ target.Sound := by
  unfold scale at runs
  split at runs
  · cases (runs_throw.mp runs).1
  exact runs_editAndRestart sound (scaledRecord · workers) (fun _ => rfl) runs

theorem runs_delete (runs : world.Runs cores (delete name) (.ok ()) target) :
    target.view = world.view.remove name ∧ target.Sound := by
  obtain ⟨record, middle, reads, rest⟩ := runs_andThen_ok.mp runs
  obtain ⟨_, _, rfl⟩ := runs_readRecord_ok sound.toCoherent reads
  have rest := (runs_look_andThen runs_runningMaster).mp rest
  cases online : (middle.view.online record.masterStateFile).map RunningMaster.state with
  | some state =>
    rw [online] at rest
    cases (runs_throw.mp rest).1
  | none =>
    rw [online] at rest
    cases runs_removeRecord rest
    exact ⟨World.view_remove, sound.remove _⟩

theorem runs_up (offline : world.view.online (upStateFile options) = none)
    (runs : world.Runs cores (up options) (.ok ()) target) :
    ∃ state now, world.view.records options.name = none ∧
      commandWorkers cores options.launch.command = some state.workers ∧
      target.view = (world.view.bring (upStateFile options)
        ⟨state, options.launch⟩).store (upRecord options now) ∧ target.Sound := by
  have rest := (runs_look_andThen runs_findRecord).mp runs
  cases absent : world.view.records options.name with
  | some stored =>
    simp only [absent] at rest
    obtain ⟨record, read, reads, rest⟩ := runs_andThen_ok.mp rest
    obtain ⟨master, looked, looks, rest⟩ := runs_andThen_ok.mp rest
    cases master with
    | none | some state => cases (runs_throw.mp rest).1
  | none =>
    simp only [absent] at rest
    obtain ⟨_, rotated, rotates, rest⟩ := runs_andThen_ok.mp rest
    rw [runs_rotateLogs rotates] at rest
    obtain ⟨pid, spawned, spawns, rest⟩ := runs_andThen_ok.mp rest
    rcases runs_spawnMaster spawns with ⟨same, rfl⟩ | ⟨⟨error, same⟩, _⟩
    · cases same
      obtain ⟨readiness, waited, awaits, rest⟩ := runs_andThen_ok.mp rest
      obtain ⟨⟨millis, launched⟩, answered⟩ := runs_awaitReady sound awaits
      cases readiness with
      | exited | timedOut => cases (runs_throw.mp rest).1
      | ready state =>
        obtain ⟨_, counted, brought, settled⟩ :=
          launched_ready (sound.later millis) launched offline answered
        obtain ⟨now, ticked, asks, rest⟩ := runs_andThen_ok.mp rest
        obtain ⟨millis, rfl⟩ := runs_epochMillis asks
        cases runs_writeRecord rest
        have ticked : { waited with clock := waited.clock + millis }.Sound :=
          settled.of_same (settled.toCoherent.of_same settled.named rfl rfl rfl) rfl
        refine ⟨state, now, rfl, counted, ?_, ticked.write _⟩
        have after := World.view_write { waited with clock := waited.clock + millis }
          (upRecord options now)
        have still : { waited with clock := waited.clock + millis }.view = waited.view :=
          World.view_of_same rfl rfl rfl rfl rfl
        rw [still, brought] at after
        exact after
    · cases same

end Pam.Manager
