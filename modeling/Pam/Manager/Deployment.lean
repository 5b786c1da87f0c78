import Pam.Manager.Plan

namespace Pam.Manager

open Pam.Foundation Program List Option Function

/-! Deployments: a release is activated as a whole, or the previous one is
kept. -/

inductive Deployment where
  | deploy (release : Directory)
  | rollback (steps : Nat)
  deriving DecidableEq

def Deployment.program (name : AppName) : Deployment → ManagerM Unit
  | .deploy release => Manager.deploy name release
  | .rollback steps => Manager.rollback name steps

def Deployment.release (view : View) (name : AppName) : Deployment → Option Directory
  | .deploy release => some release
  | .rollback steps => (view.reads name).bind fun record =>
      rollbackTarget record.workingDirectory (view.deployments name) steps

def doubleFailure (error recoveryError : String) : String := "release failed (" ++ error ++
    "); previous release recovery also failed (" ++ recoveryError ++ ")"

/-- What a failed deployment leaves: the record, the history, and a running
master or one of the same launch. -/
structure View.Kept (before after : View) (name : AppName) : Prop where
  record : after.reads name = before.reads name
  history : after.deployments name = before.deployments name
  master : ∀ record running, before.reads name = some record →
    before.online record.masterStateFile = some running →
    ∃ again, after.online record.masterStateFile = some again ∧
      (again = running ∨ again.launch = record.launch)

structure View.Releases (view : View) (name : AppName) (release : Directory) : Prop where
  record : ∃ record, view.reads name = some record ∧ record.workingDirectory = release
  history : ∃ entry, (view.deployments name).getLast? = some entry ∧
    entry.releaseDirectory = release

def View.Obedient (view : View) (name : AppName) : Prop :=
  ∀ record, view.reads name = some record → record.desiredState = .stopped →
    view.online record.masterStateFile = none

structure View.AllOrNothing (before after : View) (name : AppName)
    (release : Option Directory) (outcome : Except String Unit) : Prop where
  failed : ∀ error, outcome = .error error →
    (∀ failure recovery, error ≠ doubleFailure failure recovery) → before.Kept after name
  done : outcome = .ok () → ∃ directory, release = some directory ∧ after.Releases name directory
  obedient : after.Obedient name

def Readiness.concerns (pid : Pid) : Readiness → Bool
  | .ready state => state.pid == pid
  | .exited => true
  | .timedOut => true

/-- No write of a record or of a history fails, and a master that is found ready
is the one that was launched. -/
def ManagerAction.Steady : (action : ManagerAction) → action.Answer → Prop
  | .writeRecord _, written => written = .ok ()
  | .writeDeploymentHistory _ _, written => written = .ok ()
  | .awaitReady _ pid, readiness => Readiness.concerns pid readiness = true
  | _, _ => True

def World.SteadyAnswers (cores : Nat) (world : World) (action : ManagerAction)
    (answer : action.Answer) (target : World) : Prop :=
  world.Answers cores action answer target ∧ action.Steady answer

abbrev World.SteadyRuns {Result : Type} (cores : Nat) (world : World)
    (program : ManagerM Result) (outcome : Except String Result) (target : World) : Prop :=
  Program.Runs (World.SteadyAnswers cores) world program.run outcome target

section Steady

variable {world target : World}

theorem World.SteadyRuns.runs {Result : Type} {program : ManagerM Result}
    {outcome : Except String Result} (steady : world.SteadyRuns cores program outcome target) :
    world.Runs cores program outcome target := steady.mono And.left

def View.SameStore (before after : View) : Prop :=
  after.records = before.records ∧ after.deployments = before.deployments

theorem View.SameStore.trans {first second third : View}
    (before : first.SameStore second) (after : second.SameStore third) : first.SameStore third :=
  ⟨after.1.trans before.1, after.2.trans before.2⟩

theorem steady_writeRecord (steady : world.SteadyRuns cores (writeRecord record) outcome target) :
    outcome = .ok () ∧ target.view = world.view.store record := by
  have written : outcome = .ok () := (runs_call.mp steady).2
  subst written
  cases runs_writeRecord steady.runs
  exact ⟨rfl, World.view_write _ _⟩

theorem steady_writeDeploymentHistory
    (steady : world.SteadyRuns cores (writeDeploymentHistory name history) outcome target) :
    outcome = .ok () ∧ target.view = world.view.keep name history := by
  have written : outcome = .ok () := (runs_call.mp steady).2
  subst written
  obtain ⟨fault, _, performed⟩ := (runs_try_immediate rfl).mp steady.runs
  cases attempt_ok performed
  exact ⟨rfl, World.view_keep⟩

theorem World.Starts.frame (starts : World.Starts cores pid world target) :
    world.view.SameStore target.view ∧ ∀ master, target.masters.lookup pid = some master →
        ∃ old, world.masters.lookup pid = some old ∧ master.launch = old.launch := by
  induction starts with
  | refl => exact ⟨⟨rfl, rfl⟩, fun master found => ⟨master, found, rfl⟩⟩
  | @ready world middle target other master workers found counted ready later
      induction =>
      obtain ⟨name, file, launch, starting, rfl⟩ := World.becomesReady_eq ready
      refine ⟨induction.1, ?_⟩
      intro last lives
      obtain ⟨old, before, same⟩ := induction.2 last lives
      rcases Table.lookup_of_lookup_insert before with ⟨own, rfl⟩ | ⟨_, older⟩
      · subst own
        exact ⟨_, starting, same⟩
      · exact ⟨old, older, same⟩
  | exits exits later induction =>
    obtain ⟨master, found, rfl⟩ := World.exits_eq exits
    refine ⟨induction.1, ?_⟩
    intro last lives
    obtain ⟨old, before, same⟩ := induction.2 last lives
    exact ⟨old, (Table.lookup_of_lookup_erase before).1, same⟩

theorem readiness_ready (ready : Readiness.ready state = target.readiness file pid) :
    ∃ master, target.masters.lookup state.pid = some master ∧
      target.view.online file = some ⟨state, master.launch⟩ := by
  rw [World.readiness_eq] at ready
  change ∃ master, _ ∧ target.online file = _
  unfold World.online at ready ⊢
  cases published : target.stateFiles.lookup file with
  | none =>
    rw [published] at ready
    dsimp only [bind_none] at ready
    split at ready <;> cases ready
  | some running =>
    cases lives : target.masters.lookup running.pid with
    | none =>
      simp only [published, bind_some, lives, map_none] at ready
      split at ready <;> cases ready
    | some master =>
      simp only [published, bind_some, lives] at ready
      cases ready
      exact ⟨master, lives, by simp [lives]⟩

theorem steady_launchRecord (steady : world.SteadyRuns cores (launchRecord record) outcome target) :
    world.view.SameStore target.view ∧ ∀ state, outcome = .ok state →
        target.view.online record.masterStateFile = some ⟨state, record.launch⟩ := by
  unfold launchRecord at steady
  split at steady
  · obtain ⟨rfl, rfl⟩ := runs_throw.mp steady
    exact ⟨⟨rfl, rfl⟩, nofun⟩
  rcases runs_andThen.mp steady with ⟨_, rotated, rotates, rest⟩ | ⟨error, rfl, failed⟩
  · cases runs_rotateLogs (World.SteadyRuns.runs rotates)
    rcases runs_andThen.mp rest with ⟨pid, spawned, spawns, rest⟩ | ⟨error, rfl, failed⟩
    · rcases runs_spawnMaster (World.SteadyRuns.runs spawns) with ⟨same, rfl⟩ | ⟨⟨error, same⟩, _⟩
      · cases same
        obtain ⟨readiness, waited, awaits, last⟩ := runs_lift_andThen.mp rest
        obtain ⟨⟨moved, fault, ⟨millis, starts⟩, _, performed⟩, own⟩ :=
          runs_call.mp (runs_lift_ok.mp awaits)
        cases performed
        obtain ⟨kept, launched⟩ := World.Starts.frame starts
        cases ready : waited.readiness record.masterStateFile world.nextPid with
        | ready state =>
          rw [ready] at last own
          obtain ⟨rfl, rfl⟩ := runs_pure.mp last
          refine ⟨kept, ?_⟩
          intro found same
          cases same
          obtain ⟨master, lives, online⟩ := readiness_ready ready.symm
          have mine : state.pid = world.nextPid := beq_iff_eq.mp own
          rw [mine] at lives
          obtain ⟨old, born, launch⟩ := launched master lives
          cases born.symm.trans World.lookup_launch_self
          rw [online, launch]
        | exited | timedOut =>
          rw [ready] at last
          obtain ⟨rfl, rfl⟩ := runs_throw.mp last
          exact ⟨kept, nofun⟩
      · cases same
    · rcases runs_spawnMaster (World.SteadyRuns.runs failed) with ⟨same, _⟩ | ⟨_, rfl⟩
      · cases same
      · exact ⟨⟨rfl, rfl⟩, nofun⟩
  · cases runs_rotateLogs (World.SteadyRuns.runs failed)
    exact ⟨⟨rfl, rfl⟩, nofun⟩

theorem steady_restartRecord (coherent : world.Coherent)
    (steady : world.SteadyRuns cores (restartRecord record) outcome target) :
    world.view.SameStore target.view ∧ ∀ state, outcome = .ok state →
        target.view.online record.masterStateFile = some ⟨state, record.launch⟩ := by
  obtain ⟨found, middle, finds, rest⟩ := runs_lift_andThen.mp steady
  obtain ⟨rfl, rfl⟩ := runs_findMaster.mp (World.SteadyRuns.runs finds)
  cases published : middle.stateFiles.lookup record.masterStateFile with
  | none =>
    rw [published] at rest
    exact steady_launchRecord rest
  | some running =>
    rw [published] at rest
    have ended : ∀ {ending outcome},
        middle.SteadyRuns cores (terminateMaster running) outcome ending →
        middle.view.SameStore ending.view := by
      intro ending outcome terminates
      rcases (runs_terminateMaster coherent published terminates.runs).2 with ⟨_, shut⟩ | ⟨_, same⟩
      · rw [shut]
        exact ⟨rfl, rfl⟩
      · rw [same]
        exact ⟨rfl, rfl⟩
    rcases runs_andThen.mp rest with ⟨forced, ending, terminates, launches⟩ | ⟨error, rfl, failed⟩
    · obtain ⟨kept, online⟩ := steady_launchRecord launches
      exact ⟨(ended terminates).trans kept, online⟩
    · exact ⟨ended failed, nofun⟩

/-- How `activate_release` ends: the release is stored, the old master could not
be stopped, or the previous release is stored again. -/
inductive View.Activates (before : View) (previous : ApplicationRecord)
    (release : Directory) : Except String Unit → View → Prop where
  | activated {after : View}
      (stored : (before.store (releaseRecord previous release)).SameStore after)
      (online : after.online (releaseRecord previous release).masterStateFile ≠ none) :
      Activates before previous release (.ok ()) after
  | unstopped (error : String) : Activates before previous release (.error error) before
  | restored {after : View} (error : String) (state : MasterState)
      (stored : (before.store previous).SameStore after)
      (online : after.online previous.masterStateFile = some ⟨state, previous.launch⟩) :
      Activates before previous release (.error error) after
  | lost {after : View} (error recoveryError : String)
      (stored : (before.store previous).SameStore after) : Activates before previous release
        (.error (doubleFailure error recoveryError)) after

theorem View.store_sameStore {before after : View}
    (same : before.SameStore after) (record : ApplicationRecord) :
    (before.store record).SameStore (after.store record) := by
  refine ⟨?_, same.2⟩
  simp only [View.store]
  rw [same.1]

theorem steady_activateRelease (coherent : world.Coherent)
    (steady : world.SteadyRuns cores (activateRelease previous release) outcome target) :
    world.view.Activates previous release outcome target.view := by
  rcases runs_andThen.mp steady with ⟨_, stopped, stops, rest⟩ | ⟨error, rfl, failed⟩
  · have shut : world.view.SameStore stopped.view := by
      rcases (runs_stopRecord coherent (World.SteadyRuns.runs stops)).2 with
        ⟨_, shut⟩ | ⟨⟨error, same⟩, _⟩
      · rw [shut]
        exact ⟨rfl, rfl⟩
      · cases same
    rcases runs_andThen.mp rest with ⟨_, written, writes, rest⟩ | ⟨error, rfl, failed⟩
    · have writtenCoherent := (coherent.runs (World.SteadyRuns.runs
        stops)).runs (World.SteadyRuns.runs writes)
      obtain ⟨_, candidate⟩ := steady_writeRecord writes
      obtain ⟨launched, restarted, restarts, last⟩ := runs_lift_andThen.mp rest
      have restarts := runs_lift_ok.mp restarts
      obtain ⟨kept, online⟩ := steady_restartRecord writtenCoherent restarts
      rw [candidate] at kept
      cases launched with
      | ok state =>
        obtain ⟨rfl, rfl⟩ := runs_pure.mp last
        refine .activated ((View.store_sameStore shut _).trans kept) ?_
        rw [online state rfl]
        exact some_ne_none _
      | error error =>
        rcases runs_andThen.mp last with ⟨_, back, writes, rest⟩ | ⟨other, rfl, failed⟩
        · have backCoherent := (writtenCoherent.runs (World.SteadyRuns.runs restarts)).runs
            (World.SteadyRuns.runs writes)
          obtain ⟨_, previously⟩ := steady_writeRecord writes
          obtain ⟨recovered, recovery, recovers, last⟩ := runs_lift_andThen.mp rest
          have recovers := runs_lift_ok.mp recovers
          obtain ⟨again, running⟩ := steady_restartRecord backCoherent recovers
          -- The second write hides the first one: both are of one name.
          have stored : (world.view.store previous).SameStore recovery.view := by
            have first := View.store_sameStore ((View.store_sameStore shut _).trans kept) previous
            have named : (releaseRecord previous release).name = previous.name := rfl
            rw [View.store_store _ named, ← previously] at first
            exact first.trans again
          cases recovered with
          | ok state =>
            obtain ⟨rfl, rfl⟩ := runs_throw.mp last
            exact .restored _ state stored (running state rfl)
          | error recoveryError =>
            obtain ⟨rfl, rfl⟩ := runs_throw.mp last
            exact .lost error recoveryError stored
        · cases (steady_writeRecord failed).1
    · cases (steady_writeRecord failed).1
  · rcases (runs_stopRecord coherent (World.SteadyRuns.runs failed)).2 with ⟨same, _⟩ | ⟨_, same⟩
    · cases same
    · rw [same]
      exact .unstopped error

theorem steady_readRecord
    (steady : world.SteadyRuns cores (readRecord name) outcome target) : target = world := by
  refine Program.Runs.kept (fun passed => passed = world) steady
    (looking_readRecord.obeys ()) ?_ rfl
  intro before after action answer looks same answered
  rw [answers_looking looks answered.1, same]

theorem steady_readDeploymentHistory
    (steady : world.SteadyRuns cores (readDeploymentHistory name) outcome target) :
    target = world ∧ ∀ history, outcome = .ok history → history = world.view.deployments name := by
  obtain ⟨fault, _, performed⟩ := (runs_try_immediate rfl).mp steady.runs
  cases fault <;> cases performed
  · exact ⟨rfl, fun _ same => (Except.ok.inj same).symm⟩
  · exact ⟨rfl, nofun⟩

theorem steady_validateReleaseDirectory
    (steady : world.SteadyRuns cores (validateReleaseDirectory path) outcome target) :
    target = world ∧ ∀ release, outcome = .ok release → release = path := by
  obtain ⟨fault, _, performed⟩ := (runs_try_immediate rfl).mp steady.runs
  cases fault <;> cases performed
  · exact ⟨rfl, fun _ same => (Except.ok.inj same).symm⟩
  · exact ⟨rfl, nofun⟩

theorem appendDeploymentEntry_getLast :
    (appendDeploymentEntry history entry).getLast? = some entry := by
  have shorter : ¬ (history ++ [entry]).length ≤
      (history ++ [entry]).length - maxDeployHistory := by
    rw [length_append, maxDeployHistory, length_singleton]
    omega
  rw [appendDeploymentEntry, getLast?_drop, if_neg shorter, getLast?_concat]

theorem steady_record (coherent : world.Coherent) (steady : world.SteadyRuns cores (do
      activateRelease previous release
      let now ← epochMillis
      writeDeploymentHistory name (appendDeploymentEntry based
        { releaseDirectory := release
          activatedAtMillis := now
          eventKind := kind })) outcome target) : (∃ error, outcome = .error error ∧
        world.view.Activates previous release (.error error) target.view) ∨
      ∃ active entry, outcome = .ok () ∧ entry.releaseDirectory = release ∧
        world.view.Activates previous release (.ok ()) active ∧
        target.view = active.keep name (appendDeploymentEntry based entry) := by
  rcases runs_andThen.mp steady with ⟨_, activated, activates, rest⟩ | ⟨error, rfl, failed⟩
  · right
    obtain ⟨now, ticked, asks, writes⟩ := runs_lift_andThen.mp rest
    obtain ⟨millis, rfl⟩ := runs_epochMillis (World.SteadyRuns.runs asks)
    obtain ⟨rfl, written⟩ := steady_writeDeploymentHistory writes
    refine ⟨activated.view, _, rfl, ?_, steady_activateRelease coherent activates, written⟩
    rfl
  · exact .inl ⟨error, rfl, steady_activateRelease coherent failed⟩

inductive View.Deploys (before : View) (name : AppName)
    (deployment : Deployment) : Except String Unit → View → Prop where
  | rejected (error : String) : Deploys before name deployment (.error error) before
  | unchanged {record : ApplicationRecord} (read : before.reads name = some record)
      (current : deployment = .deploy record.workingDirectory) :
      Deploys before name deployment (.ok ()) before
  | failed {record : ApplicationRecord} {release : Directory} {error : String}
      {after : View} (read : before.reads name = some record) (named : record.name = name)
      (activates : before.Activates record release (.error error) after) :
      Deploys before name deployment (.error error) after
  | released {record : ApplicationRecord} {release : Directory}
      {based : List DeploymentEntry} {entry : DeploymentEntry} {active : View}
      (read : before.reads name = some record) (named : record.name = name)
      (chosen : deployment.release before name = some release)
      (newest : entry.releaseDirectory = release)
      (activates : before.Activates record release (.ok ()) active) :
      Deploys before name deployment (.ok ()) (active.keep name (appendDeploymentEntry based entry))

theorem steady_deploys {first : ManagerM Value} {rest : Value → ManagerM Unit}
    (kept : ∀ {answer after}, world.SteadyRuns cores first answer after → after = world)
    (steady : world.SteadyRuns cores (first >>= rest) outcome target)
    (later : ∀ value, world.SteadyRuns cores first (.ok value) world →
      world.SteadyRuns cores (rest value) outcome target →
      world.view.Deploys name deployment outcome target.view) :
    world.view.Deploys name deployment outcome target.view := by
  rcases runs_andThen.mp steady with ⟨value, middle, answered, continued⟩ | ⟨error, rfl, failed⟩
  · cases kept answered
    exact later value answered continued
  · cases kept failed
    exact .rejected error

variable (coherent : world.Coherent)
include coherent

theorem steady_deploy (steady : world.SteadyRuns cores (deploy name path) outcome target) :
    world.view.Deploys name (.deploy path) outcome target.view := by
  refine steady_deploys (fun run => (steady_validateReleaseDirectory run).1)
    steady fun release validates reading => ?_
  cases (steady_validateReleaseDirectory validates).2 release rfl
  refine steady_deploys steady_readRecord reading fun record reads comparing => ?_
  obtain ⟨read, named, _⟩ := runs_readRecord_ok coherent (World.SteadyRuns.runs reads)
  split at comparing
  next current =>
    obtain ⟨rfl, rfl⟩ := runs_pure.mp comparing
    rw [beq_iff_eq] at current
    exact .unchanged read (congrArg Deployment.deploy current.symm)
  refine steady_deploys (fun run => (steady_readDeploymentHistory run).1)
    comparing fun history looks activating => ?_
  rcases steady_record coherent activating with
    ⟨error, rfl, activates⟩ | ⟨active, entry, rfl, newest, activates, written⟩
  · exact .failed read named activates
  rw [written]
  exact .released read named rfl newest activates

theorem steady_rollback (steady : world.SteadyRuns cores (rollback name steps) outcome target) :
    world.view.Deploys name (.rollback steps) outcome target.view := by
  refine steady_deploys steady_readRecord steady fun record reads looking => ?_
  obtain ⟨read, named, _⟩ := runs_readRecord_ok coherent (World.SteadyRuns.runs reads)
  refine steady_deploys (fun run => (steady_readDeploymentHistory run).1)
    looking fun history looks choosing => ?_
  cases (steady_readDeploymentHistory looks).2 history rfl
  split at choosing
  · obtain ⟨rfl, rfl⟩ := runs_throw.mp choosing
    exact .rejected _
  next chosen =>
  refine steady_deploys (fun run => (steady_validateReleaseDirectory run).1)
    choosing fun release validates activating => ?_
  cases (steady_validateReleaseDirectory validates).2 release rfl
  rcases steady_record coherent activating with
    ⟨error, rfl, activates⟩ | ⟨active, entry, rfl, newest, activates, written⟩
  · exact .failed read named activates
  rw [written]
  refine .released read named ?_ newest activates
  rw [Deployment.release, read, bind_some, chosen]

theorem steady_deployment (steady : world.SteadyRuns cores (deployment.program name) outcome
      target) : world.view.Deploys name deployment outcome target.view := by
  cases deployment with
  | deploy release => exact steady_deploy coherent steady
  | rollback steps => exact steady_rollback coherent steady

end Steady

variable {before after : View}

theorem View.SameStore.reads (stored : (before.store record).SameStore after)
    (current : record.schemaVersion ≠ 1) : after.reads record.name = some record := by
  have found : after.records record.name = some record := by
    rw [stored.1]
    exact update_self ..
  rw [View.reads, found, map_some, seen_of_schema current]

theorem View.Kept.refl (view : View) : view.Kept view name where
  record := rfl
  history := rfl
  master := fun _ running _ online => ⟨running, online, .inl rfl⟩

theorem View.Activates.kept (activates : before.Activates record release (.error error) after)
    (read : before.reads name = some record) (named : record.name = name)
    (single : ∀ failure recovery, error ≠ doubleFailure failure recovery) :
    before.Kept after name := by
  cases activates with
  | unstopped => exact .refl _
  | restored _ state stored online =>
    refine
      { record := ?_
        history := by rw [stored.2]; rfl
        master := ?_ }
    · rw [read, ← named]
      exact stored.reads (schema_of_reads read)
    · intro other running same _
      rw [read] at same
      cases same
      exact ⟨_, online, .inr rfl⟩
  | lost failure recovery _ => exact absurd rfl (single failure recovery)

theorem View.Activates.desiredState (activates : before.Activates record release outcome after)
    (read : before.reads name = some record) (named : record.name = name) :
    ∃ stored, after.reads name = some stored ∧ stored.desiredState = record.desiredState := by
  have current := schema_of_reads read
  cases activates with
  | activated stored _ =>
    refine ⟨releaseRecord record release, ?_, rfl⟩
    rw [← named]
    exact stored.reads current
  | unstopped => exact ⟨record, read, rfl⟩
  | restored _ _ stored _ | lost _ _ stored => exact ⟨record, named ▸ stored.reads current, rfl⟩

/-- The application is to be online, and the release is another one than the
current, unless the history names that already. -/
def View.Deployable (view : View) (name : AppName) (deployment : Deployment) : Prop :=
  ∀ record, view.reads name = some record → record.desiredState = .online ∧
      (deployment = .deploy record.workingDirectory → view.Releases name record.workingDirectory)

theorem View.Activates.reads (activates : before.Activates record release (.ok ()) active)
    (read : before.reads name = some record) (named : record.name = name) :
    active.reads name = some (releaseRecord record release) ∧
      active.online (releaseRecord record release).masterStateFile ≠ none := by
  have current := schema_of_reads read
  cases activates with
  | activated stored online =>
    refine ⟨?_, online⟩
    rw [← named]
    exact stored.reads current

theorem View.Deploys.allOrNothing (deploys : before.Deploys name deployment outcome after)
    (deployable : before.Deployable name deployment) :
    before.AllOrNothing after name (deployment.release before name) outcome := by
  have unstopped : ∀ {record stored : ApplicationRecord}, before.reads name = some record →
      stored.desiredState = record.desiredState → stored.desiredState ≠ .stopped := by
    intro record stored read same stopped
    rw [(deployable record read).1, stopped] at same
    cases same
  have still : before.Obedient name := fun record read stopped =>
    absurd stopped (unstopped read rfl)
  cases deploys with
  | rejected error => exact
      { failed := fun _ _ _ => .refl _
        done := nofun
        obedient := still }
  | @unchanged record read current =>
    subst current
    exact
      { failed := nofun
        done := fun _ => ⟨_, rfl, (deployable record read).2 rfl⟩
        obedient := still }
  | failed read named activates =>
    refine
      { failed := ?_
        done := nofun
        obedient := ?_ }
    · intro error same single
      cases same
      exact activates.kept read named single
    · intro stored found stopped
      obtain ⟨kept, again, same⟩ := activates.desiredState read named
      rw [again] at found
      cases found
      exact absurd stopped (unstopped read same)
  | @released record release based entry active read named chosen newest activates =>
      obtain ⟨again, _⟩ := activates.reads read named
      refine
        { failed := nofun
          done := ?_
          obedient := ?_ }
      · intro _
        refine ⟨release, chosen, ⟨releaseRecord record release, again, rfl⟩, ?_⟩
        refine ⟨entry, ?_, newest⟩
        change (update active.deployments name _ name).getLast? = _
        rw [update_self, appendDeploymentEntry_getLast]
      · intro stored found stopped
        have found : active.reads name = some stored := found
        rw [again] at found
        cases found
        exact absurd stopped (unstopped read rfl)

theorem View.Deploys.disobeys (deploys : before.Deploys name deployment (.ok ()) after)
    (read : before.reads name = some record) (stopped : record.desiredState = .stopped)
    (other : deployment ≠ .deploy record.workingDirectory) : ¬ after.Obedient name := by
  intro obedient
  cases deploys with
  | unchanged found current =>
    rw [read] at found
    cases found
    exact other current
  | @released _ release _ _ active found named _ _ activates =>
    rw [read] at found
    cases found
    obtain ⟨again, online⟩ := activates.reads read named
    exact online (obedient (releaseRecord record release) again stopped)

theorem deployment_all_or_nothing {cores : Nat} {world target : World}
    {name : AppName} {deployment : Deployment} {outcome : Except String Unit}
    (coherent : world.Coherent) (deployable : world.view.Deployable name deployment)
    (steady : world.SteadyRuns cores (deployment.program name) outcome target) :
    world.view.AllOrNothing target.view name (deployment.release world.view name) outcome :=
  (steady_deployment coherent steady).allOrNothing deployable

def World.steadies (cores : Nat) (world : World) : ManagerAction → Bool
  | .awaitReady file pid => Readiness.concerns pid (world.smooth cores (.awaitReady file pid)).1
  | _ => true

theorem World.steadyAnswers_smooth (world : World)
    (action : ManagerAction) (steadies : world.steadies cores action = true) :
    world.SteadyAnswers cores action (world.smooth cores action).1
      (world.smooth cores action).2 := by
  refine ⟨World.answers_smooth cores world action, ?_⟩
  cases action with
  | awaitReady file pid => exact steadies
  | writeRecord record | writeDeploymentHistory name history => rfl
  | _ => trivial

def shopWorld : World := (Program.evaluate (World.smooth 4) (up shopOptions).run .empty).2

theorem shopWorld_coherent : shopWorld.Coherent :=
  World.Coherent.initial.runs (World.runs_smooth 4 .empty (up shopOptions).run)

def closedShopWorld : World := (Program.evaluate (World.smooth 4) (stop "shop").run shopWorld).2

theorem closedShopWorld_coherent : closedShopWorld.Coherent :=
  shopWorld_coherent.runs (World.runs_smooth 4 shopWorld (stop "shop").run)

theorem World.steadyRuns_deploy {name : AppName} {release : Directory}
    (steadies : (deploy name release).run.admits (World.smooth 4) (World.steadies 4) world = true)
    (succeeds : (Program.evaluate (World.smooth 4) (deploy name release).run world).1 = .ok ()) :
    world.SteadyRuns 4 (Deployment.program name (.deploy release)) (.ok ())
      (Program.evaluate (World.smooth 4) (deploy name release).run world).2 := by
  have runs := runs_evaluate World.steadyAnswers_smooth steadies
  rw [succeeds] at runs
  exact runs

theorem shop_deployed : ∃ target, shopWorld.SteadyRuns 4
        (Deployment.program "shop" (.deploy "/srv/next")) (.ok ()) target ∧
      shopWorld.view.AllOrNothing target.view "shop" (some "/srv/next") (.ok ()) := by
  have steady := World.steadyRuns_deploy (by decide +kernel : (deploy "shop" "/srv/next").run.admits
      (World.smooth 4) (World.steadies 4) shopWorld = true) (by decide +kernel)
  refine ⟨_, steady, deployment_all_or_nothing shopWorld_coherent ?_ steady⟩
  intro record read
  cases read
  exact ⟨rfl, nofun⟩

/-- The deployment of a stopped application leaves a master running. -/
theorem closed_shop_opened : ¬ ∀ (world target : World) (name : AppName) (deployment : Deployment)
        (outcome : Except String Unit), world.Coherent →
      world.Runs 4 (deployment.program name) outcome target →
      world.view.AllOrNothing target.view name (deployment.release world.view name) outcome := by
  intro claimed
  have steady := World.steadyRuns_deploy (by decide +kernel : (deploy "shop" "/srv/next").run.admits
      (World.smooth 4) (World.steadies 4) closedShopWorld = true) (by decide +kernel)
  have stored : closedShopWorld.view.reads "shop" =
      some (stoppedRecord (upRecord shopOptions 0)) := by
    decide +kernel
  have obeys := (claimed _ _ "shop" (.deploy "/srv/next") _
    closedShopWorld_coherent steady.runs).obedient
  refine (steady_deployment closedShopWorld_coherent steady).disobeys stored rfl ?_ obeys
  decide

end Pam.Manager
