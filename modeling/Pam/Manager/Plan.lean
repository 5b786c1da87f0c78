import Pam.Manager.Outcomes
import Pam.Manager.Rules

namespace Pam.Manager

open Pam.Foundation Program Option

/-! `plan` and `apply` on a host with `pamd`. -/

structure Host where
  world : World
  serving : Bool

/-- `ensure_daemon`: a `pamd` that is started restores the saved applications
before it serves. -/
def Host.Started (cores : Nat) (host : Host) (world : World) : Prop :=
  if host.serving then world = host.world else host.world.Runs cores restoreSaved (.ok ()) world

/-- A command fails to be handed over, also by a `pamd` that was started for it,
or is run; a response that is lost is an error. -/
def Host.Executes (cores : Nat) (host : Host) (command : ManagerCommand)
    (outcome : Except String Unit) (target : Host) : Prop :=
  (∃ message, outcome = .error message ∧
      (target = host ∨ ∃ started, host.Started cores started ∧ target = ⟨started, true⟩)) ∨
    ∃ started ended result, host.Started cores started ∧
      started.Runs cores (runLocal command) result ended ∧ target = ⟨ended, true⟩ ∧
      (outcome = result ∨ ∃ message, outcome = .error message)

def Host.Answers (cores : Nat) (host : Host) (action : ManagerAction)
    (answer : action.Answer) (target : Host) : Prop :=
  match action, answer with
  | .execute command, outcome => host.Executes cores command outcome target
  | action, answer =>
    host.world.Answers cores action answer target.world ∧ target.serving = host.serving

abbrev Host.Runs {Result : Type} (cores : Nat) (host : Host)
    (program : ManagerM Result) (outcome : Except String Result) (target : Host) : Prop :=
  Program.Runs (Host.Answers cores) host program.run outcome target

/-- What `pamd` does of its own accord between two requests. -/
inductive World.Attends (cores : Nat) (world target : World) : Prop where
  | supervises (runs : world.Runs cores superviseOnce outcome target)
  | judges (runs : world.Runs cores (applyHealthProbeResults results) outcome target)

def World.Attended (cores : Nat) (allowed : World → World → Prop) : World → World → Prop :=
  Relation.ReflTransGen fun before after => before.Attends cores after ∧ allowed before after

/-- An access beside a `pamd` that also attends to its applications, before any
access of the client and before it accepts a command. -/
def Host.AttendedAnswers (cores : Nat) (allowed : World → World → Prop) (host : Host)
    (action : ManagerAction) (answer : action.Answer) (target : Host) : Prop :=
  match action, answer with
  | .execute command, outcome =>
    (∃ message, outcome = .error message ∧ target = host) ∨
      ∃ started attended, host.Started cores started ∧
        World.Attended cores allowed started attended ∧
        Host.Executes cores ⟨attended, true⟩ command outcome target
  | action, answer =>
    ∃ attended, (if host.serving then World.Attended cores allowed host.world attended
        else attended = host.world) ∧
      attended.Answers cores action answer target.world ∧ target.serving = host.serving

abbrev Host.AttendedRuns {Result : Type} (cores : Nat) (allowed : World → World → Prop)
    (host : Host) (program : ManagerM Result) (outcome : Except String Result)
    (target : Host) : Prop :=
  Program.Runs (Host.AttendedAnswers cores allowed) host program.run outcome target

/-! Where `pamd` finds nothing to do, only time passes. -/

theorem World.Later.refl (world : World) : world.Later world := ⟨0, rfl⟩

theorem World.Later.trans {first second third : World} (before : first.Later second)
    (after : second.Later third) : first.Later third := by
  obtain ⟨some, rfl⟩ := before
  obtain ⟨more, rfl⟩ := after
  exact ⟨some + more, by simp [World.later, Nat.add_assoc]⟩

theorem World.exits_later (world : World) : (world.later millis).exits pid graceful =
      (world.exits pid graceful).map (·.later millis) := by
  have masters : (world.later millis).masters = world.masters := rfl
  rw [World.exits, World.exits, masters]
  cases world.masters.lookup pid <;> rfl

theorem World.perform_later (world : World) (other : action ≠ .epochMillis) :
    (world.later millis).perform fault action =
      ((world.perform fault action).1, (world.perform fault action).2.later millis) := by
  cases action with
  | epochMillis => exact absurd rfl other
  | listRecords =>
    cases fault with
    | some message => rfl
    | none =>
      have records : (world.later millis).records = world.records := rfl
      simp only [World.perform, World.attempt, records]
      split <;> rfl
  | signalMaster state signal =>
    cases fault with
    | some message => rfl
    | none =>
      have same : (world.later millis).running state = world.running state := rfl
      simp only [World.perform, World.attempt, World.signal, same]
      cases world.running state <;> cases signal <;> rfl
  | _ => cases fault <;> rfl

theorem World.answers_later {world : World} (earlier : world.Later first)
    (answered : first.Answers cores action answer target) :
    ∃ after, world.Answers cores action answer after ∧ after.Later target := by
  obtain ⟨millis, rfl⟩ := earlier
  obtain ⟨moved, fault, meanwhile, sees, performed⟩ := answered
  have unmoved : action ≠ .epochMillis → ∀ {still : World}, moved = still.later millis →
      world.Meanwhile cores action still →
      ∃ after, world.Answers cores action answer after ∧ after.Later target := by
    intro other still same before
    subst same
    rw [World.perform_later still other] at performed
    cases performed
    exact ⟨_, ⟨still, fault, before, sees, rfl⟩, millis, rfl⟩
  have passed : world.Meanwhile cores action moved →
      ∃ after, world.Answers cores action answer after ∧ after.Later target :=
    fun before => ⟨target, ⟨moved, fault, before, sees, performed⟩, .refl target⟩
  cases action with
  | awaitExit state =>
    rcases meanwhile with rfl | ⟨graceful, exits⟩
    · exact unmoved nofun rfl (.inl rfl)
    · rw [World.exits_later] at exits
      obtain ⟨still, left, rfl⟩ := map_eq_some_iff.mp exits
      exact unmoved nofun rfl (.inr ⟨graceful, left⟩)
  | awaitReady file pid =>
    obtain ⟨more, starts⟩ := meanwhile
    refine passed ⟨millis + more, ?_⟩
    simpa [World.later, Nat.add_assoc] using starts
  | epochMillis => exact passed (World.Later.trans ⟨millis, rfl⟩ meanwhile)
  | _ =>
    cases meanwhile
    exact unmoved nofun rfl rfl

theorem World.runs_later {world : World} {program : ManagerM Result} (earlier : world.Later first)
    (runs : first.Runs cores program outcome target) :
    ∃ after, world.Runs cores program outcome after ∧ after.Later target :=
  runs.simulated (fun first second => World.Later second first) earlier
    fun _ _ _ _ _ => World.answers_later

theorem World.Attended.later (attended : World.Attended cores World.Later world target) :
    world.Later target := by
  induction attended with
  | refl => exact .refl _
  | tail _ step induction => exact induction.trans step.2

theorem Host.Runs.attended {host target : Host} {program : ManagerM Result}
    (runs : host.Runs cores program outcome target) :
    host.AttendedRuns cores allowed program outcome target := by
  refine runs.mono ?_
  intro before after action answer answered
  cases action with
  | execute command =>
    rcases answered with ⟨message, rfl, rfl | ⟨started, starts, rfl⟩⟩ |
      ⟨started, ended, result, starts, ran, rfl, same⟩
    · exact .inl ⟨message, rfl, rfl⟩
    · exact .inr ⟨started, started, starts, .refl, .inl ⟨message, rfl, .inl rfl⟩⟩
    · exact .inr ⟨started, started, starts, .refl,
        .inr ⟨started, ended, result, rfl, ran, rfl, same⟩⟩
  | _ =>
    refine ⟨before.world, ?_, answered⟩
    split
    · exact .refl
    · rfl

theorem Host.started_later {host : Host} (earlier : host.world.Later first)
    (starts : Host.Started cores ⟨first, host.serving⟩ started) :
    ∃ world, host.Started cores world ∧ world.Later started := by
  obtain ⟨world, serving⟩ := host
  cases serving with
  | true => exact ⟨world, rfl, Eq.symm starts ▸ earlier⟩
  | false => exact World.runs_later earlier starts

theorem Host.executes_alone {host target : Host} (earlier : host.world.Later first)
    (answered : Host.AttendedAnswers cores World.Later ⟨first, host.serving⟩
      (.execute command) outcome target) :
    ∃ after, host.Executes cores command outcome after ∧
      after.world.Later target.world ∧ after.serving = target.serving := by
  rcases answered with ⟨message, rfl, rfl⟩ | ⟨started, attended, starts, passes, executes⟩
  · exact ⟨host, .inl ⟨message, rfl, .inl rfl⟩, earlier, rfl⟩
  obtain ⟨world, begun, later⟩ := Host.started_later earlier starts
  have still : world.Later attended := later.trans passes.later
  rcases executes with ⟨message, rfl, unchanged⟩ | ⟨_, ended, result, rfl, runs, rfl, same⟩
  · have same : target = ⟨attended, true⟩ := by
      rcases unchanged with same | ⟨_, rfl, same⟩ <;> exact same
    subst same
    exact ⟨⟨world, true⟩, .inl ⟨message, rfl, .inr ⟨world, begun, rfl⟩⟩, still, rfl⟩
  · obtain ⟨after, alone, ends⟩ := World.runs_later still runs
    exact ⟨⟨after, true⟩, .inr ⟨world, after, result, begun, alone, rfl, same⟩, ends, rfl⟩

theorem Host.answers_alone {first host target : Host} (earlier : host.world.Later first.world)
    (serving : host.serving = first.serving)
    (answered : first.AttendedAnswers cores World.Later action answer target) :
    ∃ after, host.Answers cores action answer after ∧
      after.world.Later target.world ∧ after.serving = target.serving := by
  obtain ⟨world, _⟩ := first
  subst serving
  cases action with
  | execute command => exact Host.executes_alone earlier answered
  | _ =>
    obtain ⟨attended, passes, answered, same⟩ := answered
    have still : host.world.Later attended := by
      split at passes
      · exact earlier.trans passes.later
      · exact passes ▸ earlier
    obtain ⟨after, alone, ends⟩ := World.answers_later still answered
    exact ⟨⟨after, host.serving⟩, ⟨alone, rfl⟩, ends, same.symm⟩

/-- A run beside a `pamd` that finds nothing to do is one of the command alone. -/
theorem Host.AttendedRuns.alone {host target : Host}
    (runs : host.AttendedRuns cores World.Later program outcome target) :
    ∃ after : Host, host.Runs cores program outcome after ∧ after.world.Later target.world := by
  obtain ⟨after, alone, later, _⟩ : ∃ after : Host, host.Runs cores program outcome after ∧
      after.world.Later target.world ∧ after.serving = target.serving :=
    runs.simulated (fun first second : Host => second.world.Later first.world ∧
      second.serving = first.serving) ⟨.refl _, rfl⟩
      fun _ _ _ _ _ related => Host.answers_alone related.1 related.2
  exact ⟨after, alone, later⟩

def World.settle (cores : Nat) (world : World) : ManagerAction → World
  | .awaitExit state => (world.exits state.pid true).getD world
  | .awaitReady _ pid => ((world.masters.lookup pid).bind fun master =>
      (commandWorkers cores master.launch.command).bind fun workers =>
        world.becomesReady pid workers).getD world
  | _ => world

def World.smooth (cores : Nat) (world : World) (action : ManagerAction) : action.Answer × World :=
  (world.settle cores action).perform none action

theorem World.answers_smooth (cores : Nat) (world : World) (action : ManagerAction) :
    world.Answers cores action (world.smooth cores action).1 (world.smooth cores action).2 := by
  refine ⟨world.settle cores action, none, ?_, fun _ => rfl, rfl⟩
  cases action with
  | awaitExit state =>
    change _ ∨ ∃ graceful, _ = some ((world.exits state.pid true).getD world)
    cases exits : world.exits state.pid true with
    | none => exact .inl (by simp [World.settle, exits])
    | some target => exact .inr ⟨true, exits⟩
  | awaitReady file pid =>
    refine ⟨0, ?_⟩
    change World.Starts cores pid world (((world.masters.lookup pid).bind fun master =>
        (commandWorkers cores master.launch.command).bind fun workers =>
          world.becomesReady pid workers).getD world)
    cases found : world.masters.lookup pid with
    | none => exact .refl
    | some master =>
      cases counted : commandWorkers cores master.launch.command with
      | none =>
        simp only [bind_some, counted]
        exact .refl
      | some workers =>
        cases ready : world.becomesReady pid workers with
        | none =>
          simp only [bind_some, counted, ready]
          exact .refl
        | some target =>
          simp only [bind_some, counted, ready]
          exact .ready found counted ready .refl
  | epochMillis => exact ⟨0, rfl⟩
  | _ => rfl

theorem World.runs_smooth (cores : Nat) (world : World) (program : ManagerProgram Result) :
    Program.Runs (World.Answers cores) world program
      (Program.evaluate (World.smooth cores) program world).1
      (Program.evaluate (World.smooth cores) program world).2 :=
  runs_evaluate (fun world action _ => World.answers_smooth cores world action)
    (Program.admits_all program world)

def Host.smooth (cores : Nat) (host : Host) (action : ManagerAction) : action.Answer × Host :=
  match action with
  | .execute command =>
    let started := if host.serving then host.world
      else (Program.evaluate (World.smooth cores) restoreSaved.run host.world).2
    let ran := Program.evaluate (World.smooth cores) (runLocal command).run started
    (ran.1, ⟨ran.2, true⟩)
  | action =>
    let answered := host.world.smooth cores action
    (answered.1, ⟨answered.2, host.serving⟩)

theorem restoreSaved_succeeds {world target : World}
    (runs : world.Runs cores restoreSaved outcome target) : outcome = .ok () := by
  obtain ⟨saved, middle, looks, rest⟩ := runs_lift_andThen.mp runs
  cases saved with
  | false => exact (runs_pure.mp rest).1
  | true =>
    obtain ⟨restored, after, restores, last⟩ := runs_lift_andThen.mp rest
    cases restored with
    | ok _ | error error => exact (runs_pure.mp last).1

theorem Host.answers_smooth (cores : Nat) (host : Host) (action : ManagerAction) :
    host.Answers cores action (host.smooth cores action).1 (host.smooth cores action).2 := by
  cases action with
  | execute command =>
    refine .inr ⟨_, _, _, ?_, World.runs_smooth cores _ _, rfl, .inl rfl⟩
    unfold Host.Started
    split
    · rfl
    have runs := World.runs_smooth cores host.world restoreSaved.run
    rw [restoreSaved_succeeds runs] at runs
    exact runs
  | _ => exact ⟨World.answers_smooth cores host.world _, rfl⟩

def Host.evaluate {Result : Type} (cores : Nat) (host : Host)
    (program : ManagerM Result) : Except String Result × Host :=
  Program.evaluate (Host.smooth cores) program.run host

theorem Host.runs_evaluate {host : Host} (evaluated : (host.evaluate cores program).1 = outcome) :
    host.Runs cores program outcome (host.evaluate cores program).2 := by
  have runs := Program.runs_evaluate (fun host action _ => Host.answers_smooth cores host action)
    (Program.admits_all program.run host)
  rw [← evaluated]
  exact runs

theorem Host.answers_unassisted {host target : Host} (unassisted : action.executed = none) :
    host.Answers cores action answer target ↔ host.world.Answers cores action answer target.world ∧
        target.serving = host.serving := by
  cases action <;> first | exact Iff.rfl | cases unassisted

def unassisted : Monitor ManagerAction ManagerAction.Answer Unit :=
  .only fun action => action.executed = none

theorem Host.runs_unassisted
    {program : ManagerProgram Result} {host target : Host} {result : Result}
    (obeys : unassisted.Obeys () program) :
    Program.Runs (Host.Answers cores) host program result target ↔
      Program.Runs (World.Answers cores) host.world program result target.world ∧
        target.serving = host.serving := by
  induction program generalizing host with
  | done value =>
    rw [runs_done, runs_done]
    obtain ⟨world, serving⟩ := host
    obtain ⟨after, still⟩ := target
    simp only [Host.mk.injEq]
    tauto
  | perform action next induction =>
    rw [runs_perform, runs_perform]
    have later : ∀ answer, unassisted.Obeys () (next answer) := fun answer => obeys.step rfl
    constructor
    · intro runs
      obtain ⟨answer, middle, answered, rest⟩ := runs
      obtain ⟨answered, serving⟩ := (Host.answers_unassisted obeys.permits).mp answered
      obtain ⟨rest, still⟩ := (induction answer (later answer)).mp rest
      exact ⟨⟨answer, middle.world, answered, rest⟩, still.trans serving⟩
    · intro runs
      obtain ⟨⟨answer, world, answered, rest⟩, serving⟩ := runs
      refine ⟨answer, ⟨world, host.serving⟩, ?_, ?_⟩
      · exact (Host.answers_unassisted obeys.permits).mpr ⟨answered, rfl⟩
      · exact (induction answer (later answer)).mpr ⟨rest, serving⟩

theorem quiet_unassisted : Quiet unassisted where
  access := by
    intro Result action finish quiet
    apply ensures_access
    intro known
    cases action <;> first | rfl | cases quiet

open Monitor

theorem unassisted_readRecord : unassisted.Passes (readRecord name) := by
  apply Ensures.bind (ensures_access fun _ => rfl : unassisted.Passes (readRecordFile name))
  intro record _
  split
  · apply Ensures.bind (quiet_unassisted.runningMaster record.masterStateFile)
    intro master _
    exact ensures_pure trivial
  · exact ensures_pure trivial

theorem unassisted_restartRecord : unassisted.Passes (restartRecord record) :=
  quiet_unassisted.restartRecord (ensures_access fun _ => rfl) (ensures_access fun _ => rfl)

variable {target : Host}

theorem Host.runs_look {program : ManagerM Result} (obeys : unassisted.Obeys () program.run)
    (looks : ∀ {after : World}, host.world.Runs cores program (.ok value) after ↔
      seen ∧ after = host.world) :
    host.Runs cores program (.ok value) target ↔ seen ∧ target = host := by
  refine (Host.runs_unassisted obeys).trans ?_
  refine (and_congr_left' looks).trans ?_
  obtain ⟨world, serving⟩ := host
  obtain ⟨after, still⟩ := target
  simp only [Host.mk.injEq, and_assoc]

theorem Host.runs_recordExists {name : AppName} {present : Bool} :
    host.Runs cores (recordExists name) (.ok present) target ↔
      present = (host.world.view.records name).isSome ∧ target = host :=
  Host.runs_look ⟨rfl, fun _ _ _ => trivial⟩ Manager.runs_recordExists

theorem Host.runs_readRecord : host.Runs cores (readRecord name) (.ok record) target ↔
      host.world.view.reads name = some record ∧ target = host := by
  rw [Host.runs_look (unassisted_readRecord.obeys ()) Manager.runs_readRecord,
    View.reads, map_eq_some_iff]
  simp only [eq_comm]

theorem Host.runs_runningMaster : host.Runs cores (runningMaster file) (.ok found) target ↔
      found = (host.world.view.online file).map RunningMaster.state ∧ target = host :=
  Host.runs_look ((quiet_unassisted.runningMaster file).obeys ()) Manager.runs_runningMaster

def recordAction (running : Option MasterState) (record : ApplicationRecord)
    (application : EcosystemApplication) : ReconcileAction :=
  match running with
  | none => .restarted
  | some state =>
    if launchUpdated record application then
      if limitUpdated record application then .resourceLimitsUpdated else .restarted
    else if state.workers != application.workers then .scaled
    else if policyUpdated record application then .policyUpdated
    else .unchanged

def View.action (view : View) (name : AppName)
    (application : EcosystemApplication) : ReconcileAction :=
  if !application.autostart then .disabled
  else
    match view.reads name with
    | none => .created
    | some record =>
      if record.declarativeIdentitySha256 != some application.identitySha256 then .replaced
      else
        recordAction ((view.online record.masterStateFile).map
          RunningMaster.state) record application

theorem reconcileRecord_plan : reconcileRecord .plan name application record = (do
        let found ← runningMaster record.masterStateFile
        return recordAction found record application) := by
  have master : ∀ edited : ApplicationRecord, edited.masterStateFile = record.masterStateFile →
      reconcileMaster .plan name application
          (launchUpdated record application) (limitUpdated record application)
          (policyUpdated record application) edited = (do
          let found ← runningMaster record.masterStateFile
          return recordAction found record application) := by
    intro edited file
    unfold reconcileMaster
    rw [file]
    congr 1
    funext found
    cases found with
    | none => rfl
    | some state =>
      simp only [recordAction]
      split
      · rfl
      · split <;> rfl
  unfold reconcileRecord
  simp only [ReconcileMode.effect]
  split
  · exact master _ rfl
  · exact master record rfl

theorem runs_planRecord : host.Runs cores (reconcileRecord .plan name application record)
        (.ok action) target ↔ action = recordAction ((host.world.view.online
          record.masterStateFile).map RunningMaster.state) record application ∧ target = host := by
  rw [reconcileRecord_plan, Host.Runs, runs_look_andThen Host.runs_runningMaster]
  exact runs_pure_ok

theorem runs_planApplication :
    host.Runs cores (reconcileApplication .plan name application) (.ok action) target ↔
      action = host.world.view.action name application ∧ target = host := by
  unfold Host.Runs reconcileApplication View.action
  cases application.autostart with
  | false => exact runs_pure_ok
  | true =>
    simp only [Bool.not_true, Bool.false_eq_true, if_false]
    rw [runs_look_andThen Host.runs_recordExists, View.reads]
    cases stored : host.world.view.records name with
    | none => exact runs_pure_ok
    | some kept =>
      have read : host.world.view.reads name = some (host.world.view.seen kept) := by
        rw [View.reads, stored]
        rfl
      refine (runs_find_andThen Host.runs_readRecord).trans ?_
      simp only [read, some.injEq, exists_eq_left', map_some]
      split
      · exact runs_pure_ok
      · exact runs_planRecord

def View.results (view : View) (applications : List (AppName × EcosystemApplication)) :
    List ReconcileResult :=
  applications.map fun entry => ⟨entry.1, view.action entry.1 entry.2, entry.2.identitySha256⟩

theorem runs_plan : host.Runs cores (reconcileEcosystem .plan applications) (.ok results) target ↔
      results = host.world.view.results applications ∧ target = host := by
  change host.Runs cores (reconcileEach .plan applications) (.ok results) target ↔ _
  induction applications generalizing results target with
  | nil => exact runs_pure_ok
  | cons entry applications induction =>
    rw [Host.Runs, reconcileEach, runs_look_andThen runs_planApplication,
      runs_look_andThen induction]
    exact runs_pure_ok

def ManagerAction.looks : ManagerAction → Bool
  | .recordExists _ => true
  | .readRecord _ => true
  | .readMasterState _ => true
  | .masterIsRunning _ => true
  | _ => false

def looking : Monitor ManagerAction ManagerAction.Answer Unit :=
  .only fun action => action.looks = true

theorem answers_looking {world target : World} (looks : action.looks = true)
    (answered : world.Answers cores action answer target) : target = world := by
  obtain ⟨moved, fault, meanwhile, _, performed⟩ := answered
  cases action with
  | readRecord name =>
    cases meanwhile
    cases fault <;> cases performed <;> rfl
  | recordExists | readMasterState | masterIsRunning =>
    cases meanwhile
    cases performed
    rfl
  | _ => cases looks

theorem looking_runningMaster : looking.Passes (runningMaster file) := by
  apply Ensures.bind (ensures_access fun _ => rfl : looking.Passes (readMasterState file))
  intro found _
  cases found with
  | none => exact ensures_pure trivial
  | some state =>
    apply Ensures.bind (ensures_access fun _ => rfl : looking.Passes (masterIsRunning state))
    intro running _
    cases running <;> exact ensures_pure trivial

theorem looking_readRecord : looking.Passes (readRecord name) := by
  apply Ensures.bind (ensures_access fun _ => rfl : looking.Passes (readRecordFile name))
  intro record _
  split
  · apply Ensures.bind looking_runningMaster
    intro master _
    exact ensures_pure trivial
  · exact ensures_pure trivial

theorem looking_planApplication :
    looking.Passes (reconcileApplication .plan name application) := by
  unfold reconcileApplication
  split
  · exact ensures_pure trivial
  apply Ensures.bind (ensures_access fun _ => rfl : looking.Passes (recordExists name))
  intro present _
  cases present with
  | false => exact ensures_pure trivial
  | true =>
    apply Ensures.bind looking_readRecord
    intro record _
    split
    · exact ensures_pure trivial
    rw [reconcileRecord_plan]
    apply Ensures.bind looking_runningMaster
    intro found _
    exact ensures_pure trivial

theorem looking_plan : looking.Passes (reconcileEcosystem .plan applications) := by
  have each : looking.Passes (reconcileEach .plan applications) := by
    induction applications with
    | nil => exact ensures_pure trivial
    | cons entry applications induction =>
      apply Ensures.bind looking_planApplication
      intro action _
      apply Ensures.bind induction
      intro results _
      exact ensures_pure trivial
  exact each

end Pam.Manager
