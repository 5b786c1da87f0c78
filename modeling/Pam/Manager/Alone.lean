import Pam.Foundation.Execution
import Pam.Manager.Coherence
import Pam.Manager.LaunchCommand

namespace Pam.Manager

open Pam.Foundation Option Function AList

/-! Commands that run alone: only the command and the masters that it signals
and launches change the world. -/

/-- While the manager waits for the master it launched, starting masters become
ready, with the workers of their command, and the launched one may exit. -/
inductive World.Starts (cores : Nat) (pid : Pid) : World → World → Prop where
  | refl {world : World} : Starts cores pid world world
  | ready {world middle target : World} {other : Pid} {master : Master} {workers : Nat}
      (found : world.masters.lookup other = some master)
      (counted : commandWorkers cores master.launch.command = some workers)
      (ready : world.becomesReady other workers = some middle)
      (later : Starts cores pid middle target) : Starts cores pid world target
  | exits {world middle target : World} {graceful : Bool}
      (exits : world.exits pid graceful = some middle) (later : Starts cores pid middle target) :
      Starts cores pid world target

def World.later (world : World) (millis : Nat) : World :=
  { world with clock := world.clock + millis }

def World.Later (world target : World) : Prop := ∃ millis, target = world.later millis

def World.Meanwhile (cores : Nat) (world : World) : ManagerAction → World → Prop
  | .awaitExit state, moved =>
    moved = world ∨ ∃ graceful, world.exits state.pid graceful = some moved
  | .awaitReady _ pid, moved => ∃ millis, (world.later millis).Starts cores pid moved
  | .epochMillis, moved => world.Later moved
  | _, moved => moved = world

/-- A state file that is there is read; other accesses may fail. -/
def ManagerAction.sees : ManagerAction → Bool
  | .readMasterState _ => true
  | .findMaster _ _ => true
  | _ => false

def World.Answers (cores : Nat) (world : World) (action : ManagerAction)
    (answer : action.Answer) (target : World) : Prop :=
  ∃ moved fault, world.Meanwhile cores action moved ∧ (action.sees = true → fault = none) ∧
    moved.perform fault action = (answer, target)

abbrev World.Runs {Result : Type} (cores : Nat) (world : World)
    (program : ManagerM Result) (outcome : Except String Result) (target : World) : Prop :=
  Program.Runs (World.Answers cores) world program.run outcome target

/-! What the manager decides by: records, running masters by their state files,
and deployment histories. -/

structure RunningMaster where
  state : MasterState
  launch : Launch

structure View where
  records : AppName → Option ApplicationRecord
  online : StateFile → Option RunningMaster
  deployments : AppName → List DeploymentEntry
  savedList : Option (List SavedApplication)

def World.online (world : World) (file : StateFile) : Option RunningMaster :=
  (world.stateFiles.lookup file).bind fun state =>
    (world.masters.lookup state.pid).map fun master => { state := state, launch := master.launch }

def World.view (world : World) : View where
  records := world.records.lookup
  online := world.online
  deployments name := (world.deployments.lookup name).getD []
  savedList := world.savedList

namespace View

def store (view : View) (record : ApplicationRecord) : View := { view with
    records := Function.update view.records record.name (some record) }

def remove (view : View) (name : AppName) : View :=
  { view with records := Function.update view.records name none }

def shut (view : View) (file : StateFile) : View :=
  { view with online := Function.update view.online file none }

def bring (view : View) (file : StateFile) (master : RunningMaster) : View :=
  { view with online := Function.update view.online file (some master) }

def keep (view : View) (name : AppName) (history : List DeploymentEntry) : View := { view with
    deployments := Function.update view.deployments name history }

def seen (view : View) (record : ApplicationRecord) : ApplicationRecord :=
  if record.schemaVersion == 1 then migrateRecord record (view.online record.masterStateFile).isSome
  else record

variable (view : View)

theorem shut_of_offline (offline : view.online file = none) : view.shut file = view := by
  unfold shut
  rw [← offline, update_eq_self]

theorem shut_bring : (view.shut file).bring file master = view.bring file master := by
  simp [shut, bring]

theorem store_store (same : first.name = second.name) :
    (view.store first).store second = view.store second := by
  simp [store, same]

@[simp] theorem seen_name : (view.seen record).name = record.name := by
  unfold seen
  split <;> rfl

@[simp] theorem seen_masterStateFile :
    (view.seen record).masterStateFile = record.masterStateFile := by
  unfold seen
  split <;> rfl

end View

structure World.Sound (world : World) : Prop extends World.Coherent world where
  started : ∀ {pid master}, world.masters.lookup pid = some master → master.ready = true

namespace World

variable {world target : World}

theorem offline_of_gone (published : world.stateFiles.lookup file = some state)
    (gone : world.masters.lookup state.pid = none) : world.online file = none := by
  rw [online, published, bind_some, gone]
  rfl

theorem view_of_same (records : target.records = world.records)
    (deployments : target.deployments = world.deployments)
    (savedList : target.savedList = world.savedList)
    (stateFiles : target.stateFiles = world.stateFiles) (masters : target.masters = world.masters) :
    target.view = world.view := by
  have online : target.online = world.online := by
    funext file
    rw [World.online, World.online, stateFiles, masters]
  simp [view, records, deployments, savedList, online]

theorem Sound.of_same (sound : world.Sound) (coherent : target.Coherent)
    (masters : target.masters = world.masters) : target.Sound where
  toCoherent := coherent
  started := by
    rw [masters]
    exact sound.started

theorem Coherent.later (coherent : world.Coherent) (millis : Nat) :
    (world.later millis).Coherent := coherent.of_same coherent.named rfl rfl rfl

theorem Sound.later (sound : world.Sound) (millis : Nat) : (world.later millis).Sound :=
  sound.of_same (sound.toCoherent.later millis) rfl

theorem Starts.coherent (coherent : world.Coherent)
    (starts : World.Starts cores pid world target) : target.Coherent := by
  induction starts with
  | refl => exact coherent
  | ready _ _ ready _ induction => exact induction (coherent.becomesReady ready)
  | exits exits _ induction => exact induction (coherent.exits exits)

theorem Coherent.meanwhile (coherent : world.Coherent)
    (meanwhile : world.Meanwhile cores action target) : target.Coherent := by
  cases action with
  | awaitExit state =>
    rcases meanwhile with rfl | ⟨graceful, exits⟩
    · exact coherent
    · exact coherent.exits exits
  | awaitReady file pid =>
    obtain ⟨millis, starts⟩ := meanwhile
    exact Starts.coherent (coherent.later millis) starts
  | epochMillis =>
    obtain ⟨millis, rfl⟩ := meanwhile
    exact coherent.later millis
  | _ =>
    cases meanwhile
    exact coherent

theorem Coherent.runs (coherent : world.Coherent)
    (runs : Program.Runs (World.Answers cores) world program result target) : target.Coherent := by
  refine runs.invariant ?_ coherent
  intro before after action answer holds answered
  obtain ⟨moved, fault, meanwhile, _, performed⟩ := answered
  have kept := (holds.meanwhile meanwhile).perform fault action
  rw [performed] at kept
  exact kept

theorem view_write (world : World) (record : ApplicationRecord) :
    { world with records := world.records.insert record.name record }.view =
      world.view.store record := by
  have records : (world.records.insert record.name record).lookup =
      update world.records.lookup record.name (some record) := by
    funext name
    by_cases same : name = record.name
    · rw [same, lookup_insert, update_self]
    · rw [lookup_insert_ne same, update_of_ne same]
  simp only [view, records]
  rfl

theorem Sound.write (sound : world.Sound) (record : ApplicationRecord) : { world with
      records := world.records.insert record.name record }.Sound :=
  sound.of_same (sound.toCoherent.write record) rfl

theorem view_remove :
    { world with records := world.records.erase name }.view = world.view.remove name := by
  have records : (world.records.erase name).lookup = update world.records.lookup name none := by
    funext other
    by_cases same : other = name
    · rw [same, lookup_erase, update_self]
    · rw [lookup_erase_ne same, update_of_ne same]
  simp only [view, records]
  rfl

theorem Sound.remove (sound : world.Sound) (name : AppName) :
    { world with records := world.records.erase name }.Sound :=
  sound.of_same (sound.toCoherent.remove name) rfl

theorem view_keep : { world with deployments := world.deployments.insert name history }.view =
      world.view.keep name history := by
  have deployments : (fun other => ((world.deployments.insert name history).lookup other).getD []) =
      update (fun other => (world.deployments.lookup other).getD []) name history := by
    funext other
    by_cases same : other = name
    · rw [same, lookup_insert, update_self]
      rfl
    · rw [lookup_insert_ne same, update_of_ne same]
  simp only [view, deployments]
  rfl

theorem Coherent.view_exits (coherent : world.Coherent) {file : StateFile}
    {state : MasterState} {graceful : Bool} (published : world.stateFiles.lookup file = some state)
    (exits : world.exits state.pid graceful = some target) :
    target.view = world.view.shut file := by
  obtain ⟨master, found, rfl⟩ := exits_eq exits
  have own : master.stateFile = file := coherent.owned published found
  have online : World.online { world with
      masters := world.masters.erase state.pid
      stateFiles := if graceful && master.ready then world.stateFiles.erase master.stateFile
        else world.stateFiles } = update world.online file none := by
    funext other
    simp only [World.online]
    by_cases same : other = file
    · rw [same, update_self]
      split
      · rw [own, lookup_erase]
        rfl
      · rw [published, bind_some, lookup_erase]
        rfl
    · rw [update_of_ne same]
      have kept : (if graceful && master.ready then world.stateFiles.erase master.stateFile
        else world.stateFiles).lookup other = world.stateFiles.lookup other := by
        split
        · rw [own, lookup_erase_ne same]
        · rfl
      rw [kept, World.online]
      cases lookup : world.stateFiles.lookup other with
      | none => rfl
      | some kept =>
        simp only [bind_some]
        have apart : kept.pid ≠ state.pid := by
          -- Two files with one master would be one file.
          intro shared
          rw [← shared] at found
          exact same ((coherent.owned lookup found).symm.trans own)
        rw [lookup_erase_ne apart]
  simp only [view, View.shut, online]

theorem Sound.exits (sound : world.Sound)
    (exits : world.exits pid graceful = some target) : target.Sound := by
  obtain ⟨master, found, rfl⟩ := exits_eq exits
  exact
    { toCoherent := sound.toCoherent.exits exits
      started := fun lookup => sound.started (Table.lookup_of_lookup_erase lookup).1 }

theorem view_kill (world : World) : (world.kill pid).view = world.view := by
  have online : (world.kill pid).online = world.online := by
    funext file
    simp only [World.online, World.kill, Table.lookup_modify]
    cases world.stateFiles.lookup file with
    | none => rfl
    | some state =>
      simp only [bind_some]
      split
      · rw [map_map]
        rfl
      · rfl
  simp only [view, online]
  rfl

theorem Sound.kill (sound : world.Sound) (pid : Pid) : (world.kill pid).Sound where
  toCoherent := sound.toCoherent.kill pid
  started := by
    intro other master lookup
    obtain ⟨old, found, _, same⟩ := lookup_kill lookup
    rw [same]
    exact sound.started found

theorem readiness_eq : world.readiness file pid = match world.online file with
      | some master => .ready master.state
      | none =>
        if (world.masters.lookup pid).isSome then .timedOut else .exited := by
  unfold World.readiness World.online
  cases world.stateFiles.lookup file with
  | none => rfl
  | some state =>
    cases lives : world.masters.lookup state.pid <;> simp [Option.filter, World.running, lives]

theorem online_insert_fresh (sound : world.Sound) :
    ((world.stateFiles.lookup file).bind fun state =>
      ((world.masters.insert world.nextPid master).lookup state.pid).map
        fun master => RunningMaster.mk state master.launch) = world.online file := by
  rw [World.online]
  cases published : world.stateFiles.lookup file with
  | none => rfl
  | some state =>
    have older : state.pid ≠ world.nextPid := Nat.ne_of_lt (sound.below published)
    simp [lookup_insert_ne older]

def readied (world : World) (name : AppName) (file : StateFile)
    (launch : Launch) (workers : Nat) : World := { world.launch name file launch with
    masters := (world.launch name file launch).masters.insert world.nextPid
      { name := name, stateFile := file, launch := launch, ready := true
        killed := false }
    stateFiles := world.stateFiles.insert file
      { pid := world.nextPid, workers := workers
        startedAtMillis := world.clock } }

variable {launch : Launch}

theorem view_launch (sound : world.Sound) : (world.launch name file launch).view = world.view := by
  have online : (world.launch name file launch).online = world.online := by
    funext other
    exact online_insert_fresh sound
  simp only [view, online]
  rfl

theorem view_readied (sound : world.Sound) :
    (world.readied name file launch workers).view = world.view.bring file
        { state := { pid := world.nextPid, workers := workers
                     startedAtMillis := world.clock }
          launch := launch } := by
  have online : (world.readied name file launch workers).online = update world.online file (some
        { state := { pid := world.nextPid, workers := workers
                     startedAtMillis := world.clock }
          launch := launch }) := by
    funext other
    by_cases same : other = file
    · rw [same]
      simp [World.online, readied]
    rw [update_of_ne same]
    simp only [World.online, readied, World.launch, lookup_insert_ne same, insert_insert]
    exact online_insert_fresh sound
  simp only [view, online]
  rfl

theorem lookup_launch_self : (world.launch name file launch).masters.lookup world.nextPid =
      some ⟨name, file, launch, false, false⟩ := lookup_insert _

theorem Sound.readied (sound : world.Sound) (workers : Nat) :
    (world.readied name file launch workers).Sound where
  toCoherent := by
    have ready : (world.launch name file launch).becomesReady world.nextPid
        workers = some (world.readied name file launch workers) := by
      simp only [World.becomesReady, lookup_launch_self]
      rfl
    exact (sound.toCoherent.launch name file launch).becomesReady ready
  started := by
    intro pid master lookup
    simp only [World.readied, World.launch, insert_insert] at lookup
    rcases Table.lookup_of_lookup_insert lookup with ⟨_, rfl⟩ | ⟨_, old⟩
    · rfl
    · exact sound.started old

theorem becomesReady_of_started (started : ∀ {pid master}, world.masters.lookup pid = some master →
      master.ready = true) : world.becomesReady pid workers = none := by
  unfold World.becomesReady
  split
  · next found => exact absurd (started found) (by simp)
  · rfl

inductive Launched (cores : Nat) (world : World) (name : AppName)
    (file : StateFile) (launch : Launch) : World → Prop where
  | starting : Launched cores world name file launch (world.launch name file launch)
  | ready {workers : Nat} (counted : commandWorkers cores launch.command = some workers) :
      Launched cores world name file launch (world.readied name file launch workers)
  | gone {moved : World} (sound : moved.Sound) (ended : moved.masters.lookup world.nextPid = none)
      (view : moved.view = world.view ∨ moved.view = world.view.shut file) :
      Launched cores world name file launch moved

variable (sound : world.Sound)
include sound

theorem Launched.becomesReady (launched : Launched cores world name file launch moved)
    (found : moved.masters.lookup other = some master)
    (counted : commandWorkers cores master.launch.command = some workers)
    (ready : moved.becomesReady other workers = some target) :
    Launched cores world name file launch target := by
  cases launched with
  | starting =>
    by_cases own : other = world.nextPid
    · subst own
      rw [lookup_launch_self] at found
      cases found
      simp only [World.becomesReady, lookup_launch_self] at ready
      cases ready
      exact .ready counted
    · have older : world.masters.lookup other = some master := by
        rw [← found]
        exact (lookup_insert_ne own).symm
      have done := sound.started older
      unfold World.becomesReady at ready
      rw [found] at ready
      obtain ⟨_, _, _, isReady, _⟩ := master
      cases done
      cases ready
  | ready _ =>
    rw [becomesReady_of_started (sound.readied _).started] at ready
    cases ready
  | gone settled _ _ =>
    rw [becomesReady_of_started settled.started] at ready
    cases ready

theorem Launched.exits (launched : Launched cores world name file launch moved)
    (exits : moved.exits world.nextPid graceful = some target) :
    Launched cores world name file launch target := by
  cases launched with
  | starting =>
    obtain ⟨master, found, rfl⟩ := exits_eq exits
    rw [lookup_launch_self] at found
    cases found
    have masters : ∀ pid, ((world.launch name file launch).masters.erase
        world.nextPid).lookup pid = world.masters.lookup pid := by
      intro pid
      by_cases own : pid = world.nextPid
      · rw [own, lookup_erase, sound.fresh (Nat.le_refl _)]
      · rw [lookup_erase_ne own]
        exact lookup_insert_ne own
    refine .gone ?_ (lookup_erase _ _) (.inl ?_)
    · exact
        { toCoherent := (sound.toCoherent.launch name file launch).exits exits
          started := by
            intro pid master lives
            rw [masters] at lives
            exact sound.started lives }
    · have online : World.online { world.launch name file launch with
          masters := (world.launch name file launch).masters.erase world.nextPid
          stateFiles := if graceful && false then
              (world.launch name file launch).stateFiles.erase file
            else (world.launch name file launch).stateFiles } = world.online := by
        funext other
        simp only [World.online, masters, Bool.and_false]
        rfl
      simp only [view, online]
      rfl
  | @ready workers counted =>
    have published : (world.readied name file launch workers).stateFiles.lookup file =
        some ⟨world.nextPid, workers, world.clock⟩ := lookup_insert _
    have settled := (sound.readied workers).exits exits
    have after := (sound.readied workers).view_exits published exits
    obtain ⟨master, found, rfl⟩ := exits_eq exits
    refine .gone settled (lookup_erase _ _) (.inr ?_)
    rw [after, view_readied sound]
    simp [View.bring, View.shut]
  | gone _ ended _ =>
    obtain ⟨master, found, _⟩ := exits_eq exits
    rw [ended] at found
    cases found

theorem Starts.launched (starts : World.Starts cores world.nextPid moved target)
    (launched : Launched cores world name file launch moved) :
    Launched cores world name file launch target := by
  induction starts with
  | refl => exact launched
  | ready found counted ready later induction =>
    exact induction (launched.becomesReady sound found counted ready)
  | exits exits later induction => exact induction (launched.exits sound exits)

end World

end Pam.Manager
