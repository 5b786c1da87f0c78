import Pam.Manager.Coherence
import Pam.Manager.Rules

namespace Pam.Manager

open Pam.Foundation List Option

/-! Stopped stays stopped: what a history says about the intent for an
application, and the launches that respect it. -/

/-- The latest stop of the application has not been lifted since. -/
def stoppedUntil (lifts : ManagerEvent → Bool) (name : AppName) : List ManagerEvent → Bool
  | [] => false
  | event :: earlier =>
    event == .stopPersisted name || (!lifts event && stoppedUntil lifts name earlier)

def ManagerEvent.commands (name : AppName) : ManagerEvent → Bool
  | .issued command => command.names name || command == .resurrect
  | .issuedLocal command => command.names name
  | _ => false

/-- A command that names the application is at work, or a saved list that has it
online is read. -/
def ManagerEvent.lifts (name : AppName) : ManagerEvent → Bool
  | .accepted command => command.names name
  | .clientActed command => command.names name
  | .savedListRead applications =>
    applications.any fun saved => saved.name == name && saved.desiredState == .online
  | _ => false

abbrev HeldStopped (name : AppName) (history : List ManagerEvent) : Prop :=
  stoppedUntil (ManagerEvent.lifts name) name history = true

theorem heldStopped_cons : HeldStopped name (event :: earlier) ↔ event = .stopPersisted name ∨
        event.lifts name = false ∧ HeldStopped name earlier := by
  simp [HeldStopped, stoppedUntil]

theorem heldStopped_append (held : HeldStopped name (events ++ earlier)) :
    .stopPersisted name ∈ events ∨ (∀ event ∈ events, event.lifts name = false) ∧
        HeldStopped name earlier := by
  induction events with
  | nil => exact .inr ⟨by simp, held⟩
  | cons event events induction =>
    rcases heldStopped_cons.mp held with rfl | ⟨stays, later⟩
    · exact .inl mem_cons_self
    rcases induction later with member | ⟨others, before⟩
    · exact .inl (mem_cons_of_mem _ member)
    · exact .inr ⟨forall_mem_cons.mpr ⟨stays, others⟩, before⟩

def ManagerProgram.launches {Result : Type} : ManagerProgram Result → Option AppName
  | .perform (.spawn name _ _) _ => some name
  | _ => none

def ManagerState.launches (state : ManagerState) : ManagerLabel → Option AppName
  | .daemonStep none => state.job.bind fun job => ManagerProgram.launches job.program
  | .clientStep id none =>
    (state.clients.lookup id).bind fun client => ManagerProgram.launches client.program
  | _ => none

def ManagerState.launchesAutomatically (state : ManagerState)
    (label : ManagerLabel) : Option AppName :=
  match label, state.job with
  | .daemonStep _, some job => if job.origin.automatic then state.launches label else none
  | _, _ => none

instance (record : ApplicationRecord) : Decidable record.Idle := inferInstanceAs (Decidable (_ ∧ _))

/-- Nothing is done that would bring the application up while its record is idle
and no saved list has it online. -/
def respects (name : AppName) : Monitor ManagerAction ManagerAction.Answer Unit where
  permits _ action := match action with
    | .writeRecord record => record.name = name → record.Idle
    | .spawn other _ _ => other ≠ name
    | .execute command => command.names name = false
    | _ => True
  learns _ action answer := match action, answer with
    | .readRecord other, .ok record =>
      if record.name = other ∧ (other = name → record.Idle) then some () else none
    | .readSavedList, .ok applications =>
      if (ManagerEvent.savedListRead applications).lifts name = false then some () else none
    | _, _ => some ()

/-- The stricter monitor of the clients: one that does not name the application
does not even read its record. -/
def avoids (name : AppName) : Monitor ManagerAction ManagerAction.Answer Unit where
  permits known action := (respects name).permits known action ∧ action ≠ .readRecord name ∧
      action ≠ .readSavedList
  learns := (respects name).learns

def stops (name : AppName) : Monitor ManagerAction ManagerAction.Answer Unit where
  permits _ action := match action with
    | .writeRecord record => record.name = name ∧ record.Idle
    | .spawn _ _ _ => False
    | .execute _ => False
    | _ => True
  learns _ action answer := match action, answer with
    | .readRecord other, .ok record => if record.name = other then some () else none
    | _, _ => some ()

theorem readAs_of_respects (learns : (respects name).learns () (.readRecord other) (.ok record) =
      some learned) : ReadAs (fun free => free ≠ name) other record := by
  simp only [respects, ite_none_right_eq_some] at learns
  obtain ⟨⟨named, idle⟩, _⟩ := learns
  rw [ReadAs, named]
  refine ⟨id, ?_⟩
  by_cases same : other = name
  · exact .inr (idle same)
  · exact .inl same

variable (name : AppName)

theorem respects_accesses : Accesses (respects name) (fun other => other ≠ name) fun _ => True where
  reads := fun _ => trivial
  access := by
    intro Result action finish quiet
    apply ensures_access
    intro known
    cases action <;> trivial
  read := by
    intro other _
    apply ensures_readRecordFile
    · exact fun _ => trivial
    · exact fun _ _ _ learns => readAs_of_respects learns
  write := by
    intro record writable
    apply ensures_access
    intro known same
    exact writable.resolve_left fun free => free same
  savedList := by
    intro _ known
    refine ⟨trivial, ?_⟩
    intro answer learned learns applications same
    cases answer with
    | error error => cases same
    | ok read =>
      cases same
      simp only [respects, ite_none_right_eq_some] at learns
      intro saved member online same
      have lifted : (ManagerEvent.savedListRead applications).lifts name :=
        any_eq_true.mpr ⟨saved, member, by simp [same, online]⟩
      rw [learns.1] at lifted
      cases lifted
  execute := by
    intro command owned
    apply ensures_access
    intro known
    by_contra named
    exact owned name (Bool.eq_true_of_not_eq_false named) rfl

theorem respects_rules : Rules (respects name) (fun other => other ≠ name) fun _ => True :=
  (respects_accesses name).toRules (fun _ _ => ensures_access fun _ => trivial)
    (fun _ => ensures_access fun _ => trivial) (fun _ _ _ free => ensures_access fun _ => free)

theorem avoids_rules : Rules (avoids name) (fun other => other ≠ name)
      (fun other => other ≠ name) := by
  have accesses : Accesses (avoids name) (fun other => other ≠ name)
      (fun other => other ≠ name) := {
    reads := id
    access := by
      intro Result action finish quiet
      apply ensures_access
      intro known
      refine ⟨by cases action <;> trivial, ?_, ?_⟩
      · rintro rfl
        cases quiet
      · rintro rfl
        cases quiet
    read := by
      intro other readable
      apply ensures_readRecordFile
      · intro known
        refine ⟨trivial, ?_, nofun⟩
        intro same
        exact readable (ManagerAction.readRecord.inj same)
      · exact fun _ _ _ learns => readAs_of_respects learns
    write := by
      intro record writable
      apply ensures_access
      intro known
      exact ⟨fun same => writable.resolve_left fun free => free same, nofun, nofun⟩
    savedList := fun all => absurd rfl (all name)
    execute := by
      intro command owned
      apply ensures_access
      intro known
      refine ⟨?_, nofun, nofun⟩
      by_contra named
      exact owned name (Bool.eq_true_of_not_eq_false named) rfl }
  exact accesses.toRules (fun _ _ => ensures_access fun _ => ⟨trivial, nofun, nofun⟩)
    (fun _ => ensures_access fun _ => ⟨trivial, nofun, nofun⟩)
    (fun _ _ _ free => ensures_access fun _ => ⟨free, nofun, nofun⟩)

theorem stops_quiet : Quiet (stops name) where
  access := by
    intro Result action finish quiet
    apply ensures_access
    intro known
    cases action <;> trivial

theorem stop_stops : (stops name).Ensures (stop name) fun _ => True := by
  have named : (stops name).Ensures (readRecordFile name) fun record => record.name = name := by
    apply ensures_readRecordFile
    · exact fun _ => trivial
    intro known record learned learns
    simp only [stops, ite_none_right_eq_some] at learns
    exact learns.1
  have current : (stops name).Ensures (readRecord name) fun record =>
      record.name = name ∧ record.schemaVersion ≠ 1 := by
    apply Monitor.Ensures.bind named
    intro record named
    split
    · apply Monitor.Ensures.bind ((stops_quiet name).runningMaster record.masterStateFile)
      intro master _
      exact Monitor.ensures_pure ⟨named, by simp [migrateRecord]⟩
    next other => exact Monitor.ensures_pure ⟨named, by simpa using other⟩
  apply Monitor.Ensures.bind current
  intro record ⟨named, version⟩
  have written : (stops name).Ensures (writeRecord (stoppedRecord record)) fun _ => True :=
    ensures_access fun _ => ⟨named, rfl, version⟩
  apply Monitor.Ensures.bind written
  intro _ _
  exact (stops_quiet name).stopRecord record

variable {name}

theorem stops_respects (obeys : (stops name).Obeys () program) :
    (respects other).Obeys () program := by
  refine Monitor.Obeys.relax (fun _ _ => True) (fun {_ _ action} _ permitted => ?_)
    (fun {_ _ action answer _} _ learns => ⟨(), ?_, trivial⟩) trivial obeys
  · cases action <;> first | trivial | exact fun _ => permitted.2
  cases action with
  | readRecord read =>
    rcases answer with error | record
    · rfl
    · simp only [respects, ite_none_right_eq_some] at learns
      exact if_pos learns.1.1
  | _ => rfl

variable {world : World}

theorem named_perform (named : world.Named) : (world.perform fault action).2.Named := by
  intro name record found
  rcases lookup_records_perform found with before | ⟨_, same⟩
  · exact named name record before
  · exact same

theorem lookup_of_read (read : (world.perform fault (.readRecord name)).1 = .ok record) :
    world.records.lookup name = some record := by
  cases fault with
  | some message => cases read
  | none =>
    dsimp only [World.perform] at read
    cases found : world.records.lookup name with
    | none =>
      rw [found] at read
      cases read
    | some stored =>
      rw [found] at read
      cases read
      rfl

variable {origin : Origin}

theorem respects_learns (named : world.Named)
    (idle : ∀ record, world.records.lookup name = some record → record.Idle)
    (stays : ∀ event ∈ origin.events action (world.perform fault action).1,
      event.lifts name = false) :
    (respects name).learns () action (world.perform fault action).1 = some () := by
  cases action with
  | readRecord other =>
    cases answer : (world.perform fault (.readRecord other)).1 with
    | error message => rfl
    | ok record =>
      have found := lookup_of_read answer
      refine if_pos ⟨named other record found, ?_⟩
      rintro rfl
      exact idle record found
  | readSavedList =>
    cases answer : (world.perform fault .readSavedList).1 with
    | error message => rfl
    | ok applications =>
      rw [answer] at stays
      exact if_pos (stays _ mem_cons_self)
  | _ => rfl

theorem avoids_learns (named : world.Named) (permitted : (avoids name).permits () action) :
    (avoids name).learns () action (world.perform fault action).1 = some () := by
  obtain ⟨_, unread, unlisted⟩ := permitted
  cases action with
  | readRecord other =>
    cases answer : (world.perform fault (.readRecord other)).1 with
    | error message => rfl
    | ok record =>
      refine if_pos ⟨named other record (lookup_of_read answer), ?_⟩
      rintro rfl
      exact absurd rfl unread
  | readSavedList => exact absurd rfl unlisted
  | _ => rfl

theorem stops_learns (named : world.Named) :
    (stops name).learns () action (world.perform fault action).1 = some () := by
  cases action with
  | readRecord other =>
    cases answer : (world.perform fault (.readRecord other)).1 with
    | error message => rfl
    | ok record => exact if_pos (named other record (lookup_of_read answer))
  | _ => rfl

structure HeldDown (name : AppName) (world : World) (current : Option DaemonJob) : Prop where
  idle : ∀ record, world.records.lookup name = some record → record.Idle
  job : ∀ job, current = some job → (respects name).Obeys () job.program

structure Heeding (state : ManagerState) : Prop where
  named : state.world.Named
  stopping : ∀ job name, state.job = some job →
    job.origin = .request (.stop name) → (stops name).Obeys () job.program
  clients : ∀ id client name, state.clients.lookup id = some client →
    client.command.names name = false → (avoids name).Obeys () client.program
  held : ∀ name, HeldStopped name state.history → HeldDown name state.world state.job

theorem heeding_initial : Heeding .initial where
  named := .initial
  stopping := by
    intro job name found
    cases found
  clients := by
    intro id client name found
    cases found
  held := by
    intro name held
    cases held

theorem heeding_begin (heeding : Heeding state)
    (kept : ∀ name, HeldStopped name history → HeldStopped name state.history ∧
        ∀ command, origin = .request command → command.names name = false) :
    Heeding { state.begin origin client with requests := requests, history := history } where
  named := heeding.named
  stopping := by
    rintro job name ⟨⟩ stop
    have stopped := (stop_stops name).obeys ()
    rw [show origin = .request (.stop name) from stop]
    exact stopped
  clients := heeding.clients
  held := by
    intro name held
    obtain ⟨before, unnamed⟩ := kept name held
    refine ⟨(heeding.held name before).idle, ?_⟩
    rintro job ⟨⟩
    refine ((respects_rules name).originProgram (fun _ => trivial) ?_).obeys ()
    rintro command other same named rfl
    rw [unnamed command same] at named
    cases named

theorem stopPersisted_mem_events (member : .stopPersisted name ∈
      origin.events action (world.perform fault action).1) :
    origin = .request (.stop name) ∧ fault = none ∧ ∃ record, action = .writeRecord record := by
  cases action with
  | writeRecord record =>
    cases fault with
    | some message => cases member
    | none =>
      cases origin with
      | request command =>
        cases command with
        | stop other =>
          cases mem_singleton.mp member
          exact ⟨rfl, rfl, record, rfl⟩
        | _ => cases member
      | _ => cases member
  | readSavedList =>
    cases answer : (world.perform fault .readSavedList).1 with
    | error message =>
      rw [answer] at member
      cases member
    | ok applications =>
      rw [answer] at member
      cases mem_singleton.mp member
  | _ => cases member

theorem heldDown_perform {next} (heeding : Heeding state)
    (running : state.job = some ⟨origin, client, .perform action next⟩)
    (held : HeldStopped name (origin.events action
      (state.world.perform fault action).1 ++ state.history)) :
    HeldDown name (state.world.perform fault action).2
      (some ⟨origin, client, next (state.world.perform fault action).1⟩) := by
  rcases heldStopped_append held with persisted | ⟨stays, before⟩
  · -- The stop itself: its record is idle, and the rest of it launches nothing.
    obtain ⟨rfl, rfl, record, rfl⟩ := stopPersisted_mem_events persisted
    have obeys := heeding.stopping _ name running rfl
    obtain ⟨named, idle⟩ := obeys.permits
    constructor
    · intro stored found
      dsimp only [World.perform, World.attempt] at found
      rw [named, AList.lookup_insert] at found
      cases found
      exact idle
    · rintro job ⟨⟩
      exact stops_respects (obeys.step (stops_learns heeding.named))
  · have down := heeding.held name before
    have obeys := down.job _ running
    constructor
    · intro stored found
      rcases lookup_records_perform found with earlier | ⟨rfl, named⟩
      · exact down.idle stored earlier
      · exact obeys.permits named
    · rintro job ⟨⟩
      exact obeys.step (respects_learns heeding.named down.idle stays)

theorem avoids_deliver (heeding : Heeding state) :
    ∀ id client name, (state.deliver receiver result).lookup id = some client →
      client.command.names name = false → (avoids name).Obeys () client.program := by
  intro id client name found unnamed
  rcases lookup_deliver found with before | ⟨command, executed, next, answer, before, rfl⟩
  · exact heeding.clients id client name before unnamed
  · exact (heeding.clients id _ name before unnamed).step rfl

section

variable (heeding : Heeding state)
include heeding

theorem heeding_daemonStep (step : state.daemonStep fault = some target) : Heeding target := by
  unfold ManagerState.daemonStep at step
  split at step
  · cases step
  next running =>
    cases step
    refine ⟨heeding.named, ?_, avoids_deliver heeding, ?_⟩
    · rintro job name ⟨⟩
    intro name held
    refine ⟨(heeding.held name held).idle, ?_⟩
    rintro job ⟨⟩
  next running =>
  cases step
  refine ⟨named_perform heeding.named, ?_, heeding.clients, ?_⟩
  · rintro job name ⟨⟩ stop
    exact (heeding.stopping _ name running stop).step (stops_learns heeding.named)
  · intro name held
    exact heldDown_perform heeding running held

theorem avoids_insert {id : ClientId} (obeys : ∀ name, client.command.names name = false →
      (avoids name).Obeys () client.program) :
    ∀ other found name, (state.clients.insert id client).lookup other =
        some found → found.command.names name = false → (avoids name).Obeys () found.program := by
  intro other found name lookup unnamed
  rcases Table.lookup_of_lookup_insert lookup with ⟨rfl, rfl⟩ | ⟨_, before⟩
  · exact obeys name unnamed
  · exact heeding.clients other found name before unnamed

theorem heeding_clientStep {id : ClientId}
    (step : state.clientStep id fault = some target) : Heeding target := by
  obtain ⟨client, found, did⟩ := clientStep_cases step
  have avoiding : ∀ name, client.command.names name = false →
      (avoids name).Obeys () client.program := fun name => heeding.clients id client name found
  rcases did with rfl | ⟨command, _, _, _, rfl⟩ | ⟨action, next, program, _, rfl⟩
  · refine ⟨heeding.named, heeding.stopping, ?_, heeding.held⟩
    intro other kept name lookup
    exact heeding.clients other kept name (Table.lookup_of_lookup_erase lookup).1
  · refine ⟨heeding.named, heeding.stopping, ?_, ?_⟩
    · exact avoids_insert heeding avoiding
    intro name held
    obtain ⟨⟨⟩⟩ | ⟨_, before⟩ := heldStopped_cons.mp held
    exact heeding.held name before
  · rw [program] at avoiding
    refine ⟨named_perform heeding.named, heeding.stopping, ?_, ?_⟩
    · apply avoids_insert heeding
      intro name unnamed
      have obeys := avoiding name unnamed
      exact obeys.step (avoids_learns heeding.named obeys.permits)
    · intro name held
      obtain ⟨⟨⟩⟩ | ⟨unnamed, before⟩ := heldStopped_cons.mp held
      have down := heeding.held name before
      refine ⟨?_, down.job⟩
      intro stored lookup
      rcases lookup_records_perform lookup with earlier | ⟨rfl, named⟩
      · exact down.idle stored earlier
      · exact (avoiding name unnamed).permits.1 named

theorem heeding_step {label : ManagerLabel} (step : managerMachine.next state label = some target) :
    Heeding target := by
  rcases managerStep_cases step with ⟨fault, rfl, step⟩ | ⟨id, fault, rfl, step⟩ | moves
  · exact heeding_daemonStep heeding step
  · exact heeding_clientStep heeding step
  cases moves with
  | issue command =>
    refine ⟨heeding.named, heeding.stopping, heeding.clients, ?_⟩
    intro name held
    obtain ⟨⟨⟩⟩ | ⟨_, before⟩ := heldStopped_cons.mp held
    exact heeding.held name before
  | issueLocal command =>
    refine ⟨heeding.named, heeding.stopping, ?_, ?_⟩
    · apply avoids_insert heeding
      intro name unnamed
      refine ((avoids_rules name).localProgram ?_).obeys ()
      rintro other named rfl
      rw [show command.names other = false from unnamed] at named
      cases named
    · intro name held
      obtain ⟨⟨⟩⟩ | ⟨_, before⟩ := heldStopped_cons.mp held
      exact heeding.held name before
  | accept request requests =>
    apply heeding_begin heeding
    intro name held
    obtain ⟨⟨⟩⟩ | ⟨unnamed, before⟩ := heldStopped_cons.mp held
    refine ⟨before, ?_⟩
    rintro command ⟨⟩
    exact unnamed
  | begin origin automatic =>
    apply heeding_begin heeding
    intro name held
    refine ⟨held, ?_⟩
    rintro command rfl
    cases automatic
  | outside serving moves =>
    have records := records_of_moves moves
    refine ⟨?_, heeding.stopping, heeding.clients, ?_⟩
    · rw [World.Named, records]
      exact heeding.named
    intro name held
    have down := heeding.held name held
    refine ⟨?_, down.job⟩
    rw [records]
    exact down.idle

end

theorem perform_of_launches (launches : ManagerProgram.launches program = some name) :
    ∃ file launch next, program = .perform (.spawn name file launch) next := by
  unfold ManagerProgram.launches at launches
  split at launches
  next file launch next =>
    cases launches
    exact ⟨file, launch, next, rfl⟩
  · cases launches

theorem launches_of_heeding (heeding : Heeding state)
    (step : managerMachine.next state label = some target)
    (launches : state.launches label = some name) : ¬ HeldStopped name target.history := by
  intro held
  unfold ManagerState.launches at launches
  split at launches
  · obtain ⟨⟨origin, client, program⟩, running, spawns⟩ := bind_eq_some_iff.mp launches
    obtain ⟨file, launch, next, rfl⟩ := perform_of_launches spawns
    change state.daemonStep none = some target at step
    rw [ManagerState.daemonStep, running] at step
    cases step
    exact ((heeding.held name held).job _ running).permits rfl
  next id =>
    obtain ⟨⟨command, program, waiting⟩, running, spawns⟩ := bind_eq_some_iff.mp launches
    obtain ⟨file, launch, next, rfl⟩ := perform_of_launches spawns
    change state.clientStep id none = some target at step
    rw [ManagerState.clientStep, running] at step
    cases waiting with
    | true => cases step
    | false =>
      cases step
      obtain ⟨⟨⟩⟩ | ⟨unnamed, _⟩ := heldStopped_cons.mp held
      exact (heeding.clients id _ name running unnamed).permits.1 rfl
  · cases launches

/-- The history is the one after the step, so a client's own command counts as
at work. -/
theorem stoppedStaysStopped_transitions (labels : List ManagerLabel) :
    ∀ transition ∈ managerMachine.transitions .initial labels, ∀ name,
      transition.source.launches transition.label = some name →
      ¬ HeldStopped name transition.target.history :=
  managerMachine.transitions_of_guarded Heeding (fun _ _ => True)
    (fun source label target => ∀ name, source.launches label = some name →
      ¬ HeldStopped name target.history)
    (fun heeding _ step => ⟨heeding_step heeding step, fun _ => launches_of_heeding heeding step⟩)
    heeding_initial (fun _ _ => trivial)

/-- The application is brought up, saved as online, and stopped. -/
def stoppedShop : List ManagerLabel :=
  [.startDaemon] ++ daemonSteps 2 ++ [.issue (.up shopOptions), .accept 0] ++
    daemonSteps 3 ++ [.ready 1 1] ++ daemonSteps 4 ++ [.issue .save, .accept 0] ++ daemonSteps 4 ++
    [.issue (.stop "shop"), .accept 0] ++ daemonSteps 5 ++ [.exit 1 true] ++ daemonSteps 2

/-- The step in which an explicit restart launches it again. -/
def restartOfShop : Transition ManagerState ManagerLabel :=
  (managerMachine.transitions .initial (stoppedShop ++ [.supervise] ++
    daemonSteps 4 ++ [.issue (.restart "shop"), .accept 0] ++ daemonSteps 5)).get ⟨40, by decide⟩

theorem stoppedStaysStopped_restartOfShop :
    HeldStopped "shop" (managerMachine.finish .initial stoppedShop).history ∧
      restartOfShop.source.launches restartOfShop.label = some "shop" ∧
      ¬ HeldStopped "shop" restartOfShop.target.history :=
  ⟨by decide, by decide, stoppedStaysStopped_transitions _ _ (get_mem _ _) _ (by decide)⟩

/-- The step in which `pamd`, started again, restores it from the saved list. -/
def restoreOfShop : Transition ManagerState ManagerLabel :=
  (managerMachine.transitions .initial (stoppedShop ++
    [.stopDaemon, .startDaemon] ++ daemonSteps 8)).get ⟨38, by decide⟩

theorem restored_although_stopped :
    ¬ ∀ labels, ∀ transition ∈ managerMachine.transitions .initial labels, ∀ name,
        transition.source.launchesAutomatically transition.label = some name →
        stoppedUntil (ManagerEvent.commands name) name transition.source.history = false := by
  intro always
  have lifted := always _ restoreOfShop (get_mem _ _) "shop" (by decide)
  exact absurd lifted (by decide)

end Pam.Manager
