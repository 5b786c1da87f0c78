import Pam.Manager.Daemon

namespace Pam.Manager

open Pam.Foundation Nat Table

/-! What holds of records, state files and masters however commands are
interleaved. -/

theorem lookup_records_perform {world : World}
    (found : (world.perform fault action).2.records.lookup name = some record) :
    world.records.lookup name = some record ∨
      action = .writeRecord record ∧ record.name = name := by
  cases action with
  | writeRecord written =>
    cases fault with
    | some message => exact .inl found
    | none =>
      rcases lookup_of_lookup_insert found with ⟨rfl, rfl⟩ | ⟨_, before⟩
      · exact .inr ⟨rfl, rfl⟩
      · exact .inl before
  | removeRecord removed =>
    left
    cases fault with
    | some message => exact found
    | none => exact (lookup_of_lookup_erase found).1
  | listRecords =>
    left
    cases fault with
    | some message => exact found
    | none =>
      dsimp only [World.perform] at found
      split at found <;> exact found
  | signalMaster state signal =>
    left
    cases fault with
    | some message => exact found
    | none =>
      dsimp only [World.perform, World.signal] at found
      split at found
      · cases signal <;> exact found
      · exact found
  | _ =>
    left
    cases fault <;> exact found

theorem records_of_moves {world target : World} (moves : world.Moves target) :
    target.records = world.records := by
  cases moves with
  | stays | ticks millis => rfl
  | ready became =>
    unfold World.becomesReady at became
    split at became
    · cases became
      rfl
    · cases became
  | exits exited =>
    unfold World.exits at exited
    split at exited
    · cases exited
    · cases exited
      rfl

def World.Named (world : World) : Prop :=
  ∀ name record, world.records.lookup name = some record → record.name = name

/-- Records are stored under their names, a published master owns its state
file, and pids are not used again. -/
structure World.Coherent (world : World) : Prop where
  named : world.Named
  owned : ∀ {file state master}, world.stateFiles.lookup file = some state →
    world.masters.lookup state.pid = some master → master.stateFile = file
  fresh : ∀ {pid}, world.nextPid ≤ pid → world.masters.lookup pid = none
  below : ∀ {file state}, world.stateFiles.lookup file = some state → state.pid < world.nextPid

namespace World

variable {world target : World}

theorem Named.initial : World.empty.Named := by
  intro name record found
  cases found

theorem Coherent.initial : World.empty.Coherent where
  named := .initial
  owned := nofun
  fresh := fun _ => rfl
  below := nofun

theorem Coherent.of_same (coherent : world.Coherent) (named : target.Named)
    (stateFiles : target.stateFiles = world.stateFiles) (masters : target.masters = world.masters)
    (nextPid : target.nextPid = world.nextPid) : target.Coherent where
  named := named
  owned := by
    rw [stateFiles, masters]
    exact coherent.owned
  fresh := by
    rw [nextPid, masters]
    exact coherent.fresh
  below := by
    rw [stateFiles, nextPid]
    exact coherent.below

theorem Named.write (named : world.Named) (record : ApplicationRecord) :
    { world with records := world.records.insert record.name record }.Named := by
  intro name stored found
  rcases lookup_of_lookup_insert found with ⟨rfl, rfl⟩ | ⟨_, before⟩
  · rfl
  · exact named name stored before

theorem Coherent.write (coherent : world.Coherent) (record : ApplicationRecord) : { world with
      records := world.records.insert record.name record }.Coherent :=
  coherent.of_same (coherent.named.write record) rfl rfl rfl

theorem Coherent.remove (coherent : world.Coherent) (name : AppName) :
    { world with records := world.records.erase name }.Coherent := by
  refine coherent.of_same ?_ rfl rfl rfl
  intro other stored found
  exact coherent.named other stored (lookup_of_lookup_erase found).1

theorem exits_eq (exits : world.exits pid graceful = some target) :
    ∃ master, world.masters.lookup pid = some master ∧ target = { world with
        masters := world.masters.erase pid
        stateFiles := if graceful && master.ready then world.stateFiles.erase master.stateFile
          else world.stateFiles } := by
  unfold World.exits at exits
  split at exits
  · cases exits
  next master found =>
    cases exits
    exact ⟨master, found, rfl⟩

theorem Coherent.exits (coherent : world.Coherent)
    (exits : world.exits pid graceful = some target) : target.Coherent := by
  obtain ⟨master, found, rfl⟩ := exits_eq exits
  have files : ∀ {file : StateFile} {state : MasterState},
      (if graceful && master.ready then world.stateFiles.erase master.stateFile
      else world.stateFiles).lookup file = some state →
      world.stateFiles.lookup file = some state := by
    intro file state lookup
    split at lookup
    · exact (lookup_of_lookup_erase lookup).1
    · exact lookup
  exact
    { named := coherent.named
      owned := by
        intro file state lives lookup found
        exact coherent.owned (files lookup) (lookup_of_lookup_erase found).1
      fresh := by
        intro other beyond
        cases lookup : (world.masters.erase pid).lookup other with
        | none => rfl
        | some lives =>
          have before := (lookup_of_lookup_erase lookup).1
          rw [coherent.fresh beyond] at before
          cases before
      below := fun lookup => coherent.below (files lookup) }

theorem lookup_kill (lookup : (world.kill pid).masters.lookup other = some master) :
    ∃ old, world.masters.lookup other = some old ∧
      master.stateFile = old.stateFile ∧ master.ready = old.ready := by
  simp only [World.kill, lookup_modify] at lookup
  split at lookup
  · obtain ⟨old, found, rfl⟩ := Option.map_eq_some_iff.mp lookup
    exact ⟨old, found, rfl, rfl⟩
  · exact ⟨master, lookup, rfl, rfl⟩

theorem Coherent.kill (coherent : world.Coherent) (pid : Pid) : (world.kill pid).Coherent where
  named := coherent.named
  owned := by
    intro file state master lookup lives
    obtain ⟨old, found, sameFile, _⟩ := lookup_kill lives
    rw [sameFile]
    exact coherent.owned lookup found
  fresh := by
    intro other beyond
    cases lookup : (world.kill pid).masters.lookup other with
    | none => rfl
    | some master =>
      obtain ⟨old, found, _⟩ := lookup_kill lookup
      rw [coherent.fresh beyond] at found
      cases found
  below := coherent.below

theorem Coherent.launch (coherent : world.Coherent) (name : AppName)
    (file : StateFile) (launch : Launch) : (world.launch name file launch).Coherent where
  named := coherent.named
  owned := by
    intro other state master published lives
    rcases lookup_of_lookup_insert lives with ⟨born, _⟩ | ⟨_, old⟩
    · exact absurd born (Nat.ne_of_lt (coherent.below published))
    · exact coherent.owned published old
  fresh := by
    intro pid beyond
    have later : world.nextPid < pid := beyond
    have other : pid ≠ world.nextPid := ne_of_gt later
    exact (AList.lookup_insert_ne other).trans (coherent.fresh (le_of_lt later))
  below := fun published => lt_succ_of_lt (coherent.below published)

theorem becomesReady_eq (ready : world.becomesReady pid workers = some target) : ∃ name file launch,
      world.masters.lookup pid = some ⟨name, file, launch, false, false⟩ ∧ target = { world with
          masters := world.masters.insert pid ⟨name, file, launch, true, false⟩
          stateFiles := world.stateFiles.insert file
            { pid := pid, workers := workers
              startedAtMillis := world.clock } } := by
  unfold World.becomesReady at ready
  split at ready
  next name file launch found =>
    cases ready
    exact ⟨name, file, launch, found, rfl⟩
  · cases ready

variable (coherent : world.Coherent)
include coherent

theorem Coherent.becomesReady (ready : world.becomesReady pid workers = some target) :
    target.Coherent := by
  obtain ⟨name, file, launch, found, rfl⟩ := becomesReady_eq ready
  have known : pid < world.nextPid := by
    by_contra beyond
    rw [coherent.fresh (Nat.le_of_not_lt beyond)] at found
    cases found
  exact
    { named := coherent.named
      owned := by
        intro other state master published lives
        rcases lookup_of_lookup_insert published with ⟨rfl, rfl⟩ | ⟨_, before⟩
        · have same := (AList.lookup_insert _).symm.trans lives
          cases same
          rfl
        · rcases lookup_of_lookup_insert lives with ⟨born, rfl⟩ | ⟨_, old⟩
          · exact (coherent.owned before (born ▸ found) :)
          · exact coherent.owned before old
      fresh := by
        intro other beyond
        have apart : other ≠ pid := ne_of_gt (lt_of_lt_of_le known beyond)
        exact (AList.lookup_insert_ne apart).trans (coherent.fresh beyond)
      below := by
        intro other state published
        rcases lookup_of_lookup_insert published with ⟨_, rfl⟩ | ⟨_, before⟩
        · exact known
        · exact coherent.below before }

theorem Coherent.attempt (fault : Option String) (kept : outcome.2.Coherent) :
    (world.attempt fault outcome).2.Coherent := by
  cases fault with
  | none => exact kept
  | some _ => exact coherent

theorem Coherent.signal (state : MasterState) (signal : MasterSignal) :
    (world.signal state signal).2.Coherent := by
  unfold World.signal
  split
  · cases signal with
    | stop => exact coherent
    | kill => exact coherent.kill state.pid
  · exact coherent

theorem Coherent.perform (fault : Option String) (action : ManagerAction) :
    (world.perform fault action).2.Coherent := by
  cases action with
  | createDirectories | writeSavedList applications
  | writeDeploymentHistory name history =>
    exact coherent.attempt fault (coherent.of_same coherent.named rfl rfl rfl)
  | listRecords =>
    refine coherent.attempt fault ?_
    split <;> exact coherent
  | writeRecord record => exact coherent.attempt fault (coherent.write record)
  | removeRecord name => exact coherent.attempt fault (coherent.remove name)
  | signalMaster state signal => exact coherent.attempt fault (coherent.signal state signal)
  | spawn name file launch => exact coherent.attempt fault (coherent.launch name file launch)
  | readRecord | readSavedList | readDeploymentHistory
  | validateReleaseDirectory | rotateLogs | execute => exact coherent.attempt fault coherent
  | recordExists | findRecord | savedListExists | readMasterState
  | findMaster | masterIsRunning | awaitExit | awaitReady | epochMillis => exact coherent

theorem Coherent.moves (moves : world.Moves target) : target.Coherent := by
  cases moves with
  | stays => exact coherent
  | ready ready => exact coherent.becomesReady ready
  | exits exits => exact coherent.exits exits
  | ticks millis => exact coherent.of_same coherent.named rfl rfl rfl

end World

end Pam.Manager
