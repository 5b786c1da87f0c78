import Pam.Manager.RecordFile
import Pam.Manager.RecordUpdates

namespace Pam.Manager

open Pam.Foundation List Option Table

/-! Every record that is written can be read back, unless it is too large. -/

def ManagerAction.recordRead : (action : ManagerAction) → action.Answer → Option ApplicationRecord
  | .readRecord _, .ok record => some record
  | _, _ => none

variable (addresses : SocketAddresses)

noncomputable def filing : Monitor ManagerAction ManagerAction.Answer Unit where
  permits _ action := match action with
    | .writeRecord record => record.Valid addresses
    | _ => True
  learns _ action answer := open Classical in if action.regular answer = true ∧
        ∀ record ∈ action.recordRead answer, record.Valid addresses then
      some ()
    else none

def validRecords : Ledger Unit where
  copied _ record := record.Valid addresses
  restorable _ record := record.Valid addresses
  absent _ _ := True

def KeepsValid (edited record : ApplicationRecord) : Prop :=
  record.Valid addresses → edited.Valid addresses

variable {addresses}

theorem filing_learns (learns : (filing addresses).learns () action answer = some ()) :
    action.regular answer = true ∧ ∀ record ∈ action.recordRead answer, record.Valid addresses := by
  by_contra unknown
  have nothing : (filing addresses).learns () action answer = none := if_neg unknown
  rw [nothing] at learns
  cases learns

theorem filing_learns_of (regular : action.regular answer = true)
    (valid : ∀ record ∈ action.recordRead answer, record.Valid addresses) :
    (filing addresses).learns () action answer = some () := if_pos ⟨regular, valid⟩

theorem filing_bookkeeper : Bookkeeper (filing addresses)
    (validRecords addresses) (KeepsValid addresses) (ApplicationRecord.Valid addresses) where
  passes := by
    intro known action untouched
    cases action <;> trivial
  passed := fun _ _ => rfl
  listed := by
    intro known learned names learns
    exact of_decide_eq_true (filing_learns learns).1
  reads := trivial
  keepsRead := fun _ => ⟨fun _ _ => id, fun _ => id⟩
  copied := by
    intro known learned name record learns
    obtain ⟨regular, valid⟩ := filing_learns learns
    obtain ⟨named, current⟩ := Bool.and_eq_true_iff.mp regular
    rw [beq_iff_eq] at named
    subst named
    exact ⟨rfl, bne_iff_ne.mp current, valid record rfl⟩
  writes := fun copied edit => edit copied
  keepsWrite := fun _ => ⟨fun _ _ => id, fun _ => id⟩
  written := fun permitted _ => permitted
  finds := trivial
  found := fun _ => trivial
  creates := fun _ create => create
  executes := trivial
  keepsExecute := fun _ => id
  replaces := fun _ _ => id
  restores := id

theorem keepsValid_scheduleRecovery (now : Nat) :
    KeepsValid addresses (scheduleRecovery record now) record := by
  intro valid
  unfold scheduleRecovery
  dsimp only
  split <;> exact ⟨valid.schemaVersion, valid.name, valid.policies⟩

theorem keepsValid_resetRecovery : KeepsValid addresses (resetRecovery record) record :=
  fun valid => ⟨valid.schemaVersion, valid.name, valid.policies⟩

theorem keepsValid_releaseRecord (release : Directory) :
    KeepsValid addresses (releaseRecord record release) record ∧
      KeepsValid addresses record (releaseRecord record release) :=
  ⟨fun valid => ⟨valid.schemaVersion, valid.name, valid.policies⟩,
    fun valid => ⟨valid.schemaVersion, valid.name, valid.policies⟩⟩

theorem keepsValid_supervision : SupervisionEdits (KeepsValid addresses) where
  stabilized := fun _ valid => ⟨valid.schemaVersion, valid.name, valid.policies⟩
  exitDetected := fun _ now valid => keepsValid_scheduleRecovery now
    ⟨valid.schemaVersion, valid.name, valid.policies⟩
  recovered := fun _ _ _ valid => ⟨valid.schemaVersion, valid.name, valid.policies⟩
  rescheduled := fun _ _ failed valid => keepsValid_scheduleRecovery failed
    ⟨valid.schemaVersion, valid.name, valid.policies⟩

theorem keepsValid_health : HealthEdits (KeepsValid addresses) where
  healthy := fun _ _ valid => ⟨valid.schemaVersion, valid.name, valid.policies⟩
  failing := fun _ _ valid => ⟨valid.schemaVersion, valid.name, valid.policies⟩
  unhealthy := fun _ _ valid => ⟨valid.schemaVersion, valid.name, valid.policies⟩

variable (addresses)

def ManagerCommand.Accepted : ManagerCommand → Prop
  | .up options => options.Accepted addresses
  | _ => True

def LocalCommand.Accepted : LocalCommand → Prop
  | .attach options => options.Accepted addresses
  | .apply applications => ∀ entry ∈ applications, entry.2.Accepted addresses entry.1

def Origin.Accepted : Origin → Prop
  | .request command => command.Accepted addresses
  | _ => True

variable {addresses}

theorem ManagerCommand.Accepted.edits {command : ManagerCommand}
    (accepted : command.Accepted addresses) :
    command.Edits (KeepsValid addresses) (ApplicationRecord.Valid addresses) := by
  cases command with
  | up options => exact UpOptions.Accepted.valid accepted
  | restart name | resurrect => exact fun record => keepsValid_resetRecovery
  | scale name workers =>
    exact fun record _ valid => ⟨valid.schemaVersion, valid.name, valid.policies⟩
  | stop name => exact fun record valid => ⟨valid.schemaVersion, valid.name, valid.policies⟩
  | delete name | save => trivial
  | deploy name release | rollback name steps => exact fun record => keepsValid_releaseRecord

theorem filing_originProgram {origin : Origin} (accepted : origin.Accepted addresses) :
    (filing addresses).Obeys () origin.program.run := by
  apply (filing_bookkeeper.originProgram ?_).obeys
  cases origin with
  | request command => exact ManagerCommand.Accepted.edits accepted
  | supervision => exact keepsValid_supervision
  | healthResults results => exact keepsValid_health
  | start => exact fun record => keepsValid_resetRecovery

theorem filing_localProgram {command : LocalCommand} (accepted : command.Accepted addresses) :
    (filing addresses).Obeys () command.program.run := by
  apply (filing_bookkeeper.localProgram ?_).obeys
  cases command with
  | attach options => exact UpOptions.Accepted.valid accepted
  | apply applications =>
    intro entry member record named
    exact ⟨fun valid => ⟨valid.schemaVersion, valid.name, valid.policies⟩,
      (accepted entry member).valid⟩

variable (addresses)

def World.Readable (world : World) : Prop :=
  ∀ name record, world.records.lookup name = some record → record.Valid addresses

/-- The options of a command that starts have passed their checks. -/
def ManagerState.StartsAccepted (state : ManagerState) : ManagerLabel → Prop
  | .issueLocal command => command.Accepted addresses
  | .accept index => ∀ request ∈ state.requests[index]?, request.command.Accepted addresses
  | _ => True

structure Filing (state : ManagerState) : Prop where
  coherent : state.world.Coherent
  readable : state.world.Readable addresses
  daemon : ∀ job ∈ state.job, (filing addresses).Obeys () job.program
  clients : ∀ {id client}, state.clients.lookup id = some client →
    (filing addresses).Obeys () client.program

variable {addresses}

section

variable (kept : Filing addresses state)
include kept

theorem Filing.perform {next : action.Answer → ManagerProgram Result}
    (obeys : (filing addresses).Obeys () (.perform action next)) :
    (state.world.perform fault action).2.Coherent ∧
      (state.world.perform fault action).2.Readable addresses ∧
      (filing addresses).Obeys () (next (state.world.perform fault action).1) := by
  have current : state.world.Current := by
    intro name record found
    rw [(kept.readable name record found).schemaVersion]
    exact Nat.succ_ne_self 1
  refine ⟨kept.coherent.perform fault action, ?_, ?_⟩
  · intro name record found
    rcases lookup_records_perform found with before | ⟨rfl, _⟩
    · exact kept.readable name record before
    · exact obeys.permits
  · apply obeys.step
    apply filing_learns_of (regular_perform kept.coherent current)
    intro record read
    cases action with
    | readRecord name =>
      cases fault with
      | some message => cases read
      | none =>
        simp only [World.perform] at read
        cases found : state.world.records.lookup name with
        | none =>
          rw [found] at read
          cases read
        | some stored =>
          rw [found] at read
          cases read
          exact kept.readable name record found
    | _ => cases read

theorem Filing.daemonStep (step : state.daemonStep fault = some target) :
    Filing addresses target := by
  unfold ManagerState.daemonStep at step
  split at step
  · cases step
  next job =>
    cases step
    refine ⟨kept.coherent, kept.readable, ?_, ?_⟩
    · intro job member
      cases member
    intro id client found
    rcases lookup_deliver found with before | ⟨command, executed, next, answer, before, rfl⟩
    · exact kept.clients before
    apply (kept.clients before).step
    apply filing_learns_of rfl
    intro record read
    cases read
  next job =>
  cases step
  obtain ⟨coherent, readable, obeys⟩ := kept.perform (kept.daemon _ job)
  refine ⟨coherent, readable, ?_, kept.clients⟩
  intro running member
  cases member
  exact obeys

theorem Filing.clientStep {id : ClientId} (step : state.clientStep id fault = some target) :
    Filing addresses target := by
  obtain ⟨client, found, did⟩ := clientStep_cases step
  have obeys := kept.clients found
  rcases did with rfl | ⟨command, next, program, _, rfl⟩ | ⟨action, next, program, _, rfl⟩
  · refine ⟨kept.coherent, kept.readable, kept.daemon, ?_⟩
    intro other client lookup
    exact kept.clients (lookup_of_lookup_erase lookup).1
  · refine ⟨kept.coherent, kept.readable, kept.daemon, ?_⟩
    intro other client lookup
    rcases lookup_of_lookup_insert lookup with ⟨rfl, rfl⟩ | ⟨_, before⟩
    · exact obeys
    · exact kept.clients before
  · rw [program] at obeys
    obtain ⟨coherent, readable, rest⟩ := kept.perform obeys
    refine ⟨coherent, readable, kept.daemon, ?_⟩
    intro other client lookup
    rcases lookup_of_lookup_insert lookup with ⟨rfl, rfl⟩ | ⟨_, before⟩
    · exact rest
    · exact kept.clients before

theorem Filing.begin (origin : Origin) (accepted : origin.Accepted addresses)
    (client : Option ClientId) : Filing addresses (state.begin origin client) := by
  refine ⟨kept.coherent, kept.readable, ?_, kept.clients⟩
  intro job member
  cases member
  exact filing_originProgram accepted

theorem Filing.outside (moves : state.world.Moves world) :
    Filing addresses { state with world := world } := by
  refine ⟨kept.coherent.moves moves, ?_, kept.daemon, kept.clients⟩
  intro name record found
  rw [records_of_moves moves] at found
  exact kept.readable name record found

theorem Filing.next (accepted : state.StartsAccepted addresses label)
    (step : managerStep state label = some target) : Filing addresses target := by
  cases label with
  | daemonStep fault => exact kept.daemonStep step
  | clientStep id fault => exact kept.clientStep step
  | issue command =>
    cases step
    exact ⟨kept.coherent, kept.readable, kept.daemon, kept.clients⟩
  | issueLocal command =>
    cases step
    refine ⟨kept.coherent, kept.readable, kept.daemon, ?_⟩
    intro id client lookup
    rcases lookup_of_lookup_insert lookup with ⟨_, rfl⟩ | ⟨_, before⟩
    · exact filing_localProgram accepted
    · exact kept.clients before
  | startDaemon =>
    dsimp only [managerStep] at step
    split at step
    · cases step
    · cases step
      exact kept.begin .start trivial none
  | stopDaemon =>
    obtain ⟨_, same⟩ := ite_none_right_eq_some.mp step
    cases same
    exact ⟨kept.coherent, kept.readable, kept.daemon, kept.clients⟩
  | accept index =>
    dsimp only [managerStep] at step
    split at step
    · cases step
    next request found =>
    obtain ⟨_, same⟩ := ite_none_right_eq_some.mp step
    cases same
    have begun := kept.begin (.request request.command) (accepted request found) request.client
    exact ⟨begun.coherent, begun.readable, begun.daemon, begun.clients⟩
  | supervise =>
    obtain ⟨_, same⟩ := ite_none_right_eq_some.mp step
    cases same
    exact kept.begin .supervision trivial none
  | applyHealth results =>
    obtain ⟨_, same⟩ := ite_none_right_eq_some.mp step
    cases same
    exact kept.begin (.healthResults results) trivial none
  | ready pid workers =>
    obtain ⟨world, ready, rfl⟩ := map_eq_some_iff.mp step
    exact kept.outside (.ready ready)
  | exit pid graceful =>
    obtain ⟨world, exits, rfl⟩ := map_eq_some_iff.mp step
    exact kept.outside (.exits exits)
  | tick millis =>
    cases step
    exact kept.outside (.ticks millis)

end

theorem Filing.initial : Filing addresses .initial where
  coherent := World.Coherent.initial
  readable := by
    intro name record found
    cases found
  daemon := by
    intro job member
    cases member
  clients := by
    intro id client found
    cases found

theorem Filing.valid_of_write (kept : Filing addresses state)
    (writes : state.write label = some write) : write.record.Valid addresses := by
  obtain ⟨access, accesses, written⟩ := bind_eq_some_iff.mp writes
  obtain ⟨_, _, action⟩ := Access.write_eq written
  suffices permitted : (filing addresses).permits () access.action by
    rw [action] at permitted
    exact permitted
  cases label with
  | daemonStep fault =>
    dsimp only [ManagerState.access] at accesses
    split at accesses
    next job =>
      cases accesses
      exact (kept.daemon _ job).permits
    · cases accesses
  | clientStep id fault =>
    dsimp only [ManagerState.access] at accesses
    split at accesses
    next found =>
      cases accesses
      exact (kept.clients found).permits
    · cases accesses
  | _ => cases accesses

theorem written_read_back_iff (addresses : SocketAddresses) (labels : List ManagerLabel)
    (accepted : ∀ transition ∈ managerMachine.transitions .initial labels,
      transition.source.StartsAccepted addresses transition.label) :
    ∀ transition ∈ managerMachine.transitions .initial labels,
      ∀ write ∈ transition.source.write transition.label,
        ∀ (format : RecordFormat) (online : ApplicationRecord → Bool) (logs : LogFields),
          readRecordText addresses format online
              (format.write ⟨write.record, logs⟩) = .ok ⟨write.record, logs⟩ ↔
            format.size (format.write ⟨write.record, logs⟩) ≤ maxRecordBytes := by
  have valid : ∀ transition ∈ managerMachine.transitions .initial labels,
      ∀ write ∈ transition.source.write transition.label, write.record.Valid addresses := by
    refine managerMachine.transitions_of_guarded (Filing addresses)
      (fun state label => state.StartsAccepted addresses label)
      (fun state label _ => ∀ write ∈ state.write label,
        write.record.Valid addresses) ?_ .initial accepted
    intro state label target kept starts step
    exact ⟨kept.next starts step, fun write writes => kept.valid_of_write writes⟩
  intro transition member write writes format online logs
  exact readRecordText_write_iff addresses (valid transition member write writes)

def localAddress : SocketAddresses where
  parse text := if text = "127.0.0.1:8080" then some text else none
  isLoopback _ := true
  parse_parse := by
    intro text address parsed
    split at parsed
    next same =>
      cases parsed
      exact if_pos same
    · cases parsed
  slash_notMem := by
    intro text address parsed
    split at parsed
    next same =>
      cases parsed
      rw [same]
      decide
    · cases parsed

def shopWith (arguments : List String) : UpOptions :=
  { shopOptions with applicationArguments := arguments }

def attachedShop (arguments : List String) : List ManagerLabel :=
  [.issueLocal (.attach (shopWith arguments))] ++ clientSteps 0 3 ++ [.ready 1 1] ++ clientSteps 0 3

variable (arguments : List String)

theorem shopWith_accepted : (shopWith arguments).Accepted localAddress := by
  refine ⟨none, none, ?_, rfl, rfl⟩
  have valid : shopOptions.validate localAddress none = .ok none := by decide +kernel
  exact valid

theorem attachedShop_accepted :
    ∀ transition ∈ managerMachine.transitions .initial (attachedShop arguments),
      transition.source.StartsAccepted localAddress transition.label := by
  intro transition member
  have named := managerMachine.label_mem_of_mem_transitions member
  simp only [attachedShop, clientSteps, mem_append, mem_singleton, mem_replicate] at named
  rcases named with ((same | ⟨_, same⟩) | same) | ⟨_, same⟩
  · rw [same]
    exact shopWith_accepted arguments
  · rw [same]
    trivial
  · rw [same]
    trivial
  · rw [same]
    trivial

theorem attachedShop_read_back :
    (∀ transition ∈ managerMachine.transitions .initial (attachedShop []),
      transition.source.StartsAccepted localAddress transition.label) ∧
    ∀ transition ∈ managerMachine.transitions .initial (attachedShop []),
      ∀ write ∈ transition.source.write transition.label,
        ∀ (format : RecordFormat) (online : ApplicationRecord → Bool) (logs : LogFields),
          readRecordText localAddress format online
              (format.write ⟨write.record, logs⟩) = .ok ⟨write.record, logs⟩ ↔
            format.size (format.write ⟨write.record, logs⟩) ≤ maxRecordBytes :=
  ⟨attachedShop_accepted [], written_read_back_iff localAddress _ (attachedShop_accepted [])⟩

def longArguments : List String := List.replicate 9 (String.ofList (List.replicate 131000 'a'))

theorem write_attachedShop : ∃ transition ∈ managerMachine.transitions .initial
        (attachedShop arguments), ∃ write ∈ transition.source.write transition.label,
        write.record = upRecord (shopWith arguments) 0 := by
  have writes : (managerMachine.transitions .initial (attachedShop arguments)).filterMap
        (fun transition => transition.source.write transition.label) =
      [⟨.client 0, .client (.attach (shopWith arguments)), upRecord (shopWith arguments) 0⟩] := rfl
  obtain ⟨transition, member, written⟩ := mem_filterMap.mp (writes ▸ mem_singleton_self _)
  exact ⟨transition, member, _, written, rfl⟩

theorem total_arguments_le_command (options : UpOptions) :
    FieldValue.total String.length options.applicationArguments ≤
      FieldValue.total String.length options.launch.command := by
  refine Nat.le_trans ?_ (Nat.le_add_left _ "pam".length)
  change _ ≤ FieldValue.total String.length (launchArguments options)
  rw [launchArguments, total_append]
  refine Nat.le_trans ?_ (Nat.le_add_left _ _)
  split
  · next empty => rw [isEmpty_iff.mp empty]
  · exact Nat.le_add_left _ "--".length

theorem refused_of_long (accepted : options.Accepted addresses)
    (long : maxRecordBytes < FieldValue.total String.length options.applicationArguments) :
    readRecordText addresses (prettyFormat runtime) online
        ((prettyFormat runtime).write ⟨upRecord options now, logs⟩) ≠
      .ok ⟨upRecord options now, logs⟩ := by
  intro read
  have valid : (⟨upRecord options now, logs⟩ : RecordFile).record.Valid
      addresses := accepted.valid now
  have small := (readRecordText_write_iff addresses valid).mp read
  have large := Nat.le_trans (total_arguments_le_command options)
    (total_command_le_size runtime ⟨upRecord options now, logs⟩)
  exact absurd (Nat.lt_of_lt_of_le long large) (Nat.not_lt_of_le small)

theorem long_arguments_refused : ¬ ∀ (addresses : SocketAddresses) (format : RecordFormat)
        (labels : List ManagerLabel), (∀ transition ∈ managerMachine.transitions .initial labels,
        transition.source.StartsAccepted addresses transition.label) →
      ∀ transition ∈ managerMachine.transitions .initial labels,
        ∀ write ∈ transition.source.write transition.label,
          ∀ (online : ApplicationRecord → Bool) (logs : LogFields),
            readRecordText addresses format online (format.write ⟨write.record, logs⟩) =
              .ok ⟨write.record, logs⟩ := by
  intro always
  have long : maxRecordBytes < FieldValue.total String.length longArguments := by
    rw [longArguments, total_replicate, String.length_ofList, length_replicate]
    decide
  obtain ⟨transition, member, write, written, record⟩ := write_attachedShop longArguments
  have read := always localAddress (prettyFormat "/run/pam")
    (attachedShop longArguments) (attachedShop_accepted longArguments)
    transition member write written (fun _ => true)
    ⟨"/var/log/shop.out.log", "/var/log/shop.error.log", 10485760, 5⟩
  rw [record] at read
  exact refused_of_long (shopWith_accepted longArguments) long read

end Pam.Manager
