import Pam.Manager.Daemon
import Pam.Manager.RecordFile

namespace Pam.Manager

/-! `resurrect_saved`, with what the files and the launch of each saved
application answer. -/

structure SavedEntry where
  saved : SavedApplication
  read : Except String ApplicationRecord
  write : ApplicationRecord → Except String Unit
  running : ApplicationRecord → Bool
  restart : ApplicationRecord → Except String Unit

structure SavedProcessList where
  schemaVersion : Nat
  applications : List SavedEntry

/-- The loop's body up to the launch, if one follows. -/
def SavedEntry.prepare (entry : SavedEntry) : Except String (Option ApplicationRecord) := do
  validateName entry.saved.name
  if entry.saved.desiredState != .online then return none
  let record := resetRecovery (← entry.read)
  entry.write record
  return if entry.running record then none else some record

/-- The positions at which a launch is attempted, and the names returned. -/
def resurrectEntries : List SavedEntry → List Nat × Except String (List AppName)
  | [] => ([], .ok [])
  | entry :: entries =>
    let later := resurrectEntries entries
    match entry.prepare with
    | .error message => ([], .error message)
    | .ok none => (later.1.map (· + 1), later.2)
    | .ok (some record) =>
      match entry.restart record with
      | .error message => ([0], .error message)
      | .ok () => (0 :: later.1.map (· + 1), later.2.map (entry.saved.name :: ·))

def resurrectDump (dump : SavedProcessList) : List Nat × Except String (List AppName) :=
  if dump.schemaVersion ≠ 1 ∨ maxApplications < dump.applications.length then
    ([], .error "unsupported or oversized saved process list")
  else resurrectEntries dump.applications

def SavedEntry.Due (entry : SavedEntry) : Prop :=
  entry.saved.desiredState = .online ∧ ∃ record, entry.read = .ok record ∧
    entry.running (resetRecovery record) = false

def SavedEntry.Passes (entry : SavedEntry) : Prop := validateName entry.saved.name = .ok () ∧
    (entry.saved.desiredState = .online → ∃ record, entry.read = .ok record ∧
      entry.write (resetRecovery record) = .ok () ∧
      (entry.running (resetRecovery record) = true ∨ entry.restart (resetRecovery record) = .ok ()))

def SavedEntry.Writable (entry : SavedEntry) : Prop :=
  validateName entry.saved.name = .ok () ∧ ∀ record,
    entry.read = .ok record → entry.write (resetRecovery record) = .ok ()

def SavedEntry.Launches (entry : SavedEntry) : Prop := ∃ record, entry.prepare = .ok (some record)

theorem launches_iff {entry : SavedEntry} (due : entry.Due) : entry.Launches ↔ entry.Writable := by
  obtain ⟨online, record, read, idle⟩ := due
  cases name : validateName entry.saved.name <;>
    cases write : entry.write (resetRecovery record) <;>
      simp [SavedEntry.Launches, SavedEntry.Writable, SavedEntry.prepare, *,
        bind, Except.bind, pure, Except.pure]

theorem passes_iff {entry : SavedEntry} : entry.Passes ↔ entry.prepare = .ok none ∨
      ∃ record, entry.prepare = .ok (some record) ∧ entry.restart record = .ok () := by
  cases name : validateName entry.saved.name <;>
    by_cases online : entry.saved.desiredState = .online <;> cases read : entry.read <;>
        simp [SavedEntry.Passes, SavedEntry.prepare, *, bind, Except.bind, pure, Except.pure]
  next record =>
    cases write : entry.write (resetRecovery record) <;>
      cases running : entry.running (resetRecovery record) <;> simp

theorem mem_resurrectEntries : position ∈ (resurrectEntries entries).1 ↔
      (∃ entry, entries[position]? = some entry ∧ entry.Launches) ∧
        ∀ earlier ∈ entries.take position, earlier.Passes := by
  induction entries generalizing position with
  | nil => simp [resurrectEntries]
  | cons entry entries induction =>
    cases prepared : entry.prepare with
    | error message =>
      cases position <;> simp [resurrectEntries, prepared, passes_iff, SavedEntry.Launches]
    | ok launch =>
      cases launch with
      | none =>
        cases position <;> simp [resurrectEntries, prepared, passes_iff,
          SavedEntry.Launches, induction]
      | some record =>
        cases restarted : entry.restart record <;> cases position <;>
          simp [resurrectEntries, prepared, restarted, passes_iff, SavedEntry.Launches, induction]

theorem resurrects_every_due_iff (dump : SavedProcessList) :
    (∀ position entry, dump.applications[position]? = some entry →
      entry.Due → position ∈ (resurrectDump dump).1) ↔
      ∀ position entry, dump.applications[position]? = some entry →
        entry.Due → dump.schemaVersion = 1 ∧
          dump.applications.length ≤ maxApplications ∧ entry.Writable ∧
          ∀ earlier ∈ dump.applications.take position, earlier.Passes := by
  refine forall₄_congr fun position entry found due => ?_
  rw [resurrectDump]
  split
  · next refused =>
    simp only [List.not_mem_nil, false_iff]
    omega
  next accepted =>
  have supported : dump.schemaVersion = 1 ∧ dump.applications.length ≤ maxApplications := by omega
  simp [mem_resurrectEntries, found, launches_iff due, supported]

def launchableEntry (name : AppName) (read : Except String ApplicationRecord) : SavedEntry where
  saved := { name := name, desiredState := .online }
  read := read
  write _ := .ok ()
  running _ := false
  restart _ := .ok ()

/-- The record of the first application was deleted since the save. -/
def deletedFirst : SavedProcessList where
  schemaVersion := 1
  applications := [launchableEntry "api" (.error "No such file or directory"),
      launchableEntry "shop" (.ok (upRecord shopOptions 0))]

theorem deleted_record_ends_resurrection :
    ∃ entry, deletedFirst.applications[1]? = some entry ∧ entry.Due ∧
      1 ∉ (resurrectDump deletedFirst).1 := ⟨_, rfl, ⟨rfl, _, rfl, rfl⟩, by decide⟩

end Pam.Manager
