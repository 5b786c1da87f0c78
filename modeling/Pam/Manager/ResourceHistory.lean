import Mathlib.Data.List.Chain
import Pam.Manager.Daemon

namespace Pam.Manager

open Pam.Foundation List

/-! The resource histories of all applications, over the sampling passes. -/

structure ResourceSnapshot where
  rssBytes : Nat
  tasks : Nat
  observed : Bool

inductive ResourceAlertState where
  | healthy
  | memoryWarning
  | taskWarning
  | memoryAndTaskWarning
  | unavailable

def ResourceAlertState.code : ResourceAlertState → Nat
  | .healthy => 1
  | .memoryWarning => 2
  | .taskWarning => 3
  | .memoryAndTaskWarning => 4
  | .unavailable => 5

def resourceAlertState (record : ApplicationRecord)
    (resources : ResourceSnapshot) : ResourceAlertState :=
  if !resources.observed then .unavailable
  else
    match record.memoryWarningBytes.any (· ≤ resources.rssBytes),
      record.taskWarningCount.any (· ≤ resources.tasks) with
    | false, false => .healthy
    | true, false => .memoryWarning
    | false, true => .taskWarning
    | true, true => .memoryAndTaskWarning

structure ResourceHistoryEntry where
  observedAtMillis : Nat
  stateCode : Nat
  workers : Nat
  rssBytes : Nat
  tasks : Nat
  alertStateCode : Nat

/-- What a pass finds of an application. A master has at most 256 workers. -/
structure Sample where
  record : ApplicationRecord
  state : Option MasterState
  running : Bool
  resources : ResourceSnapshot
  workers_le : ∀ master ∈ state, MasterState.workers master ≤ 256

def Sample.entry (sample : Sample) (now : Nat) : ResourceHistoryEntry :=
  let online := sample.state.isSome && sample.running
  let resources := if online then sample.resources else ⟨0, 0, false⟩
  { observedAtMillis := now
    stateCode := if online then 1 else 2
    workers := sample.state.elim 0 MasterState.workers
    rssBytes := resources.rssBytes
    tasks := resources.tasks
    alertStateCode := (resourceAlertState sample.record resources).code }

def maxResourceHistory : Nat := 120

def recentEntries (entries : List ResourceHistoryEntry) : List ResourceHistoryEntry :=
  entries.drop (entries.length - maxResourceHistory)

def appendResourceEntry (history : List ResourceHistoryEntry)
    (entry : ResourceHistoryEntry) : List ResourceHistoryEntry := recentEntries (history ++ [entry])

def ResourceHistoryEntry.valid (entry : ResourceHistoryEntry) : Bool :=
  [1, 2].contains entry.stateCode && (1 ≤ entry.alertStateCode && entry.alertStateCode ≤ 5) &&
    entry.workers ≤ 256

abbrev InOrder (first second : ResourceHistoryEntry) : Prop :=
  first.observedAtMillis ≤ second.observedAtMillis

def readResourceHistory : Option (List ResourceHistoryEntry) →
      Except String (List ResourceHistoryEntry)
  | none => .ok []
  | some entries =>
    if maxResourceHistory < entries.length ∨
        entries.any (fun entry => !entry.valid) ∨ ¬ entries.IsChain InOrder then
      .error "invalid resource history contract"
    else .ok entries

/-- `sampled` lists what all passes found. -/
structure HistoryFile where
  file : Option (List ResourceHistoryEntry)
  sampled : List ResourceHistoryEntry

abbrev HistoryFiles := AppName → HistoryFile

/-- The samples that a pass ends without. -/
def HistoryFiles.miss (now : Nat) (files : HistoryFiles) (samples : List Sample) : HistoryFiles :=
  samples.foldl (fun files sample => Function.update files sample.record.name
    { files sample.record.name with
      sampled := (files sample.record.name).sampled ++ [sample.entry now] }) files

/-- One pass: the first history that cannot be read ends it for all applications
after it. -/
def recordResourceHistory (now : Nat) : List Sample → HistoryFiles → HistoryFiles
  | [], files => files
  | sample :: rest, files =>
    match readResourceHistory (files sample.record.name).file with
    | .error _ => files.miss now (sample :: rest)
    | .ok history =>
      recordResourceHistory now rest (Function.update files sample.record.name
        ⟨some (appendResourceEntry history (sample.entry now)),
          (files sample.record.name).sampled ++ [sample.entry now]⟩)

/-- The clock of a pass and the records it reads, one file each. -/
structure SamplingPass where
  now : Nat
  samples : List Sample
  distinct : (samples.map fun sample => sample.record.name).Nodup

def historyMachine : Machine HistoryFiles SamplingPass where
  start _ := ⟨none, []⟩
  next files pass := some (recordResourceHistory pass.now pass.samples files)

def HistoryFile.Readable (history : HistoryFile) : Prop :=
  readResourceHistory history.file = .ok (recentEntries history.sampled)

def HistoriesReadable (files : HistoryFiles) : Prop := ∀ name, (files name).Readable

def ClockForward (files : HistoryFiles) (pass : SamplingPass) : Prop :=
  ∀ sample ∈ pass.samples, ∀ last ∈ (files sample.record.name).sampled.getLast?,
    last.observedAtMillis ≤ pass.now

theorem valid_entry (sample : Sample) (now : Nat) : (sample.entry now).valid = true := by
  have few : sample.state.elim 0 MasterState.workers ≤ 256 := by
    cases found : sample.state with
    | none => exact Nat.zero_le _
    | some state => exact sample.workers_le state found
  have alert (state : ResourceAlertState) : 1 ≤ state.code ∧ state.code ≤ 5 := by
    cases state <;> decide
  simp only [Sample.entry, ResourceHistoryEntry.valid, alert, few]
  split <;> rfl

theorem readResourceHistory_ok_iff : readResourceHistory (some entries) = .ok entries ↔
      entries.length ≤ maxResourceHistory ∧ (∀ entry ∈ entries, entry.valid = true) ∧
        entries.IsChain InOrder := by
  simp [readResourceHistory]

theorem accepted_of_read (read : readResourceHistory file = .ok history) :
    (∀ entry ∈ history, entry.valid = true) ∧ history.IsChain InOrder := by
  cases file with
  | none =>
    cases read
    simp
  | some entries =>
    have same : entries = history := by
      simp only [readResourceHistory] at read
      split at read
      · cases read
      · exact Except.ok.inj read
    subst same
    exact (readResourceHistory_ok_iff.mp read).2

variable (entries : List ResourceHistoryEntry) (entry : ResourceHistoryEntry)

theorem recentEntries_append : recentEntries (entries ++ [entry]) =
    entries.drop (entries.length - 119) ++ [entry] := by
  have start : entries.length + 1 - maxResourceHistory =
      entries.length - 119 := Nat.succ_sub_succ ..
  rw [recentEntries, length_append, length_singleton, start,
    drop_append_of_le_length (Nat.sub_le ..)]

theorem appendResourceEntry_recentEntries : appendResourceEntry (recentEntries entries) entry =
      recentEntries (entries ++ [entry]) := by
  have start : entries.length - 120 + (entries.length - (entries.length - 120) - 119) =
        entries.length - 119 := by
    omega
  rw [appendResourceEntry, recentEntries_append, recentEntries_append,
    recentEntries, drop_drop, length_drop, maxResourceHistory, start]

theorem getLast?_drop_recent :
    (entries.drop (entries.length - 119)).getLast? = entries.getLast? := by
  cases entries with
  | nil => rfl
  | cons head tail =>
    rw [getLast?_drop, if_neg]
    simp only [length_cons]
    omega

def HistoryFile.append (history : HistoryFile) (entry : ResourceHistoryEntry) : HistoryFile where
  file := some (appendResourceEntry (recentEntries history.sampled) entry)
  sampled := history.sampled ++ [entry]

theorem readable_append_iff {history : HistoryFile} (readable : history.Readable)
    (sample : Sample) (now : Nat) : (history.append (sample.entry now)).Readable ↔
      ∀ last ∈ history.sampled.getLast?, last.observedAtMillis ≤ now := by
  obtain ⟨valid, inOrder⟩ := accepted_of_read readable
  have suffix : history.sampled.drop (history.sampled.length - 119) <:+
      recentEntries history.sampled :=
    drop_suffix_drop_left _ (by simp only [maxResourceHistory]; omega)
  simp only [HistoryFile.Readable, HistoryFile.append, appendResourceEntry_recentEntries]
  rw [readResourceHistory_ok_iff, recentEntries_append, isChain_append, getLast?_drop_recent]
  have short : (history.sampled.drop (history.sampled.length - 119) ++
      [sample.entry now]).length ≤ maxResourceHistory := by
    simp only [length_append, length_drop, length_singleton, maxResourceHistory]
    omega
  have allValid : ∀ entry ∈ history.sampled.drop (history.sampled.length - 119) ++
      [sample.entry now], entry.valid = true := by
    intro entry member
    rcases mem_append.mp member with old | new
    · exact valid entry (suffix.subset old)
    · cases mem_singleton.mp new
      exact valid_entry sample now
  rw [and_iff_right short, and_iff_right allValid, and_iff_right (inOrder.suffix suffix)]
  simp [Sample.entry]

/-- A pass over readable histories appends to each of them. -/
theorem recordResourceHistory_apply (now : Nat) {files : HistoryFiles} {samples : List Sample}
    (readable : ∀ sample ∈ samples, (files sample.record.name).Readable)
    (distinct : (samples.map fun sample => sample.record.name).Nodup) (name : AppName) :
    recordResourceHistory now samples files name =
      match samples.find? fun sample => sample.record.name == name with
      | none => files name
      | some sample => (files name).append (sample.entry now) := by
  induction samples generalizing files with
  | nil => rfl
  | cons sample rest induction =>
    obtain ⟨first, others⟩ := forall_mem_cons.mp readable
    obtain ⟨fresh, distinct⟩ := nodup_cons.mp distinct
    have away : ∀ other ∈ rest, other.record.name ≠ sample.record.name := by
      intro other member same
      exact fresh (mem_map.mpr ⟨other, member, same⟩)
    rw [recordResourceHistory, first]
    dsimp only
    rw [induction _ distinct]
    · by_cases same : sample.record.name = name
      · have none : rest.find? (fun sample => sample.record.name == name) = none := by
          rw [find?_eq_none]
          intro other member
          simpa [← same] using away other member
        rw [none, find?_cons_of_pos (by simpa using same)]
        subst same
        exact Function.update_self ..
      · rw [find?_cons_of_neg (by simpa using same), Function.update_of_ne (Ne.symm same)]
    · intro other member
      rw [Function.update_of_ne (away other member)]
      exact others other member

theorem find?_of_nodup {samples : List Sample} {sample : Sample}
    (distinct : (samples.map fun sample => sample.record.name).Nodup) (member : sample ∈ samples) :
    samples.find? (fun other => other.record.name == sample.record.name) = some sample := by
  cases found : samples.find? fun other => other.record.name == sample.record.name with
  | none => exact absurd (find?_eq_none.mp found sample member) (by simp)
  | some other =>
    have named : other.record.name = sample.record.name := by simpa using find?_some found
    rw [inj_on_of_nodup_map distinct (mem_of_find?_eq_some found) member named]

theorem readable_record_iff {files : HistoryFiles} (readable : HistoriesReadable files)
    (pass : SamplingPass) :
    HistoriesReadable (recordResourceHistory pass.now pass.samples files) ↔
      ClockForward files pass := by
  have applied := recordResourceHistory_apply pass.now (fun sample _ => readable _) pass.distinct
  constructor
  · intro after sample member
    apply (readable_append_iff (readable sample.record.name) sample pass.now).mp
    have found : pass.samples.find? (fun other => other.record.name == sample.record.name) =
        some sample := find?_of_nodup pass.distinct member
    have after := after sample.record.name
    rwa [applied, found] at after
  · intro forward name
    rw [applied]
    cases found : pass.samples.find? fun sample => sample.record.name == name with
    | none => exact readable name
    | some sample =>
      have named : sample.record.name = name := by simpa using find?_some found
      subst named
      exact (readable_append_iff (readable _) sample pass.now).mpr
        (forward sample (mem_of_find?_eq_some found))

theorem history_readable_iff (passes : List SamplingPass) :
    (∀ files ∈ historyMachine.visited historyMachine.start passes, HistoriesReadable files) ↔
      ∀ transition ∈ historyMachine.transitions historyMachine.start passes,
        ClockForward transition.source transition.label := by
  refine historyMachine.visited_iff_guarded HistoriesReadable ClockForward
    HistoriesReadable id ?_ ?_ ?_ passes
  · intro files pass target readable forward step
    cases step
    exact (readable_record_iff readable pass).mpr forward
  · intro files pass target readable backward step
    cases step
    exact mt (readable_record_iff readable pass).mp backward
  · intro name
    exact (rfl : readResourceHistory none = .ok [])

def stoppedSample : Sample := ⟨upRecord shopOptions 0, none, false, ⟨0, 0, false⟩, nofun⟩

/-- The clock is set back by a second between two passes. -/
theorem history_unreadable_after_setback : ¬ ∀ files ∈ historyMachine.visited historyMachine.start
        [⟨2000, [stoppedSample], nodup_singleton _⟩, ⟨1000, [stoppedSample], nodup_singleton _⟩],
      HistoriesReadable files := by
  intro readable
  have last := readable _ (mem_of_getElem? (i := 2) rfl) stoppedSample.record.name
  cases last

end Pam.Manager
