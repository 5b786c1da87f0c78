import Pam.Foundation.Codec
import Pam.Server.CachePurge

namespace Pam.Server

open Pam.Foundation List Function Table

/-! The invalidation log that the workers share. A record is one line; offsets
are counted in records, since every stored one is a record boundary. Each access
to the log, an offset or a cache is a step. The `startedAt` of a cached response
is here the number of records there were when it was stored. -/

def renderInvalidation (tag : Option String) : String := tag.getD "*"

def trim (text : List Char) : List Char :=
  ((text.dropWhile isWhitespace).reverse.dropWhile isWhitespace).reverse

structure Invalidations where
  purgeAll : Bool
  tags : List String

def readLine (invalidations : Invalidations) (line : String) : Invalidations :=
  let invalidation := String.ofList (trim line.toList)
  if invalidation = "*" then { invalidations with purgeAll := true }
  else if validCacheTag invalidation then
    { invalidations with tags := invalidation :: invalidations.tags }
  else invalidations

def readLines (purgeAll : Bool) (lines : List String) : Invalidations :=
  lines.foldl readLine ⟨purgeAll, []⟩

/-- What is published: everything or a tag that `handle_cache_purge` has checked. -/
abbrev Publication := { tag : Option String // tag.all validCacheTag = true }

/-- `author` is the worker that appended the record. -/
structure LogRecord where
  author : Nat
  publication : Publication

def LogRecord.line (record : LogRecord) : String :=
  renderInvalidation record.publication.val ++ "\n"

/-- `readRecords` are the positions of the records that a synchronization of the
worker has read. -/
structure LogWorker where
  offset : Nat
  nextInvalidationAt : Nat
  cache : ResponseCache
  readRecords : List Nat

/-- The stages of `synchronize_cache_invalidations` and, from `appending` on, of
`publish_cache_invalidation` and `handle_cache_purge`. A synchronization holds
the records it has read, from `first` to before `last`, until it has purged the
cache. -/
inductive LogStage where
  | opened
  | measured (length : Nat)
  | loaded (offset : Nat) (purgeAll : Bool)
  | read (first last : Nat) (invalidations : Invalidations)
  | offsetStored (first last : Nat) (invalidations : Invalidations)
  | appending
  | appended
  | lengthMeasured (length : Nat)
  | published
  | finished

structure LogTask where
  worker : Nat
  publishes : Option Publication
  stage : LogStage

structure LogState where
  log : List LogRecord
  workers : Nat → LogWorker
  tasks : List LogTask

def LogState.initial : LogState where
  log := []
  workers := fun _ => ⟨0, 0, .empty, []⟩
  tasks := []

def LogTask.moveTo (task : LogTask) (stage : LogStage) : LogTask := { task with stage := stage }

def LogTask.synchronized (task : LogTask) : LogTask :=
  task.moveTo (if task.publishes.isSome then .appending else .finished)

def LogState.setTask (state : LogState) (number : Nat) (task : LogTask) : LogState :=
  { state with tasks := state.tasks.set number task }

def LogState.updateWorker (state : LogState) (worker : Nat)
    (change : LogWorker → LogWorker) : LogState := { state with
    workers := Function.update state.workers worker (change (state.workers worker)) }

def LogState.append (state : LogState) (worker : Nat) (publication : Publication) : LogState :=
  { state with log := state.log ++ [⟨worker, publication⟩] }

def advanceTask (state : LogState) (number : Nat) (task : LogTask)
    (succeeds : Bool) : Option LogState :=
  let worker := task.worker
  match task.stage with
  | .opened =>
    let length := if succeeds then state.log.length else 0
    some (state.setTask number (task.moveTo (.measured length)))
  | .measured length =>
    let offset := (state.workers worker).offset
    let stage := if length < offset then .loaded 0 true else .loaded offset false
    some (state.setTask number (task.moveTo stage))
  | .loaded offset purgeAll =>
    if succeeds then
      let lines := (state.log.drop offset).map LogRecord.line
      let last := max offset state.log.length
      some ((state.updateWorker worker fun entry => { entry with
          readRecords := entry.readRecords ++ List.range' offset (last - offset) }).setTask number
        (task.moveTo (.read offset last (readLines purgeAll lines))))
    else some (state.setTask number task.synchronized)
  | .read first last invalidations =>
    let next := task.moveTo (.offsetStored first last invalidations)
    if succeeds then
      some ((state.updateWorker worker fun entry =>
        { entry with offset := last }).setTask number next)
    else some (state.setTask number next)
  | .offsetStored _ _ invalidations => some ((state.updateWorker worker fun entry =>
      { entry with
        cache := applyInvalidations entry.cache invalidations.purgeAll
          invalidations.tags }).setTask number task.synchronized)
  | .appending =>
    if succeeds then task.publishes.map fun publication =>
      (state.append worker publication).setTask number (task.moveTo .appended)
    else some (state.setTask number (task.moveTo .finished))
  | .appended =>
    let stage := if succeeds then .lengthMeasured state.log.length else .published
    some (state.setTask number (task.moveTo stage))
  | .lengthMeasured length => some ((state.updateWorker worker fun entry =>
      { entry with offset := length }).setTask number (task.moveTo .published))
  | .published => task.publishes.map fun publication =>
      (state.updateWorker worker fun entry => { entry with
        cache := (purgeCachedResponses entry.cache publication.val).1 }).setTask number
      (task.moveTo .finished)
  | .finished => none

inductive LogLabel where
  | store (worker : Nat) (key : String) (cached : CachedResponse) (now : Nat)
  | synchronize (worker now : Nat)
  | publish (worker now : Nat) (tag : Option String) (opens : Bool)
  | advance (task : Nat) (succeeds : Bool)
  | appendUnsynced (task : Nat)
  | drop (task : Nat)

def LogState.start (state : LogState) (worker now : Nat) (task : LogTask) : LogState :=
  { state.updateWorker worker fun entry => { entry with nextInvalidationAt := now + 100 } with
    tasks := state.tasks ++ [task] }

def logNext (config : CacheConfig) (state : LogState) : LogLabel → Option LogState
  | .store worker key cached now => some (state.updateWorker worker fun entry => { entry with
      cache := storeCachedResponse config entry.cache key
        { cached with startedAt := state.log.length } now })
  | .synchronize worker now =>
    if now < (state.workers worker).nextInvalidationAt then some state
    else some (state.start worker now ⟨worker, none, .opened⟩)
  | .publish worker now tag opens =>
    if valid : tag.all validCacheTag then
      let stage := if opens then .opened else .appending
      some (state.start worker now ⟨worker, some ⟨tag, valid⟩, stage⟩)
    else none
  | .advance number succeeds =>
    match state.tasks[number]? with
    | none => none
    | some task => advanceTask state number task succeeds
  | .appendUnsynced number =>
    -- The record is written but `sync_data` fails, so the purge fails.
    match state.tasks[number]? with
    | some ⟨worker, some publication, .appending⟩ =>
      some ((state.append worker publication).setTask number
        ⟨worker, some publication, .finished⟩)
    | _ => none
  | .drop number =>
    -- A request's future is dropped while it waits for the cache's lock.
    match state.tasks[number]? with
    | some ⟨worker, publishes, .offsetStored _ _ _⟩ =>
      some (state.setTask number ⟨worker, publishes, .finished⟩)
    | some ⟨worker, publishes, .published⟩ =>
      some (state.setTask number ⟨worker, publishes, .finished⟩)
    | _ => none

def logMachine (config : CacheConfig) : Machine LogState LogLabel where
  start := .initial
  next := logNext config

def LogStage.held : LogStage → Option (Nat × Nat)
  | .read first last _ => some (first, last)
  | .offsetStored first last _ => some (first, last)
  | _ => none

def LogTask.Holds (task : LogTask) (position : Nat) : Prop :=
  ∃ range ∈ task.stage.held, range.1 ≤ position ∧ position < range.2

def Foreign (log : List LogRecord) (worker position : Nat) : Prop :=
  ∃ record ∈ log[position]?, record.author ≠ worker

/-- No response that was stored before the record at the position, and that the
record hits, is cached. -/
def Cleared (log : List LogRecord) (entries : CacheEntries) (position : Nat) : Prop :=
  ∀ record ∈ log[position]?, ∀ entry ∈ entries.entries, entry.2.startedAt ≤ position →
    purgeHits entry.2 record.publication.val = false

/-- Every record of another worker before a worker's offset has been applied to
its cache, unless one of its synchronizations still holds the record. -/
def NothingPassedOver (state : LogState) : Prop :=
  ∀ worker position, position < (state.workers worker).offset → Foreign state.log worker position →
    (∀ task ∈ state.tasks, task.worker = worker → ¬ task.Holds position) →
    Cleared state.log (state.workers worker).cache.entries position

def LogStage.lengthToStore : LogStage → Option Nat
  | .lengthMeasured length => some length
  | _ => none

/-- A publisher stores a length only when its worker has read every foreign
record before it, and no future is dropped that holds a foreign record which is
not yet applied. -/
def PassesOverNothing (state : LogState) : LogLabel → Prop
  | .advance number _ => ∀ task ∈ state.tasks[number]?, ∀ length ∈ task.stage.lengthToStore,
      ∀ position, position < length → Foreign state.log task.worker position →
        position ∈ (state.workers task.worker).readRecords
  | .drop number => ∀ task ∈ state.tasks[number]?, ∀ position, position < state.log.length →
      Foreign state.log task.worker position → task.Holds position →
      Cleared state.log (state.workers task.worker).cache.entries position
  | _ => True

instance (task : LogTask) (position : Nat) : Decidable (task.Holds position) :=
  inferInstanceAs (Decidable (∃ range ∈ task.stage.held, range.1 ≤ position ∧ position < range.2))

instance (log : List LogRecord) (worker position : Nat) : Decidable (Foreign log worker position) :=
  inferInstanceAs (Decidable (∃ record ∈ log[position]?, record.author ≠ worker))

instance (log : List LogRecord) (entries : CacheEntries) (position : Nat) :
    Decidable (Cleared log entries position) :=
  inferInstanceAs (Decidable (∀ record ∈ _, ∀ entry ∈ _, _ → _))

instance (state : LogState) (label : LogLabel) : Decidable (PassesOverNothing state label) := by
  cases label <;> dsimp only [PassesOverNothing] <;> infer_instance

def Covered (state : LogState) (worker position : Nat) : Prop :=
  Cleared state.log (state.workers worker).cache.entries position ∨
    ∃ task ∈ state.tasks, task.worker = worker ∧ task.Holds position

def CoveredBelow (state : LogState) (worker bound : Nat) : Prop := bound ≤ state.log.length ∧
    ∀ position, position < bound → Foreign state.log worker position → Covered state worker position

def Invalidations.Covers (invalidations : Invalidations) : Option String → Prop
  | none => invalidations.purgeAll = true
  | some tag => tag ∈ invalidations.tags

/-- The invalidations are those of the records from `first` to before `last`. -/
def Reads (log : List LogRecord) (first last : Nat) (invalidations : Invalidations) : Prop :=
  last ≤ log.length ∧ ∀ position, first ≤ position → position < last →
    ∀ record ∈ log[position]?, invalidations.Covers record.publication.val

def TaskCovered (state : LogState) (task : LogTask) : Prop := match task.stage with
  | .loaded offset _ => CoveredBelow state task.worker offset
  | .read first last invalidations =>
    CoveredBelow state task.worker first ∧ Reads state.log first last invalidations
  | .offsetStored first last invalidations => Reads state.log first last invalidations
  | .lengthMeasured length => length ≤ state.log.length
  | _ => True

structure LogCovered (state : LogState) : Prop where
  offsets : ∀ worker, CoveredBelow state worker (state.workers worker).offset
  reads : ∀ worker, ∀ position ∈ (state.workers worker).readRecords, position < state.log.length ∧
      (Foreign state.log worker position → Covered state worker position)
  tasks : ∀ task ∈ state.tasks, TaskCovered state task

structure Extends (state target : LogState) : Prop where
  log : ∃ added, target.log = state.log ++ added
  covered : ∀ worker position, Foreign state.log worker position →
    Covered state worker position → Covered target worker position

theorem Foreign.lt_length (foreign : Foreign log worker position) : position < log.length := by
  obtain ⟨record, found, _⟩ := foreign
  exact (List.getElem?_eq_some_iff.mp found).1

theorem foreign_append (inside : position < log.length) :
    Foreign (log ++ added) worker position ↔ Foreign log worker position := by
  simp [Foreign, getElem?_append_left inside]

theorem dropWhile_solid {text : List Char}
    (solid : ∀ character ∈ text, isWhitespace character = false) :
    text.dropWhile isWhitespace = text := by
  cases text with
  | nil => rfl
  | cons first rest => simp [solid first mem_cons_self]

theorem trim_line {text : List Char}
    (solid : ∀ character ∈ text, isWhitespace character = false) (some : text ≠ []) :
    trim (text ++ ['\n']) = text := by
  obtain ⟨first, rest, rfl⟩ := exists_cons_of_ne_nil some
  have back : ∀ character ∈ (first :: rest).reverse, isWhitespace character = false :=
    fun character member => solid character (mem_reverse.mp member)
  have front : ((first :: rest) ++ ['\n']).dropWhile isWhitespace = (first :: rest) ++ ['\n'] := by
    simp [solid first mem_cons_self]
  have ended : ('\n' :: (first :: rest).reverse).dropWhile isWhitespace =
      (first :: rest).reverse.dropWhile isWhitespace := dropWhile_cons_of_pos rfl
  rw [trim, front, reverse_append, reverse_singleton, singleton_append, ended,
    dropWhile_solid back, reverse_reverse]

theorem solid_of_validCacheTag (valid : validCacheTag tag = true) :
    ∀ character ∈ tag.toList, isWhitespace character = false := by
  intro character member
  simp only [validCacheTag, Bool.and_eq_true, all_eq_true] at valid
  have allowed := valid.2 character member
  have printed : 45 ≤ character.toNat ∧ character.toNat ≤ 122 := by
    simp only [Bool.or_eq_true, beq_iff_eq] at allowed
    rcases allowed with ((((letters | rfl) | rfl) | rfl) | rfl) | rfl
    · change (decide (65 ≤ character.val ∧ character.val ≤ 90) ||
          decide (97 ≤ character.val) && decide (character.val ≤ 122) ||
          decide (48 ≤ character.val) && decide (character.val ≤ 57)) = true at letters
      have codes : character.val.toNat = character.toNat := rfl
      simp only [Bool.or_eq_true, Bool.and_eq_true, decide_eq_true_eq, UInt32.le_iff_toNat_le,
        codes, UInt32.reduceToNat] at letters
      omega
    all_goals decide
  simp [isWhitespace]
  omega

theorem solid_renderInvalidation (publication : Publication) :
    (∀ character ∈ (renderInvalidation publication.val).toList, isWhitespace character = false) ∧
      (renderInvalidation publication.val).toList ≠ [] := by
  obtain ⟨tag, valid⟩ := publication
  cases tag with
  | none =>
    have star : (renderInvalidation none).toList = ['*'] := by decide +kernel
    rw [star]
    exact ⟨forall_mem_singleton.mpr (by decide +kernel), cons_ne_nil _ _⟩
  | some tag =>
    refine ⟨solid_of_validCacheTag valid, fun empty => ?_⟩
    cases String.toList_eq_nil_iff.mp empty
    exact absurd valid (by decide +kernel)

theorem trim_record (record : LogRecord) : String.ofList (trim record.line.toList) =
    renderInvalidation record.publication.val := by
  obtain ⟨solid, some⟩ := solid_renderInvalidation record.publication
  have ending : "\n".toList = ['\n'] := by decide +kernel
  rw [LogRecord.line, String.toList_append, ending, trim_line solid some, String.ofList_toList]

theorem readLine_line (record : LogRecord) (invalidations : Invalidations) :
    (readLine invalidations record.line).Covers record.publication.val := by
  rw [readLine, trim_record]
  obtain ⟨author, tag, valid⟩ := record
  cases tag with
  | none => rfl
  | some tag =>
    have other : tag ≠ "*" := by
      rintro rfl
      exact absurd valid (by decide +kernel)
    have valid : validCacheTag tag = true := valid
    simp [renderInvalidation, other, valid, Invalidations.Covers]

theorem Invalidations.Covers.readLine {invalidations : Invalidations}
    (covers : invalidations.Covers tag) (line : String) :
    (readLine invalidations line).Covers tag := by
  unfold Server.readLine
  dsimp only
  cases tag with
  | none =>
    split
    · rfl
    split <;> exact covers
  | some tag =>
    split
    · exact covers
    split
    · exact mem_cons_of_mem _ covers
    · exact covers

theorem covers_readLines {records : List LogRecord} (member : record ∈ records)
    (purgeAll : Bool) :
    (readLines purgeAll (records.map LogRecord.line)).Covers record.publication.val := by
  have folded : ∀ invalidations : Invalidations,
      (invalidations.Covers record.publication.val ∨ record ∈ records) →
      ((records.map LogRecord.line).foldl readLine invalidations).Covers
        record.publication.val := by
    clear member
    induction records with
    | nil => simp
    | cons first rest induction =>
      intro invalidations covered
      refine induction _ ?_
      rcases covered with before | member
      · exact .inl (before.readLine _)
      rcases mem_cons.mp member with rfl | later
      · exact .inl (readLine_line ..)
      · exact .inr later
  exact folded _ (.inr member)

theorem purgeHits_applyInvalidations {invalidations : Invalidations}
    (covers : invalidations.Covers tag) (found : (applyInvalidations cache invalidations.purgeAll
      invalidations.tags).entries.lookup key = some cached) : purgeHits cached tag = false := by
  unfold applyInvalidations at found
  split at found
  · cases found
  next some =>
  split at found
  next empty =>
    cases tag with
    | none => exact absurd covers some
    | some tag => simp_all [Invalidations.Covers]
  next filled =>
  cases tag with
  | none => exact absurd covers some
  | some tag => 
    have kept := (lookup_of_lookup_retain found).2
    simpa [purgeHits] using all_eq_true.mp kept tag covers

theorem Cleared.of_comesFrom (cleared : Cleared log before position)
    (comesFrom : ComesFrom entries before) : Cleared log entries position := by
  intro record found entry member early
  obtain ⟨earlier, earlierFound, tags, startedAt⟩ :=
    comesFrom entry.1 entry.2 (AList.mem_lookup_iff.mpr member)
  have missed := cleared record found ⟨entry.1, earlier⟩ (AList.mem_lookup_iff.mp earlierFound)
    (startedAt ▸ early)
  cases tag : record.publication.val with
  | none => simp [tag, purgeHits] at missed
  | some tag => simpa [tag, purgeHits, tags] using missed

theorem Cleared.append (cleared : Cleared log entries position) (inside : position < log.length)
    (added : List LogRecord) : Cleared (log ++ added) entries position := by
  intro record found
  rw [getElem?_append_left inside] at found
  exact cleared record found

variable {state : LogState}

section

variable (extension : Extends state target)
include extension

theorem Extends.length_le : state.log.length ≤ target.log.length := by
  obtain ⟨added, log⟩ := extension.log
  rw [log, length_append]
  exact Nat.le_add_right _ _

theorem Extends.covered_of_inside (inside : position < state.log.length)
    (covered : Foreign state.log worker position → Covered state worker position)
    (foreign : Foreign target.log worker position) : Covered target worker position := by
  obtain ⟨added, log⟩ := extension.log
  rw [log, foreign_append inside] at foreign
  exact extension.covered worker position foreign (covered foreign)

theorem Extends.coveredBelow (below : CoveredBelow state worker bound) :
    CoveredBelow target worker bound := by
  refine ⟨below.1.trans extension.length_le, ?_⟩
  intro position before foreign
  exact extension.covered_of_inside (Nat.lt_of_lt_of_le before below.1)
    (below.2 position before) foreign

theorem Extends.reads (reads : Reads state.log first last invalidations) :
    Reads target.log first last invalidations := by
  obtain ⟨added, log⟩ := extension.log
  refine ⟨reads.1.trans extension.length_le, ?_⟩
  intro position after before record found
  rw [log, getElem?_append_left (Nat.lt_of_lt_of_le before reads.1)] at found
  exact reads.2 position after before record found

end

variable {task : LogTask}

theorem Extends.taskCovered (extension : Extends state target)
    (covered : TaskCovered state task) : TaskCovered target task := by
  unfold TaskCovered at covered ⊢
  split at covered
  · exact extension.coveredBelow covered
  · exact ⟨extension.coveredBelow covered.1, extension.reads covered.2⟩
  · exact extension.reads covered
  · exact covered.trans extension.length_le
  · trivial

variable {next : LogTask}

theorem logCovered_of_extends (covered : LogCovered state) (extension : Extends state target)
    (tasks : ∀ task ∈ target.tasks, task ∈ state.tasks ∨ TaskCovered state task)
    (offsets : ∀ worker, (target.workers worker).offset = (state.workers worker).offset ∨
      CoveredBelow target worker (target.workers worker).offset)
    (reads : ∀ worker, ∀ position ∈ (target.workers worker).readRecords,
      position ∈ (state.workers worker).readRecords ∨
        (position < target.log.length ∧ Covered target worker position)) : LogCovered target where
  offsets := by
    intro worker
    rcases offsets worker with same | below
    · rw [same]
      exact extension.coveredBelow (covered.offsets worker)
    · exact below
  reads := by
    intro worker position member
    rcases reads worker position member with before | ⟨inside, held⟩
    · obtain ⟨inside, held⟩ := covered.reads worker position before
      exact ⟨Nat.lt_of_lt_of_le inside extension.length_le, extension.covered_of_inside inside held⟩
    · exact ⟨inside, fun _ => held⟩
  tasks := by
    intro task member
    rcases tasks task member with before | added
    · exact extension.taskCovered (covered.tasks task before)
    · exact extension.taskCovered added

theorem logCovered_initial : LogCovered LogState.initial where
  offsets := fun worker => ⟨le_rfl, by simp [LogState.initial]⟩
  reads := by simp [LogState.initial]
  tasks := by simp [LogState.initial]

theorem LogCovered.nothingPassedOver (covered : LogCovered state) : NothingPassedOver state := by
  intro worker position before foreign unheld
  rcases (covered.offsets worker).2 position before foreign with
    done | ⟨task, member, same, holds⟩
  · exact done
  · exact absurd holds (unheld task member same)

theorem taskCovered_synchronized : TaskCovered state task.synchronized := by
  unfold TaskCovered LogTask.synchronized LogTask.moveTo
  cases task.publishes <;> trivial

theorem handedOn_of_held_none {cleared : Nat → Prop} (none : task.stage.held = none) :
    ∀ position, Foreign state.log task.worker position →
      task.Holds position → next.Holds position ∨ cleared position := by
  rintro position _ ⟨range, member, _⟩
  rw [none] at member
  cases member

/-- A step on one worker that leaves its offset and what it has read. -/
theorem logCovered_of_entry (covered : LogCovered state) (log : target.log = state.log)
    (workers : target.workers = update state.workers worker changed)
    (offset : changed.offset = (state.workers worker).offset)
    (reads : changed.readRecords = (state.workers worker).readRecords)
    (cleared : ∀ position < state.log.length,
      Cleared state.log (state.workers worker).cache.entries position →
        Cleared state.log changed.cache.entries position)
    (kept : state.tasks ⊆ target.tasks)
    (tasks : ∀ task ∈ target.tasks, task ∈ state.tasks ∨ TaskCovered state task) :
    LogCovered target := by
  have own : target.workers worker = changed := workers ▸ update_self _ _ _
  have others : ∀ other, other ≠ worker → target.workers other = state.workers other :=
    fun _ different => workers ▸ update_of_ne different _ _
  refine logCovered_of_extends covered ⟨⟨[], by rw [log, append_nil]⟩, ?_⟩ tasks ?_ ?_
  · rintro other position foreign (done | ⟨holder, member, same, holds⟩)
    · left
      rw [log]
      by_cases same : other = worker
      · subst same
        rw [own]
        exact cleared position foreign.lt_length done
      · rwa [others other same]
    · exact .inr ⟨holder, kept member, same, holds⟩
  · intro other
    by_cases same : other = worker
    · subst same
      exact .inl (by rw [own, offset])
    · exact .inl (by rw [others other same])
  · intro other position member
    by_cases same : other = worker
    · subst same
      exact .inl (by rwa [own, reads] at member)
    · exact .inl (by rwa [others other same] at member)

theorem start_step (covered : LogCovered state)
    (taskCovered : TaskCovered state task) : LogCovered (state.start worker now task) := by
  refine logCovered_of_entry covered rfl rfl rfl rfl (fun _ _ cleared => cleared)
    (subset_append_left _ _) fun other member => ?_
  rcases mem_append.mp member with before | added
  · exact .inl before
  · exact .inr (by rwa [mem_singleton.mp added])

/-- What is stored is younger than every record. -/
theorem logCovered_store {config : CacheConfig} (covered : LogCovered state)
    (step : logNext config state (.store worker key cached now) = some target) :
    LogCovered target := by
  cases step
  refine logCovered_of_entry covered rfl rfl rfl rfl ?_ (Subset.refl _) fun _ member => .inl member
  intro position inside cleared record found entry member early
  rcases storeCachedResponse_lookup (AList.mem_lookup_iff.mpr member) with ⟨-, same, -⟩ | before
  · rw [same] at early
    exact absurd inside (Nat.not_lt.mpr early)
  · exact cleared record found _ (AList.mem_lookup_iff.mp before) early

section Tasks

variable {number : Nat} {succeeds : Bool} (covered : LogCovered state)
  (found : state.tasks[number]? = some task)
include covered found

theorem logCovered_of_step (log : ∃ added, target.log = state.log ++ added)
    (tasks : target.tasks = state.tasks.set number next)
    (workers : target.workers = update state.workers task.worker changed)
    (sameWorker : next.worker = task.worker)
    (comesFrom : ComesFrom changed.cache.entries (state.workers task.worker).cache.entries)
    (handedOn : ∀ position, Foreign state.log task.worker position → task.Holds position →
      next.Holds position ∨ Cleared state.log changed.cache.entries position)
    (offset : changed.offset = (state.workers task.worker).offset ∨
      (changed.offset ≤ state.log.length ∧ ∀ position, position < changed.offset →
          Foreign state.log task.worker position →
          next.Holds position ∨ Covered state task.worker position))
    (reads : ∀ position ∈ changed.readRecords, position ∈ (state.workers task.worker).readRecords ∨
        (position < state.log.length ∧ next.Holds position))
    (nextCovered : TaskCovered state next) : LogCovered target := by
  have own : target.workers task.worker = changed := workers ▸ update_self _ _ _
  have others : ∀ worker, worker ≠ task.worker → target.workers worker = state.workers worker :=
    fun _ different => workers ▸ update_of_ne different _ _
  have inside := (List.getElem?_eq_some_iff.mp found).1
  have held : ∀ position, next.Holds position → Covered target task.worker position := by
    intro position holds
    refine .inr ⟨next, ?_, sameWorker, holds⟩
    rw [tasks]
    exact List.mem_set inside next
  obtain ⟨added, log⟩ := log
  have extension : Extends state target := by
    refine ⟨⟨added, log⟩, ?_⟩
    rintro worker position foreign (done | ⟨holder, member, rfl, holds⟩)
    · left
      rw [log]
      by_cases same : worker = task.worker
      · subst same
        rw [own]
        exact (done.of_comesFrom comesFrom).append foreign.lt_length added
      · rw [others worker same]
        exact done.append foreign.lt_length added
    obtain ⟨index, indexed⟩ := List.mem_iff_getElem?.mp member
    by_cases here : number = index
    · subst here
      cases found.symm.trans indexed
      rcases handedOn position foreign holds with kept | done
      · exact held position kept
      · left
        rw [log, own]
        exact done.append foreign.lt_length added
    · refine .inr ⟨holder, ?_, rfl, holds⟩
      rw [tasks]
      apply List.mem_of_getElem?
      rw [List.getElem?_set_ne here]
      exact indexed
  refine logCovered_of_extends covered extension ?_ ?_ ?_
  · intro task member
    rw [tasks] at member
    exact (mem_or_eq_of_mem_set member).imp_right (by rintro rfl; exact nextCovered)
  · intro worker
    by_cases same : worker = task.worker
    · subst same
      rw [own]
      refine offset.imp_right fun ⟨reaches, below⟩ => ⟨reaches.trans extension.length_le, ?_⟩
      intro position before foreign
      rw [log, foreign_append (Nat.lt_of_lt_of_le before reaches)] at foreign
      rcases below position before foreign with holds | earlier
      · exact held position holds
      · exact extension.covered _ position foreign earlier
    · exact .inl (by rw [others worker same])
  · intro worker position member
    by_cases same : worker = task.worker
    · subst same
      rw [own] at member
      exact (reads position member).imp_right fun ⟨reaches, holds⟩ =>
        ⟨Nat.lt_of_lt_of_le reaches extension.length_le, held position holds⟩
    · exact .inl (by rwa [others worker same] at member)

theorem logCovered_setTask (sameWorker : next.worker = task.worker)
    (handedOn : ∀ position, Foreign state.log task.worker position →
      task.Holds position → next.Holds position ∨
        Cleared state.log (state.workers task.worker).cache.entries position)
    (nextCovered : TaskCovered state next) : LogCovered (state.setTask number next) :=
  logCovered_of_step covered found ⟨[], (append_nil _).symm⟩ rfl (update_eq_self _ _).symm
    sameWorker .refl handedOn (.inl rfl) (fun _ member => .inl member) nextCovered

theorem append_step {publication : Publication} (holdsNone : task.stage.held = none)
    (sameWorker : next.worker = task.worker) (nextCovered : TaskCovered state next) :
    LogCovered ((state.append worker publication).setTask number next) :=
  logCovered_of_step covered found ⟨_, rfl⟩ rfl (update_eq_self _ _).symm sameWorker
    .refl (handedOn_of_held_none holdsNone) (.inl rfl) (fun _ member => .inl member)
    nextCovered

theorem taskCovered_of_stage (stage : task.stage = reached) :
    TaskCovered state (task.moveTo reached) := by
  rw [← stage]
  exact covered.tasks task (mem_of_getElem? found)

theorem loaded_step {offset : Nat} {purgeAll : Bool} (stage : task.stage = .loaded offset purgeAll)
    (step : advanceTask state number task succeeds = some target) : LogCovered target := by
  rw [advanceTask, stage] at step
  dsimp only at step
  split at step <;> cases step
  · have below : CoveredBelow state task.worker offset := taskCovered_of_stage covered found stage
    rw [max_eq_right below.1]
    refine logCovered_of_step covered found ⟨[], (append_nil _).symm⟩ rfl rfl rfl
      .refl (handedOn_of_held_none (by rw [stage]; rfl)) (.inl rfl) ?_
      ⟨below, le_rfl, ?_⟩
    · intro position member
      refine (mem_append.mp member).imp_right fun added => ?_
      have range := mem_range'_1.mp added
      have before : position < state.log.length := by omega
      exact ⟨before, _, rfl, range.1, before⟩
    · intro position after before record found
      refine covers_readLines (mem_of_getElem? (i := position - offset) ?_) purgeAll
      rw [getElem?_drop, Nat.add_sub_of_le after]
      exact found
  · exact logCovered_setTask covered found rfl (handedOn_of_held_none (by rw [stage]; rfl))
      taskCovered_synchronized

theorem read_step (stage : task.stage = .read first last invalidations)
    (step : advanceTask state number task succeeds = some target) : LogCovered target := by
  have read : CoveredBelow state task.worker first ∧ Reads state.log first last invalidations :=
    taskCovered_of_stage covered found stage
  have handedOn : ∀ position, task.Holds position →
      (task.moveTo (.offsetStored first last invalidations)).Holds position := by
    intro position holds
    rwa [LogTask.Holds, stage] at holds
  rw [advanceTask, stage] at step
  dsimp only at step
  split at step <;> cases step
  · refine logCovered_of_step covered found ⟨[], (append_nil _).symm⟩ rfl rfl rfl
      .refl (fun position _ holds => .inl (handedOn position holds))
      (.inr ⟨read.2.1, ?_⟩) (fun _ member => .inl member) read.2
    intro position before foreign
    by_cases earlier : position < first
    · exact .inr (read.1.2 position earlier foreign)
    · exact .inl ⟨_, rfl, Nat.not_lt.mp earlier, before⟩
  · exact logCovered_setTask covered found rfl (fun position _ holds =>
      .inl (handedOn position holds)) read.2

theorem offsetStored_step (stage : task.stage = .offsetStored first last invalidations)
    (step : advanceTask state number task succeeds = some target) : LogCovered target := by
  have reads : Reads state.log first last invalidations := taskCovered_of_stage covered found stage
  rw [advanceTask, stage] at step
  cases step
  refine logCovered_of_step covered found ⟨[], (append_nil _).symm⟩ rfl rfl rfl
    comesFrom_applyInvalidations ?_ (.inl rfl) (fun _ member => .inl member)
    taskCovered_synchronized
  intro position _ holds
  simp only [LogTask.Holds, stage, LogStage.held, Option.mem_def,
    Option.some.injEq, exists_eq_left'] at holds
  refine .inr fun record found entry member _ => ?_
  exact purgeHits_applyInvalidations (reads.2 position holds.1 holds.2 record found)
    (AList.mem_lookup_iff.mpr member)

theorem advance_step (guarded : PassesOverNothing state (.advance number succeeds))
    (step : advanceTask state number task succeeds = some target) : LogCovered target := by
  cases stage : task.stage with
  | loaded offset purgeAll => exact loaded_step covered found stage step
  | read first last invalidations => exact read_step covered found stage step
  | offsetStored first last invalidations => exact offsetStored_step covered found stage step
  | measured length =>
    rw [advanceTask, stage] at step
    cases step
    refine logCovered_setTask covered found rfl (handedOn_of_held_none (by rw [stage]; rfl)) ?_
    split
    · exact ⟨Nat.zero_le _, fun _ before => absurd before (Nat.not_lt_zero _)⟩
    · exact covered.offsets task.worker
  | appending =>
    rw [advanceTask, stage] at step
    dsimp only at step
    split at step
    · obtain ⟨publication, -, rfl⟩ := Option.map_eq_some_iff.mp step
      exact append_step covered found (by rw [stage]; rfl) rfl trivial
    · cases step
      exact logCovered_setTask covered found rfl
        (handedOn_of_held_none (by rw [stage]; rfl)) trivial
  | appended =>
    rw [advanceTask, stage] at step
    cases step
    refine logCovered_setTask covered found rfl (handedOn_of_held_none (by rw [stage]; rfl)) ?_
    split
    · exact le_rfl
    · trivial
  | lengthMeasured length =>
    have reaches : length ≤ state.log.length := taskCovered_of_stage covered found stage
    rw [advanceTask, stage] at step
    cases step
    refine logCovered_of_step covered found ⟨[], (append_nil _).symm⟩ rfl rfl rfl
      .refl (handedOn_of_held_none (by rw [stage]; rfl)) (.inr ⟨reaches, ?_⟩)
      (fun _ member => .inl member) trivial
    intro position before foreign
    have read := guarded task found length (by rw [stage]; rfl) position before foreign
    exact .inr ((covered.reads task.worker position read).2 foreign)
  | opened =>
    rw [advanceTask, stage] at step
    cases step
    exact logCovered_setTask covered found rfl (handedOn_of_held_none (by rw [stage]; rfl)) trivial
  | published =>
    rw [advanceTask, stage] at step
    obtain ⟨publication, -, rfl⟩ := Option.map_eq_some_iff.mp step
    exact logCovered_of_step covered found ⟨[], (append_nil _).symm⟩ rfl rfl rfl
      (fun _ cached found => ⟨cached, (purgeEntries_lookup found).1, rfl, rfl⟩)
      (handedOn_of_held_none (by rw [stage]; rfl)) (.inl rfl) (fun _ member => .inl member) trivial
  | finished =>
    rw [advanceTask, stage] at step
    cases step

end Tasks

theorem logCovered_step {config : CacheConfig} {label : LogLabel} (covered : LogCovered state)
    (guarded : PassesOverNothing state label)
    (step : logNext config state label = some target) : LogCovered target := by
  cases label with
  | store worker key cached now => exact logCovered_store covered step
  | synchronize worker now =>
    simp only [logNext] at step
    split at step
    · cases step
      exact covered
    · cases step
      exact start_step covered trivial
  | publish worker now tag opens =>
    simp only [logNext] at step
    split at step
    · cases step
      apply start_step covered
      cases opens <;> trivial
    · cases step
  | advance number succeeds =>
    simp only [logNext] at step
    split at step
    · cases step
    · next found => exact advance_step covered found guarded step
  | appendUnsynced number =>
    simp only [logNext] at step
    split at step
    next found =>
      cases step
      exact append_step covered found rfl rfl trivial
    · cases step
  | drop number =>
    simp only [logNext] at step
    split at step
    next found =>
      cases step
      refine logCovered_setTask covered found rfl ?_ trivial
      intro position foreign holds
      exact .inr (guarded _ found position foreign.lt_length foreign holds)
    next found =>
      cases step
      exact logCovered_setTask covered found rfl (handedOn_of_held_none rfl) trivial
    · cases step

def publishSteps (task : Nat) : List LogLabel := List.replicate 6 (.advance task true)

/-- Worker 0 has cached a response with the tag that worker 1 publishes. -/
def storeTagged : LogLabel := .store 0 "k" { okResponse 1 0 0 with tags := ["b"] } 0

/-- Worker 1 publishes, then worker 0 publishes; nothing overlaps. -/
def publishInTurn : List LogLabel := [storeTagged, .publish 1 0 (some "b") true] ++
    publishSteps 0 ++ [.advance 0 true, .advance 0 true, .advance 0 true,
      .publish 0 0 (some "a") true] ++ publishSteps 1 ++
    [.advance 1 true, .advance 1 true, .advance 1 true]

/-- Worker 1 appends between worker 0's synchronization and its own append. -/
def publishOverlapping : List LogLabel := [storeTagged, .publish 0 0 (some "a") true] ++
    List.replicate 5 (.advance 0 true) ++ [.publish 1 0 (some "b") true] ++ publishSteps 1 ++
    [.advance 0 true, .advance 0 true, .advance 0 true]

end Pam.Server
