import Mathlib.Algebra.Order.BigOperators.Group.List
import Mathlib.Algebra.Order.Ring.Nat
import Mathlib.Data.List.Perm.Subperm
import Pam.Foundation.Run

namespace Pam.Cluster.Counters

open Foundation List

/-! The counters the master publishes: sums over the workers whose state files
are of their own process. -/

structure WorkerIdentity where
  pid : Nat
  workerId : Nat
  generation : Nat
  deriving DecidableEq

structure WorkerRuntimeRecord (Counter : Type) where
  process : WorkerIdentity
  pool : Option String
  metrics : Counter → Nat

/-- The worker and the generation of `worker-{id}-generation-{generation}.json`. -/
abbrev StatePath := Nat × Nat

def WorkerIdentity.statePath (process : WorkerIdentity) : StatePath :=
  (process.workerId, process.generation)

/-- A state file is `none` where there is none or it cannot be read; `counted` is
what each process has counted. -/
structure CounterState (Counter : Type) where
  workers : List WorkerIdentity
  files : StatePath → Option (WorkerRuntimeRecord Counter)
  counted : WorkerIdentity → Counter → Nat
  snapshot : List (WorkerRuntimeRecord Counter)

/-- A process counts some more and writes its record; a file is garbled; workers
are replaced; the master publishes. -/
inductive CounterLabel (Counter : Type) where
  | write (process : WorkerIdentity) (amounts : Counter → Nat)
  | garble (path : StatePath)
  | replace (workers : List WorkerIdentity)
  | publish

def workerRecord (files : StatePath → Option (WorkerRuntimeRecord Counter))
    (worker : WorkerIdentity) : Option (WorkerRuntimeRecord Counter) :=
  (files worker.statePath).filter fun record => record.process = worker

def CounterState.records (state : CounterState Counter) : List (WorkerRuntimeRecord Counter) :=
  state.workers.filterMap (workerRecord state.files)

-- The pool of each worker, in every generation.
variable (pools : Nat → Option String)

def CounterState.perform (state : CounterState Counter) :
    CounterLabel Counter → CounterState Counter
  | .write process amounts =>
    let metrics := fun counter => state.counted process counter + amounts counter
    { state with
      counted := Function.update state.counted process metrics
      files := Function.update state.files process.statePath
        (some ⟨process, pools process.workerId, metrics⟩) }
  | .garble path => { state with files := Function.update state.files path none }
  | .replace workers => { state with workers := workers }
  | .publish => { state with snapshot := state.records }

def counterMachine : Machine (CounterState Counter) (CounterLabel Counter) where
  start := ⟨[], fun _ => none, fun _ _ => 0, []⟩
  next state label := some (state.perform pools label)

inductive Series where
  | cluster
  | pool (name : String)

def Series.has (series : Series) (pool : Option String) : Bool :=
  match series with
  | .cluster => true
  | .pool name => pool.getD "default" == name

/-- The sum saturates. -/
def total (records : List (WorkerRuntimeRecord Counter)) (counter : Counter) : Nat :=
  min (2 ^ 64 - 1) (records.map (·.metrics counter)).sum

/-- A counter as it is published: that of a pool only if it has a worker. -/
def published (snapshot : List (WorkerRuntimeRecord Counter)) (counter : Counter)
    (series : Series) : Option Nat :=
  let workers := snapshot.filter fun record => series.has record.pool
  match series with
  | .cluster => some (total workers counter)
  | .pool _ => if workers.isEmpty then none else some (total workers counter)

def NeverFalls (source target : CounterState Counter) : Prop :=
  ∀ counter series, ∀ value ∈ published source.snapshot counter series,
    ∃ later ∈ published target.snapshot counter series, value ≤ later

/-- Every process of the last snapshot still runs and has a readable record. -/
def KeepsProcesses (state : CounterState Counter) (label : CounterLabel Counter) : Prop :=
  (label matches .publish) →
    (state.snapshot.map (·.process)) <+~ (state.records.map (·.process))

structure Accounted (state : CounterState Counter) : Prop where
  files : ∀ path record, state.files path = some record → record.process.statePath = path ∧
    record.pool = pools record.process.workerId ∧ record.metrics = state.counted record.process
  snapshot : ∀ record ∈ state.snapshot, record.pool = pools record.process.workerId ∧
    ∀ counter, record.metrics counter ≤ state.counted record.process counter

variable {pools}

theorem Accounted.records (accounted : Accounted pools state) (member : record ∈ state.records) :
    record.pool = pools record.process.workerId ∧
      record.metrics = state.counted record.process := by
  obtain ⟨worker, -, found⟩ := mem_filterMap.mp member
  exact (accounted.files _ _ (Option.filter_eq_some_iff.mp found).1).2

theorem total_le {state : CounterState Counter} (counter : Counter)
    (kept : earlier.map (·.process) <+~ later.map (·.process))
    (below : ∀ record ∈ earlier, record.metrics counter ≤ state.counted record.process counter)
    (written : ∀ record ∈ later, record.metrics = state.counted record.process) :
    total earlier counter ≤ total later counter := by
  obtain ⟨front, reordered, sublist⟩ := kept
  refine min_le_min_left _ ?_
  calc (earlier.map (·.metrics counter)).sum
      ≤ ((earlier.map (·.process)).map (state.counted · counter)).sum := by
        rw [map_map]
        exact sum_le_sum below
    _ = (front.map (state.counted · counter)).sum := (reordered.map _).sum_eq.symm
    _ ≤ ((later.map (·.process)).map (state.counted · counter)).sum :=
        (sublist.map _).sum_le_sum fun _ _ => Nat.zero_le _
    _ = (later.map (·.metrics counter)).sum := by
        rw [map_map]
        exact congrArg sum (map_congr_left fun record member =>
          (congrFun (written record member) counter).symm)

theorem map_process_filter {records : List (WorkerRuntimeRecord Counter)}
    (pooled : ∀ record ∈ records, record.pool = pools record.process.workerId) (series : Series) :
    (records.filter fun record => series.has record.pool).map (·.process) =
      (records.map (·.process)).filter fun process => series.has (pools process.workerId) := by
  rw [filter_map]
  refine congrArg _ (filter_congr fun record member => ?_)
  rw [pooled record member, Function.comp]

theorem neverFalls_publish {state : CounterState Counter} (accounted : Accounted pools state)
    (kept : state.snapshot.map (·.process) <+~ state.records.map (·.process)) :
    NeverFalls state { state with snapshot := state.records } := by
  intro counter series value shown
  have processes := kept.filter fun process => series.has (pools process.workerId)
  rw [← map_process_filter fun record member => (accounted.snapshot record member).1,
    ← map_process_filter fun record member => (accounted.records member).1] at processes
  have below := total_le counter processes
    (fun record member => (accounted.snapshot record (mem_filter.mp member).1).2 counter)
    fun record member => (accounted.records (mem_filter.mp member).1).2
  have longer := processes.length_le
  rw [length_map, length_map] at longer
  cases series with
  | cluster =>
    cases shown
    exact ⟨_, rfl, below⟩
  | pool name =>
    obtain ⟨staffed, same⟩ := Option.ite_none_left_eq_some.mp shown
    cases same
    refine ⟨_, Option.mem_def.mpr (if_neg ?_), below⟩
    rw [isEmpty_iff_length_eq_zero] at staffed ⊢
    dsimp only at staffed ⊢
    omega

theorem accounted_perform (accounted : Accounted pools state) (kept : KeepsProcesses state label) :
    Accounted pools (state.perform pools label) ∧ NeverFalls state (state.perform pools label) := by
  have same : NeverFalls state state := fun _ _ value shown => ⟨value, shown, le_rfl⟩
  cases label with
  | write process amounts =>
    refine ⟨⟨?_, ?_⟩, same⟩
    · intro path record found
      have earlier := accounted.files path record
      simp only [CounterState.perform] at found ⊢
      grind
    · intro record member
      obtain ⟨pooled, earlier⟩ := accounted.snapshot record member
      refine ⟨pooled, fun counter => ?_⟩
      simp only [CounterState.perform, Function.update_apply]
      split
      next same => exact (same ▸ earlier counter).trans (Nat.le_add_right _ _)
      · exact earlier counter
  | garble path =>
    refine ⟨⟨?_, accounted.snapshot⟩, same⟩
    intro path record found
    have earlier := accounted.files path record
    simp only [CounterState.perform] at found ⊢
    grind
  | replace workers => exact ⟨⟨accounted.files, accounted.snapshot⟩, same⟩
  | publish =>
    refine ⟨⟨accounted.files, fun record member => ?_⟩, neverFalls_publish accounted (kept rfl)⟩
    obtain ⟨pooled, metrics⟩ := accounted.records member
    exact ⟨pooled, fun counter => (congrFun metrics counter).le⟩

def webPool : Nat → Option String := fun workerId => if workerId = 1 then some "web" else none

/-- Two workers; the second is respawned before it has published. -/
def publishedRun : List (CounterLabel Unit) :=
  [.replace [⟨1, 1, 1⟩, ⟨2, 2, 1⟩], .write ⟨1, 1, 1⟩ fun _ => 3, .publish,
    .replace [⟨1, 1, 1⟩, ⟨3, 2, 1⟩], .write ⟨3, 2, 1⟩ fun _ => 2,
    .write ⟨1, 1, 1⟩ fun _ => 1, .publish]

end Pam.Cluster.Counters
