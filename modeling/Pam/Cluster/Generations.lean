import Pam.Cluster.Processes

namespace Pam.Cluster

open Pam.Foundation Pam.Foundation.Program Monitor

/-! What the functions for a whole generation do: which processes they touch,
and what their outcome says of the workers. -/

section Confinement

theorem confines_sendSignal (within : pid ∈ pids) : Confines spawns pids (sendSignal pid signal) :=
  ⟨within, fun _ _ _ => trivial⟩

theorem confines_countReady (ready : Nat) :
    Confines spawns pids (countReady ready workers).run := by
  induction workers generalizing ready with
  | nil => trivial
  | cons worker workers induction =>
    apply only_andThen (only_lift (only_call trivial))
    intro answer
    apply only_andThen
    · cases answer <;> trivial
    intro status
    apply only_andThen
    · cases status <;> trivial
    intro _
    apply only_andThen (only_lift (only_call trivial))
    intro record
    exact induction _

theorem confines_awaitReady :
    Confines spawns pids (awaitReady workers deadline timeout rounds).run := by
  induction rounds with
  | zero => trivial
  | succ rounds induction =>
    apply only_andThen (confines_countReady 0)
    intro ready
    split
    · trivial
    apply only_andThen (only_lift (only_call trivial))
    intro now
    split
    · trivial
    apply only_andThen (only_lift (only_call trivial))
    intro _
    exact induction

theorem confines_waitGenerationReady :
    Confines spawns pids (waitGenerationReady workers timeout).run := by
  apply only_andThen (only_lift (only_call trivial))
  intro now
  exact confines_awaitReady

theorem confines_signalAll (within : ∀ worker ∈ workers, worker.pid ∈ pids) :
    Confines spawns pids (signalAll workers) := by
  induction workers with
  | nil => trivial
  | cons worker workers induction =>
    obtain ⟨first, rest⟩ := List.forall_mem_cons.mp within
    apply only_bind (confines_sendSignal first)
    intro _
    exact induction rest

theorem confines_anyRunning (running : Bool) :
    Confines spawns pids (anyRunning running workers) := by
  induction workers generalizing running with
  | nil => trivial
  | cons worker workers induction =>
    apply only_bind (only_call trivial)
    intro answer
    exact induction _

theorem confines_awaitExits : Confines spawns pids (awaitExits workers deadline rounds) := by
  induction rounds with
  | zero => trivial
  | succ rounds induction =>
    apply only_bind (only_call trivial)
    intro now
    split
    · apply only_bind (confines_anyRunning false)
      intro running
      cases running with
      | false => trivial
      | true =>
        apply only_bind (only_call trivial)
        intro _
        exact induction
    · trivial

theorem confines_killAll (within : ∀ worker ∈ workers, worker.pid ∈ pids) :
    Confines spawns pids (killAll workers) := by
  induction workers with
  | nil => trivial
  | cons worker workers induction =>
    obtain ⟨first, rest⟩ := List.forall_mem_cons.mp within
    apply only_bind (only_call trivial)
    intro answer
    apply only_bind
    · cases observedRunning answer with
      | false => trivial
      | true => exact confines_sendSignal first
    intro _
    apply only_bind (only_call trivial)
    intro _
    exact induction rest

theorem confines_terminateWorkers (within : ∀ worker ∈ workers, worker.pid ∈ pids) :
    Confines spawns pids (terminateWorkers workers timeout) := by
  apply only_bind (confines_signalAll within)
  intro _
  apply only_bind (only_call trivial)
  intro now
  apply only_bind confines_awaitExits
  intro exited
  cases exited with
  | true => trivial
  | false => exact confines_killAll within

theorem confines_workerRecords : Confines spawns pids (workerRecords workers) := by
  induction workers with
  | nil => trivial
  | cons worker workers induction =>
    apply only_bind (only_call trivial)
    intro record
    apply only_bind induction
    intro records
    trivial

theorem confines_setClusterHealth :
    Confines spawns pids (setClusterHealth live startupComplete generation workers) := by
  apply only_bind confines_workerRecords
  intro records
  exact only_call trivial

variable (options : StartOptions)

theorem confines_spawnWorker (id : Nat) :
    Confines true pids (spawnWorker options id generation failures pool).run := by
  apply only_andThen
  · exact only_lift ⟨rfl, fun _ _ _ => trivial⟩
  intro reset
  apply only_andThen
  · cases reset <;> trivial
  intro _
  apply only_andThen (only_lift (only_call trivial))
  intro spawnedAtMillis
  apply only_andThen
  · exact only_lift ⟨rfl, fun _ _ _ => trivial⟩
  intro child
  apply only_andThen
  · cases child <;> trivial
  intro pid
  apply only_andThen (only_lift (only_call trivial))
  intro started
  trivial

theorem confines_spawnAll : Confines true pids (spawnAll options generation slots).run := by
  induction slots with
  | nil => trivial
  | cons slot slots induction =>
    apply only_andThen (confines_spawnWorker ..)
    intro worker
    apply only_andThen induction
    intro workers
    trivial

end Confinement

variable {world : World}

theorem executes_tryWait (executes : Executes refusal world (tryWait pid) answer target)
    (inspected : answer = .ok status) : target.exitStatus pid = status := by
  obtain ⟨drifted, fault, _, _, performed⟩ := runs_call.mp executes
  cases fault with
  | some message =>
    cases performed
    cases inspected
  | none =>
    cases performed
    cases inspected
    rfl

theorem executes_workerRecord
    (executes : Executes refusal world (workerRecord worker) record target)
    (ready : reportsReady record = true) : reportsReady (target.record worker.pid) = true := by
  obtain ⟨drifted, fault, _, _, performed⟩ := runs_call.mp executes
  cases performed
  cases fault with
  | some message => cases ready
  | none => exact ready

/-- Between `world` and `target` the worker was alive at some time, and at some
time its record said that it was ready. -/
structure BecameReady (world target : World) (worker : Worker) : Prop where
  running : ∃ moment, world.Leads moment ∧ moment.Leads target ∧ moment.exitStatus worker.pid = none
  ready : ∃ moment, world.Leads moment ∧ moment.Leads target ∧
    reportsReady (moment.record worker.pid) = true

theorem BecameReady.within (early : first.Leads world) (late : target.Leads last)
    (became : BecameReady world target worker) : BecameReady first last worker := by
  obtain ⟨alive, before, after, running⟩ := became.running
  obtain ⟨moment, earlier, later, ready⟩ := became.ready
  exact ⟨⟨alive, early.trans before, after.trans late, running⟩,
    ⟨moment, early.trans earlier, later.trans late, ready⟩⟩

theorem executes_countReady (executes : Executes refusal world (countReady ready workers).run
      (.ok count) target) : count ≤ ready + workers.length ∧ (count = ready + workers.length →
        ∀ worker ∈ workers, BecameReady world target worker) := by
  induction workers generalizing ready world with
  | nil =>
    obtain ⟨same, -⟩ := runs_pure.mp executes
    cases same
    exact ⟨Nat.le_refl _, fun _ => nofun⟩
  | cons worker workers induction =>
    obtain ⟨answer, inspected, asked, deciding⟩ := runs_andThen_ok.mp executes
    have asked := runs_lift_ok.mp asked
    rcases answer with message | _ | status
    · cases (runs_throw.mp deciding).1
    · obtain ⟨_, _, ⟨⟩, running⟩ := runs_andThen_ok.mp deciding
      obtain ⟨_, _, ⟨⟩, reading⟩ := runs_andThen_ok.mp running
      obtain ⟨record, read, recorded, rest⟩ := runs_andThen_ok.mp reading
      have recorded := runs_lift_ok.mp recorded
      obtain ⟨bound, others⟩ := induction rest
      have unexited := executes_tryWait asked rfl
      simp only [List.length_cons]
      refine ⟨?_, ?_⟩
      · split at bound <;> omega
      intro full other member
      -- The count is full only if this worker is counted too.
      have counted : reportsReady record = true := by
        by_contra missing
        simp only [missing] at bound
        simp only [if_false] at bound
        omega
      simp only [counted, if_true] at others
      have early := (leads_of_executes asked)
      have late := (leads_of_executes rest)
      rcases List.mem_cons.mp member with rfl | later
      · refine ⟨⟨_, early, ?_, unexited⟩, ⟨read, ?_, late, ?_⟩⟩
        · exact (leads_of_executes recorded).trans late
        · exact early.trans (leads_of_executes recorded)
        · exact executes_workerRecord recorded counted
      · exact (others (by omega) other later).within
          (early.trans (leads_of_executes recorded)) (.refl target)
    · cases (runs_throw.mp deciding).1

theorem executes_awaitReady (executes : Executes refusal world
      (awaitReady workers deadline timeout rounds).run (.ok ()) target) :
    ∀ worker ∈ workers, BecameReady world target worker := by
  induction rounds generalizing world with
  | zero => cases (runs_throw.mp executes).1
  | succ rounds induction =>
    obtain ⟨ready, middle, counted, executes⟩ := runs_andThen_ok.mp executes
    split at executes
    case isTrue full =>
      obtain ⟨-, rfl⟩ := runs_pure.mp executes
      exact (executes_countReady counted).2 (by omega)
    case isFalse =>
      obtain ⟨now, asked, told, executes⟩ := runs_andThen_ok.mp executes
      split at executes
      case isTrue => cases (runs_throw.mp executes).1
      case isFalse =>
        obtain ⟨_, later, slept, rest⟩ := runs_andThen_ok.mp executes
        intro worker member
        have early := (leads_of_executes counted).trans
          ((leads_of_executes told).trans (leads_of_executes slept))
        exact (induction rest worker member).within early (.refl target)

theorem executes_waitGenerationReady (executes : Executes refusal world
      (waitGenerationReady workers timeout).run (.ok ()) target) :
    ∀ worker ∈ workers, BecameReady world target worker := by
  obtain ⟨now, asked, told, executes⟩ := runs_andThen_ok.mp executes
  intro worker member
  exact (executes_awaitReady executes worker member).within (leads_of_executes told) (.refl target)

def Present (world : World) (workers : List Worker) : Prop :=
  ∀ worker ∈ workers, worker.pid < world.processes.length

theorem Present.leads (present : Present world workers)
    (leads : world.Leads target) : Present target workers :=
  fun worker member => (present worker member).trans_le leads.spawned

def Stopped (world : World) (workers : List Worker) : Prop :=
  ∀ worker ∈ workers, world.running worker.pid = false

theorem Stopped.leads (stopped : Stopped world workers)
    (present : Present world workers) (leads : world.Leads target) : Stopped target workers :=
  fun worker member => leads.stopped (present worker member) (stopped worker member)

/-- The workers have processes, and no other process runs. -/
structure Covers (world : World) (workers : List Worker) : Prop where
  present : Present world workers
  complete : ∀ pid, world.running pid = true → pid ∈ workers.map Worker.pid

theorem Covers.known (covers : Covers world workers) (leads : world.Leads target)
    (known : pid < world.processes.length) (running : target.running pid = true) :
    pid ∈ workers.map Worker.pid := by
  apply covers.complete
  by_contra stopped
  rw [leads.stopped known (eq_false_of_ne_true stopped)] at running
  cases running

theorem Covers.leads (covers : Covers world workers) (leads : world.Leads target)
    (same : target.processes.length = world.processes.length) : Covers target workers where
  present := covers.present.leads leads
  complete _ running := covers.known leads (same ▸ World.lt_of_running running) running

theorem executes_tryWait_stopped (executes : Executes refusal world (tryWait pid) answer target)
    (present : pid < world.processes.length)
    (exited : observedRunning answer = false) : target.running pid = false := by
  rcases answer with message | _ | status
  · cases exited
  · cases exited
  have later := present.trans_le (leads_of_executes executes).spawned
  exact (World.running_eq_false_iff later).mpr ⟨status, executes_tryWait executes rfl⟩

theorem executes_anyRunning (executes : Executes refusal world (anyRunning running workers) false
      target) (present : Present world workers) : running = false ∧ Stopped target workers := by
  induction workers generalizing running world with
  | nil =>
    obtain ⟨same, -⟩ := runs_done.mp executes
    exact ⟨same.symm, nofun⟩
  | cons worker workers induction =>
    obtain ⟨answer, middle, asked, rest⟩ := runs_bind.mp executes
    obtain ⟨first, others⟩ := List.forall_mem_cons.mp present
    obtain ⟨exited, stopped⟩ := induction rest (Present.leads others (leads_of_executes asked))
    obtain ⟨exited, idle⟩ := Bool.or_eq_false_iff.mp exited
    have gone := executes_tryWait_stopped asked first exited
    have later := first.trans_le (leads_of_executes asked).spawned
    exact ⟨idle, List.forall_mem_cons.mpr ⟨(leads_of_executes rest).stopped later gone, stopped⟩⟩

theorem executes_awaitExits (executes : Executes refusal world (awaitExits workers deadline rounds)
      true target) (present : Present world workers) : Stopped target workers := by
  induction rounds generalizing world with
  | zero => cases (runs_done.mp executes).1
  | succ rounds induction =>
    obtain ⟨now, asked, told, executes⟩ := runs_bind.mp executes
    split at executes
    case isFalse => cases (runs_done.mp executes).1
    case isTrue =>
      obtain ⟨running, middle, inspected, executes⟩ := runs_bind.mp executes
      have present := Present.leads present (leads_of_executes told)
      cases running with
      | false =>
        obtain ⟨-, rfl⟩ := runs_done.mp executes
        exact (executes_anyRunning inspected present).2
      | true =>
        obtain ⟨_, later, slept, rest⟩ := runs_bind.mp executes
        have passed := (leads_of_executes inspected).trans (leads_of_executes slept)
        exact induction rest (Present.leads present passed)

theorem executes_wait (executes : Executes refusal world (wait pid) () target) :
    target.running pid = false := by
  obtain ⟨drifted, fault, _, returns, performed⟩ := runs_call.mp executes
  cases performed
  exact returns

theorem executes_killAll (executes : Executes refusal world (killAll workers) () target)
    (present : Present world workers) : Stopped target workers := by
  induction workers generalizing world with
  | nil => exact nofun
  | cons worker workers induction =>
    obtain ⟨answer, asked, inspected, executes⟩ := runs_bind.mp executes
    obtain ⟨_, killed, signalled, executes⟩ := runs_bind.mp executes
    obtain ⟨_, middle, waited, rest⟩ := runs_bind.mp executes
    have leads := (leads_of_executes inspected).trans
      ((leads_of_executes signalled).trans (leads_of_executes waited))
    obtain ⟨first, others⟩ := List.forall_mem_cons.mp (Present.leads present leads)
    have gone := (leads_of_executes rest).stopped first (executes_wait waited)
    exact List.forall_mem_cons.mpr ⟨gone, induction rest others⟩

theorem executes_terminateWorkers
    (executes : Executes refusal world (terminateWorkers workers timeout) ()
      target) (present : Present world workers) : Stopped target workers := by
  obtain ⟨_, signalled, sent, executes⟩ := runs_bind.mp executes
  obtain ⟨now, asked, told, executes⟩ := runs_bind.mp executes
  obtain ⟨exited, middle, waited, executes⟩ := runs_bind.mp executes
  have early := (leads_of_executes sent).trans (leads_of_executes told)
  have present := Present.leads present early
  cases exited with
  | true =>
    obtain ⟨-, rfl⟩ := runs_done.mp executes
    exact executes_awaitExits waited present
  | false => exact executes_killAll executes (Present.leads present (leads_of_executes waited))

/-- The operating system refused none of the requests made in between. -/
def Granted (refusal : Nat → Option String) (before after : World) : Prop :=
  ∀ number, before.attempts ≤ number → number < after.attempts → refusal number = none

theorem granted_of_still {pids : List Pid} (still : world.Still pids target) :
    Granted refusal world target := by
  intro number reached before
  rw [still.attempts] at before
  omega

theorem granted_trans (early : first.Leads second) (late : second.Leads third) :
    Granted refusal first third ↔ Granted refusal first second ∧ Granted refusal second third := by
  have earlier := early.attempts
  have later := late.attempts
  constructor
  · intro granted
    refine ⟨?_, ?_⟩
    · intro number reached before
      exact granted number reached (before.trans_le later)
    · intro number reached before
      exact granted number (earlier.trans reached) before
  · intro granted number reached before
    rcases Nat.lt_or_ge number second.attempts with less | least
    · exact granted.1 number reached less
    · exact granted.2 number least before

theorem granted_one (counted : target.attempts = world.attempts + 1) :
    Granted refusal world target ↔ refusal world.attempts = none := by
  constructor
  · intro granted
    exact granted _ (Nat.le_refl _) (by omega)
  intro allowed number reached before
  have same : number = world.attempts := by omega
  rw [same]
  exact allowed

theorem World.request_cases {answer : Except String Value}
    (requested : world.request refusal granted = (answer, target)) :
    (answer = .ok granted.1 ∧ refusal world.attempts = none ∧
        target = { granted.2 with attempts := world.attempts + 1 }) ∨
      ∃ message, answer = .error message ∧ refusal world.attempts = some message ∧
        target = { world with attempts := world.attempts + 1 } := by
  unfold World.request at requested
  cases refused : refusal world.attempts with
  | none =>
    rw [refused] at requested
    cases requested
    exact .inl ⟨rfl, rfl, rfl⟩
  | some message =>
    rw [refused] at requested
    cases requested
    exact .inr ⟨message, rfl, rfl, rfl⟩

theorem executes_resetState {id generation : Nat} {answer : Except String Unit}
    (executes : Executes refusal world (resetState id generation) answer target) :
    target.processes.length = world.processes.length ∧
      ((answer = .ok () ∧ Granted refusal world target) ∨
        ∃ message, answer = .error message ∧ ¬ Granted refusal world target) := by
  obtain ⟨drifted, fault, drifts, _, performed⟩ := runs_call.mp executes
  rcases World.request_cases performed with ⟨rfl, allowed, rfl⟩ | ⟨message, rfl, refused, rfl⟩
  · refine ⟨drifts.spawned, .inl ⟨rfl, ?_⟩⟩
    rw [granted_one (congrArg (· + 1) drifts.attempts), ← drifts.attempts]
    exact allowed
  refine ⟨drifts.spawned, .inr ⟨message, rfl, ?_⟩⟩
  rw [granted_one (congrArg (· + 1) drifts.attempts), ← drifts.attempts, refused]
  exact nofun

theorem executes_spawn {answer : Except String Pid}
    (executes : Executes refusal world (spawn launch) answer target) :
    (answer = .ok world.processes.length ∧ target.processes.length = world.processes.length + 1 ∧
        Granted refusal world target) ∨
      ∃ message, answer = .error message ∧ target.processes.length = world.processes.length ∧
        ¬ Granted refusal world target := by
  obtain ⟨drifted, fault, drifts, _, performed⟩ := runs_call.mp executes
  rcases World.request_cases performed with ⟨rfl, allowed, rfl⟩ | ⟨message, rfl, refused, rfl⟩
  · refine .inl ⟨congrArg Except.ok drifts.spawned, ?_, ?_⟩
    · rw [← drifts.spawned]
      exact List.length_append
    · rw [granted_one (congrArg (· + 1) drifts.attempts), ← drifts.attempts]
      exact allowed
  · refine .inr ⟨message, rfl, drifts.spawned, ?_⟩
    rw [granted_one (congrArg (· + 1) drifts.attempts), ← drifts.attempts, refused]
    exact nofun

structure Spawned (before after : World) (generation : Nat)
    (slot : Option RuntimePool × Nat) (worker : Worker) : Prop where
  pid : worker.pid = before.processes.length
  added : after.processes.length = before.processes.length + 1
  generation : worker.generation = generation
  slot : (worker.pool, worker.id) = slot

theorem executes_spawnWorker {id generation failures : Nat} (executes : Executes refusal world
      (spawnWorker options id generation failures pool).run outcome target) :
    (∃ worker, outcome = .ok worker ∧ Granted refusal world target ∧
        Spawned world target generation (pool, id) worker) ∨
      ∃ error, outcome = .error error ∧ (error.ofSpawn = true ∧ ¬ Granted refusal world target) ∧
        target.processes.length = world.processes.length := by
  obtain ⟨reset, first, asked, unwrapping⟩ := runs_lift_andThen.mp executes
  have asked := runs_lift_ok.mp asked
  have early := leads_of_executes asked
  have late := leads_of_executes unwrapping
  obtain ⟨count, cleared⟩ := executes_resetState asked
  rw [granted_trans early late]
  rcases cleared with ⟨rfl, allowed⟩ | ⟨message, rfl, refused⟩
  · simp only [allowed]
    obtain ⟨spawnedAtMillis, second, told, spawning⟩ := runs_lift_andThen.mp unwrapping
    have quiet := still_of_executes told (only_call trivial : Confines false [] epochMillis)
    obtain ⟨child, third, spawned, last⟩ := runs_lift_andThen.mp spawning
    have spawned := runs_lift_ok.mp spawned
    have middle := leads_of_executes told
    have between := leads_of_executes spawned
    have rest := leads_of_executes last
    rw [granted_trans middle (between.trans rest), granted_trans between rest]
    simp only [granted_of_still quiet, true_and]
    rcases executes_spawn spawned with ⟨rfl, added, allowed⟩ | ⟨message, rfl, kept, refused⟩
    · obtain ⟨started, fourth, clocked, returned⟩ := runs_lift_andThen.mp last
      have calm := still_of_executes clocked (only_call trivial : Confines false [] instant)
      obtain ⟨rfl, rfl⟩ := runs_pure.mp returned
      refine .inl ⟨_, rfl, ⟨allowed, granted_of_still calm⟩, ?_⟩
      refine ⟨?_, ?_, rfl, rfl⟩
      · exact quiet.spawned.trans count
      · rw [calm.spawned, added, quiet.spawned, count]
    · obtain ⟨rfl, rfl⟩ := runs_throw.mp last
      exact .inr ⟨_, rfl, ⟨rfl, fun granted => refused granted.1⟩,
        kept.trans (quiet.spawned.trans count)⟩
  · obtain ⟨rfl, rfl⟩ := runs_throw.mp unwrapping
    exact .inr ⟨_, rfl, ⟨rfl, fun granted => refused granted.1⟩, count⟩

structure Generation (before after : World) (generation : Nat)
    (slots : List (Option RuntimePool × Nat)) (workers : List Worker) : Prop where
  pids : workers.map Worker.pid = List.range' before.processes.length slots.length
  added : after.processes.length = before.processes.length + slots.length
  generation : ∀ worker ∈ workers, worker.generation = generation
  slots : workers.map (fun worker => (worker.pool, worker.id)) = slots

theorem executes_spawnAll {generation : Nat} {slots : List (Option RuntimePool × Nat)}
    (executes : Executes refusal world (spawnAll options generation slots).run outcome target) :
    (∃ workers, outcome = .ok workers ∧ Granted refusal world target ∧
        Generation world target generation slots workers) ∨
      ∃ error, outcome = .error error ∧ error.ofSpawn = true ∧ ¬ Granted refusal world target := by
  induction slots generalizing world outcome with
  | nil =>
    obtain ⟨rfl, rfl⟩ := runs_pure.mp executes
    exact .inl ⟨[], rfl, granted_of_still (.refl [] _), ⟨rfl, rfl, nofun, rfl⟩⟩
  | cons slot slots induction =>
    rcases runs_andThen.mp executes with ⟨worker, middle, first, others⟩ | ⟨error, rfl, failed⟩
    · rcases executes_spawnWorker first with ⟨_, ⟨⟩, allowed, spawned⟩ | ⟨_, ⟨⟩, _⟩
      have early := leads_of_executes first
      have late := leads_of_executes others
      rw [granted_trans early late]
      simp only [allowed, true_and]
      rcases runs_andThen.mp others with ⟨workers, last, rest, returned⟩ | ⟨error, rfl, failed⟩
      · obtain ⟨rfl, rfl⟩ := runs_pure.mp returned
        rcases induction rest with ⟨_, ⟨⟩, granted, created⟩ | ⟨_, ⟨⟩, _⟩
        refine .inl ⟨_, rfl, granted, ?_, ?_, ?_, ?_⟩
        · rw [List.map_cons, created.pids, spawned.added, spawned.pid,
            List.length_cons, List.range'_succ]
        · rw [created.added, spawned.added, List.length_cons]
          omega
        · exact List.forall_mem_cons.mpr ⟨spawned.generation, created.generation⟩
        · rw [List.map_cons, created.slots, spawned.slot]
      · rcases induction failed with ⟨_, ⟨⟩, _⟩ | ⟨_, ⟨⟩, rest⟩
        exact .inr ⟨error, rfl, rest⟩
    · rcases executes_spawnWorker failed with ⟨_, ⟨⟩, _⟩ | ⟨_, ⟨⟩, rest, _⟩
      exact .inr ⟨error, rfl, rest⟩

namespace Generation

variable {generation : Nat} {slots : List (Option RuntimePool × Nat)}
  (created : Generation before after generation slots workers)

include created

theorem mem_pids : pid ∈ workers.map Worker.pid ↔
      before.processes.length ≤ pid ∧ pid < after.processes.length := by
  rw [created.pids, List.mem_range'_1, created.added]

theorem present : Present after workers := by
  intro worker member
  exact (created.mem_pids.mp (List.mem_map_of_mem member)).2

theorem covers {pids : List Pid} (still : after.Still pids target)
    (gone : ∀ pid < before.processes.length, target.running pid = false) :
    Covers target workers where
  present := created.present.leads still.leads
  complete pid running := by
    refine created.mem_pids.mpr ⟨?_, still.spawned ▸ World.lt_of_running running⟩
    by_contra old
    rw [gone pid (by omega)] at running
    cases running

end Generation

end Pam.Cluster
