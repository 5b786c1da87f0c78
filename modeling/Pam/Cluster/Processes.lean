import Pam.Cluster.Master
import Pam.Foundation.Execution

namespace Pam.Cluster

open Pam.Foundation Pam.Server Option Nat

/-! The processes of the workers. Between any two accesses of the master a
worker may exit or rewrite its record, and time may pass. -/

structure WorkerProcess where
  status : Option ExitStatus
  record : Option WorkerReport
  signals : List WorkerSignal

def WorkerProcess.spawned : WorkerProcess where
  status := none
  record := none
  signals := []

/-- `attempts` numbers the requests that `spawn_worker` makes of the operating
system, `connections` are those of the ingress. -/
structure World where
  processes : List WorkerProcess
  connections : Nat
  clock : Nat
  attempts : Nat
  health : Option ClusterHealth

def World.initial (clock : Nat) : World where
  processes := []
  connections := 0
  clock := clock
  attempts := 0
  health := none

namespace World

def exitStatus (world : World) (pid : Pid) : Option ExitStatus :=
  world.processes[pid]?.bind WorkerProcess.status

def record (world : World) (pid : Pid) : Option WorkerReport :=
  world.processes[pid]?.bind WorkerProcess.record

def signals (world : World) (pid : Pid) : Option (List WorkerSignal) :=
  world.processes[pid]?.map WorkerProcess.signals

def running (world : World) (pid : Pid) : Bool := match world.processes[pid]? with
  | some process => process.status.isNone
  | none => false

variable {world : World}

theorem running_eq_false_iff (present : pid < world.processes.length) :
    world.running pid = false ↔ ∃ status, world.exitStatus pid = some status := by
  simp only [running, exitStatus, List.getElem?_eq_getElem present, bind_some]
  cases world.processes[pid].status <;> simp

theorem running_of_absent (absent : world.processes.length ≤ pid) : world.running pid = false := by
  simp [running, List.getElem?_eq_none absent]

theorem lt_of_running (running : world.running pid = true) : pid < world.processes.length := by
  by_contra absent
  rw [running_of_absent (not_lt.mp absent)] at running
  cases running

structure Drifts (before after : World) : Prop where
  clock : before.clock ≤ after.clock
  attempts : after.attempts = before.attempts
  spawned : after.processes.length = before.processes.length
  signals : ∀ pid, after.signals pid = before.signals pid
  exited : ∀ {pid status}, before.exitStatus pid = some status → after.exitStatus pid = some status

theorem Drifts.refl (world : World) : world.Drifts world where
  clock := le_refl _
  attempts := rfl
  spawned := rfl
  signals _ := rfl
  exited same := same

variable (refusal : Nat → Option String)

def request {Value : Type} (world : World) (granted : Value × World) :
    Except String Value × World :=
  match refusal world.attempts with
  | some message => (.error message, { world with attempts := world.attempts + 1 })
  | none => (.ok granted.1, { granted.2 with attempts := world.attempts + 1 })

def spawn (world : World) : World := { world with processes := world.processes ++ [.spawned] }

def signal (world : World) (pid : Pid) (signal : WorkerSignal) : World := { world with
    processes := world.processes.modify pid fun process =>
      { process with signals := process.signals ++ [signal] } }

/-- The answer of an access and the world after it. A fault is a failed
inspection or an unreadable state file. -/
def perform (world : World) (fault : Option String) :
    (action : MasterAction) → action.Answer × World
  | .resetState _ _ => world.request refusal ((), world)
  | .spawn _ => world.request refusal (world.processes.length, world.spawn)
  | .tryWait pid =>
    match fault with
    | some message => (.error message, world)
    | none => (.ok (world.exitStatus pid), world)
  | .workerRecord worker => (if fault.isSome then none else world.record worker.pid, world)
  | .signal pid signal => ((), world.signal pid signal)
  | .wait _ => ((), world)
  | .instant => (world.clock, world)
  | .epochMillis => (world.clock, world)
  | .stopIngress => ((), world)
  | .sleep duration => ((), { world with clock := world.clock + duration })
  | .setClusterHealth health => ((), { world with health := some health })

def Returns (world : World) : MasterAction → Prop
  | .wait pid => world.running pid = false
  | .stopIngress => world.connections = 0
  | _ => True

def Answers (world : World) (action : MasterAction) (answer : action.Answer)
    (target : World) : Prop := ∃ drifted fault, world.Drifts drifted ∧ drifted.Returns action ∧
    drifted.perform refusal fault action = (answer, target)

structure Leads (before after : World) : Prop where
  clock : before.clock ≤ after.clock
  attempts : before.attempts ≤ after.attempts
  spawned : before.processes.length ≤ after.processes.length
  exited : ∀ {pid status}, before.exitStatus pid = some status → after.exitStatus pid = some status

theorem Leads.refl (world : World) : world.Leads world where
  clock := le_refl _
  attempts := le_refl _
  spawned := le_refl _
  exited same := same

theorem Leads.trans {first second third : World} (early : first.Leads second)
    (late : second.Leads third) : first.Leads third where
  clock := early.clock.trans late.clock
  attempts := early.attempts.trans late.attempts
  spawned := early.spawned.trans late.spawned
  exited same := late.exited (early.exited same)

theorem Drifts.leads {before after : World} (drifts : before.Drifts after) :
    before.Leads after where
  clock := drifts.clock
  attempts := drifts.attempts.ge
  spawned := drifts.spawned.ge
  exited := drifts.exited

theorem Leads.stopped {before after : World} (leads : before.Leads after)
    (present : pid < before.processes.length)
    (stopped : before.running pid = false) : after.running pid = false := by
  obtain ⟨status, exited⟩ := (running_eq_false_iff present).mp stopped
  have later := present.trans_le leads.spawned
  exact (running_eq_false_iff later).mpr ⟨status, leads.exited exited⟩

theorem exitStatus_spawn (exited : world.exitStatus pid = some status) :
    world.spawn.exitStatus pid = some status := by
  obtain ⟨process, present, same⟩ := bind_eq_some_iff.mp exited
  have within := (List.getElem?_eq_some_iff.mp present).1
  have kept : world.spawn.processes[pid]? = world.processes[pid]? :=
    List.getElem?_append_left within
  rw [exitStatus, kept]
  exact exited

theorem exitStatus_signal (signal : WorkerSignal) :
    (world.signal target signal).exitStatus pid = world.exitStatus pid := by
  simp only [World.signal, exitStatus, List.getElem?_modify]
  cases world.processes[pid]? with
  | none => rfl
  | some process => by_cases same : target = pid <;> simp [same]

theorem signals_signal (other : pid ≠ target) (signal : WorkerSignal) :
    (world.signal target signal).signals pid = world.signals pid := by
  simp only [World.signal, signals, List.getElem?_modify]
  cases world.processes[pid]? with
  | none => rfl
  | some process => simp [other.symm]

theorem signals_spawn (present : pid < world.processes.length) :
    world.spawn.signals pid = world.signals pid := by
  have kept : world.spawn.processes[pid]? = world.processes[pid]? :=
    List.getElem?_append_left present
  rw [signals, signals, kept]

theorem request_leads (leads : world.Leads granted.2) :
    world.Leads (world.request refusal granted).2 := by
  unfold request
  cases refusal world.attempts with
  | some message => exact ⟨le_refl _, le_succ _, le_refl _, id⟩
  | none => exact ⟨leads.clock, le_succ _, leads.spawned, leads.exited⟩

theorem perform_leads : world.Leads (world.perform refusal fault action).2 := by
  cases action with
  | resetState id generation => exact request_leads refusal (.refl world)
  | spawn launch =>
    apply request_leads
    exact ⟨le_refl _, le_refl _, by simp [World.spawn], exitStatus_spawn⟩
  | tryWait pid => cases fault <;> exact .refl world
  | signal pid signal =>
    refine ⟨le_refl _, le_refl _, ?_, ?_⟩
    · exact (List.length_modify ..).ge
    · intro other status exited
      exact (exitStatus_signal signal).trans exited
  | sleep duration => exact ⟨le_add_right _ _, le_refl _, le_refl _, id⟩
  | setClusterHealth health => exact ⟨le_refl _, le_refl _, le_refl _, id⟩
  | workerRecord worker | wait pid | instant | epochMillis | stopIngress => exact .refl world

variable {refusal}

theorem Answers.leads {action : MasterAction} {answer : action.Answer}
    (answered : world.Answers refusal action answer target) : world.Leads target := by
  obtain ⟨drifted, fault, drifts, _, performed⟩ := answered
  have same : (drifted.perform refusal fault action).2 = target := congrArg Prod.snd performed
  exact drifts.leads.trans (same ▸ perform_leads refusal)

end World

abbrev Executes (refusal : Nat → Option String) {Result : Type}
    (world : World) (program : Quiet Result) (result : Result) (target : World) : Prop :=
  Program.Runs (World.Answers refusal) world program result target

/-! Every access has an answer: a process that is waited for exits at last, and
the clients of the ingress leave. -/

def World.exit (world : World) (pid : Pid) (status : ExitStatus) : World := { world with
    processes := world.processes.modify pid fun process =>
      { process with status := process.status.or (some status) } }

theorem World.drifts_exit (world : World) : world.Drifts (world.exit pid status) where
  clock := le_refl _
  attempts := rfl
  spawned := List.length_modify ..
  signals other := by
    simp only [World.exit, World.signals, List.getElem?_modify]
    cases world.processes[other]? with
    | none => rfl
    | some process => by_cases same : pid = other <;> simp [same]
  exited := by
    intro other given exited
    simp only [World.exit, World.exitStatus]
    obtain ⟨process, present, same⟩ := bind_eq_some_iff.mp exited
    by_cases selected : pid = other <;> simp [present, same, selected]

theorem World.running_exit (world : World) : (world.exit pid status).running pid = false := by
  simp only [World.exit, World.running, List.getElem?_modify]
  cases world.processes[pid]? with
  | none => rfl
  | some process => cases given : process.status <;> simp [given]

theorem World.exists_answer (world : World)
    (action : MasterAction) : ∃ answer target, world.Answers refusal action answer target := by
  have returned (drifted : World) (drifts : world.Drifts drifted)
      (returns : drifted.Returns action) :
      ∃ answer target, world.Answers refusal action answer target :=
    ⟨_, _, drifted, none, drifts, returns, rfl⟩
  cases action with
  | wait pid =>
    exact returned (world.exit pid "signal: 9 (SIGKILL)") world.drifts_exit world.running_exit
  | stopIngress =>
    exact returned { world with connections := 0 } ⟨le_refl _, rfl, rfl, fun _ => rfl, id⟩ rfl
  | _ => exact returned world (.refl world) trivial

theorem exists_executes {Result : Type} (program : Quiet Result) :
    ∃ result target, Executes refusal world program result target :=
  Program.exists_runs World.exists_answer program world

def MasterAction.Confined (spawns : Bool) (pids : List Pid) : MasterAction → Prop
  | .resetState _ _ => spawns = true
  | .spawn _ => spawns = true
  | .signal pid _ => pid ∈ pids
  | _ => True

abbrev Confines (spawns : Bool) (pids : List Pid) {Result : Type} (program : Quiet Result) : Prop :=
  (Monitor.only (MasterAction.Confined spawns pids)).Obeys () program

structure World.Spares (pids : List Pid) (before after : World) : Prop where
  spawned : before.processes.length ≤ after.processes.length
  signals : ∀ pid, pid < before.processes.length → pid ∉ pids →
    after.signals pid = before.signals pid

structure World.Still (pids : List Pid) (before after : World) : Prop where
  leads : before.Leads after
  attempts : after.attempts = before.attempts
  spawned : after.processes.length = before.processes.length
  spares : before.Spares pids after

theorem World.Spares.refl (pids : List Pid) (world : World) : world.Spares pids world :=
  ⟨le_refl _, fun _ _ _ => rfl⟩

theorem World.Spares.trans {pids : List Pid} {first second third : World}
    (early : first.Spares pids second) (late : second.Spares pids third) :
    first.Spares pids third where
  spawned := early.spawned.trans late.spawned
  signals pid present outside := (late.signals pid (present.trans_le early.spawned) outside).trans
      (early.signals pid present outside)

theorem World.Spares.weaken {fewer pids : List Pid} {before after : World}
    (spares : before.Spares fewer after) (subset : fewer ⊆ pids) : before.Spares pids after :=
  ⟨spares.spawned, fun pid present outside =>
    spares.signals pid present fun member => outside (subset member)⟩

theorem World.Still.refl (pids : List Pid) (world : World) : world.Still pids world :=
  ⟨.refl world, rfl, rfl, .refl pids world⟩

theorem World.Still.trans {pids : List Pid} {first second third : World}
    (early : first.Still pids second) (late : second.Still pids third) :
    first.Still pids third where
  leads := early.leads.trans late.leads
  attempts := late.attempts.trans early.attempts
  spawned := late.spawned.trans early.spawned
  spares := early.spares.trans late.spares

variable {world : World}

theorem leads_of_executes (executes : Executes refusal world program result target) :
    world.Leads target := by
  have keeps {before after : World} {action : MasterAction}
      {answer : action.Answer} (leads : world.Leads before)
      (answered : before.Answers refusal action answer after) :
      world.Leads after := leads.trans answered.leads
  exact executes.invariant keeps (.refl world)

theorem World.Spares.answers
    (confined : action.Confined spawns pids) (spares : world.Spares pids before)
    (answered : before.Answers refusal action answer after) : world.Spares pids after := by
  refine ⟨spares.spawned.trans answered.leads.spawned, ?_⟩
  intro pid present outside
  obtain ⟨drifted, fault, drifts, _, performed⟩ := answered
  rw [← spares.signals pid present outside, ← drifts.signals pid]
  have present : pid < drifted.processes.length := drifts.spawned ▸ present.trans_le spares.spawned
  have same : (drifted.perform refusal fault action).2 = after := congrArg Prod.snd performed
  rw [← same]
  cases action with
  | signal other signal =>
    have apart : pid ≠ other := fun same => outside (same ▸ confined)
    exact World.signals_signal apart signal
  | spawn launch =>
    simp only [World.perform, World.request]
    cases refusal drifted.attempts with
    | some message => rfl
    | none => exact World.signals_spawn present
  | resetState id generation =>
    simp only [World.perform, World.request]
    cases refusal drifted.attempts <;> rfl
  | tryWait other => cases fault <;> rfl
  | _ => rfl

theorem spares_of_executes (executes : Executes refusal world program result target)
    (confines : Confines spawns pids program) : world.Spares pids target :=
  executes.kept (world.Spares pids) confines
    (fun confined spares answered => spares.answers confined answered) (.refl pids world)

theorem World.Still.answers (confined : action.Confined false pids)
    (still : world.Still pids before) (answered : before.Answers refusal action answer after) :
    world.Still pids after := by
  have spares := still.spares.answers confined answered
  have leads := still.leads.trans answered.leads
  obtain ⟨drifted, fault, drifts, _, performed⟩ := answered
  have same : (drifted.perform refusal fault action).2 = after := congrArg Prod.snd performed
  have unchanged : (drifted.perform refusal fault action).2.attempts = drifted.attempts ∧
        (drifted.perform refusal fault action).2.processes.length = drifted.processes.length := by
    cases action with
    | spawn launch | resetState id generation => cases confined
    | signal pid signal => exact ⟨rfl, List.length_modify ..⟩
    | tryWait pid => cases fault <;> exact ⟨rfl, rfl⟩
    | _ => exact ⟨rfl, rfl⟩
  rw [same] at unchanged
  exact ⟨leads, unchanged.1.trans (drifts.attempts.trans still.attempts),
    unchanged.2.trans (drifts.spawned.trans still.spawned), spares⟩

theorem still_of_executes (executes : Executes refusal world program result target)
    (confines : Confines false pids program) : world.Still pids target :=
  executes.kept (world.Still pids) confines
    (fun confined still answered => still.answers confined answered) (.refl pids world)

end Pam.Cluster
