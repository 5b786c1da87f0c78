import Pam.Foundation.Program
import Pam.Server.WorkerWatch

namespace Pam.Cluster

open Pam.Foundation Pam.Server

/-! The master of a cluster: it spawns a generation of workers, watches them,
and replaces them on `SIGHUP`. Times are in milliseconds. -/

/-- A child process of the master, numbered in the order of spawning. -/
abbrev Pid := Nat

abbrev ExitStatus := String

structure RuntimePool where
  name : String
  workers : Nat
  prefixes : List String
  address : String

structure StartOptions where
  workers : Nat
  maxRequests : Nat
  gracefulTimeout : Nat
  startupTimeout : Nat
  restartBackoff : Nat
  watchdogGrace : Nat
  ingressAddress : Option String

structure Worker where
  id : Nat
  generation : Nat
  pid : Pid
  spawnedAtMillis : Nat
  started : Nat
  consecutiveFailures : Nat
  pool : Option RuntimePool

structure WorkerLaunch where
  id : Nat
  generation : Nat
  maxRequests : Nat
  spawnedAtMillis : Nat
  pool : Option RuntimePool

inductive WorkerSignal where
  | terminate
  | kill

structure ClusterHealth where
  live : Bool
  startupComplete : Bool
  generation : Nat
  workers : List WorkerReport

inductive MasterAction where
  | resetState (id generation : Nat)
  | spawn (launch : WorkerLaunch)
  | tryWait (pid : Pid)
  | workerRecord (worker : Worker)
  | signal (pid : Pid) (signal : WorkerSignal)
  | wait (pid : Pid)
  | instant
  | epochMillis
  | sleep (duration : Nat)
  | stopIngress
  | setClusterHealth (health : ClusterHealth)

def MasterAction.Answer : MasterAction → Type
  | .resetState _ _ => Except String Unit
  | .spawn _ => Except String Pid
  | .tryWait _ => Except String (Option ExitStatus)
  | .workerRecord _ => Option WorkerReport
  | .signal _ _ => Unit
  | .wait _ => Unit
  | .instant => Nat
  | .epochMillis => Nat
  | .sleep _ => Unit
  | .stopIngress => Unit
  | .setClusterHealth _ => Unit

inductive MasterError where
  | resetState (id generation : Nat) (error : String)
  | start (id : Nat) (error : String)
  | inspect (error : String)
  | inspectWorker (id : Nat) (error : String)
  | exited (id generation : Nat) (status : ExitStatus)
  | notReady (ready workers timeout : Nat)

def MasterError.ofSpawn : MasterError → Bool
  | .resetState _ _ _ => true
  | .start _ _ => true
  | _ => false

abbrev Quiet := Program MasterAction MasterAction.Answer

abbrev Fallible := ExceptT MasterError Quiet

def resetState (id generation : Nat) : Quiet (Except String Unit) :=
  Program.call (MasterAction.resetState id generation)

def spawn (launch : WorkerLaunch) : Quiet (Except String Pid) :=
  Program.call (MasterAction.spawn launch)

def tryWait (pid : Pid) : Quiet (Except String (Option ExitStatus)) :=
  Program.call (MasterAction.tryWait pid)

def workerRecord (worker : Worker) : Quiet (Option WorkerReport) :=
  Program.call (MasterAction.workerRecord worker)

def sendSignal (pid : Pid) (signal : WorkerSignal) : Quiet Unit :=
  Program.call (MasterAction.signal pid signal)

def wait (pid : Pid) : Quiet Unit := Program.call (MasterAction.wait pid)

def instant : Quiet Nat := Program.call MasterAction.instant

def epochMillis : Quiet Nat := Program.call MasterAction.epochMillis

def sleep (duration : Nat) : Quiet Unit := Program.call (MasterAction.sleep duration)

def orFail {Value : Type} (describe : String → MasterError) : Except String Value → Fallible Value
  | .ok value => pure value
  | .error error => throw (describe error)

def staggeredMaxRequests (options : StartOptions) (workerId : Nat) : Nat :=
  if options.workers ≤ 1 ∨ options.maxRequests < 1000 then options.maxRequests
  else
    let spread := options.maxRequests / 4
    let offset := min (spread * (workerId - 1)) maxMillis / (options.workers - 1)
    saturatingAdd options.maxRequests offset

def spawnWorker (options : StartOptions) (id generation : Nat)
    (consecutiveFailures : Nat) (pool : Option RuntimePool) : Fallible Worker := do
  let reset ← ExceptT.lift (resetState id generation)
  orFail (.resetState id generation) reset
  let spawnedAtMillis ← ExceptT.lift epochMillis
  let child ← ExceptT.lift (spawn
    { id := id
      generation := generation
      maxRequests := staggeredMaxRequests options id
      spawnedAtMillis := spawnedAtMillis
      pool := pool })
  let pid ← orFail (.start id) child
  let started ← ExceptT.lift instant
  pure
    { id := id
      generation := generation
      pid := pid
      spawnedAtMillis := spawnedAtMillis
      started := started
      consecutiveFailures := consecutiveFailures
      pool := pool }

def layout (options : StartOptions) (pools : List RuntimePool) : List (Option RuntimePool × Nat) :=
  if pools.isEmpty then (List.replicate options.workers none).zipIdx 1
  else
    (pools.flatMap fun pool => List.replicate pool.workers (some pool)).zipIdx 1

/-- The workers spawned before a failing one are dropped with the error. -/
def spawnAll (options : StartOptions) (generation : Nat) :
    List (Option RuntimePool × Nat) → Fallible (List Worker)
  | [] => pure []
  | (pool, id) :: slots => do
      let worker ← spawnWorker options id generation 0 pool
      let workers ← spawnAll options generation slots
      pure (worker :: workers)

def spawnGeneration (options : StartOptions) (pools : List RuntimePool)
    (generation : Nat) : Fallible (List Worker) :=
  spawnAll options generation (layout options pools)

def reportsReady (record : Option WorkerReport) : Bool := match record with
  | some report => report.lifecycle == .ready || report.lifecycle == .busy
  | none => false

def stillRunning (worker : Worker) : Option ExitStatus → Fallible Unit
  | some status => throw (.exited worker.id worker.generation status)
  | none => pure ()

def countReady (ready : Nat) : List Worker → Fallible Nat
  | [] => pure ready
  | worker :: workers => do
      let answer ← ExceptT.lift (tryWait worker.pid)
      let status ← orFail (.inspectWorker worker.id) answer
      stillRunning worker status
      let record ← ExceptT.lift (workerRecord worker)
      countReady (if reportsReady record then ready + 1 else ready) workers

/-- The rounds of `wait_generation_ready`, five milliseconds apart. They do not
run out: one begins after the deadline. -/
def awaitReady (workers : List Worker) (deadline timeout : Nat) : Nat → Fallible Unit
  | 0 => throw (.notReady 0 workers.length timeout)
  | rounds + 1 => do
      let ready ← countReady 0 workers
      if ready = workers.length then pure () else do
        let now ← ExceptT.lift instant
        if deadline ≤ now then throw (.notReady ready workers.length timeout) else do
          ExceptT.lift (sleep 5)
          awaitReady workers deadline timeout rounds

def waitGenerationReady (workers : List Worker) (timeout : Nat) : Fallible Unit := do
  let now ← ExceptT.lift instant
  awaitReady workers (now + timeout) timeout (timeout / 5 + 2)

/-! Termination. A worker that cannot be inspected counts as running. -/

def observedRunning : Except String (Option ExitStatus) → Bool
  | .ok (some _) => false
  | _ => true

def signalAll : List Worker → Quiet Unit
  | [] => pure ()
  | worker :: workers => do
      sendSignal worker.pid .terminate
      signalAll workers

/-- Every worker is inspected, whatever was found before. -/
def anyRunning (running : Bool) : List Worker → Quiet Bool
  | [] => pure running
  | worker :: workers => do
      let answer ← tryWait worker.pid
      anyRunning (observedRunning answer || running) workers

/-- The rounds of `terminate_workers`, fifty milliseconds apart: whether all
workers had exited in one of them. -/
def awaitExits (workers : List Worker) (deadline : Nat) : Nat → Quiet Bool
  | 0 => pure false
  | rounds + 1 => do
      let now ← instant
      if now < deadline then do
        let running ← anyRunning false workers
        if running then do
          sleep 50
          awaitExits workers deadline rounds
        else pure true
      else pure false

def killIfRunning (worker : Worker) (running : Bool) : Quiet Unit :=
  if running then sendSignal worker.pid .kill else pure ()

def killAll : List Worker → Quiet Unit
  | [] => pure ()
  | worker :: workers => do
      let answer ← tryWait worker.pid
      killIfRunning worker (observedRunning answer)
      wait worker.pid
      killAll workers

def terminateWorkers (workers : List Worker) (timeout : Nat) : Quiet Unit := do
  signalAll workers
  let now ← instant
  let exited ← awaitExits workers (now + timeout) (timeout / 50 + 2)
  if exited then pure () else killAll workers

def workerRecords : List Worker → Quiet (List WorkerReport)
  | [] => pure []
  | worker :: workers => do
      let record ← workerRecord worker
      let records ← workerRecords workers
      pure (record.toList ++ records)

def setClusterHealth (live startupComplete : Bool) (generation : Nat)
    (workers : List Worker) : Quiet Unit := do
  let records ← workerRecords workers
  Program.call (MasterAction.setClusterHealth
    { live := live
      startupComplete := startupComplete
      generation := generation
      workers := records })

structure Serving where
  generation : Nat
  workers : List Worker

/-- An error that leaves the loop, with the workers registered when it did. -/
structure MasterFailure where
  error : MasterError
  registered : List Worker

abbrev Turn := ExceptT MasterFailure Quiet

def whileServing {Value : Type} (registered : List Worker)
    (program : Fallible Value) : Turn Value := ExceptT.mk (program.run.bind fun outcome =>
    .done (outcome.mapError fun error => ⟨error, registered⟩))

def concludeReload (options : StartOptions) (serving : Serving)
    (replacements : List Worker) : Except MasterError Unit → Quiet Serving
  | .ok () => do
      setClusterHealth true true (serving.generation + 1) replacements
      terminateWorkers serving.workers options.gracefulTimeout
      pure { generation := serving.generation + 1, workers := replacements }
  | .error _ => do
      terminateWorkers replacements options.gracefulTimeout
      setClusterHealth true true serving.generation serving.workers
      pure serving

def reload (options : StartOptions) (pools : List RuntimePool)
    (serving : Serving) : Turn Serving := do
  let replacements ← whileServing serving.workers
    (spawnGeneration options pools (serving.generation + 1))
  let readiness ← ExceptT.lift (waitGenerationReady replacements options.startupTimeout).run
  ExceptT.lift (concludeReload options serving replacements readiness)

def maxRestartBackoff : Nat := 30000

def restartFailures (worker : Worker) (now : Nat) : Nat := if 60000 ≤ now - worker.started then 1
  else min (worker.consecutiveFailures + 1) (2 ^ 32 - 1)

def restartDelay (options : StartOptions) (failures : Nat) : Nat :=
  min (options.restartBackoff * 2 ^ min (failures - 1) 8) maxRestartBackoff

/-- The replacement of a worker that has exited takes the end of the list. -/
def respawn (options : StartOptions) (generation : Nat) (failed : Worker)
    (remaining : List Worker) : Turn (List Worker) := do
  let now ← ExceptT.lift instant
  let failures := restartFailures failed now
  ExceptT.lift (sleep (restartDelay options failures))
  let worker ← whileServing remaining
    (spawnWorker options failed.id generation failures failed.pool)
  pure (remaining ++ [worker])

def killIfTimedOut (worker : Worker) (timedOut : Bool) : Quiet Unit :=
  if timedOut then sendSignal worker.pid .kill else pure ()

def checkWorker (options : StartOptions) (generation : Nat)
    (workers : List Worker) (index : Nat) (worker : Worker) : Turn (List Worker) := do
  let record ← ExceptT.lift (workerRecord worker)
  let now ← ExceptT.lift epochMillis
  ExceptT.lift (killIfTimedOut worker (workerTimedOut record now options.watchdogGrace))
  let answer ← ExceptT.lift (tryWait worker.pid)
  let status ← whileServing workers (orFail .inspect answer)
  match status with
  | none => pure workers
  | some _ => respawn options generation worker (workers.eraseIdx index)

def checkFrom (options : StartOptions) (generation : Nat) : Nat → List Worker → Turn (List Worker)
  | 0, workers => pure workers
  | index + 1, workers =>
    match workers[index]? with
    | none => pure workers
    | some worker => do
        let workers ← checkWorker options generation workers index worker
        checkFrom options generation index workers

def check (options : StartOptions) (serving : Serving) : Turn Serving := do
  let workers ← checkFrom options serving.generation serving.workers.length serving.workers
  ExceptT.lift (setClusterHealth true true serving.generation workers)
  pure { serving with workers := workers }

/-- `Ingress::stop`, which waits for the requests that the ingress still serves. -/
def stopIngress : Option String → Quiet Unit
  | none => pure ()
  | some _ => Program.call MasterAction.stopIngress

def shutdown (options : StartOptions) (serving : Serving) : Turn Unit := do
  ExceptT.lift (setClusterHealth true false serving.generation serving.workers)
  ExceptT.lift (terminateWorkers serving.workers options.gracefulTimeout)
  ExceptT.lift (stopIngress options.ingressAddress)
  ExceptT.lift (setClusterHealth false false serving.generation [])

def startup (options : StartOptions) (pools : List RuntimePool) : Turn Serving := do
  let workers ← whileServing [] (spawnGeneration options pools 1)
  let readiness ← ExceptT.lift (waitGenerationReady workers options.startupTimeout).run
  match readiness with
  | .error error => do
      ExceptT.lift (terminateWorkers workers options.gracefulTimeout)
      ExceptT.lift (setClusterHealth false false 1 [])
      throw ⟨error, []⟩
  | .ok () => do
      ExceptT.lift (setClusterHealth true true 1 workers)
      pure { generation := 1, workers := workers }

inductive MasterEvent where
  | reload
  | check

def turn (options : StartOptions) (pools : List RuntimePool)
    (serving : Serving) : MasterEvent → Turn Serving
  | .reload => reload options pools serving
  | .check => check options serving

end Pam.Cluster
