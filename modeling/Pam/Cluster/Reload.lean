import Pam.Cluster.Generations

namespace Pam.Cluster

open Pam.Foundation Pam.Foundation.Program List Monitor Nat

/-! The turns of the master's loop. -/

variable {refusal : Nat → Option String} {world : World}

theorem executes_whileServing {rest : Value → Turn Other}
    (executes : Executes refusal world (whileServing registered program >>= rest).run
      outcome target) : ∃ inner middle, Executes refusal world program.run inner middle ∧
      (∀ value, inner = .ok value → Executes refusal middle (rest value).run outcome target) ∧
      ∀ error, inner = .error error → target = middle ∧ outcome = .error ⟨error, registered⟩ := by
  obtain ⟨_, middle, wrapped, later⟩ := runs_bind.mp executes
  obtain ⟨inner, _, ran, returned⟩ := runs_bind.mp wrapped
  obtain ⟨rfl, rfl⟩ := runs_done.mp returned
  refine ⟨inner, middle, ran, ?_, ?_⟩
  · rintro value rfl
    exact later
  · rintro error rfl
    obtain ⟨rfl, rfl⟩ := runs_done.mp later
    exact ⟨rfl, rfl⟩

theorem executes_setClusterHealth (executes : Executes refusal world
      (setClusterHealth live startupComplete generation workers) () target) :
    ∃ records, target.health = some ⟨live, startupComplete, generation, records⟩ := by
  obtain ⟨records, middle, _, told⟩ := runs_bind.mp executes
  obtain ⟨drifted, fault, _, _, performed⟩ := runs_call.mp told
  cases performed
  exact ⟨records, rfl⟩

/-- The new generation serves: every place of the layout has a replacement that
was alive and became ready. -/
def Activated (options : StartOptions) (pools : List RuntimePool)
    (serving : Serving) (world target : World) (outcome : Except MasterFailure Serving) : Prop :=
  ∃ replacements : List Worker, outcome =
        .ok { generation := serving.generation + 1, workers := replacements } ∧
      replacements.map (fun worker => (worker.pool, worker.id)) = layout options pools ∧
      (∀ worker ∈ replacements, worker.generation = serving.generation + 1) ∧
      ∀ worker ∈ replacements, BecameReady world target worker

/-- The old generation serves on: its number and workers are as before, none was
signalled, and no process spawned since runs. -/
structure Kept (serving : Serving) (world target : World)
    (outcome : Except MasterFailure Serving) : Prop where
  continues : outcome = .ok serving
  untouched : ∀ worker ∈ serving.workers, target.signals worker.pid = world.signals worker.pid
  terminated : ∀ pid, world.processes.length ≤ pid → target.running pid = false
  reported : ∃ records, target.health = some ⟨true, true, serving.generation, records⟩

section Reload

variable {pools : List RuntimePool} {next : Serving}

theorem still_of_concludeReload (executes : Executes refusal waited
      (concludeReload options serving replacements readiness) next target) :
    waited.Still ((replacements ++ serving.workers).map Worker.pid) target := by
  apply still_of_executes executes
  have own : ∀ worker ∈ replacements ++ serving.workers,
      worker.pid ∈ (replacements ++ serving.workers).map Worker.pid :=
    fun _ member => mem_map_of_mem member
  cases readiness with
  | ok ready =>
    apply only_bind (confines_setClusterHealth ..)
    intro _
    apply only_bind
    · exact confines_terminateWorkers (fun worker member => own worker (mem_append_right _ member))
    intro _
    trivial
  | error error =>
    apply only_bind
    · exact confines_terminateWorkers (fun worker member => own worker (mem_append_left _ member))
    intro _
    apply only_bind (confines_setClusterHealth ..)
    intro _
    trivial

theorem activated_of_concludeReload (created : Generation world spawned (serving.generation + 1)
      (layout options pools) replacements) (spawning : world.Leads spawned)
    (waits : Executes refusal spawned
      (waitGenerationReady replacements options.startupTimeout).run (.ok ()) waited)
    (concludes : Executes refusal waited
      (concludeReload options serving replacements (.ok ())) next target) :
    Activated options pools serving world target (.ok next) := by
  have late := leads_of_executes concludes
  obtain ⟨_, reported, _, retiring⟩ := runs_bind.mp concludes
  obtain ⟨_, retired, _, returned⟩ := runs_bind.mp retiring
  obtain ⟨rfl, rfl⟩ := runs_done.mp returned
  refine ⟨replacements, rfl, created.slots, created.generation, ?_⟩
  intro worker member
  exact (executes_waitGenerationReady waits worker member).within spawning late

theorem kept_of_concludeReload (present : Present world serving.workers)
    (created : Generation world spawned (serving.generation + 1)
      (layout options pools) replacements) (spares : world.Spares [] spawned)
    (waits : Executes refusal spawned (waitGenerationReady replacements options.startupTimeout).run
      (.error error) waited) (concludes : Executes refusal waited
      (concludeReload options serving replacements (.error error)) next target) :
    Kept serving world target (.ok next) := by
  obtain ⟨_, retired, retires, reporting⟩ := runs_bind.mp concludes
  obtain ⟨_, reported, reports, returned⟩ := runs_bind.mp reporting
  obtain ⟨rfl, rfl⟩ := runs_done.mp returned
  have waiting := leads_of_executes waits
  have own : ∀ worker ∈ replacements, worker.pid ∈ replacements.map Worker.pid :=
    fun _ member => mem_map_of_mem member
  have still : spawned.Still (replacements.map Worker.pid) target :=
    (still_of_executes waits (confines_waitGenerationReady ..)).trans
      ((still_of_executes retires (confines_terminateWorkers own)).trans
        (still_of_executes reports (confines_setClusterHealth ..)))
  refine ⟨rfl, ?_, ?_, executes_setClusterHealth reports⟩
  · intro worker member
    have old : worker.pid < world.processes.length := present worker member
    have outside : worker.pid ∉ replacements.map Worker.pid := by
      intro inside
      exact absurd old (not_lt.mpr (created.mem_pids.mp inside).1)
    have spared : world.Spares (replacements.map Worker.pid) target :=
      (spares.weaken (nil_subset _)).trans still.spares
    exact spared.signals _ old outside
  · intro pid fresh
    rcases lt_or_ge pid spawned.processes.length with known | unknown
    · obtain ⟨worker, member, rfl⟩ := mem_map.mp (created.mem_pids.mpr ⟨fresh, known⟩)
      have present := created.present.leads waiting
      have stopped := executes_terminateWorkers retires present
      exact stopped.leads (present.leads (leads_of_executes retires))
        (leads_of_executes reports) worker member
    · exact World.running_of_absent (still.spawned ▸ unknown)

structure Reloading (refusal : Nat → Option String) (options : StartOptions)
    (pools : List RuntimePool) (serving next : Serving)
    (replacements : List Worker) (readiness : Except MasterError Unit)
    (world spawned waited target : World) : Prop where
  granted : Granted refusal world spawned
  leads : world.Leads spawned
  spares : world.Spares [] spawned
  created : Generation world spawned (serving.generation + 1) (layout options pools) replacements
  waits : Executes refusal spawned
    (waitGenerationReady replacements options.startupTimeout).run readiness waited
  concludes : Executes refusal waited
    (concludeReload options serving replacements readiness) next target

theorem reload_cases (executes : Executes refusal world (reload options pools serving).run
      outcome target) : (∃ next replacements readiness spawned waited, outcome = .ok next ∧
        Reloading refusal options pools serving next replacements readiness
          world spawned waited target) ∨
      ¬ Granted refusal world target ∧ ∃ failure, outcome = .error failure := by
  obtain ⟨_, spawned, spawns, waiting, fails⟩ := executes_whileServing executes
  rcases executes_spawnAll spawns with
    ⟨replacements, rfl, granted, created⟩ | ⟨error, rfl, _, refused⟩
  · obtain ⟨readiness, waited, waits, concluding⟩ := runs_lift_andThen.mp (waiting _ rfl)
    obtain ⟨next, rfl, concludes⟩ := runs_lift.mp concluding
    refine .inl ⟨next, replacements, readiness, spawned, waited, rfl, ?_⟩
    exact
      { granted := granted
        leads := leads_of_executes spawns
        spares := spares_of_executes spawns (confines_spawnAll ..)
        created := created
        waits := runs_lift_ok.mp waits
        concludes := concludes }
  · obtain ⟨rfl, rfl⟩ := fails error rfl
    exact .inr ⟨refused, _, rfl⟩

namespace Reloading

variable {readiness : Except MasterError Unit}
  (reloading : Reloading refusal options pools serving next replacements
    readiness world spawned waited target)

include reloading

theorem still : spawned.Still ((replacements ++ serving.workers).map Worker.pid) target :=
  (still_of_executes reloading.waits confines_waitGenerationReady).trans
    (still_of_concludeReload reloading.concludes)

theorem all_granted : Granted refusal world target :=
  (granted_trans reloading.leads reloading.still.leads).mpr
    ⟨reloading.granted, granted_of_still reloading.still⟩

theorem activated_or_kept (present : Present world serving.workers) :
    Activated options pools serving world target (.ok next) ∨
      Kept serving world target (.ok next) := by
  cases readiness with
  | ok ready => exact .inl (activated_of_concludeReload reloading.created
      reloading.leads reloading.waits reloading.concludes)
  | error error => exact .inr (kept_of_concludeReload present reloading.created
      reloading.spares reloading.waits reloading.concludes)

theorem covers (covers : Covers world serving.workers) : Covers target next.workers := by
  have leads := reloading.leads.trans reloading.still.leads
  have concludes := reloading.concludes
  cases readiness with
  | ok ready =>
    obtain ⟨_, reported, reports, retiring⟩ := runs_bind.mp concludes
    obtain ⟨_, retired, retires, returned⟩ := runs_bind.mp retiring
    obtain ⟨rfl, rfl⟩ := runs_done.mp returned
    apply reloading.created.covers reloading.still
    intro pid old
    by_contra running
    obtain ⟨worker, member, rfl⟩ := mem_map.mp
      (covers.known leads old (eq_true_of_ne_false running))
    have present := (covers.present.leads reloading.leads).leads
      ((leads_of_executes reloading.waits).trans (leads_of_executes reports))
    exact running (executes_terminateWorkers retires present worker member)
  | error error =>
    have kept := kept_of_concludeReload covers.present reloading.created reloading.spares
      reloading.waits concludes
    cases kept.continues
    refine ⟨covers.present.leads leads, ?_⟩
    intro pid running
    apply covers.known leads _ running
    by_contra fresh
    rw [kept.terminated pid (not_lt.mp fresh)] at running
    cases running

end Reloading

end Reload

/-- How a part of a check ends: with the workers that run, or by the error of a
refused spawn or of an inspection. -/
inductive Checked (refusal : Nat → Option String) (world target : World) :
    Except MasterFailure (List Worker) → Prop where
  | done {workers : List Worker} (granted : Granted refusal world target)
      (covers : Covers target workers) : Checked refusal world target (.ok workers)
  | refused {failure : MasterFailure} (ofSpawn : failure.error.ofSpawn = true)
      (refused : ¬ Granted refusal world target)
      (covers : Covers target failure.registered) : Checked refusal world target (.error failure)
  | uninspected {failure : MasterFailure} (ofSpawn : failure.error.ofSpawn = false)
      (granted : Granted refusal world target) : Checked refusal world target (.error failure)

theorem Checked.after (early : world.Leads middle)
    (late : middle.Leads target) (granted : Granted refusal world middle)
    (checked : Checked refusal middle target outcome) : Checked refusal world target outcome := by
  have same : Granted refusal world target ↔ _ := granted_trans early late
  cases checked with
  | done rest covers => exact .done (same.mpr ⟨granted, rest⟩) covers
  | refused ofSpawn refused covers =>
    exact .refused ofSpawn (fun whole => refused (same.mp whole).2) covers
  | uninspected ofSpawn rest => exact .uninspected ofSpawn (same.mpr ⟨granted, rest⟩)

section

variable (covers : Covers world workers)
include covers

theorem executes_respawn (executes : Executes refusal world
      (respawn options generation failed workers).run outcome target) :
    Checked refusal world target outcome := by
  obtain ⟨now, clocked, told, sleeping⟩ := runs_lift_andThen.mp executes
  obtain ⟨_, slept, rested, spawning⟩ := runs_lift_andThen.mp sleeping
  have still : world.Still [] slept := (still_of_executes told (only_call trivial)).trans
      (still_of_executes rested (only_call trivial))
  have late := leads_of_executes spawning
  apply Checked.after still.leads late (granted_of_still still)
  have covers := covers.leads still.leads still.spawned
  obtain ⟨_, spawned, spawns, returned, fails⟩ := executes_whileServing spawning
  rcases executes_spawnWorker spawns with
    ⟨worker, rfl, granted, fresh⟩ | ⟨error, rfl, ⟨ofSpawn, refused⟩, kept⟩
  · obtain ⟨rfl, rfl⟩ := runs_pure.mp (returned worker rfl)
    refine .done granted ⟨?_, ?_⟩
    · intro other member
      rcases mem_append.mp member with old | new
      · exact (covers.present.leads late) other old
      · rw [mem_singleton.mp new, fresh.pid, fresh.added]
        exact lt_succ_self _
    · intro pid running
      rw [map_append, mem_append]
      rcases Nat.lt_or_ge pid slept.processes.length with known | unknown
      · exact .inl (covers.known late known running)
      have below := (World.lt_of_running running).trans_eq fresh.added
      have last := Nat.eq_of_le_of_lt_succ unknown below
      exact .inr (mem_singleton.mpr (last.trans fresh.pid.symm))
  · obtain ⟨rfl, rfl⟩ := fails error rfl
    exact .refused ofSpawn refused (covers.leads late kept)

theorem executes_checkWorker (selected : workers[index]? = some worker)
    (executes : Executes refusal world (checkWorker options generation workers index worker).run
      outcome target) : Checked refusal world target outcome := by
  obtain ⟨record, read, reads, timing⟩ := runs_lift_andThen.mp executes
  obtain ⟨now, clocked, told, killing⟩ := runs_lift_andThen.mp timing
  obtain ⟨_, killed, kills, inspecting⟩ := runs_lift_andThen.mp killing
  obtain ⟨answer, inspected, inspects, deciding⟩ := runs_lift_andThen.mp inspecting
  have kills := runs_lift_ok.mp kills
  have confines (timedOut : Bool) :
      Confines false [worker.pid] (killIfTimedOut worker timedOut) := by
    cases timedOut with
    | false => trivial
    | true => exact confines_sendSignal mem_cons_self
  have still : world.Still [worker.pid] inspected :=
    (still_of_executes reads (only_call trivial)).trans
      ((still_of_executes told (only_call trivial)).trans
        ((still_of_executes kills (confines _)).trans
          (still_of_executes inspects (only_call trivial))))
  apply Checked.after still.leads (leads_of_executes deciding) (granted_of_still still)
  have covers := covers.leads still.leads still.spawned
  cases answer with
  | error message =>
    obtain ⟨rfl, rfl⟩ := runs_throw.mp deciding
    exact .uninspected rfl (granted_of_still (.refl [] _))
  | ok status =>
    cases status with
    | none =>
      obtain ⟨rfl, rfl⟩ := runs_pure.mp deciding
      exact .done (granted_of_still (.refl [] _)) covers
    | some status =>
      refine executes_respawn ⟨?_, ?_⟩ deciding
      · intro other member
        exact covers.present other (mem_of_mem_eraseIdx member)
      intro pid running
      obtain ⟨other, member, rfl⟩ := mem_map.mp (covers.complete pid running)
      obtain ⟨place, found⟩ := mem_iff_getElem?.mp member
      refine mem_map_of_mem (mem_eraseIdx_iff_getElem?.mpr ⟨place, ?_, found⟩)
      rintro rfl
      -- The process at the erased place has exited.
      cases selected.symm.trans found
      have exited := executes_tryWait (runs_lift_ok.mp inspects) rfl
      have known := World.lt_of_running running
      rw [(World.running_eq_false_iff known).mpr ⟨status, exited⟩] at running
      cases running

theorem executes_checkFrom (executes : Executes refusal world
      (checkFrom options generation index workers).run outcome target) :
    Checked refusal world target outcome := by
  induction index generalizing world workers with
  | zero =>
    obtain ⟨rfl, rfl⟩ := runs_pure.mp executes
    exact .done (granted_of_still (.refl [] _)) covers
  | succ index induction =>
    unfold checkFrom at executes
    cases selected : workers[index]? with
    | none =>
      rw [selected] at executes
      obtain ⟨rfl, rfl⟩ := runs_pure.mp executes
      exact .done (granted_of_still (.refl [] _)) covers
    | some worker =>
      rw [selected] at executes
      rcases runs_andThen.mp executes with ⟨checked, middle, first, rest⟩ | ⟨failure, rfl, failed⟩
      · cases executes_checkWorker covers selected first with
        | done granted kept =>
          exact (induction kept rest).after (leads_of_executes first)
            (leads_of_executes rest) granted
      · exact executes_checkWorker covers selected failed

end

theorem executes_check {outcome : Except MasterFailure Serving}
    (covers : Covers world serving.workers)
    (executes : Executes refusal world (check options serving).run outcome target) :
    Checked refusal world target (outcome.map Serving.workers) := by
  rcases runs_andThen.mp executes with ⟨checked, middle, passed, reporting⟩ | ⟨failure, rfl, failed⟩
  · obtain ⟨_, reported, reports, returned⟩ := runs_lift_andThen.mp reporting
    have reports := runs_lift_ok.mp reports
    obtain ⟨rfl, rfl⟩ := runs_pure.mp returned
    have still := still_of_executes reports (confines_setClusterHealth .. : Confines false [] _)
    cases executes_checkFrom covers passed with
    | done granted kept =>
      refine .done ?_ (kept.leads still.leads still.spawned)
      exact (granted_trans (leads_of_executes passed) still.leads).mpr
        ⟨granted, granted_of_still still⟩
  · cases executes_checkFrom covers failed with
    | refused ofSpawn refused covers => exact .refused ofSpawn refused covers
    | uninspected ofSpawn granted => exact .uninspected ofSpawn granted

variable {options : StartOptions}

theorem executes_startup (executes : Executes refusal world (startup options pools).run
      (.ok serving) target) : serving.generation = 1 ∧ ∃ spawned, spawned.Still [] target ∧
      Generation world spawned 1 (layout options pools) serving.workers := by
  obtain ⟨_, spawned, spawns, waiting, fails⟩ := executes_whileServing executes
  rcases executes_spawnAll spawns with ⟨workers, rfl, _, created⟩ | ⟨error, rfl, _⟩
  · obtain ⟨readiness, waited, waits, deciding⟩ := runs_andThen_ok.mp (waiting workers rfl)
    cases readiness with
    | error error =>
      obtain ⟨_, _, _, reporting⟩ := runs_andThen_ok.mp deciding
      obtain ⟨_, _, _, thrown⟩ := runs_andThen_ok.mp reporting
      cases (runs_throw.mp thrown).1
    | ok ready =>
      obtain ⟨_, reported, reports, returned⟩ := runs_andThen_ok.mp deciding
      cases returned
      refine ⟨rfl, spawned, ?_, created⟩
      exact (still_of_executes (runs_lift_ok.mp waits) confines_waitGenerationReady).trans
        (still_of_executes (runs_lift_ok.mp reports) (confines_setClusterHealth ..))
  · cases (fails error rfl).2

/-- The states in which the loop waits for an event, in all runs of the master.
-/
inductive Reached (refusal : Nat → Option String) (options : StartOptions)
    (pools : List RuntimePool) : World → Serving → Prop where
  | started {clock : Nat} {target : World} {serving : Serving}
      (executes : Executes refusal (.initial clock)
        (startup options pools).run (.ok serving) target) :
      Reached refusal options pools target serving
  | turned {world target : World} {serving next : Serving} {event : MasterEvent}
      (reached : Reached refusal options pools world serving) (executes : Executes refusal world
        (turn options pools serving event).run (.ok next) target) :
      Reached refusal options pools target next

theorem Reached.covers (reached : Reached refusal options pools world serving) :
    Covers world serving.workers := by
  induction reached with
  | started executes =>
    obtain ⟨_, spawned, still, created⟩ := executes_startup executes
    exact created.covers still nofun
  | @turned world target serving next event reached executes induction =>
    cases event with
    | reload =>
      rcases reload_cases executes with ⟨_, _, _, _, _, ⟨⟩, reloading⟩ | ⟨_, _, ⟨⟩⟩
      exact reloading.covers induction
    | check =>
      cases executes_check induction executes with
      | done granted covers => exact covers

/-- A shutdown can come to its end wherever the loop is left, with the clients of
the ingress gone, and then no worker runs. -/
theorem shutdown_stops {serving : Serving} (reached : Reached refusal options pools world serving) :
    (∃ outcome target, Executes refusal world (shutdown options serving).run outcome target) ∧
    ∀ outcome target, Executes refusal world (shutdown options serving).run outcome target →
      outcome = .ok () ∧ Stopped target serving.workers := by
  refine ⟨exists_executes _, ?_⟩
  intro outcome target executes
  obtain ⟨_, reported, reports, retiring⟩ := runs_lift_andThen.mp executes
  obtain ⟨_, retired, retires, stopping⟩ := runs_lift_andThen.mp retiring
  obtain ⟨_, left, leaving, closing⟩ := runs_lift_andThen.mp stopping
  obtain ⟨_, done, _⟩ := runs_lift.mp closing
  have present := reached.covers.present.leads (leads_of_executes reports)
  have stopped := executes_terminateWorkers (runs_lift_ok.mp retires) present
  exact ⟨done, stopped.leads (present.leads (leads_of_executes retires))
    ((leads_of_executes leaving).trans (leads_of_executes closing))⟩

/-- What a turn owes the serving generation: a reload activates the new one or
keeps the old one; a check whose respawn fails does not end the master while
another worker is alive. -/
def ServesOn (options : StartOptions) (pools : List RuntimePool)
    (serving : Serving) (world target : World)
    (outcome : Except MasterFailure Serving) : MasterEvent → Prop
  | .reload =>
    Activated options pools serving world target outcome ∨ Kept serving world target outcome
  | .check => ∀ failure, outcome = .error failure → failure.error.ofSpawn = true →
      Stopped target failure.registered

/-- No process of any worker runs. -/
def World.Unattended (world : World) : Prop := ∀ pid, world.running pid = false

/-- A turn does what it owes exactly if none of the spawns it makes is refused,
or the refusal finds a check with no worker left. -/
theorem turn_serves_on {serving : Serving} (reached : Reached refusal options pools world serving)
    (event : MasterEvent) : (∃ outcome target, Executes refusal world
      (turn options pools serving event).run outcome target) ∧
    ∀ outcome target, Executes refusal world (turn options pools serving event).run outcome target →
      (ServesOn options pools serving world target outcome event ↔
        Granted refusal world target ∨ event = .check ∧ target.Unattended) := by
  refine ⟨exists_executes _, ?_⟩
  intro outcome target executes
  have covers := reached.covers
  cases event with
  | reload =>
    simp only [reduceCtorEq, false_and, or_false]
    rcases reload_cases executes with
      ⟨next, replacements, readiness, spawned, waited, rfl, reloading⟩ | ⟨refused, failure, rfl⟩
    · exact iff_of_true (reloading.activated_or_kept covers.present) reloading.all_granted
    apply iff_of_false _ refused
    rintro (⟨_, continues, _⟩ | kept)
    · cases continues
    · cases kept.continues
  | check =>
    simp only [true_and]
    have checked := executes_check covers executes
    cases outcome with
    | ok next =>
      cases checked with
      | done granted _ => exact iff_of_true nofun (.inl granted)
    | error failure =>
      cases checked with
      | uninspected ofSpawn granted =>
        apply iff_of_true _ (.inl granted)
        intro other same spawned
        cases same
        exact absurd spawned (ofSpawn ▸ Bool.false_ne_true)
      | refused ofSpawn refused covers =>
        simp only [refused, false_or]
        constructor
        · intro serves pid
          by_contra running
          obtain ⟨worker, member, rfl⟩ := mem_map.mp
            (covers.complete pid (eq_true_of_ne_false running))
          exact running (serves failure rfl ofSpawn worker member)
        · intro alone other _ _ worker _
          exact alone worker.pid

/-! A cluster of two workers. Only those of the first generation become ready; a
signalled worker exits. -/

def obliging (world : World) : World := { world with
    processes := world.processes.mapIdx fun pid process => { process with
        status := process.status.or (if process.signals.isEmpty then none
            else some "signal: 15 (SIGTERM)")
        record := if pid < 2 then some ⟨.ready, none, none⟩ else none } }

theorem drifts_obliging : world.Drifts (obliging world) where
  clock := le_refl _
  attempts := rfl
  spawned := length_mapIdx
  signals pid := by
    simp only [World.signals, obliging, getElem?_mapIdx]
    cases world.processes[pid]? <;> rfl
  exited := by
    intro pid status exited
    obtain ⟨process, present, same⟩ := Option.bind_eq_some_iff.mp exited
    simp [World.exitStatus, obliging, present, same]

def unblocked (world : World) : MasterAction → Bool
  | .wait pid => !(obliging world).running pid
  | .stopIngress => world.connections == 0
  | _ => true

theorem executes_obliging (admits : admits (fun world => (obliging world).perform refusal none)
      unblocked program world = true) : Executes refusal world program
      (evaluate (fun world => (obliging world).perform refusal none) program world).1
      (evaluate (fun world => (obliging world).perform refusal none) program world).2 := by
  apply runs_evaluate _ admits
  intro state action allowed
  refine ⟨obliging state, none, drifts_obliging, ?_, rfl⟩
  cases action with
  | wait pid => simpa [unblocked, World.Returns] using allowed
  | stopIngress => exact eq_of_beq allowed
  | _ => trivial

def pairOptions : StartOptions where
  workers := 2
  maxRequests := 500
  gracefulTimeout := 100
  startupTimeout := 5
  restartBackoff := 100
  watchdogGrace := 250
  ingressAddress := some "0.0.0.0:80"

def firstGeneration : Serving where
  generation := 1
  workers := [⟨1, 1, 0, 0, 0, 0, none⟩, ⟨2, 1, 1, 0, 0, 0, none⟩]

def readyProcess : WorkerProcess := ⟨none, some ⟨.ready, none, none⟩, []⟩

def firstWorld : World where
  processes := [readyProcess, readyProcess]
  connections := 0
  clock := 0
  attempts := 4
  health := some ⟨true, true, 1, [⟨.ready, none, none⟩, ⟨.ready, none, none⟩]⟩

def neverRefused : Nat → Option String := fun _ => none

/-- Request 7 is the spawn of the second replacement. -/
def processLimit (number : Nat) : Option String :=
  if number = 7 then some "Resource temporarily unavailable (os error 11)" else none

theorem reached_pair (admits : admits (fun world => (obliging world).perform refusal none)
      unblocked (startup pairOptions []).run (.initial 0) = true)
    (started : evaluate (fun world => (obliging world).perform refusal none)
      (startup pairOptions []).run (.initial 0) = (.ok firstGeneration, firstWorld)) :
    Reached refusal pairOptions [] firstWorld firstGeneration := by
  have executes := executes_obliging admits
  rw [started] at executes
  exact .started executes

theorem pair_stopped : ∃ target, Executes neverRefused firstWorld
      (shutdown pairOptions firstGeneration).run (.ok ()) target ∧
    Stopped target firstGeneration.workers := by
  obtain ⟨⟨_, target, executes⟩, stops⟩ :=
    shutdown_stops (reached_pair rfl rfl : Reached neverRefused _ _ firstWorld firstGeneration)
  obtain ⟨rfl, stopped⟩ := stops _ target executes
  exact ⟨target, executes, stopped⟩

theorem slow_replacements_kept :
    ∃ target, Kept firstGeneration firstWorld target (.ok firstGeneration) := by
  have executes : Executes neverRefused firstWorld (turn pairOptions [] firstGeneration .reload).run
      (.ok firstGeneration) _ := executes_obliging rfl
  have granted : ∀ target, Granted neverRefused firstWorld target := fun _ _ _ _ => rfl
  have serves := ((turn_serves_on (reached_pair rfl rfl) .reload).2 _ _
    executes).mpr (.inl (granted _))
  rcases serves with ⟨_, continues, _⟩ | kept
  · cases continues
  · exact ⟨_, kept⟩

/-- The second replacement cannot be spawned: the master leaves its loop while
both workers of the serving generation run. -/
theorem refused_replacement_ends_master : ∃ world serving failure target,
      Reached processLimit pairOptions [] world serving ∧ Executes processLimit world
        (turn pairOptions [] serving .reload).run (.error failure) target ∧
      (target.running 0 && target.running 1 && target.running 2) = true ∧
      ¬ ServesOn pairOptions [] serving world target (.error failure) .reload := by
  refine ⟨firstWorld, firstGeneration, _, _, reached_pair rfl rfl, executes_obliging rfl, rfl, ?_⟩
  rintro (⟨_, continues, _⟩ | kept)
  · cases continues
  · cases kept.continues

end Pam.Cluster
