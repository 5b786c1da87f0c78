import Pam.Manager.Coherence

namespace Pam.Manager

open Pam.Foundation Option Nat Table

/-! Health supervision: the probes of `pamd`, their results, and the masters it
kills for them. -/

structure HealthProbe where
  name : AppName
  pid : Pid
  address : String
  path : String
  timeoutMillis : Nat

def maxConcurrentHealthProbes : Nat := 64

def healthStartPeriodElapsed (state : MasterState) (startPeriodMillis now : Nat) : Bool :=
  startPeriodMillis ≤ now - state.startedAtMillis

def probeRecord (now : Nat) (inFlight : List AppName)
    (started : List HealthProbe) (record : ApplicationRecord) : ManagerM (List HealthProbe) := do
  let busy := inFlight ++ started.map HealthProbe.name
  if maxConcurrentHealthProbes ≤ busy.length then return started
  else
    let master ← runningMaster record.masterStateFile
    match record.healthCheckAddress, record.healthCheckPath, master with
    | some address, some path, some state =>
      if record.desiredState != .online || busy.contains record.name ||
          !healthStartPeriodElapsed state record.healthCheckStartPeriodMillis now ||
          record.lastHealthCheckAtMillis.any (fun checked =>
            now - checked < record.healthCheckIntervalMillis) then
        return started
      else
        return started ++ [{
          name := record.name
          pid := state.pid
          address := address
          path := path
          timeoutMillis := record.healthCheckTimeoutMillis }]
    | _, _, _ => return started

def scheduleHealthProbes (inFlight : List AppName) : ManagerM (List HealthProbe) := do
  let now ← epochMillis
  let records ← readAllRecords
  records.foldlM (probeRecord now inFlight) []

/-- `scheduling` is a pass of `schedule_health_probes` under way, `probes` are
the threads and `results` is the channel. `accepted`, latest first, and
`threshold` are no state of the source. -/
structure HealthDaemon where
  manager : ManagerState
  scheduling : Option (ManagerProgram (Except String (List HealthProbe)))
  inFlight : List AppName
  probes : List HealthProbe
  results : List HealthProbeResult
  accepted : List HealthProbeResult
  threshold : Nat

def HealthDaemon.initial : HealthDaemon where
  manager := .initial
  scheduling := none
  inFlight := []
  probes := []
  results := []
  accepted := []
  threshold := 0

inductive HealthLabel where
  | manager (label : ManagerLabel)
  | schedule
  | scheduleStep (fault : Option String)
  | probed (index : Nat) (success : Bool)
  | applyResult

def ManagerLabel.begins : ManagerLabel → Bool
  | .startDaemon => true
  | .stopDaemon => true
  | .accept _ => true
  | .supervise => true
  | .applyHealth _ => true
  | _ => false

def programAction {Result : Type} : ManagerProgram Result → Option ManagerAction
  | .done _ => none
  | .perform action _ => some action

def HealthDaemon.applying (state : HealthDaemon) :
    Option (HealthProbeResult × Option ManagerAction) :=
  match state.manager.job with
  | some ⟨.healthResults [result], _, program⟩ => some (result, programAction program)
  | _ => none

def HealthDaemon.observed (state : HealthDaemon) (fault : Option String)
    (manager : ManagerState) : HealthDaemon :=
  match state.applying with
  | some (result, some (.writeRecord _)) => { state with
      manager := manager
      accepted := result :: state.accepted }
  | some (_, some (.readRecord name)) =>
    match (state.manager.world.perform fault (.readRecord name)).1 with
    | .ok record => { state with
        manager := manager
        threshold := record.healthCheckFailureThreshold }
    | .error _ => { state with manager := manager }
  | _ => { state with manager := manager }

def HealthDaemon.idle (state : HealthDaemon) : Bool :=
  state.manager.serving && state.manager.job.isNone && state.scheduling.isNone

/-- Results are applied one at a time, as in the loop of
`apply_health_probe_results`. -/
def healthStep (state : HealthDaemon) : HealthLabel → Option HealthDaemon
  | .manager (.applyHealth _) => none
  | .manager (.daemonStep fault) => (state.manager.daemonStep fault).map (state.observed fault)
  | .manager .stopDaemon =>
    if state.scheduling.isSome then none
    else
      (managerStep state.manager .stopDaemon).map fun manager =>
        -- The threads and the channel end with the process.
        { state with
          manager := manager
          inFlight := []
          probes := []
          results := [] }
  | .manager label =>
    if label.begins && state.scheduling.isSome then none
    else
      (managerStep state.manager label).map fun manager => { state with manager := manager }
  | .schedule =>
    if state.idle then
      some { state with scheduling := some (scheduleHealthProbes state.inFlight).run }
    else none
  | .scheduleStep fault =>
    match state.scheduling with
    | none => none
    | some (.done (.error _)) => some { state with scheduling := none }
    | some (.done (.ok probes)) => some { state with
        scheduling := none
        inFlight := state.inFlight ++ probes.map HealthProbe.name
        probes := state.probes ++ probes }
    | some (.perform action next) =>
      -- The pass only reads.
      some { state with scheduling := some (next (state.manager.world.perform fault action).1) }
  | .probed index success =>
    match state.probes[index]? with
    | none => none
    | some probe => some { state with
        probes := state.probes.eraseIdx index
        results := state.results ++ [{
          name := probe.name
          pid := probe.pid
          address := probe.address
          path := probe.path
          checkedAtMillis := state.manager.world.clock
          success := success }] }
  | .applyResult =>
    match state.results with
    | [] => none
    | result :: results =>
      if state.idle then
        some { state with
          manager := state.manager.begin (.healthResults [result]) none
          inFlight := state.inFlight.erase result.name
          results := results }
      else none

def healthMachine : Machine HealthDaemon HealthLabel where
  start := .initial
  next := healthStep

/-- How many of the latest accepted results for the application and the master
are failures, without a success between. -/
def failuresAgainst (accepted : List HealthProbeResult) (name : AppName) (pid : Pid) : Nat :=
  ((accepted.filter fun result =>
    result.name == name && result.pid == pid).takeWhile fun result => !result.success).length

def HealthDaemon.kills (state : HealthDaemon) : HealthLabel → Option (AppName × MasterState)
  | .manager (.daemonStep none) =>
    match state.applying with
    | some (result, some (.signalMaster master .kill)) =>
      if state.manager.world.running master then some (result.name, master) else none
    | _ => none
  | _ => none

def KillsAtThreshold (state : HealthDaemon) (label : HealthLabel) : Prop :=
  (state.kills label).all (fun victim =>
    state.threshold ≤ failuresAgainst state.accepted victim.1 victim.2.pid) = true

instance (state : HealthDaemon) (label : HealthLabel) : Decidable (KillsAtThreshold state label) :=
  inferInstanceAs (Decidable (_ = true))

/-- The written record has no failures, or the record on disk names the same
state file and has as many. -/
def World.writesOwnFailures (world : World) (record : ApplicationRecord) : Bool :=
  record.consecutiveHealthFailures == 0 || (world.records.lookup record.name).any fun current =>
      current.masterStateFile == record.masterStateFile &&
        record.consecutiveHealthFailures ≤ current.consecutiveHealthFailures

/-- The failed result adds one to the failures on disk, and the state file
still names the master that was probed. -/
def World.countsFailure (world : World) (result : HealthProbeResult)
    (record : ApplicationRecord) : Bool := (world.records.lookup record.name).any fun current =>
    current.masterStateFile == record.masterStateFile &&
      record.consecutiveHealthFailures ≤ current.consecutiveHealthFailures + 1 &&
      (world.stateFiles.lookup record.masterStateFile).map MasterState.pid == some result.pid

def World.readyWithoutFailures (world : World) (pid : Pid) : Bool :=
  (world.masters.lookup pid).all fun master => world.records.entries.all fun entry =>
      entry.2.masterStateFile != master.stateFile || entry.2.consecutiveHealthFailures == 0

def carriesNoFailures (state : HealthDaemon) : HealthLabel → Bool
  | .manager (.ready pid _) => state.manager.world.readyWithoutFailures pid
  | .manager (.daemonStep fault) =>
    match state.applying, state.manager.job.bind fun job => programAction job.program with
    | some (result, _), some (.writeRecord record) =>
      -- A success that is not recorded leaves the failures before it.
      if result.success then fault.isNone
      else fault.isSome || state.manager.world.countsFailure result record
    | none, some (.writeRecord record) =>
      fault.isSome || state.manager.world.writesOwnFailures record
    | _, _ => true
  | .manager (.clientStep id fault) =>
    match (state.manager.clients.lookup id).bind fun client => programAction client.program with
    | some (.writeRecord record) => fault.isSome || state.manager.world.writesOwnFailures record
    | _ => true
  | _ => true

structure Judgement where
  threshold : Nat
  written : Option Nat

/-- One write, to the record of the result, which clears the failures after a
success; a kill only of the probed master, at the threshold. -/
def judging (result : HealthProbeResult) :
    Monitor ManagerAction ManagerAction.Answer Judgement where
  permits known
    | .writeRecord record => known.written = none ∧ record.name = result.name ∧
        (result.success = true → record.consecutiveHealthFailures = 0)
    | .signalMaster master _ =>
      master.pid = result.pid ∧ ∃ failures, known.written = some failures ∧
          known.threshold ≤ failures
    | _ => True
  learns known
    | .readRecord name, .ok record =>
      if record.name = name then some { known with threshold := record.healthCheckFailureThreshold }
      else none
    | .writeRecord record, .ok () =>
      some { known with written := some record.consecutiveHealthFailures }
    | _, _ => some known

theorem judging_perform {Result : Type} {action : ManagerAction}
    {known : Judgement} {next : action.Answer → ManagerProgram Result}
    {post : Judgement → Result → Prop}
    (quiet : ∀ answer, (judging result).learns known action answer =
      some known) (permitted : (judging result).permits known action)
    (later : ∀ answer, (judging result).wp post known (next answer)) :
    (judging result).wp post known (.perform action next) := by
  refine ⟨permitted, ?_⟩
  intro answer learned learns
  rw [quiet answer] at learns
  cases learns
  exact later answer

theorem readRecord_judged :
    (judging result).wp (fun learned outcome => ∀ record, outcome = .ok record →
        record.name = result.name ∧ learned = ⟨record.healthCheckFailureThreshold, none⟩)
      ⟨threshold, none⟩ (readRecord result.name).run := by
  refine ⟨trivial, ?_⟩
  intro answer learned learns
  cases answer with
  | error error => exact fun _ failed => nomatch failed
  | ok read =>
    dsimp only [judging] at learns
    split at learns
    next named =>
      cases learns
      change (judging result).wp _ _ (ite _ _ _)
      split
      · apply judging_perform (fun _ => by rfl) (by trivial)
        intro state
        cases state with
        | none =>
          rintro record ⟨⟩
          exact ⟨named, rfl⟩
        | some state =>
          apply judging_perform (fun _ => by rfl) (by trivial)
          intro running
          cases running with
          | true | false =>
            rintro record ⟨⟩
            exact ⟨named, rfl⟩
      · rintro record ⟨⟩
        exact ⟨named, rfl⟩
    · cases learns

theorem kill_judged {threshold failures : Nat}
    (probed : state.pid = result.pid) (reached : threshold ≤ failures) :
    (judging result).Obeys ⟨threshold, some failures⟩
      (do if ← masterIsRunning state then signalMaster state .kill
          else return () : ManagerM Unit).run := by
  apply judging_perform (fun _ => by rfl) (by trivial)
  intro running
  cases running with
  | false => trivial
  | true => exact ⟨⟨probed, failures, rfl, reached⟩, fun _ _ _ => trivial⟩

theorem applyHealthProbeResult_judged :
    (judging result).Obeys ⟨threshold, none⟩ (applyHealthProbeResult result).run := by
  unfold applyHealthProbeResult Monitor.Obeys outcomeOf
  rw [Monitor.wp_andThen, Monitor.wp_lift]
  refine Monitor.wp_mono ?_ readRecord_judged
  intro learned outcome read
  cases outcome with
  | error error => trivial
  | ok record =>
    obtain ⟨named, rfl⟩ := read record rfl
    apply judging_perform (fun _ => by rfl) (by trivial)
    intro state
    change (judging result).wp _ _ (ite _ _ _)
    split
    · trivial
    next concerned =>
    split
    · refine ⟨⟨rfl, named, fun _ => rfl⟩, fun _ _ _ => ?_⟩
      trivial
    next failed =>
    dsimp only
    split
    next reached =>
      refine ⟨⟨rfl, named, fun success => absurd success failed⟩, ?_⟩
      intro answer learned learns
      cases answer with
      | error error => trivial
      | ok _ =>
        cases learns
        cases state with
        | none => trivial
        | some state =>
          have probed : state.pid = result.pid := by
            simp [HealthProbeResult.concerns] at concerned
            exact concerned.2
          exact kill_judged probed reached
    · refine ⟨⟨rfl, named, fun success => absurd success failed⟩, fun _ _ _ => ?_⟩
      trivial

theorem applyHealthProbeResults_judged :
    (judging result).Obeys ⟨threshold, none⟩ (applyHealthProbeResults [result]).run := by
  refine Monitor.wp_andThen.mpr (Monitor.wp_mono ?_ applyHealthProbeResult_judged)
  intro learned outcome _
  cases outcome <;> trivial

theorem failuresAgainst_cons_other (other : ¬(result.name = name ∧ result.pid = pid)) :
    failuresAgainst (result :: accepted) name pid = failuresAgainst accepted name pid := by
  unfold failuresAgainst
  rw [List.filter_cons_of_neg]
  simpa using other

theorem failuresAgainst_cons_failed (failed : result.success = false) :
    failuresAgainst (result :: accepted) result.name result.pid =
      failuresAgainst accepted result.name result.pid + 1 := by
  unfold failuresAgainst
  rw [List.filter_cons_of_pos (by simp), List.takeWhile_cons_of_pos
    (by simp [failed]), List.length_cons]

theorem failuresAgainst_le_cons (failed : result.success = false) :
    failuresAgainst accepted name pid ≤ failuresAgainst (result :: accepted) name pid := by
  by_cases same : result.name = name ∧ result.pid = pid
  · obtain ⟨rfl, rfl⟩ := same
    rw [failuresAgainst_cons_failed failed]
    exact le_succ _
  · exact le_of_eq (failuresAgainst_cons_other same).symm

def CountsOwnFailures (world : World) (accepted : List HealthProbeResult) : Prop :=
  ∀ name record master, world.records.lookup name = some record →
    world.stateFiles.lookup record.masterStateFile = some master →
      record.consecutiveHealthFailures ≤ failuresAgainst accepted name master.pid

structure Accounts (world : World) (accepted : List HealthProbeResult) : Prop where
  counts : CountsOwnFailures world accepted
  named : world.Named

structure Shrinks (world target : World) : Prop where
  records : ∀ name record, target.records.lookup name = some record →
    world.records.lookup name = some record
  stateFiles : ∀ file master, target.stateFiles.lookup file = some master →
    world.stateFiles.lookup file = some master

theorem Shrinks.refl (world : World) : Shrinks world world :=
  ⟨fun _ _ found => found, fun _ _ found => found⟩

theorem Accounts.shrinks (accounts : Accounts world accepted) (shrinks : Shrinks world target) :
    Accounts target accepted where
  counts name record master found published := accounts.counts name record master
    (shrinks.records name record found) (shrinks.stateFiles _ _ published)
  named name record found := accounts.named name record (shrinks.records name record found)

theorem shrinks_attempt (shrinks : Shrinks world outcome.2) :
    Shrinks world (world.attempt fault outcome).2 := by
  cases fault with
  | none => exact shrinks
  | some message => exact Shrinks.refl world

theorem shrinks_perform (unwritten : ∀ record, action ≠ .writeRecord record) :
    Shrinks world (world.perform fault action).2 := by
  cases action with
  | writeRecord record => exact absurd rfl (unwritten record)
  | removeRecord name =>
    apply shrinks_attempt
    refine ⟨?_, fun _ _ found => found⟩
    intro other record found
    exact (lookup_of_lookup_erase found).1
  | signalMaster state signal =>
    apply shrinks_attempt
    unfold World.signal
    split
    · cases signal with
      | stop => exact Shrinks.refl world
      | kill => exact ⟨fun _ _ found => found, fun _ _ found => found⟩
    · exact Shrinks.refl world
  | listRecords =>
    apply shrinks_attempt
    split <;> exact Shrinks.refl world
  | writeSavedList list | writeDeploymentHistory name history
  | createDirectories | spawn name file launch =>
    exact shrinks_attempt ⟨fun _ _ found => found, fun _ _ found => found⟩
  | readRecord name | readSavedList | readDeploymentHistory name
  | validateReleaseDirectory path | rotateLogs name | execute command =>
    exact shrinks_attempt (Shrinks.refl world)
  | recordExists name | findRecord name | savedListExists
  | readMasterState file | findMaster name file | masterIsRunning state
  | awaitExit state | awaitReady file pid | epochMillis => exact Shrinks.refl world

theorem Accounts.becomesReady (accounts : Accounts world accepted)
    (without : world.readyWithoutFailures pid = true)
    (step : world.becomesReady pid workers = some target) : Accounts target accepted := by
  unfold World.becomesReady at step
  split at step
  next found =>
    cases step
    refine ⟨?_, accounts.named⟩
    intro application record master recorded published
    rcases lookup_of_lookup_insert published with ⟨own, _⟩ | ⟨_, before⟩
    · simp only [World.readyWithoutFailures, found, all_some,
        List.all_eq_true, Bool.or_eq_true, bne_iff_ne, beq_iff_eq] at without
      rcases without ⟨application, record⟩ (AList.mem_lookup_iff.mp recorded) with other | none
      · exact absurd own other
      · exact le_trans (le_of_eq none) (zero_le _)
    · exact accounts.counts application record master recorded before
  · cases step

theorem Accounts.write (accounts : Accounts world accepted) (own : ∀ master,
      world.stateFiles.lookup record.masterStateFile = some master →
        record.consecutiveHealthFailures ≤ failuresAgainst accepted record.name master.pid) :
    Accounts { world with records := world.records.insert record.name record } accepted := by
  refine ⟨?_, accounts.named.write record⟩
  intro name other master found published
  rcases lookup_of_lookup_insert found with ⟨rfl, rfl⟩ | ⟨_, before⟩
  · exact own master published
  · exact accounts.counts name other master before published

theorem ownFailures_of_writes (counts : CountsOwnFailures world accepted)
    (writes : world.writesOwnFailures record = true) :
    ∀ master, world.stateFiles.lookup record.masterStateFile = some master →
        record.consecutiveHealthFailures ≤ failuresAgainst accepted record.name master.pid := by
  intro master published
  simp only [World.writesOwnFailures, Bool.or_eq_true, beq_iff_eq,
    any_eq_true, Bool.and_eq_true, decide_eq_true_eq] at writes
  rcases writes with none | ⟨current, found, same, fewer⟩
  · exact le_trans (le_of_eq none) (zero_le _)
  · rw [← same] at published
    exact le_trans fewer (counts record.name current master found published)

theorem ownFailures_of_counts (counts : CountsOwnFailures world accepted)
    (failed : result.success = false) (named : record.name = result.name)
    (adds : world.countsFailure result record = true) :
    record.consecutiveHealthFailures ≤ failuresAgainst (result :: accepted) result.name result.pid ∧
      ∀ master, world.stateFiles.lookup record.masterStateFile = some master →
          record.consecutiveHealthFailures ≤
            failuresAgainst (result :: accepted) record.name master.pid := by
  simp only [World.countsFailure, any_eq_true, Bool.and_eq_true,
    beq_iff_eq, decide_eq_true_eq, map_eq_some_iff] at adds
  obtain ⟨current, found, ⟨same, fewer⟩, probed, published, pid⟩ := adds
  have added : record.consecutiveHealthFailures ≤
      failuresAgainst (result :: accepted) result.name result.pid := by
    rw [← same] at published
    have before := counts record.name current probed found published
    rw [named, pid] at before
    rw [failuresAgainst_cons_failed failed]
    omega
  refine ⟨added, ?_⟩
  intro master also
  cases published.symm.trans also
  rw [named, pid]
  exact added

theorem shrinks_exits (step : world.exits pid graceful = some target) : Shrinks world target := by
  unfold World.exits at step
  split at step
  · cases step
  cases step
  refine ⟨fun _ _ found => found, ?_⟩
  intro file master found
  split at found
  · exact (lookup_of_lookup_erase found).1
  · exact found

theorem Accounts.failed (accounts : Accounts world accepted) (failed : result.success = false) :
    Accounts world (result :: accepted) := by
  refine ⟨?_, accounts.named⟩
  intro name record master found published
  exact le_trans (accounts.counts name record master found published)
    (failuresAgainst_le_cons failed)

theorem Accounts.cleared (accounts : Accounts world accepted) (named : record.name = result.name)
    (cleared : record.consecutiveHealthFailures = 0) :
    Accounts { world with records := world.records.insert record.name record }
      (result :: accepted) := by
  refine ⟨?_, accounts.named.write record⟩
  intro name other master found published
  rcases lookup_of_lookup_insert found with ⟨rfl, rfl⟩ | ⟨different, before⟩
  · exact le_trans (le_of_eq cleared) (zero_le _)
  rw [failuresAgainst_cons_other]
  · exact accounts.counts name other master before published
  · rintro ⟨same, _⟩
    exact different (by rw [named, same])

def Judges (state : HealthDaemon) (result : HealthProbeResult)
    (program : ManagerProgram (Except String Unit)) : Prop :=
  ∃ known, (judging result).Obeys known program ∧ known.threshold = state.threshold ∧
    ∀ failures ∈ known.written, failures ≤ failuresAgainst state.accepted result.name result.pid

structure Judged (state : HealthDaemon) : Prop where
  counts : CountsOwnFailures state.manager.world state.accepted
  named : state.manager.world.Named
  applying : ∀ job ∈ state.manager.job, ∀ results, job.origin = .healthResults results →
      ∃ result, results = [result] ∧ Judges state result job.program

theorem judged_initial : Judged .initial where
  counts := by
    intro name record master found
    cases found
  named := .initial
  applying := by rintro job ⟨⟩

variable {state : HealthDaemon}

theorem Judged.accounts (judged : Judged state) : Accounts state.manager.world state.accepted :=
  ⟨judged.counts, judged.named⟩

theorem killsAtThreshold_of_judged (judged : Judged state) : KillsAtThreshold state label := by
  unfold KillsAtThreshold HealthDaemon.kills
  split
  · split
    next applied =>
      unfold HealthDaemon.applying at applied
      split at applied
      next program running =>
        obtain ⟨other, same, known, obeys, threshold, written⟩ := judged.applying _ running _ rfl
        cases same
        simp only [Option.some.injEq, Prod.mk.injEq] at applied
        obtain ⟨rfl, action⟩ := applied
        cases program with
        | done outcome => cases action
        | perform performed next =>
          cases action
          obtain ⟨probed, failures, wrote, reached⟩ := obeys.permits
          split
          · simp only [all_some, decide_eq_true_eq]
            rw [← threshold, probed]
            exact le_trans reached (written failures wrote)
          · rfl
      · cases applied
    · rfl
  · rfl

theorem Accounts.perform (accounts : Accounts world accepted)
    (own : ∀ record, action = .writeRecord record → fault.isSome = true ∨
      world.writesOwnFailures record = true) :
    Accounts (world.perform fault action).2 accepted := by
  by_cases unwritten : ∀ record, action ≠ .writeRecord record
  · exact accounts.shrinks (shrinks_perform unwritten)
  simp only [not_forall, not_not] at unwritten
  obtain ⟨record, rfl⟩ := unwritten
  cases fault with
  | some message => exact accounts
  | none =>
    rcases own record rfl with failed | writes
    · cases failed
    · exact accounts.write (ownFailures_of_writes accounts.counts writes)

theorem judged_of_parts (accounts : Accounts after.manager.world after.accepted)
    (job : after.manager.job = some ⟨.healthResults [result], client, program⟩)
    (judges : Judges after result program) : Judged after where
  counts := accounts.counts
  named := accounts.named
  applying := by
    intro other member results same
    cases job.symm.trans member
    cases same
    exact ⟨result, rfl, judges⟩

theorem judged_access (judged : Judged state) (running : state.manager.job =
      some ⟨.healthResults [result], client, .perform action next⟩)
    (carries : carriesNoFailures state (.manager (.daemonStep fault)) = true)
    (step : state.manager.daemonStep fault = some manager) :
    Judged (state.observed fault manager) := by
  obtain ⟨_, same, known, obeys, threshold, written⟩ := judged.applying _ running _ rfl
  cases same
  have applied : state.applying = some (result, some action) := by
    simp [HealthDaemon.applying, running, programAction]
  have reads (other : ∀ record, action ≠ .writeRecord record) :
      Accounts (state.manager.world.perform fault action).2 state.accepted :=
    judged.accounts.shrinks (shrinks_perform other)
  rw [ManagerState.daemonStep, running] at step
  cases step
  cases action with
  | writeRecord record =>
    obtain ⟨unwritten, named, clears⟩ := obeys.permits
    simp only [carriesNoFailures, applied, running, bind_some, programAction] at carries
    simp only [HealthDaemon.observed, applied]
    cases success : result.success with
    | true =>
      simp only [success, if_true, isNone_iff_eq_none] at carries
      subst carries
      have cleared := clears success
      refine judged_of_parts (judged.accounts.cleared named cleared) rfl
        ⟨_, obeys.step rfl, threshold, ?_⟩
      rintro failures ⟨⟩
      rw [cleared]
      exact zero_le _
    | false =>
      cases fault with
      | some message =>
        refine judged_of_parts (judged.accounts.failed success) rfl
          ⟨_, obeys.step rfl, threshold, ?_⟩
        intro failures wrote
        rw [unwritten] at wrote
        cases wrote
      | none =>
        simp only [success] at carries
        obtain ⟨added, own⟩ := ownFailures_of_counts judged.counts success named carries
        refine judged_of_parts ((judged.accounts.failed success).write own) rfl
          ⟨_, obeys.step rfl, threshold, ?_⟩
        rintro failures ⟨⟩
        exact added
  | readRecord name =>
    have accounts := reads (by simp)
    simp only [HealthDaemon.observed, applied]
    cases read : (state.manager.world.perform fault (.readRecord name)).1 with
    | error message =>
      have learns : (judging result).learns known (.readRecord name)
          (state.manager.world.perform fault (.readRecord name)).1 = some known := by
        rw [read]
        rfl
      exact judged_of_parts accounts rfl ⟨known, obeys.step learns, threshold, written⟩
    | ok record =>
      have found : state.manager.world.records.lookup name = some record := by
        cases fault with
        | some message => cases read
        | none =>
          cases found : state.manager.world.records.lookup name with
          | none => simp [World.perform, World.attempt, found, orError] at read
          | some stored =>
            simp only [World.perform, found] at read
            cases read
            rfl
      have learns : (judging result).learns known (.readRecord name)
          (state.manager.world.perform fault (.readRecord name)).1 = some { known with
              threshold := record.healthCheckFailureThreshold } := by
        rw [read]
        exact if_pos (judged.named name record found)
      exact judged_of_parts accounts rfl ⟨_, obeys.step learns, rfl, written⟩
  | _ =>
    simp only [HealthDaemon.observed, applied]
    exact judged_of_parts (reads (by simp)) rfl ⟨known, obeys.step rfl, threshold, written⟩

theorem job_of_applying (applied : state.applying = some (result, some action)) :
    ∃ client next, state.manager.job =
      some ⟨.healthResults [result], client, .perform action next⟩ := by
  unfold HealthDaemon.applying at applied
  split at applied
  next client program running =>
    simp only [Option.some.injEq, Prod.mk.injEq] at applied
    obtain ⟨rfl, same⟩ := applied
    cases program with
    | done outcome => cases same
    | perform performed next =>
      cases same
      exact ⟨client, next, running⟩
  · cases applied

theorem observed_eq (other : ∀ result action, state.applying ≠ some (result, some action)) :
    state.observed fault manager = { state with manager := manager } := by
  unfold HealthDaemon.observed
  split
  · next applied => exact absurd applied (other _ _)
  · next applied => exact absurd applied (other _ _)
  · rfl

theorem Judged.moves (judged : Judged state) (accepted : after.accepted = state.accepted)
    (threshold : after.threshold = state.threshold)
    (accounts : Accounts after.manager.world state.accepted)
    (job : after.manager.job = state.manager.job ∨ ∀ job ∈ after.manager.job, ∀ results,
        job.origin ≠ .healthResults results) : Judged after where
  counts := by
    rw [accepted]
    exact accounts.counts
  named := accounts.named
  applying := by
    intro current member results same
    rcases job with kept | other
    · rw [kept] at member
      obtain ⟨result, single, known, obeys, reads, written⟩ :=
        judged.applying current member results same
      refine ⟨result, single, known, obeys, reads.trans threshold.symm, ?_⟩
      rw [accepted]
      exact written
    · exact absurd same (other current member results)

theorem judged_daemonStep (judged : Judged state)
    (carries : carriesNoFailures state (.manager (.daemonStep fault)) = true)
    (step : state.manager.daemonStep fault = some manager) :
    Judged (state.observed fault manager) := by
  have stepped := step
  unfold ManagerState.daemonStep at step
  split at step
  · cases step
  next running =>
    have plain : ∀ result action, state.applying ≠ some (result, some action) := by
      intro result action applied
      obtain ⟨_, _, other⟩ := job_of_applying applied
      cases running.symm.trans other
    cases step
    rw [observed_eq plain]
    refine judged.moves rfl rfl judged.accounts (.inr ?_)
    rintro job ⟨⟩
  next origin client action next running =>
  by_cases results : ∃ results, origin = .healthResults results
  · obtain ⟨results, rfl⟩ := results
    obtain ⟨result, rfl, _⟩ := judged.applying _ running _ rfl
    exact judged_access judged running carries stepped
  · have unapplied : state.applying = none := by
      unfold HealthDaemon.applying
      rw [running]
      split
      next same =>
        cases same
        exact absurd ⟨_, rfl⟩ results
      · rfl
    have plain : ∀ result action, state.applying ≠ some (result, some action) := by
      intro result action
      rw [unapplied]
      nofun
    cases step
    rw [observed_eq plain]
    refine judged.moves rfl rfl (judged.accounts.perform ?_) (.inr ?_)
    · rintro record rfl
      simpa [carriesNoFailures, unapplied, running, programAction] using carries
    · rintro job ⟨⟩ others same
      exact results ⟨others, same⟩

theorem judged_clientStep {id : ClientId} (judged : Judged state)
    (carries : carriesNoFailures state (.manager (.clientStep id fault)) = true)
    (step : state.manager.clientStep id fault = some manager) :
    Judged { state with manager := manager } := by
  obtain ⟨client, found, did⟩ := clientStep_cases step
  rcases did with rfl | ⟨command, _, _, _, rfl⟩ | ⟨action, next, program, _, rfl⟩
  · exact judged.moves rfl rfl judged.accounts (.inl rfl)
  · exact judged.moves rfl rfl judged.accounts (.inl rfl)
  refine judged.moves rfl rfl (judged.accounts.perform ?_) (.inl rfl)
  rintro record rfl
  simpa [carriesNoFailures, found, program, programAction] using carries

def ManagerLabel.plain : ManagerLabel → Bool
  | .applyHealth _ => false
  | .daemonStep _ => false
  | .clientStep _ _ => false
  | .ready _ _ => false
  | _ => true

theorem judged_plain (judged : Judged state) (plain : label.plain = true)
    (step : managerStep state.manager label = some after.manager)
    (accepted : after.accepted = state.accepted)
    (threshold : after.threshold = state.threshold) : Judged after := by
  have moves {target : ManagerState} (same : some target = some after.manager)
      (shrinks : Shrinks state.manager.world target.world)
      (job : target.job = state.manager.job ∨ ∀ job ∈ target.job, ∀ results,
        job.origin ≠ .healthResults results) : Judged after := by
    cases same
    exact judged.moves accepted threshold (judged.accounts.shrinks shrinks) job
  have same := Shrinks.refl state.manager.world
  cases label with
  | applyHealth results | daemonStep fault | clientStep id fault
  | ready pid workers => cases plain
  | issue command | issueLocal command => exact moves step same (.inl rfl)
  | startDaemon =>
    dsimp only [managerStep] at step
    split at step
    · cases step
    · exact moves step same (.inr (by rintro job ⟨⟩; nofun))
  | stopDaemon =>
    dsimp only [managerStep] at step
    split at step
    · exact moves step same (.inl rfl)
    · cases step
  | accept index =>
    dsimp only [managerStep] at step
    split at step
    · cases step
    split at step
    · exact moves step same (.inr (by rintro job ⟨⟩; nofun))
    · cases step
  | supervise =>
    dsimp only [managerStep] at step
    split at step
    · exact moves step same (.inr (by rintro job ⟨⟩; nofun))
    · cases step
  | exit pid graceful =>
    obtain ⟨world, exits, same⟩ := map_eq_some_iff.mp step
    exact moves (congrArg some same) (shrinks_exits exits) (.inl rfl)
  | tick millis => exact moves step ⟨fun _ _ found => found, fun _ _ found => found⟩ (.inl rfl)

theorem judged_step (judged : Judged state) (carries : carriesNoFailures state label = true)
    (step : healthStep state label = some target) : Judged target := by
  have unmoved {after : HealthDaemon} (manager : after.manager = state.manager)
      (accepted : after.accepted = state.accepted)
      (threshold : after.threshold = state.threshold) : Judged after := by
    refine judged.moves accepted threshold ?_ (.inl (by rw [manager]))
    rw [manager]
    exact judged.accounts
  have moved (managerLabel : ManagerLabel) (plain : managerLabel.plain = true)
      (taken : ((managerStep state.manager managerLabel).map fun manager =>
        { state with manager := manager }) = some target) : Judged target := by
    obtain ⟨manager, stepped, rfl⟩ := map_eq_some_iff.mp taken
    exact judged_plain judged plain stepped rfl rfl
  have begun {condition : Bool} (managerLabel : ManagerLabel) (plain : managerLabel.plain = true)
      (taken : (if condition then none
        else (managerStep state.manager managerLabel).map fun manager =>
          { state with manager := manager }) = some target) : Judged target := by
    split at taken
    · cases taken
    · exact moved managerLabel plain taken
  cases label with
  | manager label =>
    cases label with
    | applyHealth results => cases step
    | daemonStep fault =>
      obtain ⟨manager, stepped, rfl⟩ := map_eq_some_iff.mp step
      exact judged_daemonStep judged carries stepped
    | clientStep id fault =>
      obtain ⟨manager, stepped, rfl⟩ := map_eq_some_iff.mp step
      exact judged_clientStep judged carries stepped
    | ready pid workers =>
      obtain ⟨manager, stepped, rfl⟩ := map_eq_some_iff.mp step
      obtain ⟨world, ready, rfl⟩ := map_eq_some_iff.mp stepped
      exact judged.moves rfl rfl (judged.accounts.becomesReady carries ready) (.inl rfl)
    | stopDaemon =>
      dsimp only [healthStep] at step
      split at step
      · cases step
      · obtain ⟨manager, stepped, rfl⟩ := map_eq_some_iff.mp step
        exact judged_plain judged rfl stepped rfl rfl
    | issue command => exact moved (.issue command) rfl step
    | issueLocal command => exact moved (.issueLocal command) rfl step
    | startDaemon => exact begun .startDaemon rfl step
    | accept index => exact begun (.accept index) rfl step
    | supervise => exact begun .supervise rfl step
    | exit pid graceful => exact moved (.exit pid graceful) rfl step
    | tick millis => exact moved (.tick millis) rfl step
  | schedule =>
    dsimp only [healthStep] at step
    split at step
    · cases step
      exact unmoved rfl rfl rfl
    · cases step
  | scheduleStep fault =>
    dsimp only [healthStep] at step
    split at step
    · cases step
    · cases step
      exact unmoved rfl rfl rfl
    · cases step
      exact unmoved rfl rfl rfl
    · cases step
      exact unmoved rfl rfl rfl
  | probed index success =>
    dsimp only [healthStep] at step
    split at step
    · cases step
    · cases step
      exact unmoved rfl rfl rfl
  | applyResult =>
    dsimp only [healthStep] at step
    split at step
    · cases step
    next _ =>
    split at step
    · cases step
      refine judged_of_parts judged.accounts rfl ⟨⟨state.threshold, none⟩,
          applyHealthProbeResults_judged, rfl, ?_⟩
      rintro failures ⟨⟩
    · cases step

/-- A master is killed only once that many of its own probes have failed in a
row, as long as no record carries failures over to another master. -/
theorem killsAtThreshold_transitions (labels : List HealthLabel)
    (carries : ∀ transition ∈ healthMachine.transitions .initial labels,
      carriesNoFailures transition.source transition.label = true) :
    ∀ transition ∈ healthMachine.transitions .initial labels,
      KillsAtThreshold transition.source transition.label :=
  healthMachine.transitions_of_guarded Judged
    (fun state label => carriesNoFailures state label = true)
    (fun state label _ => KillsAtThreshold state label) (fun judged carries step =>
      ⟨judged_step judged carries step, killsAtThreshold_of_judged judged⟩) judged_initial carries

def probedShop : UpOptions := { shopOptions with
    healthCheckAddress := some "127.0.0.1:8080"
    healthCheckPath := some "/health"
    healthCheckFailureThreshold := 2 }

def managed (labels : List ManagerLabel) : List HealthLabel := labels.map HealthLabel.manager

def startedShop : List HealthLabel := managed ([.startDaemon] ++ daemonSteps 2 ++
    [.issue (.up probedShop), .accept 0] ++ daemonSteps 3 ++ [.ready 1 1] ++ daemonSteps 4)

def failedProbe : List HealthLabel :=
  [.schedule] ++ List.replicate 6 (.scheduleStep none) ++ [.probed 0 false, .applyResult]

def killedShop : List HealthLabel :=
  startedShop ++ failedProbe ++ managed (daemonSteps 4 ++ [.tick 5000]) ++
    failedProbe ++ managed (daemonSteps 6)

theorem killsAtThreshold_killedShop : (∀ transition ∈ healthMachine.transitions .initial killedShop,
        carriesNoFailures transition.source transition.label = true) ∧
      (∃ transition ∈ healthMachine.transitions .initial killedShop,
        (transition.source.kills transition.label).isSome = true) ∧
      ∀ transition ∈ healthMachine.transitions .initial killedShop,
        KillsAtThreshold transition.source transition.label :=
  ⟨by decide +kernel, by decide +kernel,
    killsAtThreshold_transitions killedShop (by decide +kernel)⟩

/-- The recovery launches another master, which fails one probe. -/
def killedTwice : List HealthLabel := killedShop ++
    managed ([.exit 1 false, .supervise] ++ daemonSteps 7 ++
      [.tick 1000, .supervise] ++ daemonSteps 10 ++ [.ready 2 1] ++
      daemonSteps 4 ++ [.tick 5000]) ++ failedProbe ++ managed (daemonSteps 6)

theorem recovered_master_killed_early :
    ¬ ∀ labels, ∀ transition ∈ healthMachine.transitions .initial labels,
      KillsAtThreshold transition.source transition.label := by
  intro always
  exact absurd (always killedTwice) (by decide +kernel)

end Pam.Manager
