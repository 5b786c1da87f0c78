import Pam.Manager.Rules

namespace Pam.Manager

open Pam.Foundation List AList Nat Table

/-! At most one master per application. -/

/-- What a launch under way knows: the application, and the master it has found
and not yet seen gone. -/
abbrev LaunchKnowledge := Option (AppName × Option Pid)

def forget (pid : Pid) : LaunchKnowledge → LaunchKnowledge
  | some (name, some pending) =>
    if pending = pid then some (name, none) else some (name, some pending)
  | known => known

/-- A master is spawned only after its launch has looked for a running one and
seen it gone. -/
def careful : Monitor ManagerAction ManagerAction.Answer LaunchKnowledge where
  permits known action := ∀ name file launch, action = .spawn name file launch →
      known = some (name, none)
  learns known action answer := some (match action, answer with
      | .findMaster name _, found => some (name, Option.map MasterState.pid found)
      | .findRecord name, present =>
        match present with
        | true => known
        | false => some (name, none)
      | .masterIsRunning state, running =>
        match running with
        | true => known
        | false => forget state.pid known
      | .awaitExit state, gone =>
        match gone with
        | true => forget state.pid known
        | false => known
      | .spawn _ _ _, _ => none
      | _, _ => known)

theorem careful_quiet (quiet : ∀ name file launch, action ≠ .spawn name file launch) :
    careful.permits known action := by
  intro name file launch same
  exact absurd same (quiet name file launch)

theorem careful_access {finish : action.Answer → Except String Result}
    (quiet : ∀ name file launch, action ≠ .spawn name file launch) :
    careful.Passes (ExceptT.mk (.perform action fun answer => .done (finish answer)) :
        ManagerM Result) := ensures_access fun _ => careful_quiet quiet

theorem careful_perform {next} (quiet : ∀ name file launch, action ≠ .spawn name file launch)
    (later : ∀ answer learned, careful.learns known action answer =
      some learned → careful.wp post learned (next answer)) :
    careful.wp post known (.perform action next) := ⟨careful_quiet quiet, later⟩

theorem forget_self (name : AppName) (pid : Pid) :
    forget pid (some (name, some pid)) = some (name, none) := by
  simp [forget]

theorem terminateMaster_forgets (name : AppName) (state : MasterState) :
    careful.wp (fun learned outcome => ∀ forced, outcome = .ok forced → learned = some (name, none))
      (some (name, some state.pid)) (terminateMaster state).run := by
  have gone := forget_self name state.pid
  apply careful_perform (by simp)
  intro running learned learns
  cases learns
  cases running with
  | false => exact fun _ _ => gone
  | true =>
    apply careful_perform (by simp)
    intro stopSent learned learns
    cases learns
    cases stopSent with
    | error error => exact fun _ failed => nomatch failed
    | ok _ =>
      apply careful_perform (by simp)
      intro exited learned learns
      cases learns
      cases exited with
      | true => exact fun _ _ => gone
      | false =>
        apply careful_perform (by simp)
        intro killSent learned learns
        cases learns
        cases killSent with
        | error error => exact fun _ failed => nomatch failed
        | ok _ =>
          apply careful_perform (by simp)
          intro exited learned learns
          cases learns
          cases exited with
          | true => exact fun _ _ => gone
          | false => exact fun _ failed => nomatch failed

theorem spawn_careful {next : Except String Pid → ManagerProgram Result}
    (later : ∀ answer, careful.Obeys none (next answer)) :
    careful.Obeys (some (name, none)) (.perform (.spawn name file launch) next) := by
  refine ⟨?_, ?_⟩
  · intro other otherFile otherLaunch same
    cases same
    rfl
  intro answer learned learns
  cases learns
  exact later answer

variable (record : ApplicationRecord)

theorem launchRecord_careful :
    careful.Obeys (some (record.name, none)) (launchRecord record).run := by
  unfold launchRecord
  split
  · trivial
  apply careful_perform (by simp)
  intro rotated learned learns
  cases learns
  cases rotated with
  | error error => trivial
  | ok _ =>
    apply spawn_careful
    intro spawned
    cases spawned with
    | error error => trivial
    | ok pid =>
      apply careful_perform (by simp)
      intro readiness learned learns
      cases readiness <;> trivial

theorem restartRecord_careful : careful.Passes (restartRecord record) := by
  apply Monitor.ensures_of_obeys
  intro known
  apply careful_perform (by simp)
  intro found learned learns
  cases learns
  cases found with
  | none => exact launchRecord_careful record
  | some state =>
    have terminated := terminateMaster_forgets record.name state
    refine Monitor.wp_andThen.mpr (Monitor.wp_mono ?_ terminated)
    intro learned outcome gone
    cases outcome with
    | error error => trivial
    | ok forced =>
      rw [gone forced rfl]
      exact launchRecord_careful record

theorem careful_accesses : Accesses careful (fun _ => True) fun _ => True where
  reads := fun _ => trivial
  access := by
    intro Result action finish quiet
    apply careful_access
    rintro name file launch rfl
    cases quiet
  read := by
    intro name _
    apply Monitor.Ensures.weaken (careful_access (by simp))
    intro record _
    exact ⟨fun _ => trivial, .inl trivial⟩
  write := fun record _ => careful_access (by simp)
  savedList := by
    intro _
    apply Monitor.Ensures.weaken (careful_access (by simp))
    intro applications _ saved _ _
    trivial
  execute := fun command _ => careful_access (by simp)

theorem up_careful (options : UpOptions) : careful.Passes (up options) := by
  apply Monitor.ensures_of_obeys
  intro known
  apply careful_perform (by simp)
  intro present learned learns
  cases learns
  cases present with
  | true =>
    have readable : careful.Ensures (readRecord options.name) _ :=
      careful_accesses.readRecord trivial
    refine (readable.bind ?_ : careful.Passes _).obeys _
    intro record _
    apply Monitor.Ensures.bind (careful_accesses.runningMaster record.masterStateFile)
    intro master _
    cases master <;> exact Monitor.ensures_throw
  | false =>
    apply careful_perform (by simp)
    intro rotated learned learns
    cases learns
    cases rotated with
    | error error => trivial
    | ok _ =>
      apply spawn_careful
      intro spawned
      cases spawned with
      | error error => trivial
      | ok pid =>
        apply careful_perform (by simp)
        intro readiness learned learns
        cases readiness with
        | ready state =>
          apply careful_perform (by simp)
          intro now learned learns
          exact (careful_accesses.write (upRecord options now) (.inl trivial)).obeys _
        | exited | timedOut => trivial

theorem careful_rules : Rules careful (fun _ => True) fun _ => True where
  toAccesses := careful_accesses
  relaunch := fun record _ => restartRecord_careful record
  launch := fun options _ => up_careful options

variable {world : World}

theorem mem_alive : pid ∈ world.alive name ↔ ∃ master, world.masters.lookup pid = some master ∧
        master.name = name ∧ master.killed = false := by
  simp only [World.alive, mem_map, mem_filter, Bool.and_eq_true,
    beq_iff_eq, Bool.not_eq_true', Sigma.exists, exists_and_right, exists_eq_right]
  constructor
  · rintro ⟨master, member, named, alive⟩
    exact ⟨master, mem_lookup_iff.mpr member, named, alive⟩
  · rintro ⟨master, found, named, alive⟩
    exact ⟨master, mem_lookup_iff.mp found, named, alive⟩

structure Calm (world target : World) : Prop where
  births : ∀ name, target.alive name ⊆ world.alive name
  nextPid : target.nextPid = world.nextPid
  gone : ∀ pid, world.masters.lookup pid = none → target.masters.lookup pid = none
  published : ∀ file state, target.stateFiles.lookup file = some state →
    world.stateFiles.lookup file = some state ∨ (world.masters.lookup state.pid).isSome = true

theorem Calm.refl (world : World) : Calm world world where
  births := fun _ => List.Subset.refl _
  nextPid := rfl
  gone := fun _ none => none
  published := fun _ _ found => .inl found

theorem calm_of_same (masters : target.masters = world.masters)
    (stateFiles : target.stateFiles = world.stateFiles)
    (nextPid : target.nextPid = world.nextPid) : Calm world target where
  births := by
    intro name
    rw [World.alive, masters]
    exact List.Subset.refl _
  nextPid := nextPid
  gone := by
    intro pid none
    rw [masters]
    exact none
  published := by
    intro file state found
    rw [stateFiles] at found
    exact .inl found

theorem calm_kill : Calm world (world.kill pid) where
  births := by
    intro name other member
    obtain ⟨master, found, named, alive⟩ := mem_alive.mp member
    simp only [World.kill, lookup_modify] at found
    split at found
    · obtain ⟨before, _, rfl⟩ := Option.map_eq_some_iff.mp found
      cases alive
    · exact mem_alive.mpr ⟨master, found, named, alive⟩
  nextPid := rfl
  gone := by
    intro other none
    simp only [World.kill, lookup_modify]
    split
    · rw [none]
      rfl
    · exact none
  published := fun _ _ found => .inl found

theorem calm_attempt (calm : Calm world outcome.2) :
    Calm world (world.attempt fault outcome).2 := by
  cases fault with
  | none => exact calm
  | some message => exact Calm.refl world

theorem calm_perform {action : ManagerAction}
    (quiet : ∀ name file launch, action ≠ .spawn name file launch) :
    Calm world (world.perform fault action).2 := by
  cases action with
  | spawn name file launch => exact absurd rfl (quiet name file launch)
  | createDirectories => exact calm_attempt (calm_of_same rfl rfl rfl)
  | signalMaster state signal =>
    apply calm_attempt
    unfold World.signal
    split
    · cases signal with
      | stop => exact Calm.refl world
      | kill => exact calm_kill
    · exact Calm.refl world
  | listRecords =>
    apply calm_attempt
    split <;> exact Calm.refl world
  | writeRecord record | removeRecord name | writeSavedList list
  | writeDeploymentHistory name history => exact calm_attempt (calm_of_same rfl rfl rfl)
  | readRecord name | readSavedList | readDeploymentHistory name
  | validateReleaseDirectory path | rotateLogs name => exact calm_attempt (Calm.refl world)
  | recordExists name | findRecord name | savedListExists
  | readMasterState file | findMaster name file | masterIsRunning state
  | awaitExit state | awaitReady file pid | epochMillis => exact Calm.refl world
  | execute command => exact calm_attempt (Calm.refl world)

theorem calm_becomesReady (step : world.becomesReady pid workers = some target) :
    Calm world target := by
  unfold World.becomesReady at step
  split at step
  next found =>
    cases step
    refine ⟨?_, rfl, ?_, ?_⟩
    · intro application other member
      obtain ⟨master, lookup, named, alive⟩ := mem_alive.mp member
      rcases lookup_of_lookup_insert lookup with ⟨rfl, rfl⟩ | ⟨_, before⟩
      · exact mem_alive.mpr ⟨_, found, named, rfl⟩
      · exact mem_alive.mpr ⟨master, before, named, alive⟩
    · intro other none
      have different : other ≠ pid := by
        rintro rfl
        rw [found] at none
        cases none
      rw [lookup_insert_ne different]
      exact none
    · intro file state lookup
      rcases lookup_of_lookup_insert lookup with ⟨_, rfl⟩ | ⟨_, before⟩
      · exact .inr (by simp [found])
      · exact .inl before
  · cases step

theorem calm_exits (step : world.exits pid graceful = some target) : Calm world target := by
  unfold World.exits at step
  split at step
  · cases step
  next found =>
  cases step
  refine ⟨?_, rfl, ?_, ?_⟩
  · intro name other member
    obtain ⟨master, lookup, named, alive⟩ := mem_alive.mp member
    exact mem_alive.mpr ⟨master, (lookup_of_lookup_erase lookup).1, named, alive⟩
  · intro other none
    by_contra left
    obtain ⟨master, lookup⟩ := Option.ne_none_iff_exists'.mp left
    have before := (lookup_of_lookup_erase lookup).1
    rw [none] at before
    cases before
  · intro file state lookup
    left
    split at lookup
    · exact (lookup_of_lookup_erase lookup).1
    · exact lookup

/-- What holds of the masters and of the launches under way while every launch
sees the masters it has to end. -/
structure Sighted (world : World) (launching : List Launching) : Prop where
  fresh : ∀ pid, world.nextPid ≤ pid → world.masters.lookup pid = none
  published : ∀ file state, world.stateFiles.lookup file = some state → state.pid < world.nextPid
  single : ∀ name, ∀ pid ∈ world.alive name, ∀ other ∈ world.alive name, pid = other
  seen : ∀ entry ∈ launching, ∀ pid ∈ world.alive entry.name, entry.found = some pid
  found : ∀ entry ∈ launching, ∀ pid ∈ entry.found, pid < world.nextPid
  apart : ∀ entry ∈ launching, ∀ other ∈ launching, entry.name = other.name → entry = other

def Knows (world : World) (launching : List Launching) (actor : Actor) : LaunchKnowledge → Prop
  | none => True
  | some (name, pending) => ∃ entry ∈ launching, entry.actor = actor ∧ entry.name = name ∧
      ∀ pid ∈ entry.found, pending = some pid ∨ world.masters.lookup pid = none

variable {launching : List Launching}

theorem Sighted.calm (sighted : Sighted world launching) (calm : Calm world target) :
    Sighted target launching where
  fresh := by
    intro pid beyond
    rw [calm.nextPid] at beyond
    exact calm.gone pid (sighted.fresh pid beyond)
  published := by
    intro file state found
    rw [calm.nextPid]
    rcases calm.published file state found with before | running
    · exact sighted.published file state before
    by_contra beyond
    rw [sighted.fresh state.pid (not_lt.mp beyond)] at running
    cases running
  single := by
    intro name pid member other member'
    exact sighted.single name pid (calm.births name member) other (calm.births name member')
  seen := by
    intro entry member pid alive
    exact sighted.seen entry member pid (calm.births entry.name alive)
  found := by
    intro entry member pid found
    rw [calm.nextPid]
    exact sighted.found entry member pid found
  apart := sighted.apart

theorem Sighted.sublist (sighted : Sighted world launching) (part : fewer ⊆ launching) :
    Sighted world fewer where
  fresh := sighted.fresh
  published := sighted.published
  single := sighted.single
  seen := fun entry member => sighted.seen entry (part member)
  found := fun entry member => sighted.found entry (part member)
  apart := fun entry member other member' => sighted.apart entry (part member) other (part member')

theorem dropActor_subset (launching : List Launching) (actor : Actor) :
    dropActor launching actor ⊆ launching := by
  intro entry member
  exact mem_of_mem_filter member

theorem mem_dropActor : entry ∈ dropActor launching actor ↔
      entry ∈ launching ∧ entry.actor ≠ actor := by
  simp [dropActor]

theorem Sighted.add (sighted : Sighted world launching)
    (seen : ∀ pid ∈ world.alive entry.name, entry.found = some pid)
    (found : ∀ pid ∈ entry.found, pid < world.nextPid)
    (alone : ∀ other ∈ launching, other.name = entry.name → other.actor = entry.actor) :
    Sighted world (entry :: dropActor launching entry.actor) where
  fresh := sighted.fresh
  published := sighted.published
  single := sighted.single
  seen := by
    refine forall_mem_cons.mpr ⟨seen, ?_⟩
    intro other member
    exact sighted.seen other (dropActor_subset _ _ member)
  found := by
    refine forall_mem_cons.mpr ⟨found, ?_⟩
    intro other member
    exact sighted.found other (dropActor_subset _ _ member)
  apart := by
    have different : ∀ other ∈ dropActor launching entry.actor, other.name ≠ entry.name := by
      intro other member same
      obtain ⟨member, actor⟩ := mem_dropActor.mp member
      exact actor (alone other member same)
    intro first firstMember second secondMember same
    rcases mem_cons.mp firstMember with rfl | firstMember
    · rcases mem_cons.mp secondMember with rfl | secondMember
      · rfl
      · exact absurd same.symm (different second secondMember)
    rcases mem_cons.mp secondMember with rfl | secondMember
    · exact absurd same (different first firstMember)
    · exact sighted.apart first (dropActor_subset _ _ firstMember) second
        (dropActor_subset _ _ secondMember) same

theorem alive_launch (member : pid ∈ (world.launch name file launch).alive other) :
    pid ∈ world.alive other ∨ other = name ∧ pid = world.nextPid := by
  obtain ⟨master, lookup, named, alive⟩ := mem_alive.mp member
  rcases lookup_of_lookup_insert lookup with ⟨born, rfl⟩ | ⟨_, before⟩
  · exact .inr ⟨named.symm, born⟩
  · exact .inl (mem_alive.mpr ⟨master, before, named, alive⟩)

theorem Sighted.launch (sighted : Sighted world launching) (none : ∀ pid, pid ∉ world.alive name)
    (others : ∀ entry ∈ launching, entry.name ≠ name) (file : StateFile) (launch : Launch) :
    Sighted (world.launch name file launch) launching where
  fresh := by
    intro pid beyond
    have later : world.nextPid < pid := beyond
    simp only [World.launch, lookup_insert_ne (ne_of_gt later)]
    exact sighted.fresh pid (le_of_lt later)
  published := by
    intro file state found
    exact lt_succ_of_lt (sighted.published file state found)
  single := by
    intro application pid member other member'
    rcases alive_launch member with before | ⟨rfl, born⟩
    · rcases alive_launch member' with before' | ⟨rfl, born'⟩
      · exact sighted.single application pid before other before'
      · exact absurd before (none pid)
    rcases alive_launch member' with before' | ⟨_, born'⟩
    · exact absurd before' (none other)
    · rw [born, born']
  seen := by
    intro entry member pid alive
    rcases alive_launch alive with before | ⟨same, _⟩
    · exact sighted.seen entry member pid before
    · exact absurd same (others entry member)
  found := by
    intro entry member pid found
    exact lt_succ_of_lt (sighted.found entry member pid found)
  apart := sighted.apart

theorem Knows.of_gone (knows : Knows world launching actor known)
    (stays : ∀ entry ∈ launching, ∀ pid ∈ entry.found, world.masters.lookup pid = none →
      target.masters.lookup pid = none) : Knows target launching actor known := by
  cases known with
  | none => trivial
  | some known =>
    obtain ⟨entry, member, mine, named, gone⟩ := knows
    refine ⟨entry, member, mine, named, ?_⟩
    intro pid found
    exact (gone pid found).imp_right (stays entry member pid found)

theorem Knows.calm (knows : Knows world launching actor known)
    (calm : Calm world target) : Knows target launching actor known :=
  knows.of_gone fun _ _ pid _ => calm.gone pid

theorem Knows.launch (sighted : Sighted world launching)
    (knows : Knows world launching actor known) (name : AppName)
    (file : StateFile) (launch : Launch) :
    Knows (world.launch name file launch) launching actor known := by
  apply knows.of_gone
  intro entry member pid found none
  have below := sighted.found entry member pid found
  simp only [World.launch, lookup_insert_ne (Nat.ne_of_lt below)]
  exact none

section

variable (knows : Knows world launching actor known)
include knows

theorem Knows.mono (kept : ∀ entry ∈ launching, entry.actor = actor → entry ∈ more) :
    Knows world more actor known := by
  cases known with
  | none => trivial
  | some known =>
    obtain ⟨entry, member, mine, named, gone⟩ := knows
    exact ⟨entry, kept entry member mine, mine, named, gone⟩

theorem Knows.forget (none : world.masters.lookup pid = none) :
    Knows world launching actor (forget pid known) := by
  match known with
  | .none => trivial
  | some (name, .none) => exact knows
  | some (name, some pending) =>
    by_cases same : pending = pid
    · simp only [Manager.forget, same]
      obtain ⟨entry, member, mine, named, gone⟩ := knows
      refine ⟨entry, member, mine, named, ?_⟩
      intro found foundMember
      rcases gone found foundMember with waiting | left
      · right
        cases waiting
        rw [same]
        exact none
      · exact .inr left
    · simp only [Manager.forget, same]
      exact knows

theorem Knows.forget_ended (ended : world.running state = false) :
    Knows world launching actor (Manager.forget state.pid known) := by
  apply knows.forget
  simpa [World.running] using ended

end

theorem mem_launchingAfter (member : entry ∈ launching) (other : entry.actor ≠ actor) :
    entry ∈ launchingAfter launching actor action answer := by
  have kept : entry ∈ dropActor launching actor := mem_dropActor.mpr ⟨member, other⟩
  unfold launchingAfter
  split
  · exact mem_cons_of_mem _ kept
  · split
    · exact member
    · exact mem_cons_of_mem _ kept
  · exact kept
  · exact member

/-- A launch that looks for a running master sees all that live, and no other
launch for the application is under way. -/
def seesMasters (world : World) (launching : List Launching) (actor : Actor)
    (fault : Option String) (action : ManagerAction) : Bool :=
  let clear (name : AppName) (found : Option Pid) : Bool :=
    ((world.alive name).all fun pid => found == some pid) &&
      launching.all fun entry => entry.name != name || entry.actor == actor
  match action with
  | .findMaster name file => clear name (if fault.isSome then none
        else (world.stateFiles.lookup file).map MasterState.pid)
  | .findRecord name => (world.records.lookup name).isSome || clear name none
  | _ => true

theorem sees_of_clear (clear : ((world.alive name).all (fun pid => found == some pid) &&
      launching.all fun entry => entry.name != name || entry.actor == actor) = true) :
    (∀ pid ∈ world.alive name, found = some pid) ∧
      ∀ entry ∈ launching, entry.name = name → entry.actor = actor := by
  simp only [Bool.and_eq_true, all_eq_true, beq_iff_eq, Bool.or_eq_true, bne_iff_ne] at clear
  refine ⟨clear.1, ?_⟩
  intro entry member same
  rcases clear.2 entry member with different | mine
  · exact absurd same different
  · exact mine

section Step

variable (sighted : Sighted world launching)

include sighted

theorem begin_launch {found : Option Pid} (below : ∀ pid ∈ found, pid < world.nextPid)
    (clear : ((world.alive name).all (fun pid => found == some pid) && launching.all fun entry =>
        entry.name != name || entry.actor == actor) = true) :
    Sighted world (⟨actor, name, found⟩ :: dropActor launching actor) ∧
      Knows world (⟨actor, name, found⟩ :: dropActor launching actor) actor
        (some (name, found)) := by
  obtain ⟨seen, alone⟩ := sees_of_clear clear
  refine ⟨sighted.add seen below alone, ?_⟩
  refine ⟨_, mem_cons_self, rfl, rfl, ?_⟩
  intro pid member
  exact .inl member

theorem ready_to_spawn (knows : Knows world launching actor (some (name, none))) :
    (∀ pid, pid ∉ world.alive name) ∧ ∀ entry ∈ dropActor launching actor, entry.name ≠ name := by
  obtain ⟨entry, member, mine, rfl, gone⟩ := knows
  constructor
  · intro pid alive
    obtain ⟨master, lookup, _⟩ := mem_alive.mp alive
    rcases gone pid (sighted.seen entry member pid alive) with pending | none
    · cases pending
    · rw [none] at lookup
      cases lookup
  · intro other otherMember same
    obtain ⟨otherMember, different⟩ := mem_dropActor.mp otherMember
    rw [sighted.apart other otherMember entry member same] at different
    exact different mine

variable (knows : Knows world launching actor known)

include knows

theorem sighted_perform (permits : careful.permits known action)
    (sees : seesMasters world launching actor fault action = true) {target : World}
    (performed : world.perform fault action = (answer, target))
    (learns : careful.learns known action answer = some learned) :
    Sighted target (launchingAfter launching actor action answer) ∧
      Knows target (launchingAfter launching actor action answer) actor learned := by
  have quietStep : (∀ name file launch, action ≠ .spawn name file launch) →
      Sighted target launching ∧ Knows target launching actor known := by
    intro quiet
    have calm : Calm world target := by
      have calm := @calm_perform world fault action quiet
      rw [performed] at calm
      exact calm
    exact ⟨sighted.calm calm, knows.calm calm⟩
  cases action with
  | findMaster name file =>
    cases learns
    cases fault with
    | some message =>
      cases performed
      apply begin_launch sighted
      · simp
      · exact sees
    | none =>
      cases performed
      apply begin_launch sighted
      · intro pid member
        obtain ⟨state, found, rfl⟩ := Option.map_eq_some_iff.mp member
        exact sighted.published file state found
      · exact sees
  | findRecord name =>
    cases performed
    cases present : (world.records.lookup name).isSome with
    | true =>
      simp only [present] at learns
      cases learns
      exact ⟨sighted, knows⟩
    | false =>
      simp only [present] at learns
      cases learns
      apply begin_launch sighted
      · simp
      · simpa [seesMasters, present] using sees
  | spawn name file launch =>
    cases learns
    have part := dropActor_subset launching actor
    rw [permits name file launch rfl] at knows
    obtain ⟨none, others⟩ := ready_to_spawn sighted knows
    cases fault with
    | some message =>
      cases performed
      exact ⟨sighted.sublist part, trivial⟩
    | none =>
      cases performed
      exact ⟨(sighted.sublist part).launch none others file launch, trivial⟩
  | masterIsRunning state | awaitExit state =>
    obtain ⟨after, before⟩ := quietStep (by simp)
    cases performed
    cases learns
    refine ⟨after, ?_⟩
    cases running : world.running state with
    | true => exact before
    | false => exact before.forget_ended running
  | _ =>
    cases learns
    exact quietStep (by simp)

theorem knows_perform {other : Actor} (different : actor ≠ other)
    (performed : world.perform fault action = (answer, target)) :
    Knows target (launchingAfter launching other action answer) actor known := by
  have kept : Knows world (launchingAfter launching other action answer) actor known := by
    apply knows.mono
    intro entry member mine
    apply mem_launchingAfter member
    rw [mine]
    exact different
  by_cases quiet : ∀ name file launch, action ≠ .spawn name file launch
  · have calm := @calm_perform world fault action quiet
    rw [performed] at calm
    exact kept.calm calm
  simp only [not_forall, not_not] at quiet
  obtain ⟨name, file, launch, rfl⟩ := quiet
  cases fault with
  | some message =>
    cases performed
    exact kept
  | none =>
    cases performed
    have fewer := sighted.sublist (dropActor_subset launching other)
    exact Knows.launch fewer kept name file launch

end Step

/-- Every launch of the step that is taken sees the masters it has to end. -/
def launchesInSight (state : ManagerState) : ManagerLabel → Bool
  | .daemonStep fault =>
    match state.job with
    | some { program := .perform action _, .. } =>
      seesMasters state.world state.launching .daemon fault action
    | _ => true
  | .clientStep id fault =>
    match state.clients.lookup id with
    | some { program := .perform action _, .. } =>
      seesMasters state.world state.launching (.client id) fault action
    | _ => true
  | _ => true

def Careful (state : ManagerState) (actor : Actor)
    (program : ManagerProgram (Except String Unit)) : Prop :=
  ∃ known, Knows state.world state.launching actor known ∧ careful.Obeys known program

structure Orderly (state : ManagerState) : Prop where
  sighted : Sighted state.world state.launching
  daemon : ∀ job ∈ state.job, Careful state .daemon job.program
  clients : ∀ id, ∀ client ∈ state.clients.lookup id, Careful state (.client id) client.program

theorem orderly_initial : Orderly .initial where
  sighted := by
    refine ⟨?_, ?_, ?_, ?_, ?_, ?_⟩
    · intro pid _
      rfl
    · intro file state found
      cases found
    · intro name pid member
      cases member
    · intro entry member
      cases member
    · intro entry member
      cases member
    · intro entry member
      cases member
  daemon := by
    intro job member
    cases member
  clients := by
    intro id client member
    cases member

theorem careful_begin (ensures : careful.Passes program) : Careful state actor program.run :=
  ⟨none, trivial, ensures.obeys none⟩

theorem orderly_begin (orderly : Orderly state) (origin : Origin) (client : Option ClientId) :
    Orderly (state.begin origin client) where
  sighted := orderly.sighted
  daemon := by
    rintro job ⟨⟩
    apply careful_begin
    exact careful_rules.originProgram (fun _ => trivial) fun _ _ _ _ => trivial
  clients := orderly.clients

theorem orderly_calm (orderly : Orderly state) {target : World} (calm : Calm state.world target) :
    Orderly { state with world := target } where
  sighted := orderly.sighted.calm calm
  daemon := by
    intro job member
    obtain ⟨known, knows, obeys⟩ := orderly.daemon job member
    exact ⟨known, knows.calm calm, obeys⟩
  clients := by
    intro id client member
    obtain ⟨known, knows, obeys⟩ := orderly.clients id client member
    exact ⟨known, knows.calm calm, obeys⟩

theorem clients_deliver (orderly : Orderly state) :
    ∀ id, ∀ waiting ∈ (state.deliver client result).lookup id,
      Careful state (.client id) waiting.program := by
  intro id waiting member
  rcases lookup_deliver member with before | ⟨command, executed, next, answer, before, rfl⟩
  · exact orderly.clients id waiting before
  · obtain ⟨known, knows, obeys⟩ := orderly.clients id _ before
    exact ⟨known, knows, obeys.step rfl⟩

theorem Careful.drop (careful : Careful state actor program) (different : actor ≠ other) :
    ∃ known, Knows state.world (dropActor state.launching other) actor known ∧
      Manager.careful.Obeys known program := by
  obtain ⟨known, knows, obeys⟩ := careful
  refine ⟨known, ?_, obeys⟩
  apply knows.mono
  intro entry member mine
  apply mem_dropActor.mpr
  refine ⟨member, ?_⟩
  rw [mine]
  exact different

theorem orderly_daemonStep (orderly : Orderly state)
    (inSight : launchesInSight state (.daemonStep fault) = true)
    (step : state.daemonStep fault = some target) : Orderly target := by
  have part := dropActor_subset state.launching .daemon
  unfold ManagerState.daemonStep at step
  split at step
  · cases step
  next running =>
    cases step
    refine ⟨orderly.sighted.sublist part, ?_, ?_⟩
    · rintro job ⟨⟩
    intro id waiting member
    have before := clients_deliver orderly id waiting member
    exact before.drop (by simp)
  next action next running =>
  cases step
  simp only [launchesInSight, running] at inSight
  obtain ⟨known, knows, obeys⟩ := orderly.daemon _ running
  obtain ⟨learned, learns⟩ : ∃ learned, careful.learns known action
      (state.world.perform fault action).1 = some learned := ⟨_, rfl⟩
  obtain ⟨sighted, knowsMore⟩ := sighted_perform orderly.sighted knows
    obeys.permits inSight rfl learns
  refine ⟨sighted, ?_, ?_⟩
  · rintro job ⟨⟩
    exact ⟨learned, knowsMore, obeys.step learns⟩
  intro id waiting member
  obtain ⟨known, knows, obeys⟩ := orderly.clients id waiting member
  exact ⟨known, knows_perform orderly.sighted knows (by simp) rfl, obeys⟩

theorem orderly_clientStep {id : ClientId} (orderly : Orderly state)
    (inSight : launchesInSight state (.clientStep id fault) = true)
    (step : state.clientStep id fault = some target) : Orderly target := by
  obtain ⟨client, found, did⟩ := clientStep_cases step
  have carefully := orderly.clients id client found
  rcases did with rfl | ⟨command, _, _, _, rfl⟩ | ⟨action, next, program, _, rfl⟩
  · refine ⟨orderly.sighted.sublist (dropActor_subset _ _), ?_, ?_⟩
    · intro job member
      exact (orderly.daemon job member).drop (by simp)
    intro other waiting member
    obtain ⟨before, different⟩ := lookup_of_lookup_erase member
    apply (orderly.clients other waiting before).drop
    simpa using different
  · refine ⟨orderly.sighted, orderly.daemon, ?_⟩
    intro other waiting member
    rcases lookup_of_lookup_insert member with ⟨rfl, rfl⟩ | ⟨_, before⟩
    · exact carefully
    · exact orderly.clients other waiting before
  · obtain ⟨command, _, waiting⟩ := client
    cases program
    simp only [launchesInSight, found] at inSight
    obtain ⟨known, knows, obeys⟩ := carefully
    obtain ⟨learned, learns⟩ : ∃ learned, careful.learns known action
        (state.world.perform fault action).1 = some learned := ⟨_, rfl⟩
    obtain ⟨sighted, knowsMore⟩ := sighted_perform orderly.sighted
      knows obeys.permits inSight rfl learns
    refine ⟨sighted, ?_, ?_⟩
    · intro job member
      obtain ⟨known, knows, obeys⟩ := orderly.daemon job member
      exact ⟨known, knows_perform orderly.sighted knows (by simp) rfl, obeys⟩
    intro other waiting member
    rcases lookup_of_lookup_insert member with ⟨rfl, rfl⟩ | ⟨different, before⟩
    · exact ⟨learned, knowsMore, obeys.step learns⟩
    obtain ⟨known, knows, obeys⟩ := orderly.clients other waiting before
    refine ⟨known, ?_, obeys⟩
    apply knows_perform orderly.sighted knows _ rfl
    simpa using different

theorem calm_moves (moves : world.Moves target) : Calm world target := by
  cases moves with
  | stays => exact .refl world
  | ready became => exact calm_becomesReady became
  | exits exited => exact calm_exits exited
  | ticks millis => exact calm_of_same rfl rfl rfl

theorem orderly_step (orderly : Orderly state) (inSight : launchesInSight state label = true)
    (step : managerStep state label = some target) : Orderly target := by
  rcases managerStep_cases step with ⟨fault, rfl, step⟩ | ⟨id, fault, rfl, step⟩ | moves
  · exact orderly_daemonStep orderly inSight step
  · exact orderly_clientStep orderly inSight step
  cases moves with
  | issue command => exact ⟨orderly.sighted, orderly.daemon, orderly.clients⟩
  | issueLocal command =>
    refine ⟨orderly.sighted, orderly.daemon, ?_⟩
    intro id client member
    rcases lookup_of_lookup_insert member with ⟨rfl, rfl⟩ | ⟨_, before⟩
    · apply careful_begin
      exact careful_rules.localProgram fun _ _ => trivial
    · exact orderly.clients id client before
  | accept request requests =>
    have begun := orderly_begin orderly (.request request.command) request.client
    exact ⟨begun.sighted, begun.daemon, begun.clients⟩
  | begin origin automatic => exact orderly_begin orderly origin none
  | outside serving moves =>
    have moved := orderly_calm orderly (calm_moves moves)
    exact ⟨moved.sighted, moved.daemon, moved.clients⟩

def SingleMaster (state : ManagerState) : Prop := ∀ name, (state.world.alive name).length ≤ 1

theorem singleMaster_of_orderly (orderly : Orderly state) : SingleMaster state := by
  intro name
  have distinct : (state.world.alive name).Nodup := by
    apply List.Sublist.nodup _ state.world.masters.nodupKeys
    exact filter_sublist.map Sigma.fst
  match alive : state.world.alive name with
  | [] => exact zero_le _
  | [pid] => exact le_refl _
  | pid :: other :: rest =>
    have same := orderly.sighted.single name pid (by simp [alive]) other (by simp [alive])
    rw [alive, same] at distinct
    simp at distinct

/-- At most one master per application is alive as long as every launch sees all
that are alive when it looks for a running one. -/
theorem singleMaster_visited (labels : List ManagerLabel)
    (inSight : ∀ transition ∈ managerMachine.transitions .initial labels,
      launchesInSight transition.source transition.label = true) :
    ∀ state ∈ managerMachine.visited .initial labels, SingleMaster state :=
  managerMachine.visited_of_guarded Orderly
    (fun state label => launchesInSight state label = true) SingleMaster
    singleMaster_of_orderly orderly_step orderly_initial inSight

/-- `pamd` starts, brings the application up, and schedules its recovery after
a crash. -/
def crashedShop : List ManagerLabel :=
  [.startDaemon] ++ daemonSteps 2 ++ [.issue (.up shopOptions), .accept 0] ++
    daemonSteps 3 ++ [.ready 1 1] ++ daemonSteps 4 ++
    [.exit 1 false, .supervise] ++ daemonSteps 7 ++ [.tick 1000]

theorem singleMaster_recoveredShop : (∀ transition ∈ managerMachine.transitions .initial
        (crashedShop ++ [.supervise] ++ daemonSteps 10 ++ [.ready 2 1]),
      launchesInSight transition.source transition.label = true) ∧
    ∀ state ∈ managerMachine.visited .initial
        (crashedShop ++ [.supervise] ++ daemonSteps 10 ++ [.ready 2 1]), SingleMaster state :=
  ⟨by decide, singleMaster_visited _ (by decide)⟩

/-- The recovery is not ready in time, and the next pass launches another
master beside it. -/
def recoveredTwice : List ManagerLabel :=
  crashedShop ++ [.supervise] ++ daemonSteps 14 ++ [.tick 1000, .supervise] ++ daemonSteps 10

theorem late_master_doubled : ¬ ∀ labels, ∀ state ∈ managerMachine.visited .initial labels,
      SingleMaster state := by
  intro always
  have single := always recoveredTwice _ (Machine.finish_mem_visited _ _ _)
  exact absurd (single "shop") (by decide)

end Pam.Manager
