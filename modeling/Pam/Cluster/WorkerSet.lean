import Mathlib.Data.List.Perm.Basic
import Pam.Cluster.Reload

namespace Pam.Cluster

open Pam.Foundation List Monitor

/-! The set of workers over the turns of the loop, and the order in which a
check inspects them. -/

def Worker.slot (worker : Worker) : Option RuntimePool × Nat := (worker.pool, worker.id)

structure WorkerSet (options : StartOptions) (pools : List RuntimePool)
    (serving : Serving) : Prop where
  ids : (serving.workers.map Worker.id).Perm (List.range' 1 (layout options pools).length)
  pools : ∀ worker ∈ serving.workers, worker.slot ∈ layout options pools
  generation : ∀ worker ∈ serving.workers, worker.generation = serving.generation

def inspecting : Monitor MasterAction MasterAction.Answer (List Pid) where
  permits remaining
    | .tryWait pid => remaining.head? = some pid
    | _ => True
  learns remaining
    | .tryWait _, _ => some remaining.tail
    | _, _ => some remaining

/-- A check inspects the workers that it begins with, each of them once. -/
def InspectsEach (options : StartOptions) (serving : Serving) : Prop :=
  inspecting.wp (fun remaining outcome => ∀ next, outcome = .ok next → remaining = [])
    (serving.workers.reverse.map Worker.pid) (check options serving).run

/-- The workers after a part of a check: those before it, some of them replaced
in their place. -/
structure Tended (generation : Nat) (before after : List Worker) : Prop where
  slots : (after.map Worker.slot).Perm (before.map Worker.slot)
  generation : (∀ worker ∈ before, worker.generation = generation) →
    ∀ worker ∈ after, worker.generation = generation

variable {options : StartOptions} {generation : Nat}

theorem Tended.refl (workers : List Worker) : Tended generation workers workers := ⟨.refl _, id⟩

theorem Tended.trans (early : Tended generation first second)
    (late : Tended generation second third) : Tended generation first third :=
  ⟨late.slots.trans early.slots, late.generation ∘ early.generation⟩

theorem inspecting_spawnWorker (id : Nat) :
    inspecting.wp (fun left outcome => left = remaining ∧ ∀ worker, outcome = .ok worker →
          worker.generation = generation ∧ worker.slot = (pool, id))
      remaining (spawnWorker options id generation failures pool).run := by
  refine ⟨trivial, ?_⟩
  rintro reset _ ⟨⟩
  cases reset with
  | error message => exact ⟨rfl, nofun⟩
  | ok _ =>
    refine ⟨trivial, ?_⟩
    rintro spawnedAtMillis _ ⟨⟩
    refine ⟨trivial, ?_⟩
    rintro child _ ⟨⟩
    cases child with
    | error message => exact ⟨rfl, nofun⟩
    | ok pid =>
      refine ⟨trivial, ?_⟩
      rintro started _ ⟨⟩
      refine ⟨rfl, ?_⟩
      rintro _ ⟨⟩
      exact ⟨rfl, rfl⟩

theorem tended_replaced (found : workers[index]? = some failed)
    (fresh : worker.generation = generation) (same : worker.slot = failed.slot) :
    Tended generation workers (workers.eraseIdx index ++ [worker]) where
  slots := by
    obtain ⟨small, rfl⟩ := List.getElem?_eq_some_iff.mp found
    rw [List.map_append, List.map_singleton, same]
    refine (List.perm_append_singleton _ _).trans ?_
    exact (List.getElem_cons_eraseIdx_perm small).map Worker.slot
  generation := by
    intro all other member
    rcases List.mem_append.mp member with old | new
    · exact all other (List.mem_of_mem_eraseIdx old)
    · rw [List.mem_singleton.mp new, fresh]

theorem inspecting_killIfTimedOut :
    inspecting.wp (fun left _ => left = remaining) remaining (killIfTimedOut worker timedOut) := by
  cases timedOut with
  | false => rfl
  | true => exact ⟨trivial, by rintro _ _ ⟨⟩; rfl⟩

theorem inspecting_respawn (found : workers[index]? = some failed) :
    inspecting.wp (fun left outcome => ∀ checked, outcome = .ok checked →
        left = remaining ∧ checked.take index = workers.take index ∧
          Tended generation workers checked) remaining
      (respawn options generation failed (workers.eraseIdx index)).run := by
  refine ⟨trivial, ?_⟩
  rintro now _ ⟨⟩
  refine ⟨trivial, ?_⟩
  rintro _ _ ⟨⟩
  refine wp_andThen.mpr (wp_bind.mpr (wp_mono ?_ (inspecting_spawnWorker failed.id)))
  rintro left outcome ⟨rfl, spawned⟩
  cases outcome with
  | error error => exact nofun
  | ok worker =>
    rintro _ ⟨⟩
    obtain ⟨fresh, same⟩ := spawned worker rfl
    have small := (List.getElem?_eq_some_iff.mp found).1
    refine ⟨rfl, ?_, tended_replaced found fresh same⟩
    have enough : index ≤ (workers.eraseIdx index).length := by
      rw [List.length_eraseIdx_of_lt small]
      omega
    rw [List.take_append_of_le_length enough,
      List.take_eraseIdx_eq_take_of_le _ _ _ (Nat.le_refl _)]

theorem inspecting_checkWorker (found : workers[index]? = some worker) :
    inspecting.wp (fun left outcome => ∀ checked, outcome = .ok checked →
        left = remaining ∧ checked.take index = workers.take index ∧
          Tended generation workers checked) (worker.pid :: remaining)
      (checkWorker options generation workers index worker).run := by
  refine ⟨trivial, ?_⟩
  rintro record _ ⟨⟩
  refine ⟨trivial, ?_⟩
  rintro now _ ⟨⟩
  refine wp_andThen.mpr (wp_lift.mpr (wp_mono ?_ inspecting_killIfTimedOut))
  rintro _ _ rfl
  refine ⟨rfl, ?_⟩
  rintro answer _ ⟨⟩
  rcases answer with message | (_ | status)
  · exact nofun
  · rintro _ ⟨⟩
    exact ⟨rfl, rfl, .refl workers⟩
  · exact inspecting_respawn found

theorem inspecting_checkFrom (enough : index ≤ workers.length) :
    inspecting.wp (fun left outcome => ∀ checked, outcome = .ok checked →
        left = [] ∧ Tended generation workers checked) ((workers.take index).reverse.map Worker.pid)
      (checkFrom options generation index workers).run := by
  induction index generalizing workers with
  | zero =>
    rintro _ ⟨⟩
    exact ⟨rfl, .refl workers⟩
  | succ index induction =>
    have found := getElem?_eq_getElem enough
    rw [checkFrom, found, take_succ_eq_append_getElem enough, reverse_concat]
    refine wp_andThen.mpr (wp_mono ?_ (inspecting_checkWorker found))
    intro left outcome holds
    cases outcome with
    | error error => exact nofun
    | ok checked =>
      obtain ⟨rfl, same, tended⟩ := holds checked rfl
      have long : index ≤ checked.length := by
        have lengths := congrArg List.length same
        simp only [length_take] at lengths
        omega
      rw [← same]
      refine wp_mono ?_ (induction long)
      intro left outcome rest last done
      exact ⟨(rest last done).1, tended.trans (rest last done).2⟩

theorem inspecting_workerRecords :
    inspecting.wp (fun left _ => left = remaining) remaining (workerRecords workers) := by
  induction workers with
  | nil => rfl
  | cons worker workers induction =>
    refine wp_bind.mpr ⟨trivial, ?_⟩
    rintro record _ ⟨⟩
    exact wp_bind.mpr (wp_mono (fun _ _ same => same) induction)

variable {serving : Serving}

theorem inspecting_check : inspecting.wp (fun left outcome =>
      ∀ next, outcome = .ok next → left = [] ∧ next.generation = serving.generation ∧
        Tended serving.generation serving.workers next.workers)
    (serving.workers.reverse.map Worker.pid) (check options serving).run := by
  have passed := @inspecting_checkFrom options serving.generation _ _
    (Nat.le_refl serving.workers.length)
  rw [take_length] at passed
  refine wp_andThen.mpr (wp_mono ?_ passed)
  intro left outcome holds
  cases outcome with
  | error error => exact nofun
  | ok checked =>
    obtain ⟨rfl, tended⟩ := holds checked rfl
    refine wp_andThen.mpr (wp_lift.mpr (wp_bind.mpr (wp_mono ?_ inspecting_workerRecords)))
    rintro _ records rfl
    refine ⟨trivial, ?_⟩
    rintro _ _ ⟨⟩ _ ⟨⟩
    exact ⟨rfl, rfl, tended⟩

structure Staffed (options : StartOptions) (pools : List RuntimePool)
    (serving : Serving) : Prop where
  slots : (serving.workers.map Worker.slot).Perm (layout options pools)
  generation : ∀ worker ∈ serving.workers, worker.generation = serving.generation

variable {pools : List RuntimePool} {next : Serving}

theorem Staffed.workerSet (staffed : Staffed options pools serving) :
    WorkerSet options pools serving where
  ids := by
    have places : (layout options pools).map Prod.snd =
        List.range' 1 (layout options pools).length := by
      unfold layout
      split <;> simp
    have ids := staffed.slots.map Prod.snd
    rw [places, map_map] at ids
    exact ids
  pools worker member := staffed.slots.mem_iff.mp (mem_map_of_mem member)
  generation := staffed.generation

variable {refusal : Nat → Option String}

theorem Staffed.check (staffed : Staffed options pools serving)
    (executes : Executes refusal world (check options serving).run (.ok next)
      target) : Staffed options pools next := by
  have admitted (known : List Pid) (action : MasterAction) (answer : action.Answer) :
      ∃ learned, inspecting.learns known action answer = some learned := by
    cases action <;> exact ⟨_, rfl⟩
  obtain ⟨_, meets⟩ := executes.meets admitted inspecting_check
  obtain ⟨_, active, tended⟩ := meets next rfl
  exact ⟨tended.slots.trans staffed.slots, fun worker member =>
    (tended.generation staffed.generation worker member).trans active.symm⟩

theorem Reached.staffed (reached : Reached refusal options pools world serving) :
    Staffed options pools serving := by
  induction reached with
  | started executes =>
    obtain ⟨first, _, _, created⟩ := executes_startup executes
    exact ⟨.of_eq created.slots, fun worker member =>
      (created.generation worker member).trans first.symm⟩
  | @turned world target serving next event reached executes induction =>
    cases event with
    | check => exact induction.check executes
    | reload =>
      rcases reload_cases executes with ⟨_, _, _, _, _, same, reloading⟩ | ⟨_, _, same⟩
      · cases same
        rcases reloading.activated_or_kept reached.covers.present with
          ⟨replacements, same, slots, generation, _⟩ | kept
        · cases same
          exact ⟨.of_eq slots, generation⟩
        · cases kept.continues
          exact induction
      · cases same

theorem worker_set_kept (reached : Reached refusal options pools world serving) :
    WorkerSet options pools serving ∧ InspectsEach options serving :=
  ⟨reached.staffed.workerSet, wp_mono
    (fun _ _ holds next done => (holds next done).1) inspecting_check⟩

theorem pair_worker_set_kept : WorkerSet pairOptions [] firstGeneration ∧
      InspectsEach pairOptions firstGeneration :=
  worker_set_kept (@reached_pair neverRefused rfl rfl)

end Pam.Cluster
