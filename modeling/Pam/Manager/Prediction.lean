import Pam.Manager.Apply

namespace Pam.Manager

open Pam.Foundation

/-! `plan` as a prediction of `apply`. -/

/-- Nothing gets into the way of `apply` on this host: no master is starting,
`pamd` restores nothing, and no state file is shared among the applications or
with a lost master. -/
structure Host.Undisturbed (host : Host)
    (applications : List (AppName × EcosystemApplication)) : Prop where
  sound : host.world.Sound
  ready : host.Ready
  separate : host.world.view.Separate applications
  clear : ∀ entry ∈ applications, host.world.view.Clear entry.1 entry.2

/-- The results of `apply` where `pamd` finds nothing to do of its own accord. -/
theorem plan_foretells_apply (cores : Nat) (applications : List (AppName × EcosystemApplication)) :
    looking.Obeys () (reconcileEcosystem .plan applications).run ∧
      ∀ (host final : Host) (planned : List ReconcileResult),
        host.Runs cores (reconcileEcosystem .plan applications) (.ok planned) final →
        final = host ∧ (host.Undisturbed applications →
            ∀ (after : Host) (applied : List ReconcileResult),
              host.AttendedRuns cores World.Later (reconcileEcosystem .apply applications)
                (.ok applied) after →
              applied = planned ∧ changeCount applied = changeCount planned) := by
  refine ⟨looking_plan.obeys (), ?_⟩
  intro host final planned plans
  obtain ⟨rfl, rfl⟩ := runs_plan.mp plans
  refine ⟨rfl, ?_⟩
  intro undisturbed after applied applies
  obtain ⟨_, alone, _⟩ := applies.alone
  obtain ⟨rfl, _⟩ := runs_apply undisturbed.sound undisturbed.ready
    undisturbed.separate undisturbed.clear alone
  exact ⟨rfl, rfl⟩

def apiOnly : List (AppName × EcosystemApplication) := [("api", runtimeApplication "/srv/api")]

def idleHost : Host where
  world := { World.empty with directories := true }
  serving := true

theorem idleHost_sound : idleHost.world.Sound where
  named := World.Named.initial
  owned := nofun
  fresh := fun _ => rfl
  below := nofun
  started := nofun

theorem idleHost_undisturbed : idleHost.Undisturbed [entry] where
  sound := idleHost_sound
  ready := .inl rfl
  separate := List.pairwise_singleton _ _
  clear := fun _ _ _ _ => rfl

theorem api_foretold : ∃ after, idleHost.Runs 4 (reconcileEcosystem .apply apiOnly)
        (.ok [⟨"api", .created, "/srv/api"⟩]) after ∧
      [⟨"api", .created, "/srv/api"⟩] = idleHost.world.view.results apiOnly := by
  have applies : idleHost.Runs 4 (reconcileEcosystem .apply apiOnly)
      (.ok [⟨"api", .created, "/srv/api"⟩]) _ := Host.runs_evaluate (by decide +kernel)
  have plans : idleHost.Runs 4 (reconcileEcosystem .plan apiOnly)
      (.ok (idleHost.world.view.results apiOnly)) idleHost := runs_plan.mpr ⟨rfl, rfl⟩
  have foretold := (plan_foretells_apply 4 apiOnly).2 idleHost idleHost _ plans
  exact ⟨_, applies, (foretold.2 idleHost_undisturbed _ _ applies.attended).1⟩

/-! After a reboot: two applications are stored and saved, nothing runs, and the
first command of `apply` starts `pamd`. -/

def apiAndWeb : List (AppName × EcosystemApplication) :=
  [("api", runtimeApplication "/srv/api"), ("web", runtimeApplication "/srv/web")]

def storedRecord (name : AppName) (application : EcosystemApplication) : ApplicationRecord :=
  identifiedRecord (upRecord (application.upOptions name) 0) application

def rebootedHost : Host where
  world := { World.empty with
    directories := true
    records := ((∅ : Table AppName ApplicationRecord).insert "api"
      (storedRecord "api" (runtimeApplication "/srv/api"))).insert "web"
      (storedRecord "web" (runtimeApplication "/srv/web"))
    savedList := some [⟨"api", .online⟩, ⟨"web", .online⟩] }
  serving := false

/-- The start of `pamd` brings up both applications, so that `apply` leaves
alone the one `plan` would have restarted. -/
theorem restored_application_unforeseen : ¬ ∀ (host final after : Host)
        (applications : List (AppName × EcosystemApplication))
        (planned applied : List ReconcileResult),
      host.Runs 4 (reconcileEcosystem .plan applications) (.ok planned) final →
      host.Runs 4 (reconcileEcosystem .apply applications) (.ok applied) after →
      applied = planned ∧ changeCount applied = changeCount planned := by
  intro claimed
  have plans : rebootedHost.Runs 4 (reconcileEcosystem .plan apiAndWeb)
      (.ok [⟨"api", .restarted, "/srv/api"⟩, ⟨"web", .restarted, "/srv/web"⟩]) rebootedHost :=
    runs_plan.mpr ⟨by decide +kernel, rfl⟩
  have applies : rebootedHost.Runs 4 (reconcileEcosystem .apply apiAndWeb)
      (.ok [⟨"api", .restarted, "/srv/api"⟩, ⟨"web", .unchanged, "/srv/web"⟩]) _ :=
    Host.runs_evaluate (by decide +kernel)
  exact absurd (claimed _ _ _ _ _ _ plans applies).2 (by decide)

end Pam.Manager
