import Mathlib.Data.List.Infix
import Mathlib.Data.String.Basic
import Pam.Foundation.Codec
import Pam.Manager.RecordFile

namespace Pam.Manager

open Pam.Foundation List

/-! The files of an application, a traffic ingress and the live dashboard, and
where two of these share one. -/

abbrev Path := List String

/-- A file in a directory of the manager's state, one in the state directory, or
the state that Octane keeps in its project. -/
inductive ManagedFile where
  | inside (directory name : String)
  | top (name : String)
  | octane (project : Path)

def ManagedFile.path (base : Path) : ManagedFile → Path
  | .inside directory name => base ++ [directory, name]
  | .top name => base ++ [name]
  | .octane project => project ++ [".pam", "octane.json"]

namespace ManagerPaths

def application (name : AppName) : ManagedFile := .inside "applications" (name ++ ".json")

def deployment (name : AppName) : ManagedFile := .inside "deployments" (name ++ ".json")

def trafficConfig (name : AppName) : ManagedFile := .inside "traffic" (name ++ ".json")

def trafficState (name : AppName) : ManagedFile := .inside "runtime" ("traffic-" ++ name ++ ".json")

def trafficMetrics (name : AppName) : ManagedFile := .inside "traffic" (name ++ ".metrics.json")

def resourceHistory (name : AppName) : ManagedFile := .inside "history" (name ++ ".json")

def liveDashboardConfig : ManagedFile := .top "live-dashboard.json"

def liveDashboardState : ManagedFile := .inside "runtime" "live-dashboard.json"

end ManagerPaths

/-! Logs. The current one has no number, the rotated ones count from one. -/

def logName (log : String) : Nat → String
  | 0 => log
  | number + 1 => log ++ "." ++ toString (number + 1)

def logFiles (stem : String) (retain : Nat) : List ManagedFile :=
  [stem ++ ".out.log", stem ++ ".error.log"].flatMap fun log =>
    (List.range (retain + 1)).map fun number => .inside "logs" (logName log number)

/-- An application has a project if it is a Laravel one, whose master keeps its
state there. -/
inductive ManagedObject where
  | application (name : AppName) (project : Option Path) (logRetain : Nat)
  | ingress (name : AppName)
  | dashboard

namespace ManagedObject

def masterStateFile (name : AppName) : Option Path → ManagedFile
  | some project => .octane project
  | none => .inside "runtime" (name ++ ".master.json")

def files : ManagedObject → List ManagedFile
  | .application name project logRetain =>
    [ManagerPaths.application name, ManagerPaths.deployment name,
      ManagerPaths.resourceHistory name, masterStateFile name project] ++ logFiles name logRetain
  | .ingress name => [ManagerPaths.trafficConfig name, ManagerPaths.trafficMetrics name,
      ManagerPaths.trafficState name] ++ logFiles ("traffic-" ++ name) 0
  | .dashboard => [ManagerPaths.liveDashboardConfig, ManagerPaths.liveDashboardState] ++
      logFiles "live-dashboard" 0

def Same : ManagedObject → ManagedObject → Prop
  | .application name _ _, .application other _ _ => name = other
  | .ingress name, .ingress other => name = other
  | .dashboard, .dashboard => True
  | _, _ => False

def Clash : ManagedObject → ManagedObject → Prop
  | .application _ project _, .application _ other _ => project ≠ none ∧ project = other
  | .application name project _, .ingress other =>
    name = "traffic-" ++ other ∨ project = none ∧ name ++ ".master" = "traffic-" ++ other
  | .application name _ _, .dashboard => name = "live-dashboard"
  | .ingress name, .ingress other => name = other ++ ".metrics"
  | _, _ => False

end ManagedObject

theorem append_ne_append {left right : String}
    (apart : ¬ left.toList <:+ right.toList ∧ ¬ right.toList <:+ left.toList) :
    first ++ left ≠ second ++ right := by
  intro same
  have lists : first.toList ++ left.toList = second.toList ++ right.toList := by
    rw [← String.toList_append, same, String.toList_append]
  have here : left.toList <:+ first.toList ++ left.toList := suffix_append ..
  have there : right.toList <:+ first.toList ++ left.toList := lists ▸ suffix_append ..
  rcases suffix_or_suffix_of_suffix here there with ends | ends
  · exact apart.1 ends
  · exact apart.2 ends

theorem reverse_logName_succ : (logName log (number + 1)).toList.reverse =
      (Nat.toDigits 10 (number + 1)).reverse ++ '.' :: log.toList.reverse := by
  simp [logName]

theorem isDigit_of_mem_reverse_toDigits (member : digit ∈ (Nat.toDigits 10 number).reverse) :
    digit.isDigit = true :=
  Nat.isDigit_of_mem_toDigits (by decide) (by decide) (mem_reverse.mp member)

theorem ne_logName_succ : log ++ ".log" ≠ logName other (number + 1) := by
  intro same
  have lists := congrArg (fun name => name.toList.reverse) same
  simp only [reverse_logName_succ] at lists
  cases digits : (Nat.toDigits 10 (number + 1)).reverse with
  | nil => simp at digits
  | cons digit rest =>
    have isDigit : digit.isDigit = true := isDigit_of_mem_reverse_toDigits (digits ▸ mem_cons_self)
    have head : 'g' = digit := by
      have first := congrArg List.head? lists
      simpa [digits] using first
    rw [← head] at isDigit
    exact absurd isDigit (by decide)

theorem logName_inj {number other : Nat}
    (same : logName (first ++ ".log") number = logName (second ++ ".log") other) :
    first = second ∧ number = other := by
  cases number with
  | zero =>
    cases other with
    | zero => exact ⟨(String.append_left_inj _).mp same, rfl⟩
    | succ other => exact absurd same ne_logName_succ
  | succ number =>
    cases other with
    | zero => exact absurd same.symm ne_logName_succ
    | succ other =>
      have lists := congrArg (fun name => name.toList.reverse) same
      simp only [reverse_logName_succ] at lists
      have outside (number : Nat) : '.' ∉ (Nat.toDigits 10 number).reverse := fun member =>
        absurd (isDigit_of_mem_reverse_toDigits member) (by decide)
      obtain ⟨digits, logs⟩ := append_cons_inj (outside _) (outside _) lists
      have numbers := congrArg (Nat.ofDigitChars 10 · 0) (reverse_injective digits)
      simp only [Nat.ofDigitChars_ten_toDigits] at numbers
      have stems := String.toList_injective (reverse_injective logs)
      exact ⟨(String.append_left_inj _).mp stems, numbers⟩

variable {file : ManagedFile}

theorem stems_of_share {retain others : Nat}
    {file : ManagedFile} (mine : file ∈ logFiles stem retain)
    (theirs : file ∈ logFiles other others) : stem = other := by
  have split (stem : String) : [stem ++ ".out.log", stem ++ ".error.log"] =
        [stem ++ ".out", stem ++ ".error"].map (· ++ ".log") := by
    simp [String.append_assoc]
  simp only [logFiles, split, flatMap_map] at mine theirs
  obtain ⟨log, listed, numbered⟩ := mem_flatMap.mp mine
  obtain ⟨number, _, rfl⟩ := mem_map.mp numbered
  obtain ⟨otherLog, otherListed, otherNumbered⟩ := mem_flatMap.mp theirs
  obtain ⟨otherNumber, _, same⟩ := mem_map.mp otherNumbered
  have names : otherLog = log := (logName_inj (ManagedFile.inside.inj same).2).1
  have out : ¬ ".out".toList <:+ ".error".toList ∧ ¬ ".error".toList <:+ ".out".toList := by decide
  simp only [mem_cons, not_mem_nil, or_false] at listed otherListed
  rcases listed with rfl | rfl <;> rcases otherListed with rfl | rfl
  · exact ((String.append_left_inj _).mp names).symm
  · exact absurd names (append_ne_append ⟨out.2, out.1⟩)
  · exact absurd names (append_ne_append out)
  · exact ((String.append_left_inj _).mp names).symm

theorem mem_logFiles_out : .inside "logs" (stem ++ ".out.log") ∈ logFiles stem retain := by
  apply mem_flatMap.mpr
  exact ⟨_, mem_cons_self, mem_map.mpr ⟨0, by simp, rfl⟩⟩

namespace ManagedObject

/-- The directories with the stems of the names in them: the names end in
`.json`, but for those of logs. -/
def stems : ManagedObject → List (String × String)
  | .application name project _ =>
    [("applications", name), ("deployments", name), ("history", name), ("logs", name)] ++
      if project = none then [("runtime", name ++ ".master")] else []
  | .ingress name => [("traffic", name), ("traffic", name ++ ".metrics"),
      ("runtime", "traffic-" ++ name), ("logs", "traffic-" ++ name)]
  | .dashboard => [("runtime", "live-dashboard"), ("logs", "live-dashboard")]

def outside : ManagedObject → List ManagedFile
  | .application _ project _ => project.toList.map .octane
  | .ingress _ => []
  | .dashboard => [ManagerPaths.liveDashboardConfig]

def retain : ManagedObject → Nat
  | .application _ _ logRetain => logRetain
  | _ => 0

def stemFiles (retain : Nat) (place : String × String) : List ManagedFile :=
  if place.1 = "logs" then logFiles place.2 retain else [.inside place.1 (place.2 ++ ".json")]

theorem mem_files {object : ManagedObject} : file ∈ object.files ↔
      (∃ place ∈ object.stems, file ∈ stemFiles object.retain place) ∨ file ∈ object.outside := by
  have master (name : String) : name ++ ".master" ++ ".json" = name ++ ".master.json" := by
    simp [String.append_assoc]
  have metrics (name : String) : name ++ ".metrics" ++ ".json" = name ++ ".metrics.json" := by
    simp [String.append_assoc]
  cases object with
  | application name project logRetain =>
    cases project <;> simp [files, stems, outside, retain, stemFiles, masterStateFile,
        ManagerPaths.resourceHistory, master] <;> tauto
  | ingress name => simp [files, stems, outside, retain, stemFiles,
      ManagerPaths.trafficConfig, ManagerPaths.trafficMetrics, ManagerPaths.trafficState, metrics]
  | dashboard =>
    simp [files, stems, outside, stemFiles]
    tauto

variable {retain : Nat}

theorem inside_of_mem_stemFiles (member : file ∈ stemFiles retain place) :
    ∃ name, file = .inside place.1 name := by
  unfold stemFiles at member
  split at member
  case isTrue logs =>
    obtain ⟨log, _, numbered⟩ := mem_flatMap.mp member
    obtain ⟨number, _, rfl⟩ := mem_map.mp numbered
    exact ⟨_, by rw [logs]⟩
  case isFalse => exact ⟨_, mem_singleton.mp member⟩

theorem eq_of_mem_stemFiles (mine : file ∈ stemFiles retain place)
    (theirs : file ∈ stemFiles retained other) : place = other := by
  obtain ⟨name, rfl⟩ := inside_of_mem_stemFiles mine
  obtain ⟨_, same⟩ := inside_of_mem_stemFiles theirs
  have directory : place.1 = other.1 := (ManagedFile.inside.inj same).1
  unfold stemFiles at mine theirs
  rw [← directory] at theirs
  split at mine
  case isTrue logs =>
    rw [if_pos logs] at theirs
    exact Prod.ext directory (stems_of_share mine theirs)
  case isFalse elsewhere =>
    rw [if_neg elsewhere] at theirs
    have names := (ManagedFile.inside.inj (mem_singleton.mp mine)).2
    rw [(ManagedFile.inside.inj (mem_singleton.mp theirs)).2] at names
    exact Prod.ext directory ((String.append_left_inj _).mp names).symm

theorem exists_mem_stemFiles : ∃ file, ∀ retain, file ∈ stemFiles retain place := by
  by_cases logs : place.1 = "logs"
  · refine ⟨.inside "logs" (place.2 ++ ".out.log"), fun retain => ?_⟩
    rw [stemFiles, if_pos logs]
    exact mem_logFiles_out
  refine ⟨.inside place.1 (place.2 ++ ".json"), fun retain => ?_⟩
  rw [stemFiles, if_neg logs]
  exact mem_singleton_self _

theorem not_inside_of_mem_outside {object : ManagedObject}
    {directory name : String} : .inside directory name ∉ object.outside := by
  cases object with
  | application _ project _ => cases project <;> simp [outside]
  | ingress _ => exact not_mem_nil
  | dashboard => simp [outside, ManagerPaths.liveDashboardConfig]

def Shares (first second : ManagedObject) : Prop := ∃ file, file ∈ first.files ∧ file ∈ second.files

theorem shares_iff : Shares first second ↔ (∃ place ∈ first.stems, place ∈ second.stems) ∨
        ∃ file ∈ first.outside, file ∈ second.outside := by
  constructor
  · rintro ⟨file, mine, theirs⟩
    rcases mem_files.mp mine with ⟨place, listed, mine⟩ | mine
    · rcases mem_files.mp theirs with ⟨other, otherListed, theirs⟩ | theirs
      · have same := eq_of_mem_stemFiles mine theirs
        exact .inl ⟨place, listed, same ▸ otherListed⟩
      · obtain ⟨name, rfl⟩ := inside_of_mem_stemFiles mine
        exact absurd theirs not_inside_of_mem_outside
    · rcases mem_files.mp theirs with ⟨other, _, theirs⟩ | theirs
      · obtain ⟨name, rfl⟩ := inside_of_mem_stemFiles theirs
        exact absurd mine not_inside_of_mem_outside
      · exact .inr ⟨file, mine, theirs⟩
  · rintro (⟨place, mine, theirs⟩ | ⟨file, mine, theirs⟩)
    · obtain ⟨file, member⟩ := exists_mem_stemFiles
      exact ⟨file, mem_files.mpr (.inl ⟨place, mine, member _⟩),
        mem_files.mpr (.inl ⟨place, theirs, member _⟩)⟩
    · exact ⟨file, mem_files.mpr (.inr mine), mem_files.mpr (.inr theirs)⟩

theorem master_ne_liveDashboard : name ++ ".master" ≠ "live-dashboard" := by
  have apart : name ++ ".master" ≠ "" ++ "live-dashboard" := append_ne_append (by decide)
  simpa using apart

theorem traffic_ne_liveDashboard : "traffic-" ++ name ≠ "live-dashboard" := by
  intro same
  have heads := congrArg (fun text => text.toList.head?) same
  simp at heads

theorem shares_application_application (distinct : name ≠ other) :
    Shares (.application name project retain) (.application other others retained) ↔
      project ≠ none ∧ project = others := by
  rw [shares_iff]
  cases project <;> cases others <;> simp [stems, outside, distinct]

theorem shares_application_ingress : Shares (.application name project retain) (.ingress other) ↔
      name = "traffic-" ++ other ∨ project = none ∧ name ++ ".master" = "traffic-" ++ other := by
  rw [shares_iff]
  cases project <;> simp [stems, outside]

theorem shares_application_dashboard :
    Shares (.application name project retain) .dashboard ↔ name = "live-dashboard" := by
  rw [shares_iff]
  cases project <;> simp [stems, outside, master_ne_liveDashboard, ManagerPaths.liveDashboardConfig]

theorem shares_ingress_ingress (distinct : name ≠ other) : Shares (.ingress name) (.ingress other) ↔
      name = other ++ ".metrics" ∨ other = name ++ ".metrics" := by
  rw [shares_iff]
  simp [stems, outside, distinct, eq_comm]

theorem not_shares_ingress_dashboard : ¬ Shares (.ingress name) .dashboard := by
  rw [shares_iff]
  simp [stems, outside, traffic_ne_liveDashboard]

theorem shares_comm : Shares first second ↔ Shares second first := by simp [Shares, and_comm]

theorem shares_iff_clash (distinct : ¬ Same first second) :
    Shares first second ↔ Clash first second ∨ Clash second first := by
  cases first with
  | application name project _ =>
    cases second with
    | application other others _ =>
      rw [shares_application_application distinct]
      constructor
      · exact .inl
      rintro (clash | ⟨laravel, rfl⟩)
      · exact clash
      · exact ⟨laravel, rfl⟩
    | ingress other => simp [shares_application_ingress, Clash]
    | dashboard => simp [shares_application_dashboard, Clash]
  | ingress name =>
    cases second with
    | application other others _ =>
      rw [shares_comm]
      simp [shares_application_ingress, Clash]
    | ingress other =>
      rw [shares_ingress_ingress distinct]
      simp [Clash]
    | dashboard => simp [not_shares_ingress_dashboard, Clash]
  | dashboard =>
    rw [shares_comm]
    cases second with
    | application other others _ => simp [shares_application_dashboard, Clash]
    | ingress other => simp [not_shares_ingress_dashboard, Clash]
    | dashboard => exact absurd trivial distinct

end ManagedObject

def ManagedFile.Proper : ManagedFile → Prop
  | .inside directory _ => directory ≠ ".pam"
  | .top name => name ≠ "octane.json"
  | .octane _ => True

theorem ManagedFile.path_injective (proper : file.Proper) (otherProper : other.Proper)
    (same : file.path base = other.path base) : file = other := by
  cases file with
  | inside directory name =>
    cases other with
    | inside otherDirectory otherName =>
      have ends := append_cancel_left same
      simp only [List.cons.injEq, and_true] at ends
      rw [ends.1, ends.2]
    | top otherName =>
      have lengths := congrArg List.length same
      simp [ManagedFile.path] at lengths
    | octane project =>
      have ends := (append_inj' same rfl).2
      simp only [List.cons.injEq] at ends
      exact absurd ends.1 proper
  | top name =>
    cases other with
    | inside otherDirectory otherName =>
      have lengths := congrArg List.length same
      simp [ManagedFile.path] at lengths
    | top otherName =>
      have ends := append_cancel_left same
      simp only [List.cons.injEq, and_true] at ends
      rw [ends]
    | octane project =>
      have ends := congrArg List.getLast? same
      simp [ManagedFile.path] at ends
      exact absurd ends proper
  | octane project =>
    cases other with
    | inside otherDirectory otherName =>
      have ends := (append_inj' same rfl).2
      simp only [List.cons.injEq] at ends
      exact absurd ends.1.symm otherProper
    | top otherName =>
      have ends := congrArg List.getLast? same
      simp [ManagedFile.path] at ends
      exact absurd ends.symm otherProper
    | octane otherProject => rw [append_cancel_right same]

theorem ManagedObject.proper_of_mem_files {object : ManagedObject}
    (member : file ∈ object.files) : file.Proper := by
  have named : ∀ place ∈ object.stems, place.1 ≠ ".pam" := by
    cases object with
    | application name project _ => cases project <;> simp [stems]
    | ingress name | dashboard => simp [stems]
  rcases mem_files.mp member with ⟨place, listed, member⟩ | member
  · obtain ⟨name, rfl⟩ := inside_of_mem_stemFiles member
    exact named place listed
  cases object with
  | application name project _ =>
    obtain ⟨path, _, rfl⟩ := mem_map.mp member
    exact trivial
  | ingress name => cases member
  | dashboard =>
    rw [mem_singleton.mp member]
    exact (by decide : "live-dashboard.json" ≠ "octane.json")

def ManagedObject.paths (base : Path) (object : ManagedObject) : List Path :=
  object.files.map (ManagedFile.path base)

theorem ManagedObject.disjoint_paths_iff {second : ManagedObject} :
    List.Disjoint (first.paths base) (second.paths base) ↔ ¬ Shares first second := by
  constructor
  · rintro disjoint ⟨file, mine, theirs⟩
    exact disjoint (mem_map_of_mem mine) (mem_map_of_mem theirs)
  intro apart path mine theirs
  obtain ⟨file, listed, rfl⟩ := mem_map.mp mine
  obtain ⟨other, otherListed, same⟩ := mem_map.mp theirs
  have equal := ManagedFile.path_injective (proper_of_mem_files otherListed)
    (proper_of_mem_files listed) same
  exact apart ⟨file, listed, equal ▸ otherListed⟩

theorem state_files_disjoint_iff (base : Path) {first second : ManagedObject}
    (distinct : ¬ first.Same second) : List.Disjoint (first.paths base) (second.paths base) ↔
      ¬ (first.Clash second ∨ second.Clash first) := by
  rw [ManagedObject.disjoint_paths_iff, ManagedObject.shares_iff_clash distinct]

theorem shop_files_disjoint : List.Disjoint
      ((ManagedObject.application "shop" none 5).paths ["state", "pam"])
      ((ManagedObject.ingress "shop").paths ["state", "pam"]) := by
  apply (state_files_disjoint_iff ["state", "pam"] id).mpr
  simp [ManagedObject.Clash]

/-- The names are all accepted: the state of the ingress is the one of the
application's master, the metrics of one ingress are the configuration of the
other, and the application logs with the dashboard. -/
theorem state_files_collide :
    (∀ name ∈ ["traffic-a", "a.master", "a", "a.metrics", "live-dashboard"],
        validateName name = .ok ()) ∧
      ∀ pair ∈ [(ManagedObject.application "traffic-a" none 5, ManagedObject.ingress "a.master"),
          (ManagedObject.ingress "a", ManagedObject.ingress "a.metrics"),
          (ManagedObject.application "live-dashboard" none 5, ManagedObject.dashboard)],
        ¬ pair.1.Same pair.2 ∧ ∀ base, ¬ List.Disjoint (pair.1.paths base) (pair.2.paths base) := by
  constructor
  · simp only [forall_mem_cons]
    exact ⟨rfl, rfl, rfl, rfl, rfl, forall_mem_nil _⟩
  simp only [ManagedObject.disjoint_paths_iff, not_not, forall_mem_cons]
  have named : "a" ≠ "a.metrics" := by decide
  exact ⟨⟨id, fun _ => ManagedObject.shares_application_ingress.mpr (.inr ⟨rfl, by decide⟩)⟩,
    ⟨named, fun _ => (ManagedObject.shares_ingress_ingress named).mpr (.inr (by decide))⟩,
    ⟨id, fun _ => ManagedObject.shares_application_dashboard.mpr rfl⟩, forall_mem_nil _⟩

end Pam.Manager
