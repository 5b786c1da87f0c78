import Mathlib.Data.Finset.Card
import Pam.Foundation.Run
import Pam.Manager.Commands

namespace Pam.Manager

open Pam.Foundation List

/-! Which release a rollback activates, over the deployments that succeed. -/

/-- `past` are the releases before the active one, the latest first: a rollback
takes back what was deployed after its release. -/
structure Releases where
  current : Directory
  history : List DeploymentEntry
  past : List Directory

inductive Transfer where
  | deploy (release : Directory) (created now : Nat)
  /-- `rollback --steps` with one step and `further` ones -/
  | rollback (further now : Nat)

namespace Releases

def next (state : Releases) : Transfer → Option Releases
  | .deploy release created now =>
    if state.current = release then some state
    else
      let based := if state.history.isEmpty then [⟨state.current, created, .baseline⟩]
        else state.history
      some ⟨release, appendDeploymentEntry based ⟨release, now, .deploy⟩,
        state.current :: state.past⟩
  | .rollback further now =>
    (rollbackTarget state.current state.history (further + 1)).map fun target =>
      ⟨target, appendDeploymentEntry state.history ⟨target, now, .rollback⟩,
        (state.past.dropWhile (· ≠ target)).tail⟩

/-- The release was active before the current one, and between the two as many
other ones as the rollback goes further back. -/
structure IsEarlier (state : Releases) (further : Nat) (target : Directory) : Prop where
  before : target ∈ state.past
  distinct : target ≠ state.current
  between : ((state.past.takeWhile (· ≠ target)).toFinset.erase state.current).card = further

end Releases

def releaseMachine (current : Directory) : Machine Releases Transfer where
  start := ⟨current, [], []⟩
  next := Releases.next

def RollsBack (state : Releases) : Transfer → Releases → Prop
  | .deploy _ _ _, _ => True
  | .rollback further _, target => state.IsEarlier further target.current

def Releases.others (state : Releases) (entries : List DeploymentEntry) : List Directory :=
  (entries.map DeploymentEntry.releaseDirectory).filter (· != state.current)

/-- On the way back to the release that it activates, a rollback passes no
rollback and no other release twice. -/
def Straight (state : Releases) : Transfer → Prop
  | .deploy _ _ _ => True
  | .rollback further _ => ∀ walked ∈ state.history.tails, ∀ target ∈ walked.head?,
      target.releaseDirectory ≠ state.current → (state.others walked.tail).length = further →
        (∀ entry ∈ walked.tail, entry.eventKind ≠ .rollback) ∧ (state.others walked).Nodup

instance : Decidable (Straight state transfer) := match transfer with
  | .deploy _ _ _ => .isTrue trivial
  | .rollback _ _ => List.decidableBAll _ _

def Traced (state : Releases) : Prop :=
  ∀ ⦃entry recent⦄, entry :: recent <:+ state.history →
    (∀ later ∈ recent, later.eventKind ≠ .rollback) →
      ((entry :: recent).map DeploymentEntry.releaseDirectory).reverse <+:
        state.current :: state.past

theorem recent_of_append (isRecent : entry :: recent <:+ appendDeploymentEntry history last) :
    entry = last ∧ recent = [] ∨
      ∃ older, recent = older ++ [last] ∧ entry :: older <:+ history := by
  rcases suffix_concat_iff.mp (isRecent.trans (drop_suffix _ _)) with none | ⟨older, same, isOlder⟩
  · cases none
  cases older with
  | nil =>
    cases same
    exact .inl ⟨rfl, rfl⟩
  | cons first older =>
    cases same
    exact .inr ⟨older, rfl, isOlder⟩

theorem traced_append (traced : Traced ⟨current, history, past⟩) :
    Traced ⟨release, appendDeploymentEntry history ⟨release, now, .deploy⟩, current :: past⟩ := by
  intro entry recent isRecent deployed
  rcases recent_of_append isRecent with ⟨rfl, rfl⟩ | ⟨older, rfl, isOlder⟩
  · simp
  have kept := traced isOlder fun entry member => deployed entry (mem_append_left _ member)
  simpa using kept

theorem traced_rollback :
    Traced ⟨release, appendDeploymentEntry history ⟨release, now, .rollback⟩, past⟩ := by
  intro entry recent isRecent deployed
  rcases recent_of_append isRecent with ⟨rfl, rfl⟩ | ⟨older, rfl, _⟩
  · simp
  · exact absurd rfl (deployed _ (mem_append_right _ (mem_singleton_self _)))

theorem traced_single {entry : DeploymentEntry} (own : entry.releaseDirectory = current) :
    Traced ⟨current, [entry], past⟩ := by
  intro other recent isRecent _
  rcases suffix_cons_iff.mp isRecent with same | isNil
  · cases same
    simp [own]
  · cases eq_nil_of_suffix_nil isNil

theorem split_of_filter {items : List Item} {keep : Item → Bool} {index : Nat}
    (found : (items.filter keep)[index]? = some item) : ∃ front back,
      items = front ++ item :: back ∧ keep item = true ∧ (front.filter keep).length = index := by
  induction items generalizing index with
  | nil => cases found
  | cons first items induction =>
    cases kept : keep first with
    | false =>
      rw [filter_cons_of_neg (by simp [kept])] at found
      obtain ⟨front, back, rfl, isKept, counted⟩ := induction found
      exact ⟨first :: front, back, rfl, isKept, by simpa [kept] using counted⟩
    | true =>
      rw [filter_cons_of_pos kept] at found
      cases index with
      | zero =>
        cases found
        exact ⟨[], items, rfl, kept, rfl⟩
      | succ index =>
        obtain ⟨front, back, rfl, isKept, counted⟩ := induction found
        exact ⟨first :: front, back, rfl, isKept, by simpa [kept] using counted⟩

variable {state : Releases}

theorem exists_of_rollbackTarget
    (chosen : rollbackTarget state.current state.history (further + 1) = some release) :
    ∃ target recent, target :: recent <:+ state.history ∧ target.releaseDirectory = release ∧
      release ≠ state.current ∧ (state.others recent).length = further := by
  obtain ⟨target, found, rfl⟩ := Option.map_eq_some_iff.mp chosen
  obtain ⟨front, back, same, other, counted⟩ := split_of_filter found
  refine ⟨target, front.reverse, ⟨back.reverse, ?_⟩, rfl, by simpa using other, ?_⟩
  · rw [← reverse_reverse state.history, same]
    simp
  · rw [Releases.others, filter_map, length_map, filter_reverse, length_reverse]
    exact counted

theorem isEarlier_of_straight (traced : Traced state)
    (straight : Straight state (.rollback further now))
    (step : state.next (.rollback further now) = some target) :
    state.IsEarlier further target.current := by
  obtain ⟨release, chosen, rfl⟩ := Option.map_eq_some_iff.mp step
  obtain ⟨entry, recent, isRecent, rfl, other, counted⟩ := exists_of_rollbackTarget chosen
  obtain ⟨deployed, unique⟩ :=
    straight _ ((mem_tails _ _).mpr isRecent) entry rfl other counted
  rw [tail_cons] at deployed
  have isPrefix := traced isRecent deployed
  rw [map_cons, reverse_cons] at isPrefix
  rw [Releases.others, map_cons, filter_cons_of_pos (by simpa using other), nodup_cons] at unique
  have passed : (recent.map DeploymentEntry.releaseDirectory).reverse.filter (· != state.current) =
      (state.others recent).reverse := filter_reverse
  cases listed : (recent.map DeploymentEntry.releaseDirectory).reverse with
  | nil =>
    rw [listed] at isPrefix
    exact absurd (cons_prefix_cons.mp isPrefix).1 other
  | cons first olds =>
    rw [listed, cons_append] at isPrefix
    rw [listed] at passed
    obtain ⟨rfl, rest, past⟩ := cons_prefix_cons.mp isPrefix
    rw [filter_cons_of_neg (by simp)] at passed
    have absent : entry.releaseDirectory ∉ olds := by
      intro member
      exact unique.1 (mem_reverse.mp (passed ▸ mem_filter.mpr ⟨member, by simpa using other⟩))
    have taken : state.past.takeWhile (· ≠ entry.releaseDirectory) = olds := by
      rw [← past, append_assoc, takeWhile_append_of_pos]
      · simp
      · intro old member
        simpa using ne_of_mem_of_not_mem member absent
    have once := nodup_reverse.mpr unique.2
    refine ⟨by simp [← past], other, ?_⟩
    rw [taken, ← Finset.filter_ne', ← counted, ← length_reverse, ← passed,
      ← List.toFinset_card_of_nodup (passed ▸ once), List.toFinset_filter]
    congr 1
    ext old
    simp

theorem traced_next {state target : Releases} (traced : Traced state)
    (step : state.next transfer = some target) : Traced target := by
  cases transfer with
  | deploy release created now =>
    simp only [Releases.next] at step
    split at step
    · cases step
      exact traced
    cases step
    split
    · exact traced_append (traced_single rfl)
    · exact traced_append traced
  | rollback further now =>
    obtain ⟨release, _, rfl⟩ := Option.map_eq_some_iff.mp step
    exact traced_rollback

theorem rollbacks_go_back (current : Directory) (transfers : List Transfer)
    (straight : ∀ transition ∈ (releaseMachine current).transitions ⟨current, [], []⟩ transfers,
      Straight transition.source transition.label) :
    ∀ transition ∈ (releaseMachine current).transitions ⟨current, [], []⟩ transfers,
      RollsBack transition.source transition.label transition.target := by
  refine Machine.transitions_of_guarded _ Traced Straight RollsBack ?_ ?_ straight
  · intro state transfer target traced straight step
    refine ⟨traced_next traced step, ?_⟩
    cases transfer with
    | deploy release created now => trivial
    | rollback further now => exact isEarlier_of_straight traced straight step
  · intro entry recent isRecent _
    cases eq_nil_of_suffix_nil isRecent

/-- A release is deployed again, and its rollback ends at an earlier rollback. -/
def backAndForth : List Transfer := [.deploy "b" 0 1, .deploy "c" 0 2, .rollback 0 3,
    .deploy "d" 0 4, .deploy "a" 0 5, .rollback 1 6]

theorem rollbacks_back_and_forth :
    ((releaseMachine "a").transitions ⟨"a", [], []⟩ backAndForth).length = 6 ∧
      ∀ transition ∈ (releaseMachine "a").transitions ⟨"a", [], []⟩ backAndForth,
        RollsBack transition.source transition.label transition.target := by
  exact ⟨by decide, rollbacks_go_back "a" backAndForth (by decide)⟩

/-- The second of two rollbacks returns to the release of before the first. -/
theorem second_rollback_returns : ¬ ∀ transition ∈ (releaseMachine "a").transitions ⟨"a", [], []⟩
        [.deploy "b" 0 1, .deploy "c" 0 2, .rollback 0 3, .rollback 0 4],
      RollsBack transition.source transition.label transition.target := by
  intro earlier
  have last := earlier _ (mem_of_getElem? (i := 3) rfl)
  exact absurd last.before (by decide)

end Pam.Manager
