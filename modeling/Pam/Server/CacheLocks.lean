import Mathlib.Data.Finset.Card
import Pam.Server.CachePurge

namespace Pam.Server

open Pam.Foundation List Table

/-! The keys of `response_cache_locks`. A request that misses enters its key;
storing, eviction and purges leave the table alone. -/

def PurgeState.pending (state : PurgeState) : List CacheRequest :=
  state.requests.filter fun request => !request.stage.returned

def PurgeState.inFlight (state : PurgeState) : Nat := state.pending.length

def responseCacheLock (state : PurgeState) : PurgeLabel → Finset String
  | .lock number => (state.requests[number]?).elim ∅ fun request => {request.key}
  | _ => ∅

def lockMachine (config : PurgeConfig) : Machine (PurgeState × Finset String) PurgeLabel where
  start := (.initial, ∅)
  next state label := (purgeNext config state.1 label).map fun target =>
    (target, state.2 ∪ responseCacheLock state.1 label)

/-- A response with the key is cached, or a request for it is in flight. -/
def PurgeState.Wants (state : PurgeState) (key : String) : Prop :=
  key ∈ state.cache.entries ∨ key ∈ state.pending.map CacheRequest.key

/-- No response leaves the cache, and no request ends without one in it, while
no other request for the key is in flight. -/
def KeepsWanted (config : PurgeConfig) (state : PurgeState × Finset String)
    (label : PurgeLabel) : Prop :=
  ∀ key ∈ state.2, state.1.Wants key →
    ∀ target ∈ purgeNext config state.1 label, target.Wants key

structure LocksWanted (config : PurgeConfig) (state : PurgeState × Finset String) : Prop where
  enabled : state.1.requests ≠ [] → config.cache.enabled = true
  entries : state.1.cache.entries.size ≤ config.cache.responseCacheMaxEntries
  locks : ∀ key ∈ state.2, state.1.Wants key

variable {config : PurgeConfig} {state target : PurgeState} {label : PurgeLabel}

theorem enabled_next (enabled : state.requests ≠ [] → config.cache.enabled = true)
    (step : purgeNext config state label = some target) :
    target.requests ≠ [] → config.cache.enabled = true := by
  intro some
  cases purgeStep_of_next step with
  | tick elapsed | refuse request published | purge request tag | invalidate purgeAll tags =>
    exact enabled some
  | arrive key =>
    by_contra disabled
    rw [purgeNext, if_neg disabled] at step
    cases step
  | lookup found looks | removeExpired found | lockFree found free | lockHeld found
  | acquire found free | startPhp found | drop found dropped | buffer found buffered
  | store found | cancel found => exact enabled (ne_nil_of_mem (mem_of_getElem? found))

theorem PurgeStep.size_le (step : PurgeStep config state label target)
    (enabled : state.requests ≠ [] → config.cache.enabled = true)
    (bounded : state.cache.entries.size ≤ config.cache.responseCacheMaxEntries) :
    target.cache.entries.size ≤ config.cache.responseCacheMaxEntries := by
  cases step with
  | tick elapsed | arrive key | lockFree request free | lockHeld request
  | acquire request free | startPhp request | drop request dropped
  | buffer request buffered | cancel request | refuse request published => exact bounded
  | lookup request looks =>
    rw [cache_lookup, (bounds_cachedResponse ..).1]
    exact bounded
  | removeExpired request => exact (size_erase_le _ _).trans bounded
  | store request =>
    have some : state.requests ≠ [] := ne_nil_of_mem (mem_of_getElem? request)
    exact size_storeCachedResponse_le (enabled some) bounded
  | purge request tag =>
    cases tag with
    | none => exact Nat.zero_le _
    | some tag => exact (size_retain_le _).trans bounded
  | invalidate purgeAll tags =>
    simp only [applyInvalidations]
    split
    · exact Nat.zero_le _
    split
    · exact bounded
    · exact (size_retain_le _).trans bounded

theorem wants_moveTo {stage : CacheStage} (found : state.requests[number]? = some ⟨key, before⟩)
    (goesOn : stage.returned = false) :
    key ∈ (state.moveTo number key stage).pending.map CacheRequest.key := by
  have small := (List.getElem?_eq_some_iff.mp found).1
  refine mem_map.mpr ⟨⟨key, stage⟩, mem_filter.mpr ⟨?_, by simp [goesOn]⟩, rfl⟩
  exact mem_set small _

/-- The request that enters its key goes on. -/
theorem wants_responseCacheLock (step : purgeNext config state label = some target)
    (entered : key ∈ responseCacheLock state label) : target.Wants key := by
  cases label with
  | lock number =>
    cases purgeStep_of_next step with
    | lockFree found free | lockHeld found =>
      rw [responseCacheLock, found, Option.elim_some, Finset.mem_singleton] at entered
      subst entered
      exact .inr (wants_moveTo found rfl)
  | _ => cases entered

theorem card_le_of_locksWanted {state : PurgeState × Finset String}
    (wanted : LocksWanted config state) :
    state.2.card ≤ config.cache.responseCacheMaxEntries + state.1.inFlight := by
  have within : state.2 ⊆ (state.1.cache.entries.keys ++
      state.1.pending.map CacheRequest.key).toFinset := by
    intro key member
    rw [mem_toFinset, mem_append]
    exact wanted.locks key member
  have entries := wanted.entries
  calc state.2.card
      ≤ _ := Finset.card_le_card within
    _ ≤ _ := toFinset_card_le _
    _ = state.1.cache.entries.size + state.1.inFlight := by
      simp [AList.keys, Table.size, PurgeState.inFlight, keys]
    _ ≤ _ := Nat.add_le_add_right entries _

theorem cache_locks_bounded (config : PurgeConfig) (labels : List PurgeLabel)
    (kept : ∀ step ∈ (lockMachine config).transitions (lockMachine config).start labels,
      KeepsWanted config step.source step.label) :
    ∀ state ∈ (lockMachine config).visited (lockMachine config).start labels,
      state.2.card ≤ config.cache.responseCacheMaxEntries + state.1.inFlight := by
  refine (lockMachine config).visited_of_guarded (LocksWanted config) (KeepsWanted config) _
    card_le_of_locksWanted (fun wanted kept step => ?_)
    ⟨fun some => absurd rfl some, Nat.zero_le _, nofun⟩ kept
  obtain ⟨target, next, rfl⟩ := Option.map_eq_some_iff.mp step
  have made := purgeStep_of_next next
  refine ⟨enabled_next wanted.enabled next, made.size_le wanted.enabled wanted.entries, ?_⟩
  intro key member
  rcases Finset.mem_union.mp member with before | entered
  · exact kept key before (wanted.locks key before) target next
  · exact wants_responseCacheLock next entered

def oneEntry : PurgeConfig := ⟨⟨1, 1, 1, 0⟩, none, none, fun _ _ => false⟩

/-- One response is cached, and a request for another key is in flight. -/
def cachedThenMissed : List PurgeLabel := [.arrive "a", .lookup 0, .lock 0, .startPhp 0,
    .respond 0 (some emptyOk), .store 0, .arrive "b", .lookup 1, .lock 1]

theorem sample_cache_locks_bounded : ((lockMachine oneEntry).finish (lockMachine oneEntry).start
      cachedThenMissed).2 = {"a", "b"} ∧
    ∀ state ∈ (lockMachine oneEntry).visited (lockMachine oneEntry).start
      cachedThenMissed, state.2.card ≤ 1 + state.1.inFlight :=
  ⟨by decide +kernel, cache_locks_bounded oneEntry cachedThenMissed
    (by simp only [KeepsWanted, PurgeState.Wants]; decide +kernel)⟩

theorem locks_of_cancelled_requests : ¬ ∀ (config : PurgeConfig) (labels : List PurgeLabel),
    ∀ state ∈ (lockMachine config).visited (lockMachine config).start labels,
      state.2.card ≤ config.cache.responseCacheMaxEntries + state.1.inFlight := by
  intro bounded
  have few := bounded oneEntry [.arrive "a", .lookup 0, .lock 0, .cancel 0, .arrive "b", .lookup 1,
    .lock 1, .cancel 1] _ (Machine.finish_mem_visited _ _ _)
  revert few
  decide +kernel

end Pam.Server
