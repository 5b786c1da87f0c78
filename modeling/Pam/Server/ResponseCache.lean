import Mathlib.Data.List.MinMax
import Pam.Foundation.Run
import Pam.Foundation.Table

namespace Pam.Server

open Pam.Foundation List Table

/-! The response cache of a worker. Instants are milliseconds. -/

/-- `startedAt` is not in the source: the number of purge requests the worker
had answered when the PHP execution that produced the response started. -/
structure CachedResponse where
  status : Nat
  headers : List (String × String)
  body : List UInt8
  expiresAt : Nat
  staleUntil : Nat
  lastAccess : Nat
  tags : List String
  startedAt : Nat
  deriving DecidableEq

structure CacheConfig where
  responseCacheMaxEntries : Nat
  responseCacheMaxBytes : Nat
  responseCacheTtlMs : Nat
  responseCacheStaleWhileRevalidateMs : Nat

/-- The tests of `response_cache_key` on the configuration; without them no
request has a cache key and nothing is stored. -/
def CacheConfig.enabled (config : CacheConfig) : Bool :=
  config.responseCacheMaxEntries != 0 && config.responseCacheMaxBytes != 0 &&
    config.responseCacheTtlMs != 0

abbrev CacheEntries := Table String CachedResponse

structure ResponseCache where
  entries : CacheEntries
  clock : Nat

def ResponseCache.empty : ResponseCache where
  entries := ∅
  clock := 1

def CacheEntries.bytes (entries : CacheEntries) : Nat :=
  Table.weight (fun cached => cached.body.length) entries

def CachedResponse.servable (cached : CachedResponse) (allowStale : Bool) (now : Nat) : Bool :=
  now < cached.expiresAt || (allowStale && now < cached.staleUntil)

inductive CacheLookup where
  | hit (cached : CachedResponse)
  | expired
  | miss

/-- The read of `cached_response`. An entry past its stale time is reported as
expired; the source removes its key later, under the write lock. -/
def cachedResponse (cache : ResponseCache) (key : String) (allowStale : Bool)
    (now : Nat) : ResponseCache × CacheLookup :=
  match cache.entries.lookup key with
  | none => (cache, .miss)
  | some cached =>
    if cached.servable allowStale now then
      ({ entries := cache.entries.modify key fun cached => { cached with lastAccess := cache.clock }
         clock := cache.clock + 1 }, .hit cached)
    else if cached.staleUntil ≤ now then (cache, .expired)
    else (cache, .miss)

def removeExpired (cache : ResponseCache) (key : String) : ResponseCache :=
  { cache with entries := cache.entries.erase key }

def CacheEntries.leastRecent (entries : CacheEntries) : Option String :=
  (entries.entries.argmin fun entry => entry.2.lastAccess).map Sigma.fst

def CacheEntries.mustEvict (config : CacheConfig) (key : String) (bytes : Nat)
    (entries : CacheEntries) : Bool :=
  !decide (key ∈ entries) && (config.responseCacheMaxEntries ≤ entries.size ||
      config.responseCacheMaxBytes < entries.bytes + bytes)

def evictFor (config : CacheConfig) (key : String) (bytes : Nat) : Nat → CacheEntries → CacheEntries
  | 0, entries => entries
  | fuel + 1, entries =>
    if entries.mustEvict config key bytes then
      match entries.leastRecent with
      | none => entries
      | some evicted => evictFor config key bytes fuel (entries.erase evicted)
    else entries

def CacheEntries.live (entries : CacheEntries) (now : Nat) : CacheEntries :=
  entries.retain fun _ cached => now < cached.staleUntil

def storeCachedResponse (config : CacheConfig) (cache : ResponseCache)
    (key : String) (cached : CachedResponse) (now : Nat) : ResponseCache :=
  let live := cache.entries.live now
  if config.responseCacheMaxBytes < cached.body.length then { cache with entries := live }
  else
    let kept := evictFor config key cached.body.length live.size live
    { cache with entries := kept.insert key cached }

def purgeEntries (entries : CacheEntries) : Option String → CacheEntries
  | some tag => entries.retain fun _ cached => !cached.tags.contains tag
  | none => ∅

def purgeCachedResponses (cache : ResponseCache) (tag : Option String) : ResponseCache × Nat :=
  let kept := purgeEntries cache.entries tag
  ({ cache with entries := kept }, cache.entries.size - kept.size)

def applyInvalidations (cache : ResponseCache) (purgeAll : Bool)
    (tags : List String) : ResponseCache :=
  if purgeAll then { cache with entries := ∅ } else if tags.isEmpty then cache
  else
    { cache with
      entries := cache.entries.retain fun _ cached =>
        tags.all fun tag => !cached.tags.contains tag }

structure CacheState where
  cache : ResponseCache
  /-- Keys that a lookup found expired and has not removed yet. -/
  expired : List String

def CacheState.initial : CacheState where
  cache := .empty
  expired := []

inductive CacheLabel where
  | store (key : String) (cached : CachedResponse) (now : Nat)
  | lookup (key : String) (allowStale : Bool) (now : Nat)
  | removeExpired (key : String)
  | purge (tag : Option String)
  | invalidate (purgeAll : Bool) (tags : List String)

def cacheNext (config : CacheConfig) (state : CacheState) : CacheLabel → Option CacheState
  | .store key cached now =>
    if config.enabled then
      some { state with cache := storeCachedResponse config state.cache key cached now }
    else none
  | .lookup key allowStale now =>
    match cachedResponse state.cache key allowStale now with
    | (cache, .expired) => some { cache := cache, expired := key :: state.expired }
    | (cache, _) => some { state with cache := cache }
  | .removeExpired key =>
    if key ∈ state.expired then
      some {
        cache := removeExpired state.cache key
        expired := state.expired.erase key }
    else none
  | .purge tag => some { state with cache := (purgeCachedResponses state.cache tag).1 }
  | .invalidate purgeAll tags =>
    some { state with cache := applyInvalidations state.cache purgeAll tags }

def cacheMachine (config : CacheConfig) : Machine CacheState CacheLabel where
  start := .initial
  next := cacheNext config

def WithinBounds (config : CacheConfig) (state : CacheState) : Prop :=
  state.cache.entries.size ≤ config.responseCacheMaxEntries ∧
    state.cache.entries.bytes ≤ config.responseCacheMaxBytes

/-- A store under a key that is still present fits beside the other live
entries, or has a body no store accepts. -/
def FitsInPlace (config : CacheConfig) (state : CacheState) : CacheLabel → Prop
  | .store key cached now => key ∈ state.cache.entries.live now →
    cached.body.length ≤ config.responseCacheMaxBytes →
    CacheEntries.bytes ((state.cache.entries.live now).erase key) +
      cached.body.length ≤ config.responseCacheMaxBytes
  | _ => True

variable {entries : CacheEntries}

theorem CacheEntries.leastRecent_mem (found : entries.leastRecent = some key) : key ∈ entries := by
  obtain ⟨entry, least, rfl⟩ := Option.map_eq_some_iff.mp found
  exact mem_map_of_mem (argmin_mem least)

theorem CacheEntries.leastRecent_eq_none
    (missing : entries.leastRecent = none) : entries.size = 0 := by
  rw [CacheEntries.leastRecent, Option.map_eq_none_iff, argmin_eq_none] at missing
  rw [size, missing]
  rfl

theorem evictFor_sublist (entries : CacheEntries) :
    (evictFor config key bytes fuel entries).entries.Sublist entries.entries := by
  induction fuel generalizing entries with
  | zero => exact List.Sublist.refl _
  | succ fuel induction =>
    unfold evictFor
    split
    · split
      · exact List.Sublist.refl _
      · exact (induction _).trans (kerase_sublist _ _)
    · exact List.Sublist.refl _

theorem evictFor_of_mem (present : key ∈ entries) :
    evictFor config key bytes fuel entries = entries := by
  cases fuel with
  | zero => rfl
  | succ fuel => simp [evictFor, CacheEntries.mustEvict, present]

theorem evictFor_of_not_mem (absent : key ∉ entries) (enough : entries.size ≤ fuel) :
    (evictFor config key bytes fuel entries).size = 0 ∨
      ((evictFor config key bytes fuel entries).size < config.responseCacheMaxEntries ∧
        (evictFor config key bytes fuel entries).bytes + bytes ≤ config.responseCacheMaxBytes) := by
  induction fuel generalizing entries with
  | zero => exact .inl (Nat.le_zero.mp enough)
  | succ fuel induction =>
    unfold evictFor
    split
    · cases found : entries.leastRecent with
      | none => exact .inl (CacheEntries.leastRecent_eq_none found)
      | some evicted =>
        have smaller := size_erase_of_mem (CacheEntries.leastRecent_mem found)
        apply induction
        · rw [AList.mem_erase]
          exact fun both => absent both.2
        · omega
    next fits =>
    right
    simp only [CacheEntries.mustEvict, absent, decide_false,
      Bool.not_false, Bool.true_and, Bool.or_eq_true,
      decide_eq_true_eq, not_or, not_le, not_lt] at fits
    exact fits

theorem CacheEntries.bytes_insert : CacheEntries.bytes (entries.insert key cached) =
      cached.body.length + CacheEntries.bytes (entries.erase key) := weight_insert _

theorem CacheEntries.bytes_retain_le :
    CacheEntries.bytes (entries.retain keep) ≤ entries.bytes := weight_retain_le _

theorem CacheEntries.bytes_touch : CacheEntries.bytes (entries.modify key fun cached =>
      { cached with lastAccess := clock }) = entries.bytes := by
  apply weight_modify
  intro cached
  rfl

theorem bounds_insert_evicted (absent : key ∉ live)
    (accepted : cached.body.length ≤ config.responseCacheMaxBytes)
    (positive : config.responseCacheMaxEntries ≠ 0) :
    let kept := evictFor config key cached.body.length live.size live
    size (kept.insert key cached) ≤ config.responseCacheMaxEntries ∧
      CacheEntries.bytes (kept.insert key cached) ≤ config.responseCacheMaxBytes := by
  intro kept
  have smaller := size_erase_le kept key
  have lighter : CacheEntries.bytes (kept.erase key) ≤ kept.bytes := weight_erase_le _
  rw [CacheEntries.bytes_insert, size_insert]
  have ended : kept.size = 0 ∨ (kept.size < config.responseCacheMaxEntries ∧
        kept.bytes + cached.body.length ≤ config.responseCacheMaxBytes) :=
    evictFor_of_not_mem absent le_rfl
  rcases ended with empty | ⟨fewer, fits⟩
  · have weightless : kept.bytes = 0 := weight_of_size_eq_zero _ empty
    omega
  · omega

theorem storeCachedResponse_of_mem (present : key ∈ cache.entries.live now)
    (accepted : cached.body.length ≤ config.responseCacheMaxBytes) :
    storeCachedResponse config cache key cached now =
      { cache with entries := (cache.entries.live now).insert key cached } := by
  simp [storeCachedResponse, Nat.not_lt.mpr accepted, evictFor_of_mem present]

theorem withinBounds_of_le (bounded : WithinBounds config state)
    (size : target.cache.entries.size ≤ state.cache.entries.size)
    (bytes : target.cache.entries.bytes ≤ state.cache.entries.bytes) : WithinBounds config target :=
  ⟨size.trans bounded.1, bytes.trans bounded.2⟩

theorem withinBounds_initial : WithinBounds config .initial := ⟨Nat.zero_le _, Nat.zero_le _⟩

theorem CacheConfig.positive {config : CacheConfig} (enabled : config.enabled = true) :
    config.responseCacheMaxEntries ≠ 0 := by
  simp only [CacheConfig.enabled, Bool.and_eq_true, bne_iff_ne] at enabled
  exact enabled.1.1

theorem size_storeCachedResponse_le (enabled : config.enabled = true)
    (bounded : cache.entries.size ≤ config.responseCacheMaxEntries) :
    (storeCachedResponse config cache key cached now).entries.size ≤
      config.responseCacheMaxEntries := by
  have fewer : (cache.entries.live now).size ≤ cache.entries.size := size_retain_le _
  by_cases accepted : cached.body.length ≤ config.responseCacheMaxBytes
  · by_cases present : key ∈ cache.entries.live now
    · rw [storeCachedResponse_of_mem present accepted]
      simp only [size_insert, size_erase_of_mem present]
      exact fewer.trans bounded
    · simp only [storeCachedResponse, Nat.not_lt.mpr accepted]
      exact (bounds_insert_evicted present accepted (CacheConfig.positive enabled)).1
  · simp only [storeCachedResponse, Nat.not_le.mp accepted]
    exact fewer.trans bounded

theorem withinBounds_store (bounded : WithinBounds config state) (enabled : config.enabled = true)
    (fits : FitsInPlace config state (.store key cached now)) : WithinBounds config { state with
      cache := storeCachedResponse config state.cache key cached now } := by
  refine ⟨size_storeCachedResponse_le enabled bounded.1, ?_⟩
  have lighter : (state.cache.entries.live now).bytes ≤ state.cache.entries.bytes :=
    CacheEntries.bytes_retain_le
  by_cases accepted : cached.body.length ≤ config.responseCacheMaxBytes
  · by_cases present : key ∈ state.cache.entries.live now
    · rw [storeCachedResponse_of_mem present accepted]
      simp only [CacheEntries.bytes_insert]
      have others := fits present accepted
      omega
    · simp only [storeCachedResponse, Nat.not_lt.mpr accepted]
      exact (bounds_insert_evicted present accepted (CacheConfig.positive enabled)).2
  · simp only [storeCachedResponse, Nat.not_le.mp accepted]
    exact lighter.trans bounded.2

theorem bounds_cachedResponse (cache : ResponseCache) (key : String) (allowStale : Bool)
    (now : Nat) : (cachedResponse cache key allowStale now).1.entries.size = cache.entries.size ∧
      (cachedResponse cache key allowStale now).1.entries.bytes = cache.entries.bytes := by
  unfold cachedResponse
  split
  · exact ⟨rfl, rfl⟩
  split
  · exact ⟨size_modify, CacheEntries.bytes_touch⟩
  split <;> exact ⟨rfl, rfl⟩

theorem withinBounds_lookup (bounded : WithinBounds config state)
    (step : cacheNext config state (.lookup key allowStale now) =
      some target) : WithinBounds config target := by
  obtain ⟨size, bytes⟩ := bounds_cachedResponse state.cache key allowStale now
  simp only [cacheNext] at step
  split at step
  next found =>
    cases step
    rw [found] at size bytes
    exact withinBounds_of_le bounded size.le bytes.le
  next found =>
  cases step
  rw [found] at size bytes
  exact withinBounds_of_le bounded size.le bytes.le

theorem withinBounds_step (bounded : WithinBounds config state)
    (fits : FitsInPlace config state label) (step : cacheNext config state label = some target) :
    WithinBounds config target := by
  cases label with
  | store key cached now =>
    simp only [cacheNext] at step
    split at step
    next enabled =>
      cases step
      exact withinBounds_store bounded enabled fits
    · cases step
  | lookup key allowStale now => exact withinBounds_lookup bounded step
  | removeExpired key =>
    simp only [cacheNext] at step
    split at step
    · cases step
      exact withinBounds_of_le bounded (size_erase_le _ _) (weight_erase_le _)
    · cases step
  | purge tag =>
    cases step
    cases tag with
    | none => exact ⟨Nat.zero_le _, Nat.zero_le _⟩
    | some tag => exact withinBounds_of_le bounded (size_retain_le _) CacheEntries.bytes_retain_le
  | invalidate purgeAll tags =>
    cases step
    unfold applyInvalidations
    split
    · exact ⟨Nat.zero_le _, Nat.zero_le _⟩
    split
    · exact bounded
    · exact withinBounds_of_le bounded (size_retain_le _) CacheEntries.bytes_retain_le

theorem not_withinBounds_step (unfit : ¬ FitsInPlace config state label)
    (step : cacheNext config state label = some target) : ¬ WithinBounds config target := by
  cases label with
  | store key cached now =>
    simp only [FitsInPlace, Classical.not_imp] at unfit
    obtain ⟨present, accepted, exceeds⟩ := unfit
    simp only [cacheNext] at step
    split at step
    · cases step
      rw [storeCachedResponse_of_mem present accepted]
      rintro ⟨_, bytes⟩
      simp only [CacheEntries.bytes_insert] at bytes
      omega
    · cases step
  | _ => exact absurd trivial unfit

theorem withinBounds_visited_iff (config : CacheConfig) (labels : List CacheLabel) :
    (∀ state ∈ (cacheMachine config).visited .initial labels, WithinBounds config state) ↔
      ∀ transition ∈ (cacheMachine config).transitions .initial labels,
        FitsInPlace config transition.source transition.label :=
  (cacheMachine config).visited_iff_guarded (WithinBounds config)
    (FitsInPlace config) (WithinBounds config) (fun bounded => bounded)
    withinBounds_step (fun _ unfit step => not_withinBounds_step unfit step)
    withinBounds_initial labels

def tenByteCache : CacheConfig where
  responseCacheMaxEntries := 4
  responseCacheMaxBytes := 10
  responseCacheTtlMs := 1000
  responseCacheStaleWhileRevalidateMs := 5000

def okResponse (bytes now lastAccess : Nat) : CachedResponse where
  status := 200
  headers := []
  body := List.replicate bytes 0
  expiresAt := now + 1000
  staleUntil := now + 6000
  lastAccess := lastAccess
  tags := []
  startedAt := 0

def restoreStale : List CacheLabel :=
  [.store "a" (okResponse 6 0 0) 0, .store "b" (okResponse 1 0 1) 0,
    .store "b" (okResponse 10 2000 2) 2000]

theorem restored_entry_exceeds_bytes : ¬ ∀ (config : CacheConfig) (labels : List CacheLabel),
      ∀ state ∈ (cacheMachine config).visited .initial labels, WithinBounds config state := by
  intro always
  have bounded := always tenByteCache restoreStale _ (Machine.finish_mem_visited _ _ _)
  have bytes := bounded.2
  exact absurd bytes (by decide)

end Pam.Server
