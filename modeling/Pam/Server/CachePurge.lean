import Pam.Server.ResponseCache

namespace Pam.Server

open Pam.Foundation List Option Table

/-! Cacheable requests of `http_dispatch` and purge requests on one worker. -/

structure PhpHttpResponse where
  status : Nat
  headers : List (String × String)
  body : List UInt8
  deriving DecidableEq

def isHeaderText (value : String) : Bool := value.toList.all fun character =>
    character == '\t' || (32 ≤ character.toNat && character.toNat < 127)

def splitHeader (separator : Char → Bool) (value : String) : List (List Char) :=
  value.toList.splitOnP separator

def isBlank (character : Char) : Bool := character == ' ' || character == '\t'

def trimBlank (characters : List Char) : List Char :=
  ((characters.dropWhile isBlank).reverse.dropWhile isBlank).reverse

def cacheableResponse (response : PhpHttpResponse) : Bool :=
  let forbids (directive : List Char) : Bool :=
    let name := (trimBlank directive).map Char.toLower
    name == "private".toList || name == "no-store".toList
  response.status == 200 && (response.headers.lookup "set-cookie").isNone &&
    !match response.headers.lookup "cache-control" with
      | none => false
      | some value => isHeaderText value && (splitHeader (· == ',') value).any forbids

def validCacheTag (tag : String) : Bool :=
  !tag.isEmpty && tag.utf8ByteSize ≤ 64 && tag.toList.all fun character =>
      character.isAlphanum || character == '-' || character == '_' ||
        character == '.' || character == ':' || character == '/'

/-- The response without its tag header, and the tags; a configured name that
is no header name is `none`. -/
def extractCacheTags (tagHeader : Option String) (response : PhpHttpResponse) :
    PhpHttpResponse × List String :=
  match tagHeader with
  | none => (response, [])
  | some header =>
    let values := (response.headers.filter fun entry =>
      entry.1 == header && isHeaderText entry.2).map Prod.snd
    let candidates := values.flatMap fun value =>
      (splitHeader (fun character => character == ',' || isBlank character) value).map String.ofList
    ({ response with headers := response.headers.filter fun entry => entry.1 != header },
      (candidates.filter validCacheTag).take 32)

structure PurgePayload where
  all : Option Bool
  tag : Option String

structure PurgeRequest where
  method : String
  authorization : Option String
  payload : Option PurgePayload

structure PurgeConfig where
  cache : CacheConfig
  tagHeader : Option String
  purgeSecret : Option String
  /-- `constant_time_token_eq`: the comparison of the two digests. -/
  tokenEq : String → String → Bool

def bearerToken (value : String) : Option String := if "Bearer ".toList.isPrefixOf value.toList then
    some (String.ofList (value.toList.drop 7))
  else none

/-- What `handle_cache_purge` is asked to purge, or its error answer. -/
def purgeTarget (config : PurgeConfig) (request : PurgeRequest) :
    Except (Nat × String) (Option String) :=
  if request.method ≠ "POST" then .error (405, "cache purge requires POST")
  else
    match config.purgeSecret with
    | none => .error (404, "cache purge is disabled")
    | some secret =>
      let supplied := request.authorization.bind bearerToken
      if !supplied.any (config.tokenEq secret) then .error (401, "invalid cache purge credentials")
      else
        match request.payload with
        | none => .error (400, "invalid purge JSON payload")
        | some payload =>
          let all := payload.all == some true
          if all == payload.tag.isSome || payload.tag.any (fun tag => !validCacheTag tag) then
            .error (400, "provide either all=true or one valid cache tag")
          else .ok payload.tag

inductive AfterLookup where
  | lock
  | wait
  | execute
  deriving DecidableEq

inductive CacheStage where
  | lookup
  | removing (next : AfterLookup)
  | lock
  | staleLookup
  | wait
  | collapsedLookup
  | execute
  | executing (startedAt : Nat)
  | storing (cached : CachedResponse)
  | served (cached : CachedResponse)
  | finished
  deriving DecidableEq

def AfterLookup.stage : AfterLookup → CacheStage
  | .lock => .lock
  | .wait => .wait
  | .execute => .execute

def CacheStage.returned : CacheStage → Bool
  | .served _ => true
  | .finished => true
  | _ => false

def CacheStage.toStore : CacheStage → Option CachedResponse
  | .storing cached => some cached
  | _ => none

structure CacheRequest where
  key : String
  stage : CacheStage
  deriving DecidableEq

/-- `purges` holds the targets of the purges of the cache so far, oldest first;
`none` is a purge of everything. -/
structure PurgeState where
  now : Nat
  cache : ResponseCache
  locks : String → Option Nat
  requests : List CacheRequest
  purges : List (Option String)

def PurgeState.initial : PurgeState where
  now := 0
  cache := .empty
  locks := fun _ => none
  requests := []
  purges := []

def PurgeState.moveTo (state : PurgeState) (number : Nat) (key : String)
    (stage : CacheStage) : PurgeState := { state with
    requests := state.requests.set number ⟨key, stage⟩
    locks := if stage.returned && state.locks key == some number then
        Function.update state.locks key none
      else state.locks }

def PurgeState.lookup (state : PurgeState) (number : Nat) (key : String)
    (allowStale : Bool) (next : AfterLookup) : PurgeState :=
  match cachedResponse state.cache key allowStale state.now with
  | (cache, .hit cached) => { state with cache := cache }.moveTo number key (.served cached)
  | (cache, .expired) => { state with cache := cache }.moveTo number key (.removing next)
  | (cache, .miss) => { state with cache := cache }.moveTo number key next.stage

def bufferedResponse (config : PurgeConfig) (now startedAt clock : Nat)
    (response : PhpHttpResponse) : Option CachedResponse :=
  let (response, tags) := extractCacheTags config.tagHeader response
  if cacheableResponse response then
    some {
      status := response.status
      headers := response.headers
      body := response.body
      expiresAt := now + config.cache.responseCacheTtlMs
      staleUntil := now + min (config.cache.responseCacheTtlMs +
        config.cache.responseCacheStaleWhileRevalidateMs) (2 ^ 64 - 1)
      lastAccess := clock
      tags := tags
      startedAt := startedAt }
  else none

inductive PurgeLabel where
  | tick (elapsed : Nat)
  | arrive (key : String)
  | lookup (request : Nat)
  | removeExpired (request : Nat)
  | lock (request : Nat)
  | acquire (request : Nat)
  | startPhp (request : Nat)
  | respond (request : Nat) (response : Option PhpHttpResponse)
  | store (request : Nat)
  | cancel (request : Nat)
  | purge (request : PurgeRequest) (published : Bool)
  | invalidate (purgeAll : Bool) (tags : List String)

def purgeNext (config : PurgeConfig) (state : PurgeState) : PurgeLabel → Option PurgeState
  | .tick elapsed => some { state with now := state.now + elapsed }
  | .arrive key =>
    if config.cache.enabled then some { state with requests := state.requests ++ [⟨key, .lookup⟩] }
    else none
  | .lookup number =>
    match state.requests[number]? with
    | some ⟨key, .lookup⟩ => some (state.lookup number key false .lock)
    | some ⟨key, .staleLookup⟩ => some (state.lookup number key true .wait)
    | some ⟨key, .collapsedLookup⟩ => some (state.lookup number key false .execute)
    | _ => none
  | .removeExpired number =>
    match state.requests[number]? with
    | some ⟨key, .removing next⟩ =>
      some ({ state with cache := removeExpired state.cache key }.moveTo number key next.stage)
    | _ => none
  | .lock number =>
    match state.requests[number]? with
    | some ⟨key, .lock⟩ =>
      if (state.locks key).isNone then
        some ({ state with
          locks := Function.update state.locks key (some number) }.moveTo number key .execute)
      else some (state.moveTo number key .staleLookup)
    | _ => none
  | .acquire number =>
    match state.requests[number]? with
    | some ⟨key, .wait⟩ =>
      if (state.locks key).isNone then
        some ({ state with locks := Function.update state.locks key (some number) }.moveTo
            number key .collapsedLookup)
      else none
    | _ => none
  | .startPhp number =>
    match state.requests[number]? with
    | some ⟨key, .execute⟩ => some (state.moveTo number key (.executing state.purges.length))
    | _ => none
  | .respond number response =>
    match state.requests[number]?, response with
    | some ⟨key, .executing startedAt⟩, some response =>
      match bufferedResponse config state.now startedAt state.cache.clock response with
      | none => some (state.moveTo number key .finished)
      | some cached => some ({ state with
          cache := { state.cache with clock := state.cache.clock + 1 }
          }.moveTo number key (.storing cached))
    | some ⟨key, .executing _⟩, none => some (state.moveTo number key .finished)
    | _, _ => none
  | .store number =>
    match state.requests[number]? with
    | some ⟨key, .storing cached⟩ => some ({ state with
        cache := storeCachedResponse config.cache state.cache key cached
          state.now }.moveTo number key .finished)
    | _ => none
  | .cancel number =>
    match state.requests[number]? with
    | some ⟨key, stage⟩ =>
      if stage.returned then none else some (state.moveTo number key .finished)
    | none => none
  | .purge request published =>
    match purgeTarget config request with
    | .error _ => some state
    | .ok tag =>
      if published then
        some { state with
          cache := (purgeCachedResponses state.cache tag).1
          purges := state.purges ++ [tag] }
      else some state
  | .invalidate purgeAll tags =>
    some { state with cache := applyInvalidations state.cache purgeAll tags }

def purgeMachine (config : PurgeConfig) : Machine PurgeState PurgeLabel where
  start := .initial
  next := purgeNext config

inductive LooksUp : CacheStage → Bool → AfterLookup → Prop where
  | first : LooksUp .lookup false .lock
  | stale : LooksUp .staleLookup true .wait
  | collapsed : LooksUp .collapsedLookup false .execute

inductive PurgeStep (config : PurgeConfig) (state : PurgeState) :
    PurgeLabel → PurgeState → Prop where
  | tick (elapsed : Nat) : PurgeStep config state (.tick elapsed)
        { state with now := state.now + elapsed }
  | arrive (key : String) : PurgeStep config state (.arrive key)
        { state with requests := state.requests ++ [⟨key, .lookup⟩] }
  | lookup {number : Nat} {key : String} {stage : CacheStage}
      {allowStale : Bool} {next : AfterLookup} (found : state.requests[number]? = some ⟨key, stage⟩)
      (looks : LooksUp stage allowStale next) : PurgeStep config state (.lookup number)
        (state.lookup number key allowStale next)
  | removeExpired {number : Nat} {key : String} {next : AfterLookup}
      (found : state.requests[number]? = some ⟨key, .removing next⟩) :
      PurgeStep config state (.removeExpired number)
        ({ state with cache := removeExpired state.cache key }.moveTo number key next.stage)
  | lockFree {number : Nat} {key : String} (found : state.requests[number]? = some ⟨key, .lock⟩)
      (free : state.locks key = none) : PurgeStep config state (.lock number) ({ state with
          locks := Function.update state.locks key (some number) }.moveTo number key .execute)
  | lockHeld {number : Nat} {key : String} (found : state.requests[number]? = some ⟨key, .lock⟩) :
      PurgeStep config state (.lock number) (state.moveTo number key .staleLookup)
  | acquire {number : Nat} {key : String} (found : state.requests[number]? = some ⟨key, .wait⟩)
      (free : state.locks key = none) : PurgeStep config state (.acquire number) ({ state with
          locks := Function.update state.locks key (some number) }.moveTo
            number key .collapsedLookup)
  | startPhp {number : Nat} {key : String}
      (found : state.requests[number]? = some ⟨key, .execute⟩) :
      PurgeStep config state (.startPhp number)
        (state.moveTo number key (.executing state.purges.length))
  | drop {number : Nat} {key : String} {startedAt : Nat} {response : Option PhpHttpResponse}
      (found : state.requests[number]? = some ⟨key, .executing startedAt⟩)
      (dropped : ∀ answer ∈ response, bufferedResponse config state.now
        startedAt state.cache.clock answer = none) :
      PurgeStep config state (.respond number response) (state.moveTo number key .finished)
  | buffer {number : Nat} {key : String} {startedAt : Nat}
      {response : PhpHttpResponse} {cached : CachedResponse}
      (found : state.requests[number]? = some ⟨key, .executing startedAt⟩)
      (buffered : bufferedResponse config state.now startedAt
        state.cache.clock response = some cached) :
      PurgeStep config state (.respond number (some response)) ({ state with
          cache := { state.cache with clock := state.cache.clock + 1 }
          }.moveTo number key (.storing cached))
  | store {number : Nat} {key : String} {cached : CachedResponse}
      (found : state.requests[number]? = some ⟨key, .storing cached⟩) :
      PurgeStep config state (.store number) ({ state with
          cache := storeCachedResponse config.cache state.cache key cached
            state.now }.moveTo number key .finished)
  | cancel {number : Nat} {key : String} {stage : CacheStage}
      (found : state.requests[number]? = some ⟨key, stage⟩) :
      PurgeStep config state (.cancel number) (state.moveTo number key .finished)
  | refuse (request : PurgeRequest) (published : Bool) :
      PurgeStep config state (.purge request published) state
  | purge (request : PurgeRequest) (tag : Option String) :
      PurgeStep config state (.purge request true) { state with
          cache := (purgeCachedResponses state.cache tag).1
          purges := state.purges ++ [tag] }
  | invalidate (purgeAll : Bool) (tags : List String) :
      PurgeStep config state (.invalidate purgeAll tags)
        { state with cache := applyInvalidations state.cache purgeAll tags }

variable {config : PurgeConfig} {state target : PurgeState} {label : PurgeLabel}

theorem purgeStep_of_next (step : purgeNext config state label = some target) :
    PurgeStep config state label target := by
  cases label with
  | tick elapsed =>
    cases step
    exact .tick elapsed
  | arrive key =>
    simp only [purgeNext] at step
    split at step <;> cases step
    exact .arrive key
  | lookup number =>
    simp only [purgeNext] at step
    split at step <;> cases step
    · next found => exact .lookup found .first
    · next found => exact .lookup found .stale
    · next found => exact .lookup found .collapsed
  | removeExpired number =>
    simp only [purgeNext] at step
    split at step <;> cases step
    next found => exact .removeExpired found
  | lock number =>
    simp only [purgeNext] at step
    split at step
    next found =>
      split at step <;> cases step
      · next free => exact .lockFree found (isNone_iff_eq_none.mp free)
      · exact .lockHeld found
    · cases step
  | acquire number =>
    simp only [purgeNext] at step
    split at step
    next found =>
      split at step <;> cases step
      next free => exact .acquire found (isNone_iff_eq_none.mp free)
    · cases step
  | startPhp number =>
    simp only [purgeNext] at step
    split at step <;> cases step
    next found => exact .startPhp found
  | respond number response =>
    simp only [purgeNext] at step
    split at step
    next found =>
      split at step <;> cases step
      next dropped =>
        refine .drop found ?_
        rintro answer ⟨⟩
        exact dropped
      · next buffered => exact .buffer found buffered
    next found =>
      cases step
      exact .drop found (by rintro answer ⟨⟩)
    · cases step
  | store number =>
    simp only [purgeNext] at step
    split at step <;> cases step
    next found => exact .store found
  | cancel number =>
    simp only [purgeNext] at step
    split at step
    next found =>
      split at step <;> cases step
      exact .cancel found
    · cases step
  | purge request published =>
    simp only [purgeNext] at step
    split at step
    · cases step
      exact .refuse request published
    next tag _ =>
    split at step <;> cases step
    next isPublished =>
      subst isPublished
      exact .purge request tag
    · exact .refuse request published
  | invalidate purgeAll tags =>
    cases step
    exact .invalidate purgeAll tags

def purgeHits (cached : CachedResponse) : Option String → Bool
  | none => true
  | some tag => cached.tags.contains tag

/-- A purge that hits the response came after the PHP execution that
produced the response started. -/
def Barred (purges : List (Option String)) (cached : CachedResponse) : Prop :=
  ∃ tag ∈ purges.drop cached.startedAt, purgeHits cached tag = true

def ServesUnbarred (state target : PurgeState) : Prop :=
  ∀ (number : Nat) (key : String) (cached : CachedResponse),
    target.requests[number]? = some ⟨key, .served cached⟩ →
    state.requests[number]? = some ⟨key, .served cached⟩ ∨ ¬ Barred state.purges cached

/-- A response is stored before any purge of the cache that hits it, unless its
body is too large to be stored. -/
def StoresUnbarred (config : PurgeConfig) (state : PurgeState) : PurgeLabel → Prop
  | .store number => ∀ request ∈ state.requests[number]?,
      ∀ cached ∈ request.stage.toStore, Barred state.purges cached →
        config.cache.responseCacheMaxBytes < cached.body.length
  | _ => True

instance (purges : List (Option String)) (cached : CachedResponse) :
    Decidable (Barred purges cached) :=
  inferInstanceAs (Decidable (∃ tag ∈ purges.drop cached.startedAt, purgeHits cached tag = true))

instance (config : PurgeConfig) (state : PurgeState) (label : PurgeLabel) :
    Decidable (StoresUnbarred config state label) := by
  unfold StoresUnbarred
  split <;> infer_instance

theorem storeCachedResponse_lookup {config : CacheConfig}
    (stored : (storeCachedResponse config cache key cached now).entries.lookup other = some found) :
    (other = key ∧ found = cached ∧ cached.body.length ≤ config.responseCacheMaxBytes) ∨
      cache.entries.lookup other = some found := by
  unfold storeCachedResponse at stored
  split at stored
  · exact .inr (lookup_of_lookup_retain stored).1
  next accepted =>
  rcases lookup_of_lookup_insert stored with ⟨here, same⟩ | ⟨_, kept⟩
  · exact .inl ⟨here, same, Nat.not_lt.mp accepted⟩
  right
  have live := (evictFor_sublist _).subset (AList.mem_lookup_iff.mp kept)
  exact (lookup_of_lookup_retain (AList.mem_lookup_iff.mpr live)).1

def SameResponse (cached earlier : CachedResponse) : Prop :=
  cached = { earlier with lastAccess := cached.lastAccess }

theorem cachedResponse_lookup
    (looked : (cachedResponse cache key allowStale now).1.entries.lookup other = some found) :
    ∃ earlier, cache.entries.lookup other = some earlier ∧ SameResponse found earlier := by
  unfold cachedResponse at looked
  split at looked
  · exact ⟨found, looked, rfl⟩
  split at looked
  · simp only [lookup_modify] at looked
    split at looked
    · obtain ⟨earlier, earlierFound, rfl⟩ := map_eq_some_iff.mp looked
      exact ⟨earlier, earlierFound, rfl⟩
    · exact ⟨found, looked, rfl⟩
  · split at looked
    · exact ⟨found, looked, rfl⟩
    · exact ⟨found, looked, rfl⟩

def ComesFrom (entries before : CacheEntries) : Prop :=
  ∀ key cached, entries.lookup key = some cached → ∃ earlier, before.lookup key = some earlier ∧
      cached.tags = earlier.tags ∧ cached.startedAt = earlier.startedAt

theorem ComesFrom.refl : ComesFrom entries entries :=
  fun _ cached found => ⟨cached, found, rfl, rfl⟩

theorem comesFrom_empty : ComesFrom ∅ before := by
  intro key cached found
  cases found

theorem comesFrom_retain : ComesFrom (before.retain keep) before :=
  fun _ cached found => ⟨cached, (lookup_of_lookup_retain found).1, rfl, rfl⟩

theorem comesFrom_erase : ComesFrom (before.erase key) before :=
  fun _ cached found => ⟨cached, (lookup_of_lookup_erase found).1, rfl, rfl⟩

theorem comesFrom_cachedResponse (cache : ResponseCache) (key : String)
    (allowStale : Bool) (now : Nat) :
    ComesFrom (cachedResponse cache key allowStale now).1.entries cache.entries := by
  intro other cached found
  obtain ⟨earlier, earlierFound, same⟩ := cachedResponse_lookup found
  rw [same]
  exact ⟨earlier, earlierFound, rfl, rfl⟩

theorem comesFrom_applyInvalidations :
    ComesFrom (applyInvalidations cache purgeAll tags).entries cache.entries := by
  unfold applyInvalidations
  split
  · exact comesFrom_empty
  split
  · exact .refl
  · exact comesFrom_retain

def NoneBarred (state : PurgeState) : Prop :=
  ∀ key cached, state.cache.entries.lookup key = some cached → ¬ Barred state.purges cached

theorem barred_congr (tags : cached.tags = other.tags)
    (startedAt : cached.startedAt = other.startedAt) :
    Barred purges cached ↔ Barred purges other := by
  have hits : purgeHits cached = purgeHits other := by
    funext tag
    cases tag with
    | none => rfl
    | some tag => simp [purgeHits, tags]
  simp [Barred, startedAt, hits]

theorem noneBarred_of_comesFrom (clean : NoneBarred state) (purges : target.purges = state.purges)
    (comesFrom : ComesFrom target.cache.entries state.cache.entries) : NoneBarred target := by
  intro key cached found
  obtain ⟨earlier, earlierFound, tags, startedAt⟩ := comesFrom key cached found
  rw [purges, barred_congr tags startedAt]
  exact clean key earlier earlierFound

theorem purgeEntries_lookup (found : (purgeEntries entries tag).lookup key = some cached) :
    entries.lookup key = some cached ∧ purgeHits cached tag = false := by
  cases tag with
  | none =>
    cases found
  | some tag =>
    obtain ⟨earlier, missed⟩ := lookup_of_lookup_retain found
    simp only [Bool.not_eq_true'] at missed
    exact ⟨earlier, missed⟩

theorem noneBarred_purge (clean : NoneBarred state) : NoneBarred { state with
      cache := (purgeCachedResponses state.cache tag).1
      purges := state.purges ++ [tag] } := by
  intro key cached found
  obtain ⟨earlier, missed⟩ := purgeEntries_lookup found
  rintro ⟨purged, member, hits⟩
  rw [drop_append] at member
  rcases mem_append.mp member with before | last
  · exact clean key cached earlier ⟨purged, before, hits⟩
  have same := mem_singleton.mp (mem_of_mem_drop last)
  rw [same, missed] at hits
  cases hits

theorem noneBarred_initial : NoneBarred PurgeState.initial := by
  intro key cached found
  simp [PurgeState.initial, ResponseCache.empty] at found

theorem servesUnbarred_of_requests (same : target.requests = state.requests) :
    ServesUnbarred state target := by
  intro number key cached served
  rw [same] at served
  exact .inl served

theorem servesUnbarred_moveTo (moved : target.requests = state.requests.set number ⟨key, stage⟩)
    (unbarred : ∀ cached, stage = .served cached →
      ¬ Barred state.purges cached) : ServesUnbarred state target := by
  intro other otherKey cached served
  rw [moved, getElem?_set] at served
  split at served
  · split at served
    · cases served
      exact .inr (unbarred cached rfl)
    · cases served
  · exact .inl served

theorem cachedResponse_hit (hit : (cachedResponse cache key allowStale now).2 = .hit cached) :
    cache.entries.lookup key = some cached := by
  unfold cachedResponse at hit
  split at hit
  · cases hit
  next found =>
  split at hit
  · cases hit
    exact found
  split at hit <;> cases hit

section

variable (clean : NoneBarred state)
include clean

theorem lookup_step {next : AfterLookup} : NoneBarred (state.lookup number key allowStale next) ∧
      ServesUnbarred state (state.lookup number key allowStale next) := by
  have comesFrom := comesFrom_cachedResponse state.cache key allowStale state.now
  unfold PurgeState.lookup
  split
  next cached looked =>
    have found := cachedResponse_hit (congrArg Prod.snd looked)
    rw [looked] at comesFrom
    refine ⟨noneBarred_of_comesFrom clean rfl comesFrom, servesUnbarred_moveTo rfl ?_⟩
    intro served same
    cases same
    exact clean key cached found
  next looked =>
    rw [looked] at comesFrom
    exact ⟨noneBarred_of_comesFrom clean rfl comesFrom, servesUnbarred_moveTo rfl (by simp)⟩
  next looked =>
  rw [looked] at comesFrom
  refine ⟨noneBarred_of_comesFrom clean rfl comesFrom, servesUnbarred_moveTo rfl ?_⟩
  cases next <;> simp [AfterLookup.stage]

theorem store_step (storing : state.requests[number]? = some ⟨key, .storing cached⟩)
    (guarded : StoresUnbarred config state (.store number)) : NoneBarred ({ state with
      cache := storeCachedResponse config.cache state.cache key cached
        state.now }.moveTo number key .finished) := by
  intro other found stored
  rcases storeCachedResponse_lookup stored with ⟨_, rfl, accepted⟩ | earlier
  · intro barred
    have refused := guarded _ storing found rfl barred
    omega
  · exact clean other found earlier

theorem move_step (unserved : ∀ cached, stage ≠ .served cached)
    (moved : target.requests = state.requests.set number ⟨key, stage⟩)
    (purges : target.purges = state.purges)
    (comesFrom : ComesFrom target.cache.entries state.cache.entries) :
    NoneBarred target ∧ ServesUnbarred state target :=
  ⟨noneBarred_of_comesFrom clean purges comesFrom,
    servesUnbarred_moveTo moved fun cached same => absurd same (unserved cached)⟩

theorem purge_step (guarded : StoresUnbarred config state label)
    (step : purgeNext config state label = some target) :
    NoneBarred target ∧ ServesUnbarred state target := by
  cases purgeStep_of_next step with
  | tick elapsed | refuse request published => exact ⟨clean, servesUnbarred_of_requests rfl⟩
  | arrive key =>
    refine ⟨clean, ?_⟩
    intro number other cached served
    rw [getElem?_append] at served
    split at served
    · exact .inl served
    · rw [getElem?_singleton] at served
      split at served <;> cases served
  | lookup found looks => exact lookup_step clean
  | @removeExpired number key next found =>
    refine move_step clean ?_ rfl rfl comesFrom_erase
    cases next <;> simp [AfterLookup.stage]
  | lockFree found free | lockHeld found | acquire found free
  | startPhp found | drop found dropped | buffer found buffered
  | cancel found => exact move_step clean (by simp) rfl rfl (.refl)
  | store found => exact ⟨store_step clean found guarded, servesUnbarred_moveTo rfl (by simp)⟩
  | purge request tag => exact ⟨noneBarred_purge clean, servesUnbarred_of_requests rfl⟩
  | invalidate purgeAll tags =>
    exact ⟨noneBarred_of_comesFrom clean rfl comesFrom_applyInvalidations,
      servesUnbarred_of_requests rfl⟩

end

theorem requests_moveTo (found : (state.moveTo number key stage).requests[other]? = some request) :
    (other = number ∧ request = ⟨key, stage⟩) ∨
      other ≠ number ∧ state.requests[other]? = some request := by
  simp only [PurgeState.moveTo, getElem?_set] at found
  split at found
  next same =>
    split at found
    · exact .inl ⟨same.symm, (some.inj found).symm⟩
    · cases found
  · next different => exact .inr ⟨fun same => different same.symm, found⟩

theorem cache_lookup {next : AfterLookup} : (state.lookup number key allowStale next).cache =
      (cachedResponse state.cache key allowStale state.now).1 := by
  unfold PurgeState.lookup
  split <;> next looked => rw [looked]; rfl

theorem PurgeStep.entry (step : PurgeStep config state label target)
    (found : target.cache.entries.lookup key = some cached) :
    (∃ earlier, state.cache.entries.lookup key = some earlier ∧ SameResponse cached earlier) ∨
    ∃ number, label = .store number ∧ state.requests[number]? = some ⟨key, .storing cached⟩ := by
  cases step with
  | tick elapsed | arrive key | lockFree request free | lockHeld request
  | acquire request free | startPhp request | drop request dropped
  | buffer request buffered | cancel request | refuse request published =>
    exact .inl ⟨cached, found, rfl⟩
  | @lookup number other stage allowStale next request looks =>
    rw [cache_lookup] at found
    exact .inl (cachedResponse_lookup found)
  | removeExpired request => exact .inl ⟨cached, (lookup_of_lookup_erase found).1, rfl⟩
  | @store number other stored request =>
    rcases storeCachedResponse_lookup found with ⟨rfl, rfl, _⟩ | earlier
    · exact .inr ⟨number, rfl, request⟩
    · exact .inl ⟨cached, earlier, rfl⟩
  | purge request tag => exact .inl ⟨cached, (purgeEntries_lookup found).1, rfl⟩
  | invalidate purgeAll tags =>
    simp only [applyInvalidations] at found
    split at found
    · cases found
    split at found
    · exact .inl ⟨cached, found, rfl⟩
    · exact .inl ⟨cached, (lookup_of_lookup_retain found).1, rfl⟩

theorem servesUnbarred_transitions (config : PurgeConfig) (labels : List PurgeLabel)
    (guarded : ∀ transition ∈ (purgeMachine config).transitions .initial labels,
      StoresUnbarred config transition.source transition.label) :
    ∀ transition ∈ (purgeMachine config).transitions .initial labels,
      ServesUnbarred transition.source transition.target :=
  (purgeMachine config).transitions_of_guarded NoneBarred
    (StoresUnbarred config) (fun state _ target => ServesUnbarred state target)
    purge_step noneBarred_initial guarded

def purgeExampleConfig : PurgeConfig where
  cache := tenByteCache
  tagHeader := some "cache-tag"
  purgeSecret := some "s"
  tokenEq := fun expected supplied => expected == supplied

def purgeAll : PurgeRequest where
  method := "POST"
  authorization := some "Bearer s"
  payload := some { all := some true, tag := none }

def emptyOk : PhpHttpResponse where
  status := 200
  headers := []
  body := []

/-- The purge comes while the PHP execution runs. -/
def purgedWhileExecuting : List PurgeLabel :=
  [.arrive "k", .lookup 0, .lock 0, .startPhp 0, .purge purgeAll true,
    .respond 0 (some emptyOk), .store 0, .arrive "k", .lookup 1]

/-- The purge comes before the PHP execution starts. -/
def purgedBeforeExecution : List PurgeLabel :=
  [.purge purgeAll true, .arrive "k", .lookup 0, .lock 0, .startPhp 0,
    .respond 0 (some emptyOk), .store 0, .arrive "k", .lookup 1]

theorem servesUnbarred_purgedBeforeExecution :
    (∀ transition ∈ (purgeMachine purgeExampleConfig).transitions .initial purgedBeforeExecution,
        StoresUnbarred purgeExampleConfig transition.source transition.label) ∧
      ∀ transition ∈ (purgeMachine purgeExampleConfig).transitions .initial purgedBeforeExecution,
        ServesUnbarred transition.source transition.target := by
  have guarded : ∀ transition ∈ (purgeMachine purgeExampleConfig).transitions .initial
        purgedBeforeExecution,
      StoresUnbarred purgeExampleConfig transition.source transition.label := by
    decide
  exact ⟨guarded, servesUnbarred_transitions purgeExampleConfig purgedBeforeExecution guarded⟩

theorem purged_response_served : ¬ ∀ (config : PurgeConfig) (labels : List PurgeLabel),
      ∀ transition ∈ (purgeMachine config).transitions .initial labels,
        ServesUnbarred transition.source transition.target := by
  intro always
  have member := mem_of_getElem? (l := (purgeMachine purgeExampleConfig).transitions .initial
      purgedWhileExecuting) (i := 8) rfl
  have served := always _ _ _ member 1 "k" ⟨200, [], [], 1000, 6000, 1, [], 0⟩ (by decide)
  rcases served with before | unbarred
  · exact absurd before (by decide)
  · exact unbarred ⟨none, by decide, rfl⟩

end Pam.Server
