import Pam.Server.CachePurge

namespace Pam.Server

open List Option Function

/-! One PHP execution for each key at a time: the lock that `http_dispatch` takes
between a miss and the execution. -/

def CacheStage.holdsLock : CacheStage → Bool
  | .removing .execute => true
  | .collapsedLookup => true
  | .execute => true
  | .executing _ => true
  | .storing _ => true
  | _ => false

def CacheStage.aboutToExecute : CacheStage → Bool
  | .removing .execute => true
  | .execute => true
  | _ => false

def NoFreshEntry (state : PurgeState) (key : String) : Prop :=
  ∀ cached ∈ state.cache.entries.lookup key, cached.expiresAt ≤ state.now

instance (state : PurgeState) (key : String) : Decidable (NoFreshEntry state key) :=
  inferInstanceAs (Decidable
    (∀ cached ∈ state.cache.entries.lookup key, cached.expiresAt ≤ state.now))

def StartsWithoutEntry (state : PurgeState) : PurgeLabel → Prop
  | .startPhp number => ∀ request ∈ state.requests[number]?, NoFreshEntry state request.key
  | _ => True

def LocksWithoutEntry (state : PurgeState) : PurgeLabel → Prop
  | .lock number => ∀ request ∈ state.requests[number]?, state.locks request.key = none →
      NoFreshEntry state request.key
  | _ => True

instance (state : PurgeState) (label : PurgeLabel) : Decidable (LocksWithoutEntry state label) := by
  unfold LocksWithoutEntry
  split <;> infer_instance

def HoldLocks (state : PurgeState) : Prop := ∀ (number : Nat) (request : CacheRequest),
    state.requests[number]? = some request →
      request.stage.holdsLock = true → state.locks request.key = some number

variable {state : PurgeState} {stage : CacheStage}

theorem locks_moveTo (held : state.locks other = some holder)
    (keeps : holder ≠ number ∨ stage.returned = false) :
    (state.moveTo number key stage).locks other = some holder := by
  simp only [PurgeState.moveTo]
  split
  next releases =>
    simp only [Bool.and_eq_true, beq_iff_eq] at releases
    obtain ⟨returned, own⟩ := releases
    rw [update_of_ne, held]
    rintro rfl
    rw [own, some.injEq] at held
    rcases keeps with other | going
    · exact other held.symm
    · rw [returned] at going
      cases going
  · exact held

theorem returned_eq_false_of_holdsLock (holds : stage.holdsLock = true) :
    stage.returned = false := by
  cases stage <;> first | rfl | cases holds

theorem holdLocks_moveTo {base : PurgeState}
    (others : ∀ (other : Nat) (request : CacheRequest), other ≠ number →
      base.requests[other]? = some request → request.stage.holdsLock = true →
          base.locks request.key = some other)
    (own : stage.holdsLock = true → base.locks key = some number) :
    HoldLocks (base.moveTo number key stage) := by
  intro other request found holds
  rcases requests_moveTo found with ⟨rfl, rfl⟩ | ⟨different, before⟩
  · exact locks_moveTo (own holds) (.inr (returned_eq_false_of_holdsLock holds))
  · exact locks_moveTo (others other request different before holds) (.inl different)

theorem HoldLocks.moveTo {base : PurgeState} (kept : HoldLocks state)
    (requests : base.requests = state.requests) (locks : base.locks = state.locks)
    (found : state.requests[number]? = some ⟨key, before⟩)
    (holds : stage.holdsLock = true → before.holdsLock = true) :
    HoldLocks (base.moveTo number key stage) := by
  apply holdLocks_moveTo
  · intro other request _ member holding
    rw [requests] at member
    rw [locks]
    exact kept other request member holding
  · intro holding
    rw [locks]
    exact kept number _ found (holds holding)

theorem HoldLocks.take (kept : HoldLocks state) {number : Nat} {key : String} {stage : CacheStage}
    (free : state.locks key = none) : HoldLocks ({ state with
      locks := update state.locks key (some number) }.moveTo number key stage) := by
  apply holdLocks_moveTo
  · intro other request _ member holding
    have held := kept other request member holding
    have different : request.key ≠ key := by
      intro same
      rw [same, free] at held
      cases held
    simp [update_of_ne different, held]
  · intro _
    exact update_self ..

theorem holdLocks_step (kept : HoldLocks state)
    (step : PurgeStep config state label target) : HoldLocks target := by
  cases step with
  | tick elapsed | refuse request published | purge request tag
  | invalidate purgeAll tags => exact kept
  | arrive key =>
    intro number request found holds
    simp only [getElem?_append] at found
    split at found
    · exact kept number request found holds
    rw [getElem?_singleton] at found
    split at found <;> cases found
    cases holds
  | @lookup number key stage allowStale next found looks =>
    unfold PurgeState.lookup
    split
    · exact kept.moveTo rfl rfl found (by simp [CacheStage.holdsLock])
    · refine kept.moveTo rfl rfl found ?_
      cases looks <;> simp [CacheStage.holdsLock]
    · refine kept.moveTo rfl rfl found ?_
      cases looks <;> simp [CacheStage.holdsLock, AfterLookup.stage]
  | @removeExpired number key next found =>
    refine kept.moveTo rfl rfl found ?_
    cases next <;> simp [CacheStage.holdsLock, AfterLookup.stage]
  | lockFree found free | acquire found free => exact kept.take free
  | lockHeld found | startPhp found | drop found dropped
  | buffer found buffered | store found | cancel found =>
    exact kept.moveTo rfl rfl found (by simp [CacheStage.holdsLock])

theorem PurgeStep.now_le (step : PurgeStep config state label target) : state.now ≤ target.now := by
  cases step with
  | tick elapsed => exact Nat.le_add_right _ _
  | lookup found looks =>
    unfold PurgeState.lookup
    split <;> exact Nat.le_refl _
  | _ => exact Nat.le_refl _

theorem noFreshEntry_step (none : NoFreshEntry state key)
    (step : PurgeStep config state label target)
    (unstored : ∀ number cached, label = .store number →
      state.requests[number]? ≠ some ⟨key, .storing cached⟩) : NoFreshEntry target key := by
  intro cached found
  rcases step.entry found with ⟨earlier, before, same⟩ | ⟨number, is, storing⟩
  · rw [same]
    exact Nat.le_trans (none earlier before) step.now_le
  · exact absurd storing (unstored number cached is)

theorem noFreshEntry_of_miss (missed : ∀ cached,
      (cachedResponse state.cache key false state.now).2 ≠ .hit cached) :
    NoFreshEntry state key := by
  intro cached found
  have entry : state.cache.entries.lookup key = some cached := found
  by_contra fresh
  apply missed cached
  have servable : cached.servable false state.now = true := by
    simp only [CachedResponse.servable, Bool.false_and, Bool.or_false, decide_eq_true_eq]
    omega
  simp [cachedResponse, entry, servable]

theorem PurgeStep.ready (step : PurgeStep config state label target)
    (found : target.requests[number]? = some request)
    (ready : request.stage.aboutToExecute = true) :
    (∃ before, state.requests[number]? = some ⟨request.key, before⟩ ∧
      before.aboutToExecute = true) ∨ (label = .lock number ∧ state.locks request.key = none ∧
      state.requests[number]? = some ⟨request.key, .lock⟩) ∨
    (label = .lookup number ∧ NoFreshEntry state request.key) := by
  cases step with
  | tick elapsed | refuse purge published | purge purge tag
  | invalidate purgeAll tags => exact .inl ⟨request.stage, found, ready⟩
  | arrive key =>
    simp only [getElem?_append] at found
    split at found
    · exact .inl ⟨request.stage, found, ready⟩
    rw [getElem?_singleton] at found
    split at found <;> cases found
    cases ready
  | @lookup moved key stage allowStale next before looks =>
    unfold PurgeState.lookup at found
    split at found
    case h_1 =>
      rcases requests_moveTo found with ⟨_, rfl⟩ | ⟨_, kept⟩
      · cases ready
      · exact .inl ⟨request.stage, kept, ready⟩
    case h_2 looked | h_3 looked =>
      rcases requests_moveTo found with ⟨rfl, rfl⟩ | ⟨_, kept⟩
      · cases looks <;> cases ready
        refine .inr (.inr ⟨rfl, noFreshEntry_of_miss ?_⟩)
        rw [looked]
        rintro cached ⟨⟩
      · exact .inl ⟨request.stage, kept, ready⟩
  | @removeExpired moved key next before =>
    rcases requests_moveTo found with ⟨rfl, rfl⟩ | ⟨_, kept⟩
    · cases next <;> cases ready
      exact .inl ⟨_, before, rfl⟩
    · exact .inl ⟨request.stage, kept, ready⟩
  | lockFree before free =>
    rcases requests_moveTo found with ⟨rfl, rfl⟩ | ⟨_, kept⟩
    · exact .inr (.inl ⟨rfl, free, before⟩)
    · exact .inl ⟨request.stage, kept, ready⟩
  | lockHeld before | acquire before free | startPhp before
  | drop before dropped | buffer before buffered | store before
  | cancel before =>
    rcases requests_moveTo found with ⟨_, rfl⟩ | ⟨_, kept⟩
    · cases ready
    · exact .inl ⟨request.stage, kept, ready⟩

theorem holdsLock_of_aboutToExecute (ready : stage.aboutToExecute = true) :
    stage.holdsLock = true := by
  cases stage with
  | removing next => cases next <;> first | rfl | cases ready
  | execute => rfl
  | _ => cases ready

structure SingleFlight (state : PurgeState) : Prop where
  holds : HoldLocks state
  ready : ∀ (number : Nat) (request : CacheRequest), state.requests[number]? = some request →
      request.stage.aboutToExecute = true → NoFreshEntry state request.key

theorem singleFlight_step (kept : SingleFlight state) (guarded : LocksWithoutEntry state label)
    (step : PurgeStep config state label target) : SingleFlight target where
  holds := holdLocks_step kept.holds step
  ready := by
    intro number request found ready
    rcases step.ready found ready with
      ⟨before, earlier, readyBefore⟩ | ⟨rfl, free, earlier⟩ | ⟨rfl, none⟩
    · have none := kept.ready number ⟨request.key, before⟩ earlier readyBefore
      refine noFreshEntry_step none step ?_
      -- Two requests that hold the lock of one key are one request.
      intro other cached _ storing
      have own := kept.holds number _ earlier (holdsLock_of_aboutToExecute readyBefore)
      have others := kept.holds other _ storing rfl
      rw [own, some.injEq] at others
      subst others
      rw [earlier, some.injEq, CacheRequest.mk.injEq] at storing
      rw [storing.2] at readyBefore
      cases readyBefore
    · have none := guarded ⟨request.key, .lock⟩ earlier free
      exact noFreshEntry_step none step (by rintro other cached ⟨⟩)
    · exact noFreshEntry_step none step (by rintro other cached ⟨⟩)

theorem startsWithoutEntry_of_singleFlight (kept : SingleFlight state)
    (step : PurgeStep config state label target) : StartsWithoutEntry state label := by
  cases step with
  | startPhp found =>
    intro request member
    rw [found] at member
    cases member
    exact kept.ready _ _ found rfl
  | _ => trivial

theorem singleFlight_initial : SingleFlight PurgeState.initial where
  holds := by
    intro number request found
    simp [PurgeState.initial] at found
  ready := by
    intro number request found
    simp [PurgeState.initial] at found

theorem startsWithoutEntry_transitions (config : PurgeConfig) (labels : List PurgeLabel)
    (guarded : ∀ transition ∈ (purgeMachine config).transitions .initial labels,
      LocksWithoutEntry transition.source transition.label) :
    ∀ transition ∈ (purgeMachine config).transitions .initial labels,
      StartsWithoutEntry transition.source transition.label :=
  (purgeMachine config).transitions_of_guarded SingleFlight LocksWithoutEntry
    (fun state label _ => StartsWithoutEntry state label) (fun kept allowed step =>
      ⟨singleFlight_step kept allowed (purgeStep_of_next step),
        startsWithoutEntry_of_singleFlight kept (purgeStep_of_next step)⟩)
    singleFlight_initial guarded

/-- Two requests miss; the second takes the lock while the first executes and
waits for it. -/
def collapsedRequests : List PurgeLabel :=
  [.arrive "k", .arrive "k", .lookup 0, .lookup 1, .lock 0, .startPhp 0,
    .lock 1, .lookup 1, .respond 0 (some emptyOk), .store 0, .acquire 1, .lookup 1]

/-- The second request takes the lock after the first has stored. -/
def overtakenRequests : List PurgeLabel :=
  [.arrive "k", .arrive "k", .lookup 0, .lookup 1, .lock 0, .startPhp 0,
    .respond 0 (some emptyOk), .store 0, .lock 1, .startPhp 1]

theorem startsWithoutEntry_collapsedRequests :
    (∀ transition ∈ (purgeMachine purgeExampleConfig).transitions .initial collapsedRequests,
      LocksWithoutEntry transition.source transition.label) ∧
    ∀ transition ∈ (purgeMachine purgeExampleConfig).transitions .initial collapsedRequests,
      StartsWithoutEntry transition.source transition.label := by
  have guarded : ∀ transition ∈
      (purgeMachine purgeExampleConfig).transitions .initial collapsedRequests,
      LocksWithoutEntry transition.source transition.label := by
    decide
  exact ⟨guarded, startsWithoutEntry_transitions purgeExampleConfig collapsedRequests guarded⟩

theorem executed_beside_fresh_entry : ¬ ∀ (config : PurgeConfig) (labels : List PurgeLabel),
      ∀ transition ∈ (purgeMachine config).transitions .initial labels,
        StartsWithoutEntry transition.source transition.label := by
  intro always
  have member := mem_of_getElem? (l :=
    (purgeMachine purgeExampleConfig).transitions .initial overtakenRequests) (i := 9) rfl
  have stale := always _ _ _ member ⟨"k", .execute⟩ (by decide)
  exact absurd stale (by decide)

end Pam.Server
