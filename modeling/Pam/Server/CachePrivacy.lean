import Pam.Server.CachePurge

namespace Pam.Server

open List

/-! What a response says about being shared, and what the cache keeps of it. -/

/-! The directives of a `Cache-Control` line, with their quoted arguments. -/

inductive Quoting where
  | plain
  | quoted
  | escaped
  deriving DecidableEq

def Quoting.after : Quoting → Char → Quoting
  | .plain, character => if character == '"' then .quoted else .plain
  | .quoted, character =>
    if character == '"' then .plain else if character == '\\' then .escaped else .quoted
  | .escaped, _ => .quoted

def directives : Quoting → List Char → List (List Char)
  | _, [] => [[]]
  | quoting, character :: rest =>
    if quoting == .plain && character == ',' then [] :: directives .plain rest
    else
      match directives (quoting.after character) rest with
      | [] => [[character]]
      | directive :: others => (character :: directive) :: others

def directiveName (directive : List Char) : List Char :=
  (trimBlank (directive.takeWhile (· != '='))).map Char.toLower

def isPrivacyDirective (name : List Char) : Bool :=
  name == "private".toList || name == "no-store".toList

def forbidsSharing (value : String) : Bool := (directives .plain value.toList).any fun directive =>
    isPrivacyDirective (directiveName directive)

def isPrivateLine (line : String × String) : Bool := line.1 == "set-cookie" ||
    (line.1 == "cache-control" && forbidsSharing line.2)

def isPrivate (lines : List (String × String)) : Bool := lines.any isPrivateLine

def hasBareDirective (value : String) : Bool := isHeaderText value &&
    (splitHeader (· == ',') value).any fun part =>
      isPrivacyDirective ((trimBlank part).map Char.toLower)

/-- A response whose privacy `cacheable_response` can see: it is not a success,
it sets a cookie, or its first `Cache-Control` line has a bare directive. -/
def ShowsPrivacy (response : PhpHttpResponse) : Prop :=
  response.status ≠ 200 ∨ (∃ line ∈ response.headers, line.1 = "set-cookie") ∨
    ∃ value, response.headers.lookup "cache-control" = some value ∧ hasBareDirective value = true

/-- The response of a step is private only where `cacheable_response` sees
it. -/
def AnswersShowPrivacy (config : PurgeConfig) : PurgeLabel → Prop
  | .respond _ (some response) =>
    let sent := (extractCacheTags config.tagHeader response).1
    isPrivate sent.headers = true → ShowsPrivacy sent
  | _ => True

def CacheStage.cached : CacheStage → Option CachedResponse
  | .storing cached => some cached
  | .served cached => some cached
  | _ => none

structure SharesNothingPrivate (state : PurgeState) : Prop where
  entries : ∀ key cached, state.cache.entries.lookup key = some cached →
    isPrivate cached.headers = false
  requests : ∀ (number : Nat) (request : CacheRequest), state.requests[number]? = some request →
      ∀ cached ∈ request.stage.cached, isPrivate cached.headers = false

theorem cacheableResponse_eq_false_iff :
    cacheableResponse response = false ↔ ShowsPrivacy response := by
  simp only [cacheableResponse, ShowsPrivacy, Bool.and_eq_false_iff, or_assoc]
  cases line : response.headers.lookup "cache-control" with
  | none => simp
  | some value => simp [hasBareDirective, isPrivacyDirective]

theorem headers_of_bufferedResponse
    (buffered : bufferedResponse config now startedAt clock response = some cached) :
    cached.headers = (extractCacheTags config.tagHeader response).1.headers ∧
      cacheableResponse (extractCacheTags config.tagHeader response).1 = true := by
  simp only [bufferedResponse] at buffered
  split at buffered
  next cacheable =>
    cases buffered
    exact ⟨rfl, cacheable⟩
  · cases buffered

theorem PurgeStep.carried (step : PurgeStep config state label target)
    (found : target.requests[number]? = some request)
    (carries : request.stage.cached = some cached) :
    state.requests[number]? = some request ∨ (∃ key, state.cache.entries.lookup key = some cached) ∨
      ∃ response startedAt, label = .respond number (some response) ∧
        bufferedResponse config state.now startedAt state.cache.clock response = some cached := by
  cases step with
  | tick elapsed | refuse request published | purge request tag
  | invalidate purgeAll tags => exact .inl found
  | arrive key =>
    simp only [getElem?_append] at found
    split at found
    · exact .inl found
    rw [getElem?_singleton] at found
    split at found <;> cases found
    cases carries
  | @lookup moved key stage allowStale next request looks =>
    unfold PurgeState.lookup at found
    split at found
    next looked =>
      rcases requests_moveTo found with ⟨_, rfl⟩ | ⟨_, kept⟩
      · cases carries
        exact .inr (.inl ⟨key, cachedResponse_hit (congrArg Prod.snd looked)⟩)
      · exact .inl kept
    · rcases requests_moveTo found with ⟨_, rfl⟩ | ⟨_, kept⟩
      · cases carries
      · exact .inl kept
    rcases requests_moveTo found with ⟨_, rfl⟩ | ⟨_, kept⟩
    · cases next <;> cases carries
    · exact .inl kept
  | @removeExpired moved key next request =>
    rcases requests_moveTo found with ⟨_, rfl⟩ | ⟨_, kept⟩
    · cases next <;> cases carries
    · exact .inl kept
  | lockFree request free | lockHeld request | acquire request free
  | startPhp request | drop request dropped | store request | cancel request =>
    rcases requests_moveTo found with ⟨_, rfl⟩ | ⟨_, kept⟩
    · cases carries
    · exact .inl kept
  | @buffer moved key startedAt response buffered request built =>
    rcases requests_moveTo found with ⟨rfl, rfl⟩ | ⟨_, kept⟩
    · cases carries
      exact .inr (.inr ⟨response, startedAt, rfl, built⟩)
    · exact .inl kept

theorem sharesNothingPrivate_step (kept : SharesNothingPrivate state)
    (guarded : AnswersShowPrivacy config label)
    (step : purgeNext config state label = some target) : SharesNothingPrivate target where
  entries := by
    intro key cached found
    rcases (purgeStep_of_next step).entry found with ⟨earlier, before, same⟩ | ⟨number, _, storing⟩
    · rw [same]
      exact kept.entries key earlier before
    · exact kept.requests number _ storing cached rfl
  requests := by
    intro number request found cached carries
    rcases (purgeStep_of_next step).carried found carries with
      before | ⟨key, entry⟩ | ⟨response, startedAt, rfl, buffered⟩
    · exact kept.requests number request before cached carries
    · exact kept.entries key cached entry
    obtain ⟨headers, cacheable⟩ := headers_of_bufferedResponse buffered
    rw [headers, ← Bool.not_eq_true]
    intro hidden
    have seen := cacheableResponse_eq_false_iff.mpr (guarded hidden)
    rw [cacheable] at seen
    cases seen

theorem hidden_step (hides : ¬AnswersShowPrivacy config label)
    (step : purgeNext config state label = some target) : ¬SharesNothingPrivate target := by
  intro shares
  have relevant := purgeStep_of_next step
  cases label with
  | respond number answer =>
    cases answer with
    | none => exact hides trivial
    | some response =>
      simp only [AnswersShowPrivacy, Classical.not_imp, ← cacheableResponse_eq_false_iff] at hides
      obtain ⟨isHidden, cacheable⟩ := hides
      cases relevant with
      | drop found dropped =>
        have none := dropped response rfl
        simp only [bufferedResponse, cacheable] at none
        cases none
      | @buffer _ key startedAt _ cached found buffered =>
        have carried := shares.requests number ⟨key, .storing cached⟩ ?_ cached rfl
        · rw [(headers_of_bufferedResponse buffered).1, isHidden] at carried
          cases carried
        · exact getElem?_set_self (List.getElem?_eq_some_iff.mp found).1
  | _ => exact hides trivial

theorem sharesNothingPrivate_initial : SharesNothingPrivate PurgeState.initial where
  entries := by
    intro key cached found
    simp [PurgeState.initial, ResponseCache.empty] at found
  requests := by
    intro number request found
    simp [PurgeState.initial] at found

theorem sharesNothingPrivate_visited_iff (config : PurgeConfig) (labels : List PurgeLabel) :
    (∀ state ∈ (purgeMachine config).visited .initial labels, SharesNothingPrivate state) ↔
    ∀ transition ∈ (purgeMachine config).transitions .initial labels,
      AnswersShowPrivacy config transition.label :=
  (purgeMachine config).visited_iff_guarded SharesNothingPrivate
    (fun _ label => AnswersShowPrivacy config label) SharesNothingPrivate
    (fun shares => shares) sharesNothingPrivate_step
    (fun _ => hidden_step) sharesNothingPrivate_initial labels

def twoLines : PhpHttpResponse where
  status := 200
  headers := [("cache-control", "max-age=60"), ("cache-control", "private")]
  body := [1]

def sharedAfterTwoLines : List PurgeLabel :=
  [.arrive "k", .lookup 0, .lock 0, .startPhp 0, .respond 0 (some twoLines),
    .store 0, .arrive "k", .lookup 1]

theorem private_line_shared :
    ∃ state ∈ (purgeMachine purgeExampleConfig).visited .initial sharedAfterTwoLines,
      ∃ cached, isPrivate cached.headers = true ∧ cached.headers = twoLines.headers ∧
        state.requests[1]? = some ⟨"k", .served cached⟩ := ⟨_, mem_of_getElem? (l :=
      (purgeMachine purgeExampleConfig).visited .initial sharedAfterTwoLines) (i := 8) rfl,
    ⟨200, twoLines.headers, [1], 1000, 6000, 1, [], 0⟩, by decide, rfl, by decide⟩

end Pam.Server
