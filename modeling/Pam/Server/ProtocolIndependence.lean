import Pam.Server.ProtocolDispatch

namespace Pam.Server

open Option Nat Prod

/-! When a request is handled over HTTP/3 as it is over HTTP/1.1 and HTTP/2. -/

def PhpHttpResponse.compared (response : PhpHttpResponse) : PhpHttpResponse := { response with
    headers := response.headers.filter fun header => header.1 != "alt-svc" }

/-- The two handlers send the same status, headers and body, and have the same
effect on the server and the same calls of PHP. -/
def HandledAlike (http : PhpHttpResponse × HandlerState Windows)
    (http3 : Option PhpHttpResponse × HandlerState Windows) : Prop :=
  http3.1.map PhpHttpResponse.compared = some http.1.compared ∧ http.2 = http3.2

/-- The headers of a response that `finish` drops or writes itself, and
`alt-svc`, which is not compared. -/
def ownHeaders (telemetry : Telemetry) (corsOrigin : Option String) : List String :=
  ["x-pam-route-template", "alt-svc"] ++ (telemetry.shown ++ corsLines corsOrigin).map Prod.fst

theorem foldl_insertHeader (distinct : (lines.map fst).Nodup) (headers : List (String × String)) :
    lines.foldl insertHeader headers = headers.filter (fun header => header.1 ∉ lines.map fst) ++
        lines := by
  induction lines generalizing headers with
  | nil => simp
  | cons line lines ih =>
    rw [List.map_cons, List.nodup_cons] at distinct
    have kept : [line].filter (fun header => header.1 ∉ lines.map fst) = [line] := by
      rw [List.filter_singleton, decide_eq_true distinct.1, cond_true]
    rw [List.foldl_cons, ih distinct.2, insertHeader, List.filter_append, List.filter_filter, kept,
      List.append_assoc]
    congr 1
    apply List.filter_congr
    intro header _
    simp only [List.map_cons, List.mem_cons, not_or, Bool.decide_and, bne,
      Bool.and_comm, decide_not, beq_eq_decide]

theorem lines_distinct (telemetry : Telemetry) :
    ((telemetry.shown ++ telemetry.advertised ++ corsLines corsOrigin).map fst).Nodup := by
  unfold Telemetry.shown Telemetry.advertised
  cases telemetry.altSvc <;> cases telemetry.telemetryHeaders <;>
    cases corsOrigin <;> simp [corsLines]

variable {telemetry : Telemetry}

theorem shown_ne_altSvc (member : line ∈ telemetry.shown) : line.1 ≠ "alt-svc" := by
  unfold Telemetry.shown at member
  split at member
  · rintro same
    simp only [List.mem_cons, List.not_mem_nil, or_false] at member
    rcases member with rfl | rfl | rfl <;> simp at same
  · cases member

theorem corsLines_ne_altSvc (member : line ∈ corsLines corsOrigin) : line.1 ≠ "alt-svc" := by
  cases corsOrigin with
  | none => cases member
  | some origin =>
    rintro same
    simp only [corsLines, List.mem_cons, List.not_mem_nil, or_false] at member
    rcases member with rfl | rfl | rfl | rfl <;> simp at same

theorem advertised_eq_altSvc (member : line ∈ telemetry.advertised) : line.1 = "alt-svc" := by
  simp only [Telemetry.advertised, mem_toList, map_eq_some_iff] at member
  obtain ⟨value, _, rfl⟩ := member
  rfl

theorem compared_finish : (telemetry.finish response corsOrigin).compared = { response with
        headers := response.headers.filter (fun header =>
            header.1 ∉ ownHeaders telemetry corsOrigin) ++
          (telemetry.shown ++ corsLines corsOrigin) } := by
  have shown : telemetry.shown.filter (fun header => header.1 != "alt-svc") = telemetry.shown := by
    rw [List.filter_eq_self]
    intro line member
    exact bne_iff_ne.mpr (shown_ne_altSvc member)
  have cors : (corsLines corsOrigin).filter (fun header =>
      header.1 != "alt-svc") = corsLines corsOrigin := by
    rw [List.filter_eq_self]
    intro line member
    exact bne_iff_ne.mpr (corsLines_ne_altSvc member)
  have advertised : telemetry.advertised.filter (fun header => header.1 != "alt-svc") = [] := by
    rw [List.filter_eq_nil_iff]
    intro line member
    simp [advertised_eq_altSvc member]
  have kept (header : String × String) : (header.1 != "alt-svc" &&
        (decide (header.1 ∉ (telemetry.shown ++ telemetry.advertised ++
            corsLines corsOrigin).map fst) && header.1 != "x-pam-route-template")) =
        decide (header.1 ∉ ownHeaders telemetry corsOrigin) := by
    have named : header.1 ∈ telemetry.advertised.map fst → header.1 = "alt-svc" := by
      intro member
      obtain ⟨line, found, same⟩ := List.mem_map.mp member
      rw [← same, advertised_eq_altSvc found]
    simp only [ownHeaders]
    grind
  simp only [PhpHttpResponse.compared, Telemetry.finish,
    foldl_insertHeader (lines_distinct telemetry),
    List.filter_append, List.filter_filter, kept, shown, advertised, cors, List.append_nil]

def keptLines (telemetry : Telemetry) (corsOrigin : Option String)
    (response : PhpHttpResponse) : List (String × String) :=
  response.headers.filter fun header => header.1 ∉ ownHeaders telemetry corsOrigin

theorem handledAlike_answer_iff {corsOrigin : Option String} :
    HandledAlike (telemetry.answer corsOrigin http)
        (some ({ telemetry with altSvc := none }.answer corsOrigin http3).1,
          ({ telemetry with altSvc := none }.answer corsOrigin http3).2) ↔
      http.1.status = http3.1.status ∧ http.1.body = http3.1.body ∧
        keptLines telemetry corsOrigin http.1 = keptLines telemetry corsOrigin http3.1 ∧
        http.2.finished http.1 = http3.2.finished http3.1 := by
  simp only [HandledAlike, Telemetry.answer, map_some,
    some.injEq, compared_finish, PhpHttpResponse.mk.injEq]
  change (_ ∧ keptLines telemetry corsOrigin http3.1 ++
      (telemetry.shown ++ corsLines corsOrigin) = _ ∧ _) ∧ _ ↔ _
  rw [List.append_left_inj]
  constructor
  · rintro ⟨⟨status, lines, body⟩, states⟩
    exact ⟨status.symm, body.symm, lines.symm, states⟩
  · rintro ⟨status, body, lines, states⟩
    exact ⟨⟨status.symm, lines.symm, body.symm⟩, states⟩

/-! What each stage does to the time of the next synchronisation, to the calls
of PHP and to the counts of lookups. -/

def HandlerMetrics.lookups (metrics : HandlerMetrics) : Nat :=
  metrics.responseCacheHits + metrics.responseCacheMisses

def HandlerState.Synchronized (state : HandlerState Windows) : Prop :=
  state.log = none ∨ state.now < state.nextCacheInvalidationAt

variable (state : HandlerState Windows) (response : PhpHttpResponse)

@[simp] theorem finished_next :
    (state.finished response).nextCacheInvalidationAt = state.nextCacheInvalidationAt := by
  unfold HandlerState.finished
  split <;> rfl

@[simp] theorem finished_calls : (state.finished response).calls = state.calls := by
  unfold HandlerState.finished
  split <;> rfl

@[simp] theorem finished_lookups :
    (state.finished response).metrics.lookups = state.metrics.lookups := by
  unfold HandlerState.finished
  split <;> rfl

variable {state : HandlerState Windows}

theorem synchronize_of_synchronized (done : state.Synchronized) :
    state.synchronizeCacheInvalidations false = state := by
  unfold HandlerState.synchronizeCacheInvalidations
  rcases done with absent | early
  · rw [absent]
  cases state.log with
  | none => rfl
  | some file => simp [early]

theorem synchronize_rest :
    ∃ next offset cache, state.synchronizeCacheInvalidations force = { state with
          nextCacheInvalidationAt := next
          cacheInvalidationOffset := offset
          cache := cache } ∧
      (next = state.now + 100 ∨ next = state.nextCacheInvalidationAt ∧ state.Synchronized) := by
  unfold HandlerState.synchronizeCacheInvalidations
  split
  · next absent => exact ⟨_, _, _, rfl, .inr ⟨rfl, .inl absent⟩⟩
  next file configured =>
  split
  next early =>
    simp only [Bool.and_eq_true, decide_eq_true_eq] at early
    exact ⟨_, _, _, rfl, .inr ⟨rfl, .inr early.2⟩⟩
  · cases file with
    | none | some lines => exact ⟨_, _, _, rfl, .inl rfl⟩

theorem publish_rest :
    ∃ next offset cache log, (state.publishCacheInvalidation surroundings tag).1 = { state with
          nextCacheInvalidationAt := next
          cacheInvalidationOffset := offset
          cache := cache
          log := log } ∧ (next = state.now + 100 ∨ next = state.nextCacheInvalidationAt) := by
  obtain ⟨next, offset, cache, synchronized, times⟩ := synchronize_rest
  have times : next = state.now + 100 ∨
      next = state.nextCacheInvalidationAt := times.imp_right And.left
  unfold HandlerState.publishCacheInvalidation
  split
  · exact ⟨_, _, _, _, rfl, .inr rfl⟩
  rw [synchronized]
  split <;> exact ⟨_, _, _, _, rfl, times⟩

variable (config : HandlerConfig)

theorem handleCachePurge_rest : ∃ next offset cache log,
      (handleCachePurge config surroundings state request body).2 = { state with
          nextCacheInvalidationAt := next
          cacheInvalidationOffset := offset
          cache := cache
          log := log } ∧ (next = state.now + 100 ∨ next = state.nextCacheInvalidationAt) := by
  unfold handleCachePurge
  dsimp only
  split
  · exact ⟨_, _, _, _, rfl, .inr rfl⟩
  next target =>
  obtain ⟨next, offset, cache, log, published, times⟩ := publish_rest
  split
  case h_1 publishes | h_2 publishes =>
    rw [publishes] at published
    subst published
    exact ⟨_, _, _, _, rfl, times⟩

theorem executeAndStore_rest : ∃ cache, (executeAndStore config surroundings state call key).2 =
      { state with cache := cache, calls := state.calls ++ [call] } := by
  unfold executeAndStore
  cases key with
  | none => exact ⟨_, rfl⟩
  | some key =>
    dsimp only [HandlerState.callPhp]
    split
    · split <;> exact ⟨_, rfl⟩
    · exact ⟨_, rfl⟩

structure Counts (added : Nat) (before after : HandlerState Windows) : Prop where
  next : after.nextCacheInvalidationAt = before.nextCacheInvalidationAt
  lookups : before.metrics.lookups + added ≤ after.metrics.lookups

variable {after : HandlerState Windows}

theorem Counts.trans {first second : Nat}
    (early : Counts first before between) (late : Counts second between after) :
    Counts (first + second) before after where
  next := late.next.trans early.next
  lookups := by
    have := early.lookups
    have := late.lookups
    omega

theorem Counts.mono (counts : Counts added before after) (le : fewer ≤ added) :
    Counts fewer before after where
  next := counts.next
  lookups := by
    have := counts.lookups
    omega

theorem counts_cachedResponse (looks : state.cachedResponse key allowStale = (found, after)) :
    Counts 0 state after := by
  unfold HandlerState.cachedResponse at looks
  split at looks <;> cases looks <;> exact ⟨rfl, le_refl _⟩

theorem counts_executeAndStore (surroundings : Surroundings Windows)
    (call : OwnedHttpRequest) (key : Option String) :
    Counts 0 state (executeAndStore config surroundings state call key).2 := by
  obtain ⟨cache, executed⟩ := executeAndStore_rest config
  rw [executed]
  exact ⟨rfl, le_refl _⟩

theorem counts_countHit : Counts 1 state state.countHit where
  next := rfl
  lookups := by
    simp only [HandlerState.countHit, HandlerMetrics.lookups]
    omega

theorem counts_countMiss : Counts 1 state state.countMiss where
  next := rfl
  lookups := by
    simp only [HandlerState.countMiss, HandlerMetrics.lookups]
    omega

theorem counts_dispatchCached :
    Counts 1 state (dispatchCached config surroundings state call key).2 := by
  unfold dispatchCached
  split
  next looks => exact (counts_cachedResponse looks).trans counts_countHit
  next missed looks =>
  have miss : Counts 1 state missed.countMiss :=
    (counts_cachedResponse looks).trans counts_countMiss
  change Counts (1 + 0) state _
  apply miss.trans
  dsimp only
  split
  · split
    next looksStale =>
      have stale := counts_cachedResponse looksStale
      exact ⟨stale.next, stale.lookups⟩
    next looksStale =>
    have stale := counts_cachedResponse looksStale
    change Counts (0 + 0) _ _
    apply stale.trans
    split
    next looksAgain =>
      have again := counts_cachedResponse looksAgain
      have hit := (again.trans counts_countHit).mono (zero_le _)
      exact ⟨hit.next, hit.lookups⟩
    next looksAgain =>
    have again := (counts_cachedResponse looksAgain).trans
      (counts_executeAndStore config surroundings call (some key))
    exact ⟨again.next, again.lookups⟩
  · exact counts_executeAndStore config surroundings call (some key)

/-- The request is answered before its body is read: for the metrics, with too
many or too long headers, over the rate limit, or as a preflight. -/
def EndsBeforeBody (config : HandlerConfig)
    (surroundings : Surroundings Windows) (state : HandlerState Windows)
    (request : ArrivingRequest) : Prop :=
  request.uri.path = config.metricsPath ∨ config.maxHeaders < request.headers.length ∨
    config.maxHeaderBytes < headerBytes request.toRequestHead ∨
    (surroundings.rateLimited state.rateLimits state.now
      (clientAddress request.remote request.toRequestHead config.trustedProxies)).1 = true ∨
    request.method = "OPTIONS" ∧ request.containsKey "access-control-request-method" = true

def HandlerState.admitted (config : HandlerConfig)
    (surroundings : Surroundings Windows) (state : HandlerState Windows)
    (request : ArrivingRequest) : HandlerState Windows :=
  let begun := (state.begin config surroundings request.toRequestHead).2
  { begun with rateLimits := (surroundings.rateLimited begun.rateLimits begun.now
      (clientAddress request.remote request.toRequestHead config.trustedProxies)).2 }

theorem begin_rest (surroundings : Surroundings Windows)
    (state : HandlerState Windows) (request : RequestHead) :
    ∃ count shutdown nextId requests, (state.begin config surroundings request).2 = { state with
          requestCount := count
          shutdown := shutdown
          nextRequestId := nextId
          metrics := { state.metrics with requests := requests } } := by
  unfold HandlerState.begin
  dsimp only
  split <;> exact ⟨_, _, _, _, rfl⟩

theorem handledAlike_answer : HandledAlike (telemetry.answer corsOrigin answer)
      (some ({ telemetry with altSvc := none }.answer corsOrigin answer).1,
        ({ telemetry with altSvc := none }.answer corsOrigin answer).2) :=
  handledAlike_answer_iff.mpr ⟨rfl, rfl, rfl, rfl⟩

theorem handledAlike_of_endsBeforeBody {config : HandlerConfig}
    {surroundings : Surroundings Windows} {request : ArrivingRequest}
    (ends : EndsBeforeBody config surroundings state request) :
    HandledAlike (httpDispatch config surroundings state request)
      (handleHttp3Request config surroundings state request) := by
  obtain ⟨count, shutdown, nextId, requests, begun⟩ :=
    begin_rest config surroundings state request.toRequestHead
  unfold httpDispatch handleHttp3Request
  dsimp only
  split
  · exact handledAlike_answer
  next notMetrics =>
  split
  · exact handledAlike_answer
  next headersFit =>
  split
  · exact handledAlike_answer
  next notLimited =>
  split
  · exact handledAlike_answer
  next notPreflight =>
  exfalso
  rw [begun] at notLimited
  rcases ends with path | many | long | limited | preflight
  · exact notMetrics path
  · exact headersFit (.inl many)
  · exact headersFit (.inr long)
  · exact notLimited limited
  · exact notPreflight preflight

section Responds

variable {config : HandlerConfig} {request : ArrivingRequest}

def HandlerState.identifier (config : HandlerConfig)
    (surroundings : Surroundings Windows) (state : HandlerState Windows)
    (request : ArrivingRequest) : String :=
  (state.begin config surroundings request.toRequestHead).1

theorem handledAlike_iff_responds (reaches : ¬EndsBeforeBody config surroundings state request) :
    let requestId := state.identifier config surroundings request
    let client := clientAddress request.remote request.toRequestHead config.trustedProxies
    let telemetry := config.telemetry surroundings request.toRequestHead config.altSvc requestId
    let corsOrigin := allowedCorsOrigin request.toRequestHead config.corsOrigins
    let admitted := state.admitted config surroundings request
    HandledAlike (httpDispatch config surroundings state request)
        (handleHttp3Request config surroundings state request) ↔
      ∃ answer, http3Respond config surroundings admitted request client requestId = some answer ∧
        HandledAlike (telemetry.answer corsOrigin
            (httpRespond config surroundings admitted request client requestId))
          (some ({ telemetry with altSvc := none }.answer corsOrigin answer).1,
            ({ telemetry with altSvc := none }.answer corsOrigin answer).2) := by
  intro requestId client telemetry corsOrigin admitted
  simp only [EndsBeforeBody, not_or] at reaches
  obtain ⟨notMetrics, notMany, notLong, notLimited, notPreflight⟩ := reaches
  obtain ⟨count, shutdown, nextId, requests, rest⟩ :=
    begin_rest config surroundings state request.toRequestHead
  have headersFit : ¬(config.maxHeaders < request.headers.length ∨
      config.maxHeaderBytes < headerBytes request.toRequestHead) := not_or.mpr ⟨notMany, notLong⟩
  have passes : ¬(surroundings.rateLimited
      (state.begin config surroundings request.toRequestHead).2.rateLimits
      (state.begin config surroundings request.toRequestHead).2.now client).1 = true := by
    rw [rest]
    exact notLimited
  unfold httpDispatch handleHttp3Request
  dsimp only
  rw [if_neg notMetrics, if_neg headersFit, if_neg passes,
    if_neg notPreflight, if_neg notMetrics, if_neg headersFit, if_neg passes, if_neg notPreflight]
  split
  next lost =>
    constructor
    · intro alike
      cases alike.1
    · rintro ⟨answer, responds, _⟩
      cases lost.symm.trans responds
  next answer responds =>
  constructor
  · intro alike
    exact ⟨answer, responds, alike⟩
  rintro ⟨other, alsoResponds, alike⟩
  cases responds.symm.trans alsoResponds
  exact alike

def Uri.Rooted : Uri → Prop
  | none => True
  | some target => target.rawPath.toList.head? = some '/' ∨ target.rawPath.toList.head? = some '*' ∨
      target.rawPath.toList = [] ∧ target.query = none

theorem asStr_eq_display_iff (uri : Uri) : uri.asStr = uri.display ↔ uri.Rooted := by
  cases uri with
  | none => simp [Uri.asStr, Uri.display, Uri.displayedPath, Uri.query, Uri.Rooted]
  | some target =>
    simp only [Uri.asStr, Uri.display, Uri.displayedPath, Uri.query, Uri.Rooted]
    generalize target.rawPath.toList = path
    generalize target.query = query
    cases path with
    | nil => cases query <;> simp
    | cons first rest =>
      by_cases slash : first = '/'
      · cases query <;> simp [slash]
      by_cases star : first = '*'
      · cases query <;> simp [star]
      · simp [slash, star]

variable {admitted : HandlerState Windows}

theorem httpRespond_read (read : readBody config.maxBodyBytes [] request.body = .read body) :
    httpRespond config surroundings admitted request client requestId =
      if config.responseCachePurgePath = some request.uri.path then
        handleCachePurge config surroundings ((admitted.countBytes
            body.length).synchronizeCacheInvalidations false) request.toRequestHead body
      else
        (responseCacheKey surroundings.digest config.keys request.toRequestHead).elim
          (executeAndStore config surroundings ((admitted.countBytes
              body.length).synchronizeCacheInvalidations false)
            (ownedHttpRequest surroundings request client requestId request.uri.asStr body) none)
          fun key => dispatchCached config surroundings ((admitted.countBytes
              body.length).synchronizeCacheInvalidations false)
            (ownedHttpRequest surroundings request client requestId
              request.uri.asStr body) (String.ofList key) := by
  unfold httpRespond
  rw [read]
  dsimp only
  split
  · rfl
  cases responseCacheKey surroundings.digest config.keys request.toRequestHead with
  | none | some key => rfl

theorem synchronized_of_next (read : readBody config.maxBodyBytes [] request.body = .read body)
    (stays : (httpRespond config surroundings admitted request client
      requestId).2.nextCacheInvalidationAt =
        admitted.nextCacheInvalidationAt) : admitted.Synchronized := by
  obtain ⟨next, offset, cache, synchronized, times⟩ := synchronize_rest
  rw [httpRespond_read read] at stays
  rcases times with late | ⟨_, done⟩
  · have time : ((admitted.countBytes
        body.length).synchronizeCacheInvalidations false).now = admitted.now := by
      rw [synchronized]
      rfl
    have moved : ((admitted.countBytes body.length).synchronizeCacheInvalidations
          false).nextCacheInvalidationAt = admitted.now + 100 := by
      rw [synchronized]
      exact late
    suffices later : admitted.nextCacheInvalidationAt = admitted.now + 100 by
      right
      omega
    rw [← stays]
    split
    · obtain ⟨after, _, _, _, purged, both⟩ := handleCachePurge_rest config
      rw [purged]
      rcases both with again | same
      · exact again.trans (by rw [time])
      · exact same.trans moved
    · cases responseCacheKey surroundings.digest config.keys request.toRequestHead with
      | none => exact moved
      | some key =>
        rw [elim_some, (counts_dispatchCached ..).next]
        exact moved
  · exact done

structure PlainRequest (config : HandlerConfig)
    (surroundings : Surroundings Windows) (state : HandlerState Windows)
    (request : ArrivingRequest) (body : List UInt8) : Prop where
  synchronized : state.Synchronized
  notPurge : config.responseCachePurgePath ≠ some request.uri.path
  uncached : config.keys.caches request.toRequestHead = false
  rooted : request.uri.Rooted
  /-- PHP answers without the tag header, or under a name that `finish` writes
  itself. -/
  untagged : ∀ line ∈ (surroundings.php (ownedHttpRequest surroundings request
      (clientAddress request.remote request.toRequestHead config.trustedProxies)
      (state.identifier config surroundings request) request.uri.display body)).headers,
    config.purge.tagHeader = some line.1 → line.1 ∈ ownHeaders
        (config.telemetry surroundings request.toRequestHead none
          (state.identifier config surroundings request))
        (allowedCorsOrigin request.toRequestHead config.corsOrigins)

theorem extractCacheTags_status :
    (extractCacheTags tagHeader response).1.status = response.status := by
  cases tagHeader <;> rfl

theorem extractCacheTags_body : (extractCacheTags tagHeader response).1.body = response.body := by
  cases tagHeader <;> rfl

theorem keptLines_extractCacheTags_iff {response : PhpHttpResponse} :
    keptLines telemetry corsOrigin (extractCacheTags tagHeader response).1 =
        keptLines telemetry corsOrigin response ↔
      ∀ line ∈ response.headers, tagHeader = some line.1 →
        line.1 ∈ ownHeaders telemetry corsOrigin := by
  cases tagHeader with
  | none => simp [extractCacheTags]
  | some header =>
    simp only [keptLines, extractCacheTags, List.filter_filter]
    constructor
    · intro same line member named
      cases named
      by_contra other
      have kept : line ∈ response.headers.filter (fun entry =>
          entry.1 ∉ ownHeaders telemetry corsOrigin) :=
        List.mem_filter.mpr ⟨member, decide_eq_true other⟩
      rw [← same] at kept
      simp at kept
    · intro own
      apply List.filter_congr
      intro line member
      by_cases named : line.1 = header
      · have replaced := own line member (congrArg some named.symm)
        simp [replaced]
      · simp [named]

theorem admitted_synchronized_iff :
    (state.admitted config surroundings request).Synchronized ↔ state.Synchronized := by
  obtain ⟨count, shutdown, nextId, requests, begun⟩ :=
    begin_rest config surroundings state request.toRequestHead
  simp [HandlerState.Synchronized, HandlerState.admitted, begun]

theorem finished_of_status (same : first.status = second.status) :
    state.finished first = state.finished second := by
  simp [HandlerState.finished, same]

variable (read : readBody config.maxBodyBytes [] request.body = .read body)
include read

theorem httpRespond_plain (synchronized : admitted.Synchronized)
    (notPurge : config.responseCachePurgePath ≠ some request.uri.path)
    (uncached : config.keys.caches request.toRequestHead = false) :
    let called := (admitted.countBytes body.length).callPhp surroundings
      (ownedHttpRequest surroundings request client requestId request.uri.asStr body)
    httpRespond config surroundings admitted request client requestId =
      ((extractCacheTags config.purge.tagHeader called.1).1, called.2) := by
  have done : (admitted.countBytes body.length).Synchronized := synchronized
  rw [httpRespond_read read, if_neg notPurge, responseCacheKey, uncached,
    synchronize_of_synchronized done]
  rfl

theorem httpRespond_purge_calls (purges : config.responseCachePurgePath = some request.uri.path) :
    (httpRespond config surroundings admitted request client
      requestId).2.calls = admitted.calls := by
  obtain ⟨_, _, _, synchronized, _⟩ := synchronize_rest
  obtain ⟨_, _, _, _, purged, _⟩ := handleCachePurge_rest config
  rw [httpRespond_read read, if_pos purges, purged, synchronized]
  rfl

theorem httpRespond_cached_lookups
    (notPurge : config.responseCachePurgePath ≠ some request.uri.path)
    (cached : config.keys.caches request.toRequestHead = true) :
    admitted.metrics.lookups < (httpRespond config surroundings admitted
      request client requestId).2.metrics.lookups := by
  obtain ⟨_, _, _, synchronized, _⟩ := synchronize_rest
  rw [httpRespond_read read, if_neg notPurge, responseCacheKey, if_pos cached, synchronized]
  refine lt_of_lt_of_le ?_ (counts_dispatchCached ..).lookups
  exact lt_succ_self _

theorem answersAlike_iff_plain :
    let requestId := state.identifier config surroundings request
    let client := clientAddress request.remote request.toRequestHead config.trustedProxies
    let telemetry := config.telemetry surroundings request.toRequestHead config.altSvc requestId
    let corsOrigin := allowedCorsOrigin request.toRequestHead config.corsOrigins
    let admitted := state.admitted config surroundings request
    let http := httpRespond config surroundings admitted request client requestId
    let http3 := (admitted.countBytes body.length).callPhp surroundings
      (ownedHttpRequest surroundings request client requestId request.uri.display body)
    (http.1.status = http3.1.status ∧ http.1.body = http3.1.body ∧
        keptLines telemetry corsOrigin http.1 = keptLines telemetry corsOrigin http3.1 ∧
        http.2.finished http.1 = http3.2.finished http3.1) ↔
      PlainRequest config surroundings state request body := by
  intro requestId client telemetry corsOrigin admitted http http3
  constructor
  · rintro ⟨status, bodies, lines, states⟩
    have next := congrArg HandlerState.nextCacheInvalidationAt states
    have calls := congrArg HandlerState.calls states
    have lookups := congrArg (fun state => state.metrics.lookups) states
    simp only [finished_next, finished_calls, finished_lookups] at next calls lookups
    have synchronized : admitted.Synchronized := synchronized_of_next read next
    have notPurge : config.responseCachePurgePath ≠ some request.uri.path := by
      intro purges
      have unchanged : http.2.calls = admitted.calls := httpRespond_purge_calls read purges
      rw [unchanged] at calls
      exact absurd calls (by simp [http3, HandlerState.callPhp, HandlerState.countBytes])
    have uncached : config.keys.caches request.toRequestHead = false := by
      by_contra cached
      rw [Bool.not_eq_false] at cached
      have counted : admitted.metrics.lookups < http.2.metrics.lookups :=
        httpRespond_cached_lookups read notPurge cached
      exact absurd lookups (ne_of_gt counted)
    have plain : http = _ := httpRespond_plain read synchronized notPurge uncached
    have sameCall : ownedHttpRequest surroundings request client requestId request.uri.asStr body =
        ownedHttpRequest surroundings request client requestId request.uri.display body := by
      rw [plain] at calls
      simpa [http3, HandlerState.callPhp] using calls
    rw [plain, sameCall] at lines
    exact {
      synchronized := admitted_synchronized_iff.mp synchronized
      notPurge := notPurge
      uncached := uncached
      rooted := (asStr_eq_display_iff request.uri).mp (congrArg OwnedHttpRequest.target sameCall)
      untagged := keptLines_extractCacheTags_iff.mp lines }
  · intro request
    have synchronized : admitted.Synchronized := admitted_synchronized_iff.mpr request.synchronized
    have plain : http = _ := httpRespond_plain read synchronized request.notPurge request.uncached
    rw [(asStr_eq_display_iff _).mpr request.rooted] at plain
    rw [plain]
    exact ⟨extractCacheTags_status .., extractCacheTags_body ..,
      keptLines_extractCacheTags_iff.mpr request.untagged,
      finished_of_status (extractCacheTags_status ..)⟩

end Responds

/-- The request is answered before its body is read, its body is too large or
late, or it is a plain request. -/
def ProtocolFree (config : HandlerConfig)
    (surroundings : Surroundings Windows) (state : HandlerState Windows)
    (request : ArrivingRequest) : Prop := EndsBeforeBody config surroundings state request ∨
    readBody config.maxBodyBytes [] request.body = .tooLarge ∨
    readBody config.maxBodyBytes [] request.body = .late ∨
    ∃ body, readBody config.maxBodyBytes [] request.body = .read body ∧
      PlainRequest config surroundings state request body

theorem handledAlike_iff_protocolFree (config : HandlerConfig)
    (surroundings : Surroundings Windows) (state : HandlerState Windows)
    (request : ArrivingRequest) : HandledAlike (httpDispatch config surroundings state request)
        (handleHttp3Request config surroundings state request) ↔
      ProtocolFree config surroundings state request := by
  by_cases ends : EndsBeforeBody config surroundings state request
  · exact iff_of_true (handledAlike_of_endsBeforeBody ends) (.inl ends)
  refine (handledAlike_iff_responds ends).trans ?_
  simp only [ProtocolFree, ends]
  cases read : readBody config.maxBodyBytes [] request.body with
  | read body =>
    simp only [http3Respond, read, some.injEq, exists_eq_left',
      handledAlike_answer_iff, reduceCtorEq, false_or, BodyRead.read.injEq]
    exact answersAlike_iff_plain read
  | tooLarge | late => simp [http3Respond, httpRespond, read, handledAlike_answer_iff]
  | broken => simp [http3Respond, read]

def purgeableConfig : HandlerConfig where
  maxRequests := 1000
  metricsPath := "/metrics"
  maxHeaders := 100
  maxHeaderBytes := 16384
  maxBodyBytes := 1024
  maxResponseBytes := 1024
  trustedProxies := []
  corsOrigins := []
  telemetryHeaders := false
  altSvc := some "h3=\":8443\"; ma=86400"
  responseCachePaths := ["/"]
  responseCacheVaryHeaders := []
  responseCachePurgePath := some "/purge"
  purge := {
    cache := {
      responseCacheMaxEntries := 10
      responseCacheMaxBytes := 1024
      responseCacheTtlMs := 1000
      responseCacheStaleWhileRevalidateMs := 0 }
    tagHeader := some "x-pam-cache-tags"
    purgeSecret := some "secret"
    tokenEq := fun expected supplied => expected == supplied }

def greetingSurroundings : Surroundings Unit where
  digest := fun _ => []
  php := fun _ => { status := 200, headers := [], body := [104, 105] }
  renderMetrics := fun _ => []
  rateLimited := fun windows _ _ => (false, windows)
  requestIdPrefix := "worker"
  traceparent := fun _ => ""
  traceIds := fun _ => 0
  serverTiming := ""
  purgePayload := fun _ => none
  logWritable := true
  afterWait := fun cache _ => cache

def HandlerState.initial : HandlerState Unit where
  now := 0
  requestCount := 0
  shutdown := false
  nextRequestId := 1
  metrics := ⟨0, 0, 0, 0, 0, 0, 0⟩
  rateLimits := ()
  cache := .empty
  locked := []
  log := none
  nextCacheInvalidationAt := 0
  cacheInvalidationOffset := 0
  calls := []

def purgeWithoutCredentials : ArrivingRequest where
  method := "POST"
  uri := some ⟨"/purge", none, by decide, nofun⟩
  headers := []
  remote := ⟨"10.0.0.1", 40000⟩
  body := []

/-- HTTP/1.1 refuses the request for want of credentials; over HTTP/3 it is
PHP that answers. -/
theorem purge_endpoint_missing_over_http3 :
    (httpDispatch purgeableConfig greetingSurroundings .initial
        purgeWithoutCredentials).1.status = 401 ∧
      (handleHttp3Request purgeableConfig greetingSurroundings .initial
        purgeWithoutCredentials).1.map PhpHttpResponse.status = some 200 ∧
      ¬HandledAlike (httpDispatch purgeableConfig greetingSurroundings .initial
          purgeWithoutCredentials) (handleHttp3Request purgeableConfig greetingSurroundings .initial
          purgeWithoutCredentials) := by
  refine ⟨by decide +kernel, by decide +kernel, ?_⟩
  intro alike
  exact absurd alike.1 (by decide +kernel)

end Pam.Server
