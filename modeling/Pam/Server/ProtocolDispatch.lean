import Pam.Protocol.ResponseCodec
import Pam.Server.CacheKey
import Pam.Server.InvalidationLog
import Pam.Server.RequestDispatch

namespace Pam.Server

open Pam.Protocol

/-! One request on the two ways to the handler: `http_dispatch` for HTTP/1.1 and
HTTP/2, and `handle_http3_request`. What other requests do meanwhile, and what
PHP answers, come from the surroundings. -/

/-- A body as it arrives: `late` is the end of the read timeout and `broken` an
error of the transport. -/
inductive BodyPiece where
  | data (bytes : List UInt8)
  | late
  | broken

structure SocketAddr where
  ip : String
  port : Nat

structure ArrivingRequest extends RequestHead where
  remote : SocketAddr
  body : List BodyPiece

def Uri.asStr : Uri → List Char
  | none => []
  | some target =>
    let text := target.rawPath.toList ++ match target.query with
      | none => []
      | some query => '?' :: query.toList
    if text.isEmpty then ['/'] else text

def RequestHead.getText (request : RequestHead) (name : String) : Option (List Char) :=
  (request.getAll name.toList).head?.bind headerText

def headerBytes (request : RequestHead) : Nat := (request.headers.map fun header =>
    header.1.utf8ByteSize + header.2.length + 4).sum

def clientAddress (remote : SocketAddr) (request : RequestHead)
    (trustedProxies : List String) : String :=
  if trustedProxies.any fun proxy => proxy == "*" || proxy == remote.ip then
    let forwarded := do
      let value ← request.getText "x-forwarded-for"
      let first ← (value.splitOnP (· == ',')).head?
      return trimBlank first
    match forwarded with
    | none => remote.ip
    | some address =>
      if !address.isEmpty && address.length ≤ 128 then String.ofList address else remote.ip
  else remote.ip

def allowedCorsOrigin (request : RequestHead) (configured : List String) : Option String := do
  let origin ← request.getText "origin"
  let allowed ← configured.find? fun allowed => allowed == "*" || allowed.toList == origin
  return if allowed == "*" then "*" else String.ofList origin

structure HandlerConfig where
  maxRequests : Nat
  metricsPath : String
  maxHeaders : Nat
  maxHeaderBytes : Nat
  maxBodyBytes : Nat
  maxResponseBytes : Nat
  trustedProxies : List String
  corsOrigins : List String
  telemetryHeaders : Bool
  /-- `advertised_http3` -/
  altSvc : Option String
  responseCachePaths : List String
  responseCacheVaryHeaders : List String
  responseCachePurgePath : Option String
  purge : PurgeConfig

def HandlerConfig.keys (config : HandlerConfig) : CacheKeyConfig := { config.purge.cache with
    responseCachePaths := config.responseCachePaths
    responseCacheVaryHeaders := config.responseCacheVaryHeaders }

structure OwnedHttpRequest where
  remote : SocketAddr
  client : String
  method : String
  target : List Char
  headers : List (String × List UInt8)
  body : List UInt8
  requestId : String
  traceparent : String

structure HandlerMetrics where
  requests : Nat
  requestBytes : Nat
  errors : Nat
  responseCacheHits : Nat
  responseCacheMisses : Nat
  responseCacheStale : Nat
  responseCacheCollapsed : Nat

/-- `log` are the lines of the invalidation log, where one is configured and can
be opened; `locked` the keys whose lock another request holds; `calls` the calls
of PHP so far. -/
structure HandlerState (Windows : Type) where
  now : Nat
  requestCount : Nat
  shutdown : Bool
  nextRequestId : Nat
  metrics : HandlerMetrics
  rateLimits : Windows
  cache : ResponseCache
  locked : List String
  log : Option (Option (List String))
  nextCacheInvalidationAt : Nat
  cacheInvalidationOffset : Nat
  calls : List OwnedHttpRequest

structure Surroundings (Windows : Type) where
  /-- SHA-256 of a text. -/
  digest : List Char → List UInt8
  php : OwnedHttpRequest → PhpHttpResponse
  renderMetrics : HandlerState Windows → List UInt8
  /-- The token buckets of `rate_limited`. -/
  rateLimited : Windows → Nat → String → Bool × Windows
  requestIdPrefix : String
  traceparent : RequestHead → String
  /-- How many sequence numbers `traceparent` takes. -/
  traceIds : RequestHead → Nat
  serverTiming : String
  /-- The JSON parser for the body of a purge request. -/
  purgePayload : List UInt8 → Option PurgePayload
  logWritable : Bool
  /-- The cache once the holder of the lock of a key is done. -/
  afterWait : ResponseCache → String → ResponseCache

def HandlerState.begin (config : HandlerConfig)
    (surroundings : Surroundings Windows) (state : HandlerState Windows)
    (request : RequestHead) : String × HandlerState Windows :=
  let state := { state with
    requestCount := state.requestCount + 1
    shutdown := state.shutdown || config.maxRequests ≤ state.requestCount + 1
    metrics := { state.metrics with requests := state.metrics.requests + 1 } }
  let header := (request.getText "x-request-id").map String.ofList
  match requestIdentifier header with
  | some requestId => (requestId, { state with
      nextRequestId := state.nextRequestId + surroundings.traceIds request })
  | none => (s!"{surroundings.requestIdPrefix}-{state.nextRequestId}", { state with
        nextRequestId := state.nextRequestId + 1 + surroundings.traceIds request })

structure Telemetry where
  altSvc : Option String
  telemetryHeaders : Bool
  requestId : String
  traceparent : String
  serverTiming : String

def insertHeader (headers : List (String × String))
    (line : String × String) : List (String × String) :=
  headers.filter (fun header => header.1 != line.1) ++ [line]

def Telemetry.shown (telemetry : Telemetry) : List (String × String) :=
  if telemetry.telemetryHeaders then
    [("x-request-id", telemetry.requestId), ("traceparent", telemetry.traceparent),
      ("server-timing", telemetry.serverTiming)]
  else []

def corsLines : Option String → List (String × String)
  | none => []
  | some origin => [("access-control-allow-origin", origin), ("access-control-allow-methods",
        "GET, POST, PUT, PATCH, DELETE, OPTIONS"),
      ("access-control-allow-headers", "authorization, content-type, x-request-id, traceparent"),
      ("vary", "Origin")]

def Telemetry.advertised (telemetry : Telemetry) : List (String × String) :=
  (telemetry.altSvc.map fun value => ("alt-svc", value)).toList

def Telemetry.finish (telemetry : Telemetry) (response : PhpHttpResponse)
    (corsOrigin : Option String) : PhpHttpResponse :=
  let kept := response.headers.filter fun header => header.1 != "x-pam-route-template"
  let written := telemetry.shown ++ telemetry.advertised ++ corsLines corsOrigin
  { response with headers := written.foldl insertHeader kept }

def HandlerState.finished (state : HandlerState Windows)
    (response : PhpHttpResponse) : HandlerState Windows :=
  if 500 ≤ response.status ∧ response.status ≤ 599 then
    { state with metrics := { state.metrics with errors := state.metrics.errors + 1 } }
  else state

def metricsResponse (surroundings : Surroundings Windows)
    (state : HandlerState Windows) : PhpHttpResponse where
  status := 200
  headers := [("content-type", "text/plain; version=0.0.4; charset=utf-8")]
  body := surroundings.renderMetrics state

def errorResponse (status : Nat) (reason message : String) : PhpHttpResponse where
  status := status
  headers := [("content-type", "application/json; charset=utf-8")]
  body := asciiBytes ("\x7b\"error\":\"" ++ reason ++ "\",\"message\":\"" ++ message ++ "\"\x7d")

def internalError : PhpHttpResponse := errorResponse 500 "Internal Server Error"
    "The request failed. Use the request ID to inspect server logs."

def headersTooLarge : PhpHttpResponse := errorResponse 431 "Request Header Fields Too Large"
    "request headers exceed the configured limit"

def rateLimitExceeded : PhpHttpResponse :=
  let response := errorResponse 429 "Too Many Requests" "rate limit exceeded"
  { response with headers := insertHeader response.headers ("retry-after", "1") }

def preflightResponse : PhpHttpResponse where
  status := 204
  headers := []
  body := []

def bodyTooLarge : PhpHttpResponse := errorResponse 413 "Payload Too Large"
    "request body exceeds the configured limit"

def bodyTimedOut : PhpHttpResponse := errorResponse 408 "Request Timeout"
    "request body was not received before its timeout"

def HandlerState.countBytes (state : HandlerState Windows) (bytes : Nat) : HandlerState Windows :=
  { state with metrics := { state.metrics with
      requestBytes := state.metrics.requestBytes + bytes } }

def HandlerState.callPhp (surroundings : Surroundings Windows)
    (state : HandlerState Windows) (call : OwnedHttpRequest) :
    PhpHttpResponse × HandlerState Windows :=
  (surroundings.php call, { state with calls := state.calls ++ [call] })

inductive BodyRead where
  | read (bytes : List UInt8)
  | tooLarge
  | late
  | broken

def readBody (limit : Nat) (collected : List UInt8) : List BodyPiece → BodyRead
  | [] => .read collected
  | .data bytes :: rest =>
    if limit < collected.length + bytes.length then .tooLarge
    else readBody limit (collected ++ bytes) rest
  | .late :: _ => .late
  | .broken :: _ => .broken

def HandlerState.synchronizeCacheInvalidations
    (state : HandlerState Windows) (force : Bool) : HandlerState Windows :=
  match state.log with
  | none => state
  | some file =>
    if !force && state.now < state.nextCacheInvalidationAt then state
    else
      let state := { state with nextCacheInvalidationAt := state.now + 100 }
      match file with
      | none => state
      | some lines =>
        let truncated := lines.length < state.cacheInvalidationOffset
        let offset := if truncated then 0 else state.cacheInvalidationOffset
        let read := readLines truncated (lines.drop offset)
        { state with
          cacheInvalidationOffset := lines.length
          cache := applyInvalidations state.cache read.purgeAll read.tags }

def HandlerState.publishCacheInvalidation
    (surroundings : Surroundings Windows) (state : HandlerState Windows)
    (tag : Option String) : HandlerState Windows × Bool :=
  match state.log with
  | none => (state, true)
  | some _ =>
    let state := state.synchronizeCacheInvalidations true
    if surroundings.logWritable then
      let lines := state.log.join.getD [] ++ [renderInvalidation tag]
      ({ state with
        log := some (some lines)
        cacheInvalidationOffset := lines.length }, true)
    else (state, false)

def purgeRefusalReason : Nat → String
  | 405 => "Method Not Allowed"
  | 404 => "Not Found"
  | 401 => "Unauthorized"
  | _ => "Bad Request"

def handleCachePurge (config : HandlerConfig)
    (surroundings : Surroundings Windows) (state : HandlerState Windows)
    (request : RequestHead) (body : List UInt8) : PhpHttpResponse × HandlerState Windows :=
  let purge : PurgeRequest := {
    method := request.method
    authorization := (request.getText "authorization").map String.ofList
    payload := surroundings.purgePayload body }
  match purgeTarget config.purge purge with
  | .error (status, message) => (errorResponse status (purgeRefusalReason status) message, state)
  | .ok tag =>
    match state.publishCacheInvalidation surroundings tag with
    | (state, false) => (internalError, state)
    | (state, true) =>
      let (cache, purged) := purgeCachedResponses state.cache tag
      ({ status := 200
         headers := [("content-type", "application/json; charset=utf-8"),
           ("cache-control", "no-store")]
         body := asciiBytes s!"\x7b\"purged\":{purged}\x7d" }, { state with cache := cache })

def CachedResponse.response (cached : CachedResponse) : PhpHttpResponse where
  status := cached.status
  headers := cached.headers
  body := cached.body

def HandlerState.cachedResponse (state : HandlerState Windows) (key : String) (allowStale : Bool) :
    Option CachedResponse × HandlerState Windows :=
  match Pam.Server.cachedResponse state.cache key allowStale state.now with
  | (cache, .hit cached) => (some cached, { state with cache := cache })
  | (cache, .expired) => (none, { state with cache := removeExpired cache key })
  | (cache, .miss) => (none, { state with cache := cache })

def HandlerState.countHit (state : HandlerState Windows) : HandlerState Windows := { state with
    metrics := { state.metrics with responseCacheHits := state.metrics.responseCacheHits + 1 } }

def HandlerState.countMiss (state : HandlerState Windows) : HandlerState Windows := { state with
    metrics := { state.metrics with responseCacheMisses := state.metrics.responseCacheMisses + 1 } }

def executeAndStore (config : HandlerConfig)
    (surroundings : Surroundings Windows) (state : HandlerState Windows)
    (call : OwnedHttpRequest) (key : Option String) : PhpHttpResponse × HandlerState Windows :=
  let (answer, state) := state.callPhp surroundings call
  let (response, tags) := extractCacheTags config.purge.tagHeader answer
  match key with
  | none => (response, state)
  | some key =>
    if cacheableResponse response then
      if response.body.length ≤ config.maxResponseBytes then
        let settings := config.purge.cache
        let cached : CachedResponse := {
          status := response.status
          headers := response.headers
          body := response.body
          expiresAt := state.now + settings.responseCacheTtlMs
          staleUntil := state.now + min (settings.responseCacheTtlMs +
            settings.responseCacheStaleWhileRevalidateMs) (2 ^ 64 - 1)
          lastAccess := state.cache.clock
          tags := tags
          startedAt := 0 }
        let cache := { state.cache with clock := state.cache.clock + 1 }
        (cached.response, { state with
          cache := storeCachedResponse settings cache key cached state.now })
      else
        (errorResponse 500 "Internal Server Error"
          "cannot buffer cacheable response: length limit exceeded", state)
    else (response, state)

def dispatchCached (config : HandlerConfig)
    (surroundings : Surroundings Windows) (state : HandlerState Windows)
    (call : OwnedHttpRequest) (key : String) : PhpHttpResponse × HandlerState Windows :=
  match state.cachedResponse key false with
  | (some cached, state) => (cached.response, state.countHit)
  | (none, state) =>
    let state := state.countMiss
    if state.locked.contains key then
      match state.cachedResponse key true with
      | (some cached, state) => (cached.response, { state with metrics := { state.metrics with
            responseCacheStale := state.metrics.responseCacheStale + 1 } })
      | (none, state) =>
        let state := { state with
          cache := surroundings.afterWait state.cache key
          metrics := { state.metrics with
            responseCacheCollapsed := state.metrics.responseCacheCollapsed + 1 } }
        match state.cachedResponse key false with
        | (some cached, state) => (cached.response, state.countHit)
        | (none, state) => executeAndStore config surroundings state call (some key)
    else executeAndStore config surroundings state call (some key)

def HandlerConfig.telemetry (config : HandlerConfig)
    (surroundings : Surroundings Windows) (request : RequestHead)
    (altSvc : Option String) (requestId : String) : Telemetry where
  altSvc := altSvc
  telemetryHeaders := config.telemetryHeaders
  requestId := requestId
  traceparent := surroundings.traceparent request
  serverTiming := surroundings.serverTiming

def Telemetry.answer (telemetry : Telemetry) (corsOrigin : Option String)
    (answer : PhpHttpResponse × HandlerState Windows) : PhpHttpResponse × HandlerState Windows :=
  (telemetry.finish answer.1 corsOrigin, answer.2.finished answer.1)

def ownedHttpRequest (surroundings : Surroundings Windows)
    (request : ArrivingRequest) (client requestId : String)
    (target : List Char) (body : List UInt8) : OwnedHttpRequest where
  remote := request.remote
  client := client
  method := request.method
  target := target
  headers := request.headers
  body := body
  requestId := requestId
  traceparent := surroundings.traceparent request.toRequestHead

def httpRespond (config : HandlerConfig)
    (surroundings : Surroundings Windows) (state : HandlerState Windows)
    (request : ArrivingRequest) (client requestId : String) :
    PhpHttpResponse × HandlerState Windows :=
  match readBody config.maxBodyBytes [] request.body with
  | .tooLarge => (bodyTooLarge, state)
  -- Every error of `to_bytes` counts as an oversized body.
  | .broken => (bodyTooLarge, state)
  | .late => (bodyTimedOut, state)
  | .read body =>
    let state := (state.countBytes body.length).synchronizeCacheInvalidations false
    if config.responseCachePurgePath = some request.uri.path then
      handleCachePurge config surroundings state request.toRequestHead body
    else
      let call := ownedHttpRequest surroundings request client requestId request.uri.asStr body
      match responseCacheKey surroundings.digest config.keys request.toRequestHead with
      | none => executeAndStore config surroundings state call none
      | some key => dispatchCached config surroundings state call (String.ofList key)

def httpDispatch (config : HandlerConfig)
    (surroundings : Surroundings Windows) (state : HandlerState Windows)
    (request : ArrivingRequest) : PhpHttpResponse × HandlerState Windows :=
  let (requestId, state) := state.begin config surroundings request.toRequestHead
  let telemetry := config.telemetry surroundings request.toRequestHead config.altSvc requestId
  if request.uri.path = config.metricsPath then
    telemetry.answer none (metricsResponse surroundings state, state)
  else if config.maxHeaders < request.headers.length ∨
      config.maxHeaderBytes < headerBytes request.toRequestHead then
    telemetry.answer none (headersTooLarge, state)
  else
    let client := clientAddress request.remote request.toRequestHead config.trustedProxies
    let (limited, windows) := surroundings.rateLimited state.rateLimits state.now client
    let state := { state with rateLimits := windows }
    if limited then telemetry.answer none (rateLimitExceeded, state)
    else
      let corsOrigin := allowedCorsOrigin request.toRequestHead config.corsOrigins
      if request.method = "OPTIONS" ∧
          request.containsKey "access-control-request-method" = true then
        telemetry.answer corsOrigin (preflightResponse, state)
      else
        telemetry.answer corsOrigin (httpRespond config surroundings state request client requestId)

/-- `handle_http3_request` from the body on; `none` where the request stream
fails and no response is sent. -/
def http3Respond (config : HandlerConfig)
    (surroundings : Surroundings Windows) (state : HandlerState Windows)
    (request : ArrivingRequest) (client requestId : String) :
    Option (PhpHttpResponse × HandlerState Windows) :=
  match readBody config.maxBodyBytes [] request.body with
  | .broken => none
  | .late => some (bodyTimedOut, state)
  | .tooLarge => some (bodyTooLarge, state)
  | .read body => some ((state.countBytes body.length).callPhp surroundings
      (ownedHttpRequest surroundings request client requestId request.uri.display body))

def handleHttp3Request (config : HandlerConfig)
    (surroundings : Surroundings Windows) (state : HandlerState Windows)
    (request : ArrivingRequest) : Option PhpHttpResponse × HandlerState Windows :=
  let (requestId, state) := state.begin config surroundings request.toRequestHead
  let telemetry := config.telemetry surroundings request.toRequestHead none requestId
  let send (answer : PhpHttpResponse × HandlerState Windows) :
      Option PhpHttpResponse × HandlerState Windows := (some answer.1, answer.2)
  if request.uri.path = config.metricsPath then
    send (telemetry.answer none (metricsResponse surroundings state, state))
  else if config.maxHeaders < request.headers.length ∨
      config.maxHeaderBytes < headerBytes request.toRequestHead then
    send (telemetry.answer none (headersTooLarge, state))
  else
    let client := clientAddress request.remote request.toRequestHead config.trustedProxies
    let (limited, windows) := surroundings.rateLimited state.rateLimits state.now client
    let state := { state with rateLimits := windows }
    if limited then send (telemetry.answer none (rateLimitExceeded, state))
    else
      let corsOrigin := allowedCorsOrigin request.toRequestHead config.corsOrigins
      if request.method = "OPTIONS" ∧
          request.containsKey "access-control-request-method" = true then
        send (telemetry.answer corsOrigin (preflightResponse, state))
      else
        match http3Respond config surroundings state request client requestId with
        | none => (none, state)
        | some answer => send (telemetry.answer corsOrigin answer)

end Pam.Server
