import Pam.Api.Response
import Pam.Foundation.Run

namespace Pam.Api

open Pam.Foundation Pam.Protocol List Option Nat Table

/-! `IdempotencyMiddleware` over `MemoryIdempotencyStore`. The handler may
suspend, so a request is two steps: up to its call, and from its result on. -/

/-- `Pam\Http\Request`. The server parses neither a method nor a path with a
line feed. -/
structure Request where
  method : PhpString
  path : PhpString
  query : List (PhpString × PhpValue)
  headers : Table PhpString (List PhpString)
  body : PhpString
  method_line : 0x0A ∉ method
  path_line : 0x0A ∉ path

def Request.getHeader (request : Request) (name : PhpString) : Option PhpString :=
  match (request.headers.lookup (strtolower name)).getD [] with
  | [] => none
  | values => some ([0x2C, 0x20].intercalate values)

structure Request.Same (first second : Request) : Prop where
  method : first.method = second.method
  path : first.path = second.path
  query : first.query = second.query
  body : first.body = second.body

structure IdempotencyRecord where
  fingerprint : PhpString
  response : ResponseSnapshot
  expiresAt : Nat

structure MemoryIdempotencyStore where
  records : Table PhpString IdempotencyRecord
  maximumRecords : Nat
  maximum_positive : 1 ≤ maximumRecords

namespace MemoryIdempotencyStore

def get (store : MemoryIdempotencyStore) (key : PhpString) (now : Nat) :
    Option IdempotencyRecord × MemoryIdempotencyStore :=
  match store.records.lookup key with
  | none => (none, store)
  | some record =>
    if record.expiresAt ≤ now then (none, { store with records := store.records.erase key })
    else (some record, store)

def put (store : MemoryIdempotencyStore) (key : PhpString)
    (record : IdempotencyRecord) : Except Throwable MemoryIdempotencyStore :=
  if (store.records.lookup key).isNone && store.records.size ≥ store.maximumRecords then
    .error (.runtime "The bounded idempotency store is full.")
  else .ok { store with records := store.records.assign key record }

variable {store : MemoryIdempotencyStore}

theorem get_of_live (found : store.records.lookup key = some record)
    (live : now < record.expiresAt) : store.get key now = (some record, store) := by
  rw [get, found]
  exact if_neg (not_le.mpr live)

theorem lookup_get {other : PhpString} {record : IdempotencyRecord}
    {now : Nat} (found : store.records.lookup other = some record) (live : now < record.expiresAt) :
    (store.get key now).2.records.lookup other = some record := by
  rw [get]
  split
  · exact found
  next present =>
  split
  next expired =>
    have away : other ≠ key := by
      intro same
      rw [same, present, some.injEq] at found
      rw [found] at expired
      exact absurd live (not_lt.mpr expired)
    rw [AList.lookup_erase_ne away]
    exact found
  · exact found

end MemoryIdempotencyStore

structure IdempotencyMiddleware where
  ttlSeconds : Nat
  required : Bool
  ttl_positive : 1 ≤ ttlSeconds

def idempotencyKey : PhpString := asciiBytes "idempotency-key"

def idempotencyReplayed : PhpString := asciiBytes "idempotency-replayed"

def trueText : PhpString := asciiBytes "true"

/-- At most 255 bytes, all of them visible; the empty key counts as missing. -/
def isKey (key : PhpString) : Bool :=
  key.length ≤ 255 && key.all fun byte => 0x21 ≤ byte && byte ≤ 0x7E

def Request.key (request : Request) : Option PhpString :=
  (request.getHeader idempotencyKey).filter fun key => !key.isEmpty && isKey key

inductive Begun where
  | threw (failure : Throwable)
  | passed
  | replayed (response : Response)
  | handling (key fingerprint : PhpString) (now : Nat)

variable (sha256 : PhpString → PhpString)

def Request.fingerprintText (request : Request) : PhpString :=
  request.method ++ 0x0A :: (request.path ++ 0x0A :: request.body)

def Request.fingerprint (request : Request) : PhpString := sha256 request.fingerprintText

def IdempotencyRecord.answer (record : IdempotencyRecord)
    (fingerprint : PhpString) (response : Response) : Begun :=
  if record.fingerprint != fingerprint then
    .threw (.httpException 409 .conflict "Idempotency-Key was reused with another request.")
  else
    match (do
      let restored ← record.response.restore response
      orInvalid (restored.header idempotencyReplayed trueText)) with
    | .ok delivered => .replayed delivered
    | .error failure => .threw failure

namespace IdempotencyMiddleware

def begins (middleware : IdempotencyMiddleware)
    (store : MemoryIdempotencyStore) (now : Nat) (request : Request)
    (response : Response) : Begun × MemoryIdempotencyStore :=
  match request.getHeader idempotencyKey with
  | none | some [] =>
    if middleware.required then
      (.threw (.httpException 422 .validationFailed "Idempotency-Key is required."), store)
    else (.passed, store)
  | some key =>
    if !isKey key then
      (.threw (.httpException 422 .validationFailed "Idempotency-Key is invalid."), store)
    else
      match store.get key now with
      | (some record, store) => (record.answer (request.fingerprint sha256) response, store)
      | (none, store) => (.handling key (request.fingerprint sha256) now, store)

/-- A sum above `PHP_INT_MAX` is a float, which no record takes. -/
def ends (middleware : IdempotencyMiddleware)
    (store : MemoryIdempotencyStore) (key fingerprint : PhpString) (now : Nat)
    (result : Response) : Except Throwable MemoryIdempotencyStore :=
  if phpIntMax < (now + middleware.ttlSeconds : Nat) then .error .typeError else store.put key {
    fingerprint := fingerprint
    response := .capture result
    expiresAt := now + middleware.ttlSeconds }

end IdempotencyMiddleware

structure Flight where
  key : PhpString
  request : Request
  fingerprint : PhpString
  now : Nat

/-- History: a handler that has returned a response. -/
structure Completion where
  key : PhpString
  request : Request
  response : Response
  expiresAt : Nat

structure ApiState where
  clock : Nat
  store : MemoryIdempotencyStore
  inFlight : Table Nat Flight
  completions : List Completion

inductive ApiLabel where
  | tick (seconds : Nat)
  | arrive (id : Nat) (request : Request) (response : Response)
  | returns (id : Nat) (result : Response)
  | throws (id : Nat)

variable (middleware : IdempotencyMiddleware)

def ApiState.arrive (state : ApiState) (id : Nat) (request : Request)
    (response : Response) : ApiState :=
  match middleware.begins sha256 state.store state.clock request response with
  | (.handling key fingerprint now, store) => { state with
      store := store
      inFlight := state.inFlight.insert id ⟨key, request, fingerprint, now⟩ }
  | (_, store) => { state with store := store }

def ApiState.returns (state : ApiState) (id : Nat) (flight : Flight)
    (result : Response) : ApiState := { state with
    store :=
      match middleware.ends state.store flight.key flight.fingerprint flight.now result with
      | .ok store => store
      | .error _ => state.store
    inFlight := state.inFlight.erase id
    completions := state.completions ++ [
      { key := flight.key
        request := flight.request
        response := result
        expiresAt := flight.now + middleware.ttlSeconds }] }

def ApiState.next (state : ApiState) : ApiLabel → Option ApiState
  | .tick seconds => some { state with clock := state.clock + seconds }
  | .arrive id request response =>
    if id ∈ state.inFlight then none else some (state.arrive sha256 middleware id request response)
  | .returns id result =>
    (state.inFlight.lookup id).map fun flight => state.returns middleware id flight result
  | .throws id =>
    if id ∈ state.inFlight then some { state with inFlight := state.inFlight.erase id } else none

def ApiState.initial (maximumRecords : Nat) (positive : 1 ≤ maximumRecords) : ApiState where
  clock := 0
  store := ⟨∅, maximumRecords, positive⟩
  inFlight := ∅
  completions := []

def apiMachine (maximumRecords : Nat) (positive : 1 ≤ maximumRecords) :
    Machine ApiState ApiLabel where
  start := .initial maximumRecords positive
  next := ApiState.next sha256 middleware

/-- The recorded status, body and headers are delivered, the mark of a replay
apart. Other headers are those of the given response and the default content
type. -/
structure Replays (given recorded delivered : Response) : Prop where
  status : delivered.statusCode = recorded.statusCode
  body : delivered.body = recorded.body
  headers : ∀ {name values}, name ≠ idempotencyReplayed →
    recorded.headers.lookup name = some values → values ≠ [] →
    delivered.headers.lookup name = some values
  marked : delivered.headers.lookup idempotencyReplayed = some [trueText]
  others : ∀ {name}, name ≠ idempotencyReplayed → name ≠ contentType →
    recorded.headers.lookup name = none → delivered.headers.lookup name = given.headers.lookup name

def Completion.Answers (completion : Completion) (state : ApiState) (request : Request) : Prop :=
  completion ∈ state.completions ∧ request.key = some completion.key ∧
    state.clock < completion.expiresAt

/-- No handler completes for a request within the lifetime of an earlier
completion of its key; such a request is answered by the recorded response, or
refused with 409 where it asks for something else. -/
structure AtMostOnce (state : ApiState) (label : ApiLabel) : Prop where
  once : ∀ {id result flight}, label = .returns id result → state.inFlight.lookup id = some flight →
    ∀ completion ∈ state.completions, completion.key = flight.key →
      completion.expiresAt ≤ flight.now
  replayed : ∀ {id request given} {completion : Completion},
    label = .arrive id request given → completion.Answers state request →
    request.Same completion.request → ∃ delivered,
      (middleware.begins sha256 state.store state.clock request given).1 = .replayed delivered ∧
      Replays given completion.response delivered
  refused : ∀ {id request given} {completion : Completion},
    label = .arrive id request given → completion.Answers state request →
    ¬ request.Same completion.request →
    (middleware.begins sha256 state.store state.clock request given).1 =
      .threw (.httpException 409 .conflict "Idempotency-Key was reused with another request.")

/-- The guarantee holds where no request of the key is in flight, requests that
differ in their query differ elsewhere too, texts do not collide, no recorded
header name is an integer to PHP, the expiry is an integer, and the store has
room. -/
def Careful (state : ApiState) : ApiLabel → Prop
  | .arrive _ request _ =>
    (∀ {id flight}, state.inFlight.lookup id = some flight → request.key ≠ some flight.key) ∧
    ∀ {completion : Completion}, completion.Answers state request →
      (request.fingerprintText = completion.request.fingerprintText →
        request.query = completion.request.query) ∧
      (request.fingerprint sha256 = completion.request.fingerprint sha256 →
        request.fingerprintText = completion.request.fingerprintText) ∧
      ∀ name ∈ completion.response.headers, isIntegerKey name = false
  | .returns id _ =>
    ∀ {flight}, state.inFlight.lookup id = some flight →
      ((flight.now + middleware.ttlSeconds : Nat) : Int) ≤ phpIntMax ∧
        (flight.key ∈ state.store.records ∨
          state.store.records.size < state.store.maximumRecords)
  | _ => True

variable {sha256} {middleware}

theorem Request.fingerprintText_inj {first second : Request}
    (same : first.fingerprintText = second.fingerprintText) :
    first.method = second.method ∧ first.path = second.path ∧ first.body = second.body := by
  obtain ⟨methods, rest⟩ := append_cons_inj first.method_line second.method_line same
  obtain ⟨paths, bodies⟩ := append_cons_inj first.path_line second.path_line rest
  exact ⟨methods, paths, bodies⟩

theorem Request.Same.fingerprint {first second : Request} (same : first.Same second) :
    first.fingerprint sha256 = second.fingerprint sha256 := by
  rw [Request.fingerprint, Request.fingerprintText, same.method, same.path, same.body]
  rfl

variable {store : MemoryIdempotencyStore} {now : Nat} {request : Request}

theorem begins_of_key (valid : request.key = some key) :
    middleware.begins sha256 store now request response = ((match (store.get key now).1 with
        | some record => record.answer (request.fingerprint sha256) response
        | none => .handling key (request.fingerprint sha256) now), (store.get key now).2) := by
  obtain ⟨found, accepted⟩ := filter_eq_some_iff.mp valid
  rw [IdempotencyMiddleware.begins, found]
  cases key with
  | nil => cases accepted
  | cons byte rest =>
    have isKey : (!isKey (byte :: rest)) = false := by simpa using accepted
    simp only [isKey, Bool.false_eq_true, if_false]
    split
    next read => rw [read]
    next read => rw [read]

theorem begins_of_no_key (missing : request.key = none) :
    (middleware.begins sha256 store now request response).2 = store ∧
      ∀ key fingerprint started, (middleware.begins sha256 store now request response).1 ≠
          .handling key fingerprint started := by
  have rejected := filter_eq_none_iff.mp missing
  rw [IdempotencyMiddleware.begins]
  split
  · split <;> exact ⟨rfl, nofun⟩
  · split <;> exact ⟨rfl, nofun⟩
  next key nonempty found =>
  have refused : (!isKey key) = true := by
    have refused := rejected key found
    cases key with
    | nil => exact absurd rfl nonempty
    | cons byte rest => simpa using refused
  rw [refused]
  exact ⟨rfl, nofun⟩

theorem lookup_begins (found : store.records.lookup key = some record)
    (live : now < record.expiresAt) :
    (middleware.begins sha256 store now request response).2.records.lookup key = some record := by
  cases valid : request.key with
  | none =>
    rw [(begins_of_no_key valid).1]
    exact found
  | some asked =>
    rw [begins_of_key valid]
    exact MemoryIdempotencyStore.lookup_get found live

theorem begins_handling (handling : (middleware.begins sha256 store now request response).1 =
      .handling key fingerprint started) :
    request.key = some key ∧ fingerprint = request.fingerprint sha256 ∧
      started = now ∧ (store.get key now).1 = none := by
  cases valid : request.key with
  | none => exact absurd handling ((begins_of_no_key valid).2 _ _ _)
  | some asked =>
    rw [begins_of_key valid] at handling
    cases read : (store.get asked now).1 with
    | none =>
      rw [read] at handling
      cases handling
      exact ⟨rfl, rfl, rfl, read⟩
    | some record =>
      rw [read] at handling
      dsimp only [IdempotencyRecord.answer] at handling
      split at handling
      · cases handling
      · split at handling <;> cases handling

theorem answer_of_other {record : IdempotencyRecord} (other : record.fingerprint ≠ fingerprint) :
    record.answer fingerprint response = .threw (.httpException 409 .conflict
        "Idempotency-Key was reused with another request.") := by
  rw [IdempotencyRecord.answer, if_pos (bne_iff_ne.mpr other)]

theorem answer_replays {record : IdempotencyRecord} (captured : record.response = .capture recorded)
    (textual : ∀ name ∈ recorded.headers, isIntegerKey name = false) (given : Response) :
    ∃ delivered, record.answer record.fingerprint given = .replayed delivered ∧
      Replays given recorded delivered := by
  obtain ⟨restored, done, status, -, lookups⟩ := ResponseSnapshot.restore_capture textual given
  obtain ⟨delivered, marked, rewritten⟩ := header_rewritten
    (show isHeaderName idempotencyReplayed = true by decide +kernel)
    (show isHeaderValue trueText = true by decide)
  refine ⟨delivered, ?_, ?_⟩
  · rw [IdempotencyRecord.answer, bne_self_eq_false, captured, done]
    dsimp only [bind, Except.bind]
    rw [marked]
    rfl
  · constructor
    · rw [rewritten.statusCode, send_statusCode, status]
    · rw [rewritten.body, send_body]
    · intro name values away found nonempty
      have held : restored.headers.lookup name = some values := by
        rw [lookups, found, filter_some_pos (by simpa using nonempty)]
        rfl
      rw [rewritten.headers, lookup_assign, if_neg away,
        lookup_send (.inr (by rw [held]; rfl)), held]
    · rw [rewritten.headers, lookup_assign, if_pos rfl]
    · intro name away other absent
      have held : restored.headers.lookup name = given.headers.lookup name := by
        rw [lookups, absent]
        rfl
      rw [rewritten.headers, lookup_assign, if_neg away, lookup_send (.inl other), held]

variable (sha256) in
def Completion.record (completion : Completion) : IdempotencyRecord where
  fingerprint := completion.request.fingerprint sha256
  response := .capture completion.response
  expiresAt := completion.expiresAt

variable (sha256) in
structure Settled (state : ApiState) : Prop where
  alone : ∀ {first second : Nat} {flight other : Flight},
    state.inFlight.lookup first = some flight →
    state.inFlight.lookup second = some other → flight.key = other.key → first = second
  past : ∀ {id flight}, state.inFlight.lookup id = some flight → flight.now ≤ state.clock
  fingerprinted : ∀ {id flight}, state.inFlight.lookup id = some flight →
    flight.fingerprint = flight.request.fingerprint sha256
  spent : ∀ {id flight}, state.inFlight.lookup id = some flight →
    ∀ completion ∈ state.completions, completion.key = flight.key →
      completion.expiresAt ≤ flight.now
  kept : ∀ completion ∈ state.completions, state.clock < completion.expiresAt →
    state.store.records.lookup completion.key = some (completion.record sha256)

namespace Settled

theorem initial (maximumRecords : Nat) (positive : 1 ≤ maximumRecords) :
    Settled sha256 (.initial maximumRecords positive) where
  alone found := nomatch found
  past found := nomatch found
  fingerprinted found := nomatch found
  spent found := nomatch found
  kept := nofun

variable (settled : Settled sha256 state)
include settled

theorem tick : Settled sha256 { state with clock := state.clock + seconds } where
  alone := settled.alone
  past found := le_add_right_of_le (settled.past found)
  fingerprinted := settled.fingerprinted
  spent := settled.spent
  kept completion member live := settled.kept completion member
      (lt_of_le_of_lt (Nat.le_add_right ..) live)

theorem throws (id : Nat) : Settled sha256 { state with inFlight := state.inFlight.erase id } where
  alone first second := settled.alone (lookup_of_lookup_erase first).1
      (lookup_of_lookup_erase second).1
  past found := settled.past (lookup_of_lookup_erase found).1
  fingerprinted found := settled.fingerprinted (lookup_of_lookup_erase found).1
  spent found := settled.spent (lookup_of_lookup_erase found).1
  kept := settled.kept

theorem lookup (middleware : IdempotencyMiddleware) (request : Request) (response : Response) :
    ∀ completion ∈ state.completions, state.clock < completion.expiresAt →
      (middleware.begins sha256 state.store state.clock request
        response).2.records.lookup completion.key = some (completion.record sha256) := by
  intro completion member live
  exact lookup_begins (settled.kept completion member live) live

theorem over_of_unread (unread : (state.store.get key state.clock).1 = none) :
    ∀ completion ∈ state.completions, completion.key = key →
      completion.expiresAt ≤ state.clock := by
  intro completion member same
  by_contra live
  have alive := not_le.mp live
  have found := settled.kept completion member alive
  rw [same] at found
  rw [MemoryIdempotencyStore.get_of_live found alive] at unread
  cases unread

theorem arrive {id : Nat} {request : Request} {response : Response}
    (fresh : ∀ {id flight}, state.inFlight.lookup id = some flight →
      request.key ≠ some flight.key) :
    Settled sha256 (state.arrive sha256 middleware id request response) := by
  have kept := settled.lookup middleware request response
  rw [ApiState.arrive]
  split
  next begun =>
    obtain ⟨valid, rfl, rfl, unread⟩ := begins_handling (congrArg Prod.fst begun)
    rw [begun] at kept
    constructor
    · intro first second flight other firstFound secondFound same
      rcases lookup_of_lookup_insert firstFound with ⟨rfl, rfl⟩ | ⟨-, firstOld⟩
      · rcases lookup_of_lookup_insert secondFound with ⟨rfl, rfl⟩ | ⟨-, secondOld⟩
        · rfl
        · exact absurd (valid.trans (congrArg some same)) (fresh secondOld)
      · rcases lookup_of_lookup_insert secondFound with ⟨rfl, rfl⟩ | ⟨-, secondOld⟩
        · exact absurd (valid.trans (congrArg some same.symm)) (fresh firstOld)
        · exact settled.alone firstOld secondOld same
    · intro other flight found
      rcases lookup_of_lookup_insert found with ⟨rfl, rfl⟩ | ⟨-, old⟩
      · exact le_refl _
      · exact settled.past old
    · intro other flight found
      rcases lookup_of_lookup_insert found with ⟨rfl, rfl⟩ | ⟨-, old⟩
      · rfl
      · exact settled.fingerprinted old
    · intro other flight found
      rcases lookup_of_lookup_insert found with ⟨rfl, rfl⟩ | ⟨-, old⟩
      · exact settled.over_of_unread unread
      · exact settled.spent old
    · exact kept
  next pair =>
  rw [pair] at kept
  exact ⟨settled.alone, settled.past, settled.fingerprinted, settled.spent, kept⟩

theorem returns {id : Nat} (found : state.inFlight.lookup id = some flight)
    (early : ((flight.now + middleware.ttlSeconds : Nat) : Int) ≤ phpIntMax)
    (room : flight.key ∈ state.store.records ∨
      state.store.records.size < state.store.maximumRecords) :
    Settled sha256 (state.returns middleware id flight result) := by
  have stored : ∃ store, middleware.ends state.store flight.key
      flight.fingerprint flight.now result = .ok store ∧
      ∀ key, store.records.lookup key = if key = flight.key then some {
          fingerprint := flight.fingerprint
          response := .capture result
          expiresAt := flight.now + middleware.ttlSeconds }
        else state.store.records.lookup key := by
    rw [IdempotencyMiddleware.ends, if_neg (Int.not_lt.mpr early),
      MemoryIdempotencyStore.put, if_neg]
    · refine ⟨_, rfl, ?_⟩
      intro key
      exact lookup_assign ..
    · intro full
      rw [Bool.and_eq_true, decide_eq_true_eq, isNone_iff_eq_none, AList.lookup_eq_none] at full
      rcases room with held | below
      · exact full.1 held
      · exact absurd below (not_lt.mpr full.2)
  obtain ⟨store, put, lookups⟩ := stored
  rw [ApiState.returns, put]
  have rest := settled.throws id
  refine ⟨rest.alone, rest.past, rest.fingerprinted, ?_, ?_⟩
  · intro other otherFlight otherFound completion member same
    rcases mem_append.mp member with old | new
    · exact rest.spent otherFound completion old same
    · obtain rfl := mem_singleton.mp new
      obtain ⟨held, away⟩ := lookup_of_lookup_erase otherFound
      exact absurd (settled.alone held found same.symm) away
  · intro completion member live
    rcases mem_append.mp member with old | new
    · have away : completion.key ≠ flight.key := by
        intro same
        have expired := settled.spent found completion old same
        exact absurd live (not_lt.mpr (le_trans expired (settled.past found)))
      rw [lookups, if_neg away]
      exact settled.kept completion old live
    · obtain rfl := mem_singleton.mp new
      rw [lookups, if_pos rfl, settled.fingerprinted found]
      rfl

theorem next {label : ApiLabel} (careful : Careful sha256 middleware state label)
    (step : state.next sha256 middleware label = some target) : Settled sha256 target := by
  cases label with
  | tick seconds =>
    cases step
    exact settled.tick
  | arrive id request response =>
    dsimp only [ApiState.next] at step
    split at step
    · cases step
    · cases step
      exact settled.arrive careful.1
  | returns id result =>
    obtain ⟨flight, found, rfl⟩ := map_eq_some_iff.mp step
    exact settled.returns found (careful found).1 (careful found).2
  | throws id =>
    dsimp only [ApiState.next] at step
    split at step
    · cases step
      exact settled.throws id
    · cases step

theorem begins_answered {completion : Completion} (answers : completion.Answers state request) :
    (middleware.begins sha256 state.store state.clock request given).1 =
      (completion.record sha256).answer (request.fingerprint sha256) given := by
  obtain ⟨member, valid, live⟩ := answers
  rw [begins_of_key valid, MemoryIdempotencyStore.get_of_live
    (settled.kept completion member live) live]

theorem atMostOnce (careful : Careful sha256 middleware state label) :
    AtMostOnce sha256 middleware state label where
  once := by
    intro id result flight _ found
    exact settled.spent found
  replayed := by
    intro id request given completion isArrive answers same
    subst isArrive
    obtain ⟨-, -, textual⟩ := careful.2 answers
    rw [settled.begins_answered answers, same.fingerprint]
    exact answer_replays rfl textual given
  refused := by
    intro id request given completion isArrive answers other
    subst isArrive
    obtain ⟨queries, texts, -⟩ := careful.2 answers
    rw [settled.begins_answered answers]
    apply answer_of_other
    intro same
    have text := texts same.symm
    obtain ⟨methods, paths, bodies⟩ := Request.fingerprintText_inj text
    exact other ⟨methods, paths, queries text, bodies⟩

end Settled

theorem idempotent_of_careful (sha256 : PhpString → PhpString)
    (middleware : IdempotencyMiddleware) (maximumRecords : Nat)
    (positive : 1 ≤ maximumRecords) (labels : List ApiLabel)
    (careful : ∀ transition ∈ (apiMachine sha256 middleware maximumRecords
        positive).transitions (.initial maximumRecords positive) labels,
      Careful sha256 middleware transition.source transition.label) :
    ∀ transition ∈ (apiMachine sha256 middleware maximumRecords
        positive).transitions (.initial maximumRecords positive) labels,
      AtMostOnce sha256 middleware transition.source transition.label :=
  Machine.transitions_of_guarded _ (Settled sha256) (Careful sha256 middleware)
    (fun state label _ => AtMostOnce sha256 middleware state label)
    (fun settled careful step => ⟨settled.next careful step, settled.atMostOnce careful⟩)
    (.initial maximumRecords positive) careful

def minute : IdempotencyMiddleware where
  ttlSeconds := 60
  required := true
  ttl_positive := by decide

def payment : Request where
  method := [80, 79, 83, 84]
  path := [47, 112, 97, 121]
  query := []
  headers := (∅ : Table PhpString (List PhpString)).insert idempotencyKey [[107]]
  body := [49]
  method_line := by decide
  path_line := by decide

def paid : Response := Response.initial.send [111, 107]

/-- The SHA-256 of the payment's text; no other text is hashed in the examples. -/
def paymentSha256 (text : PhpString) : PhpString :=
  if text = payment.fingerprintText then
    asciiBytes "fc9b8eda47153e302021720f91ffa210453fd49e5a32ae2c3e36f43573eebf41"
  else []

def paymentAgain : List ApiLabel :=
  [.arrive 1 payment .initial, .returns 1 paid, .arrive 2 payment .initial]

theorem payment_replayed :
    (∀ transition ∈ (apiMachine paymentSha256 minute 1 (le_refl 1)).transitions
        (.initial 1 (le_refl 1)) paymentAgain,
      AtMostOnce paymentSha256 minute transition.source transition.label) ∧
    ((apiMachine paymentSha256 minute 1 (le_refl 1)).transitions (.initial 1 (le_refl 1))
      paymentAgain).length = 3 := by
  refine ⟨idempotent_of_careful _ _ _ _ _ ?_, rfl⟩
  intro transition member
  rcases mem_cons.mp member with rfl | member
  · refine ⟨nofun, ?_⟩
    intro completion answers
    cases answers.1
  rcases mem_cons.mp member with rfl | member
  · intro flight found
    cases found
    exact ⟨by decide, .inr (by decide)⟩
  rcases mem_cons.mp member with rfl | member
  · refine ⟨nofun, ?_⟩
    intro completion answers
    obtain rfl := mem_singleton.mp answers.1
    refine ⟨fun _ => rfl, fun _ => rfl, ?_⟩
    intro name named
    obtain rfl := mem_singleton.mp named
    decide
  cases member

/-- The payment while its handler still runs for another request. -/
theorem payment_made_twice :
    ¬ ∀ (sha256 : PhpString → PhpString) (middleware : IdempotencyMiddleware)
      (maximumRecords : Nat) (positive : 1 ≤ maximumRecords) (labels : List ApiLabel),
      ∀ transition ∈ (apiMachine sha256 middleware maximumRecords
          positive).transitions (.initial maximumRecords positive) labels,
        AtMostOnce sha256 middleware transition.source transition.label := by
  intro all
  have steps := all paymentSha256 minute 1 (le_refl 1)
    [.arrive 1 payment .initial, .arrive 2 payment .initial, .returns 1 paid, .returns 2 paid]
  have last := steps _ (mem_cons_of_mem _ (mem_cons_of_mem _ (mem_cons_of_mem _ mem_cons_self)))
  have expired := last.once rfl rfl _ mem_cons_self rfl
  exact absurd expired (by decide)

end Pam.Api
