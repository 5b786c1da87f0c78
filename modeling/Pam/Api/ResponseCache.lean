import Mathlib.Data.Finset.Order
import Mathlib.Data.Fintype.EquivFin
import Pam.Api.Idempotency

namespace Pam.Api

open Pam.Foundation Pam.Protocol List

/-! `ResponseCacheMiddleware` over `MemoryResponseCacheStore`. A request is two
steps, as its handler may suspend: up to its call, and from its result on. -/

structure CacheRecord where
  response : ResponseSnapshot
  expiresAt : Int

structure MemoryResponseCacheStore where
  records : Table PhpString CacheRecord
  maximumRecords : Nat
  maximum_positive : 1 ≤ maximumRecords

namespace MemoryResponseCacheStore

/-- A record that is over is forgotten where it is asked for. -/
def get (store : MemoryResponseCacheStore) (key : PhpString) (now : Int) :
    Option CacheRecord × MemoryResponseCacheStore :=
  match store.records.lookup key with
  | none => (none, store)
  | some record =>
    if record.expiresAt ≤ now then (none, { store with records := store.records.erase key })
    else (some record, store)

def put (store : MemoryResponseCacheStore) (key : PhpString)
    (record : CacheRecord) : Except Throwable MemoryResponseCacheStore :=
  if (store.records.lookup key).isNone && store.records.size ≥ store.maximumRecords then
    .error (.runtime "The bounded response cache is full.")
  else .ok { store with records := store.records.assign key record }

def forget (store : MemoryResponseCacheStore) (key : PhpString) : MemoryResponseCacheStore :=
  { store with records := store.records.erase key }

def HasRoom (store : MemoryResponseCacheStore) (key : PhpString) : Prop :=
  key ∈ store.records ∨ store.records.size < store.maximumRecords

theorem put_ok_iff (store : MemoryResponseCacheStore) :
    (∃ after, store.put key record = .ok after) ↔ store.HasRoom key := by
  rw [put]
  split
  next full =>
    rw [Bool.and_eq_true, Option.isNone_iff_eq_none, AList.lookup_eq_none,
      decide_eq_true_eq] at full
    constructor
    · rintro ⟨_, failed⟩
      cases failed
    rintro (held | below)
    · exact absurd held full.1
    · exact absurd full.2 (Nat.not_le.mpr below)
  next free =>
  refine iff_of_true ⟨_, rfl⟩ ?_
  by_contra none
  rw [HasRoom, not_or, Nat.not_lt] at none
  apply free
  rw [Bool.and_eq_true, Option.isNone_iff_eq_none, AList.lookup_eq_none, decide_eq_true_eq]
  exact none

end MemoryResponseCacheStore

inductive CacheFailure where
  | thrown (failure : Throwable)
  | unexpectedValue (message : String)

structure ResponseCacheMiddleware where
  ttlSeconds : Int
  keyResolver : Request → Except CacheFailure PhpString
  ttl_positive : 1 ≤ ttlSeconds

def cachedMethods : List PhpString := [asciiBytes "GET", asciiBytes "HEAD"]

def xCache : PhpString := asciiBytes "x-cache"

def hitText : PhpString := asciiBytes "HIT"

def missText : PhpString := asciiBytes "MISS"

inductive CacheBegun where
  | threw (failure : CacheFailure)
  | passed
  | hit (response : Response)
  | handling (key : PhpString) (now : Int)

def CacheRecord.answer (record : CacheRecord) (response : Response) : CacheBegun :=
  match (do
    let restored ← record.response.restore response
    orInvalid (restored.header xCache hitText)) with
  | .ok delivered => .hit delivered
  | .error failure => .threw (.thrown failure)

def isSuccessful (response : Response) : Bool :=
  200 ≤ response.statusCode && response.statusCode < 300

namespace ResponseCacheMiddleware

/-- `process` up to the call of the handler. -/
def begins (middleware : ResponseCacheMiddleware)
    (store : MemoryResponseCacheStore) (now : Int) (request : Request)
    (response : Response) : CacheBegun × MemoryResponseCacheStore :=
  if !cachedMethods.contains request.method then (.passed, store)
  else
    match middleware.keyResolver request with
    | .error failure => (.threw failure, store)
    | .ok [] => (.threw (.unexpectedValue "Response cache key cannot be empty."), store)
    | .ok key =>
      match store.get key now with
      | (some record, store) => (record.answer response, store)
      | (none, store) => (.handling key now, store)

/-- The record of a response. Its expiry has to be an integer. -/
def keep (middleware : ResponseCacheMiddleware)
    (store : MemoryResponseCacheStore) (key : PhpString) (now : Int)
    (result : Response) : Except Throwable MemoryResponseCacheStore :=
  if isSuccessful result then
    if phpIntMax < now + middleware.ttlSeconds then .error .typeError else store.put key {
      response := .capture result
      expiresAt := now + middleware.ttlSeconds }
  else .ok store

def ends (middleware : ResponseCacheMiddleware)
    (store : MemoryResponseCacheStore) (key : PhpString) (now : Int) (result : Response) :
    Except Throwable (Response × MemoryResponseCacheStore) := do
  let store ← middleware.keep store key now result
  let delivered ← orInvalid (result.header xCache missText)
  return (delivered, store)

def Fits (middleware : ResponseCacheMiddleware)
    (store : MemoryResponseCacheStore) (key : PhpString) (now : Int) (result : Response) : Prop :=
  isSuccessful result = true → now + middleware.ttlSeconds ≤ phpIntMax ∧ store.HasRoom key

variable (middleware : ResponseCacheMiddleware)
  (store : MemoryResponseCacheStore) (key : PhpString) (now : Int) (result : Response)

theorem keep_ok_iff : (∃ after, middleware.keep store key now result = .ok after) ↔
      middleware.Fits store key now result := by
  rw [keep]
  split
  next successful =>
    split
    next late =>
      constructor
      · rintro ⟨_, failed⟩
        cases failed
      · intro fits
        exact absurd (fits successful).1 (Int.not_le.mpr late)
    next early =>
    rw [MemoryResponseCacheStore.put_ok_iff]
    constructor
    · intro room _
      exact ⟨Int.not_lt.mp early, room⟩
    · intro fits
      exact (fits successful).2
  next failed => exact iff_of_true ⟨store, rfl⟩ fun successful => absurd successful failed

theorem ends_ok_iff : (∃ delivered, middleware.ends store key now result = .ok delivered) ↔
      middleware.Fits store key now result := by
  obtain ⟨marked, done, _⟩ := header_rewritten (show isHeaderName xCache = true by decide +kernel)
    (show isHeaderValue missText = true by decide)
  rw [← keep_ok_iff]
  constructor
  · rintro ⟨delivered, ended⟩
    obtain ⟨after, kept, _⟩ := bind_eq_ok.mp ended
    exact ⟨after, kept⟩
  rintro ⟨after, kept⟩
  refine ⟨(marked, after), ?_⟩
  rw [ends, kept, done]
  rfl

end ResponseCacheMiddleware

structure CacheFlight where
  started : Option (PhpString × Int)

structure CacheState where
  store : MemoryResponseCacheStore
  inFlight : Table Nat CacheFlight

inductive CacheLabel where
  | arrive (id : Nat) (now : Int) (request : Request) (response : Response)
  | returns (id : Nat) (result : Response)
  | throws (id : Nat)
  | forget (key : PhpString)

variable (middleware : ResponseCacheMiddleware)

def CacheFlight.ends (flight : CacheFlight) (store : MemoryResponseCacheStore) (result : Response) :
    Except Throwable (Response × MemoryResponseCacheStore) :=
  match flight.started with
  | none => .ok (result, store)
  | some (key, now) => middleware.ends store key now result

namespace CacheState

def arrive (state : CacheState) (id : Nat) (now : Int) (request : Request)
    (response : Response) : CacheState :=
  match middleware.begins state.store now request response with
  | (.handling key now, store) => ⟨store, state.inFlight.insert id ⟨some (key, now)⟩⟩
  | (.passed, store) => ⟨store, state.inFlight.insert id ⟨none⟩⟩
  | (_, store) => { state with store := store }

def returns (state : CacheState) (id : Nat) (flight : CacheFlight)
    (result : Response) : CacheState where
  store := match flight.ends middleware state.store result with
    | .ok (_, store) => store
    | .error _ => state.store
  inFlight := state.inFlight.erase id

def next (state : CacheState) : CacheLabel → Option CacheState
  | .arrive id now request response =>
    if id ∈ state.inFlight then none else some (state.arrive middleware id now request response)
  | .returns id result =>
    (state.inFlight.lookup id).map fun flight => state.returns middleware id flight result
  | .throws id =>
    if id ∈ state.inFlight then some { state with inFlight := state.inFlight.erase id } else none
  | .forget key => some { state with store := state.store.forget key }

def initial (maximumRecords : Nat) (positive : 1 ≤ maximumRecords) : CacheState where
  store := ⟨∅, maximumRecords, positive⟩
  inFlight := ∅

end CacheState

def cacheMachine (maximumRecords : Nat) (positive : 1 ≤ maximumRecords) :
    Machine CacheState CacheLabel where
  start := .initial maximumRecords positive
  next := CacheState.next middleware

/-- No result of a handler becomes an error. -/
def Delivers (state : CacheState) : CacheLabel → Prop
  | .returns id result => ∀ flight, state.inFlight.lookup id = some flight →
      ∃ delivered, flight.ends middleware state.store result = .ok delivered
  | _ => True

/-- Once all records are over, the store accepts a record of any key. -/
def CacheState.Reclaims (state : CacheState) : Prop :=
  ∀ now, (∀ entry ∈ state.store.records.entries, entry.2.expiresAt ≤ now) →
    ∀ key record, ∃ after, state.store.put key record = .ok after

structure Transparent (maximumRecords : Nat) (positive : 1 ≤ maximumRecords)
    (labels : List CacheLabel) : Prop where
  delivers : ∀ transition ∈ (cacheMachine middleware maximumRecords positive).transitions
      (.initial maximumRecords positive) labels,
    Delivers middleware transition.source transition.label
  reclaims : ∀ state ∈ (cacheMachine middleware maximumRecords positive).visited
      (.initial maximumRecords positive) labels, state.Reclaims

def CacheState.NotFull (state : CacheState) : Prop :=
  state.store.records.size < state.store.maximumRecords

/-- Where a handler returns a response to be kept, the expiry is an integer. -/
def ExpiryFits (state : CacheState) : CacheLabel → Prop
  | .returns id result => ∀ key now, state.inFlight.lookup id = some ⟨some (key, now)⟩ →
      isSuccessful result = true → now + middleware.ttlSeconds ≤ phpIntMax
  | _ => True

variable {middleware}

theorem CacheState.reclaims_iff {state : CacheState} : state.Reclaims ↔ state.NotFull := by
  constructor
  · intro reclaims
    -- Every clock is passed some time, and no store has a record of every key.
    obtain ⟨now, past⟩ := (state.store.records.entries.map (·.2.expiresAt)).toFinset.exists_le
    obtain ⟨key, fresh⟩ := Infinite.exists_notMem_finset state.store.records.keys.toFinset
    have accepted := reclaims now
      (fun entry member => past _ (mem_toFinset.mpr (mem_map_of_mem member))) key
      ⟨.capture .initial, now⟩
    rcases state.store.put_ok_iff.mp accepted with held | below
    · exact absurd (mem_toFinset.mpr held) fresh
    · exact below
  · intro room now _ key record
    exact state.store.put_ok_iff.mpr (.inr room)

theorem delivers_iff {state : CacheState} (room : state.NotFull) :
    Delivers middleware state label ↔ ExpiryFits middleware state label := by
  cases label with
  | returns id result =>
    constructor
    · intro delivers key now found successful
      exact ((middleware.ends_ok_iff ..).mp (delivers _ found) successful).1
    · rintro fits ⟨_ | ⟨key, now⟩⟩ found
      · exact ⟨_, rfl⟩
      · apply (middleware.ends_ok_iff ..).mpr
        exact fun successful => ⟨fits _ _ found successful, .inr room⟩
  | arrive id now request response | throws id | forget key => exact Iff.rfl

theorem cache_transparent_iff (middleware : ResponseCacheMiddleware)
    (maximumRecords : Nat) (positive : 1 ≤ maximumRecords) (labels : List CacheLabel) :
    Transparent middleware maximumRecords positive labels ↔
    (∀ transition ∈ (cacheMachine middleware maximumRecords positive).transitions
        (.initial maximumRecords positive) labels,
      ExpiryFits middleware transition.source transition.label) ∧
    ∀ state ∈ (cacheMachine middleware maximumRecords positive).visited
      (.initial maximumRecords positive) labels, state.NotFull := by
  constructor
  · intro transparent
    have room := fun state member => CacheState.reclaims_iff.mp (transparent.reclaims state member)
    refine ⟨?_, room⟩
    intro transition member
    have source := room _ (Machine.source_mem_visited _ member)
    exact (delivers_iff source).mp (transparent.delivers transition member)
  · rintro ⟨fits, room⟩
    refine ⟨?_, fun state member => CacheState.reclaims_iff.mpr (room state member)⟩
    intro transition member
    have source := room _ (Machine.source_mem_visited _ member)
    exact (delivers_iff source).mpr (fits transition member)

def minuteByPath : ResponseCacheMiddleware where
  ttlSeconds := 60
  keyResolver request := .ok request.path
  ttl_positive := by decide

def page (letter : UInt8) (line : 0x0A ∉ [0x2F, letter]) : Request where
  method := [71, 69, 84]
  path := [0x2F, letter]
  query := []
  headers := ∅
  body := []
  method_line := by decide
  path_line := line

def twoPages (now : Int) : List CacheLabel :=
  [.arrive 1 0 (page 97 (by decide)) .initial, .returns 1 paid,
    .arrive 2 now (page 98 (by decide)) .initial, .returns 2 paid]

theorem twoPages_transparent : Transparent minuteByPath 3 (by decide) (twoPages 0) ∧
    ((cacheMachine minuteByPath 3 (by decide)).transitions
      (.initial 3 (by decide)) (twoPages 0)).length = 4 := by
  refine ⟨(cache_transparent_iff minuteByPath 3 (by decide) _).mpr ⟨?_, ?_⟩, rfl⟩
  · refine forall_mem_cons.mpr ⟨trivial, forall_mem_cons.mpr ⟨?_, forall_mem_cons.mpr
      ⟨trivial, forall_mem_cons.mpr ⟨?_, forall_mem_nil _⟩⟩⟩⟩
    all_goals
      intro key now found _
      cases found
      decide
  · simp only [CacheState.NotFull]
    decide +kernel

/-- A store of one record refuses the second page, be the first still good or
over. -/
theorem secondPage_refused : ¬ Transparent minuteByPath 1 (by decide) (twoPages now) := by
  intro transparent
  have last := transparent.delivers _
    (mem_cons_of_mem _ (mem_cons_of_mem _ (mem_cons_of_mem _ mem_cons_self)))
  obtain ⟨-, room⟩ := (minuteByPath.ends_ok_iff ..).mp (last _ rfl) (by decide +kernel)
  rcases room with held | below
  · have same : [(0x2F : UInt8), 98] = [0x2F, 97] := mem_singleton.mp held
    exact absurd same (by decide)
  · exact absurd (show 1 < 1 from below) (by decide)

theorem secondPage_fails : ¬ Transparent minuteByPath 1 (by decide) (twoPages 0) ∧
    ¬ Transparent minuteByPath 1 (by decide) (twoPages 1000) :=
  ⟨secondPage_refused, secondPage_refused⟩

end Pam.Api
