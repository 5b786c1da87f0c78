import Pam.Foundation.Failure
import Pam.Protocol.StreamHead

namespace Pam.Api

open Pam.Foundation Pam.Protocol List AList Table

/-! The snapshots that the middlewares of the API package keep of responses. -/

inductive ProblemCode where
  | validationFailed
  | conflict

inductive Throwable where
  | httpException (status : Nat) (code : ProblemCode) (detail : String)
  | invalidArgument
  | runtime (message : String)
  | typeError

structure ResponseSnapshot where
  status : Int
  headers : Headers
  body : PhpString

def orInvalid (result : Option Response) : Except Throwable Response := match result with
  | none => .error .invalidArgument
  | some response => .ok response

namespace ResponseSnapshot

/-- The chunks of the exported response are not kept. -/
def capture (response : Response) : ResponseSnapshot where
  status := response.statusCode
  headers := response.headers
  body := response.body

/-- One value of `restore`. A name that PHP keeps as an integer key is not a
string, which `header` and `addHeader` refuse. -/
def restoreValue (name : PhpString) (response : Response)
    (indexed : PhpString × Nat) : Except Throwable Response :=
  if isIntegerKey name then .error .typeError
  else if indexed.2 == 0 then orInvalid (response.header name indexed.1)
  else orInvalid (response.addHeader name indexed.1)

def restoreHeader (response : Response)
    (entry : (_ : PhpString) × List PhpString) : Except Throwable Response :=
  entry.2.zipIdx.foldlM (restoreValue entry.1) response

def restore (snapshot : ResponseSnapshot) (response : Response) : Except Throwable Response := do
  let response ← orInvalid (response.status snapshot.status)
  let response ← snapshot.headers.entries.foldlM restoreHeader response
  return response.send snapshot.body

end ResponseSnapshot

theorem map_lowerByte_of_isHeaderName (valid : isHeaderName name = true) :
    name.map lowerByte = name := by
  rw [isHeaderName, Bool.and_eq_true, all_eq_true] at valid
  conv_rhs => rw [← map_id name]
  apply map_congr_left
  intro byte member
  exact lowerByte_of_isHeaderByte (valid.2 byte member)

structure Rewritten (response changed : Response) (headers : Headers) : Prop where
  statusCode : changed.statusCode = response.statusCode
  headers : changed.headers = headers
  body : changed.body = response.body
  chunks : changed.chunks = response.chunks

variable {headers : Headers}

theorem Rewritten.trans (before : Rewritten first second middle)
    (after : Rewritten second third headers) : Rewritten first third headers where
  statusCode := after.statusCode.trans before.statusCode
  headers := after.headers
  body := after.body.trans before.body
  chunks := after.chunks.trans before.chunks

section Named

variable (valid : isHeaderName name = true)
include valid

theorem header_rewritten (accepted : isHeaderValue value = true) :
    ∃ changed, response.header name value = some changed ∧
      Rewritten response changed (response.headers.assign name [value]) := by
  have lower := map_lowerByte_of_isHeaderName valid
  refine ⟨response.putHeader name [value] valid
    (forall_mem_singleton.mpr accepted), ?_, rfl, rfl, rfl, rfl⟩
  simp only [Response.header, lower]
  rw [dif_pos ⟨valid, accepted⟩]

theorem addHeader_rewritten (accepted : isHeaderValue value = true) :
    ∃ changed, response.addHeader name value = some changed ∧
      Rewritten response changed (response.headers.assign name
        (response.headerValues name ++ [value])) := by
  have lower := map_lowerByte_of_isHeaderName valid
  refine ⟨response.putHeader name (response.headerValues name ++ [value]) valid
    (forall_mem_append.mpr ⟨response.headerValues_valid,
      forall_mem_singleton.mpr accepted⟩), ?_, rfl, rfl, rfl, rfl⟩
  simp only [Response.addHeader, lower]
  rw [dif_pos ⟨valid, accepted⟩]

end Named

/-! What `restore` makes of a captured response. -/

def writeHeader (headers : Headers) (entry : (_ : PhpString) × List PhpString) : Headers :=
  if entry.2.isEmpty then headers else headers.assign entry.1 entry.2

theorem lookup_writeHeader (headers : Headers)
    (entry : (_ : PhpString) × List PhpString) (name : PhpString) :
    (writeHeader headers entry).lookup name = if name = entry.1 ∧ !entry.2.isEmpty then some entry.2
      else headers.lookup name := by
  rw [writeHeader]
  cases empty : entry.2.isEmpty with
  | true => simp
  | false => simp [lookup_assign]

namespace ResponseSnapshot

section Named

variable (valid : isHeaderName name = true) (textual : isIntegerKey name = false)
include valid textual

theorem foldlM_restoreValue (accepted : ∀ value ∈ values, isHeaderValue value = true)
    (positive : 0 < offset) {response started : Response}
    (started_eq : Rewritten response started (response.headers.assign name before)) :
    ∃ restored, (values.zipIdx offset).foldlM (restoreValue name) started = .ok restored ∧
      Rewritten response restored (response.headers.assign name (before ++ values)) := by
  induction values generalizing offset before started with
  | nil =>
    rw [append_nil]
    exact ⟨started, rfl, started_eq⟩
  | cons value values induction =>
    have later : (offset == 0) = false := beq_false_of_ne positive.ne'
    obtain ⟨added, done, rewritten⟩ := addHeader_rewritten valid (accepted value mem_cons_self)
    have held : started.headerValues name = before := by
      rw [Response.headerValues, started_eq.headers, lookup_assign, if_pos rfl]
      rfl
    rw [held, started_eq.headers, assign_assign] at rewritten
    obtain ⟨restored, rest, final⟩ := induction
      (fun other member => accepted other (mem_cons_of_mem _ member))
      (Nat.succ_pos offset) (started_eq.trans rewritten)
    rw [append_assoc] at final
    refine ⟨restored, ?_, final⟩
    rw [zipIdx_cons, foldlM_cons, restoreValue, textual, later]
    rw [done]
    exact rest

theorem restoreHeader_rewritten (accepted : ∀ value ∈ values, isHeaderValue value = true) :
    ∃ restored, restoreHeader response ⟨name, values⟩ = .ok restored ∧
      Rewritten response restored (writeHeader response.headers ⟨name, values⟩) := by
  cases values with
  | nil => exact ⟨response, rfl, rfl, rfl, rfl, rfl⟩
  | cons value values =>
    obtain ⟨started, done, rewritten⟩ := header_rewritten valid (accepted value mem_cons_self)
    obtain ⟨restored, rest, final⟩ := foldlM_restoreValue valid textual
      (fun other member => accepted other (mem_cons_of_mem _ member)) (Nat.succ_pos 0) rewritten
    refine ⟨restored, ?_, final⟩
    rw [restoreHeader, zipIdx_cons, foldlM_cons, restoreValue, textual]
    rw [done]
    exact rest

end Named

theorem foldlM_restoreHeader {entries : List ((_ : PhpString) × List PhpString)}
    (valid : ∀ entry ∈ entries, isHeaderName entry.1 = true ∧
      ∀ value ∈ entry.2, isHeaderValue value = true)
    (textual : ∀ entry ∈ entries, isIntegerKey entry.1 = false) (response : Response) :
    ∃ restored, entries.foldlM restoreHeader response = .ok restored ∧
      Rewritten response restored (entries.foldl writeHeader response.headers) := by
  induction entries generalizing response with
  | nil => exact ⟨response, rfl, rfl, rfl, rfl, rfl⟩
  | cons entry entries induction =>
    obtain ⟨first, done, rewritten⟩ := restoreHeader_rewritten
      (valid entry mem_cons_self).1 (textual entry mem_cons_self) (valid entry mem_cons_self).2
    obtain ⟨restored, rest, final⟩ := induction
      (fun other member => valid other (mem_cons_of_mem _ member))
      (fun other member => textual other (mem_cons_of_mem _ member)) first
    rw [rewritten.headers] at final
    refine ⟨restored, ?_, rewritten.trans final⟩
    rw [foldlM_cons, done]
    exact rest

theorem restore_capture (textual : ∀ name ∈ recorded.headers, isIntegerKey name = false)
    (given : Response) :
    ∃ restored : Response, (capture recorded).restore given = .ok (restored.send recorded.body) ∧
      restored.statusCode = recorded.statusCode ∧ restored.chunks = given.chunks ∧
      ∀ name, restored.headers.lookup name = ((recorded.headers.lookup name).filter fun values =>
          !values.isEmpty).or (given.headers.lookup name) := by
  have status : given.status recorded.statusCode = some { given with
        statusCode := recorded.statusCode
        statusRange := recorded.statusRange } := by
    rw [Response.status, dif_pos recorded.statusRange]
  obtain ⟨restored, done, rewritten⟩ := foldlM_restoreHeader recorded.headersValid
    (fun entry member => textual entry.1 (mem_keys_of_mem member)) { given with
      statusCode := recorded.statusCode
      statusRange := recorded.statusRange }
  refine ⟨restored, ?_, rewritten.statusCode, rewritten.chunks, ?_⟩
  · dsimp only [restore, capture]
    rw [status]
    change (recorded.headers.entries.foldlM restoreHeader { given with
        statusCode := recorded.statusCode
        statusRange := recorded.statusRange } >>= _) = _
    rw [done]
    rfl
  · intro name
    rw [rewritten.headers]
    exact lookup_foldl_write _ lookup_writeHeader recorded.headers.nodupKeys given.headers name

end ResponseSnapshot

variable {response : Response}

theorem lookup_send (kept : name ≠ contentType ∨ (response.headers.lookup name).isSome) :
    (response.send body).headers.lookup name = response.headers.lookup name := by
  dsimp only [Response.send]
  split
  · rfl
  next absent =>
  dsimp only [Response.putHeader]
  rw [lookup_assign, if_neg]
  intro same
  rcases kept with away | present
  · exact away same
  · exact absent (.inr (.inr (lookup_isSome.mp (same ▸ present))))

theorem send_statusCode : (response.send body).statusCode = response.statusCode := by
  dsimp only [Response.send]
  split <;> rfl

theorem send_body : (response.send body).body = body := by
  dsimp only [Response.send]
  split <;> rfl

theorem send_chunks : (response.send body).chunks = response.chunks := by
  dsimp only [Response.send]
  split <;> rfl

theorem contentType_mem_send :
    contentType ∈ (response.send body).headers ↔ contentType ∈ response.headers ∨
        response.statusCode ≠ 204 ∧ response.statusCode ≠ 304 := by
  dsimp only [Response.send]
  split
  next kept => tauto
  next absent =>
  have added : contentType ∈ response.headers.assign contentType
      [asciiBytes "text/plain; charset=utf-8"] := by
    rw [← lookup_isSome, lookup_assign]
    rfl
  simp only [not_or] at absent
  exact iff_of_true added (.inr ⟨absent.1, absent.2.1⟩)

/-! Responses of handlers. A chunk is buffered, or streamed where native
operations are available: then the client has it already. -/

structure Handled where
  response : Response
  streamed : List PhpString

/-- The methods of a response. `cookie` adds a header; `stream` and `sse` set
headers and write chunks; the text of `json` is that of `json_encode`. -/
inductive ResponseCall where
  | status (statusCode : Int)
  | header (name value : PhpString)
  | addHeader (name value : PhpString)
  | send (body : PhpString)
  | json (text : PhpString) (statusCode : Int)
  | writeChunk (chunk : PhpString) (native : Bool)

namespace Handled

def initial : Handled := ⟨.initial, []⟩

def content (handled : Handled) : PhpString := handled.response.body ++
    (handled.response.chunks.flatten ++ handled.streamed.flatten)

def writeChunk (handled : Handled) (chunk : PhpString) (native : Bool) : Handled :=
  if native then
    { response := { handled.response with
        streamStarted := handled.response.streamStarted || !chunk.isEmpty }
      streamed := handled.streamed ++ chunk.toChunks streamChunkBytes }
  else
    { handled with
      response := (chunk.toChunks streamChunkBytes).foldl Response.bufferChunk handled.response }

def json (handled : Handled) (text : PhpString) (statusCode : Int) : Option Handled := do
  let response ← handled.response.status statusCode
  let response ← response.header contentType (asciiBytes "application/json; charset=utf-8")
  return { handled with response := { response with body := text } }

def call (handled : Handled) : ResponseCall → Option Handled
  | .status statusCode => (handled.response.status statusCode).map ({ handled with response := · })
  | .header name value => (handled.response.header name value).map ({ handled with response := · })
  | .addHeader name value =>
    (handled.response.addHeader name value).map ({ handled with response := · })
  | .send body => some { handled with response := handled.response.send body }
  | .json text statusCode => handled.json text statusCode
  | .writeChunk chunk native => some (handled.writeChunk chunk native)

def Made (handled : Handled) : Prop :=
  ∃ calls : List ResponseCall, calls.foldlM call initial = some handled

end Handled

/-- The restored response is sent as the recorded one: its status, its headers
and its bytes. -/
def ReplaysFaithfully (recorded target : Handled) : Prop := ∃ restored,
    (ResponseSnapshot.capture recorded.response).restore target.response = .ok restored ∧
      restored.statusCode = recorded.response.statusCode ∧
      (∀ name, restored.headers.lookup name = recorded.response.headers.lookup name) ∧
      Handled.content { target with response := restored } = recorded.content

/-- No header name is an integer to PHP, the target has no header, `send` adds
none, and the recorded chunks are those of the target. -/
structure Replayable (recorded target : Handled) : Prop where
  names : ∀ name ∈ recorded.response.headers, isIntegerKey name = false
  own : ∀ name ∈ target.response.headers, name ∈ recorded.response.headers
  typed : contentType ∈ recorded.response.headers ∨
    recorded.response.statusCode = 204 ∨ recorded.response.statusCode = 304
  chunks : recorded.response.chunks.flatten ++ recorded.streamed.flatten =
    target.response.chunks.flatten ++ target.streamed.flatten

def Valued (headers : Headers) : Prop := ∀ header ∈ headers.entries, header.2 ≠ []

theorem Valued.assign (valued : Valued headers) (name : PhpString) (nonempty : values ≠ []) :
    Valued (headers.assign name values) := by
  intro header member
  rcases mem_entries_assign member with rfl | old
  · exact nonempty
  · exact valued header old

theorem Valued.lookup (valued : Valued headers)
    (found : headers.lookup name = some values) : values ≠ [] :=
  valued ⟨name, values⟩ (mem_lookup_iff.mp found)

theorem header_valued (valued : Valued response.headers)
    (called : response.header name value = some changed) : Valued changed.headers := by
  dsimp only [Response.header] at called
  split at called
  · cases called
    exact valued.assign _ (cons_ne_nil _ _)
  · cases called

theorem addHeader_valued (valued : Valued response.headers)
    (called : response.addHeader name value = some changed) : Valued changed.headers := by
  dsimp only [Response.addHeader] at called
  split at called
  · cases called
    exact valued.assign _ (by simp)
  · cases called

theorem status_headers (called : response.status statusCode = some changed) :
    changed.headers = response.headers := by
  dsimp only [Response.status] at called
  split at called
  · cases called
    rfl
  · cases called

theorem send_valued (valued : Valued response.headers) : Valued (response.send body).headers := by
  dsimp only [Response.send]
  split
  · exact valued
  · exact valued.assign _ (cons_ne_nil _ _)

theorem foldl_bufferChunk_headers (chunks : List PhpString) (response : Response) :
    (chunks.foldl Response.bufferChunk response).headers = response.headers := by
  induction chunks generalizing response with
  | nil => rfl
  | cons chunk chunks induction => exact induction _

theorem Handled.call_valued {handled changed : Handled} {call : ResponseCall}
    (valued : Valued handled.response.headers) (called : handled.call call = some changed) :
    Valued changed.response.headers := by
  cases call with
  | status statusCode =>
    obtain ⟨response, done, rfl⟩ := Option.map_eq_some_iff.mp called
    rw [status_headers done]
    exact valued
  | header name value =>
    obtain ⟨response, done, rfl⟩ := Option.map_eq_some_iff.mp called
    exact header_valued valued done
  | addHeader name value =>
    obtain ⟨response, done, rfl⟩ := Option.map_eq_some_iff.mp called
    exact addHeader_valued valued done
  | send body =>
    cases called
    exact send_valued valued
  | json text statusCode =>
    obtain ⟨first, done, called⟩ := Option.bind_eq_some_iff.mp called
    obtain ⟨second, typed, called⟩ := Option.bind_eq_some_iff.mp called
    cases called
    rw [← status_headers done] at valued
    have kept := header_valued valued typed
    exact kept
  | writeChunk chunk native =>
    cases called
    cases native with
    | true => exact valued
    | false =>
      dsimp only [Handled.writeChunk]
      rw [if_neg Bool.false_ne_true, foldl_bufferChunk_headers]
      exact valued

theorem Handled.Made.valued {handled : Handled} (made : handled.Made) :
    Valued handled.response.headers := by
  obtain ⟨calls, done⟩ := made
  have empty : Valued Handled.initial.response.headers := forall_mem_nil _
  exact foldlM_keeps (fun handled => Valued handled.response.headers) Handled.call_valued empty done

namespace ResponseSnapshot

theorem textual_of_restore (valued : Valued recorded.headers)
    (done : (capture recorded).restore given = .ok restored) :
    ∀ name ∈ recorded.headers, isIntegerKey name = false := by
  obtain ⟨started, _, rest⟩ := bind_eq_ok.mp done
  obtain ⟨filled, headers, _⟩ := bind_eq_ok.mp rest
  intro name member
  obtain ⟨values, found⟩ := Option.isSome_iff_exists.mp (lookup_isSome.mpr member)
  obtain ⟨reached, next, step⟩ := foldlM_each headers ⟨name, values⟩ (mem_lookup_iff.mp found)
  cases values with
  | nil => exact absurd rfl (valued.lookup found)
  | cons value values =>
    obtain ⟨_, first, _⟩ := bind_eq_ok.mp step
    rw [restoreValue] at first
    split at first
    · cases first
    · next textual => exact Bool.not_eq_true _ ▸ textual

end ResponseSnapshot

theorem Handled.content_send {target : Handled} {restored : Response}
    (chunks : restored.chunks = target.response.chunks) :
    Handled.content { target with response := restored.send body } =
      body ++ (target.response.chunks.flatten ++ target.streamed.flatten) := by
  dsimp only [Handled.content]
  rw [send_body, send_chunks, chunks]

theorem Replayable.faithful (made : recorded.Made) (replayable : Replayable recorded target) :
    ReplaysFaithfully recorded target := by
  obtain ⟨restored, done, status, chunks, lookups⟩ :=
    ResponseSnapshot.restore_capture replayable.names target.response
  have headers : ∀ name, restored.headers.lookup name = recorded.response.headers.lookup name := by
    intro name
    rw [lookups]
    cases found : recorded.response.headers.lookup name with
    | some values =>
      have nonempty := made.valued.lookup found
      rw [Option.filter_some_pos (by simpa using nonempty)]
      rfl
    | none =>
      have absent : name ∉ target.response.headers := by
        intro member
        exact lookup_eq_none.mp found (replayable.own name member)
      rw [lookup_eq_none.mpr absent]
      rfl
  refine ⟨_, done, ?_, ?_, ?_⟩
  · rw [send_statusCode, status]
  · intro name
    by_cases typed : name = contentType ∧ recorded.response.headers.lookup name = none
    · obtain ⟨rfl, absent⟩ := typed
      have untyped : contentType ∉ recorded.response.headers := lookup_eq_none.mp absent
      rw [absent, lookup_eq_none, contentType_mem_send, status]
      rw [← lookup_eq_none, ← headers, lookup_eq_none] at untyped
      have bodiless := replayable.typed.resolve_left (lookup_eq_none.mp absent)
      tauto
    · rw [lookup_send, headers]
      by_cases other : name = contentType
      · rw [headers]
        exact .inr (Option.isSome_iff_ne_none.mpr fun absent => typed ⟨other, absent⟩)
      · exact .inl other
  · rw [Handled.content_send chunks, Handled.content, replayable.chunks]

theorem Replayable.of_faithful (made : recorded.Made)
    (faithful : ReplaysFaithfully recorded target) : Replayable recorded target := by
  obtain ⟨delivered, done, -, headers, content⟩ := faithful
  have names := ResponseSnapshot.textual_of_restore made.valued done
  obtain ⟨restored, restoredAs, status, chunks, lookups⟩ :=
    ResponseSnapshot.restore_capture names target.response
  obtain rfl : restored.send recorded.response.body = delivered := by
    rw [restoredAs] at done
    exact Except.ok.inj done
  refine ⟨names, ?_, ?_, ?_⟩
  · intro name member
    have held : (restored.headers.lookup name).isSome := by
      obtain ⟨values, found⟩ := Option.isSome_iff_exists.mp (lookup_isSome.mpr member)
      rw [lookups, found]
      cases (recorded.response.headers.lookup name).filter fun values => !values.isEmpty with
      | none | some values => rfl
    rw [← lookup_isSome, ← headers, lookup_send (.inr held)]
    exact held
  · by_contra untyped
    rw [not_or, not_or] at untyped
    have added : contentType ∈ (restored.send recorded.response.body).headers := by
      rw [contentType_mem_send, status]
      exact .inr untyped.2
    rw [← lookup_isSome, headers, lookup_isSome] at added
    exact untyped.1 added
  · rw [Handled.content_send chunks] at content
    exact (append_cancel_left content).symm

theorem snapshot_replays_iff (recorded target : Handled) (made : recorded.Made) :
    ReplaysFaithfully recorded target ↔ Replayable recorded target :=
  ⟨Replayable.of_faithful made, Replayable.faithful made⟩

def plainOk : Handled := { Handled.initial with response := Response.initial.send [111, 107] }

theorem plainOk_made : plainOk.Made := ⟨[.send [111, 107]], rfl⟩

theorem contentType_mem_plainOk : contentType ∈ plainOk.response.headers := by
  dsimp only [plainOk]
  rw [contentType_mem_send]
  exact .inr ⟨by decide, by decide⟩

theorem plainOk_replayed : ReplaysFaithfully plainOk .initial := by
  refine (snapshot_replays_iff plainOk .initial plainOk_made).mpr
    ⟨?_, ?_, .inl contentType_mem_plainOk, rfl⟩
  · intro name member
    obtain rfl := mem_singleton.mp member
    decide
  · intro name member
    cases member

/-- A chunk is lost whether it was buffered or streamed, and headers of the
target and a content type are added. -/
theorem snapshot_not_faithful : (∀ native, (plainOk.writeChunk [33] native).Made ∧
        ¬ ReplaysFaithfully (plainOk.writeChunk [33] native) .initial) ∧
      (∃ target, Handled.initial.call (.header [120] [121]) = some target ∧
        ¬ ReplaysFaithfully plainOk target) ∧ ¬ ReplaysFaithfully .initial .initial := by
  refine ⟨?_, ?_, ?_⟩
  · intro native
    have made : (plainOk.writeChunk [33] native).Made :=
      ⟨[.send [111, 107], .writeChunk [33] native], rfl⟩
    refine ⟨made, fun faithful => ?_⟩
    have chunks := (Replayable.of_faithful made faithful).chunks
    cases native with
    | true | false => exact absurd chunks (by decide)
  · refine ⟨_, rfl, fun faithful => ?_⟩
    have own := (Replayable.of_faithful plainOk_made faithful).own [120] mem_cons_self
    exact absurd (mem_singleton.mp own) (by decide)
  · intro faithful
    exact absurd (Replayable.of_faithful ⟨[], rfl⟩ faithful).typed (by decide)

end Pam.Api
