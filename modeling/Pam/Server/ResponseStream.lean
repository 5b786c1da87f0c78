import Mathlib.Algebra.BigOperators.Group.List.Basic
import Mathlib.Algebra.Order.Ring.Nat
import Pam.Foundation.Run

namespace Pam.Server

open Pam.Foundation List Option

/-! `PhpResponseStream::drive`, which forwards a streaming response to the body
stream of the transport. The type of the bytes is a variable. -/

structure StreamConfig where
  maxResponseBytes : Nat
  maxResponseChunkBytes : Nat
  responseStreamQueueCapacity : Nat
  timeoutMicros : Nat
  timeoutPositive : 0 < timeoutMicros

structure PhpResponse (Byte : Type) where
  contentLength : Option Nat
  body : List Byte
  chunks : List (List Byte)
  deriving DecidableEq

/-- A `native` operation is any of the kinds whose result or error is handed to
PHP as it is; `chunk` is `none` where it is missing or not base64. -/
inductive PhpOperation (Byte : Type) where
  | timer (delayMicros : Nat)
  | native
  | responseChunk (response : Option (PhpResponse Byte)) (chunk : Option (List Byte))
  deriving DecidableEq

inductive PhpDispatchEnvelope (Byte : Type) where
  | complete (response : Option (PhpResponse Byte))
  | suspended (operation : Option (PhpOperation Byte))
  deriving DecidableEq

inductive StreamItem (Byte : Type) where
  | chunk (bytes : List Byte)
  | failure (message : String)
  deriving DecidableEq

inductive SendOutcome where
  | accepted
  | timedOut
  | closed

inductive DriveStatus (Byte : Type) where
  | resuming
  | running (envelope : PhpDispatchEnvelope Byte)
  | returned
  deriving DecidableEq

/-- `produced` are the pieces of the body PHP has handed over, `completed` says
that `Complete` was reached, `dropped` that the transport dropped the body
stream. -/
structure DriveState (Byte : Type) where
  status : DriveStatus Byte
  sentBytes : Nat
  items : List (StreamItem Byte)
  produced : List (List Byte)
  completed : Bool
  dropped : Bool
  deriving DecidableEq

/-- What one turn of the loop meets: the time, the outcomes of its sends
(accepted where the list ends), and the envelope `resume_http` returns, `none`
where it or its parsing fails. -/
structure DriveTurn (Byte : Type) where
  elapsedMicros : Nat
  sends : List SendOutcome
  reply : Option (PhpDispatchEnvelope Byte)

variable {Byte : Type}

def PhpResponse.pieces (response : PhpResponse Byte) : List (List Byte) :=
  (if response.body.isEmpty then [] else [response.body]) ++ response.chunks

def PhpResponse.totalBytes (response : PhpResponse Byte) : Nat :=
  response.body.length + (response.chunks.map List.length).sum

def StreamConfig.allows (config : StreamConfig) (sentBytes bytes : Nat) : Bool :=
  bytes ≤ config.maxResponseChunkBytes && sentBytes + bytes ≤ config.maxResponseBytes

def DriveState.queue (state : DriveState Byte) (chunk : List Byte) : DriveState Byte := { state with
    items := state.items ++ [.chunk chunk]
    sentBytes := state.sentBytes + chunk.length }

/-- `send_response_chunk`: the state after it and whether the chunk was sent.
A chunk over a limit is answered by an error item, which also has to be sent. -/
def sendResponseChunk (config : StreamConfig) (state : DriveState Byte)
    (chunk : List Byte) (outcome : SendOutcome) : DriveState Byte × Bool :=
  let bytes := chunk.length
  let total := state.sentBytes + bytes
  let allowed := config.allows state.sentBytes bytes
  let message := "streaming response exceeded its configured byte limit " ++
    s!"(chunk={bytes}, total={total})"
  match outcome with
  | .accepted =>
    if allowed then (state.queue chunk, true)
    else ({ state with items := state.items ++ [.failure message] }, false)
  | .timedOut => (state, false)
  | .closed => ({ state with dropped := true }, false)

def sendPieces (config : StreamConfig) (state : DriveState Byte) :
    List (List Byte) → List SendOutcome → DriveState Byte
  | [], _ => state
  | piece :: pieces, sends =>
    match sendResponseChunk config state piece (sends.headD .accepted) with
    | (next, true) => sendPieces config next pieces sends.tail
    | (next, false) => next

def DriveState.hand (state : DriveState Byte) (pieces : List (List Byte)) : DriveState Byte :=
  { state with produced := state.produced ++ pieces }

def DriveState.ended (state : DriveState Byte) : DriveState Byte :=
  { state with status := .returned }

def DriveState.resume (state : DriveState Byte) :
    Option (PhpDispatchEnvelope Byte) → DriveState Byte
  | some envelope => { state with status := .running envelope }
  | none => state.ended

def driveTurn (config : StreamConfig) (state : DriveState Byte)
    (turn : DriveTurn Byte) : Option (DriveState Byte) :=
  match state.status with
  | .returned => none
  | .resuming => some (state.resume turn.reply)
  | .running envelope =>
    if config.timeoutMicros ≤ turn.elapsedMicros then some state.ended
    else
      match envelope with
      | .complete response =>
        let pieces := (response.map PhpResponse.pieces).getD []
        let complete := { state.hand pieces with completed := true }
        some (sendPieces config complete pieces turn.sends).ended
      | .suspended none => some state.ended
      | .suspended (some (.timer delayMicros)) =>
        if config.timeoutMicros - turn.elapsedMicros ≤ delayMicros then some state.ended
        else some (state.resume turn.reply)
      | .suspended (some .native) => some (state.resume turn.reply)
      | .suspended (some (.responseChunk _ none)) => some (state.resume turn.reply)
      | .suspended (some (.responseChunk _ (some chunk))) =>
        match sendResponseChunk config (state.hand [chunk]) chunk (turn.sends.headD .accepted) with
        | (next, true) => some (next.resume turn.reply)
        | (next, false) => some next.ended

def DriveState.opened (queued : List (List Byte)) : DriveState Byte where
  status := .resuming
  sentBytes := (queued.map List.length).sum
  items := queued.map .chunk
  produced := queued
  completed := false
  dropped := false

def driveMachine (config : StreamConfig) (queued : List (List Byte)) :
    Machine (DriveState Byte) (DriveTurn Byte) where
  start := .opened queued
  next := driveTurn config

def StreamItem.bytes? : StreamItem Byte → Option (List Byte)
  | .chunk bytes => some bytes
  | .failure _ => none

/-- `to_bytes` on the body stream: a closed channel is the end of the body. -/
def bufferedBody (items : List (StreamItem Byte)) : Option (List Byte) :=
  (items.mapM StreamItem.bytes?).map List.flatten

/-- The body stream has ended without an error item only where the dispatch was
completed and every piece sent; what is buffered is the whole body. -/
def EndsComplete (state : DriveState Byte) : Prop :=
  state.status = .returned → state.dropped = false →
    ((∀ item ∈ state.items, ∃ bytes, item = .chunk bytes) →
      state.completed = true ∧ state.items = state.produced.map .chunk) ∧
    ∀ body, bufferedBody state.items = some body →
      state.completed = true ∧ body = state.produced.flatten

def Answered (config : StreamConfig) : Nat → List (List Byte) → List SendOutcome → Prop
  | _, [], _ => True
  | sentBytes, piece :: pieces, sends =>
    sends.headD .accepted ≠ .timedOut ∧ (sends.headD .accepted = .accepted →
        config.allows sentBytes piece.length = true →
        Answered config (sentBytes + piece.length) pieces sends.tail)

/-- The turn leaves by no exit without an error item. -/
def SpeaksUp (config : StreamConfig) (state : DriveState Byte) (turn : DriveTurn Byte) : Prop :=
  match state.status with
  | .returned => True
  | .resuming => turn.reply ≠ none
  | .running envelope => turn.elapsedMicros < config.timeoutMicros ∧ match envelope with
      | .complete response =>
        Answered config state.sentBytes ((response.map PhpResponse.pieces).getD []) turn.sends
      | .suspended none => False
      | .suspended (some (.timer delayMicros)) =>
        turn.elapsedMicros + delayMicros < config.timeoutMicros ∧ turn.reply ≠ none
      | .suspended (some .native) => turn.reply ≠ none
      | .suspended (some (.responseChunk _ none)) => turn.reply ≠ none
      | .suspended (some (.responseChunk _ (some chunk))) =>
        turn.sends.headD .accepted ≠ .timedOut ∧ (turn.sends.headD .accepted = .accepted →
            config.allows state.sentBytes chunk.length = true → turn.reply ≠ none)

variable {pieces : List (List Byte)}

theorem mapM_bytes_eq_some (read : items.mapM StreamItem.bytes? = some pieces) :
    items = pieces.map .chunk := by
  induction items generalizing pieces with
  | nil =>
    cases read
    rfl
  | cons item items induction =>
    cases item with
    | failure message => simp [StreamItem.bytes?] at read
    | chunk bytes =>
      simp only [mapM_cons, StreamItem.bytes?, bind_eq_bind,
        bind_some, bind_eq_some_iff, Option.pure_def, some.injEq] at read
      obtain ⟨rest, restRead, rfl⟩ := read
      rw [induction restRead, map_cons]

theorem map_chunk_injective : Function.Injective
      (List.map (StreamItem.chunk : List Byte → StreamItem Byte)) :=
  map_injective_iff.mpr fun _ _ same => StreamItem.chunk.inj same

theorem chunks_of_items {items : List (StreamItem Byte)} (same : items = map .chunk sent) :
    ∀ item ∈ items, ∃ bytes, item = .chunk bytes := by
  intro item member
  rw [same] at member
  obtain ⟨bytes, _, rfl⟩ := mem_map.mp member
  exact ⟨bytes, rfl⟩

theorem endsComplete_iff : EndsComplete state ↔ (state.status = .returned → state.dropped = false →
        (∀ item ∈ state.items, ∃ bytes, item = .chunk bytes) →
        state.completed = true ∧ state.items = state.produced.map .chunk) := by
  constructor
  · intro ends returned alive chunks
    exact (ends returned alive).1 chunks
  intro ends returned alive
  refine ⟨ends returned alive, ?_⟩
  intro body buffered
  obtain ⟨pieces, read, rfl⟩ := map_eq_some_iff.mp buffered
  have items := mapM_bytes_eq_some read
  obtain ⟨completed, sent⟩ := ends returned alive (chunks_of_items items)
  rw [items] at sent
  rw [map_chunk_injective sent]
  exact ⟨completed, rfl⟩

theorem sendResponseChunk_frame {next : DriveState Byte}
    (step : sendResponseChunk config state chunk outcome = (next, sent)) :
    next.produced = state.produced ∧ next.completed = state.completed := by
  cases outcome with
  | timedOut | closed =>
    cases step
    exact ⟨rfl, rfl⟩
  | accepted =>
    simp only [sendResponseChunk] at step
    split at step <;> cases step <;> exact ⟨rfl, rfl⟩

theorem sendResponseChunk_sent (allowed : config.allows state.sentBytes chunk.length = true) :
    sendResponseChunk config state chunk .accepted = (state.queue chunk, true) := by
  simp [sendResponseChunk, allowed]

theorem sendResponseChunk_refused (refused : config.allows state.sentBytes chunk.length = false) :
    ∃ message, sendResponseChunk config state chunk .accepted =
      ({ state with items := state.items ++ [.failure message] }, false) := by
  simp only [sendResponseChunk, refused]
  exact ⟨_, rfl⟩

theorem sendPieces_frame (state : DriveState Byte) (sends : List SendOutcome) :
    (sendPieces config state pieces sends).produced = state.produced ∧
      (sendPieces config state pieces sends).completed = state.completed := by
  induction pieces generalizing state sends with
  | nil => exact ⟨rfl, rfl⟩
  | cons piece pieces induction =>
    unfold sendPieces
    split
    next next accepted =>
      rw [← (sendResponseChunk_frame accepted).1, ← (sendResponseChunk_frame accepted).2]
      exact induction next sends.tail
    next refused => exact sendResponseChunk_frame refused

/-- The sends of a completed response either answer every piece, or stop with
some pieces left and nothing that says so. -/
theorem sendPieces_cases (items : state.items = sent.map .chunk) (sends : List SendOutcome) :
    (Answered config state.sentBytes pieces sends ∧
      ((sendPieces config state pieces sends).dropped = true ∨
        (∃ message, .failure message ∈ (sendPieces config state pieces sends).items) ∨
        (sendPieces config state pieces sends).items = (sent ++ pieces).map .chunk)) ∨
    ¬ Answered config state.sentBytes pieces sends ∧
      (sendPieces config state pieces sends).dropped = state.dropped ∧
      ∃ before after, pieces = before ++ after ∧ after ≠ [] ∧
        (sendPieces config state pieces sends).items = (sent ++ before).map .chunk := by
  induction pieces generalizing state sent sends with
  | nil => exact .inl ⟨trivial, .inr (.inr (by simpa [sendPieces] using items))⟩
  | cons piece pieces induction =>
    unfold sendPieces
    cases outcome : sends.headD .accepted with
    | timedOut =>
      refine .inr ⟨fun answered => answered.1 outcome, rfl, [], piece :: pieces, rfl, by simp, ?_⟩
      simpa [sendResponseChunk] using items
    | closed => exact .inl ⟨by simp only [Answered, outcome]; simp, .inl rfl⟩
    | accepted =>
      cases allowed : config.allows state.sentBytes piece.length with
      | false =>
        obtain ⟨message, refused⟩ := sendResponseChunk_refused allowed
        rw [refused]
        exact .inl ⟨by simp only [Answered, outcome, allowed]; simp, .inr (.inl ⟨message, by simp⟩)⟩
      | true =>
        rw [sendResponseChunk_sent allowed]
        have grown : (state.queue piece).items = (sent ++ [piece]).map .chunk := by
          simp [DriveState.queue, items]
        have rest : Answered config state.sentBytes (piece :: pieces) sends ↔
            Answered config (state.queue piece).sentBytes pieces sends.tail := by
          simp only [Answered, outcome, allowed, DriveState.queue]
          simp
        rw [rest]
        rcases induction grown sends.tail with
          ⟨answered, shown⟩ | ⟨unanswered, dropped, before, after, rfl, left, shown⟩
        · exact .inl ⟨answered, by simpa using shown⟩
        · exact .inr ⟨unanswered, dropped, piece :: before, after, rfl, left, by simpa using shown⟩

structure Streaming (state : DriveState Byte) : Prop where
  sent : state.items = state.produced.map .chunk
  unfinished : state.completed = false
  alive : state.dropped = false

structure InStep (state : DriveState Byte) : Prop where
  sent : state.status ≠ .returned → state.items = state.produced.map .chunk
  unfinished : state.status ≠ .returned → state.completed = false
  alive : state.status ≠ .returned → state.dropped = false
  ends : EndsComplete state

theorem InStep.streaming (inStep : InStep state) (running : state.status ≠ .returned) :
    Streaming state := ⟨inStep.sent running, inStep.unfinished running, inStep.alive running⟩

theorem inStep_opened : InStep (DriveState.opened queued) :=
  ⟨fun _ => rfl, fun _ => rfl, fun _ => rfl, nofun⟩

theorem inStep_of_returned (returned : state.status = .returned) (ends : EndsComplete state) :
    InStep state := ⟨absurd returned, absurd returned, absurd returned, ends⟩

theorem not_endsComplete (returned : state.status = .returned)
    (alive : state.dropped = false) (items : state.items = sent.map .chunk)
    (short : state.completed = false ∨ sent ≠ state.produced) : ¬ EndsComplete state := by
  rw [endsComplete_iff]
  intro ends
  obtain ⟨completed, same⟩ := ends returned alive (chunks_of_items items)
  rcases short with unfinished | different
  · rw [unfinished] at completed
    cases completed
  · rw [items] at same
    exact different (map_chunk_injective same)

theorem endsComplete_of_failure (failed : .failure message ∈ state.items) : EndsComplete state := by
  rw [endsComplete_iff]
  intro _ _ chunks
  obtain ⟨bytes, same⟩ := chunks _ failed
  cases same

theorem endsComplete_of_dropped (dropped : state.dropped = true) : EndsComplete state := by
  intro _ alive
  rw [dropped] at alive
  cases alive

/-- The condition is exact for a step into the state. -/
def Decided (speaks : Prop) (state : DriveState Byte) : Prop :=
  speaks ∧ InStep state ∨ ¬ speaks ∧ ¬ EndsComplete state

theorem Streaming.ended (streaming : Streaming state) (silent : ¬ speaks) :
    Decided speaks state.ended :=
  .inr ⟨silent, not_endsComplete rfl streaming.alive streaming.sent (.inl streaming.unfinished)⟩

theorem Streaming.resume (streaming : Streaming state) (reply : Option (PhpDispatchEnvelope Byte)) :
    Decided (reply ≠ none) (state.resume reply) := by
  cases reply with
  | none => exact streaming.ended (by simp)
  | some envelope => exact .inl ⟨nofun, fun _ => streaming.sent, fun _ => streaming.unfinished,
      fun _ => streaming.alive, nofun⟩

theorem Streaming.complete (streaming : Streaming state) (config : StreamConfig) :
    Decided (Answered config state.sentBytes pieces sends)
      (sendPieces config { state.hand pieces with completed := true } pieces sends).ended := by
  have before : ({ state.hand pieces with completed := true } :
      DriveState Byte).items = state.produced.map .chunk := streaming.sent
  obtain ⟨produced, completed⟩ := sendPieces_frame
    { state.hand pieces with completed := true } sends
  rcases sendPieces_cases before sends with
    ⟨answered, ends⟩ | ⟨unanswered, dropped, first, rest, split, left, shown⟩
  · refine .inl ⟨answered, inStep_of_returned rfl ?_⟩
    rcases ends with dropped | ⟨message, failed⟩ | shown
    · exact endsComplete_of_dropped dropped
    · exact endsComplete_of_failure failed
    rw [endsComplete_iff]
    intro _ _ _
    exact ⟨completed, shown.trans (congrArg (map StreamItem.chunk) produced.symm)⟩
  · refine .inr ⟨unanswered, not_endsComplete rfl (dropped.trans streaming.alive) shown (.inr ?_)⟩
    simp only [DriveState.ended, produced]
    intro same
    have same := append_cancel_left same
    rw [split] at same
    exact left (self_eq_append_right.mp same)

theorem Streaming.send {target : DriveState Byte} (streaming : Streaming state)
    (step : (match sendResponseChunk config (state.hand [chunk]) chunk outcome with
      | (next, true) => some (next.resume reply)
      | (next, false) => some next.ended) = some target) :
    Decided (outcome ≠ .timedOut ∧ (outcome = .accepted →
      config.allows state.sentBytes chunk.length = true → reply ≠ none)) target := by
  cases outcome with
  | timedOut =>
    cases step
    exact .inr ⟨by simp, not_endsComplete rfl streaming.alive streaming.sent
      (.inl streaming.unfinished)⟩
  | closed =>
    cases step
    exact .inl ⟨by simp, inStep_of_returned rfl (endsComplete_of_dropped rfl)⟩
  | accepted =>
    cases allowed : config.allows state.sentBytes chunk.length with
    | true =>
      have queued : sendResponseChunk config (state.hand [chunk]) chunk
          .accepted = _ := sendResponseChunk_sent allowed
      rw [queued] at step
      cases step
      have next : Streaming ((state.hand [chunk]).queue chunk) :=
        ⟨by simp [DriveState.queue, DriveState.hand, streaming.sent], streaming.unfinished,
          streaming.alive⟩
      simpa using next.resume reply
    | false =>
      obtain ⟨message, refused⟩ : ∃ message,
          sendResponseChunk config (state.hand [chunk]) chunk .accepted = ({ state.hand [chunk] with
              items := (state.hand [chunk]).items ++ [.failure message] }, false) :=
        sendResponseChunk_refused allowed
      rw [refused] at step
      cases step
      refine .inl ⟨by simp, inStep_of_returned rfl ?_⟩
      exact endsComplete_of_failure (mem_append_right _ mem_cons_self)

theorem decided_turn (inStep : InStep state) (step : driveTurn config state turn = some target) :
    Decided (SpeaksUp config state turn) target := by
  unfold driveTurn at step
  unfold SpeaksUp
  cases status : state.status with
  | returned => simp [status] at step
  | resuming =>
    rw [status] at step
    cases step
    exact (inStep.streaming (by simp [status])).resume turn.reply
  | running envelope =>
    have streaming := inStep.streaming (by simp [status])
    simp only [status] at step ⊢
    by_cases late : config.timeoutMicros ≤ turn.elapsedMicros
    · rw [if_pos late] at step
      cases step
      exact streaming.ended (by omega)
    rw [if_neg late] at step
    simp only [Nat.not_le.mp late, true_and]
    rcases envelope with response | ⟨_ | ⟨delayMicros | _ | ⟨response, _ | chunk⟩⟩⟩
    · cases step
      exact streaming.complete config
    · cases step
      exact streaming.ended id
    · simp only [] at step ⊢
      split at step <;> cases step
      · exact streaming.ended (by omega)
      · rw [and_iff_right (by omega)]
        exact streaming.resume turn.reply
    · cases step
      exact streaming.resume turn.reply
    · cases step
      exact streaming.resume turn.reply
    · exact streaming.send step

theorem endsComplete_visited_iff (config : StreamConfig)
    (queued : List (List Byte)) (turns : List (DriveTurn Byte)) :
    (∀ state ∈ (driveMachine config queued).visited (.opened queued) turns, EndsComplete state) ↔
      ∀ transition ∈ (driveMachine config queued).transitions (.opened queued) turns,
        SpeaksUp config transition.source transition.label :=
  (driveMachine config queued).visited_iff_guarded InStep (SpeaksUp config) EndsComplete InStep.ends
    (fun inStep speaks step => ((decided_turn inStep step).resolve_right (·.1 speaks)).2)
    (fun inStep silent step => ((decided_turn inStep step).resolve_left (silent ·.1)).2)
    inStep_opened turns

def thirtySeconds : StreamConfig where
  maxResponseBytes := 1024
  maxResponseChunkBytes := 64
  responseStreamQueueCapacity := 16
  timeoutMicros := 30000000
  timeoutPositive := by decide

def failedResume : List (DriveTurn UInt8) :=
  [{ elapsedMicros := 0, sends := []
     reply := some (.suspended (some (.responseChunk none (some [2])))) },
    { elapsedMicros := 10, sends := [], reply := none }]

theorem failed_resume_truncates : ¬ ∀ (config : StreamConfig) (queued : List (List UInt8))
        (turns : List (DriveTurn UInt8)),
      ∀ state ∈ (driveMachine config queued).visited (.opened queued) turns,
        EndsComplete state := by
  intro always
  have ends := always thirtySeconds [[1]] failedResume _ (Machine.finish_mem_visited _ _ _)
  have cached := (ends (by decide) (by decide)).2 [1, 2] (by decide)
  exact absurd cached.1 (by decide)

end Pam.Server
