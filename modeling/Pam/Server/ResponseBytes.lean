import Pam.Server.ResponseLimits

namespace Pam.Server

open Pam.Foundation List

/-! What one request adds to `response_bytes`: a stream's driver adds what it
queues, the telemetry the length `http_dispatch` hands to it. -/

def HttpDispatch.drivenBytes : HttpDispatch Byte → Nat
  | .streaming drive _ => drive.sentBytes
  | _ => 0

def HttpDispatch.returnedBytes : HttpDispatch Byte → Nat
  | .responded body => body.length
  | _ => 0

/-- The body of a PHP response as `to_bytes` reads it, to the end of a stream. -/
def HttpDispatch.buffered : HttpDispatch Byte → Option (List Byte)
  | .responded body => some body
  | .streaming ⟨.returned, _, items, _, _, _⟩ none => bufferedBody items
  | _ => none

inductive PhpReply (Byte : Type) where
  | cached (body : List Byte)
  | dispatched (dispatch : HttpDispatch Byte)
  | stored (dispatch : HttpDispatch Byte) (body : List Byte)

def PhpReply.responseBytes : PhpReply Byte → Nat
  | .cached body => body.length
  | .dispatched dispatch => dispatch.drivenBytes + dispatch.returnedBytes
  | .stored dispatch body => dispatch.drivenBytes + body.length

def PhpReply.handedBytes : PhpReply Byte → Nat
  | .cached body => body.length
  | .dispatched dispatch => dispatch.bodyBytes
  | .stored _ body => body.length

/-- The request is answered with the PHP response: no server error stands in
its place, and what is stored was buffered to its end. -/
def PhpReply.Answers (config : StreamConfig) (turns : List (InvokeTurn Byte)) : PhpReply Byte → Prop
  | .cached _ => True
  | .dispatched dispatch => dispatch = (invokeMachine config).finish .starting turns ∧
      ((∃ body, dispatch = .responded body) ∨ ∃ drive, dispatch = .streaming drive none)
  | .stored dispatch body => dispatch = (invokeMachine config).finish .starting turns ∧
      dispatch.buffered = some body

theorem itemBytes_of_buffered (buffered : bufferedBody items = some body) :
    itemBytes items = body.length := by
  obtain ⟨pieces, read, rfl⟩ := Option.map_eq_some_iff.mp buffered
  rw [mapM_bytes_eq_some read, itemBytes_map_chunk, length_flatten]

def HttpDispatch.Counted : HttpDispatch Byte → Prop
  | .streaming drive _ => itemBytes drive.items = drive.sentBytes
  | _ => True

theorem counted_step {state target : HttpDispatch Byte} (counted : state.Counted)
    (step : invokeStep config state turn = some target) : target.Counted := by
  have resumed (reply : Option (PhpDispatchEnvelope Byte)) :
      (HttpDispatch.resume reply).Counted := by
    cases reply with
    | none | some envelope => trivial
  cases state with
  | responded body | refused error placed => cases step
  | starting =>
    cases step
    exact resumed turn.reply
  | running envelope =>
    simp only [invokeStep] at step
    split at step <;> cases step
    · trivial
    unfold proceed
    split
    · trivial
    · exact itemBytes_map_chunk _
    · exact resumed turn.reply
  | streaming drive refusal =>
    obtain ⟨next, driven, rfl⟩ := Option.map_eq_some_iff.mp step
    exact driveTurn_keeps (fun items sent => itemBytes items = sent)
      (fun _ kept => by simp [kept, StreamItem.size])
      (fun _ kept => by simp [kept, StreamItem.size])
      counted driven

theorem counted_finish (config : StreamConfig) (turns : List (InvokeTurn Byte)) :
    ((invokeMachine config).finish .starting turns).Counted :=
  (invokeMachine config).visited_of_guarded HttpDispatch.Counted (fun _ _ => True) _ id
    (fun counted _ step => counted_step counted step) (by trivial) (fun _ _ => trivial) _
    (Machine.finish_mem_visited _ _ _)

theorem response_bytes_once_iff (config : StreamConfig) (turns : List (InvokeTurn Byte))
    (reply : PhpReply Byte) (answers : reply.Answers config turns) :
    reply.responseBytes = reply.handedBytes ↔
      ∀ drive refusal body, reply = .stored (.streaming drive refusal) body → body = [] := by
  have counted := counted_finish config turns
  cases reply with
  | cached body => simp [PhpReply.responseBytes, PhpReply.handedBytes]
  | dispatched dispatch =>
    obtain ⟨rfl, ⟨body, same⟩ | ⟨drive, same⟩⟩ := answers
    · simp [PhpReply.responseBytes, PhpReply.handedBytes, same, HttpDispatch.drivenBytes,
        HttpDispatch.returnedBytes, HttpDispatch.bodyBytes]
    · rw [same] at counted
      simp [PhpReply.responseBytes, PhpReply.handedBytes, same, HttpDispatch.drivenBytes,
        HttpDispatch.returnedBytes, HttpDispatch.bodyBytes, ← show _ = _ from counted]
  | stored dispatch body =>
    obtain ⟨rfl, buffered⟩ := answers
    simp only [PhpReply.responseBytes, PhpReply.handedBytes]
    cases same : (invokeMachine config).finish .starting turns with
    | streaming drive refusal =>
      rw [same] at counted buffered
      unfold HttpDispatch.buffered at buffered
      split at buffered
      · cases ‹HttpDispatch.streaming drive refusal = _›
      next reached =>
        cases reached
        simp only [HttpDispatch.Counted, itemBytes_of_buffered buffered] at counted
        simp [HttpDispatch.drivenBytes, ← counted]
      · cases buffered
    | _ => simp [HttpDispatch.drivenBytes]

def storedStream : List (InvokeTurn Bool) :=
  bodyThenChunk ++ [plainTurn (some (.complete none)), plainTurn none]

theorem sample_response_bytes_once : PhpReply.responseBytes
    (.dispatched ((invokeMachine narrowConfig).finish .starting storedStream)) = 6 :=
  (response_bytes_once_iff narrowConfig storedStream (.dispatched _) ⟨rfl, .inr ⟨_, rfl⟩⟩).mpr nofun

theorem stored_stream_counted_twice : ¬ ∀ (config : StreamConfig) (turns : List (InvokeTurn Bool))
    (reply : PhpReply Bool), reply.Answers config turns →
      reply.responseBytes = reply.handedBytes := by
  intro once
  have counted := once narrowConfig storedStream (.stored _ [true, true, true, true, true, true])
    ⟨rfl, by decide +kernel⟩
  exact absurd counted (by decide +kernel)

end Pam.Server
