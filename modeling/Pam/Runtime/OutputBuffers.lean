import Pam.Foundation.OutputLayer
import Pam.Foundation.Run

namespace Pam.Runtime.Output

open Pam.Foundation

/-! The output buffers of the HTTP dispatches on one PHP thread. The code of a
dispatch is a sequence of actions on the stack of buffers. -/

inductive FiberPhase where
  | running
  | suspended
  | terminated
  deriving DecidableEq

inductive FrameKind where
  | executeHttp
  /-- `handle` of the Laravel application -/
  | handle
  | streamContent

structure Frame where
  kind : FrameKind
  outputLevel : Nat

/-- `left` and `level` are no fields of the source: the buffers that the
dispatch had on the stack when it last suspended, and `ob_get_level()` then. -/
structure OutputDispatch where
  phase : FiberPhase
  output : List (Piece String)
  outputBufferBaseLevel : Option Nat
  frames : List Frame
  left : List (Buffer String)
  level : Nat

def OutputDispatch.fresh (level : Nat) : OutputDispatch where
  phase := .running
  output := []
  outputBufferBaseLevel := none
  frames := [⟨.executeHttp, level⟩]
  left := []
  level := 0

structure Advance where
  requestId : String
  outputLevel : Nat

abbrev DispatchTable := String → Option OutputDispatch

structure OutputState where
  layer : OutputLayer String
  /-- `ResponseFactory::$activeStreams`; 0 while the class is not loaded. -/
  activeStreams : Nat
  advancing : Option Advance
  httpDispatches : DispatchTable

def OutputState.initial : OutputState where
  layer := .empty
  activeStreams := 0
  advancing := none
  httpDispatches := fun _ => none

/-- What `mergeCapturedOutput` makes of the output: it is dropped for a response
with a body, becomes the body, or cannot be encoded. -/
inductive Merge where
  | dropped
  | body
  | fails

/-- What the code of a dispatch does next. A callback that suspends while it
writes a chunk is a flush and then a suspension. -/
inductive HandlerAction where
  | echo (text : String)
  | obStart
  | obGetClean
  | obEndClean
  | obEndFlush
  | obFlush
  | enterHandle
  | enterStreamContent
  /-- `streamContent` after `sendContent` -/
  | endSending
  /-- a turn of `while (ob_get_level() > $outputLevel) ob_end_clean();` -/
  | unwind
  | leave
  | suspend (throughPam : Bool)
  | returns (merge : Merge)
  /-- The error response is made, or that throws as well. -/
  | throws (reported : Bool)

inductive OutputLabel where
  | begin (requestId : String)
  | resume (requestId : String)
  | cancel (requestId : String)
  | act (action : HandlerAction)

def outputChunkBytes : Nat := 64 * 1024

def OutputState.setDispatch (state : OutputState) (requestId : String)
    (dispatch : Option OutputDispatch) : OutputState := { state with
    httpDispatches := Function.update state.httpDispatches requestId dispatch }

def OutputState.advance (state : OutputState) (requestId : String)
    (dispatch : OutputDispatch) : OutputState :=
  let state := state.setDispatch requestId (some { dispatch with phase := .running })
  match dispatch.outputBufferBaseLevel with
  | some base => { state with advancing := some ⟨requestId, base⟩ }
  | none => { state with
      layer := state.layer.start requestId none
      advancing := some ⟨requestId, state.layer.level⟩ }

/-- The loop that passes the nested buffers down, `count` times. -/
def closeNested : Nat → OutputLayer String → OutputLayer String
  | 0, layer => layer
  | count + 1, layer =>
    let nestedOutput := layer.contents
    let layer := layer.endClean none
    closeNested count (if nestedOutput = [] then layer else layer.write none nestedOutput)

def captureOutput (outputLevel : Nat) (layer : OutputLayer String) :
    List (Piece String) × OutputLayer String :=
  let layer := closeNested (layer.level - (outputLevel + 1)) layer
  if outputLevel < layer.level then (layer.contents, layer.endClean none) else ([], layer)

def OutputState.settle (state : OutputState) (outputLevel : Nat)
    (dispatch : OutputDispatch) (suspended : Bool) : OutputLayer String × OutputDispatch :=
  if suspended ∧ 0 < state.activeStreams then
    (state.layer, { dispatch with
      outputBufferBaseLevel := some (dispatch.outputBufferBaseLevel.getD outputLevel) })
  else
    let (captured, layer) := captureOutput outputLevel state.layer
    (layer, { dispatch with
      output := dispatch.output ++ captured
      outputBufferBaseLevel := none })

def OutputState.suspend (state : OutputState) (run : Advance)
    (dispatch : OutputDispatch) (throughPam : Bool) : OutputState :=
  let (layer, dispatch) := state.settle run.outputLevel dispatch true
  let state := { state with layer := layer }
  if throughPam then
    { state with advancing := none }.setDispatch run.requestId (some { dispatch with
        phase := .suspended
        left := layer.handlers.take (layer.level - run.outputLevel)
        level := layer.level })
  else
    -- The exception is thrown into the fiber by another call.
    state.advance run.requestId dispatch

def OutputState.complete (state : OutputState) (run : Advance)
    (dispatch : OutputDispatch) (merge : Merge) : OutputState :=
  let (layer, dispatch) := state.settle run.outputLevel dispatch false
  let state := { state with layer := layer, advancing := none }
  match merge with
  | .dropped => state.setDispatch run.requestId none
  | .body => { state with layer := layer.deliver run.requestId dispatch.output
      }.setDispatch run.requestId none
  | .fails => state.setDispatch run.requestId (some { dispatch with phase := .terminated })

def OutputState.enter (state : OutputState) (run : Advance)
    (dispatch : OutputDispatch) (kind : FrameKind) : OutputState :=
  state.setDispatch run.requestId (some { dispatch with
      frames := ⟨kind, state.layer.level⟩ :: dispatch.frames })

/-- The code of the dispatch takes an action; `none` if it cannot come to it
where it is. -/
def OutputState.act (state : OutputState) (run : Advance)
    (dispatch : OutputDispatch) : HandlerAction → Option OutputState
  | .echo text => some { state with
      layer := state.layer.write (some run.requestId)
        (if text = "" then [] else [⟨run.requestId, text⟩]) }
  | .obStart => some { state with layer := state.layer.start run.requestId none }
  | .obGetClean =>
    -- The code has the contents, for its response or anything else.
    some { state with
      layer := (state.layer.endClean (some run.requestId)).deliver
        run.requestId state.layer.contents }
  | .obEndClean => some { state with layer := state.layer.endClean (some run.requestId) }
  | .obEndFlush => some { state with layer := state.layer.endFlush (some run.requestId) }
  | .obFlush => some { state with layer := state.layer.flush (some run.requestId) }
  | .enterHandle => some { state.enter run dispatch .handle with
      layer := state.layer.start run.requestId none }
  | .enterStreamContent => some { state.enter run dispatch .streamContent with
      layer := state.layer.start run.requestId (some ⟨run.requestId, outputChunkBytes⟩)
      activeStreams := state.activeStreams + 1 }
  | .endSending =>
    match dispatch.frames with
    | ⟨.streamContent, outputLevel⟩ :: _ =>
      if outputLevel < state.layer.level then
        some { state with layer := state.layer.endFlush (some run.requestId) }
      else some state
    | _ => none
  | .unwind =>
    match dispatch.frames with
    | frame :: _ =>
      if frame.outputLevel < state.layer.level then
        some { state with layer := state.layer.endClean (some run.requestId) }
      else none
    | [] => none
  | .leave =>
    match dispatch.frames with
    | ⟨.handle, outputLevel⟩ :: frames =>
      if state.layer.level ≤ outputLevel then
        some (state.setDispatch run.requestId (some { dispatch with frames := frames }))
      else none
    | ⟨.streamContent, outputLevel⟩ :: frames =>
      if state.layer.level ≤ outputLevel then
        some { state.setDispatch run.requestId (some { dispatch with frames := frames }) with
          activeStreams := state.activeStreams - 1 }
      else none
    | _ => none
  | .suspend throughPam => some (state.suspend run dispatch throughPam)
  | .returns merge =>
    match dispatch.frames with
    | [frame] =>
      if state.layer.level ≤ frame.outputLevel then some (state.complete run dispatch merge)
      else none
    | _ => none
  | .throws reported =>
    match dispatch.frames with
    | [_] => some (state.complete run dispatch (if reported then .dropped else .fails))
    | _ => none

def OutputState.call (state : OutputState) : OutputLabel → Option OutputState
  | .begin requestId =>
    if requestId = "" ∨ (state.httpDispatches requestId).isSome then some state
    else some (state.advance requestId (.fresh (state.layer.level + 1)))
  | .resume requestId =>
    match state.httpDispatches requestId with
    | some dispatch =>
      if dispatch.phase = .suspended then some (state.advance requestId dispatch) else some state
    | none => some state
  | .cancel requestId =>
    match state.httpDispatches requestId with
    | some dispatch =>
      if dispatch.phase = .suspended then some (state.advance requestId dispatch)
      else some (state.setDispatch requestId none)
    | none => some state
  | .act _ => none

def outputNext (state : OutputState) (label : OutputLabel) : Option OutputState :=
  match state.advancing with
  | none => state.call label
  | some run =>
    match label, state.httpDispatches run.requestId with
    | .act action, some dispatch => state.act run dispatch action
    | _, _ => none

def outputMachine : Machine OutputState OutputLabel where
  start := .initial
  next := outputNext

end Pam.Runtime.Output
