import Pam.Runtime.OutputBuffers

namespace Pam.Runtime.Output

open Pam.Foundation Option Function

/-! Isolation. -/

def heldBuffers (table : DispatchTable) (requestId : String) : List (Buffer String) :=
  match table requestId with
  | some dispatch => if dispatch.phase = .suspended then dispatch.left else []
  | none => []

def buffersOf (requestId : String) (handlers : List (Buffer String)) : List (Buffer String) :=
  handlers.filter fun buffer => buffer.owner = requestId

def HoldsSuspended (state : OutputState) : Prop :=
  ∀ requestId, buffersOf requestId state.layer.handlers = heldBuffers state.httpDispatches requestId

def OutputLabel.completes : OutputLabel → Bool
  | .act (.returns _) => true
  | .act (.throws _) => true
  | _ => false

def OutputIsolated (label : OutputLabel) (target : OutputState) : Prop :=
  target.layer.Honest ∧ (label.completes → HoldsSuspended target)

def flushesInside (outputLevel : Nat) (layer : OutputLayer String) : Prop :=
  outputLevel < layer.level ∧ (layer.endsInCallback ∨ outputLevel + 1 < layer.level)

def actsInside (outputLevel : Nat) (layer : OutputLayer String)
    (frames : List Frame) : HandlerAction → Prop
  | .echo _ => outputLevel < layer.level
  | .obGetClean => outputLevel < layer.level
  | .obEndClean => outputLevel < layer.level
  | .obEndFlush => flushesInside outputLevel layer
  | .obFlush => flushesInside outputLevel layer
  | .endSending => ∀ frame ∈ frames.head?, frame.outputLevel < layer.level →
      flushesInside outputLevel layer
  | _ => True

/-- A suspended dispatch goes on only when the stack is as high as it was when
the dispatch suspended. -/
def resumesInOrder (state : OutputState) (requestId : String) : Prop :=
  ∀ dispatch ∈ state.httpDispatches requestId,
    dispatch.phase = .suspended → state.layer.level = dispatch.level

def orderly (state : OutputState) : OutputLabel → Prop
  | .begin _ => True
  | .resume requestId => resumesInOrder state requestId
  | .cancel requestId => resumesInOrder state requestId
  | .act action => ∀ run ∈ state.advancing, ∀ dispatch ∈ state.httpDispatches run.requestId,
        actsInside run.outputLevel state.layer dispatch.frames action

inductive Called (state : OutputState) (label : OutputLabel) : OutputState → Prop where
  | nothing : Called state label state
  | begun (requestId : String) (missing : state.httpDispatches requestId = none) :
      Called state label (state.advance requestId (.fresh (state.layer.level + 1)))
  | resumed {requestId : String} {dispatch : OutputDispatch}
      (found : state.httpDispatches requestId = some dispatch)
      (suspended : dispatch.phase = .suspended)
      (level : orderly state label → state.layer.level = dispatch.level) :
      Called state label (state.advance requestId dispatch)
  | dropped {requestId : String} {dispatch : OutputDispatch}
      (found : state.httpDispatches requestId = some dispatch)
      (unsuspended : dispatch.phase ≠ .suspended) :
      Called state label (state.setDispatch requestId none)

theorem called_of_call {target : OutputState} {label : OutputLabel}
    (step : state.call label = some target) : Called state label target := by
  cases label with
  | begin requestId =>
    simp only [OutputState.call] at step
    split at step
    case isTrue => exact some.inj step ▸ .nothing
    case isFalse valid =>
      have missing : state.httpDispatches requestId = none := by simpa using (not_or.mp valid).2
      exact some.inj step ▸ .begun requestId missing
  | resume requestId =>
    simp only [OutputState.call] at step
    split at step
    case h_1 dispatch found =>
      split at step
      case isTrue suspended =>
        exact some.inj step ▸ .resumed found suspended
          fun inOrder => inOrder dispatch found suspended
      case isFalse => exact some.inj step ▸ .nothing
    case h_2 => exact some.inj step ▸ .nothing
  | cancel requestId =>
    simp only [OutputState.call] at step
    split at step
    case h_1 dispatch found =>
      split at step
      case isTrue suspended =>
        exact some.inj step ▸ .resumed found suspended
          fun inOrder => inOrder dispatch found suspended
      case isFalse unsuspended => exact some.inj step ▸ .dropped found unsuspended
    case h_2 => exact some.inj step ▸ .nothing
  | act action => cases step

/-- What a dispatch keeps of the levels above `bottom`, which are its own. -/
structure OutputDispatch.Tidy (dispatch : OutputDispatch) (requestId : String)
    (bottom : Nat) : Prop where
  output : WrittenBy requestId dispatch.output
  base : ∀ base ∈ dispatch.outputBufferBaseLevel, base = bottom
  frames : ∀ frame ∈ dispatch.frames, bottom ≤ frame.outputLevel

def OutputDispatch.bottom (dispatch : OutputDispatch) : Nat := dispatch.level - dispatch.left.length

/-- The buffers of a suspended dispatch lie together among those `below` the
code that runs. -/
structure OutputDispatch.Parked (dispatch : OutputDispatch)
    (requestId : String) (below : List (Buffer String)) : Prop where
  tidy : dispatch.Tidy requestId dispatch.bottom
  fits : dispatch.left.length ≤ dispatch.level
  own : ∀ buffer ∈ dispatch.left, buffer.Belongs requestId
  kept : dispatch.outputBufferBaseLevel = none → dispatch.left = []
  slot : dispatch.left ≠ [] → ∃ above rest,
    below = above ++ (dispatch.left ++ rest) ∧ rest.length = dispatch.bottom

structure Arranged (below : List (Buffer String)) (table : DispatchTable) : Prop where
  parked : ∀ requestId dispatch, table requestId = some dispatch →
    dispatch.phase = .suspended → dispatch.Parked requestId below
  held : ∀ requestId, buffersOf requestId below = heldBuffers table requestId

structure Busy (state : OutputState) (run : Advance)
    (below : List (Buffer String)) (dispatch : OutputDispatch) : Prop where
  level : run.outputLevel = below.length
  fenced : Fenced run.requestId below state.layer
  arranged : Arranged below state.httpDispatches
  present : state.httpDispatches run.requestId = some dispatch
  running : dispatch.phase = .running
  tidy : dispatch.Tidy run.requestId below.length

def Orderly (state : OutputState) : Prop := match state.advancing with
  | none => state.layer.Honest ∧ Arranged state.layer.handlers state.httpDispatches
  | some run => ∃ below dispatch, Busy state run below dispatch

theorem buffersOf_append : buffersOf requestId (first ++ second) =
      buffersOf requestId first ++ buffersOf requestId second := List.filter_append ..

theorem buffersOf_own (belongs : ∀ buffer ∈ own, buffer.Belongs requestId) :
    buffersOf requestId own = own := by
  apply List.filter_eq_self.mpr
  intro buffer member
  simpa using (belongs buffer member).owner

theorem buffersOf_other (different : other ≠ requestId)
    (belongs : ∀ buffer ∈ own, buffer.Belongs requestId) : buffersOf other own = [] := by
  apply List.filter_eq_nil_iff.mpr
  intro buffer member owned
  have owner := (belongs buffer member).owner
  simp only [decide_eq_true_eq] at owned
  exact different (owned.symm.trans owner)

theorem slot_below {other : String} (different : other ≠ requestId)
    {left below above rest : List (Buffer String)}
    (ownBelongs : ∀ buffer ∈ own, buffer.Belongs requestId)
    (leftBelongs : ∀ buffer ∈ left, buffer.Belongs other)
    (some_left : left ≠ []) (split : own ++ below = above ++ (left ++ rest)) :
    ∃ above', below = above' ++ (left ++ rest) := by
  rcases List.append_eq_append_iff.mp split with ⟨above', _, below_eq⟩ | ⟨overlap, own_eq, left_eq⟩
  · exact ⟨above', below_eq⟩
  cases overlap with
  | nil => exact ⟨[], left_eq.symm⟩
  | cons shared overlap =>
    -- The first buffer of `left` would belong to both.
    cases left with
    | nil => exact absurd rfl some_left
    | cons first left =>
      simp only [List.cons_append, List.cons.injEq] at left_eq
      have byOwn := (ownBelongs shared (by simp [own_eq])).owner
      have byLeft := (leftBelongs first (.head _)).owner
      exact absurd (byLeft.symm.trans (left_eq.1 ▸ byOwn)) different

theorem Arranged.update (parked : ∀ dispatch ∈ entry, dispatch.phase = .suspended →
      dispatch.Parked requestId after)
    (held : buffersOf requestId after = heldBuffers (fun _ => entry) requestId)
    (others : ∀ other ≠ requestId, ∀ dispatch, table other = some dispatch →
      dispatch.phase = .suspended → dispatch.Parked other after)
    (othersHeld : ∀ other ≠ requestId, buffersOf other after = heldBuffers table other) :
    Arranged after (update table requestId entry) where
  parked := (forall_update_iff table fun other stored =>
    ∀ dispatch, stored = some dispatch → dispatch.phase = .suspended →
      dispatch.Parked other after).mpr ⟨parked, others⟩
  held := by
    intro other
    by_cases same : other = requestId
    · subst same
      simpa [heldBuffers] using held
    · simpa [heldBuffers, same] using othersHeld other same

theorem Arranged.setUnsuspended (arranged : Arranged below table)
    (absent : buffersOf requestId below = [])
    (unsuspended : ∀ dispatch ∈ entry, dispatch.phase ≠ .suspended) :
    Arranged below (Function.update table requestId entry) := by
  refine .update ?_ ?_ (fun other _ => arranged.parked other) (fun other _ => arranged.held other)
  · intro dispatch stored suspended
    exact absurd suspended (unsuspended dispatch stored)
  cases entry with
  | none => exact absent
  | some dispatch => simp [absent, heldBuffers, unsuspended dispatch rfl]

theorem Arranged.park (arranged : Arranged below table)
    (absent : buffersOf requestId below = []) (dispatch : OutputDispatch)
    (suspended : dispatch.phase = .suspended)
    (belongs : ∀ buffer ∈ dispatch.left, buffer.Belongs requestId)
    (level : dispatch.level = (dispatch.left ++ below).length)
    (tidy : dispatch.Tidy requestId below.length)
    (kept : dispatch.outputBufferBaseLevel = none → dispatch.left = []) :
    Arranged (dispatch.left ++ below) (Function.update table requestId (some dispatch)) := by
  have bottom : dispatch.bottom = below.length := by simp [OutputDispatch.bottom, level]
  refine .update ?_ ?_ ?_ ?_
  · intro stored same _
    cases same
    exact {
      tidy := bottom ▸ tidy
      fits := by simp [level]
      own := belongs
      kept := kept
      slot := fun _ => ⟨[], below, rfl, bottom.symm⟩ }
  · rw [buffersOf_append, buffersOf_own belongs, absent]
    simp [heldBuffers, suspended]
  · intro other _ stored found storedSuspended
    have parked := arranged.parked other stored found storedSuspended
    refine { parked with slot := fun some_left => ?_ }
    obtain ⟨above, rest, below_eq, rest_length⟩ := parked.slot some_left
    exact ⟨dispatch.left ++ above, rest, by simp [below_eq], rest_length⟩
  · intro other different
    rw [buffersOf_append, buffersOf_other different belongs]
    exact arranged.held other

theorem OutputDispatch.Parked.on_top
    {dispatch : OutputDispatch} (parked : dispatch.Parked requestId handlers)
    (level : handlers.length = dispatch.level) :
    ∃ below, handlers = dispatch.left ++ below ∧ below.length = dispatch.bottom := by
  by_cases some_left : dispatch.left = []
  · exact ⟨handlers, by simp [some_left], by simp [OutputDispatch.bottom, some_left, level]⟩
  obtain ⟨above, rest, split, rest_length⟩ := parked.slot some_left
  have above_nil : above = [] := by
    have lengths := congrArg List.length split
    simp only [List.length_append, rest_length, OutputDispatch.bottom] at lengths
    exact List.length_eq_zero_iff.mp (by omega)
  exact ⟨rest, by simp [split, above_nil], rest_length⟩

theorem Arranged.unpark (arranged : Arranged handlers table) {dispatch : OutputDispatch}
    (found : table requestId = some dispatch) (suspended : dispatch.phase = .suspended)
    (level : handlers.length = dispatch.level) : ∃ below, handlers = dispatch.left ++ below ∧
      below.length = dispatch.bottom ∧ Arranged below (Function.update table requestId
          (some { dispatch with phase := .running })) := by
  have parked := arranged.parked requestId dispatch found suspended
  obtain ⟨below, handlers_eq, below_length⟩ := parked.on_top level
  have held := arranged.held
  simp only [handlers_eq, buffersOf_append] at held
  have absent : buffersOf requestId below = [] := by
    have own := held requestId
    rw [buffersOf_own parked.own] at own
    simpa [heldBuffers, found, suspended] using own
  refine ⟨below, handlers_eq, below_length, .update ?_ absent ?_ ?_⟩
  · intro stored same storedSuspended
    cases same
    cases storedSuspended
  · intro other different stored storedFound storedSuspended
    have otherParked := arranged.parked other stored storedFound storedSuspended
    refine { otherParked with slot := fun some_left => ?_ }
    obtain ⟨above, rest, split, rest_length⟩ := otherParked.slot some_left
    obtain ⟨above', below_eq⟩ := slot_below different parked.own
      otherParked.own some_left (handlers_eq.symm.trans split)
    exact ⟨above', rest, below_eq, rest_length⟩
  · intro other different
    rw [← held other, buffersOf_other different parked.own, List.nil_append]

theorem handlers_eq_of_level (fenced : Fenced requestId below layer)
    (level : layer.level ≤ below.length) : layer.handlers = below := by
  obtain ⟨own, handlers, _⟩ := fenced.above
  simp only [OutputLayer.level, handlers, List.length_append] at level
  rw [handlers, List.length_eq_zero_iff.mp (by omega : own.length = 0), List.nil_append]

theorem closeNested_fenced (fenced : Fenced requestId below layer)
    (nested : layer.level - (below.length + 1) = count) :
    Fenced requestId below (closeNested count layer) ∧
      (closeNested count layer).level ≤ below.length + 1 := by
  induction count generalizing layer with
  | zero => exact ⟨fenced, Nat.sub_eq_zero_iff_le.mp nested⟩
  | succ count induction =>
    have closed := fenced.endClean (.nobody requestId) (by omega)
    have closedLevel := layer.level_endClean none
    simp only [closeNested]
    split
    · exact induction closed (by omega)
    have written := closed.write (.nobody requestId) (by omega) (fenced.contents (by omega))
    refine induction written ?_
    rw [OutputLayer.level_write]
    omega

theorem captureOutput_fenced (fenced : Fenced requestId below layer) :
    WrittenBy requestId (captureOutput below.length layer).1 ∧
      Fenced requestId below (captureOutput below.length layer).2 ∧
      (captureOutput below.length layer).2.handlers = below := by
  obtain ⟨closed, closedLevel⟩ := closeNested_fenced fenced rfl
  simp only [captureOutput]
  split
  case isTrue inside =>
    have ended := closed.endClean (.nobody requestId) inside
    refine ⟨closed.contents inside, ended, handlers_eq_of_level ended ?_⟩
    rw [OutputLayer.level_endClean]
    omega
  case isFalse outside =>
    exact ⟨.nil requestId, closed, handlers_eq_of_level closed (Nat.le_of_not_lt outside)⟩

variable {state : OutputState}

section

variable (busy : Busy state run below dispatch)
include busy

theorem Busy.absent : buffersOf run.requestId below = [] := by
  rw [busy.arranged.held]
  simp [heldBuffers, busy.present, busy.running]

theorem Busy.orderly (advancing : state.advancing = some run) : Orderly state := by
  simp only [Orderly, advancing]
  exact ⟨below, dispatch, busy⟩

theorem Busy.withLayer {layer : OutputLayer String} (fenced : Fenced run.requestId below layer) :
    Busy { state with layer := layer } run below dispatch := { busy with fenced := fenced }

theorem Busy.setDispatch (running : changed.phase = .running)
    (tidy : changed.Tidy run.requestId below.length) :
    Busy (state.setDispatch run.requestId (some changed)) run below changed where
  level := busy.level
  fenced := busy.fenced
  arranged := busy.arranged.setUnsuspended busy.absent (by simp [running])
  present := by simp [OutputState.setDispatch]
  running := running
  tidy := tidy

end

theorem advance_orderly {requestId : String} (honest : state.layer.Honest)
    {own : List (Buffer String)} (handlers : state.layer.handlers = own ++ below)
    (belongs : ∀ buffer ∈ own, buffer.Belongs requestId)
    (arranged : Arranged below (update state.httpDispatches requestId
      (some { dispatch with phase := .running })))
    (kept : dispatch.outputBufferBaseLevel = none → own = [])
    (tidy : dispatch.Tidy requestId below.length) : Orderly (state.advance requestId dispatch) := by
  have fenced : Fenced requestId below state.layer := .ofOwn own honest handlers belongs
  have running : OutputDispatch.Tidy { dispatch with phase := .running }
      requestId below.length := ⟨tidy.output, tidy.base, tidy.frames⟩
  unfold OutputState.advance
  split
  case h_1 base given =>
    refine ⟨below, { dispatch with phase := .running }, ?_⟩
    exact {
      level := tidy.base base given
      fenced := fenced
      arranged := arranged
      present := by simp [OutputState.setDispatch]
      running := rfl
      tidy := running }
  case h_2 none_given =>
    refine ⟨below, { dispatch with phase := .running }, ?_⟩
    have level : state.layer.level = below.length := by
      simp [OutputLayer.level, handlers, kept none_given]
    exact {
      level := level
      fenced := fenced.start (by simp)
      arranged := arranged
      present := by simp [OutputState.setDispatch]
      running := rfl
      tidy := running }

section

variable (busy : Busy state run below dispatch)
include busy

theorem Busy.settle (suspended : Bool) :
    let (layer, settled) := state.settle run.outputLevel dispatch suspended
    Fenced run.requestId below layer ∧
      (settled.outputBufferBaseLevel = none → layer.handlers = below) ∧
      settled.Tidy run.requestId below.length ∧ settled.phase = .running ∧
      (suspended = false → layer.handlers = below) := by
  simp only [OutputState.settle, busy.level]
  split
  case isTrue preserved =>
    refine ⟨busy.fenced, nofun, ?_, busy.running, ?_⟩
    · refine ⟨busy.tidy.output, ?_, busy.tidy.frames⟩
      intro base given
      cases given
      cases stored : dispatch.outputBufferBaseLevel with
      | none => rfl
      | some base => exact busy.tidy.base base stored
    · intro unsuspended
      simp [unsuspended] at preserved
  case isFalse =>
    obtain ⟨captured, fenced, handlers⟩ := captureOutput_fenced busy.fenced
    exact ⟨fenced, fun _ => handlers, ⟨busy.tidy.output.append captured, nofun, busy.tidy.frames⟩,
      busy.running, fun _ => handlers⟩

theorem Busy.suspend (throughPam : Bool) : Orderly (state.suspend run dispatch throughPam) := by
  have settled := busy.settle true
  unfold OutputState.suspend
  generalize state.settle run.outputLevel dispatch true = result at settled ⊢
  obtain ⟨layer, kept⟩ := result
  obtain ⟨fenced, unkept, tidy, running, _⟩ := settled
  obtain ⟨own, handlers, belongs⟩ := fenced.above
  have own_of_unkept : kept.outputBufferBaseLevel = none → own = [] :=
    fun none_given => List.append_left_eq_self.mp (handlers.symm.trans (unkept none_given))
  cases throughPam with
  | true =>
    have left : layer.handlers.take (layer.level - run.outputLevel) = own := by
      simp [OutputLayer.level, handlers, busy.level]
    simp only [reduceIte, left]
    refine ⟨fenced.honest, ?_⟩
    simp only [OutputState.setDispatch, handlers]
    refine busy.arranged.park busy.absent
      { kept with phase := .suspended, left := own, level := layer.level }
      rfl belongs ?_ ⟨tidy.output, tidy.base, tidy.frames⟩ own_of_unkept
    simp [OutputLayer.level, handlers]
  | false =>
    refine advance_orderly fenced.honest handlers belongs ?_ own_of_unkept tidy
    exact busy.arranged.setUnsuspended busy.absent (by simp)

theorem Busy.complete (merge : Merge) : Orderly (state.complete run dispatch merge) := by
  have settled := busy.settle false
  unfold OutputState.complete
  generalize state.settle run.outputLevel dispatch false = result at settled ⊢
  obtain ⟨layer, ended⟩ := result
  obtain ⟨fenced, _, tidy, running, emptied⟩ := settled
  have handlers : layer.handlers = below := emptied rfl
  have removed : Arranged layer.handlers (update state.httpDispatches run.requestId none) := by
    rw [handlers]
    exact busy.arranged.setUnsuspended busy.absent (by simp)
  cases merge with
  | dropped => exact ⟨fenced.honest, removed⟩
  | body => exact ⟨fenced.honest.deliver tidy.output, removed⟩
  | fails =>
    refine ⟨fenced.honest, ?_⟩
    simp only [OutputState.setDispatch, handlers]
    exact busy.arranged.setUnsuspended busy.absent (by simp)

theorem Busy.enter (kind : FrameKind) :
    ∃ entered, Busy (state.enter run dispatch kind) run below entered := by
  refine ⟨_, busy.setDispatch busy.running ?_⟩
  refine ⟨busy.tidy.output, busy.tidy.base, ?_⟩
  exact List.forall_mem_cons.mpr ⟨busy.fenced.le_level, busy.tidy.frames⟩

theorem Busy.leave (stacked : dispatch.frames = frame :: frames) :
    Busy (state.setDispatch run.requestId (some { dispatch with frames := frames })) run below
      { dispatch with frames := frames } := by
  refine busy.setDispatch busy.running ⟨busy.tidy.output, busy.tidy.base, fun inner member => ?_⟩
  exact busy.tidy.frames inner (by simp [stacked, member])

end

theorem Busy.act (busy : Busy state run below dispatch) (advancing : state.advancing = some run)
    (inside : actsInside run.outputLevel state.layer dispatch.frames action)
    (step : state.act run dispatch action = some target) : Orderly target := by
  have self := RunBy.self run.requestId
  rw [busy.level] at inside
  cases action with
  | echo text =>
    cases step
    refine (busy.withLayer (busy.fenced.write self inside ?_)).orderly advancing
    split <;> simp [WrittenBy]
  | obStart =>
    cases step
    exact (busy.withLayer (busy.fenced.start (by simp))).orderly advancing
  | obGetClean =>
    cases step
    exact (busy.withLayer ((busy.fenced.endClean self inside).deliver
      (busy.fenced.contents inside))).orderly advancing
  | obEndClean =>
    cases step
    exact (busy.withLayer (busy.fenced.endClean self inside)).orderly advancing
  | obEndFlush =>
    cases step
    exact (busy.withLayer (busy.fenced.endFlush self inside.1 inside.2)).orderly advancing
  | obFlush =>
    cases step
    exact (busy.withLayer (busy.fenced.flush self inside.1 inside.2)).orderly advancing
  | enterHandle =>
    cases step
    obtain ⟨entered, busyEntered⟩ := busy.enter .handle
    exact (busyEntered.withLayer (busy.fenced.start (by simp))).orderly advancing
  | enterStreamContent =>
    cases step
    obtain ⟨entered, busyEntered⟩ := busy.enter .streamContent
    have started : Fenced run.requestId below (state.layer.start
        run.requestId (some ⟨run.requestId, outputChunkBytes⟩)) := busy.fenced.start (by simp)
    simp only [OutputState.enter, OutputState.setDispatch, advancing]
    exact ⟨below, entered, { busyEntered.withLayer started with }⟩
  | endSending =>
    simp only [OutputState.act] at step
    split at step
    case h_1 outputLevel frames stacked =>
      split at step
      case isTrue higher =>
        cases step
        obtain ⟨above, caught⟩ := inside ⟨.streamContent, outputLevel⟩ (by simp [stacked]) higher
        exact (busy.withLayer (busy.fenced.endFlush self above caught)).orderly advancing
      case isFalse =>
        cases step
        exact busy.orderly advancing
    case h_2 => cases step
  | unwind =>
    simp only [OutputState.act] at step
    split at step
    case h_1 frame frames stacked =>
      split at step
      case isTrue higher =>
        cases step
        have bottom := busy.tidy.frames frame (by simp [stacked])
        exact (busy.withLayer (busy.fenced.endClean self
          (Nat.lt_of_le_of_lt bottom higher))).orderly advancing
      case isFalse => cases step
    case h_2 => cases step
  | leave =>
    simp only [OutputState.act] at step
    split at step
    case h_1 outputLevel frames stacked =>
      split at step
      case isTrue =>
        cases step
        exact (busy.leave stacked).orderly advancing
      case isFalse => cases step
    case h_2 outputLevel frames stacked =>
      split at step
      case isTrue =>
        cases step
        simp only [OutputState.setDispatch, advancing]
        exact ⟨below, _, { busy.leave stacked with }⟩
      case isFalse => cases step
    case h_3 => cases step
  | suspend throughPam =>
    cases step
    exact busy.suspend throughPam
  | returns merge =>
    simp only [OutputState.act] at step
    split at step
    case h_1 =>
      split at step
      case isTrue =>
        cases step
        exact busy.complete merge
      case isFalse => cases step
    case h_2 => cases step
  | throws reported =>
    simp only [OutputState.act] at step
    split at step
    case h_1 =>
      cases step
      exact busy.complete _
    case h_2 => cases step

theorem Orderly.advance (orderlyState : Orderly state)
    (idle : state.advancing = none) {requestId : String}
    (found : state.httpDispatches requestId = some dispatch)
    (suspended : dispatch.phase = .suspended) (inOrder : state.layer.level = dispatch.level) :
    Orderly (state.advance requestId dispatch) := by
  simp only [Orderly, idle] at orderlyState
  obtain ⟨honest, arranged⟩ := orderlyState
  have parked := arranged.parked requestId dispatch found suspended
  obtain ⟨below, handlers, bottom, unparked⟩ := arranged.unpark found suspended inOrder
  exact advance_orderly honest handlers parked.own unparked parked.kept (bottom ▸ parked.tidy)

section

variable (orderlyState : Orderly state)
include orderlyState

theorem Orderly.call (idle : state.advancing = none)
    (inOrder : orderly state label) (step : state.call label = some target) : Orderly target := by
  have unpacked := orderlyState
  simp only [Orderly, idle] at unpacked
  obtain ⟨honest, arranged⟩ := unpacked
  cases called_of_call step with
  | nothing => exact orderlyState
  | begun requestId missing =>
    have absent : buffersOf requestId state.layer.handlers = [] := by
      rw [arranged.held]
      simp [heldBuffers, missing]
    refine advance_orderly honest (List.nil_append _).symm (by simp)
      (arranged.setUnsuspended absent (by simp)) (fun _ => rfl) ?_
    constructor
    case output => exact .nil requestId
    case base => simp [OutputDispatch.fresh]
    case frames => simp [OutputDispatch.fresh, OutputLayer.level]
  | resumed found suspended level => exact orderlyState.advance idle found suspended (level inOrder)
  | @dropped requestId dispatch found unsuspended =>
    have absent : buffersOf requestId state.layer.handlers = [] := by
      rw [arranged.held]
      simp [heldBuffers, found, unsuspended]
    simp only [OutputState.setDispatch, idle]
    exact ⟨honest, arranged.setUnsuspended absent (by simp)⟩

theorem Orderly.honest : state.layer.Honest := by
  unfold Orderly at orderlyState
  split at orderlyState
  · exact orderlyState.1
  · obtain ⟨below, dispatch, busy⟩ := orderlyState
    exact busy.fenced.honest

theorem Orderly.holdsSuspended (idle : state.advancing = none) : HoldsSuspended state := by
  simp only [Orderly, idle] at orderlyState
  exact orderlyState.2.held

end

theorem Orderly.initial : Orderly .initial := by
  refine ⟨⟨rfl, by simp [OutputState.initial, OutputLayer.empty]⟩, ?_, ?_⟩
  · intro requestId dispatch found
    cases found
  · intro requestId
    rfl

theorem outputNext_orderly (orderlyState : Orderly state) (inOrder : orderly state label)
    (step : outputNext state label = some target) : Orderly target := by
  unfold outputNext at step
  split at step
  case h_1 idle => exact orderlyState.call idle inOrder step
  case h_2 run advancing =>
    simp only [Orderly, advancing] at orderlyState
    obtain ⟨below, dispatch, busy⟩ := orderlyState
    split at step
    case h_1 action stored found =>
      cases (busy.present.symm.trans found)
      exact busy.act advancing (inOrder run advancing dispatch found) step
    case h_2 => cases step

theorem complete_advancing (merge : Merge) :
    (state.complete run dispatch merge).advancing = none := by
  cases merge <;> rfl

theorem advancing_of_completes (completes : label.completes = true)
    (step : outputNext state label = some target) : target.advancing = none := by
  unfold outputNext at step
  split at step
  case h_1 =>
    cases label with
    | act action => cases step
    | begin requestId | resume requestId | cancel requestId => cases completes
  case h_2 run _ =>
    split at step
    case h_1 action dispatch _ =>
      cases action
      case returns merge =>
        simp only [OutputState.act] at step
        split at step
        · split at step
          · exact some.inj step ▸ complete_advancing ..
          · cases step
        · cases step
      case throws reported =>
        simp only [OutputState.act] at step
        split at step
        · exact some.inj step ▸ complete_advancing ..
        · cases step
      all_goals cases completes
    case h_2 => cases step

theorem outputIsolated_of_orderly (labels : List OutputLabel) (inOrder : ∀ transition ∈
        outputMachine.transitions outputMachine.start labels,
      orderly transition.source transition.label) :
    ∀ transition ∈ outputMachine.transitions outputMachine.start labels,
      OutputIsolated transition.label transition.target := by
  refine outputMachine.transitions_of_guarded Orderly orderly
    (fun _ label target => OutputIsolated label target) ?_ .initial inOrder
  intro state label target orderlyState guarded step
  have kept : Orderly target := outputNext_orderly orderlyState guarded step
  exact ⟨kept, kept.honest, fun completes =>
    kept.holdsSuspended (advancing_of_completes completes step)⟩

instance (outputLevel : Nat) (layer : OutputLayer String) :
    Decidable (flushesInside outputLevel layer) := by
  unfold flushesInside
  infer_instance

instance (outputLevel : Nat) (layer : OutputLayer String)
    (frames : List Frame) (action : HandlerAction) :
    Decidable (actsInside outputLevel layer frames action) := by
  unfold actsInside
  split <;> infer_instance

instance (state : OutputState) (requestId : String) :
    Decidable (resumesInOrder state requestId) := by
  unfold resumesInOrder
  infer_instance

instance (state : OutputState) (label : OutputLabel) : Decidable (orderly state label) := by
  unfold orderly
  split <;> infer_instance

def startsStream (requestId : String) : List OutputLabel :=
  [.begin requestId, .act .enterHandle, .act .obGetClean,
    .act .enterStreamContent, .act (.suspend true)]

def endsStream : List OutputLabel :=
  [.act .endSending, .act .leave, .act .leave, .act (.returns .dropped)]

/-- The plain handler is done before the stream goes on. -/
def plainInsideStream : List OutputLabel := startsStream "export" ++
    [.begin "account", .act (.echo "balance"), .act (.suspend true),
      .resume "account", .act (.returns .body), .resume "export", .act (.echo "row")] ++ endsStream

theorem outputIsolated_plainInsideStream : (∀ transition ∈
        outputMachine.transitions outputMachine.start plainInsideStream,
      orderly transition.source transition.label) ∧
    (∀ transition ∈ outputMachine.transitions outputMachine.start plainInsideStream,
      OutputIsolated transition.label transition.target) ∧
    (outputMachine.finish outputMachine.start plainInsideStream).layer =
      { handlers := []
        written := []
        delivered := [⟨"export", []⟩, ⟨"account", [⟨"account", "balance"⟩]⟩,
            ⟨"export", [⟨"export", "row"⟩]⟩] } := by
  have inOrder : ∀ transition ∈ outputMachine.transitions outputMachine.start plainInsideStream,
      orderly transition.source transition.label := by
    decide +kernel
  exact ⟨inOrder, outputIsolated_of_orderly plainInsideStream inOrder, by decide +kernel⟩

/-- The stream goes on while the plain handler is suspended. -/
def streamOverPlain : List OutputLabel := startsStream "export" ++
    [.begin "account", .act (.echo "balance"), .act (.suspend true),
      .resume "export", .act .endSending, .act .unwind]

/-- The client of the stream gets the output of the plain handler. -/
theorem plain_output_sent_to_stream : (outputMachine.finish outputMachine.start
        streamOverPlain).layer.delivered = [⟨"export", []⟩, ⟨"export", [⟨"account", "balance"⟩]⟩] ∧
    ¬ ∀ transition ∈ outputMachine.transitions outputMachine.start streamOverPlain,
      OutputIsolated transition.label transition.target := by
  have leaked : ∃ transition ∈ outputMachine.transitions outputMachine.start streamOverPlain,
      ∃ delivery ∈ transition.target.layer.delivered,
        ∃ piece ∈ delivery.pieces, piece.writer ≠ delivery.recipient := by
    decide +kernel
  refine ⟨by decide +kernel, fun isolated => ?_⟩
  obtain ⟨transition, executed, delivery, sent, piece, member, foreign⟩ := leaked
  exact foreign ((isolated transition executed).1.delivered delivery sent piece member)

end Pam.Runtime.Output
