import Mathlib.Data.List.Basic

namespace Pam.Foundation

open List

/-! A global stack of output buffers, as the `ob_*` functions of PHP keep it.
Pieces carry their writer, and buffers the party that opened them. -/

structure Piece (Party : Type) where
  writer : Party
  text : String
  deriving DecidableEq

/-- A callback passes what it is called with to the stream of `target`; it is
called as soon as the buffer holds `chunkSize` bytes. -/
structure BufferCallback (Party : Type) where
  target : Party
  chunkSize : Nat
  deriving DecidableEq

structure Buffer (Party : Type) where
  owner : Party
  callback : Option (BufferCallback Party)
  contents : List (Piece Party)
  deriving DecidableEq

structure Delivery (Party : Type) where
  recipient : Party
  pieces : List (Piece Party)
  deriving DecidableEq

/-- `handlers` has the innermost buffer first; `written` is output that went
through the whole stack. -/
structure OutputLayer (Party : Type) where
  handlers : List (Buffer Party)
  written : List (Piece Party)
  delivered : List (Delivery Party)
  deriving DecidableEq

namespace OutputLayer

def empty : OutputLayer Party where
  handlers := []
  written := []
  delivered := []

def level (layer : OutputLayer Party) : Nat := layer.handlers.length

def start (layer : OutputLayer Party) (owner : Party)
    (callback : Option (BufferCallback Party)) : OutputLayer Party :=
  { layer with handlers := ⟨owner, callback, []⟩ :: layer.handlers }

def deliver (layer : OutputLayer Party) (recipient : Party)
    (pieces : List (Piece Party)) : OutputLayer Party :=
  { layer with delivered := layer.delivered ++ [⟨recipient, pieces⟩] }

/-- The callback writes to the stream of the party that runs it, else to that of
its target. An empty chunk is not written. -/
def runCallback (layer : OutputLayer Party) (runner : Option Party)
    (callback : BufferCallback Party) (pieces : List (Piece Party)) : OutputLayer Party :=
  if pieces = [] then layer else layer.deliver (runner.getD callback.target) pieces

def byteSize (pieces : List (Piece Party)) : Nat :=
  pieces.foldl (fun size piece => size + piece.text.utf8ByteSize) 0

def write (layer : OutputLayer Party) (runner : Option Party) (pieces : List (Piece Party)) :
    OutputLayer Party :=
  match layer.handlers with
  | [] => { layer with written := layer.written ++ pieces }
  | top :: rest =>
    let filled := top.contents ++ pieces
    match top.callback with
    | none => { layer with handlers := { top with contents := filled } :: rest }
    | some callback =>
      if callback.chunkSize ≤ byteSize filled then
        { layer with handlers := { top with contents := [] } :: rest
          }.runCallback runner callback filled
      else { layer with handlers := { top with contents := filled } :: rest }

/-- `ob_end_clean`, which calls the callback with the contents and discards
what it returns. -/
def endClean (layer : OutputLayer Party) (runner : Option Party) : OutputLayer Party :=
  match layer.handlers with
  | [] => layer
  | top :: rest =>
    match top.callback with
    | none => { layer with handlers := rest }
    | some callback => { layer with handlers := rest }.runCallback runner callback top.contents

def contents (layer : OutputLayer Party) : List (Piece Party) := match layer.handlers with
  | [] => []
  | top :: _ => top.contents

/-- `ob_end_flush`: a callback keeps the contents from the buffer below. -/
def endFlush (layer : OutputLayer Party) (runner : Option Party) : OutputLayer Party :=
  match layer.handlers with
  | [] => layer
  | top :: rest =>
    match top.callback with
    | none => { layer with handlers := rest }.write runner top.contents
    | some callback => { layer with handlers := rest }.runCallback runner callback top.contents

def flush (layer : OutputLayer Party) (runner : Option Party) : OutputLayer Party :=
  match layer.handlers with
  | [] => layer
  | top :: _ =>
    let below := layer.endFlush runner
    { below with handlers := { top with contents := [] } :: below.handlers }

def endsInCallback (layer : OutputLayer Party) : Bool := match layer.handlers with
  | [] => false
  | top :: _ => top.callback.isSome

end OutputLayer

section Provenance

def WrittenBy (party : Party) (pieces : List (Piece Party)) : Prop :=
  ∀ piece ∈ pieces, piece.writer = party

structure Buffer.Belongs (buffer : Buffer Party) (party : Party) : Prop where
  owner : buffer.owner = party
  target : ∀ callback ∈ buffer.callback, callback.target = party
  contents : WrittenBy party buffer.contents

structure OutputLayer.Honest (layer : OutputLayer Party) : Prop where
  written : layer.written = []
  delivered : ∀ delivery ∈ layer.delivered, WrittenBy delivery.recipient delivery.pieces

/-- A party at work: above the buffers it found there are only its own. -/
structure Fenced (party : Party) (below : List (Buffer Party))
    (layer : OutputLayer Party) : Prop where
  honest : layer.Honest
  above : ∃ own, layer.handlers = own ++ below ∧ ∀ buffer ∈ own, buffer.Belongs party

variable (party : Party)

theorem WrittenBy.nil : WrittenBy party [] := by simp [WrittenBy]

theorem WrittenBy.append {party : Party} {first second : List (Piece Party)}
    (left : WrittenBy party first) (right : WrittenBy party second) :
    WrittenBy party (first ++ second) := by
  intro piece member
  rcases mem_append.mp member with member | member
  · exact left piece member
  · exact right piece member

variable {layer : OutputLayer Party}

theorem OutputLayer.Honest.withHandlers (honest : layer.Honest) (handlers : List (Buffer Party)) :
    ({ layer with handlers := handlers } : OutputLayer Party).Honest :=
  ⟨honest.written, honest.delivered⟩

theorem OutputLayer.Honest.deliver (honest : layer.Honest) (own : WrittenBy recipient pieces) :
    (layer.deliver recipient pieces).Honest where
  written := honest.written
  delivered := by
    intro delivery member
    rcases mem_append.mp member with member | member
    · exact honest.delivered delivery member
    · rw [mem_singleton.mp member]
      exact own

def RunBy (party : Party) (runner : Option Party) : Prop := ∀ other ∈ runner, other = party

theorem RunBy.self : RunBy party (some party) := by simp [RunBy]

theorem RunBy.nobody : RunBy party none := by simp [RunBy]

theorem OutputLayer.Honest.runCallback (honest : layer.Honest) {party : Party}
    {runner : Option Party} (byParty : RunBy party runner)
    {callback : BufferCallback Party} (target : callback.target = party)
    {pieces : List (Piece Party)} (own : WrittenBy party pieces) :
    (layer.runCallback runner callback pieces).Honest := by
  have recipient : runner.getD callback.target = party := by
    cases runner with
    | none => exact target
    | some other => exact byParty other rfl
  unfold OutputLayer.runCallback
  split
  · exact honest
  · rw [recipient]
    exact honest.deliver own

@[simp] theorem OutputLayer.runCallback_handlers :
    (layer.runCallback runner callback pieces).handlers = layer.handlers := by
  unfold OutputLayer.runCallback
  split <;> rfl

end Provenance

namespace Fenced

variable {layer : OutputLayer Party}

theorem le_level (fenced : Fenced party below layer) : below.length ≤ layer.level := by
  obtain ⟨own, handlers, _⟩ := fenced.above
  simp [OutputLayer.level, handlers]

theorem top (fenced : Fenced party below layer) (inside : below.length < layer.level) :
    ∃ top own, layer.handlers = top :: (own ++ below) ∧
      top.Belongs party ∧ ∀ buffer ∈ own, buffer.Belongs party := by
  obtain ⟨own, handlers, belongs⟩ := fenced.above
  cases own with
  | nil => simp [OutputLayer.level, handlers] at inside
  | cons top own => exact ⟨top, own, handlers, belongs top (.head _), fun buffer member =>
      belongs buffer (.tail _ member)⟩

theorem ofOwn (own : List (Buffer Party)) (honest : layer.Honest)
    (handlers : layer.handlers = own ++ below) (belongs : ∀ buffer ∈ own, buffer.Belongs party) :
    Fenced party below layer := ⟨honest, own, handlers, belongs⟩

theorem deliver (fenced : Fenced party below layer) (own : WrittenBy party pieces) :
    Fenced party below (layer.deliver party pieces) := ⟨fenced.honest.deliver own, fenced.above⟩

theorem start (fenced : Fenced party below layer)
    (target : ∀ given ∈ callback, given.target = party) :
    Fenced party below (layer.start party callback) := by
  obtain ⟨own, handlers, belongs⟩ := fenced.above
  refine .ofOwn (⟨party, callback, []⟩ :: own) (fenced.honest.withHandlers _)
    (congrArg (List.cons _) handlers) ?_
  intro buffer member
  rcases mem_cons.mp member with rfl | member
  · exact ⟨rfl, target, .nil party⟩
  · exact belongs buffer member

variable (fenced : Fenced party below layer)
include fenced

theorem write (byParty : RunBy party runner) (inside : below.length < layer.level)
    (written : WrittenBy party pieces) : Fenced party below (layer.write runner pieces) := by
  obtain ⟨top, own, handlers, ownTop, belongs⟩ := fenced.top inside
  have filled : WrittenBy party (top.contents ++ pieces) := ownTop.contents.append written
  have filledOwn : ∀ buffer ∈ { top with contents := top.contents ++ pieces } :: own,
      buffer.Belongs party := forall_mem_cons.mpr ⟨⟨ownTop.owner, ownTop.target, filled⟩, belongs⟩
  simp only [OutputLayer.write, handlers]
  split
  case h_1 => exact .ofOwn _ (fenced.honest.withHandlers _) rfl filledOwn
  case h_2 callback given =>
    split
    · refine .ofOwn ({ top with contents := [] } :: own) ?_ (by simp)
        (forall_mem_cons.mpr ⟨⟨ownTop.owner, ownTop.target, .nil party⟩, belongs⟩)
      exact (fenced.honest.withHandlers _).runCallback byParty (ownTop.target callback given) filled
    · exact .ofOwn _ (fenced.honest.withHandlers _) rfl filledOwn

theorem contents (inside : below.length < layer.level) : WrittenBy party layer.contents := by
  obtain ⟨top, own, handlers, ownTop, _⟩ := fenced.top inside
  simpa [OutputLayer.contents, handlers] using ownTop.contents

variable (byParty : RunBy party runner)
include byParty

theorem endClean (inside : below.length < layer.level) :
    Fenced party below (layer.endClean runner) := by
  obtain ⟨top, own, handlers, ownTop, belongs⟩ := fenced.top inside
  simp only [OutputLayer.endClean, handlers]
  split
  case h_1 => exact .ofOwn own (fenced.honest.withHandlers _) rfl belongs
  case h_2 callback given =>
    refine .ofOwn own ?_ OutputLayer.runCallback_handlers belongs
    exact (fenced.honest.withHandlers _).runCallback byParty
      (ownTop.target callback given) ownTop.contents

section

variable (inside : below.length < layer.level)
  (caught : layer.endsInCallback ∨ below.length + 1 < layer.level)
include inside caught

theorem endFlush :
    Fenced party below (layer.endFlush runner) := by
  obtain ⟨top, own, handlers, ownTop, belongs⟩ := fenced.top inside
  simp only [OutputLayer.endFlush, handlers]
  split
  case h_1 noCallback =>
    have popped : Fenced party below { layer with handlers := own ++ below } :=
      .ofOwn own (fenced.honest.withHandlers _) rfl belongs
    refine popped.write byParty ?_ ownTop.contents
    simp only [OutputLayer.endsInCallback, handlers, noCallback, Option.isSome_none,
      Bool.false_eq_true, false_or, OutputLayer.level] at caught
    exact Nat.succ_lt_succ_iff.mp caught
  case h_2 callback given =>
    refine .ofOwn own ?_ OutputLayer.runCallback_handlers belongs
    exact (fenced.honest.withHandlers _).runCallback byParty
      (ownTop.target callback given) ownTop.contents

theorem flush :
    Fenced party below (layer.flush runner) := by
  obtain ⟨top, _, handlers, ownTop, _⟩ := fenced.top inside
  have ended := fenced.endFlush byParty inside caught
  obtain ⟨own, endedHandlers, belongs⟩ := ended.above
  have flushed : layer.flush runner = { layer.endFlush runner with
      handlers := { top with contents := [] } :: (layer.endFlush runner).handlers } := by
    simp [OutputLayer.flush, handlers]
  rw [flushed]
  exact .ofOwn ({ top with contents := [] } :: own)
    (ended.honest.withHandlers _) (congrArg (List.cons _) endedHandlers)
    (forall_mem_cons.mpr ⟨⟨ownTop.owner, ownTop.target, .nil party⟩, belongs⟩)

end

end Fenced

namespace OutputLayer

variable (layer : OutputLayer Party) (runner : Option Party)

theorem level_write : (layer.write runner pieces).level = layer.level := by
  unfold write level
  split
  · rfl
  rename_i top rest handlers
  simp only [handlers]
  split
  · rfl
  · split <;> simp

theorem level_endClean : (layer.endClean runner).level = layer.level - 1 := by
  unfold endClean level
  split
  · simp_all
  rename_i top rest handlers
  simp only [handlers]
  split <;> simp

end OutputLayer

end Pam.Foundation
