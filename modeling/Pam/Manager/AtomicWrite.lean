import Pam.Foundation.Run

namespace Pam.Manager

open Pam.Foundation

/-! `write_private_bytes`, called again and again for one path by one process,
with one temporary name. -/

/-- The system call of a write that fails; of the bytes a part may be
written. -/
inductive WriteFault where
  | create
  | write (written : Nat)
  | sync
  | rename
  deriving DecidableEq

structure WriteCall where
  bytes : List UInt8
  isSymlink : Bool
  fault : Option WriteFault
  error : String

/-- `published` holds the bytes of the last write that succeeded, or what was
there before. -/
structure RecordDirectory where
  path : String
  target : Option (List UInt8)
  temporary : Option (List UInt8)
  published : Option (List UInt8)

namespace RecordDirectory

def writePrivateBytes (directory : RecordDirectory) (call : WriteCall) :
    Except String Unit × RecordDirectory :=
  if call.isSymlink then (.error ("refusing symlink file " ++ directory.path), directory)
  else if call.fault = some .create ∨ directory.temporary.isSome then
    (.error ("cannot create manager record: " ++ call.error), directory)
  else
    match call.fault with
    | some (.write written) =>
      (.error call.error, { directory with temporary := some (call.bytes.take written) })
    | some .sync => (.error call.error, { directory with temporary := some call.bytes })
    | some _ => (.error ("cannot publish manager record: " ++ call.error),
        { directory with temporary := some call.bytes })
    | none => (.ok (), ⟨directory.path, some call.bytes, none, some call.bytes⟩)

def initial (path : String) (before : Option (List UInt8)) : RecordDirectory :=
  ⟨path, before, none, before⟩

end RecordDirectory

def writeMachine (path : String) (before : Option (List UInt8)) :
    Machine RecordDirectory WriteCall where
  start := .initial path before
  next directory call := some (directory.writePrivateBytes call).2

def WriteCall.works (call : WriteCall) : Prop := call.isSymlink = false ∧ call.fault = none

structure Recovers (directory : RecordDirectory) (call : WriteCall)
    (after : RecordDirectory) : Prop where
  complete : after.target = after.published
  succeeds : call.works → (directory.writePrivateBytes call).1 = .ok ()

def NoResidue (directory : RecordDirectory) (call : WriteCall) : Prop :=
  call.works → directory.temporary = none

theorem writePrivateBytes_complete {directory : RecordDirectory}
    (complete : directory.target = directory.published) (call : WriteCall) :
    (directory.writePrivateBytes call).2.target =
      (directory.writePrivateBytes call).2.published := by
  unfold RecordDirectory.writePrivateBytes
  split_ifs
  · exact complete
  · exact complete
  · split <;> first | exact complete | rfl

theorem succeeds_iff {directory : RecordDirectory} (works : call.works) :
    (directory.writePrivateBytes call).1 = .ok () ↔ directory.temporary = none := by
  unfold RecordDirectory.writePrivateBytes
  cases directory.temporary <;> simp [works.1, works.2]

theorem writes_recover_iff (path : String) (before : Option (List UInt8)) (calls : List WriteCall) :
    (∀ transition ∈ (writeMachine path before).transitions (.initial path before) calls,
      Recovers transition.source transition.label transition.target) ↔
    ∀ transition ∈ (writeMachine path before).transitions (.initial path before) calls,
      NoResidue transition.source transition.label := by
  refine (writeMachine path before).transitions_iff_guarded
    (fun directory => directory.target = directory.published) NoResidue Recovers ?_ ?_ rfl calls
  · intro directory call after complete clean step
    cases step
    have kept := writePrivateBytes_complete complete call
    exact ⟨kept, kept, fun works => (succeeds_iff works).mpr (clean works)⟩
  · intro directory call after complete residue step recovers
    exact residue fun works => (succeeds_iff works).mp (recovers.succeeds works)

/-- A full disk leaves the temporary file, and no later write creates it. -/
theorem write_blocked_by_residue :
    ¬ ∀ transition ∈ (writeMachine "" none).transitions (.initial "" none)
        [⟨[1], false, some (.write 0), ""⟩, ⟨[1], false, none, ""⟩],
      Recovers transition.source transition.label transition.target := by
  intro recovers
  have written := (recovers _ (List.mem_of_getElem? (i := 1) rfl)).succeeds ⟨rfl, rfl⟩
  cases written

end Pam.Manager
