import Pam.Foundation.Run
import Pam.Manager.RecordFile
import Pam.Protocol.ResponseCodec

namespace Pam.Cli

open Foundation Manager Protocol

abbrev Document := List UInt8

/-- What `derive` calls: the content-hash script and `serde_json`, a digest, and the
analysis of two documents that parse. -/
structure Composer (Extensions : Type) where
  contentHash : Document → Except String String
  recordedHash : Document → Except String String
  sha256 : Document → String
  extensions : Document → Document → Except String Extensions

structure ProfileReport (Extensions : Type) where
  manifestSha256 : String
  lockSha256 : String
  lockContentHash : String
  extensions : Extensions

def isContentHash (hash : String) : Bool :=
  hash.utf8ByteSize == 32 && hash.toList.all fun character =>
    character.isDigit || 'a' ≤ character && character ≤ 'f'

variable (composer : Composer Extensions)

def readLock (lock : Except String Document) : Except String Document :=
  lock.mapError (· ++ "; run `pam composer update --lock` before deriving a profile")

def verifyLockFreshness (manifestBefore lock script manifestAfter : Except String Document) :
    Except String String := do
  let before ← manifestBefore
  let recorded ← readLock lock >>= composer.recordedHash
  ensure (isContentHash recorded)
    "composer.lock content-hash must be 32 lowercase hexadecimal characters"
  let calculated ← script >>= composer.contentHash
  ensure (isContentHash calculated) "calculated Composer content-hash is invalid"
  let after ← manifestAfter
  ensure (before = after) "composer.json changed while its content-hash was verified; retry"
  ensure (calculated = recorded) (
    "composer.lock is stale for composer.json; run `pam composer update --lock` " ++
      s!"(expected content-hash {calculated})")
  return calculated

def buildReport (manifest lock : Except String Document) (lockContentHash : String) :
    Except String (ProfileReport Extensions) := do
  let manifest ← manifest
  let lock ← readLock lock
  let extensions ← composer.extensions manifest lock
  return ⟨composer.sha256 manifest, composer.sha256 lock, lockContentHash, extensions⟩

/-- By the outcomes of its six reads; the third is the one of the script. -/
def derive : List (Except String Document) → Option (Except String (ProfileReport Extensions))
  | [before, lock, script, after, manifest, listedLock] => some do
    let hash ← verifyLockFreshness composer before lock script after
    buildReport composer manifest listedLock hash
  | _ => none

structure ProfileState where
  manifest : Except String Document
  lock : Except String Document
  reads : List (Except String Document)

inductive ProfileLabel where
  | replace (manifest lock : Except String Document)
  | read

def profileMachine (manifest lock : Except String Document) :
    Machine ProfileState ProfileLabel where
  start := ⟨manifest, lock, []⟩
  next state
    | .replace manifest lock => some { state with manifest := manifest, lock := lock }
    | .read =>
      let document := if state.reads.length ∈ [1, 5] then state.lock else state.manifest
      if state.reads.length < 6 then some { state with reads := state.reads ++ [document] }
      else none

def profileReads (manifest lock : Except String Document) (labels : List ProfileLabel) :
    List (Except String Document) :=
  ((profileMachine manifest lock).finish (profileMachine manifest lock).start labels).reads

/-- The documents of the last two reads are the listed ones, and the lock records
the content-hash of the manifest. -/
def ProfileReport.Fresh (report : ProfileReport Extensions)
    (reads : List (Except String Document)) : Prop :=
  ∃ manifest lock, reads[4]? = some (.ok manifest) ∧ reads[5]? = some (.ok lock) ∧
    report.manifestSha256 = composer.sha256 manifest ∧ report.lockSha256 = composer.sha256 lock ∧
    composer.contentHash manifest = .ok report.lockContentHash ∧
    composer.recordedHash lock = .ok report.lockContentHash

def hashRead (reads : List (Except String Document)) (index : Nat) :
    Option (Except String String) :=
  reads[index]?.map (· >>= composer.contentHash)

def recordRead (reads : List (Except String Document)) (index : Nat) :
    Option (Except String String) := reads[index]?.map (readLock · >>= composer.recordedHash)

variable {composer}

theorem readLock_eq_ok : readLock lock = .ok document ↔ lock = .ok document := by
  cases lock <;> simp [readLock, Except.mapError]

theorem verifyLockFreshness_eq_ok {hash : String}
    (verified : verifyLockFreshness composer before lock script after = .ok hash) :
    (readLock lock >>= composer.recordedHash) = .ok hash ∧
      (script >>= composer.contentHash) = .ok hash := by
  obtain ⟨_, -, verified⟩ := bind_eq_ok.mp verified
  obtain ⟨recorded, records, verified⟩ := bind_eq_ok.mp verified
  obtain ⟨_, -, verified⟩ := bind_eq_ok.mp verified
  obtain ⟨calculated, hashes, verified⟩ := bind_eq_ok.mp verified
  obtain ⟨_, -, verified⟩ := bind_eq_ok.mp verified
  obtain ⟨_, -, verified⟩ := bind_eq_ok.mp verified
  obtain ⟨_, -, verified⟩ := bind_eq_ok.mp verified
  obtain ⟨_, fresh, verified⟩ := bind_eq_ok.mp verified
  cases verified
  cases of_decide_eq_true (ensure_eq_ok.mp fresh)
  exact ⟨records, hashes⟩

theorem report_fresh_iff (composer : Composer Extensions) (manifest lock : Except String Document)
    (labels : List ProfileLabel) (report : ProfileReport Extensions)
    (derived : derive composer (profileReads manifest lock labels) = some (.ok report)) :
    report.Fresh composer (profileReads manifest lock labels) ↔
      hashRead composer (profileReads manifest lock labels) 4 =
          hashRead composer (profileReads manifest lock labels) 2 ∧
        recordRead composer (profileReads manifest lock labels) 5 =
          recordRead composer (profileReads manifest lock labels) 1 := by
  generalize profileReads manifest lock labels = reads at derived ⊢
  unfold derive at derived
  split at derived
  swap
  · cases derived
  obtain ⟨hash, verified, built⟩ := bind_eq_ok.mp (Option.some_inj.mp derived)
  obtain ⟨records, hashes⟩ := verifyLockFreshness_eq_ok verified
  obtain ⟨listed, same, built⟩ := bind_eq_ok.mp built
  obtain ⟨listedLock, read, built⟩ := bind_eq_ok.mp built
  obtain ⟨extensions, -, built⟩ := bind_eq_ok.mp built
  cases built
  cases readLock_eq_ok.mp read
  simp [ProfileReport.Fresh, hashRead, recordRead, same, records, hashes, read, ok_bind]

def manifestOf (name : String) : Document :=
  asciiBytes ("\x7b\"name\":\"" ++ name ++ "\"\x7d")

def lockOf (hash : String) : Document :=
  asciiBytes ("\x7b\"content-hash\":\"" ++ hash ++ "\"\x7d")

def appHash : String := "cfab4238a20af51cf675da8bd96735c5"

def apiHash : String := "72fb19b08c8aea115438226759f515b6"

/-- The script and the reader of the lock on two packages. -/
def sampleComposer (sha256 : Document → String) : Composer Unit where
  contentHash manifest := if manifest = manifestOf "app" then .ok appHash
    else if manifest = manifestOf "api" then .ok apiHash else .error "Composer failed"
  recordedHash lock := if lock = lockOf appHash then .ok appHash
    else if lock = lockOf apiHash then .ok apiHash else .error "composer.lock has no content-hash"
  sha256 := sha256
  extensions _ _ := .ok ()

/-- Composer updates the package before its profile is derived. -/
def sampleReads : List (Except String Document) := profileReads (.ok (manifestOf "api"))
    (.ok (lockOf apiHash))
    (.replace (.ok (manifestOf "app")) (.ok (lockOf appHash)) :: .replicate 6 .read)

theorem sample_report_fresh_iff : sampleReads.length = 6 ∧ ∀ sha256, ∃ report,
    derive (sampleComposer sha256) sampleReads = some (.ok report) ∧
      (report.Fresh (sampleComposer sha256) sampleReads ↔
        hashRead (sampleComposer sha256) sampleReads 4 =
            hashRead (sampleComposer sha256) sampleReads 2 ∧
          recordRead (sampleComposer sha256) sampleReads 5 =
            recordRead (sampleComposer sha256) sampleReads 1) :=
  ⟨rfl, fun _ => ⟨⟨_, _, appHash, ()⟩, by rfl, report_fresh_iff _ _ _ _ _ (by rfl)⟩⟩

/-- The lock is replaced between its two reads. -/
theorem replaced_lock_listed : ¬ ∀ (composer : Composer Unit)
    (manifest lock : Except String Document) (labels : List ProfileLabel)
    (report : ProfileReport Unit),
    derive composer (profileReads manifest lock labels) = some (.ok report) →
      report.Fresh composer (profileReads manifest lock labels) := by
  intro fresh
  have listed := fresh (sampleComposer fun _ => "") (.ok (manifestOf "app")) (.ok (lockOf appHash))
    (.replicate 5 .read ++ [.replace (.ok (manifestOf "api")) (.ok (lockOf apiHash)), .read])
    ⟨_, _, _, _⟩ (by rfl)
  obtain ⟨_, lock, _, read, _, _, _, recorded⟩ := listed
  cases read
  exact absurd recorded (by decide)

end Pam.Cli
