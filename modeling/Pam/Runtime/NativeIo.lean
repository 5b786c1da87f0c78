import Mathlib.Tactic.MkIffOfInductiveProp
import Pam.Foundation.Failure
import Pam.Protocol.Operation

namespace Pam.Runtime

open Pam.Foundation Pam.Protocol Option

/-! `File::read`, `File::write` and `Command::run`: in the root fiber a native
operation of the server, elsewhere a fallback in PHP. What the file system, the
streams and the operating system answer is a parameter of both. -/

def mebibyte : Nat := 1024 * 1024

/-- A path, as the file system and as PHP's streams see it. `stream` is all that
`file_get_contents` could read, from a file or through a wrapper. -/
structure FileView where
  metadata : Except PhpString Nat
  read : Except PhpString PhpString
  write : Except PhpString Unit
  createTemporary : Except PhpString Unit
  persistTemporary : Except PhpString Unit
  rename : Except PhpString Unit
  stream : Option PhpString
  streamOpens : Bool
  streamLocks : Bool
  streamTakes : Bool

/-- What a runner imposes on its process: when it is told to end, the time it
has then, and after how many bytes its pipes are closed. -/
structure Supervision where
  deadlineMicros : Nat
  graceMicros : Nat
  closesAfter : Option Nat

inductive ProcessEnd where
  | exited (code : Int)
  | signalled (signal : Nat)

structure ProcessTrace where
  timedOut : Bool
  ending : ProcessEnd
  stdout : PhpString
  stderr : PhpString

/-- A command line with its input; `procClose` is what PHP's `proc_close` makes
of the end of the process. -/
structure ProcessView where
  spawn : Except PhpString Unit
  procOpen : Bool
  behaves : Supervision → ProcessTrace
  procClose : ProcessTrace → Int

/-- `elapsedMicros` passes between the call and its export, and `endsWithin` says
whether the task of a native operation ends before its timeout. -/
structure IoEnvironment where
  files : PhpString → FileView
  processes : List PhpString → PhpString → ProcessView
  otherOperations : PhpOperation → Except PhpString Json
  elapsedMicros : Nat
  requestRemainingMicros : Nat
  endsWithin : Nat → Bool

structure Timeout where
  micros : Nat
  fits : micros < 2 ^ 63

inductive IoCall where
  | read (path : PhpString) (maxBytes : Int64)
  | write (path contents : PhpString) (atomic : Bool)
  | run (arguments : List PhpString) (stdin : PhpString) (maxOutputBytes : Int64)

inductive CommandExitKind where
  | exited
  | timedOut
  | signalled
  deriving DecidableEq

def CommandExitKind.code : CommandExitKind → Int
  | .exited => 1
  | .timedOut => 2
  | .signalled => 3

def CommandExitKind.from : Int → Option CommandExitKind
  | 1 => some .exited
  | 2 => some .timedOut
  | 3 => some .signalled
  | _ => none

structure CommandResult where
  kind : CommandExitKind
  exitCode : Int
  stdout : PhpString
  stderr : PhpString
  deriving DecidableEq

inductive IoResult where
  | contents (bytes : PhpString)
  | written (count : Nat)
  | command (result : CommandResult)
  deriving DecidableEq

def clamp (value low high : Nat) : Nat := max low (min value high)

def exceedsLimit (path : PhpString) : PhpString := asciiBytes "file " ++ path ++
    asciiBytes " exceeds the configured byte limit"

def readNativeFile (file : FileView) (path : PhpString) (limit : Nat) :
    Except PhpString PhpString :=
  match file.metadata with
  | .error error => .error (asciiBytes "cannot inspect " ++ path ++ asciiBytes ": " ++ error)
  | .ok length =>
    if limit < length then .error (exceedsLimit path)
    else
      match file.read with
      | .error error => .error (asciiBytes "cannot read " ++ path ++ asciiBytes ": " ++ error)
      | .ok contents =>
        if limit < contents.length then .error (exceedsLimit path) else .ok contents

def fileReadLimit (operation : PhpOperation) : Nat :=
  clamp operation.maxOutputBytes 1 (256 * mebibyte)

def fileRead (env : IoEnvironment) (operation : PhpOperation) : Except PhpString Json :=
  match operation.path with
  | none => .error (asciiBytes "native file read requires a path")
  | some path =>
    (readNativeFile (env.files path) path (fileReadLimit operation)).map fun contents =>
        .object [(asciiBytes "data", .string (encodeBase64 contents))]

def slash : UInt8 := 0x2F

def fileName (path : PhpString) : Option PhpString :=
  let components := (path.splitOn slash).reverse.dropWhile fun component =>
    component == [] || component == asciiBytes "."
  match components with
  | [] => none
  | name :: _ => if name = asciiBytes ".." then none else some name

def writeNativeFile (file : FileView) (path : PhpString) (atomic : Bool) : Except PhpString Unit :=
  if !atomic then
    file.write.mapError fun error => asciiBytes "cannot write " ++ path ++ asciiBytes ": " ++ error
  else
    match fileName path with
    | none => .error (asciiBytes "atomic file destination has an invalid name")
    | some _ => do
        file.createTemporary
        file.persistTemporary
        file.rename.mapError fun error =>
          asciiBytes "cannot replace " ++ path ++ asciiBytes ": " ++ error

def fileWrite (env : IoEnvironment) (operation : PhpOperation) : Except PhpString Json :=
  match operation.path, operation.data with
  | none, _ => .error (asciiBytes "native file write requires a path")
  | some _, none => .error (asciiBytes "native file write requires data")
  | some path, some data =>
    match decodeBase64 data with
    | none => .error (asciiBytes "native file write data is invalid")
    | some contents =>
      if contents.length > 256 * mebibyte then
        .error (asciiBytes "native file write exceeds the 256 MiB limit")
      else
        (writeNativeFile (env.files path) path operation.atomic).map fun _ => .object
            [(asciiBytes "bytesWritten", .integer contents.length)]

def operationTimeout (env : IoEnvironment) (operation : PhpOperation) : Nat :=
  min operation.delayMicros env.requestRemainingMicros

def nativeOutputLimit (operation : PhpOperation) : Nat :=
  clamp operation.maxOutputBytes 1 (64 * mebibyte)

def nativeSupervision (env : IoEnvironment) (operation : PhpOperation) : Supervision where
  deadlineMicros := operationTimeout env operation
  graceMicros := 100000
  closesAfter := some (nativeOutputLimit operation + 1)

def ProcessEnd.code : ProcessEnd → Int
  | .exited code => code
  | .signalled _ => -1

def ProcessTrace.kind (trace : ProcessTrace) : CommandExitKind := if trace.timedOut then .timedOut
  else
    match trace.ending with
    | .exited _ => .exited
    | .signalled _ => .signalled

def processResult (trace : ProcessTrace) (limit : Nat) : Json :=
  .object [(asciiBytes "kind", .integer trace.kind.code),
    (asciiBytes "exitCode", .integer trace.ending.code),
    (asciiBytes "stdout", .string (encodeBase64 (trace.stdout.take limit))),
    (asciiBytes "stderr", .string (encodeBase64 (trace.stderr.take limit)))]

def runNativeProcess (env : IoEnvironment) (operation : PhpOperation) : Except PhpString Json :=
  match operation.arguments with
  | [] => .error (asciiBytes "native process requires a command")
  | program :: arguments =>
    if (program :: arguments).any fun argument => argument.contains 0 then
      .error (asciiBytes "native process arguments cannot contain NUL bytes")
    else
      match decodeBase64 (operation.stdin.getD []) with
      | none => .error (asciiBytes "native process stdin is invalid")
      | some input =>
        if input.length > 64 * mebibyte then
          .error (asciiBytes "native process stdin exceeds the 64 MiB limit")
        else
          let process := env.processes (program :: arguments) input
          match process.spawn with
          | .error error =>
            .error (asciiBytes "cannot start " ++ program ++ asciiBytes ": " ++ error)
          | .ok _ =>
            let trace := process.behaves (nativeSupervision env operation)
            .ok (processResult trace (nativeOutputLimit operation))

def taskTimeout (env : IoEnvironment) (operation : PhpOperation) : Nat := match operation.kind with
  | .process => min (operationTimeout env operation + 250000) env.requestRemainingMicros
  | _ => operationTimeout env operation

def executePhpNativeOperation (env : IoEnvironment)
    (operation : PhpOperation) : Except PhpString Json :=
  if env.endsWithin (taskTimeout env operation) then
    match operation.kind with
    | .fileRead => fileRead env operation
    | .fileWrite => fileWrite env operation
    | .process => runNativeProcess env operation
    | _ => env.otherOperations operation
  else .error (asciiBytes "native operation timed out")

def operationReply : Except PhpString Json → Json
  | .ok result => result
  | .error error => .object [(asciiBytes "error", .string error)]

def replyField (reply : Json) (name : String) : Option Json :=
  reply.fields?.bind fun fields => Json.field? fields (asciiBytes name)

def replyText (reply : Json) (name : String) : Option PhpString :=
  (replyField reply name).bind Json.text?

def replyInteger (reply : Json) (name : String) : Option Int :=
  (replyField reply name).bind fun json =>
    match json with
    | .integer value => some value
    | _ => none

/-- The operation that the server reads, `none` where the suspension cannot be
encoded or is refused: the request then fails with the call. -/
def exportedOperation (kind : PhpOperationKind) (timeout : Timeout)
    (payload : List (PhpString × PhpValue)) (elapsedMicros : Nat) : Option PhpOperation := do
  let suspension : Suspension := {
    kind, payload
    delayMicros := timeout.micros - elapsedMicros
    delayFits := Nat.lt_of_le_of_lt (Nat.sub_le _ _) timeout.fits }
  let json ← jsonEncode (suspendedEnvelope suspension)
  let envelope ← PhpDispatchEnvelope.ofJson json
  envelope.operation

def executeOperation (env : IoEnvironment) (kind : PhpOperationKind)
    (timeout : Timeout) (payload : List (PhpString × PhpValue)) : Option Json :=
  if timeout.micros = 0 then none
  else
    (exportedOperation kind timeout payload env.elapsedMicros).bind fun operation =>
        let reply := operationReply (executePhpNativeOperation env operation)
        if (replyText reply "error").isSome then none else some reply

def validatesFile (path : PhpString) (maxBytes : Int) : Bool :=
  path ≠ [] && !path.contains 0 && 1 ≤ maxBytes && maxBytes ≤ (256 * mebibyte : Nat)

def validatesCommand (arguments : List PhpString) (timeout : Timeout)
    (maxOutputBytes : Int64) : Bool :=
  arguments ≠ [] && timeout.micros ≠ 0 && 1 ≤ maxOutputBytes.toInt &&
    arguments.all fun argument => !argument.contains 0

def nativeRead (env : IoEnvironment) (timeout : Timeout) (path : PhpString)
    (maxBytes : Int64) : Option PhpString :=
  (executeOperation env .fileRead timeout [(asciiBytes "path", .string path),
      (asciiBytes "maxBytes", .integer maxBytes.toInt)]).bind fun result =>
    (replyText result "data").bind decodeBase64

def nativeWrite (env : IoEnvironment) (timeout : Timeout)
    (path contents : PhpString) (atomic : Bool) : Option Nat :=
  (executeOperation env .fileWrite timeout [(asciiBytes "path", .string path),
      (asciiBytes "data", .string (encodeBase64 contents)),
      (asciiBytes "atomic", .bool atomic)]).bind fun result =>
    (replyInteger result "bytesWritten").map Int.toNat

def readCommandResult (result : Json) : Option CommandResult := do
  let stdout ← decodeBase64 ((replyText result "stdout").getD [])
  let stderr ← decodeBase64 ((replyText result "stderr").getD [])
  let kind ← CommandExitKind.from ((replyInteger result "kind").getD 1)
  return { kind, exitCode := (replyInteger result "exitCode").getD (-1)
           stdout, stderr }

def nativeRun (env : IoEnvironment) (timeout : Timeout)
    (arguments : List PhpString) (stdin : PhpString) (maxOutputBytes : Int64) :
    Option CommandResult :=
  (executeOperation env .process timeout [(asciiBytes "arguments", .list (arguments.map .string)),
      (asciiBytes "stdin", .string (encodeBase64 stdin)),
      (asciiBytes "maxOutputBytes", .integer maxOutputBytes.toInt)]).bind readCommandResult

/-- `File::read` outside the root fiber: one byte more than the limit is read. -/
def fallbackRead (env : IoEnvironment) (path : PhpString) (maxBytes : Nat) : Option PhpString :=
  let readLimit := max 1 (min (256 * mebibyte + 1) (maxBytes + 1))
  match (env.files path).stream with
  | none => none
  | some available =>
    let contents := available.take readLimit
    if contents.length > maxBytes then none else some contents

def fallbackWrite (env : IoEnvironment) (path contents : PhpString) : Option Nat :=
  let file := env.files path
  if file.streamOpens && file.streamLocks && file.streamTakes then some contents.length else none

def fallbackSupervision (timeout : Timeout) : Supervision where
  deadlineMicros := timeout.micros
  graceMicros := 250000
  closesAfter := none

def knownExitCode (trace : ProcessTrace) : Int := if trace.timedOut then -1 else trace.ending.code

def fallbackExitCode (process : ProcessView) (trace : ProcessTrace) : Int :=
  let exitCode := process.procClose trace
  if exitCode = -1 ∧ 0 ≤ knownExitCode trace then knownExitCode trace else exitCode

def fallbackRun (env : IoEnvironment) (timeout : Timeout)
    (arguments : List PhpString) (stdin : PhpString) (maxOutputBytes : Nat) :
    Option CommandResult :=
  let process := env.processes arguments stdin
  if process.procOpen then
    let trace := process.behaves (fallbackSupervision timeout)
    some { kind := trace.kind
           exitCode := fallbackExitCode process trace
           stdout := trace.stdout.take maxOutputBytes
           stderr := trace.stderr.take maxOutputBytes }
  else none

def nativeCall (env : IoEnvironment) (timeout : Timeout) : IoCall → Option IoResult
  | .read path maxBytes =>
    if validatesFile path maxBytes.toInt then (nativeRead env timeout path maxBytes).map .contents
    else none
  | .write path contents atomic =>
    if validatesFile path (max 1 contents.length : Nat) then
      (nativeWrite env timeout path contents atomic).map .written
    else none
  | .run arguments stdin maxOutputBytes =>
    if validatesCommand arguments timeout maxOutputBytes then
      (nativeRun env timeout arguments stdin maxOutputBytes).map .command
    else none

def fallbackCall (env : IoEnvironment) (timeout : Timeout) : IoCall → Option IoResult
  | .read path maxBytes =>
    if validatesFile path maxBytes.toInt then
      (fallbackRead env path maxBytes.toInt.toNat).map .contents
    else none
  | .write path contents _ =>
    if validatesFile path (max 1 contents.length : Nat) then
      (fallbackWrite env path contents).map .written
    else none
  | .run arguments stdin maxOutputBytes =>
    if validatesCommand arguments timeout maxOutputBytes then
      (fallbackRun env timeout arguments stdin maxOutputBytes.toInt.toNat).map .command
    else none

def givenMicros (env : IoEnvironment) (timeout : Timeout) : Nat :=
  min (timeout.micros - env.elapsedMicros) env.requestRemainingMicros

/-- The caller's limit has no part in it: the server reads `maxOutputBytes`,
which `File::read` does not send. -/
@[mk_iff] structure NativeReads (env : IoEnvironment) (timeout : Timeout)
    (path contents : PhpString) : Prop where
  positive : timeout.micros ≠ 0
  text : validUtf8 path = true
  inTime : env.endsWithin (givenMicros env timeout) = true
  inspected : ∃ length, (env.files path).metadata = .ok length ∧ length ≤ defaultNativeOutputLimit
  read : (env.files path).read = .ok contents
  small : contents.length ≤ defaultNativeOutputLimit

@[mk_iff] structure FallbackReads (env : IoEnvironment) (path : PhpString)
    (maxBytes : Int64) (contents : PhpString) : Prop where
  stream : (env.files path).stream = some contents
  small : contents.length ≤ maxBytes.toInt.toNat

structure WritesAtomically (file : FileView) (path : PhpString) : Prop where
  named : (fileName path).isSome = true
  created : file.createTemporary = .ok ()
  persisted : file.persistTemporary = .ok ()
  renamed : file.rename = .ok ()

structure NativeWrites (env : IoEnvironment) (timeout : Timeout)
    (path : PhpString) (atomic : Bool) : Prop where
  positive : timeout.micros ≠ 0
  text : validUtf8 path = true
  inTime : env.endsWithin (givenMicros env timeout) = true
  written : if atomic then WritesAtomically (env.files path) path
    else (env.files path).write = .ok ()

structure FallbackWrites (env : IoEnvironment) (path : PhpString) : Prop where
  opens : (env.files path).streamOpens = true
  locks : (env.files path).streamLocks = true
  takes : (env.files path).streamTakes = true

structure NativeStarts (env : IoEnvironment) (timeout : Timeout)
    (arguments : List PhpString) (stdin : PhpString) : Prop where
  texts : ∀ argument ∈ arguments, validUtf8 argument = true
  small : stdin.length ≤ 64 * mebibyte
  spawns : (env.processes arguments stdin).spawn = .ok ()
  inTime : env.endsWithin (min (givenMicros env timeout + 250000) env.requestRemainingMicros) = true

def outputLimit (maxOutputBytes : Int64) : Nat := min maxOutputBytes.toInt.toNat (64 * mebibyte)

def nativeTrace (env : IoEnvironment) (timeout : Timeout)
    (arguments : List PhpString) (stdin : PhpString) (maxOutputBytes : Int64) : ProcessTrace :=
  (env.processes arguments stdin).behaves
    { deadlineMicros := givenMicros env timeout
      graceMicros := 100000
      closesAfter := some (outputLimit maxOutputBytes + 1) }

def fallbackTrace (env : IoEnvironment) (timeout : Timeout)
    (arguments : List PhpString) (stdin : PhpString) : ProcessTrace :=
  (env.processes arguments stdin).behaves (fallbackSupervision timeout)

/-- The process ends alike with the pipes closed behind the limit and a grace of
100 ms, and with the pipes drained and a grace of 250 ms. -/
@[mk_iff] structure SameOutcome (env : IoEnvironment) (timeout : Timeout)
    (arguments : List PhpString) (stdin : PhpString) (maxOutputBytes : Int64) : Prop where
  kind : (nativeTrace env timeout arguments stdin maxOutputBytes).kind =
    (fallbackTrace env timeout arguments stdin).kind
  exitCode : (nativeTrace env timeout arguments stdin maxOutputBytes).ending.code =
      fallbackExitCode (env.processes arguments stdin) (fallbackTrace env timeout arguments stdin)
  stdout : (nativeTrace env timeout arguments stdin
      maxOutputBytes).stdout.take (outputLimit maxOutputBytes) =
    (fallbackTrace env timeout arguments stdin).stdout.take maxOutputBytes.toInt.toNat
  stderr : (nativeTrace env timeout arguments stdin
      maxOutputBytes).stderr.take (outputLimit maxOutputBytes) =
    (fallbackTrace env timeout arguments stdin).stderr.take maxOutputBytes.toInt.toNat

def SidesMeet (env : IoEnvironment) (timeout : Timeout) : IoCall → Prop
  | .read path maxBytes => validatesFile path maxBytes.toInt = true → ∀ contents,
      NativeReads env timeout path contents ↔ FallbackReads env path maxBytes contents
  | .write path contents atomic => validatesFile path (max 1 contents.length : Nat) = true →
      (NativeWrites env timeout path atomic ↔ FallbackWrites env path)
  | .run arguments stdin maxOutputBytes =>
    validatesCommand arguments timeout maxOutputBytes = true →
      (NativeStarts env timeout arguments stdin ↔ (env.processes arguments stdin).procOpen = true) ∧
      (NativeStarts env timeout arguments stdin →
        SameOutcome env timeout arguments stdin maxOutputBytes)

def plainOperation (kind : PhpOperationKind) (delayMicros : Nat) : PhpOperation where
  kind := kind
  delayMicros := delayMicros
  readFileDescriptors := []
  writeFileDescriptors := []
  host := none
  path := none
  data := none
  atomic := false
  arguments := []
  stdin := none
  maxOutputBytes := defaultNativeOutputLimit
  signal := none
  response := none
  chunk := none

def readOperation (delayMicros : Nat) (path : PhpString) : PhpOperation :=
  { plainOperation .fileRead delayMicros with path := some path }

def writeOperation (delayMicros : Nat) (path contents : PhpString) (atomic : Bool) : PhpOperation :=
  { plainOperation .fileWrite delayMicros with
    path := some path
    data := some (encodeBase64 contents)
    atomic := atomic }

def processOperation (delayMicros : Nat) (arguments : List PhpString)
    (stdin : PhpString) (maxOutputBytes : Nat) : PhpOperation :=
  { plainOperation .process delayMicros with
    arguments := arguments
    stdin := some (encodeBase64 stdin)
    maxOutputBytes := maxOutputBytes }

theorem exportedOperation_eq :
    exportedOperation kind timeout payload elapsedMicros = (jsonEncodeEntries payload).bind
        (PhpOperation.ofPayload kind (timeout.micros - elapsedMicros)) := by
  simp only [exportedOperation, jsonEncode_suspendedEnvelope, bind_eq_bind]
  cases jsonEncodeEntries payload with
  | none => rfl
  | some fields =>
    simp only [map_some, bind_some, ofJson_suspendedJson, ofJson_suspendedFields]
    cases PhpOperation.ofPayload kind (timeout.micros - elapsedMicros) fields with
    | none | some operation => rfl

theorem validUtf8_keys : validUtf8 (asciiBytes "path") = true ∧
    validUtf8 (asciiBytes "maxBytes") = true ∧ validUtf8 (asciiBytes "data") = true ∧
    validUtf8 (asciiBytes "atomic") = true ∧ validUtf8 (asciiBytes "arguments") = true ∧
    validUtf8 (asciiBytes "stdin") = true ∧ validUtf8 (asciiBytes "maxOutputBytes") = true := by
  decide +kernel

variable (timeout : Timeout)

theorem exportedOperation_read (maxBytes : Int64) :
    exportedOperation .fileRead timeout [(asciiBytes "path", .string path),
          (asciiBytes "maxBytes", .integer maxBytes.toInt)] elapsedMicros =
      if validUtf8 path then some (readOperation (timeout.micros - elapsedMicros) path)
      else none := by
  rw [exportedOperation_eq]
  simp only [jsonEncodeEntries, jsonEncode, validUtf8_keys]
  cases validUtf8 path with
  | false | true => rfl

theorem exportedOperation_write :
    exportedOperation .fileWrite timeout [(asciiBytes "path", .string path),
          (asciiBytes "data", .string (encodeBase64 contents)),
          (asciiBytes "atomic", .bool atomic)] elapsedMicros =
      if validUtf8 path then
        some (writeOperation (timeout.micros - elapsedMicros) path contents atomic)
      else none := by
  rw [exportedOperation_eq]
  simp only [jsonEncodeEntries, jsonEncode, validUtf8_keys, validUtf8_encodeBase64]
  cases validUtf8 path with
  | false | true => rfl

theorem mapM_jsonEncode_strings (texts : List PhpString) :
    (texts.map PhpValue.string).mapM jsonEncode =
      if texts.all validUtf8 then some (texts.map Json.string) else none := by
  induction texts with
  | nil => rfl
  | cons text texts induction =>
    rw [List.map_cons, List.mapM_cons, induction, jsonEncode, List.all_cons]
    cases validUtf8 text with
    | false => rfl
    | true =>
      cases texts.all validUtf8 with
      | false | true => rfl

theorem mapM_text_strings (texts : List PhpString) :
    (texts.map Json.string).mapM Json.text? = some texts := by
  rw [mapM_eq_some_iff, List.forall₂_map_left_iff, List.forall₂_same]
  intro text _
  rfl

theorem readU64_int64 {value : Int64} (positive : 1 ≤ value.toInt) :
    readU64 (.integer value.toInt) = some value.toInt.toNat := by
  have bound := value.toInt_lt
  have natural : (value.toInt.toNat : Int) = value.toInt := Int.toNat_of_nonneg (by omega)
  rw [← natural]
  exact Json.natural?_ofNat (by omega)

theorem ofPayload_process {maxOutputBytes : Int64} (positive : 1 ≤ maxOutputBytes.toInt) :
    PhpOperation.ofPayload .process delayMicros
        [(asciiBytes "arguments", .array (arguments.map .string)),
          (asciiBytes "stdin", .string (encodeBase64 stdin)),
          (asciiBytes "maxOutputBytes", .integer maxOutputBytes.toInt)] =
      some (processOperation delayMicros arguments stdin maxOutputBytes.toInt.toNat) := by
  have read : PhpOperation.ofPayload .process delayMicros
      [(asciiBytes "arguments", .array (arguments.map .string)),
        (asciiBytes "stdin", .string (encodeBase64 stdin)),
        (asciiBytes "maxOutputBytes", .integer maxOutputBytes.toInt)] =
      ((arguments.map Json.string).mapM Json.text?).bind fun arguments =>
        (readU64 (.integer maxOutputBytes.toInt)).bind fun maxOutputBytes =>
          some (processOperation delayMicros arguments stdin maxOutputBytes) := rfl
  rw [read, mapM_text_strings, readU64_int64 positive]
  rfl

theorem exportedOperation_process {maxOutputBytes : Int64} (positive : 1 ≤ maxOutputBytes.toInt) :
    exportedOperation .process timeout [(asciiBytes "arguments", .list (arguments.map .string)),
          (asciiBytes "stdin", .string (encodeBase64 stdin)),
          (asciiBytes "maxOutputBytes", .integer maxOutputBytes.toInt)] elapsedMicros =
      if arguments.all validUtf8 then
        some (processOperation (timeout.micros - elapsedMicros) arguments
          stdin maxOutputBytes.toInt.toNat)
      else none := by
  rw [exportedOperation_eq]
  simp only [jsonEncodeEntries, jsonEncode_list, jsonEncode, mapM_jsonEncode_strings,
    validUtf8_keys, validUtf8_encodeBase64, if_true]
  cases arguments.all validUtf8 with
  | false => rfl
  | true => exact ofPayload_process positive

variable {timeout : Timeout}

theorem readNativeFile_ok_iff : readNativeFile file path limit = .ok contents ↔
      (∃ length, file.metadata = .ok length ∧ length ≤ limit) ∧
        file.read = .ok contents ∧ contents.length ≤ limit := by
  unfold readNativeFile
  cases file.metadata with
  | error error => simp
  | ok length =>
    by_cases long : limit < length
    · simp [long]
    cases file.read with
    | error error => simp [long]
    | ok bytes =>
      by_cases large : limit < bytes.length
      · simp only [long, large, if_true, if_false, reduceCtorEq, false_iff, not_and]
        intro _ same
        cases same
        omega
      · simp only [long, large, if_false, Except.ok.injEq, exists_eq_left']
        constructor
        · intro same
          subst same
          exact ⟨Nat.le_of_not_lt long, rfl, Nat.le_of_not_lt large⟩
        · intro both
          exact both.2.1

/-- A native operation returns what its task makes of the exported operation, if
it can be exported and the task ends in time. -/
theorem executeOperation_bind {result : Except PhpString Value} {read : Value → Answer}
    (exported : exportedOperation kind timeout payload env.elapsedMicros =
      if text then some operation else none)
    (ran : env.endsWithin (taskTimeout env operation) = true →
      executePhpNativeOperation env operation = result.map encode)
    (quiet : ∀ value, replyText (encode value) "error" = none)
    (decodes : ∀ value, decode (encode value) = some (read value)) :
    (executeOperation env kind timeout payload).bind decode = some answer ↔
      (timeout.micros ≠ 0 ∧ text = true ∧ env.endsWithin (taskTimeout env operation) = true) ∧
        ∃ value, result = .ok value ∧ answer = read value := by
  rw [executeOperation, exported]
  by_cases positive : timeout.micros = 0
  · simp [positive]
  cases text with
  | false => simp
  | true =>
    cases inTime : env.endsWithin (taskTimeout env operation) with
    | false => simp [executePhpNativeOperation, inTime, operationReply, replyText, replyField,
        Json.fields?, Json.field?, Json.text?]
    | true =>
      rw [if_pos rfl, bind_some, ran inTime]
      cases result with
      | error error => simp [Except.map, operationReply, replyText, replyField,
          Json.fields?, Json.field?, Json.text?]
      | ok value => simp [Except.map, operationReply, quiet, decodes, positive, eq_comm]

theorem nativeRead_eq_some_iff : nativeRead env timeout path maxBytes = some contents ↔
      NativeReads env timeout path contents := by
  have ran (inTime : env.endsWithin (givenMicros env timeout) = true) :
      executePhpNativeOperation env (readOperation (timeout.micros - env.elapsedMicros) path) =
        (readNativeFile (env.files path) path defaultNativeOutputLimit).map fun contents =>
          .object [(asciiBytes "data", .string (encodeBase64 contents))] := by
    exact if_pos inTime
  refine (executeOperation_bind (exportedOperation_read timeout maxBytes)
    ran (fun _ => rfl) decodeBase64_encodeBase64).trans ?_
  simp only [exists_eq_right', readNativeFile_ok_iff, nativeReads_iff]
  exact and_assoc.trans (and_congr_right' and_assoc)

theorem fallbackRead_eq_some_iff (valid : validatesFile path maxBytes.toInt = true) :
    fallbackRead env path maxBytes.toInt.toNat = some contents ↔
      FallbackReads env path maxBytes contents := by
  have bounds : 1 ≤ maxBytes.toInt ∧ maxBytes.toInt ≤ (256 * mebibyte : Nat) := by
    simp only [validatesFile, Bool.and_eq_true, decide_eq_true_eq] at valid
    exact ⟨valid.1.2, valid.2⟩
  rw [fallbackRead]
  cases stream : (env.files path).stream with
  | none =>
    refine iff_of_false (by simp) ?_
    intro reads
    rw [reads.stream] at stream
    cases stream
  | some available =>
    dsimp only
    rw [List.length_take]
    constructor
    · intro read
      split at read
      · cases read
      next small =>
      have whole : available.length ≤ maxBytes.toInt.toNat := by omega
      rw [List.take_of_length_le (by omega)] at read
      cases read
      exact ⟨stream, whole⟩
    · intro reads
      have same : available = contents := Option.some.inj (stream.symm.trans reads.stream)
      have small := reads.small
      rw [same, if_neg (by omega), List.take_of_length_le (by omega)]

theorem writeNativeFile_ok_iff : writeNativeFile file path atomic = .ok () ↔
      if atomic then WritesAtomically file path else file.write = .ok () := by
  unfold writeNativeFile
  cases atomic with
  | false =>
    cases file.write with
    | error error | ok done => simp [Except.mapError]
  | true =>
    simp only [Bool.not_true, Bool.false_eq_true, if_false]
    constructor
    · intro written
      split at written
      · cases written
      next found =>
      obtain ⟨_, created, written⟩ := bind_eq_ok.mp written
      obtain ⟨_, persisted, written⟩ := bind_eq_ok.mp written
      cases renamed : file.rename with
      | error error =>
        rw [renamed] at written
        cases written
      | ok _ => exact ⟨by rw [found]; rfl, created, persisted, renamed⟩
    · intro writes
      obtain ⟨name, found⟩ := isSome_iff_exists.mp writes.named
      rw [found, writes.created, writes.persisted, writes.renamed]
      rfl

theorem nativeWrite_eq_some_iff (small : contents.length ≤ 256 * mebibyte) :
    nativeWrite env timeout path contents atomic = some count ↔
      NativeWrites env timeout path atomic ∧ count = contents.length := by
  have ran (inTime : env.endsWithin (givenMicros env timeout) = true) :
      executePhpNativeOperation env
          (writeOperation (timeout.micros - env.elapsedMicros) path contents atomic) =
        (writeNativeFile (env.files path) path atomic).map fun _ =>
          .object [(asciiBytes "bytesWritten", .integer contents.length)] := by
    refine (if_pos inTime).trans ?_
    simp [fileWrite, writeOperation, plainOperation, decodeBase64_encodeBase64,
      if_neg (Nat.not_lt.mpr small)]
  refine Iff.trans (executeOperation_bind (exportedOperation_write timeout) ran
    (fun _ => rfl) fun _ => rfl) ?_
  constructor
  · intro ⟨⟨positive, text, inTime⟩, _, written, same⟩
    exact ⟨⟨positive, text, inTime, writeNativeFile_ok_iff.mp written⟩, same⟩
  · intro ⟨writes, same⟩
    exact ⟨⟨writes.positive, writes.text, writes.inTime⟩, (),
      writeNativeFile_ok_iff.mpr writes.written, same⟩

theorem fallbackWrite_eq_some_iff : fallbackWrite env path contents = some count ↔
      FallbackWrites env path ∧ count = contents.length := by
  unfold fallbackWrite
  dsimp only
  split
  next takes =>
    simp only [Bool.and_eq_true] at takes
    rw [Option.some.injEq, eq_comm]
    exact (and_iff_right ⟨takes.1.1, takes.1.2, takes.2⟩).symm
  next refuses =>
  refine iff_of_false (by simp) ?_
  intro ⟨writes, _⟩
  exact refuses (by simp [writes.opens, writes.locks, writes.takes])

variable {timeout : Timeout} {maxOutputBytes : Int64}

@[mk_iff] structure CommandValid (arguments : List PhpString) (timeout : Timeout)
    (maxOutputBytes : Int64) : Prop where
  program : arguments ≠ []
  positive : timeout.micros ≠ 0
  limit : 1 ≤ maxOutputBytes.toInt
  plain : ∀ argument ∈ arguments, argument.contains 0 = false

theorem validatesCommand_iff : validatesCommand arguments timeout maxOutputBytes = true ↔
      CommandValid arguments timeout maxOutputBytes := by
  simp only [validatesCommand, Bool.and_eq_true, decide_eq_true_eq, List.all_eq_true,
    Bool.not_eq_true', commandValid_iff, and_assoc]

theorem clamp_outputLimit (limit : 1 ≤ maxOutputBytes.toInt) :
    clamp maxOutputBytes.toInt.toNat 1 (64 * mebibyte) = outputLimit maxOutputBytes := by
  have unit : 1 ≤ 64 * mebibyte := by decide
  unfold clamp outputLimit
  omega

theorem runNativeProcess_eq
    (valid : CommandValid arguments timeout maxOutputBytes) : runNativeProcess env (processOperation
        (timeout.micros - env.elapsedMicros) arguments stdin maxOutputBytes.toInt.toNat) =
      (if 64 * mebibyte < stdin.length then
        .error (asciiBytes "native process stdin exceeds the 64 MiB limit")
      else
        (env.processes arguments stdin).spawn.mapError fun error =>
          asciiBytes "cannot start " ++ arguments.headD [] ++ asciiBytes ": " ++ error).map fun _ =>
        processResult (nativeTrace env timeout arguments stdin maxOutputBytes)
          (outputLimit maxOutputBytes) := by
  cases arguments with
  | nil => exact absurd rfl valid.program
  | cons program arguments =>
    have plain : ((program :: arguments).any fun argument => argument.contains 0) = false := by
      rw [List.any_eq_false]
      intro argument member
      rw [valid.plain argument member]
      exact Bool.false_ne_true
    have limit : nativeOutputLimit (processOperation
        (timeout.micros - env.elapsedMicros) (program :: arguments) stdin
        maxOutputBytes.toInt.toNat) = outputLimit maxOutputBytes := clamp_outputLimit valid.limit
    simp only [runNativeProcess, nativeSupervision, limit]
    simp only [processOperation, plain, Bool.false_eq_true, if_false, getD_some,
      decodeBase64_encodeBase64]
    split
    · rfl
    · cases (env.processes (program :: arguments) stdin).spawn <;> rfl

def commandResult (trace : ProcessTrace) (exitCode : Int) (limit : Nat) : CommandResult where
  kind := trace.kind
  exitCode := exitCode
  stdout := trace.stdout.take limit
  stderr := trace.stderr.take limit

theorem readCommandResult_processResult : readCommandResult (processResult trace limit) =
      some (commandResult trace trace.ending.code limit) := by
  have stdout : replyText (processResult trace limit) "stdout" =
      some (encodeBase64 (trace.stdout.take limit)) := rfl
  have stderr : replyText (processResult trace limit) "stderr" =
      some (encodeBase64 (trace.stderr.take limit)) := rfl
  have kind : replyInteger (processResult trace limit) "kind" = some trace.kind.code := rfl
  have known : CommandExitKind.from trace.kind.code = some trace.kind := by cases trace.kind <;> rfl
  simp only [readCommandResult, stdout, stderr, kind, getD_some, decodeBase64_encodeBase64, known]
  rfl

theorem nativeRun_eq_some_iff (valid : CommandValid arguments timeout maxOutputBytes) :
    nativeRun env timeout arguments stdin maxOutputBytes = some result ↔
      NativeStarts env timeout arguments stdin ∧ result = commandResult
          (nativeTrace env timeout arguments stdin maxOutputBytes)
          (nativeTrace env timeout arguments stdin maxOutputBytes).ending.code
          (outputLimit maxOutputBytes) := by
  have ran (inTime : env.endsWithin (min (givenMicros env timeout + 250000)
      env.requestRemainingMicros) = true) :
      executePhpNativeOperation env (processOperation (timeout.micros - env.elapsedMicros)
        arguments stdin maxOutputBytes.toInt.toNat) = _ :=
    (if_pos inTime).trans (runNativeProcess_eq valid)
  refine (executeOperation_bind (exportedOperation_process timeout valid.limit) ran
    (fun _ => rfl) fun _ => readCommandResult_processResult).trans ?_
  rw [List.all_eq_true]
  constructor
  · intro ⟨⟨_, texts, inTime⟩, _, started, same⟩
    split at started
    · cases started
    next small =>
    cases spawned : (env.processes arguments stdin).spawn with
    | error error =>
      rw [spawned] at started
      cases started
    | ok _ => exact ⟨⟨texts, Nat.le_of_not_lt small, spawned, inTime⟩, same⟩
  · intro ⟨starts, same⟩
    rw [if_neg (Nat.not_lt.mpr starts.small), starts.spawns]
    exact ⟨⟨valid.positive, starts.texts, starts.inTime⟩, (), rfl, same⟩

theorem fallbackRun_eq_some_iff :
    fallbackRun env timeout arguments stdin maxOutputBytes.toInt.toNat = some result ↔
      (env.processes arguments stdin).procOpen = true ∧
        result = commandResult (fallbackTrace env timeout arguments stdin)
          (fallbackExitCode (env.processes arguments stdin)
            (fallbackTrace env timeout arguments stdin)) maxOutputBytes.toInt.toNat := by
  unfold fallbackRun
  dsimp only
  cases opened : (env.processes arguments stdin).procOpen with
  | false => simp
  | true =>
    simp only [if_true, Option.some.injEq, true_and]
    exact eq_comm

theorem commandResult_eq_iff : commandResult first firstCode firstLimit =
        commandResult second secondCode secondLimit ↔
      first.kind = second.kind ∧ firstCode = secondCode ∧
        first.stdout.take firstLimit = second.stdout.take secondLimit ∧
        first.stderr.take firstLimit = second.stderr.take secondLimit := by
  simp [commandResult]

theorem guarded_eq_iff : (∀ value, (first ∧ value = left) ↔ (second ∧ value = right)) ↔
      (first ↔ second) ∧ (first → left = right) := by
  constructor
  · intro same
    have atLeft := same left
    have atRight := same right
    simp only [and_true] at atLeft atRight
    exact ⟨⟨fun holds => (atLeft.mp holds).1, fun holds => (atRight.mpr holds).1⟩,
      fun holds => (atLeft.mp holds).2⟩
  · intro ⟨same, equal⟩ value
    rw [← same]
    exact and_congr_right fun holds => by rw [equal holds]

theorem checked_eq_iff {valid : Bool} (injective : Function.Injective wrap) :
    (if valid then native.map wrap else none) = (if valid then fallback.map wrap else none) ↔
      (valid = true → ∀ value, native = some value ↔ fallback = some value) := by
  cases valid with
  | false => simp
  | true =>
    rw [if_pos rfl, if_pos rfl, (map_injective injective).eq_iff, imp_iff_right rfl]
    exact ⟨fun same value => by rw [same], Option.ext⟩

theorem native_eq_fallback_iff (env : IoEnvironment) (timeout : Timeout) (call : IoCall) :
    nativeCall env timeout call = fallbackCall env timeout call ↔ SidesMeet env timeout call := by
  cases call with
  | read path maxBytes =>
    refine (checked_eq_iff fun _ _ => IoResult.contents.inj).trans (forall_congr' fun valid => ?_)
    simp only [nativeRead_eq_some_iff, fallbackRead_eq_some_iff valid]
  | write path contents atomic =>
    refine (checked_eq_iff fun _ _ => IoResult.written.inj).trans (forall_congr' fun valid => ?_)
    have small : contents.length ≤ 256 * mebibyte := by
      simp only [validatesFile, Bool.and_eq_true, decide_eq_true_eq] at valid
      omega
    simp only [nativeWrite_eq_some_iff small, fallbackWrite_eq_some_iff,
      guarded_eq_iff, imp_true_iff, and_true]
  | run arguments stdin maxOutputBytes =>
    refine (checked_eq_iff fun _ _ => IoResult.command.inj).trans (forall_congr' fun checked => ?_)
    simp only [nativeRun_eq_some_iff (validatesCommand_iff.mp checked), fallbackRun_eq_some_iff,
      guarded_eq_iff, sameOutcome_iff, commandResult_eq_iff]

def plainFile (contents : PhpString) : FileView where
  metadata := .ok contents.length
  read := .ok contents
  write := .ok ()
  createTemporary := .ok ()
  persistTemporary := .ok ()
  rename := .ok ()
  stream := some contents
  streamOpens := true
  streamLocks := true
  streamTakes := true

/-- Reading a plain file, the sides differ in their limits only. -/
theorem sidesMeet_plainFile_iff (plain : env.files path = plainFile contents)
    (positive : timeout.micros ≠ 0) (text : validUtf8 path = true)
    (inTime : env.endsWithin (givenMicros env timeout) = true) :
    SidesMeet env timeout (.read path maxBytes) ↔ (validatesFile path maxBytes.toInt = true →
      (contents.length ≤ defaultNativeOutputLimit ↔ contents.length ≤ maxBytes.toInt.toNat)) := by
  refine forall_congr' fun _ => ?_
  simp only [nativeReads_iff, fallbackReads_iff, plain, plainFile]
  grind

def silentProcess : ProcessView where
  spawn := .ok ()
  procOpen := true
  behaves := fun _ => ⟨false, .exited 0, [], []⟩
  procClose := fun _ => 0

def plainEnvironment : IoEnvironment where
  files := fun _ => plainFile (asciiBytes "hello")
  processes := fun _ _ => silentProcess
  otherOperations := fun _ => .error []
  elapsedMicros := 0
  requestRemainingMicros := 30000000
  endsWithin := fun _ => true

def thirtySeconds : Timeout := ⟨30000000, by decide⟩

theorem read_ignores_limit : ¬ ∀ (env : IoEnvironment) (timeout : Timeout) (call : IoCall),
      nativeCall env timeout call = fallbackCall env timeout call := by
  intro agree
  have same := agree plainEnvironment thirtySeconds (.read (asciiBytes "notes") 4)
  have native : nativeCall plainEnvironment thirtySeconds (.read (asciiBytes "notes") 4) =
        some (.contents (asciiBytes "hello")) := by
    decide +kernel
  have fallback : fallbackCall plainEnvironment thirtySeconds
      (.read (asciiBytes "notes") 4) = none := by
    decide +kernel
  rw [native, fallback] at same
  cases same

end Pam.Runtime
