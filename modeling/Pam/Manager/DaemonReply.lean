import Pam.Foundation.Failure
import Pam.Protocol.JsonText

namespace Pam.Manager

open Pam.Foundation Pam.Protocol List Nat

/-! The reply of `pamd` to one request, from the executed command to what the
client makes of the bytes. Texts are UTF-8 bytes. -/

def maxDaemonResponseBytes : Nat := 2 * 1024 * 1024

structure DaemonRequest where
  schemaVersion : Nat
  operationCode : Nat
  command : Option String
  arguments : List String
  workingDirectory : Option String

structure DaemonResponse where
  schemaVersion : Nat
  ok : Bool
  pid : Nat
  message : List UInt8
  exitCode : Nat
  stdout : List UInt8
  stderr : List UInt8

structure ProcessOutput where
  code : Option Int
  stdout : List UInt8
  stderr : List UInt8

structure DaemonHost where
  pid : UInt32
  canonicalize : String → Except (List UInt8) String
  isDirectory : String → Bool
  execute : (command : String) → (arguments : List String) →
    (directory : String) → Except (List UInt8) ProcessOutput

def managedCommands : List String :=
  ["up", "ps", "status", "describe", "reload", "restart", "scale", "stop",
    "delete", "save", "resurrect", "monit", "monit:history", "dashboard",
    "dashboard:start", "dashboard:status", "dashboard:stop", "deploy",
    "deploy:history", "rollback", "traffic:start", "traffic:set",
    "traffic:promote", "traffic:abort", "traffic:status", "traffic:evaluate", "traffic:stop"]

def daemonManagedCommand (command : String) : Bool := managedCommands.contains command

def demand (condition : Bool) (message : String) : Except (List UInt8) Unit :=
  if condition then .ok () else .error (asciiBytes message)

def orMessage {Value : Type} (value : Option Value) (message : String) :
    Except (List UInt8) Value :=
  match value with
  | some value => .ok value
  | none => .error (asciiBytes message)

def ProcessOutput.exitCode (output : ProcessOutput) : Nat := match output.code with
  | some code => if 0 ≤ code ∧ code ≤ 255 then code.toNat else 1
  | none => 1

def daemonSuccessResponse (host : DaemonHost) : DaemonResponse where
  schemaVersion := 1
  ok := true
  pid := host.pid.toNat
  message := asciiBytes "ok"
  exitCode := 0
  stdout := []
  stderr := []

def daemonErrorResponse (host : DaemonHost) (message : List UInt8) : DaemonResponse where
  schemaVersion := 1
  ok := false
  pid := host.pid.toNat
  message := message
  exitCode := 1
  stdout := []
  stderr := []

def executedReply (host : DaemonHost) (output : ProcessOutput) : DaemonResponse where
  schemaVersion := 1
  ok := true
  pid := host.pid.toNat
  message := asciiBytes "ok"
  exitCode := output.exitCode
  stdout := output.stdout
  stderr := output.stderr

def executedResponse (host : DaemonHost) (output : ProcessOutput) :
    Except (List UInt8) DaemonResponse := do
  demand (validUtf8 output.stdout) "manager stdout is not UTF-8"
  demand (validUtf8 output.stderr) "manager stderr is not UTF-8"
  demand (output.stdout.length + output.stderr.length ≤
    maxDaemonResponseBytes) "manager response exceeds 2 MiB"
  return executedReply host output

/-- `handle_daemon_request` without whether to stop; `sameUser` compares the
peer's user with the daemon's. -/
def handleDaemonRequest (host : DaemonHost) (sameUser : Bool)
    (request : Except (List UInt8) DaemonRequest) : Except (List UInt8) DaemonResponse := do
  demand sameUser "peer UID does not own this pamd"
  let request ← request
  demand (request.schemaVersion == 1) "unsupported daemon schema"
  if request.operationCode == 1 || request.operationCode == 2 then return daemonSuccessResponse host
  else do
    demand (request.operationCode == 3) "unsupported daemon operation"
    let command ← orMessage request.command "execute requires command"
    demand (daemonManagedCommand command && request.arguments.length ≤ 256)
      "command is not allowed through pamd"
    let directory ← orMessage request.workingDirectory "execute requires cwd"
    let directory ← host.canonicalize directory
    demand (host.isDirectory directory) "client cwd is not a directory"
    let output ← host.execute command request.arguments directory
    executedResponse host output

def DaemonResponse.members (response : DaemonResponse) : JsonMembers :=
  [(asciiBytes "schemaVersion", .number response.schemaVersion),
    (asciiBytes "ok", .bool response.ok), (asciiBytes "pid", .number response.pid),
    (asciiBytes "message", .text response.message),
    (asciiBytes "exitCode", .number response.exitCode),
    (asciiBytes "stdout", .text response.stdout), (asciiBytes "stderr", .text response.stderr)]

def DaemonResponse.write (response : DaemonResponse) : List UInt8 :=
  writeObject response.members ++ [0x0A]

def daemonReply (host : DaemonHost) (sameUser : Bool)
    (request : Except (List UInt8) DaemonRequest) : List UInt8 :=
  match handleDaemonRequest host sameUser request with
  | .ok response => response.write
  | .error message => (daemonErrorResponse host message).write

def memberNamed (name : String) (members : JsonMembers) : Option JsonScalar :=
  (members.find? fun member => member.1 == asciiBytes name).map Prod.snd

def natural? (greatest : Nat) : JsonScalar → Option Nat
  | .number value => if value ≤ greatest then some value else none
  | _ => none

def bool? : JsonScalar → Option Bool
  | .bool value => some value
  | _ => none

def text? : JsonScalar → Option (List UInt8)
  | .text bytes => some bytes
  | _ => none

def orDefault {Value : Type} (read : JsonScalar → Option Value)
    (default : Value) : Option JsonScalar → Option Value
  | none => some default
  | some value => read value

def responseFields : List String :=
  ["schemaVersion", "ok", "pid", "message", "exitCode", "stdout", "stderr"]

/-- The fields of the derived `Deserialize`: unknown members are ignored, and no
known one may stand twice. -/
def DaemonResponse.ofMembers (members : JsonMembers) : Option DaemonResponse := do
  guard (responseFields.all fun name =>
    members.countP (fun member => member.1 == asciiBytes name) ≤ 1)
  let schemaVersion ← (memberNamed "schemaVersion" members).bind (natural? 255)
  let ok ← (memberNamed "ok" members).bind bool?
  let pid ← (memberNamed "pid" members).bind (natural? (2 ^ 32 - 1))
  let message ← (memberNamed "message" members).bind text?
  let exitCode ← orDefault (natural? 255) 0 (memberNamed "exitCode" members)
  let stdout ← orDefault text? [] (memberNamed "stdout" members)
  let stderr ← orDefault text? [] (memberNamed "stderr" members)
  return {
    schemaVersion := schemaVersion
    ok := ok
    pid := pid
    message := message
    exitCode := exitCode
    stdout := stdout
    stderr := stderr }

structure CommandResult where
  exitCode : Nat
  stdout : List UInt8
  stderr : List UInt8

variable (parseError : List UInt8 → List UInt8)

def readDaemonResponse (stream : List UInt8) : Except (List UInt8) DaemonResponse :=
  let bytes := stream.take (maxDaemonResponseBytes + 1)
  if maxDaemonResponseBytes < bytes.length then .error (asciiBytes "daemon response exceeds 2 MiB")
  else
    match (readObject bytes).bind DaemonResponse.ofMembers with
    | some response => .ok response
    | none => .error (parseError bytes)

/-- What `daemon_execute` makes of the reply: the exit code and the outputs it
passes on, or the error it reports. -/
def daemonExecute (stream : List UInt8) : Except (List UInt8) CommandResult := do
  let response ← readDaemonResponse parseError stream
  if response.schemaVersion ≠ 1 ∨ response.ok = false then throw response.message
  else
    return {
      exitCode := response.exitCode
      stdout := response.stdout
      stderr := response.stderr }

structure DaemonResponse.Sound (response : DaemonResponse) : Prop where
  schemaVersion : response.schemaVersion ≤ 255
  pid : response.pid ≤ 2 ^ 32 - 1
  exitCode : response.exitCode ≤ 255
  message : validUtf8 response.message = true
  stdout : validUtf8 response.stdout = true
  stderr : validUtf8 response.stderr = true

theorem DaemonResponse.Sound.members_valid {response : DaemonResponse} (sound : response.Sound) :
    ∀ member ∈ response.members, ValidMember member := by
  have named : ∀ name ∈ responseFields, validUtf8 (asciiBytes name) = true := by
    have ascii : ∀ name ∈ responseFields, ∀ byte ∈ asciiBytes name, byte ≤ 0x7F := by decide +kernel
    intro name member
    exact validUtf8_of_ascii (ascii name member)
  simp only [responseFields, forall_mem_cons] at named
  obtain ⟨schemaVersion, ok, pid, message, exitCode, stdout, stderr, _⟩ := named
  simp only [DaemonResponse.members, forall_mem_cons]
  exact ⟨⟨schemaVersion, trivial⟩, ⟨ok, trivial⟩, ⟨pid, trivial⟩,
    ⟨message, sound.message⟩, ⟨exitCode, trivial⟩, ⟨stdout, sound.stdout⟩,
    ⟨stderr, sound.stderr⟩, nofun⟩

theorem DaemonResponse.Sound.ofMembers_members (sound : response.Sound) :
    DaemonResponse.ofMembers response.members = some response := by
  have schemaVersion : memberNamed "schemaVersion" response.members =
      some (.number response.schemaVersion) := rfl
  have pid : memberNamed "pid" response.members = some (.number response.pid) := rfl
  have exitCode : memberNamed "exitCode" response.members = some (.number response.exitCode) := rfl
  simp only [DaemonResponse.ofMembers, schemaVersion, pid, exitCode, orDefault, natural?,
    Option.bind_some, if_pos sound.schemaVersion, if_pos sound.pid, if_pos sound.exitCode]
  rfl

theorem readDaemonResponse_write {response : DaemonResponse} (sound : response.Sound) :
    readDaemonResponse parseError response.write =
      if response.write.length ≤ maxDaemonResponseBytes then .ok response
      else .error (asciiBytes "daemon response exceeds 2 MiB") := by
  have parsed : (readObject response.write).bind DaemonResponse.ofMembers = some response := by
    rw [DaemonResponse.write, readObject_writeObject sound.members_valid rfl]
    exact sound.ofMembers_members
  unfold readDaemonResponse
  by_cases fits : response.write.length ≤ maxDaemonResponseBytes
  · have taken : response.write.take (maxDaemonResponseBytes + 1) =
        response.write := take_of_length_le (by omega)
    simp only [taken, if_pos fits, if_neg (not_lt.mpr fits), parsed]
  have taken : maxDaemonResponseBytes <
      (response.write.take (maxDaemonResponseBytes + 1)).length := by
    rw [length_take]
    omega
  simp only [if_neg fits, if_pos taken]

variable {host : DaemonHost}

theorem daemonExecute_error (valid : validUtf8 message = true) :
    daemonExecute parseError (daemonErrorResponse host message).write ≠ .ok result := by
  have sound : (daemonErrorResponse host message).Sound :=
    { schemaVersion := (by decide : 1 ≤ 255)
      pid := le_pred_of_lt host.pid.toNat_lt
      exitCode := (by decide : 1 ≤ 255)
      message := valid
      stdout := rfl
      stderr := rfl }
  rw [daemonExecute, readDaemonResponse_write parseError sound]
  split <;> exact nofun

theorem length_le_escapedText (bytes : List UInt8) : bytes.length ≤ (escapedText bytes).length := by
  induction bytes with
  | nil => exact le_refl _
  | cons byte bytes induction =>
    have one : 1 ≤ (escapeByte byte).length := by
      unfold escapeByte
      split
      · exact (by decide : 1 ≤ 2)
      split
      · exact (by decide : 1 ≤ 6)
      · exact le_refl 1
    rw [escapedText, flatMap_cons, length_append, length_cons]
    rw [escapedText] at induction
    omega

/-- The bytes of the reply to an executed command: 88 bytes of names and
punctuation, two numbers, and the escaped outputs. -/
def replySize (host : DaemonHost) (output : ProcessOutput) : Nat :=
  88 + (decimal host.pid.toNat).length + (decimal output.exitCode).length +
    (escapedText output.stdout).length + (escapedText output.stderr).length

theorem length_write_executedReply :
    (executedReply host output).write.length = replySize host output := by
  have lengths : responseFields.map (fun name =>
      (escapedText (asciiBytes name)).length) = [13, 2, 3, 7, 8, 6, 6] := by
    decide +kernel
  have one : (decimal 1).length = 1 := by decide +kernel
  simp only [responseFields, map_cons, List.cons.injEq] at lengths
  simp only [DaemonResponse.write, writeObject, DaemonResponse.members, writeMembers, writeMember,
    writeText, writeScalar, executedReply, replySize, flatMap_cons, flatMap_nil, length_append,
    length_cons, length_nil]
  omega

structure Executed (host : DaemonHost) (request : DaemonRequest)
    (output : ProcessOutput) : Prop where
  schemaVersion : request.schemaVersion = 1
  operation : request.operationCode = 3
  arguments : request.arguments.length ≤ 256
  executes : ∃ command directory resolved, request.command = some command ∧
    daemonManagedCommand command = true ∧ request.workingDirectory = some directory ∧
    host.canonicalize directory = .ok resolved ∧ host.isDirectory resolved = true ∧
    host.execute command request.arguments resolved = .ok output

theorem handleDaemonRequest_executed (executed : Executed host request output) :
    handleDaemonRequest host true (.ok request) = executedResponse host output := by
  obtain ⟨command, directory, resolved, named, managed, given, canonical,
    isDirectory, ran⟩ := executed.executes
  simp only [handleDaemonRequest, demand, orMessage, ok_bind, executed.schemaVersion,
    executed.operation, executed.arguments, named, managed, given, canonical, isDirectory, ran,
    beq_self_eq_true, if_true]
  exact if_neg (by decide)

theorem exitCode_le (output : ProcessOutput) : output.exitCode ≤ 255 := by
  unfold ProcessOutput.exitCode
  split
  · split
    · omega
    · decide
  · decide

theorem sound_executedReply {output : ProcessOutput} (stdout : validUtf8 output.stdout = true)
    (stderr : validUtf8 output.stderr = true) : (executedReply host output).Sound where
  schemaVersion := (by decide : 1 ≤ 255)
  pid := le_pred_of_lt host.pid.toNat_lt
  exitCode := exitCode_le output
  message := rfl
  stdout := stdout
  stderr := stderr

def Deliverable (host : DaemonHost) (output : ProcessOutput) : Prop :=
  validUtf8 output.stdout = true ∧ validUtf8 output.stderr = true ∧
    replySize host output ≤ maxDaemonResponseBytes

theorem executedResponse_cases (host : DaemonHost) (output : ProcessOutput) :
    (executedResponse host output = .ok (executedReply host output) ∧
        validUtf8 output.stdout = true ∧ validUtf8 output.stderr = true) ∨
      ∃ message, executedResponse host output = .error message ∧
        validUtf8 message = true ∧ ¬ Deliverable host output := by
  have ascii : ∀ message ∈ ["manager stdout is not UTF-8",
      "manager stderr is not UTF-8", "manager response exceeds 2 MiB"],
      ∀ byte ∈ asciiBytes message, byte ≤ 0x7F := by
    decide +kernel
  simp only [forall_mem_cons] at ascii
  obtain ⟨noStdout, noStderr, tooLarge, _⟩ := ascii
  unfold executedResponse Deliverable
  cases stdout : validUtf8 output.stdout with
  | false => exact .inr ⟨_, rfl, validUtf8_of_ascii noStdout, by simp⟩
  | true =>
    cases stderr : validUtf8 output.stderr with
    | false => exact .inr ⟨_, rfl, validUtf8_of_ascii noStderr, by simp⟩
    | true =>
      by_cases small : output.stdout.length + output.stderr.length ≤ maxDaemonResponseBytes
      · simp [demand, small, ok_bind]
      have raw := length_le_escapedText output.stdout
      have others := length_le_escapedText output.stderr
      have large : ¬ replySize host output ≤ maxDaemonResponseBytes := by
        unfold replySize
        omega
      refine .inr ⟨_, ?_, validUtf8_of_ascii tooLarge, by simp [large]⟩
      simp [demand, small, ok_bind]

section Reply

variable {request : DaemonRequest} {output : ProcessOutput}
  (executed : Executed host request output)

include executed

theorem daemonExecute_of_deliverable (deliverable : Deliverable host output) :
    daemonExecute parseError (daemonReply host true (.ok request)) =
      .ok ⟨output.exitCode, output.stdout, output.stderr⟩ := by
  have sound : (executedReply host output).Sound :=
    sound_executedReply deliverable.1 deliverable.2.1
  rw [daemonReply, handleDaemonRequest_executed executed]
  rcases executedResponse_cases host output with ⟨sent, _⟩ | ⟨_, _, _, undeliverable⟩
  · simp only [sent]
    rw [daemonExecute, readDaemonResponse_write parseError sound, length_write_executedReply, if_pos
      deliverable.2.2]
    rfl
  · exact absurd deliverable undeliverable

theorem daemonExecute_of_not_deliverable (undeliverable : ¬ Deliverable host output) :
    daemonExecute parseError (daemonReply host true (.ok request)) ≠ .ok result := by
  rw [daemonReply, handleDaemonRequest_executed executed]
  rcases executedResponse_cases host output with ⟨sent, stdout, stderr⟩ | ⟨message, sent, valid, _⟩
  · have large : ¬ replySize host output ≤ maxDaemonResponseBytes :=
      fun fits => undeliverable ⟨stdout, stderr, fits⟩
    simp only [sent]
    rw [daemonExecute, readDaemonResponse_write parseError (sound_executedReply stdout stderr),
      length_write_executedReply, if_neg large]
    exact nofun
  · simp only [sent]
    exact daemonExecute_error parseError valid

/-- The client gets the outcome of an executed command if both outputs are UTF-8
and the encoded reply fits; else it gets no result. -/
theorem executed_reply_delivered_iff :
    daemonExecute parseError (daemonReply host true (.ok request)) =
        .ok ⟨output.exitCode, output.stdout, output.stderr⟩ ↔ Deliverable host output := by
  constructor
  · intro delivered
    by_contra undeliverable
    exact daemonExecute_of_not_deliverable parseError executed undeliverable delivered
  · exact daemonExecute_of_deliverable parseError executed

end Reply

def printing (output : ProcessOutput) : DaemonHost where
  pid := 4242
  canonicalize := .ok
  isDirectory _ := true
  execute _ _ _ := .ok output

def listRequest : DaemonRequest where
  schemaVersion := 1
  operationCode := 3
  command := some "ps"
  arguments := []
  workingDirectory := some "/srv/shop"

theorem executed_listRequest : Executed (printing output) listRequest output where
  schemaVersion := rfl
  operation := rfl
  arguments := (by decide : 0 ≤ 256)
  executes := ⟨"ps", "/srv/shop", "/srv/shop", rfl, by decide, rfl, rfl, rfl, rfl⟩

def tableOutput : ProcessOutput where
  code := some 3
  stdout := [0x73, 0x68, 0x6F, 0x70, 0x09, 0x31, 0x0A]
  stderr := [0x1B]

theorem tableOutput_delivered : daemonExecute (fun _ => []) (daemonReply (printing tableOutput) true
        (.ok listRequest)) = .ok ⟨3, tableOutput.stdout, tableOutput.stderr⟩ :=
  (executed_reply_delivered_iff _ executed_listRequest).mpr ⟨rfl, rfl, by decide +kernel⟩

def latinOutput : ProcessOutput where
  code := some 0
  stdout := [0x63, 0x61, 0x66, 0xE9]
  stderr := []

def newlinesOutput (count : Nat) : ProcessOutput where
  code := some 0
  stdout := List.replicate count 0x0A
  stderr := []

theorem length_newlinesOutput (count : Nat) : (newlinesOutput count).stdout.length +
      (newlinesOutput count).stderr.length = count := by
  simp [newlinesOutput]

theorem replySize_newlinesOutput (count : Nat) (host : DaemonHost) :
    2 * count < replySize host (newlinesOutput count) := by
  have escaped : (escapedText (newlinesOutput count).stdout).length = count * 2 := by
    have two : (escapeByte 0x0A).length = 2 := by decide
    simp [newlinesOutput, escapedText, two]
  rw [replySize]
  omega

/-- Neither the content nor the size of an output within the daemon's limit is
safe. -/
theorem executed_command_reported_as_failure : ∃ content size : ProcessOutput,
      content.stdout.length + content.stderr.length ≤ maxDaemonResponseBytes ∧
      (∀ parseError result, daemonExecute parseError (daemonReply
        (printing content) true (.ok listRequest)) ≠ .ok result) ∧
      validUtf8 size.stdout = true ∧ validUtf8 size.stderr = true ∧
      size.stdout.length + size.stderr.length ≤ maxDaemonResponseBytes ∧
      ∀ parseError result, daemonExecute parseError (daemonReply
        (printing size) true (.ok listRequest)) ≠ .ok result := by
  refine ⟨latinOutput, newlinesOutput 1048576, by decide, ?_, ?_, rfl, ?_, ?_⟩
  · intro parseError result
    apply daemonExecute_of_not_deliverable parseError executed_listRequest
    exact fun deliverable => absurd deliverable.1 (by decide)
  · apply validUtf8_of_ascii
    intro byte member
    rw [eq_of_mem_replicate member]
    decide
  · rw [length_newlinesOutput]
    decide
  · intro parseError result
    apply daemonExecute_of_not_deliverable parseError executed_listRequest
    intro deliverable
    have large := replySize_newlinesOutput 1048576 (printing (newlinesOutput 1048576))
    exact absurd deliverable.2.2 (not_le.mpr large)

end Pam.Manager
