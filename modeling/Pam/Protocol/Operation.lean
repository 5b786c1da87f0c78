import Pam.Protocol.PhpValue

namespace Pam.Protocol

open Pam.Foundation Option

/-! The operations for which PHP suspends a request: what `Suspension::export`
sends, and what the server's `PhpOperation` reads. -/

inductive PhpOperationKind where
  | timer
  | stream
  | dns
  | fileRead
  | fileWrite
  | process
  | signal
  | responseChunk

def PhpOperationKind.code : PhpOperationKind → Nat
  | .timer => 1
  | .stream => 2
  | .dns => 3
  | .fileRead => 4
  | .fileWrite => 5
  | .process => 6
  | .signal => 7
  | .responseChunk => 8

def PhpOperationKind.ofCode : Nat → Option PhpOperationKind
  | 1 => some .timer
  | 2 => some .stream
  | 3 => some .dns
  | 4 => some .fileRead
  | 5 => some .fileWrite
  | 6 => some .process
  | 7 => some .signal
  | 8 => some .responseChunk
  | _ => none

/-- `delayMicros` is what is left until `resumeAt` when the suspension is
exported, a PHP integer. -/
structure Suspension where
  kind : PhpOperationKind
  delayMicros : Nat
  payload : List (PhpString × PhpValue)
  delayFits : delayMicros < 2 ^ 63

/-- No payload has a key `kind` or `delayMicros`. -/
def Suspension.export (suspension : Suspension) : PhpValue :=
  .array ((asciiBytes "kind", .integer suspension.kind.code) ::
    (asciiBytes "delayMicros", .integer suspension.delayMicros) :: suspension.payload)

def suspendedEnvelope (suspension : Suspension) : PhpValue :=
  .array [(asciiBytes "state", .integer 2), (asciiBytes "operation", suspension.export)]

structure JsonPhpHttpResponse where
  status : Nat
  headers : Headers
  body : List UInt8
  chunks : List (List UInt8)

def JsonPhpHttpResponse.intoPhp (response : JsonPhpHttpResponse) : PhpHttpResponse where
  status := response.status
  headers := response.headers
  body := response.body
  chunks := response.chunks

structure PhpOperation where
  kind : PhpOperationKind
  delayMicros : Nat
  readFileDescriptors : List Int
  writeFileDescriptors : List Int
  host : Option (List UInt8)
  path : Option (List UInt8)
  data : Option (List UInt8)
  atomic : Bool
  arguments : List (List UInt8)
  stdin : Option (List UInt8)
  maxOutputBytes : Nat
  signal : Option Int
  response : Option JsonPhpHttpResponse
  chunk : Option (List UInt8)

def defaultNativeOutputLimit : Nat := 8 * 1024 * 1024

def readByte : Json → Option Nat := Json.natural? 255

def readU16 : Json → Option Nat := Json.natural? (2 ^ 16 - 1)

def readU64 : Json → Option Nat := Json.natural? (2 ^ 64 - 1)

def readI32 : Json → Option Int := Json.integer? (-2 ^ 31) (2 ^ 31 - 1)

def readHeader (field : List UInt8 × Json) : Option Header :=
  (field.2.items? Json.text?).map fun values => ⟨field.1, values⟩

/-- A map is read from an object only; an array is refused. -/
def readHeaders (json : Json) : Option Headers := do
  let fields ← json.fields?
  let headers ← fields.mapM readHeader
  return headers.foldl (fun built header => built.insert header.1 header.2) ∅

/-- Fields that are not named here are ignored, as everywhere below. -/
def JsonPhpHttpResponse.ofJson (json : Json) : Option JsonPhpHttpResponse := do
  let fields ← json.fields?
  let field := fun name => Json.field? fields (asciiBytes name)
  let status ← Json.required readU16 (field "status")
  let headers ← Json.required readHeaders (field "headers")
  let body ← Json.required Json.text? (field "body")
  let chunks ← Json.orDefault (Json.items? Json.text?) [] (field "chunks")
  return { status, headers, body, chunks }

def readKind (json : Json) : Option PhpOperationKind := (readByte json).bind PhpOperationKind.ofCode

def PhpOperation.ofPayload (kind : PhpOperationKind) (delayMicros : Nat)
    (fields : List (List UInt8 × Json)) : Option PhpOperation := do
  let field := fun name => Json.field? fields (asciiBytes name)
  let text := fun name => Json.optional Json.text? (field name)
  let descriptors := fun name => Json.orDefault (Json.items? readI32) [] (field name)
  let readFileDescriptors ← descriptors "readFileDescriptors"
  let writeFileDescriptors ← descriptors "writeFileDescriptors"
  let host ← text "host"
  let path ← text "path"
  let data ← text "data"
  let atomic ← Json.orDefault Json.bool? false (field "atomic")
  let arguments ← Json.orDefault (Json.items? Json.text?) [] (field "arguments")
  let stdin ← text "stdin"
  let maxOutputBytes ← Json.orDefault readU64 defaultNativeOutputLimit (field "maxOutputBytes")
  let signal ← Json.optional readI32 (field "signal")
  let response ← Json.optional JsonPhpHttpResponse.ofJson (field "response")
  let chunk ← text "chunk"
  return { kind, delayMicros, readFileDescriptors, writeFileDescriptors, host,
           path, data, atomic, arguments, stdin, maxOutputBytes, signal, response, chunk }

def PhpOperation.ofJson (json : Json) : Option PhpOperation := do
  let fields ← json.fields?
  let field := fun name => Json.field? fields (asciiBytes name)
  let kind ← Json.required readKind (field "kind")
  let delayMicros ← Json.required readU64 (field "delayMicros")
  PhpOperation.ofPayload kind delayMicros fields

def readState (json : Json) : Option PhpDispatchState := match readByte json with
  | some 1 => some .complete
  | some 2 => some .suspended
  | _ => none

def PhpDispatchEnvelope.ofJson (json : Json) : Option (PhpDispatchEnvelope PhpOperation) := do
  let fields ← json.fields?
  let field := fun name => Json.field? fields (asciiBytes name)
  let state ← Json.required readState (field "state")
  let response ← Json.optional JsonPhpHttpResponse.ofJson (field "response")
  let operation ← Json.optional PhpOperation.ofJson (field "operation")
  return { state, response := response.map JsonPhpHttpResponse.intoPhp
           operation }

/-- The depth from which on `serde_json` refuses a text. -/
def serdeDepth : Nat := 128

/-- `serde_json::from_slice`; `parse` reads the text as a JSON value. -/
def fromSlice (parse : List UInt8 → Option Json) (payload : List UInt8) :
    Except String (PhpDispatchEnvelope PhpOperation) :=
  match (parse payload).bind PhpDispatchEnvelope.ofJson with
  | some envelope => .ok envelope
  | none => .error "not a PHP dispatch envelope"

def suspendedFields (suspension : Suspension)
    (payload : List (PhpString × Json)) : List (PhpString × Json) :=
  (asciiBytes "kind", .integer suspension.kind.code) ::
    (asciiBytes "delayMicros", .integer suspension.delayMicros) :: payload

def suspendedJson (suspension : Suspension) (payload : List (PhpString × Json)) : Json :=
  .object [(asciiBytes "state", .integer 2),
    (asciiBytes "operation", .object (suspendedFields suspension payload))]

variable (suspension : Suspension)

theorem jsonEncode_export : jsonEncode suspension.export =
      (jsonEncodeEntries suspension.payload).map fun payload =>
        .object (suspendedFields suspension payload) := by
  have named (keys : List PhpString) : isListKeys (asciiBytes "kind" :: keys) = false :=
    isListKeys_cons_of_ne (by decide)
  have kindKey : validUtf8 (asciiBytes "kind") = true := by decide +kernel
  have delayKey : validUtf8 (asciiBytes "delayMicros") = true := by decide +kernel
  simp only [Suspension.export, jsonEncode, jsonEncodeEntries, kindKey,
    delayKey, if_true, bind_some, List.map_cons, named, map_map]
  rfl

theorem jsonEncode_suspendedEnvelope : jsonEncode (suspendedEnvelope suspension) =
      (jsonEncodeEntries suspension.payload).map (suspendedJson suspension) := by
  have named (keys : List PhpString) : isListKeys (asciiBytes "state" :: keys) = false :=
    isListKeys_cons_of_ne (by decide)
  have stateKey : validUtf8 (asciiBytes "state") = true := by decide +kernel
  have operationKey : validUtf8 (asciiBytes "operation") = true := by decide +kernel
  simp only [suspendedEnvelope, jsonEncode, jsonEncodeEntries, stateKey,
    operationKey, if_true, bind_some, List.map_cons, named, jsonEncode_export]
  cases jsonEncodeEntries suspension.payload with
  | none | some payload => rfl

variable (payload : List (PhpString × Json))

theorem ofJson_suspendedJson : PhpDispatchEnvelope.ofJson (suspendedJson suspension payload) =
      (PhpOperation.ofJson (.object (suspendedFields suspension payload))).map fun operation =>
          { state := .suspended, response := none
            operation := some operation } := by
  have operation : Json.field? [(asciiBytes "state", Json.integer 2),
      (asciiBytes "operation", .object (suspendedFields suspension payload))]
        (asciiBytes "operation") = some (.object (suspendedFields suspension payload)) := rfl
  simp only [PhpDispatchEnvelope.ofJson, suspendedJson, Json.fields?, bind_eq_bind,
    bind_some, operation, Json.optional]
  cases PhpOperation.ofJson (.object (suspendedFields suspension payload)) with
  | none | some operation => rfl

theorem ofJson_suspendedFields :
    PhpOperation.ofJson (.object (suspendedFields suspension payload)) =
      PhpOperation.ofPayload suspension.kind suspension.delayMicros payload := by
  have kind : Json.field? (suspendedFields suspension payload)
      (asciiBytes "kind") = some (.integer suspension.kind.code) := rfl
  have delay : Json.field? (suspendedFields suspension payload)
      (asciiBytes "delayMicros") = some (.integer suspension.delayMicros) := rfl
  have readsKind : readKind (.integer suspension.kind.code) = some suspension.kind := by
    cases suspension.kind <;> rfl
  have readsDelay : readU64 (.integer suspension.delayMicros) = some suspension.delayMicros := by
    have fits := suspension.delayFits
    exact Json.natural?_ofNat (by omega)
  simp only [PhpOperation.ofJson, Json.fields?, bind_eq_bind,
    bind_some, kind, delay, Json.required, readsKind, readsDelay]
  rfl

end Pam.Protocol
