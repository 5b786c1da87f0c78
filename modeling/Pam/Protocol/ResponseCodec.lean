import Pam.Foundation.Codec
import Pam.Foundation.Table

namespace Pam.Protocol

open Pam.Foundation List Option

/-! The binary form of a response between PHP and the server:
`encodeHttpResponse`, `decodeHttpResponse` and `mergeCapturedOutput` of the
bootstrap, `parse_dispatch_envelope` of the server. -/

def asciiBytes (text : String) : List UInt8 :=
  text.toList.map fun character => UInt8.ofNat character.toNat

abbrev Header := (_ : List UInt8) × List (List UInt8)

abbrev Headers := Table (List UInt8) (List (List UInt8))

structure HttpResponse where
  status : Int
  headers : Headers
  body : List UInt8
  chunks : Option (List (List UInt8))

def HttpResponse.chunkList (response : HttpResponse) : List (List UInt8) := response.chunks.getD []

inductive CodecError where
  | metadataLimits
  | headerLimits
  | truncated
  deriving DecidableEq

/-- `pack('N', strlen($value)).$value`; the length wraps around in silence. -/
def encodeString (value : List UInt8) : List UInt8 := bigEndian 4 value.length ++ value

def encodeHeader (header : Header) : Except CodecError (List UInt8) :=
  if header.1.length > 65535 ∨ header.2.length > 65535 then .error .headerLimits
  else
    .ok (bigEndian 2 header.1.length ++ header.1 ++
      bigEndian 2 header.2.length ++ header.2.flatMap encodeString)

def encodeHttpResponse (response : HttpResponse) : Except CodecError (List UInt8) := do
  if response.status < 100 ∨ response.status > 999 ∨ response.headers.size > 65535 then
    throw .metadataLimits
  let headers ← response.headers.entries.mapM encodeHeader
  return bigEndian 2 response.status.toNat ++
    bigEndian 2 response.headers.size ++ headers.flatten ++ encodeString response.body ++
    bigEndian 4 response.chunkList.length ++ response.chunkList.flatMap encodeString

abbrev PhpReader := Reader CodecError

def u16 : PhpReader Nat := Reader.number .truncated 2

def u32 : PhpReader Nat := Reader.number .truncated 4

def decodeString : PhpReader (List UInt8) := do Reader.take .truncated (← u32)

def decodeHeader : PhpReader Header := do
  let name ← Reader.take .truncated (← u16)
  let valueCount ← u16
  let values ← decodeString.many valueCount
  return ⟨name, values⟩

def decodeResponse : PhpReader HttpResponse := do
  let status ← u16
  let headerCount ← u16
  let headers ← decodeHeader.many headerCount
  let body ← decodeString
  let chunkCount ← u32
  let chunks ← decodeString.many chunkCount
  return {
    status := status
    headers := headers.foldl (fun built header => built.assign header.1 header.2) ∅
    body := body
    chunks := some chunks }

/-- Bytes after the last chunk are not looked at. -/
def decodeHttpResponse (encoded : List UInt8) : Except CodecError HttpResponse := do
  return (← decodeResponse encoded).1

def contentType : List UInt8 := asciiBytes "content-type"

def withContentType (headers : Headers) : Headers := match headers.lookup contentType with
  | some _ => headers
  | none => headers.assign contentType [asciiBytes "text/plain; charset=utf-8"]

def mergeCapturedOutput (serialized output : List UInt8) : Except CodecError (List UInt8) := do
  if output = [] then return serialized
  let response ← decodeHttpResponse serialized
  if response.body ≠ [] ∨ response.chunkList ≠ [] then return serialized
  encodeHttpResponse { response with
    body := output
    headers := withContentType response.headers }

structure PhpHttpResponse where
  status : Nat
  headers : Headers
  body : List UInt8
  chunks : List (List UInt8)
  deriving DecidableEq

inductive PhpDispatchState where
  | complete
  | suspended
  deriving DecidableEq

structure PhpDispatchEnvelope (Operation : Type) where
  state : PhpDispatchState
  response : Option PhpHttpResponse
  operation : Option Operation
  deriving DecidableEq

inductive ParseError where
  | tooManyHeaderNames
  | tooManyHeaderValues
  | tooManyChunks
  | trailingBytes
  | truncated
  | notUtf8 (bytes : List UInt8)
  | invalidEnvelope (error : String)
  deriving DecidableEq

def maxNativeHeaderNames : Nat := 256

def maxNativeHeaderValues : Nat := 256

def maxNativeResponseChunks : Nat := 4096

namespace BinaryResponseCursor

abbrev Cursor := Reader ParseError

def take (length : Nat) : Cursor (List UInt8) := Reader.take .truncated length

def u16 : Cursor Nat := Reader.number .truncated 2

def u32 : Cursor Nat := Reader.number .truncated 4

def utf8 (length : Nat) : Cursor (List UInt8) := do
  let bytes ← take length
  if validUtf8 bytes = false then throw (.notUtf8 bytes) else return bytes

def headerValue : Cursor (List UInt8) := do utf8 (← u32)

def header : Cursor Header := do
  let name ← utf8 (← u16)
  let valueCount ← u16
  if valueCount > maxNativeHeaderValues then throw .tooManyHeaderValues
  else
    let values ← headerValue.many valueCount
    return ⟨name, values⟩

def chunk : Cursor (List UInt8) := do take (← u32)

end BinaryResponseCursor

open BinaryResponseCursor in
def parseResponse : Cursor PhpHttpResponse := do
  let status ← BinaryResponseCursor.u16
  let headerCount ← BinaryResponseCursor.u16
  if headerCount > maxNativeHeaderNames then throw .tooManyHeaderNames
  else
    let headers ← header.many headerCount
    let body ← chunk
    let chunkCount ← BinaryResponseCursor.u32
    if chunkCount > maxNativeResponseChunks then throw .tooManyChunks
    else
      let chunks ← chunk.many chunkCount
      return {
        status := status
        headers := headers.foldl (fun built header => built.insert header.1 header.2) ∅
        body := body
        chunks := chunks }

def parseBinaryHttpResponse (payload : List UInt8) : Except ParseError PhpHttpResponse := do
  let (response, remaining) ← parseResponse payload
  if remaining ≠ [] then throw .trailingBytes
  return response

def nativeMagic : List UInt8 := [0x89, 0x50, 0x41, 0x4D, 1]

/-- `fromSlice` is the JSON parser for the envelopes of suspensions. -/
def parseDispatchEnvelope {Operation : Type}
    (fromSlice : List UInt8 → Except String (PhpDispatchEnvelope Operation))
    (payload : List UInt8) : Except ParseError (PhpDispatchEnvelope Operation) :=
  if nativeMagic.isPrefixOf payload then do
    let response ← parseBinaryHttpResponse (payload.drop nativeMagic.length)
    return { state := .complete, response := some response, operation := none }
  else (fromSlice payload).mapError .invalidEnvelope

structure HttpResponse.LengthsFit (response : HttpResponse) : Prop where
  values : ∀ header ∈ response.headers.entries, ∀ value ∈ header.2, value.length < 2 ^ 32
  body : response.body.length < 2 ^ 32
  chunkCount : response.chunkList.length < 2 ^ 32
  chunks : ∀ chunk ∈ response.chunkList, chunk.length < 2 ^ 32

def nativeHeader (header : Header) : Bool :=
  validUtf8 header.1 && header.2.length ≤ maxNativeHeaderValues && header.2.all validUtf8

def HttpResponse.withinNativeLimits (response : HttpResponse) : Bool :=
  response.headers.size ≤ maxNativeHeaderNames && response.headers.entries.all nativeHeader &&
    response.chunkList.length ≤ maxNativeResponseChunks

structure PhpHttpResponse.Agrees (parsed : PhpHttpResponse) (response : HttpResponse) : Prop where
  status : (parsed.status : Int) = response.status
  headers : ∀ name, parsed.headers.lookup name = response.headers.lookup name
  body : parsed.body = response.body
  chunks : parsed.chunks = response.chunkList

def wireHeader (header : Header) : List UInt8 := bigEndian 2 header.1.length ++ (header.1 ++
    (bigEndian 2 header.2.length ++ header.2.flatMap encodeString))

def wireResponse (response : HttpResponse) : List UInt8 :=
  bigEndian 2 response.status.toNat ++ (bigEndian 2 response.headers.size ++
      (response.headers.entries.flatMap wireHeader ++
        (encodeString response.body ++ (bigEndian 4 response.chunkList.length ++
            response.chunkList.flatMap encodeString))))

theorem encodeHeader_eq_ok :
    encodeHeader header = .ok encoded ↔ (header.1.length ≤ 65535 ∧ header.2.length ≤ 65535) ∧
        wireHeader header = encoded := by
  rw [encodeHeader]
  split
  next refused =>
    simp only [reduceCtorEq, false_iff]
    omega
  next accepted =>
  have fits : header.1.length ≤ 65535 ∧ header.2.length ≤ 65535 := by omega
  simp [fits, wireHeader]

theorem mapM_encodeHeader_eq_ok {headers : List Header} {encoded : List (List UInt8)}
    (accepted : headers.mapM encodeHeader = .ok encoded) :
    (∀ header ∈ headers, header.1.length ≤ 65535 ∧ header.2.length ≤ 65535) ∧
        encoded = headers.map wireHeader := by
  induction headers generalizing encoded with
  | nil =>
    cases accepted
    exact ⟨forall_mem_nil _, rfl⟩
  | cons header headers ih =>
    rw [mapM_cons] at accepted
    cases first : encodeHeader header with
    | error failure =>
      rw [first] at accepted
      cases accepted
    | ok bytes =>
      cases others : headers.mapM encodeHeader with
      | error failure =>
        rw [first, others] at accepted
        cases accepted
      | ok rest =>
        rw [first, others] at accepted
        cases accepted
        obtain ⟨fits, rfl⟩ := encodeHeader_eq_ok.mp first
        obtain ⟨othersFit, rfl⟩ := ih others
        exact ⟨forall_mem_cons.mpr ⟨fits, othersFit⟩, rfl⟩

structure HttpResponse.Accepted (response : HttpResponse) : Prop where
  status : 100 ≤ response.status ∧ response.status ≤ 999
  headerCount : response.headers.size ≤ 65535
  headers : ∀ header ∈ response.headers.entries, header.1.length ≤ 65535 ∧ header.2.length ≤ 65535

variable {response : HttpResponse}

theorem accepted_of_encode (accepted : encodeHttpResponse response = .ok encoded) :
    response.Accepted ∧ encoded = wireResponse response := by
  rw [encodeHttpResponse] at accepted
  split at accepted
  · cases accepted
  next limits =>
  cases headers : response.headers.entries.mapM encodeHeader with
  | error failure =>
    rw [headers] at accepted
    cases accepted
  | ok wire =>
    rw [headers] at accepted
    cases accepted
    obtain ⟨fits, rfl⟩ := mapM_encodeHeader_eq_ok headers
    refine ⟨⟨by omega, by omega, fits⟩, ?_⟩
    simp only [wireResponse, append_assoc, flatMap_def]

open Reader

theorem reads_u16 (fits : value ≤ 65535) : Reads u16 (bigEndian 2 value) value := by
  have reads := reads_number CodecError.truncated 2 value
  rwa [Nat.mod_eq_of_lt (by omega)] at reads

theorem reads_u32 (fits : value < 2 ^ 32) : Reads u32 (bigEndian 4 value) value := by
  have reads := reads_number CodecError.truncated 4 value
  rwa [Nat.mod_eq_of_lt (by omega)] at reads

theorem reads_decodeString {value : List UInt8} (fits : value.length < 2 ^ 32) :
    Reads decodeString (encodeString value) value := (reads_u32 fits).bind (reads_take _ value)

theorem reads_decodeStrings {values : List (List UInt8)}
    (fit : ∀ value ∈ values, value.length < 2 ^ 32) :
    Reads (decodeString.many values.length) (values.flatMap encodeString) values :=
  reads_many fun value member => reads_decodeString (fit value member)

theorem reads_decodeHeader (fits : header.1.length ≤ 65535 ∧ header.2.length ≤ 65535)
    (values : ∀ value ∈ header.2, value.length < 2 ^ 32) :
    Reads decodeHeader (wireHeader header) header := by
  refine Reads.bind (reads_u16 fits.1) ?_
  refine Reads.bind (reads_take _ header.1) ?_
  refine Reads.bind (reads_u16 fits.2) ?_
  exact Reads.map (reads_decodeStrings values) _

section

variable (accepted : response.Accepted)
include accepted

variable (fits : response.LengthsFit)
include fits

theorem reads_decodeResponse : Reads decodeResponse (wireResponse response)
      { response with chunks := some response.chunkList } := by
  obtain ⟨least, most⟩ := accepted.status
  have headers := reads_many fun header member =>
    reads_decodeHeader (accepted.headers header member) (fits.values header member)
  have reads : Reads decodeResponse (wireResponse response)
      { status := response.status.toNat
        headers := response.headers.entries.foldl
          (fun built header => built.assign header.1 header.2) ∅
        body := response.body
        chunks := some response.chunkList } := by
    refine Reads.bind (reads_u16 (by omega)) ?_
    refine Reads.bind (reads_u16 accepted.headerCount) ?_
    refine Reads.bind headers ?_
    refine Reads.bind (reads_decodeString fits.body) ?_
    refine Reads.bind (reads_u32 fits.chunkCount) ?_
    exact Reads.map (reads_decodeStrings fits.chunks) _
  rwa [Table.foldl_assign, Int.toNat_of_nonneg (by omega)] at reads

theorem decodeHttpResponse_wire : decodeHttpResponse (wireResponse response) =
      .ok { response with chunks := some response.chunkList } := by
  have reads := reads_decodeResponse accepted fits []
  rw [append_nil] at reads
  rw [decodeHttpResponse, reads]
  rfl

theorem mergeCapturedOutput_wire (output : List UInt8) :
    mergeCapturedOutput (wireResponse response) output =
      if output = [] ∨ response.body ≠ [] ∨ response.chunkList ≠ [] then .ok (wireResponse response)
      else
        encodeHttpResponse { response with
          body := output
          headers := withContentType response.headers
          chunks := some response.chunkList } := by
  rw [mergeCapturedOutput, decodeHttpResponse_wire accepted fits]
  by_cases empty : output = []
  · simp only [empty]
    rfl
  simp only [empty, false_or]
  change (if response.body ≠ [] ∨ response.chunkList ≠ [] then _ else _) = _
  split <;> rfl

end

open BinaryResponseCursor

theorem reads_cursor_u16 (fits : value ≤ 65535) :
    Reads BinaryResponseCursor.u16 (bigEndian 2 value) value := by
  have reads := reads_number ParseError.truncated 2 value
  rwa [Nat.mod_eq_of_lt (by omega)] at reads

theorem reads_cursor_u32 (fits : value < 2 ^ 32) :
    Reads BinaryResponseCursor.u32 (bigEndian 4 value) value := by
  have reads := reads_number ParseError.truncated 4 value
  rwa [Nat.mod_eq_of_lt (by omega)] at reads

theorem settles_utf8 : Settles (utf8 bytes.length) bytes (guard validUtf8 bytes) := by
  have text : Settles (pure bytes : Cursor (List UInt8)) [] (some bytes) := Reads.pure bytes
  have checked : Settles (utf8 bytes.length) (bytes ++ [])
      (if validUtf8 bytes = false then none else some bytes) :=
    Reads.settles (reads_take _ bytes) (text.guard (validUtf8 bytes = false) (.notUtf8 bytes))
  rw [append_nil] at checked
  rw [Option.guard]
  cases valid : validUtf8 bytes <;> rw [valid] at checked <;> exact checked

theorem settles_headerValue {value : List UInt8} (fits : value.length < 2 ^ 32) :
    Settles headerValue (encodeString value) (guard validUtf8 value) :=
  Reads.settles (reads_cursor_u32 fits) settles_utf8

theorem settles_header {header : Header} (fits : header.1.length ≤ 65535 ∧ header.2.length ≤ 65535)
    (values : ∀ value ∈ header.2, value.length < 2 ^ 32) :
    Settles BinaryResponseCursor.header (wireHeader header) (guard nativeHeader header) := by
  have valuesSettle := (settles_many fun value member =>
    settles_headerValue (values value member)).map (fun values => (⟨header.1, values⟩ : Header))
  have settles : Settles BinaryResponseCursor.header (wireHeader header) (if validUtf8 header.1 then
        if header.2.length > maxNativeHeaderValues then none
        else (guard (List.all · validUtf8) header.2).map
          (fun values => (⟨header.1, values⟩ : Header))
      else none) := by
    refine Reads.settles (reads_cursor_u16 fits.1) ?_
    refine Settles.bind settles_utf8 ?_
    refine Reads.settles (reads_cursor_u16 fits.2) ?_
    exact Settles.guard valuesSettle _ _
  have same : guard nativeHeader header = if validUtf8 header.1 then
        if header.2.length > maxNativeHeaderValues then none
        else (guard (List.all · validUtf8) header.2).map
          (fun values => (⟨header.1, values⟩ : Header))
      else none := by
    simp only [Option.guard, nativeHeader]
    grind
  rw [same]
  exact settles

theorem reads_chunk {bytes : List UInt8} (fits : bytes.length < 2 ^ 32) :
    Reads chunk (encodeString bytes) bytes :=
  Reads.bind (reads_cursor_u32 fits) (reads_take _ bytes)

def parsedResponse (response : HttpResponse) : PhpHttpResponse where
  status := response.status.toNat
  headers := response.headers.entries.foldl (fun built header => built.insert header.1 header.2) ∅
  body := response.body
  chunks := response.chunkList

section

variable (accepted : response.Accepted)
include accepted

theorem settles_parseResponse (fits : response.LengthsFit) :
    Settles parseResponse (wireResponse response)
      (if response.withinNativeLimits then some (parsedResponse response)
        else none) := by
  obtain ⟨least, most⟩ := accepted.status
  have headers := settles_many fun header member =>
    settles_header (accepted.headers header member) (fits.values header member)
  have chunks := reads_many fun bytes member => reads_chunk (fits.chunks bytes member)
  have settles : Settles parseResponse (wireResponse response)
      (if response.headers.size > maxNativeHeaderNames then none
        else if response.headers.entries.all nativeHeader then
          if response.chunkList.length > maxNativeResponseChunks then none
          else some (parsedResponse response)
        else none) := by
    refine Reads.settles (reads_cursor_u16 (by omega)) ?_
    refine Reads.settles (reads_cursor_u16 accepted.headerCount) ?_
    refine Settles.guard ?_ _ _
    refine Settles.bind headers ?_
    refine Reads.settles (reads_chunk fits.body) ?_
    refine Reads.settles (reads_cursor_u32 fits.chunkCount) ?_
    refine Settles.guard ?_ _ _
    exact Reads.map chunks _
  have same : (if response.withinNativeLimits then some (parsedResponse response) else none) =
      if response.headers.size > maxNativeHeaderNames then none
        else if response.headers.entries.all nativeHeader then
          if response.chunkList.length > maxNativeResponseChunks then none
          else some (parsedResponse response)
        else none := by
    simp only [HttpResponse.withinNativeLimits]
    grind
  rw [same]
  exact settles

theorem parsedResponse_agrees : (parsedResponse response).Agrees response where
  status := by
    have := accepted.status
    simp only [parsedResponse]
    omega
  headers := Table.lookup_foldl_insert
  body := rfl
  chunks := rfl

theorem parseBinaryHttpResponse_wire (fits : response.LengthsFit) :
    (response.withinNativeLimits = true ∧
      parseBinaryHttpResponse (wireResponse response) = .ok (parsedResponse response)) ∨
    response.withinNativeLimits = false ∧
      ∃ error, parseBinaryHttpResponse (wireResponse response) = .error error := by
  have settles := settles_parseResponse accepted fits
  rw [parseBinaryHttpResponse, ← append_nil (wireResponse response)]
  cases within : response.withinNativeLimits with
  | false =>
    rw [within] at settles
    obtain ⟨error, failed⟩ := settles []
    rw [failed]
    exact .inr ⟨rfl, error, rfl⟩
  | true =>
    rw [within] at settles
    have parsed : parseResponse (wireResponse response ++ []) =
        .ok (parsedResponse response, []) := settles []
    rw [parsed]
    exact .inl ⟨rfl, rfl⟩

end

theorem parseDispatchEnvelope_magic
    (fromSlice : List UInt8 → Except String (PhpDispatchEnvelope Operation)) :
    parseDispatchEnvelope fromSlice (nativeMagic ++ encoded) =
      (parseBinaryHttpResponse encoded).map fun response =>
        { state := .complete, response := some response, operation := none } := by
  rfl

/-- The server reads back what PHP encoded exactly within the limits of the
parser; PHP reads it back, so that captured output can be merged. -/
theorem encoded_response_agrees {Operation : Type}
    (fromSlice : List UInt8 → Except String (PhpDispatchEnvelope Operation))
    (response : HttpResponse) (encoded : List UInt8)
    (accepted : encodeHttpResponse response = .ok encoded) (fits : response.LengthsFit) :
    (if response.withinNativeLimits then
      ∃ parsed, parsed.Agrees response ∧ parseDispatchEnvelope fromSlice (nativeMagic ++ encoded) =
          .ok ⟨.complete, some parsed, none⟩
    else ∃ error, parseDispatchEnvelope fromSlice (nativeMagic ++ encoded) = .error error) ∧
    decodeHttpResponse encoded = .ok { response with chunks := some response.chunkList } ∧
    ∀ output, mergeCapturedOutput encoded output =
      if output = [] ∨ response.body ≠ [] ∨ response.chunkList ≠ [] then .ok encoded
      else
        encodeHttpResponse { response with
          body := output
          headers := withContentType response.headers
          chunks := some response.chunkList } := by
  obtain ⟨within, rfl⟩ := accepted_of_encode accepted
  refine ⟨?_, decodeHttpResponse_wire within fits, mergeCapturedOutput_wire within fits⟩
  rw [parseDispatchEnvelope_magic]
  rcases parseBinaryHttpResponse_wire within fits with ⟨inside, parsed⟩ | ⟨outside, error, failed⟩
  · rw [if_pos inside, parsed]
    exact ⟨parsedResponse response, parsedResponse_agrees within, rfl⟩
  · rw [if_neg (by rw [outside]; exact Bool.false_ne_true), failed]
    exact ⟨error, rfl⟩

def smallResponse (value : UInt8) : HttpResponse where
  status := 200
  headers := (∅ : Headers).insert [0x78] [[value]]
  body := []
  chunks := none

def smallEncoding (value : UInt8) : List UInt8 :=
  [0, 200, 0, 1, 0, 1, 0x78, 0, 1, 0, 0, 0, 1, value, 0, 0, 0, 0, 0, 0, 0, 0]

def noEnvelope (_ : List UInt8) : Except String (PhpDispatchEnvelope Unit) :=
  .error "expected value at line 1 column 1"

/-- A header value in Latin-1 is encoded and then refused. -/
theorem latin_value_refused : encodeHttpResponse (smallResponse 0xE9) = .ok (smallEncoding 0xE9) ∧
      parseDispatchEnvelope noEnvelope (nativeMagic ++ smallEncoding 0xE9) =
        .error (.notUtf8 [0xE9]) := by
  decide +kernel

theorem ascii_value_agrees : encodeHttpResponse (smallResponse 0x65) = .ok (smallEncoding 0x65) ∧
      ∃ parsed, parsed.Agrees (smallResponse 0x65) ∧
        parseDispatchEnvelope noEnvelope (nativeMagic ++ smallEncoding 0x65) =
          .ok ⟨.complete, some parsed, none⟩ := by
  have accepted : encodeHttpResponse (smallResponse 0x65) = .ok (smallEncoding 0x65) := by
    decide +kernel
  have fits : (smallResponse 0x65).LengthsFit := ⟨by decide, by decide, by decide, by decide⟩
  have agrees := (encoded_response_agrees noEnvelope _ _ accepted fits).1
  exact ⟨accepted, agrees⟩

end Pam.Protocol
