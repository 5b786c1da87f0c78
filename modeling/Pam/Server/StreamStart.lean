import Pam.Protocol.StreamHead
import Pam.Server.ResponseLimits

namespace Pam.Server

open Pam.Foundation Pam.Protocol List Bool

/-! The start of a streaming response: what the server makes of the first chunk
that PHP suspends with. -/

/-- `declared_content_length`. -/
def declaredContentLength (headers : Headers) : Option Nat := do
  let values ← headers.lookup (asciiBytes "content-length")
  let value ← values.head?
  let text ← fromUtf8 value
  parseUnsigned (2 ^ 64) text

def PhpResponse.ofHead (headers : Headers) (body : List UInt8)
    (chunks : List (List UInt8)) : PhpResponse UInt8 where
  contentLength := declaredContentLength headers
  body := body
  chunks := chunks

def PhpResponse.received (response : Protocol.PhpHttpResponse) : PhpResponse UInt8 :=
  .ofHead response.headers response.body response.chunks

def PhpOperation.received (operation : Protocol.PhpOperation) : PhpOperation UInt8 :=
  match operation.kind with
  | .timer => .timer operation.delayMicros
  | .responseChunk =>
    .responseChunk (operation.response.map fun head => PhpResponse.received head.intoPhp)
      (operation.chunk.bind decodeBase64)
  | _ => .native

def PhpDispatchEnvelope.received
    (envelope : Protocol.PhpDispatchEnvelope Protocol.PhpOperation) : PhpDispatchEnvelope UInt8 :=
  match envelope.state with
  | .complete => .complete (envelope.response.map PhpResponse.received)
  | .suspended => .suspended (envelope.operation.map PhpOperation.received)

/-- `HeaderName::try_from`, which takes capitals too. -/
def isHttpName (name : List UInt8) : Bool :=
  !name.isEmpty && name.length ≤ 65535 && name.all fun byte => isHeaderByte (lowerByte byte)

/-- `HeaderValue::try_from`. -/
def isHttpValue (value : List UInt8) : Bool :=
  value.all fun byte => byte == 0x09 || (0x20 ≤ byte && byte != 0x7F)

def isHttpHead (head : Protocol.PhpHttpResponse) : Bool :=
  100 ≤ head.status && head.status ≤ 999 &&
    head.headers.entries.all fun header => isHttpName header.1 && header.2.all isHttpValue

/-- The turn that meets the operation; `wellFormed` so far says that the header
map of the response has room for the headers. -/
def InvokeTurn.meeting (turn : InvokeTurn UInt8) (operation : Protocol.PhpOperation) :
    InvokeTurn UInt8 :=
  { turn with wellFormed := turn.wellFormed && operation.response.all (isHttpHead ·.intoPhp) }

/-- The envelope that PHP returns is text, the server accepts it and reads the
response and the chunk back, and the body of the response begins with them. -/
def StreamStarts (format : JsonFormat serdeDepth) (config : StreamConfig)
    (turn : InvokeTurn UInt8) (response : Response) (suspension : Suspension)
    (chunk : PhpString) : Prop :=
  ∃ json envelope operation head, jsonEncode (suspendedEnvelope suspension) = some json ∧
    parseDispatchEnvelope (fromSlice format.parse) (format.text json) = .ok envelope ∧
    envelope.operation = some operation ∧ operation.response = some head ∧
    head.intoPhp.Agrees response.export ∧
    invokeStep config (.running (.received envelope)) (turn.meeting operation) =
      some (.streaming (.opened ((PhpResponse.received head.intoPhp).pieces ++ [chunk])) none)

/-- What a response needs in order to start a stream with `chunk`. -/
structure Streamable (config : StreamConfig) (turn : InvokeTurn UInt8)
    (response : Response) (chunk : PhpString) : Prop where
  json : response.HeadIsJson
  names : ∀ header ∈ response.headers.entries, header.1.length ≤ 65535
  values : ∀ header ∈ response.headers.entries, ∀ value ∈ header.2, isHttpValue value = true
  room : turn.wellFormed = true
  limits : opensStream config (.ofHead response.headers response.body response.chunks) chunk = true
  time : turn.elapsedMicros < config.timeoutMicros

variable {config : StreamConfig} {turn : InvokeTurn UInt8} {response : Response}
  {suspension : Suspension}

theorem isHttpName_of_isHeaderName (valid : isHeaderName name = true) :
    isHttpName name = true ↔ name.length ≤ 65535 := by
  rw [isHeaderName, and_eq_true, all_eq_true] at valid
  have bytes : name.all (fun byte => isHeaderByte (lowerByte byte)) = true := by
    rw [all_eq_true]
    intro byte member
    rw [lowerByte_of_isHeaderByte (valid.2 byte member)]
    exact valid.2 byte member
  rw [isHttpName, valid.1, bytes, Bool.true_and, Bool.and_true, decide_eq_true_eq]

theorem isHttpHead_readHead : isHttpHead response.readHead.intoPhp = true ↔
      (∀ header ∈ response.headers.entries, header.1.length ≤ 65535) ∧
      ∀ header ∈ response.headers.entries, ∀ value ∈ header.2, isHttpValue value = true := by
  have status : (100 ≤ response.readHead.intoPhp.status ∧
      response.readHead.intoPhp.status ≤ 999) := by
    have range := response.statusRange
    change 100 ≤ response.statusCode.toNat ∧ response.statusCode.toNat ≤ 999
    omega
  have same (header : Header) : header ∈ response.readHead.intoPhp.headers.entries ↔
      header ∈ response.headers.entries := by
    rw [← AList.mem_lookup_iff, ← AList.mem_lookup_iff, response.readHead_agrees.headers]
    rfl
  simp only [isHttpHead, status, decide_true, Bool.true_and, all_eq_true, and_eq_true, same]
  rw [← forall₂_and]
  refine forall₂_congr fun header member => and_congr_left fun _ => ?_
  exact isHttpName_of_isHeaderName (response.headersValid header member).1

/-- A turn of the loop opens the stream exactly within its limits. -/
theorem invokeStep_opens_iff {head : PhpResponse UInt8} :
    invokeStep config (.running (.suspended (some (.responseChunk (some head) (some chunk)))))
        turn =
        some (.streaming (.opened (head.pieces ++ [chunk])) none) ↔
      turn.elapsedMicros < config.timeoutMicros ∧ opensStream config head chunk = true ∧
      turn.wellFormed = true := by
  rw [invokeStep, turnError]
  by_cases late : config.timeoutMicros ≤ turn.elapsedMicros
  · simp [late, Nat.not_lt.mpr late]
  rw [if_neg late, operationError]
  cases opens : opensStream config head chunk with
  | false => simp
  | true =>
    cases formed : turn.wellFormed with
    | false => simp [proceed, formed]
    | true => simpa [proceed, formed] using late

theorem received_readHead : PhpResponse.received response.readHead.intoPhp =
      .ofHead response.headers response.body response.chunks := by
  have headers := response.readHead_agrees.headers (asciiBytes "content-length")
  change response.readHead.intoPhp.headers.lookup _ = response.headers.lookup _ at headers
  rw [PhpResponse.received, PhpResponse.ofHead, declaredContentLength, headers]
  rfl

theorem received_chunkOperation (kind : suspension.kind = .responseChunk) :
    PhpOperation.received (chunkOperation suspension chunk response.readHead) =
      .responseChunk (some (.ofHead response.headers response.body response.chunks))
        (some chunk) := by
  have named : (chunkOperation suspension chunk response.readHead).kind = .responseChunk := kind
  have decoded := decodeBase64_encodeBase64 chunk
  rw [PhpOperation.received, named, ← received_readHead, ← decoded]
  rfl

/-- The server opens the stream of a head that it has read. -/
theorem chunkOperation_opens_iff (kind : suspension.kind = .responseChunk) :
    invokeStep config (.running (.received { state := .suspended, response := none
                                             operation := some (chunkOperation suspension chunk
                                               response.readHead) }))
        (turn.meeting (chunkOperation suspension chunk response.readHead)) =
        some (.streaming (.opened ((PhpResponse.received response.readHead.intoPhp).pieces ++
          [chunk])) none) ↔
      turn.elapsedMicros < config.timeoutMicros ∧
      opensStream config (.ofHead response.headers response.body response.chunks) chunk = true ∧
      turn.wellFormed = true ∧ isHttpHead response.readHead.intoPhp = true := by
  rw [received_readHead, PhpDispatchEnvelope.received, Option.map_some,
    received_chunkOperation kind, invokeStep_opens_iff, InvokeTurn.meeting, and_eq_true]
  rfl

def greeting : Response := Response.initial.send (asciiBytes "hi")

def streamingConfig : StreamConfig where
  maxResponseBytes := 8
  maxResponseChunkBytes := 4
  responseStreamQueueCapacity := 2
  timeoutMicros := 100
  timeoutPositive := by decide

def streamingTurn : InvokeTurn UInt8 where
  elapsedMicros := 10
  sends := []
  reply := none
  wellFormed := true
  waitFails := false

end Pam.Server
