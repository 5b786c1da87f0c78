import Pam.Protocol.Operation

namespace Pam.Protocol

open Pam.Foundation List Bool

/-! The head of a streaming response. The first `writeChunk` in the root fiber
suspends the request with the response so far, as JSON. -/

def lowerByte (byte : UInt8) : UInt8 := if 0x41 ≤ byte && byte ≤ 0x5A then byte + 0x20 else byte

def strtolower (text : PhpString) : PhpString := text.map lowerByte

def upperByte (byte : UInt8) : UInt8 := if 0x61 ≤ byte && byte ≤ 0x7A then byte - 0x20 else byte

def strtoupper (text : PhpString) : PhpString := text.map upperByte

def isMethodByte (byte : UInt8) : Bool := (0x41 ≤ byte && byte ≤ 0x5A) ||
    [0x21, 0x23, 0x24, 0x25, 0x26, 0x27, 0x2A, 0x2B, 0x2E, 0x5E, 0x5F, 0x60,
      0x7C, 0x7E, 0x2D].contains byte

def isHeaderByte (byte : UInt8) : Bool := isDigit byte || (0x61 ≤ byte && byte ≤ 0x7A) ||
    (asciiBytes "!#$%&'*+.^_`|~-").contains byte

def isHeaderName (name : PhpString) : Bool := !name.isEmpty && name.all isHeaderByte

def isHeaderValue (value : PhpString) : Bool :=
  !value.any fun byte => byte == 0x0D || byte == 0x0A || byte == 0

structure Response where
  statusCode : Int
  headers : Headers
  body : PhpString
  chunks : List PhpString
  streamStarted : Bool
  statusRange : 100 ≤ statusCode ∧ statusCode ≤ 599
  headersValid : ∀ header ∈ headers.entries, isHeaderName header.1 = true ∧
    ∀ value ∈ header.2, isHeaderValue value = true

namespace Response

def initial : Response where
  statusCode := 200
  headers := ∅
  body := []
  chunks := []
  streamStarted := false
  statusRange := by decide
  headersValid := by simp

def status (response : Response) (statusCode : Int) : Option Response :=
  if range : 100 ≤ statusCode ∧ statusCode ≤ 599 then
    some { response with statusCode := statusCode, statusRange := range }
  else none

def putHeader (response : Response) (name : PhpString)
    (values : List PhpString) (nameValid : isHeaderName name = true)
    (valuesValid : ∀ value ∈ values, isHeaderValue value = true) : Response := { response with
    headers := response.headers.assign name values
    headersValid := by
      intro header member
      rcases Table.mem_entries_assign member with rfl | old
      · exact ⟨nameValid, valuesValid⟩
      · exact response.headersValid header old }

def header (response : Response) (name value : PhpString) : Option Response :=
  if valid : isHeaderName (name.map lowerByte) = true ∧ isHeaderValue value = true then
    some (response.putHeader (name.map lowerByte) [value] valid.1
      (List.forall_mem_singleton.mpr valid.2))
  else none

def headerValues (response : Response) (name : PhpString) : List PhpString :=
  (response.headers.lookup name).getD []

theorem headerValues_valid (response : Response) :
    ∀ value ∈ response.headerValues name, isHeaderValue value = true := by
  intro value member
  rw [headerValues] at member
  cases found : response.headers.lookup name with
  | none =>
    rw [found] at member
    cases member
  | some values =>
    rw [found] at member
    have entry := AList.mem_lookup_iff.mp found
    exact (response.headersValid _ entry).2 value member

def addHeader (response : Response) (name value : PhpString) : Option Response :=
  let name := name.map lowerByte
  if valid : isHeaderName name = true ∧ isHeaderValue value = true then
    some (response.putHeader name (response.headerValues name ++ [value])
      valid.1 (List.forall_mem_append.mpr ⟨response.headerValues_valid,
          List.forall_mem_singleton.mpr valid.2⟩))
  else none

def send (response : Response) (body : PhpString) : Response :=
  let sent := { response with body := body }
  if response.statusCode = 204 ∨ response.statusCode = 304 ∨ contentType ∈ response.headers then
    sent
  else
    sent.putHeader contentType [asciiBytes "text/plain; charset=utf-8"]
      (by decide +kernel) (by decide +kernel)

def bufferChunk (response : Response) (chunk : PhpString) : Response :=
  { response with chunks := response.chunks ++ [chunk] }

end Response

def Response.export (response : Response) : HttpResponse where
  status := response.statusCode
  headers := response.headers
  body := response.body
  chunks := some response.chunks

def streamChunkBytes : Nat := 64 * 1024

/-- The chunk of the first call of `emitChunk` that `writeChunk` makes. -/
def firstPiece (chunk : PhpString) : PhpString := chunk.take streamChunkBytes

def phpStrings (values : List PhpString) : PhpValue := .list (values.map .string)

def HttpResponse.toPhp (response : HttpResponse) : PhpValue :=
  .array [(asciiBytes "status", .integer response.status),
    (asciiBytes "headers", .array (response.headers.entries.map fun header =>
      (header.1, phpStrings header.2))), (asciiBytes "body", .string response.body),
    (asciiBytes "chunks", phpStrings response.chunkList)]

/-- `emitChunk` in the root fiber; the first chunk takes the response along. -/
def Response.emitChunk (response : Response) (chunk : PhpString)
    (delayMicros : Nat) (delayFits : delayMicros < 2 ^ 63) : Suspension where
  kind := .responseChunk
  delayMicros := delayMicros
  delayFits := delayFits
  payload := (asciiBytes "chunk", .string (encodeBase64 chunk)) :: if response.streamStarted then []
    else [(asciiBytes "response", response.export.toPhp)]

structure Response.HeadIsJson (response : Response) : Prop where
  headers : isListKeys (response.headers.entries.map Sigma.fst) = false
  values : ∀ header ∈ response.headers.entries, ∀ value ∈ header.2, validUtf8 value = true
  body : validUtf8 response.body = true
  chunks : ∀ chunk ∈ response.chunks, validUtf8 chunk = true

theorem isHeaderByte_ascii (valid : isHeaderByte byte = true) : byte ≤ 0x7F := by
  have punctuation : ∀ byte ∈ asciiBytes "!#$%&'*+.^_`|~-", byte ≤ 0x7F := by decide +kernel
  simp only [isHeaderByte, isDigit, or_eq_true, and_eq_true,
    decide_eq_true_eq, contains_iff_mem] at valid
  rcases valid with (digit | letter) | other
  · exact UInt8.le_trans digit.2 (by decide)
  · exact UInt8.le_trans letter.2 (by decide)
  · exact punctuation byte other

theorem lowerByte_of_isHeaderByte
    (accepted : isHeaderByte byte = true) : lowerByte byte = byte := by
  have punctuation : ∀ byte ∈ asciiBytes "!#$%&'*+.^_`|~-", lowerByte byte = byte := by
    decide +kernel
  have outside : byte ≤ 0x39 ∨ 0x61 ≤ byte → lowerByte byte = byte := by
    intro other
    rw [lowerByte, if_neg]
    rw [and_eq_true, decide_eq_true_eq, decide_eq_true_eq]
    simp only [UInt8.le_iff_toNat_le, UInt8.toNat_ofNat] at other ⊢
    omega
  simp only [isHeaderByte, isDigit, or_eq_true, and_eq_true,
    decide_eq_true_eq, contains_iff_mem] at accepted
  rcases accepted with (digit | letter) | other
  · exact outside (.inl digit.2)
  · exact outside (.inr letter.1)
  · exact punctuation byte other

theorem Response.validUtf8_name {response : Response} {header : Header}
    (member : header ∈ response.headers.entries) : validUtf8 header.1 = true := by
  have name := (response.headersValid header member).1
  rw [isHeaderName, and_eq_true] at name
  apply validUtf8_of_ascii
  intro byte part
  exact isHeaderByte_ascii (all_eq_true.mp name.2 byte part)

def jsonStrings (values : List PhpString) : Json := .array (values.map .string)

variable (values : List PhpString)

theorem jsonEncode_phpStrings : jsonEncode (phpStrings values) =
      if values.all validUtf8 then some (jsonStrings values) else none := by
  have encoded : (values.map PhpValue.string).mapM jsonEncode =
      if values.all validUtf8 then some (values.map Json.string) else none := by
    induction values with
    | nil => rfl
    | cons value values induction =>
      rw [map_cons, mapM_cons, induction, jsonEncode, all_cons]
      cases validUtf8 value with
      | false => rfl
      | true =>
        cases values.all validUtf8 with
        | false | true => rfl
  rw [phpStrings, jsonEncode_list, encoded]
  cases values.all validUtf8 with
  | false | true => rfl

def headerFields (headers : List Header) : List (PhpString × Json) :=
  headers.map fun header => (header.1, jsonStrings header.2)

theorem jsonEncodeEntries_headers {headers : List Header}
    (names : ∀ header ∈ headers, validUtf8 header.1 = true) :
    jsonEncodeEntries (headers.map fun header => (header.1, phpStrings header.2)) =
      if headers.all (fun header => header.2.all validUtf8) then some (headerFields headers)
      else
        none := by
  induction headers with
  | nil => rfl
  | cons header headers induction =>
    obtain ⟨name, others⟩ := forall_mem_cons.mp names
    rw [map_cons, jsonEncodeEntries, if_pos name, induction others, jsonEncode_phpStrings, all_cons]
    cases header.2.all validUtf8 with
    | false => rfl
    | true =>
      cases headers.all (fun header => header.2.all validUtf8) with
      | false | true => rfl

def headersJson (headers : Headers) : Json := if isListKeys (headers.entries.map Sigma.fst) then
    .array ((headerFields headers.entries).map Prod.snd)
  else .object (headerFields headers.entries)

def headFields (response : HttpResponse) : List (PhpString × Json) :=
  [(asciiBytes "status", .integer response.status),
    (asciiBytes "headers", headersJson response.headers),
    (asciiBytes "body", .string response.body),
    (asciiBytes "chunks", jsonStrings response.chunkList)]

def HttpResponse.isText (response : HttpResponse) : Bool :=
  response.headers.entries.all (fun header => header.2.all validUtf8) &&
    validUtf8 response.body && response.chunkList.all validUtf8

theorem jsonEncode_toPhp {response : HttpResponse}
    (names : ∀ header ∈ response.headers.entries, validUtf8 header.1 = true) :
    jsonEncode response.toPhp = if response.isText then some (.object (headFields response))
      else none := by
  have named (keys : List PhpString) : isListKeys (asciiBytes "status" :: keys) = false :=
    isListKeys_cons_of_ne (by decide)
  have statusKey : validUtf8 (asciiBytes "status") = true := by decide +kernel
  have headersKey : validUtf8 (asciiBytes "headers") = true := by decide +kernel
  have bodyKey : validUtf8 (asciiBytes "body") = true := by decide +kernel
  have chunksKey : validUtf8 (asciiBytes "chunks") = true := by decide +kernel
  have keys : (response.headers.entries.map fun header =>
      (header.1, phpStrings header.2)).map Prod.fst = response.headers.entries.map Sigma.fst := by
    rw [map_map]
    rfl
  simp only [HttpResponse.toPhp, jsonEncode, jsonEncodeEntries, statusKey, headersKey, bodyKey,
    chunksKey, map_cons, named, jsonEncodeEntries_headers names, jsonEncode_phpStrings, keys,
    HttpResponse.isText]
  rcases eq_false_or_eq_true (response.headers.entries.all
    fun header => header.2.all validUtf8) with values | values
  · rcases eq_false_or_eq_true (validUtf8 response.body) with body | body
    · rcases eq_false_or_eq_true (response.chunkList.all validUtf8) with chunks | chunks
      · simp [values, body, chunks, headFields, headersJson]
      · simp [chunks]
    · simp [body]
  · simp [values]

theorem items_jsonStrings : (jsonStrings values).items? Json.text? = some values := by
  induction values with
  | nil => rfl
  | cons value values induction =>
    rw [jsonStrings, Json.items?] at induction
    rw [jsonStrings, Json.items?, map_cons, mapM_cons, induction]
    rfl

theorem mapM_readHeader : (headerFields headers).mapM readHeader = some headers := by
  induction headers with
  | nil => rfl
  | cons header headers induction =>
    rw [headerFields, map_cons, mapM_cons]
    rw [headerFields] at induction
    rw [induction, readHeader, items_jsonStrings]
    rfl

theorem readHeaders_headersJson : readHeaders (headersJson headers) =
      if isListKeys (headers.entries.map Sigma.fst) then none
      else some (headers.entries.foldl (fun built header => built.insert header.1 header.2) ∅) := by
  rw [headersJson]
  split
  · rfl
  · simp [readHeaders, Json.fields?, mapM_readHeader]

theorem ofJson_headFields (range : 100 ≤ response.status ∧ response.status ≤ 599) :
    JsonPhpHttpResponse.ofJson (.object (headFields response)) =
      (readHeaders (headersJson response.headers)).map fun headers =>
        { status := response.status.toNat, headers := headers
          body := response.body, chunks := response.chunkList } := by
  have status : Json.field? (headFields response) (asciiBytes "status") =
      some (.integer response.status) := rfl
  have headers : Json.field? (headFields response) (asciiBytes "headers") =
      some (headersJson response.headers) := rfl
  have chunks : Json.field? (headFields response) (asciiBytes "chunks") =
      some (jsonStrings response.chunkList) := rfl
  have small : readU16 (.integer response.status) = some response.status.toNat := by
    have fits : 0 ≤ response.status ∧ response.status ≤ 2 ^ 16 - 1 := by omega
    simpa [readU16, Json.natural?, Json.integer?] using fits
  simp only [JsonPhpHttpResponse.ofJson, Json.fields?, Option.bind_eq_bind, Option.bind_some,
    status, headers, chunks, Json.required, Json.orDefault, small, items_jsonStrings]
  cases readHeaders (headersJson response.headers) with
  | none | some headers => rfl

def chunkOperation (suspension : Suspension) (chunk : PhpString)
    (head : JsonPhpHttpResponse) : PhpOperation where
  kind := suspension.kind
  delayMicros := suspension.delayMicros
  readFileDescriptors := []
  writeFileDescriptors := []
  host := none
  path := none
  data := none
  atomic := false
  arguments := []
  stdin := none
  maxOutputBytes := defaultNativeOutputLimit
  signal := none
  response := some head
  chunk := some (encodeBase64 chunk)

theorem ofJson_chunkOperation : PhpOperation.ofJson (.object (suspendedFields suspension
        [(asciiBytes "chunk", .string (encodeBase64 chunk)),
          (asciiBytes "response", .object fields)])) =
      (JsonPhpHttpResponse.ofJson (.object fields)).map (chunkOperation suspension chunk) := by
  have read : PhpOperation.ofPayload suspension.kind suspension.delayMicros
      [(asciiBytes "chunk", .string (encodeBase64 chunk)),
        (asciiBytes "response", .object fields)] =
      ((JsonPhpHttpResponse.ofJson (.object fields)).map some).bind fun response =>
          some { kind := suspension.kind
                 delayMicros := suspension.delayMicros
                 readFileDescriptors := [], writeFileDescriptors := []
                 host := none, path := none, data := none, atomic := false
                 arguments := [], stdin := none
                 maxOutputBytes := defaultNativeOutputLimit, signal := none
                 response := response
                 chunk := some (encodeBase64 chunk) } := rfl
  rw [ofJson_suspendedFields, read]
  cases JsonPhpHttpResponse.ofJson (.object fields) with
  | none | some head => rfl

/-! The head of a stream is read back exactly where it is JSON text with an
object of headers. -/

variable (response : Response)

theorem Response.headIsJson_iff : response.HeadIsJson ↔ response.export.isText = true ∧
      isListKeys (response.headers.entries.map Sigma.fst) = false := by
  simp only [HttpResponse.isText, and_eq_true, all_eq_true]
  constructor
  · intro head
    exact ⟨⟨⟨head.values, head.body⟩, head.chunks⟩, head.headers⟩
  · intro ⟨⟨⟨values, body⟩, chunks⟩, headers⟩
    exact ⟨headers, values, body, chunks⟩

def Response.chunkFields (response : Response) (chunk : PhpString) : List (PhpString × Json) :=
  [(asciiBytes "chunk", .string (encodeBase64 chunk)),
    (asciiBytes "response", .object (headFields response.export))]

theorem Response.encode_emitChunk (chunk : PhpString)
    (delayFits : delayMicros < 2 ^ 63) (fresh : response.streamStarted = false) :
    jsonEncode (suspendedEnvelope (response.emitChunk chunk delayMicros delayFits)) =
      if response.export.isText then
        some (suspendedJson (response.emitChunk chunk delayMicros delayFits)
          (response.chunkFields chunk))
      else none := by
  have chunkKey : validUtf8 (asciiBytes "chunk") = true := by decide +kernel
  have responseKey : validUtf8 (asciiBytes "response") = true := by decide +kernel
  have names : ∀ header ∈ response.export.headers.entries,
      validUtf8 header.1 = true := fun header => response.validUtf8_name
  rw [jsonEncode_suspendedEnvelope]
  simp only [Response.emitChunk, fresh, false_eq_true, if_false,
    jsonEncodeEntries, chunkKey, responseKey, if_true, jsonEncode,
    validUtf8_encodeBase64, Option.bind_some, jsonEncode_toPhp names]
  split <;> rfl

def Response.readHead (response : Response) : JsonPhpHttpResponse where
  status := response.statusCode.toNat
  headers := response.headers.entries.foldl (fun built header => built.insert header.1 header.2) ∅
  body := response.body
  chunks := response.chunks

theorem Response.readHead_agrees : response.readHead.intoPhp.Agrees response.export where
  status := Int.toNat_of_nonneg (by
    have range := response.statusRange
    change 0 ≤ response.statusCode
    omega)
  headers := Table.lookup_foldl_insert
  body := rfl
  chunks := rfl

theorem Response.ofJson_head : JsonPhpHttpResponse.ofJson (.object (headFields response.export)) =
      if isListKeys (response.headers.entries.map Sigma.fst) then none
      else some response.readHead := by
  rw [ofJson_headFields response.statusRange]
  change (readHeaders (headersJson response.headers)).map _ = _
  rw [readHeaders_headersJson]
  split <;> rfl

/-! No part of the envelope is a double, so the server reads it back as it is. -/

theorem reread_jsonStrings (float : UInt64 → Json) :
    (jsonStrings values).reread float = jsonStrings values := by
  rw [jsonStrings, Json.reread, Json.rereadItems_eq, map_map]
  rfl

theorem depth_jsonStrings : (jsonStrings values).depth ≤ 1 := by
  have flat : Json.itemsDepth (values.map Json.string) ≤ 0 := by
    rw [Json.itemsDepth_le_iff, forall_mem_map]
    intro value member
    exact Nat.le_refl 0
  exact Nat.succ_le_succ flat

theorem rereadFields_headerFields (float : UInt64 → Json) (headers : List Header) :
    Json.rereadFields float (headerFields headers) = headerFields headers := by
  induction headers with
  | nil => rfl
  | cons header headers induction =>
    rw [headerFields] at induction
    rw [headerFields, map_cons, Json.rereadFields, reread_jsonStrings, induction]

theorem itemsDepth_headerFields (headers : List Header) :
    Json.itemsDepth ((headerFields headers).map Prod.snd) ≤ 1 := by
  rw [Json.itemsDepth_le_iff, headerFields, map_map, forall_mem_map]
  intro header member
  exact depth_jsonStrings header.2

theorem reread_headersJson (float : UInt64 → Json) (headers : Headers) :
    (headersJson headers).reread float = headersJson headers := by
  rw [headersJson]
  split
  · simp only [Json.reread, Json.rereadItems_eq, headerFields, map_map, Function.comp_def,
      reread_jsonStrings]
  · rw [Json.reread, rereadFields_headerFields]

theorem depth_headersJson (headers : Headers) : (headersJson headers).depth ≤ 2 := by
  have flat := itemsDepth_headerFields headers.entries
  rw [headersJson]
  split
  · rw [Json.depth]
    omega
  · rw [Json.depth, ← Json.itemsDepth_snd]
    omega

theorem Response.parse_chunkFields (format : JsonFormat serdeDepth)
    (suspension : Suspension) (chunk : PhpString) :
    format.parse (format.text (suspendedJson suspension (response.chunkFields chunk))) =
      some (suspendedJson suspension (response.chunkFields chunk)) := by
  have headers := depth_headersJson response.export.headers
  have chunks := depth_jsonStrings response.export.chunkList
  rw [format.parse_text, if_pos]
  · simp only [suspendedJson, suspendedFields, Response.chunkFields, headFields, Json.reread,
      Json.rereadFields, reread_headersJson, reread_jsonStrings]
  · simp only [suspendedJson, suspendedFields, Response.chunkFields, headFields, Json.depth,
      Json.fieldsDepth, serdeDepth]
    omega

theorem text_not_native (format : JsonFormat serdeDepth) (json : Json) :
    nativeMagic.isPrefixOf (format.text json) = false := by
  obtain ⟨byte, rest, same, opening⟩ := format.opening json
  have other : (0x89 == byte) = false := by
    rw [beq_eq_false_iff_ne]
    rintro rfl
    revert opening
    decide
  rw [same, nativeMagic, isPrefixOf, other, Bool.false_and]

theorem Response.read_chunkFields (format : JsonFormat serdeDepth)
    (suspension : Suspension) (chunk : PhpString) :
    parseDispatchEnvelope (fromSlice format.parse)
        (format.text (suspendedJson suspension (response.chunkFields chunk))) =
      if isListKeys (response.headers.entries.map Sigma.fst) then
        .error (.invalidEnvelope "not a PHP dispatch envelope")
      else .ok { state := .suspended, response := none
                 operation := some (chunkOperation suspension chunk response.readHead) } := by
  rw [parseDispatchEnvelope, text_not_native, fromSlice, response.parse_chunkFields,
    Option.bind_some, ofJson_suspendedJson, Response.chunkFields, ofJson_chunkOperation,
    response.ofJson_head]
  cases isListKeys (response.headers.entries.map Sigma.fst) with
  | false | true => rfl

end Pam.Protocol
