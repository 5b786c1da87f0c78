import Mathlib.Tactic.Tauto
import Pam.Foundation.Codec

namespace Pam.Manager

open Pam.Foundation List

/-! `health_probe`: what a health check makes of a response. -/

/-- `read_to_end` behind `take(limit)`: a read fails or returns bytes, and none
at the end. -/
def readToEnd : Nat → List (Option (List UInt8)) → Option (List UInt8)
  | limit + 1, some (byte :: bytes) :: reads =>
    (readToEnd (limit - bytes.length) reads).map ((byte :: bytes.take limit) ++ ·)
  | _ + 1, none :: _ => none
  | _, _ => some []

def splitWhitespace (line : List Char) : List (List Char) :=
  (line.splitOnP isWhitespace).filter fun field => !field.isEmpty

def stripReturn (line : List Char) : List Char :=
  if line.getLast? = some '\r' then line.dropLast else line

def healthyFields : List (List Char) → Bool
  | version :: fields => (version = "HTTP/1.0".toList || version = "HTTP/1.1".toList) &&
      match fields.head?.bind (parseUnsigned 65536) with
      | some code => 200 ≤ code && code < 300
      | none => false
  | [] => false

/-- The connection may fail, and so may the request. -/
def healthProbe (connected requested : Bool)
    (reads : List (Option (List UInt8))) : Bool :=
  connected && requested && match readToEnd 8193 reads with
    | none => false
    | some bytes => bytes.length ≤ 8192 && match fromUtf8 (bytes.takeWhile (· != 10)) with
        | none => false
        | some line => healthyFields (splitWhitespace (stripReturn line))

structure HealthResponse where
  minor : Fin 2
  hundreds : Fin 10
  tens : Fin 10
  units : Fin 10
  reason : List UInt8
  /-- The headers and the body. -/
  rest : List UInt8
  oneLine : 10 ∉ reason

namespace HealthResponse

def version (response : HealthResponse) : List UInt8 :=
  [72, 84, 84, 80, 47, 49, 46, 48 + response.minor.val.toUInt8]

def digits (response : HealthResponse) : List UInt8 :=
  [response.hundreds, response.tens, response.units].map fun digit => 48 + digit.val.toUInt8

def code (response : HealthResponse) : Nat :=
  response.hundreds.val * 100 + response.tens.val * 10 + response.units.val

def Succeeds (response : HealthResponse) : Prop := 200 ≤ response.code ∧ response.code < 300

def statusLine (response : HealthResponse) : List UInt8 :=
  response.version ++ 32 :: (response.digits ++ 32 :: (response.reason ++ [13]))

def bytes (response : HealthResponse) : List UInt8 := response.statusLine ++ 10 :: response.rest

end HealthResponse

/-- The peer closes the connection after its response or it does not, and then
the next read times out. -/
structure Delivery where
  response : HealthResponse
  chunks : List (List UInt8)
  nonempty : [] ∉ chunks
  complete : chunks.flatten = response.bytes
  closes : Bool

def Delivery.reads (delivery : Delivery) : List (Option (List UInt8)) :=
  delivery.chunks.map some ++ [if delivery.closes then some [] else none]

theorem readToEnd_some {chunks : List (List UInt8)} (nonempty : [] ∉ chunks) (closes : Bool) :
    readToEnd limit (chunks.map some ++ [if closes then some [] else none]) =
      if limit ≤ chunks.flatten.length ∨ closes then some (chunks.flatten.take limit)
      else none := by
  induction chunks generalizing limit with
  | nil => cases limit <;> cases closes <;> simp [readToEnd]
  | cons chunk chunks induction =>
    obtain ⟨first, later⟩ := ne_and_not_mem_of_not_mem_cons nonempty
    cases limit with
    | zero => simp [readToEnd]
    | succ limit =>
      cases chunk with
      | nil => exact absurd rfl first
      | cons byte bytes => simp [readToEnd, induction later, take_append, Nat.add_comm]

def Plain (word : List UInt8) : Prop :=
  ∀ byte ∈ word, byte ≤ 0x7F ∧ isWhitespace (Char.ofUInt8 byte) = false

theorem fromUtf8_word {word : List UInt8} (plain : Plain word) : fromUtf8 (word ++ 32 :: bytes) =
      (fromUtf8 bytes).map (word.map Char.ofUInt8 ++ ' ' :: ·) := by
  induction word with
  | nil => exact fromUtf8_cons (by decide)
  | cons byte word induction =>
    obtain ⟨small, later⟩ := forall_mem_cons.mp plain
    rw [cons_append, fromUtf8_cons small.1, induction later, Option.map_map]
    rfl

theorem splitWhitespace_append {word : List UInt8} (given : word ≠ []) (plain : Plain word) :
    splitWhitespace (word.map Char.ofUInt8 ++ ' ' :: rest) =
      word.map Char.ofUInt8 :: splitWhitespace rest := by
  rw [splitWhitespace, splitOnP_append_cons_of_forall_mem _ ' ' rfl,
    filter_cons_of_pos (by simpa using given), splitWhitespace]
  intro char member
  obtain ⟨byte, isByte, rfl⟩ := mem_map.mp member
  exact (plain byte isByte).2

theorem stripReturn_append (front : List Char) :
    ∃ kept, stripReturn (front ++ ' ' :: rest) = front ++ ' ' :: kept := by
  rw [stripReturn]
  split
  · next ends =>
    cases rest with
    | nil => simp at ends
    | cons char rest => exact ⟨(char :: rest).dropLast, by simp⟩
  exact ⟨rest, rfl⟩

namespace HealthResponse

variable (response : HealthResponse)

theorem plain_version : Plain response.version := by
  rw [version]
  generalize response.minor = minor
  revert minor
  unfold Plain
  decide +kernel

theorem plain_digits : Plain response.digits := by
  intro byte member
  obtain ⟨digit, -, rfl⟩ := mem_map.mp member
  clear member
  revert digit
  decide

theorem version_accepted : (response.version.map Char.ofUInt8 = "HTTP/1.0".toList ||
      response.version.map Char.ofUInt8 = "HTTP/1.1".toList) = true := by
  rw [version]
  generalize response.minor = minor
  revert minor
  decide

theorem parse_digits :
    parseUnsigned 65536 (response.digits.map Char.ofUInt8) = some response.code := by
  have texts : ∀ hundreds tens units : Fin 10, parseUnsigned 65536
      (([hundreds, tens, units].map fun digit =>
        48 + digit.val.toUInt8).map Char.ofUInt8) =
        some (hundreds.val * 100 + tens.val * 10 + units.val) := by
    decide +kernel
  exact texts _ _ _

theorem healthyFields_decode (decoded : fromUtf8 response.statusLine = some line) :
    healthyFields (splitWhitespace (stripReturn line)) = true ↔ response.Succeeds := by
  rw [statusLine, fromUtf8_word response.plain_version,
    fromUtf8_word response.plain_digits] at decoded
  simp only [Option.map_eq_some_iff] at decoded
  obtain ⟨_, ⟨rest, _, rfl⟩, rfl⟩ := decoded
  obtain ⟨kept, stripped⟩ := stripReturn_append (response.version.map Char.ofUInt8 ++
      ' ' :: response.digits.map Char.ofUInt8)
  rw [append_assoc, append_assoc, cons_append, cons_append] at stripped
  rw [stripped, splitWhitespace_append (by simp [version]) response.plain_version,
    splitWhitespace_append (by simp [digits]) response.plain_digits]
  rw [healthyFields, response.version_accepted, head?_cons,
    Option.bind_some, response.parse_digits]
  simp [Succeeds]

theorem takeWhile_bytes : response.bytes.takeWhile (· != 10) = response.statusLine := by
  have ends (word : List UInt8) (plain : Plain word) : 10 ∉ word := by
    intro member
    cases (plain 10 member).2
  rw [bytes, takeWhile_append_of_pos]
  · simp
  intro byte member
  have other : 10 ∉ response.statusLine := by
    simp [statusLine, ends _ response.plain_version, ends _ response.plain_digits, response.oneLine]
  simpa using ne_of_mem_of_not_mem member other

end HealthResponse

theorem healthProbe_iff (delivery : Delivery) :
    healthProbe true true delivery.reads = true ↔
      delivery.response.bytes.length ≤ 8192 ∧ delivery.closes = true ∧
        validUtf8 delivery.response.statusLine = true ∧ delivery.response.Succeeds := by
  rw [healthProbe, Delivery.reads, readToEnd_some delivery.nonempty, delivery.complete]
  by_cases short : delivery.response.bytes.length ≤ 8192
  · cases delivery.closes with
    | false => simp [Nat.not_le.mpr (Nat.lt_succ_of_le short)]
    | true =>
      simp only [or_true, if_true]
      rw [take_of_length_le (by omega), delivery.response.takeWhile_bytes]
      cases decoded : fromUtf8 delivery.response.statusLine with
      | none =>
        have invalid : validUtf8 delivery.response.statusLine = false := by
          simpa [fromUtf8] using decoded
        simp [invalid]
      | some line =>
        have valid : validUtf8 delivery.response.statusLine = true :=
          (Option.ite_none_right_eq_some.mp decoded).1
        simp [delivery.response.healthyFields_decode decoded, valid]
  · have long : 8193 ≤ delivery.response.bytes.length := Nat.lt_of_not_le short
    simp [long, short]

theorem health_verdict_iff (delivery : Delivery) :
    (healthProbe true true delivery.reads = true ↔ delivery.response.Succeeds) ↔
      (delivery.response.Succeeds → delivery.response.bytes.length ≤ 8192 ∧
        delivery.closes = true ∧ validUtf8 delivery.response.statusLine = true) := by
  rw [healthProbe_iff]
  tauto

/-- `200 OK` with a body that no health check reads to its end. -/
def longResponse : HealthResponse where
  minor := 1
  hundreds := 2
  tens := 0
  units := 0
  reason := [79, 75]
  rest := [13, 10] ++ List.replicate 8192 0
  oneLine := by decide

def longDelivery : Delivery where
  response := longResponse
  chunks := [longResponse.bytes]
  nonempty := by simp [HealthResponse.bytes]
  complete := List.flatten_singleton
  closes := true

theorem long_success_unhealthy : longDelivery.response.Succeeds ∧
      healthProbe true true longDelivery.reads = false := by
  refine ⟨⟨by decide, by decide⟩, ?_⟩
  rw [Bool.eq_false_iff, ne_eq, healthProbe_iff]
  simp only [HealthResponse.bytes, longDelivery, longResponse,
    length_append, length_cons, length_replicate]
  omega

end Pam.Manager
