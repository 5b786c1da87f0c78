import Pam.Protocol.PhpValue

namespace Pam.Protocol

open Pam.Foundation

/-! The text of flat JSON objects, as `serde_json` writes it without spaces and
as it reads it. -/

inductive JsonScalar where
  | bool (value : Bool)
  | number (value : Nat)
  | text (bytes : List UInt8)

abbrev JsonMembers := List (List UInt8 × JsonScalar)

def hexDigit (value : Nat) : UInt8 :=
  if value < 10 then UInt8.ofNat (48 + value) else UInt8.ofNat (87 + value)

def escapes : List (UInt8 × UInt8) :=
  [(0x22, 0x22), (0x5C, 0x5C), (0x08, 0x62), (0x0C, 0x66), (0x0A, 0x6E), (0x0D, 0x72), (0x09, 0x74)]

def escapeLetter (byte : UInt8) : Option UInt8 :=
  (escapes.find? fun escape => escape.1 == byte).map Prod.snd

def escapeByte (byte : UInt8) : List UInt8 := match escapeLetter byte with
  | some letter => [0x5C, letter]
  | none =>
    if byte < 0x20 then
      [0x5C, 0x75, 0x30, 0x30, hexDigit (byte.toNat / 16), hexDigit (byte.toNat % 16)]
    else [byte]

def escapedText (bytes : List UInt8) : List UInt8 := bytes.flatMap escapeByte

def writeText (bytes : List UInt8) : List UInt8 := 0x22 :: (escapedText bytes ++ [0x22])

def writeScalar : JsonScalar → List UInt8
  | .bool true => [0x74, 0x72, 0x75, 0x65]
  | .bool false => [0x66, 0x61, 0x6C, 0x73, 0x65]
  | .number value => decimal value
  | .text bytes => writeText bytes

def writeMember (member : List UInt8 × JsonScalar) : List UInt8 :=
  writeText member.1 ++ 0x3A :: writeScalar member.2

def writeMembers : JsonMembers → List UInt8
  | [] => []
  | member :: members =>
    writeMember member ++ members.flatMap fun other => 0x2C :: writeMember other

def writeObject (members : JsonMembers) : List UInt8 := 0x7B :: (writeMembers members ++ [0x7D])

def hexDigitValue (byte : UInt8) : Option Nat :=
  if 0x30 ≤ byte ∧ byte ≤ 0x39 then some (byte.toNat - 48)
  else if 0x61 ≤ byte ∧ byte ≤ 0x66 then some (byte.toNat - 87)
  else if 0x41 ≤ byte ∧ byte ≤ 0x46 then some (byte.toNat - 55)
  else none

def codeUnit (first second third fourth : UInt8) : Option Nat := do
  let first ← hexDigitValue first
  let second ← hexDigitValue second
  let third ← hexDigitValue third
  let fourth ← hexDigitValue fourth
  return ((first * 16 + second) * 16 + third) * 16 + fourth

def encodeUtf8 (code : Nat) : List UInt8 := if code < 0x80 then [UInt8.ofNat code]
  else if code < 0x800 then [UInt8.ofNat (0xC0 + code / 64), UInt8.ofNat (0x80 + code % 64)]
  else if code < 0x10000 then
    [UInt8.ofNat (0xE0 + code / 4096), UInt8.ofNat (0x80 + code / 64 % 64),
      UInt8.ofNat (0x80 + code % 64)]
  else
    [UInt8.ofNat (0xF0 + code / 262144), UInt8.ofNat (0x80 + code / 4096 % 64),
      UInt8.ofNat (0x80 + code / 64 % 64), UInt8.ofNat (0x80 + code % 64)]

def escapeMeaning (letter : UInt8) : Option UInt8 := if letter = 0x2F then some 0x2F
  else (escapes.find? fun escape => escape.2 == letter).map Prod.fst

def after (bytes : List UInt8) :
    Option (List UInt8 × List UInt8) → Option (List UInt8 × List UInt8) :=
  Option.map fun read => (bytes ++ read.1, read.2)

def readText : List UInt8 → Option (List UInt8 × List UInt8)
  | [] => none
  | byte :: rest =>
    if byte = 0x22 then some ([], rest) else if byte = 0x5C then
      match rest with
      | [] => none
      | letter :: rest =>
        match escapeMeaning letter with
        | some plain => after [plain] (readText rest)
        | none =>
          match rest with
          | first :: second :: third :: fourth :: rest =>
            match codeUnit first second third fourth with
            | none => none
            | some unit =>
              if letter ≠ 0x75 then none
              else if unit < 0xD800 ∨ 0xDFFF < unit then after (encodeUtf8 unit) (readText rest)
              else
                -- A leading surrogate and the trailing one.
                match rest with
                | backslash :: u :: fifth :: sixth :: seventh :: eighth :: rest =>
                    match codeUnit fifth sixth seventh eighth with
                    | none => none
                    | some low =>
                      if backslash = 0x5C ∧ u = 0x75 ∧ unit < 0xDC00 ∧ 0xDC00 ≤ low ∧
                          low ≤ 0xDFFF then
                        after (encodeUtf8 (0x10000 + (unit - 0xD800) * 1024 +
                          (low - 0xDC00))) (readText rest)
                      else none
                | _ => none
          | _ => none
    else if byte < 0x20 then none
    else after [byte] (readText rest)

abbrev JsonReader := Reader Unit

def isSpace (byte : UInt8) : Bool := byte == 0x20 || byte == 0x0A || byte == 0x0D || byte == 0x09

def token : JsonReader UInt8 := fun remaining =>
  match remaining.dropWhile isSpace with
  | [] => .error ()
  | byte :: rest => .ok (byte, rest)

def expect (wanted : UInt8) : JsonReader Unit := do
  let byte ← token
  if byte = wanted then pure () else throw ()

def textBody : JsonReader (List UInt8) := fun remaining =>
  match readText remaining with
  | none => .error ()
  | some (bytes, rest) => if validUtf8 bytes then .ok (bytes, rest) else .error ()

def exactly (bytes : List UInt8) : JsonReader Unit := fun remaining =>
  if bytes.isPrefixOf remaining then .ok ((), remaining.drop bytes.length) else .error ()

def numberBody (first : UInt8) : JsonReader Nat := fun remaining =>
  let digits := remaining.takeWhile isDigit
  if first = 0x30 ∧ digits ≠ [] then .error ()
  else .ok (decimalValue (first :: digits), remaining.dropWhile isDigit)

def scalar : JsonReader JsonScalar := do
  let byte ← token
  if byte = 0x22 then return .text (← textBody) else if byte = 0x74 then do
    exactly [0x72, 0x75, 0x65]
    return .bool true
  else if byte = 0x66 then do
    exactly [0x61, 0x6C, 0x73, 0x65]
    return .bool false
  else if isDigit byte then return .number (← numberBody byte)
  else throw ()

def scalarThen : JsonReader (JsonScalar × UInt8) := do
  let value ← scalar
  let delimiter ← token
  return (value, delimiter)

def memberThen : JsonReader ((List UInt8 × JsonScalar) × UInt8) := do
  let name ← textBody
  expect 0x3A
  let read ← scalarThen
  return ((name, read.1), read.2)

/-- The members from the given token on, up to the closing brace. Each of them
takes some bytes, so `count` is not used up. -/
def members : Nat → UInt8 → JsonReader JsonMembers
  | 0, _ => throw ()
  | count + 1, quote =>
    if quote = 0x22 then do
      let (member, delimiter) ← memberThen
      if delimiter = 0x7D then return [member] else if delimiter = 0x2C then do
        let quote ← token
        let others ← members count quote
        return member :: others
      else throw ()
    else throw ()

def object : JsonReader JsonMembers := do
  expect 0x7B
  let next ← token
  if next = 0x7D then return [] else fun remaining => members (remaining.length + 1) next remaining

/-- `serde_json::from_slice`: an object and white space after it. -/
def readObject (bytes : List UInt8) : Option JsonMembers := match object bytes with
  | .error _ => none
  | .ok (members, rest) => if rest.all isSpace then some members else none

theorem escapeMeaning_of_escapeLetter (escaped : escapeLetter byte = some letter) :
    escapeMeaning letter = some byte := by
  obtain ⟨escape, found, rfl⟩ := Option.map_eq_some_iff.mp escaped
  have named : escape.1 = byte := by simpa using List.find?_some found
  have inverse : ∀ escape ∈ escapes, escapeMeaning escape.2 = some escape.1 := by
    simp only [escapes, List.forall_mem_cons]
    exact ⟨rfl, rfl, rfl, rfl, rfl, rfl, rfl, List.forall_mem_nil _⟩
  rw [← named]
  exact inverse escape (List.mem_of_find?_eq_some found)

theorem codeUnit_hexDigit (small : number < 32) :
    codeUnit 0x30 0x30 (hexDigit (number / 16)) (hexDigit (number % 16)) = some number := by
  revert number
  decide

theorem readText_quote : readText (0x22 :: rest) = some ([], rest) := by
  unfold readText
  exact if_pos rfl

theorem readText_plain (noQuote : byte ≠ 0x22) (noBackslash : byte ≠ 0x5C)
    (printable : ¬ byte < 0x20) : readText (byte :: rest) = after [byte] (readText rest) := by
  rw [readText.eq_def]
  simp [noQuote, noBackslash, printable]

theorem readText_escaped (meaning : escapeMeaning letter = some plain) :
    readText (0x5C :: letter :: rest) = after [plain] (readText rest) := by
  rw [readText.eq_def]
  simp only [meaning]
  exact if_neg (by decide)

theorem readText_codeUnit (read : codeUnit first second third fourth = some unit)
    (basic : unit < 0xD800) :
    readText (0x5C :: 0x75 :: first :: second :: third :: fourth :: rest) =
      after (encodeUtf8 unit) (readText rest) := by
  rw [readText.eq_def]
  simp only [read, basic]
  exact if_neg (by decide)

theorem readText_escapeByte :
    readText (escapeByte byte ++ rest) = after [byte] (readText rest) := by
  unfold escapeByte
  cases escaped : escapeLetter byte with
  | some letter => exact readText_escaped (escapeMeaning_of_escapeLetter escaped)
  | none =>
    by_cases control : byte < 0x20
    · have small : byte.toNat < 32 := UInt8.lt_iff_toNat_lt.mp control
      have encoded : encodeUtf8 byte.toNat = [byte] := by
        have ascii : byte.toNat < 0x80 := by omega
        rw [encodeUtf8, if_pos ascii, UInt8.ofNat_toNat]
      simp only [control]
      rw [← encoded]
      exact readText_codeUnit (codeUnit_hexDigit small) (by omega)
    · have noQuote : byte ≠ 0x22 := by
        rintro rfl
        exact absurd escaped (by decide)
      have noBackslash : byte ≠ 0x5C := by
        rintro rfl
        exact absurd escaped (by decide)
      simp only [control]
      exact readText_plain noQuote noBackslash control

theorem readText_escapedText :
    readText (escapedText bytes ++ 0x22 :: rest) = some (bytes, rest) := by
  induction bytes with
  | nil => exact readText_quote
  | cons byte bytes induction =>
    rw [escapedText] at induction ⊢
    rw [List.flatMap_cons, List.append_assoc, readText_escapeByte, induction]
    rfl

open Reader

theorem reads_token (solid : isSpace byte = false) : Reads token [byte] byte := by
  intro rest
  simp [token, solid]

theorem reads_expect (solid : isSpace byte = false) : Reads (expect byte) [byte] () := by
  apply (reads_token solid).bind
  rw [if_pos rfl]
  exact Reads.pure ()

theorem reads_textBody (valid : validUtf8 bytes = true) :
    Reads textBody (escapedText bytes ++ [0x22]) bytes := by
  intro rest
  simp [textBody, readText_escapedText, valid]

theorem reads_exactly : Reads (exactly bytes) bytes () := by
  intro rest
  simp [exactly]

def Delimits (byte : UInt8) : Prop := byte = 0x2C ∨ byte = 0x7D

theorem Delimits.solid (delimits : Delimits byte) : isSpace byte = false := by
  rcases delimits with rfl | rfl <;> decide

theorem Delimits.not_digit (delimits : Delimits byte) : isDigit byte = false := by
  rcases delimits with rfl | rfl <;> decide

def JsonScalar.Valid : JsonScalar → Prop
  | .text bytes => validUtf8 bytes = true
  | _ => True

theorem decimal_cons (number : Nat) : ∃ first digits, decimal number = first :: digits ∧
      isDigit first = true ∧ (∀ digit ∈ digits, isDigit digit = true) ∧
      (first = 0x30 → digits = []) := by
  rcases Nat.eq_zero_or_pos number with rfl | positive
  · exact ⟨0x30, [], rfl, rfl, nofun, fun _ => rfl⟩
  have canonical := canonicalDigits_decimal positive
  cases written : decimal number with
  | nil =>
    rw [written] at canonical
    cases canonical
  | cons first digits =>
    rw [written, canonicalDigits, Bool.and_eq_true, List.all_eq_true] at canonical
    obtain ⟨all, leading⟩ := canonical
    refine ⟨first, digits, rfl, all first List.mem_cons_self, ?_, ?_⟩
    · intro digit member
      exact all digit (List.mem_cons_of_mem _ member)
    intro zero
    subst zero
    exact absurd leading (by simp)

theorem reads_numberBody {number : Nat} (written : decimal number = first :: digits)
    (all : ∀ digit ∈ digits, isDigit digit = true) (single : first = 0x30 → digits = [])
    (ends : isDigit next = false) (rest : List UInt8) :
    numberBody first (digits ++ next :: rest) = .ok (number, next :: rest) := by
  have taken : (digits ++ next :: rest).takeWhile isDigit = digits := by
    rw [List.takeWhile_append_of_pos all, List.takeWhile_cons, ends]
    simp
  have left : (digits ++ next :: rest).dropWhile isDigit = next :: rest := by
    rw [List.dropWhile_append_of_pos all, List.dropWhile_cons, ends]
    simp
  have proper : ¬ (first = 0x30 ∧ digits ≠ []) := fun leading => leading.2 (single leading.1)
  simp only [numberBody, taken, left]
  rw [if_neg proper, ← written, decimalValue_decimal]

theorem solid_of_isDigit (digit : isDigit byte = true) : isSpace byte = false := by
  cases space : isSpace byte with
  | false => rfl
  | true =>
    simp only [isSpace, Bool.or_eq_true, beq_iff_eq] at space
    rcases space with ((rfl | rfl) | rfl) | rfl <;> exact absurd digit (by decide)

theorem reads_number_then (number : Nat) (delimits : Delimits delimiter) :
    Reads scalarThen (decimal number ++ [delimiter]) (.number number, delimiter) := by
  obtain ⟨first, digits, written, digit, all, single⟩ := decimal_cons number
  have other : ∀ {byte : UInt8}, isDigit byte = false → first ≠ byte := by
    rintro byte different rfl
    rw [digit] at different
    cases different
  have notQuote : first ≠ 0x22 := other rfl
  have notTrue : first ≠ 0x74 := other rfl
  have notFalse : first ≠ 0x66 := other rfl
  intro rest
  rw [written, List.cons_append, List.cons_append, List.append_assoc, List.singleton_append]
  have taken : token (first :: (digits ++ delimiter :: rest)) =
      .ok (first, digits ++ delimiter :: rest) := reads_token (solid_of_isDigit digit) _
  have body := reads_numberBody written all single delimits.not_digit rest
  have read : scalar (first :: (digits ++ delimiter :: rest)) =
      .ok (.number number, delimiter :: rest) := by
    rw [scalar, bind_of_ok taken]
    simp only [notQuote, notTrue, notFalse, digit]
    exact bind_of_ok body
  rw [scalarThen, bind_of_ok read]
  exact bind_of_ok (reads_token delimits.solid rest)

theorem reads_scalar_then (valid : value.Valid) (delimits : Delimits delimiter) :
    Reads scalarThen (writeScalar value ++ [delimiter]) (value, delimiter) := by
  have closing : Reads (do return (value, ← token)) [delimiter]
      (value, delimiter) := (reads_token delimits.solid).map _
  cases value with
  | number number => exact reads_number_then number delimits
  | text bytes =>
    have opening : Reads token [0x22] 0x22 := reads_token rfl
    have read : Reads scalar (writeScalar (.text bytes)) (.text bytes) :=
      opening.bind ((reads_textBody valid).map JsonScalar.text)
    exact read.bind closing
  | bool truth =>
    cases truth with
    | true =>
      have opening : Reads token [0x74] 0x74 := reads_token rfl
      have read : Reads scalar (writeScalar (.bool true)) (.bool true) :=
        opening.bind (reads_exactly.bind (Reads.pure _))
      exact read.bind closing
    | false =>
      have opening : Reads token [0x66] 0x66 := reads_token rfl
      have read : Reads scalar (writeScalar (.bool false)) (.bool false) := opening.bind
          (reads_exactly.bind (Reads.pure _))
      exact read.bind closing

def ValidMember (member : List UInt8 × JsonScalar) : Prop :=
  validUtf8 member.1 = true ∧ member.2.Valid

def memberBody (member : List UInt8 × JsonScalar) : List UInt8 :=
  escapedText member.1 ++ [0x22] ++ ([0x3A] ++ writeScalar member.2)

theorem writeMember_eq : writeMember member = [0x22] ++ memberBody member := by
  simp [writeMember, writeText, memberBody]

theorem reads_memberThen (valid : ValidMember member) (delimits : Delimits delimiter) :
    Reads memberThen (memberBody member ++ [delimiter]) (member, delimiter) := by
  have colon : Reads (expect 0x3A) [0x3A] () := reads_expect rfl
  have value := reads_scalar_then valid.2 delimits
  have ending : Reads (do
        let read ← scalarThen
        return ((member.1, read.1), read.2))
      (writeScalar member.2 ++ [delimiter]) (member, delimiter) := value.map _
  have split : memberBody member ++ [delimiter] = escapedText member.1 ++ [0x22] ++
        ([0x3A] ++ (writeScalar member.2 ++ [delimiter])) := by
    simp [memberBody]
  rw [split]
  apply (reads_textBody valid.1).bind
  exact colon.bind ending

theorem reads_members (valid : ∀ each ∈ member :: others, ValidMember each)
    (enough : others.length < count) : Reads (members count 0x22) (memberBody member ++
        ((others.flatMap fun other => 0x2C :: writeMember other) ++ [0x7D]))
      (member :: others) := by
  induction others generalizing member count with
  | nil =>
    obtain ⟨count, rfl⟩ := Nat.exists_eq_add_of_lt enough
    have first := reads_memberThen (valid member List.mem_cons_self) (.inr rfl : Delimits 0x7D)
    rw [← List.append_nil (memberBody member ++ _)]
    exact first.bind (Reads.pure [member])
  | cons other others induction =>
    obtain ⟨first, rest⟩ := List.forall_mem_cons.mp valid
    obtain ⟨count, rfl⟩ : ∃ fewer, count = fewer + 1 := ⟨count - 1, by omega⟩
    have read := reads_memberThen first (.inl rfl : Delimits 0x2C)
    have quote : Reads token [0x22] 0x22 := reads_token rfl
    have later := induction rest (by simpa using enough)
    have split : memberBody member ++
        (((other :: others).flatMap fun other => 0x2C :: writeMember other) ++ [0x7D]) =
        (memberBody member ++ [0x2C]) ++ ([0x22] ++ (memberBody other ++
          ((others.flatMap fun other => 0x2C :: writeMember other) ++ [0x7D]))) := by
      simp [writeMember_eq]
    rw [split]
    exact read.bind (quote.bind (later.map (member :: ·)))

theorem length_le_separated (others : JsonMembers) : others.length ≤
      (others.flatMap fun other => 0x2C :: writeMember other).length := by
  induction others with
  | nil => exact Nat.le_refl _
  | cons other others induction =>
    simp only [List.flatMap_cons, List.length_append, List.length_cons]
    omega

theorem readObject_writeObject (valid : ∀ member ∈ written, ValidMember member)
    (space : trailing.all isSpace = true) :
    readObject (writeObject written ++ trailing) = some written := by
  have read : object (writeObject written ++ trailing) = .ok (written, trailing) := by
    have opening : Reads (expect 0x7B) [0x7B] () := reads_expect rfl
    cases written with
    | nil =>
      have closing : Reads token [0x7D] 0x7D := reads_token rfl
      have empty : Reads object ([0x7B] ++ ([0x7D] ++ [])) [] :=
        opening.bind (closing.bind (Reads.pure []))
      exact empty trailing
    | cons member others =>
      have quote : Reads token [0x22] 0x22 := reads_token rfl
      have split : writeObject (member :: others) ++ trailing =
          [0x7B] ++ ([0x22] ++ ((memberBody member ++
            ((others.flatMap fun other => 0x2C :: writeMember other) ++ [0x7D])) ++ trailing)) := by
        simp [writeObject, writeMembers, writeMember_eq]
      rw [split, object, bind_of_ok (opening _), bind_of_ok (quote _)]
      refine reads_members valid ?_ trailing
      have enough := length_le_separated others
      simp only [List.length_append]
      omega
  simp [readObject, read, space]

end Pam.Protocol
