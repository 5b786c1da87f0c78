import Pam.Foundation.Base64
import Pam.Foundation.Json
import Pam.Protocol.ResponseCodec

namespace Pam.Protocol

open Pam.Foundation Option Nat

/-! Values of PHP as far as they cross the border to the server, and what
`json_encode` makes of them. -/

abbrev PhpString := List UInt8

def isDigit (byte : UInt8) : Bool := 0x30 ≤ byte && byte ≤ 0x39

def decimalValue (digits : List UInt8) : Nat :=
  digits.foldl (fun number digit => number * 10 + (digit.toNat - 48)) 0

def canonicalDigits (digits : List UInt8) : Bool :=
  digits.all isDigit && digits.head?.any fun digit => digit != 0x30

/-- The strings that PHP turns into integers as array keys. Each is the only one
for its integer, so keys are kept as strings. -/
def isIntegerKey : PhpString → Bool
  | [0x30] => true
  | 0x2D :: digits => canonicalDigits digits && decimalValue digits ≤ 2 ^ 63
  | digits => canonicalDigits digits && decimalValue digits < 2 ^ 63

/-- `PHP_INT_MAX`; a sum above it is a float. -/
def phpIntMax : Int := 9223372036854775807

inductive PhpValue where
  | null
  | bool (value : Bool)
  | integer (value : Int)
  | float (bits : UInt64)
  | string (bytes : PhpString)
  | array (entries : List (PhpString × PhpValue))

def decimal (number : Nat) : PhpString :=
  (Nat.toDigits 10 number).map fun digit => UInt8.ofNat digit.toNat

def isListKeys (keys : List PhpString) : Bool := keys == (List.range keys.length).map decimal

def PhpValue.list (values : List PhpValue) : PhpValue :=
  .array (values.zipIdx.map fun entry => (decimal entry.2, entry.1))

def finiteFloat (bits : UInt64) : Bool := (bits.toNat / 2 ^ 52) % 2 ^ 11 != 2 ^ 11 - 1

/- `json_encode` with `JSON_THROW_ON_ERROR`, `none` where it throws.  Its limit
of 512 levels is left out: no value that the server reads comes near it. -/
mutual

def jsonEncode : PhpValue → Option Json
  | .null => some .null
  | .bool value => some (.bool value)
  | .integer value => some (.integer value)
  | .float bits => if finiteFloat bits then some (.float bits) else none
  | .string bytes => if validUtf8 bytes then some (.string bytes) else none
  | .array entries => (jsonEncodeEntries entries).map fun fields =>
      if isListKeys (entries.map Prod.fst) then .array (fields.map Prod.snd) else .object fields

def jsonEncodeEntries : List (PhpString × PhpValue) → Option (List (PhpString × Json))
  | [] => some []
  | (key, value) :: entries =>
    if validUtf8 key then
      (jsonEncode value).bind fun first =>
        (jsonEncodeEntries entries).map fun rest => (key, first) :: rest
    else none

end

theorem validUtf8_decimal (number : Nat) : validUtf8 (decimal number) = true := by
  apply validUtf8_of_ascii
  intro byte member
  obtain ⟨digit, written, rfl⟩ := List.mem_map.mp member
  have isDigit := isDigit_of_mem_toDigits (by decide) (by decide) written
  simp only [Char.isDigit, Bool.and_eq_true, decide_eq_true_eq] at isDigit
  have small : digit.toNat ≤ 57 := UInt32.le_iff_toNat_le.mp isDigit.2
  rw [UInt8.le_iff_toNat_le, UInt8.toNat_ofNat', mod_eq_of_lt (by omega)]
  exact le_trans small (by decide)

theorem decimal_eq (number : Nat) : decimal number = if number < 10 then [UInt8.ofNat (48 + number)]
      else decimal (number / 10) ++ [UInt8.ofNat (48 + number % 10)] := by
  have digitByte : ∀ {digit : Nat}, digit < 10 →
      UInt8.ofNat digit.digitChar.toNat = UInt8.ofNat (48 + digit) := by
    decide
  rw [decimal, toDigits_eq_if (by decide)]
  split
  next small => rw [List.map_singleton, digitByte small]
  · rw [List.map_append, List.map_singleton, digitByte (mod_lt _ (by decide))]
    rfl

theorem isDigit_ofNat (small : digit < 10) : isDigit (UInt8.ofNat (48 + digit)) = true ∧
      (UInt8.ofNat (48 + digit)).toNat - 48 = digit := by
  revert digit
  decide

theorem decimalValue_decimal (number : Nat) : decimalValue (decimal number) = number := by
  induction number using Nat.strongRecOn with
  | ind number induction =>
    rw [decimal_eq]
    split
    next small =>
      simp only [decimalValue, List.foldl_cons, List.foldl_nil, (isDigit_ofNat small).2]
      omega
    next large =>
    have before := induction (number / 10) (by omega)
    have last := (isDigit_ofNat (mod_lt number (y := 10) (by decide))).2
    rw [decimalValue] at before ⊢
    rw [List.foldl_append, List.foldl_cons, List.foldl_nil]
    omega

theorem canonicalDigits_decimal (positive : 0 < number) :
    canonicalDigits (decimal number) = true := by
  induction number using Nat.strongRecOn with
  | ind number induction =>
    rw [decimal_eq]
    split
    next small =>
      have single : ∀ digit < 10, 0 < digit →
          canonicalDigits [UInt8.ofNat (48 + digit)] = true := by
        decide
      exact single number small positive
    next large =>
    have before := induction (number / 10) (by omega) (by omega)
    have last := (isDigit_ofNat (mod_lt number (y := 10) (by decide))).1
    rw [canonicalDigits, Bool.and_eq_true] at before ⊢
    refine ⟨?_, ?_⟩
    · rw [List.all_append, before.1, List.all_cons, last]
      rfl
    cases digits : decimal (number / 10) with
    | nil =>
      rw [digits] at before
      cases before.2
    | cons digit rest =>
      rw [digits] at before
      exact before.2

variable (values : List PhpValue)

theorem jsonEncodeEntries_list (start : Nat) :
    (jsonEncodeEntries ((values.zipIdx start).map fun entry =>
      (decimal entry.2, entry.1))).map (List.map Prod.snd) = values.mapM jsonEncode := by
  induction values generalizing start with
  | nil => rfl
  | cons value values induction =>
    simp only [List.zipIdx_cons, List.map_cons, jsonEncodeEntries, validUtf8_decimal,
      List.mapM_cons, ← induction (start + 1)]
    cases jsonEncode value with
    | none => rfl
    | some first =>
      cases jsonEncodeEntries ((values.zipIdx (start + 1)).map fun entry =>
          (decimal entry.2, entry.1)) with
      | none | some rest => rfl

theorem isListKeys_list : isListKeys ((values.zipIdx.map fun entry =>
      (decimal entry.2, entry.1)).map Prod.fst) = true := by
  have keys : (values.zipIdx.map fun entry =>
      (decimal entry.2, entry.1)).map Prod.fst = (List.range values.length).map decimal := by
    rw [List.range_eq_range', ← List.zipIdx_map_snd 0 values, List.map_map, List.map_map]
    rfl
  rw [keys, isListKeys, List.length_map, List.length_range]
  exact beq_self_eq_true _

theorem isListKeys_cons_of_ne (named : key ≠ decimal 0) : isListKeys (key :: keys) = false := by
  rw [isListKeys, List.length_cons, List.range_succ_eq_map]
  simp [named]

theorem jsonEncode_list : jsonEncode (.list values) = (values.mapM jsonEncode).map .array := by
  rw [← jsonEncodeEntries_list values 0, PhpValue.list, jsonEncode]
  simp only [isListKeys_list, map_map]
  rfl

mutual

def PhpValue.encodable : PhpValue → Bool
  | .float bits => finiteFloat bits
  | .string bytes => validUtf8 bytes
  | .array entries => encodableEntries entries
  | _ => true

def encodableEntries : List (PhpString × PhpValue) → Bool
  | [] => true
  | (key, value) :: entries => validUtf8 key && value.encodable && encodableEntries entries

end

mutual

def PhpValue.nesting : PhpValue → Nat
  | .array entries => nestingEntries entries + 1
  | _ => 0

def nestingEntries : List (PhpString × PhpValue) → Nat
  | [] => 0
  | (_, value) :: entries => max value.nesting (nestingEntries entries)

end

mutual

theorem jsonEncode_isSome (value : PhpValue) : (jsonEncode value).isSome = value.encodable := by
  cases value with
  | null | bool value | integer value => rfl
  | float bits =>
    rw [jsonEncode, PhpValue.encodable]
    cases finiteFloat bits <;> rfl
  | string bytes =>
    rw [jsonEncode, PhpValue.encodable]
    cases validUtf8 bytes <;> rfl
  | array entries =>
    rw [jsonEncode, isSome_map]
    exact jsonEncodeEntries_isSome entries

theorem jsonEncodeEntries_isSome (entries : List (PhpString × PhpValue)) :
    (jsonEncodeEntries entries).isSome = encodableEntries entries := by
  cases entries with
  | nil => rfl
  | cons entry entries =>
    obtain ⟨key, value⟩ := entry
    have first := jsonEncode_isSome value
    have rest := jsonEncodeEntries_isSome entries
    rw [jsonEncodeEntries, encodableEntries, ← first, ← rest]
    cases validUtf8 key with
    | false => rfl
    | true =>
      cases jsonEncode value with
      | none => rfl
      | some json => cases jsonEncodeEntries entries <;> rfl

end

mutual

theorem depth_jsonEncode (value : PhpValue) :
    ∀ json ∈ jsonEncode value, json.depth = value.nesting := by
  intro json encoded
  cases value with
  | null | bool value | integer value => cases encoded; rfl
  | float bits | string bytes =>
    rw [jsonEncode] at encoded
    split at encoded
    · cases encoded
      rfl
    · cases encoded
  | array entries =>
    obtain ⟨fields, read, rfl⟩ := map_eq_some_iff.mp encoded
    have depth := depth_jsonEncodeEntries entries fields read
    split
    · rw [Json.depth, Json.itemsDepth_snd, depth, PhpValue.nesting]
    · rw [Json.depth, depth, PhpValue.nesting]

theorem depth_jsonEncodeEntries (entries : List (PhpString × PhpValue)) :
    ∀ fields ∈ jsonEncodeEntries entries, Json.fieldsDepth fields = nestingEntries entries := by
  intro fields encoded
  cases entries with
  | nil => cases encoded; rfl
  | cons entry entries =>
    obtain ⟨key, value⟩ := entry
    rw [jsonEncodeEntries] at encoded
    split at encoded
    · obtain ⟨first, firstRead, encoded⟩ := bind_eq_some_iff.mp encoded
      obtain ⟨rest, restRead, rfl⟩ := map_eq_some_iff.mp encoded
      rw [Json.fieldsDepth, nestingEntries, depth_jsonEncode value first firstRead,
        depth_jsonEncodeEntries entries rest restRead]
    · cases encoded

end

end Pam.Protocol
