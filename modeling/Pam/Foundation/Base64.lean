import Mathlib.Tactic.IntervalCases
import Pam.Foundation.Codec

namespace Pam.Foundation

open List Option

/-! Base64 with the standard alphabet and padding. -/

def base64Padding : UInt8 := 0x3D

def base64Symbol (sextet : Nat) : UInt8 := if sextet < 26 then UInt8.ofNat (65 + sextet)
  else if sextet < 52 then UInt8.ofNat (71 + sextet)
  else if sextet < 62 then UInt8.ofNat (sextet - 4)
  else if sextet = 62 then 0x2B
  else 0x2F

def base64Sextet (symbol : UInt8) : Option Nat := let code := symbol.toNat
  if 65 ≤ code && code ≤ 90 then some (code - 65)
  else if 97 ≤ code && code ≤ 122 then some (code - 71)
  else if 48 ≤ code && code ≤ 57 then some (code + 4)
  else if code = 43 then some 62
  else if code = 47 then some 63
  else none

def encodeBase64 : List UInt8 → List UInt8
  | [] => []
  | [first] =>
    let number := first.toNat
    [base64Symbol (number / 4), base64Symbol (number % 4 * 16), base64Padding, base64Padding]
  | [first, second] =>
    let number := first.toNat * 256 + second.toNat
    [base64Symbol (number / 1024), base64Symbol (number / 16 % 64),
      base64Symbol (number % 16 * 4), base64Padding]
  | first :: second :: third :: rest =>
    let number := first.toNat * 65536 + second.toNat * 256 + third.toNat
    base64Symbol (number / 262144) :: base64Symbol (number / 4096 % 64) ::
      base64Symbol (number / 64 % 64) :: base64Symbol (number % 64) :: encodeBase64 rest

/-- The last group, of one or two bytes; the bits left over must be zero. -/
def decodeBase64Tail (first second third : UInt8) : Option (List UInt8) := do
  let high ← base64Sextet first
  let low ← base64Sextet second
  if third = base64Padding then
    if low % 16 = 0 then some [UInt8.ofNat (high * 4 + low / 16)] else none
  else
    let last ← base64Sextet third
    let number := high * 1024 + low * 16 + last / 4
    if last % 4 = 0 then some [UInt8.ofNat (number / 256), UInt8.ofNat (number % 256)] else none

def decodeBase64Group (first second third fourth : UInt8) : Option (List UInt8) := do
  let a ← base64Sextet first
  let b ← base64Sextet second
  let c ← base64Sextet third
  let d ← base64Sextet fourth
  let number := a * 262144 + b * 4096 + c * 64 + d
  some [UInt8.ofNat (number / 65536), UInt8.ofNat (number / 256 % 256), UInt8.ofNat (number % 256)]

def decodeBase64 : List UInt8 → Option (List UInt8)
  | [] => some []
  | first :: second :: third :: fourth :: rest =>
    if fourth = base64Padding then
      if rest.isEmpty then decodeBase64Tail first second third else none else do
      let bytes ← decodeBase64Group first second third fourth
      let decoded ← decodeBase64 rest
      some (bytes ++ decoded)
  | _ => none

theorem base64Sextet_symbol (fits : sextet < 64) :
    base64Sextet (base64Symbol sextet) = some sextet := by
  interval_cases sextet <;> rfl

theorem base64Symbol_ne_padding (fits : sextet < 64) : base64Symbol sextet ≠ base64Padding := by
  interval_cases sextet <;> decide

theorem base64Symbol_le (fits : sextet < 64) : base64Symbol sextet ≤ 0x7F := by
  interval_cases sextet <;> decide

variable (bytes : List UInt8)

theorem decodeBase64_encodeBase64 : decodeBase64 (encodeBase64 bytes) = some bytes := by
  fun_induction encodeBase64 bytes with
  | case1 => rfl
  | case2 first number =>
    have small := first.toNat_lt
    have high : number / 4 < 64 := by omega
    have low : number % 4 * 16 < 64 := by omega
    have unused : number % 4 * 16 % 16 = 0 := by omega
    have whole : number / 4 * 4 + number % 4 * 16 / 16 = first.toNat := by omega
    simp only [decodeBase64, decodeBase64Tail, base64Sextet_symbol high,
      base64Sextet_symbol low, unused, whole, isEmpty_nil, if_true,
      bind_eq_bind, bind_some, UInt8.ofNat_toNat]
  | case3 first second number =>
    have small := first.toNat_lt
    have other := second.toNat_lt
    have high : number / 1024 < 64 := by omega
    have low : number / 16 % 64 < 64 := by omega
    have last : number % 16 * 4 < 64 := by omega
    have unused : number % 16 * 4 % 4 = 0 := by omega
    have whole : number / 1024 * 1024 + number / 16 % 64 * 16 +
        number % 16 * 4 / 4 = number := by omega
    have front : number / 256 = first.toNat := by omega
    have back : number % 256 = second.toNat := by omega
    simp only [decodeBase64, decodeBase64Tail, base64Sextet_symbol high,
      base64Sextet_symbol low, base64Sextet_symbol last,
      base64Symbol_ne_padding last, unused, whole, front, back,
      isEmpty_nil, if_true, if_false, bind_eq_bind, bind_some, UInt8.ofNat_toNat]
  | case4 first second third rest number induction =>
    have small := first.toNat_lt
    have other := second.toNat_lt
    have another := third.toNat_lt
    have a : number / 262144 < 64 := by omega
    have b : number / 4096 % 64 < 64 := by omega
    have c : number / 64 % 64 < 64 := by omega
    have d : number % 64 < 64 := by omega
    have whole : number / 262144 * 262144 + number / 4096 % 64 * 4096 +
        number / 64 % 64 * 64 + number % 64 = number := by omega
    have front : number / 65536 = first.toNat := by omega
    have middle : number / 256 % 256 = second.toNat := by omega
    have back : number % 256 = third.toNat := by omega
    simp [decodeBase64, decodeBase64Group, base64Sextet_symbol a,
      base64Sextet_symbol b, base64Sextet_symbol c, base64Sextet_symbol d,
      base64Symbol_ne_padding d, whole, front, middle, back, induction]

theorem validUtf8_of_ascii {bytes : List UInt8}
    (ascii : ∀ byte ∈ bytes, byte ≤ 0x7F) : validUtf8 bytes = true := by
  induction bytes with
  | nil => rfl
  | cons byte bytes induction =>
    obtain ⟨first, others⟩ := forall_mem_cons.mp ascii
    unfold validUtf8
    rw [if_pos first]
    exact induction others

theorem encodeBase64_ascii : ∀ symbol ∈ encodeBase64 bytes, symbol ≤ 0x7F := by
  have padding : base64Padding ≤ 0x7F := by decide
  fun_induction encodeBase64 bytes with
  | case1 => exact forall_mem_nil _
  | case2 first number =>
    have small := first.toNat_lt
    simp only [forall_mem_cons, padding, base64Symbol_le (show number / 4 < 64 by omega),
      base64Symbol_le (show number % 4 * 16 < 64 by omega)]
    simp
  | case3 first second number =>
    have small := first.toNat_lt
    have other := second.toNat_lt
    simp only [forall_mem_cons, padding, base64Symbol_le (show number / 1024 < 64 by omega),
      base64Symbol_le (show number / 16 % 64 < 64 by omega),
      base64Symbol_le (show number % 16 * 4 < 64 by omega)]
    simp
  | case4 first second third rest number induction =>
    have small := first.toNat_lt
    have other := second.toNat_lt
    have another := third.toNat_lt
    simp only [forall_mem_cons, base64Symbol_le (show number / 262144 < 64 by omega),
      base64Symbol_le (show number / 4096 % 64 < 64 by omega),
      base64Symbol_le (show number / 64 % 64 < 64 by omega),
      base64Symbol_le (show number % 64 < 64 by omega), true_and]
    exact induction

theorem validUtf8_encodeBase64 : validUtf8 (encodeBase64 bytes) = true :=
  validUtf8_of_ascii (encodeBase64_ascii bytes)

end Pam.Foundation
