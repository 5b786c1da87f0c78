import Mathlib.Algebra.Order.Ring.Nat
import Mathlib.Data.List.Nodup

namespace Pam.Foundation

open List Option

/-! Readers of byte strings. From an encoding a reader takes a value and leaves
exactly what follows, or it fails, whatever follows. -/

def continuationByte (byte : UInt8) : Bool := 0x80 ≤ byte && byte ≤ 0xBF

def validUtf8 : List UInt8 → Bool
  | [] => true
  | first :: rest =>
    if first ≤ 0x7F then validUtf8 rest
    else
      match rest with
      | [] => false
      | second :: rest =>
        if 0xC2 ≤ first && first ≤ 0xDF then continuationByte second && validUtf8 rest
        else
          match rest with
          | [] => false
          | third :: rest =>
            let valid := continuationByte second && continuationByte third
            if first == 0xE0 then valid && 0xA0 ≤ second && validUtf8 rest
            else if first == 0xED then valid && second ≤ 0x9F && validUtf8 rest
            else if 0xE1 ≤ first && first ≤ 0xEF then valid && validUtf8 rest
            else
              match rest with
              | [] => false
              | fourth :: rest =>
                valid && continuationByte fourth && 0xF0 ≤ first && first ≤ 0xF4 &&
                  (first != 0xF0 || 0x90 ≤ second) && (first != 0xF4 || second ≤ 0x8F) &&
                  validUtf8 rest

def utf8Chars : List UInt8 → List Char
  | [] => []
  | first :: rest =>
    if first ≤ 0x7F then Char.ofUInt8 first :: utf8Chars rest
    else
      match rest with
      | [] => []
      | second :: rest =>
        if first ≤ 0xDF then
          Char.ofNat (first.toNat % 32 * 64 + second.toNat % 64) :: utf8Chars rest
        else
          match rest with
          | [] => []
          | third :: rest =>
            let low := second.toNat % 64 * 64 + third.toNat % 64
            if first ≤ 0xEF then Char.ofNat (first.toNat % 16 * 4096 + low) :: utf8Chars rest
            else
              match rest with
              | [] => []
              | fourth :: rest =>
                Char.ofNat ((first.toNat % 8 * 4096 + low) * 64 + fourth.toNat % 64) ::
                  utf8Chars rest

/-- `std::str::from_utf8`. -/
def fromUtf8 (bytes : List UInt8) : Option (List Char) :=
  if validUtf8 bytes then some (utf8Chars bytes) else none

theorem fromUtf8_cons (small : byte ≤ 0x7F) :
    fromUtf8 (byte :: bytes) = (fromUtf8 bytes).map (Char.ofUInt8 byte :: ·) := by
  have valid : validUtf8 (byte :: bytes) = validUtf8 bytes := by
    rw [validUtf8.eq_def]
    exact if_pos small
  have chars : utf8Chars (byte :: bytes) = Char.ofUInt8 byte :: utf8Chars bytes := by
    rw [utf8Chars.eq_def]
    exact if_pos small
  rw [fromUtf8, fromUtf8, valid, chars]
  split <;> rfl

/-- `char::is_whitespace`. -/
def isWhitespace (char : Char) : Bool :=
  let code := char.toNat
  9 ≤ code && code ≤ 13 || 0x2000 ≤ code && code ≤ 0x200A ||
    [0x20, 0x85, 0xA0, 0x1680, 0x2028, 0x2029, 0x202F, 0x205F, 0x3000].contains code

def unsignedDigits : List Char → List Char
  | '+' :: digits => digits
  | digits => digits

/-- `str::parse` at an unsigned type that has the numbers below `limit`. -/
def parseUnsigned (limit : Nat) (text : List Char) : Option Nat :=
  let digits := unsignedDigits text
  let number := Nat.ofDigitChars 10 digits 0
  if !digits.isEmpty && digits.all Char.isDigit && number < limit then some number else none

theorem parseUnsigned_toDigits (fits : number < limit) :
    parseUnsigned limit (Nat.toDigits 10 number) = some number := by
  have digits : ∀ digit ∈ Nat.toDigits 10 number, digit.isDigit = true := fun digit member =>
      Nat.isDigit_of_mem_toDigits (by omega) (by omega) member
  have unsigned : unsignedDigits (Nat.toDigits 10 number) = Nat.toDigits 10 number := by
    unfold unsignedDigits
    split
    next same =>
      have plus := digits '+' (same ▸ mem_cons_self ..)
      exact absurd plus (by decide)
    · rfl
  have some : (Nat.toDigits 10 number).isEmpty = false :=
    isEmpty_eq_false_iff.mpr Nat.toDigits_ne_nil
  simp only [parseUnsigned, unsigned, some, all_eq_true.mpr digits,
    Nat.ofDigitChars_ten_toDigits, fits, decide_true, Bool.not_false, Bool.and_self, if_true]

/-- `split_once`. -/
def splitOnce {Item : Type} [BEq Item] (separator : Item) (text : List Item) :
    Option (List Item × List Item) :=
  match text.dropWhile (· != separator) with
  | [] => none
  | _ :: after => some (text.takeWhile (· != separator), after)

def bigEndian : Nat → Nat → List UInt8
  | 0, _ => []
  | width + 1, number => UInt8.ofNat (number / 256 ^ width) :: bigEndian width number

def fromBigEndian (bytes : List UInt8) : Nat :=
  bytes.foldl (fun number byte => number * 256 + byte.toNat) 0

theorem length_bigEndian : (bigEndian width number).length = width := by
  induction width with
  | zero => rfl
  | succ width ih => simp [bigEndian, ih]

theorem foldl_bigEndian : (bigEndian width number).foldl
        (fun number byte => number * 256 + byte.toNat) before =
      before * 256 ^ width + number % 256 ^ width := by
  induction width generalizing before with
  | zero => simp [bigEndian, Nat.mod_one]
  | succ width ih =>
    rw [bigEndian, foldl_cons, ih, UInt8.toNat_ofNat', Nat.add_mul,
      Nat.mul_assoc, ← Nat.pow_succ', Nat.pow_succ 256 width, Nat.mod_mul (x := number)]
    rw [Nat.mul_comm (number / 256 ^ width % 256)]
    omega

theorem fromBigEndian_bigEndian :
    fromBigEndian (bigEndian width number) = number % 256 ^ width := by
  rw [fromBigEndian, foldl_bigEndian, Nat.zero_mul, Nat.zero_add]

def encodeHex (bytes : List UInt8) : List Char := bytes.flatMap fun byte =>
    [Nat.digitChar (byte.toNat / 16), Nat.digitChar (byte.toNat % 16)]

def hexValue (digit : Char) : Option Nat :=
  if '0' ≤ digit ∧ digit ≤ '9' then some (digit.toNat - 48)
  else if 'a' ≤ digit ∧ digit ≤ 'f' then some (digit.toNat - 87)
  else if 'A' ≤ digit ∧ digit ≤ 'F' then some (digit.toNat - 55)
  else none

def decodeHex : List Char → Option (List UInt8)
  | [] => some []
  | [_] => none
  | high :: low :: rest => do
      let high ← hexValue high
      let low ← hexValue low
      let bytes ← decodeHex rest
      return UInt8.ofNat (high * 16 + low) :: bytes

theorem hexValue_digitChar (fits : digit < 16) : hexValue (Nat.digitChar digit) = some digit := by
  have all : ∀ digit : Fin 16, hexValue (Nat.digitChar digit.val) = some digit.val := by decide
  exact all ⟨digit, fits⟩

theorem decodeHex_encodeHex : decodeHex (encodeHex bytes) = some bytes := by
  induction bytes with
  | nil => rfl
  | cons byte bytes ih =>
    have high : byte.toNat / 16 < 16 := by
      have := byte.toNat_lt
      omega
    have low : byte.toNat % 16 < 16 := Nat.mod_lt _ (by omega)
    have whole : byte.toNat / 16 * 16 + byte.toNat % 16 = byte.toNat := by omega
    change decodeHex (_ :: _ :: encodeHex bytes) = _
    simp only [decodeHex, hexValue_digitChar high, hexValue_digitChar low, ih,
      bind_eq_bind, bind_some, whole, UInt8.ofNat_toNat]
    rfl

theorem encodeHex_injective : Function.Injective encodeHex := by
  intro first second same
  have decoded := congrArg decodeHex same
  rw [decodeHex_encodeHex, decodeHex_encodeHex] at decoded
  exact some.inj decoded

section Delimited

variable {Value Symbol : Type}

/-- Two encodings, followed by anything admissible, agree only where the values
and what follows agree. -/
def Delimited (encode : Value → List Symbol) (follows : List Symbol → Prop) : Prop :=
  ∀ first second : Value, ∀ rest other : List Symbol, follows rest → follows other →
      encode first ++ rest = encode second ++ other → first = second ∧ rest = other

theorem append_cons_inj {first second : List Symbol}
    {rest other : List Symbol} (outsideFirst : separator ∉ first)
    (outsideSecond : separator ∉ second)
    (same : first ++ separator :: rest = second ++ separator :: other) :
    first = second ∧ rest = other := by
  induction first generalizing second with
  | nil =>
    cases second with
    | nil => exact ⟨rfl, (List.cons.inj same).2⟩
    | cons symbol second =>
      have head := (List.cons.inj same).1
      exact absurd (head ▸ mem_cons_self ..) outsideSecond
  | cons symbol first ih =>
    cases second with
    | nil =>
      have head := (List.cons.inj same).1
      exact absurd (head ▸ mem_cons_self ..) outsideFirst
    | cons other second =>
      obtain ⟨head, tail⟩ := List.cons.inj same
      obtain ⟨firstSame, restSame⟩ := ih (fun member => outsideFirst (mem_cons_of_mem _ member))
        (fun member => outsideSecond (mem_cons_of_mem _ member)) tail
      exact ⟨by rw [head, firstSame], restSame⟩

theorem Delimited.flatMap
    {follows : List Symbol → Prop} (delimited : Delimited encode fun _ => True)
    (starts : ∀ value rest, ¬follows (encode value ++ rest)) :
    Delimited (fun values : List Value => values.flatMap encode) follows := by
  intro first
  induction first with
  | nil =>
    intro second rest other follow followOther same
    cases second with
    | nil => exact ⟨rfl, same⟩
    | cons value second =>
      simp only [flatMap_nil, nil_append, flatMap_cons, append_assoc] at same
      exact absurd (same ▸ follow) (starts value _)
  | cons value first ih =>
    intro second rest other follow followOther same
    cases second with
    | nil =>
      simp only [flatMap_nil, nil_append, flatMap_cons, append_assoc] at same
      exact absurd (same ▸ followOther) (starts value _)
    | cons next second =>
      simp only [flatMap_cons, append_assoc] at same
      obtain ⟨rfl, tails⟩ := delimited value next _ _ trivial trivial same
      obtain ⟨rfl, rests⟩ := ih second rest other follow followOther tails
      exact ⟨rfl, rests⟩

theorem toDigits_append_inj (notDigit : !separator.isDigit)
    {first second : Nat} {rest other : List Char}
    (same : Nat.toDigits 10 first ++ separator :: rest =
      Nat.toDigits 10 second ++ separator :: other) : first = second ∧ rest = other := by
  have outside (number : Nat) : separator ∉ Nat.toDigits 10 number := by
    intro member
    rw [Nat.isDigit_of_mem_toDigits (by omega) (by omega) member] at notDigit
    exact Bool.false_ne_true notDigit
  obtain ⟨digits, rests⟩ := append_cons_inj (outside first) (outside second) same
  have numbers := congrArg (Nat.ofDigitChars 10 · 0) digits
  simp only [Nat.ofDigitChars_toDigits (b := 10) (by omega) (by omega)] at numbers
  exact ⟨numbers, rests⟩

def unary (text : List Char) : List UInt8 :=
  text.flatMap fun character => List.replicate character.toNat 0 ++ [1]

theorem unary_injective : Function.Injective unary := by
  have delimited : Delimited
      (fun character : Char => List.replicate character.toNat (0 : UInt8) ++ [1])
      fun _ => True := by
    intro first second rest other _ _ same
    rw [append_assoc, append_assoc] at same
    have outside (count : Nat) : (1 : UInt8) ∉ List.replicate count 0 := by
      rw [mem_replicate]
      exact fun one => absurd one.2 (by decide)
    obtain ⟨codes, rests⟩ := append_cons_inj (outside _) (outside _) same
    have lengths := congrArg List.length codes
    rw [length_replicate, length_replicate] at lengths
    exact ⟨Char.toNat_inj.mp lengths, rests⟩
  have delimitedText : Delimited unary (· = []) := delimited.flatMap (by simp)
  intro first second same
  exact (delimitedText first second [] [] rfl rfl (by rw [same])).1

/-- An injective digest with known values on some texts; those of the others are
longer than the 32 bytes of a known one. -/
def tabulatedDigest (known : List (List Char × List UInt8)) (text : List Char) : List UInt8 :=
  (known.lookup text).getD (List.replicate 33 0 ++ unary text)

theorem tabulatedDigest_injective (short : ∀ entry ∈ known, entry.2.length = 32)
    (distinct : (known.map Prod.snd).Nodup) : Function.Injective (tabulatedDigest known) := by
  have member {text : List Char} {digest : List UInt8}
      (found : known.lookup text = some digest) : (text, digest) ∈ known := by
    obtain ⟨before, after, rfl, _⟩ := lookup_eq_some_iff.mp found
    exact mem_append_right before (mem_cons_self ..)
  have longer {text other : List Char} {digest : List UInt8}
      (found : known.lookup text = some digest) : digest ≠ List.replicate 33 0 ++ unary other := by
    intro same
    have lengths := congrArg List.length same
    rw [short _ (member found), length_append, length_replicate] at lengths
    omega
  intro first second same
  simp only [tabulatedDigest] at same
  cases firstKnown : known.lookup first with
  | none =>
    cases secondKnown : known.lookup second with
    | none =>
      rw [firstKnown, secondKnown] at same
      exact unary_injective (append_cancel_left same)
    | some digest =>
      rw [firstKnown, secondKnown] at same
      exact absurd same.symm (longer secondKnown)
  | some digest =>
    cases secondKnown : known.lookup second with
    | none =>
      rw [firstKnown, secondKnown] at same
      exact absurd same (longer firstKnown)
    | some other =>
      rw [firstKnown, secondKnown] at same
      have entries := inj_on_of_nodup_map distinct (member firstKnown) (member secondKnown) same
      exact congrArg Prod.fst entries

end Delimited

abbrev Reader (Failure Value : Type) := StateT (List UInt8) (Except Failure) Value

namespace Reader

variable {Failure : Type}

def take (truncated : Failure) (length : Nat) : Reader Failure (List UInt8) := fun remaining =>
  if length > remaining.length then .error truncated else .ok (remaining.splitAt length)

def number (truncated : Failure) (width : Nat) : Reader Failure Nat := do
  return fromBigEndian (← take truncated width)

def many (read : Reader Failure Value) : Nat → Reader Failure (List Value)
  | 0 => return []
  | count + 1 => do
      let value ← read
      let values ← many read count
      return value :: values

def Reads (read : Reader Failure Value) (bytes : List UInt8) (value : Value) : Prop :=
  ∀ rest, read (bytes ++ rest) = .ok (value, rest)

def Rejects (read : Reader Failure Value) (bytes : List UInt8) : Prop :=
  ∀ rest, ∃ failure, read (bytes ++ rest) = .error failure

def Settles (read : Reader Failure Value) (bytes : List UInt8) : Option Value → Prop
  | some value => Reads read bytes value
  | none => Rejects read bytes

variable {read : Reader Failure Value} {next : Value → Reader Failure Other}

theorem bind_of_ok (taken : read bytes = .ok (value, rest)) :
    (read >>= next) bytes = next value rest := by
  change (read bytes >>= fun result => next result.1 result.2) = _
  rw [taken]
  rfl

theorem Reads.pure (value : Value) : Reads (Pure.pure value : Reader Failure Value) [] value := by
  intro rest
  rfl

theorem Reads.bind (reads : Reads read first value) (continues : Reads (next value) second other) :
    Reads (read >>= next) (first ++ second) other := by
  intro rest
  change (read (first ++ second ++ rest) >>= fun result => next result.1 result.2) = _
  rw [append_assoc, reads (second ++ rest)]
  exact continues rest

theorem Rejects.bind (rejects : Rejects read first)
    (next : Value → Reader Failure Other) (second : List UInt8) :
    Rejects (read >>= next) (first ++ second) := by
  intro rest
  obtain ⟨failure, failed⟩ := rejects (second ++ rest)
  refine ⟨failure, ?_⟩
  change (read (first ++ second ++ rest) >>= fun result => next result.1 result.2) = _
  rw [append_assoc, failed]
  rfl

theorem Reads.rejects (reads : Reads read first value) (rejects : Rejects (next value) second) :
    Rejects (read >>= next) (first ++ second) := by
  intro rest
  obtain ⟨failure, failed⟩ := rejects rest
  refine ⟨failure, ?_⟩
  change (read (first ++ second ++ rest) >>= fun result => next result.1 result.2) = _
  rw [append_assoc, reads (second ++ rest)]
  exact failed

theorem Reads.settles (reads : Reads read first value)
    (settles : Settles (next value) second result) :
    Settles (read >>= next) (first ++ second) result := by
  cases result with
  | none => exact reads.rejects settles
  | some other => exact reads.bind settles

theorem Settles.bind (settles : Settles read first (guard check value))
    (continues : Settles (next value) second result) :
    Settles (read >>= next) (first ++ second) (if check value then result else none) := by
  rw [Option.guard] at settles
  cases passes : check value with
  | false =>
    rw [passes] at settles
    exact Rejects.bind settles next second
  | true =>
    rw [passes] at settles
    exact Reads.settles settles continues

theorem Settles.map {value : Option Value} (settles : Settles read bytes value)
    (change : Value → Other) : Settles (do return change (← read)) bytes (value.map change) := by
  cases value with
  | none =>
    have rejects := Rejects.bind settles (fun taken => Pure.pure (change taken)) []
    rwa [append_nil] at rejects
  | some value =>
    have reads : Reads (do return change (← read)) (bytes ++ [])
        (change value) := Reads.bind settles (Reads.pure (change value))
    rwa [append_nil] at reads

theorem Reads.map (reads : Reads read bytes value) (change : Value → Other) :
    Reads (do return change (← read)) bytes (change value) :=
  Settles.map (show Settles read bytes (some value) from reads) change

theorem Settles.guard
    (settles : Settles read bytes value) (refused : Prop) [Decidable refused] (failure : Failure) :
    Settles (if refused then throw failure else read) bytes (if refused then none else value) := by
  split
  · exact fun rest => ⟨failure, rfl⟩
  · exact settles

theorem reads_take (truncated : Failure) (bytes : List UInt8) :
    Reads (take truncated bytes.length) bytes bytes := by
  intro rest
  simp [take]

theorem reads_number (truncated : Failure) (width value : Nat) :
    Reads (number truncated width) (bigEndian width value) (value % 256 ^ width) := by
  intro rest
  have taken := reads_take truncated (bigEndian width value) rest
  rw [length_bigEndian] at taken
  change (take truncated width (bigEndian width value ++ rest) >>= fun result =>
    Except.ok (fromBigEndian result.1, result.2)) = _
  rw [taken, ← fromBigEndian_bigEndian]
  rfl

theorem settles_many (settles : ∀ value ∈ values,
      Settles read (encode value) (Option.guard check value)) :
    Settles (many read values.length) (values.flatMap encode)
      (Option.guard (List.all · check) values) := by
  induction values with
  | nil => exact Reads.pure []
  | cons value values ih =>
    have first := settles value (mem_cons_self ..)
    have others := ih fun other member => settles other (mem_cons_of_mem value member)
    cases passes : check value with
    | false =>
      rw [guard_eq_none_iff.mpr passes] at first
      rw [guard_eq_none_iff.mpr (by rw [all_cons, passes]; rfl)]
      exact Rejects.bind first _ _
    | true =>
      rw [guard_eq_some_iff.mpr ⟨rfl, passes⟩] at first
      have sameCheck : guard (List.all · check) (value :: values) =
          (guard (List.all · check) values).map (value :: ·) := by
        simp only [Option.guard, all_cons, passes, Bool.true_and]
        split <;> rfl
      rw [sameCheck]
      exact Reads.settles first (others.map (value :: ·))

theorem reads_many (reads : ∀ value ∈ values, Reads read (encode value) value) :
    Reads (many read values.length) (values.flatMap encode) values := by
  have settled : Settles (many read values.length) (values.flatMap encode)
      (guard (List.all · fun _ => true) values) := settles_many reads
  rwa [guard_eq_some_iff.mpr ⟨rfl, by simp⟩] at settled

end Reader

end Pam.Foundation
