import Pam.Protocol.PhpValue

namespace Pam.Runtime

open Pam.Protocol Option

/-! Replies of RESP2 and the reader of the Redis client, which takes a reply
apart in small pieces, each as soon as the buffer has it. -/

inductive Resp where
  | simple (line : PhpString)
  | error (line : PhpString)
  | integer (value : Int)
  | nullBulk
  | bulk (bytes : PhpString)
  | nullArray
  | array (items : List Resp)

inductive RedisValue where
  | null
  | integer (value : Int)
  | string (bytes : PhpString)
  | list (values : List RedisValue)

def crlf : PhpString := [0x0D, 0x0A]

def decimalInteger : Int → PhpString
  | .ofNat number => decimal number
  | .negSucc number => 0x2D :: decimal (number + 1)

/-- `-1` -/
def minusOne : PhpString := [0x2D, 0x31]

mutual

def Resp.encode : Resp → PhpString
  | .simple line => 0x2B :: (line ++ crlf)
  | .error line => 0x2D :: (line ++ crlf)
  | .integer value => 0x3A :: (decimalInteger value ++ crlf)
  | .nullBulk => 0x24 :: (minusOne ++ crlf)
  | .bulk bytes => 0x24 :: (decimal bytes.length ++ crlf ++ (bytes ++ crlf))
  | .nullArray => 0x2A :: (minusOne ++ crlf)
  | .array items => 0x2A :: (decimal items.length ++ crlf ++ encodeAll items)

def Resp.encodeAll : List Resp → PhpString
  | [] => []
  | reply :: replies => reply.encode ++ encodeAll replies

end

mutual

def Resp.decode : Resp → RedisValue
  | .simple line => .string line
  | .error line => .string line
  | .integer value => .integer value
  | .nullBulk => .null
  | .bulk bytes => .string bytes
  | .nullArray => .null
  | .array items => .list (decodeAll items)

def Resp.decodeAll : List Resp → List RedisValue
  | [] => []
  | reply :: replies => reply.decode :: decodeAll replies

end

theorem Resp.decodeAll_eq (replies : List Resp) : decodeAll replies = replies.map decode := by
  induction replies with
  | nil => rfl
  | cons reply replies induction => rw [decodeAll, List.map_cons, induction]

/-- The replies of the protocol: lines have no line break, integers have 64
bits, and so have lengths. -/
inductive Resp.WellFormed : Resp → Prop where
  | simple {line : PhpString} (oneLine : 0x0D ∉ line ∧ 0x0A ∉ line) : WellFormed (.simple line)
  | error {line : PhpString} (oneLine : 0x0D ∉ line ∧ 0x0A ∉ line) : WellFormed (.error line)
  | integer {value : Int} (fits : -2 ^ 63 ≤ value ∧ value < 2 ^ 63) : WellFormed (.integer value)
  | nullBulk : WellFormed .nullBulk
  | bulk {bytes : PhpString} (fits : bytes.length < 2 ^ 63) : WellFormed (.bulk bytes)
  | nullArray : WellFormed .nullArray
  | array {items : List Resp} (fits : items.length < 2 ^ 63)
      (all : ∀ item ∈ items, WellFormed item) : WellFormed (.array items)

/-- What the reader waits for: the data of a `readExact` or a `readLine`. -/
inductive Need where
  | type
  | simple
  | error
  | integer
  | bulkLength
  | bulk (length : Nat)
  | bulkEnd (value : PhpString)
  | arrayCount

def lineEnd : PhpString → Option Nat
  | 0x0D :: 0x0A :: _ => some 0
  | _ :: rest => (lineEnd rest).map (· + 1)
  | [] => none

def Need.exactly : Need → Option Nat
  | .type => some 1
  | .bulk length => some length
  | .bulkEnd _ => some 2
  | _ => none

/-- The data and the number of bytes taken from the buffer, `none` where the
buffer has to be filled first. -/
def Need.take (need : Need) (buffer : PhpString) : Option (PhpString × Nat) :=
  match need.exactly with
  | some length =>
    if buffer.length < length then none else some (buffer.take length, length)
  | none => (lineEnd buffer).map fun length => (buffer.take length, length + 2)

def isNumeral (digits : PhpString) : Bool := digits == [0x30] || canonicalDigits digits

def parseInteger : PhpString → Option Int
  | 0x2D :: digits =>
    if isNumeral digits then some (max (-(decimalValue digits : Int)) (-2 ^ 63)) else none
  | digits =>
    if isNumeral digits then some (min (decimalValue digits : Int) (2 ^ 63 - 1)) else none

inductive RedisException where
  | text (message : String)
  | reply (line : PhpString)

/-- How the reader goes on with the data it has waited for. -/
inductive Reading where
  | needs (need : Need)
  | value (value : RedisValue)
  | items (count : Nat)
  | threw (exception : RedisException)

def readInteger (line : PhpString) (next : Int → Reading) : Reading := match parseInteger line with
  | none => .threw (.text "Redis returned an invalid integer.")
  | some value => next value

def Need.handle (maxResponseBytes : Nat) (data : PhpString) : Need → Reading
  | .type =>
    match data with
    | [0x2B] => .needs .simple
    | [0x2D] => .needs .error
    | [0x3A] => .needs .integer
    | [0x24] => .needs .bulkLength
    | [0x2A] => .needs .arrayCount
    | _ => .threw (.text "Redis returned an unknown RESP prefix.")
  | .simple => .value (.string data)
  | .error => .threw (.reply data)
  | .integer => readInteger data fun value => .value (.integer value)
  | .bulkLength => readInteger data fun length =>
      if length == -1 then .value .null else if length < 0 || length > maxResponseBytes then
        .threw (.text "Redis bulk response exceeds the configured limit.")
      else .needs (.bulk length.toNat)
  | .bulk _ => .needs (.bulkEnd data)
  | .bulkEnd value =>
    if data != crlf then .threw (.text "Redis bulk response terminator is invalid.")
    else .value (.string value)
  | .arrayCount => readInteger data fun count =>
      if count == -1 then .value .null else if count < 0 || count > 100000 then
        .threw (.text "Redis array response exceeds the configured limit.")
      else if count == 0 then .value (.list [])
      else .items count.toNat

/-- The check at the end of `readLine` comes first. -/
def Need.accept (maxResponseBytes : Nat) (need : Need) (data : PhpString) : Reading :=
  if need.exactly.isNone && data.length > maxResponseBytes then
    .threw (.text "Redis line response exceeds the configured limit.")
  else need.handle maxResponseBytes data

theorem isNumeral_decimal (number : Nat) : isNumeral (decimal number) = true := by
  cases number with
  | zero => decide
  | succ number => rw [isNumeral, canonicalDigits_decimal (Nat.succ_pos number), Bool.or_true]

theorem isDigit_of_isNumeral (numeral : isNumeral digits = true) :
    ∀ byte ∈ digits, isDigit byte := by
  rw [isNumeral, Bool.or_eq_true, beq_iff_eq] at numeral
  rcases numeral with rfl | canonical
  · intro byte member
    rw [List.mem_singleton.mp member]
    decide
  · rw [canonicalDigits, Bool.and_eq_true, List.all_eq_true] at canonical
    exact canonical.1

theorem parseInteger_of_isNumeral (numeral : isNumeral digits = true) :
    parseInteger digits = some (min (decimalValue digits : Int) (2 ^ 63 - 1)) := by
  rw [parseInteger]
  · rw [if_pos numeral]
  intro rest same
  have sign := isDigit_of_isNumeral numeral 0x2D (same ▸ List.mem_cons_self)
  exact absurd sign (by decide)

theorem parseInteger_decimal (fits : number < 2 ^ 63) :
    parseInteger (decimal number) = some (number : Int) := by
  rw [parseInteger_of_isNumeral (isNumeral_decimal number), decimalValue_decimal]
  congr 1
  omega

theorem parseInteger_decimalInteger (fits : -2 ^ 63 ≤ value ∧ value < 2 ^ 63) :
    parseInteger (decimalInteger value) = some value := by
  cases value with
  | ofNat number =>
    rw [Int.ofNat_eq_natCast] at fits
    exact parseInteger_decimal (by omega)
  | negSucc number =>
    rw [decimalInteger, parseInteger, if_pos (isNumeral_decimal _), decimalValue_decimal]
    congr 1
    omega

theorem cr_notMem_of_isNumeral (numeral : isNumeral digits = true) : 0x0D ∉ digits := by
  intro member
  exact absurd (isDigit_of_isNumeral numeral 0x0D member) (by decide)

theorem cr_notMem_decimalInteger (value : Int) : 0x0D ∉ decimalInteger value := by
  cases value with
  | ofNat number => exact cr_notMem_of_isNumeral (isNumeral_decimal number)
  | negSucc number =>
    rw [decimalInteger, List.mem_cons, not_or]
    exact ⟨by decide, cr_notMem_of_isNumeral (isNumeral_decimal _)⟩

theorem lineEnd_append (oneLine : 0x0D ∉ line) (rest : PhpString) :
    lineEnd (line ++ (crlf ++ rest)) = some line.length := by
  induction line with
  | nil => rfl
  | cons byte line induction =>
    rw [List.mem_cons, not_or] at oneLine
    rw [List.cons_append, lineEnd, induction oneLine.2]
    · rfl
    · intro more first
      exact absurd first.symm oneLine.1

theorem lineEnd_of_prefix (found : lineEnd buffer = some length) (starts : buffer <+: stream) :
    lineEnd stream = some length ∧ length + 2 ≤ buffer.length := by
  obtain ⟨rest, rfl⟩ := starts
  fun_induction lineEnd buffer generalizing length with
  | case1 more =>
    cases found
    refine ⟨rfl, ?_⟩
    simp
  | case2 byte buffer other induction =>
    obtain ⟨before, there, rfl⟩ := map_eq_some_iff.mp found
    obtain ⟨later, fits⟩ := induction there
    refine ⟨?_, ?_⟩
    · rw [List.cons_append, lineEnd, later]
      · rfl
      intro more isCr isLf
      cases buffer with
      | nil => cases there
      | cons second buffer =>
        rw [List.cons_append, List.cons.injEq] at isLf
        exact other buffer isCr (by rw [isLf.1])
    · rw [List.length_cons]
      omega
  | case3 => cases found

variable {need : Need}

theorem Need.take_line (isLine : need.exactly = none) {line after : PhpString}
    (oneLine : 0x0D ∉ line) (starts : buffer <+: line ++ (crlf ++ after))
    (taken : need.take buffer = some (data, count)) :
    data = line ∧ buffer.take count = line ++ crlf := by
  rw [Need.take, isLine] at taken
  obtain ⟨length, found, same⟩ := map_eq_some_iff.mp taken
  obtain ⟨rfl, rfl⟩ := Prod.mk.inj same
  obtain ⟨there, fits⟩ := lineEnd_of_prefix found starts
  rw [lineEnd_append oneLine] at there
  cases there
  have pieces : ∀ size ≤ buffer.length, buffer.take size = (line ++ (crlf ++ after)).take size := by
    intro size within
    obtain ⟨rest, whole⟩ := starts
    rw [← whole, List.take_append_of_le_length within]
  refine ⟨?_, ?_⟩
  · rw [pieces _ (by omega), List.take_left]
  rw [pieces _ fits, ← List.append_assoc, List.take_left' (by
    rw [List.length_append]
    rfl)]

theorem Need.take_exactly {piece after : PhpString} (isExact : need.exactly = some piece.length)
    (starts : buffer <+: piece ++ after) (taken : need.take buffer = some (data, count)) :
    data = piece ∧ buffer.take count = piece := by
  rw [Need.take, isExact] at taken
  dsimp only at taken
  split at taken
  · cases taken
  next enough =>
  obtain ⟨rfl, rfl⟩ := Prod.mk.inj (some.inj taken)
  obtain ⟨rest, whole⟩ := starts
  have same : buffer.take piece.length = piece := by
    rw [← List.take_append_of_le_length (Nat.not_lt.mp enough), whole, List.take_left]
  exact ⟨same, same⟩

/-- The reader is in the middle of a reply, of which these bytes are left. -/
inductive Partway : Need → Resp → PhpString → Prop where
  | type (reply : Resp) : Partway .type reply reply.encode
  | simple (line : PhpString) : Partway .simple (.simple line) (line ++ crlf)
  | error (line : PhpString) : Partway .error (.error line) (line ++ crlf)
  | integer (value : Int) : Partway .integer (.integer value) (decimalInteger value ++ crlf)
  | nullBulk : Partway .bulkLength .nullBulk (minusOne ++ crlf)
  | bulkLength (bytes : PhpString) : Partway .bulkLength (.bulk bytes)
        (decimal bytes.length ++ crlf ++ (bytes ++ crlf))
  | bulk (bytes : PhpString) : Partway (.bulk bytes.length) (.bulk bytes) (bytes ++ crlf)
  | bulkEnd (bytes : PhpString) : Partway (.bulkEnd bytes) (.bulk bytes) crlf
  | nullArray : Partway .arrayCount .nullArray (minusOne ++ crlf)
  | arrayCount (items : List Resp) : Partway .arrayCount (.array items)
        (decimal items.length ++ crlf ++ Resp.encodeAll items)

def Reading.Fits : Reading → Resp → PhpString → Prop
  | .needs need, reply, left => Partway need reply left
  | .value decoded, reply, left => decoded = reply.decode ∧ left = []
  | .items count, reply, left =>
    ∃ items, reply = .array items ∧ count = items.length ∧ 0 < count ∧ left = Resp.encodeAll items
  | .threw _, _, _ => True

theorem fits_accept (fits : (need.handle maxResponseBytes data).Fits reply left) :
    (need.accept maxResponseBytes data).Fits reply left := by
  rw [Need.accept]
  split
  · trivial
  · exact fits

theorem fits_type (encoded : reply.encode = byte :: rest) (maxResponseBytes : Nat) :
    (Need.type.handle maxResponseBytes [byte]).Fits reply rest := by
  cases reply <;> (cases encoded)
  · exact .simple _
  · exact .error _
  · exact .integer _
  · exact .nullBulk
  · exact .bulkLength _
  · exact .nullArray
  · exact .arrayCount _

theorem fits_bulkLength (small : bytes.length < 2 ^ 63) (maxResponseBytes : Nat) :
    (Need.bulkLength.handle maxResponseBytes (decimal bytes.length)).Fits
      (.bulk bytes) (bytes ++ crlf) := by
  rw [Need.handle, readInteger, parseInteger_decimal small]
  dsimp only
  rw [if_neg (by simp)]
  split
  · trivial
  · exact .bulk bytes

theorem fits_arrayCount (small : items.length < 2 ^ 63) (maxResponseBytes : Nat) :
    (Need.arrayCount.handle maxResponseBytes (decimal items.length)).Fits
      (.array items) (Resp.encodeAll items) := by
  rw [Need.handle, readInteger, parseInteger_decimal small]
  dsimp only
  rw [if_neg (by simp)]
  split
  · trivial
  cases items with
  | nil => exact ⟨rfl, rfl⟩
  | cons item items => exact ⟨item :: items, rfl, rfl, Nat.succ_pos _, rfl⟩

theorem Partway.accept (partway : Partway need reply remaining) (wellFormed : reply.WellFormed)
    (starts : buffer <+: remaining ++ more)
    (taken : need.take buffer = some (data, count)) (maxResponseBytes : Nat) :
    ∃ left, remaining = buffer.take count ++ left ∧
      (need.accept maxResponseBytes data).Fits reply left := by
  -- A line, and what follows it in the reply.
  have ofLine : ∀ {line after : PhpString}, need.exactly = none →
      0x0D ∉ line → remaining = line ++ crlf ++ after →
      (need.handle maxResponseBytes line).Fits reply after →
      ∃ left, remaining = buffer.take count ++ left ∧
        (need.accept maxResponseBytes data).Fits reply left := by
    intro line after isLine oneLine whole fits
    rw [whole, List.append_assoc, List.append_assoc] at starts
    obtain ⟨rfl, front⟩ := Need.take_line isLine oneLine starts taken
    exact ⟨after, by rw [whole, front], fits_accept fits⟩
  have ofPiece : ∀ {piece after : PhpString},
      need.exactly = some piece.length → remaining = piece ++ after →
      (need.handle maxResponseBytes piece).Fits reply after →
      ∃ left, remaining = buffer.take count ++ left ∧
        (need.accept maxResponseBytes data).Fits reply left := by
    intro piece after isExact whole fits
    rw [whole, List.append_assoc] at starts
    obtain ⟨rfl, front⟩ := Need.take_exactly isExact starts taken
    exact ⟨after, by rw [whole, front], fits_accept fits⟩
  cases partway with
  | type =>
    obtain ⟨byte, rest, encoded⟩ : ∃ byte rest, reply.encode = byte :: rest := by
      cases reply <;> (exact ⟨_, _, rfl⟩)
    have oneByte : Need.type.exactly = some [byte].length := rfl
    exact ofPiece oneByte encoded (fits_type encoded maxResponseBytes)
  | simple line =>
    cases wellFormed with
    | simple oneLine => exact ofLine rfl oneLine.1 (List.append_nil _).symm ⟨rfl, rfl⟩
  | error line =>
    cases wellFormed with
    | error oneLine => exact ofLine rfl oneLine.1 (List.append_nil _).symm trivial
  | integer value =>
    cases wellFormed with
    | integer fits =>
      apply ofLine rfl (cr_notMem_decimalInteger value) (List.append_nil _).symm
      rw [Need.handle, readInteger, parseInteger_decimalInteger fits]
      exact ⟨rfl, rfl⟩
  | nullBulk | nullArray => exact ofLine rfl (by decide) (List.append_nil _).symm ⟨rfl, rfl⟩
  | bulkLength bytes =>
    cases wellFormed with
    | bulk fits =>
      exact ofLine rfl (cr_notMem_of_isNumeral (isNumeral_decimal _)) rfl
        (fits_bulkLength fits maxResponseBytes)
  | bulk bytes => exact ofPiece rfl rfl (.bulkEnd bytes)
  | bulkEnd bytes =>
    have twoBytes : (Need.bulkEnd bytes).exactly = some crlf.length := rfl
    exact ofPiece twoBytes (List.append_nil _).symm ⟨rfl, rfl⟩
  | arrayCount items =>
    cases wellFormed with
    | array fits all =>
      exact ofLine rfl (cr_notMem_of_isNumeral (isNumeral_decimal _)) rfl
        (fits_arrayCount fits maxResponseBytes)

end Pam.Runtime
