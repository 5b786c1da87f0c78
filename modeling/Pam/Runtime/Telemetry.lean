import Pam.Protocol.StreamHead

namespace Pam.Runtime

open Pam.Foundation Pam.Protocol

/-! `Telemetry::log`, which the cleanup of requests reports failures to: it throws
where a text is not UTF-8. -/

inductive LogValue where
  | text (bytes : PhpString)
  | number (value : Int)

namespace LogValue

def toPhp : LogValue → PhpValue
  | .text bytes => .string bytes
  | .number value => .integer value

def asString : LogValue → PhpString
  | .text bytes => bytes
  | .number value => if value < 0 then 0x2D :: decimal value.natAbs else decimal value.natAbs

def isText : LogValue → Bool
  | .text bytes => validUtf8 bytes
  | .number _ => true

end LogValue

structure LogAmbient where
  timestamp : Int
  requestId : PhpValue
  traceparent : PhpValue
  worker : PhpString

def longestMatch (replace : List (PhpString × PhpString)) (text : PhpString) :
    Option (PhpString × PhpString) :=
  (replace.filter fun pair => !pair.1.isEmpty && pair.1.isPrefixOf text).foldl (fun longest pair =>
      match longest with
      | none => some pair
      | some found => if found.1.length < pair.1.length then some pair else some found) none

/-- `strtr` with an array of replacements. The first argument counts the bytes of
a pattern that are still to be passed. -/
def strtrFrom (replace : List (PhpString × PhpString)) : Nat → PhpString → PhpString
  | _, [] => []
  | passed + 1, _ :: rest => strtrFrom replace passed rest
  | 0, byte :: rest =>
    match longestMatch replace (byte :: rest) with
    | none => byte :: strtrFrom replace 0 rest
    | some (pattern, replacement) => replacement ++ strtrFrom replace (pattern.length - 1) rest

def placeholders (context : List (PhpString × LogValue)) : List (PhpString × PhpString) :=
  context.map fun entry => (0x7B :: (entry.1 ++ [0x7D]), entry.2.asString)

def logRecord (ambient : LogAmbient) (level message : PhpString)
    (context : List (PhpString × LogValue)) : PhpValue :=
  .array [(asciiBytes "timestamp", .integer ambient.timestamp),
      (asciiBytes "level", .string (strtolower level)),
      (asciiBytes "message", .string (strtrFrom (placeholders context) 0 message)),
      (asciiBytes "context", .array (context.map fun entry => (entry.1, entry.2.toPhp))),
      (asciiBytes "requestId", ambient.requestId), (asciiBytes "traceparent", ambient.traceparent),
      (asciiBytes "worker", .string ambient.worker)]

/-- `log`: what is written, unless it throws a `JsonException`. -/
def log (ambient : LogAmbient) (level message : PhpString)
    (context : List (PhpString × LogValue)) : Option Json :=
  jsonEncode (logRecord ambient level message context)

structure LogAmbient.Encodable (ambient : LogAmbient) : Prop where
  requestId : ambient.requestId.encodable = true
  traceparent : ambient.traceparent.encodable = true
  worker : validUtf8 ambient.worker = true

theorem longestMatch_none (noMatch : ∀ pair ∈ replace, ¬ pair.1.isPrefixOf text) :
    longestMatch replace text = none := by
  have empty : (replace.filter fun pair => !pair.1.isEmpty && pair.1.isPrefixOf text) = [] := by
    rw [List.filter_eq_nil_iff]
    intro pair member both
    rw [Bool.and_eq_true] at both
    exact noMatch pair member both.2
  rw [longestMatch, empty]
  rfl

variable (context : List (PhpString × LogValue))

theorem strtrFrom_placeholders (plain : 0x7B ∉ message) :
    strtrFrom (placeholders context) 0 message = message := by
  induction message with
  | nil => rfl
  | cons byte rest induction =>
    have noMatch : ∀ pair ∈ placeholders context, ¬ pair.1.isPrefixOf (byte :: rest) := by
      intro pair member isPrefix
      obtain ⟨entry, _, rfl⟩ := List.mem_map.mp member
      rw [List.isPrefixOf, Bool.and_eq_true, beq_iff_eq] at isPrefix
      exact plain (isPrefix.1 ▸ List.mem_cons_self)
    rw [strtrFrom, longestMatch_none noMatch]
    rw [induction fun member => plain (List.mem_cons_of_mem _ member)]

theorem encodableEntries_context :
    encodableEntries (context.map fun entry => (entry.1, entry.2.toPhp)) =
      context.all fun entry => validUtf8 entry.1 && entry.2.isText := by
  induction context with
  | nil => rfl
  | cons entry rest induction =>
    rw [List.map_cons, encodableEntries, induction]
    obtain ⟨key, value⟩ := entry
    cases value <;> rfl

theorem log_isSome_iff {ambient : LogAmbient} {level message : PhpString}
    {context : List (PhpString × LogValue)} (levelText : validUtf8 (strtolower level) = true)
    (messageText : validUtf8 message = true) (plain : 0x7B ∉ message) :
    (log ambient level message context).isSome = true ↔ ambient.Encodable ∧
        ∀ entry ∈ context, validUtf8 entry.1 = true ∧ entry.2.isText = true := by
  have names : validUtf8 (asciiBytes "timestamp") = true ∧ validUtf8 (asciiBytes "level") = true ∧
      validUtf8 (asciiBytes "message") = true ∧ validUtf8 (asciiBytes "context") = true ∧
      validUtf8 (asciiBytes "requestId") = true ∧ validUtf8 (asciiBytes "traceparent") = true ∧
      validUtf8 (asciiBytes "worker") = true := by
    decide +kernel
  obtain ⟨timestamp, isLevel, isMessage, isContext, requestId, traceparent, worker⟩ := names
  rw [log, jsonEncode_isSome, logRecord, strtrFrom_placeholders context plain]
  simp only [PhpValue.encodable, encodableEntries, encodableEntries_context,
    timestamp, isLevel, isMessage, isContext, requestId, traceparent, worker,
    levelText, messageText, Bool.true_and, Bool.and_true, Bool.and_eq_true, List.all_eq_true]
  constructor
  · rintro ⟨all, request, trace, isWorker⟩
    exact ⟨⟨request, trace, isWorker⟩, all⟩
  · rintro ⟨encodable, all⟩
    exact ⟨all, encodable.requestId, encodable.traceparent, encodable.worker⟩

end Pam.Runtime
