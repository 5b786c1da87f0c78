import Mathlib.Data.List.TakeWhile

namespace Pam.Runtime.ServerSentEvents

open List

/-- A string as the `u` modifier reads it: its characters, and the bytes that are
part of none. -/
inductive Symbol where
  | char (character : Char)
  | stray (byte : UInt8)
  deriving DecidableEq

abbrev Text := List Symbol

def text (string : String) : Text := string.toList.map .char

def Symbol.isStray : Symbol → Bool
  | .char _ => false
  | .stray _ => true

def Symbol.breaksLine : Symbol → Bool
  | .char character => character ∈ ['\n', '\x0b', '\x0c', '\r', '\u0085', '\u2028', '\u2029']
  | .stray _ => false

def splitLines : Text → List Text
  | [] => [[]]
  | .char '\r' :: .char '\n' :: rest => [] :: splitLines rest
  | symbol :: rest =>
    if symbol.breaksLine then [] :: splitLines rest else (splitLines rest).modifyHead (symbol :: ·)

def hasStray (string : Text) : Bool := string.any Symbol.isStray

/-- `preg_split` at `\R`, which fails on stray bytes. -/
def pregSplit (string : Text) : Option (List Text) :=
  if hasStray string then none else some (splitLines string)

def trimmed (symbol : Symbol) : Bool := symbol ∈ text " \t\n\r\x00\x0b"

def implode (lines : List Text) : Text := intercalate (text "\n") lines

def dataLine (line : Text) : Text := text "data: " ++ line ++ text "\n"

inductive Event (Value : Type) where
  | text (string : Text)
  | json (value : Value)

def Event.payload (jsonEncode : Value → Text) : Event Value → Text
  | .text string => string
  | .json value => jsonEncode value

/-- The concatenation of the chunks, by the payloads of the events. -/
def sse (payloads : List Text) : Text := payloads.flatMap fun payload =>
    ((pregSplit payload).getD [payload]).flatMap dataLine ++ text "\n"

def collect (data : List Text) : List Text → List Text
  | [] => if data = [] then [] else [implode data]
  | [] :: lines => if data = [] then collect [] lines else implode data :: collect [] lines
  | line :: lines =>
    if text "data:" <+: line then collect (data ++ [(line.drop 5).dropWhile trimmed]) lines
    else collect data lines

def serverSentEvents (body : Text) : List Text := collect [] ((pregSplit body).getD [])

def Unbroken (line : Text) : Prop := ∀ symbol ∈ line, symbol.breaksLine = false

variable {line : Text} {lines payloads : List Text}

theorem splitLines_cons (unbroken : symbol.breaksLine = false) :
    splitLines (symbol :: rest) = (splitLines rest).modifyHead (symbol :: ·) := by
  rw [splitLines, if_neg (by simp [unbroken])]
  rintro _ rfl
  cases unbroken

theorem splitLines_line (unbroken : Unbroken line) (rest : Text) :
    splitLines (line ++ .char '\n' :: rest) = line :: splitLines rest := by
  induction line with
  | nil => rfl
  | cons symbol line induction =>
    obtain ⟨first, others⟩ := forall_mem_cons.mp unbroken
    rw [cons_append, splitLines_cons first, induction others, modifyHead_cons]

theorem splitLines_last (unbroken : Unbroken line) : splitLines line = [line] := by
  induction line with
  | nil => rfl
  | cons symbol line induction =>
    obtain ⟨first, others⟩ := forall_mem_cons.mp unbroken
    rw [splitLines_cons first, induction others, modifyHead_cons]

theorem mem_of_mem_splitLines (member : line ∈ splitLines string) :
    ∀ symbol ∈ line, symbol ∈ string ∧ symbol.breaksLine = false := by
  fun_induction splitLines string generalizing line with
  | case1 => simp_all
  | case2 rest induction => grind
  | case3 symbol rest _ _ induction => grind
  | case4 symbol rest _ unbroken induction =>
    cases lines : splitLines rest with
    | nil => simp [lines] at member
    | cons first lines =>
      simp only [lines, modifyHead_cons] at member
      grind

theorem splitLines_ne_nil (string : Text) : splitLines string ≠ [] := by
  fun_induction splitLines string <;> simp_all

theorem unbroken_of_mem (member : line ∈ splitLines string) : Unbroken line :=
  fun symbol inside => (mem_of_mem_splitLines member symbol inside).2

theorem splitLines_implode (nonempty : lines ≠ []) (unbroken : ∀ line ∈ lines, Unbroken line) :
    splitLines (implode lines) = lines := by
  induction lines with
  | nil => exact absurd rfl nonempty
  | cons line lines induction =>
    obtain ⟨first, others⟩ := forall_mem_cons.mp unbroken
    cases lines with
    | nil => simpa [implode] using splitLines_last first
    | cons next lines =>
      have split := splitLines_line first (implode (next :: lines))
      rw [induction (cons_ne_nil _ _) others] at split
      simpa [implode, text] using split

theorem splitLines_dataLines (unbroken : ∀ line ∈ lines, Unbroken line) :
    splitLines (lines.flatMap dataLine ++ rest) =
      lines.map (text "data: " ++ ·) ++ splitLines rest := by
  induction lines with
  | nil => rfl
  | cons line lines induction =>
    obtain ⟨first, others⟩ := forall_mem_cons.mp unbroken
    have plain : Unbroken (text "data: " ++ line) := forall_mem_append.mpr ⟨by decide, first⟩
    have split := splitLines_line plain (lines.flatMap dataLine ++ rest)
    rw [induction others] at split
    simpa [dataLine, text] using split

theorem sse_cons : sse (payload :: payloads) =
    ((pregSplit payload).getD [payload]).flatMap dataLine ++ .char '\n' :: sse payloads := by
  simp [sse, text]

theorem splitLines_sse (valid : ∀ payload ∈ payloads, hasStray payload = false) :
    splitLines (sse payloads) = (payloads.flatMap fun payload =>
      (splitLines payload).map (text "data: " ++ ·) ++ [[]]) ++ [[]] := by
  induction payloads with
  | nil => rfl
  | cons payload payloads induction =>
    obtain ⟨first, others⟩ := forall_mem_cons.mp valid
    have split : pregSplit payload = some (splitLines payload) := if_neg (by simp [first])
    rw [sse_cons, split, Option.getD_some, splitLines_dataLines fun _ => unbroken_of_mem]
    have rest := @splitLines_line [] nofun (sse payloads)
    rw [nil_append, induction others] at rest
    simp [rest]

theorem collect_data : collect data ((text "data: " ++ line) :: rest) =
    collect (data ++ [line.dropWhile trimmed]) rest := if_pos ⟨.char ' ' :: line, rfl⟩

theorem collect_dataLines (nonempty : data ++ lines ≠ []) :
    collect data (lines.map (text "data: " ++ ·) ++ [] :: rest) =
      implode (data ++ lines.map (dropWhile trimmed)) :: collect [] rest := by
  induction lines generalizing data with
  | nil => simp_all [collect]
  | cons line lines induction =>
    rw [map_cons, cons_append, collect_data, induction (by simp)]
    simp

theorem collect_sse : collect [] ((payloads.flatMap fun payload =>
      (splitLines payload).map (text "data: " ++ ·) ++ [[]]) ++ [[]]) =
    payloads.map fun payload => implode ((splitLines payload).map (dropWhile trimmed)) := by
  induction payloads with
  | nil => rfl
  | cons payload payloads induction =>
    rw [flatMap_cons, append_assoc, append_assoc, singleton_append,
      collect_dataLines (splitLines_ne_nil payload), induction]
    rfl

theorem hasStray_dataLine (line : Text) : hasStray (dataLine line) = hasStray line := by
  simp [hasStray, dataLine, text, Symbol.isStray]

theorem hasStray_dataLines (payload : Text) :
    hasStray (((pregSplit payload).getD [payload]).flatMap dataLine) = hasStray payload := by
  cases stray : hasStray payload with
  | true => simpa [pregSplit, stray] using hasStray_dataLine payload
  | false =>
    simp only [pregSplit, stray]
    rw [hasStray, any_flatMap, any_eq_false]
    intro line member
    rw [← hasStray, hasStray_dataLine]
    simp only [hasStray, any_eq_false, any_eq_true, not_exists, not_and] at stray ⊢
    exact fun symbol inside => stray symbol (mem_of_mem_splitLines member symbol inside).1

theorem hasStray_sse : hasStray (sse payloads) = payloads.any hasStray := by
  induction payloads with
  | nil => rfl
  | cons payload payloads induction =>
    rw [sse_cons, any_cons, ← induction, ← hasStray_dataLines payload]
    simp [hasStray, Symbol.isStray]

theorem dropWhile_trimmed : line.dropWhile trimmed = line ↔
    ∀ symbol ∈ line.head?, trimmed symbol = false := by
  cases line <;> simp [dropWhile_eq_self_iff]

theorem implode_trimmed_iff :
    implode ((splitLines payload).map (dropWhile trimmed)) = implode (splitLines payload) ↔
      ∀ line ∈ splitLines payload, ∀ symbol ∈ line.head?, trimmed symbol = false := by
  have nonempty := splitLines_ne_nil payload
  have whole := splitLines_implode nonempty fun _ => unbroken_of_mem
  have cut := @splitLines_implode ((splitLines payload).map (dropWhile trimmed))
    (by simpa using nonempty) (forall_mem_map.mpr fun line member symbol inside =>
      unbroken_of_mem member symbol ((dropWhile_sublist _).subset inside))
  simp only [← dropWhile_trimmed]
  constructor
  · intro same
    rw [same, whole] at cut
    exact map_inj_left.mp (cut.symm.trans (map_id _).symm)
  · intro untrimmed
    rw [map_congr_left untrimmed, map_id']

theorem sse_round_trip_iff (jsonEncode : Value → Text) (events : List (Event Value)) :
    serverSentEvents (sse (events.map (Event.payload jsonEncode))) =
        events.map (implode ∘ splitLines ∘ Event.payload jsonEncode) ↔
      ∀ event ∈ events, hasStray (event.payload jsonEncode) = false ∧
        ∀ line ∈ splitLines (event.payload jsonEncode), ∀ symbol ∈ line.head?,
          trimmed symbol = false := by
  rw [serverSentEvents, pregSplit, hasStray_sse, any_map]
  cases stray : events.any (hasStray ∘ Event.payload jsonEncode) with
  | true =>
    obtain ⟨event, member, found⟩ := any_eq_true.mp stray
    refine iff_of_false (fun same => ?_) fun valid => ?_
    · cases map_eq_nil_iff.mp same.symm
      cases member
    · simp [(valid event member).1] at found
  | false =>
    have valid : ∀ event ∈ events, hasStray (event.payload jsonEncode) = false := by
      simpa using stray
    rw [if_neg Bool.false_ne_true, Option.getD_some, splitLines_sse (forall_mem_map.mpr valid),
      collect_sse, map_map, map_inj_left]
    refine forall₂_congr fun event member => ?_
    simp only [Function.comp_apply, implode_trimmed_iff, valid event member, true_and]

theorem leading_space_lost : ¬ ∀ events : List (Event Empty),
    serverSentEvents (sse (events.map (Event.payload nofun))) =
      events.map (implode ∘ splitLines ∘ Event.payload nofun) := by
  intro kept
  exact absurd (kept [.text (text " a")]) (by decide +kernel)

end Pam.Runtime.ServerSentEvents
