import Pam.Foundation.Codec

namespace Pam.Foundation

open Option

/-! JSON values, apart from the text they are written in. A string is the bytes
of its UTF-8 text, a float the bits of a double. -/

inductive Json where
  | null
  | bool (value : Bool)
  | integer (value : Int)
  | float (bits : UInt64)
  | string (text : List UInt8)
  | array (items : List Json)
  | object (fields : List (List UInt8 × Json))

theorem mapM_eq_some_iff {read : Source → Option Target} : items.mapM read = some results ↔
      List.Forall₂ (fun item result => read item = some result) items results := by
  induction items generalizing results with
  | nil =>
    rw [List.forall₂_nil_left_iff]
    exact ⟨fun same => (some.inj same).symm, fun same => same ▸ rfl⟩
  | cons item items induction =>
    rw [List.mapM_cons, List.forall₂_cons_left_iff]
    constructor
    · intro all
      obtain ⟨first, found, all⟩ := bind_eq_some_iff.mp all
      obtain ⟨rest, others, all⟩ := bind_eq_some_iff.mp all
      exact ⟨first, rest, found, induction.mp others, (some.inj all).symm⟩
    · intro ⟨first, rest, found, others, same⟩
      rw [found, induction.mpr others, same]
      rfl

namespace Json

/- How deep arrays and objects are nested. -/
mutual

def depth : Json → Nat
  | .array items => itemsDepth items + 1
  | .object fields => fieldsDepth fields + 1
  | _ => 0

def itemsDepth : List Json → Nat
  | [] => 0
  | item :: items => max item.depth (itemsDepth items)

def fieldsDepth : List (List UInt8 × Json) → Nat
  | [] => 0
  | (_, value) :: fields => max value.depth (fieldsDepth fields)

end

theorem itemsDepth_snd (fields : List (List UInt8 × Json)) :
    itemsDepth (fields.map Prod.snd) = fieldsDepth fields := by
  induction fields with
  | nil => rfl
  | cons field fields induction => simp [itemsDepth, fieldsDepth, induction]

theorem itemsDepth_le_iff : itemsDepth items ≤ limit ↔ ∀ item ∈ items, item.depth ≤ limit := by
  induction items with
  | nil => simp [itemsDepth]
  | cons item items induction => simp [itemsDepth, induction]

/-! Readers, each `none` where the value is of another type or out of range. -/

def text? : Json → Option (List UInt8)
  | .string text => some text
  | _ => none

def bool? : Json → Option Bool
  | .bool value => some value
  | _ => none

def integer? (least greatest : Int) : Json → Option Int
  | .integer value => if least ≤ value ∧ value ≤ greatest then some value else none
  | _ => none

def natural? (greatest : Nat) (json : Json) : Option Nat := (json.integer? 0 greatest).map Int.toNat

def items? {Value : Type} (read : Json → Option Value) : Json → Option (List Value)
  | .array items => items.mapM read
  | _ => none

def fields? : Json → Option (List (List UInt8 × Json))
  | .object fields => some fields
  | _ => none

def field? (fields : List (List UInt8 × Json)) (name : List UInt8) : Option Json :=
  (fields.find? fun field => field.1 == name).map Prod.snd

/- The value as it is read back, where numbers written from a double are read by
`float`. -/
mutual

def reread (float : UInt64 → Json) : Json → Json
  | .float bits => float bits
  | .array items => .array (rereadItems float items)
  | .object fields => .object (rereadFields float fields)
  | json => json

def rereadItems (float : UInt64 → Json) : List Json → List Json
  | [] => []
  | item :: items => item.reread float :: rereadItems float items

def rereadFields (float : UInt64 → Json) :
    List (List UInt8 × Json) → List (List UInt8 × Json)
  | [] => []
  | (name, value) :: fields => (name, value.reread float) :: rereadFields float fields

end

theorem rereadItems_eq (float : UInt64 → Json) (items : List Json) :
    rereadItems float items = items.map (reread float) := by
  induction items with
  | nil => rfl
  | cons item items induction => rw [rereadItems, induction, List.map_cons]

theorem text?_reread {float : UInt64 → Json} (number : ∀ bits, (float bits).text? = none)
    (json : Json) :
    (json.reread float).text? = json.text? := by
  cases json <;> first | rfl | exact number _

variable {Value : Type} (read : Json → Option Value)

def required (field : Option Json) : Option Value := field.bind read

def orDefault (default : Value) : Option Json → Option Value
  | none => some default
  | some json => read json

def optional : Option Json → Option (Option Value)
  | none => some none
  | some .null => some none
  | some json => (read json).map some

theorem natural?_ofNat (fits : value ≤ greatest) :
    natural? greatest (.integer value) = some value := by
  simp [natural?, integer?, fits]

end Json

/-- The text of values and a reader of it, which refuses what is nested `limit`
deep and may read a double as an integer. -/
structure JsonFormat (limit : Nat) where
  text : Json → List UInt8
  parse : List UInt8 → Option Json
  float : UInt64 → Json
  text?_float : ∀ bits, (float bits).text? = none
  parse_text : ∀ json, parse (text json) =
    if json.depth < limit then some (json.reread float) else none
  opening : ∀ json, ∃ byte rest, text json = byte :: rest ∧
    byte ∈ [0x7B, 0x5B, 0x22, 0x2D, 0x30, 0x31, 0x32, 0x33, 0x34, 0x35, 0x36, 0x37, 0x38,
      0x39, 0x74, 0x66, 0x6E]

end Pam.Foundation
