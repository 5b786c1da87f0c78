import Mathlib.Algebra.Order.BigOperators.Group.List
import Mathlib.Algebra.Order.Ring.Nat
import Mathlib.Data.List.AList

namespace Pam.Foundation

open List AList

universe u v

/-! Finite tables: Mathlib's association lists at a constant value type, with
retention, update and two measures of what a table holds. -/

abbrev Table (Key : Type u) (Value : Type v) := AList fun _ : Key => Value

namespace Table

variable {Key : Type u} {Value : Type v}

def retain (keep : Key → Value → Bool) (table : Table Key Value) : Table Key Value where
  entries := table.entries.filter fun entry => keep entry.1 entry.2
  nodupKeys := table.nodupKeys.sublist List.filter_sublist

def modify [DecidableEq Key] (key : Key) (change : Value → Value)
    (table : Table Key Value) : Table Key Value where
  entries := table.entries.map fun entry =>
    if entry.1 = key then ⟨entry.1, change entry.2⟩ else entry
  nodupKeys := by
    have sameKeys : (table.entries.map fun entry =>
        if entry.1 = key then (⟨entry.1, change entry.2⟩ : (_ : Key) × Value)
        else entry).keys = table.entries.keys := by
      simp only [List.keys, List.map_map]
      apply List.map_congr_left
      intro entry _
      simp only [Function.comp_apply]
      split <;> rfl
    rw [List.NodupKeys, sameKeys]
    exact table.nodupKeys

/-- Assignment to an ordered map: in place where the key is there, at the end
where it is not. -/
def assign [DecidableEq Key] (key : Key) (value : Value)
    (table : Table Key Value) : Table Key Value :=
  if present : key ∈ table then table.modify key fun _ => value else {
    entries := table.entries ++ [⟨key, value⟩]
    nodupKeys := by
      rw [List.NodupKeys, List.keys, List.map_append, List.nodup_append]
      refine ⟨table.nodupKeys, List.nodup_singleton key, ?_⟩
      intro other member new isKey same
      rw [List.map_singleton, List.mem_singleton] at isKey
      subst same isKey
      exact present member }

def size (table : Table Key Value) : Nat := table.entries.length

def weight (measure : Value → Nat) (table : Table Key Value) : Nat :=
  (table.entries.map fun entry => measure entry.2).sum

theorem size_retain_le (table : Table Key Value) :
    (table.retain keep).size ≤ table.size := length_filter_le _ _

variable {table : Table Key Value}

variable (measure : Value → Nat)

theorem weight_le_of_sublist {larger : Table Key Value}
    (sublist : table.entries.Sublist larger.entries) :
    table.weight measure ≤ larger.weight measure :=
  (sublist.map _).sum_le_sum (fun _ _ => Nat.zero_le _)

theorem weight_retain_le : (table.retain keep).weight measure ≤ table.weight measure :=
  weight_le_of_sublist measure filter_sublist

theorem weight_of_size_eq_zero {table : Table Key Value}
    (empty : table.size = 0) : table.weight measure = 0 := by
  rw [size, length_eq_zero_iff] at empty
  simp [weight, empty]

variable [DecidableEq Key]

theorem lookup_retain : (table.retain keep).lookup key = (table.lookup key).filter (keep key) := by
  apply Option.ext
  intro value
  have member : value ∈ (table.retain keep).lookup key ↔
      value ∈ table.lookup key ∧ keep key value = true := by
    rw [mem_lookup_iff, mem_lookup_iff]
    simp [retain]
  simpa [Option.filter_eq_some_iff] using member

theorem lookup_of_lookup_retain (found : (table.retain keep).lookup key = some value) :
    table.lookup key = some value ∧ keep key value = true := by
  rw [lookup_retain] at found
  exact Option.filter_eq_some_iff.mp found

theorem lookup_of_lookup_erase (found : (table.erase erased).lookup key = some value) :
    table.lookup key = some value ∧ key ≠ erased := by
  by_cases same : key = erased
  · subst same
    rw [lookup_erase] at found
    cases found
  · rw [lookup_erase_ne same] at found
    exact ⟨found, same⟩

theorem lookup_of_lookup_insert (lookup : (table.insert inserted value).lookup key = some found) :
    key = inserted ∧ found = value ∨ key ≠ inserted ∧ table.lookup key = some found := by
  by_cases same : key = inserted
  · rw [same, lookup_insert] at lookup
    exact .inl ⟨same, (Option.some.inj lookup).symm⟩
  · rw [lookup_insert_ne same] at lookup
    exact .inr ⟨same, lookup⟩

@[simp] theorem size_modify : (table.modify key change).size = table.size := length_map _

theorem weight_modify {measure : Value → Nat} {change : Value → Value}
    (same : ∀ value, measure (change value) = measure value) :
    (table.modify key change).weight measure = table.weight measure := by
  simp only [weight, modify, map_map]
  congr 1
  apply map_congr_left
  intro entry _
  simp only [Function.comp_apply]
  split
  · exact same entry.2
  · rfl

theorem lookup_modify :
    (table.modify key change).lookup other = if other = key then (table.lookup other).map change
      else table.lookup other := by
  apply Option.ext
  intro value
  change value ∈ (table.modify key change).lookup other ↔ _
  rw [mem_lookup_iff]
  simp only [modify, mem_map]
  constructor
  · rintro ⟨entry, member, same⟩
    have found : table.lookup entry.1 = some entry.2 := mem_lookup_iff.mpr member
    split at same
    next here =>
      cases same
      rw [if_pos here, found]
      rfl
    next away =>
      subst same
      simp [away, found]
  · intro found
    split at found
    next here =>
      subst here
      obtain ⟨before, beforeFound, rfl⟩ := Option.map_eq_some_iff.mp found
      refine ⟨⟨other, before⟩, mem_lookup_iff.mp beforeFound, ?_⟩
      simp
    next away =>
      refine ⟨⟨other, value⟩, mem_lookup_iff.mp found, ?_⟩
      simp [away]

theorem entries_assign (fresh : key ∉ table) (value : Value) :
    (table.assign key value).entries = table.entries ++ [⟨key, value⟩] := by
  rw [assign, dif_neg fresh]

theorem mem_entries_assign (member : entry ∈ (table.assign key value).entries) :
    entry = ⟨key, value⟩ ∨ entry ∈ table.entries := by
  rw [assign] at member
  split at member
  · obtain ⟨before, old, rfl⟩ := mem_map.mp member
    split
    next same =>
      rw [same]
      exact .inl rfl
    · exact .inr old
  · rcases mem_append.mp member with old | new
    · exact .inr old
    · exact .inl (mem_singleton.mp new)

theorem lookup_assign : (table.assign key value).lookup other =
      if other = key then some value else table.lookup other := by
  rw [assign]
  split
  next present =>
    rw [lookup_modify]
    split
    next same =>
      obtain ⟨before, found⟩ := Option.isSome_iff_exists.mp (lookup_isSome.mpr present)
      rw [same, found, Option.map_some]
    · rfl
  next absent =>
  apply Option.ext
  intro found
  rw [← Option.mem_def, mem_lookup_iff]
  simp only [mem_append]
  split
  next same =>
    subst same
    have unheld : (⟨other, found⟩ : (_ : Key) × Value) ∉ table.entries := by
      intro member
      exact absent (mem_keys_of_mem member)
    simp [unheld, eq_comm]
  next away =>
    rw [← mem_lookup_iff]
    simp [away]

theorem foldl_assign :
    table.entries.foldl (fun built entry => built.assign entry.1 entry.2) ∅ = table := by
  have built : ∀ (rest : List ((_ : Key) × Value)) (before : Table Key Value),
      (before.entries ++ rest).NodupKeys →
        (rest.foldl (fun built entry => built.assign entry.1 entry.2)
          before).entries = before.entries ++ rest := by
    intro rest
    induction rest with
    | nil =>
      intro before _
      exact (append_nil _).symm
    | cons entry rest ih =>
      intro before nodup
      have fresh : entry.1 ∉ before := by
        intro present
        rw [List.NodupKeys, List.keys, map_append, nodup_append] at nodup
        exact nodup.2.2 _ present _ (mem_cons_self ..) rfl
      have entries := entries_assign fresh entry.2
      rw [foldl_cons, ih, entries, append_assoc]
      · rfl
      · rw [entries, append_assoc]
        exact nodup
  exact ext (built table.entries ∅ table.nodupKeys)

theorem assign_assign : (table.assign key first).assign key second = table.assign key second := by
  have held : key ∈ table.assign key first := by
    rw [← lookup_isSome, lookup_assign, if_pos rfl]
    rfl
  apply ext
  conv_lhs => rw [assign, dif_pos held]
  by_cases present : key ∈ table
  · rw [assign, dif_pos present, assign, dif_pos present]
    simp only [modify, map_map]
    apply map_congr_left
    intro entry _
    by_cases same : entry.1 = key <;> simp [same]
  · simp only [modify, entries_assign present, map_append, map_cons]
    congr 1
    conv_rhs => rw [← map_id table.entries]
    apply map_congr_left
    intro entry member
    rw [if_neg, id]
    intro same
    exact present (same ▸ mem_keys_of_mem member)

theorem lookup_foldl_write (keep : Value → Bool)
    (writes : ∀ table entry key, (write table entry).lookup key =
      if key = entry.1 ∧ keep entry.2 then some entry.2 else table.lookup key)
    {entries : List ((_ : Key) × Value)} (nodup : entries.NodupKeys)
    (table : Table Key Value) (key : Key) : (entries.foldl write table).lookup key =
      ((entries.dlookup key).filter keep).or (table.lookup key) := by
  induction entries generalizing table with
  | nil => rfl
  | cons entry entries induction =>
    obtain ⟨other, value⟩ := entry
    rw [nodupKeys_cons] at nodup
    rw [foldl_cons, induction nodup.2, writes]
    by_cases same : key = other
    · subst same
      have absent : entries.dlookup key = none := dlookup_eq_none.mpr nodup.1
      rw [absent, dlookup_cons_eq]
      by_cases kept : keep value = true
      · rw [if_pos ⟨rfl, kept⟩, Option.filter_some_pos kept]
        rfl
      rw [if_neg fun both => kept both.2, Option.filter_some_neg (Bool.not_eq_true _ ▸ kept)]
      rfl
    · have other : key ≠ (⟨other, value⟩ : (_ : Key) × Value).1 := same
      rw [dlookup_cons_ne _ _ other, if_neg fun both => same both.1]

theorem lookup_foldl_insert (key : Key) :
    (table.entries.foldl (fun built entry => built.insert entry.1 entry.2)
      (∅ : Table Key Value)).lookup key = table.lookup key := by
  have all := lookup_foldl_write (fun _ => true) (fun (built : Table Key Value) entry other => by
      by_cases same : other = entry.1
      · rw [if_pos ⟨same, rfl⟩, same, lookup_insert]
      · rw [if_neg fun both => same both.1, lookup_insert_ne same]) table.nodupKeys ∅ key
  have every : ∀ found : Option Value, found.filter (fun _ => true) = found := by
    intro found
    cases found <;> rfl
  rw [all, every]
  exact Option.or_none

theorem size_erase_le (table : Table Key Value) (key : Key) : size (table.erase key) ≤ table.size :=
  (kerase_sublist key table.entries).length_le

theorem weight_erase_le : weight measure (table.erase key) ≤ table.weight measure :=
  weight_le_of_sublist measure (kerase_sublist key table.entries)

theorem size_erase_of_mem (member : key ∈ table) : size (table.erase key) + 1 = table.size := by
  have keys : (table.erase key).keys.length + 1 = table.keys.length := by
    rw [keys_erase]
    exact length_erase_add_one member
  simpa [size, AList.keys, List.keys] using keys

theorem size_insert : size (table.insert key value) = size (table.erase key) + 1 := rfl

theorem weight_insert : weight measure (table.insert key value) =
      measure value + weight measure (table.erase key) := rfl

end Table

end Pam.Foundation
