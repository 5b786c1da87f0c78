import Mathlib.Algebra.Order.Ring.Nat
import Mathlib.Data.List.Forall2
import Mathlib.Data.List.Infix
import Pam.Foundation.Codec

namespace Pam.Cluster

open Pam.Foundation List

/-! The pools of a cluster, and the one that the ingress chooses for a path.
Texts are bytes. -/

section Maximum

variable {Item : Type} (key : Item → Nat)

/-- `max_by_key`, which takes the last of the greatest items. -/
def lastMax : List Item → Option Item
  | [] => none
  | item :: items =>
    match lastMax items with
    | none => some item
    | some best => if key best < key item then some item else some best

variable {key}

theorem lastMax_eq_none (missing : lastMax key items = none) : items = [] := by
  cases items with
  | nil => rfl
  | cons item items => grind [lastMax]

theorem lastMax_spec (chosen : lastMax key items = some best) :
    best ∈ items ∧ ∀ item ∈ items, key item ≤ key best := by
  induction items generalizing best with
  | nil => cases chosen
  | cons item items induction =>
    cases later : lastMax key items with
    | none =>
      cases lastMax_eq_none later
      simp_all [lastMax]
    | some found => grind [lastMax]

theorem lastMax_append (member : top ∈ second) (above : ∀ item ∈ first, key item ≤ key top) :
    lastMax key (first ++ second) = lastMax key second := by
  induction first with
  | nil => rfl
  | cons item first induction =>
    rw [forall_mem_cons] at above
    rw [cons_append, lastMax, induction above.2]
    cases chosen : lastMax key second with
    | none => grind [lastMax_eq_none]
    | some best =>
      have least := (lastMax_spec chosen).2 top member
      exact if_neg (by omega)

end Maximum

abbrev Text := List UInt8

structure PoolSpec where
  name : Text
  workers : Nat
  prefixes : List Text

/-- `*` -/
def fallback : Text := [42]

def isNameByte (byte : UInt8) : Bool := (48 ≤ byte && byte ≤ 57) || (65 ≤ byte && byte ≤ 90) ||
    (97 ≤ byte && byte ≤ 122) || byte == 45 || byte == 95

def poolUsage : String := "--pool requires name=workers@prefix[,prefix]"

def parseUsize (text : Text) : Option Nat := parseUnsigned (2 ^ 64) (text.map Char.ofUInt8)

def parsePool (value : Option Text) : Except String PoolSpec :=
  match value.bind (splitOnce 61) with
  | none => .error poolUsage
  | some (name, rest) =>
    match splitOnce 64 rest with
    | none => .error poolUsage
    | some (workers, prefixes) =>
      if name.isEmpty || !name.all isNameByte then
        .error "pool name may only contain letters, numbers, '-' and '_'"
      else
        match parseUsize workers with
        | none => .error "pool workers must be a positive integer"
        | some 0 => .error "pool workers must be a positive integer"
        | some workers =>
          let prefixes := prefixes.splitOn 44
          if prefixes.isEmpty || prefixes.any fun path =>
              path != fallback && path.head? != some 47 then
            .error "pool prefixes must be '*' or absolute paths"
          else .ok ⟨name, workers, prefixes⟩

/-- The checks of `StartOptions::parse`; the sum wraps. -/
def checkPools (ingress : Bool) (pools : List PoolSpec) : Except String Unit :=
  if pools.isEmpty then .ok () else if !ingress then .error "--pool requires --ingress-address"
  else if (pools.filter fun pool => pool.prefixes.contains fallback).length ≠ 1 then
    .error "pool configuration requires exactly one '*' fallback"
  else if 256 < (pools.map PoolSpec.workers).sum % 2 ^ 64 then
    .error "total pool workers cannot exceed 256"
  else .ok ()

structure AcceptedPools (pools : List PoolSpec) : Prop where
  parsed : ∀ pool ∈ pools, ∃ value, parsePool value = .ok pool
  checked : checkPools true pools = .ok ()
  configured : pools ≠ []

abbrev Entry := Nat × Text

abbrev Route := PoolSpec × Nat

def Route.entries (route : Route) : List Entry := route.1.prefixes.map fun path => (route.2, path)

def entriesOf (routes : List Route) : List Entry := routes.flatMap Route.entries

def poolEntries (pools : List PoolSpec) : List Entry := entriesOf pools.zipIdx

def matchesPath (path listed : Text) : Bool :=
  listed == fallback || path == listed || (listed.isPrefixOf path &&
    (listed.getLast? == some 47 || path[listed.length]? == some 47))

def Entry.key (entry : Entry) : Nat := if entry.2 == fallback then 0 else entry.2.length

def chooseRoute (entries : List Entry) (path : Text) : Option Nat := (lastMax Entry.key
    (entries.filter fun entry => matchesPath path entry.2)).map Prod.fst

/-- The pool owns the longest prefix that matches, and `*` counts only if there
is no other. -/
def OwnsLongest (entries : List Entry) (path : Text) (address : Nat) : Prop :=
  ∃ listed, (address, listed) ∈ entries ∧ matchesPath path listed ∧
    ∀ entry ∈ entries, matchesPath path entry.2 → entry.2 ≠ fallback →
      listed ≠ fallback ∧ entry.2.length ≤ listed.length

def Reordered (routes others : List Route) : Prop :=
  ∃ sorted, routes.Perm sorted ∧ List.Forall₂ (fun route other =>
    route.2 = other.2 ∧ route.1.prefixes.Perm other.1.prefixes) sorted others

structure RoutesByPrefix (pools : List PoolSpec) : Prop where
  longest : ∀ path, ∃ address, chooseRoute (poolEntries pools) path = some address ∧
      OwnsLongest (poolEntries pools) path address
  unordered : ∀ others path, Reordered pools.zipIdx others →
    chooseRoute (entriesOf others) path = chooseRoute (poolEntries pools) path

def OneOwner (entries : List Entry) : Prop :=
  ∀ first ∈ entries, ∀ second ∈ entries, first.2 = second.2 → first.1 = second.1

theorem absolute_of_parsed (parsed : parsePool value = .ok pool) :
    ∀ path ∈ pool.prefixes, path = fallback ∨ path.head? = some 47 := by
  simp only [parsePool] at parsed
  split at parsed
  · cases parsed
  split at parsed
  · cases parsed
  split at parsed
  · cases parsed
  split at parsed
  · cases parsed
  · cases parsed
  split at parsed
  · cases parsed
  next absolute =>
  cases parsed
  intro path member
  simp only [Bool.or_eq_true, any_eq_true, Bool.and_eq_true, bne_iff_ne,
    not_or, not_exists, not_and, not_not] at absolute
  by_cases same : path = fallback
  · exact .inl same
  · exact .inr (absolute.2 path member same)

theorem AcceptedPools.absolute (accepted : AcceptedPools pools) :
    ∀ entry ∈ poolEntries pools, entry.2 = fallback ∨ entry.2.head? = some 47 := by
  intro entry member
  simp only [poolEntries, entriesOf, Route.entries, mem_flatMap, mem_map] at member
  obtain ⟨⟨pool, address⟩, listed, path, isPrefix, rfl⟩ := member
  obtain ⟨value, parsed⟩ := accepted.parsed pool (fst_mem_of_mem_zipIdx listed)
  exact absolute_of_parsed parsed path isPrefix

theorem AcceptedPools.falls_back (accepted : AcceptedPools pools) :
    ∃ address, (address, fallback) ∈ poolEntries pools := by
  have single : (pools.filter fun pool => pool.prefixes.contains fallback).length = 1 := by
    by_contra other
    have checked := accepted.checked
    rw [checkPools, if_neg (by simpa using accepted.configured), if_pos other] at checked
    cases checked
  obtain ⟨pool, isPool⟩ := length_eq_one_iff.mp single
  obtain ⟨member, lists⟩ := mem_filter.mp (isPool ▸ mem_singleton_self pool)
  obtain ⟨address, small, rfl⟩ := getElem_of_mem member
  refine ⟨address, ?_⟩
  simp only [poolEntries, entriesOf, Route.entries, mem_flatMap, mem_map]
  exact ⟨(_, address), mk_mem_zipIdx_iff_getElem?.mpr
    (getElem?_eq_getElem small), _, by simpa using lists, rfl⟩

variable {entries : List Entry}

theorem prefix_of_matches (matched : matchesPath path listed)
    (named : listed ≠ fallback) : listed <+: path := by
  simp only [matchesPath, Bool.or_eq_true, Bool.and_eq_true, beq_iff_eq, named,
    false_or, isPrefixOf_iff_prefix] at matched
  rcases matched with rfl | ⟨isPrefix, _⟩
  · exact prefix_rfl
  · exact isPrefix

theorem Reordered.entries_perm (reordered : Reordered routes others) :
    (entriesOf routes).Perm (entriesOf others) := by
  obtain ⟨sorted, moved, pairs⟩ := reordered
  refine (moved.flatMap_right Route.entries).trans ?_
  clear moved
  induction pairs with
  | nil => exact List.Perm.refl _
  | cons same _ induction =>
    refine List.Perm.append ?_ induction
    rw [Route.entries, same.1]
    exact same.2.map _

section Entries

variable (absolute : ∀ entry ∈ entries, entry.2 = fallback ∨ entry.2.head? = some 47)
include absolute

theorem key_named (member : entry ∈ entries) (named : entry.2 ≠ fallback) :
    entry.key = entry.2.length ∧ 0 < entry.2.length := by
  refine ⟨if_neg (by simpa using named), ?_⟩
  rcases absolute entry member with same | slash
  · exact absurd same named
  · exact length_pos_iff.mpr fun isNil => by simp [isNil] at slash

theorem ownsLongest_of_chosen (chosen : lastMax Entry.key
      (entries.filter fun entry => matchesPath path entry.2) = some best) :
    OwnsLongest entries path best.1 := by
  obtain ⟨member, greatest⟩ := lastMax_spec chosen
  obtain ⟨listed, isMatch⟩ := mem_filter.mp member
  refine ⟨best.2, listed, isMatch, ?_⟩
  intro entry other matched named
  have below := greatest entry (mem_filter.mpr ⟨other, matched⟩)
  obtain ⟨length, positive⟩ := key_named absolute other named
  by_cases same : best.2 = fallback
  · have zero : best.key = 0 := if_pos (by simpa using same)
    omega
  · rw [length, (key_named absolute listed same).1] at below
    exact ⟨same, below⟩

theorem eq_of_key (isFirst : first ∈ entries)
    (isSecond : second ∈ entries) (matchesFirst : matchesPath path first.2)
    (matchesSecond : matchesPath path second.2)
    (same : first.key = second.key) : first.2 = second.2 := by
  by_cases named : first.2 = fallback <;> by_cases other : second.2 = fallback
  · exact named.trans other.symm
  · have zero : first.key = 0 := if_pos (by simpa using named)
    have := key_named absolute isSecond other
    omega
  · have zero : second.key = 0 := if_pos (by simpa using other)
    have := key_named absolute isFirst named
    omega
  have lengths := (key_named absolute isFirst named).1.symm.trans
    (same.trans (key_named absolute isSecond other).1)
  exact (prefix_of_prefix_length_le (prefix_of_matches matchesFirst named)
    (prefix_of_matches matchesSecond other) lengths.le).eq_of_length lengths

theorem key_le_of_matches (member : entry ∈ entries) (matched : matchesPath path entry.2) :
    entry.key ≤ Entry.key (address, path) := by
  by_cases named : entry.2 = fallback
  · have zero : entry.key = 0 := if_pos (by simpa using named)
    omega
  have isPrefix := prefix_of_matches matched named
  have other : path ≠ fallback := by
    rintro rfl
    have slash := (absolute entry member).resolve_left named
    cases shape : entry.2 with
    | nil => simp [shape] at slash
    | cons byte rest => simp_all [fallback]
  rw [(key_named absolute member named).1, Entry.key, if_neg (by simpa using other)]
  exact isPrefix.length_le

/-- Of the pools with one prefix, the one listed last is chosen. -/
theorem chooseRoute_last (within : ∀ entry ∈ entriesOf routes, entry ∈ entries)
    (listed : path ∈ route.1.prefixes) :
    chooseRoute (entriesOf (routes ++ [route])) path = some route.2 := by
  have top : (route.2, path) ∈ (entriesOf [route]).filter fun entry => matchesPath path entry.2 :=
    mem_filter.mpr ⟨by simpa [entriesOf, Route.entries] using listed, by simp [matchesPath]⟩
  have whole : entriesOf (routes ++ [route]) =
      entriesOf routes ++ entriesOf [route] := flatMap_append
  rw [chooseRoute, whole, filter_append, lastMax_append top]
  · cases chosen : lastMax Entry.key ((entriesOf [route]).filter
        fun entry => matchesPath path entry.2) with
    | none =>
      rw [lastMax_eq_none chosen] at top
      cases top
    | some best =>
      have member := (mem_filter.mp (lastMax_spec chosen).1).1
      simp only [entriesOf, Route.entries, flatMap_singleton, mem_map] at member
      obtain ⟨_, _, rfl⟩ := member
      rfl
  · intro entry member
    obtain ⟨isEntry, matched⟩ := mem_filter.mp member
    exact key_le_of_matches absolute (within entry isEntry) matched

theorem unordered_of_oneOwner (single : OneOwner entries) (reordered : entries.Perm others) :
    chooseRoute others path = chooseRoute entries path := by
  have matching := reordered.filter fun entry => matchesPath path entry.2
  unfold chooseRoute
  cases chosen : lastMax Entry.key (entries.filter fun entry => matchesPath path entry.2) with
  | none =>
    rw [lastMax_eq_none chosen] at matching
    rw [← matching.nil_eq]
    rfl
  | some best =>
    obtain ⟨member, greatest⟩ := lastMax_spec chosen
    cases again : lastMax Entry.key (others.filter fun entry => matchesPath path entry.2) with
    | none =>
      rw [lastMax_eq_none again] at matching
      rw [matching.eq_nil] at member
      cases member
    | some other =>
      obtain ⟨isOther, least⟩ := lastMax_spec again
      have back := matching.mem_iff.mpr isOther
      have same := Nat.le_antisymm (greatest other back) (least best (matching.mem_iff.mp member))
      obtain ⟨listed, matched⟩ := mem_filter.mp member
      obtain ⟨listedOther, matchedOther⟩ := mem_filter.mp back
      exact congrArg some (single _ listedOther _ listed (eq_of_key absolute
        listedOther listed matchedOther matched same))

end Entries

theorem pools_route_by_prefix_iff (pools : List PoolSpec) (accepted : AcceptedPools pools) :
    RoutesByPrefix pools ↔ OneOwner (poolEntries pools) := by
  constructor
  · intro routes first isFirst second isSecond same
    have last (entry : Entry) (isEntry : entry ∈ poolEntries pools) :
        chooseRoute (poolEntries pools) entry.2 = some entry.1 := by
      obtain ⟨route, isRoute, listed⟩ := mem_flatMap.mp isEntry
      obtain ⟨path, isPrefix, rfl⟩ := mem_map.mp listed
      obtain ⟨before, after, split⟩ := append_of_mem isRoute
      have moved : pools.zipIdx.Perm (before ++ after ++ [route]) := by
        rw [split]
        exact perm_middle.trans (perm_append_singleton _ _).symm
      rw [← routes.unordered _ path ⟨_, moved, forall₂_same.mpr fun _ _ => ⟨rfl, List.Perm.refl _⟩⟩]
      refine chooseRoute_last accepted.absolute ?_ isPrefix
      intro entry member
      rw [poolEntries, split]
      simp only [entriesOf, flatMap_append, flatMap_cons, mem_append] at member ⊢
      tauto
    have one := last first isFirst
    rw [same, last second isSecond] at one
    exact (Option.some.inj one).symm
  · intro single
    refine ⟨fun path => ?_, fun others path reordered =>
      unordered_of_oneOwner accepted.absolute single reordered.entries_perm⟩
    obtain ⟨address, falls⟩ := accepted.falls_back
    cases chosen : lastMax Entry.key
        ((poolEntries pools).filter fun entry => matchesPath path entry.2) with
    | none =>
      have matched : (address, fallback) ∈ (poolEntries pools).filter
          fun entry => matchesPath path entry.2 := mem_filter.mpr ⟨falls, by simp [matchesPath]⟩
      rw [lastMax_eq_none chosen] at matched
      cases matched
    | some best => exact ⟨best.1, by rw [chooseRoute, chosen]; rfl,
        ownsLongest_of_chosen accepted.absolute chosen⟩

/-- `--pool a=1@*,/a` and `--pool b=2@/` with a letter. -/
def twoPools (letter : UInt8) : List PoolSpec :=
  [⟨[97], 1, [fallback, [47, 97]]⟩, ⟨[98], 2, [[47, letter]]⟩]

theorem twoPools_accepted (known : letter = 97 ∨ letter = 98) :
    AcceptedPools (twoPools letter) where
  parsed := by
    refine forall_mem_cons.mpr ⟨⟨some [97, 61, 49, 64, 42, 44, 47, 97],
      rfl⟩, forall_mem_singleton.mpr ⟨some [98, 61, 50, 64, 47, letter], ?_⟩⟩
    rcases known with rfl | rfl <;> rfl
  checked := by rcases known with rfl | rfl <;> rfl
  configured := nofun

theorem separate_pools_route : RoutesByPrefix (twoPools 98) :=
  (pools_route_by_prefix_iff _ (twoPools_accepted (.inr rfl))).mpr
    (by unfold OneOwner; decide)

theorem shared_prefix_routes_by_order :
    AcceptedPools (twoPools 97) ∧ ¬ RoutesByPrefix (twoPools 97) := by
  refine ⟨twoPools_accepted (.inl rfl), fun routes => ?_⟩
  have swapped : Reordered (twoPools 97).zipIdx (twoPools 97).zipIdx.reverse :=
    ⟨_, (reverse_perm _).symm, forall₂_same.mpr fun _ _ => ⟨rfl, List.Perm.refl _⟩⟩
  exact absurd (routes.unordered _ [47, 97] swapped) (by decide)

end Pam.Cluster
