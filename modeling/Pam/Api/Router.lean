import Mathlib.Data.List.Dedup
import Mathlib.Data.List.DropRight
import Mathlib.Data.List.Sort
import Pam.Protocol.StreamHead

namespace Pam.Api

open Foundation Protocol List AList

structure Route (Pattern Handler : Type) where
  method : PhpString
  path : PhpString
  handler : Handler
  pattern : Pattern
  parameterNames : List PhpString
  upper : strtoupper method = method
  short : method.length ≤ 32

/-- What registrations and constraints leave: a static route stands under its
own method. -/
structure Router (Pattern Handler : Type) where
  staticRoutes : Table PhpString (Table PhpString (Route Pattern Handler))
  dynamicRoutes : List (Route Pattern Handler)
  keyed : staticRoutes.lookup path = some methods → methods.lookup method = some route →
    route.method = method

inductive RoutingResult (Pattern Handler : Type) where
  | notFound
  | methodNotAllowed (allowedMethods : List PhpString)
  | found (route : Route Pattern Handler) (parameters : List (PhpString × PhpString))

def getMethod : PhpString := asciiBytes "GET"

def headMethod : PhpString := asciiBytes "HEAD"

def optionsMethod : PhpString := asciiBytes "OPTIONS"

variable {Pattern Handler : Type}

def normalizeStaticPath (path : PhpString) : PhpString :=
  if path = [0x2F] then [0x2F] else path.rdropWhile (· = 0x2F)

def Router.static (router : Router Pattern Handler) (path : PhpString) :
    Table PhpString (Route Pattern Handler) :=
  (router.staticRoutes.lookup (normalizeStaticPath path)).getD ∅

def Router.staticRoute (router : Router Pattern Handler) (path method : PhpString) :
    Option (Route Pattern Handler) :=
  ((router.static path).lookup method).or
    (if method = headMethod then (router.static path).lookup getMethod else none)

def refusal (allowed : List PhpString) : RoutingResult Pattern Handler :=
  if allowed = [] then .notFound
  else
    let allowed := if getMethod ∈ allowed then allowed ++ [headMethod] else allowed
    .methodNotAllowed ((allowed ++ [optionsMethod]).dedup.insertionSort (· ≤ ·))

def Route.Answers (method : PhpString) (route : Route Pattern Handler) : Prop :=
  route.method = method ∨ method = headMethod ∧ route.method = getMethod

instance (method : PhpString) (route : Route Pattern Handler) : Decidable (route.Answers method) :=
  inferInstanceAs (Decidable (_ ∨ _))

variable (pregMatch : Pattern → PhpString → Option (PhpString → Option PhpString))
  (rawurldecode : PhpString → PhpString)

def matchDynamic (method path : PhpString) (allowed : List PhpString) :
    List (Route Pattern Handler) → RoutingResult Pattern Handler
  | [] => refusal allowed
  | route :: routes =>
    match pregMatch route.pattern path with
    | none => matchDynamic method path allowed routes
    | some captures =>
      if route.Answers method then .found route
        (route.parameterNames.map fun name => (name, rawurldecode ((captures name).getD [])))
      else matchDynamic method path (allowed ++ [route.method]) routes

def Router.match (router : Router Pattern Handler) (method path : PhpString) :
    RoutingResult Pattern Handler :=
  if 32 < method.length ∨ 2048 < path.length then .notFound
  else
    let method := strtoupper method
    match router.staticRoute path method with
    | some route => .found route []
    | none => matchDynamic pregMatch rawurldecode method path (router.static path).keys
      router.dynamicRoutes

variable (router : Router Pattern Handler) (path : PhpString)

def Router.dynamic : List (Route Pattern Handler) :=
  router.dynamicRoutes.filter fun route => (pregMatch route.pattern path).isSome

def Router.offered : List PhpString :=
  (router.static path).keys ++ (router.dynamic pregMatch path).map Route.method

def Router.chosen (method : PhpString) : Option (Route Pattern Handler) :=
  (router.staticRoute path method).or ((router.dynamic pregMatch path).find? (·.Answers method))

theorem matchDynamic_cases {routes : List (Route Pattern Handler)} (allowed : List PhpString) :
    let matching := routes.filter fun route => (pregMatch route.pattern path).isSome
    (∃ route parameters, matching.find? (·.Answers method) = some route ∧
      matchDynamic pregMatch rawurldecode method path allowed routes = .found route parameters) ∨
    matching.find? (·.Answers method) = none ∧
      matchDynamic pregMatch rawurldecode method path allowed routes =
        refusal (allowed ++ matching.map Route.method) := by
  induction routes generalizing allowed with
  | nil => simp [matchDynamic]
  | cons route routes induction =>
    cases captured : pregMatch route.pattern path with
    | none => simpa [matchDynamic, captured] using induction allowed
    | some captures =>
      by_cases answers : route.Answers method
      · simp [matchDynamic, captured, answers]
      · simpa [matchDynamic, captured, answers] using induction (allowed ++ [route.method])

variable {router path}

theorem Router.match_cases (upper : strtoupper method = method)
    (short : method.length ≤ 32) (shortPath : path.length ≤ 2048) :
    (∃ route parameters, router.chosen pregMatch path method = some route ∧
        router.match pregMatch rawurldecode method path = .found route parameters) ∨
      router.chosen pregMatch path method = none ∧ router.match pregMatch rawurldecode method path =
          refusal (router.offered pregMatch path) := by
  have sizes : ¬ (32 < method.length ∨ 2048 < path.length) := by omega
  simp only [Router.match, sizes, upper, chosen]
  cases router.staticRoute path method with
  | some route => exact .inl ⟨route, [], rfl, rfl⟩
  | none => exact matchDynamic_cases pregMatch rawurldecode path _

theorem Router.chosen_ne_none_iff : router.chosen pregMatch path method ≠ none ↔
    method ∈ router.offered pregMatch path ∨
      method = headMethod ∧ getMethod ∈ router.offered pregMatch path := by
  simp only [chosen, offered, AList.mem_keys, Route.Answers, staticRoute, ne_eq,
    Option.or_eq_none_iff, lookup_eq_none, ite_eq_right_iff]
  grind

theorem Router.static_method (found : (router.static path).lookup method = some route) :
    route.method = method := by
  unfold Router.static at found
  cases listed : router.staticRoutes.lookup (normalizeStaticPath path) with
  | none => simp [listed] at found
  | some methods =>
    rw [listed] at found
    exact router.keyed listed found

theorem Router.offered_method (offered : method ∈ router.offered pregMatch path) :
    strtoupper method = method ∧ method.length ≤ 32 := by
  rcases mem_append.mp offered with static | dynamic
  · obtain ⟨route, found⟩ := Option.isSome_iff_exists.mp (lookup_isSome.mpr static)
    exact router.static_method found ▸ ⟨route.upper, route.short⟩
  · obtain ⟨route, -, rfl⟩ := mem_map.mp dynamic
    exact ⟨route.upper, route.short⟩

theorem refusal_eq
    (refused : (refusal offered : RoutingResult Pattern Handler) = .methodNotAllowed allowed) :
    allowed.Pairwise (· < ·) ∧ ∀ method, method ∈ allowed ↔
      method = optionsMethod ∨ method ∈ offered ∨ method = headMethod ∧ getMethod ∈ offered := by
  unfold refusal at refused
  split at refused
  · cases refused
  cases refused
  constructor
  · exact ((pairwise_insertionSort (· ≤ ·) _).and ((perm_insertionSort _ _).nodup_iff.mpr
      (nodup_dedup _))).imp fun order => List.not_le.mp fun above =>
        order.2 (List.le_antisymm order.1 above)
  · intro method
    split <;> simp_all <;> grind

theorem router_verdicts_agree (router : Router Pattern Handler) (path : PhpString) :
    (∀ first second : PhpString, strtoupper first = first → first.length ≤ 32 →
      strtoupper second = second → second.length ≤ 32 →
      router.match pregMatch rawurldecode first path = .notFound →
        router.match pregMatch rawurldecode second path = .notFound) ∧
    ∀ (method : PhpString) (allowed : List PhpString), strtoupper method = method →
      method.length ≤ 32 →
      router.match pregMatch rawurldecode method path = .methodNotAllowed allowed →
      allowed.Pairwise (· < ·) ∧ (method ∈ allowed → method = optionsMethod) ∧
        ∀ other, other ∈ allowed ↔ other = optionsMethod ∨ strtoupper other = other ∧
          other.length ≤ 32 ∧ ∃ route parameters,
            router.match pregMatch rawurldecode other path = .found route parameters := by
  by_cases shortPath : path.length ≤ 2048
  swap
  · have long : ∀ method, router.match pregMatch rawurldecode method path = .notFound := by
      intro method
      simp [Router.match, Nat.lt_of_not_le shortPath]
    simp [long]
  have decided {method : PhpString} (upper : strtoupper method = method)
      (short : method.length ≤ 32) :=
    router.match_cases pregMatch rawurldecode upper short shortPath
  constructor
  · intro first second upper short upper' short' missing
    by_cases empty : router.offered pregMatch path = []
    · have unserved : router.chosen pregMatch path second = none := by
        by_contra served
        simpa [empty] using (Router.chosen_ne_none_iff pregMatch).mp served
      grind [refusal]
    · grind [refusal]
  · intro method allowed upper short refused
    have verdict := (decided upper short).resolve_left (by grind)
    obtain ⟨sorted, member⟩ := refusal_eq (verdict.2.symm.trans refused)
    simp only [← Router.chosen_ne_none_iff pregMatch] at member
    refine ⟨sorted, by grind, ?_⟩
    intro other
    have valid : router.chosen pregMatch path other ≠ none →
        strtoupper other = other ∧ other.length ≤ 32 := by
      rw [router.chosen_ne_none_iff]
      rintro (offered | ⟨rfl, -⟩)
      · exact router.offered_method pregMatch offered
      · decide +kernel
    grind

theorem explicit_head_iff (router : Router Pattern Handler) (path : PhpString) :
    (headMethod ∈ router.offered pregMatch path →
      ∃ route parameters, router.match pregMatch rawurldecode headMethod path =
        .found route parameters ∧ route.method = headMethod) ↔
    (headMethod ∈ router.offered pregMatch path → path.length ≤ 2048 ∧
      (headMethod ∈ router.static path ∨ getMethod ∉ router.static path ∧
        ∃ route, (router.dynamic pregMatch path).find? (·.Answers headMethod) = some route ∧
          route.method = headMethod)) := by
  refine imp_congr_right fun _ => ?_
  by_cases shortPath : path.length ≤ 2048
  swap
  · simp [Router.match, Nat.lt_of_not_le shortPath]
  have decided := router.match_cases pregMatch rawurldecode
    (show strtoupper headMethod = headMethod by decide +kernel) (by decide +kernel) shortPath
  have chosen : (∃ route parameters, router.match pregMatch rawurldecode headMethod path =
      .found route parameters ∧ route.method = headMethod) ↔
        ∃ route ∈ router.chosen pregMatch path headMethod, route.method = headMethod := by
    grind [refusal]
  have other : getMethod ≠ headMethod := by decide +kernel
  rw [chosen]
  simp only [shortPath, Router.chosen, Router.staticRoute, ← lookup_isSome]
  cases head : (router.static path).lookup headMethod with
  | some route => simp [router.static_method head]
  | none =>
    cases get : (router.static path).lookup getMethod with
    | some route => simp [router.static_method get, other]
    | none => simp

/-- `GET /{id}` is registered before `HEAD /{id}`. -/
theorem get_shadows_head : ¬ ∀ (router : Router Unit Unit) (path : PhpString),
    headMethod ∈ router.offered (fun _ _ => some fun _ => none) path →
      ∃ route parameters, router.match (fun _ _ => some fun _ => none) id headMethod path =
        .found route parameters ∧ route.method = headMethod := by
  intro explicit
  let path := asciiBytes "/\x7bid\x7d"
  obtain ⟨route, parameters, found, head⟩ := explicit ⟨∅,
    [⟨getMethod, path, (), (), [asciiBytes "id"], by decide +kernel, by decide +kernel⟩,
      ⟨headMethod, path, (), (), [asciiBytes "id"], by decide +kernel, by decide +kernel⟩],
    by simp⟩ (asciiBytes "/a") (by decide +kernel)
  cases found
  exact absurd head (by decide +kernel)

end Pam.Api
